import BackupCenter.Tenants.Schema

/-!
# The effective connection mode of a device

An active subgroup decides first, then the legacy keys in the extra parameters, then the
group.
-/
namespace BackupCenter.Tenants

open BackupCenter.Lib

inductive ConnectionMode where
  | direct
  | vpn
  | jumpHost
  deriving Repr, DecidableEq

def ConnectionMode.text : ConnectionMode → String
  | direct => "direct"
  | vpn => "vpn"
  | jumpHost => "jump_host"

/-- `_normalize_connection_type_value`; no mode stands for the empty string. -/
def normalizeConnectionTypeValue (env : Env) (value : String) : Option ConnectionMode :=
  let raw := env.lower (strip value)
  if raw = "jump" ∨ raw = "jump_host" then some .jumpHost
  else if raw = "vpn" then some .vpn
  else if raw = "direct" then some .direct
  else none

/-- `str(value or "")` -/
def orText : Option JsonValue → String
  | some v => if v.truthy then v.text else ""
  | none => ""

/-- `a or b` -/
def orElse (a b : Option JsonValue) : Option JsonValue :=
  if a.any JsonValue.truthy then a else b

/-- `_truthy` -/
def isTruthy (env : Env) (value : Option JsonValue) : Bool :=
  ["1", "true", "on", "yes", "sim"].contains (env.lower (strip (orText value)))

/-- `_normalized_device_connection_override` -/
def deviceConnectionOverride (env : Env) (subgroup : Option DeviceSubgroup) (extra : Extra) :
    Option ConnectionMode :=
  match (subgroup.filter DeviceSubgroup.isActive).bind fun g =>
      normalizeConnectionTypeValue env g.connectionType with
  | some mode => some mode
  | none =>
    let modern := extra.lookup "connection_subgroup_type"
    let legacy := extra.lookup "subgroup_connection_type"
    let enabled := isTruthy env
      (if (extra.lookup "connection_subgroup_enabled").isSome then
        extra.lookup "connection_subgroup_enabled"
      else extra.lookup "subgroup_connection_enabled")
    (normalizeConnectionTypeValue env (orText (orElse modern legacy))).filter fun _ =>
      enabled || modern.isSome || legacy.isSome

/-- `get_effective_connection_type` -/
def getEffectiveConnectionType (env : Env) (group : Option DeviceGroup)
    (subgroup : Option DeviceSubgroup) (extra : Extra) : Option ConnectionMode :=
  match deviceConnectionOverride env subgroup extra with
  | some mode => some mode
  | none =>
    group.map fun g =>
      match normalizeConnectionTypeValue env (g.connectionType.getD "") with
      | some mode => mode
      | none =>
        -- groups from before the connection type
        if g.usesJumpHost = some true then .jumpHost
        else if g.usesVpn = some true then .vpn
        else .direct

/-- `uses_vpn_tunnel(group)` -/
def groupUsesVpnTunnel (env : Env) (group : DeviceGroup) : Bool :=
  getEffectiveConnectionType env (some group) none [] = some .vpn

/-- `device.group and uses_vpn_tunnel(device.group, device=device)` -/
def deviceUsesVpnTunnel (env : Env) (db : Database) (device : Device) : Bool :=
  (device.groupId.bind db.deviceGroups.find).any fun group =>
    getEffectiveConnectionType env (some group) (device.subgroupId.bind db.deviceSubgroups.find)
      device.extraParameters = some .vpn

end BackupCenter.Tenants
