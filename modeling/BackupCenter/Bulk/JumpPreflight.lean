import BackupCenter.Bulk.Routed
import BackupCenter.JumpHost.Identity
import BackupCenter.Lib.Turns

/-!
# The preflight of the jump hosts

Before a bulk backup the bastions of its devices are probed, those with the most devices first and
only so many of them, and the devices behind a bastion that does not answer are left out. The route
over all devices and the automatic follow-up each have a copy.
-/
namespace BackupCenter.Bulk

open BackupCenter.Lib BackupCenter.Tasks
open BackupCenter.Tenants (ConnectionMode Database Device DeviceGroup)
open BackupCenter.JumpHost (hostPort portOf)

/-! ## Endpoints -/

/-- `(key, host, port)` -/
structure JumpEndpoint where
  key : String
  host : String
  port : Int
  deriving DecidableEq

section Endpoints

variable (env : Tenants.Env) (db : Database)

/-- `_device_jump_endpoint`, if its key is not empty -/
def deviceJumpEndpoint (d : Device) : Option JumpEndpoint :=
  match groupOf db d with
  | none => none
  | some group =>
    if effectiveConnectionType env db d group = some .jumpHost then
      let host := strip (group.jumpHost.getD "")
      let port := portOf group
      some
        { key := if host = "" then "missing:" ++ uuidText group.id else hostPort host port
          host := host
          port := port }
    else none

/-- `_auto_device_jump_endpoint`, the same text -/
def autoDeviceJumpEndpoint (d : Device) : Option JumpEndpoint := deviceJumpEndpoint env db d

/-- The name of a device's group in the summary. -/
def groupLabel (d : Device) : String :=
  let name := strip (((groupOf db d).map DeviceGroup.name).getD "")
  if name = "" then "Sem grupo" else name

end Endpoints

/-! ## Settings and answers -/

/-- `BULK_PREFLIGHT_*`, within the bounds of `_env_int` -/
structure JumpPreflightSettings where
  enabled : Bool := true
  timeoutSeconds : Nat := 3
  skipUnreachable : Bool := true
  maxEndpoints : Nat := 30
  timeoutSeconds_bounds : 1 ≤ timeoutSeconds ∧ timeoutSeconds ≤ 15 := by decide
  maxEndpoints_bounds : 1 ≤ maxEndpoints ∧ maxEndpoints ≤ 500 := by decide

/-- What the preflight reads of a `NetworkPrecheckResult`. -/
structure NetworkPrecheck where
  tcpOk : Bool
  tcpMethod : String

/-- `run_network_precheck(host, port, timeout_seconds)`, without a result where it raises. -/
abbrev RunNetworkPrecheck := String → Int → Nat → Option NetworkPrecheck

structure UnreachableEndpoint where
  endpoint : String
  devices : Nat
  groups : List String
  tcpMethod : String
  deriving DecidableEq

structure JumpPreflightSummary where
  enabled : Bool
  timeoutSeconds : Option Nat := none
  skipUnreachable : Option Bool := none
  checkedEndpoints : Nat := 0
  totalEndpoints : Nat := 0
  probeTruncated : Bool := false
  skippedJumpUnreachable : Nat := 0
  skippedDeviceIds : List DeviceId := []
  unreachableEndpoints : List UnreachableEndpoint := []
  deriving DecidableEq

/-! ## Probing -/

/-- An entry of `endpoint_map`. -/
structure EndpointEntry where
  key : String
  endpoint : String
  host : String
  port : Int
  devices : List Device
  groupNames : List String

/-- The result of a probe. -/
structure ProbeResult where
  tcpOk : Bool
  tcpMethod : String
  deriving DecidableEq

section Probing

variable (db : Database) (endpointOf : Device → Option JumpEndpoint) (S : JumpPreflightSettings)
  (precheck : RunNetworkPrecheck) (devices : List Device)

/-- The devices with their endpoints, where they have one. -/
def jumpDevices : List (JumpEndpoint × Device) :=
  devices.filterMap fun d => (endpointOf d).map (·, d)

/-- The entry of an endpoint; host and port are those of its first device. -/
def endpointEntry (b : String × List (JumpEndpoint × Device)) : EndpointEntry :=
  let host := ((b.2.head?).map (·.1.host)).getD ""
  let port := ((b.2.head?).map (·.1.port)).getD 22
  { key := b.1
    endpoint := if host = "" then "jump_host_sem_config" else hostPort host port
    host := host
    port := port
    devices := b.2.map Prod.snd
    groupNames := b.2.map fun p => groupLabel db p.2 }

/-- `endpoint_map` -/
def endpointMap : List EndpointEntry :=
  (bucketBy (fun p => p.1.key) (jumpDevices endpointOf devices)).map (endpointEntry db)

/-- The entries by the number of their devices, the larger first. -/
def orderedEntries : List EndpointEntry :=
  (endpointMap db endpointOf devices).insertionSort fun a b =>
    b.devices.length ≤ a.devices.length

def probedEntries : List EndpointEntry :=
  (orderedEntries db endpointOf devices).take S.maxEndpoints

/-- The entries beyond the limit. -/
def restEntries : List EndpointEntry :=
  (orderedEntries db endpointOf devices).drop (probedEntries db endpointOf S devices).length

/-- One pass of the probing loop. -/
def probe (e : EndpointEntry) : ProbeResult :=
  let host := strip e.host
  let port := if e.port = 0 then 22 else e.port
  if host = "" then { tcpOk := false, tcpMethod := "missing_jump_host" }
  else
    match precheck host port S.timeoutSeconds with
    | none => { tcpOk := false, tcpMethod := "exception" }
    | some answer =>
      { tcpOk := answer.tcpOk
        tcpMethod := if answer.tcpMethod = "" then "direct" else answer.tcpMethod }

def unreachableEndpoint (e : EndpointEntry) : Option UnreachableEndpoint :=
  let result := probe S precheck e
  if result.tcpOk then none
  else
    some
      { endpoint := e.endpoint
        devices := e.devices.length
        groups := sortedSet e.groupNames
        tcpMethod := result.tcpMethod }

/-- `endpoint_result` -/
def endpointResult : List (String × ProbeResult) :=
  (probedEntries db endpointOf S devices).map (fun e => (e.key, probe S precheck e)) ++
    (restEntries db endpointOf S devices).map
      fun e => (e.key, { tcpOk := true, tcpMethod := "skipped_limit" })

/-- The device is behind an endpoint that failed, and such devices are skipped. -/
def isSkipped (d : Device) : Bool :=
  match endpointOf d with
  | none => false
  | some e =>
    !(((endpointResult db endpointOf S precheck devices).lookup e.key).map
      ProbeResult.tcpOk).getD true && S.skipUnreachable

def skippedDevices : List Device :=
  devices.filter (isSkipped db endpointOf S precheck devices)

def allowedDevices : List Device :=
  devices.filter (!isSkipped db endpointOf S precheck devices ·)

end Probing

section Preflight

variable (env : Tenants.Env) (db : Database) (S : JumpPreflightSettings)
  (precheck : RunNetworkPrecheck) (devices : List Device)

/-- `_bulk_preflight_jump_hosts` -/
def bulkPreflightJumpHosts : List Device × JumpPreflightSummary :=
  let endpointOf := deviceJumpEndpoint env db
  if S.enabled = false then (devices, { enabled := false })
  else if (endpointMap db endpointOf devices).isEmpty then (devices, { enabled := true })
  else
    let probed := probedEntries db endpointOf S devices
    let ordered := orderedEntries db endpointOf devices
    let skipped := skippedDevices db endpointOf S precheck devices
    (allowedDevices db endpointOf S precheck devices,
      { enabled := true
        timeoutSeconds := some S.timeoutSeconds
        skipUnreachable := some S.skipUnreachable
        checkedEndpoints := probed.length
        totalEndpoints := ordered.length
        probeTruncated := decide (probed.length < ordered.length)
        skippedJumpUnreachable := skipped.length
        skippedDeviceIds := skipped.map fun d => uuidText d.id
        unreachableEndpoints := probed.filterMap (unreachableEndpoint S precheck) })

/-- `_auto_bulk_preflight_jump_hosts` -/
def autoBulkPreflightJumpHosts : List Device × JumpPreflightSummary :=
  let endpointOf := autoDeviceJumpEndpoint env db
  if S.enabled = false then (devices, { enabled := false })
  else if (endpointMap db endpointOf devices).isEmpty then (devices, { enabled := true })
  else
    let probed := probedEntries db endpointOf S devices
    let ordered := orderedEntries db endpointOf devices
    let skipped := skippedDevices db endpointOf S precheck devices
    (allowedDevices db endpointOf S precheck devices,
      { enabled := true
        checkedEndpoints := probed.length
        totalEndpoints := ordered.length
        probeTruncated := decide (probed.length < ordered.length)
        skippedJumpUnreachable := skipped.length
        skippedDeviceIds := skipped.map fun d => uuidText d.id
        unreachableEndpoints := probed.filterMap (unreachableEndpoint S precheck) })

/-! ## What the preflight promises -/

/-- The devices behind the endpoint with this key. -/
def devicesBehind (key : String) : Nat :=
  devices.countP fun d => (deviceJumpEndpoint env db d).any (·.key = key)

/-- The endpoint is one of those that are probed. -/
def IsProbed (key : String) : Prop :=
  key ∈ (probedEntries db (deviceJumpEndpoint env db) S devices).map EndpointEntry.key

/-- The endpoint is beyond the limit. -/
def IsBeyond (key : String) : Prop :=
  key ∈ (restEntries db (deviceJumpEndpoint env db) S devices).map EndpointEntry.key

/-- The probe of the endpoint fails: it has no host, the check raises, or TCP does not answer. -/
def ProbeFails (e : JumpEndpoint) : Prop :=
  e.host = "" ∨ ∀ answer, precheck e.host e.port S.timeoutSeconds = some answer →
    answer.tcpOk = false

/-- A device is to be skipped: it is behind a probed endpoint whose probe failed. -/
def ToSkip (d : Device) : Prop :=
  S.enabled = true ∧ S.skipUnreachable = true ∧ ∃ e, deviceJumpEndpoint env db d = some e ∧
    IsProbed env db S devices e.key ∧ ProbeFails S precheck e

structure PreflightLawful (r : List Device × JumpPreflightSummary) : Prop where
  /-- allowed and skipped devices are the input, in its order -/
  split : ∃ skips : Device → Bool, r.1 = devices.filter (!skips ·) ∧
    r.2.skippedDeviceIds = (devices.filter skips).map (fun d => uuidText d.id) ∧
    ∀ d ∈ devices, skips d = true ↔ ToSkip env db S precheck devices d
  counted : r.2.skippedJumpUnreachable = r.2.skippedDeviceIds.length
  limited : ∀ key key', IsBeyond env db S devices key → IsProbed env db S devices key' →
    devicesBehind env db devices key ≤ devicesBehind env db devices key'
  unreachable : S.skipUnreachable = true →
    (r.2.unreachableEndpoints.map UnreachableEndpoint.devices).sum = r.2.skippedDeviceIds.length

end Preflight

/-! ## Endpoints and their keys -/

section Keys

variable {env : Tenants.Env} {db : Database} {d d' : Device} {e e' : JumpEndpoint}

theorem portOf_ne_zero (group : DeviceGroup) : portOf group ≠ 0 := by
  unfold portOf
  split
  · decide
  · split
    · decide
    · assumption

theorem deviceJumpEndpoint_eq_some (h : deviceJumpEndpoint env db d = some e) :
    ∃ group, strip e.host = e.host ∧ e.port = portOf group ∧
      e.key = if e.host = "" then "missing:" ++ uuidText group.id
        else hostPort e.host e.port := by
  unfold deviceJumpEndpoint at h
  split at h
  · cases h
  · next group hgroup =>
    split at h
    · rw [Option.some.injEq] at h
      subst h
      dsimp only
      exact ⟨group, strip_strip _, rfl, rfl⟩
    · cases h

theorem dash_not_mem_digits (n : Nat) : '-' ∉ n.repr.toList := by
  intro hmem
  rw [Nat.toList_repr] at hmem
  have hdigit := Nat.isDigit_of_mem_toDigits (by decide) (by decide) hmem
  cases hdigit

/-- A number has a dash in front at most, and a UUID has four. -/
theorem uuidText_ne_toString (id : Nat) (port : Int) : uuidText id ≠ toString port := by
  intro h
  have hcount := count_dash_uuidText id
  rw [h] at hcount
  cases port with
  | ofNat n =>
    have hnone : (toString (Int.ofNat n)).toList.count '-' = 0 :=
      List.count_eq_zero.mpr (dash_not_mem_digits n)
    omega
  | negSucc n =>
    have hone : (toString (Int.negSucc n)).toList.count '-' = 1 := by
      show ("-" ++ (n + 1).repr).toList.count '-' = 1
      rw [String.toList_append, List.count_append,
        List.count_eq_zero.mpr (dash_not_mem_digits (n + 1))]
      decide
    omega

theorem missing_ne_hostPort (id : Nat) (host : String) (port : Int) :
    "missing:" ++ uuidText id ≠ hostPort host port := by
  intro h
  have hlists : "missing".toList ++ ':' :: (uuidText id).toList =
      host.toList ++ ':' :: (toString port).toList := by
    simpa [hostPort, String.toList_append] using congrArg String.toList h
  have hcolon : ':' ∉ (uuidText id).toList := fun hmem => (uuidText_plain id _ hmem).1 rfl
  obtain ⟨-, hport⟩ := JumpHost.append_cons_inj_of_last hcolon
    (JumpHost.colon_not_mem_toString port) hlists
  exact uuidText_ne_toString id port (String.toList_inj.mp hport)

/-- The key tells the endpoint. -/
theorem endpoint_of_key (h : deviceJumpEndpoint env db d = some e)
    (h' : deviceJumpEndpoint env db d' = some e') (hkey : e.key = e'.key) :
    e.host = e'.host ∧ (e.host ≠ "" → e.port = e'.port) := by
  obtain ⟨group, -, -, hk⟩ := deviceJumpEndpoint_eq_some h
  obtain ⟨group', -, -, hk'⟩ := deviceJumpEndpoint_eq_some h'
  rw [hk, hk'] at hkey
  split at hkey
  · next hhost =>
    split at hkey
    · next hhost' => exact ⟨hhost.trans hhost'.symm, fun h => absurd hhost h⟩
    · exact absurd hkey (missing_ne_hostPort _ _ _)
  · split at hkey
    · exact absurd hkey.symm (missing_ne_hostPort _ _ _)
    · obtain ⟨hhost, hport⟩ := JumpHost.hostPort_inj hkey
      exact ⟨hhost, fun _ => hport⟩

end Keys

/-! ## The entries -/

section Entries

variable {env : Tenants.Env} {db : Database} {S : JumpPreflightSettings}
  {precheck : RunNetworkPrecheck} {devices : List Device} {d : Device} {e : JumpEndpoint}
  {en : EndpointEntry}

theorem mem_jumpDevices {p : JumpEndpoint × Device} {endpointOf : Device → Option JumpEndpoint} :
    p ∈ jumpDevices endpointOf devices ↔ p.2 ∈ devices ∧ endpointOf p.2 = some p.1 := by
  unfold jumpDevices
  rw [List.mem_filterMap]
  constructor
  · rintro ⟨d, hd, hp⟩
    obtain ⟨e, he, rfl⟩ := Option.map_eq_some_iff.mp hp
    exact ⟨hd, he⟩
  · rintro ⟨hd, he⟩
    exact ⟨p.2, hd, by rw [he]; rfl⟩

theorem mem_orderedEntries :
    en ∈ orderedEntries db (deviceJumpEndpoint env db) devices ↔
      ∃ b ∈ bucketBy (fun p => p.1.key) (jumpDevices (deviceJumpEndpoint env db) devices),
        endpointEntry db b = en := by
  unfold orderedEntries endpointMap
  rw [List.mem_insertionSort, List.mem_map]

theorem keys_nodup (env : Tenants.Env) (db : Database) (devices : List Device) :
    ((orderedEntries db (deviceJumpEndpoint env db) devices).map EndpointEntry.key).Nodup := by
  have hbuckets := (bucketsOf_bucketBy (fun p : JumpEndpoint × Device => p.1.key)
    (jumpDevices (deviceJumpEndpoint env db) devices)).nodup
  have hkeys : (endpointMap db (deviceJumpEndpoint env db) devices).map EndpointEntry.key =
      (bucketBy (fun p => p.1.key) (jumpDevices (deviceJumpEndpoint env db) devices)).map
        Prod.fst := by
    unfold endpointMap
    rw [List.map_map]
    rfl
  rw [← hkeys] at hbuckets
  exact ((List.perm_insertionSort _ _).map _).nodup_iff.mpr hbuckets

/-- The devices of an entry are those behind its endpoint. -/
theorem length_devices (h : en ∈ orderedEntries db (deviceJumpEndpoint env db) devices) :
    en.devices.length = devicesBehind env db devices en.key := by
  obtain ⟨b, hb, rfl⟩ := mem_orderedEntries.mp h
  have hcontent := (bucketsOf_bucketBy (fun p : JumpEndpoint × Device => p.1.key)
    (jumpDevices (deviceJumpEndpoint env db) devices)).content b hb
  show (b.2.map Prod.snd).length = devicesBehind env db devices b.1
  rw [List.length_map, hcontent]
  unfold devicesBehind jumpDevices
  clear hcontent hb h
  induction devices with
  | nil => rfl
  | cons d devices ih =>
    rw [List.countP_cons, ← ih]
    cases he : deviceJumpEndpoint env db d with
    | none =>
      rw [List.filterMap_cons_none (by rw [he]; rfl)]
      rfl
    | some e =>
      rw [List.filterMap_cons_some (by rw [he]; rfl), List.filter_cons]
      by_cases hkey : e.key = b.1 <;> simp [hkey]

/-- Every endpoint has an entry with its host and port. -/
theorem exists_entry (hd : d ∈ devices) (he : deviceJumpEndpoint env db d = some e) :
    ∃ en ∈ orderedEntries db (deviceJumpEndpoint env db) devices, en.key = e.key := by
  have hcovers := (bucketsOf_bucketBy (fun p : JumpEndpoint × Device => p.1.key)
    (jumpDevices (deviceJumpEndpoint env db) devices)).covers (e, d)
      (mem_jumpDevices.mpr ⟨hd, he⟩)
  obtain ⟨b, hb, hkey⟩ := List.mem_map.mp hcovers
  exact ⟨endpointEntry db b, mem_orderedEntries.mpr ⟨b, hb, rfl⟩, hkey⟩

theorem entry_endpoint (h : en ∈ orderedEntries db (deviceJumpEndpoint env db) devices)
    (hd : d ∈ devices) (he : deviceJumpEndpoint env db d = some e) (hkey : en.key = e.key) :
    en.host = e.host ∧ (e.host ≠ "" → en.port = e.port) := by
  obtain ⟨b, hb, rfl⟩ := mem_orderedEntries.mp h
  have hcontent := (bucketsOf_bucketBy (fun p : JumpEndpoint × Device => p.1.key)
    (jumpDevices (deviceJumpEndpoint env db) devices)).content b hb
  have hmem : (e, d) ∈ b.2 := by
    rw [hcontent, List.mem_filter, decide_eq_true_eq]
    exact ⟨mem_jumpDevices.mpr ⟨hd, he⟩, hkey.symm⟩
  obtain ⟨first, rest, hb2⟩ := List.exists_cons_of_ne_nil (List.ne_nil_of_mem hmem)
  have hfirst : first ∈ b.2 := by
    rw [hb2]
    exact List.mem_cons_self
  rw [hcontent, List.mem_filter, decide_eq_true_eq] at hfirst
  obtain ⟨hjump, hfirstKey⟩ := hfirst
  have hsame := endpoint_of_key (mem_jumpDevices.mp hjump).2 he (hfirstKey.trans hkey)
  have hhost : (endpointEntry db b).host = first.1.host := by
    unfold endpointEntry
    rw [hb2]
    rfl
  have hport : (endpointEntry db b).port = first.1.port := by
    unfold endpointEntry
    rw [hb2]
    rfl
  rw [hhost, hport]
  exact ⟨hsame.1, fun hne => hsame.2 (by rwa [hsame.1])⟩

/-- Probing an entry probes the endpoint of its devices. -/
theorem probe_fails_iff (h : en ∈ orderedEntries db (deviceJumpEndpoint env db) devices)
    (hd : d ∈ devices) (he : deviceJumpEndpoint env db d = some e) (hkey : en.key = e.key) :
    (probe S precheck en).tcpOk = false ↔ ProbeFails S precheck e := by
  obtain ⟨hhost, hport⟩ := entry_endpoint h hd he hkey
  obtain ⟨group, hstrip, hgroup, -⟩ := deviceJumpEndpoint_eq_some he
  unfold probe ProbeFails
  dsimp only
  rw [hhost, hstrip]
  by_cases hempty : e.host = ""
  · rw [if_pos hempty]
    exact ⟨fun _ => .inl hempty, fun _ => rfl⟩
  · have hzero : en.port ≠ 0 := by
      rw [hport hempty, hgroup]
      exact portOf_ne_zero group
    rw [if_neg hempty, if_neg hzero, hport hempty]
    cases hanswer : precheck e.host e.port S.timeoutSeconds with
    | none => exact ⟨fun _ => .inr nofun, fun _ => rfl⟩
    | some answer =>
      constructor
      · intro hok
        refine .inr fun a ha => ?_
        cases ha
        exact hok
      · intro hfails
        exact (hfails.resolve_left hempty) answer rfl

/-! ## Results -/

theorem lookup_of_mem {β : Type} {l : List (String × β)} {k : String} {v : β}
    (hnodup : (l.map Prod.fst).Nodup) (h : (k, v) ∈ l) : l.lookup k = some v := by
  induction l with
  | nil => cases h
  | cons p l ih =>
    rw [List.map_cons, List.nodup_cons] at hnodup
    rcases List.mem_cons.mp h with rfl | h
    · exact List.lookup_cons_self
    · have hne : (k == p.1) = false := by
        rw [beq_eq_false_iff_ne]
        rintro rfl
        exact hnodup.1 (List.mem_map.mpr ⟨_, h, rfl⟩)
      rw [List.lookup_cons, hne]
      exact ih hnodup.2 h

theorem probed_append_rest :
    probedEntries db (deviceJumpEndpoint env db) S devices ++
        restEntries db (deviceJumpEndpoint env db) S devices =
      orderedEntries db (deviceJumpEndpoint env db) devices := by
  unfold restEntries probedEntries
  rw [List.length_take]
  rcases Nat.le_total S.maxEndpoints
    (orderedEntries db (deviceJumpEndpoint env db) devices).length with hle | hle
  · rw [Nat.min_eq_left hle, List.take_append_drop]
  · rw [Nat.min_eq_right hle, List.drop_length, List.append_nil, List.take_of_length_le hle]

theorem mem_of_probed (h : en ∈ probedEntries db (deviceJumpEndpoint env db) S devices) :
    en ∈ orderedEntries db (deviceJumpEndpoint env db) devices := by
  rw [← probed_append_rest (S := S)]
  exact List.mem_append_left _ h

theorem mem_of_rest (h : en ∈ restEntries db (deviceJumpEndpoint env db) S devices) :
    en ∈ orderedEntries db (deviceJumpEndpoint env db) devices := by
  rw [← probed_append_rest (S := S)]
  exact List.mem_append_right _ h

theorem lookup_endpointResult {result : ProbeResult}
    (h : (en.key, result) ∈ endpointResult db (deviceJumpEndpoint env db) S precheck devices) :
    (endpointResult db (deviceJumpEndpoint env db) S precheck devices).lookup en.key =
      some result := by
  refine lookup_of_mem ?_ h
  have hkeys : (endpointResult db (deviceJumpEndpoint env db) S precheck devices).map Prod.fst =
      (orderedEntries db (deviceJumpEndpoint env db) devices).map EndpointEntry.key := by
    unfold endpointResult
    rw [List.map_append, List.map_map, List.map_map, ← probed_append_rest (S := S),
      List.map_append]
    rfl
  rw [hkeys]
  exact keys_nodup env db devices

/-- What the result of an entry comes from. -/
theorem endpointResult_cases (S : JumpPreflightSettings) (precheck : RunNetworkPrecheck)
    (h : en ∈ orderedEntries db (deviceJumpEndpoint env db) devices) :
    (en ∈ probedEntries db (deviceJumpEndpoint env db) S devices ∧
        (endpointResult db (deviceJumpEndpoint env db) S precheck devices).lookup en.key =
          some (probe S precheck en)) ∨
      (en ∈ restEntries db (deviceJumpEndpoint env db) S devices ∧
        (endpointResult db (deviceJumpEndpoint env db) S precheck devices).lookup en.key =
          some { tcpOk := true, tcpMethod := "skipped_limit" }) := by
  rw [← probed_append_rest (S := S)] at h
  rcases List.mem_append.mp h with h | h
  · exact .inl ⟨h, lookup_endpointResult (List.mem_append_left _ (List.mem_map.mpr ⟨en, h, rfl⟩))⟩
  · exact .inr ⟨h, lookup_endpointResult (List.mem_append_right _ (List.mem_map.mpr ⟨en, h, rfl⟩))⟩

/-- An endpoint is probed or beyond the limit. -/
theorem not_isProbed_of_rest (h : en ∈ restEntries db (deviceJumpEndpoint env db) S devices) :
    ¬ IsProbed env db S devices en.key := by
  intro hprobed
  have hnodup := keys_nodup env db devices
  rw [← probed_append_rest (S := S), List.map_append] at hnodup
  exact List.disjoint_of_nodup_append hnodup hprobed (List.mem_map_of_mem h)

theorem isSkipped_iff (henabled : S.enabled = true) (hd : d ∈ devices) :
    isSkipped db (deviceJumpEndpoint env db) S precheck devices d = true ↔
      ToSkip env db S precheck devices d := by
  unfold isSkipped ToSkip
  cases he : deviceJumpEndpoint env db d with
  | none =>
    constructor
    · exact nofun
    · rintro ⟨-, -, e, he', -⟩
      cases he'
  | some e =>
    dsimp only
    obtain ⟨en, hen, hkey⟩ := exists_entry hd he
    rw [Bool.and_eq_true, Bool.not_eq_true', ← hkey]
    rcases endpointResult_cases S precheck hen with
      ⟨hprobed, hlookup⟩ | ⟨hrest, hlookup⟩
    · rw [hlookup, Option.map_some, Option.getD_some, probe_fails_iff hen hd he hkey]
      constructor
      · rintro ⟨hfails, hskip⟩
        exact ⟨henabled, hskip, e, rfl, List.mem_map.mpr ⟨en, hprobed, hkey⟩, hfails⟩
      · rintro ⟨-, hskip, e', he', -, hfails⟩
        cases he'
        exact ⟨hfails, hskip⟩
    · rw [hlookup, Option.map_some, Option.getD_some]
      constructor
      · rintro ⟨hok, -⟩
        cases hok
      · rintro ⟨-, -, e', he', hprobed, -⟩
        cases he'
        exact absurd (hkey ▸ hprobed) (not_isProbed_of_rest hrest)

/-- The probed endpoints are those with the most devices. -/
theorem devicesBehind_le {key key' : String} (h : IsBeyond env db S devices key)
    (h' : IsProbed env db S devices key') :
    devicesBehind env db devices key ≤ devicesBehind env db devices key' := by
  obtain ⟨en, hen, rfl⟩ := List.mem_map.mp h
  obtain ⟨en', hen', rfl⟩ := List.mem_map.mp h'
  have hsorted : (orderedEntries db (deviceJumpEndpoint env db) devices).Pairwise
      fun a b => b.devices.length ≤ a.devices.length := by
    have : Std.Total fun a b : EndpointEntry => b.devices.length ≤ a.devices.length :=
      ⟨fun a b => Nat.le_total ..⟩
    have : IsTrans EndpointEntry fun a b => b.devices.length ≤ a.devices.length :=
      ⟨fun a b c hab hbc => hbc.trans hab⟩
    exact List.pairwise_insertionSort _ _
  rw [← probed_append_rest (S := S)] at hsorted
  have hle := (List.pairwise_append.mp hsorted).2.2 en' hen' en hen
  rwa [length_devices (mem_of_rest hen), length_devices (mem_of_probed hen')] at hle

/-! ## Counting -/

/-- The endpoint with this key was probed and failed. -/
def hasFailed (env : Tenants.Env) (db : Database) (S : JumpPreflightSettings)
    (precheck : RunNetworkPrecheck) (devices : List Device) (key : String) : Bool :=
  !(((endpointResult db (deviceJumpEndpoint env db) S precheck devices).lookup key).map
    ProbeResult.tcpOk).getD true

theorem devices_unreachable (l : List EndpointEntry) :
    (l.filterMap (unreachableEndpoint S precheck)).map UnreachableEndpoint.devices =
      (l.filter fun en => !(probe S precheck en).tcpOk).map (·.devices.length) := by
  induction l with
  | nil => rfl
  | cons en l ih =>
    cases hok : (probe S precheck en).tcpOk with
    | true =>
      rw [List.filterMap_cons_none (by unfold unreachableEndpoint; simp [hok]), ih]
      simp [hok]
    | false =>
      have hsome : unreachableEndpoint S precheck en = some
          { endpoint := en.endpoint
            devices := en.devices.length
            groups := sortedSet en.groupNames
            tcpMethod := (probe S precheck en).tcpMethod } := by
        unfold unreachableEndpoint
        dsimp only
        rw [hok]
        rfl
      rw [List.filterMap_cons_some hsome, List.map_cons, ih]
      simp [hok]

/-- The failed entries, among all of them. -/
theorem filter_hasFailed :
    (orderedEntries db (deviceJumpEndpoint env db) devices).filter
        (fun en => hasFailed env db S precheck devices en.key) =
      (probedEntries db (deviceJumpEndpoint env db) S devices).filter
        fun en => !(probe S precheck en).tcpOk := by
  have hprobed : ∀ en ∈ probedEntries db (deviceJumpEndpoint env db) S devices,
      hasFailed env db S precheck devices en.key = !(probe S precheck en).tcpOk := by
    intro en hen
    unfold hasFailed
    rcases endpointResult_cases S precheck (mem_of_probed hen) with
      ⟨-, hlookup⟩ | ⟨hrest, -⟩
    · rw [hlookup]
      rfl
    · exact absurd (List.mem_map_of_mem hen) (not_isProbed_of_rest hrest)
  have hrest : ∀ en ∈ restEntries db (deviceJumpEndpoint env db) S devices,
      ¬ hasFailed env db S precheck devices en.key = true := by
    intro en hen
    unfold hasFailed
    rcases endpointResult_cases S precheck (mem_of_rest hen) with
      ⟨hprobed, -⟩ | ⟨-, hlookup⟩
    · exact absurd (List.mem_map_of_mem hprobed) (not_isProbed_of_rest hen)
    · rw [hlookup]
      exact Bool.false_ne_true
  rw [← probed_append_rest (S := S), List.filter_append, List.filter_congr hprobed,
    List.filter_eq_nil_iff.mpr hrest, List.append_nil]

theorem length_filter_jumpDevices (endpointOf : Device → Option JumpEndpoint) (p : String → Bool)
    (devices : List Device) :
    ((jumpDevices endpointOf devices).filter fun q => p q.1.key).length =
      (devices.filter fun d => (endpointOf d).any fun e => p e.key).length := by
  unfold jumpDevices
  induction devices with
  | nil => rfl
  | cons d devices ih =>
    cases he : endpointOf d with
    | none =>
      rw [List.filterMap_cons_none (by rw [he]; rfl), ih, List.filter_cons_of_neg (by simp [he])]
    | some e =>
      rw [List.filterMap_cons_some (by rw [he]; rfl)]
      cases hp : p e.key <;> simp [he, hp, ih]

/-- The devices counted over the failed endpoints are those behind them. -/
theorem sum_unreachable (hskip : S.skipUnreachable = true) :
    (((probedEntries db (deviceJumpEndpoint env db) S devices).filterMap
        (unreachableEndpoint S precheck)).map UnreachableEndpoint.devices).sum =
      (skippedDevices db (deviceJumpEndpoint env db) S precheck devices).length := by
  have hsorted := List.perm_insertionSort
    (fun a b : EndpointEntry => b.devices.length ≤ a.devices.length)
    (endpointMap db (deviceJumpEndpoint env db) devices)
  have hsum := (((hsorted.filter fun en => hasFailed env db S precheck devices en.key).map
    fun en => en.devices.length)).sum_eq
  have hentries : ((endpointMap db (deviceJumpEndpoint env db) devices).filter
      (fun en => hasFailed env db S precheck devices en.key)).map (fun en => en.devices.length) =
      ((bucketBy (fun p => p.1.key) (jumpDevices (deviceJumpEndpoint env db) devices)).filter
        fun b => hasFailed env db S precheck devices b.1).map fun b => b.2.length := by
    unfold endpointMap
    rw [List.filter_map, List.map_map]
    exact List.map_congr_left fun b _ => List.length_map _
  have hskipped : ∀ d, isSkipped db (deviceJumpEndpoint env db) S precheck devices d =
      (deviceJumpEndpoint env db d).any fun e => hasFailed env db S precheck devices e.key := by
    intro d
    unfold isSkipped hasFailed
    cases deviceJumpEndpoint env db d with
    | none => rfl
    | some e => exact (congrArg _ hskip).trans (Bool.and_true _)
  have hbuckets := (flatMap_filter_bucketBy (fun p : JumpEndpoint × Device => p.1.key)
    (hasFailed env db S precheck devices)
    (jumpDevices (deviceJumpEndpoint env db) devices)).length_eq
  rw [List.length_flatMap, length_filter_jumpDevices] at hbuckets
  unfold skippedDevices
  rw [devices_unreachable, ← filter_hasFailed, List.filter_congr fun d _ => hskipped d, ← hbuckets,
    ← hentries]
  exact hsum

end Entries

/-! ## The preflight -/

section Lawful

variable {env : Tenants.Env} {db : Database} {S : JumpPreflightSettings}
  {precheck : RunNetworkPrecheck} {devices : List Device}

/-- Without an endpoint nothing is probed. -/
theorem noEndpoint (h : (endpointMap db (deviceJumpEndpoint env db) devices).isEmpty = true)
    {d : Device} (hd : d ∈ devices) : deviceJumpEndpoint env db d = none := by
  cases he : deviceJumpEndpoint env db d with
  | none => rfl
  | some e =>
    obtain ⟨en, hen, -⟩ := exists_entry hd he
    unfold orderedEntries at hen
    rw [List.mem_insertionSort, List.isEmpty_iff.mp h] at hen
    cases hen

theorem filter_none {α : Type} (l : List α) : l = l.filter (!(fun _ => false) ·) :=
  (List.filter_eq_self.mpr fun _ _ => rfl).symm

theorem preflightLawful (env : Tenants.Env) (db : Database) (S : JumpPreflightSettings)
    (precheck : RunNetworkPrecheck) (devices : List Device) :
    PreflightLawful env db S precheck devices
      (bulkPreflightJumpHosts env db S precheck devices) := by
  unfold bulkPreflightJumpHosts
  dsimp only
  split
  · next hdisabled =>
    refine ⟨⟨fun _ => false, filter_none devices, ?_, fun d _ => ?_⟩, rfl,
      fun key key' => devicesBehind_le, fun _ => rfl⟩
    · rw [List.filter_eq_nil_iff.mpr fun _ _ => Bool.false_ne_true]
      rfl
    · exact ⟨nofun, fun h => absurd (hdisabled.symm.trans h.1) Bool.false_ne_true⟩
  · next henabled =>
    rw [Bool.not_eq_false] at henabled
    split
    · next hempty =>
      refine ⟨⟨fun _ => false, filter_none devices, ?_, fun d hd => ?_⟩, rfl,
        fun key key' => devicesBehind_le, fun _ => rfl⟩
      · rw [List.filter_eq_nil_iff.mpr fun _ _ => Bool.false_ne_true]
        rfl
      · refine ⟨nofun, fun h => ?_⟩
        obtain ⟨-, -, e, he, -⟩ := h
        rw [noEndpoint hempty hd] at he
        cases he
    · refine ⟨⟨isSkipped db (deviceJumpEndpoint env db) S precheck devices, rfl, rfl,
        fun d hd => isSkipped_iff henabled hd⟩, ?_, fun key key' => devicesBehind_le,
        fun hskip => ?_⟩
      · exact (List.length_map _).symm
      · exact (sum_unreachable hskip).trans (List.length_map _).symm

/-- The worker's copy gives the same devices and the same summary but for the settings. -/
theorem autoBulkPreflightJumpHosts_eq (env : Tenants.Env) (db : Database)
    (S : JumpPreflightSettings) (precheck : RunNetworkPrecheck) (devices : List Device) :
    (autoBulkPreflightJumpHosts env db S precheck devices).1 =
        (bulkPreflightJumpHosts env db S precheck devices).1 ∧
      (autoBulkPreflightJumpHosts env db S precheck devices).2 =
        { (bulkPreflightJumpHosts env db S precheck devices).2 with
          timeoutSeconds := none
          skipUnreachable := none } := by
  have hendpoint : autoDeviceJumpEndpoint env db = deviceJumpEndpoint env db := rfl
  unfold autoBulkPreflightJumpHosts bulkPreflightJumpHosts
  dsimp only
  rw [hendpoint]
  split
  · exact ⟨rfl, rfl⟩
  · split
    · exact ⟨rfl, rfl⟩
    · exact ⟨rfl, rfl⟩

/-- For every list of devices, every answer of the probes and all settings. -/
theorem jump_preflight (env : Tenants.Env) (db : Database) (S : JumpPreflightSettings)
    (precheck : RunNetworkPrecheck) (devices : List Device) :
    PreflightLawful env db S precheck devices
        (bulkPreflightJumpHosts env db S precheck devices) ∧
      (autoBulkPreflightJumpHosts env db S precheck devices).1 =
        (bulkPreflightJumpHosts env db S precheck devices).1 ∧
      (autoBulkPreflightJumpHosts env db S precheck devices).2 =
        { (bulkPreflightJumpHosts env db S precheck devices).2 with
          timeoutSeconds := none
          skipUnreachable := none } :=
  ⟨preflightLawful env db S precheck devices,
    autoBulkPreflightJumpHosts_eq env db S precheck devices⟩

end Lawful

/-! ## A bastion without a host, beyond the limit -/

def backboneGroup : DeviceGroup where
  id := 1
  tenantId := 1
  name := "Backbone"
  slug := "backboneGroup"
  connectionType := some "jump_host"
  usesJumpHost := some true
  jumpHost := some "10.0.0.1"

/-- A group whose bastion has not been configured yet. -/
def pendingGroup : DeviceGroup where
  id := 2
  tenantId := 1
  name := "Filial"
  slug := "filial"
  connectionType := some "jump_host"
  usesJumpHost := some true

def routerOf (id : Nat) (group : DeviceGroup) : Device where
  id := id
  tenantId := 1
  groupId := some group.id
  name := "router"
  ipAddress := "10.0.0.2"
  username := "backup"
  passwordEncrypted := ""

def pendingRouter : Device := routerOf 5 pendingGroup

def pendingDevices : List Device :=
  [routerOf 3 backboneGroup, routerOf 4 backboneGroup, pendingRouter]

def pendingDb : Database where
  devices := ⟨pendingDevices, by decide⟩
  deviceGroups := ⟨[backboneGroup, pendingGroup], by decide⟩

/-- The limit leaves one bastion to probe, that of the larger group. -/
def pendingSettings : JumpPreflightSettings where
  maxEndpoints := 1

def pendingPreflight : List Device × JumpPreflightSummary :=
  bulkPreflightJumpHosts .ascii pendingDb pendingSettings
    (fun _ _ _ => some { tcpOk := true, tcpMethod := "direct" }) pendingDevices

theorem pending_not_skipped :
    ¬ ∀ d ∈ pendingDevices, uuidText d.id ∈ pendingPreflight.2.skippedDeviceIds ↔
      pendingSettings.enabled = true ∧ pendingSettings.skipUnreachable = true ∧
        ∃ e, deviceJumpEndpoint .ascii pendingDb d = some e ∧ (e.host = "" ∨
          IsProbed .ascii pendingDb pendingSettings pendingDevices e.key ∧
            ProbeFails pendingSettings
              (fun _ _ _ => some { tcpOk := true, tcpMethod := "direct" }) e) := by
  intro hclaim
  have hnone : pendingPreflight.2.skippedDeviceIds = [] := by decide +kernel
  have hendpoint : deviceJumpEndpoint .ascii pendingDb pendingRouter =
      some { key := "missing:" ++ uuidText pendingGroup.id, host := "", port := 22 } := by
    decide +kernel
  have hskipped := (hclaim pendingRouter (by decide)).mpr
    ⟨rfl, rfl, _, hendpoint, .inl rfl⟩
  rw [hnone] at hskipped
  cases hskipped

end BackupCenter.Bulk
