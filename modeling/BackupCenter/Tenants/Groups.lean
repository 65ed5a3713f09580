import BackupCenter.Tenants.ConnectionMode

/-!
# The group routes of a tenant

`edit_group`, `toggle_group_active` and `run_backup_all` look the group up and compare its
tenant; `delete_group` hands the id of the URL to the service.
-/
namespace BackupCenter.Tenants

open BackupCenter.Lib

structure GroupForm where
  name : Option String := none
  description : Option String := none
  connectionType : Option String := none
  vpnType : Option String := none
  vpnServer : Option String := none
  vpnUsername : Option String := none
  vpnPassword : Option String := none
  vpnIpsecSecret : Option String := none
  jumpHost : Option String := none
  jumpPort : Field Int := .absent
  jumpUsername : Option String := none
  jumpPassword : Option String := none
  jumpKey : Option String := none

/-- `_current_saved_secret_if_owner` -/
def currentSavedSecretIfOwner (env : Env) (db : Database) (s : Session)
    (encrypted : Option String) : Option String :=
  if (canViewSavedCredentials db s).1 then (nonempty encrypted).bind env.decryptPassword else none

/-- A secret of the form is taken over when it is given and differs from the visible one. -/
def newSecret (env : Env) (db : Database) (s : Session) (given encrypted : Option String) :
    Option String :=
  (((nonempty given).filter fun v =>
    some v ≠ currentSavedSecretIfOwner env db s encrypted).map env.encryptPassword).or encrypted

/-- The group of the URL, if the tenant has it. -/
def tenantGroup (db : Database) (tenant : Tenant) (groupId : Uuid) : Option DeviceGroup :=
  (db.deviceGroups.find groupId).filter fun g => g.tenantId = tenant.id

theorem tenantGroup_eq_some {db : Database} {tenant : Tenant} {id : Uuid} {g : DeviceGroup} :
    tenantGroup db tenant id = some g ↔
      g ∈ db.deviceGroups ∧ g.id = id ∧ g.tenantId = tenant.id := by
  simp only [tenantGroup, Option.filter_eq_some_iff, Table.find_eq_some, decide_eq_true_eq,
    and_assoc]
  rfl

/-! ## `edit_group` -/

/-- `int(request.form.get('jump_port', 22) or 22)` -/
def GroupForm.port (form : GroupForm) : Option Int :=
  if form.jumpPort.given then form.jumpPort.parse else some 22

/-- `DeviceGroupService.update_group` with the data of `edit_group`. -/
def DeviceGroup.edited (g : DeviceGroup) (env : Env) (db : Database) (s : Session)
    (form : GroupForm) (port : Int) : DeviceGroup :=
  let connectionType := form.connectionType.getD "direct"
  { g with
    name := form.name.getD ""
    description := form.description
    connectionType := some connectionType
    usesVpn := some (connectionType = "vpn")
    vpnType := some (form.vpnType.getD "l2tp")
    vpnServer := form.vpnServer.map strip
    vpnUsername := form.vpnUsername.map strip
    usesJumpHost := some (connectionType = "jump_host")
    jumpHost := form.jumpHost.map strip
    jumpPort := some port
    jumpUsername := form.jumpUsername.map strip
    vpnPasswordEncrypted := newSecret env db s form.vpnPassword g.vpnPasswordEncrypted
    vpnIpsecSecretEncrypted := newSecret env db s form.vpnIpsecSecret g.vpnIpsecSecretEncrypted
    jumpPasswordEncrypted := newSecret env db s form.jumpPassword g.jumpPasswordEncrypted
    jumpKeyEncrypted := newSecret env db s form.jumpKey g.jumpKeyEncrypted }

/-- The constraints of the groups table on an edited row. -/
def checkGroup (form : GroupForm) (g : DeviceGroup) : Except Failure Unit := do
  require (fitsText g.description = true ∧ g.jumpPort.all fitsInteger = true) .data
  checkColumns [(150, form.name)]
    [(50, g.connectionType), (50, g.vpnType), (255, g.vpnServer), (255, g.vpnUsername),
      (255, g.jumpHost), (255, g.jumpUsername)]

def Database.withGroup (db : Database) (id : Uuid) (f : Update DeviceGroup) : Database :=
  { db with deviceGroups := db.deviceGroups.modify (fun g => g.id = id) f }

def editGroup (env : Env) (s : Session) (tenantSlug : String) (groupId : Field Uuid)
    (form : GroupForm) (db : Database) : Result := do
  tenantAdminRequired s
  let tenant ← getDbAndTenant s tenantSlug db
  let groupUuid ← demand groupId.parse (.text "Invalid group ID" 400)
  let group ← demand (tenantGroup db tenant groupUuid) (.text "Group not found" 404)
  let failed (e : Failure) : Reply := .flash ("Erro ao atualizar grupo: " ++ env.describe e) .error
  let port ← demand form.port (failed .value)
  orRefuse (checkGroup form (group.edited env db s form port)) failed
  let db' := db.withGroup group.id { apply := fun g => g.edited env db s form port }
  return (db', .flash "Grupo atualizado com sucesso!" .success)

/-! ## `toggle_group_active` -/

inductive ToggleAction where
  | activate
  | deactivate
  | toggle
  deriving DecidableEq

def ToggleAction.ofText (env : Env) (action : Option String) : ToggleAction :=
  match env.lower (strip (action.getD "")) with
  | "activate" => activate
  | "deactivate" => deactivate
  | _ => toggle

def ToggleAction.target (currentActive : Bool) : ToggleAction → Bool
  | activate => true
  | deactivate => false
  | toggle => !currentActive

def toggleGroupActive (env : Env) (s : Session) (tenantSlug : String) (groupId : Field Uuid)
    (action : Option String) (db : Database) : Result := do
  tenantAdminRequired s
  let tenant ← getDbAndTenant s tenantSlug db
  let groupUuid ← demand groupId.parse (.flash "ID de grupo inválido" .error)
  let group ← demand (tenantGroup db tenant groupUuid) (.flash "Grupo não encontrado" .error)
  let name := group.name
  let currentActive := group.isActive = some true
  let targetActive := (ToggleAction.ofText env action).target currentActive
  if targetActive = currentActive then
    let state := if currentActive then "ativo" else "inativo"
    return (db, .flash s!"Grupo \"{name}\" já está {state}." .warning)
  else
    let done := if targetActive then "reativado" else "desativado"
    return (db.withGroup group.id { apply := fun g => { g with isActive := some targetActive } },
      .flash s!"Grupo \"{name}\" {done} com sucesso." .success)

section OwnGroup

variable {env : Env} {s : Session} {tenantSlug : String} {groupId : Field Uuid} {db : Database}
  {c : Database × Reply}

/-- A committed `edit_group` has changed one group of the tenant. -/
theorem editGroup_committed {form : GroupForm}
    (h : editGroup env s tenantSlug groupId form db = .ok c) :
    s.Admitted tenantSlug ∧ ∃ tenant id group port, db.tenantBySlug tenantSlug = some tenant ∧
      tenantGroup db tenant id = some group ∧
      c.1 = db.withGroup group.id { apply := fun g => g.edited env db s form port } := by
  simp only [editGroup, bind_eq_ok, tenantAdminRequired_eq_ok, getDbAndTenant_eq_ok, demand_eq_ok,
    orRefuse_eq_ok, pure_eq_ok] at h
  obtain ⟨-, hadmin, tenant, ⟨hslug, htenant⟩, id, -, group, hgroup, port, -, _, -, rfl⟩ := h
  exact ⟨⟨hadmin, hslug⟩, tenant, id, group, port, htenant, hgroup, rfl⟩

/-- A committed `toggle_group_active` has at most switched one group of the tenant. -/
theorem toggleGroupActive_committed {action : Option String}
    (h : toggleGroupActive env s tenantSlug groupId action db = .ok c) :
    s.Admitted tenantSlug ∧ ∃ tenant id group, db.tenantBySlug tenantSlug = some tenant ∧
      tenantGroup db tenant id = some group ∧ (c.1 = db ∨ ∃ active : Bool,
        c.1 = db.withGroup group.id { apply := fun g => { g with isActive := some active } }) := by
  simp only [toggleGroupActive, bind_eq_ok, tenantAdminRequired_eq_ok, getDbAndTenant_eq_ok,
    demand_eq_ok] at h
  obtain ⟨-, hadmin, tenant, ⟨hslug, htenant⟩, id, -, group, hgroup, hc⟩ := h
  refine ⟨⟨hadmin, hslug⟩, tenant, id, group, htenant, hgroup, ?_⟩
  split at hc
  · exact .inl (congrArg Prod.fst (pure_eq_ok.mp hc)).symm
  · exact .inr ⟨_, (congrArg Prod.fst (pure_eq_ok.mp hc)).symm⟩

end OwnGroup

/-! ## `delete_group` -/

/-- The device is in a subgroup of the group. -/
def Database.InSubgroupOf (db : Database) (groupId : Uuid) (d : Device) : Prop :=
  ∃ sg ∈ db.deviceSubgroups.rows, sg.groupId = groupId ∧ d.subgroupId = some sg.id

instance (db : Database) (groupId : Uuid) (d : Device) : Decidable (db.InSubgroupOf groupId d) :=
  inferInstanceAs (Decidable (∃ sg ∈ db.deviceSubgroups.rows, _))

/-- Some device refers to the group. -/
def Database.GroupUsed (db : Database) (groupId : Uuid) : Prop :=
  ∃ d ∈ db.devices.rows, d.groupId = some groupId

instance (db : Database) (groupId : Uuid) : Decidable (db.GroupUsed groupId) :=
  inferInstanceAs (Decidable (∃ d ∈ db.devices.rows, _))

/-- The foreign keys let the subgroups of the group be deleted. -/
def Database.SubgroupsDeletable (db : Database) (env : Env) (groupId : Uuid) : Prop :=
  env.subgroupOnDelete = .setNull ∨ ¬ ∃ d ∈ db.devices.rows, db.InSubgroupOf groupId d

instance (db : Database) (env : Env) (groupId : Uuid) :
    Decidable (db.SubgroupsDeletable env groupId) :=
  inferInstanceAs (Decidable (_ ∨ _))

/-- The group and its subgroups are gone, and the foreign key has cleared the devices. -/
def Database.withoutGroup (db : Database) (groupId : Uuid) : Database :=
  { db with
    devices := db.devices.modify (fun d => db.InSubgroupOf groupId d)
      { apply := fun d => { d with subgroupId := none } }
    deviceSubgroups := db.deviceSubgroups.erase fun sg => sg.groupId = groupId
    deviceGroups := db.deviceGroups.erase fun g => g.id = groupId }

def Database.withInactiveGroup (db : Database) (groupId : Uuid) : Database :=
  db.withGroup groupId { apply := fun g => { g with isActive := some false } }

/-- `delete_group` with `DeviceGroupService.delete_group`. -/
def deleteGroup (env : Env) (s : Session) (tenantSlug : String) (groupId : Field Uuid)
    (db : Database) : Result := do
  tenantAdminRequired s
  let _ ← getDbAndTenant s tenantSlug db
  let groupUuid ← demand groupId.parse (.flash "ID de grupo inválido" .error)
  -- the tenant of the group is not compared
  let group ← demand (db.deviceGroups.find groupUuid) (.flash "Erro ao remover grupo" .error)
  let removed : Reply := .flash "Grupo removido com sucesso!" .success
  if db.GroupUsed group.id then
    return (db.withInactiveGroup group.id, removed)
  else
    require (db.SubgroupsDeletable env group.id) .serverError
    return (db.withoutGroup group.id, removed)

/-- The database after the service has deleted an existing group, if it can. -/
def Database.deletedGroup (db : Database) (env : Env) (groupId : Uuid) : Option Database :=
  if db.GroupUsed groupId then some (db.withInactiveGroup groupId)
  else if db.SubgroupsDeletable env groupId then some (db.withoutGroup groupId)
  else none

/-- `delete_group` commits whatever group the URL names. -/
theorem deleteGroup_commits {env : Env} {s : Session} {tenantSlug : String} {groupId : Field Uuid}
    {db db' : Database} : (∃ r, deleteGroup env s tenantSlug groupId db = .ok (db', r)) ↔
      s.Admitted tenantSlug ∧ (db.tenantBySlug tenantSlug).isSome = true ∧
      ∃ g ∈ db.deviceGroups, groupId.parse = some g.id ∧ db.deletedGroup env g.id = some db' := by
  simp only [deleteGroup, bind_eq_ok, tenantAdminRequired_eq_ok, getDbAndTenant_eq_ok,
    demand_eq_ok, Table.find_eq_some]
  constructor
  · rintro ⟨r, -, hadmin, tenant, ⟨hslug, htenant⟩, id, hid, g, ⟨hg, rfl⟩, hc⟩
    refine ⟨⟨hadmin, hslug⟩, Option.isSome_of_eq_some htenant, g, hg, hid, ?_⟩
    unfold Database.deletedGroup
    split at hc
    next hused =>
      rw [if_pos hused]
      exact congrArg some (congrArg Prod.fst (pure_eq_ok.mp hc))
    next hused =>
      obtain ⟨_, hdel, hc⟩ := bind_eq_ok.mp hc
      rw [if_neg hused, if_pos (require_eq_ok.mp hdel)]
      exact congrArg some (congrArg Prod.fst (pure_eq_ok.mp hc))
  · rintro ⟨hadm, htenant, g, hg, hid, hdb⟩
    obtain ⟨tenant, htenant⟩ := Option.isSome_iff_exists.mp htenant
    refine ⟨.flash "Grupo removido com sucesso!" .success, (), hadm.1, tenant,
      ⟨hadm.2, htenant⟩, g.id, hid, g, ⟨hg, rfl⟩, ?_⟩
    unfold Database.deletedGroup at hdb
    split at hdb
    next hused => rw [if_pos hused, Option.some.inj hdb]; rfl
    next hused =>
      obtain ⟨hdel, hdb⟩ := Option.ite_none_right_eq_some.mp hdb
      rw [if_neg hused, require, if_pos hdel, Option.some.inj hdb]
      rfl

/-! ## `run_backup_all` of a group -/

/-- A task handed to Celery. -/
inductive Dispatch where
  | vpnGroup (groupId tenantId : Uuid) (deviceIds : List Uuid)
  | backup (deviceId : Uuid) (queue : String)
  deriving DecidableEq

/-- `_value_bool` -/
def valueBool (env : Env) (raw : Option String) (default : Bool) : Bool :=
  match raw with
  | none => default
  | some v => ["1", "true", "on", "yes"].contains (env.lower (strip v))

/-- The route changes no row; it hands tasks to the broker, whose next task id is `taskId`. -/
def runBackupAll (env : Env) (s : Session) (tenantSlug : String) (groupId : Field Uuid)
    (includeUnscheduled : Option String) (taskId : String) (db : Database) :
    Except Reply (List Dispatch × Reply) := do
  let tenant ← getDbAndTenant s tenantSlug db
  let groupUuid ← demand groupId.parse (.flash "ID de grupo inválido" .error)
  let group ← demand (tenantGroup db tenant groupUuid) (.flash "Grupo não encontrado" .error)
  require (group.isActive = some true)
    (.flash "Grupo inativo. Reative o grupo para executar backups." .warning)
  let all := valueBool env includeUnscheduled true
  let eligible := db.devices.rows.filter fun d =>
    d.groupId = some group.id && d.isActive ≠ some false && (all || d.backupScheduled = some true)
  let name := group.name
  let queued := eligible.length
  if eligible.isEmpty then
    return ([], .flash
      (if all then "Nenhum dispositivo ativo elegivel para backup neste grupo."
        else "Nenhum dispositivo agendado para backup neste grupo.") .warning)
  else if groupUsesVpnTunnel env group then
    return ([.vpnGroup group.id tenant.id (eligible.map Device.id)], .flash
      s!"Backup do grupo \"{name}\" enfileirado em VPN ({queued} dispositivos). Task: {taskId}"
      .success)
  else
    return (eligible.map fun d =>
        .backup d.id (if deviceUsesVpnTunnel env db d then "vpn_queue" else "celery"),
      .flash s!"Backup do grupo \"{name}\" enfileirado: {queued} dispositivos." .success)

end BackupCenter.Tenants
