import BackupCenter.Tenants.Groups

/-!
# The device routes of a tenant

`edit_device` compares the tenant of the device but takes the group from the form,
`delete_device` compares nothing, and `bulk_subgroup_connection` filters every query by the
tenant and the group of the page.
-/
namespace BackupCenter.Tenants

open BackupCenter.Lib

structure DeviceForm where
  name : Option String := none
  deviceTypeId : Field Uuid := .absent
  groupId : Field Uuid := .absent
  ipAddress : Option String := none
  port : Field Int := .absent
  username : Option String := none
  description : Option String := none
  useTelnet : Option String := none
  backupScheduled : Option String := none
  password : Option String := none
  /-- the `extra__…` fields -/
  extra : List (String × String) := []

/-- The device of the URL, if the tenant has it. -/
def tenantDevice (db : Database) (tenant : Tenant) (deviceId : Uuid) : Option Device :=
  (db.devices.find deviceId).filter fun d => d.tenantId = tenant.id

theorem tenantDevice_eq_some {db : Database} {tenant : Tenant} {id : Uuid} {d : Device} :
    tenantDevice db tenant id = some d ↔ d ∈ db.devices ∧ d.id = id ∧ d.tenantId = tenant.id := by
  simp only [tenantDevice, Option.filter_eq_some_iff, Table.find_eq_some, decide_eq_true_eq,
    and_assoc]
  rfl

/-! ## `edit_device` -/

/-- `request.form.get('device_type_id') or None`, without a value for `ValueError`. -/
def DeviceForm.typeId (form : DeviceForm) : Option (Option Uuid) :=
  if form.deviceTypeId.given then form.deviceTypeId.parse.map some else some none

/-- `int(request.form.get('port', 22))` -/
def DeviceForm.portNumber (form : DeviceForm) : Option Int :=
  match form.port with
  | .absent => some 22
  | port => port.parse

/-- `DeviceService.update_device` with the data of `edit_device`. -/
def Device.edited (d : Device) (env : Env) (db : Database) (s : Session) (form : DeviceForm)
    (typeId : Option Uuid) (port : Int) : Device :=
  { d with
    name := form.name.getD ""
    deviceTypeId := typeId
    groupId := form.groupId.parse
    ipAddress := strip (form.ipAddress.getD "")
    port := some port
    username := strip (form.username.getD "")
    description := form.description
    useTelnet := some (ticked form.useTelnet)
    backupScheduled := some (ticked form.backupScheduled)
    extraParameters := env.collectDeviceExtraParameters form.extra
      (typeId.filter fun t => t ∈ db.deviceTypes) d.extraParameters
    passwordEncrypted := (newSecret env db s form.password (some d.passwordEncrypted)).getD
      d.passwordEncrypted }

/-- The constraints of the devices table on an edited row. -/
def checkDevice (db : Database) (form : DeviceForm) (d : Device) : Except Failure Unit := do
  require (fitsText d.description = true ∧ d.port.all fitsInteger = true) .data
  checkColumns
    [(150, form.name), (45, form.ipAddress.map strip), (50, form.username.map strip)] []
  require (d.groupId.all fun g => (db.deviceGroups.find g).isSome) .integrity
  require (d.deviceTypeId.all fun t => t ∈ db.deviceTypes) .integrity

def Database.withDevice (db : Database) (id : Uuid) (f : Update Device) : Database :=
  { db with devices := db.devices.modify (fun d => d.id = id) f }

def editDevice (env : Env) (s : Session) (tenantSlug : String) (deviceId : Field Uuid)
    (form : DeviceForm) (db : Database) : Result := do
  tenantAdminRequired s
  let tenant ← getDbAndTenant s tenantSlug db
  let deviceUuid ← demand deviceId.parse (.text "Invalid device ID" 400)
  let device ← demand (tenantDevice db tenant deviceUuid) (.text "Device not found" 404)
  let failed (text : String) : Reply := .flash ("Erro ao atualizar dispositivo: " ++ text) .error
  let typeId ← demand form.typeId (failed (env.describe .value))
  let port ← demand form.portNumber (failed (env.describe .value))
  orRefuse (checkDevice db form (device.edited env db s form typeId port)) fun e =>
    failed (env.describe e)
  let db' := db.withDevice device.id { apply := fun d => d.edited env db s form typeId port }
  return (db', match env.afterCommit with
    | none => .flash "Dispositivo atualizado com sucesso!" .success
    | some text => failed text)

/-- The checks of `edit_device` on the form. -/
structure EditDeviceAccepted (env : Env) (db : Database) (s : Session) (d : Device)
    (form : DeviceForm) (typeId : Option Uuid) (port : Int) : Prop where
  typed : form.typeId = some typeId
  ported : form.portNumber = some port
  columns : checkDevice db form (d.edited env db s form typeId port) = .ok ()

/-- What a committed `edit_device` has checked, and what it has written. -/
theorem editDevice_commits {env : Env} {s : Session} {tenantSlug : String}
    {deviceId : Field Uuid} {form : DeviceForm} {db db' : Database} :
    (∃ r, editDevice env s tenantSlug deviceId form db = .ok (db', r)) ↔
      s.Admitted tenantSlug ∧ ∃ tenant id d typeId port, db.tenantBySlug tenantSlug = some tenant ∧
        deviceId.parse = some id ∧ tenantDevice db tenant id = some d ∧
        EditDeviceAccepted env db s d form typeId port ∧
        db' = db.withDevice d.id { apply := fun d => d.edited env db s form typeId port } := by
  simp only [editDevice, bind_eq_ok, tenantAdminRequired_eq_ok, getDbAndTenant_eq_ok, demand_eq_ok,
    orRefuse_eq_ok, pure_eq_ok]
  constructor
  · rintro ⟨r, -, hadmin, tenant, ⟨hslug, htenant⟩, id, hid, d, hd, typeId, htype, port, hport,
      _, hcolumns, hdb⟩
    exact ⟨⟨hadmin, hslug⟩, tenant, id, d, typeId, port, htenant, hid, hd,
      ⟨htype, hport, hcolumns⟩, (congrArg Prod.fst hdb).symm⟩
  · rintro ⟨hadm, tenant, id, d, typeId, port, htenant, hid, hd, hacc, rfl⟩
    exact ⟨_, (), hadm.1, tenant, ⟨hadm.2, htenant⟩, id, hid, d, hd, typeId, hacc.typed, port,
      hacc.ported, (), hacc.columns, rfl⟩

/-! ## `delete_device` -/

/-- `delete_device` with `DeviceService.delete_device`. -/
def deleteDevice (env : Env) (s : Session) (tenantSlug : String) (deviceId : Field Uuid)
    (db : Database) : Result := do
  tenantAdminRequired s
  let _ ← getDbAndTenant s tenantSlug db
  let deviceUuid ← demand deviceId.parse (.flash "ID de dispositivo inválido" .error)
  -- the tenant filter is only on the query for the name in the activity log
  let device ← demand (db.devices.find deviceUuid) (.flash "Erro ao remover dispositivo" .error)
  let db' := db.withDevice device.id { apply := fun d => { d with isActive := some false } }
  return (db', if env.afterCommit.isNone then .flash "Dispositivo removido com sucesso!" .success
    else .serverError)

/-- `delete_device` commits whatever device the URL names. -/
theorem deleteDevice_commits {env : Env} {s : Session} {tenantSlug : String}
    {deviceId : Field Uuid} {db db' : Database} :
    (∃ r, deleteDevice env s tenantSlug deviceId db = .ok (db', r)) ↔
      s.Admitted tenantSlug ∧ (db.tenantBySlug tenantSlug).isSome = true ∧
      ∃ d ∈ db.devices, deviceId.parse = some d.id ∧
        db' = db.withDevice d.id { apply := fun d => { d with isActive := some false } } := by
  simp only [deleteDevice, bind_eq_ok, tenantAdminRequired_eq_ok, getDbAndTenant_eq_ok,
    demand_eq_ok, Table.find_eq_some, pure_eq_ok]
  constructor
  · rintro ⟨r, -, hadmin, tenant, ⟨hslug, htenant⟩, id, hid, d, ⟨hd, rfl⟩, hdb⟩
    exact ⟨⟨hadmin, hslug⟩, Option.isSome_of_eq_some htenant, d, hd, hid,
      (congrArg Prod.fst hdb).symm⟩
  · rintro ⟨hadm, htenant, d, hd, hid, rfl⟩
    obtain ⟨tenant, htenant⟩ := Option.isSome_iff_exists.mp htenant
    exact ⟨_, (), hadm.1, tenant, ⟨hadm.2, htenant⟩, d.id, hid, d, ⟨hd, rfl⟩, rfl⟩

end BackupCenter.Tenants
