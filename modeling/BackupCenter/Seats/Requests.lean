import BackupCenter.Superadmin.Users
import BackupCenter.Tenants.Placement

/-!
# Requests that take the seats of a plan

The routes that make devices and users of a tenant count against its plan, as programs over the
queries and commits that they send to the database. A commit that takes a seat carries the check
that let it through: between the two, other requests commit as well.
-/
namespace BackupCenter.Seats

open BackupCenter.Lib BackupCenter.Tenants
open BackupCenter.Superadmin (UsersEnv SaveError dirty dirtyColumns)

structure SeatsDb extends Database where
  /-- `max_devices` in the plan of a tenant -/
  maxDevices : Uuid → Option Int := fun _ => none
  /-- the next value of `uuid.uuid4`, which gives none twice -/
  fresh : Uuid := 0

/-- The devices of a tenant that `check_can_add_device` counts. -/
def SeatsDb.activeDevices (db : SeatsDb) (tenantId : Uuid) : Nat :=
  db.devices.rows.countP fun d => d.tenantId = tenantId && d.isActive ≠ some false

/-- The users of a tenant that `check_can_add_user` counts. -/
def SeatsDb.activeUsers (db : SeatsDb) (tenantId : Uuid) : Nat :=
  db.users.rows.countP fun u => u.tenantId = some tenantId && u.isActive = some true

/-- A check that passed: for whom, and what it had counted. -/
structure Seat where
  tenant : Tenant
  used : Nat

/-- One query, or one commit with what was written before it. -/
inductive SeatCmd where
  | tenantBySlug (slug : String)
  | tenant (id : Uuid)
  | checkCanAddUser (tenant : Tenant)
  | emailTaken (email : Option String)
  | user (id : Uuid)
  | insertUser (seat : Seat) (form : UserForm) (role : UserRole) (passwordHash : String)
  | updateUser (seat : Option Seat) (user : User) (form : UserForm) (role : UserRole)
      (passwordHash : Option String)
  | deleteUser (id : Uuid)
  | deactivateUser (id : Uuid)
  | checkCanAddDevice (tenant : Tenant)
  | group (tenant : Tenant) (id : Tenants.Field Uuid)
  | device (id : Uuid)
  | insertDevice (seat : Seat) (groupId : Uuid) (form : DeviceForm) (typeId : Option Uuid)
      (port : Int) (password : String)
  | updateDevice (device : Device) (data : Update Device)

def SeatAns : SeatCmd → Type
  | .tenantBySlug _ | .tenant _ => Option Tenant
  | .checkCanAddUser _ | .checkCanAddDevice _ => LimitCheckResult × Nat
  | .emailTaken _ => Bool
  | .user _ => Option User
  | .group .. => Option DeviceGroup
  | .device _ => Option Device
  | .insertUser .. | .updateUser .. | .deleteUser _ | .deactivateUser _ | .insertDevice ..
  | .updateDevice .. => Except SaveError Unit

/-! ## Commits -/

def insertedUser (db : SeatsDb) (seat : Seat) (form : UserForm) (role : UserRole)
    (passwordHash : String) : Except SaveError (Table User) := do
  orRefuse (checkColumns [(100, form.email), (200, some passwordHash), (100, form.fullName)] [])
    .failure
  require (¬ ∃ u ∈ db.users.rows, some u.email = form.email) (.failure .integrity)
  demand (db.users.add (.created db.fresh seat.tenant.id form role passwordHash))
    (.failure .integrity)

/-- The columns of the user that the flush of an edit writes. -/
def userColumns (user : User) (form : UserForm) (role : UserRole) (passwordHash : Option String) :
    Update User :=
  dirtyColumns user (user.edited form role passwordHash)

def updatedUser (db : SeatsDb) (user : User) (form : UserForm) (role : UserRole)
    (passwordHash : Option String) : Except SaveError (Table User) := do
  let row ← demand (db.users.find user.id) .stale
  let saved := (userColumns user form role passwordHash).apply row
  orRefuse (checkColumns [(100, form.fullName), (100, form.email)] [(200, passwordHash)]) .failure
  require (∀ u ∈ db.users.rows, u.email = saved.email → u.id = user.id) (.failure .integrity)
  return db.users.modify (fun u => u.id = user.id) (userColumns user form role passwordHash)

def insertedDevice (env : UsersEnv) (db : SeatsDb) (seat : Seat) (groupId : Uuid)
    (form : DeviceForm) (typeId : Option Uuid) (port : Int) (password : String) :
    Except SaveError (Table Device) := do
  let d := Device.created env.toEnv db.toDatabase db.fresh seat.tenant.id groupId form typeId port
    password
  orRefuse (checkNewDevice db.toDatabase form d) .failure
  demand (db.devices.add d) (.failure .integrity)

/-- The columns of the device that `update_device` writes. -/
def deviceColumns (device : Device) (data : Update Device) : Update Device where
  apply row :=
    let new := data.apply device
    { row with
      tenantId := dirty device.tenantId new.tenantId row.tenantId
      groupId := dirty device.groupId new.groupId row.groupId
      subgroupId := dirty device.subgroupId new.subgroupId row.subgroupId
      deviceTypeId := dirty device.deviceTypeId new.deviceTypeId row.deviceTypeId
      name := dirty device.name new.name row.name
      ipAddress := dirty device.ipAddress new.ipAddress row.ipAddress
      port := dirty device.port new.port row.port
      username := dirty device.username new.username row.username
      passwordEncrypted := dirty device.passwordEncrypted new.passwordEncrypted
        row.passwordEncrypted
      useTelnet := dirty device.useTelnet new.useTelnet row.useTelnet
      backupScheduled := dirty device.backupScheduled new.backupScheduled row.backupScheduled
      description := dirty device.description new.description row.description
      extraParameters := dirty device.extraParameters new.extraParameters row.extraParameters
      isActive := dirty device.isActive new.isActive row.isActive }

/-- The constraints of the devices table on a row. -/
def checkDeviceRow (db : SeatsDb) (d : Device) : Except Failure Unit := do
  require (fitsText d.description = true ∧ d.port.all fitsInteger = true) .data
  checkColumns [(150, some d.name), (45, some d.ipAddress), (50, some d.username)] []
  require (d.groupId.all fun g => (db.deviceGroups.find g).isSome) .integrity
  require (d.deviceTypeId.all fun t => t ∈ db.deviceTypes) .integrity

def updatedDevice (db : SeatsDb) (device : Device) (data : Update Device) :
    Except SaveError (Table Device) := do
  let row ← demand (db.devices.find device.id) .stale
  orRefuse (checkDeviceRow db ((deviceColumns device data).apply row)) .failure
  return db.devices.modify (fun d => d.id = device.id) (deviceColumns device data)

/-- The answer of a commit, and what it leaves; a failed one is rolled back. -/
def commit {α : Type} (db : SeatsDb) (written : Except SaveError α) (put : α → SeatsDb) :
    Except SaveError Unit × SeatsDb :=
  match written with
  | .ok a => (.ok (), put a)
  | .error e => (.error e, db)

def removedUser (db : SeatsDb) (id : Uuid) : Except SaveError (Table User) := do
  require (id ∈ db.referencedUsers → db.users.find id = none) (.failure .integrity)
  return db.users.erase fun u => u.id = id

theorem key_deactivatedUser (u : User) : key { u with isActive := some false } = key u := rfl

def deactivatedUser (db : SeatsDb) (id : Uuid) : Except SaveError (Table User) := do
  require ((db.users.find id).isSome = true) .stale
  return db.users.modify (fun u => u.id = id) 
    { apply := fun u => { u with isActive := some false }, keeps := key_deactivatedUser }

def handleSeat (env : UsersEnv) : (c : SeatCmd) → SeatsDb → SeatAns c × SeatsDb
  | .tenantBySlug slug, db => (db.tenantBySlug slug, db)
  | .tenant id, db => (db.tenants.find? fun t => t.id = id, db)
  | .checkCanAddUser tenant, db =>
    ((checkCanAddUser db.toDatabase tenant, db.activeUsers tenant.id), db)
  | .emailTaken email, db => (db.users.rows.any fun u => some u.email = email, db)
  | .user id, db => (db.users.find id, db)
  | .insertUser seat form role passwordHash, db =>
    commit db (insertedUser db seat form role passwordHash) fun users =>
      { db with users, fresh := db.fresh + 1 }
  | .updateUser _ user form role passwordHash, db =>
    commit db (updatedUser db user form role passwordHash) fun users => { db with users }
  | .deleteUser id, db => commit db (removedUser db id) fun users => { db with users }
  | .deactivateUser id, db => commit db (deactivatedUser db id) fun users => { db with users }
  | .checkCanAddDevice tenant, db =>
    ((checkCanAddDevice db.toDatabase tenant (db.maxDevices tenant.id),
      db.activeDevices tenant.id), db)
  | .group tenant id, db => (resolveGroupContext db.toDatabase tenant id, db)
  | .device id, db => (db.devices.find id, db)
  | .insertDevice seat groupId form typeId port password, db =>
    commit db (insertedDevice env db seat groupId form typeId port password) fun devices =>
      { db with devices, fresh := db.fresh + 1 }
  | .updateDevice device data, db =>
    commit db (updatedDevice db device data) fun devices => { db with devices }

/-! ## The routes -/

abbrev SeatProg := Prog SeatCmd SeatAns Reply

/-- Go on under a condition only. -/
def guarded (c : Prop) [Decidable c] (refusal : Reply) (rest : SeatProg) : SeatProg :=
  if c then rest else .ret refusal

/-- Go on with the value only. -/
def needed {α : Type} (x : Option α) (refusal : Reply) (rest : α → SeatProg) : SeatProg :=
  match x with
  | some a => rest a
  | none => .ret refusal

/-- `tenant_admin_required` and `get_db_and_tenant` -/
def inTenant (s : Session) (tenantSlug : String) (next : Tenant → SeatProg) : SeatProg :=
  guarded (s.role.managesTenant = true)
    (.flash "Você não tem permissão para acessar esta área." .error) <|
  guarded (s.role = .superAdmin ∨ s.tenantSlug = tenantSlug) (.abort 403) <|
  .call (.tenantBySlug tenantSlug) fun tenant =>
  needed tenant (.text "Tenant not found" 404) next

/-- The flash after a commit, or the one with the error. -/
def settledAs (done : Reply) (failed : SaveError → Reply) : Except SaveError Unit → SeatProg
  | .ok () => .ret done
  | .error e => .ret (failed e)

def addUser (env : UsersEnv) (s : Session) (tenantSlug : String) (form : UserForm) : SeatProg :=
  inTenant s tenantSlug fun tenant =>
  .call (.checkCanAddUser tenant) fun (limitCheck, used) =>
  guarded (limitCheck.allowed = true) (.flash limitCheck.reason .error) <|
  match validatePasswordStrength env.toEnv form.password with
  | some error => .ret (.flash error .error)
  | none =>
    .call (.emailTaken form.email) fun (taken : Bool) =>
    guarded (taken = false) (.flash "Este e-mail já está em uso." .error) <|
    needed (UserRole.ofName (form.role.getD "TENANT_TECHNICIAN"))
      (.flash "Perfil de acesso inválido." .error) fun role =>
    match env.getPasswordHash (form.password.getD "") with
    | .error e => .ret (.flash ("Erro ao criar usuário: " ++ e) .error)
    | .ok passwordHash =>
      .call (.insertUser ⟨tenant, used⟩ form role passwordHash) <|
      settledAs (.flash "Usuário criado com sucesso!" .success) fun e =>
        .flash ("Erro ao criar usuário: " ++ env.text e) .error

/-- The role, the password and the commit of `edit_user`. -/
def saveUser (env : UsersEnv) (seat : Option Seat) (user : User) (form : UserForm) : SeatProg :=
  match editedRole form user with
  | .error r => .ret r
  | .ok role =>
    match editedPassword env.toEnv form with
    | .error r => .ret r
    | .ok passwordHash =>
      let done : Reply := .flash "Usuário atualizado com sucesso!" .success
      if user.edited form role passwordHash = user then .ret done
      else
        .call (.updateUser seat user form role passwordHash) <| settledAs done fun
          | .failure .integrity =>
            .flash "Este e-mail já está em uso por outro usuário." .error
          | e => .flash ("Erro ao atualizar: " ++ env.text e) .error

def editUser (env : UsersEnv) (s : Session) (tenantSlug : String) (userId : Tenants.Field Uuid)
    (form : UserForm) : SeatProg :=
  inTenant s tenantSlug fun tenant =>
  needed userId.parse (.text "Invalid user ID" 400) fun id =>
  .call (.user id) fun (found : Option User) =>
  needed (found.filter fun u => u.tenantId = some tenant.id) (.text "User not found" 404)
    fun user =>
  -- only a reactivation takes a new seat of the plan
  if ticked form.isActive = true ∧ user.isActive ≠ some true then
    .call (.checkCanAddUser tenant) fun (limitCheck, used) =>
    guarded (limitCheck.allowed = true) (.flash limitCheck.reason .error) <|
    saveUser env (some ⟨tenant, used⟩) user form
  else saveUser env none user form

def deleteUser (s : Session) (tenantSlug : String) (userId : Tenants.Field Uuid) : SeatProg :=
  inTenant s tenantSlug fun tenant =>
  needed userId.parse (.flash "ID de usuário inválido" .error) fun id =>
  .call (.user id) fun (found : Option User) =>
  needed (found.filter fun u => u.tenantId = some tenant.id)
    (.flash "Usuário não encontrado" .error) fun user =>
  guarded (user.id ≠ s.userId) (.flash "Não é permitido remover o usuário logado." .error) <|
  .call (.deleteUser user.id) fun
    | .ok () => .ret (.flash "Usuário removido com sucesso!" .success)
    | .error _ =>
      .call (.deactivateUser user.id) <| settledAs
        (.flash "Usuário possui histórico vinculado. Foi desativado em vez de removido." .warning)
        fun _ => .serverError

/-- `add_device` with `DeviceService.create_device`, which reads the tenant and the group again. -/
def createDevice (env : UsersEnv) (s : Session) (tenantSlug : String) (form : DeviceForm) :
    SeatProg :=
  inTenant s tenantSlug fun tenant =>
  let failed (text : String) : Reply := .flash ("Erro ao adicionar dispositivo: " ++ text) .error
  let active (g : DeviceGroup) : Bool := g.isActive = some true
  .call (.group tenant form.groupId) fun (group : Option DeviceGroup) =>
  needed (group.filter active) (failed "Selecione um grupo ativo para cadastrar o dispositivo.")
    fun group =>
  needed form.typeId (failed (env.describe .value)) fun typeId =>
  needed form.portNumber (failed (env.describe .value)) fun port =>
  .call (.tenant tenant.id) fun (found : Option Tenant) =>
  needed found (failed "Tenant nao encontrado.") fun tenant =>
  .call (.checkCanAddDevice tenant) fun (limitCheck, used) =>
  guarded (limitCheck.allowed = true) (failed limitCheck.reason) <|
  .call (.group tenant (.value group.id)) fun (again : Option DeviceGroup) =>
  needed (again.filter active) (failed "Selecione um grupo ativo para cadastrar o dispositivo.")
    fun _ =>
  needed form.password (failed "'NoneType' object has no attribute 'encode'") fun password =>
  .call (.insertDevice ⟨tenant, used⟩ group.id form typeId port password) <|
  settledAs (.flash "Dispositivo adicionado com sucesso!" .success) fun e => failed (env.text e)

/-- The flush and the commit of `update_device`, which writes what has changed. -/
def saveDevice (device : Device) (data : Update Device) (done : Reply)
    (failed : SaveError → Reply) : SeatProg :=
  if data.apply device = device then .ret done
  else .call (.updateDevice device data) (settledAs done failed)

/-- `edit_device` with `DeviceService.update_device`, for any columns in the dictionary. -/
def updateDevice (env : UsersEnv) (s : Session) (tenantSlug : String)
    (deviceId : Tenants.Field Uuid) (data : Update Device) : SeatProg :=
  inTenant s tenantSlug fun tenant =>
  needed deviceId.parse (.text "Invalid device ID" 400) fun id =>
  .call (.device id) fun (found : Option Device) =>
  needed (found.filter fun d => d.tenantId = tenant.id) (.text "Device not found" 404)
    fun device =>
  saveDevice device data (.flash "Dispositivo atualizado com sucesso!" .success) fun e =>
    .flash ("Erro ao atualizar dispositivo: " ++ env.text e) .error

theorem key_deactivatedDevice (d : Device) : key { d with isActive := some false } = key d := rfl

def deleteDevice (s : Session) (tenantSlug : String) (deviceId : Tenants.Field Uuid) : SeatProg :=
  inTenant s tenantSlug fun _ =>
  needed deviceId.parse (.flash "ID de dispositivo inválido" .error) fun id =>
  .call (.device id) fun (found : Option Device) =>
  needed found (.flash "Erro ao remover dispositivo" .error) fun device =>
  saveDevice device
    { apply := fun d => { d with isActive := some false }, keeps := key_deactivatedDevice }
    (.flash "Dispositivo removido com sucesso!" .success) fun _ => .serverError

/-! ## Requests of several sessions -/

inductive SeatRequest where
  | addUser (form : UserForm)
  | editUser (userId : Tenants.Field Uuid) (form : UserForm)
  | deleteUser (userId : Tenants.Field Uuid)
  | createDevice (form : DeviceForm)
  | updateDevice (deviceId : Tenants.Field Uuid) (data : Update Device)
  | deleteDevice (deviceId : Tenants.Field Uuid)

structure SeatCall where
  session : Session
  tenantSlug : String
  request : SeatRequest

def SeatCall.program (env : UsersEnv) (c : SeatCall) : SeatProg :=
  match c.request with
  | .addUser form => Seats.addUser env c.session c.tenantSlug form
  | .editUser userId form => Seats.editUser env c.session c.tenantSlug userId form
  | .deleteUser userId => Seats.deleteUser c.session c.tenantSlug userId
  | .createDevice form => Seats.createDevice env c.session c.tenantSlug form
  | .updateDevice deviceId data => Seats.updateDevice env c.session c.tenantSlug deviceId data
  | .deleteDevice deviceId => Seats.deleteDevice c.session c.tenantSlug deviceId

def seatPages (env : UsersEnv) : Semantics SeatsDb SeatCmd SeatAns Reply SeatCall Empty where
  handle := handleSeat env
  program := SeatCall.program env
  environment e _ := e.elim

abbrev SeatClients := Clients SeatsDb SeatCmd SeatAns Reply
abbrev SeatEvent := ClientEvent SeatCall Empty

end BackupCenter.Seats
