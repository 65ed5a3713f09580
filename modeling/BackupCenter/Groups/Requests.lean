import BackupCenter.Superadmin.Users
import BackupCenter.Tenants.Groups

/-!
# The requests that write device groups

`add_group`, `edit_group`, `delete_group` and `toggle_group_active` as programs over the queries
and commits that they send to the database. A session keeps the row that it has loaded, and
writes the columns that it has changed in it.
-/
namespace BackupCenter.Groups

open BackupCenter.Lib BackupCenter.Tenants
open BackupCenter.Superadmin (UsersEnv SaveError dirty)

structure GroupsEnv extends UsersEnv where
  /-- `\w` of a regular expression -/
  isWord : Char → Bool

structure GroupsDb extends Database where
  /-- the next value of `uuid.uuid4` -/
  fresh : Uuid := 0

/-! ## The slug of a new group -/

/-- Runs of hyphens and white space, each replaced by one hyphen; `inRun` says whether one has
begun. -/
def hyphenated : Bool → List Char → List Char
  | _, [] => []
  | inRun, c :: cs =>
    if c = '-' ∨ isSpace c then
      if inRun then hyphenated true cs else '-' :: hyphenated true cs
    else c :: hyphenated false cs

def slugify (env : GroupsEnv) (text : String) : String :=
  let slug := (strip (env.lower text)).toList.filter fun c => env.isWord c || isSpace c || c = '-'
  String.ofList (hyphenated false slug)

/-- What `create_group` makes of the slug that it is given. -/
def normalizedSlug (env : GroupsEnv) (slug : String) : String := env.lower (strip slug)

/-- The duplicate check of `create_group`. -/
def slugTaken (db : Database) (tenantId : Uuid) (slug : String) : Bool :=
  db.deviceGroups.rows.any fun g =>
    g.tenantId = tenantId && g.slug = slug && g.isActive = some true

/-! ## Rows -/

/-- The row that `create_group` inserts. -/
def createdGroup (env : GroupsEnv) (id tenantId : Uuid) (form : GroupForm) (name slug : String)
    (port : Int) : DeviceGroup :=
  let connectionType := form.connectionType.getD "direct"
  let encrypted (text : Option String) := (nonempty text).map env.encryptPassword
  { id := id
    tenantId := tenantId
    name := strip name
    slug := slug
    description := form.description
    connectionType := some connectionType
    usesVpn := some (connectionType = "vpn")
    vpnType := some (form.vpnType.getD "l2tp")
    vpnServer := form.vpnServer.map strip
    vpnUsername := form.vpnUsername.map strip
    vpnPasswordEncrypted := encrypted form.vpnPassword
    vpnIpsecSecretEncrypted := encrypted form.vpnIpsecSecret
    usesJumpHost := some (connectionType = "jump_host")
    jumpHost := form.jumpHost.map strip
    jumpPort := some port
    jumpUsername := form.jumpUsername.map strip
    jumpPasswordEncrypted := encrypted form.jumpPassword
    jumpKeyEncrypted := encrypted form.jumpKey
    isActive := some true }

/-- A secret of the edit form is taken over when it is given and differs from the saved one, if
the session may see that. -/
def replacedSecret (env : GroupsEnv) (views : Bool) (given encrypted : Option String) :
    Option String :=
  let visible := if views then (nonempty encrypted).bind env.decryptPassword else none
  (((nonempty given).filter fun v => some v ≠ visible).map env.encryptPassword).or encrypted

/-- A loaded group with what `edit_group` hands to `update_group`. -/
def editedGroup (env : GroupsEnv) (views : Bool) (form : GroupForm) (port : Int)
    (g : DeviceGroup) : DeviceGroup :=
  let connectionType := form.connectionType.getD "direct"
  { g with
    name := form.name.getD ""
    description := form.description
    connectionType := some connectionType
    usesVpn := some (connectionType = "vpn")
    vpnType := some (form.vpnType.getD "l2tp")
    vpnServer := form.vpnServer.map strip
    vpnUsername := form.vpnUsername.map strip
    usesJumpHost := some (connectionType = "jump_host")
    jumpHost := form.jumpHost.map strip
    jumpPort := some port
    jumpUsername := form.jumpUsername.map strip
    vpnPasswordEncrypted := replacedSecret env views form.vpnPassword g.vpnPasswordEncrypted
    vpnIpsecSecretEncrypted :=
      replacedSecret env views form.vpnIpsecSecret g.vpnIpsecSecretEncrypted
    jumpPasswordEncrypted := replacedSecret env views form.jumpPassword g.jumpPasswordEncrypted
    jumpKeyEncrypted := replacedSecret env views form.jumpKey g.jumpKeyEncrypted }

/-- One request after the other, this is the edit of the route. -/
theorem editedGroup_eq (env : GroupsEnv) (db : Database) (s : Session) (form : GroupForm)
    (port : Int) (g : DeviceGroup) :
    editedGroup env (canViewSavedCredentials db s).1 form port g =
      g.edited env.toEnv db s form port := rfl

/-- The columns that the flush writes; an edit changes neither the slug nor whether the group is
active. -/
def groupColumns (old new : DeviceGroup) : Update DeviceGroup where
  apply row :=
    { row with
      name := dirty old.name new.name row.name
      description := dirty old.description new.description row.description
      connectionType := dirty old.connectionType new.connectionType row.connectionType
      usesVpn := dirty old.usesVpn new.usesVpn row.usesVpn
      vpnType := dirty old.vpnType new.vpnType row.vpnType
      vpnServer := dirty old.vpnServer new.vpnServer row.vpnServer
      vpnUsername := dirty old.vpnUsername new.vpnUsername row.vpnUsername
      vpnPasswordEncrypted := dirty old.vpnPasswordEncrypted new.vpnPasswordEncrypted
        row.vpnPasswordEncrypted
      vpnIpsecSecretEncrypted := dirty old.vpnIpsecSecretEncrypted new.vpnIpsecSecretEncrypted
        row.vpnIpsecSecretEncrypted
      usesJumpHost := dirty old.usesJumpHost new.usesJumpHost row.usesJumpHost
      jumpHost := dirty old.jumpHost new.jumpHost row.jumpHost
      jumpPort := dirty old.jumpPort new.jumpPort row.jumpPort
      jumpUsername := dirty old.jumpUsername new.jumpUsername row.jumpUsername
      jumpPasswordEncrypted := dirty old.jumpPasswordEncrypted new.jumpPasswordEncrypted
        row.jumpPasswordEncrypted
      jumpKeyEncrypted := dirty old.jumpKeyEncrypted new.jumpKeyEncrypted row.jumpKeyEncrypted
      slug := dirty old.slug new.slug row.slug
      isActive := dirty old.isActive new.isActive row.isActive }

/-! ## Queries and commits -/

/-- One query, or one commit with what was written before it. -/
inductive GroupCmd where
  | tenantBySlug (slug : String)
  | viewer (s : Session)
  | group (id : Uuid)
  | slugTaken (tenantId : Uuid) (slug : String)
  | insertGroup (tenant : Tenant) (form : GroupForm) (name slug : String) (port : Int)
  | updateGroup (group : DeviceGroup) (views : Bool) (form : GroupForm) (port : Int)
  | switchGroup (id : Uuid) (active : Bool)
  | countDevices (groupId : Uuid)
  | deleteGroup (id : Uuid)

def GroupAns : GroupCmd → Type
  | .tenantBySlug _ => Option Tenant
  | .viewer _ | .slugTaken .. => Bool
  | .group _ => Option DeviceGroup
  | .countDevices _ => Nat
  | .insertGroup .. | .updateGroup .. | .switchGroup .. | .deleteGroup _ => Except SaveError Unit

/-- The constraints of the groups table on a new row. -/
def checkNewGroup (db : Database) (g : DeviceGroup) : Except Failure Unit := do
  require (fitsText g.description = true ∧ g.jumpPort.all fitsInteger = true) .data
  checkColumns [(150, some g.name), (150, some g.slug)]
    [(50, g.connectionType), (50, g.vpnType), (255, g.vpnServer), (255, g.vpnUsername),
      (255, g.jumpHost), (255, g.jumpUsername)]
  require (db.tenants.any (·.id = g.tenantId) = true) .integrity

def insertedGroup (env : GroupsEnv) (db : GroupsDb) (tenant : Tenant) (form : GroupForm)
    (name slug : String) (port : Int) : Except SaveError (Table DeviceGroup) := do
  let row := createdGroup env db.fresh tenant.id form name slug port
  orRefuse (checkNewGroup db.toDatabase row) .failure
  demand (db.deviceGroups.add row) (.failure .integrity)

def updatedGroup (env : GroupsEnv) (db : GroupsDb) (group : DeviceGroup) (views : Bool)
    (form : GroupForm) (port : Int) : Except SaveError (Table DeviceGroup) := do
  let new := editedGroup env views form port group
  require ((db.deviceGroups.find group.id).isSome = true) .stale
  orRefuse (checkGroup form new) .failure
  return db.deviceGroups.modify (fun g => g.id = group.id) (groupColumns group new)

def switchedGroup (db : GroupsDb) (id : Uuid) (active : Bool) :
    Except SaveError (Table DeviceGroup) := do
  require ((db.deviceGroups.find id).isSome = true) .stale
  return db.deviceGroups.modify (fun g => g.id = id)
    { apply := fun g => { g with isActive := some active } }

/-- A commit that is refused is rolled back. -/
def commit {α : Type} (db : GroupsDb) (written : Except SaveError α) (put : α → GroupsDb) :
    Except SaveError Unit × GroupsDb :=
  match written with
  | .ok a => (.ok (), put a)
  | .error e => (.error e, db)

/-- The group goes with its subgroups, if the foreign keys let them. -/
def removedGroup (env : GroupsEnv) (db : GroupsDb) (id : Uuid) : Except SaveError Database := do
  require (db.SubgroupsDeletable env.toEnv id) (.failure .integrity)
  return db.toDatabase.withoutGroup id

def handleGroup (env : GroupsEnv) : (c : GroupCmd) → GroupsDb → GroupAns c × GroupsDb
  | .tenantBySlug slug, db => (db.tenantBySlug slug, db)
  | .viewer s, db => ((canViewSavedCredentials db.toDatabase s).1, db)
  | .group id, db => (db.deviceGroups.find id, db)
  | .slugTaken tenantId slug, db => (Groups.slugTaken db.toDatabase tenantId slug, db)
  | .insertGroup tenant form name slug port, db =>
    commit db (insertedGroup env db tenant form name slug port) fun deviceGroups =>
      { db with deviceGroups, fresh := db.fresh + 1 }
  | .updateGroup group views form port, db =>
    commit db (updatedGroup env db group views form port) fun deviceGroups =>
      { db with deviceGroups }
  | .switchGroup id active, db =>
    commit db (switchedGroup db id active) fun deviceGroups => { db with deviceGroups }
  | .countDevices groupId, db =>
    (db.devices.rows.countP fun d => d.groupId = some groupId, db)
  | .deleteGroup id, db =>
    commit db (removedGroup env db id) fun left => { db with toDatabase := left }

/-! ## The routes -/

abbrev GroupProg := Prog GroupCmd GroupAns Reply

/-- Go on under a condition only. -/
def guarded (c : Prop) [Decidable c] (refusal : Reply) (rest : GroupProg) : GroupProg :=
  if c then rest else .ret refusal

/-- Go on with the value only. -/
def needed {α : Type} (x : Option α) (refusal : Reply) (rest : α → GroupProg) : GroupProg :=
  match x with
  | some a => rest a
  | none => .ret refusal

/-- `tenant_admin_required` and `get_db_and_tenant` -/
def inTenant (s : Session) (tenantSlug : String) (next : Tenant → GroupProg) : GroupProg :=
  guarded (s.role.managesTenant = true)
    (.flash "Você não tem permissão para acessar esta área." .error) <|
  guarded (s.role = .superAdmin ∨ s.tenantSlug = tenantSlug) (.abort 403) <|
  .call (.tenantBySlug tenantSlug) fun tenant =>
  needed tenant (.text "Tenant not found" 404) next

/-- The answer after a commit, or the one after an error. -/
def settledAs (done : Reply) (failed : SaveError → Reply) : Except SaveError Unit → GroupProg
  | .ok () => .ret done
  | .error e => .ret (failed e)

/-- `add_group` with `DeviceGroupService.create_group`. -/
def createGroup (env : GroupsEnv) (s : Session) (tenantSlug : String) (form : GroupForm) :
    GroupProg :=
  inTenant s tenantSlug fun tenant =>
  let failed (text : String) : Reply := .flash ("Erro ao criar grupo: " ++ text) .error
  let name := strip (form.name.getD "")
  guarded (name ≠ "") (failed "Informe o nome do grupo.") <|
  needed form.port (failed (env.describe .value)) fun port =>
  let slug := normalizedSlug env (slugify env name)
  guarded (slug ≠ "") (failed "Slug do grupo invalido.") <|
  .call (.slugTaken tenant.id slug) fun (existing : Bool) =>
  guarded (existing = false) (failed "Ja existe um grupo ativo com esse nome.") <|
  .call (.insertGroup tenant form name slug port) <|
  settledAs (.flash "Grupo criado com sucesso!" .success) fun e => failed (env.text e)

/-- `edit_group` with `DeviceGroupService.update_group`, whose own query only tells whether the
loaded row is still there. The page that shows an error of the commit queries a session that was
rolled back. -/
def editGroup (env : GroupsEnv) (s : Session) (tenantSlug : String)
    (groupId : Tenants.Field Uuid) (form : GroupForm) : GroupProg :=
  inTenant s tenantSlug fun tenant =>
  needed groupId.parse (.text "Invalid group ID" 400) fun id =>
  .call (.group id) fun (found : Option DeviceGroup) =>
  needed (found.filter fun g => g.tenantId = tenant.id) (.text "Group not found" 404) fun group =>
  -- asked for each of the four secrets, with one answer
  .call (.viewer s) fun (views : Bool) =>
  needed form.port (.flash ("Erro ao atualizar grupo: " ++ env.describe .value) .error) fun port =>
  let done : Reply := .flash "Grupo atualizado com sucesso!" .success
  .call (.group group.id) fun (again : Option DeviceGroup) =>
  if again = none ∨ editedGroup env views form port group = group then .ret done
  else .call (.updateGroup group views form port) (settledAs done fun _ => .serverError)

/-- `toggle_group_active` with `update_group`. -/
def toggleGroupActive (env : GroupsEnv) (s : Session) (tenantSlug : String)
    (groupId : Tenants.Field Uuid) (action : Option String) : GroupProg :=
  inTenant s tenantSlug fun tenant =>
  needed groupId.parse (.flash "ID de grupo inválido" .error) fun id =>
  .call (.group id) fun (found : Option DeviceGroup) =>
  needed (found.filter fun g => g.tenantId = tenant.id) (.flash "Grupo não encontrado" .error)
    fun group =>
  let name := group.name
  let currentActive : Bool := group.isActive = some true
  let targetActive := (ToggleAction.ofText env.toEnv action).target currentActive
  if targetActive = currentActive then
    let state := if currentActive then "ativo" else "inativo"
    .ret (.flash s!"Grupo \"{name}\" já está {state}." .warning)
  else
    let switched := if targetActive then "reativado" else "desativado"
    let done : Reply := .flash s!"Grupo \"{name}\" {switched} com sucesso." .success
    .call (.group group.id) fun (again : Option DeviceGroup) =>
    if again = none then .ret done
    else .call (.switchGroup group.id targetActive) (settledAs done fun _ => .serverError)

/-- `delete_group` with `DeviceGroupService.delete_group`: a group without devices is deleted, any
other one is deactivated. -/
def deleteGroup (s : Session) (tenantSlug : String) (groupId : Tenants.Field Uuid) : GroupProg :=
  inTenant s tenantSlug fun _ =>
  needed groupId.parse (.flash "ID de grupo inválido" .error) fun id =>
  .call (.group id) fun (found : Option DeviceGroup) =>
  needed found (.flash "Erro ao remover grupo" .error) fun group =>
  let removed : Reply := .flash "Grupo removido com sucesso!" .success
  .call (.countDevices group.id) fun (deviceCount : Nat) =>
  if deviceCount = 0 then
    .call (.deleteGroup group.id) (settledAs removed fun _ => .serverError)
  else if group.isActive = some false then .ret removed
  else .call (.switchGroup group.id false) (settledAs removed fun _ => .serverError)

/-! ## Requests of several sessions -/

inductive GroupRequest where
  | createGroup (form : GroupForm)
  | editGroup (groupId : Tenants.Field Uuid) (form : GroupForm)
  | deleteGroup (groupId : Tenants.Field Uuid)
  | toggleGroupActive (groupId : Tenants.Field Uuid) (action : Option String)

structure GroupCall where
  session : Session
  tenantSlug : String
  request : GroupRequest

def GroupCall.program (env : GroupsEnv) (c : GroupCall) : GroupProg :=
  match c.request with
  | .createGroup form => Groups.createGroup env c.session c.tenantSlug form
  | .editGroup groupId form => Groups.editGroup env c.session c.tenantSlug groupId form
  | .deleteGroup groupId => Groups.deleteGroup c.session c.tenantSlug groupId
  | .toggleGroupActive groupId action =>
    Groups.toggleGroupActive env c.session c.tenantSlug groupId action

def groupPages (env : GroupsEnv) : Semantics GroupsDb GroupCmd GroupAns Reply GroupCall Empty where
  handle := handleGroup env
  program := GroupCall.program env
  environment e _ := e.elim

abbrev GroupClients := Clients GroupsDb GroupCmd GroupAns Reply
abbrev GroupEvent := ClientEvent GroupCall Empty

end BackupCenter.Groups
