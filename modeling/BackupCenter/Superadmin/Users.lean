import BackupCenter.Lib.Interleaving
import BackupCenter.Superadmin.Tenants
import BackupCenter.Tenants.Users

/-!
# The user pages of the super admin

`edit_user`, `toggle_active` and `delete_user` as programs over the queries and commits that they
send to the database, so that requests of several sessions can be interleaved. A session acts under
the role that its cookie says.
-/
namespace BackupCenter.Superadmin

open BackupCenter.Lib
open BackupCenter.Tenants (Uuid User UserRole)

/-! ## The database as the user pages see it -/

structure UsersDb extends Tenants.Database where
  /-- the tenants with a `deleted_at` -/
  trash : List Uuid := []

/-- Why a commit is rolled back. -/
inductive SaveError where
  /-- `StaleDataError`: the row is gone -/
  | stale
  | failure (e : Tenants.Failure)
  deriving Repr, DecidableEq

structure UsersEnv extends Tenants.Env where
  /-- `str(e)` of a `StaleDataError` -/
  describeStale : String

def UsersEnv.text (env : UsersEnv) : SaveError → String
  | .stale => env.describeStale
  | .failure e => env.describe e

/-- One query, or one commit with what was written before it; the commits say whose request it
is. -/
inductive UserCmd where
  | user (id : Uuid)
  | emailExists (email : String) (id : Uuid)
  | tenant (id : Uuid)
  | checkCanAddUser (tenant : Tenants.Tenant)
  | superAdminCount
  | update (session : Auth.Cookie) (id : Uuid) (changed : Update User)
  | delete (session : Auth.Cookie) (id : Uuid)

def UserAns : UserCmd → Type
  | .user _ => Option User
  | .emailExists .. => Bool
  | .tenant _ => Option Tenants.Tenant
  | .checkCanAddUser _ => Tenants.LimitCheckResult
  | .superAdminCount => Nat
  | .update .. => Except SaveError Unit
  | .delete .. => Unit

/-- The row that a commit leaves, or why it is rolled back. -/
def savedUser (changed : Update User) (id : Uuid) (db : UsersDb) : Except SaveError User := do
  let row ← demand (db.users.find id) .stale
  let saved := changed.apply row
  orRefuse (Tenants.checkColumns [(100, some saved.email), (200, some saved.passwordHash),
    (100, some saved.fullName)] []) .failure
  require (∀ u ∈ db.users.rows, u.email = saved.email → u.id = id) (.failure .integrity)
  return saved

def handleUser (env : UsersEnv) : (c : UserCmd) → UsersDb → UserAns c × UsersDb
  | .user id, db => (db.users.find id, db)
  | .emailExists email id, db =>
    (db.users.rows.any fun u => env.sqlLower u.email = email && u.id ≠ id, db)
  | .tenant id, db =>
    ((db.tenants.find? fun t => t.id = id).filter fun t => t.id ∉ db.trash, db)
  | .checkCanAddUser tenant, db => (Tenants.checkCanAddUser db.toDatabase tenant, db)
  | .superAdminCount, db => (db.users.rows.countP fun u => u.role = .superAdmin, db)
  | .update _ id changed, db =>
    match savedUser changed id db with
    | .error e => (.error e, db)
    | .ok _ => (.ok (), { db with users := db.users.modify (fun u => u.id = id) changed })
  | .delete _ id, db =>
    ((), { db with
      users := db.users.erase fun u => u.id = id
      referencedUsers := db.referencedUsers.filter (· ≠ id) })

/-! ## The routes -/

abbrev UserProg := Prog UserCmd UserAns Reply

/-- Go on under a condition only. -/
def checked (c : Prop) [Decidable c] (refusal : Reply) (rest : UserProg) : UserProg :=
  if c then rest else .ret refusal

def refuse (message : String) : Reply := .flash message .error

/-- `check_superadmin`, `login_required`, and the user of the URL. -/
def userOfUrl (session : Auth.Cookie) (userId : Option Uuid) (next : User → UserProg) : UserProg :=
  checked (session.userRole = some .superAdmin) .toLogin <|
  checked session.userId.isSome
    (.flash "Por favor, faça login para acessar esta página." .warning) <|
  match userId with
  | none => .ret (refuse "Usuario invalido.")
  | some id => .call (.user id) fun
    | none => .ret (refuse "Usuario nao encontrado.")
    | some user => next user

/-- `str(user.id) == str(current_user_id)` -/
def isSelf (session : Auth.Cookie) (user : User) : Bool := session.userId = some user.id

/-- An attribute is written when its value differs from the one that was loaded. -/
def dirty {α : Type} [DecidableEq α] (old new row : α) : α := if new = old then row else new

/-- The columns that a flush writes. -/
def dirtyColumns (old new : User) : Update User where
  apply row :=
    { row with
      tenantId := dirty old.tenantId new.tenantId row.tenantId
      email := dirty old.email new.email row.email
      fullName := dirty old.fullName new.fullName row.fullName
      passwordHash := dirty old.passwordHash new.passwordHash row.passwordHash
      role := dirty old.role new.role row.role
      isActive := dirty old.isActive new.isActive row.isActive
      mustChangePassword := dirty old.mustChangePassword new.mustChangePassword
        row.mustChangePassword
      passwordChangedAt := dirty old.passwordChangedAt new.passwordChangedAt
        row.passwordChangedAt }

/-- Flush and commit what has changed in a user, if anything has. -/
def save (env : UsersEnv) (session : Auth.Cookie) (old new : User) (done : Reply)
    (failed : String) : UserProg :=
  if new = old then .ret done
  else
    .call (.update session old.id (dirtyColumns old new)) fun
      | .ok () => .ret done
      | .error e => .ret (refuse (failed ++ env.text e))

structure PlatformUserForm where
  fullName : Option String := none
  email : Option String := none
  password : Option String := none
  userScope : Option String := none
  role : Option String := none
  /-- the field as `uuid.UUID` reads it -/
  tenantId : Option Uuid := none
  isActive : Option String := none

def roleValues : List (String × UserRole) :=
  [("super_admin", .superAdmin), ("tenant_owner", .tenantOwner), ("tenant_admin", .tenantAdmin),
    ("tenant_technician", .tenantTechnician), ("tenant_viewer", .tenantViewer)]

/-- `_parse_role` -/
def parseRole (raw : Option String) : Option UserRole :=
  let value := strip (raw.getD "")
  (roleValues.lookup value).or (UserRole.ofName value)

/-- The role of a tenant user: none of the super admin, and the technician for want of one. -/
def tenantRole (form : PlatformUserForm) : UserRole :=
  ((parseRole form.role).filter fun r => r ≠ .superAdmin).getD .tenantTechnician

def platformScope (env : UsersEnv) (form : PlatformUserForm) : Bool :=
  env.lower (strip ((Tenants.nonempty form.userScope).getD "tenant")) = "platform"

/-- Where the user is moved to: the platform, or a tenant, which must have a seat for an active
user that it does not have yet. -/
def editTarget (env : UsersEnv) (session : Auth.Cookie) (form : PlatformUserForm) (user : User)
    (next : Option Uuid → UserRole → UserProg) : UserProg :=
  if platformScope env form then next none .superAdmin
  else
    checked (isSelf session user = false)
      (refuse "Nao e permitido remover seu proprio perfil da plataforma.") <|
    match form.tenantId with
    | none => .ret (refuse "Selecione um tenant para usuario de cliente.")
    | some id => .call (.tenant id) fun
      | none => .ret (refuse "Tenant informado nao existe.")
      | some tenant =>
        if Tenants.ticked form.isActive ∧
            (user.isActive ≠ some true ∨ user.tenantId ≠ some id) then
          .call (.checkCanAddUser tenant) fun limitCheck =>
          checked (limitCheck.allowed = true) (refuse limitCheck.reason) <|
          next (some id) (tenantRole form)
        else next (some id) (tenantRole form)

/-- The password of the form, if there is one, or the message that refuses it. -/
def newPassword (env : UsersEnv) (form : PlatformUserForm) (user : User) : Except String User :=
  let password := strip (form.password.getD "")
  if password = "" then .ok user
  else
    match Tenants.validatePasswordStrength env.toEnv (some password) with
    | some error => .error error
    | none =>
      match env.getPasswordHash password with
      | .error e => .error ("Erro ao atualizar usuario: " ++ e)
      | .ok hash => .ok
        { user with passwordHash := hash, mustChangePassword := true, passwordChangedAt := none }

def editUser (env : UsersEnv) (session : Auth.Cookie) (userId : Option Uuid)
    (form : PlatformUserForm) : UserProg :=
  userOfUrl session userId fun user =>
  let fullName := strip (form.fullName.getD "")
  let email := env.lower (strip (form.email.getD ""))
  let isActive := Tenants.ticked form.isActive
  checked (fullName ≠ "" ∧ email ≠ "") (refuse "Nome e e-mail sao obrigatorios.") <|
  .call (.emailExists email user.id) fun (emailExists : Bool) =>
  checked (emailExists = false) (refuse "Ja existe outro usuario com esse e-mail.") <|
  checked (isSelf session user = true → isActive = true)
    (refuse "Nao e permitido desativar o usuario logado.") <|
  editTarget env session form user fun targetTenantId targetRole =>
  let edited := { user with
    fullName := fullName, email := email, isActive := some isActive
    tenantId := targetTenantId, role := targetRole }
  match newPassword env form edited with
  | .error message => .ret (refuse message)
  | .ok edited =>
    save env session user edited (.flash "Usuario atualizado com sucesso." .success)
      "Erro ao atualizar usuario: "

def toggleActive (env : UsersEnv) (session : Auth.Cookie) (userId : Option Uuid) : UserProg :=
  userOfUrl session userId fun user =>
  let isActive := user.isActive = some true
  checked (isSelf session user = true → ¬ isActive)
    (refuse "Nao e permitido desativar o usuario logado.") <|
  let saved := save env session user { user with isActive := some (!decide isActive) }
    (.flash "Status do usuario atualizado com sucesso." .success) "Erro ao atualizar status: "
  match user.tenantId with
  | none => saved
  | some id =>
    if isActive then saved
    else
      .call (.tenant id) fun
      | none => saved
      | some tenant =>
        .call (.checkCanAddUser tenant) fun limitCheck =>
        checked (limitCheck.allowed = true) (refuse limitCheck.reason) saved

def deleteUser (session : Auth.Cookie) (userId : Option Uuid) : UserProg :=
  userOfUrl session userId fun user =>
  checked (isSelf session user = false) (refuse "Nao e permitido apagar o usuario logado.") <|
  let userLabel := (Tenants.nonempty (some user.fullName)).getD user.email
  let removed : UserProg := .call (.delete session user.id) fun _ =>
    .ret (.flash s!"Usuario {userLabel} removido com sucesso." .success)
  if user.role = .superAdmin then
    .call .superAdminCount fun (superAdminCount : Nat) =>
    checked (1 < superAdminCount)
      (refuse "Nao e permitido apagar o ultimo super admin da plataforma.") removed
  else removed

/-! ## Requests of several sessions -/

inductive UserRequest where
  | edit (userId : Option Uuid) (form : PlatformUserForm)
  | toggleActive (userId : Option Uuid)
  | delete (userId : Option Uuid)

def userProgram (env : UsersEnv) : Auth.Cookie × UserRequest → UserProg
  | (session, .edit userId form) => editUser env session userId form
  | (session, .toggleActive userId) => toggleActive env session userId
  | (session, .delete userId) => deleteUser session userId

def userPages (env : UsersEnv) :
    Semantics UsersDb UserCmd UserAns Reply (Auth.Cookie × UserRequest) Empty where
  handle := handleUser env
  program := userProgram env
  environment e _ := e.elim

abbrev UserClients := Clients UsersDb UserCmd UserAns Reply
abbrev UserEvent := ClientEvent (Auth.Cookie × UserRequest) Empty

end BackupCenter.Superadmin
