import BackupCenter.Tenants.Schema

/-!
# The user routes of a tenant

`add_user`, `edit_user` and `delete_user`, each as one transaction: either everything is
committed or the database stays as it was.
-/
namespace BackupCenter.Tenants

open BackupCenter.Lib

structure LimitCheckResult where
  allowed : Bool
  reason : String

/-- `PlanLimitsService.check_can_add_user` -/
def checkCanAddUser (db : Database) (tenant : Tenant) : LimitCheckResult :=
  if tenant.accessUnlimited then ⟨true, "ok"⟩
  else
    match tenant.plan with
    | none => ⟨false, "Cliente sem plano ativo."⟩
    | some plan =>
      let limit := max (plan.maxUsers.getD 0) 0
      let used : Int := db.users.rows.countP fun u =>
        u.tenantId = some tenant.id && u.isActive = some true
      if limit > 0 ∧ used ≥ limit then
        ⟨false, s!"Limite de usuários do plano atingido ({used}/{limit})."⟩
      else ⟨true, "ok"⟩

/-- The message for a weak password. -/
def validatePasswordStrength (env : Env) (password : Option String) : Option String :=
  let value := (password.getD "").toList
  if value.length < 8 then some "A senha deve ter pelo menos 8 caracteres."
  else if !value.any Char.isUpper then some "A senha deve ter pelo menos 1 letra maiuscula."
  else if !value.any Char.isLower then some "A senha deve ter pelo menos 1 letra minuscula."
  else if !value.any env.isDecimal then some "A senha deve ter pelo menos 1 numero."
  else if value.all Char.isAlphanum then some "A senha deve ter pelo menos 1 caractere especial."
  else none

def passwordChecked (env : Env) (password : Option String) : Except Reply Unit :=
  match validatePasswordStrength env password with
  | some error => .error (.flash error .error)
  | none => .ok ()

@[simp] theorem passwordChecked_eq_ok {env : Env} {password : Option String} {u : Unit} :
    passwordChecked env password = .ok u ↔ validatePasswordStrength env password = none := by
  unfold passwordChecked
  split <;> simp_all

structure UserForm where
  fullName : Option String := none
  email : Option String := none
  role : Option String := none
  password : Option String := none
  isActive : Option String := none

/-! ## `add_user` -/

/-- The row of a new user. -/
def User.created (id tenantId : Uuid) (form : UserForm) (role : UserRole) (passwordHash : String) :
    User where
  id := id
  tenantId := some tenantId
  email := form.email.getD ""
  fullName := form.fullName.getD ""
  passwordHash := passwordHash
  role := role
  isActive := some true
  mustChangePassword := true
  passwordChangedAt := none

def addUser (env : Env) (s : Session) (tenantSlug : String) (form : UserForm) (newId : Uuid)
    (db : Database) : Result := do
  tenantAdminRequired s
  let tenant ← getDbAndTenant s tenantSlug db
  let limitCheck := checkCanAddUser db tenant
  require (limitCheck.allowed = true) (.flash limitCheck.reason .error)
  passwordChecked env form.password
  require (¬ ∃ u ∈ db.users.rows, some u.email = form.email)
    (.flash "Este e-mail já está em uso." .error)
  let role ← demand (UserRole.ofName (form.role.getD "TENANT_TECHNICIAN"))
    (.flash "Perfil de acesso inválido." .error)
  let passwordHash ← orRefuse (env.getPasswordHash (form.password.getD "")) fun e =>
    .flash ("Erro ao criar usuário: " ++ e) .error
  let failed (e : Failure) : Reply := .flash ("Erro ao criar usuário: " ++ env.describe e) .error
  orRefuse (checkColumns [(100, form.email), (200, some passwordHash), (100, form.fullName)] [])
    failed
  let users ← demand (db.users.add (.created newId tenant.id form role passwordHash))
    (failed .integrity)
  return ({ db with users }, .flash "Usuário criado com sucesso!" .success)

/-- The checks of `add_user` on the form, other than the one of the role. -/
structure AddUserAccepted (env : Env) (db : Database) (tenant : Tenant) (form : UserForm)
    (newId : Uuid) (passwordHash : String) : Prop where
  seat : (checkCanAddUser db tenant).allowed = true
  strong : validatePasswordStrength env form.password = none
  emailFree : ¬ ∃ u ∈ db.users.rows, some u.email = form.email
  hashed : env.getPasswordHash (form.password.getD "") = .ok passwordHash
  columns : checkColumns [(100, form.email), (200, some passwordHash), (100, form.fullName)] [] =
    .ok ()
  newKey : db.users.find newId = none

section AddUser

variable {env : Env} {s : Session} {tenantSlug : String} {form : UserForm} {newId : Uuid}
  {db : Database}

/-- What a committed `add_user` has checked, and what it has written. -/
theorem addUser_committed {c : Database × Reply}
    (h : addUser env s tenantSlug form newId db = .ok c) :
    s.Admitted tenantSlug ∧ ∃ tenant passwordHash role users,
      db.tenantBySlug tenantSlug = some tenant ∧
      AddUserAccepted env db tenant form newId passwordHash ∧
      UserRole.ofName (form.role.getD "TENANT_TECHNICIAN") = some role ∧
      db.users.add (.created newId tenant.id form role passwordHash) = some users ∧
      c.1 = { db with users } := by
  simp only [addUser, bind_eq_ok, tenantAdminRequired_eq_ok, getDbAndTenant_eq_ok, require_eq_ok,
    passwordChecked_eq_ok, demand_eq_ok, orRefuse_eq_ok, pure_eq_ok] at h
  obtain ⟨-, hadmin, tenant, ⟨hslug, htenant⟩, -, hseat, -, hstrong, -, hfree, role, hrole,
    passwordHash, hhash, _, hcolumns, users, hadd, rfl⟩ := h
  have hnew : db.users.find newId = none := Table.add_isSome.mp (Option.isSome_of_eq_some hadd)
  exact ⟨⟨hadmin, hslug⟩, tenant, passwordHash, role, users, htenant,
    ⟨hseat, hstrong, hfree, hhash, hcolumns, hnew⟩, hrole, hadd, rfl⟩

/-- An accepted form with the name of a role is committed. -/
theorem addUser_of_accepted {tenant : Tenant} {passwordHash : String} {role : UserRole}
    (hs : s.Admitted tenantSlug) (ht : db.tenantBySlug tenantSlug = some tenant)
    (ha : AddUserAccepted env db tenant form newId passwordHash)
    (hrole : UserRole.ofName (form.role.getD "TENANT_TECHNICIAN") = some role) :
    ∃ c, addUser env s tenantSlug form newId db = .ok c ∧
      User.created newId tenant.id form role passwordHash ∈ c.1.users := by
  obtain ⟨users, hadd⟩ := Option.isSome_iff_exists.mp
    (Table.add_isSome (r := User.created newId tenant.id form role passwordHash).mpr ha.newKey)
  refine ⟨({ db with users }, .flash "Usuário criado com sucesso!" .success), ?_,
    (Table.mem_of_add hadd).mpr (.inl rfl)⟩
  simp only [addUser, bind_eq_ok, tenantAdminRequired_eq_ok, getDbAndTenant_eq_ok, require_eq_ok,
    passwordChecked_eq_ok, demand_eq_ok, orRefuse_eq_ok, pure_eq_ok]
  exact ⟨(), hs.1, tenant, ⟨hs.2, ht⟩, (), ha.seat, (), ha.strong, (), ha.emailFree, role, hrole,
    passwordHash, ha.hashed, (), ha.columns, users, hadd, rfl⟩

end AddUser

/-! ## `edit_user` -/

/-- The user of the URL, if the tenant has it. -/
def tenantUser (db : Database) (tenant : Tenant) (userId : Uuid) : Option User :=
  (db.users.find userId).filter fun u => u.tenantId = some tenant.id

/-- The role after the edit: an empty role field keeps the old one. -/
def editedRole (form : UserForm) (user : User) : Except Reply UserRole :=
  match nonempty form.role with
  | none => .ok user.role
  | some name => demand (UserRole.ofName name) (.flash "Perfil de acesso inválido." .error)

/-- The hash of a new password, if one is given. -/
def editedPassword (env : Env) (form : UserForm) : Except Reply (Option String) :=
  match nonempty form.password with
  | none => .ok none
  | some password => do
    passwordChecked env password
    let hash ← orRefuse (env.getPasswordHash password) fun e =>
      .flash ("Erro ao atualizar: " ++ e) .error
    return some hash

def User.edited (u : User) (form : UserForm) (role : UserRole) (passwordHash : Option String) :
    User :=
  { u with
    fullName := form.fullName.getD ""
    email := form.email.getD ""
    isActive := some (ticked form.isActive)
    role
    passwordHash := passwordHash.getD u.passwordHash
    mustChangePassword := passwordHash.isSome || u.mustChangePassword
    passwordChangedAt := if passwordHash.isSome then none else u.passwordChangedAt }

/-- The constraints of the users table on an edited row. -/
def checkUserUpdate (db : Database) (user : User) (form : UserForm)
    (passwordHash : Option String) : Except Failure Unit := do
  checkColumns [(100, form.fullName), (100, form.email)] [(200, passwordHash)]
  require (¬ ∃ u ∈ db.users.rows, u.id ≠ user.id ∧ some u.email = form.email) .integrity

/-- The row after an edit, in the users table. -/
def Database.withEditedUser (db : Database) (user : User) (form : UserForm) (role : UserRole)
    (passwordHash : Option String) : Database :=
  { db with
    users := db.users.modify (fun u => u.id = user.id)
      { apply := fun u => u.edited form role passwordHash } }

def editUser (env : Env) (s : Session) (tenantSlug : String) (userId : Field Uuid)
    (form : UserForm) (db : Database) : Result := do
  tenantAdminRequired s
  let tenant ← getDbAndTenant s tenantSlug db
  let userUuid ← demand userId.parse (.text "Invalid user ID" 400)
  let user ← demand (tenantUser db tenant userUuid) (.text "User not found" 404)
  let limitCheck := checkCanAddUser db tenant
  -- only a reactivation takes a new seat of the plan
  require (ticked form.isActive = true ∧ user.isActive ≠ some true → limitCheck.allowed = true)
    (.flash limitCheck.reason .error)
  let role ← editedRole form user
  let passwordHash ← editedPassword env form
  orRefuse (checkUserUpdate db user form passwordHash) fun
    | .integrity => .flash "Este e-mail já está em uso por outro usuário." .error
    | e => .flash ("Erro ao atualizar: " ++ env.describe e) .error
  return (db.withEditedUser user form role passwordHash,
    .flash "Usuário atualizado com sucesso!" .success)

theorem mem_withEditedUser {db : Database} {user v : User} {form : UserForm} {role : UserRole}
    {passwordHash : Option String} :
    v ∈ (db.withEditedUser user form role passwordHash).users ↔
      ∃ u ∈ db.users, v = if u.id = user.id then u.edited form role passwordHash else u := by
  simp only [Database.withEditedUser, Table.mem_modify, decide_eq_true_eq]

/-- The checks of `edit_user` on the form, other than the one of the role. -/
structure EditUserAccepted (env : Env) (db : Database) (tenant : Tenant) (user : User)
    (form : UserForm) (passwordHash : Option String) : Prop where
  seat : ticked form.isActive = true ∧ user.isActive ≠ some true →
    (checkCanAddUser db tenant).allowed = true
  hashed : editedPassword env form = .ok passwordHash
  columns : checkUserUpdate db user form passwordHash = .ok ()

section EditUser

variable {env : Env} {s : Session} {tenantSlug : String} {userId : Field Uuid} {form : UserForm}
  {db : Database}

theorem tenantUser_eq_some {tenant : Tenant} {id : Uuid} {user : User} :
    tenantUser db tenant id = some user ↔
      user ∈ db.users ∧ user.id = id ∧ user.tenantId = some tenant.id := by
  simp only [tenantUser, Option.filter_eq_some_iff, Table.find_eq_some, decide_eq_true_eq,
    and_assoc]
  rfl

/-- What a committed `edit_user` has checked, and what it has written. -/
theorem editUser_committed {c : Database × Reply}
    (h : editUser env s tenantSlug userId form db = .ok c) :
    s.Admitted tenantSlug ∧ ∃ tenant id user role passwordHash,
      db.tenantBySlug tenantSlug = some tenant ∧ userId.parse = some id ∧
      tenantUser db tenant id = some user ∧
      EditUserAccepted env db tenant user form passwordHash ∧
      editedRole form user = .ok role ∧ c.1 = db.withEditedUser user form role passwordHash := by
  simp only [editUser, bind_eq_ok, tenantAdminRequired_eq_ok, getDbAndTenant_eq_ok, require_eq_ok,
    demand_eq_ok, orRefuse_eq_ok, pure_eq_ok] at h
  obtain ⟨-, hadmin, tenant, ⟨hslug, htenant⟩, id, hid, user, huser, -, hseat, role, hrole,
    passwordHash, hhash, _, hcolumns, rfl⟩ := h
  exact ⟨⟨hadmin, hslug⟩, tenant, id, user, role, passwordHash, htenant, hid, huser,
    ⟨hseat, hhash, hcolumns⟩, hrole, rfl⟩

/-- An accepted form with an empty role field or the name of a role is committed. -/
theorem editUser_of_accepted {tenant : Tenant} {id : Uuid} {user : User} {role : UserRole}
    {passwordHash : Option String} (hs : s.Admitted tenantSlug)
    (ht : db.tenantBySlug tenantSlug = some tenant) (hid : userId.parse = some id)
    (huser : tenantUser db tenant id = some user)
    (ha : EditUserAccepted env db tenant user form passwordHash)
    (hrole : editedRole form user = .ok role) :
    ∃ c, editUser env s tenantSlug userId form db = .ok c ∧
      c.1 = db.withEditedUser user form role passwordHash := by
  refine ⟨(db.withEditedUser user form role passwordHash,
    .flash "Usuário atualizado com sucesso!" .success), ?_, rfl⟩
  simp only [editUser, bind_eq_ok, tenantAdminRequired_eq_ok, getDbAndTenant_eq_ok, require_eq_ok,
    demand_eq_ok, orRefuse_eq_ok, pure_eq_ok]
  exact ⟨(), hs.1, tenant, ⟨hs.2, ht⟩, id, hid, user, huser, (), ha.seat, role, hrole,
    passwordHash, ha.hashed, (), ha.columns, rfl⟩

end EditUser

/-! ## `delete_user` -/

def Database.withDeactivatedUser (db : Database) (user : User) : Database :=
  { db with
    users := db.users.modify (fun u => u.id = user.id)
      { apply := fun u => { u with isActive := some false } } }

def Database.withoutUser (db : Database) (user : User) : Database :=
  { db with users := db.users.erase fun u => u.id = user.id }

def deleteUser (s : Session) (tenantSlug : String) (userId : Field Uuid) (db : Database) :
    Result := do
  tenantAdminRequired s
  let tenant ← getDbAndTenant s tenantSlug db
  let userUuid ← demand userId.parse (.flash "ID de usuário inválido" .error)
  let user ← demand (tenantUser db tenant userUuid) (.flash "Usuário não encontrado" .error)
  require (user.id ≠ s.userId) (.flash "Não é permitido remover o usuário logado." .error)
  if user.id ∈ db.referencedUsers then
    return (db.withDeactivatedUser user,
      .flash "Usuário possui histórico vinculado. Foi desativado em vez de removido." .warning)
  else
    return (db.withoutUser user, .flash "Usuário removido com sucesso!" .success)

/-- A committed `delete_user` has removed or deactivated a user of the tenant. -/
theorem deleteUser_committed {s : Session} {tenantSlug : String} {userId : Field Uuid}
    {db : Database} {c : Database × Reply} (h : deleteUser s tenantSlug userId db = .ok c) :
    s.Admitted tenantSlug ∧ ∃ tenant user, db.tenantBySlug tenantSlug = some tenant ∧
      user ∈ db.users ∧ user.tenantId = some tenant.id ∧
      (c.1 = db.withDeactivatedUser user ∨ c.1 = db.withoutUser user) := by
  simp only [deleteUser, bind_eq_ok, tenantAdminRequired_eq_ok, getDbAndTenant_eq_ok,
    require_eq_ok, demand_eq_ok] at h
  obtain ⟨-, hadmin, tenant, ⟨hslug, htenant⟩, id, -, user, huser, -, -, hc⟩ := h
  obtain ⟨hmem, -, howner⟩ := tenantUser_eq_some.mp huser
  refine ⟨⟨hadmin, hslug⟩, tenant, user, htenant, hmem, howner, ?_⟩
  split at hc
  · exact .inl ((pure_eq_ok.mp hc) ▸ rfl)
  · exact .inr ((pure_eq_ok.mp hc) ▸ rfl)

end BackupCenter.Tenants
