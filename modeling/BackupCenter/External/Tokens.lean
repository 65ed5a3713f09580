import BackupCenter.Superadmin.Lifecycle

/-!
# API tokens

A tenant page draws a token, shows it once and stores its hash; the external API looks tokens up by
their first twelve characters and verifies the hashes. Tokens are revoked on the same pages, and
deleted with their user or their tenant. A wallet keeps what the holders of tokens know: the texts
themselves, with what each is good for.
-/
namespace BackupCenter.External

open BackupCenter.Lib
open BackupCenter.Tenants (Uuid Reply User)
open BackupCenter.Billing (Tenant)

/-! ## The table -/

structure ApiToken where
  id : Uuid
  tenantId : Uuid
  userId : Uuid
  name : String
  tokenPrefix : String
  tokenHash : String
  isActive : Option Bool := some true
  lastUsedAt : Option Int := none
  expiresAt : Option Int := none
  deriving DecidableEq

instance : Keyed ApiToken Uuid := ⟨ApiToken.id⟩

structure Store where
  db : Billing.Database := {}
  users : Table User := .empty
  apiTokens : Table ApiToken := .empty

/-- `pwd_context`: a hash is salted, and verifying a text against it can raise. -/
structure PwdContext where
  hash : Nat → String → String
  verify : String → String → Option Bool

structure Env where
  site : Superadmin.Env
  pwd : PwdContext

/-- `raw_token[:12]` -/
def firstTwelve (rawToken : String) : String := String.ofList (rawToken.toList.take 12)

/-- `TOKEN_PREFIX` -/
def tokenStart : String := "bc_"

/-! ## The tenant pages -/

/-- `_require_admin` -/
def requireAdmin (session : Auth.Cookie) : Except Reply Unit :=
  require (session.userRole.any Tenants.UserRole.managesTenant)
    (.flash "Apenas administradores podem gerenciar tokens de API." .error)

/-- `_get_db_and_tenant` -/
def getDbAndTenant (session : Auth.Cookie) (tenantSlug : String) (s : Store) :
    Except Reply Tenant := do
  require (session.userRole = some .superAdmin ∨ session.tenantSlug = some tenantSlug) (.abort 403)
  demand (s.db.tenants.rows.find? fun t => t.slug = tenantSlug) (.text "Tenant not found" 404)

/-- What `uuid4`, `token_urlsafe` and the salt of the hash come to. -/
structure Drawn where
  id : Uuid
  text : String
  length : text.length = 54 := by decide
  salt : Nat

/-- `generate_raw_token` -/
def Drawn.rawToken (d : Drawn) : String := tokenStart ++ d.text

/-- `create_token` of the service, with the constraints of the table. -/
def createRow (env : Env) (tenant : Tenant) (userId : Uuid) (name : String)
    (expiresAt : Option Int) (d : Drawn) (s : Store) : Except Tenants.Failure Store := do
  require (Tenants.fits 100 (some name)) .data
  require (s.users.find userId).isSome .integrity
  let apiTokens ← demand (s.apiTokens.add
    { id := d.id
      tenantId := tenant.id
      userId := userId
      name := name
      tokenPrefix := firstTwelve d.rawToken
      tokenHash := env.pwd.hash d.salt d.rawToken
      expiresAt := expiresAt }) .integrity
  return { s with apiTokens := apiTokens }

/-- `create_token` of the page; the answer shows the token, for the only time. -/
def createToken (env : Env) (session : Auth.Cookie) (tenantSlug : String) (name : Option String)
    (d : Drawn) (s : Store) : Except Reply (Store × Reply) := do
  requireAdmin session
  let tenant ← getDbAndTenant session tenantSlug s
  let name := strip (name.getD "")
  require (name ≠ "") (.flash "Informe um nome para o token." .error)
  let userId ← demand session.userId (.flash "Sessão inválida." .error)
  let s ← orRefuse (createRow env tenant userId name none d s) fun e =>
    .flash ("Erro ao criar token: " ++ env.site.describe e) .error
  return (s, .text d.rawToken 200)

def deactivated : Update ApiToken where
  apply t := { t with isActive := some false }

/-- `revoke_token` of the page; the id is the argument as `uuid.UUID` reads it. -/
def revokeToken (session : Auth.Cookie) (tenantSlug : String) (tokenId : Option Uuid) (s : Store) :
    Except Reply (Store × Reply) := do
  requireAdmin session
  let tenant ← getDbAndTenant session tenantSlug s
  let tid ← demand tokenId (.flash "Token inválido." .error)
  let token ← demand ((s.apiTokens.find tid).filter fun t => t.tenantId = tenant.id)
    (.flash "Token não encontrado." .error)
  return ({ s with apiTokens := s.apiTokens.modify (fun t => t.id = token.id) deactivated },
    .flash "Token revogado com sucesso." .success)

/-! ## The external API -/

/-- `is_expired` -/
def ApiToken.isExpired (t : ApiToken) (now : Int) : Bool := t.expiresAt.any (· < now)

/-- The first candidate whose hash verifies. -/
def firstVerified (pwd : PwdContext) (rawToken : String) :
    List ApiToken → Except Unit (Option ApiToken)
  | [] => .ok none
  | t :: rest =>
    match pwd.verify rawToken t.tokenHash with
    | none => .error ()
    | some true => .ok (some t)
    | some false => firstVerified pwd rawToken rest

def candidates (rawToken : String) (order : RowOrder ApiToken) (s : Store) : List ApiToken :=
  order.apply (s.apiTokens.rows.filter fun t =>
    t.tokenPrefix = firstTwelve rawToken && t.isActive = some true)

/-- `verify_token`, up to the update of `last_used_at` -/
def verifyToken (env : Env) (rawToken : String) (order : RowOrder ApiToken) (now : Int)
    (s : Store) : Except Unit (Option ApiToken) :=
  if tokenStart.toList <+: rawToken.toList then
    (firstVerified env.pwd rawToken (candidates rawToken order s)).map fun t =>
      t.filter fun t => !t.isExpired now
  else .ok none

structure HttpException where
  status : Nat
  detail : String
  deriving DecidableEq

def used (now : Int) : Update ApiToken where
  apply t := { t with lastUsedAt := some now }

/-- `get_current_api_tenant`: the tenant that the credentials speak for, and the table with
`last_used_at` set. -/
def getCurrentApiTenant (env : Env) (credentials : Option String) (order : RowOrder ApiToken)
    (now : Int) (s : Store) : Except HttpException Tenant × Store :=
  match credentials with
  | none =>
    (.error ⟨401, "Token de API não fornecido. Use: Authorization: Bearer <token>"⟩, s)
  | some rawToken =>
    match verifyToken env rawToken order now s with
    | .error () => (.error ⟨500, "Internal Server Error"⟩, s)
    | .ok none => (.error ⟨401, "Token inválido, expirado ou revogado."⟩, s)
    | .ok (some t) =>
      let s := { s with apiTokens := s.apiTokens.modify (fun a => a.id = t.id) (used now) }
      (demand ((s.db.tenants.find t.tenantId).filter Superadmin.active)
        ⟨403, "Tenant não encontrado ou inativo."⟩, s)

/-! ## Deletions -/

/-- What `delete_user` of the super admin does to the tokens. -/
def deleteTokensOfUser (userId : Uuid) (s : Store) : Store :=
  { s with apiTokens := s.apiTokens.erase fun t => t.userId = userId }

/-- The token deletions of `_delete_client_dependencies`: those of the tenant's users first. -/
def deleteTokensOfTenant (users : Table User) (tenantId : Uuid) (apiTokens : Table ApiToken) :
    Table ApiToken :=
  let userIds := (users.rows.filter fun u => u.tenantId = some tenantId).map User.id
  (apiTokens.erase fun t => userIds.contains t.userId).erase fun t => t.tenantId = tenantId

/-! ## Runs -/

inductive TokenEvent where
  | create (session : Auth.Cookie) (tenantSlug : String) (name : Option String) (d : Drawn)
  | revoke (session : Auth.Cookie) (tenantSlug : String) (tokenId : Option Uuid)
  | request (credentials : Option String) (order : RowOrder ApiToken) (now : Int)
  | deleteUser (userId : Uuid)
  /-- a purge that is committed -/
  | purge (tenantId : Uuid)
  /-- whatever else happens to users and tenants -/
  | users (users : Table User)
  | addTenant (t : Tenant)
  | lifecycle (e : Superadmin.LifecycleEvent)

def committed (s : Store) : Except Reply (Store × Reply) → Store
  | .ok done => done.1
  | .error _ => s

def storeStep (env : Env) (s : Store) : TokenEvent → Store
  | .create session tenantSlug name d => committed s (createToken env session tenantSlug name d s)
  | .revoke session tenantSlug tokenId => committed s (revokeToken session tenantSlug tokenId s)
  | .request credentials order now => (getCurrentApiTenant env credentials order now s).2
  | .deleteUser userId =>
    { deleteTokensOfUser userId s with users := s.users.erase fun u => u.id = userId }
  | .purge tenantId =>
    { db := { s.db with tenants := s.db.tenants.erase fun t => t.id = tenantId }
      users := s.users.erase fun u => u.tenantId = some tenantId
      apiTokens := deleteTokensOfTenant s.users tenantId s.apiTokens }
  | .users users => { s with users := users }
  | .addTenant t => { s with db := { s.db with tenants := (s.db.tenants.add t).getD s.db.tenants } }
  | .lifecycle e => { s with db := Superadmin.perform env.site s.db e }

/-! ## Wallets -/

/-- A token that its holder can use. -/
structure Grant where
  rawToken : String
  id : Uuid
  tenantId : Uuid
  userId : Uuid
  expiresAt : Option Int := none
  deriving DecidableEq

/-- What the holders of tokens have. -/
abbrev Wallet := List Grant

/-- The grant that the answer to a creation shows. -/
def granted (env : Env) (session : Auth.Cookie) (tenantSlug : String) (name : Option String)
    (d : Drawn) (s : Store) : Option Grant :=
  match createToken env session tenantSlug name d s, getDbAndTenant session tenantSlug s,
    session.userId with
  | .ok _, .ok tenant, some userId =>
    some { rawToken := d.rawToken, id := d.id, tenantId := tenant.id, userId := userId }
  | _, _, _ => none

/-- The event takes the token from its holder: a revocation on a page of its tenant, or the deletion
of its user, or of a tenant that it or its user belongs to. -/
def TokenEvent.kills (s : Store) (g : Grant) : TokenEvent → Bool
  | revoke session tenantSlug tokenId =>
    match requireAdmin session, getDbAndTenant session tenantSlug s with
    | .ok _, .ok tenant => tokenId = some g.id && tenant.id = g.tenantId
    | _, _ => false
  | deleteUser userId => userId = g.userId
  | purge tenantId =>
    tenantId = g.tenantId ||
      s.users.rows.any fun u => u.tenantId = some tenantId && u.id = g.userId
  | _ => false

def walletStep (env : Env) (s : Store) (w : Wallet) (e : TokenEvent) : Wallet :=
  match e with
  | .create session tenantSlug name d => w ++ (granted env session tenantSlug name d s).toList
  | _ => w.filter fun g => !e.kills s g

/-- One event in the database and in the wallets. -/
def tokenStep (env : Env) (x : Store × Wallet) (e : TokenEvent) : Option (Store × Wallet) :=
  some (storeStep env x.1 e, walletStep env x.1 x.2 e)

end BackupCenter.External
