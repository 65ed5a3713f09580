import BackupCenter.Auth.Attempts
import BackupCenter.Tenants.Schema

/-!
# Login and two-factor authentication

The routes that lead from a password to a session, and the checks before every page that
needs a session. The session is a signed cookie: a client can present any cookie that it was
ever given, but none of its own making.
-/
namespace BackupCenter.Auth

open BackupCenter.Lib
open BackupCenter.Tenants (Uuid UserRole)

/-! ## The database and the cookie -/

structure Company extends Tenants.Tenant where
  isActive : Option Bool := some true
  billingBlockedAt : Option Nat := none
  deletedAt : Option Nat := none

structure Account extends Tenants.User where
  totpSecret : Option String := none

instance : Keyed Account Uuid := ⟨fun a => a.id⟩

structure AuthDb where
  companies : List Company := []
  users : Table Account := .empty

/-- `user.tenant` -/
def AuthDb.tenantOf (db : AuthDb) (user : Account) : Option Company :=
  user.tenantId.bind fun id => db.companies.find? fun t => t.id = id

def AuthDb.tenantBySlug (db : AuthDb) (slug : String) : Option Company :=
  db.companies.find? fun t => t.slug = slug

/-- What the routes share. -/
structure Site where
  db : AuthDb
  attempts : Attempts

/-- `session["pending_2fa_login"]` -/
structure Pending where
  userId : Uuid
  email : String
  ip : String
  issuedAt : Nat
  deriving DecidableEq

/-- The session cookie; a missing key is `none`. -/
structure Cookie where
  pending2faLogin : Option Pending := none
  pending2faSetupSecret : Option String := none
  userId : Option Uuid := none
  userName : Option String := none
  userRole : Option UserRole := none
  tenantSlug : Option String := none
  deriving DecidableEq

/-- What the routes take from the runtime and the libraries. -/
structure Env where
  clock : Clock
  /-- `str.lower` -/
  lower : String → String
  /-- `str.isdigit` of one character -/
  isDigit : Char → Bool
  /-- `_totp_at` -/
  totpAt : String → Int → String
  /-- `verify_password`, or what it raises -/
  verifyPassword : Option String → String → Except String Bool

def normalizeEmail (env : Env) (email : Option String) : String :=
  env.lower (strip (email.getD ""))

def pending2faTtlSeconds : Nat := 600

/-- `int(datetime.utcnow().timestamp())` -/
def Env.seconds (env : Env) (now : Nat) : Nat := now / env.clock.second

/-! ## Two-factor codes -/

def verifyTotp (env : Env) (secret code : Option String) (now : Nat) : Bool :=
  match Tenants.nonempty secret, Tenants.nonempty code with
  | some secret, some code =>
    let code := String.ofList (code.toList.filter env.isDigit)
    let nowCounter : Int := env.seconds now / 30
    code.length = 6 && [-1, 0, 1].any fun drift => env.totpAt secret (nowCounter + drift) = code
  | _, _ => false

/-- The super admin may leave the second factor out. -/
def isRole2faRequired (role : UserRole) : Bool := role ≠ .superAdmin

/-! ## Answers -/

inductive Page where
  | loginForm
  | twoFactorSetupForm (email secret : String)
  | twoFactorVerifyForm (email : String)
  | toLogin
  | toTwoFactorSetup
  | toTwoFactorVerify
  | toForcePasswordChange
  | toSuperadminDashboard
  | toTenantDashboard (slug : String)
  /-- the page behind `login_required` -/
  | served
  deriving DecidableEq

inductive Category where
  | success
  | info
  | warning
  | error
  deriving DecidableEq

/-- A page with the messages flashed for it. -/
structure Answer where
  page : Page
  flashed : List (String × Category) := []
  deriving DecidableEq

def Answer.flash (message : String) (category : Category) (a : Answer) : Answer :=
  { a with flashed := (message, category) :: a.flashed }

def sessionExpired : Answer :=
  ⟨.toLogin, [("Sessao de autenticacao expirada. Faca login novamente.", .error)]⟩

def tooManyAttempts : Answer :=
  ⟨.toLogin, [("Muitas tentativas. Faca login novamente em alguns minutos.", .error)]⟩

/-- The message for a tenant that is not active; the two places that show it spell the first
text differently. -/
def inactiveTenantMessage (deleted : String) (tenant : Company) : String × Category :=
  if tenant.deletedAt.isSome then (deleted, .error)
  else if tenant.billingBlockedAt.isSome then
    ("Cliente bloqueado por inadimplencia. Entre em contato com o suporte para reativacao.",
      .error)
  else ("Este cliente esta desativado. Entre em contato com o suporte.", .error)

def inactiveTenant : Company → String × Category :=
  inactiveTenantMessage "Este cliente foi movido para a lixeira e nao esta disponivel."

/-- The tenant that keeps a user from logging in: its own, when it is not active. -/
def inactiveTenantOf (db : AuthDb) (user : Account) : Option Company :=
  if user.role ≠ .superAdmin then (db.tenantOf user).filter fun t => t.isActive ≠ some true
  else none

/-- What a request leaves behind, and which checks it made on the way. -/
structure Handled where
  site : Site
  cookie : Cookie
  answer : Answer
  /-- the user for whom `_finalize_authenticated_session` ran -/
  opened : Option Account := none
  /-- the pending login that `_store_pending_2fa_login` stored -/
  stored : Option Pending := none
  /-- the user whose code `verify_totp` was asked about, and what it said -/
  checked : Option (Account × Bool) := none

/-! ## Sessions -/

def clearPending2faSession (cookie : Cookie) : Cookie :=
  { cookie with pending2faLogin := none, pending2faSetupSecret := none }

/-- The pending login that `_store_pending_2fa_login` stores. -/
def pending2faLogin (env : Env) (user : Account) (clientIp : String) (now : Nat) : Pending where
  userId := user.id
  email := normalizeEmail env user.email
  ip := clientIp
  issuedAt := env.seconds now

/-- A pending login that has neither expired nor moved to another IP. -/
def Pending.usable (env : Env) (clientIp : String) (now : Nat) (p : Pending) : Bool :=
  p.issuedAt ≠ 0 && env.seconds now - p.issuedAt ≤ pending2faTtlSeconds &&
    (strip p.ip = "" || strip p.ip = clientIp)

/-- The user of the pending login, with the cookie, which loses a pending login that is no
longer good. -/
def loadPending2faUser (env : Env) (db : AuthDb) (clientIp : String) (now : Nat)
    (cookie : Cookie) : Option Account × Cookie :=
  match cookie.pending2faLogin with
  | none => (none, cookie)
  | some pending =>
    if pending.usable env clientIp now then
      match (db.users.find pending.userId).filter fun u => u.isActive = some true with
      | none => (none, clearPending2faSession cookie)
      | some user =>
        if normalizeEmail env user.email ≠ normalizeEmail env pending.email then
          (none, clearPending2faSession cookie)
        else (some user, cookie)
    else (none, clearPending2faSession cookie)

def finalizeAuthenticatedSession (db : AuthDb) (user : Account) (cookie : Cookie) : Cookie :=
  { clearPending2faSession cookie with
    userId := some user.id
    userName := some user.fullName
    userRole := some user.role
    tenantSlug := some (((db.tenantOf user).map fun t => t.slug).getD "admin") }

def redirectAfterLogin (db : AuthDb) (user : Account) : Answer :=
  if user.role = .superAdmin then ⟨.toSuperadminDashboard, []⟩
  else
    match db.tenantOf user with
    | some tenant => ⟨.toTenantDashboard tenant.slug, []⟩
    | none => ⟨.toLogin, [("Sua conta nao possui uma empresa associada.", .error)]⟩

def redirectAfterAuthSuccess (db : AuthDb) (user : Account) : Answer :=
  if user.mustChangePassword then
    ⟨.toForcePasswordChange,
      [("Defina uma nova senha para concluir o primeiro acesso.", .warning)]⟩
  else redirectAfterLogin db user

/-! ## The routes -/

structure LoginForm where
  email : Option String := none
  password : Option String := none

/-- `AuthService.authenticate_user` -/
def authenticateUser (env : Env) (db : AuthDb) (form : LoginForm) :
    Except String (Option Account) :=
  match db.users.rows.find? fun u => some u.email = form.email with
  | none => .ok none
  | some user =>
    (env.verifyPassword form.password user.passwordHash).map fun ok =>
      if ok then some user else none

/-- `login`, with the secret that `generate_totp_secret` would draw. -/
def login (env : Env) (form : LoginForm) (clientIp newSecret : String) (now : Nat)
    (cookie : Cookie) (site : Site) : Handled :=
  let email := normalizeEmail env form.email
  if isLoginBlocked clientIp email now site.attempts then
    { site, cookie
      answer := ⟨.loginForm, [("Muitas tentativas. Tente novamente em alguns minutos.", .error)]⟩ }
  else
    match authenticateUser env site.db form with
    | .error e => { site, cookie, answer := ⟨.loginForm, [("Erro interno: " ++ e, .error)]⟩ }
    | .ok none =>
      { site :=
          { site with
            attempts := recordFailedLoginAttempt env.clock clientIp email now site.attempts }
        cookie
        answer := ⟨.loginForm, [("Email ou senha invalidos.", .error)]⟩ }
    | .ok (some user) =>
      match inactiveTenantOf site.db user with
      | some tenant => { site, cookie, answer := ⟨.loginForm, [inactiveTenant tenant]⟩ }
      | none =>
        let site := { site with attempts := clearLoginAttempts clientIp email site.attempts }
        if isRole2faRequired user.role then
          let pending := pending2faLogin env user clientIp now
          let cookie := { cookie with pending2faLogin := some pending }
          if (Tenants.nonempty user.totpSecret).isSome then
            { site, cookie
              answer := ⟨.toTwoFactorVerify,
                [("Digite o codigo de autenticacao para concluir o login.", .info)]⟩
              stored := some pending }
          else
            { site
              cookie := { cookie with pending2faSetupSecret := some newSecret }
              answer := ⟨.toTwoFactorSetup,
                [("Configure o 2FA para concluir o acesso.", .warning)]⟩
              stored := some pending }
        else
          { site
            cookie := finalizeAuthenticatedSession site.db user cookie
            answer := (redirectAfterAuthSuccess site.db user).flash
              "Login realizado com sucesso!" .success
            opened := some user }

/-- What follows on a wrong code. -/
def refuseCode (env : Env) (user : Account) (clientIp : String) (now : Nat) (cookie : Cookie)
    (form : Answer) (site : Site) : Handled :=
  let email := normalizeEmail env user.email
  let site :=
    { site with attempts := recordFailedLoginAttempt env.clock clientIp email now site.attempts }
  if isLoginBlocked clientIp email now site.attempts then
    { site
      cookie := clearPending2faSession cookie
      answer := tooManyAttempts
      checked := some (user, false) }
  else { site, cookie, answer := form, checked := some (user, false) }

/-- What follows on a right code. -/
def acceptCode (env : Env) (user : Account) (clientIp : String) (cookie : Cookie)
    (message : String) (site : Site) : Handled :=
  { site :=
      { site with
        attempts := clearLoginAttempts clientIp (normalizeEmail env user.email) site.attempts }
    cookie := finalizeAuthenticatedSession site.db user cookie
    answer := (redirectAfterAuthSuccess site.db user).flash message .success
    opened := some user
    checked := some (user, true) }

/-- What `two_factor_setup` and `two_factor_verify` begin with. -/
def withPendingUser (env : Env) (clientIp : String) (now : Nat) (cookie : Cookie) (site : Site)
    (next : Account → Handled) : Handled :=
  match loadPending2faUser env site.db clientIp now cookie with
  | (none, cookie) => { site, cookie, answer := sessionExpired }
  | (some user, cookie) =>
    if !isRole2faRequired user.role then
      { site
        cookie := finalizeAuthenticatedSession site.db user cookie
        answer := (redirectAfterLogin site.db user).flash "Login realizado com sucesso!" .success
        opened := some user }
    else
      match inactiveTenantOf site.db user with
      | some tenant =>
        { site
          cookie := clearPending2faSession cookie
          answer := ⟨.toLogin, [inactiveTenant tenant]⟩ }
      | none => next user

/-- The update `user.totp_secret = secret`. -/
def setTotpSecret (secret : String) : Update Account where
  apply u := { u with totpSecret := some secret }

/-- The secret that `two_factor_setup` sets up. -/
def setupSecret (cookie : Cookie) (newSecret : String) : String :=
  (Tenants.nonempty cookie.pending2faSetupSecret).getD newSecret

/-- `two_factor_setup`; `post` is the code of a submitted form. -/
def twoFactorSetup (env : Env) (clientIp newSecret : String) (post : Option (Option String))
    (now : Nat) (cookie : Cookie) (site : Site) : Handled :=
  withPendingUser env clientIp now cookie site fun user =>
    if (Tenants.nonempty user.totpSecret).isSome then
      { site, cookie, answer := ⟨.toTwoFactorVerify, []⟩ }
    else
      let secret := setupSecret cookie newSecret
      let cookie := { cookie with pending2faSetupSecret := some secret }
      let form : Answer := ⟨.twoFactorSetupForm user.email secret, []⟩
      match post with
      | none => { site, cookie, answer := form }
      | some code =>
        if verifyTotp env (some secret) code now then
          let users := site.db.users.modify (fun u => u.id = user.id) (setTotpSecret secret)
          acceptCode env user clientIp cookie "2FA configurado e login concluido com sucesso!"
            { site with db := { site.db with users } }
        else
          refuseCode env user clientIp now cookie
            (form.flash "Codigo invalido. Confira o app autenticador e tente novamente." .error)
            site

/-- `two_factor_verify` -/
def twoFactorVerify (env : Env) (clientIp : String) (post : Option (Option String))
    (now : Nat) (cookie : Cookie) (site : Site) : Handled :=
  withPendingUser env clientIp now cookie site fun user =>
    if (Tenants.nonempty user.totpSecret).isNone then
      { site, cookie, answer := ⟨.toTwoFactorSetup, []⟩ }
    else
      let form : Answer := ⟨.twoFactorVerifyForm user.email, []⟩
      match post with
      | none => { site, cookie, answer := form }
      | some code =>
        if verifyTotp env user.totpSecret code now then
          acceptCode env user clientIp cookie "Login realizado com sucesso!" site
        else
          refuseCode env user clientIp now cookie (form.flash "Codigo 2FA invalido." .error) site

def twoFactorCancel (cookie : Cookie) (site : Site) : Handled :=
  { site
    cookie := clearPending2faSession cookie
    answer := ⟨.toLogin, [("Autenticacao cancelada. Faca login novamente.", .info)]⟩ }

def logout (site : Site) : Handled :=
  { site, cookie := {}, answer := ⟨.toLogin, [("Voce saiu da sua conta.", .info)]⟩ }

/-! ## Pages that need a session -/

/-- `_guard_force_password_change`, on a path that it does not exempt. -/
def guardForcePasswordChange (db : AuthDb) (cookie : Cookie) : Bool :=
  (cookie.userId.bind fun id => (db.users.find id).filter fun u => u.isActive = some true).any
    fun user => user.mustChangePassword

/-- `_guard_inactive_tenant_access`, on a path below `/tenant/<slug>` -/
def guardInactiveTenantAccess (db : AuthDb) (cookie : Cookie) (slug : Option String) :
    Option Company :=
  if cookie.userRole = some .superAdmin then none
  else (slug.bind db.tenantBySlug).filter fun t => t.isActive ≠ some true

/-- A request for a page behind `login_required`. -/
def page (slug : Option String) (cookie : Cookie) (site : Site) : Handled :=
  if guardForcePasswordChange site.db cookie then
    { site, cookie, answer := ⟨.toForcePasswordChange, []⟩ }
  else
    match guardInactiveTenantAccess site.db cookie slug with
    | some tenant =>
      { site
        cookie := {}
        answer := ⟨.toLogin, [inactiveTenantMessage
          "Este cliente foi movido para a lixeira e não está disponível." tenant]⟩ }
    | none =>
      if cookie.userId.isSome then { site, cookie, answer := ⟨.served, []⟩ }
      else
        { site, cookie
          answer := ⟨.toLogin,
            [("Por favor, faça login para acessar esta página.", .warning)]⟩ }

/-! ## What the routes do -/

/-- The user that the pending login of a cookie leads to. -/
def PendingUser (env : Env) (db : AuthDb) (clientIp : String) (now : Nat) (cookie : Cookie)
    (user : Account) : Prop :=
  loadPending2faUser env db clientIp now cookie = (some user, cookie)

/-- A right password that leads on to a session or to the second factor. -/
structure PasswordAccepted (env : Env) (form : LoginForm) (clientIp : String) (now : Nat)
    (site : Site) (user : Account) : Prop where
  notBlocked : isLoginBlocked clientIp (normalizeEmail env form.email) now site.attempts = false
  authenticated : authenticateUser env site.db form = .ok (some user)
  tenant : inactiveTenantOf site.db user = none

/-- A code that a form sends for a user who may go on. -/
structure CodeSent (env : Env) (clientIp : String) (now : Nat) (cookie : Cookie) (site : Site)
    (user : Account) : Prop where
  pending : PendingUser env site.db clientIp now cookie user
  required : isRole2faRequired user.role = true
  tenant : inactiveTenantOf site.db user = none

section Routes

variable {env : Env} {form : LoginForm} {clientIp newSecret : String} {now : Nat}
  {cookie cookie' : Cookie} {site : Site} {user : Account} {post : Option (Option String)}
  {next : Account → Handled}

/-- The user of a pending login is active. -/
theorem loadPending2faUser_eq_some
    (h : loadPending2faUser env site.db clientIp now cookie = (some user, cookie')) :
    cookie' = cookie ∧ ∃ pending, cookie.pending2faLogin = some pending ∧
      pending.usable env clientIp now = true ∧ site.db.users.find pending.userId = some user ∧
      user.isActive = some true := by
  unfold loadPending2faUser at h
  split at h
  next => cases h
  next pending hpending =>
    split at h
    next husable =>
      split at h
      next => cases h
      next found hfound =>
        split at h
        next => cases h
        next =>
          obtain ⟨hsome, rfl⟩ := Prod.mk.inj h
          obtain rfl := Option.some.inj hsome
          obtain ⟨hfind, hactive⟩ := Option.filter_eq_some_iff.mp hfound
          exact ⟨rfl, pending, hpending, husable, hfind, of_decide_eq_true hactive⟩
    next => cases h

theorem loadPending2faUser_pending {p : Pending} {loaded : Option Account}
    (h : loadPending2faUser env site.db clientIp now cookie = (loaded, cookie'))
    (hp : cookie'.pending2faLogin = some p) : cookie.pending2faLogin = some p := by
  unfold loadPending2faUser at h
  split at h
  next hnone =>
    obtain ⟨-, rfl⟩ := Prod.mk.inj h
    exact hp
  next pending hpending =>
    split at h
    next =>
      split at h
      next =>
        obtain ⟨-, rfl⟩ := Prod.mk.inj h
        cases hp
      next =>
        split at h
        all_goals obtain ⟨-, rfl⟩ := Prod.mk.inj h
        · cases hp
        · exact hp
    next =>
      obtain ⟨-, rfl⟩ := Prod.mk.inj h
      cases hp

/-- Everything that `login` can do. -/
theorem login_cases {P : Handled → Prop}
    (hquiet : ∀ answer, P { site, cookie, answer })
    (hfailed : isLoginBlocked clientIp (normalizeEmail env form.email) now site.attempts = false →
      authenticateUser env site.db form = .ok none → ∀ answer,
      P { site :=
            { site with
              attempts := recordFailedLoginAttempt env.clock clientIp
                (normalizeEmail env form.email) now site.attempts }
          cookie, answer })
    (hpending : ∀ user, PasswordAccepted env form clientIp now site user →
      isRole2faRequired user.role = true → ∀ secret answer,
      P { site :=
            { site with
              attempts := clearLoginAttempts clientIp (normalizeEmail env form.email)
                site.attempts }
          cookie :=
            { cookie with
              pending2faLogin := some (pending2faLogin env user clientIp now)
              pending2faSetupSecret := secret }
          answer
          stored := some (pending2faLogin env user clientIp now) })
    (hopened : ∀ user, PasswordAccepted env form clientIp now site user →
      isRole2faRequired user.role = false → ∀ answer,
      P { site :=
            { site with
              attempts := clearLoginAttempts clientIp (normalizeEmail env form.email)
                site.attempts }
          cookie := finalizeAuthenticatedSession site.db user cookie
          answer
          opened := some user }) :
    P (login env form clientIp newSecret now cookie site) := by
  dsimp only [login]
  split
  next => exact hquiet _
  next hblocked =>
    have hfree := Bool.eq_false_iff.mpr hblocked
    split
    next => exact hquiet _
    next hnone => exact hfailed hfree hnone _
    next user huser =>
      split
      next => exact hquiet _
      next htenant =>
        have haccepted : PasswordAccepted env form clientIp now site user :=
          ⟨hfree, huser, htenant⟩
        split
        next hrequired =>
          split
          · exact hpending user haccepted hrequired _ _
          · exact hpending user haccepted hrequired _ _
        next hoptional => exact hopened user haccepted (Bool.eq_false_iff.mpr hoptional) _

/-- Everything that happens before the second factor proper. -/
theorem withPendingUser_cases {P : Handled → Prop}
    (hquiet : ∀ cookie' answer, (∀ p, cookie'.pending2faLogin = some p →
        cookie.pending2faLogin = some p) → P { site, cookie := cookie', answer })
    (hoptional : ∀ user, PendingUser env site.db clientIp now cookie user →
      isRole2faRequired user.role = false → ∀ answer,
      P { site, cookie := finalizeAuthenticatedSession site.db user cookie, answer
          opened := some user })
    (hnext : ∀ user, CodeSent env clientIp now cookie site user → P (next user)) :
    P (withPendingUser env clientIp now cookie site next) := by
  unfold withPendingUser
  split
  next cookie' hload =>
    exact hquiet _ _ fun p hp => loadPending2faUser_pending hload hp
  next user cookie' hload =>
    obtain ⟨rfl, -⟩ := loadPending2faUser_eq_some hload
    split
    next hrole => exact hoptional user hload (by simpa using hrole) _
    next hrole =>
      split
      next => exact hquiet _ _ fun p hp => (nomatch hp)
      next htenant => exact hnext user ⟨hload, by simpa using hrole, htenant⟩

/-- Everything that `two_factor_verify` can do. -/
theorem twoFactorVerify_cases {P : Handled → Prop}
    (hquiet : ∀ cookie' answer, (∀ p, cookie'.pending2faLogin = some p →
        cookie.pending2faLogin = some p) → P { site, cookie := cookie', answer })
    (hoptional : ∀ user, PendingUser env site.db clientIp now cookie user →
      isRole2faRequired user.role = false → ∀ answer,
      P { site, cookie := finalizeAuthenticatedSession site.db user cookie, answer
          opened := some user })
    (hright : ∀ user code, CodeSent env clientIp now cookie site user → post = some code →
      verifyTotp env user.totpSecret code now = true → ∀ message,
      P (acceptCode env user clientIp cookie message site))
    (hwrong : ∀ user code, CodeSent env clientIp now cookie site user → post = some code →
      (Tenants.nonempty user.totpSecret).isSome →
      verifyTotp env user.totpSecret code now = false → ∀ form,
      P (refuseCode env user clientIp now cookie form site)) :
    P (twoFactorVerify env clientIp post now cookie site) := by
  apply withPendingUser_cases hquiet hoptional
  intro user hsent
  dsimp only
  split
  next => exact hquiet _ _ fun _ hp => hp
  next hsecret =>
    split
    next => exact hquiet _ _ fun _ hp => hp
    next code =>
      split
      next hright' => exact hright user code hsent rfl hright' _
      next hwrong' =>
        exact hwrong user code hsent rfl (Option.isSome_iff_ne_none.mpr
          (by simpa using hsecret)) (Bool.eq_false_iff.mpr hwrong') _

/-- Everything that `two_factor_setup` can do. -/
theorem twoFactorSetup_cases {P : Handled → Prop}
    (hquiet : ∀ cookie' answer, (∀ p, cookie'.pending2faLogin = some p →
        cookie.pending2faLogin = some p) → P { site, cookie := cookie', answer })
    (hoptional : ∀ user, PendingUser env site.db clientIp now cookie user →
      isRole2faRequired user.role = false → ∀ answer,
      P { site, cookie := finalizeAuthenticatedSession site.db user cookie, answer
          opened := some user })
    (hright : ∀ user code, CodeSent env clientIp now cookie site user → post = some code →
      Tenants.nonempty user.totpSecret = none →
      verifyTotp env (some (setupSecret cookie newSecret)) code now = true →
      ∀ cookie' message, cookie'.pending2faLogin = cookie.pending2faLogin →
      P (acceptCode env user clientIp cookie' message
        { site with
          db :=
            { site.db with
              users := site.db.users.modify (fun u => u.id = user.id)
                (setTotpSecret (setupSecret cookie newSecret)) } }))
    (hwrong : ∀ user code, CodeSent env clientIp now cookie site user → post = some code →
      verifyTotp env (some (setupSecret cookie newSecret)) code now = false →
      ∀ cookie' form, cookie'.pending2faLogin = cookie.pending2faLogin →
      P (refuseCode env user clientIp now cookie' form site)) :
    P (twoFactorSetup env clientIp newSecret post now cookie site) := by
  apply withPendingUser_cases hquiet hoptional
  intro user hsent
  dsimp only
  split
  next => exact hquiet _ _ fun _ hp => hp
  next hsecret =>
    split
    next => exact hquiet _ _ fun _ hp => hp
    next code =>
      split
      next hright' => exact hright user code hsent rfl (by simpa using hsecret) hright' _ _ rfl
      next hwrong' =>
        exact hwrong user code hsent rfl (Bool.eq_false_iff.mpr hwrong') _ _ rfl

theorem refuseCode_eq {answer : Answer} : ∃ cookie' answer',
    refuseCode env user clientIp now cookie answer site =
      { site :=
          { site with
            attempts := recordFailedLoginAttempt env.clock clientIp
              (normalizeEmail env user.email) now site.attempts }
        cookie := cookie', answer := answer', checked := some (user, false) } ∧
      ∀ p, cookie'.pending2faLogin = some p → cookie.pending2faLogin = some p := by
  dsimp only [refuseCode]
  split
  · exact ⟨_, _, rfl, fun _ hp => (nomatch hp)⟩
  · exact ⟨_, _, rfl, fun _ hp => hp⟩

end Routes

end BackupCenter.Auth
