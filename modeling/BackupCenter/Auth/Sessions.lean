import BackupCenter.Auth.Login
import BackupCenter.Lib.Exec

/-!
# Who gets a session and who keeps it

Any number of clients log in and use their sessions while the administration changes users
and tenants. A session is opened only after all checks, save for an inactive super admin; a
session that is open outlives the deactivation of its user.
-/
namespace BackupCenter.Auth

open BackupCenter.Lib
open BackupCenter.Tenants (Uuid)

inductive Request where
  | login (form : LoginForm) (clientIp newSecret : String)
  | twoFactorSetup (clientIp newSecret : String) (post : Option (Option String))
  | twoFactorVerify (clientIp : String) (post : Option (Option String))
  | twoFactorCancel
  | logout
  /-- a page behind `login_required`, below `/tenant/<slug>` or elsewhere -/
  | page (slug : Option String)

def Request.serve (env : Env) (now : Nat) (cookie : Cookie) (site : Site) : Request → Handled
  | login form clientIp newSecret => Auth.login env form clientIp newSecret now cookie site
  | twoFactorSetup clientIp newSecret post =>
    Auth.twoFactorSetup env clientIp newSecret post now cookie site
  | twoFactorVerify clientIp post => Auth.twoFactorVerify env clientIp post now cookie site
  | twoFactorCancel => Auth.twoFactorCancel cookie site
  | logout => Auth.logout site
  | page slug => Auth.page slug cookie site

/-- A cookie that was given out, and the step that opened its session. -/
structure Issued where
  cookie : Cookie
  openedAt : Nat

structure World where
  site : Site
  now : Nat
  /-- the number of steps so far -/
  steps : Nat := 0
  issued : List Issued := [⟨{}, 0⟩]
  /-- the pending logins stored so far, each after a right password -/
  stored : List Pending := []
  /-- the step that last deactivated a user -/
  deactivatedAt : Uuid → Option Nat := fun _ => none

inductive Event where
  | tick (d : Nat)
  /-- a request with the cookie given out as number `i` -/
  | request (i : Nat) (r : Request)
  | addUser (user : Account)
  | updateUser (userId : Uuid) (f : Update Account)
  | deleteUser (userId : Uuid)
  | setCompanies (companies : List Company)

def World.withUsers (w : World) (users : Table Account) : World :=
  { w with site := { w.site with db := { w.site.db with users } } }

/-- The user was active in the first table and is not in the second. -/
def deactivates (users users' : Table Account) (userId : Uuid) : Bool :=
  (users.find userId).any (fun u => u.isActive = some true) &&
    !(users'.find userId).any (fun u => u.isActive = some true)

/-- A change of the users by the administration. -/
def World.administer (w : World) (userId : Uuid) (users : Table Account) : World :=
  { w.withUsers users with
    deactivatedAt :=
      if deactivates w.site.db.users users userId then
        Function.update w.deactivatedAt userId (some w.steps)
      else w.deactivatedAt }

/-- A request with a cookie. -/
def World.answer (env : Env) (w : World) (c : Issued) (r : Request) : World :=
  let h := r.serve env w.now c.cookie w.site
  { w with
    site := h.site
    issued := w.issued ++ [⟨h.cookie, if h.opened.isSome then w.steps else c.openedAt⟩]
    stored := h.stored.toList ++ w.stored }

def World.step (env : Env) (w : World) (e : Event) : Option World :=
  let w' : Option World :=
    match e with
    | .tick d => some { w with now := w.now + d }
    | .request i r => w.issued[i]?.map fun c => w.answer env c r
    | .addUser user => (w.site.db.users.add user).map w.withUsers
    | .updateUser userId f =>
      some (w.administer userId (w.site.db.users.modify (fun u => u.id = userId) f))
    | .deleteUser userId =>
      some (w.administer userId (w.site.db.users.erase fun u => u.id = userId))
    | .setCompanies companies =>
      some { w with site := { w.site with db := { w.site.db with companies } } }
  w'.map fun w' => { w' with steps := w.steps + 1 }

/-! ## What is promised -/

/-- The code of the request is right for the second factor of the user, or for the one that
the user sets up. -/
def Request.ValidCode (env : Env) (now : Nat) (cookie : Cookie) (user : Account) :
    Request → Prop
  | twoFactorVerify _ post =>
    ∃ code, post = some code ∧ verifyTotp env user.totpSecret code now = true
  | twoFactorSetup _ newSecret post => Tenants.nonempty user.totpSecret = none ∧
    ∃ code, post = some code ∧
      verifyTotp env (some (setupSecret cookie newSecret)) code now = true
  | _ => False

/-- The session of `user` that the request opens is one that it should open. -/
structure SoundlyOpened (env : Env) (w : World) (c : Issued) (r : Request) (user : Account) :
    Prop where
  row : w.site.db.users.find user.id = some user
  active : user.isActive = some true
  tenant : user.role ≠ .superAdmin →
    ∀ t, w.site.db.tenantOf user = some t → t.isActive = some true
  code : isRole2faRequired user.role = true → r.ValidCode env w.now c.cookie user ∧
    ∃ pending ∈ w.stored, c.cookie.pending2faLogin = some pending ∧ pending.userId = user.id

/-- The user of the session was deactivated after it was opened. -/
def World.DeactivatedSince (w : World) (c : Issued) : Prop :=
  ∃ userId d, c.cookie.userId = some userId ∧ w.deactivatedAt userId = some d ∧ c.openedAt ≤ d

def Authenticated (env : Env) (w : World) : Event → Prop
  | .request i r => ∀ c, w.issued[i]? = some c →
    (∀ user, (r.serve env w.now c.cookie w.site).opened = some user →
      SoundlyOpened env w c r user) ∧
    ∀ slug, r = .page slug →
      (r.serve env w.now c.cookie w.site).answer.page = .served → ¬ w.DeactivatedSince c
  | _ => True

/-- No inactive user without second factor gives the right password, and no session of a user
who was deactivated since comes to a page, save where a guard turns it away. -/
def Permitted (env : Env) (w : World) : Event → Prop
  | .request i r => ∀ c, w.issued[i]? = some c →
    match r with
    | .login form clientIp _ => ∀ user, PasswordAccepted env form clientIp w.now w.site user →
        isRole2faRequired user.role = false → user.isActive = some true
    | .page slug => w.DeactivatedSince c → guardForcePasswordChange w.site.db c.cookie = true ∨
        (guardInactiveTenantAccess w.site.db c.cookie slug).isSome = true
    | _ => True
  | _ => True

/-- Every pending login in a cookie was stored after a right password. -/
def PendingStored (w : World) : Prop :=
  ∀ c ∈ w.issued, ∀ p, c.cookie.pending2faLogin = some p → p ∈ w.stored

section Step

variable {env : Env} {w w' : World} {c : Issued} {r : Request} {user : Account} {e : Event}

theorem inactiveTenantOf_eq_none {db : AuthDb} (h : inactiveTenantOf db user = none)
    (hrole : user.role ≠ .superAdmin) {t : Company} (ht : db.tenantOf user = some t) :
    t.isActive = some true := by
  unfold inactiveTenantOf at h
  rw [if_pos hrole, ht] at h
  by_contra hinactive
  simp [Option.filter_some, hinactive] at h

theorem isRole2faRequired_eq_false {role : Tenants.UserRole} :
    isRole2faRequired role = false ↔ role = .superAdmin := by
  simp [isRole2faRequired]

/-- A user whom the password authenticates is a row of the table. -/
theorem PasswordAccepted.row {form : LoginForm} {clientIp : String} {now : Nat} {site : Site}
    (h : PasswordAccepted env form clientIp now site user) :
    site.db.users.find user.id = some user := by
  have hauth := h.authenticated
  unfold authenticateUser at hauth
  split at hauth
  next => cases hauth
  next found hfound =>
    have hmem : found ∈ site.db.users := List.mem_of_find?_eq_some hfound
    cases hverify : env.verifyPassword form.password found.passwordHash with
    | error e =>
      rw [hverify] at hauth
      cases hauth
    | ok right =>
      rw [hverify] at hauth
      cases right with
      | false => cases hauth
      | true =>
        obtain rfl : found = user := by simpa [Except.map] using hauth
        exact Table.find_eq_some.mpr ⟨hmem, rfl⟩

/-- A super admin whose pending login is good needs no code. -/
theorem soundlyOpened_optional {clientIp : String}
    (hpending : PendingUser env w.site.db clientIp w.now c.cookie user)
    (hrole : isRole2faRequired user.role = false) : SoundlyOpened env w c r user := by
  obtain ⟨-, pending, hp, husable, hfind, hactive⟩ := loadPending2faUser_eq_some hpending
  constructor
  · exact Table.find_eq_some.mpr ⟨(Table.find_eq_some.mp hfind).1, rfl⟩
  · exact hactive
  · intro hnot
    exact absurd (isRole2faRequired_eq_false.mp hrole) hnot
  · intro hrequired
    rw [hrole] at hrequired
    cases hrequired

/-- A user who sent a right code has passed every check. -/
theorem soundlyOpened_code {clientIp : String} (hstored : PendingStored w) (hc : c ∈ w.issued)
    (hsent : CodeSent env clientIp w.now c.cookie w.site user)
    (hcode : r.ValidCode env w.now c.cookie user) : SoundlyOpened env w c r user := by
  obtain ⟨-, pending, hp, husable, hfind, hactive⟩ := loadPending2faUser_eq_some hsent.pending
  have hrow := Table.find_eq_some.mp hfind
  constructor
  · exact Table.find_eq_some.mpr ⟨hrow.1, rfl⟩
  · exact hactive
  · intro hrole t ht
    exact inactiveTenantOf_eq_none hsent.tenant hrole ht
  · intro _
    exact ⟨hcode, pending, hstored c hc pending hp, hp, hrow.2.symm⟩

/-- A code that opens a session, or a role that needs none. -/
theorem twoFactorVerify_sound {clientIp : String} {post : Option (Option String)}
    (hstored : PendingStored w) (hc : c ∈ w.issued)
    (hopened : (twoFactorVerify env clientIp post w.now c.cookie w.site).opened = some user) :
    SoundlyOpened env w c (.twoFactorVerify clientIp post) user := by
  revert hopened
  apply twoFactorVerify_cases (P := fun h => h.opened = some user →
    SoundlyOpened env w c (.twoFactorVerify clientIp post) user)
  · exact fun _ _ _ hopened => nomatch hopened
  · intro found hpending hrole _ hopened
    obtain rfl := Option.some.inj hopened
    exact soundlyOpened_optional hpending hrole
  · intro found code hsent hpost hright _ hopened
    obtain rfl := Option.some.inj hopened
    exact soundlyOpened_code hstored hc hsent ⟨code, hpost, hright⟩
  · intro found code _ _ _ _ form hopened
    obtain ⟨_, _, heq, -⟩ := @refuseCode_eq env clientIp w.now c.cookie w.site
      found form
    rw [heq] at hopened
    cases hopened

theorem twoFactorSetup_sound {clientIp newSecret : String} {post : Option (Option String)}
    (hstored : PendingStored w) (hc : c ∈ w.issued)
    (hopened : (twoFactorSetup env clientIp newSecret post w.now c.cookie w.site).opened =
      some user) :
    SoundlyOpened env w c (.twoFactorSetup clientIp newSecret post) user := by
  revert hopened
  apply twoFactorSetup_cases (P := fun h => h.opened = some user →
    SoundlyOpened env w c (.twoFactorSetup clientIp newSecret post) user)
  · exact fun _ _ _ hopened => nomatch hopened
  · intro found hpending hrole _ hopened
    obtain rfl := Option.some.inj hopened
    exact soundlyOpened_optional hpending hrole
  · intro found code hsent hpost hnone hright _ _ _ hopened
    obtain rfl := Option.some.inj hopened
    exact soundlyOpened_code hstored hc hsent ⟨hnone, code, hpost, hright⟩
  · intro found code _ _ _ cookie' form _ hopened
    obtain ⟨_, _, heq, -⟩ := @refuseCode_eq env clientIp w.now cookie' w.site
      found form
    rw [heq] at hopened
    cases hopened

/-- A password alone opens a session exactly for a role that needs no second factor. -/
theorem login_opened {form : LoginForm} {clientIp newSecret : String} :
    (login env form clientIp newSecret w.now c.cookie w.site).opened = some user ↔
      PasswordAccepted env form clientIp w.now w.site user ∧
        isRole2faRequired user.role = false := by
  constructor
  · intro hopened
    revert hopened
    apply login_cases (P := fun h => h.opened = some user →
      PasswordAccepted env form clientIp w.now w.site user ∧ isRole2faRequired user.role = false)
    · exact fun _ hopened => nomatch hopened
    · exact fun _ _ _ hopened => nomatch hopened
    · exact fun _ _ _ _ _ hopened => nomatch hopened
    · intro found haccepted hrole _ hopened
      obtain rfl := Option.some.inj hopened
      exact ⟨haccepted, hrole⟩
  · rintro ⟨⟨hfree, hauth, htenant⟩, hrole⟩
    simp [login, hfree, hauth, htenant, hrole]

theorem soundlyOpened_password {form : LoginForm} {clientIp newSecret : String}
    (haccepted : PasswordAccepted env form clientIp w.now w.site user)
    (hrole : isRole2faRequired user.role = false) (hactive : user.isActive = some true) :
    SoundlyOpened env w c (.login form clientIp newSecret) user := by
  constructor
  · exact haccepted.row
  · exact hactive
  · intro hnot
    exact absurd (isRole2faRequired_eq_false.mp hrole) hnot
  · intro hrequired
    rw [hrole] at hrequired
    cases hrequired

/-- A page is served to every session that no guard turns away. -/
theorem page_served {slug : Option String} :
    (page slug c.cookie w.site).answer.page = .served ↔
      guardForcePasswordChange w.site.db c.cookie = false ∧
        guardInactiveTenantAccess w.site.db c.cookie slug = none ∧ c.cookie.userId.isSome := by
  unfold page
  cases hforce : guardForcePasswordChange w.site.db c.cookie with
  | true => simp
  | false =>
    cases hguard : guardInactiveTenantAccess w.site.db c.cookie slug with
    | some tenant => simp
    | none => cases hsession : c.cookie.userId <;> simp

theorem page_opened {slug : Option String} : (page slug c.cookie w.site).opened = none := by
  unfold page
  split
  · rfl
  · split
    · rfl
    · split <;> rfl

/-- One request keeps the promise exactly when it is permitted. -/
theorem authenticated_iff (hstored : PendingStored w) :
    Authenticated env w e ↔ Permitted env w e := by
  cases e with
  | request i r =>
    apply forall_congr'
    intro c
    apply imp_congr_right
    intro hi
    have hc : c ∈ w.issued := List.mem_of_getElem? hi
    cases r with
    | login form clientIp newSecret =>
      simp only [reduceCtorEq, false_implies, implies_true, and_true]
      constructor
      · intro hsound user haccepted hrole
        exact (hsound user (login_opened.mpr ⟨haccepted, hrole⟩)).active
      · intro hactive user hopened
        obtain ⟨haccepted, hrole⟩ := login_opened.mp hopened
        exact soundlyOpened_password haccepted hrole (hactive user haccepted hrole)
    | twoFactorSetup clientIp newSecret post =>
      simp only [reduceCtorEq, false_implies, implies_true, and_true, iff_true]
      exact fun user => twoFactorSetup_sound hstored hc
    | twoFactorVerify clientIp post =>
      simp only [reduceCtorEq, false_implies, implies_true, and_true, iff_true]
      exact fun user => twoFactorVerify_sound hstored hc
    | twoFactorCancel => exact iff_of_true ⟨fun _ h => (nomatch h), fun _ h => (nomatch h)⟩ trivial
    | logout => exact iff_of_true ⟨fun _ h => (nomatch h), fun _ h => (nomatch h)⟩ trivial
    | page slug =>
      constructor
      · rintro ⟨-, hserved⟩ hsince
        have hsession : c.cookie.userId.isSome = true := by
          obtain ⟨userId, _, hid, -⟩ := hsince
          rw [hid]
          rfl
        by_contra hopen
        obtain ⟨hforce, hguard⟩ := not_or.mp hopen
        apply hserved slug rfl (page_served.mpr ⟨by simpa using hforce, by simpa using hguard,
          hsession⟩) hsince
      · intro hguards
        refine ⟨fun user hopened => ?_, fun slug' hslug hserved hsince => ?_⟩
        · rw [Request.serve, page_opened] at hopened
          cases hopened
        · obtain rfl := Request.page.inj hslug
          obtain ⟨hforce, hguard, -⟩ := page_served.mp hserved
          rcases hguards hsince with h | h
          · rw [hforce] at h
            cases h
          · rw [hguard] at h
            cases h
  | tick d => exact Iff.rfl
  | addUser user => exact Iff.rfl
  | updateUser userId f => exact Iff.rfl
  | deleteUser userId => exact Iff.rfl
  | setCompanies companies => exact Iff.rfl

/-- A pending login in the answer was in the request or has just been stored. -/
theorem serve_pending {p : Pending}
    (hp : (r.serve env w.now c.cookie w.site).cookie.pending2faLogin = some p) :
    c.cookie.pending2faLogin = some p ∨ (r.serve env w.now c.cookie w.site).stored = some p := by
  revert hp
  cases r with
  | login form clientIp newSecret =>
    apply login_cases (P := fun h => h.cookie.pending2faLogin = some p →
      c.cookie.pending2faLogin = some p ∨ h.stored = some p)
    · exact fun _ hp => .inl hp
    · exact fun _ _ _ hp => .inl hp
    · exact fun _ _ _ _ _ hp => .inr hp
    · exact fun _ _ _ _ hp => nomatch hp
  | twoFactorSetup clientIp newSecret post =>
    apply twoFactorSetup_cases (P := fun h => h.cookie.pending2faLogin = some p →
      c.cookie.pending2faLogin = some p ∨ h.stored = some p)
    · exact fun _ _ hkept hp => .inl (hkept p hp)
    · exact fun _ _ _ _ hp => nomatch hp
    · exact fun _ _ _ _ _ _ _ _ _ hp => nomatch hp
    · intro user code _ _ _ cookie' form hsame hp
      obtain ⟨_, _, heq, hkept⟩ := @refuseCode_eq env clientIp w.now cookie'
        w.site user form
      rw [heq] at hp
      exact .inl (hsame ▸ hkept p hp)
  | twoFactorVerify clientIp post =>
    apply twoFactorVerify_cases (P := fun h => h.cookie.pending2faLogin = some p →
      c.cookie.pending2faLogin = some p ∨ h.stored = some p)
    · exact fun _ _ hkept hp => .inl (hkept p hp)
    · exact fun _ _ _ _ hp => nomatch hp
    · exact fun _ _ _ _ _ _ hp => nomatch hp
    · intro user code _ _ _ _ form hp
      obtain ⟨_, _, heq, hkept⟩ := @refuseCode_eq env clientIp w.now c.cookie
        w.site user form
      rw [heq] at hp
      exact .inl (hkept p hp)
  | twoFactorCancel => exact fun hp => nomatch hp
  | logout => exact fun hp => nomatch hp
  | page slug =>
    simp only [Request.serve, page]
    split
    · exact .inl
    · split
      · exact fun hp => nomatch hp
      · split
        · exact .inl
        · exact .inl

theorem step_pendingStored (hstored : PendingStored w) (h : w.step env e = some w') :
    PendingStored w' := by
  obtain ⟨w₁, hw₁, rfl⟩ := Option.map_eq_some_iff.mp h
  cases e with
  | request i r =>
    obtain ⟨c, hi, rfl⟩ := Option.map_eq_some_iff.mp hw₁
    intro c' hc' p hp
    simp only [World.answer, List.mem_append, List.mem_singleton, Option.mem_toList] at hc' ⊢
    rcases hc' with hold | rfl
    · exact .inr (hstored c' hold p hp)
    · rcases serve_pending hp with hreq | hnew
      · exact .inr (hstored c (List.mem_of_getElem? hi) p hreq)
      · exact .inl hnew
  | addUser user =>
    obtain ⟨users, -, rfl⟩ := Option.map_eq_some_iff.mp hw₁
    exact hstored
  | tick d =>
    obtain rfl := Option.some.inj hw₁
    exact hstored
  | updateUser userId f =>
    obtain rfl := Option.some.inj hw₁
    exact hstored
  | deleteUser userId =>
    obtain rfl := Option.some.inj hw₁
    exact hstored
  | setCompanies companies =>
    obtain rfl := Option.some.inj hw₁
    exact hstored

end Step

/-- **Every session is opened soundly and none outlives its user** exactly in the runs whose
steps are all permitted. -/
theorem sessions_authenticated_iff (env : Env) (site : Site) (now : Nat) (es : List Event) :
    Along (World.step env) (Authenticated env) { site, now } es ↔
      Along (World.step env) (Permitted env) { site, now } es := by
  apply @along_congr _ _ _ PendingStored
  · exact fun _ _ _ => step_pendingStored
  · exact fun _ _ => authenticated_iff
  · intro c hc p hp
    obtain rfl := List.mem_singleton.mp hc
    cases hp

/-- Passwords are stored as they are, and every code is zero. -/
def plainEnv : Env where
  clock := ⟨1, Nat.one_pos⟩
  lower := asciiLower
  isDigit := Char.isDigit
  totpAt _ _ := "000000"
  verifyPassword password hash := .ok (password = some hash)

def rootAccount : Account where
  id := 99
  tenantId := none
  email := "root"
  fullName := "Root"
  passwordHash := "secret"
  role := .superAdmin

def deactivation : Update Account where
  apply u := { u with isActive := some false }

def rootSite : Site where
  db := { users := { rows := [rootAccount] } }
  attempts := .redis {}

def rootLogin : Request := .login { email := "root", password := "secret" } "10.0.0.1" ""

/-- A user logs in, is deactivated and goes on. -/
def sessionOutlivesUser : List Event :=
  [.request 0 rootLogin, .updateUser 99 deactivation, .request 1 (.page none)]

/-- A deactivated user logs in. -/
def inactiveLogin : List Event := [.updateUser 99 deactivation, .request 0 rootLogin]

theorem sessions_not_authenticated :
    (¬ ∀ (env : Env) (site : Site) (now : Nat) (es : List Event),
      Along (World.step env) (Authenticated env) { site, now } es) ∧
    ¬ Along (World.step plainEnv) (Authenticated plainEnv) { site := rootSite, now := 1000 }
      inactiveLogin := by
  constructor
  · intro hall
    have hrun := hall plainEnv rootSite 1000 sessionOutlivesUser
    have hpage := ((hrun.2 _ rfl).2 _ rfl).1 _ rfl
    exact hpage.2 none rfl rfl ⟨99, 1, rfl, rfl, by decide⟩
  · intro hrun
    have hlogin := (hrun.2 _ rfl).1 _ rfl
    have hactive := (hlogin.1 _ rfl).active
    cases hactive

end BackupCenter.Auth
