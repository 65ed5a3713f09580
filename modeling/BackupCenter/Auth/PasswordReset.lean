import BackupCenter.Lib.Exec
import BackupCenter.Superadmin.Users
import BackupCenter.Tenants.Users

/-!
# Password reset tokens

A token is the signed id and e-mail of a user. It is not stored: what makes it valid is its
signature, its age, and a user who still has both. The password of a user can change on five paths.
-/
namespace BackupCenter.Auth.PasswordReset

open BackupCenter.Lib
open BackupCenter.Tenants (Uuid User UserForm validatePasswordStrength nonempty)
open BackupCenter.Superadmin (UsersDb UsersEnv PlatformUserForm)

/-- What `serializer.dumps` signs, with the second in which it does. -/
structure Token where
  userId : Uuid
  email : String
  issuedAt : Nat
  deriving DecidableEq

structure ResetEnv extends UsersEnv where
  verifyPassword : String → String → Bool

/-- The database, the time in seconds, and the tokens that were signed. -/
structure World where
  db : UsersDb
  now : Nat
  issued : List Token := []

inductive Page where
  | login
  | forgotPassword
  | resetPassword
  | forcePasswordChange
  | afterLogin
  | profile
  deriving DecidableEq

/-- A page with the message flashed for it. -/
structure Answer where
  page : Page
  message : String
  category : Category
  deriving DecidableEq

/-! ## `forgot_password` -/

/-- The user whom the query finds for an e-mail. -/
def World.askedFor (w : World) (env : ResetEnv) (order : RowOrder User) (email : Option String) :
    Option User :=
  let email := strip (email.getD "")
  if email = "" then none
  else (order.apply w.db.users.rows).find? fun u => env.sqlLower u.email = env.lower email

def neutralAnswer : Answer :=
  ⟨.login, "Se o email estiver cadastrado, voce recebera instrucoes de recuperacao.", .info⟩

/-- `allowed` is the answer of the rate limit. -/
def forgotPassword (env : ResetEnv) (order : RowOrder User) (allowed : Bool)
    (email : Option String) (w : World) : Answer × World :=
  if allowed then
    match w.askedFor env order email with
    | none => (neutralAnswer, w)
    | some user => (neutralAnswer, { w with issued := w.issued ++ [⟨user.id, user.email, w.now⟩] })
  else
    (⟨.forgotPassword, "Muitas solicitacoes. Tente novamente em alguns minutos.", .error⟩, w)

/-! ## Passwords that users set -/

/-- The two fields of a form for a new password. -/
structure PasswordForm where
  password : Option String := none
  confirm : Option String := none

/-- The hash of a new password, or the message that refuses it. -/
def PasswordForm.accepted (env : ResetEnv) (form : PasswordForm) : Except String String :=
  if form.password.getD "" = "" ∨ form.password ≠ form.confirm then
    .error "As senhas nao conferem."
  else
    match validatePasswordStrength env.toEnv form.password with
    | some error => .error error
    | none => env.getPasswordHash (form.password.getD "")

def settingPassword (hash : String) (now : Nat) : Update User where
  apply u :=
    { u with passwordHash := hash, mustChangePassword := false, passwordChangedAt := some now }

def World.setPassword (w : World) (userId : Uuid) (f : Update User) : World :=
  { w with db := { w.db with users := w.db.users.modify (fun u => u.id = userId) f } }

inductive TokenError where
  | badSignature
  | signatureExpired

/-- `serializer.loads(token, max_age=3600)`: nobody else can sign. -/
def World.loads (w : World) (t : Token) : Except TokenError Token :=
  if t ∉ w.issued then .error .badSignature
  else if 3600 < w.now - t.issuedAt then .error .signatureExpired
  else .ok t

/-- The user whom `reset_password` finds for a token. -/
def World.holder (w : World) (t : Token) : Option User :=
  (w.db.users.find t.userId).filter fun u => u.email = t.email

def resetPassword (env : ResetEnv) (t : Token) (form : PasswordForm) (w : World) :
    Answer × World :=
  match w.loads t with
  | .error .signatureExpired =>
    (⟨.forgotPassword, "Token expirado. Solicite um novo reset.", .error⟩, w)
  | .error .badSignature => (⟨.forgotPassword, "Token invalido.", .error⟩, w)
  | .ok t =>
    match w.holder t with
    | none => (⟨.forgotPassword, "Usuario nao encontrado.", .error⟩, w)
    | some user =>
      match form.accepted env with
      | .error message => (⟨.resetPassword, message, .error⟩, w)
      | .ok hash =>
        (⟨.login, "Senha atualizada com sucesso.", .success⟩,
          w.setPassword user.id (settingPassword hash w.now))

/-- `force_password_change` for the user of the session -/
def forcePasswordChange (env : ResetEnv) (userId : Uuid) (form : PasswordForm) (w : World) :
    Answer × World :=
  match (w.db.users.find userId).filter fun u => u.isActive = some true with
  | none => (⟨.login, "Usuario nao encontrado. Faca login novamente.", .error⟩, w)
  | some user =>
    if user.mustChangePassword then
      match form.accepted env with
      | .error message => (⟨.forcePasswordChange, message, .error⟩, w)
      | .ok hash =>
        (⟨.afterLogin, "Senha atualizada com sucesso.", .success⟩,
          w.setPassword user.id (settingPassword hash w.now))
    else (⟨.afterLogin, "", .info⟩, w)

/-- `profile`, which asks for the current password -/
def profile (env : ResetEnv) (userId : Uuid) (fullName password currentPassword : Option String)
    (w : World) : Answer × World :=
  match w.db.users.find userId with
  | none => (⟨.login, "Usuario nao encontrado.", .error⟩, w)
  | some user =>
    let renamed (u : User) : User := { u with fullName := (nonempty fullName).getD u.fullName }
    let done : Answer := ⟨.profile, "Perfil atualizado com sucesso!", .success⟩
    match nonempty password with
    | none => (done, w.setPassword userId { apply := renamed })
    | some password =>
      match (nonempty currentPassword).filter fun p => env.verifyPassword p user.passwordHash with
      | none => (⟨.profile, "Senha atual invalida.", .error⟩, w)
      | some _ =>
        match env.getPasswordHash password with
        | .error e => (⟨.profile, "Erro ao atualizar perfil: " ++ e, .error⟩, w)
        | .ok hash =>
          (done, w.setPassword userId
            { apply := fun u => { renamed u with passwordHash := hash } })

/-! ## Runs -/

inductive Event where
  | wait (seconds : Nat)
  | forgotPassword (order : RowOrder User) (allowed : Bool) (email : Option String)
  | resetPassword (t : Token) (form : PasswordForm)
  | forcePasswordChange (userId : Uuid) (form : PasswordForm)
  | profile (userId : Uuid) (fullName password currentPassword : Option String)
  /-- `edit_user` of a tenant -/
  | editTenantUser (s : Tenants.Session) (tenantSlug : String) (userId : Tenants.Field Uuid)
      (form : UserForm)
  /-- `edit_user` of the platform -/
  | editPlatformUser (session : Cookie) (userId : Option Uuid) (form : PlatformUserForm)

/-- What a request of a tenant leaves; a refused one is rolled back. -/
def World.committed (w : World) : Tenants.Result → World
  | .ok (db, _) => { w with db := { w.db with toDatabase := db } }
  | .error _ => w

/-- The request is served; requests follow each other. -/
def World.step (env : ResetEnv) (w : World) : Event → Option World
  | .wait seconds => some { w with now := w.now + seconds }
  | .forgotPassword order allowed email =>
    some (PasswordReset.forgotPassword env order allowed email w).2
  | .resetPassword t form => some (PasswordReset.resetPassword env t form w).2
  | .forcePasswordChange userId form =>
    some (PasswordReset.forcePasswordChange env userId form w).2
  | .profile userId fullName password currentPassword =>
    some (PasswordReset.profile env userId fullName password currentPassword w).2
  | .editTenantUser s tenantSlug userId form =>
    some (w.committed (Tenants.editUser env.toEnv s tenantSlug userId form w.db.toDatabase))
  | .editPlatformUser session userId form =>
    some { w with
      db := ((Superadmin.editUser env.toUsersEnv session userId form).run
        (Superadmin.handleUser env.toUsersEnv) w.db).2 }

/-- The stored password of a user. -/
def World.passwordOf (w : World) (userId : Uuid) : Option String :=
  (w.db.users.find userId).map (·.passwordHash)

/-- `reset_password` lets the token set a password. -/
def World.Accepts (w : World) (t : Token) : Prop :=
  t ∈ w.issued ∧ w.now - t.issuedAt ≤ 3600 ∧ (w.holder t).isSome = true

/-! ## What a token is worth -/

/-- `forgot_password` signed the token at some step of the run. -/
def IssuedIn (env : ResetEnv) (start : World) (es : List Event) (t : Token) : Prop :=
  ∃ before after order email w user,
    es = before ++ .forgotPassword order true email :: after ∧
    exec (World.step env) start before = some w ∧
    w.askedFor env order email = some user ∧ t = ⟨user.id, user.email, w.now⟩

variable {env : ResetEnv} {w w' : World} {t : Token} {e : Event} {es : List Event}

section Issued

variable {order : RowOrder User} {allowed : Bool} {email : Option String} {form : PasswordForm}
  {userId : Uuid}

theorem issued_resetPassword : (resetPassword env t form w).2.issued = w.issued := by
  unfold resetPassword
  repeat' split
  all_goals rfl

theorem issued_forcePasswordChange :
    (forcePasswordChange env userId form w).2.issued = w.issued := by
  unfold forcePasswordChange
  repeat' split
  all_goals rfl

theorem issued_profile {fullName password currentPassword : Option String} :
    (profile env userId fullName password currentPassword w).2.issued = w.issued := by
  unfold profile
  dsimp only
  repeat' split
  all_goals rfl

theorem issued_committed {r : Tenants.Result} : (w.committed r).issued = w.issued := by
  cases r with
  | ok c => rfl
  | error e => rfl

theorem mem_issued_forgotPassword : t ∈ (forgotPassword env order allowed email w).2.issued ↔
    t ∈ w.issued ∨ allowed = true ∧
      ∃ user, w.askedFor env order email = some user ∧ t = ⟨user.id, user.email, w.now⟩ := by
  unfold forgotPassword
  cases allowed with
  | false => simp
  | true =>
    rw [if_pos rfl]
    cases w.askedFor env order email with
    | none => simp
    | some user => simp

/-- Only `forgot_password` signs tokens. -/
theorem step_issued (h : w.step env e = some w') : t ∈ w'.issued ↔ t ∈ w.issued ∨
    ∃ order email user, e = .forgotPassword order true email ∧
      w.askedFor env order email = some user ∧ t = ⟨user.id, user.email, w.now⟩ := by
  cases e with
  | forgotPassword order allowed email =>
    obtain rfl := Option.some.inj h
    rw [mem_issued_forgotPassword]
    apply or_congr_right
    constructor
    · rintro ⟨rfl, user, hasked, ht⟩
      exact ⟨order, email, user, rfl, hasked, ht⟩
    · rintro ⟨_, _, user, he, hasked, ht⟩
      cases he
      exact ⟨rfl, user, hasked, ht⟩
  | wait seconds =>
    obtain rfl := Option.some.inj h
    simp
  | resetPassword t' form =>
    obtain rfl := Option.some.inj h
    simp [issued_resetPassword]
  | forcePasswordChange userId form =>
    obtain rfl := Option.some.inj h
    simp [issued_forcePasswordChange]
  | profile userId fullName password currentPassword =>
    obtain rfl := Option.some.inj h
    simp [issued_profile]
  | editTenantUser s tenantSlug userId form =>
    obtain rfl := Option.some.inj h
    simp [issued_committed]
  | editPlatformUser session userId form =>
    obtain rfl := Option.some.inj h
    simp

/-- The tokens of a run are those that its requests had signed. -/
theorem mem_issued_iff {db : UsersDb} {now : Nat}
    (h : exec (World.step env) { db, now } es = some w) :
    t ∈ w.issued ↔ IssuedIn env { db, now } es t := by
  induction es using List.reverseRecOn generalizing w with
  | nil =>
    obtain rfl := Option.some.inj h
    constructor
    · intro hmem
      cases hmem
    · rintro ⟨before, after, order, email, _, _, hes, _⟩
      exact absurd hes.symm (by simp)
  | append_singleton es e ih =>
    obtain ⟨w₁, hbefore, hstep⟩ := exec_concat h
    rw [step_issued hstep, ih hbefore]
    constructor
    · rintro (⟨before, after, order, email, w₀, user, rfl, hw₀, hasked, ht⟩ |
        ⟨order, email, user, rfl, hasked, ht⟩)
      · exact ⟨before, after ++ [e], order, email, w₀, user, by simp, hw₀, hasked, ht⟩
      · exact ⟨es, [], order, email, w₁, user, rfl, hbefore, hasked, ht⟩
    · rintro ⟨before, after, order, email, w₀, user, hes, hw₀, hasked, ht⟩
      induction after using List.reverseRecOn with
      | nil =>
        obtain ⟨rfl, rfl⟩ := List.append_inj' hes rfl |>.imp_right fun h => List.singleton_inj.mp h
        obtain rfl := Option.some.inj (hbefore.symm.trans hw₀)
        exact .inr ⟨order, email, user, rfl, hasked, ht⟩
      | append_singleton after last _ =>
        rw [← List.cons_append, ← List.append_assoc] at hes
        obtain ⟨hes, _⟩ := List.append_inj' hes rfl
        exact .inl ⟨before, after, order, email, w₀, user, hes, hw₀, hasked, ht⟩

end Issued

/-! ## What `reset_password` does -/

theorem holder_isSome : (w.holder t).isSome = true ↔
    ∃ u ∈ w.db.users, u.id = t.userId ∧ u.email = t.email := by
  unfold World.holder
  rw [Option.isSome_iff_exists]
  constructor
  · rintro ⟨u, hu⟩
    obtain ⟨hfind, hemail⟩ := Option.filter_eq_some_iff.mp hu
    obtain ⟨hmem, hid⟩ := Table.find_eq_some.mp hfind
    exact ⟨u, hmem, hid, of_decide_eq_true hemail⟩
  · rintro ⟨u, hmem, hid, hemail⟩
    exact ⟨u, Option.filter_eq_some_iff.mpr
      ⟨Table.find_eq_some.mpr ⟨hmem, hid⟩, decide_eq_true hemail⟩⟩

variable (env w t) in
/-- A token is worth its user's password as long as it is accepted, and nothing else: what happened
to the password before does not matter. -/
structure Worth : Prop where
  sets : ∀ form hash, w.Accepts t → form.accepted env = .ok hash →
    (resetPassword env t form w).2.passwordOf t.userId = some hash
  nothing : ∀ form, ¬ w.Accepts t → (resetPassword env t form w).2 = w
  others : ∀ form u, u.id ≠ t.userId →
    (u ∈ (resetPassword env t form w).2.db.users ↔ u ∈ w.db.users)

/-- The cases of a reset: it is refused, or the token is accepted and the password is set. -/
theorem resetPassword_cases (env : ResetEnv) (w : World) (t : Token) (form : PasswordForm) :
    (resetPassword env t form w).2 = w ∧ (w.Accepts t → ∀ hash, form.accepted env ≠ .ok hash) ∨
    w.Accepts t ∧ ∃ hash, form.accepted env = .ok hash ∧ (resetPassword env t form w).2 =
      w.setPassword t.userId (settingPassword hash w.now) := by
  unfold resetPassword World.loads
  by_cases hissued : t ∈ w.issued
  · by_cases hage : 3600 < w.now - t.issuedAt
    · rw [if_neg (by simpa using hissued), if_pos hage]
      exact .inl ⟨rfl, fun haccepts => absurd haccepts.2.1 (Nat.not_le.mpr hage)⟩
    · rw [if_neg (by simpa using hissued), if_neg hage]
      dsimp only
      cases hholder : w.holder t with
      | none =>
        refine .inl ⟨rfl, fun haccepts => ?_⟩
        have hsome := haccepts.2.2
        rw [hholder] at hsome
        cases hsome
      | some user =>
        have haccepts : w.Accepts t := ⟨hissued, Nat.not_lt.mp hage, by rw [hholder]; rfl⟩
        have hid : user.id = t.userId :=
          (Table.find_eq_some.mp (Option.filter_eq_some_iff.mp hholder).1).2
        dsimp only
        cases hform : form.accepted env with
        | error message => exact .inl ⟨rfl, fun _ hash => by simp⟩
        | ok hash =>
          refine .inr ⟨haccepts, hash, rfl, ?_⟩
          rw [hid]
  · rw [if_pos hissued]
    exact .inl ⟨rfl, fun haccepts => absurd haccepts.1 hissued⟩

theorem worth (env : ResetEnv) (w : World) (t : Token) : Worth env w t where
  sets := by
    intro form hash haccepts hform
    rcases resetPassword_cases env w t form with
      ⟨_, hrefused⟩ | ⟨_, hash', hform', hset⟩
    · exact absurd hform (hrefused haccepts hash)
    · obtain rfl := Except.ok.inj (hform'.symm.trans hform)
      obtain ⟨u, hu⟩ := Option.isSome_iff_exists.mp haccepts.2.2
      have hfind : w.db.users.find t.userId = some u := (Option.filter_eq_some_iff.mp hu).1
      have hafter : (w.setPassword t.userId (settingPassword hash' w.now)).db.users.find t.userId =
          _ := Table.find_modify_self
      rw [hset, World.passwordOf, hafter, hfind]
      rfl
  nothing := by
    intro form hnot
    rcases resetPassword_cases env w t form with ⟨hsame, _⟩ | ⟨haccepts, _⟩
    · exact hsame
    · exact absurd haccepts hnot
  others := by
    intro form u hother
    rcases resetPassword_cases env w t form with
      ⟨hsame, _⟩ | ⟨_, hash, _, hset⟩
    · rw [hsame]
    · rw [hset]
      have huntouched : Table.Untouched (fun u => u.id ≠ t.userId) w.db.users
          (w.setPassword t.userId (settingPassword hash w.now)).db.users :=
        Table.untouched_modify_of (fun r => by rfl) fun r _ hr => by simpa using hr
      exact (huntouched u hother).symm

/-- **A token of a run is accepted** exactly if `forgot_password` signed it at most an hour ago and
its user still has its e-mail; it is then worth the password of that user, however often it was used
and whatever has changed the password since. -/
theorem accepts_iff (env : ResetEnv) (db : UsersDb) (now : Nat) (es : List Event) (w : World)
    (hrun : exec (World.step env) { db, now } es = some w) (t : Token) :
    (w.Accepts t ↔ IssuedIn env { db, now } es t ∧ w.now - t.issuedAt ≤ 3600 ∧
      ∃ u ∈ w.db.users, u.id = t.userId ∧ u.email = t.email) ∧ Worth env w t := by
  refine ⟨?_, worth env w t⟩
  rw [World.Accepts, mem_issued_iff hrun, holder_isSome]

/-! ## A token that is used again -/

/-- Tokens are for one use: after the password of its user has changed, a token changes nothing. -/
def SingleUse (env : ResetEnv) : Prop :=
  ∀ (db : UsersDb) (now : Nat) (es₁ es₂ : List Event) (w₁ w₂ : World) (t : Token)
    (form : PasswordForm), exec (World.step env) { db, now } es₁ = some w₁ → t ∈ w₁.issued →
    exec (World.step env) w₁ es₂ = some w₂ →
    w₂.passwordOf t.userId ≠ w₁.passwordOf t.userId →
    (resetPassword env t form w₂).2.passwordOf t.userId = w₂.passwordOf t.userId

def plainEnv : ResetEnv where
  toEnv := .ascii
  describeStale := ""
  verifyPassword password hash := password = hash

def ana : User where
  id := 1
  tenantId := some 1
  email := "ana@acme"
  fullName := "Ana"
  passwordHash := "old"
  mustChangePassword := true

def oneUser : UsersDb where
  users := { rows := [ana] }

def anaToken : Token := ⟨1, "ana@acme", 0⟩

def newPassword (password : String) : PasswordForm := ⟨some password, some password⟩

def forgotten : Event := .forgotPassword .asStored true (some "Ana@acme ")

def passwordAfter (es : List Event) : Option (Option String) :=
  (exec (World.step plainEnv) { db := oneUser, now := 0 } es).map fun w => w.passwordOf 1

/-- A token changes the password twice, and also after the user has changed it. -/
theorem tokens_are_reusable :
    (¬ ∀ env, SingleUse env) ∧
    passwordAfter [forgotten, .resetPassword anaToken (newPassword "Senha-12"), .wait 3600,
      .resetPassword anaToken (newPassword "Outra-34")] = some (some "Outra-34") ∧
    passwordAfter [forgotten, .forcePasswordChange 1 (newPassword "Senha-12"),
      .resetPassword anaToken (newPassword "Outra-34")] = some (some "Outra-34") := by
  refine ⟨fun hall => ?_, by decide +kernel, by decide +kernel⟩
  have hsame := hall plainEnv oneUser 0 [forgotten]
    [.resetPassword anaToken (newPassword "Senha-12")] _ _ anaToken (newPassword "Outra-34") rfl
    (by decide +kernel) rfl (by decide +kernel)
  revert hsame
  decide +kernel

/-- The token that has changed the password is still accepted. -/
theorem used_token_accepted :
    ((exec (World.step plainEnv) { db := oneUser, now := 0 }
      [forgotten, .resetPassword anaToken (newPassword "Senha-12")]).get rfl).Accepts anaToken := by
  apply (accepts_iff plainEnv oneUser 0 _ _ (Option.some_get _).symm anaToken).1.mpr
  refine ⟨⟨[], _, .asStored, some "Ana@acme ", _, ana, rfl, rfl, by decide +kernel, rfl⟩,
    by decide +kernel, ?_⟩
  rw [← holder_isSome]
  decide +kernel

end BackupCenter.Auth.PasswordReset
