import BackupCenter.Auth.Sessions

/-!
# Guessing the second factor

An attacker who knows a password tries codes. The failures of the e-mail bound the number of
wrong codes only while nothing clears or forgets them and no code is tried during a block:
a right password clears them, Redis forgets them with its window, and `two_factor_verify`
asks about the block only after it has looked at the code.
-/
namespace BackupCenter.Auth

open BackupCenter.Lib
open BackupCenter.Tenants (Uuid)

/-! ## One ledger against the wrong codes -/

/-- The next failure starts a new counter on Redis. -/
def Ledger.opensWindow (now : Nat) : Ledger → Bool
  | redis counter _ => (counter.filter fun e => e.2.all (now < ·)).isNone
  | memory .. => false

/-- The ledger still counts every recent wrong code, as long as its counter lives. -/
def Ledger.Covers (c : Clock) (now : Nat) (wrong : List Nat) : Ledger → Prop
  | redis counter _ => ∀ later ≥ now, ∀ n expiry, counter = some (n, expiry) →
      expiry.all (later < ·) → (recent c.loginLockoutSeconds later wrong).length ≤ n
  | memory attempts _ => ∀ later ≥ now, (recent c.loginLockoutSeconds later wrong).length ≤
      (pruneAttempts attempts later c.loginWindowSeconds).length

/-- Whenever the recent wrong codes reach the limit, there is a block. -/
def Ledger.BlocksAt (c : Clock) (limit now : Nat) (wrong : List Nat) (l : Ledger) : Prop :=
  ∀ later ≥ now, limit ≤ (recent c.loginLockoutSeconds later wrong).length → l.blocks later = true

section Ledger

variable {c : Clock} {limit now : Nat} {wrong wrong' : List Nat} {l : Ledger}

theorem recent_eq_nil_of_le {w later : Nat} (hle : now ≤ later) (h : recent w now wrong = []) :
    recent w later wrong = [] := by
  have hanti := recent_length_anti (w := w) (h := wrong) hle
  rw [h] at hanti
  exact List.length_eq_zero_iff.mp (Nat.le_zero.mp hanti)

theorem Ledger.Covers.later {later : Nat} (h : l.Covers c now wrong) (hle : now ≤ later) :
    l.Covers c later wrong := by
  cases l with
  | redis counter block => exact fun t ht => h t (Nat.le_trans hle ht)
  | memory attempts blockedUntil => exact fun t ht => h t (Nat.le_trans hle ht)

theorem Ledger.BlocksAt.later {later : Nat} (h : l.BlocksAt c limit now wrong)
    (hle : now ≤ later) : l.BlocksAt c limit later wrong :=
  fun t ht => h t (Nat.le_trans hle ht)

/-- Without recent wrong codes there is nothing to cover. -/
theorem covers_of_no_recent (h : recent c.loginLockoutSeconds now wrong = []) :
    l.Covers c now wrong := by
  cases l with
  | redis counter block =>
    intro later hle n expiry _ _
    rw [recent_eq_nil_of_le hle h]
    exact Nat.zero_le _
  | memory attempts blockedUntil =>
    intro later hle
    rw [recent_eq_nil_of_le hle h]
    exact Nat.zero_le _

theorem blocksAt_of_no_recent (hlimit : 0 < limit)
    (h : recent c.loginLockoutSeconds now wrong = []) : l.BlocksAt c limit now wrong := by
  intro later hle hfull
  rw [recent_eq_nil_of_le hle h, List.length_nil] at hfull
  omega

/-- At most the present failure is a new wrong code. -/
theorem recent_length_le_of_added {w later : Nat}
    (hadded : wrong' = wrong ∨ wrong' = now :: wrong) :
    (recent w later wrong').length ≤
      (recent w later wrong).length + (recent w later [now]).length := by
  rcases hadded with rfl | rfl
  · exact Nat.le_add_right _ _
  · have happend : recent w later (now :: wrong) = recent w later [now] ++ recent w later wrong :=
      @List.filter_append _ _ [now] wrong
    rw [happend, List.length_append]
    omega

/-- A counter is live right after it was counted up. -/
theorem counted_live {counter : Option (Nat × Option Nat)} :
    (Ledger.counted c now counter).2.all (now < ·) = true := by
  have hpos := c.loginWindowSeconds_pos
  unfold Ledger.counted
  split
  next n expiry hlive =>
    obtain ⟨-, hall⟩ := Option.filter_eq_some_iff.mp hlive
    split
    · simpa using hpos
    · exact hall
  next => simpa using hpos

/-- A failure that is counted covers one more wrong code. -/
theorem Ledger.Covers.count (h : l.Covers c now wrong)
    (hopens : l.opensWindow now = true → recent c.loginLockoutSeconds now wrong = [])
    (hadded : wrong' = wrong ∨ wrong' = now :: wrong) :
    (l.count c limit now).Covers c now wrong' := by
  cases l with
  | redis counter block =>
    intro later hle n expiry hentry hlive
    have hnew : (recent c.loginLockoutSeconds later [now]).length ≤ 1 :=
      recent_sublist.length_le
    have hadd := @recent_length_le_of_added _ _ _ c.loginLockoutSeconds later hadded
    have hentry := Option.some.inj hentry
    unfold Ledger.counted at hentry
    split at hentry
    next m e hm =>
      obtain ⟨hcounter, hall⟩ := Option.filter_eq_some_iff.mp hm
      split at hentry
      next hzero =>
        have hnow := h now (Nat.le_refl _) m e hcounter hall
        have hanti := recent_length_anti (w := c.loginLockoutSeconds) (h := wrong) hle
        obtain ⟨rfl, -⟩ := Prod.mk.inj hentry
        omega
      next =>
        obtain ⟨rfl, rfl⟩ := Prod.mk.inj hentry
        have hold := h later hle m e hcounter hlive
        omega
    next hnone =>
      have hempty : recent c.loginLockoutSeconds now wrong = [] := by
        apply hopens
        simp [Ledger.opensWindow, hnone]
      rw [recent_eq_nil_of_le hle hempty, List.length_nil] at hadd
      obtain ⟨rfl, -⟩ := Prod.mk.inj hentry
      omega
  | memory attempts blockedUntil =>
    intro later hle
    have hadd := @recent_length_le_of_added _ _ _ c.loginLockoutSeconds later hadded
    have hold := h later hle
    have hprune : pruneAttempts (pruneAttempts attempts now c.loginWindowSeconds ++ [now]) later
        c.loginWindowSeconds =
        pruneAttempts attempts later c.loginWindowSeconds ++
          recent c.loginLockoutSeconds later [now] := by
      unfold pruneAttempts recent
      rw [List.filter_append, List.filter_filter]
      congr 1
      apply List.filter_congr
      intro t _
      rw [← Bool.decide_and]
      congr 1
      rw [eq_iff_iff]
      omega
    rw [hprune, List.length_append]
    omega

/-- A full window is blocked by the failure that filled it. -/
theorem Ledger.BlocksAt.of_count (hlimit : 0 < limit)
    (hcovers : (l.count c limit now).Covers c now wrong') (hpast : ∀ t ∈ wrong', t ≤ now) :
    (l.count c limit now).BlocksAt c limit now wrong' := by
  intro later hle hfull
  have hnow : limit ≤ (recent c.loginLockoutSeconds now wrong').length :=
    Nat.le_trans hfull (recent_length_anti hle)
  obtain ⟨t, ht⟩ := List.exists_mem_of_length_pos (Nat.lt_of_lt_of_le hlimit hfull)
  have hrecent := lt_of_mem_recent ht
  have htnow := hpast t (recent_sublist.subset ht)
  have hlater : later < now + c.loginLockoutSeconds := by omega
  cases l with
  | redis counter block =>
    have hcount := hcovers now (Nat.le_refl _) _ _ rfl counted_live
    have hset : limit ≤ (Ledger.counted c now counter).1 := Nat.le_trans hnow hcount
    simp [Ledger.count, hset, Ledger.blocks, Ledger.blockedUntil, hlater]
  | memory attempts blockedUntil =>
    have hcount := hcovers now (Nat.le_refl _)
    have hset : limit ≤ (pruneAttempts attempts now c.loginWindowSeconds ++ [now]).length :=
      Nat.le_trans (Nat.le_trans hnow hcount) List.filter_sublist.length_le
    simp only [Ledger.count, hset, if_true, Ledger.blocks, Ledger.blockedUntil, Option.any_some,
      hlater, decide_true]

end Ledger

/-! ## The attack -/

inductive Move where
  | wait (d : Nat)
  | login (i : Nat) (form : LoginForm) (clientIp newSecret : String)
  | verify (i : Nat) (clientIp : String) (post : Option (Option String))

def Move.event : Move → Event
  | wait d => .tick d
  | login i form clientIp newSecret => .request i (.login form clientIp newSecret)
  | verify i clientIp post => .request i (.twoFactorVerify clientIp post)

/-- The world, and the times of the wrong codes of a user since its last accepted code, latest
first. -/
structure Attack where
  world : World
  wrong : List Nat := []

/-- The user whose code a move makes `verify_totp` look at, and what it says. -/
def Move.checked (env : Env) (w : World) : Move → Option (Account × Bool)
  | verify i clientIp post => w.issued[i]?.bind fun c =>
      (twoFactorVerify env clientIp post w.now c.cookie w.site).checked
  | _ => none

/-- The wrong codes after a code was looked at. -/
def wrongAfter (userId : Uuid) (now : Nat) (wrong : List Nat) :
    Option (Account × Bool) → List Nat
  | some (user, right) =>
    if user.id = userId then if right then [] else now :: wrong else wrong
  | none => wrong

def Attack.step (env : Env) (userId : Uuid) (a : Attack) (m : Move) : Option Attack :=
  (a.world.step env m.event).map fun world =>
    { world, wrong := wrongAfter userId a.world.now a.wrong (m.checked env a.world) }

/-- The e-mail of the user, as the counters know it. -/
def emailSubject (env : Env) (user : Account) : Subject :=
  .email (normalizeEmail env user.email)

/-- In no interval of the length of the lockout there are more wrong codes than allowed. -/
def GuessesBounded (env : Env) (wrong : List Nat) : Prop :=
  ∀ start, (wrong.filter fun t =>
    start ≤ t ∧ t < start + env.clock.loginLockoutSeconds).length ≤ maxLoginAttemptsPerEmail

/-- No code of the user is accepted during a block of the e-mail. -/
def AcceptedUnblocked (env : Env) (user : Account) (a : Attack) (m : Move) : Prop :=
  ∀ u, m.checked env a.world = some (u, true) → u.id = user.id →
    (a.world.site.attempts.ledger (emailSubject env user)).blocks a.world.now = false

/-- The wrong codes of the last lockout. -/
def Attack.recentWrong (env : Env) (a : Attack) : List Nat :=
  recent env.clock.loginLockoutSeconds a.world.now a.wrong

/-- The next failure of the e-mail starts a new counter. -/
def Attack.opensWindow (env : Env) (user : Account) (a : Attack) : Prop :=
  (a.world.site.attempts.ledger (emailSubject env user)).opensWindow a.world.now = true

/-- A password login of the e-mail of the user neither succeeds nor starts a new counter while
there are recent wrong codes. -/
def LoginCareful (env : Env) (user : Account) (a : Attack) (form : LoginForm)
    (clientIp : String) : Prop :=
  emailSubject env user ∈ subjects clientIp (normalizeEmail env form.email) →
    (∀ u, PasswordAccepted env form clientIp a.world.now a.world.site u →
      a.recentWrong env = []) ∧
    (authenticateUser env a.world.site.db form = .ok none → a.opensWindow env user →
      a.recentWrong env = [])

/-- A code for the user is sent only without a block; no code with the same e-mail clears or
forgets recent wrong codes of the user. -/
def CodeCareful (env : Env) (user : Account) (a : Attack) (u : Account) (clientIp : String)
    (code : Option String) : Prop :=
  (u.id = user.id → normalizeEmail env user.email ≠ "" ∧
    (a.world.site.attempts.ledger (emailSubject env user)).blocks a.world.now = false) ∧
  (emailSubject env user ∈ subjects clientIp (normalizeEmail env u.email) →
    (verifyTotp env u.totpSecret code a.world.now = true → u.id ≠ user.id →
      a.recentWrong env = []) ∧
    (verifyTotp env u.totpSecret code a.world.now = false → a.opensWindow env user →
      a.recentWrong env = []))

def Careful (env : Env) (user : Account) (a : Attack) : Move → Prop
  | .wait _ => True
  | .login _ form clientIp _ => LoginCareful env user a form clientIp
  | .verify i clientIp post => ∀ c, a.world.issued[i]? = some c → ∀ u code,
      CodeSent env clientIp a.world.now c.cookie a.world.site u → post = some code →
        CodeCareful env user a u clientIp code

/-! ## The invariant -/

/-- The counters of the e-mail bound the wrong codes. -/
structure Bounded (env : Env) (user : Account) (site : Site) (now : Nat) (wrong : List Nat) :
    Prop where
  row : site.db.users.find user.id = some user
  past : ∀ t ∈ wrong, t ≤ now
  covers : (site.attempts.ledger (emailSubject env user)).Covers env.clock now wrong
  blocksAt : (site.attempts.ledger (emailSubject env user)).BlocksAt env.clock
    maxLoginAttemptsPerEmail now wrong
  bounded : GuessesBounded env wrong

section Invariant

variable {env : Env} {user : Account} {site : Site} {now : Nat} {wrong wrong' : List Nat}
  {clientIp email : String} {db : AuthDb}

theorem Bounded.later {d : Nat} (h : Bounded env user site now wrong) :
    Bounded env user site (now + d) wrong := by
  constructor
  · exact h.row
  · exact fun t ht => Nat.le_trans (h.past t ht) (Nat.le_add_right _ _)
  · exact h.covers.later (Nat.le_add_right _ _)
  · exact h.blocksAt.later (Nat.le_add_right _ _)
  · exact h.bounded

/-- A wrong code that is looked at without a block keeps the bound. -/
theorem guessesBounded_cons (h : Bounded env user site now wrong)
    (hfree : (site.attempts.ledger (emailSubject env user)).blocks now = false) :
    GuessesBounded env (now :: wrong) := by
  intro start
  have hnotfull : (recent env.clock.loginLockoutSeconds now wrong).length <
      maxLoginAttemptsPerEmail := by
    by_contra hfull
    have hblocked := h.blocksAt now (Nat.le_refl _) (Nat.le_of_not_lt hfull)
    rw [hfree] at hblocked
    cases hblocked
  by_cases hin : start ≤ now ∧ now < start + env.clock.loginLockoutSeconds
  · have hrecent : wrong.countP (fun t => decide (start ≤ t ∧
          t < start + env.clock.loginLockoutSeconds)) ≤
        wrong.countP fun t => decide (now - t < env.clock.loginLockoutSeconds) := by
      apply List.countP_mono_left
      intro t _ hstart
      have hinterval := of_decide_eq_true hstart
      exact decide_eq_true (by omega)
    rw [List.countP_eq_length_filter, List.countP_eq_length_filter] at hrecent
    rw [List.filter_cons_of_pos (by simpa using hin), List.length_cons]
    exact Nat.lt_of_le_of_lt hrecent hnotfull
  · rw [List.filter_cons_of_neg (by simpa using hin)]
    exact h.bounded start

/-- A failure of the e-mail, possibly by a wrong code of the user. -/
theorem Bounded.recorded (h : Bounded env user site now wrong)
    (hopens : emailSubject env user ∈ subjects clientIp email →
      (site.attempts.ledger (emailSubject env user)).opensWindow now = true →
      recent env.clock.loginLockoutSeconds now wrong = [])
    (hadded : wrong' = wrong ∨ wrong' = now :: wrong ∧
      emailSubject env user ∈ subjects clientIp email ∧
      (site.attempts.ledger (emailSubject env user)).blocks now = false) :
    Bounded env user { site with
      attempts := recordFailedLoginAttempt env.clock clientIp email now site.attempts }
      now wrong' := by
  have hadded' : wrong' = wrong ∨ wrong' = now :: wrong := hadded.imp_right And.left
  have hpast : ∀ t ∈ wrong', t ≤ now := by
    rcases hadded' with rfl | rfl
    · exact h.past
    · intro t ht
      rcases List.mem_cons.mp ht with rfl | ht
      · exact Nat.le_refl _
      · exact h.past t ht
  have hbounded : GuessesBounded env wrong' := by
    rcases hadded with rfl | ⟨rfl, -, hfree⟩
    · exact h.bounded
    · exact guessesBounded_cons h hfree
  by_cases hs : emailSubject env user ∈ subjects clientIp email
  · have hcovers := @h.covers.count _ maxLoginAttemptsPerEmail _ _ _ _ (hopens hs) hadded'
    constructor
    · exact h.row
    · exact hpast
    · rw [ledger_recordFailedLoginAttempt, if_pos hs]
      exact hcovers
    · rw [ledger_recordFailedLoginAttempt, if_pos hs]
      exact Ledger.BlocksAt.of_count (by decide) hcovers hpast
    · exact hbounded
  · have hsame : wrong' = wrong := hadded.resolve_right fun hnew => hs hnew.2.1
    subst hsame
    constructor
    · exact h.row
    · exact hpast
    · rw [ledger_recordFailedLoginAttempt, if_neg hs]
      exact h.covers
    · rw [ledger_recordFailedLoginAttempt, if_neg hs]
      exact h.blocksAt
    · exact hbounded

/-- The counters are cleared when they have nothing to cover. -/
theorem Bounded.cleared (h : Bounded env user site now wrong)
    (hkept : wrong' = wrong ∨ wrong' = [])
    (hnone : emailSubject env user ∈ subjects clientIp email →
      recent env.clock.loginLockoutSeconds now wrong' = []) :
    Bounded env user { site with attempts := clearLoginAttempts clientIp email site.attempts }
      now wrong' := by
  have hpast : ∀ t ∈ wrong', t ≤ now := by
    rcases hkept with rfl | rfl
    · exact h.past
    · exact fun t ht => nomatch ht
  have hbounded : GuessesBounded env wrong' := by
    rcases hkept with rfl | rfl
    · exact h.bounded
    · exact fun start => Nat.zero_le _
  by_cases hs : emailSubject env user ∈ subjects clientIp email
  · constructor
    · exact h.row
    · exact hpast
    · exact covers_of_no_recent (hnone hs)
    · exact blocksAt_of_no_recent (by decide) (hnone hs)
    · exact hbounded
  · constructor
    · exact h.row
    · exact hpast
    · rw [ledger_clearLoginAttempts, if_neg hs]
      rcases hkept with rfl | rfl
      · exact h.covers
      · exact covers_of_no_recent rfl
    · rw [ledger_clearLoginAttempts, if_neg hs]
      rcases hkept with rfl | rfl
      · exact h.blocksAt
      · exact blocksAt_of_no_recent (by decide) rfl
    · exact hbounded

/-- The user of a code is a row of the table. -/
theorem CodeSent.eq_of_id {cookie : Cookie} {u : Account}
    (hrow : site.db.users.find user.id = some user)
    (hsent : CodeSent env clientIp now cookie site u) (hid : u.id = user.id) : u = user := by
  obtain ⟨-, pending, -, -, hfind, -⟩ := loadPending2faUser_eq_some hsent.pending
  exact Table.eq_of_key (Table.find_eq_some.mp hfind).1 (Table.find_eq_some.mp hrow).1 hid

end Invariant

section Moves

variable {env : Env} {user : Account} {a a' : Attack} {m : Move}

theorem login_bounded {form : LoginForm} {clientIp newSecret : String} {cookie : Cookie}
    (h : Bounded env user a.world.site a.world.now a.wrong)
    (hcareful : LoginCareful env user a form clientIp) :
    Bounded env user
      (login env form clientIp newSecret a.world.now cookie a.world.site).site a.world.now
      a.wrong := by
  apply login_cases (P := fun handled => Bounded env user handled.site a.world.now a.wrong)
  · exact fun _ => h
  · intro _ hnone _
    exact h.recorded (fun hs => (hcareful hs).2 hnone) (.inl rfl)
  · intro u haccepted _ _ _
    exact h.cleared (.inl rfl) fun hs => (hcareful hs).1 u haccepted
  · intro u haccepted _ _
    exact h.cleared (.inl rfl) fun hs => (hcareful hs).1 u haccepted

theorem verify_bounded {clientIp : String} {post : Option (Option String)} {cookie : Cookie}
    (h : Bounded env user a.world.site a.world.now a.wrong)
    (hcareful : ∀ u code, CodeSent env clientIp a.world.now cookie a.world.site u →
      post = some code → CodeCareful env user a u clientIp code) :
    Bounded env user
      (twoFactorVerify env clientIp post a.world.now cookie a.world.site).site a.world.now
      (wrongAfter user.id a.world.now a.wrong
        (twoFactorVerify env clientIp post a.world.now cookie a.world.site).checked) := by
  apply twoFactorVerify_cases (P := fun handled => Bounded env user handled.site a.world.now
    (wrongAfter user.id a.world.now a.wrong handled.checked))
  · exact fun _ _ _ => h
  · exact fun _ _ _ _ => h
  · intro u code hsent hpost hright _
    obtain ⟨-, hclear⟩ := hcareful u code hsent hpost
    by_cases hid : u.id = user.id
    · have hwrong : wrongAfter user.id a.world.now a.wrong (some (u, true)) = [] := by
        simp [wrongAfter, hid]
      show Bounded env user _ _ (wrongAfter user.id a.world.now a.wrong (some (u, true)))
      rw [hwrong]
      exact h.cleared (.inr rfl) fun _ => rfl
    · have hwrong : wrongAfter user.id a.world.now a.wrong (some (u, true)) = a.wrong := by
        simp [wrongAfter, hid]
      show Bounded env user _ _ (wrongAfter user.id a.world.now a.wrong (some (u, true)))
      rw [hwrong]
      exact h.cleared (.inl rfl) fun hs => (hclear hs).1 hright hid
  · intro u code hsent hpost _ hwrongCode form
    obtain ⟨hown, hforget⟩ := hcareful u code hsent hpost
    obtain ⟨cookie', answer', heq, -⟩ := @refuseCode_eq env clientIp a.world.now cookie
      a.world.site u form
    rw [heq]
    apply h.recorded fun hs => (hforget hs).2 hwrongCode
    by_cases hid : u.id = user.id
    · obtain ⟨hemail, hfree⟩ := hown hid
      obtain rfl := CodeSent.eq_of_id h.row hsent hid
      refine .inr ⟨by simp [wrongAfter], ?_, hfree⟩
      exact mem_subjects.mpr (.inr ⟨hemail, rfl⟩)
    · exact .inl (by simp [wrongAfter, hid])

/-- One careful move keeps the counters ahead of the wrong codes. -/
theorem step_bounded (h : Bounded env user a.world.site a.world.now a.wrong)
    (hcareful : Careful env user a m) (hstep : a.step env user.id m = some a') :
    Bounded env user a'.world.site a'.world.now a'.wrong := by
  obtain ⟨world, hworld, rfl⟩ := Option.map_eq_some_iff.mp hstep
  obtain ⟨w, hw, rfl⟩ := Option.map_eq_some_iff.mp hworld
  cases m with
  | wait d =>
    obtain rfl := Option.some.inj hw
    exact h.later
  | login i form clientIp newSecret =>
    obtain ⟨c, hc, rfl⟩ := Option.map_eq_some_iff.mp hw
    exact login_bounded h hcareful
  | verify i clientIp post =>
    obtain ⟨c, hc, rfl⟩ := Option.map_eq_some_iff.mp hw
    have hchecked : (Move.verify i clientIp post).checked env a.world =
        (twoFactorVerify env clientIp post a.world.now c.cookie a.world.site).checked := by
      simp [Move.checked, hc]
    dsimp only
    rw [hchecked]
    exact verify_bounded h (hcareful c hc)

/-- A careful move has no code accepted during a block. -/
theorem acceptedUnblocked_of_careful (hcareful : Careful env user a m) :
    AcceptedUnblocked env user a m := by
  intro u hchecked hid
  cases m with
  | wait d => cases hchecked
  | login i form clientIp newSecret => cases hchecked
  | verify i clientIp post =>
    obtain ⟨c, hc, hchecked⟩ := Option.bind_eq_some_iff.mp hchecked
    revert hchecked
    apply twoFactorVerify_cases (P := fun handled => handled.checked = some (u, true) →
      (a.world.site.attempts.ledger (emailSubject env user)).blocks a.world.now = false)
    · exact fun _ _ _ hchecked => nomatch hchecked
    · exact fun _ _ _ _ hchecked => nomatch hchecked
    · intro found code hsent hpost _ _ hchecked
      obtain ⟨rfl, -⟩ := Prod.mk.inj (Option.some.inj hchecked)
      exact ((hcareful c hc found code hsent hpost).1 hid).2
    · intro found code _ _ _ _ form hchecked
      obtain ⟨_, _, heq, -⟩ := @refuseCode_eq env clientIp a.world.now c.cookie
        a.world.site found form
      rw [heq] at hchecked
      cases hchecked

end Moves

def anaAccount : Account where
  id := 7
  tenantId := none
  email := "ana"
  fullName := "Ana"
  passwordHash := "secret"
  role := .tenantAdmin
  totpSecret := some "JBSWY3DP"

def anaSite (b : Backend) : Site where
  db := { users := { rows := [anaAccount] } }
  attempts := b.empty

def anaLogin : Move := .login 0 { email := "ana", password := "secret" } "10.0.0.1" ""

/-- A code sent with the cookie of the first login. -/
def anaCode (code : String) : Move := .verify 1 "10.0.0.1" (some (some code))

/-- Seven wrong codes, the password again, and seven more. -/
def clearedByPassword : List Move :=
  anaLogin :: List.replicate 7 (anaCode "111111") ++
    anaLogin :: List.replicate 7 (anaCode "111111")

/-- Eight wrong codes: the e-mail is blocked, but the first cookie is still good. -/
def filledWindow : List Move := anaLogin :: List.replicate 8 (anaCode "111111")

/-- A login and one wrong code. -/
def oneGuess : List Move := [anaLogin, anaCode "111111"]

end BackupCenter.Auth
