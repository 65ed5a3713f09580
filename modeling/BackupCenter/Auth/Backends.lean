import BackupCenter.Auth.Attempts

/-!
# The two backends compared

Redis counts the failures of a window that opens with the first of them and starts afresh
when it has passed; the process counts those of the last window. The process therefore
blocks whenever Redis does, but a burst over the end of a window may escape Redis.
-/
namespace BackupCenter.Auth

open BackupCenter.Lib

structure FailedLogin where
  clientIp : String
  email : String
  time : Nat

def FailedLogin.subjects (f : FailedLogin) : List Subject := Auth.subjects f.clientIp f.email

/-- The state after some failed logins, latest first. -/
def recorded (c : Clock) (b : Backend) : List FailedLogin → Attempts
  | [] => b.empty
  | f :: older => recordFailedLoginAttempt c f.clientIp f.email f.time (recorded c b older)

/-- The times of the failures of a subject. -/
def failuresOf (s : Subject) (fs : List FailedLogin) : List Nat :=
  (fs.filter fun f => s ∈ f.subjects).map FailedLogin.time

/-- The failures that a backend counts right after the latest one. -/
def Backend.failureCount (c : Clock) : Backend → List Nat → Nat
  | redis => fixedCount c.loginWindowSeconds
  | memory => slidingCount c.loginWindowSeconds

/-! ## The ledger of one subject -/

/-- The ledger after some failures of its subject, latest first. -/
def Ledger.after (c : Clock) (b : Backend) (limit : Nat) : List Nat → Ledger
  | [] => .empty b
  | t :: older => (Ledger.after c b limit older).count c limit t

section Subject

variable {c : Clock} {b : Backend} {limit now t : Nat} {h older : List Nat} {s : Subject}

theorem ledger_recorded (fs : List FailedLogin) :
    (recorded c b fs).ledger s = .after c b s.limit (failuresOf s fs) := by
  induction fs with
  | nil => cases b <;> rfl
  | cons f older ih =>
    rw [recorded, ledger_recordFailedLoginAttempt, ih]
    by_cases hs : s ∈ Auth.subjects f.clientIp f.email
    · rw [if_pos hs]
      simp [failuresOf, FailedLogin.subjects, hs, Ledger.after]
    · rw [if_neg hs]
      simp [failuresOf, FailedLogin.subjects, hs]

/-- The counter on Redis is the fixed window. -/
theorem counted_fixedWindow : Ledger.counted c t ((fixedWindow c.loginWindowSeconds older).map
      fun w => (w.2, some (w.1 + c.loginWindowSeconds))) =
    ((fixedWindow c.loginWindowSeconds (t :: older)).map fun w =>
      (w.2, some (w.1 + c.loginWindowSeconds))).getD (0, none) := by
  rw [fixedWindow]
  cases hwin : fixedWindow c.loginWindowSeconds older with
  | none => rfl
  | some window =>
    obtain ⟨opened, n⟩ := window
    have hpos : n ≠ 0 := Nat.pos_iff_ne_zero.mp (fixedWindow_pos hwin)
    by_cases hin : t < opened + c.loginWindowSeconds
    · simp [Ledger.counted, hin, hpos, Option.filter_some]
    · simp [Ledger.counted, hin, Option.filter_some]

theorem after_redis : Ledger.after c .redis limit h =
    .redis ((fixedWindow c.loginWindowSeconds h).map fun w =>
        (w.2, some (w.1 + c.loginWindowSeconds)))
      ((lastReached (fixedCount c.loginWindowSeconds) limit h).map fun t =>
        (1, some (t + c.loginLockoutSeconds))) := by
  induction h with
  | nil => rfl
  | cons t older ih =>
    obtain ⟨window, hwin⟩ := @exists_fixedWindow_cons c.loginWindowSeconds t older
    have hcount : fixedCount c.loginWindowSeconds (t :: older) = window.2 := by
      simp [fixedCount, hwin]
    rw [Ledger.after, ih, lastReached, hcount]
    simp only [Ledger.count, counted_fixedWindow, hwin, Option.map_some, Option.getD_some]
    split <;> rfl

/-- The list of the process is the sliding window. -/
theorem pruneAttempts_recent (hchron : Chronological (t :: older)) :
    pruneAttempts (older.head?.elim [] fun u => (recent c.loginWindowSeconds u older).reverse) t
      c.loginWindowSeconds ++ [t] = (recent c.loginWindowSeconds t (t :: older)).reverse := by
  rw [recent_cons_self c.loginWindowSeconds_pos, List.reverse_cons]
  congr 1
  cases older with
  | nil => rfl
  | cons u rest =>
    have hle : u ≤ t := (List.pairwise_cons.mp hchron).1 u (List.mem_cons_self ..)
    simp only [pruneAttempts, List.head?_cons, Option.elim_some, List.filter_reverse, recent,
      List.filter_filter]
    congr 1
    apply List.filter_congr
    intro x _
    rw [← Bool.decide_and]
    congr 1
    rw [eq_iff_iff]
    omega

theorem after_memory (hchron : Chronological h) : Ledger.after c .memory limit h =
    .memory (h.head?.elim [] fun t => (recent c.loginWindowSeconds t h).reverse)
      ((lastReached (slidingCount c.loginWindowSeconds) limit h).map
        (· + c.loginLockoutSeconds)) := by
  induction h with
  | nil => rfl
  | cons t older ih =>
    have hlength : (recent c.loginWindowSeconds t (t :: older)).length =
        slidingCount c.loginWindowSeconds (t :: older) := rfl
    rw [Ledger.after, ih (List.pairwise_cons.mp hchron).2, lastReached]
    simp only [Ledger.count, pruneAttempts_recent hchron, List.length_reverse, hlength,
      List.head?_cons, Option.elim_some]
    split <;> rfl

/-- A block ends a lockout after the last failure that brought the count to the limit. -/
theorem blockedUntil_after (hchron : Chronological h) :
    (Ledger.after c b limit h).blockedUntil =
      (lastReached (b.failureCount c) limit h).map (· + c.loginLockoutSeconds) := by
  cases b with
  | redis =>
    rw [after_redis]
    cases hlast : lastReached (fixedCount c.loginWindowSeconds) limit h with
    | none => simp [Ledger.blockedUntil, Backend.failureCount, hlast]
    | some t => simp [Ledger.blockedUntil, Backend.failureCount, hlast]
  | memory =>
    rw [after_memory hchron]
    rfl

theorem blocks_after (hchron : Chronological h) : (Ledger.after c b limit h).blocks now = true ↔
    ReachedWithin (b.failureCount c) limit c.loginLockoutSeconds now h := by
  rw [Ledger.blocks, blockedUntil_after hchron, ← lastReached_iff hchron]
  cases lastReached (b.failureCount c) limit h <;> simp

/-- Redis never counts more than the process does. -/
theorem failureCount_redis_le (hchron : Chronological h) (hsuffix : t :: older <:+ h) :
    Backend.redis.failureCount c (t :: older) ≤ Backend.memory.failureCount c (t :: older) :=
  fixedCount_le_recent c.loginWindowSeconds_pos (hchron.sublist hsuffix.sublist)

end Subject

/-! ## Both backends -/

/-- What is promised about the blocks right after a failed login. -/
structure BlocksAsStated (c : Clock) (older : List FailedLogin) (f : FailedLogin) : Prop where
  email : f.email ≠ "" → maxLoginAttemptsPerEmail ≤
      (recent c.loginWindowSeconds f.time (failuresOf (.email f.email) (f :: older))).length →
    ∀ b clientIp, isLoginBlocked clientIp f.email f.time (recorded c b (f :: older)) = true
  ip : maxLoginAttemptsPerIp ≤
      (recent c.loginWindowSeconds f.time (failuresOf (.ip f.clientIp) (f :: older))).length →
    ∀ b email, isLoginBlocked f.clientIp email f.time (recorded c b (f :: older)) = true
  /-- a block set by the attempt lasts for the lockout, and no later attempt shortens it -/
  lasts : ∀ b s, ((recorded c b (f :: older)).ledger s).blockedUntil ≠
      ((recorded c b older).ledger s).blockedUntil →
    (∀ now, ((recorded c b (f :: older)).ledger s).blocks now = true ↔
      now < f.time + c.loginLockoutSeconds) ∧
    ∀ later, Chronological ((later ++ f :: older).map FailedLogin.time) →
      ∀ now < f.time + c.loginLockoutSeconds,
        ((recorded c b (later ++ f :: older)).ledger s).blocks now = true
  agree : ∀ s ∈ f.subjects, ((recorded c .redis (f :: older)).ledger s).blocks f.time =
    ((recorded c .memory (f :: older)).ledger s).blocks f.time

/-- A subject whose failures filled a sliding window within the last lockout filled a fixed
window within the last lockout, too. -/
def FixedWindowFilled (c : Clock) (older : List FailedLogin) (f : FailedLogin) : Prop :=
  ∀ s ∈ f.subjects,
    ReachedWithin (slidingCount c.loginWindowSeconds) s.limit c.loginLockoutSeconds f.time
      (failuresOf s (f :: older)) →
    ReachedWithin (fixedCount c.loginWindowSeconds) s.limit c.loginLockoutSeconds f.time
      (failuresOf s (f :: older))

section Both

variable {c : Clock} {b : Backend} {older : List FailedLogin} {f : FailedLogin} {s : Subject}
  {now : Nat}

theorem chronological_failuresOf {fs : List FailedLogin}
    (hchron : Chronological (fs.map FailedLogin.time)) : Chronological (failuresOf s fs) :=
  hchron.sublist (List.filter_sublist.map _)

theorem blocks_recorded {fs : List FailedLogin}
    (hchron : Chronological (fs.map FailedLogin.time)) :
    ((recorded c b fs).ledger s).blocks now = true ↔
      ReachedWithin (b.failureCount c) s.limit c.loginLockoutSeconds now (failuresOf s fs) := by
  rw [ledger_recorded, blocks_after (chronological_failuresOf hchron)]

theorem failuresOf_cons_of_mem (hs : s ∈ f.subjects) :
    failuresOf s (f :: older) = f.time :: failuresOf s older := by
  simp [failuresOf, hs]

theorem failuresOf_cons_of_not_mem (hs : s ∉ f.subjects) :
    failuresOf s (f :: older) = failuresOf s older := by
  simp [failuresOf, hs]

/-- A full sliding window counts as reached at the attempt itself. -/
theorem reachedWithin_of_burst (hs : s ∈ f.subjects)
    (hburst : s.limit ≤
      (recent c.loginWindowSeconds f.time (failuresOf s (f :: older))).length) :
    ReachedWithin (slidingCount c.loginWindowSeconds) s.limit c.loginLockoutSeconds f.time
      (failuresOf s (f :: older)) := by
  rw [failuresOf_cons_of_mem hs] at hburst ⊢
  have hpos := c.second_pos
  have hlockout : f.time < f.time + c.loginLockoutSeconds := by
    unfold Clock.loginLockoutSeconds
    omega
  exact ⟨f.time, failuresOf s older, List.suffix_refl _, hburst, hlockout⟩

/-- Both backends block a burst that a fixed window sees. -/
theorem blocks_of_burst (hchron : Chronological ((f :: older).map FailedLogin.time))
    (hfilled : FixedWindowFilled c older f) (hs : s ∈ f.subjects)
    (hburst : s.limit ≤
      (recent c.loginWindowSeconds f.time (failuresOf s (f :: older))).length) :
    ((recorded c b (f :: older)).ledger s).blocks f.time = true := by
  have hreached := reachedWithin_of_burst hs hburst
  rw [blocks_recorded hchron]
  cases b with
  | redis => exact hfilled s hs hreached
  | memory => exact hreached

/-- The process blocks whatever Redis blocks. -/
theorem memory_blocks_of_redis (hchron : Chronological ((f :: older).map FailedLogin.time))
    (hblocks : ((recorded c .redis (f :: older)).ledger s).blocks now = true) :
    ((recorded c .memory (f :: older)).ledger s).blocks now = true := by
  rw [blocks_recorded hchron] at hblocks ⊢
  apply hblocks.mono
  intro t rest hsuffix
  exact failureCount_redis_le (chronological_failuresOf hchron) hsuffix

/-- Only an attempt of the subject that fills its window sets a block. -/
theorem blockedUntil_changed (hchron : Chronological ((f :: older).map FailedLogin.time))
    (hset : ((recorded c b (f :: older)).ledger s).blockedUntil ≠
      ((recorded c b older).ledger s).blockedUntil) :
    s ∈ f.subjects ∧ s.limit ≤ b.failureCount c (failuresOf s (f :: older)) := by
  have hold : Chronological (older.map FailedLogin.time) := (List.pairwise_cons.mp hchron).2
  rw [ledger_recorded, ledger_recorded, blockedUntil_after (chronological_failuresOf hchron),
    blockedUntil_after (chronological_failuresOf hold)] at hset
  by_cases hs : s ∈ f.subjects
  · refine ⟨hs, ?_⟩
    rw [failuresOf_cons_of_mem hs] at hset ⊢
    by_contra hlt
    rw [lastReached, if_neg hlt] at hset
    exact hset rfl
  · rw [failuresOf_cons_of_not_mem hs] at hset
    exact absurd rfl hset

/-- After the attempt that set it, a block lasts for the lockout. -/
theorem block_lasts (hchron : Chronological ((f :: older).map FailedLogin.time))
    (hset : ((recorded c b (f :: older)).ledger s).blockedUntil ≠
      ((recorded c b older).ledger s).blockedUntil) :
    ((recorded c b (f :: older)).ledger s).blocks now = true ↔
      now < f.time + c.loginLockoutSeconds := by
  obtain ⟨hs, hfull⟩ := blockedUntil_changed hchron hset
  have huntil := @blockedUntil_after c b s.limit _ (chronological_failuresOf (s := s) hchron)
  rw [ledger_recorded, Ledger.blocks, huntil]
  rw [failuresOf_cons_of_mem hs] at hfull ⊢
  rw [lastReached, if_pos hfull]
  simp

/-- Later attempts do not shorten it. -/
theorem block_kept {later : List FailedLogin}
    (hchron : Chronological ((later ++ f :: older).map FailedLogin.time))
    (hset : ((recorded c b (f :: older)).ledger s).blockedUntil ≠
      ((recorded c b older).ledger s).blockedUntil)
    (hnow : now < f.time + c.loginLockoutSeconds) :
    ((recorded c b (later ++ f :: older)).ledger s).blocks now = true := by
  have hsuffix : f :: older <:+ later ++ f :: older := List.suffix_append ..
  have hchron' : Chronological ((f :: older).map FailedLogin.time) :=
    hchron.sublist (hsuffix.sublist.map _)
  obtain ⟨hs, hfull⟩ := blockedUntil_changed hchron' hset
  rw [failuresOf_cons_of_mem hs] at hfull
  rw [blocks_recorded hchron]
  refine ⟨f.time, failuresOf s older, ?_, hfull, hnow⟩
  rw [← failuresOf_cons_of_mem hs]
  unfold failuresOf
  exact (hsuffix.filter _).map _

end Both

def wallClock : Clock := ⟨1, by decide⟩

/-- One failure, six near the end of its window, and two right after it: eight within a minute. -/
def straddlingBurst : List FailedLogin :=
  [910, 850, 850, 850, 850, 850, 850, 0].map fun t => ⟨"10.0.0.1", "ana@acme", t⟩

end BackupCenter.Auth
