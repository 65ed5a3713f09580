import BackupCenter.Lib.Counters
import BackupCenter.Lib.Windows

/-!
# Failed login attempts

The counters and blocks of the login page, kept by Redis or, without it, in the process.
The second value of `_is_login_blocked`, which only the log shows, is left out.
-/
namespace BackupCenter.Auth

open BackupCenter.Lib

/-- Times are ticks of a clock that may be finer than a second. -/
structure Clock where
  second : Nat
  second_pos : 0 < second

namespace Clock

def loginWindowSeconds (c : Clock) : Nat := 900 * c.second

def loginLockoutSeconds (c : Clock) : Nat := 900 * c.second

theorem loginWindowSeconds_pos (c : Clock) : 0 < c.loginWindowSeconds :=
  Nat.mul_pos (by decide) c.second_pos

end Clock

def maxLoginAttemptsPerIp : Nat := 20

def maxLoginAttemptsPerEmail : Nat := 8

/-- Whose attempts are counted. -/
inductive Subject where
  | ip (clientIp : String)
  | email (email : String)
  deriving DecidableEq

def Subject.limit : Subject → Nat
  | ip _ => maxLoginAttemptsPerIp
  | email _ => maxLoginAttemptsPerEmail

/-- The Redis keys `auth:login:attempts:…` and `auth:login:block:…` -/
inductive LoginKey where
  | attempts (s : Subject)
  | block (s : Subject)
  deriving DecidableEq

def loginIpAttemptKey (clientIp : String) : LoginKey := .attempts (.ip clientIp)

def loginEmailAttemptKey (email : String) : LoginKey := .attempts (.email email)

def loginIpBlockKey (clientIp : String) : LoginKey := .block (.ip clientIp)

def loginEmailBlockKey (email : String) : LoginKey := .block (.email email)

/-- The dictionaries of the process; a missing list is the empty one. -/
structure LoginDicts where
  attempts : Subject → List Nat := fun _ => []
  blocks : Subject → Option Nat := fun _ => none

inductive Attempts where
  | redis (r : Counters LoginKey)
  | memory (d : LoginDicts)

inductive Backend where
  | redis
  | memory
  deriving DecidableEq

def Backend.empty : Backend → Attempts
  | redis => .redis {}
  | memory => .memory {}

def pruneAttempts (attempts : List Nat) (now windowSeconds : Nat) : List Nat :=
  attempts.filter fun ts => now - ts < windowSeconds

/-! ## The functions of the login page -/

def isLoginBlocked (clientIp email : String) (now : Nat) : Attempts → Bool
  | .redis r =>
    let ipTtl := r.ttl now (loginIpBlockKey clientIp)
    let emailTtl := if email ≠ "" then r.ttl now (loginEmailBlockKey email) else -2
    let ttl := max (if 0 < ipTtl then ipTtl else 0) (if 0 < emailTtl then emailTtl else 0)
    0 < ttl
  | .memory d =>
    let ipUntil := d.blocks (.ip clientIp)
    if ipUntil.any (now < ·) then true
    else
      let emailUntil := if email ≠ "" then d.blocks (.email email) else none
      emailUntil.any (now < ·)

/-- `INCR`, with the window as the expiry of a new counter. -/
def countUp (c : Clock) (now : Nat) (k : LoginKey) (r : Counters LoginKey) :
    Nat × Counters LoginKey :=
  let (count, r) := r.incr now k
  (count, if count = 1 then r.expire now k c.loginWindowSeconds else r)

/-- One counter of `_record_failed_login_attempt` on Redis. -/
def countOnRedis (c : Clock) (s : Subject) (now : Nat) (r : Counters LoginKey) :
    Counters LoginKey :=
  let (count, r) := countUp c now (.attempts s) r
  if s.limit ≤ count then r.setex now (.block s) c.loginLockoutSeconds 1 else r

/-- One list of `_record_failed_login_attempt` without Redis. -/
def countInMemory (c : Clock) (s : Subject) (now : Nat) (d : LoginDicts) : LoginDicts :=
  let attempts := pruneAttempts (d.attempts s) now c.loginWindowSeconds ++ [now]
  let d := { d with attempts := Function.update d.attempts s attempts }
  if s.limit ≤ attempts.length then
    { d with blocks := Function.update d.blocks s (some (now + c.loginLockoutSeconds)) }
  else d

/-- One subject of `_record_failed_login_attempt`. -/
def countFailure (c : Clock) (s : Subject) (now : Nat) : Attempts → Attempts
  | .redis r => .redis (countOnRedis c s now r)
  | .memory d => .memory (countInMemory c s now d)

/-- Whose counters a request touches; without an e-mail only those of the IP. -/
def subjects (clientIp email : String) : List Subject :=
  if email ≠ "" then [.ip clientIp, .email email] else [.ip clientIp]

def recordFailedLoginAttempt (c : Clock) (clientIp email : String) (now : Nat)
    (a : Attempts) : Attempts :=
  (subjects clientIp email).foldl (fun a s => countFailure c s now a) a

/-- One subject of `_clear_login_attempts`. -/
def clearSubject (s : Subject) : Attempts → Attempts
  | .redis r => .redis ((r.delete (.attempts s)).delete (.block s))
  | .memory d =>
    .memory
      { attempts := Function.update d.attempts s []
        blocks := Function.update d.blocks s none }

def clearLoginAttempts (clientIp email : String) (a : Attempts) : Attempts :=
  (subjects clientIp email).foldl (fun a s => clearSubject s a) a

/-! ## One subject at a time -/

/-- What is kept about one subject: the entries of its two keys, or its two dictionary items. -/
inductive Ledger where
  | redis (count block : Option (Nat × Option Nat))
  | memory (attempts : List Nat) (blockedUntil : Option Nat)

def Attempts.ledger (s : Subject) : Attempts → Ledger
  | redis r => .redis (r.entries (.attempts s)) (r.entries (.block s))
  | memory d => .memory (d.attempts s) (d.blocks s)

namespace Ledger

def empty : Backend → Ledger
  | .redis => redis none none
  | .memory => memory [] none

def backend : Ledger → Backend
  | redis .. => .redis
  | memory .. => .memory

/-- When the block ends. -/
def blockedUntil : Ledger → Option Nat
  | redis _ block => block.bind Prod.snd
  | memory _ blockedUntil => blockedUntil

def blocks (now : Nat) (l : Ledger) : Bool := l.blockedUntil.any (now < ·)

/-- The entry of a counter after one more attempt. -/
def counted (c : Clock) (now : Nat) (counter : Option (Nat × Option Nat)) : Nat × Option Nat :=
  match counter.filter fun e => e.2.all (now < ·) with
  | some (n, expiry) =>
    if n = 0 then (1, some (now + c.loginWindowSeconds)) else (n + 1, expiry)
  | none => (1, some (now + c.loginWindowSeconds))

/-- A failed attempt of the subject. -/
def count (c : Clock) (limit now : Nat) : Ledger → Ledger
  | redis counter block =>
    let entry := counted c now counter
    redis (some entry)
      (if limit ≤ entry.1 then some (1, some (now + c.loginLockoutSeconds)) else block)
  | memory attempts blockedUntil =>
    let kept := pruneAttempts attempts now c.loginWindowSeconds ++ [now]
    memory kept
      (if limit ≤ kept.length then some (now + c.loginLockoutSeconds) else blockedUntil)

end Ledger

section Ledgers

variable {c : Clock} {a : Attempts} {s s' : Subject} {clientIp email : String} {now : Nat}

/-- Some of two countdowns is still running. -/
theorem max_countdown_pos {m n : Int} :
    0 < max (if 0 < m then m else 0) (if 0 < n then n else 0) ↔ 0 < m ∨ 0 < n := by
  split <;> split <;> omega

/-- A request is blocked by its IP or by its e-mail. -/
theorem isLoginBlocked_eq : isLoginBlocked clientIp email now a =
    ((a.ledger (.ip clientIp)).blocks now ||
      (email ≠ "" && (a.ledger (.email email)).blocks now)) := by
  cases a with
  | redis r =>
    rw [Bool.eq_iff_iff]
    simp only [isLoginBlocked, decide_eq_true_eq, Bool.or_eq_true, Bool.and_eq_true]
    rw [max_countdown_pos]
    apply or_congr Counters.ttl_pos
    by_cases hemail : email = ""
    · simp [hemail]
    · simp only [ne_eq, hemail, not_false_eq_true, if_true, true_and]
      exact Counters.ttl_pos
  | memory d =>
    by_cases hemail : email = ""
    · simp [isLoginBlocked, Ledger.blocks, Ledger.blockedUntil, Attempts.ledger, hemail]
    · simp [isLoginBlocked, Ledger.blocks, Ledger.blockedUntil, Attempts.ledger, hemail]

theorem countUp_entries_self (r : Counters LoginKey) (k : LoginKey) :
    (countUp c now k r).2.entries k = some (Ledger.counted c now (r.entries k)) ∧
      (countUp c now k r).1 = (Ledger.counted c now (r.entries k)).1 := by
  unfold Ledger.counted
  split
  next n expiry hlive =>
    obtain ⟨hcount, hnew⟩ := Counters.incr_of_live hlive
    by_cases hn : n = 0
    · subst hn
      simp [countUp, hcount, Counters.expire_entries_self hnew]
    · simp [countUp, hcount, hn, (Counters.live_eq_some.mp hnew).1]
  next hlive =>
    obtain ⟨hcount, hnew⟩ := Counters.incr_of_missing hlive
    simp [countUp, hcount, Counters.expire_entries_self hnew]

theorem countUp_entries_ne {k k' : LoginKey} (r : Counters LoginKey) (hne : k' ≠ k) :
    (countUp c now k r).2.entries k' = r.entries k' := by
  simp only [countUp]
  split
  · rw [Counters.expire_entries_ne hne, Counters.incr_entries_ne hne]
  · exact Counters.incr_entries_ne hne

theorem ledger_countFailure_self :
    (countFailure c s now a).ledger s = (a.ledger s).count c s.limit now := by
  cases a with
  | redis r =>
    have hkeys : LoginKey.block s ≠ .attempts s := by simp
    obtain ⟨hentry, hcount⟩ := @countUp_entries_self c now r (.attempts s)
    simp only [countFailure, countOnRedis, Attempts.ledger, Ledger.count, hcount]
    split
    next hle =>
      rw [Counters.setex_entries_ne hkeys.symm, hentry, Counters.setex_entries_self]
    next hlt => rw [hentry, countUp_entries_ne r hkeys]
  | memory d =>
    simp only [countFailure, countInMemory, Attempts.ledger, Ledger.count]
    split
    next hle => simp
    next hlt => simp

theorem ledger_countFailure_ne (hne : s' ≠ s) :
    (countFailure c s now a).ledger s' = a.ledger s' := by
  cases a with
  | redis r =>
    have hattempts : LoginKey.attempts s' ≠ .attempts s := by simpa using hne
    have hblock : LoginKey.block s' ≠ .block s := by simpa using hne
    have hmixed : LoginKey.attempts s' ≠ .block s := by simp
    have hmixed' : LoginKey.block s' ≠ .attempts s := by simp
    simp only [countFailure, countOnRedis, Attempts.ledger]
    split
    · rw [Counters.setex_entries_ne hmixed, Counters.setex_entries_ne hblock,
        countUp_entries_ne r hattempts, countUp_entries_ne r hmixed']
    · rw [countUp_entries_ne r hattempts, countUp_entries_ne r hmixed']
  | memory d =>
    simp only [countFailure, countInMemory, Attempts.ledger]
    split <;> simp [Function.update_of_ne hne]

theorem ledger_clearSubject_self : (clearSubject s a).ledger s = .empty (a.ledger s).backend := by
  cases a with
  | redis r =>
    have hattempts : LoginKey.attempts s ≠ .block s := by simp
    simp [clearSubject, Attempts.ledger, Ledger.empty, Ledger.backend,
      Counters.delete_entries_ne hattempts]
  | memory d => simp [clearSubject, Attempts.ledger, Ledger.empty, Ledger.backend]

theorem ledger_clearSubject_ne (hne : s' ≠ s) : (clearSubject s a).ledger s' = a.ledger s' := by
  cases a with
  | redis r =>
    have hattempts : LoginKey.attempts s' ≠ .attempts s := by simpa using hne
    have hblock : LoginKey.block s' ≠ .block s := by simpa using hne
    simp [clearSubject, Attempts.ledger, Counters.delete_entries_ne, hattempts, hblock]
  | memory d => simp [clearSubject, Attempts.ledger, Function.update_of_ne hne]

/-- An operation on each of several subjects. -/
theorem ledger_foldl {op : Subject → Attempts → Attempts} {f : Subject → Ledger → Ledger}
    (hself : ∀ s a, (op s a).ledger s = f s (a.ledger s))
    (hne : ∀ s s' a, s' ≠ s → (op s a).ledger s' = a.ledger s') {l : List Subject}
    (hl : l.Nodup) :
    (l.foldl (fun a s => op s a) a).ledger s =
      if s ∈ l then f s (a.ledger s) else a.ledger s := by
  induction l generalizing a with
  | nil => rfl
  | cons s' rest ih =>
    obtain ⟨hfresh, hrest⟩ := List.nodup_cons.mp hl
    rw [List.foldl_cons, ih hrest]
    by_cases hs : s = s'
    · subst hs
      rw [if_neg hfresh, hself, if_pos (List.mem_cons_self ..)]
    · simp only [hne s' s a hs, List.mem_cons, hs, false_or]

theorem mem_subjects : s ∈ subjects clientIp email ↔
    s = .ip clientIp ∨ email ≠ "" ∧ s = .email email := by
  unfold subjects
  by_cases hemail : email = ""
  · simp [hemail]
  · simp [hemail]

theorem subjects_nodup : (subjects clientIp email).Nodup := by
  unfold subjects
  split <;> simp

theorem ledger_recordFailedLoginAttempt :
    (recordFailedLoginAttempt c clientIp email now a).ledger s =
      if s ∈ subjects clientIp email then (a.ledger s).count c s.limit now else a.ledger s :=
  ledger_foldl (fun _ _ => ledger_countFailure_self) (fun _ _ _ => ledger_countFailure_ne)
    subjects_nodup

theorem ledger_clearLoginAttempts :
    (clearLoginAttempts clientIp email a).ledger s =
      if s ∈ subjects clientIp email then .empty (a.ledger s).backend else a.ledger s :=
  ledger_foldl (f := fun _ l => .empty l.backend) (fun _ _ => ledger_clearSubject_self)
    (fun _ _ _ => ledger_clearSubject_ne) subjects_nodup

end Ledgers

end BackupCenter.Auth
