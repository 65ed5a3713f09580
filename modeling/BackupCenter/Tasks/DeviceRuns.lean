import BackupCenter.Tasks.DeviceContract

/-!
# Attempts keep the contract

The slot, the settling of the answer, the handlers and the evaluation of the parent, one after
another, and from them the whole of `run_backup_task`. Celery delivers the task again for every
`Retry`: the deliveries of one task are counted at the end.
-/
namespace BackupCenter.Tasks

open BackupCenter.Lib
open BackupCenter.Lib.Raising
open BackupCenter.Executor (Exn)
open BackupCenter.JumpHost (LockInfo)

namespace Attempt

variable {T : Attempt} {m : Account}

/-! ## The slot -/

/-- What the handlers start from. -/
def Caught (T : Attempt) : Raised → Account → Prop
  | .retry, m => T.MayRetry m ∧ m.left = m.entered ∧ m.requeued = 1 ∧ m.finalised = 0
  | .exn _, m => m.left = m.entered ∧ m.requeued = 0 ∧ m.finalised = 0 ∧ 1 ≤ m.raised

theorem GuardRaised.caught {x : Raised} (h : GuardRaised x m) : T.Caught x m := by
  cases x with
  | retry => exact absurd rfl h.1
  | exn e => exact ⟨h.2.1.outside, h.2.1.notRequeued, h.2.1.notFinalised, h.2.2⟩

theorem Broke.caught (hout : m.left = m.entered) (hrequeued : m.requeued = 0)
    (h : m.finalised = 0) {x : Raised} {m' : Account} (hb : Broke m x m') : T.Caught x m' := by
  obtain ⟨hx, l, rfl⟩ := hb
  cases x with
  | retry => exact absurd rfl hx
  | exn e => exact ⟨hout, hrequeued, h, Nat.succ_pos _⟩

/-- The executor has answered and the slot is given back. -/
def Ran (answer : Bool × Option String) (m : Account) : Prop :=
  m.verdict = some answer ∧ m.entered = 1 ∧ m.left = 1 ∧ m.requeued = 0 ∧ m.finalised = 0

theorem Ran.outside {answer : Bool × Option String} (h : Ran answer m) : m.left = m.entered :=
  h.2.2.1.trans h.2.1.symm

theorem Ran.notRequeued {answer : Bool × Option String} (h : Ran answer m) : m.requeued = 0 :=
  h.2.2.2.1

theorem Ran.notFinalised {answer : Bool × Option String} (h : Ran answer m) : m.finalised = 0 :=
  h.2.2.2.2

theorem Ran.caught {answer : Bool × Option String} (h : Ran answer m) {x : Raised} {m' : Account}
    (hb : Broke m x m') : T.Caught x m' :=
  hb.caught h.outside h.notRequeued h.notFinalised

theorem Ran.notSucceeded {message : Option String} (h : Ran (false, message) m) :
    ¬ Succeeded m := by
  rintro ⟨text, htext⟩
  cases h.1.symm.trans htext

/-- The breaker of the bastion has not been told yet. -/
def Unreported (label : String) (m : Account) : Prop := m.label = some label ∧ m.reports = []

theorem meets_executor {label : String} (hfresh : Fresh m) (hlabel : m.label = some label)
    (hadmitted : T.Admitted m) :
    Meets T.contract (fun answer m => Ran answer m ∧ Unreported label m) T.Caught
      ((ask .runExecutor).ensuring (ask .leaveSlot)) { m with entered := m.entered + 1 } := by
  obtain ⟨hentered, hleft, hexecutions, -, hreports, hrequeued, hfinalised⟩ := hfresh
  have hone : m.entered + 1 = 1 := by omega
  have hrun : Meets T.contract (fun (answer : Bool × Option String) m' => Unreported label m' ∧
        m'.verdict = some answer ∧ m'.entered = 1 ∧ m'.left = 0 ∧ m'.requeued = 0 ∧
        m'.finalised = 0)
      (fun x m' => (∃ e, x = .exn e) ∧ m'.entered = 1 ∧ m'.left = 0 ∧ m'.requeued = 0 ∧
        m'.finalised = 0 ∧ 1 ≤ m'.raised)
      (ask .runExecutor) { m with entered := m.entered + 1 } :=
    meets_ask T .runExecutor ⟨hadmitted, hone, hleft, hexecutions, hfinalised⟩
      (fun _ => ⟨⟨hlabel, hreports⟩, rfl, hone, hleft, hrequeued, hfinalised⟩)
      fun e => ⟨⟨e, rfl⟩, hone, hleft, hrequeued, hfinalised, Nat.succ_pos _⟩
  refine hrun.ensuring (fun answer m hm => ?_) fun x m hm => ?_
  · obtain ⟨hunreported, hverdict, hentered, hleft, hrequeued, hfinalised⟩ := hm
    have hone : m.left + 1 = 1 := by omega
    exact meets_ask T .leaveSlot ⟨hentered, hleft, hfinalised⟩
      (fun _ => ⟨⟨hverdict, hentered, hone, hrequeued, hfinalised⟩, hunreported⟩)
      fun _ => ⟨hone.trans hentered.symm, hrequeued, hfinalised, Nat.succ_pos _⟩
  · obtain ⟨⟨e, rfl⟩, hentered, hleft, hrequeued, hfinalised, hraised⟩ := hm
    have hout : m.left + 1 = m.entered := by omega
    exact meets_ask T .leaveSlot ⟨hentered, hleft, hfinalised⟩
      (fun _ => ⟨hout, hrequeued, hfinalised, hraised⟩)
      fun _ => ⟨hout, hrequeued, hfinalised, Nat.succ_pos _⟩

/-! ## Settling the answer -/

/-- The attempt returns `r` if the evaluation of the parent lets it. -/
def Answered (r : DeviceResult) (m : Account) : Prop :=
  m.left = m.entered ∧ m.requeued = 0 ∧ m.finalised = 0 ∧
    Wrote (fun u => u.completed = true ∧ u.result = some r) m ∧ Honest r m

/-- A failure is honest where the executor did not succeed or an exception came in between. -/
theorem honest_of_failed {r : DeviceResult} (hr : r.success = false)
    (h : ¬ Succeeded m ∨ 1 ≤ m.raised) : Honest r m := by
  refine ⟨fun hs => absurd (hr.symm.trans hs) Bool.false_ne_true, fun hraised hsucceeded => ?_⟩
  rcases h with h | h
  · exact absurd hsucceeded h
  · omega

theorem meets_answer (x : Ending) {r : DeviceResult} {raised : Raised → Account → Prop}
    (hout : m.left = m.entered) (hrequeued : m.requeued = 0) (h : m.finalised = 0)
    (hx : x.update.completed = true ∧ x.update.result = some r) (hhonest : Honest r m)
    (hraised : ∀ y m', Broke m y m' → raised y m') :
    Meets T.contract Answered raised (do conclude x; return r) m := by
  refine ((meets_conclude x hout h).mono (fun _ _ => id) hraised).bind fun _ m' hm => ?_
  subst hm
  exact meets_pure ⟨hout, hrequeued, h, ⟨_, hx, rfl⟩, hhonest⟩

theorem meets_reportOutcome {label : String} {answer : Bool × Option String}
    {outcome : Option Bool} (h : Ran answer m) (hlabel : Unreported label m)
    (hreport : T.report answer = outcome) :
    Meets T.contract (fun _ => Ran answer) T.Caught (reportOutcome label outcome) m := by
  unfold reportOutcome
  split
  · exact meets_pure h
  next hbastion =>
  cases outcome with
  | none => exact meets_pure h
  | some success =>
    exact meets_ask T (.recordJumpHostOutcome label success)
      ⟨hlabel.1, hbastion, h.2.2.1, hlabel.2, h.notFinalised, answer, h.1, hreport⟩ (fun _ => h)
      fun _ => ⟨h.outside, h.notRequeued, h.notFinalised, Nat.succ_pos _⟩

theorem meets_adapt {answer : Bool × Option String} (lock : Option LockInfo) (success : Bool)
    (message : String) (h : Ran answer m) (hsuccess : success = true → answer.1 = true) :
    Meets T.contract (fun _ m' => m' = m) (Broke m)
      (ask (.adaptJumpHostSlots lock success message)) m := by
  refine meets_quiet T (.adaptJumpHostSlots lock success message)
    ⟨h.outside, h.notFinalised, fun hs => ⟨answer.2, ?_⟩⟩ rfl (fun _ => rfl) rfl
  rw [h.1, ← hsuccess hs]

theorem meets_settleSuccess {label : String} {message : Option String} (lock : Option LockInfo)
    (h : Ran (true, message) m) (hlabel : Unreported label m) :
    Meets T.contract Answered T.Caught
      (settleSuccess label lock (T.executorResult true message)) m := by
  unfold settleSuccess
  refine ((meets_quiet T (.recordJumpHostDuration lock) h.notFinalised rfl (fun _ => rfl) rfl).mono
    (fun _ _ => id) fun _ _ => h.caught).bind fun _ m' hm => ?_
  subst hm
  refine ((meets_adapt lock true _ h fun _ => rfl).mono (fun _ _ => id)
    fun _ _ => h.caught).bind fun _ m'' hm => ?_
  subst hm
  refine (meets_reportOutcome h hlabel rfl).bind fun _ m h => ?_
  exact meets_answer _ h.outside h.notRequeued h.notFinalised ⟨rfl, rfl⟩
    ⟨fun _ => ⟨message, h.1⟩, fun _ _ => rfl⟩ fun _ _ => h.caught

/-! ## Retrying -/

/-- A retry is in order, as far as the task can tell without its meta. -/
def Retryable (T : Attempt) (m : Account) : Prop :=
  T.inBatch = false ∧ T.retries < T.maxRetries ∧ m.stop = some false ∧ T.Transient m

theorem meets_shouldRetry {message : Option String} {category : String} (deviceName text : String)
    (h : Ran (false, message) m)
    (hcategory : (T.executorResult false message).failureCategory = some category) :
    Meets T.contract (fun retry m => Ran (false, message) m ∧ (retry = true → T.Retryable m))
      T.Caught (T.shouldRetry deviceName category text) m := by
  have hstop : Meets T.contract (fun (stop : Bool) m => Ran (false, message) m ∧
      m.stop = some stop) T.Caught (ask .shouldStopNow) m :=
    meets_ask T .shouldStopNow h.notFinalised (fun _ => ⟨h, rfl⟩)
      fun _ => ⟨h.outside, h.notRequeued, h.notFinalised, Nat.succ_pos _⟩
  unfold shouldRetry
  split
  · exact meets_pure ⟨h, Bool.false_ne_true.elim⟩
  next hallowed =>
  rw [Bool.or_eq_true, decide_eq_true_eq, not_or, Bool.not_eq_true, Nat.not_le] at hallowed
  refine hstop.bind fun stop m hm => ?_
  split
  · exact meets_pure ⟨hm.1, Bool.false_ne_true.elim⟩
  next hgo =>
  refine meets_pure ⟨hm.1, fun hretry => ⟨hallowed.1, hallowed.2, ?_, message, category, hm.1.1,
    hcategory, transient_of_shouldRetry T.env hretry⟩⟩
  rw [hm.2, Bool.eq_false_of_not_eq_true hgo]

/-- The meta announces the retry before it is put in the queue. -/
theorem meets_scheduleRetry {answer : Bool × Option String} (category text : String)
    (h : Ran answer m) (hretry : T.Retryable m) :
    Meets T.contract Answered T.Caught (T.scheduleRetry category text) m := by
  unfold scheduleRetry
  refine ((meets_appendTaskLog _ _ _).mono (fun _ _ => id)
    fun _ _ => h.caught).bind fun _ m' hm => ?_
  subst hm
  refine ((meets_updateTaskMeta _ h.outside h.notFinalised).mono (fun _ _ => id)
    fun _ _ => h.caught).bind fun _ m hm => ?_
  have hran : Ran answer m := by
    subst hm
    exact h
  have hmay : T.MayRetry m := by
    subst hm
    exact ⟨hretry.1, hretry.2.1, hretry.2.2.1, hretry.2.2.2, _, ⟨rfl, rfl⟩, rfl⟩
  refine ((meets_trackAttemptOutcome _ _ _ _ hran.notFinalised).mono (fun _ _ => id)
    fun _ _ => hran.caught).bind fun _ m' hm => ?_
  subst hm
  have hask : Meets T.contract (fun _ => T.Caught .retry) T.Caught (ask (.retry T.retryCountdown))
      m' :=
    meets_ask T (.retry T.retryCountdown) ⟨hmay, hran.notRequeued, hran.notFinalised⟩
      (fun _ => ⟨hmay, hran.outside, congrArg Nat.succ hran.notRequeued, hran.notFinalised⟩)
      fun _ => ⟨hran.outside, hran.notRequeued, hran.notFinalised, Nat.succ_pos _⟩
  exact hask.bind fun _ m hm => meets_throw hm

theorem meets_settleFailure {o : Observability} {message : Option String} {category : String}
    (lock : Option LockInfo) (h : Ran (false, message) m) (hlabel : Unreported o.jumpHost m)
    (hcategory : (T.executorResult false message).failureCategory = some category) :
    Meets T.contract Answered T.Caught
      (T.settleFailure o lock (T.executorResult false message) category) m := by
  have hreport : T.report (false, message) = blame category := by
    unfold report
    rw [hcategory]
  unfold settleFailure
  refine ((meets_adapt lock false _ h fun hs => hs).mono (fun _ _ => id)
    fun _ _ => h.caught).bind fun _ m' hm => ?_
  subst hm
  refine (meets_reportOutcome h hlabel hreport).bind fun _ m h => ?_
  refine (meets_shouldRetry _ _ h hcategory).bind fun retry m hm => ?_
  split
  · next htrue => exact meets_scheduleRetry _ _ hm.1 (hm.2 htrue)
  · exact meets_answer _ hm.1.outside hm.1.notRequeued hm.1.notFinalised ⟨rfl, rfl⟩
      (honest_of_failed rfl (.inl hm.1.notSucceeded)) fun _ _ => hm.1.caught

theorem meets_settle {o : Observability} {answer : Bool × Option String} (lock : Option LockInfo)
    (h : Ran answer m) (hlabel : Unreported o.jumpHost m) :
    Meets T.contract Answered T.Caught (T.settle o lock answer.1 answer.2) m := by
  obtain ⟨success, message⟩ := answer
  cases success with
  | true => exact meets_settleSuccess lock h hlabel
  | false => exact meets_settleFailure lock h hlabel rfl

/-- An exception goes to the handlers together with the lock. -/
theorem meets_escaping {α : Type} {ok : α → Account → Prop} {p : DeviceProgram α}
    (lock : Option LockInfo) (h : Meets T.contract ok T.Caught p m) :
    Meets T.contract ok (fun x => T.Caught x.raised)
      (p.relabel fun e => ({ raised := e, lockInfo := lock } : Escape)) m :=
  Meets.relabel (g := fun e => ({ raised := e, lockInfo := lock } : Escape)) h

/-- From the guards to the answer. -/
theorem meets_underSlot {o : Observability} (hfresh : Fresh m) (hlabel : m.label = some o.jumpHost)
    (hadmitted : T.Admitted m) :
    Meets T.contract Answered (fun x => T.Caught x.raised) (T.underSlot o) m := by
  have henter : Meets T.contract (fun _ m' => m' = { m with entered := m.entered + 1 }) T.Caught
      (ask .enterSlot) m :=
    meets_ask T .enterSlot ⟨hadmitted, hfresh.1, hfresh.notFinalised⟩ (fun _ => rfl)
      fun _ => ⟨hfresh.outside, hfresh.notRequeued, hfresh.notFinalised, Nat.succ_pos _⟩
  refine (meets_escaping none henter).bind fun lock m' hm => ?_
  subst hm
  refine (meets_escaping lock (meets_executor hfresh hlabel hadmitted)).bind fun answer m hm => ?_
  exact meets_escaping lock (meets_settle lock hm.1 hm.2)

theorem meets_body {o : Observability} (h : Fresh m) (hlabel : m.label = some o.jumpHost) :
    Meets T.contract Answered (fun x => T.Caught x.raised) (T.body o) m := by
  have hguards := (meets_guards (T := T) h hlabel).mono (fun _ _ => id) fun x _ hx =>
    (GuardRaised.caught hx : T.Caught x _)
  refine (meets_escaping none hguards).bind fun r m hr => ?_
  cases r with
  | none => exact meets_underSlot hr.1 hr.2.1 hr.2.2
  | some r =>
    obtain ⟨h, hwrote, hfailed⟩ := hr
    exact meets_pure ⟨h.outside, h.notRequeued, h.notFinalised, hwrote,
      honest_of_failed hfailed (.inl h.notSucceeded)⟩

/-! ## The handlers -/

/-- What leaves the handlers: `Retry`, what is no `Exception`, or an exception of their own. -/
def Unhandled (T : Attempt) : Raised → Account → Prop
  | .retry, m => T.Caught .retry m
  | .exn e, m =>
    m.left = m.entered ∧ m.finalised = 0 ∧
      (e.isException = true → m.requeued = 0 ∧ 2 ≤ m.raised)

theorem Broke.unhandled (hout : m.left = m.entered) (hrequeued : m.requeued = 0)
    (h : m.finalised = 0) (hraised : 1 ≤ m.raised) {x : Raised} {m' : Account}
    (hb : Broke m x m') : T.Unhandled x m' := by
  obtain ⟨hx, l, rfl⟩ := hb
  cases x with
  | retry => exact absurd rfl hx
  | exn e => exact ⟨hout, h, fun _ => ⟨hrequeued, Nat.succ_le_succ hraised⟩⟩

/-- The answer of a handler is never a success. -/
theorem meets_handled (x : Ending) {r : DeviceResult} {e : Exn} (h : T.Caught (.exn e) m)
    (hx : x.update.completed = true ∧ x.update.result = some r) (hr : r.success = false) :
    Meets T.contract Answered T.Unhandled (do conclude x; return r) m :=
  meets_answer x h.1 h.2.1 h.2.2.1 hx (honest_of_failed hr (.inr h.2.2.2))
    fun _ _ hb => hb.unhandled h.1 h.2.1 h.2.2.1 h.2.2.2

/-- The slots of the bastion are adapted before a handler answers. -/
theorem meets_lockOrResolve {e : Exn} (lock : Option LockInfo) (message : String)
    (h : T.Caught (.exn e) m) {p : DeviceProgram DeviceResult}
    (hp : Meets T.contract Answered T.Unhandled p m) :
    Meets T.contract Answered T.Unhandled
      (do
        let lock ← lockOrResolve lock
        ask (.adaptJumpHostSlots lock false message)
        p) m := by
  have hlock : Meets T.contract (fun _ m' => m' = m) T.Unhandled (lockOrResolve lock) m := by
    cases lock with
    | some l => exact meets_pure rfl
    | none =>
      exact (meets_quiet T .resolveJumpHostLock h.2.2.1 rfl (fun _ => rfl) rfl).mono
        (fun _ _ => id) fun _ _ hb => hb.unhandled h.1 h.2.1 h.2.2.1 h.2.2.2
  refine hlock.bind fun lock m' hm => ?_
  subst hm
  have hadapt : Meets T.contract (fun _ m => m = m') T.Unhandled
      (ask (.adaptJumpHostSlots lock false message)) m' :=
    (meets_quiet T (.adaptJumpHostSlots lock false message)
      ⟨h.1, h.2.2.1, fun hs => absurd hs Bool.false_ne_true⟩ rfl (fun _ => rfl) rfl).mono
      (fun _ _ => id) fun _ _ hb => hb.unhandled h.1 h.2.1 h.2.2.1 h.2.2.2
  refine hadapt.bind fun _ m hm => ?_
  subst hm
  exact hp

theorem meets_onEscape {x : Escape} (h : T.Caught x.raised m) :
    Meets T.contract Answered T.Unhandled (T.onEscape x) m := by
  obtain ⟨raised, lock⟩ := x
  cases raised with
  | retry => exact meets_throw h
  | exn e =>
    show Meets _ _ _ (if isSlotCancelled e = true then _ else _) m
    split
    · exact meets_handled _ h ⟨rfl, rfl⟩ rfl
    split
    · exact meets_lockOrResolve lock _ h (meets_handled _ h ⟨rfl, rfl⟩ rfl)
    split
    · exact meets_lockOrResolve lock _ h (meets_handled _ h ⟨rfl, rfl⟩ rfl)
    next hbase => exact meets_throw ⟨h.1, h.2.2.1, fun he => absurd he hbase⟩

/-! ## The whole attempt -/

/-- The parent is evaluated once, and the slots are given back. -/
def Finalised (P : Account → Prop) (m : Account) : Prop :=
  ∃ before, P before ∧ m = { before with finalised := before.finalised + 1 }

/-- Only what is no `Exception` leaves the evaluation of the parent. -/
theorem meets_finalize {P : Account → Prop} (hm : P m) (hout : m.left = m.entered)
    (h : m.finalised = 0) :
    Meets T.contract (fun _ => Finalised P)
      (fun x m => (∃ e : Exn, x = .exn e ∧ e.isException = false) ∧ Finalised P m)
      (logged (ask .maybeFinalizeBulk)) m := by
  have hask : Meets T.contract (fun _ => Finalised P)
      (fun x m => (∃ e, x = .exn e) ∧ Finalised P m) (ask .maybeFinalizeBulk) m :=
    meets_ask T .maybeFinalizeBulk ⟨hout, h⟩ (fun _ => ⟨m, hm, rfl⟩)
      fun e => ⟨⟨e, rfl⟩, m, hm, rfl⟩
  refine hask.handle fun x m hx => ?_
  obtain ⟨⟨e, rfl⟩, hfinalised⟩ := hx
  show Meets _ _ _ (if e.isException = true then _ else _) m
  split
  · exact meets_pure hfinalised
  · next hbase => exact meets_throw ⟨⟨e, rfl, Bool.eq_false_of_not_eq_true hbase⟩, hfinalised⟩

/-- What leaves `_internal_run_backup_task`. -/
def InternalRaised (T : Attempt) : Raised → Account → Prop
  | .retry, m => T.Requeued m
  | .exn e, m =>
    m.left = m.entered ∧ m.finalised ≤ 1 ∧
      (e.isException = true → m.requeued = 0 ∧ (m.finalised = 0 ∨ 2 ≤ m.raised))

theorem Finalised.settled {r : DeviceResult} (h : Finalised (Answered r) m) : Settled r m := by
  obtain ⟨before, ⟨hout, hrequeued, hfinalised, hrest⟩, rfl⟩ := h
  exact ⟨congrArg Nat.succ hfinalised, hout, hrequeued, hrest⟩

theorem Finalised.raised {x : Raised} (h : Finalised (T.Unhandled x) m) :
    T.InternalRaised x m := by
  obtain ⟨before, hbefore, rfl⟩ := h
  cases x with
  | retry => exact ⟨congrArg Nat.succ hbefore.2.2.2, hbefore.2.1, hbefore.2.2.1, hbefore.1⟩
  | exn e =>
    obtain ⟨hout, hfinalised, hexception⟩ := hbefore
    exact ⟨hout, (congrArg Nat.succ hfinalised).le, fun he =>
      ⟨(hexception he).1, .inr (hexception he).2⟩⟩

/-- An exception of the evaluation itself hides how the attempt went. -/
theorem Finalised.base {P : Account → Prop} {x : Raised} (hP : ∀ m, P m → m.left = m.entered ∧
    m.finalised = 0) (h : (∃ e : Exn, x = .exn e ∧ e.isException = false) ∧ Finalised P m) :
    T.InternalRaised x m := by
  obtain ⟨⟨e, rfl, hbase⟩, before, hbefore, rfl⟩ := h
  obtain ⟨hout, hfinalised⟩ := hP before hbefore
  refine ⟨hout, (congrArg Nat.succ hfinalised).le, fun he => ?_⟩
  exact absurd (he.symm.trans hbase) Bool.false_ne_true.symm

theorem Unhandled.outside {x : Raised} (h : T.Unhandled x m) :
    m.left = m.entered ∧ m.finalised = 0 := by
  cases x with
  | retry => exact ⟨h.2.1, h.2.2.2⟩
  | exn e => exact ⟨h.1, h.2.1⟩

theorem meets_internalRunBackupTask :
    Meets T.contract Settled T.InternalRaised T.internalRunBackupTask {} := by
  have hresolve : Meets T.contract (fun (o : Observability) m => Fresh m ∧
      m.label = some (orText o.jumpHost "unknown")) T.InternalRaised (ask .resolveObservability)
      {} :=
    meets_ask T .resolveObservability rfl (fun _ => ⟨⟨rfl, rfl, rfl, rfl, rfl, rfl, rfl⟩, rfl⟩)
      fun _ => ⟨rfl, Nat.zero_le 1, fun _ => ⟨rfl, .inl rfl⟩⟩
  refine hresolve.bind fun o m hm => ?_
  obtain ⟨hfresh, hlabel⟩ := hm
  have hstarted : Meets T.contract (fun _ m' => m' = m) T.InternalRaised (ask .emitStarted) m :=
    meets_ask T .emitStarted hfresh.notFinalised (fun _ => rfl) fun _ =>
      ⟨hfresh.outside, hfresh.notFinalised.le.trans (Nat.zero_le 1), fun _ =>
        ⟨hfresh.notRequeued, .inl hfresh.notFinalised⟩⟩
  refine hstarted.bind fun _ m' hm => ?_
  subst hm
  refine ((meets_body hfresh hlabel).handle fun x m hx => meets_onEscape hx).ensuring
    (fun r m hr => ?_) fun x m hx => ?_
  · exact (meets_finalize hr hr.1 hr.2.2.1).mono (fun _ _ h => h.settled)
      fun _ _ h => Finalised.base (fun _ h => ⟨h.1, h.2.2.1⟩) h
  · exact (meets_finalize hx hx.outside.1 hx.outside.2).mono (fun _ _ h => h.raised)
      fun _ _ h => Finalised.base (fun _ h => h.outside) h

/-- The soft time limit, outside of what the handlers guard. -/
def Struck (m : Account) : Prop :=
  (m.finalised = 0 ∨ m.finalised = 1 ∧ 2 ≤ m.raised) ∧ m.left = m.entered ∧ m.requeued = 0

theorem Struck.finalised_le (h : Struck m) : m.finalised ≤ 1 := by
  have hfinalised := h.1
  omega

theorem Struck.broke (h : Struck m) {x : Raised} {m' : Account} (hb : Broke m x m') :
    T.ended x m' := by
  obtain ⟨hx, l, rfl⟩ := hb
  cases x with
  | retry => exact absurd rfl hx
  | exn e => exact ⟨h.2.1, h.finalised_le⟩

/-- The failed backup is stored only here, where the limit struck a second time or early. -/
theorem meets_persistTimeout (h : Struck m) {u : MetaUpdate × Bool} (hu : m.lastMeta = some u) :
    Meets T.contract (fun _ m => Struck m ∧ m.lastMeta = some u) T.ended
      (logged (ask .persistTimeout)) m := by
  have hstruck : Struck { m with raised := m.raised + 1 } := by
    refine ⟨h.1.imp_right fun hlate => ⟨hlate.1, ?_⟩, h.2⟩
    exact hlate.2.trans (Nat.le_succ _)
  have hask : Meets T.contract (fun _ m => Struck m ∧ m.lastMeta = some u)
      (fun x m => (∃ e, x = .exn e) ∧ Struck m ∧ m.lastMeta = some u) (ask .persistTimeout) m :=
    meets_ask T .persistTimeout (h.1.imp_right And.right) (fun _ => ⟨h, hu⟩)
      fun e => ⟨⟨e, rfl⟩, hstruck, hu⟩
  refine hask.handle fun x m hx => ?_
  obtain ⟨⟨e, rfl⟩, hstruck, hu⟩ := hx
  show Meets _ _ _ (if e.isException = true then _ else _) m
  split
  · exact meets_pure ⟨hstruck, hu⟩
  · exact meets_throw ⟨hstruck.2.1, hstruck.finalised_le⟩

theorem meets_onSoftTimeLimit (h : Struck m) :
    Meets T.contract TimedOut T.ended T.onSoftTimeLimit m := by
  have hwrite (u : MetaUpdate) (hu : u.completed = true) : Meets T.contract
      (fun _ m => Struck m ∧ m.lastMeta = some (u, true)) T.ended (ask (.updateTaskMeta u)) m :=
    meets_ask T (.updateTaskMeta u) ⟨h.2.1, fun hopen => absurd (hu.symm.trans hopen) (by decide)⟩
      (fun _ => ⟨h, rfl⟩) fun _ => ⟨h.2.1, h.finalised_le⟩
  unfold onSoftTimeLimit
  refine (hwrite _ rfl).bind fun _ m hm => ?_
  refine ((meets_appendTaskLog _ _ _).mono (fun _ _ => id)
    fun _ _ => hm.1.broke).bind fun _ m' hm' => ?_
  subst hm'
  refine (meets_persistTimeout hm.1 hm.2).bind fun _ m hm => ?_
  exact meets_pure ⟨hm.1.1, hm.1.2.1, hm.1.2.2, ⟨_, ⟨rfl, rfl⟩, hm.2⟩, rfl⟩

theorem isException_of_isSoftTimeLimit {e : Exn} (h : isSoftTimeLimit e = true) :
    e.isException = true := by
  unfold isSoftTimeLimit isNamed at h
  rw [Bool.and_eq_true, decide_eq_true_eq] at h
  unfold Exn.isException
  rw [h.1]
  decide

/-- Whatever its commands answer or raise, an attempt keeps the contract, and returns or raises in
one of the ways above. -/
theorem meets_runBackupTask :
    Meets T.contract (fun r m => Settled r m ∨ TimedOut r m) T.ended T.runBackupTask {} := by
  have hinternal : Meets T.contract (fun r m => Settled r m ∨ TimedOut r m) T.InternalRaised
      T.internalRunBackupTask {} :=
    meets_internalRunBackupTask.mono (fun _ _ => .inl) fun _ _ => id
  refine hinternal.handle fun x m hx => ?_
  cases x with
  | retry => exact meets_throw hx
  | exn e =>
    show Meets _ _ _ (if isSoftTimeLimit e = true then _ else _) m
    split
    · next hlimit =>
      obtain ⟨hout, hfinalised, hexception⟩ := hx
      obtain ⟨hrequeued, hwhere⟩ := hexception (isException_of_isSoftTimeLimit hlimit)
      exact (meets_onSoftTimeLimit ⟨by omega, hout, hrequeued⟩).mono (fun _ _ => .inr)
        fun _ _ => id
    · exact meets_throw ⟨hx.1, hx.2.1⟩

/-! ## Counting -/

/-- Nothing that costs or counts happens twice in an attempt. -/
def Once (m : Account) : Prop :=
  m.entered ≤ 1 ∧ m.left ≤ m.entered ∧ m.executions ≤ 1 ∧ m.reports.length ≤ 1 ∧
    m.requeued ≤ 1 ∧ m.finalised ≤ 1

theorem once_start : Once {} := by
  unfold Once
  decide

theorem once_after (c : DeviceCommand) (a : c.Answer) (h : Once m) (hp : T.permits m c) :
    Once (m.after c a) := by
  obtain ⟨hentered, hleft, hexecutions, hreports, hrequeued, hfinalised⟩ := h
  cases c with
  | enterSlot =>
    have hone : m.entered + 1 ≤ 1 := (congrArg Nat.succ hp.2.1).le
    cases a with
    | ok lock =>
      exact ⟨hone, hleft.trans (Nat.le_succ _), hexecutions, hreports, hrequeued, hfinalised⟩
    | error e => exact ⟨hentered, hleft, hexecutions, hreports, hrequeued, hfinalised⟩
  | leaveSlot =>
    have hone : m.left + 1 ≤ m.entered := by
      have hin := hp.1
      have hnone := hp.2.1
      omega
    cases a <;> exact ⟨hentered, hone, hexecutions, hreports, hrequeued, hfinalised⟩
  | runExecutor =>
    have hone : m.executions + 1 ≤ 1 := (congrArg Nat.succ hp.2.2.2.1).le
    cases a <;> exact ⟨hentered, hleft, hone, hreports, hrequeued, hfinalised⟩
  | recordJumpHostOutcome label success =>
    have hone : (m.reports ++ [success]).length ≤ 1 := by
      rw [hp.2.2.2.1]
      exact le_rfl
    cases a <;> exact ⟨hentered, hleft, hexecutions, hone, hrequeued, hfinalised⟩
  | retry countdown =>
    have hone : m.requeued + 1 ≤ 1 := (congrArg Nat.succ hp.2.1).le
    cases a with
    | ok r => exact ⟨hentered, hleft, hexecutions, hreports, hone, hfinalised⟩
    | error e => exact ⟨hentered, hleft, hexecutions, hreports, hrequeued, hfinalised⟩
  | maybeFinalizeBulk =>
    have hone : m.finalised + 1 ≤ 1 := (congrArg Nat.succ hp.2).le
    cases a <;> exact ⟨hentered, hleft, hexecutions, hreports, hrequeued, hone⟩
  | _ => cases a <;> exact ⟨hentered, hleft, hexecutions, hreports, hrequeued, hfinalised⟩

/-! ## Histories -/

/-- What an attempt did, and how it ended. -/
structure Delivery where
  history : List (Prog.Answered DeviceCommand.Answer)
  result : Except Raised DeviceResult

/-- What the delivery amounts to. -/
def Delivery.account (d : Delivery) : Account :=
  d.history.foldl (fun m e => m.after e.1 e.2) {}

/-- `run_backup_task` can go like this. -/
def Performed (T : Attempt) (d : Delivery) : Prop :=
  T.runBackupTask.run.Performs d.history d.result

/-- How an attempt has to go: the contract is observed and nothing happens twice; a result is that
of the meta, of the executor and of a parent evaluated once; `Retry` leaves one retry in the
queue, announced in the meta. -/
structure Lawful (T : Attempt) (d : Delivery) : Prop where
  observed : T.contract.Observed {} d.history
  once : Once d.account
  returned : ∀ r, d.result = .ok r → Settled r d.account ∨ TimedOut r d.account
  requeued : d.result = .error .retry → T.Requeued d.account
  raised : ∀ e, d.result = .error (.exn e) → d.account.left = d.account.entered

theorem Performed.lawful {d : Delivery} (h : T.Performed d) : T.Lawful d := by
  obtain ⟨hobserved, hpost⟩ := (meets_iff.mp (meets_runBackupTask (T := T))).sound h
  have honce : Once d.account :=
    hobserved.invariant (fun _ c a => once_after c a) once_start
  refine ⟨hobserved, honce, fun r hr => ?_, fun hr => ?_, fun e hr => ?_⟩
  · rw [hr] at hpost
    exact hpost
  · rw [hr] at hpost
    exact hpost
  · rw [hr] at hpost
    exact hpost.1

/-- A device without bastion and VPN, whose executor gives this answer. -/
def reachedDirectly (answer : Bool × Option String) : (c : DeviceCommand) → c.Answer
  | .resolveObservability => .ok { deviceName := "OLT", jumpHost := "direct" }
  | .shouldStopNow => .ok false
  | .validateDeviceExecutionAllowed => .ok (true, none, none)
  | .resolveDeviceVpnRequirement => .ok (false, none)
  | .checkJumpHostCircuitBreaker _ => .ok {}
  | .enterSlot | .resolveJumpHostLock => .ok none
  | .runExecutor => .ok answer
  | .emitStarted | .touchBulkActivity | .ensureWorkerReady | .updateTaskMeta _
  | .appendTaskLog .. | .observeAttempt .. | .countRetry .. | .emitFinished .. | .leaveSlot
  | .recordJumpHostDuration _ | .adaptJumpHostSlots .. | .recordJumpHostOutcome .. | .retry _
  | .maybeFinalizeBulk | .persistTimeout => .ok ()

/-- How the attempt goes with these answers. -/
def played (T : Attempt) (oracle : (c : DeviceCommand) → c.Answer) : Delivery :=
  ⟨(T.runBackupTask.run.played oracle).1, (T.runBackupTask.run.played oracle).2⟩

theorem performed_played (T : Attempt) (oracle : (c : DeviceCommand) → c.Answer) :
    T.Performed (T.played oracle) :=
  Prog.performs_played oracle _

def backup (retries : Nat) (answer : Bool × Option String) : Delivery :=
  { env := .ascii, deviceId := "17", retries := retries : Attempt }.played (reachedDirectly answer)

/-- The deliveries of one task from the one with `retries` on: each that ends in `Retry` is
followed by the next. -/
inductive Life (T : Attempt) : Nat → List Delivery → Prop
  | last {retries : Nat} {d : Delivery} (h : { T with retries := retries }.Performed d)
      (hlast : d.result ≠ .error .retry) : Life T retries [d]
  | again {retries : Nat} {d : Delivery} {rest : List Delivery}
      (h : { T with retries := retries }.Performed d) (hagain : d.result = .error .retry)
      (hrest : Life T (retries + 1) rest) : Life T retries (d :: rest)

/-- A delivery that is followed by another one: its executor failed in a transient way, and its meta
was left open. -/
def Superseded (T : Attempt) (m : Account) : Prop :=
  T.Transient m ∧ Wrote (fun u => u.status = .retrying ∧ u.completed = false) m

/-- How the deliveries of a task have to go. -/
structure LawfulLife (T : Attempt) (retries : Nat) (deliveries : List Delivery) : Prop where
  bounded : deliveries.length ≤ T.maxRetries - retries + 1
  notInBatch : T.inBatch = true → deliveries.length = 1
  executions : (deliveries.map fun d => d.account.executions).sum ≤ deliveries.length
  superseded : ∀ d ∈ deliveries.dropLast, T.Superseded d.account
  completed : ∀ d ∈ deliveries.getLast?, ∀ r, d.result = .ok r →
    Wrote (fun u => u.completed = true) d.account ∧ d.account.requeued = 0

theorem Life.lawful {retries : Nat} {deliveries : List Delivery} (h : T.Life retries deliveries) :
    T.LawfulLife retries deliveries := by
  induction h with
  | @last retries d h hlast =>
    have hlawful := h.lawful
    refine ⟨by simp, fun _ => rfl, ?_, fun _ hd => absurd hd List.not_mem_nil, ?_⟩
    · show d.account.executions + 0 ≤ 1
      exact hlawful.once.2.2.1
    · intro d' hd' r hr
      cases hd'
      rcases hlawful.returned r hr with hsettled | htimedOut
      · obtain ⟨-, -, hrequeued, ⟨u, hu, hwritten⟩, -⟩ := hsettled
        exact ⟨⟨u, hu.1, hwritten⟩, hrequeued⟩
      · obtain ⟨-, -, hrequeued, ⟨u, hu, hwritten⟩, -⟩ := htimedOut
        exact ⟨⟨u, hu.1, hwritten⟩, hrequeued⟩
  | @again retries d rest h hagain hrest ih =>
    have hlawful := h.lawful
    obtain ⟨-, -, -, hbatch, hretries, -, htransient, hwrote⟩ := hlawful.requeued hagain
    have hretries : retries < T.maxRetries := hretries
    have hnonempty : rest ≠ [] := by
      intro hnil
      rw [hnil] at hrest
      cases hrest
    refine ⟨?_, fun hin => absurd (hbatch.symm.trans hin) Bool.false_ne_true, ?_, ?_, ?_⟩
    · have hbounded := ih.bounded
      rw [List.length_cons]
      omega
    · have hsum := ih.executions
      have hone := hlawful.once.2.2.1
      rw [List.map_cons, List.sum_cons, List.length_cons]
      omega
    · rw [List.dropLast_cons_of_ne_nil hnonempty]
      intro d' hd'
      rcases List.mem_cons.mp hd' with rfl | hd'
      · exact ⟨htransient, hwrote⟩
      · exact ih.superseded d' hd'
    · rw [List.getLast?_cons_of_ne_nil hnonempty]
      exact ih.completed

end Attempt
end BackupCenter.Tasks
