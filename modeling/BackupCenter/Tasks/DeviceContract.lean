import BackupCenter.Tasks.DeviceTask

/-!
# What an attempt may do, and when

The account of an attempt counts what its commands have done. The contract says what must have
happened before each command: the guards before the slot, the slot around the executor, one report
to the breaker after it, the evaluation of the parent batch last. The attempt keeps the contract
whatever its commands answer or raise.
-/
namespace BackupCenter.Tasks

open BackupCenter.Lib
open BackupCenter.Lib.Raising
open BackupCenter.Executor (Exn)
open BackupCenter.JumpHost (LockInfo)

/-! ## Accounts -/

structure Account where
  /-- the label of the device's bastion -/
  label : Option String := none
  /-- the last answers of the guards -/
  stop : Option Bool := none
  allowed : Option Bool := none
  requiresVpn : Option Bool := none
  workerReady : Bool := false
  breakerOpen : Option Bool := none
  /-- slots taken and given back, and runs of the executor -/
  entered : Nat := 0
  left : Nat := 0
  executions : Nat := 0
  verdict : Option (Bool × Option String) := none
  /-- what the breaker was told -/
  reports : List Bool := []
  /-- the last update of the meta, and whether it was answered -/
  lastMeta : Option (MetaUpdate × Bool) := none
  /-- retries in the queue, and evaluations of the parent batch -/
  requeued : Nat := 0
  finalised : Nat := 0
  /-- commands that raised, but for the evaluation of the parent -/
  raised : Nat := 0

namespace Account

/-- A command counts as done even if its answer is lost. -/
def issue (m : Account) : DeviceCommand → Account
  | .leaveSlot => { m with left := m.left + 1 }
  | .runExecutor => { m with executions := m.executions + 1 }
  | .recordJumpHostOutcome _ success => { m with reports := m.reports ++ [success] }
  | .updateTaskMeta u => { m with lastMeta := some (u, false) }
  | .maybeFinalizeBulk => { m with finalised := m.finalised + 1 }
  | _ => m

def reply (m : Account) : (c : DeviceCommand) → c.Reply → Account
  | .resolveObservability, o => { m with label := some (orText o.jumpHost "unknown") }
  | .shouldStopNow, stop => { m with stop := some stop }
  | .validateDeviceExecutionAllowed, r => { m with allowed := some r.1 }
  | .resolveDeviceVpnRequirement, r => { m with requiresVpn := some r.1 }
  | .ensureWorkerReady, _ => { m with workerReady := true }
  | .checkJumpHostCircuitBreaker _, v => { m with breakerOpen := some v.isOpen }
  | .enterSlot, _ => { m with entered := m.entered + 1 }
  | .runExecutor, r => { m with verdict := some r }
  | .updateTaskMeta u, _ => { m with lastMeta := some (u, true) }
  | .retry _, _ => { m with requeued := m.requeued + 1 }
  | _, _ => m

def raise (m : Account) : DeviceCommand → Account
  | .maybeFinalizeBulk => m
  | _ => { m with raised := m.raised + 1 }

def after (m : Account) (c : DeviceCommand) : c.Answer → Account
  | .ok r => (m.issue c).reply c r
  | .error _ => (m.issue c).raise c

end Account

/-! ## The contract -/

namespace Attempt

variable (T : Attempt)

/-- The worker can reach the device if that takes a VPN; a task without a queue is not asked. -/
def Reachable (m : Account) : Prop :=
  m.requiresVpn = some false ∨
    m.requiresVpn = some true ∧
      (currentTaskQueue T.deliveryInfo = "" ∨
        currentTaskQueue T.deliveryInfo = "vpn_queue" ∧ m.workerReady = true)

/-- Every guard let the attempt pass. -/
def Admitted (m : Account) : Prop :=
  m.stop = some false ∧ m.allowed = some true ∧ T.Reachable m ∧
    (m.label = some "direct" ∨ m.breakerOpen = some false)

/-- What the breaker has to be told about an answer of the executor, if anything. -/
def report (answer : Bool × Option String) : Option Bool :=
  match (T.executorResult answer.1 answer.2).failureCategory with
  | none => some true
  | some category => blame category

/-- The executor succeeded. -/
def Succeeded (m : Account) : Prop := ∃ message, m.verdict = some (true, message)

/-- The executor failed in a way that a retry may cure. -/
def Transient (m : Account) : Prop :=
  ∃ message category, m.verdict = some (false, message) ∧
    (T.executorResult false message).failureCategory = some category ∧
    isTransientFailure T.env (normalize T.env category) = true

/-- The last update of the meta was answered. -/
def Wrote (P : MetaUpdate → Prop) (m : Account) : Prop := ∃ u, P u ∧ m.lastMeta = some (u, true)

def MayRetry (m : Account) : Prop :=
  T.inBatch = false ∧ T.retries < T.maxRetries ∧ m.stop = some false ∧ T.Transient m ∧
    Wrote (fun u => u.status = .retrying ∧ u.completed = false) m

def permits (m : Account) : DeviceCommand → Prop
  | .enterSlot => T.Admitted m ∧ m.entered = 0 ∧ m.finalised = 0
  | .runExecutor => T.Admitted m ∧ m.entered = 1 ∧ m.left = 0 ∧ m.executions = 0 ∧ m.finalised = 0
  | .leaveSlot => m.entered = 1 ∧ m.left = 0 ∧ m.finalised = 0
  | .adaptJumpHostSlots _ success _ =>
    m.left = m.entered ∧ m.finalised = 0 ∧
      (success = true → Succeeded m)
  | .recordJumpHostOutcome label success =>
    m.label = some label ∧ label ≠ "direct" ∧ m.left = 1 ∧ m.reports = [] ∧ m.finalised = 0 ∧
      ∃ answer, m.verdict = some answer ∧ T.report answer = some success
  | .updateTaskMeta u => m.left = m.entered ∧ (u.completed = false → m.finalised = 0)
  | .appendTaskLog .. => True
  | .retry _ => T.MayRetry m ∧ m.requeued = 0 ∧ m.finalised = 0
  | .maybeFinalizeBulk => m.left = m.entered ∧ m.finalised = 0
  | .persistTimeout => m.finalised = 0 ∨ 2 ≤ m.raised
  | _ => m.finalised = 0

def contract : Contract DeviceCommand.Answer Account where
  permits := T.permits
  after := Account.after

/-! ## The ways out -/

/-- A success is one of the executor, and is only lost to an exception. -/
def Honest (r : DeviceResult) (m : Account) : Prop :=
  (r.success = true → Succeeded m) ∧ (m.raised = 0 → Succeeded m → r.success = true)

/-- The attempt returned `r`: the parent was evaluated once, every slot is given back, no retry is
in the queue, and the last update of the meta completes the task with just this result. -/
def Settled (r : DeviceResult) (m : Account) : Prop :=
  m.finalised = 1 ∧ m.left = m.entered ∧ m.requeued = 0 ∧
    Wrote (fun u => u.completed = true ∧ u.result = some r) m ∧ Honest r m

/-- The soft time limit struck outside of what the handlers guard. -/
def TimedOut (r : DeviceResult) (m : Account) : Prop :=
  (m.finalised = 0 ∨ m.finalised = 1 ∧ 2 ≤ m.raised) ∧ m.left = m.entered ∧ m.requeued = 0 ∧
    Wrote (fun u => u.completed = true ∧ u.status = .failed) m ∧ r.success = false

/-- The attempt ended in `Retry`. -/
def Requeued (m : Account) : Prop :=
  m.finalised = 1 ∧ m.left = m.entered ∧ m.requeued = 1 ∧ T.MayRetry m

def ended : Raised → Account → Prop
  | .retry => T.Requeued
  | .exn _ => fun m => m.left = m.entered ∧ m.finalised ≤ 1

/-! ## Single commands -/

variable {T} {m : Account} {c : DeviceCommand}

theorem meets_ask (T : Attempt) (c : DeviceCommand) {ok : c.Reply → Account → Prop}
    {raised : Raised → Account → Prop} (hp : T.permits m c)
    (hok : ∀ r, ok r (m.after c (.ok r))) (hraised : ∀ e, raised (.exn e) (m.after c (.error e))) :
    Meets T.contract ok raised (ask c) m := by
  refine meets_iff.mpr ⟨hp, fun a => ?_⟩
  cases a with
  | ok r => exact hok r
  | error e => exact hraised e

/-- Only the meta and the count of exceptions differ, and an exception was raised. -/
def Broke (m : Account) (x : Raised) (m' : Account) : Prop :=
  x ≠ .retry ∧ ∃ l, m' = { m with lastMeta := l, raised := m.raised + 1 }

/-- Commands that change nothing but the count of exceptions. -/
theorem meets_quiet (T : Attempt) (c : DeviceCommand) (hp : T.permits m c) (hissue : m.issue c = m)
    (hreply : ∀ r, m.reply c r = m) (hraise : m.raise c = { m with raised := m.raised + 1 }) :
    Meets T.contract (fun _ m' => m' = m) (Broke m) (ask c) m := by
  refine meets_ask T c hp (fun r => ?_) fun e => ⟨Raised.noConfusion, m.lastMeta, ?_⟩
  · show (m.issue c).reply c r = m
    rw [hissue, hreply]
  · show (m.issue c).raise c = _
    rw [hissue, hraise]

theorem meets_updateTaskMeta (u : MetaUpdate) (hout : m.left = m.entered) (h : m.finalised = 0) :
    Meets T.contract (fun _ m' => m' = { m with lastMeta := some (u, true) }) (Broke m)
      (ask (.updateTaskMeta u)) m :=
  meets_ask T (.updateTaskMeta u) ⟨hout, fun _ => h⟩ (fun _ => rfl)
    fun _ => ⟨Raised.noConfusion, some (u, false), rfl⟩

theorem meets_appendTaskLog (deviceName message level : String) :
    Meets T.contract (fun _ m' => m' = m) (Broke m) (ask (.appendTaskLog deviceName message level))
      m :=
  meets_quiet T _ trivial rfl (fun _ => rfl) rfl

theorem meets_trackAttemptOutcome (outcome category message : String) (retryScheduled : Bool)
    (h : m.finalised = 0) :
    Meets T.contract (fun _ m' => m' = m) (Broke m)
      (trackAttemptOutcome outcome category message retryScheduled) m := by
  have htail : ∀ m', m' = m → Meets T.contract (fun _ m' => m' = m) (Broke m)
      (do ask (.emitFinished outcome category message); ask .touchBulkActivity) m' := by
    rintro _ rfl
    refine (meets_quiet T (.emitFinished ..) h rfl (fun _ => rfl) rfl).bind fun _ m' hm => ?_
    subst hm
    exact meets_quiet T .touchBulkActivity h rfl (fun _ => rfl) rfl
  refine (meets_quiet T (.observeAttempt ..) h rfl (fun _ => rfl) rfl).bind fun _ m' hm => ?_
  subst hm
  cases retryScheduled with
  | false => exact htail m' rfl
  | true =>
    exact (meets_quiet T (.countRetry ..) h rfl (fun _ => rfl) rfl).bind fun _ _ => htail _

/-- Concluding writes the meta last. -/
theorem meets_conclude (x : Ending) (hout : m.left = m.entered) (h : m.finalised = 0) :
    Meets T.contract (fun _ m' => m' = { m with lastMeta := some (x.update, true) }) (Broke m)
      (conclude x) m := by
  have hbroke : ∀ e m', Broke { m with lastMeta := some (x.update, true) } e m' → Broke m e m' :=
    fun _ _ he => he
  refine (meets_updateTaskMeta x.update hout h).bind fun _ m' hm => ?_
  subst hm
  refine ((meets_appendTaskLog _ _ _).mono (fun _ _ => id) hbroke).bind fun _ m' hm => ?_
  subst hm
  refine (meets_trackAttemptOutcome _ _ _ _ ?_).mono (fun _ _ => id) hbroke
  exact h

/-! ## The guards -/

/-- Nothing of the attempt has happened but guards. -/
def Fresh (m : Account) : Prop :=
  m.entered = 0 ∧ m.left = 0 ∧ m.executions = 0 ∧ m.verdict = none ∧ m.reports = [] ∧
    m.requeued = 0 ∧ m.finalised = 0

theorem Fresh.outside (h : Fresh m) : m.left = m.entered := h.2.1.trans h.1.symm

theorem Fresh.notFinalised (h : Fresh m) : m.finalised = 0 := h.2.2.2.2.2.2

theorem Fresh.notRequeued (h : Fresh m) : m.requeued = 0 := h.2.2.2.2.2.1

theorem Fresh.notSucceeded (h : Fresh m) : ¬ Succeeded m := by
  rintro ⟨text, htext⟩
  cases h.2.2.2.1.symm.trans htext

/-- A guard let the attempt pass, with `P`, or answered for it. -/
def guarded (P : Account → Prop) : Option DeviceResult → Account → Prop
  | none, m => Fresh m ∧ P m
  | some r, m =>
    Fresh m ∧ Wrote (fun u => u.completed = true ∧ u.result = some r) m ∧ r.success = false

def GuardRaised (x : Raised) (m : Account) : Prop := x ≠ .retry ∧ Fresh m ∧ 1 ≤ m.raised

theorem Broke.guardRaised (h : Fresh m) {x : Raised} {m' : Account} (hb : Broke m x m') :
    GuardRaised x m' := by
  obtain ⟨hx, l, rfl⟩ := hb
  exact ⟨hx, h, Nat.succ_pos _⟩

theorem meets_orElse {P Q : Account → Prop} {p q : DeviceProgram (Option DeviceResult)}
    (hp : Meets T.contract (guarded P) GuardRaised p m)
    (hq : ∀ m, Fresh m → P m → Meets T.contract (guarded Q) GuardRaised q m) :
    Meets T.contract (guarded Q) GuardRaised (orElse p q) m := by
  refine hp.bind fun r m' hr => ?_
  cases r with
  | none => exact hq m' hr.1 hr.2
  | some r => exact meets_pure hr

theorem meets_refuse {P : Account → Prop} (x : Ending) {r : DeviceResult} (h : Fresh m)
    (hcompleted : x.update.completed = true) (hr : r.success = false) :
    Meets T.contract (guarded P) GuardRaised (refuse x r) m := by
  refine Meets.bind ((meets_conclude _ h.outside h.notFinalised).mono (fun _ _ => id)
    fun _ _ hb => hb.guardRaised h) fun _ m' hm => ?_
  subst hm
  exact meets_pure ⟨h, ⟨{ x.update with result := some r }, ⟨hcompleted, rfl⟩, rfl⟩, hr⟩

theorem meets_refuseVpn {P : Account → Prop} (name : Option String) (message : String)
    (h : Fresh m) : Meets T.contract (guarded P) GuardRaised (refuseVpn name message) m :=
  meets_refuse _ h rfl rfl

/-- A question of a guard. -/
theorem meets_question (T : Attempt) (c : DeviceCommand) {ok : c.Reply → Account → Prop}
    (h : Fresh m) (hp : T.permits m c)
    (hraise : ∀ e, m.after c (.error e) = { m with raised := m.raised + 1 })
    (hok : ∀ r, ok r (m.after c (.ok r))) : Meets T.contract ok GuardRaised (ask c) m := by
  refine meets_ask T c hp hok fun e => ?_
  rw [hraise]
  exact ⟨Raised.noConfusion, h, Nat.succ_pos _⟩

theorem meets_stopGuard {label : String} (h : Fresh m) (hlabel : m.label = some label) :
    Meets T.contract (guarded fun m => m.label = some label ∧ m.stop = some false) GuardRaised
      stopGuard m := by
  have htouch : Meets T.contract (fun _ m' => m' = m) GuardRaised (ask .touchBulkActivity) m :=
    meets_question T .touchBulkActivity h h.notFinalised (fun _ => rfl) fun _ => rfl
  have hstop : Meets T.contract (fun (stop : Bool) m => Fresh m ∧ m.label = some label ∧
      m.stop = some stop) GuardRaised (ask .shouldStopNow) m :=
    meets_question T .shouldStopNow h h.notFinalised (fun _ => rfl) fun _ => ⟨h, hlabel, rfl⟩
  refine htouch.bind fun _ m' hm => ?_
  subst hm
  refine hstop.bind fun stop m hm => ?_
  cases stop with
  | false => exact meets_pure hm
  | true => exact meets_refuse _ hm.1 rfl rfl

theorem meets_policyGuard {P : Account → Prop} (h : Fresh m)
    (hP : ∀ allowed, P { m with allowed := some allowed }) :
    Meets T.contract (guarded fun m => P m ∧ m.allowed = some true) GuardRaised policyGuard m := by
  have hallowed : Meets T.contract (fun (r : Bool × Option String × Option String) m => Fresh m ∧
      P m ∧ m.allowed = some r.1) GuardRaised (ask .validateDeviceExecutionAllowed) m :=
    meets_question T .validateDeviceExecutionAllowed h h.notFinalised (fun _ => rfl)
      fun r => ⟨h, hP r.1, rfl⟩
  refine hallowed.bind fun r m hm => ?_
  obtain ⟨allowed, message, category⟩ := r
  cases allowed with
  | true => exact meets_pure hm
  | false => exact meets_refuse _ hm.1 rfl rfl

/-- A worker of the VPN queue has to be ready. -/
theorem meets_workerGuard {P : Account → Prop} (name : Option String) (h : Fresh m)
    (hP : P { m with workerReady := true }) :
    Meets T.contract (guarded P) GuardRaised (workerGuard name) m := by
  have hask : Meets T.contract (fun _ m => Fresh m ∧ P m) GuardRaised (ask .ensureWorkerReady) m :=
    meets_question T .ensureWorkerReady h h.notFinalised (fun _ => rfl) fun _ => ⟨h, hP⟩
  have hready : Meets T.contract (guarded P) GuardRaised
      (do ask .ensureWorkerReady; return none : DeviceProgram _) m :=
    hask.bind fun _ _ hm => meets_pure hm
  refine hready.handle fun x m hx => ?_
  cases x with
  | retry => exact absurd rfl hx.1
  | exn e =>
    show Meets _ _ _ (if _ then _ else _) m
    split
    · exact meets_refuseVpn _ _ hx.2.1
    · exact meets_throw hx

theorem meets_queueGuard {P : Account → Prop} (name : Option String) (h : Fresh m) (hP : P m)
    (hready : P { m with workerReady := true }) (hvpn : m.requiresVpn = some true) :
    Meets T.contract (guarded fun m => P m ∧ T.Reachable m) GuardRaised (T.queueGuard name) m := by
  unfold queueGuard
  dsimp only
  split
  · next hqueue => exact meets_workerGuard name h ⟨hready, .inr ⟨hvpn, .inr ⟨hqueue, rfl⟩⟩⟩
  · split
    · next hunknown => exact meets_pure ⟨h, hP, .inr ⟨hvpn, .inl hunknown⟩⟩
    · exact meets_refuseVpn _ _ h

theorem meets_vpnGuard {P : Account → Prop} (h : Fresh m)
    (hP : ∀ vpn ready, P { m with requiresVpn := vpn, workerReady := ready }) :
    Meets T.contract (guarded fun m => P m ∧ T.Reachable m) GuardRaised T.vpnGuard m := by
  have hvpn : Meets T.contract (fun (r : Bool × Option String) m => Fresh m ∧ P m ∧
      P { m with workerReady := true } ∧ m.requiresVpn = some r.1) GuardRaised
      (ask .resolveDeviceVpnRequirement) m :=
    meets_question T .resolveDeviceVpnRequirement h h.notFinalised (fun _ => rfl)
      fun r => ⟨h, hP _ _, hP _ _, rfl⟩
  unfold vpnGuard
  refine hvpn.bind fun r m hm => ?_
  obtain ⟨requiresVpn, name⟩ := r
  obtain ⟨h, hP, hready, hvpn⟩ := hm
  show Meets _ _ _ (if requiresVpn = true then _ else _) m
  split
  · next htrue => exact meets_queueGuard name h hP hready (hvpn.trans (congrArg some htrue))
  · next hfalse =>
    have hnone := hvpn.trans (congrArg some (Bool.eq_false_of_not_eq_true hfalse))
    exact meets_pure ⟨h, hP, .inl hnone⟩

theorem meets_breakerGuard {P : Account → Prop} (label : String) (h : Fresh m)
    (hP : ∀ u isOpen, P { m with lastMeta := u, breakerOpen := isOpen }) :
    Meets T.contract (guarded fun m => P m ∧ (label = "direct" ∨ m.breakerOpen = some false))
      GuardRaised (T.breakerGuard label) m := by
  have hstart (u : MetaUpdate) : Meets T.contract (fun _ m => Fresh m ∧ P m ∧
      ∀ isOpen, P { m with breakerOpen := isOpen }) GuardRaised (ask (.updateTaskMeta u)) m :=
    (meets_updateTaskMeta u h.outside h.notFinalised).mono
      (fun _ _ hm => hm ▸ ⟨h, hP _ _, hP _⟩) fun _ _ hb => hb.guardRaised h
  refine (hstart _).bind fun _ m hm => ?_
  refine ((meets_appendTaskLog _ _ _).mono (fun _ _ => id)
    fun _ _ hb => hb.guardRaised hm.1).bind fun _ m' hm' => ?_
  subst hm'
  obtain ⟨h, hP, hanswer⟩ := hm
  show Meets _ _ _ (if _ then _ else _) _
  split
  · next hdirect => exact meets_pure ⟨h, hP, .inl hdirect⟩
  · have hcheck : Meets T.contract (fun (v : JumpHost.BreakerVerdict) m => Fresh m ∧ P m ∧
        m.breakerOpen = some v.isOpen) GuardRaised (ask (.checkJumpHostCircuitBreaker label)) m' :=
      meets_question T (.checkJumpHostCircuitBreaker _) h h.notFinalised (fun _ => rfl)
        fun v => ⟨h, hanswer _, rfl⟩
    refine hcheck.bind fun v m hm => ?_
    obtain ⟨h, hP, hopen⟩ := hm
    show Meets _ _ _ (if _ then _ else _) m
    split
    · exact meets_refuse _ h rfl rfl
    · next hclosed =>
      have hfalse := hopen.trans (congrArg some (Bool.eq_false_of_not_eq_true hclosed))
      exact meets_pure ⟨h, hP, .inr hfalse⟩

/-- Who passes the guards may take a slot. -/
theorem meets_guards {label : String} (h : Fresh m) (hlabel : m.label = some label) :
    Meets T.contract (guarded fun m => m.label = some label ∧ T.Admitted m) GuardRaised
      (T.guards label) m := by
  let running (m : Account) : Prop := m.label = some label ∧ m.stop = some false
  let eligible (m : Account) : Prop := running m ∧ m.allowed = some true
  let reachable (m : Account) : Prop := eligible m ∧ T.Reachable m
  have hchain : Meets T.contract
      (guarded fun m => reachable m ∧ (label = "direct" ∨ m.breakerOpen = some false)) GuardRaised
      (T.guards label) m := by
    refine meets_orElse (meets_stopGuard h hlabel) fun m h hP => ?_
    refine meets_orElse (meets_policyGuard (P := running) h fun _ => hP) fun m h hP => ?_
    refine meets_orElse (meets_vpnGuard (P := eligible) h fun _ _ => hP) fun m h hP => ?_
    exact meets_breakerGuard (P := reachable) label h fun _ _ => hP
  refine hchain.mono (fun r m hr => ?_) fun _ _ => id
  cases r with
  | none =>
    obtain ⟨h, ⟨⟨⟨hlabel, hstop⟩, hallowed⟩, hreach⟩, hbreaker⟩ := hr
    exact ⟨h, hlabel, hstop, hallowed, hreach,
      hbreaker.imp_left fun hdirect => hlabel.trans (congrArg some hdirect)⟩
  | some r => exact hr

end Attempt
end BackupCenter.Tasks
