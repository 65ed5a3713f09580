import BackupCenter.Bulk.Registration
import BackupCenter.Lib.Exec
import BackupCenter.Web.BulkStatus

/-!
# Runs of a phased batch

The routine plans `total_tasks` up front, while the children are recorded phase by
phase. A chord dispatches the callback of a phase when all its header tasks have
succeeded. Both completion tests compare the two numbers, so every deferred task must
become a child in the end, and a callback that returns early under a stop, or is never
dispatched, leaves the batch open for ever.
-/
namespace BackupCenter.Bulk

open BackupCenter.Lib BackupCenter.Tasks BackupCenter.Web

/-- A batch as an enqueuing routine plans it. -/
structure PhasedBatch where
  routine : Routine
  plan : Plan
  deferred : plan.phasedDeferred = decide (plan.jump ≠ [] ∨ plan.vpn ≠ [])
  jump_wf : WellFormedPayload plan.jump
  vpn_wf : WellFormedPayload plan.vpn
  ids_nodup : (plan.children.map NewChild.taskId).Nodup
  ids_nonempty : ∀ c ∈ plan.children, c.taskId ≠ ""
  has_tasks : 0 < plan.totalTasks

/-- Where the phases stand: which callback is still to come. -/
inductive Phase where
  /-- The direct children are the header of the jump callback. -/
  | direct
  /-- The jump children are the header of the VPN callback. -/
  | jump
  /-- Nothing is deferred any more. -/
  | done
  /-- A callback found a stop and enqueued nothing. -/
  | skipped
  deriving Repr, DecidableEq

structure PhasedState where
  stored : TaskMeta := {}
  world : World := ⟨fun _ => {}, fun _ => {}⟩
  registered : Bool := false
  phase : Phase
  /-- The header tasks of the chord whose callback is still to come. -/
  header : List TaskId
  /-- The children that callbacks have enqueued. -/
  extra : List NewChild := []
  globalStop : Bool := false

inductive PhasedEvent where
  /-- The routine writes the final meta of the batch. -/
  | register
  /-- A child's stored meta and Celery records change. -/
  | child (id : TaskId) (m : TaskMeta) (r : AsyncResult)
  /-- The callback of the current phase runs. -/
  | callback (fresh : Nat → TaskId)
  | cancel (forced : List TaskId) (now : Timestamp)
  | setStop (stop : Bool)
  | heartbeat (now : Timestamp)
  | finalise (now : Timestamp)
  | poll

def PhasedBatch.start (b : PhasedBatch) : PhasedState where
  phase := if b.plan.phasedDeferred then .direct else .done
  header := if b.plan.phasedDeferred then b.plan.children.map NewChild.taskId else []

/-- All children enqueued so far. -/
def PhasedState.enqueued (b : PhasedBatch) (s : PhasedState) : List NewChild :=
  b.plan.children ++ s.extra

def PhasedState.ended (s : PhasedState) (id : TaskId) : Bool :=
  (s.world.celery id).state.any [.success, .failure, .revoked].contains

def PhasedState.succeeded (s : PhasedState) (id : TaskId) : Bool :=
  (s.world.celery id).state = some .success

/-- The answer of a callback's stop check. -/
def PhasedState.stop (s : PhasedState) : Bool := s.globalStop || s.stored.cancelRequested

/-- The callback of the current phase is waiting. -/
def PhasedState.waiting (s : PhasedState) : Bool := s.phase = .direct ∨ s.phase = .jump

/-- The chord has dispatched the callback: every header task has succeeded. -/
def PhasedState.callbackReady (s : PhasedState) : Bool := s.waiting && s.header.all s.succeeded

/-- The callback of the current phase. -/
def PhasedState.callback (b : PhasedBatch) (s : PhasedState) (fresh : Nat → TaskId) : Callback :=
  if s.phase = .direct then jumpCallback s.stop b.plan.jump b.plan.vpn fresh
  else vpnCallback s.stop b.plan.vpn fresh

def PhasedState.nextPhase (b : PhasedBatch) (s : PhasedState) : Phase :=
  if s.stop then .skipped
  else if s.phase = .direct ∧ b.plan.jump ≠ [] ∧ b.plan.vpn ≠ [] then .jump
  else .done

/-- The ids of new tasks do not occur yet. -/
def PhasedState.areFresh (b : PhasedBatch) (s : PhasedState) (new : List NewChild) : Bool :=
  decide ((s.enqueued b ++ new).map NewChild.taskId).Nodup && new.all (·.taskId ≠ "")

def phasedStep (env : Env) (b : PhasedBatch) (s : PhasedState) : PhasedEvent → Option PhasedState
  | .register =>
    if s.registered then none
    else some
      { s with registered := true, stored := b.routine.finalFields b.plan s.stored s.stored }
  | .child id m r =>
    if (s.enqueued b).any (·.taskId = id) && !s.ended id then
      some
        { s with
          world := ⟨Function.update s.world.taskMeta id m, Function.update s.world.celery id r⟩ }
    else none
  | .callback fresh =>
    let cb := s.callback b fresh
    if s.callbackReady && s.areFresh b cb.new then
      some
        { s with
          stored := cb.update s.stored
          extra := s.extra ++ cb.new
          header := cb.new.map NewChild.taskId
          phase := s.nextPhase b }
    else none
  | .cancel forced now =>
    if s.stored.isBulk then
      some { s with stored := cancelFields forced now s.stored, globalStop := true }
    else none
  | .setStop stop => some { s with globalStop := stop }
  | .heartbeat now => some { s with stored := { s.stored with lastChildActivityAt := some now } }
  | .finalise now =>
    if s.stored.isBulk && !s.stored.completed then
      match buildBulkTerminalSnapshot env s.world s.stored now with
      | some snapshot => some { s with stored := s.stored.applySnapshot snapshot }
      | none => some s
    else some s
  | .poll =>
    if s.stored.isBulk && !s.stored.completed then
      some { s with stored := (refreshBulkTaskMeta env s.world s.stored).applyTo s.stored }
    else some s

/-- No task of the batch is queued or running any more: the routine has written its meta,
every child has ended, and no callback is on its way. -/
structure Quiescent (b : PhasedBatch) (s : PhasedState) : Prop where
  registered : s.registered = true
  ended : ∀ c ∈ s.enqueued b, s.ended c.taskId = true
  no_callback : s.callbackReady = false

/-- The recorded children reach `total_tasks`, the snapshot is ready, and the next poll
takes the batch for completed. -/
structure Finalisable (env : Env) (s : PhasedState) : Prop where
  all_recorded : s.stored.totalTasks ≤ s.stored.childIds.length
  snapshot_ready : ∀ now, (buildBulkTerminalSnapshot env s.world s.stored now).isSome = true
  poll_completes : (refreshBulkTaskMeta env s.world s.stored).completed = true

/-- A callback does not find a stop, a header task does not end without success, and a
routine that does not merge writes its meta before any callback runs. -/
def PhasesProceed (b : PhasedBatch) (s : PhasedState) : PhasedEvent → Prop
  | .callback _ => s.stop = false
  | .child id _ r =>
    s.waiting = true → id ∈ s.header → r.state ≠ some .failure ∧ r.state ≠ some .revoked
  | .register => b.routine.merges = true ∨ s.extra = []
  | _ => True

/-! ## The invariant -/

/-- The meta records exactly the children in `l`, and plans for at most `pending` more. -/
structure RecordedAs (l : List NewChild) (pending : Nat) (m : TaskMeta) : Prop where
  nodup : m.childTaskIds.Nodup
  mem_iff : ∀ id, id ∈ m.childTaskIds ↔ id ∈ l.map NewChild.taskId
  total_le : m.totalTasks ≤ l.length + pending

section RecordedAs

variable {l new : List NewChild} {pending : Nat} {m : TaskMeta}

theorem RecordedAs.congr (h : RecordedAs l pending m) {m' : TaskMeta}
    (hids : m'.childTaskIds = m.childTaskIds) (htotal : m'.totalTasks ≤ l.length + pending) :
    RecordedAs l pending m' :=
  ⟨hids ▸ h.nodup, fun id => hids ▸ h.mem_iff id, htotal⟩

theorem RecordedAs.childIds_eq (h : RecordedAs l pending m) (hne : ∀ c ∈ l, c.taskId ≠ "") :
    m.childIds = m.childTaskIds := by
  apply List.filter_eq_self.mpr
  intro id hid
  obtain ⟨c, hc, rfl⟩ := List.mem_map.mp ((h.mem_iff id).mp hid)
  simpa using hne c hc

/-- As many ids are recorded as there are children. -/
theorem RecordedAs.length_eq (h : RecordedAs l pending m) (hnd : (l.map NewChild.taskId).Nodup)
    (hne : ∀ c ∈ l, c.taskId ≠ "") : m.childIds.length = l.length := by
  rw [h.childIds_eq hne]
  have hperm := (List.perm_ext_iff_of_nodup h.nodup hnd).mpr h.mem_iff
  simpa using hperm.length_eq

/-- A list of distinct ids with the right members has the right length. -/
theorem length_fromKeys {ids : List TaskId} (hnd : (l.map NewChild.taskId).Nodup)
    (h : ∀ id, id ∈ ids ↔ id ∈ l.map NewChild.taskId) : (fromKeys ids).length = l.length := by
  have hperm := (List.perm_ext_iff_of_nodup (nodup_fromKeys ids) hnd).mpr fun id =>
    mem_fromKeys.trans (h id)
  simpa using hperm.length_eq

theorem RecordedAs.merged (h : RecordedAs l pending m) (hne : ∀ c ∈ l, c.taskId ≠ "")
    (new : List NewChild) (id : TaskId) :
    id ∈ m.childIds ++ new.map NewChild.taskId ↔ id ∈ (l ++ new).map NewChild.taskId := by
  rw [h.childIds_eq hne, List.map_append, List.mem_append, List.mem_append, h.mem_iff]

/-- A callback that enqueues `new` leaves `pending` tasks to come. -/
theorem RecordedAs.phaseFields {before : Nat} (h : RecordedAs l before m)
    (hnd : ((l ++ new).map NewChild.taskId).Nodup) (hne : ∀ c ∈ l, c.taskId ≠ "")
    (hbefore : before = new.length + pending) (message : String) :
    RecordedAs (l ++ new) pending (phaseFields m new pending message m) where
  nodup := nodup_fromKeys _
  mem_iff id := mem_fromKeys.trans (h.merged hne new id)
  total_le := by
    have hlen := length_fromKeys hnd (h.merged hne new)
    have htotal := h.total_le
    simp only [Bulk.phaseFields, hlen, List.length_append]
    omega

/-- The final write of a routine adds the routine's own children to those recorded. -/
theorem RecordedAs.finalFields {r : Routine} {p : Plan} (h : RecordedAs l pending m)
    (hnd : ((p.children ++ l).map NewChild.taskId).Nodup)
    (hne : ∀ c ∈ p.children ++ l, c.taskId ≠ "") (hr : r.merges = true ∨ l = [])
    (htotal : p.totalTasks ≤ (p.children ++ l).length + pending) :
    RecordedAs (p.children ++ l) pending (r.finalFields p m m) := by
  have hnel : ∀ c ∈ l, c.taskId ≠ "" := fun c hc => hne c (List.mem_append_right _ hc)
  by_cases hm : r.merges = true
  · have hmem : ∀ id, id ∈ (p.children.map NewChild.taskId).filter (· ≠ "") ++ m.childIds ↔
        id ∈ (p.children ++ l).map NewChild.taskId := by
      intro id
      have hplan : (p.children.map NewChild.taskId).filter (· ≠ "") =
          p.children.map NewChild.taskId := by
        apply List.filter_eq_self.mpr
        intro id hid
        obtain ⟨c, hc, rfl⟩ := List.mem_map.mp hid
        simpa using hne c (List.mem_append_left _ hc)
      rw [hplan, h.childIds_eq hnel, List.map_append, List.mem_append, List.mem_append, h.mem_iff]
    have hlen := length_fromKeys hnd hmem
    have hold := h.total_le
    refine ⟨?_, fun id => ?_, ?_⟩
    · simp only [Routine.finalFields, Routine.recorded, hm, ↓reduceIte]
      exact nodup_fromKeys _
    · simp only [Routine.finalFields, Routine.recorded, hm, ↓reduceIte]
      exact mem_fromKeys.trans (hmem id)
    · simp only [Routine.finalFields, Routine.recorded, hm, ↓reduceIte,
        mergeExistingBulkChildren, hlen]
      simp only [List.length_append] at htotal ⊢
      omega
  · obtain rfl := hr.resolve_left hm
    rw [List.append_nil] at hnd htotal ⊢
    refine ⟨?_, fun id => ?_, ?_⟩
    · simpa [Routine.finalFields, Routine.recorded, hm] using hnd
    · simp [Routine.finalFields, Routine.recorded, hm]
    · simpa [Routine.finalFields, Routine.recorded, hm] using htotal

end RecordedAs

/-- The tasks that the phases still to come will enqueue. -/
def PhasedBatch.pending (b : PhasedBatch) : Phase → Nat
  | .direct => b.plan.queuedJump + b.plan.queuedVpnGroups
  | .jump => b.plan.queuedVpnGroups
  | .done | .skipped => 0

/-- The children that the stored meta records. -/
def PhasedState.recorded (b : PhasedBatch) (s : PhasedState) : List NewChild :=
  if s.registered then s.enqueued b else s.extra

structure PhasedInv (b : PhasedBatch) (s : PhasedState) : Prop where
  ids_nodup : ((s.enqueued b).map NewChild.taskId).Nodup
  ids_nonempty : ∀ c ∈ s.enqueued b, c.taskId ≠ ""
  recorded : RecordedAs (s.recorded b) (b.pending s.phase) s.stored
  deferred : s.extra.length + b.pending s.phase =
    if b.plan.phasedDeferred then b.plan.queuedJump + b.plan.queuedVpnGroups else 0
  not_skipped : s.phase ≠ .skipped
  header_enqueued : ∀ id ∈ s.header, id ∈ (s.enqueued b).map NewChild.taskId
  header_unbroken : s.waiting = true → ∀ id ∈ s.header,
    (s.world.celery id).state ≠ some .failure ∧ (s.world.celery id).state ≠ some .revoked
  others_pending : ∀ id ∉ (s.enqueued b).map NewChild.taskId,
    (s.world.celery id).state = some .pending

section Steps

variable {env : Env} {b : PhasedBatch} {s s' : PhasedState}

theorem PhasedBatch.start_inv (b : PhasedBatch) : PhasedInv b b.start where
  ids_nodup := by simpa [PhasedState.enqueued, start] using b.ids_nodup
  ids_nonempty := by simpa [PhasedState.enqueued, start] using b.ids_nonempty
  recorded := ⟨List.nodup_nil, by simp [PhasedState.recorded, start], Nat.zero_le _⟩
  deferred := by
    simp only [start, List.length_nil, Nat.zero_add]
    split <;> rfl
  not_skipped := by
    simp only [start]
    split <;> simp
  header_enqueued := by
    simp only [start, PhasedState.enqueued, List.append_nil]
    split <;> simp
  header_unbroken := fun _ _ _ => ⟨nofun, nofun⟩
  others_pending := fun _ _ => rfl

theorem PhasedInv.recorded_nonempty (h : PhasedInv b s) : ∀ c ∈ s.recorded b, c.taskId ≠ "" := by
  intro c hc
  apply h.ids_nonempty c
  simp only [PhasedState.recorded] at hc
  split at hc
  · exact hc
  · exact List.mem_append_right _ hc

theorem PhasedInv.recorded_nodup (h : PhasedInv b s) :
    ((s.recorded b).map NewChild.taskId).Nodup := by
  simp only [PhasedState.recorded]
  split
  · exact h.ids_nodup
  · have hnd := h.ids_nodup
    rw [PhasedState.enqueued, List.map_append] at hnd
    exact (List.nodup_append.mp hnd).2.1

theorem PhasedInv.length_childIds (h : PhasedInv b s) :
    s.stored.childIds.length = (s.recorded b).length :=
  h.recorded.length_eq h.recorded_nodup h.recorded_nonempty

/-- Writes that leave the children alone and keep `total_tasks` within the plan. -/
theorem PhasedInv.setStored (h : PhasedInv b s) {m : TaskMeta} (stop : Bool)
    (hids : m.childTaskIds = s.stored.childTaskIds)
    (htotal : m.totalTasks ≤ (s.recorded b).length + b.pending s.phase) :
    PhasedInv b { s with stored := m, globalStop := stop } :=
  { h with recorded := h.recorded.congr hids htotal }

/-- What a callback that finds no stop does: it enqueues `new` and merges it, with
`pending` tasks still to come, or it has nothing to do. -/
structure Enqueues (cb : Callback) (pending before : Nat) : Prop where
  length_new : cb.new.length + pending = before
  update : (cb.new = [] ∧ ∀ m, cb.update m = m) ∨
    ∃ message, ∀ m, cb.update m = phaseFields m cb.new pending message m

theorem vpnCallback_enqueues (h : WellFormedPayload b.plan.vpn) (fresh : Nat → TaskId) :
    Enqueues (vpnCallback false b.plan.vpn fresh) 0 b.plan.queuedVpnGroups := by
  by_cases hv : b.plan.vpn = []
  · refine ⟨?_, .inl ?_⟩ <;> simp [vpnCallback, Plan.queuedVpnGroups, hv]
  · refine ⟨?_, .inr ⟨vpnMessage (vpnChildren b.plan.vpn fresh), fun m => ?_⟩⟩
    · simp [vpnCallback, Plan.queuedVpnGroups, hv, length_vpnChildren h]
    · simp [vpnCallback, hv]

theorem jumpCallback_enqueues (hj : b.plan.jump ≠ []) (fresh : Nat → TaskId) :
    Enqueues (jumpCallback false b.plan.jump b.plan.vpn fresh) b.plan.queuedVpnGroups
      (b.plan.queuedJump + b.plan.queuedVpnGroups) := by
  have hlen := length_jumpChildren b.jump_wf fresh
  have hne : jumpChildren b.plan.jump fresh ≠ [] :=
    List.ne_nil_of_length_pos (hlen ▸ payloadDevices_pos b.jump_wf hj)
  simp only [jumpCallback, hj, hne, ↓reduceIte, Bool.false_eq_true]
  exact ⟨by simp [hlen, Plan.queuedJump], .inr ⟨_, fun m => rfl⟩⟩

/-- Without a stop a callback enqueues what is planned for its phase. -/
theorem callback_enqueues (hstop : s.stop = false) (hwait : s.waiting = true)
    (fresh : Nat → TaskId) :
    Enqueues (s.callback b fresh) (b.pending (s.nextPhase b)) (b.pending s.phase) := by
  have hphase : s.phase = .direct ∨ s.phase = .jump := by simpa [PhasedState.waiting] using hwait
  rcases hphase with hp | hp
  · by_cases hj : b.plan.jump = []
    · have hcb : s.callback b fresh = vpnCallback false b.plan.vpn fresh := by
        simp [PhasedState.callback, hp, hstop, jumpCallback, hj]
      have hnext : s.nextPhase b = .done := by simp [PhasedState.nextPhase, hstop, hj]
      have hq : b.plan.queuedJump = 0 := by simp [Plan.queuedJump, hj, payloadDevices]
      simpa [hcb, hnext, hp, PhasedBatch.pending, hq] using vpnCallback_enqueues b.vpn_wf fresh
    · have hcb : s.callback b fresh = jumpCallback false b.plan.jump b.plan.vpn fresh := by
        simp [PhasedState.callback, hp, hstop]
      have hnext : b.pending (s.nextPhase b) = b.plan.queuedVpnGroups := by
        by_cases hv : b.plan.vpn = [] <;>
          simp [PhasedState.nextPhase, PhasedBatch.pending, Plan.queuedVpnGroups, hstop, hp, hj, hv]
      rw [hcb, hnext, hp]
      exact jumpCallback_enqueues hj fresh
  · have hcb : s.callback b fresh = vpnCallback false b.plan.vpn fresh := by
      simp [PhasedState.callback, hp, hstop]
    have hnext : s.nextPhase b = .done := by simp [PhasedState.nextPhase, hstop, hp]
    simpa [hcb, hnext, hp, PhasedBatch.pending] using vpnCallback_enqueues b.vpn_wf fresh

theorem nextPhase_ne_skipped (hstop : s.stop = false) : s.nextPhase b ≠ .skipped := by
  simp only [PhasedState.nextPhase, hstop, Bool.false_eq_true, ↓reduceIte]
  split <;> simp

theorem PhasedInv.register (h : PhasedInv b s) (hreg : s.registered = false)
    (hok : b.routine.merges = true ∨ s.extra = []) :
    PhasedInv b
      { s with registered := true, stored := b.routine.finalFields b.plan s.stored s.stored } := by
  have hrec : RecordedAs s.extra (b.pending s.phase) s.stored := by
    simpa [PhasedState.recorded, hreg] using h.recorded
  have htotal : b.plan.totalTasks ≤ (b.plan.children ++ s.extra).length + b.pending s.phase := by
    have hdef := h.deferred
    simp only [Plan.totalTasks, List.length_append]
    omega
  exact { h with recorded := hrec.finalFields h.ids_nodup h.ids_nonempty hok htotal }

theorem PhasedInv.child (h : PhasedInv b s) {id : TaskId} {m : TaskMeta} {r : AsyncResult}
    (hin : id ∈ (s.enqueued b).map NewChild.taskId)
    (hok : s.waiting = true → id ∈ s.header → r.state ≠ some .failure ∧ r.state ≠ some .revoked) :
    PhasedInv b
      { s with
        world := ⟨Function.update s.world.taskMeta id m, Function.update s.world.celery id r⟩ } :=
  { h with
    header_unbroken := by
      intro hwait c hc
      by_cases hcid : c = id
      · subst hcid
        simpa using hok hwait hc
      · simpa [Function.update_of_ne hcid] using h.header_unbroken hwait c hc
    others_pending := by
      intro c hc
      have hcid : c ≠ id := fun he => hc (he ▸ hin)
      simpa [Function.update_of_ne hcid] using h.others_pending c hc }

theorem PhasedInv.callback (h : PhasedInv b s) {fresh : Nat → TaskId} (hstop : s.stop = false)
    (hwait : s.waiting = true) (hfresh : s.areFresh b (s.callback b fresh).new = true) :
    PhasedInv b
      { s with
        stored := (s.callback b fresh).update s.stored
        extra := s.extra ++ (s.callback b fresh).new
        header := (s.callback b fresh).new.map NewChild.taskId
        phase := s.nextPhase b } := by
  obtain ⟨hlen, hupd⟩ := callback_enqueues (b := b) hstop hwait fresh
  generalize (s.callback b fresh).update = update at hupd ⊢
  generalize (s.callback b fresh).new = new at hlen hupd hfresh ⊢
  simp only [PhasedState.areFresh, Bool.and_eq_true, decide_eq_true_eq, List.all_eq_true] at hfresh
  obtain ⟨hnd, hne⟩ := hfresh
  have henq : b.plan.children ++ (s.extra ++ new) = s.enqueued b ++ new :=
    (List.append_assoc ..).symm
  have hdisj : ∀ id ∈ new.map NewChild.taskId, id ∉ (s.enqueued b).map NewChild.taskId := by
    rw [List.map_append] at hnd
    exact fun id hid hold => (List.nodup_append.mp hnd).2.2 id hold id hid rfl
  refine ⟨?_, ?_, ?_, ?_, nextPhase_ne_skipped hstop, ?_, ?_, ?_⟩
  · simpa only [PhasedState.enqueued, henq] using hnd
  · intro c hc
    simp only [PhasedState.enqueued, henq] at hc
    exact (List.mem_append.mp hc).elim (h.ids_nonempty c) (hne c)
  · -- the callback merges its children into those recorded before it
    have hrecorded :
        (if s.registered then b.plan.children ++ (s.extra ++ new) else s.extra ++ new) =
          s.recorded b ++ new := by
      simp only [henq, PhasedState.recorded]
      split <;> rfl
    simp only [PhasedState.recorded, PhasedState.enqueued, hrecorded]
    rcases hupd with ⟨hnil, hid⟩ | ⟨message, hfields⟩
    · simp only [hnil, List.length_nil, Nat.zero_add] at hlen
      rw [hid, hnil, List.append_nil, hlen]
      exact h.recorded
    · rw [hfields]
      refine h.recorded.phaseFields ?_ h.recorded_nonempty hlen.symm message
      refine List.Nodup.sublist (List.Sublist.map _ (List.Sublist.append_right ?_ new)) hnd
      simp only [PhasedState.recorded, PhasedState.enqueued]
      split
      · exact List.Sublist.refl _
      · exact List.sublist_append_right ..
  · have hdef := h.deferred
    simp only [List.length_append]
    omega
  · intro id hid
    simp only [PhasedState.enqueued, henq, List.map_append]
    exact List.mem_append_right _ hid
  · intro _ id hid
    have hstate := h.others_pending id (hdisj id hid)
    simp [hstate]
  · intro id hid
    refine h.others_pending id fun hold => hid ?_
    show id ∈ (b.plan.children ++ (s.extra ++ new)).map NewChild.taskId
    rw [henq, List.map_append]
    exact List.mem_append_left _ hold

theorem snapshot_totalTasks {w : World} {m : TaskMeta} {now : Timestamp} {t : Snapshot}
    (h : buildBulkTerminalSnapshot env w m now = some t) :
    t.totalTasks = max m.totalTasks m.childIds.length := by
  simp only [buildBulkTerminalSnapshot] at h
  split at h
  · cases h
  split at h
  · cases h
  obtain ⟨_, -, rfl⟩ := Option.map_eq_some_iff.mp h
  rfl

theorem PhasedInv.step (h : PhasedInv b s) {e : PhasedEvent} (hok : PhasesProceed b s e)
    (hs : phasedStep env b s e = some s') : PhasedInv b s' := by
  have hlen := h.length_childIds
  have htotal := h.recorded.total_le
  cases e with
  | register =>
    simp only [phasedStep] at hs
    split at hs
    · cases hs
    next hreg =>
      obtain rfl := Option.some.inj hs
      exact h.register (by simpa using hreg) hok
  | child id m r =>
    simp only [phasedStep] at hs
    split at hs
    next hin =>
      obtain rfl := Option.some.inj hs
      refine h.child ?_ hok
      simp only [Bool.and_eq_true, List.any_eq_true, decide_eq_true_eq] at hin
      obtain ⟨c, hc, hcid⟩ := hin.1
      exact List.mem_map.mpr ⟨c, hc, hcid⟩
    · cases hs
  | callback fresh =>
    simp only [phasedStep] at hs
    split at hs
    next hready =>
      obtain rfl := Option.some.inj hs
      simp only [Bool.and_eq_true, PhasedState.callbackReady] at hready
      exact h.callback hok hready.1.1 hready.2
    · cases hs
  | cancel forced now =>
    simp only [phasedStep] at hs
    split at hs
    · obtain rfl := Option.some.inj hs
      exact h.setStored true rfl htotal
    · cases hs
  | setStop stop =>
    obtain rfl := Option.some.inj hs
    exact h.setStored stop rfl htotal
  | heartbeat now =>
    obtain rfl := Option.some.inj hs
    exact h.setStored s.globalStop rfl htotal
  | finalise now =>
    simp only [phasedStep] at hs
    split at hs
    · split at hs
      next t ht =>
        obtain rfl := Option.some.inj hs
        refine h.setStored s.globalStop rfl ?_
        have ht' := snapshot_totalTasks ht
        simp only [TaskMeta.applySnapshot, ht', hlen]
        omega
      · obtain rfl := Option.some.inj hs
        exact h
    · obtain rfl := Option.some.inj hs
      exact h
  | poll =>
    simp only [phasedStep] at hs
    split at hs
    · obtain rfl := Option.some.inj hs
      refine h.setStored s.globalStop rfl ?_
      simp only [BulkStatus.applyTo, refreshBulkTaskMeta, hlen]
      split <;> omega
    · obtain rfl := Option.some.inj hs
      exact h

/-! ## Quiescent states -/

theorem PhasedInv.no_phase_waits (h : PhasedInv b s) (hq : Quiescent b s) : s.waiting = false := by
  by_contra hwait
  rw [Bool.not_eq_false] at hwait
  refine absurd hq.no_callback (Bool.not_eq_false _ ▸ ?_)
  simp only [PhasedState.callbackReady, hwait, Bool.true_and, List.all_eq_true]
  intro id hid
  obtain ⟨c, hc, rfl⟩ := List.mem_map.mp (h.header_enqueued id hid)
  have hended := hq.ended c hc
  obtain ⟨hfail, hrev⟩ := h.header_unbroken hwait c.taskId hid
  rw [PhasedState.ended, Option.any_eq_true] at hended
  obtain ⟨state, hstate, hmem⟩ := hended
  cases state <;> simp_all [PhasedState.succeeded]

/-- A child that has ended counts as one finished task. -/
theorem childReport_doneTasks {w : World} {m : TaskMeta} {id : TaskId}
    (h : (w.celery id).state.any [.success, .failure, .revoked].contains = true) :
    (childReport env w m id).doneTasks = 1 := by
  obtain ⟨state, hstate, hmem⟩ := (Option.any_eq_true ..).mp h
  have hchild : childState w id = some state := by
    cases state <;> simp_all [childState]
  cases state <;> simp_all [childReport, finishedReport, brokenReport]

theorem PhasedInv.finalisable (env : Env) (h : PhasedInv b s) (hq : Quiescent b s) :
    Finalisable env s := by
  have hphase : b.pending s.phase = 0 := by
    have hwait := h.no_phase_waits hq
    have hskip := h.not_skipped
    cases hp : s.phase <;> simp_all [PhasedState.waiting, PhasedBatch.pending]
  have hrec : s.recorded b = s.enqueued b := by simp [PhasedState.recorded, hq.registered]
  have hlen : s.stored.childIds.length = (s.enqueued b).length := hrec ▸ h.length_childIds
  have hall : s.stored.totalTasks ≤ s.stored.childIds.length := by
    have htotal := h.recorded.total_le
    rw [hrec, hphase] at htotal
    omega
  have hpos : 0 < s.stored.childIds.length := by
    have hplan := b.has_tasks
    have hdef := h.deferred
    simp only [Plan.totalTasks, hphase] at hplan hdef
    simp only [hlen, PhasedState.enqueued, List.length_append]
    omega
  have hended : ∀ id ∈ s.stored.childIds,
      (s.world.celery id).state.any [.success, .failure, .revoked].contains = true := by
    intro id hid
    rw [h.recorded.childIds_eq h.recorded_nonempty, h.recorded.mem_iff, hrec] at hid
    obtain ⟨c, hc, rfl⟩ := List.mem_map.mp hid
    exact hq.ended c hc
  refine ⟨hall, fun now => snapshot_isSome_iff.mpr ⟨hpos, hall, fun id hid => ?_⟩, ?_⟩
  · simp only [bulkChildTaskIsTerminal, hended id hid, Bool.or_true]
  · have hdone : (countChildren env s.world s.stored).doneTasks = s.stored.childIds.length := by
      rw [countChildren_doneTasks,
        List.map_congr_left fun id hid => childReport_doneTasks (hended id hid)]
      simp
    simp only [refreshBulkTaskMeta, monotonic, hdone, Bool.or_eq_true, decide_eq_true_eq]
    refine .inr ?_
    split <;> omega

end Steps

/-! ## Whole runs -/

/-- In every order of the steps, when no task is queued or running any more the recorded
children have reached `total_tasks`, and the batch is final or becomes so at the next poll. -/
theorem phased_batch_finalisable (env : Env) (b : PhasedBatch) (es : List PhasedEvent)
    (s : PhasedState) (hok : Along (phasedStep env b) (PhasesProceed b) b.start es)
    (hrun : exec (phasedStep env b) b.start es = some s) (hq : Quiescent b s) :
    Finalisable env s := by
  have hinv : PhasedInv b s :=
    exec_invariant (fun _ _ _ hi hp hs => hi.step hp hs) b.start_inv hok hrun
  exact hinv.finalisable env hq

/-- One direct device, and one device behind a jump host. -/
def directAndJump : PhasedBatch where
  routine := .runBackupAll
  plan :=
    { tenantId := "t"
      children := [{ taskId := "direct", deviceId := "1", deviceIds := ["1"] }]
      jump := [{ groupId := "g", deviceIds := ["2"] }]
      phasedDeferred := true
      eligibleDevices := 2 }
  deferred := rfl
  jump_wf := ⟨by decide, by decide, by decide⟩
  vpn_wf := ⟨by decide, by decide, by decide⟩
  ids_nodup := by decide
  ids_nonempty := by decide
  has_tasks := by decide

def backedUp : AsyncResult :=
  { state := some .success, result := some { success := some 1 } }

/-- The cancel request comes between the end of the direct phase and the callback. -/
def stoppedRun : List PhasedEvent :=
  [.register, .child "direct" {} backedUp, .cancel [] 7, .callback fun _ => "", .poll]

/-- The batch stays in `stopping`: two tasks are planned, and one child is recorded. -/
theorem stopped_phase_never_enqueued :
    ∃ s, exec (phasedStep .ascii directAndJump) directAndJump.start stoppedRun = some s ∧
      Quiescent directAndJump s ∧ s.stored.completed = false ∧
      s.stored.status = some .stopping ∧ ¬ Finalisable .ascii s := by
  refine ⟨_, rfl, ⟨rfl, ?_, rfl⟩, rfl, rfl, fun h => absurd h.poll_completes (by decide)⟩
  intro c hc
  obtain rfl := List.mem_singleton.mp hc
  rfl

def fullRun : List PhasedEvent :=
  [.register, .child "direct" {} backedUp, .callback fun _ => "jump", .child "jump" {} backedUp]

theorem full_run_finalisable :
    ∃ s, exec (phasedStep .ascii directAndJump) directAndJump.start fullRun = some s ∧
      Finalisable .ascii s := by
  refine ⟨_, rfl, phased_batch_finalisable .ascii directAndJump fullRun _ ?_ rfl
    ⟨rfl, ?_, rfl⟩⟩
  · refine ⟨.inl rfl, fun s₁ h₁ => ⟨fun _ _ => ⟨nofun, nofun⟩, fun s₂ h₂ => ⟨?_, fun s₃ h₃ =>
      ⟨fun _ _ => ⟨nofun, nofun⟩, fun _ _ => trivial⟩⟩⟩⟩
    obtain rfl := Option.some.inj h₁
    obtain rfl := Option.some.inj h₂
    rfl
  · intro c hc
    rcases List.mem_cons.mp hc with rfl | hc
    · rfl
    · obtain rfl := List.mem_singleton.mp hc
      rfl

end BackupCenter.Bulk
