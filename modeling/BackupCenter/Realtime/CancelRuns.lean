import BackupCenter.Realtime.Finaliser

/-!
# Cancel requests under concurrent writers

`update_task_meta` reads the whole document and writes it back, so a writer that has
read the batch before a cancel request and writes it afterwards erases the request. The
assertion carried through a run is that, once the stored batch is cancelled, no call in
flight will write it back uncancelled; every call keeps this from its beginning on.
-/
namespace BackupCenter.Realtime

open BackupCenter.Lib BackupCenter.Tasks BackupCenter.Web BackupCenter.Bulk

/-- A cancel request is recorded, and the status says so. -/
def Cancelled (m : TaskMeta) : Prop :=
  m.cancelRequested = true ∧ (m.status = some .stopping ∨ m.status = some .stopped)

/-- The stored batch is cancelled. -/
def StoredCancelled (batch : TaskId) (s : Shared) : Prop := ∃ m, s.doc batch = some m ∧ Cancelled m

/-- The command writes a cancelled batch. -/
def RecordsCancel (batch : TaskId) (c : Command) : Prop :=
  ∃ ttl m, c = .setex (.taskMeta batch) ttl (.doc m) ∧ 0 < ttl ∧ Cancelled m

/-- Where the command writes the batch, it writes it cancelled. -/
def WritesCancelled (batch : TaskId) (c : Command) : Prop :=
  c.writes = some (.taskMeta batch) → RecordsCancel batch c

/-- Where the command reads the batch, it finds it cancelled. -/
def ReadsCancelled (batch : TaskId) : (c : Command) → c.Answer → Prop
  | .get k, a => k = .taskMeta batch → ∃ m, a = some (.doc m) ∧ Cancelled m
  | _, _ => True

/-- The rest of the call holds no uncancelled copy of the batch that it would still write:
as long as it reads the batch cancelled, it writes it cancelled. -/
def KeepsCancel {ρ : Type} (batch : TaskId) (p : Program ρ) : Prop :=
  p.Respects (WritesCancelled batch) (ReadsCancelled batch) fun _ => True

/-- The calls that write the meta of one batch. -/
inductive BatchCall (batch : TaskId) where
  | heartbeat (now : Timestamp)
  | status (tenant : TenantId) (due : Bool)
  | jumpPhase (tenant : TenantId) (jump vpn : List GroupPayload) (fresh : Nat → TaskId)
  | vpnPhase (tenant : TenantId) (vpn : List GroupPayload) (fresh : Nat → TaskId)
  | finalise (now : Timestamp) (followupTaskId : TaskId)
  | cancel (tenant : TenantId) (sent : TaskId → Bool) (now : Timestamp)

def BatchCall.program (env : Env) {batch : TaskId} : BatchCall batch → Program Reply
  | .heartbeat now => do touchBulkActivity env batch now; return .done
  | .status tenant due => bulkTaskStatus env tenant batch due
  | .jumpPhase tenant jump vpn fresh => do
    enqueueJumpAndVpnAfterDirectPhase env tenant jump vpn batch fresh; return .done
  | .vpnPhase tenant vpn fresh => do
    enqueueVpnGroupsAfterDirectPhase env tenant vpn batch fresh; return .done
  | .finalise now followupTaskId => do
    maybeFinalizeBulkAndScheduleFollowup env batch now followupTaskId; return .done
  | .cancel tenant sent now => cancelBulkTask env tenant batch sent now

def batchSemantics (env : Env) (batch : TaskId) :
    Semantics Shared Command Command.Answer Reply (BatchCall batch) Elsewhere where
  handle := handle
  program := BatchCall.program env
  environment := elsewhere (.taskMeta batch)

abbrev BatchRun := Clients Shared Command Command.Answer Reply

/-- When a step brings the first cancellation into the stored batch, no call in flight
holds an uncancelled copy that it would still write back. -/
def NoStaleCopy (env : Env) (batch : TaskId) (s : BatchRun)
    (e : ClientEvent (BatchCall batch) Elsewhere) : Prop :=
  ∀ s', clientStep (batchSemantics env batch) s e = some s' →
    ¬ StoredCancelled batch s.shared → StoredCancelled batch s'.shared →
    ∀ q ∈ s.clients, KeepsCancel batch q

variable {batch : TaskId} {s : Shared} {c : Command}

/-- A command that keeps to cancelled writes finds and leaves the batch cancelled. -/
theorem handle_cancelled (hs : StoredCancelled batch s) (hc : WritesCancelled batch c) :
    ReadsCancelled batch c (handle c s).1 ∧ StoredCancelled batch (handle c s).2 := by
  constructor
  · cases c with
    | get k =>
      rintro rfl
      obtain ⟨m, hm, hcan⟩ := hs
      simp only [Shared.doc] at hm
      split at hm
      next v hv =>
        obtain rfl := Option.some.inj hm
        exact ⟨v, hv, hcan⟩
      next => cases hm
    | _ => trivial
  · by_cases hw : c.writes = some (.taskMeta batch)
    · obtain ⟨ttl, m, rfl, httl, hcan⟩ := hc hw
      exact ⟨m, by simp [handle, Shared.doc, Store.get_setex_self httl], hcan⟩
    · rw [StoredCancelled, doc_frame hw]
      exact hs

/-- Only a write can make the stored batch cancelled. -/
theorem readsCancelled_of_new (hs : ¬ StoredCancelled batch s)
    (hs' : StoredCancelled batch (handle c s).2) : ReadsCancelled batch c (handle c s).1 := by
  cases c with
  | get k => exact absurd hs' hs
  | _ => trivial

/-! ## The calls keep a cancelled batch cancelled -/

section Contracts

variable {ρ : Type} {env : Env}

/-- `KeepsCancel` with a statement about the result. -/
abbrev Keeps (batch : TaskId) (post : ρ → Prop) (p : Program ρ) : Prop :=
  p.Respects (WritesCancelled batch) (ReadsCancelled batch) post

theorem keeps_ask {c : Command} (h : c.writes ≠ some (.taskMeta batch)) :
    Keeps batch (fun _ => True) (Prog.ask c) :=
  ⟨fun hw => absurd hw h, fun _ _ => trivial⟩

theorem keeps_get (k : RedisKey) :
    Keeps batch (fun a => k = .taskMeta batch → ∃ m, a = some (.doc m) ∧ Cancelled m)
      (Client.get k) :=
  ⟨fun hw => (by cases hw), fun _ ha => ha⟩

theorem keeps_getTaskMeta (hb : batch ≠ "") (id : TaskId) :
    Keeps batch (fun r => id = batch → ∃ m, r = some m ∧ Cancelled m) (getTaskMeta id) := by
  simp only [getTaskMeta]
  split
  next h => exact fun he => absurd (he ▸ h) hb
  next =>
    apply (keeps_get _).bind
    intro a ha
    split
    next m =>
      rintro rfl
      obtain ⟨m', hm', hcan⟩ := ha rfl
      obtain ⟨rfl⟩ := Option.some.inj hm'
      exact ⟨m, rfl, hcan⟩
    next hne =>
      rintro rfl
      obtain ⟨m', rfl, -⟩ := ha rfl
      exact absurd rfl (hne m')

theorem keeps_releaseTenantBulkLock (tenant : TenantId) (id : TaskId) :
    Keeps batch (fun _ => True) (releaseTenantBulkLock tenant id) := by
  have hdelete : Keeps batch (fun _ => True) (Client.delete (.tenantActiveBulk tenant)) :=
    keeps_ask (by simp [Command.writes])
  simp only [releaseTenantBulkLock]
  split
  · trivial
  · apply (keeps_get _).bind
    intro a _
    split
    · split
      · trivial
      · exact hdelete
    · exact hdelete

theorem keeps_writeTaskMeta (id : TaskId) {payload : TaskMeta}
    (h : id = batch → Cancelled payload) :
    Keeps batch (fun _ => True) (writeTaskMeta env id payload) := by
  have hset : Keeps batch (fun _ => True)
      (Client.setex (.taskMeta id) (ttlSeconds env) (.doc payload)) := by
    refine ⟨fun hw => ?_, fun _ _ => trivial⟩
    obtain rfl : id = batch := by simpa [Command.writes] using hw
    exact ⟨_, payload, rfl, ttlSeconds_pos env, h rfl⟩
  apply hset.bind
  intro _ _
  simp only [lockAfterWrite]
  split
  · split
    · exact keeps_releaseTenantBulkLock ..
    · exact keeps_ask (by simp [Command.writes])
  · trivial

theorem keeps_updateTaskMeta (hb : batch ≠ "") (id : TaskId) {fields : TaskMeta → TaskMeta}
    (h : id = batch → ∀ m, Cancelled m → Cancelled (fields m)) :
    Keeps batch (fun _ => True) (updateTaskMeta env id fields) := by
  simp only [updateTaskMeta]
  split
  · trivial
  · refine (keeps_getTaskMeta hb id).bind fun r hr => keeps_writeTaskMeta id fun he => ?_
    obtain ⟨m, rfl, hcan⟩ := hr he
    exact h he m hcan

/-- With the batch cancelled, a phase callback finds a stop. -/
theorem keeps_shouldStopNow (hb : batch ≠ "") :
    Keeps batch (fun stop => stop = true) (shouldStopNow batch) := by
  have hglobal : Keeps batch (fun _ => True) isGlobalBackupStopEnabled := by
    apply (keeps_get _).bind
    intro a _
    split <;> trivial
  apply hglobal.bind
  intro stop _
  split
  · rfl
  · apply (keeps_getTaskMeta hb batch).bind
    intro r hr
    obtain ⟨m, rfl, hcan⟩ := hr rfl
    exact hcan.1

theorem keeps_readChildren (hb : batch ≠ "") (ids : List TaskId) (w : World) :
    Keeps batch (fun _ => True) (readChildren ids w) := by
  induction ids generalizing w with
  | nil => trivial
  | cons id rest ih =>
    apply (keeps_getTaskMeta hb id).bind
    intro m _
    apply (keeps_ask (by simp [Command.writes])).bind
    intro st _
    exact (keeps_ask (by simp [Command.writes])).bind fun r _ => ih _

theorem keeps_revokeChildren (sent : TaskId → Bool) (ids : List TaskId) :
    Keeps batch (fun _ => True) (revokeChildren sent ids) := by
  induction ids with
  | nil => trivial
  | cons id rest ih =>
    refine (keeps_ask (by simp [Command.writes])).bind fun st _ => ih.bind fun forced _ => ?_
    split
    · trivial
    · split <;> trivial

/-- The refresh of a cancelled batch says stopping or stopped, whatever it is merged into. -/
theorem refresh_cancelled (env : Env) (w : World) {m : TaskMeta} (h : m.cancelRequested = true)
    (m' : TaskMeta) : Cancelled ((refreshBulkTaskMeta env w m).applyTo m') := by
  refine ⟨h, ?_⟩
  simp only [BulkStatus.applyTo, refreshBulkTaskMeta, refreshedStatus, h, ↓reduceIte]
  split_ifs <;> simp

theorem snapshot_cancelled {w : World} {m : TaskMeta} {now : Timestamp} {snap : Snapshot}
    (h : m.cancelRequested = true) (hs : buildBulkTerminalSnapshot env w m now = some snap)
    {m' : TaskMeta} (hm' : Cancelled m') : Cancelled (m'.applySnapshot snap) := by
  obtain ⟨-, -, -, -, hst⟩ := snapshot_eq_some hs
  refine ⟨hm'.1, .inr ?_⟩
  simp [TaskMeta.applySnapshot, hst, snapshotStatus, h]

theorem keeps_vpnPhase (hb : batch ≠ "") (tenant : TenantId) (vpn : List GroupPayload)
    (fresh : Nat → TaskId) :
    Keeps batch (fun _ => True) (enqueueVpnGroupsAfterDirectPhase env tenant vpn batch fresh) := by
  simp only [enqueueVpnGroupsAfterDirectPhase]
  split
  · trivial
  · apply (keeps_shouldStopNow hb).bind
    intro stop hstop
    simp only [hstop, ↓reduceIte]
    exact keeps_updateTaskMeta hb _ fun _ m hm => ⟨hm.1, .inl rfl⟩

theorem keeps_jumpPhase (hb : batch ≠ "") (tenant : TenantId) (jump vpn : List GroupPayload)
    (fresh : Nat → TaskId) :
    Keeps batch (fun _ => True)
      (enqueueJumpAndVpnAfterDirectPhase env tenant jump vpn batch fresh) := by
  simp only [enqueueJumpAndVpnAfterDirectPhase]
  split
  · exact keeps_vpnPhase hb ..
  · apply (keeps_shouldStopNow hb).bind
    intro stop hstop
    simp only [hstop, ↓reduceIte]
    exact keeps_updateTaskMeta hb _ fun _ m hm => ⟨hm.1, .inl rfl⟩

theorem keeps_bulkTaskStatus (hb : batch ≠ "") (tenant : TenantId) (due : Bool) :
    Keeps batch (fun _ => True) (bulkTaskStatus env tenant batch due) := by
  apply (keeps_getTaskMeta hb batch).bind
  intro r hr
  obtain ⟨m, rfl, hcan⟩ := hr rfl
  simp only
  split
  · trivial
  · split
    · apply (keeps_readChildren hb _ _).bind
      intro w _
      refine (keeps_updateTaskMeta hb _ fun _ m' _ => ?_).bind fun _ _ => trivial
      exact refresh_cancelled env w hcan.1 m'
    · trivial

theorem keeps_cancelBulkTask (hb : batch ≠ "") (tenant : TenantId) (sent : TaskId → Bool)
    (now : Timestamp) : Keeps batch (fun _ => True) (cancelBulkTask env tenant batch sent now) := by
  apply (keeps_getTaskMeta hb batch).bind
  intro r hr
  obtain ⟨m, rfl, hcan⟩ := hr rfl
  simp only
  split
  · trivial
  · apply (keeps_revokeChildren sent _).bind
    intro forced _
    apply (keeps_ask (by simp [Command.writes])).bind
    intro _ _
    exact (keeps_updateTaskMeta hb _ fun _ m' _ => ⟨rfl, .inl rfl⟩).bind fun _ _ => trivial

theorem keeps_decideFollowup (hb : batch ≠ "") (m : TaskMeta) (now : Timestamp) (id : TaskId) :
    Keeps batch (fun _ => True) (decideFollowup env batch m now id) := by
  apply (keeps_readChildren hb _ _).bind
  intro w _
  simp only
  split
  · exact keeps_updateTaskMeta hb _ fun _ m hm => hm
  · apply (keeps_ask (by simp [Command.writes])).bind
    intro _ _
    exact keeps_updateTaskMeta hb _ fun _ m hm => hm

theorem keeps_finalizeBatch (hb : batch ≠ "") {w : World} {m : TaskMeta} {now : Timestamp}
    {snap : Snapshot} (h : m.cancelRequested = true)
    (hs : buildBulkTerminalSnapshot env w m now = some snap) :
    Keeps batch (fun _ => True) (finalizeBatch env batch m snap) := by
  simp only [finalizeBatch]
  split
  · trivial
  · refine (keeps_updateTaskMeta hb _ fun _ m' hm' => snapshot_cancelled h hs hm').bind
      fun _ _ => ?_
    apply (keeps_getTaskMeta hb batch).bind
    intro r _
    cases r <;> trivial

theorem keeps_finalise (hb : batch ≠ "") (now : Timestamp) (id : TaskId) :
    Keeps batch (fun _ => True) (maybeFinalizeBulkAndScheduleFollowup env batch now id) := by
  simp only [maybeFinalizeBulkAndScheduleFollowup, hb, ↓reduceIte]
  apply (keeps_getTaskMeta hb batch).bind
  intro r hr
  obtain ⟨m, rfl, hcan⟩ := hr rfl
  simp only [Option.getD_some]
  split
  · trivial
  · apply (keeps_readChildren hb _ _).bind
    intro w _
    split
    · trivial
    next snap hsnap =>
      apply (keeps_finalizeBatch hb hcan.1 hsnap).bind
      intro m' _
      split
      · trivial
      · split
        · trivial
        · apply (keeps_ask (by simp [Command.writes])).bind
          intro won _
          split
          · exact keeps_decideFollowup hb ..
          · trivial

/-- Every call keeps a cancelled batch cancelled if it starts then. -/
theorem keepsCancel_program (hb : batch ≠ "") (call : BatchCall batch) :
    KeepsCancel batch (call.program env) := by
  cases call with
  | heartbeat now =>
    have h : Keeps batch (fun _ => True) (touchBulkActivity env batch now) :=
      keeps_updateTaskMeta hb batch fun _ m hm => hm
    exact h.bind fun _ _ => trivial
  | status tenant due => exact keeps_bulkTaskStatus hb tenant due
  | jumpPhase tenant jump vpn fresh =>
    exact (keeps_jumpPhase hb tenant jump vpn fresh).bind fun _ _ => trivial
  | vpnPhase tenant vpn fresh =>
    exact (keeps_vpnPhase hb tenant vpn fresh).bind fun _ _ => trivial
  | finalise now id => exact (keeps_finalise hb now id).bind fun _ _ => trivial
  | cancel tenant sent now => exact keeps_cancelBulkTask hb tenant sent now

end Contracts

/-! ## A cancel call answers only after it has recorded the request -/

section Answers

variable {env : Env}

abbrev NotCancelled (r : Reply) : Prop := r ≠ .cancelled

theorem withholds_updateTaskMeta (hb : batch ≠ "") {fields : TaskMeta → TaskMeta}
    (h : ∀ m, Cancelled (fields m)) :
    (updateTaskMeta env batch fields).Withholds (RecordsCancel batch) fun _ => False := by
  simp only [updateTaskMeta, hb, ↓reduceIte]
  apply (Prog.withholds_trivial _).bind
  intro r _
  exact .inl ⟨_, _, rfl, ttlSeconds_pos env, h _⟩

theorem withholds_refused {tenant : TenantId} {m : TaskMeta} {r : Reply}
    (h : refused tenant m = some r) : NotCancelled r := by
  simp only [refused] at h
  split_ifs at h <;> cases h <;> decide

/-- A call that answers `cancelled` has recorded the cancellation before. -/
theorem withholds_program (hb : batch ≠ "") (call : BatchCall batch) :
    (call.program env).Withholds (RecordsCancel batch) NotCancelled := by
  have hdone : ∀ p : Program Unit, (do p; return Reply.done : Program Reply).Withholds
      (RecordsCancel batch) NotCancelled :=
    fun p => (Prog.withholds_trivial p).bind fun _ _ => nofun
  cases call with
  | heartbeat now => exact hdone _
  | jumpPhase tenant jump vpn fresh => exact hdone _
  | vpnPhase tenant vpn fresh => exact hdone _
  | finalise now id => exact hdone _
  | status tenant due =>
    apply (Prog.withholds_trivial _).bind
    intro r _
    split
    · exact nofun
    · split
      next hr => exact withholds_refused hr
      next =>
        split
        · apply (Prog.withholds_trivial _).bind
          intro w _
          exact (Prog.withholds_trivial _).bind fun _ _ => nofun
        · exact nofun
  | cancel tenant sent now =>
    apply (Prog.withholds_trivial _).bind
    intro r _
    split
    · exact nofun
    · split
      next hr => exact withholds_refused hr
      next =>
        apply (Prog.withholds_trivial _).bind
        intro forced _
        apply (Prog.withholds_trivial _).bind
        intro _ _
        exact (withholds_updateTaskMeta hb fun m => ⟨rfl, .inl rfl⟩).bind fun _ hf => hf.elim

end Answers

/-! ## Runs -/

/-- What is known of a call in flight or a call that has returned. -/
def CancelSafe (batch : TaskId) (p : Program Reply) (s : Shared) : Prop :=
  (StoredCancelled batch s → KeepsCancel batch p) ∧
    (p.Withholds (RecordsCancel batch) NotCancelled ∨ StoredCancelled batch s)

theorem cancelSafe_step {env : Env} (hb : batch ≠ "") {r r' : BatchRun}
    {e : ClientEvent (BatchCall batch) Elsewhere}
    (h : AllClients (fun _ => True) (CancelSafe batch) r) (hok : NoStaleCopy env batch r e)
    (hs : clientStep (batchSemantics env batch) r e = some r') :
    AllClients (fun _ => True) (CancelSafe batch) r' := by
  refine h.step hs (fun call _ => ?_) (fun i c next he hi hp => ?_) fun x t he ht => ?_
  · exact ⟨fun _ => keepsCancel_program hb call, .inl (withholds_program hb call)⟩
  · subst he
    have hmem : Prog.call c next ∈ r.clients := List.mem_of_getElem? hi
    have hr' : r'.shared = (handle c r.shared).2 := by
      obtain ⟨c', next', hi', hshared, -⟩ := clientStep_advance hs
      rw [hi] at hi'
      obtain ⟨rfl, -⟩ := Prog.call.inj (Option.some.inj hi')
      exact hshared
    by_cases hst : StoredCancelled batch r.shared
    · -- cancelled already: the moving client keeps it so, and the others know it still is
      obtain ⟨hw, hnext⟩ := hp.1 hst
      obtain ⟨hread, hst'⟩ := handle_cancelled hst hw
      exact ⟨trivial, ⟨fun _ => hnext _ hread, .inr hst'⟩,
        fun j q _ _ hq => ⟨fun _ => hq.1 hst, .inr hst'⟩⟩
    · -- not cancelled before: a first cancellation finds no stale copy in flight
      have hold := hp.2.resolve_right hst
      have hfirst : StoredCancelled batch (handle c r.shared).2 →
          ∀ q ∈ r.clients, KeepsCancel batch q := fun h' => hok r' hs hst (hr' ▸ h')
      refine ⟨trivial, ⟨fun hst' => ?_, ?_⟩, fun j q _ hj hq => ⟨fun hst' => ?_, ?_⟩⟩
      · exact (hfirst hst' _ hmem).2 _ (readsCancelled_of_new hst hst')
      · rcases hold with ⟨ttl, m, rfl, httl, hcan⟩ | hnext
        · exact .inr ⟨m, by simp [batchSemantics, handle, Shared.doc, Store.get_setex_self httl],
            hcan⟩
        · exact .inl (hnext _)
      · exact hfirst hst' q (List.mem_of_getElem? hj)
      · exact .inl (hq.2.resolve_right hst)
  · have hdoc := elsewhere_doc ht
    have hiff : StoredCancelled batch t ↔ StoredCancelled batch r.shared := by
      rw [StoredCancelled, StoredCancelled, hdoc]
    exact ⟨trivial, fun q _ hq => ⟨fun h' => hq.1 (hiff.mp h'), hq.2.imp_right hiff.mpr⟩⟩

/-- A running batch without children, and nothing else in the store. -/
def runningBatch : TaskMeta := { isBulk := true, tenantId := "t", status := some .running }

def runningStore : Shared :=
  { redis := (({} : Store RedisKey RedisValue).setex (.taskMeta "batch") 60 (.doc runningBatch)) }

def cancelCall : BatchCall "batch" := .cancel "t" (fun _ => true) 7

/-- A step that leaves the batch without a request meets the condition. -/
theorem noStaleCopy_of_doc {env : Env} {r : BatchRun} {e : ClientEvent (BatchCall batch) Elsewhere}
    (h : ∀ r', clientStep (batchSemantics env batch) r e = some r' →
      ∃ m, r'.shared.doc batch = some m ∧ m.cancelRequested = false) :
    NoStaleCopy env batch r e := by
  rintro r' hr - ⟨m, hm, hcan⟩
  obtain ⟨m', hm', hno⟩ := h r' hr
  obtain rfl := Option.some.inj (hm.symm.trans hm')
  exact absurd (hno.symm.trans hcan.1) (by decide)

end BackupCenter.Realtime
