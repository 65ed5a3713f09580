import BackupCenter.Realtime.TenantLock

/-!
# Which tenant a task meta names

A registration writes the tenant of the task into its meta, and an update keeps what it has
read. An update that reads no meta therefore creates one without a tenant, and the checks of
the endpoints let every tenant pass.
-/
namespace BackupCenter.Realtime

open BackupCenter.Lib BackupCenter.Tasks BackupCenter.Bulk

/-- The entry of `append_task_log` takes its tenant from the meta. -/
def appendTaskLog (id : TaskId) : Program TenantId := do
  let taskMeta ← getTaskMeta id
  return (taskMeta.getD {}).tenantId

/-- The check that `task_status`, `cancel_task` and `task_logs` begin with. -/
def taskRefused (tenant : TenantId) : Option TaskMeta → Option Reply
  | none => some .notFound
  | some taskMeta =>
    if taskMeta.tenantId ≠ "" ∧ taskMeta.tenantId ≠ tenant then some .forbidden else none

inductive CancelTaskReply where
  | refused (r : Reply)
  /-- "Use /bulk/<task_id>/cancel para lotes" -/
  | useBulkCancel
  | stopped (revokeRequested : Bool)
  deriving DecidableEq

def interruptedFields (m : TaskMeta) : TaskMeta :=
  { m with
    status := some .stopped, completed := true, message := "Backup interrompido pelo operador." }

/-- `cancel_task`, up to the entry that it logs. -/
def cancelTask (env : Env) (tenant : TenantId) (taskId : TaskId) : Program CancelTaskReply := do
  let found ← getTaskMeta taskId
  match taskRefused tenant found with
  | some r => return .refused r
  | none =>
    if (found.getD {}).isBulk then return .useBulkCancel
    else do
      let state ← celeryState taskId
      Client.setex .forceStopBackups (60 * 30) (.text "1")
      updateTaskMeta env taskId interruptedFields
      return .stopped (!state.any [.success, .failure, .revoked].contains)

/-! ## Programs that keep the tenant of every meta -/

/-- A command that stores a meta stores it with a tenant that is right for its task. -/
def Command.Carries (right : TaskId → TenantId → Prop) : Command → Prop
  | .setex (.taskMeta id) _ (.doc m) => right id m.tenantId
  | .setnx (.taskMeta id) _ (.doc m) => right id m.tenantId
  | _ => True

/-- A meta that is read names a tenant that is right for its task. -/
def Tells (right : TaskId → TenantId → Prop) : (c : Command) → c.Answer → Prop
  | .get (.taskMeta id), some (.doc m) => right id m.tenantId
  | _, _ => True

/-- While the metas that it reads are right, the program stores right ones, save for what an
update makes of a missing meta. -/
inductive Tenanted (env : Env) (right : TaskId → TenantId → Prop) {ρ : Type} (post : ρ → Prop) :
    Program ρ → Prop
  | ret {r : ρ} (h : post r) : Tenanted env right post (.ret r)
  | call {c : Command} {next : c.Answer → Program ρ} (hc : c.Carries right)
      (hnext : ∀ a, Tells right c a → Tenanted env right post (next a)) :
      Tenanted env right post (.call c next)
  | update {id : TaskId} {fields : TaskMeta → TaskMeta} {k : Unit → Program ρ} {p : Program ρ}
      (hp : p = (updateTaskMeta env id fields >>= k)) (hid : id ≠ "")
      (hfields : ∀ m, (fields m).tenantId = m.tenantId) (hk : Tenanted env right post (k ())) :
      Tenanted env right post p

section Programs

variable {env : Env} {right : TaskId → TenantId → Prop} {ρ τ : Type} {post : ρ → Prop}
  {post' : τ → Prop}

/-- Sequential composition. -/
theorem Tenanted.bind {p : Program ρ} {f : ρ → Program τ} (h : Tenanted env right post p)
    (hf : ∀ r, post r → Tenanted env right post' (f r)) :
    Tenanted env right post' (p >>= f) := by
  induction h with
  | ret h => exact hf _ h
  | call hc _ ih => exact .call hc ih
  | update hp hid hfields _ ih =>
    rw [hp, Prog.bind_assoc]
    exact .update rfl hid hfields ih

theorem Tenanted.done {p : Program ρ} {r : τ} (h : Tenanted env right post p) :
    Tenanted env right (fun _ => True) (p >>= fun _ => pure r) :=
  h.bind fun _ _ => .ret trivial

/-- A command that stores no meta. -/
theorem tenanted_ask {c : Command} (hc : c.Carries right) :
    Tenanted env right (Tells right c) (Prog.ask c) :=
  .call hc fun _ ha => .ret ha

theorem tenanted_get (k : RedisKey) :
    Tenanted env right (Tells right (.get k)) (Client.get k) :=
  tenanted_ask trivial

theorem tenanted_delete (k : RedisKey) :
    Tenanted env right (fun _ => True) (Client.delete k) :=
  .call trivial fun _ _ => .ret trivial

theorem tenanted_getTaskMeta (id : TaskId) : Tenanted env right
    (fun r => ∀ m, r = some m → right id m.tenantId) (getTaskMeta id) := by
  unfold getTaskMeta
  split
  · exact .ret fun m hm => nomatch hm
  · apply (tenanted_get _).bind
    intro a ha
    split
    next m => exact .ret fun m' hm => (Option.some.inj hm) ▸ ha
    next => exact .ret fun m hm => nomatch hm

theorem tenanted_releaseTenantBulkLock (tenant : TenantId) (id : TaskId) :
    Tenanted env right (fun _ => True) (releaseTenantBulkLock tenant id) := by
  unfold releaseTenantBulkLock
  split
  · exact .ret trivial
  · apply (tenanted_get _).bind
    intro a _
    split
    · split
      · exact .ret trivial
      · exact tenanted_delete _
    · exact tenanted_delete _

theorem tenanted_writeTaskMeta {id : TaskId} {payload : TaskMeta}
    (h : right id payload.tenantId) :
    Tenanted env right (fun _ => True) (writeTaskMeta env id payload) := by
  apply (tenanted_ask (c := .setex (.taskMeta id) (ttlSeconds env) (.doc payload)) h).bind
  intro _ _
  unfold lockAfterWrite
  split
  · split
    · exact tenanted_releaseTenantBulkLock ..
    · exact .call trivial fun _ _ => .ret trivial
  · exact .ret trivial

theorem tenanted_updateTaskMeta {id : TaskId} {fields : TaskMeta → TaskMeta}
    (hfields : ∀ m, (fields m).tenantId = m.tenantId) :
    Tenanted env right (fun _ => True) (updateTaskMeta env id fields) := by
  by_cases hid : id = ""
  · rw [updateTaskMeta, if_pos hid]
    exact .ret trivial
  · exact .update (Prog.bind_ret _).symm hid hfields (.ret trivial)

theorem tenanted_registerTask {id : TaskId} {tenant : TenantId} {device name group : String}
    (h : right id tenant) :
    Tenanted env right (fun _ => True) (registerTask env id tenant device name group) := by
  unfold registerTask
  split
  · exact .ret trivial
  · exact tenanted_writeTaskMeta h

theorem tenanted_acquireTenantBulkLock (tenant : TenantId) (id : TaskId) :
    Tenanted env right (fun _ => True) (acquireTenantBulkLock env tenant id) := by
  have htake : Tenanted env right (fun _ => True)
      (acquireTenantBulkLock.takeLock env tenant id) := by
    apply (tenanted_ask (c := .setnx (.tenantActiveBulk tenant) (bulkActiveLockTtlSeconds env)
      (.text id)) trivial).bind
    intro won _
    split
    · exact .ret trivial
    · apply (tenanted_get _).bind
      intro a _
      split <;> exact .ret trivial
  unfold acquireTenantBulkLock
  split
  · exact .ret trivial
  · apply (tenanted_get _).bind
    intro a _
    split
    · split
      · exact htake
      · apply (tenanted_getTaskMeta _).bind
        intro r _
        split
        · split
          · exact .ret trivial
          · exact (tenanted_delete _).bind fun _ _ => htake
        · exact .ret trivial
    · exact htake

theorem tenanted_readChildren (ids : List TaskId) (w : World) :
    Tenanted env right (fun _ => True) (readChildren ids w) := by
  induction ids generalizing w with
  | nil => exact .ret trivial
  | cons id rest ih =>
    apply (tenanted_getTaskMeta id).bind
    intro m _
    exact .call trivial fun st _ => .call trivial fun r _ => ih _

theorem tenanted_shouldStopNow (batch : TaskId) :
    Tenanted env right (fun _ => True) (shouldStopNow batch) := by
  have hglobal : Tenanted env right (fun _ => True) isGlobalBackupStopEnabled := by
    apply (tenanted_get _).bind
    intro a _
    split <;> exact .ret trivial
  apply hglobal.bind
  intro stop _
  split
  · exact .ret trivial
  · exact (tenanted_getTaskMeta batch).bind fun _ _ => .ret trivial

theorem tenanted_revokeChildren (sent : TaskId → Bool) (ids : List TaskId) :
    Tenanted env right (fun _ => True) (revokeChildren sent ids) := by
  induction ids with
  | nil => exact .ret trivial
  | cons id rest ih =>
    apply Tenanted.call (c := .celeryState id) trivial
    intro st _
    apply ih.bind
    intro forced _
    split
    · exact .ret trivial
    · split <;> exact .ret trivial

theorem tenanted_stop : Tenanted env right (fun _ => True)
    (Client.setex .forceStopBackups (60 * 30) (.text "1")) :=
  .call trivial fun _ _ => .ret trivial

theorem tenanted_bulkTaskStatus (tenant : TenantId) (batch : TaskId) (due : Bool) :
    Tenanted env right (fun _ => True) (bulkTaskStatus env tenant batch due) := by
  apply (tenanted_getTaskMeta batch).bind
  intro r _
  split
  · exact .ret trivial
  · split
    · exact .ret trivial
    · split
      · apply (tenanted_readChildren _ _).bind
        intro w _
        exact (tenanted_updateTaskMeta (by intro _; rfl)).done
      · exact .ret trivial

theorem tenanted_cancelBulkTask (tenant : TenantId) (batch : TaskId) (sent : TaskId → Bool)
    (now : Timestamp) :
    Tenanted env right (fun _ => True) (cancelBulkTask env tenant batch sent now) := by
  apply (tenanted_getTaskMeta batch).bind
  intro r _
  split
  · exact .ret trivial
  · split
    · exact .ret trivial
    · apply (tenanted_revokeChildren sent _).bind
      intro forced _
      apply tenanted_stop.bind
      exact fun _ _ => (tenanted_updateTaskMeta (by intro _; rfl)).done

/-! ### The programs that register tasks -/

theorem tenanted_registerChildren {tenant : TenantId} {cs : List NewChild}
    (h : ∀ c ∈ cs, right c.taskId tenant) :
    Tenanted env right (fun _ => True) (registerChildren env tenant cs) := by
  induction cs with
  | nil => exact .ret trivial
  | cons c rest ih =>
    have hc := h c (List.mem_cons_self ..)
    have hrest : ∀ c ∈ rest, right c.taskId tenant :=
      fun d hd => h d (List.mem_cons_of_mem _ hd)
    apply (tenanted_registerTask hc).bind
    intro _ _
    apply (tenanted_updateTaskMeta (by intro _; rfl)).bind
    exact fun _ _ => ih hrest

theorem tenanted_mergeIntoBatch (batch : TaskId) (new : List NewChild) (pending : Nat)
    (message : String) :
    Tenanted env right (fun _ => True) (mergeIntoBatch env batch new pending message) :=
  (tenanted_getTaskMeta batch).bind fun _ _ => tenanted_updateTaskMeta (by intro _; rfl)

theorem vpnChildren_fresh {vpn : List GroupPayload} {fresh : Nat → TaskId} {c : NewChild}
    (h : c ∈ vpnChildren vpn fresh) : ∃ n, c.taskId = fresh n := by
  obtain ⟨⟨g, i⟩, -, rfl⟩ := List.mem_map.mp h
  exact ⟨i, rfl⟩

theorem jumpChildren_fresh {jump : List GroupPayload} {fresh : Nat → TaskId} {c : NewChild}
    (h : c ∈ jumpChildren jump fresh) : ∃ n, c.taskId = fresh n := by
  obtain ⟨⟨g, i⟩, -, rfl⟩ := List.mem_map.mp h
  exact ⟨i, rfl⟩

theorem tenanted_vpnPhase {tenant : TenantId} {fresh : Nat → TaskId}
    (h : ∀ n, right (fresh n) tenant) (vpn : List GroupPayload) (batch : TaskId) :
    Tenanted env right (fun _ => True)
      (enqueueVpnGroupsAfterDirectPhase env tenant vpn batch fresh) := by
  have hnew : ∀ c ∈ vpnChildren vpn fresh, right c.taskId tenant := by
    intro c hc
    obtain ⟨n, hn⟩ := vpnChildren_fresh hc
    exact hn ▸ h n
  unfold enqueueVpnGroupsAfterDirectPhase
  split
  · exact .ret trivial
  · apply (tenanted_shouldStopNow batch).bind
    intro stop _
    split
    · split
      · exact tenanted_updateTaskMeta (by intro _; rfl)
      · exact .ret trivial
    · split
      · apply (tenanted_registerChildren hnew).bind
        exact fun _ _ => tenanted_mergeIntoBatch ..
      · exact .ret trivial

theorem tenanted_jumpPhase {tenant : TenantId} {fresh : Nat → TaskId}
    (h : ∀ n, right (fresh n) tenant) (jump vpn : List GroupPayload) (batch : TaskId) :
    Tenanted env right (fun _ => True)
      (enqueueJumpAndVpnAfterDirectPhase env tenant jump vpn batch fresh) := by
  have hnew : ∀ c ∈ jumpChildren jump fresh, right c.taskId tenant := by
    intro c hc
    obtain ⟨n, hn⟩ := jumpChildren_fresh hc
    exact hn ▸ h n
  unfold enqueueJumpAndVpnAfterDirectPhase
  split
  · exact tenanted_vpnPhase h vpn batch
  · apply (tenanted_shouldStopNow batch).bind
    intro stop _
    split
    · split
      · exact tenanted_updateTaskMeta (by intro _; rfl)
      · exact .ret trivial
    · dsimp only
      split
      · exact tenanted_vpnPhase h vpn batch
      · split
        · apply (tenanted_registerChildren hnew).bind
          exact fun _ _ => tenanted_mergeIntoBatch ..
        · exact .ret trivial

theorem tenanted_registerDirectChildren {r : Routine} {tenant : TenantId} {cs : List NewChild}
    (h : ∀ c ∈ cs, right c.taskId tenant) :
    Tenanted env right (fun _ => True) (registerDirectChildren env r tenant cs) := by
  induction cs with
  | nil => exact .ret trivial
  | cons c rest ih =>
    have hrest := ih fun d hd => h d (List.mem_cons_of_mem _ hd)
    apply (tenanted_registerTask (h c (List.mem_cons_self ..))).bind
    intro _ _
    dsimp only
    split_ifs
    · exact (tenanted_updateTaskMeta (by intro _; rfl)).bind fun _ _ => hrest
    · exact (tenanted_updateTaskMeta (by intro _; rfl)).bind fun _ _ => hrest
    · exact hrest

theorem tenanted_startBatch {r : Routine} {tenant : TenantId} {batch : TaskId} {p : Plan}
    (hbatch : right batch tenant) (hchildren : ∀ c ∈ p.children, right c.taskId tenant)
    (groupId : String) :
    Tenanted env right (fun _ => True) (startBatch env r tenant groupId batch p) := by
  have hfinal : Tenanted env right (fun _ => True) (writeFinalMeta env r batch p) :=
    (tenanted_getTaskMeta batch).bind fun _ _ => tenanted_updateTaskMeta (by intro _; rfl)
  apply (tenanted_acquireTenantBulkLock tenant batch).bind
  intro a _
  dsimp only
  split_ifs
  · apply (tenanted_registerDirectChildren hchildren).bind
    intro _ _
    exact (tenanted_registerTask hbatch).bind fun _ _ => hfinal.done
  · apply (tenanted_registerTask hbatch).bind
    intro _ _
    exact (tenanted_registerDirectChildren hchildren).bind fun _ _ => hfinal.done
  · exact .ret trivial

/-- The children that a follow-up enqueues. -/
def FollowupOutcome.children : FollowupOutcome → List NewChild
  | .enqueued p => p.children
  | _ => []

theorem tenanted_runBulkTransientFollowup {tenant : TenantId} {batch : TaskId}
    {outcome : FollowupOutcome} (hbatch : right batch tenant)
    (hchildren : ∀ c ∈ outcome.children, right c.taskId tenant) (source : TaskId)
    (requested : Nat) (firstTry : Bool) (now : Timestamp) :
    Tenanted env right (fun _ => True)
      (runBulkTransientFollowup env tenant batch source requested firstTry now outcome) := by
  have hsource : ∀ fields, Tenanted env right (fun _ => True) (updateSource env source fields) :=
    fun fields => tenanted_updateTaskMeta (by intro _; rfl)
  have hprepare : Tenanted env right (fun _ => True)
      (prepareFollowup env tenant batch source requested now outcome) := by
    apply (tenanted_registerTask hbatch).bind
    intro _ _
    apply (hsource _).bind
    intro _ _
    apply (tenanted_updateTaskMeta (by intro _; rfl)).bind
    intro _ _
    cases outcome with
    | enqueued p =>
      apply (tenanted_registerDirectChildren hchildren).bind
      intro _ _
      exact (tenanted_updateTaskMeta (by intro _; rfl)).bind fun _ _ => hsource _
    | nothing message =>
      exact (tenanted_updateTaskMeta (by intro _; rfl)).bind fun _ _ => hsource _
    | raised message error =>
      exact (tenanted_updateTaskMeta (by intro _; rfl)).bind fun _ _ => hsource _
  apply (tenanted_acquireTenantBulkLock tenant batch).bind
  intro a _
  dsimp only
  split_ifs
  · apply hprepare.bind
    intro _ _
    apply (tenanted_getTaskMeta batch).bind
    intro m _
    split_ifs
    · exact .ret trivial
    · exact (tenanted_releaseTenantBulkLock ..).done
  · exact (hsource _).done
  · exact .ret trivial

theorem tenanted_runConnectionAuditAll {tenant : TenantId} {batch : TaskId}
    {children : List NewChild} (hbatch : right batch tenant)
    (hchildren : ∀ c ∈ children, right c.taskId tenant) (groupId : String) :
    Tenanted env right (fun _ => True)
      (runConnectionAuditAll env tenant groupId batch children) := by
  have hregister : Tenanted env right (fun _ => True)
      (registerAuditChildren env tenant children) := by
    induction children with
    | nil => exact .ret trivial
    | cons c rest ih =>
      apply (tenanted_registerTask (hchildren c (List.mem_cons_self ..))).bind
      exact fun _ _ => ih fun d hd => hchildren d (List.mem_cons_of_mem _ hd)
  apply (tenanted_registerTask hbatch).bind
  intro _ _
  apply hregister.bind
  intro _ _
  exact (tenanted_updateTaskMeta (by intro _; rfl)).done

/-! ### The finaliser, the stop-all request and the scheduler -/

theorem tenanted_finalise (batch : TaskId) (now : Timestamp) (id : TaskId) :
    Tenanted env right (fun _ => True)
      (maybeFinalizeBulkAndScheduleFollowup env batch now id) := by
  have hdecide : ∀ m, Tenanted env right (fun _ => True) (decideFollowup env batch m now id) := by
    intro m
    apply (tenanted_readChildren _ _).bind
    intro w _
    dsimp only
    split
    · exact tenanted_updateTaskMeta (by intro _; rfl)
    · exact .call trivial fun _ _ => tenanted_updateTaskMeta (by intro _; rfl)
  have hfinalize : ∀ m snapshot, Tenanted env right (fun _ => True)
      (finalizeBatch env batch m snapshot) := by
    intro m snapshot
    unfold finalizeBatch
    split
    · exact .ret trivial
    · apply (tenanted_updateTaskMeta (by intro _; rfl)).bind
      intro _ _
      apply (tenanted_getTaskMeta batch).bind
      intro r _
      split <;> exact .ret trivial
  unfold maybeFinalizeBulkAndScheduleFollowup
  split
  · exact .ret trivial
  · apply (tenanted_getTaskMeta batch).bind
    intro r _
    dsimp only
    split
    · exact .ret trivial
    · apply (tenanted_readChildren _ _).bind
      intro w _
      split
      · exact .ret trivial
      · apply (hfinalize _ _).bind
        intro m _
        split
        · exact .ret trivial
        · split
          · exact .ret trivial
          · apply (tenanted_ask (c := .setnx (.followupDecision batch) decisionTtl (.text "1"))
              trivial).bind
            intro won _
            split
            · exact hdecide m
            · exact .ret trivial

theorem tenanted_stopBackupTasksGlobally (ids : List TaskId) :
    Tenanted env right (fun _ => True) (stopBackupTasksGlobally ids) := by
  have hbatches : Tenanted env right (fun _ => True) (stopBatches ids) := by
    induction ids with
    | nil => exact .ret trivial
    | cons id rest ih =>
      apply (tenanted_get _).bind
      intro a ha
      split
      next m =>
        split
        · apply (tenanted_ask (c := .setex (.taskMeta id) (60 * 60 * 48)
            (.doc (stoppedByOperator m))) ha).bind
          intro _ _
          exact (tenanted_releaseTenantBulkLock ..).bind fun _ _ => ih
        · exact ih
      next => exact ih
  apply tenanted_stop.bind
  intro _ _
  exact hbatches.done

theorem tenanted_hasActiveBulkOperation (stale : TaskMeta → Bool) (tenants : List TenantId) :
    Tenanted env right (fun _ => True) (hasActiveBulkOperation stale tenants) := by
  induction tenants with
  | nil => exact .ret trivial
  | cons tenant rest ih =>
    have hdelete : Tenanted env right (fun _ => True) (do
        Client.delete (.tenantActiveBulk tenant)
        hasActiveBulkOperation stale rest) := (tenanted_delete _).bind fun _ _ => ih
    apply (tenanted_get _).bind
    intro a _
    split
    · split
      · exact hdelete
      · apply (tenanted_get _).bind
        intro b _
        split
        · split_ifs
          · exact hdelete
          · exact ih
          · exact hdelete
          · exact .ret trivial
        · exact hdelete
    · exact hdelete

theorem tenanted_cancelTask (tenant : TenantId) (id : TaskId) :
    Tenanted env right (fun _ => True) (cancelTask env tenant id) := by
  apply (tenanted_getTaskMeta id).bind
  intro found _
  split
  · exact .ret trivial
  · split
    · exact .ret trivial
    · apply Tenanted.call (c := .celeryState id) trivial
      intro st _
      apply tenanted_stop.bind
      intro _ _
      exact (tenanted_updateTaskMeta (by intro _; rfl)).done

end Programs

/-! ## The system -/

/-- Which tenant owns the device or group of a task. -/
structure Owners where
  of : TaskId → TenantId
  nonempty : ∀ id, of id ≠ ""

def Owners.Owns (owners : Owners) (id : TaskId) (tenant : TenantId) : Prop :=
  tenant = owners.of id

/-- What a meta that nobody registered may say. -/
def Owners.OwnsOrNobody (owners : Owners) (id : TaskId) (tenant : TenantId) : Prop :=
  tenant = "" ∨ owners.Owns id tenant

/-- Everything that reads or writes the metas of tasks. -/
inductive TaskCall where
  | batch (call : TenantCall)
  /-- `register_task` in `run_backup`, after the task was handed to the broker -/
  | register (id : TaskId) (tenant : TenantId) (deviceId deviceName groupId : String)
  | cancelTask (tenant : TenantId) (id : TaskId)
  | log (id : TaskId)

inductive Outcome where
  | replied
  /-- an entry was logged for a task under a tenant -/
  | logged (id : TaskId) (tenant : TenantId)

def TaskCall.program (env : Env) : TaskCall → Program Outcome
  | .batch call => do let _ ← call.program env; return .replied
  | .register id tenant deviceId deviceName groupId => do
    registerTask env id tenant deviceId deviceName groupId; return .replied
  | .cancelTask tenant id => do let _ ← Realtime.cancelTask env tenant id; return .replied
  | .log id => do let tenant ← appendTaskLog id; return .logged id tenant

/-- The call registers only tasks of the tenant that owns them, and its other updates leave
the tenant of a meta alone. -/
def TaskCall.Own (owners : Owners) : TaskCall → Prop
  | batch (.start _ tenant _ id p) =>
    owners.of id = tenant ∧ ∀ c ∈ p.children, owners.of c.taskId = tenant
  | batch (.followup tenant id _ _ _ _ outcome) =>
    owners.of id = tenant ∧ ∀ c ∈ outcome.children, owners.of c.taskId = tenant
  | batch (.audit tenant _ id children) =>
    owners.of id = tenant ∧ ∀ c ∈ children, owners.of c.taskId = tenant
  | batch (.update _ fields) => ∀ m, (fields m).tenantId = m.tenantId
  | batch (.jumpPhase tenant _ _ _ fresh) => ∀ n, owners.of (fresh n) = tenant
  | batch (.vpnPhase tenant _ _ fresh) => ∀ n, owners.of (fresh n) = tenant
  | register id tenant _ _ _ => owners.of id = tenant
  | log id => id ≠ ""
  | _ => True

structure OwnedCall (owners : Owners) where
  call : TaskCall
  own : call.Own owners

def taskSemantics (env : Env) (owners : Owners) :
    Semantics Shared Command Command.Answer Outcome (OwnedCall owners) Surroundings where
  handle := handle
  program c := c.call.program env
  environment := surroundings

abbrev TaskRun := Clients Shared Command Command.Answer Outcome

abbrev TaskEvent (owners : Owners) := ClientEvent (OwnedCall owners) Surroundings

def taskStep (env : Env) (owners : Owners) : TaskRun → TaskEvent owners → Option TaskRun :=
  clientStep (taskSemantics env owners)

/-- Every stored meta names a tenant that is right for its task. -/
def MetasName (right : TaskId → TenantId → Prop) (s : Shared) : Prop :=
  ∀ id m, s.doc id = some m → right id m.tenantId

/-- A logged entry names a tenant that is right for its task. -/
def Outcome.Names (right : TaskId → TenantId → Prop) : Outcome → Prop
  | .replied => True
  | .logged id tenant => right id tenant

/-- The client is about to update, or to log for, a task whose meta is not stored. -/
def Orphans (env : Env) {owners : Owners} (r : TaskRun) : TaskEvent owners → Prop
  | .advance i => ∃ id, id ≠ "" ∧ r.shared.doc id = none ∧
      ((∃ fields k, r.clients[i]? = some (updateTaskMeta env id fields >>= k)) ∨
        r.clients[i]? = some (TaskCall.program env (.log id)))
  | _ => False

section System

variable {ρ : Type} {env : Env} {owners : Owners} {right : TaskId → TenantId → Prop}

/-- A client runs a program that stores right metas, or is about to log an entry. -/
def Proper (env : Env) (right : TaskId → TenantId → Prop) (p : Program Outcome) : Prop :=
  Tenanted env right (Outcome.Names right) p ∨
    ∃ id, id ≠ "" ∧ p = TaskCall.program env (.log id)

/-- Whatever is right for the owner is right for the registrations of the calls. -/
theorem proper_program (hright : ∀ id, right id (owners.of id)) (c : OwnedCall owners) :
    Proper env right (c.call.program env) := by
  obtain ⟨call, own⟩ := c
  have hreplied : ∀ {τ : Type} {p : Program τ}, Tenanted env right (fun _ => True) p →
      Proper env right (p >>= fun _ => pure .replied) :=
    fun h => .inl (h.bind fun _ _ => .ret trivial)
  have howned : ∀ id tenant, owners.of id = tenant → right id tenant :=
    fun id tenant h => h ▸ hright id
  cases call with
  | batch call =>
    cases call with
    | start r tenant groupId batch p =>
      exact hreplied (tenanted_startBatch (howned _ _ own.1)
        (fun c hc => howned _ _ (own.2 c hc)) groupId)
    | followup tenant batch source requested firstTry now outcome =>
      exact hreplied (tenanted_runBulkTransientFollowup (howned _ _ own.1)
        (fun c hc => howned _ _ (own.2 c hc)) source requested firstTry now)
    | audit tenant groupId batch children =>
      exact hreplied (tenanted_runConnectionAuditAll (howned _ _ own.1)
        (fun c hc => howned _ _ (own.2 c hc)) groupId)
    | update id fields => exact hreplied (tenanted_updateTaskMeta own).done
    | status tenant batch due => exact hreplied (tenanted_bulkTaskStatus tenant batch due)
    | jumpPhase tenant jump vpn batch fresh =>
      exact hreplied (tenanted_jumpPhase (fun n => howned _ _ (own n)) jump vpn batch).done
    | vpnPhase tenant vpn batch fresh =>
      exact hreplied (tenanted_vpnPhase (fun n => howned _ _ (own n)) vpn batch).done
    | finalise batch now followupTaskId =>
      exact hreplied (tenanted_finalise batch now followupTaskId).done
    | cancel tenant batch sent now => exact hreplied (tenanted_cancelBulkTask tenant batch sent now)
    | stopAll ids => exact hreplied (tenanted_stopBackupTasksGlobally ids)
    | scheduler stale tenants =>
      exact hreplied (tenanted_hasActiveBulkOperation stale tenants).done
  | register id tenant deviceId deviceName groupId =>
    exact hreplied (tenanted_registerTask (howned _ _ own))
  | cancelTask tenant id => exact hreplied (tenanted_cancelTask tenant id)
  | log id => exact .inr ⟨id, own, rfl⟩

theorem MetasName.setex {s : Shared} {k : RedisKey} {ttl : Nat} {v : RedisValue}
    (hs : MetasName right s) (hv : ∀ id m, k = .taskMeta id → v = .doc m → right id m.tenantId) :
    MetasName right { s with redis := s.redis.setex k ttl v } := by
  intro id m hm
  rw [Shared.doc_eq_some] at hm
  by_cases hk : k = .taskMeta id
  · subst hk
    exact hv id m rfl (Store.of_get_setex_self hm).symm
  · rw [Store.get_setex_ne fun he => hk he.symm] at hm
    exact hs id m (Shared.doc_eq_some.mpr hm)

theorem handle_metasName {s : Shared} {c : Command} (hs : MetasName right s)
    (hc : c.Carries right) : MetasName right (handle c s).2 := by
  cases c with
  | setex k ttl v =>
    apply hs.setex
    rintro id m rfl rfl
    exact hc
  | setnx k ttl v =>
    by_cases hfree : s.redis.get k = none
    · intro id m hm
      rw [Shared.doc_eq_some] at hm
      simp only [handle, Store.setnx_store_of_free hfree] at hm
      refine hs.setex (k := k) (v := v) ?_ id m (Shared.doc_eq_some.mpr hm)
      rintro id m rfl rfl
      exact hc
    · intro id m hm
      rw [Shared.doc_eq_some] at hm
      simp only [handle, Store.setnx_store_of_held hfree] at hm
      exact hs id m (Shared.doc_eq_some.mpr hm)
  | delete k =>
    intro id m hm
    by_cases hk : k = .taskMeta id
    · subst hk
      simp [handle, Shared.doc] at hm
    · rw [doc_frame (by simpa [Command.writes] using hk)] at hm
      exact hs id m hm
  | get k => exact hs
  | celeryState id => exact hs
  | celeryResult id => exact hs
  | scheduleFollowup call => exact hs

/-- Time and the other surroundings only make metas disappear. -/
theorem surroundings_metasName {s t : Shared} {x : Surroundings} (hs : MetasName right s)
    (h : surroundings x s = some t) : MetasName right t := by
  cases x with
  | celery id r =>
    obtain rfl := Option.some.inj h
    exact hs
  | clearStop =>
    obtain rfl := Option.some.inj h
    intro id m hm
    rw [Shared.doc, Store.get_delete_ne (by simp)] at hm
    exact hs id m hm
  | tick d =>
    obtain rfl := Option.some.inj h
    intro id m hm
    rw [Shared.doc_eq_some] at hm
    exact hs id m (Shared.doc_eq_some.mpr (Store.get_of_get_tick hm))

/-- What a command answers is right. -/
theorem tells_handle {s : Shared} (hs : MetasName right s) (c : Command) :
    Tells right c (handle c s).1 := by
  unfold Tells
  split
  next id m heq => exact hs id m (Shared.doc_eq_some.mpr heq)
  next => trivial

/-- An update reads the meta first and then writes all of it. -/
theorem updateTaskMeta_bind {id : TaskId} (hid : id ≠ "") {fields : TaskMeta → TaskMeta}
    {k : Unit → Program ρ} : ∃ next,
      (updateTaskMeta env id fields >>= k) = .call (.get (.taskMeta id)) next ∧
      (∀ m, next (some (.doc m)) = (writeTaskMeta env id (fields m) >>= k)) ∧
      ∀ a, (∀ m, a ≠ some (.doc m)) → next a = (writeTaskMeta env id (fields {}) >>= k) := by
  rw [updateTaskMeta, if_neg hid, getTaskMeta, if_neg hid]
  refine ⟨_, rfl, fun m => rfl, fun a ha => ?_⟩
  rcases a with _ | m | t
  · rfl
  · exact absurd rfl (ha m)
  · rfl

theorem log_program {id : TaskId} (hid : id ≠ "") : ∃ next,
      TaskCall.program env (.log id) = .call (.get (.taskMeta id)) next ∧
      (∀ m, next (some (.doc m)) = .ret (.logged id m.tenantId)) ∧
      ∀ a, (∀ m, a ≠ some (.doc m)) → next a = .ret (.logged id "") := by
  rw [TaskCall.program, appendTaskLog, getTaskMeta, if_neg hid]
  refine ⟨_, rfl, fun m => rfl, fun a ha => ?_⟩
  rcases a with _ | m | t
  · rfl
  · exact absurd rfl (ha m)
  · rfl

theorem answer_ne_doc {s : Shared} {id : TaskId} (h : s.doc id = none) (m : TaskMeta) :
    s.redis.get (.taskMeta id) ≠ some (.doc m) := by
  intro hm
  rw [Shared.doc_eq_some.mpr hm] at h
  exact nomatch h

/-- A client that goes on after a command keeps every meta right, unless it updates a task
without a meta where none is not right. -/
theorem tenanted_next {s : Shared} {c : Command} {next : c.Answer → Program ρ} {post : ρ → Prop}
    (hs : MetasName right s) (hp : Tenanted env right post (.call c next))
    (hnone : (∀ id, right id "") ∨ ∀ id fields k, id ≠ "" → s.doc id = none →
      .call c next ≠ (updateTaskMeta env id fields >>= k)) :
    MetasName right (handle c s).2 ∧ Tenanted env right post (next (handle c s).1) := by
  generalize hq : Prog.call c next = q at hp hnone
  cases hp with
  | ret _ => cases hq
  | call hc hnext =>
    obtain ⟨rfl, hq⟩ := Prog.call.inj hq
    obtain rfl := eq_of_heq hq
    exact ⟨handle_metasName hs hc, hnext _ (tells_handle hs c)⟩
  | @update id fields k p hp hid hfields hk =>
    obtain ⟨next', hbind, hdoc, hmissing⟩ :=
      @updateTaskMeta_bind _ env _ hid fields k
    obtain ⟨rfl, hq⟩ := Prog.call.inj (hq.trans (hp.trans hbind))
    obtain rfl := eq_of_heq hq
    have hwrite : ∀ m, right id m.tenantId →
        Tenanted env right post (writeTaskMeta env id (fields m) >>= k) := by
      intro m hm
      apply (tenanted_writeTaskMeta ((hfields m).symm ▸ hm)).bind
      exact fun _ _ => hk
    constructor
    · exact hs
    · show Tenanted env right post (next (s.redis.get (.taskMeta id)))
      cases hm : s.doc id with
      | some m =>
        rw [Shared.doc_eq_some.mp hm, hdoc]
        exact hwrite m (hs id m hm)
      | none =>
        rw [hmissing _ (answer_ne_doc hm)]
        apply hwrite
        rcases hnone with hright | hnone
        · exact hright id
        · exact absurd hp (hnone id fields k hid hm)

/-- An entry names the tenant of the meta. -/
theorem log_next {s : Shared} {id : TaskId} {c : Command} {next : c.Answer → Program Outcome}
    (hs : MetasName right s) (hid : id ≠ "") (hp : .call c next = TaskCall.program env (.log id))
    (hnone : right id "" ∨ s.doc id ≠ none) :
    (handle c s).2 = s ∧ Tenanted env right (Outcome.Names right) (next (handle c s).1) := by
  obtain ⟨next', hlog, hdoc, hmissing⟩ := @log_program env _ hid
  obtain ⟨rfl, hq⟩ := Prog.call.inj (hp.trans hlog)
  obtain rfl := eq_of_heq hq
  constructor
  · rfl
  · show Tenanted env right (Outcome.Names right) (next (s.redis.get (.taskMeta id)))
    cases hm : s.doc id with
    | some m =>
      rw [Shared.doc_eq_some.mp hm, hdoc]
      exact .ret (hs id m hm)
    | none =>
      rw [hmissing _ (answer_ne_doc hm)]
      exact .ret (hnone.resolve_right fun h => h hm)

/-- One step keeps every meta right, unless an update or an entry finds no meta where none is
not right. -/
theorem proper_step (hright : ∀ id, right id (owners.of id)) {r r' : TaskRun}
    {e : TaskEvent owners} (h : AllClients (MetasName right) (fun p _ => Proper env right p) r)
    (hnone : (∀ id, right id "") ∨ ¬ Orphans env r e) (hs : taskStep env owners r e = some r') :
    AllClients (MetasName right) (fun p _ => Proper env right p) r' := by
  apply h.step hs
  · intro call _
    exact proper_program hright call
  · intro i c next he hi hp
    subst he
    rcases hp with hp | ⟨id, hid, hp⟩
    · obtain ⟨hmetas, hnext⟩ := tenanted_next h.1 hp (hnone.imp_right fun horphans => by
        intro id fields k hid hdoc heq
        exact horphans ⟨id, hid, hdoc, .inl ⟨fields, k, heq ▸ hi⟩⟩)
      exact ⟨hmetas, .inl hnext, fun _ _ _ _ hq => hq⟩
    · have hmeta : right id "" ∨ r.shared.doc id ≠ none := by
        apply hnone.imp (fun h => h id)
        intro horphans hdoc
        exact horphans ⟨id, hid, hdoc, .inr (hp ▸ hi)⟩
      obtain ⟨hsame, hnext⟩ := log_next h.1 hid hp hmeta
      exact ⟨hsame.symm ▸ h.1, .inl hnext, fun _ _ _ _ hq => hq⟩
  · intro x t _ ht
    exact ⟨surroundings_metasName h.1 ht, fun q _ hq => hq⟩

/-- In every run, each meta names the owner of its task or no tenant at all. -/
theorem metas_name_owner_or_nobody {s₀ : Shared} {es : List (TaskEvent owners)} {r : TaskRun}
    (hs₀ : MetasName owners.OwnsOrNobody s₀)
    (hrun : exec (taskStep env owners) { shared := s₀ } es = some r) :
    MetasName owners.OwnsOrNobody r.shared := by
  have hstart : AllClients (MetasName owners.OwnsOrNobody)
      (fun p _ => Proper env owners.OwnsOrNobody p) ({ shared := s₀ } : TaskRun) :=
    ⟨hs₀, fun p hp => nomatch hp⟩
  have hright : ∀ id, owners.OwnsOrNobody id (owners.of id) := fun _ => .inr rfl
  exact (exec_invariant_all
    (fun s e t hs ht => proper_step hright hs (.inl fun _ => .inl rfl) ht) hstart hrun).1

end System

/-! ## Whole runs -/

/-- The stored metas name the owners of their tasks, the other tenants are turned away, and
the entries that were logged name the owners too. -/
structure TenantsNamed (owners : Owners) (r : TaskRun) : Prop where
  metas : ∀ id m, r.shared.doc id = some m → m.tenantId = owners.of id
  refused : ∀ id tenant, tenant ≠ owners.of id →
    taskRefused tenant (r.shared.doc id) = some .notFound ∨
      taskRefused tenant (r.shared.doc id) = some .forbidden
  logged : ∀ id tenant, .ret (.logged id tenant) ∈ r.clients → tenant = owners.of id

/-- **Every meta carries the tenant that owns its task** in every state of a run in which no
update and no entry finds the meta of its task missing. -/
theorem tenants_named (env : Env) (owners : Owners) (s₀ : Shared) (es : List (TaskEvent owners))
    (r : TaskRun) (hs₀ : ∀ id m, s₀.doc id = some m → m.tenantId = owners.of id)
    (hok : Along (taskStep env owners) (fun r e => ¬ Orphans env r e) { shared := s₀ } es)
    (hrun : exec (taskStep env owners) { shared := s₀ } es = some r) : TenantsNamed owners r := by
  have hstart : AllClients (MetasName owners.Owns) (fun p _ => Proper env owners.Owns p)
      ({ shared := s₀ } : TaskRun) := ⟨hs₀, fun p hp => nomatch hp⟩
  have hright : ∀ id, owners.Owns id (owners.of id) := fun _ => rfl
  obtain ⟨hmetas, hclients⟩ := exec_invariant
    (fun s e t hs he ht => proper_step hright hs (.inr he) ht) hstart hok hrun
  constructor
  · exact hmetas
  · intro id tenant hne
    cases hm : r.shared.doc id with
    | none => exact .inl rfl
    | some m =>
      have hother : m.tenantId ≠ "" ∧ m.tenantId ≠ tenant := by
        rw [hmetas id m hm]
        exact ⟨owners.nonempty id, hne.symm⟩
      exact .inr (if_pos hother)
  · intro id tenant hmem
    rcases hclients _ hmem with h | ⟨id', hid, h⟩
    · cases h with
      | ret h => exact h
      | update hp hid _ _ =>
        obtain ⟨next, hbind, -⟩ := @updateTaskMeta_bind _ env _ hid _ _
        exact nomatch hp.trans hbind
    · obtain ⟨next, hlog, -⟩ := @log_program env _ hid
      exact nomatch h.trans hlog

def soleOwner : Owners := ⟨fun _ => "t", fun _ => by decide⟩

/-- The worker of a device task reports that it runs. -/
def workerStarts : OwnedCall soleOwner :=
  ⟨.batch (.update "task" fun m => { m with status := some .running }), fun _ => rfl⟩

def registration : OwnedCall soleOwner := ⟨.register "task" "t" "device" "OLT" "", rfl⟩

/-- A scheduled task is never registered: its worker's first report leaves a meta without a
tenant, which the checks let every tenant see. -/
theorem unregistered_task_open_to_all :
    ¬ ∀ (env : Env) (owners : Owners) (s₀ : Shared) (es : List (TaskEvent owners)) (r : TaskRun),
      (∀ id m, s₀.doc id = some m → m.tenantId = owners.of id) →
      exec (taskStep env owners) { shared := s₀ } es = some r → TenantsNamed owners r := by
  intro hall
  have hnamed := hall .ascii soleOwner {} [.spawn workerStarts, .advance 0, .advance 0] _
    (fun id m hm => nomatch hm) rfl
  rcases hnamed.refused "task" "stranger" (by decide) with h | h
  · exact nomatch h
  · exact nomatch h

/-- An orphaning step begins with a read that finds no meta. -/
theorem Orphans.reads {env : Env} {owners : Owners} {r : TaskRun} {i : Nat}
    (h : Orphans env r (.advance i : TaskEvent owners)) : ∃ id next, r.shared.doc id = none ∧
      r.clients[i]? = some (.call (.get (.taskMeta id)) next) := by
  obtain ⟨id, hid, hdoc, ⟨fields, k, hi⟩ | hi⟩ := h
  · obtain ⟨next, hbind, -⟩ := @updateTaskMeta_bind _ env _ hid fields k
    exact ⟨id, next, hdoc, hbind ▸ hi⟩
  · obtain ⟨next, hlog, -⟩ := @log_program env _ hid
    exact ⟨id, next, hdoc, hlog ▸ hi⟩

def registeredThenStarted : List (TaskEvent soleOwner) :=
  [.spawn registration, .advance 0, .spawn workerStarts, .advance 1, .advance 1]

theorem registered_task_named : ∃ r,
    exec (taskStep .ascii soleOwner) { shared := {} } registeredThenStarted = some r ∧
      TenantsNamed soleOwner r := by
  refine ⟨_, rfl, tenants_named .ascii soleOwner {} registeredThenStarted _
    (fun id m hm => nomatch hm) ?_ rfl⟩
  refine ⟨id, fun r₁ h₁ => ?_⟩
  obtain rfl := Option.some.inj h₁
  refine ⟨fun h => ?_, fun r₂ h₂ => ?_⟩
  · obtain ⟨id, next, -, hi⟩ := h.reads
    exact nomatch hi
  obtain rfl := Option.some.inj h₂
  refine ⟨id, fun r₃ h₃ => ?_⟩
  obtain rfl := Option.some.inj h₃
  refine ⟨fun h => ?_, fun r₄ h₄ => ?_⟩
  · obtain ⟨id, next, hdoc, hi⟩ := h.reads
    cases hi
    exact nomatch hdoc
  obtain rfl := Option.some.inj h₄
  refine ⟨fun h => ?_, fun _ _ => trivial⟩
  obtain ⟨id, next, -, hi⟩ := h.reads
  exact nomatch hi

end BackupCenter.Realtime
