import BackupCenter.Realtime.BatchStart
import BackupCenter.Realtime.Finaliser

/-!
# What the calls write

Every call keeps to one discipline: a task meta is only ever replaced by another
document, the tenant lock holds a batch id, the decision key is only written
conditionally, and nothing is written without a time to live.
-/
namespace BackupCenter.Realtime

open BackupCenter.Lib BackupCenter.Tasks BackupCenter.Bulk

/-- The commands that the calls issue. -/
def Command.Orderly : Command → Prop
  | .setex (.taskMeta _) ttl v => 0 < ttl ∧ ∃ m, v = .doc m
  | .setex (.tenantActiveBulk _) ttl v => 0 < ttl ∧ ∃ id, v = .text id
  | .setex .forceStopBackups ttl _ => 0 < ttl
  | .setex (.followupDecision _) _ _ => False
  | .setnx (.tenantActiveBulk _) ttl v => 0 < ttl ∧ ∃ id, v = .text id
  | .setnx (.followupDecision _) ttl _ => ttl = decisionTtl
  | .setnx _ _ _ => False
  | .delete (.tenantActiveBulk _) => True
  | .delete _ => False
  | _ => True

/-- Orderly commands other than conditional writes and the hand-over to the broker. -/
def Command.Plain : Command → Prop
  | .setnx _ _ _ => False
  | .scheduleFollowup _ => False
  | c => c.Orderly

theorem Command.Plain.orderly {c : Command} (h : c.Plain) : c.Orderly := by
  cases c with
  | setnx k ttl v => exact h.elim
  | scheduleFollowup call => trivial
  | _ => exact h

variable {env : Env} {ρ : Type}

abbrev IsOrderly (p : Program ρ) : Prop := p.Always Command.Orderly

abbrev IsPlain (p : Program ρ) : Prop := p.Always Command.Plain

theorem IsPlain.orderly {p : Program ρ} (h : IsPlain p) : IsOrderly p :=
  Prog.Always.respects h fun _ hc => hc.orderly

theorem plain_get (k : RedisKey) : IsPlain (Client.get k) :=
  ⟨trivial, fun _ _ => trivial⟩

theorem plain_deleteLock (tenant : TenantId) :
    IsPlain (Client.delete (.tenantActiveBulk tenant)) :=
  ⟨trivial, fun _ _ => trivial⟩

theorem plain_getTaskMeta (id : TaskId) : IsPlain (getTaskMeta id) := by
  simp only [getTaskMeta]
  split
  · trivial
  · refine (plain_get _).bind fun a => ?_
    split <;> trivial

theorem plain_releaseTenantBulkLock (tenant : TenantId) (id : TaskId) :
    IsPlain (releaseTenantBulkLock tenant id) := by
  simp only [releaseTenantBulkLock]
  split
  · trivial
  · refine (plain_get _).bind fun a => ?_
    split
    · split
      · trivial
      · exact plain_deleteLock tenant
    · exact plain_deleteLock tenant

theorem plain_writeTaskMeta (id : TaskId) (payload : TaskMeta) :
    IsPlain (writeTaskMeta env id payload) := by
  have hset : IsPlain (Client.setex (.taskMeta id) (ttlSeconds env) (.doc payload)) :=
    ⟨⟨ttlSeconds_pos env, payload, rfl⟩, fun _ _ => trivial⟩
  refine hset.bind fun _ => ?_
  simp only [lockAfterWrite]
  split
  · split
    · exact plain_releaseTenantBulkLock ..
    · exact ⟨⟨bulkActiveLockTtlSeconds_pos env, id, rfl⟩, fun _ _ => trivial⟩
  · trivial

theorem plain_updateTaskMeta (id : TaskId) (fields : TaskMeta → TaskMeta) :
    IsPlain (updateTaskMeta env id fields) := by
  simp only [updateTaskMeta]
  split
  · trivial
  · exact (plain_getTaskMeta id).bind fun r => plain_writeTaskMeta id _

theorem plain_readChildren (ids : List TaskId) (w : World) : IsPlain (readChildren ids w) := by
  induction ids generalizing w with
  | nil => trivial
  | cons id rest ih =>
    refine (plain_getTaskMeta id).bind fun m => ?_
    exact ⟨trivial, fun st _ => ⟨trivial, fun r _ => ih _⟩⟩

theorem plain_finalizeBatch (batch : TaskId) (m : TaskMeta) (snapshot : Snapshot) :
    IsPlain (finalizeBatch env batch m snapshot) := by
  simp only [finalizeBatch]
  split
  · trivial
  · refine (plain_updateTaskMeta ..).bind fun _ => (plain_getTaskMeta batch).bind fun r => ?_
    split <;> trivial

theorem orderly_get (k : RedisKey) : IsOrderly (Client.get k) := (plain_get k).orderly

theorem orderly_deleteLock (tenant : TenantId) :
    IsOrderly (Client.delete (.tenantActiveBulk tenant)) :=
  (plain_deleteLock tenant).orderly

theorem orderly_getTaskMeta (id : TaskId) : IsOrderly (getTaskMeta id) :=
  (plain_getTaskMeta id).orderly

theorem orderly_releaseTenantBulkLock (tenant : TenantId) (id : TaskId) :
    IsOrderly (releaseTenantBulkLock tenant id) :=
  (plain_releaseTenantBulkLock tenant id).orderly

theorem orderly_updateTaskMeta (id : TaskId) (fields : TaskMeta → TaskMeta) :
    IsOrderly (updateTaskMeta env id fields) :=
  (plain_updateTaskMeta id fields).orderly

theorem orderly_readChildren (ids : List TaskId) (w : World) : IsOrderly (readChildren ids w) :=
  (plain_readChildren ids w).orderly

theorem orderly_registerTask (id : TaskId) (tenant : TenantId) (device name group : String) :
    IsOrderly (registerTask env id tenant device name group) := by
  simp only [registerTask]
  split
  · trivial
  · exact (plain_writeTaskMeta id _).orderly

theorem orderly_acquireTenantBulkLock (tenant : TenantId) (id : TaskId) :
    IsOrderly (acquireTenantBulkLock env tenant id) := by
  have htake : IsOrderly (acquireTenantBulkLock.takeLock env tenant id) := by
    have hset : IsOrderly (Client.setnx (.tenantActiveBulk tenant) (bulkActiveLockTtlSeconds env)
        (.text id)) :=
      ⟨⟨bulkActiveLockTtlSeconds_pos env, id, rfl⟩, fun _ _ => trivial⟩
    refine hset.bind fun won => ?_
    split
    · trivial
    · refine (orderly_get _).bind fun a => ?_
      split <;> trivial
  simp only [acquireTenantBulkLock]
  split
  · trivial
  · refine (orderly_get _).bind fun a => ?_
    split
    · split
      · exact htake
      · refine (orderly_getTaskMeta _).bind fun r => ?_
        split
        · split
          · trivial
          · exact (orderly_deleteLock tenant).bind fun _ => htake
        · trivial
    · exact htake

theorem orderly_shouldStopNow (batch : TaskId) : IsOrderly (shouldStopNow batch) := by
  have hglobal : IsOrderly isGlobalBackupStopEnabled := by
    refine (orderly_get _).bind fun a => ?_
    split <;> trivial
  refine hglobal.bind fun stop => ?_
  split
  · trivial
  · exact (orderly_getTaskMeta batch).bind fun r => trivial

theorem orderly_revokeChildren (sent : TaskId → Bool) (ids : List TaskId) :
    IsOrderly (revokeChildren sent ids) := by
  induction ids with
  | nil => trivial
  | cons id rest ih =>
    refine ⟨trivial, fun st _ => ih.bind fun forced => ?_⟩
    split
    · trivial
    · split <;> trivial

theorem orderly_bulkTaskStatus (tenant : TenantId) (batch : TaskId) (due : Bool) :
    IsOrderly (bulkTaskStatus env tenant batch due) := by
  refine (orderly_getTaskMeta batch).bind fun r => ?_
  split
  · trivial
  · split
    · trivial
    · split
      · refine (orderly_readChildren _ _).bind fun w => ?_
        exact (orderly_updateTaskMeta ..).bind fun _ => trivial
      · trivial

theorem orderly_cancelBulkTask (tenant : TenantId) (batch : TaskId) (sent : TaskId → Bool)
    (now : Timestamp) : IsOrderly (cancelBulkTask env tenant batch sent now) := by
  have hstop : IsOrderly (Client.setex .forceStopBackups (60 * 30) (.text "1")) :=
    ⟨show 0 < 60 * 30 by decide, fun _ _ => trivial⟩
  refine (orderly_getTaskMeta batch).bind fun r => ?_
  split
  · trivial
  · split
    · trivial
    · refine (orderly_revokeChildren sent _).bind fun forced => hstop.bind fun _ => ?_
      exact (orderly_updateTaskMeta ..).bind fun _ => trivial

theorem orderly_registerChildren (tenant : TenantId) (cs : List NewChild) :
    IsOrderly (registerChildren env tenant cs) := by
  induction cs with
  | nil => trivial
  | cons c rest ih =>
    exact (orderly_registerTask ..).bind fun _ => (orderly_updateTaskMeta ..).bind fun _ => ih

theorem orderly_mergeIntoBatch (batch : TaskId) (new : List NewChild) (pending : Nat)
    (message : String) : IsOrderly (mergeIntoBatch env batch new pending message) :=
  (orderly_getTaskMeta batch).bind fun _ => orderly_updateTaskMeta ..

theorem orderly_vpnPhase (tenant : TenantId) (vpn : List GroupPayload) (batch : TaskId)
    (fresh : Nat → TaskId) :
    IsOrderly (enqueueVpnGroupsAfterDirectPhase env tenant vpn batch fresh) := by
  simp only [enqueueVpnGroupsAfterDirectPhase]
  split
  · trivial
  · refine (orderly_shouldStopNow batch).bind fun stop => ?_
    split
    · split
      · exact orderly_updateTaskMeta ..
      · trivial
    · split
      · exact (orderly_registerChildren ..).bind fun _ => orderly_mergeIntoBatch ..
      · trivial

theorem orderly_jumpPhase (tenant : TenantId) (jump vpn : List GroupPayload) (batch : TaskId)
    (fresh : Nat → TaskId) :
    IsOrderly (enqueueJumpAndVpnAfterDirectPhase env tenant jump vpn batch fresh) := by
  simp only [enqueueJumpAndVpnAfterDirectPhase]
  split
  · exact orderly_vpnPhase ..
  · refine (orderly_shouldStopNow batch).bind fun stop => ?_
    split
    · split
      · exact orderly_updateTaskMeta ..
      · trivial
    · split
      · exact orderly_vpnPhase ..
      · split
        · exact (orderly_registerChildren ..).bind fun _ => orderly_mergeIntoBatch ..
        · trivial

theorem orderly_finalise (batch : TaskId) (now : Timestamp) (id : TaskId) :
    IsOrderly (maybeFinalizeBulkAndScheduleFollowup env batch now id) := by
  have hset : IsOrderly (Client.setnx (.followupDecision batch) decisionTtl (.text "1")) :=
    ⟨rfl, fun _ _ => trivial⟩
  have hdecide : ∀ m, IsOrderly (decideFollowup env batch m now id) := by
    intro m
    refine (orderly_readChildren _ _).bind fun w => ?_
    simp only
    split
    · exact orderly_updateTaskMeta ..
    · exact ⟨trivial, fun _ _ => orderly_updateTaskMeta ..⟩
  simp only [maybeFinalizeBulkAndScheduleFollowup]
  split
  · trivial
  · refine (orderly_getTaskMeta batch).bind fun r => ?_
    split
    · trivial
    · refine (orderly_readChildren _ _).bind fun w => ?_
      split
      · trivial
      · refine (plain_finalizeBatch ..).orderly.bind fun m => ?_
        split
        · trivial
        · split
          · trivial
          · refine hset.bind fun won => ?_
            split
            · exact hdecide m
            · trivial

theorem orderly_registerDirectChildren (r : Routine) (tenant : TenantId) (cs : List NewChild) :
    IsOrderly (registerDirectChildren env r tenant cs) := by
  induction cs with
  | nil => trivial
  | cons c rest ih =>
    refine (orderly_registerTask ..).bind fun _ => ?_
    simp only
    split_ifs
    · exact (orderly_updateTaskMeta ..).bind fun _ => ih
    · exact (orderly_updateTaskMeta ..).bind fun _ => ih
    · exact ih

theorem orderly_startBatch (r : Routine) (tenant : TenantId) (groupId : String) (batch : TaskId)
    (p : Plan) : IsOrderly (startBatch env r tenant groupId batch p) := by
  have hfinal : IsOrderly (writeFinalMeta env r batch p) :=
    (orderly_getTaskMeta batch).bind fun _ => orderly_updateTaskMeta ..
  refine (orderly_acquireTenantBulkLock tenant batch).bind fun a => ?_
  simp only
  split_ifs
  · refine (orderly_registerDirectChildren ..).bind fun _ => ?_
    refine (orderly_registerTask ..).bind fun _ => ?_
    exact hfinal.bind fun _ => trivial
  · refine (orderly_registerTask ..).bind fun _ => ?_
    refine (orderly_registerDirectChildren ..).bind fun _ => ?_
    exact hfinal.bind fun _ => trivial
  · trivial

theorem orderly_runBulkTransientFollowup (tenant : TenantId) (batch source : TaskId)
    (requested : Nat) (firstTry : Bool) (now : Timestamp) (outcome : FollowupOutcome) :
    IsOrderly
      (runBulkTransientFollowup env tenant batch source requested firstTry now outcome) := by
  have hprepare : IsOrderly (prepareFollowup env tenant batch source requested now outcome) := by
    refine (orderly_registerTask ..).bind fun _ => (orderly_updateTaskMeta ..).bind fun _ => ?_
    refine (orderly_updateTaskMeta ..).bind fun _ => ?_
    cases outcome with
    | enqueued p =>
      refine (orderly_registerDirectChildren ..).bind fun _ => ?_
      exact (orderly_updateTaskMeta ..).bind fun _ => orderly_updateTaskMeta ..
    | nothing message => exact (orderly_updateTaskMeta ..).bind fun _ => orderly_updateTaskMeta ..
    | raised message error =>
      exact (orderly_updateTaskMeta ..).bind fun _ => orderly_updateTaskMeta ..
  refine (orderly_acquireTenantBulkLock tenant batch).bind fun a => ?_
  simp only
  split_ifs
  · refine hprepare.bind fun _ => (orderly_getTaskMeta batch).bind fun m => ?_
    split_ifs
    · trivial
    · exact (orderly_releaseTenantBulkLock ..).bind fun _ => trivial
  · exact (orderly_updateTaskMeta ..).bind fun _ => trivial
  · trivial

theorem orderly_runConnectionAuditAll (tenant : TenantId) (groupId : String) (batch : TaskId)
    (children : List NewChild) :
    IsOrderly (runConnectionAuditAll env tenant groupId batch children) := by
  have hchildren : IsOrderly (registerAuditChildren env tenant children) := by
    induction children with
    | nil => trivial
    | cons c rest ih => exact (orderly_registerTask ..).bind fun _ => ih
  refine (orderly_registerTask ..).bind fun _ => hchildren.bind fun _ => ?_
  exact (orderly_updateTaskMeta ..).bind fun _ => trivial

theorem orderly_stopBackupTasksGlobally (ids : List TaskId) :
    IsOrderly (stopBackupTasksGlobally ids) := by
  have hstop : IsOrderly (Client.setex .forceStopBackups (60 * 30) (.text "1")) :=
    ⟨show 0 < 60 * 30 by decide, fun _ _ => trivial⟩
  have hbatches : IsOrderly (stopBatches ids) := by
    induction ids with
    | nil => trivial
    | cons id rest ih =>
      refine (orderly_get _).bind fun a => ?_
      split
      · split
        · refine Prog.Always.bind (p := Client.setex ..) ⟨⟨by decide, _, rfl⟩, fun _ _ => trivial⟩
            fun _ => ?_
          exact (orderly_releaseTenantBulkLock ..).bind fun _ => ih
        · exact ih
      · exact ih
  exact hstop.bind fun _ => hbatches.bind fun _ => trivial

theorem orderly_hasActiveBulkOperation (stale : TaskMeta → Bool) (tenants : List TenantId) :
    IsOrderly (hasActiveBulkOperation stale tenants) := by
  induction tenants with
  | nil => trivial
  | cons tenant rest ih =>
    have hdelete : IsOrderly (do
        Client.delete (.tenantActiveBulk tenant)
        hasActiveBulkOperation stale rest) := (orderly_deleteLock tenant).bind fun _ => ih
    refine (orderly_get _).bind fun a => ?_
    split
    · split
      · exact hdelete
      · refine (orderly_get _).bind fun b => ?_
        split
        · split_ifs
          · exact hdelete
          · exact ih
          · exact hdelete
          · trivial
        · exact hdelete
    · exact hdelete

end BackupCenter.Realtime
