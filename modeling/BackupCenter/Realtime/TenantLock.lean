import BackupCenter.Realtime.Orderly

/-!
# One active batch for each tenant

With the single-batch lock enabled, a backup batch is admitted by the conditional write
of the tenant's lock. The batch owns the lock until its meta is completed, so that no
other batch is admitted. Ownership is lost where the lock is deleted or overwritten
without regard to its owner, or where a completed batch is reopened.
-/
namespace BackupCenter.Realtime

open BackupCenter.Lib BackupCenter.Tasks BackupCenter.Web BackupCenter.Bulk

/-- The calls that batches, their workers and the routes make. -/
inductive TenantCall where
  | start (r : Routine) (tenant : TenantId) (groupId : String) (batch : TaskId) (p : Plan)
  | followup (tenant : TenantId) (batch source : TaskId) (requested : Nat) (firstTry : Bool)
    (now : Timestamp) (outcome : FollowupOutcome)
  | audit (tenant : TenantId) (groupId : String) (batch : TaskId) (children : List NewChild)
  /-- Any other `update_task_meta`: a heartbeat, the progress or the end of a child. -/
  | update (id : TaskId) (fields : TaskMeta → TaskMeta)
  | status (tenant : TenantId) (batch : TaskId) (due : Bool)
  | jumpPhase (tenant : TenantId) (jump vpn : List GroupPayload) (batch : TaskId)
    (fresh : Nat → TaskId)
  | vpnPhase (tenant : TenantId) (vpn : List GroupPayload) (batch : TaskId) (fresh : Nat → TaskId)
  | finalise (batch : TaskId) (now : Timestamp) (followupTaskId : TaskId)
  | cancel (tenant : TenantId) (batch : TaskId) (sent : TaskId → Bool) (now : Timestamp)
  | stopAll (ids : List TaskId)
  | scheduler (stale : TaskMeta → Bool) (tenants : List TenantId)

def TenantCall.program (env : Env) : TenantCall → Program Reply
  | .start r tenant groupId batch p => startBatch env r tenant groupId batch p
  | .followup tenant batch source requested firstTry now outcome =>
    runBulkTransientFollowup env tenant batch source requested firstTry now outcome
  | .audit tenant groupId batch children => runConnectionAuditAll env tenant groupId batch children
  | .update id fields => do updateTaskMeta env id fields; return .done
  | .status tenant batch due => bulkTaskStatus env tenant batch due
  | .jumpPhase tenant jump vpn batch fresh => do
    enqueueJumpAndVpnAfterDirectPhase env tenant jump vpn batch fresh; return .done
  | .vpnPhase tenant vpn batch fresh => do
    enqueueVpnGroupsAfterDirectPhase env tenant vpn batch fresh; return .done
  | .finalise batch now id => do
    maybeFinalizeBulkAndScheduleFollowup env batch now id; return .done
  | .cancel tenant batch sent now => cancelBulkTask env tenant batch sent now
  | .stopAll ids => stopBackupTasksGlobally ids
  | .scheduler stale tenants => do let _ ← hasActiveBulkOperation stale tenants; return .done

/-- What else happens: Celery works, the global stop is cleared, time passes. -/
inductive Surroundings where
  | celery (id : TaskId) (r : AsyncResult)
  | clearStop
  | tick (d : Nat)

def surroundings : Surroundings → Shared → Option Shared
  | .celery id r, s => some { s with celery := Function.update s.celery id r }
  | .clearStop, s => some { s with redis := s.redis.delete .forceStopBackups }
  | .tick d, s => some { s with redis := s.redis.tick d }

def tenantSemantics (env : Env) :
    Semantics Shared Command Command.Answer Reply TenantCall Surroundings where
  handle := handle
  program := TenantCall.program env
  environment := surroundings

abbrev TenantRun := Clients Shared Command Command.Answer Reply

/-- The batch was admitted: its conditional write of the tenant's lock succeeded. -/
def Admitted (tenant : TenantId) (s : Shared) (batch : TaskId) : Prop :=
  ∃ w ∈ s.won, w.key = .tenantActiveBulk tenant ∧ w.value = .text batch

def Completed (s : Shared) (batch : TaskId) : Prop :=
  ∃ m, s.doc batch = some m ∧ m.completed = true

/-- An admitted batch whose meta is not completed. -/
def Active (tenant : TenantId) (s : Shared) (batch : TaskId) : Prop :=
  Admitted tenant s batch ∧ ¬ Completed s batch

/-- The command does not take the lock from an active batch, nor reopen an admitted batch
that is completed. -/
def KeepsOwner (tenant : TenantId) (s : Shared) : Command → Prop
  | .delete k => k = .tenantActiveBulk tenant → ∀ b, ¬ Active tenant s b
  | .setex (.tenantActiveBulk t) _ v => t = tenant → ∀ b, Active tenant s b → v = .text b
  | .setex (.taskMeta b) _ (.doc m) => Admitted tenant s b → Completed s b → m.completed = true
  | _ => True

/-- Time passes without the end of the lock's time to live or a completed meta's. -/
def OutlivedBy (tenant : TenantId) (s : Shared) (d : Nat) : Prop :=
  (s.redis.tick d).get (.tenantActiveBulk tenant) = s.lockOwner tenant ∧
    ∀ b, Admitted tenant s b → Completed s b → Completed { s with redis := s.redis.tick d } b

/-- Each step keeps the lock with the batch that owns it. -/
def OwnerKept (tenant : TenantId) (r : TenantRun) : ClientEvent TenantCall Surroundings → Prop
  | .advance i =>
    match r.clients[i]? with
    | some (.call c _) => KeepsOwner tenant r.shared c
    | _ => True
  | .env (.tick d) => OutlivedBy tenant r.shared d
  | _ => True

/-- An active batch owns the lock. -/
def ActiveOwns (tenant : TenantId) (s : Shared) : Prop :=
  ∀ b, Active tenant s b → s.lockOwner tenant = some (.text b)

section Steps

variable {env : Env} {tenant : TenantId} {s : Shared} {c : Command}

theorem tenantCall_orderly (call : TenantCall) : IsOrderly (call.program env) := by
  cases call with
  | start r tenant groupId batch p => exact orderly_startBatch ..
  | followup tenant batch source requested firstTry now outcome =>
    exact orderly_runBulkTransientFollowup ..
  | audit tenant groupId batch children => exact orderly_runConnectionAuditAll ..
  | update id fields => exact (orderly_updateTaskMeta ..).bind fun _ => trivial
  | status tenant batch due => exact orderly_bulkTaskStatus ..
  | jumpPhase tenant jump vpn batch fresh => exact (orderly_jumpPhase ..).bind fun _ => trivial
  | vpnPhase tenant vpn batch fresh => exact (orderly_vpnPhase ..).bind fun _ => trivial
  | finalise batch now id => exact (orderly_finalise ..).bind fun _ => trivial
  | cancel tenant batch sent now => exact orderly_cancelBulkTask ..
  | stopAll ids => exact orderly_stopBackupTasksGlobally ids
  | scheduler stale tenants =>
    exact (orderly_hasActiveBulkOperation stale tenants).bind fun _ => trivial

theorem ActiveOwns.of_frame {t : Shared} (h : ActiveOwns tenant s) (hwon : t.won = s.won)
    (hdoc : ∀ b, Admitted tenant s b → Completed s b → Completed t b)
    (hlock : ∀ b, Active tenant s b → t.lockOwner tenant = s.lockOwner tenant) :
    ActiveOwns tenant t := by
  rintro b ⟨hadm, hopen⟩
  have hadm' : Admitted tenant s b := by simpa only [Admitted, hwon] using hadm
  have hact : Active tenant s b := ⟨hadm', fun hdone => hopen (hdoc b hadm' hdone)⟩
  exact (hlock b hact).trans (h b hact)

theorem completed_frame {b : TaskId} (h : c.writes ≠ some (.taskMeta b)) (hs : Completed s b) :
    Completed (handle c s).2 b := by
  rw [Completed, doc_frame h]
  exact hs

theorem lockOwner_frame (h : c.writes ≠ some (.tenantActiveBulk tenant)) :
    (handle c s).2.lockOwner tenant = s.lockOwner tenant :=
  handle_frame h s

/-- A conditional write wins only a free lock, and while it is free no batch is active. -/
theorem ActiveOwns.setnx (h : ActiveOwns tenant s) {k : RedisKey} {ttl : Nat} {v : RedisValue}
    (hc : (Command.setnx k ttl v).Orderly) :
    ActiveOwns tenant (handle (.setnx k ttl v) s).2 := by
  have hk : ∀ b, (Command.setnx k ttl v).writes ≠ some (.taskMeta b) := by
    intro b he
    obtain rfl : k = .taskMeta b := Option.some.inj he
    exact hc
  by_cases hfree : s.redis.get k = none
  · have hwon : (s.redis.setnx k ttl v).1 = true := Store.setnx_eq_true.mpr hfree
    rintro b ⟨⟨w, hw, hkey, hvalue⟩, hopen⟩
    simp only [Realtime.handle, hwon, ↓reduceIte, List.mem_cons] at hw
    rcases hw with rfl | hw
    · -- the batch admitted just now
      obtain rfl : k = .tenantActiveBulk tenant := hkey
      obtain rfl : v = .text b := hvalue
      simp only [Shared.lockOwner, Realtime.handle, Store.setnx_store_of_free hfree]
      exact Store.get_setex_self hc.1
    · have hold := h b ⟨⟨w, hw, hkey, hvalue⟩, fun hdone => hopen (completed_frame (hk b) hdone)⟩
      have hne : (Command.setnx k ttl v).writes ≠ some (.tenantActiveBulk tenant) := by
        intro he
        obtain rfl : k = .tenantActiveBulk tenant := Option.some.inj he
        rw [Shared.lockOwner, hfree] at hold
        cases hold
      exact (lockOwner_frame hne).trans hold
  · have hlost : (s.redis.setnx k ttl v).1 = false := by
      rw [← Bool.not_eq_true, Store.setnx_eq_true]
      exact hfree
    refine h.of_frame ?_ (fun b _ hdone => completed_frame (hk b) hdone) fun b _ => ?_
    · simp [Realtime.handle, hlost]
    · simp only [Shared.lockOwner, Realtime.handle, Store.setnx_store_of_held hfree]

/-- An orderly command that keeps the owner leaves every active batch with its lock. -/
theorem ActiveOwns.handle (h : ActiveOwns tenant s) (hc : c.Orderly)
    (hkeep : KeepsOwner tenant s c) : ActiveOwns tenant (handle c s).2 := by
  cases c with
  | setnx k ttl v => exact h.setnx hc
  | setex k ttl v =>
    cases k with
    | taskMeta id =>
      obtain ⟨httl, m, rfl⟩ := hc
      refine h.of_frame rfl (fun b hadm hdone => ?_)
        fun b _ => lockOwner_frame (by simp [Command.writes])
      by_cases hb : b = id
      · subst hb
        refine ⟨m, ?_, hkeep hadm hdone⟩
        simp [Realtime.handle, Shared.doc, Store.get_setex_self httl]
      · exact completed_frame (by simpa [Command.writes] using Ne.symm hb) hdone
    | tenantActiveBulk t =>
      refine h.of_frame rfl (fun b _ hdone => completed_frame (by simp [Command.writes]) hdone)
        fun b hact => ?_
      by_cases ht : t = tenant
      · subst ht
        rw [h b hact, hkeep rfl b hact]
        exact Store.get_setex_self hc.1
      · exact lockOwner_frame (by simpa [Command.writes] using ht)
    | followupDecision id => exact hc.elim
    | forceStopBackups =>
      exact h.of_frame rfl (fun b _ hdone => completed_frame (by simp [Command.writes]) hdone)
        fun b _ => lockOwner_frame (by simp [Command.writes])
  | delete k =>
    cases k with
    | tenantActiveBulk t =>
      refine h.of_frame rfl (fun b _ hdone => completed_frame (by simp [Command.writes]) hdone)
        fun b hact => ?_
      by_cases ht : t = tenant
      · exact absurd hact (hkeep (by rw [ht]) b)
      · exact lockOwner_frame (by simpa [Command.writes] using ht)
    | taskMeta id => exact hc.elim
    | followupDecision id => exact hc.elim
    | forceStopBackups => exact hc.elim
  | get k => exact h
  | celeryState id => exact h
  | celeryResult id => exact h
  | scheduleFollowup call => exact h.of_frame rfl (fun _ _ hdone => hdone) fun _ _ => rfl

theorem ActiveOwns.surroundings (h : ActiveOwns tenant s) {x : Surroundings} {t : Shared}
    (ht : surroundings x s = some t)
    (hok : ∀ d, x = .tick d → OutlivedBy tenant s d) : ActiveOwns tenant t := by
  cases x with
  | celery id r =>
    obtain rfl := Option.some.inj ht
    exact h.of_frame rfl (fun _ _ hdone => hdone) fun _ _ => rfl
  | clearStop =>
    obtain rfl := Option.some.inj ht
    refine h.of_frame rfl (fun b _ hdone => ?_) fun b _ => Store.get_delete_ne (by simp)
    rw [Completed, Shared.doc, Store.get_delete_ne (by simp)]
    exact hdone
  | tick d =>
    obtain rfl := Option.some.inj ht
    obtain ⟨hlock, hdone⟩ := hok d rfl
    exact h.of_frame rfl hdone fun _ _ => hlock

/-- One step of the whole system. -/
theorem activeOwns_step {r r' : TenantRun} {e : ClientEvent TenantCall Surroundings}
    (h : AllClients (ActiveOwns tenant) (fun p _ => IsOrderly p) r) (hok : OwnerKept tenant r e)
    (hs : clientStep (tenantSemantics env) r e = some r') :
    AllClients (ActiveOwns tenant) (fun p _ => IsOrderly p) r' := by
  refine h.step hs (fun call _ => tenantCall_orderly call) (fun i c next he hi hp => ?_)
    fun x t he ht => ⟨h.1.surroundings ht fun d hx => ?_, fun q _ hq => hq⟩
  · subst he
    simp only [OwnerKept, hi] at hok
    exact ⟨h.1.handle hp.1 hok, hp.2 _ trivial, fun j q _ _ hq => hq⟩
  · subst he hx
    exact hok

/-- What a step wins was free before. -/
theorem free_of_won {r r' : TenantRun} {e : ClientEvent TenantCall Surroundings} {w : Won}
    (hs : clientStep (tenantSemantics env) r e = some r')
    (hw : r'.shared.won = w :: r.shared.won) : r.shared.redis.get w.key = none := by
  have hself : ∀ {won : List Won}, won ≠ w :: won := fun h => List.cons_ne_self _ _ h.symm
  cases e with
  | spawn call =>
    obtain rfl := Option.some.inj hs
    exact absurd hw hself
  | advance i =>
    obtain ⟨c, next, -, hshared, -⟩ := clientStep_advance hs
    rw [hshared] at hw
    cases c with
    | setnx k ttl v =>
      simp only [tenantSemantics, Realtime.handle] at hw
      split at hw
      next hwon =>
        obtain ⟨rfl, -⟩ := List.cons.inj hw
        exact Store.setnx_eq_true.mp hwon
      next => exact absurd hw hself
    | _ => exact absurd hw hself
  | env x =>
    obtain ⟨ht, -⟩ := clientStep_env hs
    have hsame : r'.shared.won = r.shared.won := by
      cases x <;> rw [← Option.some.inj ht]
    exact absurd (hsame ▸ hw) hself

/-- No conditional write succeeds. -/
def NothingWon : (c : Command) → c.Answer → Prop
  | .setnx .., won => won = false
  | _, _ => True

/-- With the lock enabled, `acquire_tenant_bulk_lock` succeeds only by winning the lock. -/
theorem acquire_needs_lock (hon : env.bulkTenantSingleActiveLockEnabled = true)
    (ht : tenant ≠ "") {batch : TaskId} (hb : batch ≠ "") :
    (acquireTenantBulkLock env tenant batch).Respects (fun _ => True) NothingWon
      fun answer => answer.1 = false := by
  have hget : ∀ k, (Client.get k).Respects (fun _ => True) NothingWon fun _ => True :=
    fun k => ⟨trivial, fun _ _ => trivial⟩
  have hmeta : ∀ id, (getTaskMeta id).Respects (fun _ => True) NothingWon fun _ => True := by
    intro id
    simp only [getTaskMeta]
    split
    · trivial
    · apply (hget _).bind
      intro a _
      split <;> trivial
  have htake : (acquireTenantBulkLock.takeLock env tenant batch).Respects (fun _ => True) NothingWon
      fun answer => answer.1 = false := by
    refine ⟨trivial, fun won hlost => ?_⟩
    obtain rfl : won = false := hlost
    apply (hget _).bind
    intro a _
    split <;> rfl
  simp only [acquireTenantBulkLock, hon, ht, hb, Bool.not_true, decide_false, Bool.or_false,
    Bool.false_eq_true, ↓reduceIte]
  apply (hget _).bind
  intro a _
  split
  next existing =>
    split
    · exact htake
    · apply (hmeta existing).bind
      intro m _
      split
      · split
        · rfl
        · exact ⟨trivial, fun _ _ => htake⟩
      · rfl
  next => exact htake

end Steps

/-! ## Whole runs -/

def lockingEnv : Env := { Env.ascii with bulkTenantSingleActiveLockEnabled := true }

def startCall (batch : TaskId) : TenantCall :=
  .start .runBackupAll "t" "" batch { tenantId := "t", children := [] }

/-- The second start comes while the first batch is registered, but not yet a bulk batch. -/
def overlappingStarts : List (ClientEvent TenantCall Surroundings) :=
  [.spawn (startCall "first"), .advance 0, .advance 0, .advance 0,
    .spawn (startCall "second"), .advance 1, .advance 1, .advance 1, .advance 1]

def loneStart : List (ClientEvent TenantCall Surroundings) :=
  [.spawn (startCall "first"), .advance 0, .advance 0, .advance 0, .advance 0, .advance 0,
    .advance 0, .advance 0]

end BackupCenter.Realtime
