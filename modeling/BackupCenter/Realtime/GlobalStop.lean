import BackupCenter.Lib.Guests
import BackupCenter.Realtime.ActiveIndex
import BackupCenter.Realtime.Ownership

/-!
# The global stop flag

A stop request is recorded in the meta of its batch and in one key that all tenants share.
Every worker, every phase callback and the scheduler read the key, and every manual start
deletes it.
-/
namespace BackupCenter.Realtime

open BackupCenter.Lib BackupCenter.Tasks BackupCenter.Bulk

/-- `cancel_task` and `cancel_bulk_task`. -/
inductive CancelRequest where
  | task (id : TaskId)
  | batch (id : TaskId) (sent : TaskId → Bool) (now : Timestamp)

def CancelRequest.program (env : Env) (tenant : TenantId) : CancelRequest → Program Unit
  | .task id => do let _ ← cancelTask env tenant id; return ()
  | .batch id sent now => do let _ ← cancelBulkTask env tenant id sent now; return ()

/-- `_clear_global_force_stop_flag` -/
def clearGlobalForceStopFlag : Program Bool := do
  let hadFlag ← isGlobalBackupStopEnabled
  if hadFlag then do
    Client.delete .forceStopBackups
    return true
  else return false

/-- The routes that start a backup by hand; each clears the flag before it looks any further. -/
inductive BackupStart where
  /-- `run_backup` -/
  | device (id : TaskId) (deviceId : DeviceId) (deviceName groupId : String)
  /-- `run_backup_all` and `run_backup_selected` -/
  | batch (r : Routine) (groupId : String) (id : TaskId) (p : Plan)
  /-- The group's `run_backup_all`, and a route that ends before it registers a task. -/
  | unregistered

def BackupStart.program (env : Env) (tenant : TenantId) : BackupStart → Program Unit
  | .device id deviceId deviceName groupId => do
    let _ ← clearGlobalForceStopFlag
    registerTask env id tenant deviceId deviceName groupId
  | .batch r groupId id p => do
    let _ ← clearGlobalForceStopFlag
    let _ ← startBatch env r tenant groupId id p
    return ()
  | .unregistered => do
    let _ ← clearGlobalForceStopFlag
    return ()

/-! ## What a store says about a stop -/

/-- What `get_task_meta` answers. -/
def Shared.taskMeta (s : Shared) (id : TaskId) : Option TaskMeta :=
  if id = "" then none else s.doc id

/-- The batch itself is marked. -/
def Shared.batchCancelled (s : Shared) (batch : TaskId) : Bool :=
  ((s.taskMeta batch).getD {}).cancelRequested

/-- The endpoint turns the request away. -/
def CancelRequest.Refused (tenant : TenantId) (s : Shared) : CancelRequest → Prop
  | .task id => taskRefused tenant (s.taskMeta id) ≠ none ∨
      ((s.taskMeta id).getD {}).isBulk = true
  | .batch id _ _ => ∀ m, s.taskMeta id = some m → refused tenant m ≠ none

/-- The flag was set at this very moment, so that setting it again cannot be seen. -/
def StopJustSet (s : Shared) : Prop :=
  ∃ flag, s.redis.entries .forceStopBackups = some (.text flag, s.redis.now + 60 * 30) ∧
    strip flag = "1"

theorem run_getTaskMeta (id : TaskId) (s : Shared) :
    (getTaskMeta id).run handle s = (s.taskMeta id, s) := by
  unfold getTaskMeta Shared.taskMeta
  split
  · rfl
  · rw [Prog.run_bind]
    unfold Shared.doc
    simp only [Client.get, Prog.ask, Prog.run, handle]
    rcases s.redis.get (.taskMeta id) with _ | m | t <;> rfl

/-- `_should_stop_now` reads the flag, and the mark of the batch. -/
theorem run_shouldStopNow (batch : TaskId) (s : Shared) :
    (shouldStopNow batch).run handle s = (s.stopInForce || s.batchCancelled batch, s) := by
  unfold shouldStopNow
  rw [Prog.run_bind, run_isGlobalBackupStopEnabled]
  cases s.stopInForce
  · show (isBulkCancelled batch).run handle s = (s.batchCancelled batch, s)
    unfold isBulkCancelled
    rw [Prog.run_bind, run_getTaskMeta]
    rfl
  · rfl

/-! ## Which keys the calls write -/

/-- Whatever the answers, the program writes only keys in `W`. -/
abbrev WritesIn (W : RedisKey → Prop) {ρ : Type} (p : Program ρ) : Prop :=
  p.Always fun c => ∀ k, c.writes = some k → W k

section Writes

variable {env : Env} {W : RedisKey → Prop} {ρ : Type}

theorem writesIn_ask {c : Command} (h : ∀ k, c.writes = some k → W k) :
    WritesIn W (Prog.ask c) :=
  ⟨h, fun _ _ => trivial⟩

theorem writesIn_get (k : RedisKey) : WritesIn W (Client.get k) := writesIn_ask nofun

theorem writesIn_write {k : RedisKey} (h : W k) : ∀ k', some k = some k' → W k' :=
  fun _ he => Option.some.inj he ▸ h

theorem writesIn_getTaskMeta (id : TaskId) : WritesIn W (getTaskMeta id) := by
  unfold getTaskMeta
  split
  · trivial
  · apply (writesIn_get _).bind
    intro a
    split <;> trivial

theorem writesIn_releaseTenantBulkLock (hlock : ∀ t, W (.tenantActiveBulk t)) (tenant : TenantId)
    (id : TaskId) : WritesIn W (releaseTenantBulkLock tenant id) := by
  have hdelete : WritesIn W (Client.delete (.tenantActiveBulk tenant)) :=
    writesIn_ask (writesIn_write (hlock tenant))
  unfold releaseTenantBulkLock
  split
  · trivial
  · apply (writesIn_get _).bind
    intro a
    split
    · split
      · trivial
      · exact hdelete
    · exact hdelete

theorem writesIn_writeTaskMeta (hlock : ∀ t, W (.tenantActiveBulk t)) {id : TaskId}
    (hid : W (.taskMeta id)) (payload : TaskMeta) :
    WritesIn W (writeTaskMeta env id payload) := by
  have hset : WritesIn W (Client.setex (.taskMeta id) (ttlSeconds env) (.doc payload)) :=
    writesIn_ask (writesIn_write hid)
  apply hset.bind
  intro _
  unfold lockAfterWrite
  split
  · split
    · exact writesIn_releaseTenantBulkLock hlock ..
    · exact writesIn_ask (writesIn_write (hlock _))
  · trivial

theorem writesIn_updateTaskMeta (hlock : ∀ t, W (.tenantActiveBulk t)) {id : TaskId}
    (hid : id ≠ "" → W (.taskMeta id)) (fields : TaskMeta → TaskMeta) :
    WritesIn W (updateTaskMeta env id fields) := by
  unfold updateTaskMeta
  split
  next => trivial
  next hne =>
    apply (writesIn_getTaskMeta id).bind
    intro r
    exact writesIn_writeTaskMeta hlock (hid hne) _

theorem writesIn_registerTask (hlock : ∀ t, W (.tenantActiveBulk t)) {id : TaskId}
    (hid : id ≠ "" → W (.taskMeta id)) (tenant : TenantId) (device name group : String) :
    WritesIn W (registerTask env id tenant device name group) := by
  unfold registerTask
  split
  next => trivial
  next hne => exact writesIn_writeTaskMeta hlock (hid hne) _

theorem writesIn_acquireTenantBulkLock (hlock : ∀ t, W (.tenantActiveBulk t)) (tenant : TenantId)
    (id : TaskId) : WritesIn W (acquireTenantBulkLock env tenant id) := by
  have htake : WritesIn W (acquireTenantBulkLock.takeLock env tenant id) := by
    have hset : WritesIn W (Client.setnx (.tenantActiveBulk tenant)
        (bulkActiveLockTtlSeconds env) (.text id)) := writesIn_ask (writesIn_write (hlock tenant))
    apply hset.bind
    intro won
    split
    · trivial
    · apply (writesIn_get _).bind
      intro a
      split <;> trivial
  have hdelete : WritesIn W (Client.delete (.tenantActiveBulk tenant)) :=
    writesIn_ask (writesIn_write (hlock tenant))
  unfold acquireTenantBulkLock
  split
  · trivial
  · apply (writesIn_get _).bind
    intro a
    split
    · split
      · exact htake
      · apply (writesIn_getTaskMeta _).bind
        intro r
        split
        · split
          · trivial
          · exact hdelete.bind fun _ => htake
        · trivial
    · exact htake

theorem writesIn_registerDirectChildren (hlock : ∀ t, W (.tenantActiveBulk t)) (r : Routine)
    (tenant : TenantId) {cs : List NewChild}
    (hcs : ∀ c ∈ cs, c.taskId ≠ "" → W (.taskMeta c.taskId)) :
    WritesIn W (registerDirectChildren env r tenant cs) := by
  induction cs with
  | nil => trivial
  | cons c rest ih =>
    have hc := hcs c (List.mem_cons_self ..)
    have hrest := ih fun d hd => hcs d (List.mem_cons_of_mem _ hd)
    apply (writesIn_registerTask hlock hc ..).bind
    intro _
    dsimp only
    split_ifs
    · exact (writesIn_updateTaskMeta hlock hc _).bind fun _ => hrest
    · exact (writesIn_updateTaskMeta hlock hc _).bind fun _ => hrest
    · exact hrest

theorem writesIn_startBatch (hlock : ∀ t, W (.tenantActiveBulk t)) (r : Routine)
    (tenant : TenantId) (groupId : String) {batch : TaskId} {p : Plan}
    (hbatch : batch ≠ "" → W (.taskMeta batch))
    (hchildren : ∀ c ∈ p.children, c.taskId ≠ "" → W (.taskMeta c.taskId)) :
    WritesIn W (startBatch env r tenant groupId batch p) := by
  have hfinal : WritesIn W (do
      writeFinalMeta env r batch p
      return Reply.acquired true) := by
    have hwrite : WritesIn W (writeFinalMeta env r batch p) :=
      (writesIn_getTaskMeta batch).bind fun _ => writesIn_updateTaskMeta hlock hbatch _
    exact hwrite.bind fun _ => trivial
  have hregister := @writesIn_registerTask env _ hlock _ hbatch tenant "" (Routine.title r)
    groupId
  have hdirect := @writesIn_registerDirectChildren env _ hlock r tenant _ hchildren
  apply (writesIn_acquireTenantBulkLock hlock tenant batch).bind
  intro a
  dsimp only
  split_ifs
  · exact hdirect.bind fun _ => hregister.bind fun _ => hfinal
  · exact hregister.bind fun _ => hdirect.bind fun _ => hfinal
  · trivial

end Writes

/-- A command leaves the entries of every other key as they are. -/
theorem handle_entries {c : Command} {k : RedisKey} (h : c.writes ≠ some k) (s : Shared) :
    (handle c s).2.redis.entries k = s.redis.entries k := by
  cases c with
  | setex k' ttl v => exact Function.update_of_ne (fun he => h (by rw [he]; rfl)) ..
  | setnx k' ttl v =>
    by_cases hfree : s.redis.get k' = none
    · simp only [handle, Store.setnx_store_of_free hfree]
      exact Function.update_of_ne (fun he => h (by rw [he]; rfl)) ..
    · simp only [handle, Store.setnx_store_of_held hfree]
  | delete k' => exact Function.update_of_ne (fun he => h (by rw [he]; rfl)) ..
  | _ => rfl

/-- A program that does not write a key leaves its entry and the clock as they are. -/
theorem run_entries {k : RedisKey} {ρ : Type} {p : Program ρ} (h : WritesIn (· ≠ k) p)
    (s : Shared) : (p.run handle s).2.redis.entries k = s.redis.entries k ∧
      (p.run handle s).2.redis.now = s.redis.now := by
  induction p generalizing s with
  | ret r => exact ⟨rfl, rfl⟩
  | call c next ih =>
    obtain ⟨hentries, hnow⟩ := ih _ (h.2 _ trivial) (handle c s).2
    constructor
    · exact hentries.trans (handle_entries (fun he => h.1 k he rfl) s)
    · exact hnow.trans (handle_now c s)

/-! ## A request, refused or accepted -/

section Requests

variable {env : Env} {tenant : TenantId} {q : CancelRequest} {s : Shared}

theorem getTaskMeta_bind {ρ : Type} {id : TaskId} (hid : id ≠ "")
    (k : Option TaskMeta → Program ρ) :
    ∃ next, (getTaskMeta id >>= k) = .call (.get (.taskMeta id)) next ∧
      ∀ s : Shared, next (s.redis.get (.taskMeta id)) = k (s.taskMeta id) := by
  rw [getTaskMeta, if_neg hid]
  refine ⟨_, rfl, fun s => ?_⟩
  rw [Shared.taskMeta, if_neg hid]
  unfold Shared.doc
  rcases s.redis.get (.taskMeta id) with _ | m | t <;> rfl

def CancelRequest.target : CancelRequest → TaskId
  | .task id => id
  | .batch id _ _ => id

/-- A request reads its target and then, if it is refused, does nothing else. -/
theorem request_reads (env : Env) (tenant : TenantId) (q : CancelRequest) : ∃ rest,
    q.program env tenant = (getTaskMeta q.target >>= rest) ∧
      ∀ s : Shared, q.Refused tenant s → rest (s.taskMeta q.target) = .ret () := by
  cases q with
  | task id =>
    unfold CancelRequest.program cancelTask
    refine ⟨_, Prog.bind_assoc .., fun s h => ?_⟩
    dsimp only [CancelRequest.target]
    cases hr : taskRefused tenant (s.taskMeta id) with
    | some r => rfl
    | none =>
      have hbulk := h.resolve_left fun hne => hne hr
      dsimp only
      rw [if_pos hbulk]
      rfl
  | batch id sent now =>
    unfold CancelRequest.program cancelBulkTask
    refine ⟨_, Prog.bind_assoc .., fun s h => ?_⟩
    dsimp only [CancelRequest.target]
    cases hm : s.taskMeta id with
    | none => rfl
    | some m =>
      obtain ⟨r, hr⟩ := Option.ne_none_iff_exists'.mp (h m hm)
      dsimp only
      rw [hr]
      rfl

theorem run_revokeChildren (sent : TaskId → Bool) (ids : List TaskId) :
    ((revokeChildren sent ids).run handle s).2 = s := by
  induction ids with
  | nil => rfl
  | cons id rest ih =>
    unfold revokeChildren
    rw [Prog.run_bind]
    show (Prog.run handle (revokeChildren sent rest >>= _) s).2 = s
    rw [Prog.run_bind, ih]
    split_ifs <;> rfl

/-- Setting the flag, and then nothing that touches it. -/
theorem run_setFlag {ρ : Type} {p : Program ρ} (h : WritesIn (· ≠ .forceStopBackups) p)
    (s : Shared) :
    let t := ((Client.setex .forceStopBackups (60 * 30) (.text "1") >>= fun _ => p).run handle s).2
    t.redis.entries .forceStopBackups = some (.text "1", s.redis.now + 60 * 30) ∧
      t.redis.now = s.redis.now := by
  have hset : (handle (.setex .forceStopBackups (60 * 30) (.text "1")) s).2.redis.entries
      .forceStopBackups = some (.text "1", s.redis.now + 60 * 30) := by simp [handle, Store.setex]
  obtain ⟨hentries, hnow⟩ := run_entries h (handle (.setex .forceStopBackups (60 * 30)
    (.text "1")) s).2
  exact ⟨hentries.trans hset, hnow⟩

/-- An accepted request sets the flag for half an hour. -/
theorem accepted_sets_flag (h : ¬ q.Refused tenant s) :
    ((q.program env tenant).run handle s).2.redis.entries .forceStopBackups =
        some (.text "1", s.redis.now + 60 * 30) ∧
      ((q.program env tenant).run handle s).2.redis.now = s.redis.now := by
  have hupdate : ∀ {ρ : Type} (id : TaskId) (fields : TaskMeta → TaskMeta) (r : ρ),
      WritesIn (· ≠ .forceStopBackups)
        ((updateTaskMeta env id fields >>= fun _ => Prog.ret r) >>= fun _ => Prog.ret ()) := by
    intro ρ id fields r
    have hwrite : WritesIn (· ≠ .forceStopBackups) (updateTaskMeta env id fields) :=
      writesIn_updateTaskMeta (fun _ => by simp) (fun _ => by simp) fields
    apply Prog.Always.bind
    · exact hwrite.bind fun _ => trivial
    · exact fun _ => trivial
  cases q with
  | task id =>
    obtain ⟨hright, hsingle⟩ := not_or.mp h
    have hr := not_not.mp hright
    dsimp only [CancelRequest.program, cancelTask]
    rw [Prog.bind_assoc, Prog.run_bind, run_getTaskMeta]
    dsimp only
    rw [hr]
    dsimp only
    rw [if_neg hsingle]
    exact run_setFlag (hupdate id interruptedFields _) s
  | batch id sent now =>
    obtain ⟨m, hm, hr⟩ : ∃ m, s.taskMeta id = some m ∧ refused tenant m = none := by
      simpa [CancelRequest.Refused] using h
    dsimp only [CancelRequest.program, cancelBulkTask]
    rw [Prog.bind_assoc, Prog.run_bind, run_getTaskMeta]
    dsimp only
    rw [hm]
    dsimp only
    rw [hr]
    dsimp only
    rw [Prog.bind_assoc, Prog.run_bind, run_revokeChildren]
    exact run_setFlag (hupdate id (cancelFields _ now) _) s

end Requests

/-! ## Two runs, with and without the request -/

section TwoRuns

variable (env : Env) (owners : Owners)

abbrev WithGuest := Guested Shared Command Command.Answer Outcome Unit

abbrev GuestedEvent := GuestEvent (TaskEvent owners)

def withGuest : WithGuest → GuestedEvent owners → Option WithGuest :=
  guestStep (taskSemantics env owners)

/-- The tasks and batches of a tenant, its phase callbacks and the scheduler fare in one store
as in the other. -/
structure SameFor (tenant : TenantId) (s t : Shared) : Prop where
  tasks : ∀ batch, batch = "" ∨ owners.of batch = tenant →
    ((shouldStopNow batch).run handle s).1 = ((shouldStopNow batch).run handle t).1
  callbacks : ∀ jump vpn batch fresh, owners.of batch = tenant →
    (enqueueJumpAndVpnAfterDirectPhase env tenant jump vpn batch fresh).issued handle s =
      (enqueueJumpAndVpnAfterDirectPhase env tenant jump vpn batch fresh).issued handle t
  scheduler : ∀ stale tenants, ((scheduledRunGuard stale tenants).run handle s).1 =
    ((scheduledRunGuard stale tenants).run handle t).1

/-- Whatever happens once the request has read its target, the other tenant fares as in the
run without it. -/
def CancelIsLocal (tenant other : TenantId) (r : TaskRun) (q : CancelRequest) : Prop :=
  ∀ es r', exec (withGuest env owners) ⟨r, q.program env tenant⟩ (.guest :: es) = some r' →
    ∃ t, exec (taskStep env owners) r (hostEvents es) = some t ∧
      SameFor env owners other r'.host.shared t.shared

variable {env owners} {tenant other : TenantId} {r : TaskRun} {q : CancelRequest}

/-- A request that is turned away is not there for the others. -/
theorem refused_isLocal (h : q.Refused tenant r.shared) :
    CancelIsLocal env owners tenant other r q := by
  intro es r' hrun
  obtain ⟨s, hs, hrest⟩ := exec_cons hrun
  obtain ⟨c, next, hc, hguest, hhost⟩ := guestStep_guest hs
  obtain ⟨rest, hprogram, hret⟩ := request_reads env tenant q
  dsimp only at hc hguest hhost
  rw [hprogram] at hc
  have hid : q.target ≠ "" := by
    intro hid
    rw [getTaskMeta, if_pos hid] at hc
    have hnone : r.shared.taskMeta q.target = none := if_pos hid
    have hfinal := hret r.shared h
    rw [hnone] at hfinal
    cases hfinal.symm.trans hc
  obtain ⟨next', hbind, hread⟩ := getTaskMeta_bind hid rest
  obtain ⟨rfl, hnext⟩ := Prog.call.inj (hbind.symm.trans hc)
  obtain rfl := eq_of_heq hnext
  have hdone : s.guest = .ret () := hguest.trans ((hread r.shared).trans (hret r.shared h))
  have hsame : s.host = r := hhost
  have halone := exec_returned hdone hrest
  rw [hsame] at halone
  refine ⟨r'.host, halone, ?_⟩
  constructor <;> intros <;> rfl

/-- The store after a delay. -/
def Shared.later (s : Shared) (d : Nat) : Shared := { s with redis := s.redis.tick d }

theorem stopInForce_later {s : Shared} {d : Nat} : (s.later d).stopInForce = true ↔
    ∃ flag expiry, s.redis.entries .forceStopBackups = some (.text flag, expiry) ∧
      s.redis.now + d < expiry ∧ strip flag = "1" := by
  unfold Shared.stopInForce Shared.later
  constructor
  · intro h
    split at h
    next flag hflag =>
      obtain ⟨expiry, hentry, hlive⟩ := Store.get_eq_some.mp hflag
      exact ⟨flag, expiry, hentry, hlive, beq_iff_eq.mp h⟩
    next => cases h
  · rintro ⟨flag, expiry, hentry, hlive, hone⟩
    have hget : (s.redis.tick d).get .forceStopBackups = some (.text flag) :=
      Store.get_eq_some.mpr ⟨expiry, hentry, hlive⟩
    rw [hget]
    exact beq_iff_eq.mpr hone

/-- A flag that is set anew outlasts one that was set before, or is outlasted by it. -/
theorem flag_differs_later {s t : Shared} (hnow : t.redis.now = s.redis.now)
    (hset : t.redis.entries .forceStopBackups = some (.text "1", s.redis.now + 60 * 30))
    (h : ¬ StopJustSet s) : ∃ d, (t.later d).stopInForce ≠ (s.later d).stopInForce := by
  have ht : ∀ d, (t.later d).stopInForce = true ↔ d < 60 * 30 := by
    intro d
    rw [stopInForce_later, hset, hnow]
    constructor
    · rintro ⟨flag, expiry, he, hlive, -⟩
      obtain ⟨-, rfl⟩ := Prod.mk.inj (Option.some.inj he)
      omega
    · exact fun hd => ⟨"1", _, rfl, by omega, by decide⟩
  by_cases hold : ∃ flag expiry, s.redis.entries .forceStopBackups = some (.text flag, expiry) ∧
      strip flag = "1"
  · obtain ⟨flag, expiry, hentry, hone⟩ := hold
    have hs : ∀ d, (s.later d).stopInForce = true ↔ s.redis.now + d < expiry := by
      intro d
      rw [stopInForce_later, hentry]
      constructor
      · rintro ⟨flag', expiry', he, hlive, -⟩
        obtain ⟨-, rfl⟩ := Prod.mk.inj (Option.some.inj he)
        exact hlive
      · exact fun hlive => ⟨flag, expiry, rfl, hlive, hone⟩
    have hne : expiry ≠ s.redis.now + 60 * 30 := fun he => h ⟨flag, he ▸ hentry, hone⟩
    by_cases hshort : expiry < s.redis.now + 60 * 30
    · refine ⟨expiry - s.redis.now, fun he => ?_⟩
      have hset' := (ht (expiry - s.redis.now)).mpr (by omega)
      have hlapsed := (hs (expiry - s.redis.now)).mp (he ▸ hset')
      omega
    · refine ⟨60 * 30, fun he => ?_⟩
      have hlasts := (hs (60 * 30)).mpr (by omega)
      have hlapsed := (ht (60 * 30)).mp (he.symm ▸ hlasts)
      omega
  · refine ⟨0, fun he => hold ?_⟩
    have hset' := (ht 0).mpr (by decide)
    obtain ⟨flag, expiry, hentry, -, hone⟩ := stopInForce_later.mp (he ▸ hset')
    exact ⟨flag, expiry, hentry, hone⟩

/-- A task without a batch sees the flag alone. -/
theorem run_shouldStopNow_alone (s : Shared) :
    ((shouldStopNow "").run handle s).1 = s.stopInForce := by
  rw [run_shouldStopNow]
  exact Bool.or_false _

/-- An accepted request is seen by the tasks of every tenant. -/
theorem isLocal_refused (h : CancelIsLocal env owners tenant other r q) :
    q.Refused tenant r.shared ∨ StopJustSet r.shared := by
  by_contra hnot
  obtain ⟨haccepted, hjust⟩ := not_or.mp hnot
  obtain ⟨hset, hnow⟩ := @accepted_sets_flag env _ _ _ haccepted
  obtain ⟨d, hd⟩ := flag_differs_later hnow hset hjust
  obtain ⟨n, hn⟩ := exec_guest_alone (taskSemantics env owners) r (q.program env tenant)
  cases n with
  | zero =>
    have hsame := congrArg (fun g : WithGuest => g.host.shared) (Option.some.inj hn)
    exact hjust ⟨"1", (congrArg (·.redis.entries .forceStopBackups) hsame).trans hset, by decide⟩
  | succ n =>
    have hlast : exec (withGuest env owners) ⟨r, q.program env tenant⟩
        (.guest :: (List.replicate n .guest ++ [.host (.env (.tick d))])) =
        some ⟨{ r with shared := ((q.program env tenant).run handle r.shared).2.later d },
          .ret ((q.program env tenant).run handle r.shared).1⟩ := exec_append hn
    obtain ⟨t, ht, hsame⟩ := h _ _ hlast
    rw [hostEvents_replicate] at ht
    obtain rfl := Option.some.inj ht
    have htasks := hsame.tasks "" (.inl rfl)
    rw [run_shouldStopNow_alone, run_shouldStopNow_alone] at htasks
    exact hd htasks

end TwoRuns

/-! ## The stops that a start withdraws -/

section Starts

variable {env : Env} {owners : Owners} {tenant other : TenantId} {s : Shared}

/-- The start registers only tasks of its tenant. -/
def BackupStart.Own (owners : Owners) (tenant : TenantId) : BackupStart → Prop
  | .device id _ _ _ => owners.of id = tenant
  | .batch _ _ id p => owners.of id = tenant ∧ ∀ c ∈ p.children, owners.of c.taskId = tenant
  | .unregistered => True

/-- Whatever stop the tasks of these batches would have seen, they still see. -/
def KeepsStops (pending : TaskId → Prop) (s t : Shared) : Prop :=
  ∀ batch, pending batch → ((shouldStopNow batch).run handle s).1 = true →
    ((shouldStopNow batch).run handle t).1 = true

/-- The program is about to delete the flag. -/
def DeletesFlag {ρ : Type} (p : Program ρ) : Prop :=
  ∃ next, p = .call (.delete .forceStopBackups) next

/-- A key that a start of the tenant writes. -/
def StartKey (owners : Owners) (tenant : TenantId) : RedisKey → Prop
  | .forceStopBackups => False
  | .taskMeta id => owners.of id = tenant
  | _ => True

/-- A command of a start: it deletes the flag or writes another of its keys. -/
def StartCommand (owners : Owners) (tenant : TenantId) (c : Command) : Prop :=
  c = .delete .forceStopBackups ∨ ∀ k, c.writes = some k → StartKey owners tenant k

theorem start_commands (start : BackupStart) (hown : start.Own owners tenant) :
    (start.program env tenant).Always (StartCommand owners tenant) := by
  have hother : ∀ {ρ : Type} {p : Program ρ}, WritesIn (StartKey owners tenant) p →
      p.Always (StartCommand owners tenant) :=
    fun h => Prog.Always.respects h fun _ hc => .inr hc
  have hclear : clearGlobalForceStopFlag.Always (StartCommand owners tenant) := by
    have hread : WritesIn (StartKey owners tenant) isGlobalBackupStopEnabled := by
      apply (writesIn_get _).bind
      intro a
      split <;> trivial
    apply (hother hread).bind
    intro had
    split
    · exact ⟨.inl rfl, fun _ _ => trivial⟩
    · trivial
  cases start with
  | device id deviceId deviceName groupId =>
    apply hclear.bind
    intro _
    exact hother (writesIn_registerTask (fun _ => trivial) (fun _ => hown) ..)
  | batch r groupId id p =>
    apply hclear.bind
    intro _
    have hstart : WritesIn (StartKey owners tenant) (startBatch env r tenant groupId id p) :=
      writesIn_startBatch (fun _ => trivial) r tenant groupId (fun _ => hown.1)
        fun c hc _ => hown.2 c hc
    exact (hother hstart).bind fun _ => trivial
  | unregistered => exact hclear.bind fun _ => trivial

theorem stopInForce_frame {c : Command} (h : c.writes ≠ some .forceStopBackups) :
    (handle c s).2.stopInForce = s.stopInForce := by
  unfold Shared.stopInForce
  rw [handle_frame h]

theorem batchCancelled_frame {c : Command} {batch : TaskId}
    (h : batch ≠ "" → c.writes ≠ some (.taskMeta batch)) :
    (handle c s).2.batchCancelled batch = s.batchCancelled batch := by
  unfold Shared.batchCancelled Shared.taskMeta
  split
  next => rfl
  next hne => rw [doc_frame (h hne)]

/-- One command of a start keeps the pending stops, unless it deletes a flag that one of them
needs. -/
theorem startCommand_keepsStops {pending : TaskId → Prop} {c : Command}
    {next : c.Answer → Program Unit} (hpending : ∀ b, pending b → b = "" ∨ owners.of b ≠ tenant)
    (hc : StartCommand owners tenant c) :
    KeepsStops pending s (handle c s).2 ↔
      (DeletesFlag (.call c next) → s.stopInForce = true →
        ∀ b, pending b → s.batchCancelled b = true) := by
  simp only [KeepsStops, run_shouldStopNow, Bool.or_eq_true]
  rcases hc with rfl | hc
  · have hgone : (handle (.delete .forceStopBackups) s).2.stopInForce = false := by
      simp [Shared.stopInForce, handle]
    have hmarks : ∀ b, (handle (.delete .forceStopBackups) s).2.batchCancelled b =
        s.batchCancelled b := fun b => batchCancelled_frame fun _ => by simp [Command.writes]
    simp only [hgone, hmarks, Bool.false_eq_true, false_or]
    constructor
    · exact fun h _ hset b hb => h b hb (.inl hset)
    · intro h b hb hseen
      exact hseen.elim (fun hset => h ⟨next, rfl⟩ hset b hb) id
  · have hflag : (handle c s).2.stopInForce = s.stopInForce :=
      stopInForce_frame fun he => hc _ he
    constructor
    · rintro - ⟨next', hdelete⟩
      obtain ⟨rfl, -⟩ := Prog.call.inj hdelete
      exact (hc _ rfl).elim
    · intro _ b hb hseen
      have hmark : (handle c s).2.batchCancelled b = s.batchCancelled b :=
        batchCancelled_frame fun hne he =>
          (hpending b hb).elim hne fun hother => hother (hc _ he)
      rwa [hflag, hmark]

end Starts

/-! ## Locality -/

/-- **Cancelling is local exactly when it does nothing.** A request that is turned away leaves
every other tenant with the run that it would have had, an accepted one does not; and a start
keeps the stops that are pending exactly if it deletes no flag that one of them needs. -/
theorem cancelling_local (env : Env) (owners : Owners) (A B : TenantId) (hAB : A ≠ B) :
    (∀ (r : TaskRun) (q : CancelRequest),
      (q.Refused A r.shared → CancelIsLocal env owners A B r q) ∧
      (CancelIsLocal env owners A B r q → q.Refused A r.shared ∨ StopJustSet r.shared)) ∧
    ∀ (start : BackupStart) (pending : TaskId → Prop) (r : TaskRun) es r' r'',
      start.Own owners B → (∀ b, pending b → b = "" ∨ owners.of b = A) →
      exec (withGuest env owners) ⟨r, start.program env B⟩ es = some r' →
      withGuest env owners r' .guest = some r'' →
      (KeepsStops pending r'.host.shared r''.host.shared ↔
        (DeletesFlag r'.guest → r'.host.shared.stopInForce = true →
          ∀ b, pending b → r'.host.shared.batchCancelled b = true)) := by
  constructor
  · intro r q
    exact ⟨refused_isLocal, isLocal_refused⟩
  · intro start pending r es r' r'' hown hpending hrun hstep
    have hcommands := guest_always (@start_commands env _ _ start hown) hrun
    obtain ⟨c, next, hc, -, hhost⟩ := guestStep_guest hstep
    rw [hc] at hcommands ⊢
    rw [hhost]
    apply startCommand_keepsStops _ hcommands.1
    intro b hb
    exact (hpending b hb).imp_right fun hA hB => hAB (hA.symm.trans hB)

def twoOwners : Owners :=
  ⟨fun id => if id = "batch" then "a" else "b", fun id => by split <;> decide⟩

/-- A task of tenant `b` is running, and nothing is stopped. -/
def runningTaskStore : Shared :=
  { redis := ({} : Store RedisKey RedisValue).setex (.taskMeta "task") 60
      (.doc { tenantId := "b", status := some .running }) }

/-- Tenant `a` has cancelled its batch, and the flag is still set. -/
def cancelledBatchStore : Shared :=
  { redis := (({} : Store RedisKey RedisValue).setex .forceStopBackups 60 (.text "1")).setex
      (.taskMeta "batch") 60 (.doc { tenantId := "a", isBulk := true, cancelRequested := true }) }

def deviceStart : BackupStart := .device "task" "device" "OLT" ""

/-- The cancelled task stops the tasks of the other tenant, whose next start then lets the tasks
without a batch of the first tenant go on. -/
theorem cancelling_not_local :
    (¬ ∀ (env : Env) (owners : Owners) (A B : TenantId) (r : TaskRun) (q : CancelRequest),
      A ≠ B → CancelIsLocal env owners A B r q) ∧
    ¬ ∀ (env : Env) (owners : Owners) (A B : TenantId) (start : BackupStart)
      (pending : TaskId → Prop) (r : TaskRun) (es : List (GuestedEvent owners))
      (r' r'' : WithGuest), A ≠ B → start.Own owners B →
      (∀ b, pending b → b = "" ∨ owners.of b = A) →
      exec (withGuest env owners) ⟨r, start.program env B⟩ es = some r' →
      withGuest env owners r' .guest = some r'' →
      KeepsStops pending r'.host.shared r''.host.shared := by
  constructor
  · intro hall
    have hlocal := hall .ascii twoOwners "b" "a" { shared := runningTaskStore } (.task "task")
      (by decide)
    rcases isLocal_refused hlocal with hrefused | ⟨flag, hflag, -⟩
    · rcases hrefused with h | h
      · exact h rfl
      · exact nomatch h
    · exact nomatch hflag
  · intro hall
    have hkeeps := hall .ascii twoOwners "a" "b" deviceStart (· = "")
      { shared := cancelledBatchStore } [.guest] _ _ (by decide) rfl (fun b hb => .inl hb) rfl rfl
    exact nomatch hkeeps "" rfl rfl

/-- A request for a task of the other tenant is turned away; the start of tenant `b` leaves the
cancelled batch of tenant `a` marked. -/
theorem stranger_refused_and_mark_kept :
    CancelIsLocal .ascii twoOwners "a" "b" { shared := runningTaskStore } (.task "task") ∧
    ∃ r' r'', exec (withGuest .ascii twoOwners)
        ⟨{ shared := cancelledBatchStore }, deviceStart.program .ascii "b"⟩ [.guest] = some r' ∧
      withGuest .ascii twoOwners r' .guest = some r'' ∧
      KeepsStops (· = "batch") r'.host.shared r''.host.shared := by
  obtain ⟨hrequests, hstarts⟩ := cancelling_local .ascii twoOwners "a" "b" (by decide)
  constructor
  · exact (hrequests _ _).1 (.inl nofun)
  · refine ⟨_, _, rfl, rfl, (hstarts deviceStart (· = "batch") { shared := cancelledBatchStore }
      [.guest] _ _ rfl (fun b hb => .inr (hb ▸ rfl)) rfl rfl).mpr ?_⟩
    rintro - - b rfl
    rfl

end BackupCenter.Realtime
