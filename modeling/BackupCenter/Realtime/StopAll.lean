import BackupCenter.Realtime.BatchStart

/-!
# Stopping all backups

`_stop_backup_tasks_globally` of the schedules page: running tasks are chosen by their names, queued
ones by the queue they are in, and the batches that are not completed are marked.
-/
namespace BackupCenter.Realtime.StopAll

open BackupCenter.Lib BackupCenter.Tasks

/-! ## Tasks -/

/-- `QUEUE_NAMES` -/
def queueNames : List String := ["celery", "jump_queue", "vpn_queue"]

/-- `_is_backup_task_name` -/
def isBackupTaskName (name : String) : Bool :=
  "app.tasks.backups.".toList <+: name.toList ||
    "app.tasks.monitoring.run_device_connection_audit_task".toList <+: name.toList ||
    "app.tasks.monitoring.run_connection_test_task".toList <+: name.toList

/-- A task that waits in a queue. -/
structure Message where
  name : String
  id : TaskId
  deriving DecidableEq

/-- The `request` of an item. -/
structure Request where
  name : Option String
  id : Option String

/-- What `inspect` tells about a task of a worker. -/
structure Item where
  name : Option String
  id : Option String
  request : Option Request

/-- `first`, or what the request has where it is absent or empty. -/
def orOfRequest (first : Option String) (field : Request → Option String) (item : Item) : String :=
  if first.getD "" ≠ "" then first.getD "" else ((item.request.bind field).getD "")

def Item.taskName (item : Item) : String := orOfRequest item.name Request.name item

def Item.taskId (item : Item) : String := orOfRequest item.id Request.id item

/-- What a getter of `inspect` answers: the items of each worker, of which those that are no
dictionaries are `none`. -/
abbrev Report := Option (List (String × Option (List (Option Item))))

structure Inspection where
  active : Report
  reserved : Report
  scheduled : Report

/-- The items over which the loop goes; what is no dictionary has no name. -/
def items (report : Report) : List Item :=
  (report.getD []).flatMap fun worker => (worker.2.getD []).reduceOption

/-- A call of `control.revoke`. -/
structure Revocation where
  id : TaskId
  terminate : Bool

/-- The body of the loop over the items. -/
def revocation (running : Bool) (item : Item) : Option Revocation :=
  if !isBackupTaskName item.taskName then none
  else if item.taskId = "" then none
  else some ⟨item.taskId,
    running && !("run_vpn_group_backups_task".toList <:+ item.taskName.toList)⟩

def revocations (inspection : Inspection) : List Revocation :=
  (items inspection.active).filterMap (revocation true) ++
    (items inspection.reserved).filterMap (revocation false) ++
    (items inspection.scheduled).filterMap (revocation false)

/-! ## Queues and batches -/

/-- The lists of the broker. -/
abbrev Queues := String → List Message

/-- The loop over the queues, with the number of the messages removed. -/
def removeQueues (queues : Queues) : List String → Queues × Nat
  | [] => (queues, 0)
  | name :: rest =>
    let removed := (queues name).length
    let (queues, total) :=
      removeQueues (if 0 < removed then Function.update queues name [] else queues) rest
    (queues, removed + total)

/-- The loop over the metas, with the number of the batches that are marked. -/
def markBatches : List TaskId → Program Nat
  | [] => pure 0
  | id :: rest => do
    match ← Client.get (.taskMeta id) with
    | some (.doc m) =>
      if m.isBulk && !m.completed then do
        Client.setex (.taskMeta id) (60 * 60 * 48) (.doc (stoppedByOperator m))
        releaseTenantBulkLock m.tenantId id
        let marked ← markBatches rest
        return marked + 1
      else markBatches rest
    | _ => markBatches rest

structure Stats where
  matchedRuntimeTasks : Nat
  revokedRuntimeTasks : Nat
  removedQueuedTasks : Nat
  bulkMarkedStopped : Nat

structure Stopped where
  revoked : List Revocation
  queues : Queues
  shared : Shared
  stats : Stats

/-- `_stop_backup_tasks_globally`; `ids` is what the key scan yields. -/
def stopBackupTasksGlobally (inspection : Inspection) (ids : List TaskId) (queues : Queues)
    (s : Shared) : Stopped :=
  let revoked := revocations inspection
  let (queues, removed) := removeQueues queues ["celery", "vpn_queue"]
  let program : Program Nat := do
    Client.setex .forceStopBackups (60 * 30) (.text "1")
    markBatches ids
  let (marked, s) := program.run handle s
  { revoked, queues, shared := s
    stats := ⟨revoked.length, revoked.length, removed, marked⟩ }

/-! ## One batch -/

variable {s : Shared} {id : TaskId} {tenant : TenantId} {m : TaskMeta} {k : RedisKey}

/-- A batch that is not completed. -/
def IsOpen (s : Shared) (id : TaskId) : Prop :=
  ∃ m, s.doc id = some m ∧ m.isBulk = true ∧ m.completed = false

/-- The state after `release_tenant_bulk_lock`. -/
def release (s : Shared) (tenant : TenantId) (id : TaskId) : Shared :=
  ((releaseTenantBulkLock tenant id).run handle s).2

/-- The state after `setex` of the document of a batch that is stopped. -/
def record (s : Shared) (id : TaskId) (m : TaskMeta) : Shared :=
  { s with redis := s.redis.setex (.taskMeta id) (60 * 60 * 48) (.doc (stoppedByOperator m)) }

/-- What the loop does to one key. -/
def mark (s : Shared) (id : TaskId) : Shared :=
  match s.redis.get (.taskMeta id) with
  | some (.doc m) => if m.isBulk && !m.completed then release (record s id m) m.tenantId id else s
  | _ => s

theorem markBatches_run (ids : List TaskId) (s : Shared) :
    ((markBatches ids).run handle s).2 = ids.foldl mark s := by
  induction ids generalizing s with
  | nil => rfl
  | cons id rest ih =>
    rw [List.foldl_cons, markBatches, Prog.run_bind, run_get, mark]
    dsimp only
    cases s.redis.get (.taskMeta id) with
    | none => exact ih s
    | some value =>
      cases value with
      | text t => exact ih s
      | doc m =>
        dsimp only
        split
        · rw [Prog.run_bind, Prog.run_bind, Prog.run_bind]
          exact ih _
        · exact ih s

/-- Only the lock of the tenant may change, and it may only be let go. -/
theorem release_cases (s : Shared) (tenant : TenantId) (id : TaskId) :
    release s tenant id = s ∨
      release s tenant id = { s with redis := s.redis.delete (.tenantActiveBulk tenant) } := by
  unfold release releaseTenantBulkLock
  split
  · exact .inl rfl
  · rw [Prog.run_bind, run_get]
    dsimp only
    split
    · split
      · exact .inl rfl
      · exact .inr rfl
    · exact .inr rfl

/-- The lock of a batch is let go. -/
theorem release_own (htenant : tenant ≠ "") (h : s.lockOwner tenant = some (.text id)) :
    (release s tenant id).lockOwner tenant = none := by
  unfold Shared.lockOwner at h
  unfold release releaseTenantBulkLock
  rw [if_neg htenant, Prog.run_bind, run_get, h]
  dsimp only
  rw [if_neg fun hother => hother.2.2 rfl]
  exact Store.get_delete_self

theorem get_release (hk : k ≠ .tenantActiveBulk tenant) :
    (release s tenant id).redis.get k = s.redis.get k := by
  rcases release_cases s tenant id with h | h
  · rw [h]
  · rw [h]
    exact Store.get_delete_ne hk

theorem lockOwner_release (other : TenantId) :
    (release s tenant id).lockOwner other = s.lockOwner other ∨
      (release s tenant id).lockOwner other = none := by
  rcases release_cases s tenant id with h | h
  · exact .inl (by rw [h])
  · rw [h]
    by_cases hother : other = tenant
    · exact .inr (hother ▸ Store.get_delete_self)
    · exact .inl (Store.get_delete_ne fun he => hother (RedisKey.tenantActiveBulk.inj he))

/-! ## What a mark changes -/

theorem mark_open (h : s.doc id = some m) (hbulk : m.isBulk = true) (hopen : m.completed = false) :
    mark s id = release (record s id m) m.tenantId id := by
  rw [mark, Shared.doc_eq_some.mp h]
  dsimp only
  rw [hbulk, hopen]
  rfl

theorem mark_closed (h : ¬ IsOpen s id) : mark s id = s := by
  unfold mark
  split
  next m hm =>
    refine if_neg fun hopen => h ⟨m, Shared.doc_eq_some.mpr hm, ?_⟩
    simpa using hopen
  next => rfl

/-- A batch that was open is stopped. -/
theorem doc_mark_open (h : s.doc id = some m) (hbulk : m.isBulk = true)
    (hopen : m.completed = false) : (mark s id).doc id = some (stoppedByOperator m) := by
  rw [mark_open h hbulk hopen, Shared.doc_eq_some,
    get_release (k := .taskMeta id) nofun]
  exact Store.get_setex_self (by decide)

/-- Another meta is left alone. -/
theorem get_mark_ne {other : TaskId} (hne : other ≠ id) :
    (mark s id).redis.get (.taskMeta other) = s.redis.get (.taskMeta other) := by
  by_cases hopen : IsOpen s id
  · obtain ⟨m, hm, hbulk, hopen⟩ := hopen
    rw [mark_open hm hbulk hopen, get_release (k := .taskMeta other) nofun]
    exact Store.get_setex_ne fun he => hne (RedisKey.taskMeta.inj he)
  · rw [mark_closed hopen]

theorem lockOwner_mark (tenant : TenantId) :
    (mark s id).lockOwner tenant = s.lockOwner tenant ∨ (mark s id).lockOwner tenant = none := by
  by_cases hopen : IsOpen s id
  · obtain ⟨m, hm, hbulk, hopen⟩ := hopen
    have hrecord : (record s id m).lockOwner tenant = s.lockOwner tenant :=
      Store.get_setex_ne nofun
    rw [mark_open hm hbulk hopen, ← hrecord]
    exact lockOwner_release tenant
  · exact .inl (by rw [mark_closed hopen])

theorem lockOwner_mark_own (h : s.doc id = some m) (hbulk : m.isBulk = true)
    (hopen : m.completed = false) (htenant : m.tenantId ≠ "")
    (howner : s.lockOwner m.tenantId = some (.text id)) :
    (mark s id).lockOwner m.tenantId = none := by
  rw [mark_open h hbulk hopen]
  refine release_own htenant ?_
  rw [← howner]
  exact Store.get_setex_ne nofun

/-! ## The loop -/

theorem doc_of_get {t : Shared} {id : TaskId}
    (h : s.redis.get (.taskMeta id) = t.redis.get (.taskMeta id)) : s.doc id = t.doc id := by
  rw [Shared.doc, Shared.doc, h]

theorem isOpen_congr {t : Shared} {id : TaskId}
    (h : s.redis.get (.taskMeta id) = t.redis.get (.taskMeta id)) : IsOpen s id ↔ IsOpen t id := by
  rw [IsOpen, IsOpen, doc_of_get h]

/-- A meta that is no open batch is left alone by the whole loop. -/
theorem get_marked_closed (ids : List TaskId) (h : ¬ IsOpen s id) :
    (ids.foldl mark s).redis.get (.taskMeta id) = s.redis.get (.taskMeta id) := by
  induction ids generalizing s with
  | nil => rfl
  | cons other rest ih =>
    have hkept : (mark s other).redis.get (.taskMeta id) = s.redis.get (.taskMeta id) := by
      by_cases hother : id = other
      · rw [← hother, mark_closed h]
      · exact get_mark_ne hother
    rw [List.foldl_cons, ih (mt (isOpen_congr hkept).mp h), hkept]

/-- An open batch whose key the scan yields is stopped. -/
theorem doc_marked_open {ids : List TaskId} (hid : id ∈ ids) (h : s.doc id = some m)
    (hbulk : m.isBulk = true) (hopen : m.completed = false) :
    (ids.foldl mark s).doc id = some (stoppedByOperator m) := by
  induction ids generalizing s with
  | nil => exact absurd hid List.not_mem_nil
  | cons other rest ih =>
    rw [List.foldl_cons]
    by_cases hother : id = other
    · have hstopped := doc_mark_open h hbulk hopen
      rw [← hother, ← hstopped]
      refine doc_of_get (get_marked_closed rest ?_)
      rintro ⟨m', hm', -, hopen'⟩
      obtain rfl := Option.some.inj (hstopped.symm.trans hm')
      exact absurd hopen' (by simp [stoppedByOperator])
    · exact ih ((List.mem_cons.mp hid).resolve_left hother)
        ((doc_of_get (get_mark_ne hother)).trans h)

theorem lockOwner_marked (ids : List TaskId) (tenant : TenantId) :
    (ids.foldl mark s).lockOwner tenant = s.lockOwner tenant ∨
      (ids.foldl mark s).lockOwner tenant = none := by
  induction ids generalizing s with
  | nil => exact .inl rfl
  | cons other rest ih =>
    rw [List.foldl_cons]
    rcases @ih (mark s other) with hrest | hrest
    · rw [hrest]
      exact lockOwner_mark tenant
    · exact .inr hrest

/-- The lock that a batch of the scan holds is let go. -/
theorem lockOwner_marked_own {ids : List TaskId} (hid : id ∈ ids) (h : s.doc id = some m)
    (hbulk : m.isBulk = true) (hopen : m.completed = false) (htenant : m.tenantId ≠ "")
    (howner : s.lockOwner m.tenantId = some (.text id)) :
    (ids.foldl mark s).lockOwner m.tenantId = none := by
  induction ids generalizing s with
  | nil => exact absurd hid List.not_mem_nil
  | cons other rest ih =>
    rw [List.foldl_cons]
    have hgone (hnone : (mark s other).lockOwner m.tenantId = none) :
        (rest.foldl mark (mark s other)).lockOwner m.tenantId = none :=
      (lockOwner_marked rest m.tenantId).elim (·.trans hnone) (·)
    by_cases hother : id = other
    · exact hgone (hother ▸ lockOwner_mark_own h hbulk hopen htenant howner)
    · rcases @lockOwner_mark s other m.tenantId with hkept | hnone
      · exact ih ((List.mem_cons.mp hid).resolve_left hother)
          ((doc_of_get (get_mark_ne hother)).trans h) (hkept.trans howner)
      · exact hgone hnone

/-! ## The queues -/

theorem removeQueues_apply (queues : Queues) (names : List String) (name : String) :
    (removeQueues queues names).1 name = if name ∈ names then [] else queues name := by
  induction names generalizing queues with
  | nil => rfl
  | cons first rest ih =>
    rw [removeQueues]
    dsimp only
    rw [ih]
    by_cases hrest : name ∈ rest
    · rw [if_pos hrest, if_pos (List.mem_cons_of_mem _ hrest)]
    rw [if_neg hrest]
    by_cases hname : name = first
    · have hmem : name ∈ first :: rest := hname ▸ List.mem_cons_self
      rw [if_pos hmem, ← hname]
      split
      · exact Function.update_self ..
      next hempty => exact List.length_eq_zero_iff.mp (Nat.eq_zero_of_not_pos hempty)
    · have hmem : name ∉ first :: rest := fun hmem => (List.mem_cons.mp hmem).elim hname hrest
      rw [if_neg hmem]
      split
      · exact Function.update_of_ne hname ..
      · rfl

/-! ## The promise -/

/-- A task that a worker runs, has reserved or has scheduled. -/
def AtWorker (inspection : Inspection) (task : Message) : Prop :=
  ∃ item ∈ items inspection.active ++ items inspection.reserved ++ items inspection.scheduled,
    task = ⟨item.taskName, item.taskId⟩

def Present (inspection : Inspection) (queues : Queues) (task : Message) : Prop :=
  (∃ name ∈ queueNames, task ∈ queues name) ∨ AtWorker inspection task

/-- The backups and nothing else is stopped. -/
structure StopsBackups (inspection : Inspection) (queues : Queues) (s : Shared)
    (stopped : Stopped) : Prop where
  none_queued : ∀ name ∈ queueNames, ∀ task ∈ stopped.queues name,
    isBackupTaskName task.name = false
  others_queued : ∀ name, (stopped.queues name).filter (!isBackupTaskName ·.name) =
    (queues name).filter (!isBackupTaskName ·.name)
  not_revoked : ∀ task, Present inspection queues task → isBackupTaskName task.name = false →
    ∀ r ∈ stopped.revoked, r.id ≠ task.id
  batches : ∀ id m, s.doc id = some m → m.isBulk = true → m.completed = false →
    ∃ m', stopped.shared.doc id = some m' ∧ m'.completed = true ∧ m'.cancelRequested = true
  locks : ∀ id m, s.doc id = some m → m.isBulk = true → m.completed = false → m.tenantId ≠ "" →
    s.lockOwner m.tenantId = some (.text id) → stopped.shared.lockOwner m.tenantId = none
  other_metas : ∀ id, ¬ IsOpen s id →
    stopped.shared.redis.get (.taskMeta id) = s.redis.get (.taskMeta id)

/-- The queues that are removed have backups only and the other one none, and no other task has the
id of a backup that a worker has. -/
structure Sorted (inspection : Inspection) (queues : Queues) : Prop where
  removed : ∀ name ∈ ["celery", "vpn_queue"], ∀ task ∈ queues name,
    isBackupTaskName task.name = true
  kept : ∀ task ∈ queues "jump_queue", isBackupTaskName task.name = false
  ids : ∀ backup, AtWorker inspection backup → isBackupTaskName backup.name = true →
    backup.id ≠ "" → ∀ task, Present inspection queues task →
      isBackupTaskName task.name = false → backup.id ≠ task.id

/-- What is revoked is a backup that a worker has. -/
theorem revoked_iff {inspection : Inspection} {id : TaskId} :
    (∃ r ∈ revocations inspection, r.id = id) ↔ ∃ backup, AtWorker inspection backup ∧
      isBackupTaskName backup.name = true ∧ backup.id ≠ "" ∧ backup.id = id := by
  have hbody (running : Bool) (list : List Item) :
      (∃ r ∈ list.filterMap (revocation running), r.id = id) ↔ ∃ item ∈ list,
        isBackupTaskName item.taskName = true ∧ item.taskId ≠ "" ∧ item.taskId = id := by
    constructor
    · rintro ⟨r, hr, rfl⟩
      obtain ⟨item, hitem, hr⟩ := List.mem_filterMap.mp hr
      unfold revocation at hr
      split at hr
      · cases hr
      next hname =>
        split at hr
        · cases hr
        next hid =>
          obtain rfl := Option.some.inj hr
          exact ⟨item, hitem, by simpa using hname, hid, rfl⟩
    · rintro ⟨item, hitem, hname, hid, rfl⟩
      let r : Revocation := ⟨item.taskId,
        running && !("run_vpn_group_backups_task".toList <:+ item.taskName.toList)⟩
      refine ⟨r, List.mem_filterMap.mpr ⟨item, hitem, ?_⟩, rfl⟩
      unfold revocation
      rw [hname, if_neg (by decide), if_neg hid]
  have hall : (∃ r ∈ revocations inspection, r.id = id) ↔
      ∃ item ∈ items inspection.active ++ items inspection.reserved ++ items inspection.scheduled,
        isBackupTaskName item.taskName = true ∧ item.taskId ≠ "" ∧ item.taskId = id := by
    simp only [revocations, List.mem_append, or_and_right, exists_or, hbody]
  rw [hall]
  constructor
  · rintro ⟨item, hitem, hname, hid, he⟩
    exact ⟨⟨item.taskName, item.taskId⟩, ⟨item, hitem, rfl⟩, hname, hid, he⟩
  · rintro ⟨-, ⟨item, hitem, rfl⟩, hname, hid, he⟩
    exact ⟨item, hitem, hname, hid, he⟩

/-- Whatever the tasks and the metas are, the backups and nothing else is stopped if and only if the
tasks are sorted into the queues in this way. -/
theorem stopsBackups_iff {inspection : Inspection} {ids : List TaskId} {queues : Queues}
    {s : Shared} (hscan : ∀ id, s.redis.get (.taskMeta id) ≠ none → id ∈ ids) :
    StopsBackups inspection queues s (stopBackupTasksGlobally inspection ids queues s) ↔
      Sorted inspection queues := by
  have hqueues (name : String) :
      (stopBackupTasksGlobally inspection ids queues s).queues name =
        if name ∈ ["celery", "vpn_queue"] then [] else queues name :=
    removeQueues_apply queues ["celery", "vpn_queue"] name
  have hrevoked : (stopBackupTasksGlobally inspection ids queues s).revoked =
      revocations inspection := rfl
  let flagged : Shared :=
    { s with redis := s.redis.setex .forceStopBackups (60 * 30) (.text "1") }
  have hshared : (stopBackupTasksGlobally inspection ids queues s).shared =
      ids.foldl mark flagged := markBatches_run ids flagged
  have hflag {k : RedisKey} (hk : k ≠ .forceStopBackups) :
      flagged.redis.get k = s.redis.get k := Store.get_setex_ne hk
  have hdoc (id : TaskId) : flagged.doc id = s.doc id := doc_of_get (hflag nofun)
  have hid {id : TaskId} {m : TaskMeta} (h : s.doc id = some m) : id ∈ ids :=
    hscan id (by rw [Shared.doc_eq_some.mp h]; exact nofun)
  have hnot {task : Message} : (!isBackupTaskName task.name) = true ↔
      isBackupTaskName task.name = false := by simp
  constructor
  · intro h
    refine ⟨fun name hname task htask => ?_, fun task htask => ?_, ?_⟩
    · by_contra hother
      have hkept := h.others_queued name
      rw [hqueues, if_pos hname] at hkept
      have hmem : task ∈ (queues name).filter (!isBackupTaskName ·.name) :=
        List.mem_filter.mpr ⟨htask, hnot.mpr (Bool.eq_false_iff.mpr hother)⟩
      rw [← hkept] at hmem
      exact absurd hmem List.not_mem_nil
    · refine h.none_queued "jump_queue" (by decide) task ?_
      rw [hqueues, if_neg (by decide)]
      exact htask
    · intro backup hbackup hname hne task htask hother he
      obtain ⟨r, hr, hrid⟩ := revoked_iff.mpr ⟨backup, hbackup, hname, hne, he⟩
      exact h.not_revoked task htask hother r hr hrid
  · intro h
    refine ⟨fun name hname task htask => ?_, fun name => ?_, ?_, ?_, ?_, ?_⟩
    · rw [hqueues] at htask
      split at htask
      · exact absurd htask List.not_mem_nil
      next hkept =>
        have hjump : name = "jump_queue" := by
          simp only [queueNames, List.mem_cons, List.not_mem_nil, or_false] at hname hkept
          tauto
        exact h.kept task (hjump ▸ htask)
    · rw [hqueues]
      split
      next hremoved =>
        refine (List.filter_eq_nil_iff.mpr fun task htask => ?_).symm
        rw [h.removed name hremoved task htask]
        decide
      next => rfl
    · intro task htask hother r hr hrid
      obtain ⟨backup, hbackup, hname, hne, he⟩ := revoked_iff.mp ⟨r, hrevoked ▸ hr, hrid⟩
      exact h.ids backup hbackup hname hne task htask hother he
    · intro id m hm hbulk hopen
      rw [hshared]
      exact ⟨_, doc_marked_open (hid hm) ((hdoc id).trans hm) hbulk hopen, rfl, rfl⟩
    · intro id m hm hbulk hopen htenant howner
      rw [hshared]
      exact lockOwner_marked_own (hid hm) ((hdoc id).trans hm) hbulk hopen htenant
        ((hflag (k := .tenantActiveBulk m.tenantId) nofun).trans howner)
    · intro id hclosed
      rw [hshared, get_marked_closed ids (mt (isOpen_congr (hflag nofun)).mp hclosed)]
      exact hflag nofun

/-! ## A backup that waits for a jump host -/

def idle : Inspection := ⟨none, none, none⟩

/-- One backup in the queue of the jump hosts. -/
def jumpBackup : Queues :=
  Function.update (fun _ => []) "jump_queue" [⟨"app.tasks.backups.run_backup_task", "1"⟩]

theorem stopsBackups_iff_jump :
    StopsBackups idle jumpBackup {} (stopBackupTasksGlobally idle [] jumpBackup {}) ↔
      Sorted idle jumpBackup :=
  stopsBackups_iff fun _ h => absurd rfl h

/-- The queue of the jump hosts is not among those that are removed. -/
theorem jump_backup_left : ¬ ∀ inspection ids queues s,
    (∀ id, s.redis.get (.taskMeta id) ≠ none → id ∈ ids) →
      StopsBackups inspection queues s (stopBackupTasksGlobally inspection ids queues s) := by
  intro h
  have hstops := h idle [] jumpBackup {} fun _ h => absurd rfl h
  have hleft : isBackupTaskName "app.tasks.backups.run_backup_task" = false :=
    hstops.none_queued "jump_queue" (by decide) ⟨"app.tasks.backups.run_backup_task", "1"⟩
      (by decide)
  exact absurd hleft (by decide)

end BackupCenter.Realtime.StopAll
