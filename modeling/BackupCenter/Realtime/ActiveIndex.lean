import BackupCenter.Realtime.TenantLock

/-!
# The scheduler's view of running batches

Before it enqueues anything the scheduler looks for a running batch, and it finds one only
through the active-bulk keys of the tenants. A batch whose meta says that it runs is seen as
long as the key of its tenant names it.
-/
namespace BackupCenter.Realtime

open BackupCenter.Lib BackupCenter.Tasks BackupCenter.Bulk

/-- The times in a meta besides that of the last child. -/
structure Stamps where
  createdAt : Option Timestamp := none
  updatedAt : Option Timestamp := none

/-- The latest known activity of a batch. -/
def latestActivity (m : TaskMeta) (stamps : Stamps) : Option Timestamp :=
  [m.lastChildActivityAt, stamps.updatedAt, stamps.createdAt].reduceOption.max?

/-- The last known activity is more than `limit` seconds old. -/
def staleAt (now limit : Nat) (m : TaskMeta) (stamps : Stamps) : Bool :=
  (latestActivity m stamps).any fun latest => decide (latest + limit < now)

/-- What is not stale was not stale before. -/
theorem staleAt_earlier {now now' limit : Nat} {m : TaskMeta} {stamps : Stamps} (h : now ≤ now')
    (hfresh : staleAt now' limit m stamps = false) : staleAt now limit m stamps = false := by
  unfold staleAt at hfresh ⊢
  cases hlatest : latestActivity m stamps with
  | none => rfl
  | some latest =>
    rw [hlatest] at hfresh
    simp only [Option.any_some, decide_eq_false_iff_not] at hfresh ⊢
    omega

/-- `_has_active_bulk_operation`, where `stale` may look at all that is stored for the id. -/
def scanActiveBulk (stale : TaskId → TaskMeta → Bool) : List TenantId → Program Bool
  | [] => pure false
  | tenant :: rest => do
    match ← Client.get (.tenantActiveBulk tenant) with
    | some (.text id) =>
      if id = "" then do
        Client.delete (.tenantActiveBulk tenant)
        scanActiveBulk stale rest
      else
        match ← Client.get (.taskMeta id) with
        | some (.doc m) =>
          if !m.isBulk || m.completed then do
            Client.delete (.tenantActiveBulk tenant)
            scanActiveBulk stale rest
          else if m.operationKind = some .connectionAudit then scanActiveBulk stale rest
          else if stale id m then do
            Client.delete (.tenantActiveBulk tenant)
            scanActiveBulk stale rest
          else return true
        | _ => do
          Client.delete (.tenantActiveBulk tenant)
          scanActiveBulk stale rest
    | _ => do
      Client.delete (.tenantActiveBulk tenant)
      scanActiveBulk stale rest

/-- The scheduler's call in a run is the case in which the meta alone says who is stale. -/
theorem hasActiveBulkOperation_eq (stale : TaskMeta → Bool) (tenants : List TenantId) :
    hasActiveBulkOperation stale tenants = scanActiveBulk (fun _ => stale) tenants := by
  induction tenants with
  | nil => rfl
  | cons tenant rest ih =>
    unfold hasActiveBulkOperation scanActiveBulk
    exact ih ▸ rfl

/-- What `run_scheduled_backups` decides before it reads the database. -/
inductive ScheduledRun where
  | blockedByForceStop
  | blockedByRunningBulk
  | unblocked
  deriving DecidableEq

def scheduledRunGuard (stale : TaskId → TaskMeta → Bool) (tenants : List TenantId) :
    Program ScheduledRun := do
  if ← isGlobalBackupStopEnabled then return .blockedByForceStop
  else if ← scanActiveBulk stale tenants then return .blockedByRunningBulk
  else return .unblocked

/-- What `run_scheduled_backups` enqueues, if `due` is what it would enqueue unblocked. -/
def runScheduledBackups {α : Type} (stale : TaskId → TaskMeta → Bool) (tenants : List TenantId)
    (due : List α) : Program (List α) := do
  match ← scheduledRunGuard stale tenants with
  | .unblocked => return due
  | _ => return []

/-- The flag is set. -/
def Shared.stopInForce (s : Shared) : Bool :=
  match s.redis.get .forceStopBackups with
  | some (.text flag) => strip flag == "1"
  | _ => false

theorem run_isGlobalBackupStopEnabled (s : Shared) :
    isGlobalBackupStopEnabled.run handle s = (s.stopInForce, s) := by
  unfold isGlobalBackupStopEnabled
  rw [Prog.run_bind]
  show Prog.run handle (match s.redis.get .forceStopBackups with
    | some (.text flag) => pure (strip flag == "1")
    | _ => pure false) s = (s.stopInForce, s)
  unfold Shared.stopInForce
  rcases s.redis.get .forceStopBackups with _ | m | t <;> rfl

/-! ## What the scan finds -/

/-- The meta of an uncompleted backup batch that is not stale. -/
def RunsBackup (stale : TaskId → TaskMeta → Bool) (id : TaskId) (m : TaskMeta) : Prop :=
  m.isBulk = true ∧ m.completed = false ∧ m.operationKind ≠ some .connectionAudit ∧
    stale id m = false

instance (stale : TaskId → TaskMeta → Bool) (id : TaskId) (m : TaskMeta) :
    Decidable (RunsBackup stale id m) :=
  inferInstanceAs (Decidable (_ ∧ _ ∧ _ ∧ _))

/-- The key of the tenant names a batch that runs. -/
def NamesRunning (stale : TaskId → TaskMeta → Bool) (s : Shared) (tenant : TenantId) : Prop :=
  ∃ id m, id ≠ "" ∧ s.lockOwner tenant = some (.text id) ∧ s.doc id = some m ∧
    RunsBackup stale id m

section Scan

variable {stale : TaskId → TaskMeta → Bool} {s : Shared} {tenant : TenantId}

/-- Deleting a key that names no running batch changes nothing for the others. -/
theorem namesRunning_delete (h : ¬ NamesRunning stale s tenant) (t : TenantId) :
    NamesRunning stale { s with redis := s.redis.delete (.tenantActiveBulk tenant) } t ↔
      NamesRunning stale s t := by
  have hdoc : ∀ id, Shared.doc { s with redis := s.redis.delete (.tenantActiveBulk tenant) } id =
      s.doc id := fun id => by
    rw [Shared.doc, Shared.doc, Store.get_delete_ne (by simp)]
  by_cases ht : t = tenant
  · subst ht
    refine iff_of_false ?_ h
    rintro ⟨id, m, -, hnamed, -⟩
    rw [Shared.lockOwner] at hnamed
    simp at hnamed
  · have hlock : Shared.lockOwner { s with redis := s.redis.delete (.tenantActiveBulk tenant) } t =
        s.lockOwner t := Store.get_delete_ne (by simpa using ht)
    unfold NamesRunning
    simp only [hlock, hdoc]

/-- **The scan** finds a batch exactly if one of the keys names a running one. -/
theorem run_scanActiveBulk (tenants : List TenantId) :
    ((scanActiveBulk stale tenants).run handle s).1 = true ↔
      ∃ t ∈ tenants, NamesRunning stale s t := by
  induction tenants generalizing s with
  | nil => simp [scanActiveBulk, Prog.run]
  | cons tenant rest ih =>
    have hskip : ¬ NamesRunning stale s tenant →
        (((scanActiveBulk stale rest).run handle s).1 = true ↔
          ∃ t ∈ tenant :: rest, NamesRunning stale s t) := by
      intro hnot
      rw [ih]
      simp [hnot]
    have hdelete : ¬ NamesRunning stale s tenant →
        (((scanActiveBulk stale rest).run handle
          { s with redis := s.redis.delete (.tenantActiveBulk tenant) }).1 = true ↔
          ∃ t ∈ tenant :: rest, NamesRunning stale s t) := by
      intro hnot
      rw [ih]
      simp [namesRunning_delete hnot, hnot]
    have hnamed : ∀ {id : TaskId}, s.redis.get (.tenantActiveBulk tenant) = some (.text id) →
        (∀ m, s.redis.get (.taskMeta id) = some (.doc m) → ¬ RunsBackup stale id m) →
        ¬ NamesRunning stale s tenant := by
      rintro id hlock hnot ⟨id', m, -, hlock', hdoc, hruns⟩
      obtain rfl := RedisValue.text.inj (Option.some.inj (hlock.symm.trans hlock'))
      exact hnot m (Shared.doc_eq_some.mp hdoc) hruns
    unfold scanActiveBulk
    rw [Prog.run_bind, run_get]
    dsimp only
    rcases hlock : s.redis.get (.tenantActiveBulk tenant) with _ | m | id
    · exact hdelete fun ⟨id, _, _, hid, _⟩ => nomatch hlock.symm.trans hid
    · exact hdelete fun ⟨id, _, _, hid, _⟩ => nomatch hlock.symm.trans hid
    · dsimp only
      split_ifs with hid
      · exact hdelete fun ⟨id', _, hne, hid', _⟩ =>
          hne ((RedisValue.text.inj (Option.some.inj (hlock.symm.trans hid'))).symm.trans hid)
      · rw [Prog.run_bind, run_get]
        dsimp only
        rcases hdoc : s.redis.get (.taskMeta id) with _ | m | t
        · exact hdelete (hnamed hlock fun m hm => nomatch hdoc.symm.trans hm)
        · have hmeta : ¬ RunsBackup stale id m → ¬ NamesRunning stale s tenant := by
            intro hnot
            apply hnamed hlock
            intro m' hm'
            obtain rfl := RedisValue.doc.inj (Option.some.inj (hdoc.symm.trans hm'))
            exact hnot
          dsimp only
          split_ifs with hended haudit hstale
          · apply hdelete (hmeta fun hruns => ?_)
            rw [hruns.1, hruns.2.1] at hended
            cases hended
          · exact hskip (hmeta fun hruns => hruns.2.2.1 haudit)
          · apply hdelete (hmeta fun hruns => ?_)
            exact nomatch hstale.symm.trans hruns.2.2.2
          · simp only [Bool.or_eq_true, Bool.not_eq_true', not_or, Bool.not_eq_false,
              Bool.not_eq_true] at hended
            constructor
            · intro _
              exact ⟨tenant, List.mem_cons_self .., id, m, hid, hlock, Shared.doc_eq_some.mpr hdoc,
                hended.1, hended.2, haudit, Bool.not_eq_true _ ▸ hstale⟩
            · exact fun _ => rfl
        · exact hdelete (hnamed hlock fun m hm => nomatch hdoc.symm.trans hm)

/-- A run that finds a batch enqueues nothing. -/
theorem run_runScheduledBackups {α : Type} {tenants : List TenantId}
    (h : ((scanActiveBulk stale tenants).run handle s).1 = true) (due : List α) :
    ((runScheduledBackups stale tenants due).run handle s).1 = [] := by
  have hguard : ((scheduledRunGuard stale tenants).run handle s).1 ≠ .unblocked := by
    unfold scheduledRunGuard
    rw [Prog.run_bind, run_isGlobalBackupStopEnabled]
    cases s.stopInForce
    · show (Prog.run handle (scanActiveBulk stale tenants >>= _) s).1 ≠ _
      rw [Prog.run_bind, h]
      exact ScheduledRun.noConfusion
    · exact ScheduledRun.noConfusion
  unfold runScheduledBackups
  rw [Prog.run_bind]
  cases hrun : ((scheduledRunGuard stale tenants).run handle s).1 with
  | unblocked => exact absurd hrun hguard
  | blockedByForceStop => rfl
  | blockedByRunningBulk => rfl

end Scan

/-! ## Runs -/

/-- A run of the calls, with the stamps that were written with each meta. -/
structure StampedRun where
  run : TenantRun
  stamps : TaskId → Stamps := fun _ => {}

/-- The meta that the command writes, if it writes one. -/
def Command.storesMeta : Command → Option TaskId
  | .setex (.taskMeta id) _ _ => some id
  | _ => none

def StampedRun.storesMeta (r : StampedRun) : ClientEvent TenantCall Surroundings → Option TaskId
  | .advance i =>
    match r.run.clients[i]? with
    | some (.call c _) => c.storesMeta
    | _ => none
  | _ => none

/-- The stamps of the metas once one of them is written. -/
def stampsAfter (written : Stamps) (stamps : TaskId → Stamps) : Option TaskId → TaskId → Stamps
  | some id => Function.update stamps id written
  | none => stamps

/-- One step; the stamps of the event are those of the meta that it writes. -/
def stampedStep (env : Env) (r : StampedRun) :
    ClientEvent TenantCall Surroundings × Stamps → Option StampedRun
  | (e, written) => (clientStep (tenantSemantics env) r.run e).map fun run =>
    { run := run, stamps := stampsAfter written r.stamps (r.storesMeta e) }

/-- What is stale now. -/
def StampedRun.stale (limit : Nat) (r : StampedRun) (id : TaskId) (m : TaskMeta) : Bool :=
  staleAt r.run.shared.redis.now limit m (r.stamps id)

/-- The meta of a batch that runs now. -/
def StampedRun.Running (limit : Nat) (r : StampedRun) (id : TaskId) (m : TaskMeta) : Prop :=
  r.run.shared.doc id = some m ∧ RunsBackup (r.stale limit) id m

def StampedRun.runsNow (limit : Nat) (r : StampedRun) (id : TaskId) : Bool :=
  (r.run.shared.doc id).any fun m => decide (RunsBackup (r.stale limit) id m)

theorem runsNow_iff {limit : Nat} {r : StampedRun} {id : TaskId} :
    r.runsNow limit id = true ↔ ∃ m, r.Running limit id m := by
  unfold StampedRun.runsNow StampedRun.Running
  simp only [Option.any_eq_true, decide_eq_true_eq]

/-- Every batch that runs is named by the key of its tenant. -/
def IndexComplete (limit : Nat) (r : StampedRun) : Prop :=
  ∀ id m, r.Running limit id m →
    id ≠ "" ∧ r.run.shared.lockOwner m.tenantId = some (.text id)

/-- The command names every running batch: the meta of one is written while the key of its
tenant names it, and the key of a tenant is neither deleted nor given to another batch while
one of the tenant runs. -/
def NamesBatches (limit : Nat) (r : StampedRun) (written : Stamps) : Command → Prop
  | .setex (.taskMeta b) _ (.doc m) =>
    RunsBackup (fun _ m => staleAt r.run.shared.redis.now limit m written) b m →
      b ≠ "" ∧ r.run.shared.lockOwner m.tenantId = some (.text b)
  | .setex (.tenantActiveBulk t) _ v =>
    ∀ id m, r.Running limit id m → m.tenantId = t → v = .text id
  | .delete (.tenantActiveBulk t) => ∀ id m, r.Running limit id m → m.tenantId ≠ t
  | _ => True

/-- Each step keeps the index complete, and no key lapses before its batch. -/
def KeepsIndex (limit : Nat) (r : StampedRun) :
    ClientEvent TenantCall Surroundings × Stamps → Prop
  | (.advance i, written) =>
    match r.run.clients[i]? with
    | some (.call c _) => NamesBatches limit r written c
    | _ => True
  | (.env (.tick d), _) => ∀ id m, r.Running limit id m →
      RunsBackup (fun id m => staleAt (r.run.shared.redis.now + d) limit m (r.stamps id)) id m →
      (r.run.shared.redis.tick d).get (.taskMeta id) ≠ none →
      (r.run.shared.redis.tick d).get (.tenantActiveBulk m.tenantId) ≠ none
  | _ => True

section Steps

variable {env : Env} {limit : Nat} {r : StampedRun} {written : Stamps} {c : Command}

theorem IndexComplete.of_running {r' : StampedRun} (h : IndexComplete limit r)
    (hrun : ∀ id m, r'.Running limit id m → r.Running limit id m ∧
      r'.run.shared.lockOwner m.tenantId = r.run.shared.lockOwner m.tenantId) :
    IndexComplete limit r' := by
  intro id m hr'
  obtain ⟨hr, hlock⟩ := hrun id m hr'
  rw [hlock]
  exact h id m hr

/-- The run in which the command was executed. -/
def StampedRun.after (r : StampedRun) (c : Command) (written : Stamps)
    (clients : List (Program Reply)) : StampedRun where
  run := { shared := (handle c r.run.shared).2, clients := clients }
  stamps := stampsAfter written r.stamps c.storesMeta

/-- A command that does not write the meta of a batch leaves the batch as it is. -/
theorem running_after {clients : List (Program Reply)} {id : TaskId} {m : TaskMeta}
    (h : c.writes ≠ some (.taskMeta id)) :
    (r.after c written clients).Running limit id m ↔ r.Running limit id m := by
  have hstamps : stampsAfter written r.stamps c.storesMeta id = r.stamps id := by
    unfold Command.storesMeta
    split
    next b ttl v =>
      apply Function.update_of_ne
      rintro rfl
      exact h rfl
    next => rfl
  unfold StampedRun.Running RunsBackup StampedRun.stale StampedRun.after
  dsimp only
  rw [doc_frame h, handle_now, hstamps]

theorem IndexComplete.handle {clients : List (Program Reply)} (h : IndexComplete limit r)
    (hc : c.Orderly) (hnames : NamesBatches limit r written c) :
    IndexComplete limit (r.after c written clients) := by
  have hframe : ∀ {id : TaskId} {m : TaskMeta}, c.writes ≠ some (.taskMeta id) →
      c.writes ≠ some (.tenantActiveBulk m.tenantId) →
      (r.after c written clients).Running limit id m →
      id ≠ "" ∧ (r.after c written clients).run.shared.lockOwner m.tenantId = some (.text id) := by
    intro id m hmeta hlock hr
    have hsame : (r.after c written clients).run.shared.lockOwner m.tenantId =
        r.run.shared.lockOwner m.tenantId := lockOwner_frame hlock
    rw [hsame]
    exact h id m ((running_after hmeta).mp hr)
  intro id m hr
  cases c with
  | setex k ttl v =>
    cases k with
    | taskMeta b =>
      by_cases hid : id = b
      · subst hid
        obtain ⟨-, m', rfl⟩ := hc
        obtain ⟨hdoc, hruns⟩ := hr
        obtain rfl : m = m' :=
          RedisValue.doc.inj (Store.of_get_setex_self (Shared.doc_eq_some.mp hdoc))
        have hstamps : stampsAfter written r.stamps
            (Command.setex (.taskMeta id) ttl (.doc m)).storesMeta id = written :=
          Function.update_self ..
        unfold RunsBackup StampedRun.stale StampedRun.after at hruns
        dsimp only at hruns
        rw [hstamps, handle_now] at hruns
        exact hnames hruns
      · exact hframe (by simpa [Command.writes] using Ne.symm hid) (by simp [Command.writes]) hr
    | tenantActiveBulk t =>
      by_cases ht : m.tenantId = t
      · have hold := (running_after (by simp [Command.writes])).mp hr
        obtain rfl := hnames id m hold ht
        subst ht
        exact ⟨(h id m hold).1, Store.get_setex_self hc.1⟩
      · exact hframe (by simp [Command.writes]) (by simpa [Command.writes] using Ne.symm ht) hr
    | followupDecision b => exact hc.elim
    | forceStopBackups =>
      exact hframe (by simp [Command.writes]) (by simp [Command.writes]) hr
  | setnx k ttl v =>
    have hmeta : (Command.setnx k ttl v).writes ≠ some (.taskMeta id) := by
      intro he
      obtain rfl : k = .taskMeta id := Option.some.inj he
      exact hc
    have hold := h id m ((running_after hmeta).mp hr)
    by_cases hk : k = .tenantActiveBulk m.tenantId
    · -- the key is held, so that the conditional write fails
      subst hk
      have hheld : r.run.shared.redis.get (.tenantActiveBulk m.tenantId) ≠ none := by
        intro hfree
        cases hfree.symm.trans hold.2
      refine ⟨hold.1, ?_⟩
      simp only [StampedRun.after, Shared.lockOwner, Realtime.handle,
        Store.setnx_store_of_held hheld]
      exact hold.2
    · exact hframe hmeta (by simpa [Command.writes] using hk) hr
  | delete k =>
    cases k with
    | tenantActiveBulk t =>
      have hold := (running_after (by simp [Command.writes])).mp hr
      have ht := hnames id m hold
      exact hframe (by simp [Command.writes]) (by simpa [Command.writes] using Ne.symm ht) hr
    | taskMeta b => exact hc.elim
    | followupDecision b => exact hc.elim
    | forceStopBackups => exact hc.elim
  | get k => exact hframe (by simp [Command.writes]) (by simp [Command.writes]) hr
  | celeryState b => exact hframe (by simp [Command.writes]) (by simp [Command.writes]) hr
  | celeryResult b => exact hframe (by simp [Command.writes]) (by simp [Command.writes]) hr
  | scheduleFollowup call =>
    exact hframe (by simp [Command.writes]) (by simp [Command.writes]) hr

/-- What else happens keeps the index, if no key lapses before its batch. -/
theorem IndexComplete.surroundings {x : Surroundings} {t : Shared}
    {clients : List (Program Reply)} (h : IndexComplete limit r)
    (ht : surroundings x r.run.shared = some t) (hok : KeepsIndex limit r (.env x, written)) :
    IndexComplete limit { run := { shared := t, clients := clients }, stamps := r.stamps } := by
  apply h.of_running
  rintro id m ⟨hdoc, hruns⟩
  cases x with
  | celery b result =>
    obtain rfl := Option.some.inj ht
    exact ⟨⟨hdoc, hruns⟩, rfl⟩
  | clearStop =>
    obtain rfl := Option.some.inj ht
    refine ⟨⟨?_, hruns⟩, Store.get_delete_ne (by simp)⟩
    rw [Shared.doc, Store.get_delete_ne (by simp)] at hdoc
    exact hdoc
  | tick d =>
    obtain rfl := Option.some.inj ht
    have hlive := Shared.doc_eq_some.mp hdoc
    have hearlier : r.Running limit id m := by
      refine ⟨Shared.doc_eq_some.mpr (Store.get_of_get_tick hlive), ?_⟩
      obtain ⟨hbulk, hopen, hkind, hfresh⟩ := hruns
      exact ⟨hbulk, hopen, hkind, staleAt_earlier (Nat.le_add_right _ d) hfresh⟩
    refine ⟨hearlier, ?_⟩
    have hthere : (r.run.shared.redis.tick d).get (.taskMeta id) ≠ none := by
      intro hnone
      cases hnone.symm.trans hlive
    have hkey := hok id m hearlier hruns hthere
    obtain ⟨v, hv⟩ := Option.ne_none_iff_exists'.mp hkey
    exact hv.trans (Store.get_of_get_tick hv).symm

/-- One step of the whole system. -/
theorem indexComplete_step {r' : StampedRun} {e : ClientEvent TenantCall Surroundings × Stamps}
    (h : IndexComplete limit r ∧ ∀ p ∈ r.run.clients, IsOrderly p) (hok : KeepsIndex limit r e)
    (hs : stampedStep env r e = some r') :
    IndexComplete limit r' ∧ ∀ p ∈ r'.run.clients, IsOrderly p := by
  obtain ⟨e, written⟩ := e
  obtain ⟨run, hrun, rfl⟩ := Option.map_eq_some_iff.mp hs
  have hclients : AllClients (fun _ => True) (fun p _ => IsOrderly p) run := by
    apply AllClients.step ⟨trivial, h.2⟩ hrun
    · exact fun call _ => tenantCall_orderly call
    · exact fun i c next _ _ hp => ⟨trivial, hp.2 _ trivial, fun _ _ _ _ hq => hq⟩
    · exact fun _ _ _ _ => ⟨trivial, fun _ _ hq => hq⟩
  refine ⟨?_, hclients.2⟩
  cases e with
  | spawn call =>
    obtain rfl := Option.some.inj hrun
    exact h.1
  | advance i =>
    obtain ⟨c, next, hc, hshared, -⟩ := clientStep_advance hrun
    have horderly : IsOrderly (.call c next) := h.2 _ (List.mem_of_getElem? hc)
    simp only [KeepsIndex, hc] at hok
    have hafter : IndexComplete limit (r.after c written run.clients) := h.1.handle horderly.1 hok
    have hsame : r.after c written run.clients =
        { run := run, stamps := stampsAfter written r.stamps (r.storesMeta (.advance i)) } := by
      simp only [StampedRun.after, StampedRun.storesMeta, hc]
      congr 1
      have hhandled :
          Realtime.handle c r.run.shared = (tenantSemantics env).handle c r.run.shared := rfl
      rw [hhandled, ← hshared]
    exact hsame ▸ hafter
  | env x =>
    obtain ⟨ht, -⟩ := clientStep_env hrun
    exact h.1.surroundings ht hok

end Steps

/-! ## The scheduler's guard -/

/-- While a batch runs, the scheduler finds one and enqueues nothing. `tenants` are those whose
keys the scan meets. -/
def SchedulerYields (limit : Nat) (r : StampedRun) (tenants : List TenantId) : Prop :=
  (∃ id m, r.Running limit id m) →
    ((scanActiveBulk (r.stale limit) tenants).run handle r.run.shared).1 = true ∧
    ∀ (α : Type) (due : List α),
      ((runScheduledBackups (r.stale limit) tenants due).run handle r.run.shared).1 = []

/-- The scan meets the key of every tenant that has one. -/
def ScansAll (s : Shared) (tenants : List TenantId) : Prop :=
  ∀ t, s.lockOwner t ≠ none → t ∈ tenants

theorem schedulerYields_iff {limit : Nat} {r : StampedRun} {tenants : List TenantId}
    (hall : ScansAll r.run.shared tenants) :
    SchedulerYields limit r tenants ↔
      ((∃ id m, r.Running limit id m) → ∃ t, NamesRunning (r.stale limit) r.run.shared t) := by
  unfold SchedulerYields
  apply imp_congr_right
  intro _
  constructor
  · rintro ⟨hscan, -⟩
    obtain ⟨t, -, ht⟩ := run_scanActiveBulk tenants |>.mp hscan
    exact ⟨t, ht⟩
  · rintro ⟨t, ht⟩
    have hmem : t ∈ tenants := by
      obtain ⟨id, m, -, hlock, -⟩ := ht
      exact hall t (fun hnone => nomatch hnone.symm.trans hlock)
    have hscan := (run_scanActiveBulk tenants).mpr ⟨t, hmem, ht⟩
    exact ⟨hscan, fun _ due => run_runScheduledBackups hscan due⟩

/-- **The scheduler yields to a running batch exactly if the key of some tenant names one**, and
it does so in every state of a run whose steps keep the index complete. -/
theorem scheduler_yields_while_indexed (env : Env) (limit : Nat) :
    (∀ (r : StampedRun) (tenants : List TenantId), ScansAll r.run.shared tenants →
      (SchedulerYields limit r tenants ↔
        ((∃ id m, r.Running limit id m) →
          ∃ t, NamesRunning (r.stale limit) r.run.shared t))) ∧
    ∀ (s₀ : Shared) (stamps₀ : TaskId → Stamps) es r tenants,
      IndexComplete limit { run := { shared := s₀ }, stamps := stamps₀ } →
      Along (stampedStep env) (KeepsIndex limit)
        { run := { shared := s₀ }, stamps := stamps₀ } es →
      exec (stampedStep env) { run := { shared := s₀ }, stamps := stamps₀ } es = some r →
      ScansAll r.run.shared tenants → SchedulerYields limit r tenants := by
  constructor
  · exact fun r tenants hall => schedulerYields_iff hall
  · intro s₀ stamps₀ es r tenants hstart hok hrun hall
    obtain ⟨hcomplete, -⟩ : IndexComplete limit r ∧ ∀ p ∈ r.run.clients, IsOrderly p :=
      exec_invariant (fun _ _ _ h hok hs => indexComplete_step h hok hs)
        ⟨hstart, fun _ hp => nomatch hp⟩ hok hrun
    rw [schedulerYields_iff hall]
    rintro ⟨id, m, hruns⟩
    obtain ⟨hid, hlock⟩ := hcomplete id m hruns
    exact ⟨m.tenantId, id, m, hid, hlock, hruns⟩

def deviceBatch : TenantCall :=
  .start .runBackupAll "t" "" "batch"
    { tenantId := "t"
      children := [{ taskId := "child", deviceId := "device", deviceIds := ["device"] }] }

/-- The start of a batch up to its `n`-th command. -/
def startedBatch (n : Nat) : List (ClientEvent TenantCall Surroundings × Stamps) :=
  (.spawn deviceBatch, {}) ::
    List.replicate n (.advance 0, { createdAt := some 0, updatedAt := some 0 })

/-- Without the lock nobody writes a key for the batch that runs. -/
theorem unlocked_batch_not_seen :
    ¬ ∀ (env : Env) (limit : Nat) es r tenants,
      exec (stampedStep env) { run := { shared := {} } } es = some r →
      ScansAll r.run.shared tenants → SchedulerYields limit r tenants := by
  intro hall
  have hruns : (exec (stampedStep .ascii) { run := { shared := {} } } (startedBatch 5)).any
      (·.runsNow 1800 "batch") = true := by decide +kernel
  obtain ⟨r, hr, hbatch⟩ := (Option.any_eq_true _ _).mp hruns
  have hkeys : ScansAll r.run.shared [] := by
    intro t ht
    have hnone : (exec (stampedStep .ascii) { run := { shared := {} } } (startedBatch 5)).map
        (·.run.shared.lockOwner t) = some none := rfl
    rw [hr] at hnone
    exact (ht (Option.some.inj hnone)).elim
  obtain ⟨hscan, -⟩ := hall .ascii 1800 (startedBatch 5) r [] hr hkeys ⟨_, runsNow_iff.mp hbatch⟩
  cases hscan

/-- With the lock the key names the batch before its meta says that it runs. -/
theorem locked_batch_seen :
    ∃ r, exec (stampedStep lockingEnv) { run := { shared := {} } } (startedBatch 7) = some r ∧
      (∃ id m, r.Running 1800 id m) ∧ SchedulerYields 1800 r ["t"] := by
  have hruns : (exec (stampedStep lockingEnv) { run := { shared := {} } } (startedBatch 7)).any
      (·.runsNow 1800 "batch") = true := by decide +kernel
  obtain ⟨r, hr, hbatch⟩ := (Option.any_eq_true _ _).mp hruns
  refine ⟨r, hr, ⟨_, runsNow_iff.mp hbatch⟩, ?_⟩
  apply (scheduler_yields_while_indexed lockingEnv 1800).2 {} (fun _ => {}) (startedBatch 7) r ["t"]
    (fun _ _ hempty => nomatch hempty.1) _ hr
  · intro t ht
    obtain ⟨held, hkey⟩ : ∃ held, (exec (stampedStep lockingEnv) { run := { shared := {} } }
        (startedBatch 7)).map (·.run.shared.redis.entries (.tenantActiveBulk t)) =
        some (Function.update (fun _ => none) (RedisKey.tenantActiveBulk "t") held
          (.tenantActiveBulk t)) := ⟨_, rfl⟩
    rw [hr] at hkey
    by_contra hne
    apply ht
    rw [Function.update_of_ne (by simpa using hne)] at hkey
    have hentry : r.run.shared.redis.entries (.tenantActiveBulk t) = none := Option.some.inj hkey
    unfold Shared.lockOwner Store.get
    rw [hentry]
  · refine ⟨trivial, fun r₁ h₁ => ?_⟩
    obtain rfl := Option.some.inj h₁
    refine ⟨trivial, fun r₂ h₂ => ?_⟩
    obtain rfl := Option.some.inj h₂
    refine ⟨trivial, fun r₃ h₃ => ?_⟩
    obtain rfl := Option.some.inj h₃
    refine ⟨(fun hbulk => nomatch hbulk.1), fun r₄ h₄ => ?_⟩
    obtain rfl := Option.some.inj h₄
    refine ⟨(fun hbulk => nomatch hbulk.1), fun r₅ h₅ => ?_⟩
    obtain rfl := Option.some.inj h₅
    refine ⟨trivial, fun r₆ h₆ => ?_⟩
    obtain rfl := Option.some.inj h₆
    refine ⟨trivial, fun r₇ h₇ => ?_⟩
    obtain rfl := Option.some.inj h₇
    exact ⟨fun _ => ⟨by decide, rfl⟩, fun _ _ => trivial⟩

end BackupCenter.Realtime
