import BackupCenter.Scheduling.Run

/-!
# One execution alone

An execution that commits hands over exactly the devices of the tenants that are due, and moves
all their schedules to one later moment.
-/
namespace BackupCenter.Scheduling

open BackupCenter.Lib BackupCenter.Tenants

/-! ## The objects of the session -/

/-- The columns that the task never writes. -/
structure Tracked.SameRow (t : Tracked) : Prop where
  id : t.current.id = t.loaded.id
  deviceId : t.current.deviceId = t.loaded.deviceId
  isActive : t.current.isActive = t.loaded.isActive

/-- After the first loop: the next run is the one that was loaded, or a later one where there
was none. -/
def Tracked.Visited (now : Int) (t : Tracked) : Prop :=
  ∃ next, t.current.nextRunAt = some next ∧
    (t.loaded.nextRunAt = some next ∨ t.loaded.nextRunAt = none ∧ now < next)

/-- The schedules of the tenant have one time and one next run, which is still to come. -/
def Settled (site : Site) (now : Int) (tenant : Uuid) (rows : List Tracked) : Prop :=
  ∃ time next, now < next ∧ ∀ t ∈ rows, site.tenantOf t.current = some tenant →
    t.current.time = time ∧ t.current.nextRunAt = some next

section Rows

variable {site : Site} {now : Int} {t : Tracked} {rows : List Tracked}

theorem Tracked.SameRow.tenantOf (h : t.SameRow) :
    site.tenantOf t.current = site.tenantOf t.loaded := by
  unfold Site.tenantOf Site.device
  rw [h.deviceId]

theorem Tracked.SameRow.enabledSchedule (h : t.SameRow) :
    site.enabledSchedule t.current = site.enabledSchedule t.loaded := by
  unfold Site.enabledSchedule Site.device
  rw [h.deviceId, h.isActive]

theorem Tracked.sameRow_load (r : Schedule) : (Tracked.load r).SameRow := ⟨rfl, rfl, rfl⟩

/-- Over the row that was loaded, an update leaves what the session has. -/
theorem Tracked.SameRow.update_loaded (h : t.SameRow) : t.update t.loaded = t.current := by
  have hwritten : ∀ {α : Type} [DecidableEq α] (loaded current : α),
      written loaded current loaded = current := by
    intro α _ loaded current
    unfold written
    split
    next hsame => exact hsame.symm
    next => rfl
  unfold Tracked.update
  simp only [hwritten]
  rw [← h.id, ← h.deviceId, ← h.isActive]

theorem visitRow_spec {done todo : List Tracked} (h : t.current = t.loaded) :
    (visitRow site now done t todo).SameRow ∧ (visitRow site now done t todo).Visited now := by
  constructor
  · constructor <;> simp only [visitRow, h]
  · refine ⟨_, rfl, ?_⟩
    rw [h]
    cases hnext : t.loaded.nextRunAt with
    | none => exact .inr ⟨hnext, lt_computeNextDailyRunAt ..⟩
    | some next => exact .inl hnext

theorem dueTenant_eq_some {r : Schedule} {tenant : Uuid} :
    dueTenant site now r = some tenant ↔
      site.tenantOf r = some tenant ∧ ∃ next, r.nextRunAt = some next ∧ next ≤ now := by
  unfold dueTenant
  rw [Option.bind_eq_some_iff]
  constructor
  · rintro ⟨next, hnext, h⟩
    split at h
    next hle => exact ⟨h, next, hnext, hle⟩
    next => cases h
  · rintro ⟨htenant, next, hnext, hle⟩
    exact ⟨next, hnext, by rw [if_pos hle, htenant]⟩

/-- What the first loop makes of the objects. -/
theorem initialiseRows_rows {done todo : List Tracked} :
    ((initialiseRows site now done todo).rows.map Tracked.loaded =
      (done ++ todo).map Tracked.loaded) ∧
    ((∀ t ∈ done, t.SameRow ∧ t.Visited now) → (∀ t ∈ todo, t.current = t.loaded) →
      ∀ t ∈ (initialiseRows site now done todo).rows, t.SameRow ∧ t.Visited now) := by
  induction todo generalizing done with
  | nil => exact ⟨by rw [List.append_nil]; rfl, fun hdone _ => hdone⟩
  | cons t todo ih =>
    obtain ⟨hloaded, hrows⟩ := @ih (done ++ [visitRow site now done t todo])
    constructor
    · refine hloaded.trans ?_
      simp [visitRow]
    · intro hdone htodo
      apply hrows
      · intro t' ht'
        rcases List.mem_append.mp ht' with ht' | ht'
        · exact hdone t' ht'
        · obtain rfl := List.mem_singleton.mp ht'
          exact visitRow_spec (htodo t (List.mem_cons_self ..))
      · exact fun t' ht' => htodo t' (List.mem_cons_of_mem _ ht')

/-- The tenants that the first loop finds due. -/
theorem mem_initialiseRows_due {done todo : List Tracked} {tenant : Uuid} :
    tenant ∈ (initialiseRows site now done todo).due ↔
      ∃ t ∈ todo, dueTenant site now t.current = some tenant := by
  induction todo generalizing done with
  | nil => simp [initialiseRows]
  | cons t todo ih =>
    unfold initialiseRows
    simp only [List.mem_append, Option.mem_toList, ih, List.mem_cons, exists_eq_or_imp]

/-- The rows after the second loop. -/
def finishTenants (site : Site) (now : Int) (tenants : List Uuid) (rows : List Tracked) :
    List Tracked :=
  tenants.foldl (fun rows tenant => finishTenant site now tenant rows) rows

theorem finishTenant_loaded (tenant : Uuid) :
    (finishTenant site now tenant rows).map Tracked.loaded = rows.map Tracked.loaded := by
  unfold finishTenant
  rw [List.map_map]
  apply List.map_congr_left
  intro t _
  dsimp only [Function.comp_apply]
  split <;> rfl

/-- A row after a tenant's turn; those of other tenants are as they were. -/
theorem mem_finishTenant {tenant : Uuid} (h : t ∈ finishTenant site now tenant rows) :
    (∃ a ∈ rows, t = a ∧ site.tenantOf a.current ≠ some tenant) ∨
      ∃ a ∈ rows, ∃ time next, t = a.edit (finishSchedule now time next) ∧
        site.tenantOf a.current = some tenant := by
  obtain ⟨a, ha, rfl⟩ := List.mem_map.mp h
  split_ifs with htenant
  · exact .inr ⟨a, ha, _, _, rfl, htenant⟩
  · exact .inl ⟨a, ha, rfl, htenant⟩

theorem sameRow_finishTenant {tenant : Uuid} (h : ∀ t ∈ rows, t.SameRow) :
    ∀ t ∈ finishTenant site now tenant rows, t.SameRow := by
  intro t ht
  rcases mem_finishTenant ht with ⟨a, ha, rfl, -⟩ | ⟨a, ha, time, next, rfl, -⟩
  · exact h t ha
  · obtain ⟨hid, hdevice, hactive⟩ := h a ha
    exact ⟨hid, hdevice, hactive⟩

/-- The tenant whose turn it is gets one time and one next run. -/
theorem settled_finishTenant (tenant : Uuid) :
    Settled site now tenant (finishTenant site now tenant rows) := by
  have hlater := lt_computeNextDailyRunAt site.digits site.zone
    (site.tenantDailyTime (rows.map Tracked.current) (some tenant)) (now + second)
  have hsecond : (0 : Int) < second := by decide
  refine ⟨site.tenantDailyTime (rows.map Tracked.current) (some tenant),
    site.nextRunAt (site.tenantDailyTime (rows.map Tracked.current) (some tenant))
      (now + second), ?_, fun t ht htenant => ?_⟩
  · unfold Site.nextRunAt
    omega
  · obtain ⟨a, ha, rfl⟩ := List.mem_map.mp ht
    split_ifs at htenant ⊢ with hturn
    · exact ⟨rfl, rfl⟩
    · exact absurd htenant hturn

/-- The other tenants keep what they have. -/
theorem Settled.finishTenant {tenant other : Uuid} (h : Settled site now tenant rows) :
    Settled site now tenant (finishTenant site now other rows) := by
  by_cases hsame : other = tenant
  · exact hsame ▸ settled_finishTenant other
  · obtain ⟨time, next, hnext, hrows⟩ := h
    refine ⟨time, next, hnext, fun t ht htenant => ?_⟩
    rcases mem_finishTenant ht with ⟨a, ha, rfl, -⟩ | ⟨a, ha, _, _, rfl, hother⟩
    · exact hrows t ha htenant
    · have hsame' : some other = some tenant := hother.symm.trans htenant
      exact absurd (Option.some.inj hsame') hsame

/-- What the second loop makes of the objects: those of other tenants are untouched. -/
theorem finishTenants_rows {tenants : List Uuid} (h : ∀ t ∈ rows, t.SameRow) :
    (finishTenants site now tenants rows).map Tracked.loaded = rows.map Tracked.loaded ∧
    (∀ t ∈ finishTenants site now tenants rows, t.SameRow) ∧
    (∀ t ∈ finishTenants site now tenants rows,
      (∀ tenant ∈ tenants, site.tenantOf t.loaded ≠ some tenant) → t ∈ rows) ∧
    (∀ tenant, Settled site now tenant rows ∨ tenant ∈ tenants →
      Settled site now tenant (finishTenants site now tenants rows)) := by
  induction tenants generalizing rows with
  | nil =>
    refine ⟨rfl, h, fun t ht _ => ht, fun tenant hsettled => ?_⟩
    exact hsettled.resolve_right List.not_mem_nil
  | cons other tenants ih =>
    obtain ⟨hloaded, hsame, hrest, hsettled⟩ := ih (sameRow_finishTenant h)
    refine ⟨hloaded.trans (finishTenant_loaded other), hsame, fun t ht hnone => ?_,
      fun tenant hor => hsettled tenant ?_⟩
    · have hturn := hrest t ht fun tenant htenant => hnone tenant (List.mem_cons_of_mem _ htenant)
      rcases mem_finishTenant hturn with ⟨a, ha, rfl, -⟩ | ⟨a, ha, time, next, rfl, hother⟩
      · exact ha
      · rw [(h a ha).tenantOf] at hother
        exact absurd hother (hnone other (List.mem_cons_self ..))
    · rcases hor with hold | hmem
      · exact .inl hold.finishTenant
      · rcases List.mem_cons.mp hmem with rfl | hmem
        · exact .inl (settled_finishTenant tenant)
        · exact .inr hmem

/-! ## The commit -/

/-- The updates write to each enabled row what the session has, and to no other row. -/
theorem apply_updates {table : Table Schedule}
    (hloaded : ∀ r, r ∈ rows.map Tracked.loaded ↔ r ∈ table ∧ site.enabledSchedule r = true)
    (hsame : ∀ t ∈ rows, t.SameRow) {r : Schedule} (hr : r ∈ table) :
    (site.enabledSchedule r = true →
        ∃ t ∈ rows, t.loaded = r ∧ (updates rows).apply r = t.current) ∧
      (site.enabledSchedule r ≠ true → (updates rows).apply r = r) := by
  have hfound : ∀ {t : Tracked}, (rows.find? fun t => t.loaded.id = r.id) = some t →
      t ∈ rows ∧ t.loaded = r := by
    intro t ht
    have hmem := List.mem_of_find?_eq_some ht
    have hid : t.loaded.id = r.id := by simpa using List.find?_some ht
    have htable := ((hloaded t.loaded).mp (List.mem_map_of_mem hmem)).1
    exact ⟨hmem, Table.eq_of_key htable hr hid⟩
  cases hfind : rows.find? fun t => t.loaded.id = r.id with
  | none =>
    have happly : (updates rows).apply r = r := by simp only [updates, hfind]
    refine ⟨fun henabled => ?_, fun _ => happly⟩
    obtain ⟨t, ht, rfl⟩ := List.mem_map.mp ((hloaded r).mpr ⟨hr, henabled⟩)
    exact absurd rfl (of_decide_eq_false
      (Bool.eq_false_iff.mpr (List.find?_eq_none.mp hfind t ht)))
  | some t =>
    have happly : (updates rows).apply r = t.update r := by simp only [updates, hfind]
    obtain ⟨hmem, rfl⟩ := hfound hfind
    rw [happly]
    constructor
    · exact fun _ => ⟨t, hmem, rfl, (hsame t hmem).update_loaded⟩
    · exact fun hnot => absurd ((hloaded t.loaded).mp (List.mem_map_of_mem hmem)).2 hnot

/-- The columns that an update leaves alone. -/
theorem updates_keeps (r : Schedule) : ((updates rows).apply r).deviceId = r.deviceId ∧
    ((updates rows).apply r).isActive = r.isActive := by
  unfold updates
  dsimp only
  split <;> exact ⟨rfl, rfl⟩

end Rows

/-! ## The whole run -/

section Run

variable {site : Site} {x : Choices} {now : Int} {s s' : Scheduled}

theorem run_enqueueAll (rows : List Tracked) (es : List Enqueued) (s : Scheduled) :
    (enqueueAll now rows es).run (DbCommand.handle site) s =
      ((), { s with queue := s.queue ++ es
                    dispatched := s.dispatched ++ es.flatMap (dispatches now rows) }) := by
  induction es generalizing s with
  | nil => simp [enqueueAll, Prog.run]
  | cons e es ih =>
    unfold enqueueAll
    rw [Prog.run_bind]
    show (enqueueAll now rows es).run (DbCommand.handle site) _ = _
    rw [ih]
    simp [Prog.ask, Prog.run, DbCommand.handle]

/-- What the tenants' batches enqueue. -/
def batchMessages (site : Site) (x : Choices) (tenants : List Uuid) : List Enqueued :=
  tenants.flatMap fun tenant => tenantMessages site tenant (eligibleDevices site x tenant)

theorem run_runTenants (tenants : List Uuid) (b : Batch) (s : Scheduled) :
    let result := (runTenants site x now tenants b).run (DbCommand.handle site) s
    result.1.rows = finishTenants site now tenants b.rows ∧
      result.2.schedules = s.schedules ∧
      result.2.queue = s.queue ++ batchMessages site x tenants := by
  induction tenants generalizing b s with
  | nil => exact ⟨rfl, rfl, (List.append_nil _).symm⟩
  | cons tenant tenants ih =>
    unfold runTenants
    rw [Prog.run_bind]
    unfold runTenant
    rw [Prog.run_bind, run_enqueueAll]
    obtain ⟨hrows, hschedules, hqueue⟩ := ih { b with
      rows := finishTenant site now tenant b.rows
      tenants := b.tenants + 1
      devices := b.devices + (eligibleDevices site x tenant).length
      direct := b.direct + (directMessages site (eligibleDevices site x tenant)).length
      jump := b.jump + (jumpMessages site (eligibleDevices site x tenant)).length
      vpnGroups := b.vpnGroups +
        (vpnMessages site tenant (eligibleDevices site x tenant)).length }
      { s with
        queue := s.queue ++ tenantMessages site tenant (eligibleDevices site x tenant)
        dispatched := s.dispatched ++ (tenantMessages site tenant
          (eligibleDevices site x tenant)).flatMap (dispatches now b.rows) }
    refine ⟨hrows, hschedules, hqueue.trans ?_⟩
    unfold batchMessages
    rw [List.flatMap_cons, List.append_assoc]

theorem eligibleDevices_perm (tenant : Uuid) :
    (eligibleDevices site x tenant).Perm (site.db.devices.rows.filter fun d =>
      site.enabledDevice d && !site.excluded d && decide (d.tenantId = tenant)) := by
  unfold eligibleDevices
  refine (((x.tenantDevices tenant).perm _).filter _).trans (List.Perm.of_eq ?_)
  rw [List.filter_filter]
  apply List.filter_congr
  intro d _
  rw [Bool.and_comm (decide _), ← Bool.and_assoc, Bool.and_comm (!_)]

/-- The eligible devices of a tenant belong to it. -/
theorem mem_eligibleDevices {tenant : Uuid} {d : Device} (h : d ∈ eligibleDevices site x tenant) :
    d ∈ site.db.devices ∧ d.tenantId = tenant := by
  obtain ⟨hd, hfilter⟩ := List.mem_filter.mp ((eligibleDevices_perm tenant).subset h)
  exact ⟨hd, of_decide_eq_true (Bool.and_eq_true_iff.mp hfilter).2⟩

theorem nodup_eligibleDevices (tenant : Uuid) :
    ((eligibleDevices site x tenant).map Device.id).Nodup :=
  (((eligibleDevices_perm tenant).map Device.id).nodup_iff).mpr
    ((List.filter_sublist.map Device.id).nodup site.db.devices.nodup)

/-- What a batch carries are the eligible devices of its tenant. -/
theorem carried_batch (tenant : Uuid) :
    ((tenantMessages site tenant (eligibleDevices site x tenant)).flatMap Enqueued.carried).Perm
      ((eligibleDevices site x tenant).map site.routed) :=
  carried_tenantMessages (fun _ hd => (mem_eligibleDevices hd).2) (nodup_eligibleDevices tenant)

/-- The batches of different tenants carry the eligible devices of all of them, each once. -/
theorem carried_batchMessages {tenants : List Uuid} (hnodup : tenants.Nodup) :
    ((batchMessages site x tenants).flatMap Enqueued.carried).Perm
      ((site.db.devices.rows.filter fun d => site.enabledDevice d && !site.excluded d &&
        decide (d.tenantId ∈ tenants)).map site.routed) := by
  induction tenants with
  | nil => simp [batchMessages]
  | cons tenant tenants ih =>
    obtain ⟨hnew, hnodup⟩ := List.nodup_cons.mp hnodup
    have hbatch := (@carried_batch site x tenant).trans
      ((eligibleDevices_perm tenant).map site.routed)
    show ((tenantMessages site tenant (eligibleDevices site x tenant) ++
      batchMessages site x tenants).flatMap Enqueued.carried).Perm _
    rw [List.flatMap_append]
    refine (hbatch.append (ih hnodup)).trans ?_
    rw [← List.map_append]
    apply List.Perm.map
    refine (filter_or_perm fun d _ hd => ?_).trans (List.Perm.of_eq ?_)
    · have hd' := of_decide_eq_true (Bool.and_eq_true_iff.mp hd).2
      simp [hd', hnew]
    · apply List.filter_congr
      intro d _
      simp only [← Bool.and_or_distrib_left, List.mem_cons, Bool.decide_or]

/-! ## Which tenants are due -/

/-- An enabled schedule of the tenant has a next run that has come. -/
def Site.isDue (site : Site) (now : Int) (schedules : Table Schedule) (tenant : Uuid) : Bool :=
  schedules.rows.any fun r => site.enabledSchedule r && dueTenant site now r = some tenant

theorem isDue_iff {schedules : Table Schedule} {tenant : Uuid} :
    site.isDue now schedules tenant = true ↔
      ∃ r ∈ schedules, site.enabledSchedule r = true ∧ dueTenant site now r = some tenant := by
  unfold Site.isDue
  simp only [List.any_eq_true, Bool.and_eq_true, decide_eq_true_eq]
  rfl

/-! ## Reading and committing -/

theorem mem_newSchedules {rows : List Schedule} {r : Schedule}
    (h : r ∈ newSchedules site x now rows) :
    r.isActive = some true ∧ dueTenant site now r = none := by
  obtain ⟨d, -, rfl⟩ := List.mem_map.mp h
  refine ⟨rfl, ?_⟩
  have hlater := lt_computeNextDailyRunAt site.digits site.zone
    (site.tenantDailyTime rows (some d.tenantId)) now
  unfold dueTenant Site.nextRunAt
  dsimp only [Option.bind_some]
  rw [if_neg (by omega)]

/-- Every enabled device has a row, an old or a new one. -/
theorem newSchedules_cover {rows : List Schedule} {d : Device} (hd : d ∈ site.db.devices)
    (henabled : site.enabledDevice d = true) :
    (∃ r ∈ rows, r.deviceId = d.id) ∨ ∃ r ∈ newSchedules site x now rows, r.deviceId = d.id := by
  by_cases hold : d.id ∈ rows.map Schedule.deviceId
  · obtain ⟨r, hr, hid⟩ := List.mem_map.mp hold
    exact .inl ⟨r, hr, hid⟩
  · refine .inr ⟨_, List.mem_map_of_mem (List.mem_filter.mpr ⟨?_, ?_⟩), rfl⟩
    · exact (x.devices.perm _).mem_iff.mpr (List.mem_filter.mpr ⟨hd, henabled⟩)
    · simpa using hold

theorem handle_commit {added : List Schedule} {rows : List Tracked} {table : Table Schedule}
    (h : s.schedules.addAll added = some table) :
    (DbCommand.commit added rows).handle site s =
      (true, { s with schedules := table.modify (fun _ => true) (updates rows) }) := by
  simp only [DbCommand.handle, h]

theorem handle_commit_taken {added : List Schedule} {rows : List Tracked}
    (h : s.schedules.addAll added = none) :
    (DbCommand.commit added rows).handle site s = (false, s) := by
  simp only [DbCommand.handle, h]

/-- The objects after both loops. -/
def finishedRows (site : Site) (now : Int) (rows : List Tracked) : List Tracked :=
  let pass := initialiseRows site now [] rows
  finishTenants site now (sortedIds pass.due) pass.rows

/-- What an execution does once it has its rows. -/
theorem run_runRows {added : List Schedule} {rows : List Tracked} {report : Report}
    (h : (runRows site x now added rows).run (DbCommand.handle site) s = (some report, s')) :
    ∃ table, s.schedules.addAll added = some table ∧
      s'.schedules = table.modify (fun _ => true) (updates (finishedRows site now rows)) ∧
      s'.queue = s.queue ++ batchMessages site x (sortedIds (initialiseRows site now [] rows).due)
      := by
  let pass := initialiseRows site now [] rows
  obtain ⟨hrows, hschedules, hqueue⟩ := @run_runTenants site x now
    (sortedIds pass.due) { rows := pass.rows } s
  unfold runRows at h
  rw [Prog.run_bind] at h
  generalize (runTenants site x now (sortedIds pass.due) { rows := pass.rows }).run
    (DbCommand.handle site) s = result at h hrows hschedules hqueue
  obtain ⟨b, t⟩ := result
  dsimp only at h hrows hschedules hqueue
  rw [Prog.run_bind] at h
  have hcommit : (Prog.ask (DbCommand.commit added b.rows)).run (DbCommand.handle site) t =
      (DbCommand.commit added b.rows).handle site t := rfl
  rw [hcommit] at h
  cases hadded : s.schedules.addAll added with
  | none =>
    rw [handle_commit_taken (hschedules ▸ hadded)] at h
    exact nomatch (Prod.mk.inj h).1
  | some table =>
    rw [handle_commit (hschedules ▸ hadded)] at h
    obtain rfl := (Prod.mk.inj h).2
    refine ⟨table, rfl, ?_, hqueue⟩
    show table.modify _ (updates b.rows) = _
    rw [hrows]
    rfl

/-- The session of an execution that has read the schedules: `table` are those of its
transaction, and the objects are those of the enabled ones. -/
structure Session (site : Site) (now : Int) (schedules : Table Schedule) (added : List Schedule)
    (rows : List Tracked) (table : Table Schedule) : Prop where
  inserted : schedules.addAll added = some table
  untouched : ∀ t ∈ rows, t.current = t.loaded
  loaded : ∀ r, r ∈ rows.map Tracked.loaded ↔ r ∈ table ∧ site.enabledSchedule r = true
  nodup : (rows.map (·.loaded.id)).Nodup
  new : ∀ r ∈ added, r.isActive = some true ∧ dueTenant site now r = none
  cover : ∀ d ∈ site.db.devices, site.enabledDevice d = true →
    ∃ r ∈ table, r.deviceId = d.id ∧ r.isActive = some true

theorem mem_of_addAll {ρ κ : Type} [Keyed ρ κ] [DecidableEq κ] {t t' : Table ρ} {rs : List ρ}
    (h : t.addAll rs = some t') {r : ρ} : r ∈ t' ↔ r ∈ t ∨ r ∈ rs := by
  rw [Table.mem_def, (Table.addAll_perm h).mem_iff, List.mem_append]
  rfl

/-- The rows that the first query returns. -/
def firstRows (site : Site) (x : Choices) (schedules : Table Schedule) : List Schedule :=
  x.firstRows.apply ((schedules.rows ++ []).filter site.enabledSchedule)

/-- The rows that the second query returns, in a transaction that has inserted `added`. -/
def secondRows (site : Site) (x : Choices) (schedules : Table Schedule) (added : List Schedule) :
    List Schedule :=
  x.rows.apply ((schedules.rows ++ added).filter site.enabledSchedule)

section Reading

variable {schedules : Table Schedule}

theorem mem_firstRows {r : Schedule} : r ∈ firstRows site x schedules ↔
    r ∈ schedules ∧ site.enabledSchedule r = true := by
  unfold firstRows
  rw [(x.firstRows.perm _).mem_iff, List.append_nil, List.mem_filter]
  rfl

/-- An enabled device has a row in the transaction of the execution. -/
theorem covered {table : Table Schedule} {d : Device}
    (hinserted :
      schedules.addAll (newSchedules site x now (firstRows site x schedules)) = some table)
    (hd : d ∈ site.db.devices) (he : site.enabledDevice d = true) :
    ∃ r ∈ table, r.deviceId = d.id ∧ r.isActive = some true := by
  rcases @newSchedules_cover site x now (firstRows site x schedules) d hd he with hold | hnew
  · obtain ⟨r, hr, hid⟩ := hold
    obtain ⟨hmem, henabled⟩ := mem_firstRows.mp hr
    exact ⟨r, (mem_of_addAll hinserted).mpr (.inl hmem), hid,
      of_decide_eq_true (Bool.and_eq_true_iff.mp henabled).1⟩
  · obtain ⟨r, hr, hid⟩ := hnew
    exact ⟨r, (mem_of_addAll hinserted).mpr (.inr hr), hid, (mem_newSchedules hr).1⟩

/-- Without new rows the session has the objects of the first query. -/
theorem session_of_first (h : newSchedules site x now (firstRows site x schedules) = []) :
    Session site now schedules [] ((firstRows site x schedules).map .load) schedules := by
  have hsame : ((firstRows site x schedules).map Tracked.load).map Tracked.loaded =
      firstRows site x schedules := by
    rw [List.map_map]
    exact List.map_id _
  constructor
  · rfl
  · intro t ht
    obtain ⟨r, -, rfl⟩ := List.mem_map.mp ht
    rfl
  · intro r
    rw [hsame]
    exact mem_firstRows
  · rw [List.map_map]
    apply (((x.firstRows.perm _).map Schedule.id).nodup_iff).mpr
    rw [List.append_nil]
    exact (List.filter_sublist.map Schedule.id).nodup schedules.nodup
  · exact fun r hr => nomatch hr
  · intro d hd he
    have hinserted : schedules.addAll (newSchedules site x now (firstRows site x schedules)) =
        some schedules := by
      rw [h]
      rfl
    exact covered hinserted hd he

/-- Otherwise it has the objects of the second one, with the rows that the first one loaded. -/
theorem session_of_second {table : Table Schedule}
    (hinserted :
      schedules.addAll (newSchedules site x now (firstRows site x schedules)) = some table) :
    Session site now schedules (newSchedules site x now (firstRows site x schedules))
      ((secondRows site x schedules (newSchedules site x now (firstRows site x schedules))).map
        (sameObject (firstRows site x schedules))) table := by
  generalize hadded : newSchedules site x now (firstRows site x schedules) = added at hinserted ⊢
  have hsame : ∀ a ∈ secondRows site x schedules added,
      (sameObject (firstRows site x schedules) a).loaded = a := by
    intro a ha
    have hmem := List.mem_append.mp (List.mem_filter.mp ((x.rows.perm _).mem_iff.mp ha)).1
    show ((firstRows site x schedules).find? fun b => b.id = a.id).getD a = a
    cases hfind : (firstRows site x schedules).find? fun b => b.id = a.id with
    | none => rfl
    | some b =>
      have hid : b.id = a.id := by simpa using List.find?_some hfind
      have hb := (mem_firstRows.mp (List.mem_of_find?_eq_some hfind)).1
      exact Table.eq_of_key ((mem_of_addAll hinserted).mpr (.inl hb))
        ((mem_of_addAll hinserted).mpr hmem) hid
  have hmap : ((secondRows site x schedules added).map
      (sameObject (firstRows site x schedules))).map Tracked.loaded =
      secondRows site x schedules added := by
    rw [List.map_map]
    exact (List.map_congr_left hsame).trans (List.map_id _)
  constructor
  · exact hinserted
  · intro t ht
    obtain ⟨r, -, rfl⟩ := List.mem_map.mp ht
    rfl
  · intro r
    rw [hmap]
    unfold secondRows
    rw [(x.rows.perm _).mem_iff, List.mem_filter, mem_of_addAll hinserted, List.mem_append]
    rfl
  · have hids : ∀ ts : List Tracked,
        ts.map (·.loaded.id) = (ts.map Tracked.loaded).map Schedule.id := by
      intro ts
      rw [List.map_map]
      rfl
    rw [hids, hmap]
    have hrows : ((schedules.rows ++ added).map Schedule.id).Nodup :=
      (((Table.addAll_perm hinserted).map Schedule.id).nodup_iff).mp table.nodup
    exact (((x.rows.perm _).map Schedule.id).nodup_iff).mpr
      ((List.filter_sublist.map Schedule.id).nodup hrows)
  · intro r hr
    rw [← hadded] at hr
    exact mem_newSchedules hr
  · intro d hd he
    exact covered (hadded ▸ hinserted) hd he

end Reading

/-- Up to its commit an execution reads, and then works on what it has read. -/
theorem run_start {report : Report}
    (h : (runScheduledBackups site x).run (DbCommand.handle site) s = (some report, s')) :
    ∃ added rows table, Session site s.now s.schedules added rows table ∧
      (runRows site x s.now added rows).run (DbCommand.handle site) s = (some report, s') := by
  unfold runScheduledBackups at h
  rw [Prog.run_bind] at h
  change Prog.run (DbCommand.handle site) (Prog.ask (DbCommand.querySchedules []) >>= _) s = _ at h
  rw [Prog.run_bind] at h
  change Prog.run (DbCommand.handle site)
    (if newSchedules site x s.now (firstRows site x s.schedules) = [] then _ else _) s = _ at h
  split_ifs at h with hadded
  · exact ⟨_, _, _, session_of_first hadded, h⟩
  · rw [Prog.run_bind] at h
    change Prog.run (DbCommand.handle site) (if (s.schedules.addAll (newSchedules site x s.now
      (firstRows site x s.schedules))).isSome = true then _ else _) s = _ at h
    split_ifs at h with hflushed
    · obtain ⟨table, hinserted⟩ := Option.isSome_iff_exists.mp hflushed
      rw [Prog.run_bind] at h
      exact ⟨_, _, table, session_of_second hinserted, h⟩
    · cases h

theorem mem_sortedIds {id : Uuid} {ids : List Uuid} : id ∈ sortedIds ids ↔ id ∈ ids := by
  simp [sortedIds]

theorem nodup_sortedIds (ids : List Uuid) : (sortedIds ids).Nodup :=
  (List.perm_insertionSort _ _).nodup_iff.mpr ids.nodup_dedup

/-- The first loop finds the tenants that are due. -/
theorem Session.due_iff {schedules : Table Schedule} {added : List Schedule} {rows : List Tracked}
    {table : Table Schedule} (h : Session site now schedules added rows table) {tenant : Uuid} :
    tenant ∈ sortedIds (initialiseRows site now [] rows).due ↔
      site.isDue now schedules tenant = true := by
  rw [mem_sortedIds, mem_initialiseRows_due, isDue_iff]
  constructor
  · rintro ⟨t, ht, hdue⟩
    rw [h.untouched t ht] at hdue
    obtain ⟨htable, henabled⟩ := (h.loaded _).mp (List.mem_map_of_mem ht)
    rcases (mem_of_addAll h.inserted).mp htable with hold | hnew
    · exact ⟨t.loaded, hold, henabled, hdue⟩
    · exact nomatch (h.new _ hnew).2.symm.trans hdue
  · rintro ⟨r, hr, henabled, hdue⟩
    have hmem := (h.loaded r).mpr ⟨(mem_of_addAll h.inserted).mpr (.inl hr), henabled⟩
    obtain ⟨t, ht, rfl⟩ := List.mem_map.mp hmem
    exact ⟨t, ht, (h.untouched t ht).symm ▸ hdue⟩

/-- Every object comes from its row, those of the tenants that are due are settled, and the others
have only been visited. -/
theorem Session.finished {schedules : Table Schedule} {added : List Schedule} {rows : List Tracked}
    {table : Table Schedule} (h : Session site now schedules added rows table) :
    (∀ r, r ∈ (finishedRows site now rows).map Tracked.loaded ↔
      r ∈ table ∧ site.enabledSchedule r = true) ∧
    (∀ t ∈ finishedRows site now rows, t.SameRow) ∧
    (∀ t ∈ finishedRows site now rows,
      (∀ tenant, site.tenantOf t.loaded = some tenant →
        site.isDue now schedules tenant ≠ true) → t.Visited now) ∧
    (∀ tenant, site.isDue now schedules tenant = true →
      Settled site now tenant (finishedRows site now rows)) := by
  obtain ⟨hpassLoaded, hpassRows⟩ := @initialiseRows_rows site now [] rows
  have hvisited := hpassRows (List.forall_mem_nil _) h.untouched
  have hpassSame : ∀ t ∈ (initialiseRows site now [] rows).rows, t.SameRow :=
    fun t ht => (hvisited t ht).1
  obtain ⟨hloaded, hsame, hothers, hsettled⟩ := @finishTenants_rows site now _
    (sortedIds (initialiseRows site now [] rows).due) hpassSame
  have hmap : (finishedRows site now rows).map Tracked.loaded = rows.map Tracked.loaded :=
    hloaded.trans hpassLoaded
  refine ⟨fun r => ?_, hsame, fun t ht hnone => ?_, fun tenant hdue => ?_⟩
  · rw [hmap]
    exact h.loaded r
  · apply (hvisited t (hothers t ht _)).2
    intro tenant htenant hof
    exact hnone tenant hof (h.due_iff.mp htenant)
  · exact hsettled tenant (.inr (h.due_iff.mpr hdue))

end Run

/-! ## What one run does -/

def Route.mode : Route → ConnectionMode
  | direct => .direct
  | jump => .jumpHost
  | vpn .. => .vpn

/-- The route follows the effective connection type, if the device has a group. -/
theorem mode_route (site : Site) (d : Device) : (site.route d).mode =
    if site.group d = none then .direct else (site.effectiveConnectionType d).getD .direct := by
  unfold Site.route
  cases site.group d with
  | none => rfl
  | some g =>
    cases site.effectiveConnectionType d with
    | none => rfl
    | some mode => cases mode <;> rfl

/-- **One run of the task**, with what it enqueues and what it leaves in the schedules. -/
theorem one_run_exact (site : Site) (x : Choices) (s s' : Scheduled) (report : Report)
    (h : (runScheduledBackups site x).run (DbCommand.handle site) s = (some report, s')) :
    (∃ new, s'.queue = s.queue ++ new ∧ (new.flatMap Enqueued.carried).Perm
      ((site.db.devices.rows.filter fun d => site.enabledDevice d && !site.excluded d &&
        site.isDue s.now s.schedules d.tenantId).map site.routed)) ∧
    (∀ d, (site.route d).mode = if site.group d = none then .direct
      else (site.effectiveConnectionType d).getD .direct) ∧
    (∀ tenant, site.isDue s.now s.schedules tenant = true → ∃ time next, s.now < next ∧
      ∀ r ∈ s'.schedules, site.enabledSchedule r = true → site.tenantOf r = some tenant →
        r.time = time ∧ r.nextRunAt = some next) ∧
    (∀ d ∈ site.db.devices, site.enabledDevice d = true →
      ∃ r ∈ s'.schedules, r.deviceId = d.id ∧ r.isActive = some true) ∧
    (∀ r ∈ s.schedules,
      (∀ tenant, site.tenantOf r = some tenant → site.isDue s.now s.schedules tenant ≠ true) →
      ∀ next, r.nextRunAt = some next →
        ∃ r' ∈ s'.schedules, r'.id = r.id ∧ r'.nextRunAt = some next) := by
  obtain ⟨added, rows, table, hsession, hrun⟩ := run_start h
  obtain ⟨table', hinserted, hschedules, hqueue⟩ := run_runRows hrun
  obtain rfl := Option.some.inj (hinserted.symm.trans hsession.inserted)
  obtain ⟨hloaded, hsame, hvisited, hsettled⟩ := hsession.finished
  have hrow : ∀ r' ∈ s'.schedules, ∃ r ∈ table',
      r' = (updates (finishedRows site s.now rows)).apply r := by
    intro r' hr'
    rw [hschedules, Table.mem_modify] at hr'
    exact hr'
  have hkept : ∀ r ∈ table', (updates (finishedRows site s.now rows)).apply r ∈ s'.schedules := by
    intro r hr
    rw [hschedules, Table.mem_modify]
    exact ⟨r, hr, rfl⟩
  refine ⟨⟨_, hqueue, ?_⟩, mode_route site, fun tenant hdue => ?_, fun d hd he => ?_,
    fun r hr hnone next hnext => ?_⟩
  · refine (carried_batchMessages (nodup_sortedIds _)).trans (List.Perm.of_eq ?_)
    congr 1
    apply List.filter_congr
    intro d _
    congr 1
    rw [Bool.eq_iff_iff, decide_eq_true_eq]
    exact hsession.due_iff
  · obtain ⟨time, next, hnext, hall⟩ := hsettled tenant hdue
    refine ⟨time, next, hnext, fun r' hr' henabled htenant => ?_⟩
    obtain ⟨r, hr, rfl⟩ := hrow r' hr'
    obtain ⟨hwritten, hleft⟩ := apply_updates hloaded hsame hr
    by_cases he : site.enabledSchedule r = true
    · obtain ⟨t, ht, -, happly⟩ := hwritten he
      rw [happly] at htenant ⊢
      exact hall t ht htenant
    · rw [hleft he] at henabled
      exact absurd henabled he
  · obtain ⟨r, hr, hid, hactive⟩ := hsession.cover d hd he
    obtain ⟨hdevice, hkeeps⟩ := @updates_keeps (finishedRows site s.now rows) r
    exact ⟨_, hkept r hr, hdevice.trans hid, hkeeps.trans hactive⟩
  · have hr' : r ∈ table' := (mem_of_addAll hinserted).mpr (.inl hr)
    obtain ⟨hwritten, hleft⟩ := apply_updates hloaded hsame hr'
    refine ⟨_, hkept r hr', Update.keeps _ r, ?_⟩
    by_cases he : site.enabledSchedule r = true
    · obtain ⟨t, ht, rfl, happly⟩ := hwritten he
      obtain ⟨next', hcurrent, hor⟩ := hvisited t ht hnone
      rw [happly, hcurrent]
      rcases hor with hold | ⟨hempty, -⟩
      · exact hold.symm.trans hnext
      · exact nomatch hempty.symm.trans hnext
    · rw [hleft he]
      exact hnext

def plainDevice (id : Uuid) (group : Option Uuid) (extra : Extra) : Device where
  id := id
  tenantId := 1
  groupId := group
  name := "OLT"
  ipAddress := "10.0.0.1"
  username := "admin"
  passwordEncrypted := ""
  backupScheduled := some true
  extraParameters := extra

/-- One device without a group whose extra parameters ask for a tunnel, and one of a group with a
tunnel. -/
def smallSite : Site where
  env := .ascii
  digits := .onlyAscii
  zone := .fixed (-3 * hour)
  db :=
    { devices :=
        { rows := [plainDevice 10 none [("connection_subgroup_type", ⟨"vpn", true⟩)],
            plainDevice 11 (some 20) []] }
      deviceGroups :=
        { rows := [{ id := 20, tenantId := 1, name := "POP", slug := "pop"
                     connectionType := some "vpn" }] } }

def smallChoices : Choices := { fresh := fun device => device + 100 }

/-- The schedule of the first device has come. -/
def oneDue : Scheduled where
  now := 10 * day
  schedules := { rows := [{ id := 30, deviceId := 10, time := "3:00", nextRunAt := some 0 }] }

def smallRun : Option Report × Scheduled :=
  (runScheduledBackups smallSite smallChoices).run (DbCommand.handle smallSite) oneDue

theorem smallRun_reports : ∃ report, smallRun = (some report, smallRun.2) := by
  obtain ⟨report, hreport⟩ := Option.isSome_iff_exists.mp
    (show smallRun.1.isSome = true by decide +kernel)
  exact ⟨report, Prod.ext hreport rfl⟩

/-- The device without a group is enqueued directly, although its type asks for a tunnel. -/
theorem tunnel_without_group :
    ¬ ∀ (site : Site) (x : Choices) (s s' : Scheduled) (report : Report), s.queue = [] →
      (runScheduledBackups site x).run (DbCommand.handle site) s = (some report, s') →
      ∀ p ∈ s'.queue.flatMap Enqueued.carried, ∀ d ∈ site.db.devices, d.id = p.2 →
        p.1.mode = (site.effectiveConnectionType d).getD .direct := by
  intro hall
  obtain ⟨report, hrun⟩ := smallRun_reports
  have hcarried : smallRun.2.queue.flatMap Enqueued.carried = [(.direct, 10), (.vpn 20 1, 11)] := by
    decide +kernel
  have hmode := hall smallSite smallChoices oneDue smallRun.2 report rfl hrun (.direct, 10)
    (by rw [hcarried]; exact List.mem_cons_self ..)
    (plainDevice 10 none [("connection_subgroup_type", ⟨"vpn", true⟩)]) (List.mem_cons_self ..) rfl
  exact absurd hmode (by decide)

/-- Both devices of the tenant are enqueued, and both have a schedule afterwards. -/
theorem small_run_exact : ∃ report, smallRun = (some report, smallRun.2) ∧
    (smallRun.2.queue.flatMap Enqueued.carried).Perm [(.direct, 10), (.vpn 20 1, 11)] ∧
    ∀ d ∈ smallSite.db.devices, ∃ r ∈ smallRun.2.schedules, r.deviceId = d.id ∧
      r.isActive = some true := by
  obtain ⟨report, hrun⟩ := smallRun_reports
  obtain ⟨⟨new, hqueue, hperm⟩, -, -, hcover, -⟩ :=
    one_run_exact smallSite smallChoices oneDue smallRun.2 report hrun
  refine ⟨report, hrun, ?_, fun d hd => hcover d hd ?_⟩
  · rw [hqueue]
    exact hperm
  · have hall : ∀ d ∈ smallSite.db.devices.rows, smallSite.enabledDevice d = true := by
      decide +kernel
    exact hall d hd

end BackupCenter.Scheduling
