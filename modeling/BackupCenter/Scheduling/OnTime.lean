import BackupCenter.Scheduling.NextRunAt
import BackupCenter.Scheduling.Overlap
import BackupCenter.Scheduling.RoutineRuns

/-!
# A tenant on one daily time

Once all devices of a tenant are on one daily time, the periodic task is an alarm for them: the
first execution from the time on hands each of them over once, and sets the next day.
-/
namespace BackupCenter.Scheduling

open BackupCenter.Lib BackupCenter.Tenants

/-! ## An alarm -/

section Alarm

variable (reset : Int → Int)

/-- The polls at which an alarm rings that is set to `due`, and set anew when it rings. -/
def rings : Int → List Int → List Int
  | _, [] => []
  | due, now :: rest => if due ≤ now then now :: rings (reset now) rest else rings due rest

/-- What the alarm is set to after the polls. -/
def alarmAfter : Int → List Int → Int
  | due, [] => due
  | due, now :: rest => if due ≤ now then alarmAfter (reset now) rest else alarmAfter due rest

variable {reset} {due : Int} {polls : List Int}

theorem le_of_mem_rings (hreset : ∀ now, now < reset now) :
    ∀ a ∈ rings reset due polls, due ≤ a := by
  induction polls generalizing due with
  | nil => exact fun a ha => absurd ha List.not_mem_nil
  | cons now rest ih =>
    intro a ha
    unfold rings at ha
    split_ifs at ha with hdue
    · rcases List.mem_cons.mp ha with rfl | ha
      · exact hdue
      · have hlater := ih a ha
        have hnext := hreset now
        omega
    · exact ih a ha

/-- Between two rings the alarm has come to the time that it was set to at the first one. -/
theorem rings_spaced (hreset : ∀ now, now < reset now) :
    (rings reset due polls).Pairwise fun a b => reset a ≤ b := by
  induction polls generalizing due with
  | nil => exact List.Pairwise.nil
  | cons now rest ih =>
    unfold rings
    split_ifs
    · exact List.Pairwise.cons (le_of_mem_rings hreset) ih
    · exact ih

end Alarm

/-! ## One time for a tenant -/

/-- The row is that of an enabled device of the tenant, and active. -/
def Site.Counts (site : Site) (tenant : Uuid) (r : Schedule) : Prop :=
  site.enabledSchedule r = true ∧ site.tenantOf r = some tenant

/-- All schedules of the tenant have one time, the first of them is due at `due`, and no enabled
device is without one. -/
structure OnTime (site : Site) (schedules : Table Schedule) (tenant : Uuid) (time : String)
    (due : Int) : Prop where
  times : ∀ r ∈ schedules, site.Counts tenant r → r.time = time ∧ r.nextRunAt ≠ none
  due : ∀ now, site.isDue now schedules tenant = true ↔ due ≤ now
  cover : ∀ d ∈ site.db.devices, d.tenantId = tenant → site.enabledDevice d = true →
    Active schedules d.id

section Execution

variable {site : Site} {tenant : Uuid} {time : String} {now due : Int}

theorem sanitizeDailyTime_idem (d : Digits) (timeStr : String) :
    d.sanitizeDailyTime (d.sanitizeDailyTime timeStr) = d.sanitizeDailyTime timeStr := by
  unfold Digits.sanitizeDailyTime
  rw [NextRun.dailyTime_text]

theorem nextRunAt_sanitizeDailyTime (timeStr : String) (reference : Int) :
    site.nextRunAt (site.digits.sanitizeDailyTime timeStr) reference =
      site.nextRunAt timeStr reference := by
  unfold Site.nextRunAt computeNextDailyRunAt Digits.sanitizeDailyTime
  rw [NextRun.dailyTime_text]

theorem ne_empty_of_sanitized (h : site.digits.sanitizeDailyTime time = time) : time ≠ "" := by
  intro hempty
  have hlength := congrArg String.toList (h.trans hempty)
  unfold Digits.sanitizeDailyTime DailyTime.text at hlength
  rw [String.toList_ofList] at hlength
  simp [twoDigits] at hlength

/-- The vote of schedules that agree. -/
theorem tenantDailyTime_eq {rows : List Schedule}
    (hcanon : site.digits.sanitizeDailyTime time = time)
    (hrows : ∀ r ∈ rows, site.tenantOf r = some tenant → r.time = time)
    (hany : ∃ r ∈ rows, site.tenantOf r = some tenant) :
    site.tenantDailyTime rows (some tenant) = time := by
  show (mostCommon ((rows.filter _).map _)).getD "02:00" = time
  rw [mostCommon_eq_some (k := time)]
  · rfl
  · obtain ⟨r, hr, htenant⟩ := hany
    have hne : r.time ≠ "" := hrows r hr htenant ▸ ne_empty_of_sanitized hcanon
    refine List.ne_nil_of_mem (List.mem_map_of_mem (List.mem_filter.mpr ⟨hr, ?_⟩))
    simp [htenant, hne]
  · intro t ht
    obtain ⟨r, hr, rfl⟩ := List.mem_map.mp ht
    obtain ⟨hmem, hfilter⟩ := List.mem_filter.mp hr
    simp only [Bool.and_eq_true, decide_eq_true_eq] at hfilter
    rw [hrows r hmem hfilter.1.2, hcanon]

/-- The first loop leaves a time that is in order. -/
theorem initialiseRows_time (hcanon : site.digits.sanitizeDailyTime time = time)
    {done todo : List Tracked} (hdone : ∀ t ∈ done, t.loaded.time = time → t.current.time = time)
    (htodo : ∀ t ∈ todo, t.current = t.loaded) :
    ∀ t ∈ (initialiseRows site now done todo).rows,
      t.loaded.time = time → t.current.time = time := by
  induction todo generalizing done with
  | nil => exact hdone
  | cons a todo ih =>
    refine @ih (done ++ [visitRow site now done a todo]) (fun t ht htime => ?_)
      fun t ht => htodo t (List.mem_cons_of_mem _ ht)
    rcases List.mem_append.mp ht with ht | ht
    · exact hdone t ht htime
    · obtain rfl := List.mem_singleton.mp ht
      have hsame : a.current.time = time := (htodo a List.mem_cons_self) ▸ htime
      have hne := ne_empty_of_sanitized hcanon
      show (if a.current.time = "" then _ else site.digits.sanitizeDailyTime a.current.time) = time
      rw [hsame, if_neg hne, hcanon]

/-- The schedules of the tenant have the time. -/
def Agreed (site : Site) (tenant : Uuid) (time : String) (rows : List Tracked) : Prop :=
  ∀ t ∈ rows, site.tenantOf t.current = some tenant → t.current.time = time

/-- A schedule of the tenant after the turn of some tenant: its own turn settles the next run. -/
theorem Agreed.turn (hcanon : site.digits.sanitizeDailyTime time = time) {rows : List Tracked}
    (h : Agreed site tenant time rows) {other : Uuid} {t : Tracked}
    (ht : t ∈ finishTenant site now other rows) (htenant : site.tenantOf t.current = some tenant) :
    t.current.time = time ∧
      (other = tenant → t.current.nextRunAt = some (site.nextRunAt time (now + second))) ∧
      (other ≠ tenant → t ∈ rows) := by
  obtain ⟨a, ha, rfl⟩ := List.mem_map.mp ht
  split_ifs at htenant ⊢ with hturn
  · have hsame : some other = some tenant := hturn.symm.trans htenant
    obtain rfl := Option.some.inj hsame
    have hvote : site.tenantDailyTime (rows.map Tracked.current) (some other) = time := by
      refine tenantDailyTime_eq hcanon (fun r hr hof => ?_)
        ⟨a.current, List.mem_map_of_mem ha, hturn⟩
      obtain ⟨b, hb, rfl⟩ := List.mem_map.mp hr
      exact h b hb hof
    rw [hvote]
    exact ⟨rfl, fun _ => rfl, fun hne => absurd rfl hne⟩
  · exact ⟨h a ha htenant, fun hother => absurd (hother ▸ htenant) hturn, fun _ => ha⟩

/-- After the turns of the tenants that are due, the tenant's schedules still agree, and if it was
one of them they run next at one time. -/
theorem Agreed.turns (hcanon : site.digits.sanitizeDailyTime time = time) {tenants : List Uuid}
    {rows : List Tracked} (h : Agreed site tenant time rows) {t : Tracked}
    (ht : t ∈ finishTenants site now tenants rows)
    (htenant : site.tenantOf t.current = some tenant) :
    t.current.time = time ∧ ((tenant ∈ tenants ∨ ∀ a ∈ rows, site.tenantOf a.current = some tenant →
        a.current.nextRunAt = some (site.nextRunAt time (now + second))) →
      t.current.nextRunAt = some (site.nextRunAt time (now + second))) := by
  induction tenants generalizing rows with
  | nil => exact ⟨h t ht htenant, fun hor => (hor.resolve_left List.not_mem_nil) t ht htenant⟩
  | cons other tenants ih =>
    obtain ⟨htime, hnext⟩ := ih (fun a ha hof => (h.turn hcanon ha hof).1) ht
    refine ⟨htime, fun hor => hnext ?_⟩
    by_cases hown : other = tenant
    · exact .inr fun a ha hof => (h.turn hcanon ha hof).2.1 hown
    · rcases hor with hmem | hall
      · exact .inl ((List.mem_cons.mp hmem).resolve_left fun he => hown he.symm)
      · exact .inr fun a ha hof => hall a ((h.turn hcanon ha hof).2.2 hown) hof

/-- What an execution leaves of the schedules of a tenant on one time: the same, or all with the
next run after it. -/
theorem OnTime.rows {x : Choices} {s s' : Scheduled} {report : Report}
    (h : OnTime site s.schedules tenant time due)
    (hcanon : site.digits.sanitizeDailyTime time = time)
    (hrun : (runScheduledBackups site x).run (DbCommand.handle site) s = (some report, s')) :
    (∀ r' ∈ s'.schedules, site.Counts tenant r' → r'.time = time ∧
      ∃ r ∈ s.schedules, site.Counts tenant r ∧ r'.nextRunAt =
        if due ≤ s.now then some (site.nextRunAt time (s.now + second)) else r.nextRunAt) ∧
    ∀ r ∈ s.schedules, ∃ r' ∈ s'.schedules, r'.deviceId = r.deviceId ∧ r'.isActive = r.isActive ∧
      (site.Counts tenant r → r'.nextRunAt =
        if due ≤ s.now then some (site.nextRunAt time (s.now + second)) else r.nextRunAt) := by
  obtain ⟨rows, _, hsession, hrows⟩ := run_started hrun
  obtain ⟨table, hinserted, hschedules, -⟩ := run_runRows hrows
  obtain rfl := Option.some.inj (hinserted.symm.trans hsession.inserted)
  obtain ⟨hloaded, hsame, hvisited, hsettled⟩ := hsession.finished
  have hcounts : ∀ {r : Schedule}, r ∈ table → site.Counts tenant r → r ∈ s.schedules := by
    intro r hr hcount
    refine ((mem_of_addAll hinserted).mp hr).resolve_right fun hadded => ?_
    obtain ⟨-, d, hd, henabled, hid, hnone⟩ := mem_addedSchedules hadded
    have hfound : site.device r = some d := Table.find_eq_some.mpr ⟨hd, hid.symm⟩
    have htenant : d.tenantId = tenant := by
      have hof := hcount.2
      unfold Site.tenantOf at hof
      rw [hfound] at hof
      exact Option.some.inj hof
    obtain ⟨a, ha, hida, hactive⟩ := h.cover d hd htenant henabled
    exact hnone a ha hida hactive
  have hpass : Agreed site tenant time (initialiseRows site s.now [] rows).rows := by
    intro t ht hof
    obtain ⟨hmap, hall⟩ := @initialiseRows_rows site s.now [] rows
    obtain ⟨hrow, -⟩ := hall (List.forall_mem_nil _) hsession.untouched t ht
    have hmem : t.loaded ∈ rows.map Tracked.loaded := by
      have hin := List.mem_map_of_mem (f := Tracked.loaded) ht
      rwa [hmap] at hin
    obtain ⟨hin, henabled⟩ := (hsession.loaded _).mp hmem
    have hcount : site.Counts tenant t.loaded := ⟨henabled, hrow.tenantOf.symm.trans hof⟩
    exact initialiseRows_time hcanon (List.forall_mem_nil _) hsession.untouched t ht
      (h.times _ (hcounts hin hcount) hcount).1
  -- a row that counts, as the execution has written it
  have hwritten : ∀ r ∈ table, site.Counts tenant r →
      ((updates (finishedRows site s.now rows)).apply r).time = time ∧
      ((updates (finishedRows site s.now rows)).apply r).nextRunAt =
        if due ≤ s.now then some (site.nextRunAt time (s.now + second)) else r.nextRunAt := by
    intro r hr hcount
    obtain ⟨t, ht, rfl, happly⟩ := (apply_updates hloaded hsame hr).1 hcount.1
    have hof : site.tenantOf t.current = some tenant := (hsame t ht).tenantOf.trans hcount.2
    obtain ⟨htime, hnext⟩ := hpass.turns hcanon ht hof
    rw [happly]
    refine ⟨htime, ?_⟩
    split_ifs with hdue
    · exact hnext (.inl (hsession.due_iff.mpr ((h.due s.now).mpr hdue)))
    · obtain ⟨next, hcurrent, hor⟩ := hvisited t ht fun other hother hisDue => by
        obtain rfl := Option.some.inj (hother.symm.trans hcount.2)
        exact hdue ((h.due s.now).mp hisDue)
      rcases hor with hold | ⟨hempty, -⟩
      · rw [hcurrent, hold]
      · exact absurd hempty (h.times _ (hcounts hr hcount) hcount).2
  have hmem : ∀ r', r' ∈ s'.schedules ↔
      ∃ r ∈ table, r' = (updates (finishedRows site s.now rows)).apply r := by
    intro r'
    rw [hschedules, Table.mem_modify]
    exact Iff.rfl
  have hkeeps := @updates_keeps (finishedRows site s.now rows)
  constructor
  · intro r' hr' hcount
    obtain ⟨r, hr, rfl⟩ := (hmem r').mp hr'
    have hcount' : site.Counts tenant r := by
      unfold Site.Counts Site.enabledSchedule Site.tenantOf Site.device at hcount ⊢
      rwa [(hkeeps r).1, (hkeeps r).2] at hcount
    obtain ⟨htime, hnext⟩ := hwritten r hr hcount'
    exact ⟨htime, r, hcounts hr hcount', hcount', hnext⟩
  · intro r hr
    have hr' := (mem_of_addAll hinserted).mpr (.inl hr)
    exact ⟨_, (hmem _).mpr ⟨r, hr', rfl⟩, (hkeeps r).1, (hkeeps r).2,
      fun hcount => (hwritten r hr' hcount).2⟩

/-- What counts is an active row of an enabled device of the tenant. -/
theorem counts_iff {r : Schedule} : site.Counts tenant r ↔ r.isActive = some true ∧
    ∃ d ∈ site.db.devices, d.id = r.deviceId ∧ d.tenantId = tenant ∧
      site.enabledDevice d = true := by
  unfold Site.Counts Site.enabledSchedule Site.tenantOf
  simp only [Bool.and_eq_true, decide_eq_true_eq, Option.any_eq_true, Option.map_eq_some_iff]
  constructor
  · intro ⟨⟨hactive, d, hd, henabled⟩, d', hd', htenant⟩
    obtain rfl := Option.some.inj (hd.symm.trans hd')
    obtain ⟨hmem, hid⟩ := Table.find_eq_some.mp hd
    exact ⟨hactive, d, hmem, hid, htenant, henabled⟩
  · intro ⟨hactive, d, hmem, hid, htenant, henabled⟩
    have hd : site.device r = some d := Table.find_eq_some.mpr ⟨hmem, hid⟩
    exact ⟨⟨hactive, d, hd, henabled⟩, d, hd, htenant⟩

theorem isDue_iff_counts {schedules : Table Schedule} :
    site.isDue now schedules tenant = true ↔ ∃ r ∈ schedules, site.Counts tenant r ∧
      ∃ next, r.nextRunAt = some next ∧ next ≤ now := by
  rw [isDue_iff]
  refine exists_congr fun r => and_congr_right fun _ => ?_
  rw [dueTenant_eq_some, ← and_assoc]
  exact Iff.rfl

/-- An execution rings the alarm if it is due. -/
theorem OnTime.run {x : Choices} {s s' : Scheduled} {report : Report}
    (h : OnTime site s.schedules tenant time due)
    (hcanon : site.digits.sanitizeDailyTime time = time)
    (hrun : (runScheduledBackups site x).run (DbCommand.handle site) s = (some report, s')) :
    OnTime site s'.schedules tenant time
      (if due ≤ s.now then site.nextRunAt time (s.now + second) else due) := by
  obtain ⟨hafter, hbefore⟩ := h.rows hcanon hrun
  have hcounts : ∀ {r r' : Schedule}, r'.deviceId = r.deviceId → r'.isActive = r.isActive →
      site.Counts tenant r → site.Counts tenant r' := by
    intro r r' hdevice hactive hcount
    rw [counts_iff] at hcount ⊢
    rwa [hdevice, hactive]
  constructor
  · intro r' hr' hcount
    obtain ⟨htime, r, hr, hcount', hnext⟩ := hafter r' hr' hcount
    refine ⟨htime, ?_⟩
    rw [hnext]
    split_ifs
    · exact Option.some_ne_none _
    · exact (h.times r hr hcount').2
  · intro now'
    rw [isDue_iff_counts]
    split_ifs with hdue
    · constructor
      · intro ⟨r', hr', hcount, next, hnext, hle⟩
        obtain ⟨-, r, -, -, hset⟩ := hafter r' hr' hcount
        rw [if_pos hdue] at hset
        rw [Option.some.inj (hset.symm.trans hnext)]
        exact hle
      · intro hle
        obtain ⟨r, hr, hcount, -⟩ := isDue_iff_counts.mp ((h.due s.now).mpr hdue)
        obtain ⟨r', hr', hdevice, hactive, hset⟩ := hbefore r hr
        have hnext := hset hcount
        rw [if_pos hdue] at hnext
        exact ⟨r', hr', hcounts hdevice hactive hcount, _, hnext, hle⟩
    · rw [← h.due now', isDue_iff_counts]
      constructor
      · intro ⟨r', hr', hcount, next, hnext, hle⟩
        obtain ⟨-, r, hr, hcount', hset⟩ := hafter r' hr' hcount
        rw [if_neg hdue] at hset
        exact ⟨r, hr, hcount', next, hset.symm.trans hnext, hle⟩
      · intro ⟨r, hr, hcount, next, hnext, hle⟩
        obtain ⟨r', hr', hdevice, hactive, hset⟩ := hbefore r hr
        have hsame := hset hcount
        rw [if_neg hdue] at hsame
        exact ⟨r', hr', hcounts hdevice hactive hcount, next, hsame.trans hnext, hle⟩
  · intro d hd htenant henabled
    obtain ⟨r, hr, hid, hactive⟩ := h.cover d hd htenant henabled
    obtain ⟨r', hr', hdevice, hsame, -⟩ := hbefore r hr
    exact ⟨r', hr', hdevice.trans hid, hsame.trans hactive⟩

/-- How often the device was handed to the workers. -/
def handedOver (s : Scheduled) (device : Uuid) : Nat :=
  (s.queue.flatMap Enqueued.carried).countP fun p => p.2 = device

theorem countP_key {d : Device} (hd : d ∈ site.db.devices) (q : Device → Bool) :
    ((site.db.devices.rows.filter q).map site.routed).countP (fun p => p.2 = d.id) =
      if q d = true then 1 else 0 := by
  have hsingle : site.db.devices.rows.filter (fun a => a.id = d.id) = [d] := by
    refine List.perm_singleton.mp ((List.perm_ext_iff_of_nodup
      ((List.Nodup.of_map _ site.db.devices.nodup).filter _) (List.nodup_singleton d)).mpr
      fun a => ?_)
    rw [List.mem_filter, List.mem_singleton, decide_eq_true_eq]
    constructor
    · exact fun ⟨ha, hid⟩ => Table.eq_of_key ha hd hid
    · intro he
      rw [he]
      exact ⟨hd, rfl⟩
  rw [List.countP_map, List.countP_filter]
  have hswap : ∀ a ∈ site.db.devices.rows,
      (((fun p : Route × Uuid => decide (p.2 = d.id)) ∘ site.routed) a && q a) = true ↔
        (q a && decide (a.id = d.id)) = true := by
    intro a _
    simp only [Function.comp_apply, Site.routed, Bool.and_eq_true]
    exact and_comm
  rw [List.countP_congr hswap, ← List.countP_filter, hsingle]
  simp [List.countP_cons]

/-- A device of the tenant is handed over once by an execution that finds the alarm due. -/
theorem handedOver_run {x : Choices} {s s' : Scheduled} {report : Report}
    (hdue : ∀ now, site.isDue now s.schedules tenant = true ↔ due ≤ now) {d : Device}
    (hd : d ∈ site.db.devices) (htenant : d.tenantId = tenant)
    (henabled : site.enabledDevice d = true) (hexcluded : site.excluded d = false)
    (hrun : (runScheduledBackups site x).run (DbCommand.handle site) s = (some report, s')) :
    handedOver s' d.id = handedOver s d.id + if due ≤ s.now then 1 else 0 := by
  obtain ⟨rows, _, hsession, hrows⟩ := run_started hrun
  obtain ⟨_, -, -, hqueue⟩ := run_runRows hrows
  unfold handedOver
  rw [hqueue, List.flatMap_append, List.countP_append,
    (carried_batchMessages (nodup_sortedIds _)).countP_eq, countP_key hd]
  congr 1
  simp only [henabled, hexcluded, htenant, Bool.not_false, Bool.and_self, Bool.true_and,
    decide_eq_true_eq, hsession.due_iff, hdue]

end Execution

/-! ## Requests of other tenants -/

/-- The request does not concern the tenant. -/
def RoutineEvent.Spares (tenant : Uuid) (s : Deployment) : RoutineEvent → Prop
  | .wait _ | .runScheduledBackups _ => True
  | .configure .. => False
  | .createDevice _ _ data _ => data.tenantId ≠ tenant
  | .updateDevice _ deviceId data _ => ∀ d ∈ s.site.db.devices, d.id = deviceId →
      d.tenantId ≠ tenant ∧ (data.apply d).tenantId ≠ tenant
  | .deleteDevice deviceId => ∀ d ∈ s.site.db.devices, d.id = deviceId → d.tenantId ≠ tenant
  | .applyDailySchedule _ _ tenantSlug _ | .enableBackupQueueAll _ _ tenantSlug =>
      ∀ other, s.site.db.tenantBySlug tenantSlug = some other → other.id ≠ tenant

/-- When the task is executed in a run that starts at `now`. -/
def executions : Int → List RoutineEvent → List Int
  | _, [] => []
  | now, .wait time :: es => executions (now + time) es
  | now, .runScheduledBackups _ :: es => now :: executions now es
  | now, _ :: es => executions now es

/-- What such a request leaves as it was: the devices of the tenant, and their rows. -/
structure Spared (tenant : Uuid) (s : Deployment) (devices : Table Device)
    (schedules : Table Schedule) : Prop where
  devices : ∀ d : Device, d.tenantId = tenant → (d ∈ devices ↔ d ∈ s.site.db.devices)
  rows : ∀ d ∈ s.site.db.devices, d.tenantId = tenant → ∀ r : Schedule, r.deviceId = d.id →
    (r ∈ schedules ↔ r ∈ s.schedules)

section Others

variable {tenant : Uuid} {s s' : Deployment}

/-- A change of devices of other tenants. -/
theorem spared_modify {p : Device → Bool} {f : Update Device}
    (h : ∀ d ∈ s.site.db.devices, p d = true →
      d.tenantId ≠ tenant ∧ (f.apply d).tenantId ≠ tenant) (d : Device)
    (htenant : d.tenantId = tenant) :
    d ∈ s.site.db.devices.modify p f ↔ d ∈ s.site.db.devices := by
  rw [Table.mem_modify]
  constructor
  · intro ⟨a, ha, he⟩
    by_cases hp : p a = true
    · rw [if_pos hp] at he
      exact absurd (he ▸ htenant) (h a ha hp).2
    · rw [if_neg hp] at he
      exact he ▸ ha
  · intro hd
    have hp : ¬ p d = true := fun hp => (h d hd hp).1 htenant
    exact ⟨d, hd, (if_neg hp).symm⟩

theorem applyDaily_spared {x : RequestChoices} {other : Uuid} {timeStr : String}
    {applyScope : ApplyScope} {affected : Nat} (hother : other ≠ tenant)
    (h : applyDailyToDevices x (s.site.activeDevices other) timeStr applyScope s =
      some (s', affected)) : ∃ devices schedules, Spared tenant s devices schedules ∧
        s' = (s.withDevices devices).withSchedules schedules := by
  obtain ⟨targets, hsub, -, hwritten, hs'⟩ := applyDaily_spec (nodup_activeDevices ..) h
  have htargets : ∀ d ∈ targets, d ∈ s.site.db.devices ∧ d.tenantId = other := by
    intro d hd
    obtain ⟨hmem, hfilter⟩ := List.mem_filter.mp (hsub.subset hd)
    exact ⟨hmem, of_decide_eq_true (Bool.and_eq_true_iff.mp hfilter).1⟩
  have hids : ∀ d ∈ s.site.db.devices, d.id ∈ targets.map Device.id → d.tenantId = other := by
    intro d hd hid
    obtain ⟨a, ha, hsame⟩ := List.mem_map.mp hid
    obtain rfl := Table.eq_of_key (htargets a ha).1 hd hsame
    exact (htargets a ha).2
  refine ⟨_, _, ⟨fun d htenant => spared_modify (fun a ha hp => ?_) d htenant,
    fun d hd htenant r hr => ?_⟩, hs'⟩
  · have hof := hids a ha (List.contains_iff_mem.mp hp)
    exact ⟨hof ▸ hother, hof ▸ hother⟩
  · exact hwritten.other r fun hid => hother ((hids d hd (hr ▸ hid)).symm.trans htenant)

/-- A request of another tenant, whatever it is. -/
theorem spared_step {e : RoutineEvent} (hspares : e.Spares tenant s) (hstep : e.step s = some s') :
    (∃ time, e = .wait time) ∨ (∃ x, e = .runScheduledBackups x) ∨
      (∀ now es, executions now (e :: es) = executions now es) ∧
        ∃ devices schedules, Spared tenant s devices schedules ∧
          s' = (s.withDevices devices).withSchedules schedules := by
  cases e with
  | wait time => exact .inl ⟨time, rfl⟩
  | runScheduledBackups x => exact .inr (.inl ⟨x, rfl⟩)
  | configure deviceGroups deviceSubgroups deviceTypes => exact hspares.elim
  | createDevice x limit data cutOff =>
    obtain ⟨d, devices, -, hof, -, hadd, hcases⟩ := createDevice_cases hstep
    have hother : d.tenantId ≠ tenant := hof ▸ hspares
    have hdevices : ∀ a : Device, a.tenantId = tenant → (a ∈ devices ↔ a ∈ s.site.db.devices) := by
      intro a htenant
      rw [Table.mem_of_add hadd]
      exact or_iff_right fun he => hother (he ▸ htenant)
    have hfresh : ∀ a ∈ s.site.db.devices, a.id ≠ d.id := by
      intro a ha hid
      have hnone := Table.add_isSome.mp (Option.isSome_of_eq_some hadd)
      have hfound : s.site.db.devices.find d.id = some a := Table.find_eq_some.mpr ⟨ha, hid⟩
      exact absurd (hnone.symm.trans hfound) nofun
    refine .inr (.inr ⟨fun _ _ => rfl, ?_⟩)
    rcases hcases with ⟨-, rfl⟩ | ⟨-, -, schedules, time, nextRun, hwritten, rfl⟩
    · exact ⟨devices, s.schedules, ⟨hdevices, fun _ _ _ _ _ => Iff.rfl⟩, rfl⟩
    · refine ⟨devices, schedules,
        ⟨hdevices, fun a ha _ r hr => hwritten.other r fun hid => ?_⟩, rfl⟩
      exact hfresh a ha (hr.symm.trans (List.mem_singleton.mp hid))
  | updateDevice x deviceId data cutOff =>
    obtain ⟨d, hd, rfl, t, rfl, hcases⟩ := updateDevice_cases hstep
    obtain ⟨hother, -⟩ := hspares d hd rfl
    have hdevices := spared_modify (s := s) (p := fun a => a.id = d.id) (f := data)
      fun a ha hp => hspares a ha (of_decide_eq_true hp)
    have hrows : ∀ a ∈ s.site.db.devices, a.tenantId = tenant → a.id ≠ d.id := by
      intro a ha htenant hid
      obtain rfl := Table.eq_of_key ha hd hid
      exact hother htenant
    refine .inr (.inr ⟨fun _ _ => rfl, ?_⟩)
    rcases hcases with ⟨-, rfl⟩ | ⟨-, -, schedules, time, nextRun, hwritten, rfl⟩ | ⟨-, -, rfl⟩
    · exact ⟨_, s.schedules, ⟨hdevices, fun _ _ _ _ _ => Iff.rfl⟩, rfl⟩
    · refine ⟨_, schedules,
        ⟨hdevices, fun a ha htenant r hr => hwritten.other r fun hid => ?_⟩, rfl⟩
      exact hrows a ha htenant (hr.symm.trans (List.mem_singleton.mp hid))
    · refine ⟨_, _, ⟨hdevices, fun a ha htenant r hr => ?_⟩, rfl⟩
      exact (stopSchedule_spec d.id).2.1 r fun hid => hrows a ha htenant (hr.symm.trans hid)
  | deleteDevice deviceId =>
    obtain rfl := Option.some.inj hstep
    refine .inr (.inr ⟨fun _ _ => rfl, _, s.schedules, ⟨spared_modify fun a ha hp => ?_,
      fun _ _ _ _ _ => Iff.rfl⟩, rfl⟩)
    have hother := hspares a ha (of_decide_eq_true hp)
    exact ⟨hother, hother⟩
  | applyDailySchedule x session tenantSlug form =>
    obtain ⟨reply, hok⟩ := toOption_map_fst hstep
    obtain ⟨other, affected, hslug, -, hdone⟩ := applyDailySchedule_ok hok
    exact .inr (.inr ⟨fun _ _ => rfl, applyDaily_spared (hspares other hslug) hdone⟩)
  | enableBackupQueueAll x session tenantSlug =>
    obtain ⟨reply, hok⟩ := toOption_map_fst hstep
    obtain ⟨other, dailyTime, affected, hslug, hdone⟩ := enableBackupQueueAll_ok hok
    exact .inr (.inr ⟨fun _ _ => rfl, applyDaily_spared (hspares other hslug) hdone⟩)

/-- The tenant's schedules are on time as before. -/
theorem OnTime.spared {time : String} {due : Int} {devices : Table Device}
    {schedules : Table Schedule} (h : OnTime s.site s.schedules tenant time due)
    (hspared : Spared tenant s devices schedules) :
    OnTime (s.withDevices devices).site schedules tenant time due := by
  have hrows : ∀ r, r ∈ schedules ∧ (s.withDevices devices).site.Counts tenant r ↔
      r ∈ s.schedules ∧ s.site.Counts tenant r := by
    intro r
    simp only [counts_iff]
    constructor
    · intro ⟨hr, hactive, d, hd, hid, htenant, henabled⟩
      have hold := (hspared.devices d htenant).mp hd
      exact ⟨(hspared.rows d hold htenant r hid.symm).mp hr, hactive, d, hold, hid, htenant,
        henabled⟩
    · intro ⟨hr, hactive, d, hd, hid, htenant, henabled⟩
      exact ⟨(hspared.rows d hd htenant r hid.symm).mpr hr, hactive, d,
        (hspared.devices d htenant).mpr hd, hid, htenant, henabled⟩
  constructor
  · intro r hr hcount
    obtain ⟨hr', hcount'⟩ := (hrows r).mp ⟨hr, hcount⟩
    exact h.times r hr' hcount'
  · intro now
    rw [← h.due now, isDue_iff_counts, isDue_iff_counts]
    refine exists_congr fun r => ?_
    rw [← and_assoc, hrows r, and_assoc]
  · intro d hd htenant henabled
    have hold := (hspared.devices d htenant).mp hd
    obtain ⟨r, hr, hid, hactive⟩ := h.cover d hold htenant henabled
    exact ⟨r, (hspared.rows d hold htenant r hid).mpr hr, hid, hactive⟩

end Others

/-! ## Whole runs -/

section Runs

variable {tenant : Uuid} {time : String} {reset : Int → Int} {s s' : Deployment}

theorem run_now {ρ : Type} (site : Site) (p : DbProgram ρ) (s : Scheduled) :
    (p.run (DbCommand.handle site) s).2.now = s.now := by
  induction p generalizing s with
  | ret r => rfl
  | call c next ih => exact (ih _ _).trans (handle_now c)

/-- While other requests spare the tenant, the executions are the polls of its alarm. -/
theorem onTime_run {es : List RoutineEvent} {due : Int}
    (hcanon : s.site.digits.sanitizeDailyTime time = time)
    (hreset : ∀ now, s.site.nextRunAt time (now + second) = reset now)
    (h : OnTime s.site s.schedules tenant time due)
    (hspares : Along RoutineEvent.step (fun s e => e.Spares tenant s) s es)
    (hrun : exec RoutineEvent.step s es = some s') :
    OnTime s'.site s'.schedules tenant time
      (alarmAfter reset due (executions s.scheduled.now es)) ∧
    ∀ d ∈ s.site.db.devices, d.tenantId = tenant → s.site.enabledDevice d = true →
      s.site.excluded d = false → handedOver s'.scheduled d.id =
        handedOver s.scheduled d.id + (rings reset due (executions s.scheduled.now es)).length := by
  induction es generalizing s due with
  | nil =>
    obtain rfl := Option.some.inj hrun
    exact ⟨h, fun _ _ _ _ _ => rfl⟩
  | cons e es ih =>
    obtain ⟨t, hstep, hrest⟩ := exec_cons hrun
    have hlater := hspares.2 t hstep
    rcases spared_step hspares.1 hstep with ⟨wait, rfl⟩ | ⟨x, rfl⟩ |
      ⟨hsame, devices, schedules, hspared, rfl⟩
    · obtain rfl := Option.some.inj hstep
      exact ih (s := { s with scheduled.now := s.scheduled.now + wait }) hcanon hreset h hlater
        hrest
    · obtain ⟨report, hreport, hsite⟩ := step_run hstep
      have hafter := h.run hcanon hreport
      have hnow : t.scheduled.now = s.scheduled.now := by
        have hclock := run_now s.site (runScheduledBackups s.site x) s.scheduled
        rwa [hreport] at hclock
      rw [hreset, ← hsite] at hafter
      obtain ⟨hon, hhanded⟩ := ih (hsite ▸ hcanon) (hsite ▸ hreset) hafter hlater hrest
      rw [hnow] at hon hhanded
      unfold executions rings alarmAfter
      refine ⟨?_, fun d hd htenant henabled hexcluded => ?_⟩
      · split_ifs at hon ⊢ with hdue
        · exact hon
        · exact hon
      · rw [hhanded d (hsite ▸ hd) htenant (hsite ▸ henabled) (hsite ▸ hexcluded),
          handedOver_run h.due hd htenant henabled hexcluded hreport]
        split_ifs with hdue
        · rw [List.length_cons]
          omega
        · omega
    · obtain ⟨hon, hhanded⟩ := ih (s := (s.withDevices devices).withSchedules schedules) hcanon
        hreset (h.spared hspared) hlater hrest
      rw [hsame]
      refine ⟨hon, fun d hd htenant henabled hexcluded => ?_⟩
      exact hhanded d ((hspared.devices d htenant).mpr hd) htenant henabled hexcluded

/-- Of several moments one is the first. -/
theorem exists_first {α : Type} {l : List α} (hne : l ≠ []) (f : α → Int) :
    ∃ a ∈ l, ∀ b ∈ l, f a ≤ f b := by
  cases hmin : l.argmin f with
  | none => exact absurd (List.argmin_eq_none.mp hmin) hne
  | some a => exact ⟨a, List.argmin_mem hmin, fun b hb => List.le_of_mem_argmin hb hmin⟩

/-- An enabled device is an active one that takes part. -/
theorem enabledDevice_eq (site : Site) (d : Device) : site.enabledDevice d =
    (site.activeDevice d && decide (d.backupScheduled = some true)) := by
  unfold Site.enabledDevice Site.activeDevice
  rw [Bool.and_assoc, Bool.and_assoc]
  congr 1
  exact Bool.and_comm ..

theorem mem_activeDevices {site : Site} {tenantId : Uuid} {d : Device} :
    d ∈ site.activeDevices tenantId ↔
      d ∈ site.db.devices ∧ d.tenantId = tenantId ∧ site.activeDevice d = true := by
  unfold Site.activeDevices
  rw [List.mem_filter, Bool.and_eq_true, decide_eq_true_eq]
  exact Iff.rfl

/-- Switching the active devices of a tenant on enables them, and no other device of it. -/
theorem enabled_switchOn (s : Deployment) (tenantId : Uuid) :
    let devices := switchOn ((s.site.activeDevices tenantId).map Device.id) s.site.db.devices
    (∀ d ∈ s.site.activeDevices tenantId, { d with backupScheduled := some true } ∈ devices ∧
      s.site.enabledDevice { d with backupScheduled := some true } = true) ∧
    ∀ d' ∈ devices, d'.tenantId = tenantId → s.site.enabledDevice d' = true →
      ∃ d ∈ s.site.activeDevices tenantId, d.id = d'.id := by
  intro devices
  constructor
  · intro d hd
    obtain ⟨hmem, -, hactive⟩ := mem_activeDevices.mp hd
    have hlisted := List.contains_iff_mem.mpr (List.mem_map_of_mem (f := Device.id) hd)
    refine ⟨Table.mem_modify.mpr ⟨d, hmem, ?_⟩, ?_⟩
    · rw [if_pos hlisted]
      rfl
    · rw [enabledDevice_eq, Bool.and_eq_true]
      exact ⟨hactive, rfl⟩
  · intro d' hd' htenant henabled
    rw [enabledDevice_eq, Bool.and_eq_true] at henabled
    obtain ⟨d, hd, he⟩ := Table.mem_modify.mp hd'
    have hsame : d.id = d'.id ∧ d.tenantId = d'.tenantId ∧
        s.site.activeDevice d = s.site.activeDevice d' := by
      rw [he]
      split_ifs
      · exact ⟨rfl, rfl, rfl⟩
      · exact ⟨rfl, rfl, rfl⟩
    exact ⟨d, mem_activeDevices.mpr ⟨hd, hsame.2.1.trans htenant, hsame.2.2.trans henabled.1⟩,
      hsame.1⟩

/-- Put on a daily time, the devices of a tenant are on time. -/
theorem onTime_applied {x : RequestChoices} {tenantId : Uuid} {timeStr : String} {affected : Nat}
    (hone : OneEach s.schedules) (hne : s.site.activeDevices tenantId ≠ [])
    (h : applyDailyToDevices x (s.site.activeDevices tenantId) timeStr .all s =
      some (s', affected)) :
    ∃ first ∈ s.site.activeDevices tenantId,
      (∀ d ∈ s.site.activeDevices tenantId,
        s.site.nextRunAt timeStr (s.scheduled.now + x.delay first.id) ≤
          s.site.nextRunAt timeStr (s.scheduled.now + x.delay d.id)) ∧
      OnTime s'.site s'.schedules tenantId (s.site.digits.sanitizeDailyTime timeStr)
        (s.site.nextRunAt timeStr (s.scheduled.now + x.delay first.id)) := by
  obtain ⟨targets, -, htargets, hwritten, hs'⟩ := applyDaily_spec (nodup_activeDevices ..) h
  obtain rfl := htargets rfl
  obtain ⟨hon, hback⟩ := enabled_switchOn s tenantId
  obtain ⟨first, hfirst, hleast⟩ := exists_first hne fun d =>
    s.site.nextRunAt timeStr (s.scheduled.now + x.delay d.id)
  have hdevices : s'.site.db.devices =
      switchOn ((s.site.activeDevices tenantId).map Device.id) s.site.db.devices := by
    rw [hs']
    rfl
  have henabled : ∀ d, s'.site.enabledDevice d = s.site.enabledDevice d := by
    rw [hs']
    exact fun _ => rfl
  -- each of the devices has one row, on the time
  have hrow : ∀ d ∈ s.site.activeDevices tenantId, ∃ r ∈ s'.schedules,
      r.deviceId = d.id ∧ r.isActive = some true := by
    intro d hd
    obtain ⟨r, hr, hid, hdaily⟩ := hwritten.row d.id (List.mem_map_of_mem hd)
    refine ⟨r, hr, hid, ?_⟩
    rw [← hdaily]
    rfl
  have hdaily : ∀ r ∈ s'.schedules, ∀ d ∈ s.site.activeDevices tenantId, d.id = r.deviceId →
      r.time = s.site.digits.sanitizeDailyTime timeStr ∧
      r.nextRunAt = some (s.site.nextRunAt timeStr (s.scheduled.now + x.delay d.id)) := by
    intro r hr d hd hid
    obtain ⟨w, hw, hwid, hw'⟩ := hwritten.row d.id (List.mem_map_of_mem hd)
    rw [hwritten.oneEach hone r hr w hw (hid.symm.trans hwid.symm), ← hw']
    exact ⟨rfl, rfl⟩
  have hcounted : ∀ r, s'.site.Counts tenantId r →
      ∃ d ∈ s.site.activeDevices tenantId, d.id = r.deviceId := by
    intro r hcount
    obtain ⟨-, d', hd', hid, htenant, hcounts⟩ := counts_iff.mp hcount
    obtain ⟨d, hd, hsame⟩ := hback d' (hdevices ▸ hd') htenant (henabled d' ▸ hcounts)
    exact ⟨d, hd, hsame.trans hid⟩
  refine ⟨first, hfirst, hleast, fun r hr hcount => ?_, fun now => ?_,
    fun d' hd' htenant hcounts => ?_⟩
  · obtain ⟨d, hd, hid⟩ := hcounted r hcount
    obtain ⟨htime, hnext⟩ := hdaily r hr d hd hid
    exact ⟨htime, hnext ▸ Option.some_ne_none _⟩
  · rw [isDue_iff_counts]
    constructor
    · intro ⟨r, hr, hcount, next, hnext, hle⟩
      obtain ⟨d, hd, hid⟩ := hcounted r hcount
      have hset := (hdaily r hr d hd hid).2
      have hbound := hleast d hd
      obtain rfl := Option.some.inj (hset.symm.trans hnext)
      exact Int.le_trans hbound hle
    · intro hle
      obtain ⟨r, hr, hid, hactive⟩ := hrow first hfirst
      obtain ⟨hmem, hcounts⟩ := hon first hfirst
      have hcount : s'.site.Counts tenantId r := by
        refine counts_iff.mpr ⟨hactive, { first with backupScheduled := some true },
          hdevices ▸ hmem, hid.symm, ?_, henabled _ ▸ hcounts⟩
        exact (mem_activeDevices.mp hfirst).2.1
      exact ⟨r, hr, hcount, _, (hdaily r hr first hfirst hid.symm).2, hle⟩
  · obtain ⟨d, hd, hsame⟩ := hback d' (hdevices ▸ hd') htenant (henabled d' ▸ hcounts)
    obtain ⟨r, hr, hid, hactive⟩ := hrow d hd
    exact ⟨r, hr, hid.trans hsame, hactive⟩

end Runs

/-- Two days later, a day later, and at once again. -/
def threeExecutions : List RoutineEvent :=
  [.wait 172800000000, .runScheduledBackups smallChoices, .wait 86400000000,
    .runScheduledBackups smallChoices, .runScheduledBackups smallChoices]

def atHalfPastFour : DailyForm where
  dailyTime := some "04:30"
  applyScope := some "all"

end BackupCenter.Scheduling
