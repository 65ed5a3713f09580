import BackupCenter.Scheduling.Dispatching

/-!
# Overlapping executions

Executions of the periodic task hand their tasks over before they commit, and nothing keeps one
from reading what another is about to change. A next run that has come is handed over once as
long as what an execution writes is not written between the start and the end of another one.
-/
namespace BackupCenter.Scheduling

open BackupCenter.Lib BackupCenter.Tenants

/-- The next run had come when the device was handed over. -/
def Dispatch.due (d : Dispatch) : Bool := decide (d.window ≤ d.now)

/-- The due windows that were handed over. -/
def dueWindows (ds : List Dispatch) : List (Uuid × Int) :=
  (ds.filter Dispatch.due).map fun d => (d.schedule, d.window)

/-- By now each due window has been handed over at most once. -/
structure Handed (ds : List Dispatch) (now : Int) : Prop where
  once : (dueWindows ds).Nodup
  clocked : ∀ d ∈ ds, d.now ≤ now

/-- Every schedule that was handed over in time has a later next run. -/
def MovedOn (schedules : Table Schedule) (ds : List Dispatch) : Prop :=
  ∀ d ∈ ds, d.due = true → ∃ r ∈ schedules, r.id = d.schedule ∧
    ∃ next, r.nextRunAt = some next ∧ d.window < next

/-- The command is a commit that succeeds. -/
def DbCommand.commits (s : Scheduled) : DbCommand → Bool
  | .commit added _ => (s.schedules.addAll added).isSome
  | _ => false

/-- If only the clock goes on between its commands, the program hands over no due window again,
and its commit moves on what it has handed over. -/
def Keeps (site : Site) {ρ : Type} : DbProgram ρ → Scheduled → Prop
  | .ret _, _ => True
  | .call c next, s => ∀ now, s.now ≤ now →
    Handed (c.handle site { s with now := now }).2.dispatched now ∧
    (c.commits s = true → MovedOn (c.handle site { s with now := now }).2.schedules
      (c.handle site { s with now := now }).2.dispatched) ∧
    Keeps site (next (c.handle site { s with now := now }).1)
      (c.handle site { s with now := now }).2

section Alone

variable {site : Site} {x : Choices} {now : Int} {s : Scheduled} {ρ : Type} {p : DbProgram ρ}

theorem Keeps.later (h : Keeps site p s) {later : Int} (hle : s.now ≤ later) :
    Keeps site p { s with now := later } := by
  cases p with
  | ret r => trivial
  | call c next => exact fun now hnow => h now (Int.le_trans hle hnow)

theorem Handed.later {ds : List Dispatch} (h : Handed ds now) {later : Int} (hle : now ≤ later) :
    Handed ds later :=
  ⟨h.once, fun d hd => Int.le_trans (h.clocked d hd) hle⟩

theorem dueWindows_append (ds es : List Dispatch) :
    dueWindows (ds ++ es) = dueWindows ds ++ dueWindows es := by
  unfold dueWindows
  rw [List.filter_append, List.map_append]

/-- What holds of the whole list holds of what comes first. -/
theorem Handed.of_append {ds es : List Dispatch} (h : Handed (ds ++ es) now) : Handed ds now := by
  have hwindows := h.once
  rw [dueWindows_append] at hwindows
  exact ⟨hwindows.sublist (List.sublist_append_left _ _),
    fun d hd => h.clocked d (List.mem_append_left _ hd)⟩

/-- A command that reads hands nothing over. -/
theorem keeps_read {c : DbCommand} {k : c.Answer → DbProgram ρ}
    (h : Handed s.dispatched s.now)
    (hread : ∀ now, (c.handle site { s with now := now }).2 = { s with now := now })
    (hcommits : c.commits s = false)
    (hk : ∀ now, s.now ≤ now →
      Keeps site (k (c.handle site { s with now := now }).1) { s with now := now }) :
    Keeps site (Prog.ask c >>= k) s := by
  intro now hnow
  rw [hread now, hcommits]
  exact ⟨h.later hnow, nofun, hk now hnow⟩

/-- Handing over a list of tasks, and then going on. -/
theorem keeps_enqueueAll {rows : List Tracked} {es : List Enqueued} {k : Unit → DbProgram ρ}
    (h : Handed (s.dispatched ++ es.flatMap (dispatches now rows)) s.now)
    (hk : Keeps site (k ())
      { s with queue := s.queue ++ es
               dispatched := s.dispatched ++ es.flatMap (dispatches now rows) }) :
    Keeps site (enqueueAll now rows es >>= k) s := by
  induction es generalizing s with
  | nil =>
    simp only [List.flatMap_nil, List.append_nil] at hk
    exact hk
  | cons e es ih =>
    intro later hlater
    rw [List.flatMap_cons, ← List.append_assoc] at h hk
    refine ⟨h.of_append.later hlater, nofun, ih (h.later hlater) ?_⟩
    have hlaterk := hk.later hlater
    rw [← List.singleton_append, ← List.append_assoc] at hlaterk
    exact hlaterk

/-- The batches of the tenants, and then going on. -/
theorem keeps_runTenants {tenants : List Uuid} {b : Batch} {k : Batch → DbProgram ρ}
    (h : Handed (s.dispatched ++ batchDispatches site x now tenants b.rows) s.now)
    (hk : ∀ b' queue, b'.rows = finishTenants site now tenants b.rows →
      Keeps site (k b') { s with
        queue := queue
        dispatched := s.dispatched ++ batchDispatches site x now tenants b.rows }) :
    Keeps site (runTenants site x now tenants b >>= k) s := by
  induction tenants generalizing b s with
  | nil =>
    have hdone := hk b s.queue rfl
    unfold batchDispatches at hdone
    rw [List.append_nil] at hdone
    exact hdone
  | cons tenant tenants ih =>
    unfold batchDispatches at h hk
    rw [← List.append_assoc] at h hk
    unfold runTenants runTenant
    rw [Prog.bind_assoc, Prog.bind_assoc]
    exact keeps_enqueueAll h.of_append (ih h fun b' queue hb' => hk b' queue hb')

/-- A commit that succeeds, as long as it moves on what was handed over. -/
theorem keeps_commit {added : List Schedule} {rows : List Tracked} {table : Table Schedule}
    {k : Bool → DbProgram ρ} (hadded : s.schedules.addAll added = some table)
    (h : Handed s.dispatched s.now)
    (hmoved : MovedOn (table.modify (fun _ => true) (updates rows)) s.dispatched)
    (hk : ∀ t, Keeps site (k true) t) :
    Keeps site (Prog.ask (DbCommand.commit added rows) >>= k) s := by
  intro now hnow
  have hhandle := @handle_commit site { s with now := now } added rows table hadded
  rw [hhandle]
  exact ⟨h.later hnow, fun _ => hmoved, hk _⟩

/-! ## What an execution hands over and commits -/

variable {schedules table : Table Schedule} {added : List Schedule} {rows : List Tracked}
  {ds : List Dispatch}

/-- The objects after the first loop. -/
theorem Session.visited (h : Session site now schedules added rows table) :
    (∀ t ∈ (initialiseRows site now [] rows).rows, t.SameRow ∧ t.Visited now ∧ t.loaded ∈ table ∧
      site.enabledSchedule t.loaded = true) ∧
    ((initialiseRows site now [] rows).rows.map (·.current.id)).Nodup := by
  obtain ⟨hloaded, hall⟩ := @initialiseRows_rows site now [] rows
  have hrows := hall (List.forall_mem_nil _) h.untouched
  constructor
  · intro t ht
    obtain ⟨hsame, hvisited⟩ := hrows t ht
    have hmem : t.loaded ∈ rows.map Tracked.loaded := hloaded ▸ List.mem_map_of_mem ht
    exact ⟨hsame, hvisited, (h.loaded _).mp hmem⟩
  · have hids : (initialiseRows site now [] rows).rows.map (·.current.id) =
        ((initialiseRows site now [] rows).rows.map Tracked.loaded).map Schedule.id := by
      rw [List.map_map]
      exact List.map_congr_left fun t ht => (hrows t ht).1.id
    rw [hids, hloaded, List.map_map]
    exact h.nodup

/-- A due window that is handed over is the next run that was stored. -/
theorem Session.window (h : Session site now schedules added rows table) {tenants : List Uuid}
    (hnodup : tenants.Nodup) {d : Dispatch} (hdue : d.due = true)
    (hd : d ∈ batchDispatches site x now tenants (initialiseRows site now [] rows).rows) :
    ∃ r ∈ table, site.enabledSchedule r = true ∧ r.id = d.schedule ∧
      r.nextRunAt = some d.window ∧ d.window ≤ now ∧
      ∃ tenant ∈ tenants, site.tenantOf r = some tenant := by
  obtain ⟨t, ht, hid, hwindow, hnow, tenant, hmem, htenant⟩ := mem_batchDispatches hnodup hd
  obtain ⟨hsame, ⟨next, hnext, hor⟩, htable, henabled⟩ := h.visited.1 t ht
  obtain rfl := Option.some.inj (hnext.symm.trans hwindow)
  have hle : d.window ≤ now := hnow ▸ of_decide_eq_true hdue
  refine ⟨t.loaded, htable, henabled, hsame.id.symm.trans hid, ?_, hle, tenant, hmem,
    hsame.tenantOf.symm.trans htenant⟩
  rcases hor with hstored | ⟨-, hlater⟩
  · exact hstored
  · omega

/-- What an execution hands over has not been handed over before. -/
theorem Session.handed (h : Session site now schedules added rows table) (hds : Handed ds now)
    (hmoved : MovedOn schedules ds) {tenants : List Uuid} (hnodup : tenants.Nodup) :
    Handed (ds ++ batchDispatches site x now tenants (initialiseRows site now [] rows).rows)
      now := by
  constructor
  · rw [dueWindows_append, List.nodup_append]
    refine ⟨hds.once, ?_, fun window hold other hnew hsame => ?_⟩
    · have hschedules := (List.filter_sublist (p := Dispatch.due)).map Dispatch.schedule |>.nodup
        (@nodup_batchDispatches site x now _ _ hnodup h.visited.2)
      refine List.Nodup.of_map Prod.fst ?_
      unfold dueWindows
      rw [List.map_map]
      exact hschedules
    · obtain ⟨d, hd, rfl⟩ := List.mem_map.mp hold
      obtain ⟨d', hd', rfl⟩ := List.mem_map.mp hnew
      obtain ⟨hd, hdue⟩ := List.mem_filter.mp hd
      obtain ⟨hd', hdue'⟩ := List.mem_filter.mp hd'
      obtain ⟨hschedule, hwindow⟩ := Prod.mk.inj hsame
      obtain ⟨r, hr, hid, next, hnext, hlt⟩ := hmoved d hd hdue
      obtain ⟨r', hr', -, hid', hnext', -⟩ := h.window hnodup hdue' hd'
      have hrow : r = r' := Table.eq_of_key ((mem_of_addAll h.inserted).mpr (.inl hr)) hr'
        (hid.trans (hschedule.trans hid'.symm))
      rw [hrow, hnext'] at hnext
      have hsame' := Option.some.inj hnext
      omega
  · intro d hd
    rcases List.mem_append.mp hd with hd | hd
    · exact hds.clocked d hd
    · obtain ⟨-, -, -, -, hnow, -⟩ := mem_batchDispatches hnodup hd
      exact Int.le_of_eq hnow

/-- After the commit a row has a later next run than a window that has come, if it had one
before or its tenant was due. -/
theorem Session.moves (h : Session site now schedules added rows table) {r : Schedule}
    {window next : Int} (hr : r ∈ table) (hnext : r.nextRunAt = some next) (hle : window ≤ now)
    (hor : window < next ∨ site.enabledSchedule r = true ∧
      ∃ tenant, site.tenantOf r = some tenant ∧ site.isDue now schedules tenant = true) :
    ∃ r' ∈ table.modify (fun _ => true) (updates (finishedRows site now rows)), r'.id = r.id ∧
      ∃ next', r'.nextRunAt = some next' ∧ window < next' := by
  obtain ⟨hloaded, hsame, hvisited, hsettled⟩ := h.finished
  obtain ⟨hwritten, hleft⟩ := apply_updates hloaded hsame hr
  refine ⟨_, Table.mem_modify.mpr ⟨r, hr, rfl⟩, Update.keeps _ r, ?_⟩
  rw [if_pos rfl]
  by_cases he : site.enabledSchedule r = true
  · obtain ⟨t, ht, rfl, happly⟩ := hwritten he
    rw [happly]
    by_cases hdue : ∃ tenant, site.tenantOf t.loaded = some tenant ∧
        site.isDue now schedules tenant = true
    · obtain ⟨tenant, htenant, hdue⟩ := hdue
      obtain ⟨_, next', hlater, hall⟩ := hsettled tenant hdue
      have hrow := hall t ht ((hsame t ht).tenantOf.trans htenant)
      exact ⟨next', hrow.2, by omega⟩
    · have hnot : ∀ tenant, site.tenantOf t.loaded = some tenant →
          site.isDue now schedules tenant ≠ true :=
        fun tenant htenant htrue => hdue ⟨tenant, htenant, htrue⟩
      obtain ⟨next', hcurrent, hstored⟩ := hvisited t ht hnot
      have hlt : window < next := hor.resolve_right fun hboth => hdue hboth.2
      rcases hstored with hstored | ⟨hnone, -⟩
      · obtain rfl := Option.some.inj (hnext.symm.trans hstored)
        exact ⟨next, hcurrent, hlt⟩
      · exact nomatch hnone.symm.trans hnext
  · rw [hleft he]
    exact ⟨next, hnext, hor.resolve_right fun hboth => he hboth.1⟩

/-- The commit moves on every schedule that was handed over. -/
theorem Session.movedOn (h : Session site now schedules added rows table) (hds : Handed ds now)
    (hmoved : MovedOn schedules ds) :
    MovedOn (table.modify (fun _ => true) (updates (finishedRows site now rows)))
      (ds ++ batchDispatches site x now (sortedIds (initialiseRows site now [] rows).due)
        (initialiseRows site now [] rows).rows) := by
  intro d hd hdue
  rcases List.mem_append.mp hd with hold | hnew
  · obtain ⟨r, hr, hid, next, hnext, hlt⟩ := hmoved d hold hdue
    have hle : d.window ≤ now := Int.le_trans (of_decide_eq_true hdue) (hds.clocked d hold)
    obtain ⟨r', hr', hid', hlater⟩ := h.moves ((mem_of_addAll h.inserted).mpr (.inl hr)) hnext hle
      (.inl hlt)
    exact ⟨r', hr', hid'.trans hid, hlater⟩
  · obtain ⟨r, hr, henabled, hid, hnext, hle, tenant, hmem, htenant⟩ :=
      h.window (nodup_sortedIds _) hdue hnew
    obtain ⟨r', hr', hid', hlater⟩ := h.moves hr hnext hle
      (.inr ⟨henabled, tenant, htenant, h.due_iff.mp hmem⟩)
    exact ⟨r', hr', hid'.trans hid, hlater⟩

/-- An execution that has read the schedules keeps to them until its commit. -/
theorem Session.keeps (h : Session site now s.schedules added rows table)
    (hds : Handed s.dispatched now) (hmoved : MovedOn s.schedules s.dispatched)
    (hle : now ≤ s.now) :
    Keeps site (runRows site x now added rows) s := by
  unfold runRows
  apply keeps_runTenants
  · exact (h.handed hds hmoved (nodup_sortedIds _)).later hle
  · intro b queue hb
    have hrows : b.rows = finishedRows site now rows := hb
    apply keeps_commit
    · exact h.inserted
    · exact (h.handed hds hmoved (nodup_sortedIds _)).later hle
    · rw [hrows]
      exact h.movedOn hds hmoved
    · intro t
      trivial

/-- **An execution that starts when all that was handed over has moved on** hands over no due
window again, if nobody else writes until its commit. -/
theorem keeps_runScheduledBackups (hds : Handed s.dispatched s.now)
    (hmoved : MovedOn s.schedules s.dispatched) : Keeps site (runScheduledBackups site x) s := by
  unfold runScheduledBackups
  apply keeps_read hds (fun _ => rfl) rfl
  intro now hnow
  have hds := hds.later hnow
  apply keeps_read ?_ (fun _ => rfl) rfl
  · intro t ht
    change Keeps site (if newSchedules site x now (firstRows site x s.schedules) = [] then _
      else _) _
    split_ifs with hadded
    · exact @Session.keeps _ _ _ { s with now := t } _ _ _ (session_of_first hadded) hds hmoved ht
    · apply keeps_read ?_ (fun _ => rfl) rfl
      · intro t₁ ht₁
        change Keeps site (if (s.schedules.addAll (newSchedules site x now
          (firstRows site x s.schedules))).isSome = true then _ else _) _
        split_ifs with hflushed
        · obtain ⟨table, hinserted⟩ := Option.isSome_iff_exists.mp hflushed
          apply keeps_read ?_ (fun _ => rfl) rfl
          · intro t₂ ht₂
            have hle : now ≤ t₂ := Int.le_trans ht (Int.le_trans ht₁ ht₂)
            exact @Session.keeps _ _ _ { s with now := t₂ } _ _ _ (session_of_second hinserted) hds
              hmoved hle
          · exact (hds.later ht).later ht₁
        · trivial
      · exact hds.later ht
  · exact hds

end Alone

/-! ## Executions that overlap -/

/-- Executions of the task over one store and one broker, while the clock goes on. An execution
that fails is one that does not go on. -/
def beatSemantics (site : Site) :
    Semantics Scheduled DbCommand DbCommand.Answer (Option Report) Choices Nat where
  handle := DbCommand.handle site
  program := runScheduledBackups site
  environment passed s := some { s with now := s.now + passed }

/-- A task was enqueued, or a row was written. -/
def Scheduled.enqueued (s s' : Scheduled) : Bool := decide (s.queue.length < s'.queue.length)

def Scheduled.wrote (s s' : Scheduled) : Bool := decide (s'.schedules.rows ≠ s.schedules.rows)

/-- The system, with what a lock or a check before the writes would have to know. -/
structure Beats where
  run : Clients Scheduled DbCommand DbCommand.Answer (Option Report)
  /-- Nobody else has enqueued or written since the execution started. -/
  undisturbed : Nat → Bool := fun _ => false
  /-- Tasks have been enqueued whose schedules have not been written. -/
  unfinished : Bool := false

def beatStep (site : Site) (r : Beats) (e : ClientEvent Choices Nat) : Option Beats :=
  (clientStep (beatSemantics site) r.run e).map fun run =>
    let enqueued := r.run.shared.enqueued run.shared
    let wrote := r.run.shared.wrote run.shared
    match e with
    | .spawn _ =>
      { r with run := run
               undisturbed := fun j => j = r.run.clients.length || r.undisturbed j }
    | .advance i =>
      { run := run
        undisturbed := fun j => r.undisturbed j && (!(enqueued || wrote) || j = i)
        unfinished := enqueued || r.unfinished && !wrote }
    | .env _ => { r with run := run }

/-- No execution starts while tasks of another are waiting for its commit, and none enqueues or
writes after another has done so since its start. -/
def Separate (site : Site) (r : Beats) : ClientEvent Choices Nat → Prop
  | .spawn _ => r.unfinished = false
  | .advance i => ∀ run, clientStep (beatSemantics site) r.run (.advance i) = some run →
      (r.run.shared.enqueued run.shared || r.run.shared.wrote run.shared) = true →
        r.undisturbed i = true
  | .env _ => True

/-- Whether a step is separate can be evaluated. -/
instance separateDecidable (site : Site) (r : Beats) :
    (e : ClientEvent Choices Nat) → Decidable (Separate site r e)
  | .spawn _ => inferInstanceAs (Decidable (r.unfinished = false))
  | .advance i =>
    decidable_of_iff (((clientStep (beatSemantics site) r.run (.advance i)).all fun run =>
      !(r.run.shared.enqueued run.shared || r.run.shared.wrote run.shared) ||
        r.undisturbed i) = true) <| by
      simp only [Option.all_eq_true, Separate, Bool.or_eq_true, Bool.not_eq_true',
        ← Bool.not_eq_true, ← imp_iff_not_or]
  | .env _ => inferInstanceAs (Decidable True)

section System

variable {site : Site} {s s' : Scheduled} {r r' : Beats} {e : ClientEvent Choices Nat}

/-- A command that neither enqueues nor writes changes nothing. -/
theorem handle_of_quiet (c : DbCommand)
    (h : (s.enqueued (c.handle site s).2 || s.wrote (c.handle site s).2) = false) :
    (c.handle site s).2 = s := by
  obtain ⟨henqueued, hwrote⟩ := Bool.or_eq_false_iff.mp h
  cases c with
  | utcNow => rfl
  | querySchedules pending => rfl
  | flush added => rfl
  | enqueue e ds =>
    have hlength := of_decide_eq_false henqueued
    simp [DbCommand.handle] at hlength
  | commit added rows =>
    cases hadded : s.schedules.addAll added with
    | none => rw [handle_commit_taken hadded]
    | some table =>
      rw [handle_commit hadded] at hwrote ⊢
      have hsame : table.modify (fun _ => true) (updates rows) = s.schedules :=
        Table.eq_of_rows (not_not.mp (of_decide_eq_false hwrote))
      rw [hsame]

theorem handle_now (c : DbCommand) : (c.handle site s).2.now = s.now := by
  cases c with
  | commit added rows =>
    unfold DbCommand.handle
    dsimp only
    split <;> rfl
  | _ => rfl

/-- A command that writes is a commit that succeeds. -/
theorem commits_of_wrote (c : DbCommand) (h : s.wrote (c.handle site s).2 = true) :
    c.commits s = true := by
  have hne := of_decide_eq_true h
  cases c with
  | commit added rows =>
    cases hadded : s.schedules.addAll added with
    | none =>
      rw [handle_commit_taken hadded] at hne
      exact absurd rfl hne
    | some table =>
      show (s.schedules.addAll added).isSome = true
      rw [hadded]
      rfl
  | _ => exact absurd rfl hne

/-- What the executions keep to: no due window was handed over twice; unless a commit is
missing, all that were have moved on; and whoever is undisturbed keeps it so. -/
structure Beats.Inv (site : Site) (r : Beats) : Prop where
  handed : Handed r.run.shared.dispatched r.run.shared.now
  movedOn : r.unfinished = false → MovedOn r.run.shared.schedules r.run.shared.dispatched
  keeps : ∀ i p, r.undisturbed i = true → r.run.clients[i]? = some p → Keeps site p r.run.shared

theorem Beats.Inv.spawn (h : r.Inv site) {x : Choices} (hok : Separate site r (.spawn x))
    (hs : beatStep site r (.spawn x) = some r') : r'.Inv site := by
  obtain rfl := Option.some.inj hs
  constructor
  · exact h.handed
  · exact h.movedOn
  · intro i p hi hp
    rcases Nat.lt_or_ge i r.run.clients.length with hlt | hge
    · have hold : r.undisturbed i = true := by
        rcases Bool.or_eq_true_iff.mp hi with hi | hi
        · have heq := of_decide_eq_true hi
          omega
        · exact hi
      change (r.run.clients ++ _)[i]? = _ at hp
      rw [List.getElem?_append_left hlt] at hp
      exact h.keeps i p hold hp
    · change (r.run.clients ++ _)[i]? = _ at hp
      rw [List.getElem?_append_right hge] at hp
      obtain rfl := List.mem_singleton.mp (List.mem_of_getElem? hp)
      exact keeps_runScheduledBackups h.handed (h.movedOn hok)

theorem Beats.Inv.advance (h : r.Inv site) {i : Nat} (hok : Separate site r (.advance i))
    (hs : beatStep site r (.advance i) = some r') : r'.Inv site := by
  obtain ⟨run, hrun, rfl⟩ := Option.map_eq_some_iff.mp hs
  obtain ⟨c, next, hc, hshared, hclients⟩ := clientStep_advance hrun
  have hown : r.undisturbed i = true →
      Handed run.shared.dispatched run.shared.now ∧
      (c.commits r.run.shared = true → MovedOn run.shared.schedules run.shared.dispatched) ∧
      Keeps site (next (c.handle site r.run.shared).1) run.shared := by
    intro hi
    have hnow : run.shared.now = r.run.shared.now := hshared ▸ handle_now c
    obtain ⟨hhanded, hmoved, hnext⟩ := h.keeps i _ hi hc _ (Int.le_refl _)
    rw [hnow, hshared]
    exact ⟨hhanded, hmoved, hnext⟩
  have hmover : ∀ p, run.clients[i]? = some p → p = next (c.handle site r.run.shared).1 := by
    intro p hp
    have hlt := (List.getElem?_eq_some_iff.mp hc).1
    rw [hclients, List.getElem?_set_self hlt] at hp
    exact (Option.some.inj hp).symm
  cases hquiet : r.run.shared.enqueued run.shared || r.run.shared.wrote run.shared with
  | false =>
    have hsame : run.shared = r.run.shared := by
      rw [hshared] at hquiet ⊢
      exact handle_of_quiet c hquiet
    obtain ⟨henqueued, hwrote⟩ := Bool.or_eq_false_iff.mp hquiet
    constructor
    · exact hsame ▸ h.handed
    · intro hunfinished
      have hold : r.unfinished = false := by simpa [henqueued, hwrote] using hunfinished
      exact hsame ▸ h.movedOn hold
    · intro j p hj hp
      have hold := (Bool.and_eq_true_iff.mp hj).1
      by_cases hji : j = i
      · subst hji
        exact hmover p hp ▸ (hown hold).2.2
      · rw [hclients, List.getElem?_set_ne (Ne.symm hji)] at hp
        exact hsame ▸ h.keeps j p hold hp
  | true =>
    obtain ⟨hhanded, hmoved, hnext⟩ := hown (hok run hrun hquiet)
    constructor
    · exact hhanded
    · intro hunfinished
      have henqueued := (Bool.or_eq_false_iff.mp hunfinished).1
      have hwrote : r.run.shared.wrote run.shared = true := by
        rw [henqueued] at hquiet
        exact hquiet
      rw [hshared] at hwrote
      exact hmoved (commits_of_wrote c hwrote)
    · intro j p hj hp
      have hmoves := (Bool.and_eq_true_iff.mp hj).2
      rw [hquiet] at hmoves
      obtain rfl : j = i := of_decide_eq_true hmoves
      exact hmover p hp ▸ hnext

theorem Beats.Inv.env (h : r.Inv site) {passed : Nat}
    (hs : beatStep site r (.env passed) = some r') : r'.Inv site := by
  obtain rfl := Option.some.inj hs
  have hle : r.run.shared.now ≤ r.run.shared.now + passed := by omega
  constructor
  · exact h.handed.later hle
  · exact h.movedOn
  · exact fun i p hi hp => (h.keeps i p hi hp).later hle

theorem Beats.Inv.step (h : r.Inv site) (hok : Separate site r e)
    (hs : beatStep site r e = some r') : r'.Inv site := by
  cases e with
  | spawn x => exact h.spawn hok hs
  | advance i => exact h.advance hok hs
  | env passed => exact h.env hs

theorem Beats.start_inv (s : Scheduled) (h : s.dispatched = []) :
    Beats.Inv site { run := { shared := s } } := by
  constructor
  · constructor
    · rw [h]
      exact List.nodup_nil
    · rw [h]
      exact List.forall_mem_nil _
  · intro _
    show MovedOn s.schedules s.dispatched
    rw [h]
    exact List.forall_mem_nil _
  · exact fun i p hi _ => nomatch hi

end System

/-- **A due window is handed over at most once**, in every run whose executions do not get
between the start of another one and its commit. -/
theorem due_windows_once (site : Site) (s : Scheduled) (es : List (ClientEvent Choices Nat))
    (r : Beats) (hstart : s.dispatched = [])
    (hok : Along (beatStep site) (Separate site) { run := { shared := s } } es)
    (hrun : exec (beatStep site) { run := { shared := s } } es = some r) :
    (dueWindows r.run.shared.dispatched).Nodup :=
  (exec_invariant (fun _ _ _ h hok hs => h.step hok hs) (Beats.start_inv s hstart) hok
    hrun).handed.once

/-- The windows that were handed over, also of schedules whose next run had not come. -/
def windows (ds : List Dispatch) : List (Uuid × Int) := ds.map fun d => (d.schedule, d.window)

/-- Two devices of one tenant without groups. -/
def pairSite : Site where
  env := .ascii
  digits := .onlyAscii
  zone := .fixed (-3 * hour)
  db := { devices := { rows := [plainDevice 10 none [], plainDevice 11 none []] } }

/-- The next run of the first device has come, that of the second is today at its time. -/
def dueAndLater : Scheduled where
  now := 10 * day
  schedules :=
    { rows := [{ id := 30, deviceId := 10, time := "3:00", nextRunAt := some 0 },
        { id := 31, deviceId := 11, time := "3:00", nextRunAt := some (10 * day + 6 * hour) }] }

/-- The second execution starts before the first one has enqueued. -/
def overlapping : List (ClientEvent Choices Nat) :=
  [.spawn smallChoices, .spawn smallChoices] ++ List.replicate 3 (.advance 0) ++
    List.replicate 3 (.advance 1)

/-- The first execution fails after it has enqueued. -/
def failing : List (ClientEvent Choices Nat) :=
  .spawn smallChoices :: List.replicate 3 (.advance 0) ++
    .spawn smallChoices :: List.replicate 3 (.advance 1)

/-- The second execution starts six hours after the first one has committed. -/
def twoBeats : List (ClientEvent Choices Nat) :=
  .spawn smallChoices :: List.replicate 5 (.advance 0) ++
    .env (6 * 3600 * 1000000) :: .spawn smallChoices :: List.replicate 5 (.advance 1)

/-- A run to which a property of the dispatches can be applied. -/
theorem windows_of_run (es : List (ClientEvent Choices Nat))
    (f : List Dispatch → List (Uuid × Int)) (l : List (Uuid × Int))
    (h : (exec (beatStep pairSite) { run := { shared := dueAndLater } } es).map
      (fun r => f r.run.shared.dispatched) = some l) :
    ∃ r, exec (beatStep pairSite) { run := { shared := dueAndLater } } es = some r ∧
      f r.run.shared.dispatched = l :=
  Option.map_eq_some_iff.mp h

/-- Overlapping executions hand one window over twice; so does the next one after a failed commit,
even if only due windows count; and a device that is enqueued with another one's window is enqueued
again when its own has come. -/
theorem overlapping_windows_twice :
    (¬ ∀ (site : Site) (s : Scheduled) (es : List (ClientEvent Choices Nat)) (r : Beats),
      s.dispatched = [] → exec (beatStep site) { run := { shared := s } } es = some r →
      (windows r.run.shared.dispatched).Nodup) ∧
    (¬ ∀ (site : Site) (s : Scheduled) (es : List (ClientEvent Choices Nat)) (r : Beats),
      s.dispatched = [] → exec (beatStep site) { run := { shared := s } } es = some r →
      (dueWindows r.run.shared.dispatched).Nodup) ∧
    ¬ ∀ (site : Site) (s : Scheduled) (es : List (ClientEvent Choices Nat)) (r : Beats),
      s.dispatched = [] → Along (beatStep site) (Separate site) { run := { shared := s } } es →
      exec (beatStep site) { run := { shared := s } } es = some r →
      (windows r.run.shared.dispatched).Nodup := by
  refine ⟨fun hall => ?_, fun hall => ?_, fun hall => ?_⟩
  · obtain ⟨r, hrun, hwindows⟩ := windows_of_run overlapping windows
      [(30, 0), (30, 0)] (by decide +kernel)
    have hnodup := hall pairSite dueAndLater overlapping r rfl hrun
    rw [hwindows] at hnodup
    exact absurd hnodup (by decide)
  · obtain ⟨r, hrun, hwindows⟩ := windows_of_run failing dueWindows
      [(30, 0), (30, 0)] (by decide +kernel)
    have hnodup := hall pairSite dueAndLater failing r rfl hrun
    rw [hwindows] at hnodup
    exact absurd hnodup (by decide)
  · obtain ⟨r, hrun, hwindows⟩ := windows_of_run twoBeats windows
      [(30, 0), (31, 10 * day + 6 * hour), (30, 10 * day + 6 * hour),
        (31, 10 * day + 6 * hour)] (by decide +kernel)
    have hnodup :=
      hall pairSite dueAndLater twoBeats r rfl (along_of_check (by decide +kernel)) hrun
    rw [hwindows] at hnodup
    exact absurd hnodup (by decide)

/-- Two executions one after the other. -/
theorem two_beats_once :
    ((exec (beatStep pairSite) { run := { shared := dueAndLater } } twoBeats).map fun r =>
      dueWindows r.run.shared.dispatched) =
        some [(30, 0), (30, 10 * day + 6 * hour), (31, 10 * day + 6 * hour)] ∧
    ∀ r, exec (beatStep pairSite) { run := { shared := dueAndLater } } twoBeats = some r →
      (dueWindows r.run.shared.dispatched).Nodup :=
  ⟨by decide +kernel, fun r hrun =>
    due_windows_once pairSite dueAndLater twoBeats r rfl (along_of_check (by decide +kernel)) hrun⟩

end BackupCenter.Scheduling
