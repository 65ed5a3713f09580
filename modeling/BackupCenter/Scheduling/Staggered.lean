import BackupCenter.Lib.Turns
import BackupCenter.Scheduling.Routing

/-!
# The staggered order of a jump phase

Sessions are handed out bastion by bastion in turn, so that no bastion meets a crowd while another
one idles, and the sessions of one bastion are spread in time. The loop below is the one of the
worker, with its dictionary of counters and its number of remaining items; it takes the fair
turns of the library.
-/
namespace BackupCenter.Scheduling

open BackupCenter.Lib BackupCenter.Tenants

variable {α β : Type} [ToString β]

/-- What the loop writes: `counters`, `ordered` and `remaining`. -/
structure Interleaved (α : Type) where
  counters : String → Nat
  ordered : List (α × Int)
  remaining : Nat

/-- One element popped from the bucket of `key`. -/
def Interleaved.emit (step : Int) (key : String) (it : α) (st : Interleaved α) : Interleaved α where
  counters := Function.update st.counters key (st.counters key + 1)
  ordered := st.ordered ++ [(it, st.counters key * step)]
  remaining := st.remaining - 1

/-- `for key, lst in buckets.items()` -/
def roundOfBuckets (step : Int) : List (String × List α) → Interleaved α →
    List (String × List α) × Interleaved α
  | [], st => ([], st)
  | (key, []) :: rest, st =>
    let (rest', st') := roundOfBuckets step rest st
    ((key, []) :: rest', st')
  | (key, it :: lst) :: rest, st =>
    let (rest', st') := roundOfBuckets step rest (st.emit step key it)
    ((key, lst) :: rest', st')

/-- `while remaining > 0`; without a result when the rounds do not suffice. -/
def whileRemaining (step : Int) : Nat → List (String × List α) → Interleaved α →
    Option (List (α × Int))
  | 0, _, st => if 0 < st.remaining then none else some st.ordered
  | rounds + 1, buckets, st =>
    if 0 < st.remaining then
      let (buckets', st') := roundOfBuckets step buckets st
      whileRemaining step rounds buckets' st'
    else some st.ordered

/-- `_interleave_by_bastion` -/
def interleaveByBastion (items : List α) (bastionOf : α → β) (staggerSeconds : Int) :
    Option (List (α × Int)) :=
  let buckets := bucketBy (fun it => toString (bastionOf it)) items
  let step := max 0 staggerSeconds
  whileRemaining step items.length buckets
    { counters := fun _ => 0
      ordered := []
      remaining := (buckets.map fun b => b.2.length).sum }

/-! ## The loop takes turns -/

/-- The buckets with what has been counted of each. -/
def counted (counters : String → Nat) (buckets : List (String × List α)) :
    List (String × Nat × List α) :=
  buckets.map fun b => (b.1, counters b.1, b.2)

/-- An element with its number becomes an element with its countdown. -/
def withCountdown (step : Int) (p : α × Nat) : α × Int := (p.1, p.2 * step)

theorem counted_emit {step : Int} {key : String} {it : α} {st : Interleaved α}
    {rest : List (String × List α)} (h : key ∉ rest.map Prod.fst) :
    counted (st.emit step key it).counters rest = counted st.counters rest := by
  apply List.map_congr_left
  intro b hb
  have hne : b.1 ≠ key := by
    intro heq
    exact h (heq ▸ List.mem_map_of_mem hb)
  show (b.1, Function.update st.counters key _ b.1, b.2) = _
  rw [Function.update_of_ne hne]

/-- What a round does to the buckets, the counters, the output and the number that remains. -/
theorem roundOfBuckets_spec {step : Int} {buckets : List (String × List α)}
    (h : (buckets.map Prod.fst).Nodup) (st : Interleaved α) :
    (∀ key ∉ buckets.map Prod.fst,
      (roundOfBuckets step buckets st).2.counters key = st.counters key) ∧
    counted (roundOfBuckets step buckets st).2.counters (roundOfBuckets step buckets st).1 =
      (counted st.counters buckets).map (fun b => (b.1, advance b.2)) ∧
    (roundOfBuckets step buckets st).2.ordered = st.ordered ++
      (turnHeads ((counted st.counters buckets).map Prod.snd)).map (withCountdown step) ∧
    (roundOfBuckets step buckets st).2.remaining = st.remaining -
      (turnHeads ((counted st.counters buckets).map Prod.snd)).length := by
  induction buckets generalizing st with
  | nil => exact ⟨fun _ _ => rfl, rfl, (List.append_nil _).symm, rfl⟩
  | cons b rest ih =>
    obtain ⟨key, lst⟩ := b
    obtain ⟨hfresh, hnodup⟩ := List.nodup_cons.mp h
    cases lst with
    | nil =>
      obtain ⟨hkeep, hcounted, hordered, hremaining⟩ := ih hnodup st
      refine ⟨?_, ?_, hordered, hremaining⟩
      · intro key' hkey'
        exact hkeep key' fun hmem => hkey' (List.mem_cons_of_mem _ hmem)
      · show (key, (roundOfBuckets step rest st).2.counters key, []) ::
          counted (roundOfBuckets step rest st).2.counters (roundOfBuckets step rest st).1 = _
        rw [hkeep key hfresh, hcounted]
        rfl
    | cons it lst =>
      obtain ⟨hkeep, hcounted, hordered, hremaining⟩ := ih hnodup (st.emit step key it)
      rw [counted_emit hfresh] at hcounted hordered hremaining
      refine ⟨?_, ?_, ?_, ?_⟩
      · intro key' hkey'
        have hne : key' ≠ key := fun heq => hkey' (heq ▸ List.mem_cons_self ..)
        have hrest := hkeep key' fun hmem => hkey' (List.mem_cons_of_mem _ hmem)
        exact hrest.trans (Function.update_of_ne hne ..)
      · show (key, (roundOfBuckets step rest (st.emit step key it)).2.counters key, lst) ::
          counted (roundOfBuckets step rest (st.emit step key it)).2.counters
            (roundOfBuckets step rest (st.emit step key it)).1 = _
        rw [hkeep key hfresh, hcounted]
        show (key, Function.update st.counters key _ key, lst) :: _ = _
        rw [Function.update_self]
        rfl
      · show (roundOfBuckets step rest (st.emit step key it)).2.ordered = _
        rw [hordered]
        exact List.append_assoc ..
      · show (roundOfBuckets step rest (st.emit step key it)).2.remaining = _
        have hpopped : (st.emit step key it).remaining = st.remaining - 1 := rfl
        have hheads : (turnHeads ((counted st.counters ((key, it :: lst) :: rest)).map
            Prod.snd)).length =
            (turnHeads ((counted st.counters rest).map Prod.snd)).length + 1 := rfl
        rw [hremaining, hpopped, hheads]
        omega

/-- The number of items that a list of buckets still holds. -/
def waiting (buckets : List (String × Nat × List α)) : Nat :=
  ((buckets.map Prod.snd).flatMap Prod.snd).length

theorem waiting_advance (buckets : List (String × Nat × List α)) :
    (turnHeads (buckets.map Prod.snd)).length +
      waiting (buckets.map fun b => (b.1, advance b.2)) = waiting buckets := by
  have hturn := (turn_perm (buckets.map Prod.snd)).length_eq
  rw [List.length_append, List.length_map, turnTails_eq, List.map_map] at hturn
  unfold waiting
  rw [List.map_map]
  exact hturn

/-- While something waits, a round takes at least one item. -/
theorem turnHeads_pos {buckets : List (String × Nat × List α)} (h : 0 < waiting buckets) :
    0 < (turnHeads (buckets.map Prod.snd)).length := by
  obtain ⟨x, hx⟩ := List.exists_mem_of_length_pos h
  obtain ⟨b, hb, hxb⟩ := List.mem_flatMap.mp hx
  apply List.length_pos_of_ne_nil
  intro hnone
  have hhead := List.filterMap_eq_nil_iff.mp hnone b hb
  rw [List.head?_eq_none_iff.mp (Option.map_eq_none_iff.mp hhead)] at hxb
  exact nomatch hxb

theorem takeTurns_of_waiting {buckets : List (String × Nat × List α)} (h : waiting buckets = 0)
    (turns : Nat) : takeTurns turns (buckets.map Prod.snd) = [] := by
  have hnil : (buckets.map Prod.snd).flatMap Prod.snd = [] := List.length_eq_zero_iff.mp h
  have hperm := @takeTurns_perm α turns (buckets.map Prod.snd)
  rw [hnil] at hperm
  exact List.map_eq_nil_iff.mp (hperm (Nat.zero_le _)).eq_nil

/-- The loop ends, and it writes the turns. -/
theorem whileRemaining_spec {step : Int} {rounds : Nat} {buckets : List (String × List α)}
    {st : Interleaved α} (hnodup : (buckets.map Prod.fst).Nodup)
    (hremaining : st.remaining = waiting (counted st.counters buckets))
    (hrounds : st.remaining ≤ rounds) :
    whileRemaining step rounds buckets st = some (st.ordered ++
      (takeTurns rounds ((counted st.counters buckets).map Prod.snd)).map
        (withCountdown step)) := by
  induction rounds generalizing buckets st with
  | zero =>
    have hdone : ¬ 0 < st.remaining := by omega
    unfold whileRemaining
    rw [if_neg hdone]
    exact congrArg some (List.append_nil _).symm
  | succ rounds ih =>
    unfold whileRemaining
    split
    next hmore =>
      obtain ⟨-, hcounted, hordered, hleft⟩ := @roundOfBuckets_spec α step buckets hnodup st
      have hkeys : ((roundOfBuckets step buckets st).1.map Prod.fst).Nodup := by
        have hsame := congrArg (List.map Prod.fst) hcounted
        simp only [counted, List.map_map] at hsame
        exact hsame ▸ hnodup
      have hadvance := waiting_advance (counted st.counters buckets)
      have hpositive := turnHeads_pos (hremaining ▸ hmore)
      show whileRemaining step rounds (roundOfBuckets step buckets st).1
        (roundOfBuckets step buckets st).2 = _
      rw [ih hkeys (by rw [hcounted]; omega) (by omega), hcounted, hordered]
      rw [takeTurns_succ, List.map_append, List.append_assoc, turnTails_eq, List.map_map,
        List.map_map]
      rfl
    next hdone =>
      have hnone : waiting (counted st.counters buckets) = 0 := by omega
      rw [takeTurns_of_waiting hnone]
      exact congrArg some (List.append_nil _).symm

theorem sum_lengths (buckets : List (String × List α)) :
    (buckets.map fun b => b.2.length).sum = waiting (counted (fun _ => 0) buckets) := by
  unfold waiting counted
  rw [List.map_map, List.length_flatMap, List.map_map]
  rfl

/-- The bastion of an item, as the dictionary knows it. -/
def bastionOfItem (bastionOf : α → β) (it : α) : String := toString (bastionOf it)

/-- The loop is the library's turns, with countdowns for numbers. -/
theorem interleaveByBastion_eq (items : List α) (bastionOf : α → β) (staggerSeconds : Int) :
    interleaveByBastion items bastionOf staggerSeconds =
      some ((takeTurns items.length ((bucketBy (bastionOfItem bastionOf) items).map
        fun b => (0, b.2))).map (withCountdown (max 0 staggerSeconds))) := by
  have hbuckets := bucketsOf_bucketBy (bastionOfItem bastionOf) items
  have hforget : (counted (fun _ => 0) (bucketBy (bastionOfItem bastionOf) items)).map Prod.snd =
      (bucketBy (bastionOfItem bastionOf) items).map fun b => (0, b.2) := List.map_map
  have hwaiting : waiting (counted (fun _ => 0) (bucketBy (bastionOfItem bastionOf) items)) =
      items.length := by
    unfold waiting
    rw [hforget, List.flatMap_map]
    exact (flatMap_bucketBy (bastionOfItem bastionOf) items).length_eq
  have hlength := (sum_lengths (bucketBy (bastionOfItem bastionOf) items)).trans hwaiting
  have hloop := @whileRemaining_spec α (max 0 staggerSeconds) items.length
    (bucketBy (bastionOfItem bastionOf) items) ⟨fun _ => 0, [], _⟩ hbuckets.nodup
    (hlength.trans hwaiting.symm) hlength.le
  rw [hforget] at hloop
  exact hloop

/-- The devices of a batch, interleaved by this loop. -/
theorem Site.interleaveByBastion_eq (site : Site) (devices : List Device) :
    Scheduling.interleaveByBastion devices site.bastionKey site.stagger =
      some ((site.interleaveByBastion devices).map fun p => (p.1, (p.2 : Int))) := by
  rw [Scheduling.interleaveByBastion_eq]
  unfold Site.interleaveByBastion
  rw [List.map_map]
  refine congrArg some (List.map_congr_left ?_)
  intro p _
  show (p.1, (p.2 : Int) * max 0 (site.stagger : Int)) = (p.1, ((p.2 * site.stagger : Nat) : Int))
  rw [max_eq_right (Int.natCast_nonneg _), Int.natCast_mul]

/-! ## Fairness -/

/-- How many items of a bastion stand in a part of the output. -/
def emitted (bastionOf : α → β) (bastion : String) (out : List (α × Int)) : Nat :=
  out.countP fun p => bastionOfItem bastionOf p.1 = bastion

/-- The items of a bastion. -/
def itemsOf (bastionOf : α → β) (bastion : String) (items : List α) : List α :=
  items.filter fun it => bastionOfItem bastionOf it = bastion

theorem emitted_map (bastionOf : α → β) (bastion : String) (step : Int) (ps : List (α × Nat)) :
    emitted bastionOf bastion (ps.map (withCountdown step)) =
      takenOf (bastionOfItem bastionOf) bastion ps := by
  unfold emitted takenOf
  rw [List.countP_map]
  rfl

/-- The order is a permutation, faithful to the order within each bastion, spaced in time and
fair in every prefix. -/
theorem interleaveByBastion_fair (items : List α) (bastionOf : α → β) (s : Int) (hs : 0 ≤ s) :
    ∃ out, interleaveByBastion items bastionOf s = some out ∧
      (out.map Prod.fst).Perm items ∧
      (∀ bastion, (out.map Prod.fst).filter (fun it => bastionOfItem bastionOf it = bastion) =
        itemsOf bastionOf bastion items) ∧
      (∀ (bastion : String) (k : Nat) (p : α × Int),
        (out.filter fun p => bastionOfItem bastionOf p.1 = bastion)[k]? = some p →
          p.2 = k * s) ∧
      (∀ before after, out = before ++ after → ∀ a b,
        emitted bastionOf a before < (itemsOf bastionOf a items).length →
        emitted bastionOf b before < (itemsOf bastionOf b items).length →
          emitted bastionOf a before ≤ emitted bastionOf b before + 1) ∧
      (∀ before p after, out = before ++ p :: after → ∀ b,
        emitted bastionOf b (before ++ [p]) < (itemsOf bastionOf b items).length →
          emitted bastionOf (bastionOfItem bastionOf p.1) (before ++ [p]) ≤
            emitted bastionOf b (before ++ [p]) + 1) := by
  have hturns := inTurns_takeTurns (bastionOfItem bastionOf) items
  have hrun := interleaveByBastion_eq items bastionOf s
  rw [max_eq_right hs] at hrun
  generalize takeTurns items.length _ = turns at hturns hrun
  have horder : ∀ bastion,
      (turns.map Prod.fst).filter (fun it => bastionOfItem bastionOf it = bastion) =
        itemsOf bastionOf bastion items := by
    intro bastion
    rw [List.filter_map]
    have hnumbered := congrArg (List.map Prod.fst) (hturns.numbered bastion)
    rwa [List.zipIdx_map_fst] at hnumbered
  have hforget : (turns.map (withCountdown s)).map Prod.fst = turns.map Prod.fst := by
    rw [List.map_map]
    rfl
  refine ⟨_, hrun, ?_, ?_, ?_, ?_, ?_⟩
  · rw [hforget]
    exact perm_of_filter_eq horder
  · rw [hforget]
    exact horder
  · intro bastion k p hp
    rw [List.filter_map, List.getElem?_map] at hp
    obtain ⟨q, hq, rfl⟩ := Option.map_eq_some_iff.mp hp
    have hnumber : q.2 = k := by
      have hnumbered : turns.filter ((fun p : α × Int =>
          decide (bastionOfItem bastionOf p.1 = bastion)) ∘ withCountdown s) = _ :=
        hturns.numbered bastion
      rw [hnumbered, List.getElem?_zipIdx] at hq
      obtain ⟨x, -, rfl⟩ := Option.map_eq_some_iff.mp hq
      exact Nat.zero_add k
    rw [← hnumber]
    rfl
  · intro before after hsplit a b ha hb
    obtain ⟨ps, qs, rfl, rfl, rfl⟩ := List.map_eq_append_iff.mp hsplit
    rw [emitted_map] at ha hb ⊢
    rw [emitted_map]
    exact hturns.fair ha hb
  · intro before p after hsplit b hb
    obtain ⟨ps, qs, rfl, rfl, hqs⟩ := List.map_eq_append_iff.mp hsplit
    obtain ⟨q, qs, rfl, rfl, rfl⟩ := List.map_eq_cons_iff.mp hqs
    have hgrown : ∀ c, emitted bastionOf c (ps.map (withCountdown s) ++ [withCountdown s q]) =
        takenOf (bastionOfItem bastionOf) c ps +
          if bastionOfItem bastionOf q.1 = c then 1 else 0 := by
      intro c
      rw [← emitted_map bastionOf c s]
      unfold emitted
      rw [List.countP_append, List.countP_singleton]
      simp only [decide_eq_true_eq]
      rfl
    have hnext := hturns.next_number
    rw [hgrown] at hb ⊢
    rw [hgrown]
    have hself : bastionOfItem bastionOf (withCountdown s q).1 = bastionOfItem bastionOf q.1 := rfl
    have hturn := hturns.next_le (lt_of_le_of_lt (Nat.le_add_right ..) hb)
    rw [hself, if_pos rfl]
    omega

theorem interleaveByBastion_fair_three :
    (0 : Int) ≤ 4 ∧
    interleaveByBastion [("d1", "a"), ("d2", "a"), ("d3", "b")] Prod.snd 4 =
      some [(("d1", "a"), 0), (("d3", "b"), 0), (("d2", "a"), 4)] ∧
    ∃ out, interleaveByBastion [("d1", "a"), ("d2", "a"), ("d3", "b")] Prod.snd 4 = some out ∧
      (out.map Prod.fst).Perm [("d1", "a"), ("d2", "a"), ("d3", "b")] := by
  obtain ⟨out, hout, hperm, -⟩ := interleaveByBastion_fair
    [("d1", "a"), ("d2", "a"), ("d3", "b")] Prod.snd 4 (by decide)
  exact ⟨by decide, by decide, out, hout, hperm⟩

end BackupCenter.Scheduling
