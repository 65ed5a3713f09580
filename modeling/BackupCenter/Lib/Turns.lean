import BackupCenter.Lib.Buckets
import Mathlib.Data.List.Pairwise
import Mathlib.Data.List.Nodup

/-!
# Fair turns

Buckets that are emptied in turn, one element of each in a round. Every element carries the number
of those that were taken from its bucket before. The numbers never fall along the output, since
they count the rounds; that is what makes every prefix of the output fair.
-/
namespace BackupCenter.Lib

variable {α κ : Type} [DecidableEq κ]

/-! ## The buckets of a list -/

theorem keys_putInBucket (k : κ) (x : α) (buckets : List (κ × List α)) :
    (putInBucket k x buckets).map Prod.fst =
      if k ∈ buckets.map Prod.fst then buckets.map Prod.fst else buckets.map Prod.fst ++ [k] := by
  induction buckets with
  | nil => rfl
  | cons b rest ih =>
    unfold putInBucket
    split
    next hk => simp [hk]
    next hk =>
      have hne : k ≠ b.1 := Ne.symm hk
      rw [List.map_cons, ih]
      by_cases hmem : k ∈ rest.map Prod.fst
      · simp only [hmem, if_true, List.map_cons, List.mem_cons, or_true]
      · simp only [hmem, if_false, List.map_cons, List.mem_cons, hne, or_self, List.cons_append]

theorem nodup_keys_putInBucket {k : κ} {x : α} {buckets : List (κ × List α)}
    (h : (buckets.map Prod.fst).Nodup) : ((putInBucket k x buckets).map Prod.fst).Nodup := by
  rw [keys_putInBucket]
  split
  · exact h
  next hk =>
    apply List.Nodup.append h (List.nodup_singleton k)
    intro y hy hy'
    exact hk (List.mem_singleton.mp hy' ▸ hy)

/-- A new bucket holds the new element, the others are as they were or longer by it. -/
theorem mem_putInBucket {k : κ} {x : α} {buckets : List (κ × List α)} {b : κ × List α}
    (hnodup : (buckets.map Prod.fst).Nodup) (hb : b ∈ putInBucket k x buckets) :
    (b.1 ≠ k ∧ b ∈ buckets) ∨
    (b.1 = k ∧ ∃ xs, b.2 = xs ++ [x] ∧
      ((k, xs) ∈ buckets ∨ xs = [] ∧ k ∉ buckets.map Prod.fst)) := by
  induction buckets with
  | nil =>
    obtain rfl := List.mem_singleton.mp hb
    exact .inr ⟨rfl, [], rfl, .inr ⟨rfl, List.not_mem_nil⟩⟩
  | cons b₀ rest ih =>
    have hrest := List.nodup_cons.mp hnodup
    unfold putInBucket at hb
    split at hb
    next hk =>
      rcases List.mem_cons.mp hb with heq | hb
      · exact .inr ⟨heq ▸ hk, b₀.2, heq ▸ rfl, .inl (List.mem_cons.mpr (.inl (hk ▸ rfl)))⟩
      · have hne : b.1 ≠ k := by
          intro heq
          exact hrest.1 (hk.trans heq.symm ▸ List.mem_map_of_mem hb)
        exact .inl ⟨hne, List.mem_cons_of_mem _ hb⟩
    next hk =>
      rcases List.mem_cons.mp hb with heq | hb
      · exact .inl ⟨heq ▸ hk, List.mem_cons.mpr (.inl heq)⟩
      · rcases ih hrest.2 hb with ⟨hne, hold⟩ | ⟨heq, xs, hxs, hold | hfresh⟩
        · exact .inl ⟨hne, List.mem_cons_of_mem _ hold⟩
        · exact .inr ⟨heq, xs, hxs, .inl (List.mem_cons_of_mem _ hold)⟩
        · refine .inr ⟨heq, xs, hxs, .inr ⟨hfresh.1, ?_⟩⟩
          intro hmem
          rcases List.mem_cons.mp hmem with hmem | hmem
          · exact hk hmem.symm
          · exact hfresh.2 hmem

/-- The dictionary of the elements `xs`: one bucket for each key that occurs, with the elements of
that key in their order. -/
structure BucketsOf (keyOf : α → κ) (xs : List α) (buckets : List (κ × List α)) : Prop where
  nodup : (buckets.map Prod.fst).Nodup
  content : ∀ b ∈ buckets, b.2 = xs.filter fun x => keyOf x = b.1
  covers : ∀ x ∈ xs, keyOf x ∈ buckets.map Prod.fst

theorem BucketsOf.put {keyOf : α → κ} {xs : List α} {buckets : List (κ × List α)}
    (h : BucketsOf keyOf xs buckets) (x : α) :
    BucketsOf keyOf (xs ++ [x]) (putInBucket (keyOf x) x buckets) where
  nodup := nodup_keys_putInBucket h.nodup
  content := by
    intro b hb
    rw [List.filter_append]
    rcases mem_putInBucket h.nodup hb with ⟨hne, hold⟩ | ⟨heq, ys, hys, hold⟩
    · rw [h.content b hold, List.filter_singleton, decide_eq_false (Ne.symm hne)]
      exact (List.append_nil _).symm
    · rw [hys, heq, List.filter_singleton, decide_eq_true rfl]
      show ys ++ [x] = _ ++ [x]
      congr 1
      rcases hold with hold | ⟨rfl, hfresh⟩
      · exact h.content _ hold
      · symm
        apply List.filter_eq_nil_iff.mpr
        intro y hy hkey
        exact hfresh (of_decide_eq_true hkey ▸ h.covers y hy)
  covers := by
    intro y hy
    rw [keys_putInBucket]
    rcases List.mem_append.mp hy with hy | hy
    · have hmem := h.covers y hy
      split
      · exact hmem
      · exact List.mem_append_left _ hmem
    · obtain rfl := List.mem_singleton.mp hy
      split
      next hmem => exact hmem
      next => exact List.mem_append_right _ (List.mem_singleton_self _)

theorem bucketsOf_bucketBy (keyOf : α → κ) (xs : List α) :
    BucketsOf keyOf xs (bucketBy keyOf xs) := by
  have hfold : ∀ (seen : List α) (buckets : List (κ × List α)), BucketsOf keyOf seen buckets →
      BucketsOf keyOf (seen ++ xs)
        (xs.foldl (fun bs x => putInBucket (keyOf x) x bs) buckets) := by
    induction xs with
    | nil =>
      intro seen buckets h
      rwa [List.append_nil]
    | cons x xs ih =>
      intro seen buckets h
      have hnext := ih (seen ++ [x]) _ (h.put x)
      rwa [List.append_assoc, List.singleton_append] at hnext
  exact hfold [] [] ⟨List.nodup_nil, fun _ hb => (nomatch hb), fun _ hx => (nomatch hx)⟩

/-! ## What is taken from a bucket -/

/-- A bucket after its turn. -/
def advance (b : Nat × List α) : Nat × List α :=
  match b.2 with
  | [] => b
  | _ :: rest => (b.1 + 1, rest)

theorem turnTails_eq (buckets : List (Nat × List α)) : turnTails buckets = buckets.map advance :=
  rfl

theorem takeTurns_succ (turns : Nat) (buckets : List (Nat × List α)) :
    takeTurns (turns + 1) buckets = turnHeads buckets ++ takeTurns turns (turnTails buckets) :=
  rfl

@[simp] theorem advance_nil (n : Nat) : advance (n, ([] : List α)) = (n, []) := rfl
@[simp] theorem advance_cons (n : Nat) (x : α) (xs : List α) :
    advance (n, x :: xs) = (n + 1, xs) := rfl

/-- Buckets with their keys. -/
structure KeyedBuckets (key : α → κ) (buckets : List (κ × Nat × List α)) : Prop where
  nodup : (buckets.map Prod.fst).Nodup
  owned : ∀ b ∈ buckets, ∀ x ∈ b.2.2, key x = b.1

variable {key : α → κ} {buckets : List (κ × Nat × List α)}

omit [DecidableEq κ] in
theorem KeyedBuckets.of_cons {b : κ × Nat × List α} (h : KeyedBuckets key (b :: buckets)) :
    KeyedBuckets key buckets where
  nodup := (List.nodup_cons.mp h.nodup).2
  owned b' hb := h.owned b' (List.mem_cons_of_mem _ hb)

omit [DecidableEq κ] in
theorem KeyedBuckets.advance (h : KeyedBuckets key buckets) :
    KeyedBuckets key (buckets.map fun b => (b.1, Lib.advance b.2)) where
  nodup := by
    rw [List.map_map]
    exact h.nodup
  owned := by
    intro b hb x hx
    obtain ⟨⟨k, n, xs⟩, hmem, rfl⟩ := List.mem_map.mp hb
    apply h.owned _ hmem
    cases xs with
    | nil => exact hx
    | cons y ys => exact List.mem_cons_of_mem _ hx

omit [DecidableEq κ] in
/-- Every element that a round takes was waiting. -/
theorem mem_turnHeads {p : α × Nat} (hp : p ∈ turnHeads (buckets.map Prod.snd)) :
    ∃ b ∈ buckets, p.2 = b.2.1 ∧ b.2.2.head? = some p.1 := by
  obtain ⟨c, hc, hhead⟩ := List.mem_filterMap.mp hp
  obtain ⟨b, hb, rfl⟩ := List.mem_map.mp hc
  obtain ⟨x, hx, rfl⟩ := Option.map_eq_some_iff.mp hhead
  exact ⟨b, hb, rfl, hx⟩

/-- A round takes the first element of a bucket and none else of its key. -/
theorem filter_turnHeads (h : KeyedBuckets key buckets) {k : κ} {n : Nat} {xs : List α}
    (hb : (k, n, xs) ∈ buckets) :
    (turnHeads (buckets.map Prod.snd)).filter (fun p => key p.1 = k) =
      (xs.take 1).zipIdx n := by
  induction buckets with
  | nil => exact nomatch hb
  | cons b rest ih =>
    obtain ⟨k', n', ys⟩ := b
    have hfresh := (List.nodup_cons.mp h.nodup).1
    have hsplit : turnHeads (((k', n', ys) :: rest).map Prod.snd) =
        (ys.take 1).zipIdx n' ++ turnHeads (rest.map Prod.snd) := by
      cases ys <;> rfl
    rw [hsplit, List.filter_append]
    rcases List.mem_cons.mp hb with heq | hb
    · obtain ⟨rfl, rfl, rfl⟩ : k = k' ∧ n = n' ∧ xs = ys := by simpa using heq
      have hhead : ((xs.take 1).zipIdx n).filter (fun p => key p.1 = k) =
          (xs.take 1).zipIdx n := by
        apply List.filter_eq_self.mpr
        intro p hp
        have hmem : p.1 ∈ xs := List.mem_of_mem_take (List.fst_mem_of_mem_zipIdx hp)
        exact decide_eq_true (h.owned _ (List.mem_cons_self ..) _ hmem)
      have hothers : (turnHeads (rest.map Prod.snd)).filter (fun p => key p.1 = k) = [] := by
        apply List.filter_eq_nil_iff.mpr
        intro p hp hkey
        obtain ⟨b, hb, -, hhead⟩ := mem_turnHeads hp
        have howned := h.of_cons.owned b hb p.1 (List.mem_of_mem_head? hhead)
        have hk : b.1 ∈ rest.map Prod.fst := List.mem_map_of_mem (f := Prod.fst) hb
        exact hfresh ((of_decide_eq_true hkey).symm.trans howned ▸ hk)
      rw [hhead, hothers, List.append_nil]
    · have hother : ((ys.take 1).zipIdx n').filter (fun p => key p.1 = k) = [] := by
        apply List.filter_eq_nil_iff.mpr
        intro p hp hkey
        have hmem : p.1 ∈ ys := List.mem_of_mem_take (List.fst_mem_of_mem_zipIdx hp)
        have howned := h.owned _ (List.mem_cons_self ..) _ hmem
        have hk : k ∈ rest.map Prod.fst := List.mem_map_of_mem (f := Prod.fst) hb
        exact hfresh ((of_decide_eq_true hkey).symm.trans howned ▸ hk)
      rw [hother, List.nil_append]
      exact ih h.of_cons hb

/-- The elements of a bucket come out in their order, numbered in that order. -/
theorem filter_takeTurns (h : KeyedBuckets key buckets) {turns : Nat} {k : κ} {n : Nat}
    {xs : List α} (hb : (k, n, xs) ∈ buckets) :
    (takeTurns turns (buckets.map Prod.snd)).filter (fun p => key p.1 = k) =
      (xs.take turns).zipIdx n := by
  induction turns generalizing buckets n xs with
  | zero => rfl
  | succ turns ih =>
    have htails : turnTails (buckets.map Prod.snd) =
        (buckets.map fun b => (b.1, Lib.advance b.2)).map Prod.snd := by
      rw [turnTails_eq, List.map_map, List.map_map]
      rfl
    have hadvanced : (k, Lib.advance (n, xs)) ∈
        buckets.map fun b => (b.1, Lib.advance b.2) := List.mem_map_of_mem hb
    rw [takeTurns_succ, List.filter_append, filter_turnHeads h hb, htails]
    cases xs with
    | nil => rw [ih h.advance hadvanced, List.take_nil, List.take_nil, List.take_nil]; rfl
    | cons x xs => rw [ih h.advance hadvanced]; rfl

/-- No element comes out before one that has a smaller number. -/
theorem takeTurns_sorted {turns round : Nat} {buckets : List (Nat × List α)}
    (h : ∀ b ∈ buckets, b.2 ≠ [] → b.1 = round) :
    (∀ p ∈ takeTurns turns buckets, round ≤ p.2) ∧
    (takeTurns turns buckets).Pairwise fun p q => p.2 ≤ q.2 := by
  induction turns generalizing buckets round with
  | zero => exact ⟨fun _ hp => (nomatch hp), .nil⟩
  | succ turns ih =>
    have hheads : ∀ p ∈ turnHeads buckets, p.2 = round := by
      intro p hp
      obtain ⟨b, hb, hhead⟩ := List.mem_filterMap.mp hp
      obtain ⟨x, hx, rfl⟩ := Option.map_eq_some_iff.mp hhead
      exact h b hb fun hnil => by simp [hnil] at hx
    have htails : ∀ b ∈ turnTails buckets, b.2 ≠ [] → b.1 = round + 1 := by
      intro b hb hne
      rw [turnTails_eq] at hb
      obtain ⟨⟨n, xs⟩, hmem, rfl⟩ := List.mem_map.mp hb
      cases xs with
      | nil => exact absurd rfl hne
      | cons x xs =>
        have hround : n = round := h _ hmem (List.cons_ne_nil _ _)
        show n + 1 = round + 1
        rw [hround]
    obtain ⟨hlater, hsorted⟩ := ih htails
    rw [takeTurns_succ]
    constructor
    · intro p hp
      rcases List.mem_append.mp hp with hp | hp
      · exact (hheads p hp).ge
      · have := hlater p hp
        omega
    · refine List.pairwise_append.mpr ⟨?_, hsorted, ?_⟩
      · apply List.pairwise_of_forall_mem_list
        intro p hp q hq
        rw [hheads p hp, hheads q hq]
      · intro p hp q hq
        have := hheads p hp
        have := hlater q hq
        omega

/-! ## Fairness -/

/-- An output in which the elements of a key are numbered from zero and no number falls. -/
structure InTurns (key : α → κ) (content : κ → List α) (out : List (α × Nat)) : Prop where
  numbered : ∀ k, out.filter (fun p => key p.1 = k) = (content k).zipIdx
  sorted : out.Pairwise fun p q => p.2 ≤ q.2

section InTurns

variable {content : κ → List α} {out before after : List (α × Nat)} {p : α × Nat}

/-- How many elements of a key stand in a list. -/
def takenOf (key : α → κ) (k : κ) (ps : List (α × Nat)) : Nat := ps.countP fun p => key p.1 = k

theorem InTurns.split (h : InTurns key content (before ++ after)) (k : κ) :
    before.filter (fun p => key p.1 = k) = (content k).zipIdx.take (takenOf key k before) ∧
    after.filter (fun p => key p.1 = k) = (content k).zipIdx.drop (takenOf key k before) := by
  have hnumbered := h.numbered k
  rw [List.filter_append] at hnumbered
  have hlength : (before.filter fun p => key p.1 = k).length = takenOf key k before :=
    List.countP_eq_length_filter.symm
  rw [← hnumbered, ← hlength]
  exact ⟨List.take_left.symm, List.drop_left.symm⟩

/-- The number of the next element is the number of those that were taken from its bucket. -/
theorem InTurns.next_number (h : InTurns key content (before ++ p :: after)) :
    p.2 = takenOf key (key p.1) before := by
  have hrest := (h.split (key p.1)).2
  rw [@List.filter_cons_of_pos _ (fun q => decide (key q.1 = key p.1)) p after
    (decide_eq_true rfl)] at hrest
  have hhead := congrArg List.head? hrest
  rw [List.head?_cons, List.head?_drop] at hhead
  have hindex := List.getElem?_zipIdx (l := content (key p.1)) (i := 0)
    (j := takenOf key (key p.1) before)
  rw [hindex] at hhead
  obtain ⟨x, -, hx⟩ := Option.map_eq_some_iff.mp hhead.symm
  have hnumber := congrArg Prod.snd hx
  simp only [Nat.zero_add] at hnumber
  exact hnumber.symm

/-- A bucket that still holds something has had its turn in every earlier round. -/
theorem InTurns.next_le (h : InTurns key content (before ++ p :: after)) {k : κ}
    (hleft : takenOf key k before < (content k).length) : p.2 ≤ takenOf key k before := by
  have hrest := (h.split k).2
  have hlength : takenOf key k before < (content k).zipIdx.length := by
    rwa [List.length_zipIdx]
  rw [List.drop_eq_getElem_cons hlength, List.getElem_zipIdx] at hrest
  have hmem : ((content k)[takenOf key k before], 0 + takenOf key k before) ∈ p :: after := by
    apply List.mem_of_mem_filter (p := fun p => key p.1 = k)
    rw [hrest]
    exact List.mem_cons_self ..
  rcases List.mem_cons.mp hmem with heq | hmem
  · rw [← heq]
    exact Nat.le_of_eq (Nat.zero_add _)
  · have hlater := List.rel_of_pairwise_cons (List.pairwise_append.mp h.sorted).2.1 hmem
    rwa [Nat.zero_add] at hlater

/-- No bucket has had more turns than there were rounds. -/
theorem InTurns.le_next (h : InTurns key content (before ++ p :: after)) (k : κ) :
    takenOf key k before ≤ p.2 + 1 := by
  by_cases hnone : takenOf key k before = 0
  · omega
  · have hfirst := (h.split k).1
    have htaken : takenOf key k before ≤ (content k).zipIdx.length := by
      have hlength := congrArg List.length hfirst
      rw [List.length_take, ← List.countP_eq_length_filter] at hlength
      have : takenOf key k before = min (takenOf key k before) _ := hlength
      omega
    have hlast : takenOf key k before - 1 < (content k).zipIdx.length := by omega
    have hmem : (content k).zipIdx[takenOf key k before - 1] ∈ before := by
      apply List.mem_of_mem_filter (p := fun p => key p.1 = k)
      rw [hfirst]
      apply List.mem_take_iff_getElem.mpr
      exact ⟨takenOf key k before - 1, by omega, rfl⟩
    have hearlier := (List.pairwise_append.mp h.sorted).2.2 _ hmem p (List.mem_cons_self ..)
    rw [List.getElem_zipIdx] at hearlier
    simp only at hearlier
    omega

/-- Two buckets that still hold something are at most one element apart. -/
theorem InTurns.fair (h : InTurns key content (before ++ after)) {k k' : κ}
    (hk : takenOf key k before < (content k).length)
    (hk' : takenOf key k' before < (content k').length) :
    takenOf key k before ≤ takenOf key k' before + 1 := by
  cases after with
  | nil =>
    have hall := congrArg List.length (h.split k).2
    rw [List.filter_nil, List.length_drop, List.length_zipIdx, List.length_nil] at hall
    omega
  | cons p after =>
    have := h.le_next k
    have := h.next_le hk'
    omega

end InTurns

/-- Lists with the same elements of every key have the same elements. -/
theorem perm_of_filter_eq {xs ys : List α}
    (h : ∀ k, xs.filter (fun x => key x = k) = ys.filter fun x => key x = k) : xs.Perm ys := by
  classical
  apply List.perm_iff_count.mpr
  intro x
  have hcount : ∀ zs : List α, (zs.filter fun y => key y = key x).count x = zs.count x :=
    fun zs => List.count_filter (decide_eq_true rfl)
  rw [← hcount xs, ← hcount ys, h]

/-- Turns taken from the buckets of a list, one for each element. -/
theorem inTurns_takeTurns (key : α → κ) (xs : List α) :
    InTurns key (fun k => xs.filter fun x => key x = k)
      (takeTurns xs.length ((bucketBy key xs).map fun b => (0, b.2))) := by
  have hbuckets := bucketsOf_bucketBy key xs
  have hkeyed : KeyedBuckets key ((bucketBy key xs).map fun b => (b.1, 0, b.2)) := by
    constructor
    · rw [List.map_map]
      exact hbuckets.nodup
    · intro b hb x hx
      obtain ⟨c, hc, rfl⟩ := List.mem_map.mp hb
      rw [show c.2 = _ from hbuckets.content c hc] at hx
      exact of_decide_eq_true (List.mem_filter.mp hx).2
  have hforget : ((bucketBy key xs).map fun b => (b.1, 0, b.2)).map Prod.snd =
      (bucketBy key xs).map fun b => (0, b.2) := List.map_map
  constructor
  · intro k
    by_cases hk : k ∈ (bucketBy key xs).map Prod.fst
    · obtain ⟨b, hb, rfl⟩ := List.mem_map.mp hk
      have hmem : (b.1, 0, b.2) ∈ (bucketBy key xs).map fun b => (b.1, 0, b.2) :=
        List.mem_map_of_mem hb
      have hall : b.2.take xs.length = b.2 := by
        apply List.take_of_length_le
        rw [hbuckets.content b hb]
        exact List.length_filter_le ..
      rw [← hforget, filter_takeTurns hkeyed hmem, hall]
      exact congrArg (List.zipIdx · 0) (hbuckets.content b hb)
    · have habsent : ∀ x ∈ xs, key x ≠ k := fun x hx heq => hk (heq ▸ hbuckets.covers x hx)
      have hperm : ((takeTurns xs.length ((bucketBy key xs).map fun b => (0, b.2))).map
          Prod.fst).Perm xs := by
        have hcontent := flatMap_bucketBy key xs
        have htaken := @takeTurns_perm α xs.length ((bucketBy key xs).map fun b => (0, b.2))
        rw [List.flatMap_map] at htaken
        exact (htaken hcontent.length_eq.le).trans hcontent
      have hnone : xs.filter (fun x => key x = k) = [] := by
        apply List.filter_eq_nil_iff.mpr
        intro x hx hkey
        exact habsent x hx (of_decide_eq_true hkey)
      rw [hnone]
      apply List.filter_eq_nil_iff.mpr
      intro p hp hkey
      exact habsent p.1 (hperm.mem_iff.mp (List.mem_map_of_mem hp)) (of_decide_eq_true hkey)
  · have hlevel : ∀ b ∈ (bucketBy key xs).map fun b => (0, b.2), b.2 ≠ [] → b.1 = 0 := by
      intro b hb _
      obtain ⟨c, -, rfl⟩ := List.mem_map.mp hb
      rfl
    exact (takeTurns_sorted hlevel).2

end BackupCenter.Lib
