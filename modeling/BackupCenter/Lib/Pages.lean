import Mathlib.Data.List.Nodup
import Mathlib.Data.List.Perm.Basic
import Mathlib.Data.List.Sort
import Mathlib.Order.Basic

/-!
# Pages of an ordered query

A query answers its rows in descending order of a key, rows of equal key in any order, each time it
is asked. A client that asks for page after page gets every row exactly once if no page ends between
rows of equal key; where one does, there are answers that repeat a row.
-/
namespace BackupCenter.Lib

variable {α κ : Type*} [LinearOrder κ]

/-- An answer of `ORDER BY key DESC` over these rows. -/
structure Answers (key : α → κ) (rows out : List α) : Prop where
  perm : out.Perm rows
  sorted : out.Pairwise fun a b => key b ≤ key a

/-- How a query is answered when it is asked. -/
structure DescendingOrder (key : α → κ) where
  apply : List α → List α
  answers : ∀ rows, Answers key rows (apply rows)

/-- `OFFSET j * n LIMIT n` -/
def page (n j : Nat) (out : List α) : List α := (out.drop (j * n)).take n

/-- The page ends between rows of equal key. -/
def Splits (key : α → κ) (rows : List α) (m : Nat) : Prop :=
  ∃ a ∈ rows, rows.countP (fun b => key a < key b) < m ∧ m < rows.countP fun b => key a ≤ key b

instance (key : α → κ) (rows : List α) (m : Nat) : Decidable (Splits key rows m) :=
  inferInstanceAs (Decidable (∃ a ∈ rows, _))

section Pages

variable {key : α → κ} {rows out out' : List α} {n m j : Nat}

theorem Answers.count (h : Answers key rows out) (p : α → Bool) : rows.countP p = out.countP p :=
  (h.perm.countP_eq p).symm

/-- The rows before a position have at least the keys of those from there on. -/
theorem Answers.le_of_split (h : Answers key rows out) {a b : α} (ha : a ∈ out.take m)
    (hb : b ∈ out.drop m) : key b ≤ key a := by
  have hsorted := h.sorted
  rw [← List.take_append_drop m out] at hsorted
  exact (List.pairwise_append.mp hsorted).2.2 a ha b hb

theorem Answers.count_lt_of_mem_take (h : Answers key rows out) {a : α} (ha : a ∈ out.take m) :
    rows.countP (fun b => key a < key b) < m := by
  have hdrop : (out.drop m).countP (fun b => key a < key b) = 0 := by
    rw [List.countP_eq_zero]
    intro b hb
    simpa using h.le_of_split ha hb
  have htake : (out.take m).countP (fun b => key a < key b) < (out.take m).length := by
    refine lt_of_le_of_ne List.countP_le_length fun he => ?_
    have hself := List.countP_eq_length.mp he a ha
    simp at hself
  have hlen : (out.take m).length ≤ m := List.length_take_le m out
  rw [h.count, ← List.take_append_drop m out, List.countP_append, hdrop]
  omega

theorem Answers.le_count_of_mem_drop (h : Answers key rows out) {a : α} (ha : a ∈ out.drop m) :
    m < rows.countP fun b => key a ≤ key b := by
  have htake : (out.take m).countP (fun b => key a ≤ key b) = (out.take m).length := by
    rw [List.countP_eq_length]
    intro b hb
    simpa using h.le_of_split hb ha
  have hdrop : 0 < (out.drop m).countP fun b => key a ≤ key b :=
    List.countP_pos_iff.mpr ⟨a, ha, by simp⟩
  have hlen : (out.take m).length = m := by
    have hpos : 0 < (out.drop m).length := List.length_pos_of_mem ha
    rw [List.length_drop] at hpos
    rw [List.length_take]
    omega
  rw [h.count, ← List.take_append_drop m out, List.countP_append, htake, hlen]
  omega

/-- The first row of an answer has the largest key. -/
theorem Answers.le_head {a b : α} (h : Answers key rows (a :: out)) (hb : b ∈ rows) :
    key b ≤ key a := by
  rcases List.mem_cons.mp (h.perm.mem_iff.mpr hb) with rfl | hb
  · exact le_refl _
  · exact (List.pairwise_cons.mp h.sorted).1 b hb

theorem Answers.head_mem {a : α} (h : Answers key rows (a :: out)) : a ∈ rows :=
  h.perm.mem_iff.mp (List.mem_cons_self ..)

theorem Answers.key_head {a b : α} (h : Answers key rows (a :: out))
    (h' : Answers key rows (b :: out')) : key a = key b :=
  le_antisymm (h'.le_head h.head_mem) (h.le_head h'.head_mem)

/-- Where no rows of equal key are split, the first rows are those with few above them. -/
theorem Answers.take_eq_filter (h : Answers key rows out) (hm : ¬ Splits key rows m) :
    out.take m = out.filter fun a => rows.countP (fun b => key a < key b) < m := by
  have hdrop : (out.drop m).filter (fun a => rows.countP (fun b => key a < key b) < m) = [] := by
    rw [List.filter_eq_nil_iff]
    intro a ha hlt
    have hrow : a ∈ rows := h.perm.mem_iff.mp (List.mem_of_mem_drop ha)
    exact hm ⟨a, hrow, of_decide_eq_true hlt, h.le_count_of_mem_drop ha⟩
  have htake : (out.take m).filter (fun a => rows.countP (fun b => key a < key b) < m) =
      out.take m := by
    rw [List.filter_eq_self]
    exact fun a ha => decide_eq_true (h.count_lt_of_mem_take ha)
  conv_rhs => rw [← List.take_append_drop m out, List.filter_append, hdrop, htake, List.append_nil]

theorem Answers.take_perm (h : Answers key rows out) (h' : Answers key rows out')
    (hm : ¬ Splits key rows m) : (out.take m).Perm (out'.take m) := by
  rw [h.take_eq_filter hm, h'.take_eq_filter hm]
  exact (h.perm.trans h'.perm.symm).filter _

theorem take_succ_mul (out : List α) (n j : Nat) :
    out.take ((j + 1) * n) = out.take (j * n) ++ page n j out := by
  rw [Nat.succ_mul, List.take_add]
  rfl

/-- A page between two ends that split nothing has the same rows in every answer. -/
theorem Answers.page_perm (h : Answers key rows out) (h' : Answers key rows out')
    (hstart : ¬ Splits key rows (j * n)) (hend : ¬ Splits key rows ((j + 1) * n)) :
    (page n j out).Perm (page n j out') := by
  have hall := h.take_perm h' hend
  rw [take_succ_mul, take_succ_mul] at hall
  exact (List.perm_append_left_iff _).mp
    (((h.take_perm h' hstart).symm.append_right _).trans hall)

theorem not_splits_zero : ¬ Splits key rows 0 := by
  rintro ⟨_, _, hlt, _⟩
  omega

theorem not_splits_of_length_le (hm : rows.length ≤ m) : ¬ Splits key rows m := by
  rintro ⟨a, _, _, hlt⟩
  have hle : rows.countP (fun b => key a ≤ key b) ≤ rows.length := List.countP_le_length
  omega

/-- What a client gets that asks for page after page, each cut from an answer of its own. -/
def collected (n : Nat) (answer : Nat → List α) (pages : Nat) : List α :=
  (List.range pages).flatMap fun j => page n j (answer j)

theorem collected_const (n : Nat) (out : List α) (pages : Nat) :
    collected n (fun _ => out) pages = out.take (pages * n) := by
  induction pages with
  | zero => simp [collected]
  | succ pages ih =>
    unfold collected at ih ⊢
    rw [List.range_succ, List.flatMap_append, ih, List.flatMap_singleton, ← take_succ_mul]

/-- Whatever the answers are, the pages have every row exactly once. -/
theorem collected_perm {answer : Nat → List α} {pages : Nat}
    (h : ∀ j, Answers key rows (answer j)) (hsplit : ∀ j, ¬ Splits key rows (j * n))
    (hpages : rows.length ≤ pages * n) : (collected n answer pages).Perm rows := by
  have hsame : (collected n answer pages).Perm (collected n (fun _ => answer 0) pages) :=
    List.Perm.flatMap_left _ fun j _ => (h j).page_perm (h 0) (hsplit j) (hsplit (j + 1))
  refine hsame.trans ?_
  rw [collected_const, List.take_of_length_le ((h 0).perm.length_eq.trans_le hpages)]
  exact (h 0).perm

/-- An answer in which the rows are sorted. -/
theorem answers_mergeSort (key : α → κ) (rows : List α) :
    Answers key rows (rows.mergeSort fun a b => decide (key b ≤ key a)) where
  perm := List.mergeSort_perm rows _
  sorted := by
    refine (List.pairwise_mergeSort ?_ ?_ rows).imp fun h => of_decide_eq_true h
    · intro a b c hab hbc
      exact decide_eq_true ((of_decide_eq_true hbc).trans (of_decide_eq_true hab))
    · intro a b
      simpa using le_total (key b) (key a)

/-- The order in which rows of equal key stay as they were. -/
def DescendingOrder.stable (key : α → κ) : DescendingOrder key where
  apply rows := rows.mergeSort fun a b => decide (key b ≤ key a)
  answers := answers_mergeSort key

theorem le_countP_of_take {p : α → Bool} (h : ∀ b ∈ out.take m, p b = true)
    (hm : m ≤ out.length) : m ≤ out.countP p := by
  have htake := List.countP_eq_length.mpr h
  rw [List.length_take, Nat.min_eq_left hm] at htake
  exact htake.symm.trans_le ((List.take_sublist m out).countP_le)

theorem countP_le_of_drop {p : α → Bool} (h : ∀ b ∈ out.drop m, ¬ p b = true) :
    out.countP p ≤ m := by
  have hdrop := List.countP_eq_zero.mpr h
  have htake : (out.take m).countP p ≤ (out.take m).length := List.countP_le_length
  have hlen : (out.take m).length ≤ m := List.length_take_le m out
  rw [← List.take_append_drop m out, List.countP_append, hdrop]
  omega

theorem Answers.le_of_take_succ (h : Answers key rows out) {b : α} (hm : m < out.length)
    (hb : b ∈ out.take (m + 1)) : key out[m] ≤ key b := by
  rw [List.take_succ_eq_append_getElem hm, List.mem_append, List.mem_singleton] at hb
  rcases hb with hb | rfl
  · refine h.le_of_split hb ?_
    exact List.mem_drop_iff_getElem.mpr ⟨0, by omega, by simp⟩
  · exact le_refl _

theorem Answers.le_of_drop (h : Answers key rows out) {b : α} (hm : m < out.length)
    (hb : b ∈ out.drop m) : key b ≤ key out[m] := by
  rw [List.drop_eq_getElem_cons hm] at hb
  rcases List.mem_cons.mp hb with rfl | hb
  · exact le_refl _
  · refine h.le_of_split ?_ hb
    exact List.mem_take_iff_getElem.mpr ⟨m, by omega, rfl⟩

/-- Two rows of equal key next to each other, before and after a split. -/
theorem Answers.tie (h : Answers key rows out) (hsplit : Splits key rows (m + 1)) :
    ∃ before x y after, out = before ++ x :: y :: after ∧ before.length = m ∧ key x = key y := by
  obtain ⟨a, -, habove, hleast⟩ := hsplit
  rw [h.count] at habove hleast
  have hlen : m + 1 < out.length := hleast.trans_le List.countP_le_length
  refine ⟨out.take m, out[m], out[m + 1], out.drop (m + 2), ?_, ?_, ?_⟩
  · rw [← List.drop_eq_getElem_cons, ← List.drop_eq_getElem_cons, List.take_append_drop]
  · rw [List.length_take]
    omega
  · have hx : out[m] ∈ out.take (m + 1) := List.mem_take_iff_getElem.mpr ⟨m, by omega, rfl⟩
    have hy : out[m + 1] ∈ out.drop (m + 1) := List.mem_drop_iff_getElem.mpr ⟨0, by omega, by simp⟩
    have hxa : key out[m] ≤ key a := by
      by_contra hlt
      refine absurd (le_countP_of_take (fun b hb => ?_) hlen.le) (Nat.not_le.mpr habove)
      exact decide_eq_true ((not_le.mp hlt).trans_le (h.le_of_take_succ (by omega) hb))
    have hya : key a ≤ key out[m + 1] := by
      by_contra hlt
      refine absurd (countP_le_of_drop fun b hb hle => ?_) (Nat.not_le.mpr hleast)
      exact hlt ((of_decide_eq_true hle).trans (h.le_of_drop (by omega) hb))
    exact le_antisymm (hxa.trans hya) (h.le_of_split hx hy)

theorem mem_take_of_length_lt {before after : List α} {x : α} (h : before.length < n) :
    x ∈ (before ++ x :: after).take n := by
  obtain ⟨k, hk⟩ : ∃ k, n - before.length = k + 1 := ⟨n - before.length - 1, by omega⟩
  rw [List.take_append, hk]
  exact List.mem_append_right _ (List.mem_cons_self ..)

/-- A row that one answer has at the end of a page and another one at the start of the next. -/
theorem exists_repeated (hsplit : Splits key rows ((j + 1) * n)) :
    ∃ out out' x, Answers key rows out ∧ Answers key rows out' ∧ x ∈ page n j out ∧
      x ∈ page n (j + 1) out' := by
  have hn : 0 < n := by
    refine Nat.pos_of_ne_zero ?_
    rintro rfl
    exact not_splits_zero hsplit
  obtain ⟨m, hm⟩ : ∃ m, (j + 1) * n = m + 1 := ⟨(j + 1) * n - 1, by rw [Nat.succ_mul]; omega⟩
  rw [hm] at hsplit
  have hanswer := answers_mergeSort key rows
  obtain ⟨before, x, y, after, hout, hlen, hkey⟩ := hanswer.tie hsplit
  rw [hout] at hanswer
  have hswapped : Answers key rows (before ++ y :: x :: after) := by
    constructor
    · exact ((List.Perm.swap x y after).append_left before).trans hanswer.perm
    · have hsorted := hanswer.sorted
      simp only [List.pairwise_append, List.pairwise_cons, List.forall_mem_cons, hkey,
        le_refl, true_and] at hsorted ⊢
      exact hsorted
  refine ⟨_, _, x, hanswer, hswapped, ?_, ?_⟩
  · have hpage : j * n ≤ before.length := by
      rw [Nat.succ_mul] at hm
      omega
    unfold page
    rw [List.drop_append_of_le_length hpage]
    refine mem_take_of_length_lt ?_
    rw [List.length_drop, hlen]
    rw [Nat.succ_mul] at hm
    omega
  · unfold page
    rw [hm, ← hlen, ← List.drop_drop, List.drop_left]
    show x ∈ ([] ++ x :: after).take n
    exact mem_take_of_length_lt hn

open Classical in
/-- A query that answers this to these rows. -/
noncomputable def DescendingOrder.answering (h : Answers key rows out) : DescendingOrder key where
  apply rows' := if rows' = rows then out else rows'.mergeSort fun a b => decide (key b ≤ key a)
  answers rows' := by
    split
    next he => exact he ▸ h
    next => exact answers_mergeSort key rows'

theorem DescendingOrder.apply_answering (h : Answers key rows out) :
    (answering h).apply rows = out := if_pos rfl

/-- Where a page splits rows of equal key, there are answers that repeat a row. -/
theorem exists_not_nodup {pages : Nat} (hsplit : Splits key rows (j * n))
    (hpages : rows.length ≤ pages * n) : ∃ order : Nat → DescendingOrder key,
      ¬ (collected n (fun i => (order i).apply rows) pages).Nodup := by
  obtain ⟨i, rfl⟩ : ∃ i, j = i + 1 := by
    refine Nat.exists_eq_succ_of_ne_zero ?_
    rintro rfl
    exact not_splits_zero (Nat.zero_mul n ▸ hsplit)
  have hlt : (i + 1) * n < pages * n := by
    refine lt_of_lt_of_le (not_le.mp fun hle => ?_) hpages
    exact not_splits_of_length_le hle hsplit
  have hi : i + 1 < pages := Nat.lt_of_mul_lt_mul_right hlt
  obtain ⟨out, out', x, hout, hout', hx, hx'⟩ := exists_repeated hsplit
  refine ⟨fun a => if a = i then .answering hout else .answering hout', fun hnodup => ?_⟩
  have hdisjoint := (List.nodup_flatMap.mp hnodup).2
  rw [List.pairwise_iff_getElem] at hdisjoint
  have hpages := hdisjoint i (i + 1) (by simp; omega) (by simp; omega) (by omega)
  simp only [Function.onFun, List.getElem_range, if_true,
    DescendingOrder.apply_answering] at hpages
  rw [if_neg (by omega), DescendingOrder.apply_answering] at hpages
  exact hpages hx hx'

end Pages

end BackupCenter.Lib
