import Mathlib.Data.List.Nodup

/-!
# Tables with a primary key

A table is a list of rows whose keys are distinct. An update carries the proof that it keeps
the key of every row, so that a row can be traced back to the row it was.
-/
namespace BackupCenter.Lib

/-- The primary key of a type of rows. -/
class Keyed (ρ : Type) (κ : outParam Type) where
  key : ρ → κ

export Keyed (key)

/-- A change of rows that keeps their keys. -/
structure Update (ρ : Type) {κ : Type} [Keyed ρ κ] where
  apply : ρ → ρ
  keeps : ∀ r, key (apply r) = key r := by intro _; rfl

/-- The order in which a query returns its rows. -/
structure RowOrder (ρ : Type) where
  apply : List ρ → List ρ
  perm : ∀ rows, (apply rows).Perm rows

def RowOrder.asStored {ρ : Type} : RowOrder ρ := ⟨id, fun _ => .refl _⟩

structure Table (ρ : Type) {κ : Type} [Keyed ρ κ] where
  rows : List ρ
  nodup : (rows.map key).Nodup := by decide

namespace Table

variable {ρ κ : Type} [Keyed ρ κ] {t : Table ρ} {r : ρ} {k : κ}

/-- A table without rows. -/
def empty : Table ρ where
  rows := []
  nodup := List.nodup_nil

instance : Membership ρ (Table ρ) := ⟨fun t r => r ∈ t.rows⟩

theorem mem_def : r ∈ t ↔ r ∈ t.rows := Iff.rfl

/-- Rows with one key are one row. -/
theorem eq_of_key {a b : ρ} (ha : a ∈ t) (hb : b ∈ t) (h : key a = key b) : a = b :=
  List.inj_on_of_nodup_map t.nodup ha hb h

/-- A table is determined by its rows. -/
theorem eq_of_rows {t t' : Table ρ} (h : t.rows = t'.rows) : t = t' := by
  cases t
  cases t'
  cases h
  rfl

/-- The rows in `P` are the same in both tables. -/
def Untouched (P : ρ → Prop) (t t' : Table ρ) : Prop := ∀ r, P r → (r ∈ t ↔ r ∈ t')

theorem Untouched.refl (P : ρ → Prop) (t : Table ρ) : Untouched P t t := fun _ _ => Iff.rfl

theorem Untouched.trans {P : ρ → Prop} {t₁ t₂ t₃ : Table ρ} (h₁ : Untouched P t₁ t₂)
    (h₂ : Untouched P t₂ t₃) : Untouched P t₁ t₃ :=
  fun r hr => (h₁ r hr).trans (h₂ r hr)

/-! ## Updating and deleting rows -/

/-- Change the rows in `p`. -/
def modify (t : Table ρ) (p : ρ → Bool) (f : Update ρ) : Table ρ where
  rows := t.rows.map fun r => if p r then f.apply r else r
  nodup := by
    have hkeys : (t.rows.map fun r => if p r then f.apply r else r).map key = t.rows.map key := by
      rw [List.map_map]
      apply List.map_congr_left
      intro r _
      simp only [Function.comp_apply]
      split
      · exact f.keeps r
      · rfl
    exact hkeys ▸ t.nodup

/-- Delete the rows in `p`. -/
def erase (t : Table ρ) (p : ρ → Bool) : Table ρ where
  rows := t.rows.filter fun r => !p r
  nodup := (List.filter_sublist.map key).nodup t.nodup

variable {p : ρ → Bool} {f : Update ρ}

theorem mem_modify : r ∈ t.modify p f ↔ ∃ a ∈ t, r = if p a then f.apply a else a := by
  simp only [mem_def, modify, List.mem_map, eq_comm]

theorem mem_erase : r ∈ t.erase p ↔ r ∈ t ∧ p r = false := by
  simp [mem_def, erase]

/-- An update leaves the rows in `P` alone exactly when it changes none of them. -/
theorem untouched_modify {P : ρ → Prop} (hP : ∀ r, P (f.apply r) ↔ P r) :
    Untouched P t (t.modify p f) ↔ ∀ r ∈ t, P r → p r = true → f.apply r = r := by
  constructor
  · intro h r hr hPr hp
    obtain ⟨a, ha, he⟩ := mem_modify.mp ((h r hPr).mp hr)
    have hkey : key a = key r := by
      rw [he]
      split
      · exact (f.keeps a).symm
      · rfl
    obtain rfl := eq_of_key ha hr hkey
    simpa [hp] using he.symm
  · intro h r hPr
    rw [mem_modify]
    constructor
    · intro hr
      refine ⟨r, hr, ?_⟩
      split
      next hp => exact (h r hr hPr hp).symm
      next => rfl
    · rintro ⟨a, ha, he⟩
      split at he
      next hp =>
        have hPa : P a := (hP a).mp (he ▸ hPr)
        rw [he, h a ha hPa hp]
        exact ha
      next => exact he ▸ ha

/-- An update of other rows leaves the rows in `P` alone. -/
theorem untouched_modify_of {P : ρ → Prop} (hP : ∀ r, P (f.apply r) ↔ P r)
    (h : ∀ r ∈ t, p r = true → ¬ P r) : Untouched P t (t.modify p f) :=
  (untouched_modify hP).mpr fun r hr hPr hp => absurd hPr (h r hr hp)

/-- An update of one row leaves the rows in `P` alone unless it changes that one. -/
theorem untouched_modify_at {P : ρ → Prop} (hP : ∀ a, P (f.apply a) ↔ P a) (hr : r ∈ t)
    (hp : ∀ a, p a = true ↔ key a = key r) :
    Untouched P t (t.modify p f) ↔ (P r → f.apply r = r) := by
  rw [untouched_modify hP]
  constructor
  · intro h hPr
    exact h r hr hPr ((hp r).mpr rfl)
  · intro h a ha hPa hpa
    obtain rfl := eq_of_key ha hr ((hp a).mp hpa)
    exact h hPa

/-- A deletion leaves the rows in `P` alone exactly when it deletes none of them. -/
theorem untouched_erase {P : ρ → Prop} :
    Untouched P t (t.erase p) ↔ ∀ r ∈ t, P r → p r = false := by
  constructor
  · intro h r hr hPr
    exact (mem_erase.mp ((h r hPr).mp hr)).2
  · intro h r hPr
    rw [mem_erase]
    exact ⟨fun hr => ⟨hr, h r hr hPr⟩, fun hr => hr.1⟩

/-- The deletion of one row leaves the rows in `P` alone unless it is one of them. -/
theorem untouched_erase_at {P : ρ → Prop} (hr : r ∈ t) (hp : ∀ a, p a = true ↔ key a = key r) :
    Untouched P t (t.erase p) ↔ ¬ P r := by
  rw [untouched_erase]
  constructor
  · intro h hPr
    have hkept := h r hr hPr
    rw [(hp r).mpr rfl] at hkept
    cases hkept
  · intro h a ha hPa
    rw [← Bool.not_eq_true, hp]
    intro hkey
    obtain rfl := eq_of_key ha hr hkey
    exact h hPa

/-! ## Counting rows -/

/-- A change that brings no row into `P` does not raise the count of `P`. -/
theorem countP_modify_le {P : ρ → Bool}
    (h : ∀ r ∈ t, p r = true → P (f.apply r) = true → P r = true) :
    (t.modify p f).rows.countP P ≤ t.rows.countP P := by
  unfold modify
  rw [List.countP_map]
  apply List.countP_mono_left
  intro r hr hP
  rw [Function.comp_apply] at hP
  split at hP
  next hp => exact h r hr hp hP
  next => exact hP

theorem countP_erase_le {P : ρ → Bool} : (t.erase p).rows.countP P ≤ t.rows.countP P :=
  List.filter_sublist.countP_le

/-! ## Rows that stay -/

/-- Every row is still there, with the same `g`. -/
def Keeps {α : Type*} (g : ρ → α) (t t' : Table ρ) : Prop :=
  ∀ r ∈ t, ∃ r' ∈ t', key r' = key r ∧ g r' = g r

section Keeps

variable {α : Type*} {g : ρ → α} {t' t'' : Table ρ}

theorem Keeps.refl (g : ρ → α) (t : Table ρ) : Keeps g t t := fun r hr => ⟨r, hr, rfl, rfl⟩

theorem Keeps.trans (h : Keeps g t t') (h' : Keeps g t' t'') : Keeps g t t'' := by
  intro r hr
  obtain ⟨r', hr', hkey, hg⟩ := h r hr
  obtain ⟨r'', hr'', hkey', hg'⟩ := h' r' hr'
  exact ⟨r'', hr'', hkey'.trans hkey, hg'.trans hg⟩

theorem keeps_modify (hf : ∀ r, g (f.apply r) = g r) : Keeps g t (t.modify p f) := by
  intro r hr
  refine ⟨_, mem_modify.mpr ⟨r, hr, rfl⟩, ?_⟩
  split
  · exact ⟨f.keeps r, hf r⟩
  · exact ⟨rfl, rfl⟩

end Keeps

/-! ## Looking rows up by key -/

variable [DecidableEq κ]

/-- `query(...).filter(id == k).first()` -/
def find (t : Table ρ) (k : κ) : Option ρ := t.rows.find? fun r => key r = k

theorem find_eq_some : t.find k = some r ↔ r ∈ t ∧ key r = k := by
  constructor
  · intro h
    exact ⟨List.mem_of_find?_eq_some h, by simpa using List.find?_some h⟩
  · rintro ⟨hmem, rfl⟩
    cases hfind : t.find (key r) with
    | none => exact absurd (List.find?_eq_none.mp hfind r hmem) (by simp)
    | some a =>
      have ha : key a = key r := by simpa using List.find?_some hfind
      rw [eq_of_key (List.mem_of_find?_eq_some hfind) hmem ha]

/-- A row after an update of its table. -/
theorem find_modify :
    (t.modify p f).find k = (t.find k).map fun r => if p r then f.apply r else r := by
  have hkey : ∀ a, key (if p a then f.apply a else a) = key a := by
    intro a
    split
    · exact f.keeps a
    · rfl
  cases hfind : t.find k with
  | none =>
    cases hmod : (t.modify p f).find k with
    | none => rfl
    | some r =>
      obtain ⟨hmem, hk⟩ := find_eq_some.mp hmod
      obtain ⟨a, ha, rfl⟩ := mem_modify.mp hmem
      exact nomatch hfind.symm.trans (find_eq_some.mpr ⟨ha, (hkey a).symm.trans hk⟩)
  | some r =>
    obtain ⟨hmem, hk⟩ := find_eq_some.mp hfind
    exact find_eq_some.mpr ⟨mem_modify.mpr ⟨r, hmem, rfl⟩, (hkey r).trans hk⟩

theorem find_modify_self : (t.modify (fun r => key r = k) f).find k = (t.find k).map f.apply := by
  rw [find_modify]
  cases hfind : t.find k with
  | none => rfl
  | some r =>
    have hk := (find_eq_some.mp hfind).2
    simp [hk]

theorem find_modify_ne {other : κ} (h : other ≠ k) :
    (t.modify (fun r => key r = k) f).find other = t.find other := by
  rw [find_modify]
  cases hfind : t.find other with
  | none => rfl
  | some r =>
    have hk := (find_eq_some.mp hfind).2
    simp [hk, h]

/-- A change of one row raises a count by one at most. -/
theorem countP_modify_one_le {P : ρ → Bool} :
    (t.modify (fun r => key r = k) f).rows.countP P ≤ t.rows.countP P + 1 := by
  have hrows : ∀ rows : List ρ, (rows.map key).Nodup →
      (rows.map fun r => if decide (key r = k) = true then f.apply r else r).countP P ≤
        rows.countP P + 1 := by
    intro rows hnodup
    induction rows with
    | nil => exact Nat.zero_le _
    | cons r rows ih =>
      obtain ⟨hnew, hnodup⟩ := List.nodup_cons.mp hnodup
      rw [List.map_cons, List.countP_cons, List.countP_cons]
      by_cases hk : key r = k
      · -- the others have other keys
        have hsame : (rows.map fun a => if decide (key a = k) = true then f.apply a else a) =
            rows.map id := by
          apply List.map_congr_left
          intro a ha
          have hne : key a ≠ k := fun he => hnew (List.mem_map.mpr ⟨a, ha, he.trans hk.symm⟩)
          simp [hne]
        rw [hsame, List.map_id]
        split <;> split <;> omega
      · simp only [hk, decide_false, Bool.false_eq_true, if_false]
        have hrest := ih hnodup
        simp only [decide_eq_true_eq] at hrest ⊢
        omega
  exact hrows t.rows t.nodup

/-- Add a row with a new key. -/
def insert (t : Table ρ) (r : ρ) (h : t.find (key r) = none) : Table ρ where
  rows := r :: t.rows
  nodup := by
    refine List.nodup_cons.mpr ⟨fun hmem => ?_, t.nodup⟩
    obtain ⟨a, ha, hkey⟩ := List.mem_map.mp hmem
    have hsome : t.find (key r) = some a := find_eq_some.mpr ⟨ha, hkey⟩
    rw [h] at hsome
    cases hsome

theorem mem_insert {a : ρ} {h : t.find (key r) = none} : a ∈ t.insert r h ↔ a = r ∨ a ∈ t := by
  simp [mem_def, insert]

/-- Add a row unless its key is taken. -/
def add (t : Table ρ) (r : ρ) : Option (Table ρ) :=
  if h : t.find (key r) = none then some (t.insert r h) else none

variable {t' : Table ρ}

theorem add_isSome : (t.add r).isSome = true ↔ t.find (key r) = none := by
  by_cases h : t.find (key r) = none <;> simp [add, h]

theorem mem_of_add (h : t.add r = some t') {a : ρ} : a ∈ t' ↔ a = r ∨ a ∈ t := by
  obtain ⟨hnew, he⟩ := Option.dite_none_right_eq_some.mp h
  exact (Option.some.inj he) ▸ mem_insert

theorem countP_of_add {P : ρ → Bool} (h : t.add r = some t') :
    t'.rows.countP P = t.rows.countP P + if P r = true then 1 else 0 := by
  obtain ⟨hnew, he⟩ := Option.dite_none_right_eq_some.mp h
  rw [← Option.some.inj he]
  exact List.countP_cons ..

theorem untouched_of_add {P : ρ → Prop} (h : t.add r = some t') (hr : ¬ P r) :
    Untouched P t t' := by
  intro a hPa
  rw [mem_of_add h]
  exact ⟨.inr, fun ha => ha.resolve_left fun he => hr (he ▸ hPa)⟩

/-- Add the rows one by one, unless a key is taken. -/
def addAll (t : Table ρ) : List ρ → Option (Table ρ)
  | [] => some t
  | r :: rs => (t.add r).bind fun t' => t'.addAll rs

theorem addAll_perm {rs : List ρ} (h : t.addAll rs = some t') :
    t'.rows.Perm (t.rows ++ rs) := by
  induction rs generalizing t with
  | nil =>
    obtain rfl := Option.some.inj h
    rw [List.append_nil]
  | cons r rs ih =>
    obtain ⟨u, hu, hrest⟩ := Option.bind_eq_some_iff.mp h
    obtain ⟨hnew, he⟩ := Option.dite_none_right_eq_some.mp hu
    have hrows : u.rows = r :: t.rows := by
      rw [← Option.some.inj he]
      rfl
    refine (ih hrest).trans ?_
    rw [hrows]
    exact List.perm_middle.symm

theorem keeps_of_add {α : Type*} {g : ρ → α} (h : t.add r = some t') : Keeps g t t' :=
  fun a ha => ⟨a, (mem_of_add h).mpr (.inr ha), rfl, rfl⟩

theorem Keeps.find {α : Type*} {g : ρ → α} (h : Keeps g t t') (hr : t.find k = some r) :
    ∃ r', t'.find k = some r' ∧ g r' = g r := by
  obtain ⟨hmem, rfl⟩ := find_eq_some.mp hr
  obtain ⟨r', hr', hkey, hg⟩ := h r hmem
  exact ⟨r', find_eq_some.mpr ⟨hr', hkey⟩, hg⟩

end Table
end BackupCenter.Lib
