import Mathlib.Data.List.Basic

/-!
# Quoted strings and lists in braces

A string is read character by character up to its closing quotation mark, a list item by item, with
commas between the items, up to its closing brace.
-/
namespace BackupCenter.Lib

/-! ## Strings -/

/-- The characters up to the closing quotation mark. -/
def readString (readChar : List Char → Option (Char × List Char)) :
    Nat → List Char → Option (List Char × List Char)
  | _, '"' :: rest => some ([], rest)
  | 0, _ => none
  | fuel + 1, text => do
    let (c, rest) ← readChar text
    let (s, rest) ← readString readChar fuel rest
    return (c :: s, rest)

section Strings

variable {readChar : List Char → Option (Char × List Char)} {escape : Char → List Char}

/-- An escaped character does not end the string. -/
theorem readString_cons {fuel : Nat} {c : Char} {text rest s : List Char}
    (hread : readChar (escape c ++ text) = some (c, text))
    (hhead : (escape c).head? ≠ some '"') (hne : escape c ≠ [])
    (h : readString readChar fuel text = some (s, rest)) :
    readString readChar (fuel + 1) (escape c ++ text) = some (c :: s, rest) := by
  have hquote : ∀ tail, escape c ++ text ≠ '"' :: tail := by
    intro tail he
    have hfirst := congrArg List.head? he
    rw [List.head?_append_of_ne_nil _ hne] at hfirst
    exact hhead hfirst
  rw [readString, hread]
  · simp only [Option.bind_eq_bind, Option.bind_some, h, Option.pure_def]
  · exact hquote

/-- Characters that are read back one by one are read back together. -/
theorem readString_flatMap {fuel : Nat} {s : List Char} (rest : List Char)
    (hread : ∀ c ∈ s, ∀ text, readChar (escape c ++ text) = some (c, text))
    (hhead : ∀ c, (escape c).head? ≠ some '"') (hne : ∀ c, escape c ≠ []) (h : s.length ≤ fuel) :
    readString readChar fuel (s.flatMap escape ++ '"' :: rest) = some (s, rest) := by
  induction s generalizing fuel with
  | nil => cases fuel <;> rfl
  | cons c s ih =>
    obtain ⟨fuel, rfl⟩ : ∃ k, fuel = k + 1 := ⟨fuel - 1, by simp at h; omega⟩
    rw [List.flatMap_cons, List.append_assoc]
    exact readString_cons (hread c List.mem_cons_self _) (hhead c) (hne c)
      (ih (fun d hd => hread d (List.mem_cons_of_mem _ hd)) (Nat.le_of_succ_le_succ h))

theorem length_le_flatMap {α β : Type*} {f : α → List β} (hne : ∀ a, f a ≠ []) (l : List α) :
    l.length ≤ (l.flatMap f).length := by
  induction l with
  | nil => exact Nat.le_refl _
  | cons a l ih =>
    have hpos := List.length_pos_of_ne_nil (hne a)
    rw [List.flatMap_cons, List.length_append, List.length_cons]
    omega

end Strings

/-! ## Lists -/

section Lists

variable {α : Type} {item : List Char → Option (α × List Char)} {write : α → List Char}

/-- At least one item, up to the brace. -/
def readItems (item : List Char → Option (α × List Char)) :
    Nat → List Char → Option (List α × List Char)
  | 0, _ => none
  | fuel + 1, text => do
    let (a, rest) ← item text
    match rest with
    | ',' :: rest =>
      let (as, rest) ← readItems item fuel rest
      return (a :: as, rest)
    | '}' :: rest => return ([a], rest)
    | _ => none

def writeItems (write : α → List Char) (as : List α) : List Char :=
  [','].intercalate (as.map write) ++ ['}']

/-- Items that are read back one by one are read back together. -/
theorem readItems_writeItems {P : α → Prop}
    (hitem : ∀ a rest, P a → item (write a ++ rest) = some (a, rest)) {fuel : Nat} {as : List α}
    (hP : ∀ a ∈ as, P a) (hne : as ≠ []) (rest : List Char) (h : as.length ≤ fuel) :
    readItems item fuel (writeItems write as ++ rest) = some (as, rest) := by
  unfold writeItems
  induction as generalizing fuel with
  | nil => exact absurd rfl hne
  | cons a as ih =>
    have ha := hP a List.mem_cons_self
    obtain ⟨fuel, rfl⟩ : ∃ k, fuel = k + 1 := ⟨fuel - 1, by simp at h; omega⟩
    cases as with
    | nil =>
      rw [List.map_singleton, List.intercalate_singleton, List.append_assoc, readItems,
        hitem a _ ha]
      rfl
    | cons a' as =>
      have hrest := ih (fun b hb => hP b (List.mem_cons_of_mem _ hb)) (List.cons_ne_nil a' as)
        (Nat.le_of_succ_le_succ h)
      rw [List.append_assoc, List.singleton_append] at hrest
      rw [List.map_cons, List.map_cons, List.intercalate_cons_cons, List.append_assoc,
        List.append_assoc, List.append_assoc, readItems, hitem a _ ha, ← List.map_cons]
      simp only [Option.bind_eq_bind, Option.bind_some, List.cons_append, List.nil_append,
        hrest, Option.pure_def]

theorem length_le_intercalate {β : Type*} {sep : List β} {ls : List (List β)}
    (hne : ∀ l ∈ ls, l ≠ []) : ls.length ≤ (sep.intercalate ls).length := by
  induction ls with
  | nil => exact Nat.zero_le _
  | cons l ls ih =>
    have hpos := List.length_pos_of_ne_nil (hne l List.mem_cons_self)
    have hrest := ih fun l' hl' => hne l' (List.mem_cons_of_mem _ hl')
    cases ls with
    | nil =>
      rw [List.intercalate_singleton]
      exact hpos
    | cons l' ls =>
      rw [List.intercalate_cons_cons, List.length_append, List.length_append, List.length_cons]
      omega

theorem length_le_writeItems {as : List α} (hne : ∀ a, write a ≠ []) :
    as.length ≤ (writeItems write as).length := by
  have hle := @length_le_intercalate _ [','] (as.map write) fun l hl => by
    obtain ⟨a, -, rfl⟩ := List.mem_map.mp hl
    exact hne a
  rw [List.length_map] at hle
  rw [writeItems, List.length_append]
  omega

theorem mem_writeItems {as : List α} {c : Char} (h : c ∈ writeItems write as) :
    c = ',' ∨ c = '}' ∨ ∃ a ∈ as, c ∈ write a := by
  rcases List.mem_append.mp h with h | h
  · induction as with
    | nil => exact absurd h List.not_mem_nil
    | cons a as ih =>
      cases as with
      | nil =>
        rw [List.map_singleton, List.intercalate_singleton] at h
        exact .inr (.inr ⟨a, List.mem_cons_self, h⟩)
      | cons a' as =>
        rw [List.map_cons, List.map_cons, List.intercalate_cons_cons, ← List.map_cons] at h
        rcases List.mem_append.mp h with h | h
        · rcases List.mem_append.mp h with h | h
          · exact .inr (.inr ⟨a, List.mem_cons_self, h⟩)
          · exact .inl (List.mem_singleton.mp h)
        · rcases ih (List.mem_append_left _ h) h with hc | hc | ⟨b, hb, hc⟩
          · exact .inl hc
          · exact .inr (.inl hc)
          · exact .inr (.inr ⟨b, List.mem_cons_of_mem _ hb, hc⟩)
  · exact .inr (.inl (List.mem_singleton.mp h))

end Lists

end BackupCenter.Lib
