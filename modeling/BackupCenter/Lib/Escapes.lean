import Mathlib.Data.List.TakeWhile

/-!
# Lists of pairs with escapes

Pairs are written with a sign between key and value and a separator between the pairs; in front of a
separator or an escape stands an escape. The reader splits at the separators that are not escaped,
then each item at its first sign, and removes one level of escapes at the end.
-/
namespace BackupCenter.Lib.Escapes

variable {α : Type} [DecidableEq α] (sep esc sign : α)

/-! ## Writing -/

def escape (text : List α) : List α :=
  text.flatMap fun c => if c = esc ∨ c = sep then [esc, c] else [c]

def writePair (pair : List α × List α) : List α := escape sep esc (pair.1 ++ sign :: pair.2)

def writePairs (pairs : List (List α × List α)) : List α :=
  [sep].intercalate (pairs.map (writePair sep esc sign))

/-! ## Reading -/

/-- Put a character in front of the first item. -/
def push (c : α) : List (List α) → List (List α)
  | [] => [[c]]
  | item :: items => (c :: item) :: items

/-- The items between the separators that are not escaped, after an escape or not. -/
def splitItems : Bool → List α → List (List α)
  | _, [] => [[]]
  | true, c :: cs => push c (splitItems false cs)
  | false, c :: cs =>
    if c = sep then [] :: splitItems false cs else push c (splitItems (c = esc) cs)

/-- Remove one level of escapes. -/
def unescape : List α → List α
  | [] => []
  | [c] => [c]
  | c :: d :: cs => if c = esc then d :: unescape cs else c :: unescape (d :: cs)

/-- An item, split at its first sign; the value is missing if there is none. -/
def readPair (item : List α) : List α × Option (List α) :=
  (unescape esc (item.takeWhile (· ≠ sign)),
    match item.dropWhile (· ≠ sign) with
    | [] => none
    | _ :: value => some (unescape esc value))

def readPairs (text : List α) : List (List α × Option (List α)) :=
  (splitItems sep esc false text).map (readPair esc sign)

/-! ## The round trip -/

variable {sep esc sign} {text rest : List α} {c : α}

theorem escape_cons : escape sep esc (c :: text) =
    (if c = esc ∨ c = sep then [esc, c] else [c]) ++ escape sep esc text := rfl

theorem escape_append (a b : List α) :
    escape sep esc (a ++ b) = escape sep esc a ++ escape sep esc b := List.flatMap_append

/-- The escaped characters of a text go to the item that has begun. -/
theorem splitItems_escape (hne : sep ≠ esc) :
    splitItems sep esc false (escape sep esc text ++ rest) =
      (escape sep esc text).foldr push (splitItems sep esc false rest) := by
  induction text with
  | nil => rfl
  | cons c text ih =>
    rw [escape_cons]
    split
    next hc =>
      have hesc : ¬ esc = sep := fun h => hne h.symm
      show splitItems sep esc false (esc :: c :: (escape sep esc text ++ rest)) =
        push esc (push c ((escape sep esc text).foldr push (splitItems sep esc false rest)))
      rw [splitItems, if_neg hesc, decide_eq_true rfl, splitItems, ih]
    next hc =>
      obtain ⟨hesc, hsep⟩ := not_or.mp hc
      show splitItems sep esc false (c :: (escape sep esc text ++ rest)) =
        push c ((escape sep esc text).foldr push (splitItems sep esc false rest))
      rw [splitItems, if_neg hsep, decide_eq_false hesc, ih]

omit [DecidableEq α] in
theorem foldr_push (item : List α) (items : List (List α)) :
    text.foldr push (item :: items) = (text ++ item) :: items := by
  induction text with
  | nil => rfl
  | cons c text ih => rw [List.foldr_cons, ih]; rfl

/-- Items that are written with separators between them are found again. -/
theorem splitItems_intercalate (hne : sep ≠ esc) {items : List (List α)} (h : items ≠ []) :
    splitItems sep esc false ([sep].intercalate (items.map (escape sep esc))) =
      items.map (escape sep esc) := by
  induction items with
  | nil => exact absurd rfl h
  | cons item items ih =>
    cases items with
    | nil =>
      have hone : [sep].intercalate ([item].map (escape sep esc)) = escape sep esc item ++ [] := by
        simp [List.intercalate]
      rw [hone, splitItems_escape hne, splitItems, foldr_push, List.append_nil]
      rfl
    | cons next items =>
      have hsplit : [sep].intercalate ((item :: next :: items).map (escape sep esc)) =
          escape sep esc item ++
            sep :: [sep].intercalate ((next :: items).map (escape sep esc)) := by
        simp [List.intercalate]
      rw [hsplit, splitItems_escape hne, splitItems, if_pos rfl, ih (List.cons_ne_nil _ _),
        foldr_push, List.append_nil]
      rfl

theorem unescape_cons (hc : c ≠ esc) : unescape esc (c :: text) = c :: unescape esc text := by
  cases text with
  | nil => rfl
  | cons d text => rw [unescape, if_neg hc]

/-- Removing the escapes gives the text back. -/
theorem unescape_escape (text : List α) : unescape esc (escape sep esc text) = text := by
  induction text with
  | nil => rfl
  | cons c text ih =>
    rw [escape_cons]
    split
    next hc =>
      show unescape esc (esc :: c :: escape sep esc text) = c :: text
      rw [unescape, if_pos rfl, ih]
    next hc =>
      show unescape esc (c :: escape sep esc text) = c :: text
      rw [unescape_cons fun h => hc (.inl h), ih]

/-- Escaping brings in no other character than the escape. -/
theorem not_mem_escape (hc : c ≠ esc) (h : c ∉ text) : c ∉ escape sep esc text := by
  intro hmem
  obtain ⟨d, hd, hmem⟩ := List.mem_flatMap.mp hmem
  have hne : c ≠ d := fun he => h (he ▸ hd)
  split at hmem
  · simp [hc, hne] at hmem
  · exact hne (List.mem_singleton.mp hmem)

/-- A key without a sign is found again, and so is its value. -/
theorem readPair_writePair (hsign : sign ≠ sep ∧ sign ≠ esc) {pair : List α × List α}
    (hkey : sign ∉ pair.1) :
    readPair esc sign (writePair sep esc sign pair) = (pair.1, some pair.2) := by
  have hwrite : writePair sep esc sign pair =
      escape sep esc pair.1 ++ sign :: escape sep esc pair.2 := by
    rw [writePair, escape_append, escape_cons, if_neg fun h => h.elim hsign.2 hsign.1]
    rfl
  have hplain : ∀ c ∈ escape sep esc pair.1, decide (c ≠ sign) = true := fun c hc =>
    decide_eq_true fun he => not_mem_escape hsign.2 hkey (he ▸ hc)
  have htake (rest : List α) : (sign :: rest).takeWhile (· ≠ sign) = [] :=
    List.takeWhile_cons_of_neg (by simp)
  have hdrop (rest : List α) : (sign :: rest).dropWhile (· ≠ sign) = sign :: rest :=
    List.dropWhile_cons_of_neg (by simp)
  rw [readPair, hwrite, List.takeWhile_append_of_pos hplain, List.dropWhile_append_of_pos hplain,
    htake, hdrop, List.append_nil, unescape_escape]
  exact congrArg (fun value => (pair.1, some value)) (unescape_escape pair.2)

/-- What is written is read back, and nothing else. -/
theorem readPairs_writePairs (hsep : sep ≠ esc) (hsign : sign ≠ sep ∧ sign ≠ esc)
    {pairs : List (List α × List α)} (hne : pairs ≠ []) (hkeys : ∀ pair ∈ pairs, sign ∉ pair.1) :
    readPairs sep esc sign (writePairs sep esc sign pairs) =
      pairs.map fun pair => (pair.1, some pair.2) := by
  have hitems : pairs.map (writePair sep esc sign) =
      (pairs.map fun pair => pair.1 ++ sign :: pair.2).map (escape sep esc) := by
    rw [List.map_map]
    rfl
  have hnil : (pairs.map fun pair => pair.1 ++ sign :: pair.2) ≠ [] :=
    fun h => hne (List.map_eq_nil_iff.mp h)
  rw [readPairs, writePairs, hitems, splitItems_intercalate hsep hnil, ← hitems, List.map_map]
  exact List.map_congr_left fun pair hpair => readPair_writePair hsign (hkeys pair hpair)

end BackupCenter.Lib.Escapes
