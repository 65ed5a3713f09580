import Mathlib.Data.List.Dedup
import Mathlib.Data.List.DropRight
import Mathlib.Data.List.Infix
import Mathlib.Data.List.Sort

/-!
# Text operations on strings

White space, trimming, splitting, sorting and substring search over the characters of
strings. Lower-casing is not here: it needs the full case table, so whatever
uses it takes it as a parameter.
-/
namespace BackupCenter.Lib

/-- The code points with the white-space property. -/
def isSpace (c : Char) : Bool :=
  let n := c.toNat
  (9 ≤ n && n ≤ 13) || (28 ≤ n && n ≤ 32) || n == 0x85 || n == 0xa0 || n == 0x1680 ||
    (0x2000 ≤ n && n ≤ 0x200a) || n == 0x2028 || n == 0x2029 || n == 0x202f ||
    n == 0x205f || n == 0x3000

def stripChars (cs : List Char) : List Char :=
  ((cs.dropWhile isSpace).reverse.dropWhile isSpace).reverse

def strip (s : String) : String := String.ofList (stripChars s.toList)

/-- Maximal runs of characters other than white space. -/
def splitChars : List Char → List (List Char)
  | [] => []
  | c :: cs =>
    if isSpace c then splitChars cs
    else
      match cs with
      | [] => [[c]]
      | d :: _ =>
        if isSpace d then [c] :: splitChars cs
        else
          match splitChars cs with
          | [] => [[c]]
          | w :: ws => (c :: w) :: ws

def words (s : String) : List String := (splitChars s.toList).map String.ofList

/-- The characters that end a line. -/
def isLineBreak (c : Char) : Bool :=
  let n := c.toNat
  (10 ≤ n && n ≤ 13) || (28 ≤ n && n ≤ 30) || n == 0x85 || n == 0x2028 || n == 0x2029

/-- The lines of a text; a break of two characters gives an empty one more. -/
def textLines (s : String) : List String := (s.toList.splitOnP isLineBreak).map String.ofList

/-- The marker occurs somewhere in the text. -/
def contains (text marker : String) : Bool := decide (marker.toList <:+: text.toList)

def containsAny (text : String) (markers : List String) : Bool := markers.any (contains text)

/-- `sorted(set(xs))`. -/
def sortedSet (xs : List String) : List String := xs.dedup.insertionSort (· ≤ ·)

@[simp] theorem mem_sortedSet {x : String} {xs : List String} : x ∈ sortedSet xs ↔ x ∈ xs := by
  simp [sortedSet]

theorem length_sortedSet (xs : List String) : (sortedSet xs).length = xs.dedup.length :=
  List.length_insertionSort ..

/-- A text whose ends are not white space. -/
theorem stripChars_of_ends {cs : List Char} (hhead : ∀ c, cs.head? = some c → isSpace c = false)
    (hlast : ∀ c, cs.getLast? = some c → isSpace c = false) : stripChars cs = cs := by
  have hdrop (ds : List Char) (hds : ∀ c, ds.head? = some c → isSpace c = false) :
      ds.dropWhile isSpace = ds := by
    cases ds with
    | nil => rfl
    | cons d ds => rw [List.dropWhile_cons, hds d rfl, if_neg Bool.false_ne_true]
  rw [stripChars, hdrop cs hhead, hdrop, List.reverse_reverse]
  rwa [List.head?_reverse]

theorem head_dropWhile {cs : List Char} {c : Char} (h : (cs.dropWhile isSpace).head? = some c) :
    isSpace c = false := by
  have hne : cs.dropWhile isSpace ≠ [] := by
    intro hnil
    rw [hnil] at h
    exact absurd h (by simp)
  have hhead := List.head_dropWhile_not isSpace hne
  rw [List.head?_eq_some_head hne] at h
  rwa [Option.some.inj h] at hhead

theorem stripChars_idem (cs : List Char) : stripChars (stripChars cs) = stripChars cs := by
  refine stripChars_of_ends (fun c hc => ?_) fun c hc => ?_
  · have hprefix : stripChars cs <+: cs.dropWhile isSpace := List.rdropWhile_prefix isSpace _
    obtain ⟨ds, hds⟩ := hprefix
    have hfirst : (cs.dropWhile isSpace).head? = some c := by
      rw [← hds, List.head?_append, hc]
      rfl
    exact head_dropWhile hfirst
  · rw [stripChars, List.getLast?_reverse] at hc
    exact head_dropWhile hc

@[simp] theorem strip_strip (s : String) : strip (strip s) = strip s := by
  rw [strip, strip, String.toList_ofList, stripChars_idem]

/-- Text without white space. -/
theorem stripChars_eq_self {cs : List Char} (h : ∀ c ∈ cs, isSpace c = false) :
    stripChars cs = cs :=
  stripChars_of_ends (fun c hc => h c (List.mem_of_head? hc))
    fun c hc => h c (List.mem_of_getLast? hc)

/-- Lower-casing of ASCII letters only. -/
def asciiLower (s : String) : String := String.ofList (s.toList.map Char.toLower)

theorem asciiLower_asciiLower (s : String) : asciiLower (asciiLower s) = asciiLower s := by
  have hchar (c : Char) : c.toLower.toLower = c.toLower := by
    by_cases h : c.val ≥ 'A'.val ∧ c.val ≤ 'Z'.val
    · have hval : c.toLower.val = c.val + 32 := by
        unfold Char.toLower
        rw [dif_pos h]
        rfl
      have hnot : ¬ (c.toLower.val ≥ 'A'.val ∧ c.toLower.val ≤ 'Z'.val) := by
        rw [hval]
        have hlo : 65 ≤ c.val.toNat := h.1
        have hhi : c.val.toNat ≤ 90 := h.2
        rintro ⟨-, hle⟩
        have hle' : (c.val + 32).toNat ≤ 90 := hle
        rw [UInt32.toNat_add] at hle'
        have h32 : (32 : UInt32).toNat = 32 := rfl
        omega
      exact dif_neg hnot
    · have hsame : c.toLower = c := dif_neg h
      rw [hsame, hsame]
  rw [asciiLower, asciiLower, String.toList_ofList, List.map_map]
  exact congrArg String.ofList (List.map_congr_left fun c _ => hchar c)

/-- The pieces of a text, without the character that separates them. -/
theorem mem_of_mem_splitOn {α : Type*} [DecidableEq α] {sep : α} {cs : List α} :
    ∀ piece ∈ cs.splitOn sep, ∀ c ∈ piece, c ∈ cs ∧ c ≠ sep := by
  induction cs with
  | nil =>
    intro piece hpiece c hc
    obtain rfl := List.mem_singleton.mp hpiece
    exact nomatch hc
  | cons d cs ih =>
    intro piece hpiece c hc
    rw [List.splitOn_cons_eq_if_modifyHead] at hpiece
    split at hpiece
    · rcases List.mem_cons.mp hpiece with rfl | hpiece
      · exact nomatch hc
      · exact (ih piece hpiece c hc).imp_left (List.mem_cons_of_mem _)
    next hne =>
      cases hsplit : cs.splitOn sep with
      | nil => exact (List.splitOn_ne_nil _ _ hsplit).elim
      | cons first rest =>
        rw [hsplit] at hpiece ih
        rcases List.mem_cons.mp hpiece with rfl | hpiece
        · rcases List.mem_cons.mp hc with rfl | hc
          · exact ⟨List.mem_cons_self .., by simpa using hne⟩
          · exact (ih first (List.mem_cons_self ..) c hc).imp_left (List.mem_cons_of_mem _)
        · exact (ih piece (List.mem_cons_of_mem _ hpiece) c hc).imp_left (List.mem_cons_of_mem _)

/-- The letters and digits of ASCII by their codes. -/
theorem isAlphanum_iff {c : Char} : c.isAlphanum = true ↔
    (48 ≤ c.toNat ∧ c.toNat ≤ 57) ∨ (65 ≤ c.toNat ∧ c.toNat ≤ 90) ∨
      (97 ≤ c.toNat ∧ c.toNat ≤ 122) := by
  have hrange (a b : Char) : (decide (a.val ≤ c.val) && decide (c.val ≤ b.val)) = true ↔
      a.toNat ≤ c.toNat ∧ c.toNat ≤ b.toNat := by
    rw [Bool.and_eq_true, decide_eq_true_iff, decide_eq_true_iff]
    exact Iff.rfl
  have hupper : c.isUpper = true ↔ 65 ≤ c.toNat ∧ c.toNat ≤ 90 :=
    decide_eq_true_iff (p := 'A'.val ≤ c.val ∧ c.val ≤ 'Z'.val)
  have hlower : c.isLower = true ↔ 97 ≤ c.toNat ∧ c.toNat ≤ 122 := hrange 'a' 'z'
  have hdigit : c.isDigit = true ↔ 48 ≤ c.toNat ∧ c.toNat ≤ 57 := hrange '0' '9'
  show (c.isUpper || c.isLower || c.isDigit) = true ↔ _
  rw [Bool.or_eq_true, Bool.or_eq_true, hupper, hlower, hdigit]
  omega
example : strip "  vpn\n" = "vpn" := by decide

example : words " a  bc " = ["a", "bc"] := by decide

end BackupCenter.Lib
