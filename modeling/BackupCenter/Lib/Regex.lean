import BackupCenter.Lib.Text

/-!
# Regular expressions

Patterns are read by backtracking: a pattern at a place of a text gives the places where a
match of it can end, the preferred one first. Searching and replacing take the first of them.
-/
namespace BackupCenter.Lib

/-- The tables of characters that texts are read with. On ASCII text they are what they are for
everyone. -/
structure CharTables where
  /-- `str.lower` -/
  lower : String → String
  isDigit : Char → Bool
  isWord : Char → Bool
  lower_lower : ∀ s, lower (lower s) = lower s
  lower_ascii : ∀ s : String, (∀ c ∈ s.toList, c.toNat < 128) → lower s = asciiLower s

/-- The tables on ASCII text. -/
def CharTables.ascii : CharTables where
  lower := asciiLower
  isDigit := Char.isDigit
  isWord c := c.isAlphanum || c == '_'
  lower_lower := asciiLower_asciiLower
  lower_ascii _ _ := rfl

/-- A place in a text: the character before it, and what follows. -/
structure Place where
  before : Option Char
  rest : List Char
  deriving DecidableEq

inductive Regex where
  | empty
  | chr (p : Char → Bool)
  | guard (p : Place → Bool)
  | seq (r s : Regex)
  | alt (r s : Regex)
  | star (r : Regex)
  | few (r : Regex)

/-- Rounds of a pattern, each of which takes something; as many as possible are preferred. -/
def rounds (step : Place → List Place) : Nat → Place → List Place
  | 0, a => [a]
  | n + 1, a =>
    ((step a).filter (·.rest.length < a.rest.length)).flatMap (rounds step n) ++ [a]

/-- The same with as few as possible preferred. -/
def fewRounds (step : Place → List Place) : Nat → Place → List Place
  | 0, a => [a]
  | n + 1, a =>
    a :: ((step a).filter (·.rest.length < a.rest.length)).flatMap (fewRounds step n)

namespace Regex

/-- Where a match that starts at the place can end. -/
def ends : Regex → Place → List Place
  | empty, a => [a]
  | chr _, ⟨_, []⟩ => []
  | chr p, ⟨_, c :: cs⟩ => if p c then [⟨some c, cs⟩] else []
  | guard p, a => if p a then [a] else []
  | seq r s, a => (r.ends a).flatMap s.ends
  | alt r s, a => r.ends a ++ s.ends a
  | star r, a => rounds r.ends a.rest.length a
  | few r, a => fewRounds r.ends a.rest.length a

/-! ## Patterns -/

def text (s : String) : Regex := s.toList.foldr (fun c r => seq (chr (· == c)) r) empty

/-- A letter in either case; three of them have more spellings. -/
def sameLetter (c d : Char) : Bool :=
  d.toLower == c.toLower ||
    (c.toLower == 'i' && (d.toNat == 0x130 || d.toNat == 0x131)) ||
    (c.toLower == 's' && d.toNat == 0x17f) || (c.toLower == 'k' && d.toNat == 0x212a)

def ichar (c : Char) : Regex := chr (sameLetter c)

def itext (s : String) : Regex := s.toList.foldr (fun c r => seq (ichar c) r) empty

def oneOf (s : String) : Regex := chr (s.toList.contains ·)

/-- `.`: anything but a new line. -/
def dot : Regex := chr (· != '\n')

def space : Regex := chr isSpace

def plus (r : Regex) : Regex := seq r (star r)

def opt (r : Regex) : Regex := alt r empty

/-- `r{0,n}` -/
def upTo (r : Regex) : Nat → Regex
  | 0 => empty
  | n + 1 => opt (seq r (upTo r n))

/-- `^` with the multiline flag. -/
def lineStart : Regex := guard fun a => a.before.all (· == '\n')

/-- `$` with the multiline flag. -/
def lineEnd : Regex := guard fun a => a.rest.head?.all (· == '\n')

def textStart : Regex := guard fun a => a.before.isNone

/-- `\b` -/
def wordEdge (isWord : Char → Bool) : Regex :=
  guard fun a => a.before.any isWord != a.rest.head?.any isWord

/-- `(?!r)` -/
def notAhead (r : Regex) : Regex := guard fun a => (r.ends a).isEmpty

def oneOfAll (rs : List Regex) : Regex := rs.foldr alt (guard fun _ => false)

def inOrder (rs : List Regex) : Regex := rs.foldr seq empty

/-! ## Search and replacement -/

/-- The preferred end of a match at the place. -/
def first (r : Regex) (a : Place) : Option Place := (r.ends a).head?

/-- The length of the preferred match. -/
def width (r : Regex) (a : Place) : Option Nat :=
  (r.first a).map fun e => a.rest.length - e.rest.length

def foundFrom (r : Regex) (before : Option Char) : List Char → Bool
  | [] => (r.first ⟨before, []⟩).isSome
  | c :: cs => (r.first ⟨before, c :: cs⟩).isSome || foundFrom r (some c) cs

/-- `re.search(r, text) is not None` -/
def found (r : Regex) (s : String) : Bool := r.foundFrom none s.toList

/-- Every match replaced from left to right; `skip` characters belong to the last one. -/
def replaceFrom (match_ : Place → Option (Nat × List Char)) :
    Option Char → Nat → List Char → List Char
  | _, _, [] => []
  | _, skip + 1, c :: cs => replaceFrom match_ (some c) skip cs
  | before, 0, c :: cs =>
    match match_ ⟨before, c :: cs⟩ with
    | some (n + 1, new) => new ++ replaceFrom match_ (some c) n cs
    | _ => c :: replaceFrom match_ (some c) 0 cs

def subChars (r : Regex) (new : String) (cs : List Char) : List Char :=
  replaceFrom (fun a => (r.width a).map (·, new.toList)) none 0 cs

/-- `re.sub(r, new, text)` for a pattern that matches no empty text. -/
def sub (r : Regex) (new s : String) : String := String.ofList (r.subChars new s.toList)

/-- A match of `(keep)drop` with the text of its group. -/
def keptMatch (keep drop : Regex) (a : Place) : Option (Nat × List Char) :=
  ((keep.ends a).flatMap fun mid => (drop.ends mid).map (mid, ·)).head?.map fun e =>
    (a.rest.length - e.2.rest.length, a.rest.take (a.rest.length - e.1.rest.length))

def subKeepChars (keep drop : Regex) (new : String) (cs : List Char) : List Char :=
  replaceFrom (fun a => (keptMatch keep drop a).map fun m => (m.1, m.2 ++ new.toList)) none 0 cs

/-- `re.sub("(keep)drop", "\\1" + new, text)` -/
def subKeep (keep drop : Regex) (new s : String) : String :=
  String.ofList (subKeepChars keep drop new s.toList)

/-- What stands before the first match and what stands behind it. -/
def splitFrom (r : Regex) (before : Option Char) : List Char → Option (List Char × List Char)
  | [] => none
  | c :: cs =>
    match r.width ⟨before, c :: cs⟩ with
    | some (n + 1) => some ([], cs.drop n)
    | _ => (splitFrom r (some c) cs).map fun parts => (c :: parts.1, parts.2)

/-! ## Characters that a match takes -/

/-- Every match of the pattern takes a character of the class. -/
inductive Needs (p : Char → Bool) : Regex → Prop
  | chr {q : Char → Bool} (h : ∀ c, q c = true → p c = true) : Needs p (chr q)
  | left {r : Regex} (s : Regex) (h : Needs p r) : Needs p (seq r s)
  | right (r : Regex) {s : Regex} (h : Needs p s) : Needs p (seq r s)
  | both {r s : Regex} (hr : Needs p r) (hs : Needs p s) : Needs p (alt r s)

theorem rounds_suffix {step : Place → List Place}
    (hstep : ∀ a, ∀ e ∈ step a, e.rest <:+ a.rest) (n : Nat) :
    ∀ a, ∀ e ∈ rounds step n a, e.rest <:+ a.rest := by
  induction n with
  | zero =>
    intro a e he
    rw [List.mem_singleton.mp he]
  | succ n ih =>
    intro a e he
    rcases List.mem_append.mp he with he | he
    · obtain ⟨b, hb, hrest⟩ := List.mem_flatMap.mp he
      exact (ih b e hrest).trans (hstep a b (List.mem_of_mem_filter hb))
    · rw [List.mem_singleton.mp he]

theorem fewRounds_suffix {step : Place → List Place}
    (hstep : ∀ a, ∀ e ∈ step a, e.rest <:+ a.rest) (n : Nat) :
    ∀ a, ∀ e ∈ fewRounds step n a, e.rest <:+ a.rest := by
  induction n with
  | zero =>
    intro a e he
    rw [List.mem_singleton.mp he]
  | succ n ih =>
    intro a e he
    rcases List.mem_cons.mp he with rfl | he
    · exact List.suffix_rfl
    · obtain ⟨b, hb, hrest⟩ := List.mem_flatMap.mp he
      exact (ih b e hrest).trans (hstep a b (List.mem_of_mem_filter hb))

/-- A match leaves an end of the text. -/
theorem ends_suffix (r : Regex) : ∀ a, ∀ e ∈ r.ends a, e.rest <:+ a.rest := by
  induction r with
  | empty =>
    intro a e he
    rw [List.mem_singleton.mp he]
  | chr p =>
    rintro ⟨before, cs⟩ e he
    cases cs with
    | nil => cases he
    | cons c cs =>
      rw [ends] at he
      split at he
      · rw [List.mem_singleton.mp he]
        exact List.suffix_cons c cs
      · cases he
  | guard p =>
    intro a e he
    rw [ends] at he
    split at he
    · rw [List.mem_singleton.mp he]
    · cases he
  | seq r s ihr ihs =>
    intro a e he
    obtain ⟨b, hb, hrest⟩ := List.mem_flatMap.mp he
    exact (ihs b e hrest).trans (ihr a b hb)
  | alt r s ihr ihs =>
    intro a e he
    rcases List.mem_append.mp he with he | he
    · exact ihr a e he
    · exact ihs a e he
  | star r ih => exact fun a => rounds_suffix ih _ a
  | few r ih => exact fun a => fewRounds_suffix ih _ a

theorem Needs.exists_mem {p : Char → Bool} {r : Regex} (h : Needs p r) {a e : Place}
    (he : e ∈ r.ends a) : ∃ c ∈ a.rest, p c = true := by
  induction h generalizing a e with
  | chr hq =>
    obtain ⟨before, cs⟩ := a
    cases cs with
    | nil => cases he
    | cons c cs =>
      rw [ends] at he
      split at he
      · exact ⟨c, List.mem_cons_self .., hq c (by assumption)⟩
      · cases he
  | left s _ ih =>
    obtain ⟨b, hb, _⟩ := List.mem_flatMap.mp he
    exact ih hb
  | right r _ ih =>
    obtain ⟨b, hb, hrest⟩ := List.mem_flatMap.mp he
    obtain ⟨c, hc, hp⟩ := ih hrest
    exact ⟨c, (ends_suffix r a b hb).subset hc, hp⟩
  | both _ _ ihr ihs =>
    rcases List.mem_append.mp he with he | he
    · exact ihr he
    · exact ihs he

theorem Needs.first_eq_none {p : Char → Bool} {r : Regex} (h : Needs p r) {a : Place}
    (ha : ∀ c ∈ a.rest, p c = false) : r.first a = none := by
  cases hends : r.ends a with
  | nil => rw [first, hends]; rfl
  | cons e es =>
    obtain ⟨c, hc, hp⟩ := h.exists_mem (hends ▸ List.mem_cons_self ..)
    rw [ha c hc] at hp
    cases hp

/-- Nothing is found in a text without these characters; -/
theorem Needs.foundFrom_eq_false {p : Char → Bool} {r : Regex} (h : Needs p r) {cs : List Char}
    (hcs : ∀ c ∈ cs, p c = false) (before : Option Char) : r.foundFrom before cs = false := by
  induction cs generalizing before with
  | nil => rw [foundFrom, h.first_eq_none hcs]; rfl
  | cons c cs ih =>
    rw [foundFrom, h.first_eq_none hcs]
    exact ih (fun d hd => hcs d (List.mem_cons_of_mem _ hd)) _

/-- and nothing is replaced. -/
theorem Needs.subChars_eq_self {p : Char → Bool} {r : Regex} (h : Needs p r) (new : String)
    {cs : List Char} (hcs : ∀ c ∈ cs, p c = false) : r.subChars new cs = cs := by
  have hall (before : Option Char) :
      replaceFrom (fun a => (r.width a).map (·, new.toList)) before 0 cs = cs := by
    induction cs generalizing before with
    | nil => rfl
    | cons c cs ih =>
      rw [replaceFrom, width, h.first_eq_none hcs]
      exact congrArg (c :: ·) (ih (fun d hd => hcs d (List.mem_cons_of_mem _ hd)) _)
  exact hall none

theorem Needs.sub_eq_self {p : Char → Bool} {r : Regex} (h : Needs p r) (new : String)
    {s : String} (hs : ∀ c ∈ s.toList, p c = false) : r.sub new s = s := by
  rw [sub, h.subChars_eq_self new hs, String.ofList_toList]

/-! ## Pairs of characters -/

/-- Pairs of neighbours taken out from left to right. -/
def dropPairs (p q : Char → Bool) : List Char → List Char
  | [] => []
  | [c] => [c]
  | c :: d :: cs => if p c && q d then dropPairs p q cs else c :: dropPairs p q (d :: cs)

theorem width_pair (p q : Char → Bool) (before : Option Char) (cs : List Char) :
    (seq (chr p) (chr q)).width ⟨before, cs⟩ =
      match cs with
      | c :: d :: _ => if p c && q d then some 2 else none
      | _ => none := by
  match cs with
  | [] => rfl
  | [c] => cases hc : p c <;> simp [width, first, ends, hc]
  | c :: d :: ds =>
    cases hc : p c
    · simp [width, first, ends, hc]
    · cases hd : q d
      · simp [width, first, ends, hc, hd]
      · simp only [width, first, ends, hc, hd, if_true, List.flatMap_cons, List.flatMap_nil,
          List.append_nil, List.head?_cons, Option.map_some, List.length_cons, Bool.and_self]
        congr 1
        omega

/-- Taking out a pattern of two characters. -/
theorem subChars_pair (p q : Char → Bool) (cs : List Char) :
    (seq (chr p) (chr q)).subChars "" cs = dropPairs p q cs := by
  have hall (before : Option Char) : replaceFrom
      (fun a => ((seq (chr p) (chr q)).width a).map (·, "".toList)) before 0 cs =
        dropPairs p q cs := by
    fun_induction dropPairs p q cs generalizing before with
    | case1 => rfl
    | case2 c => simp [replaceFrom, width_pair]
    | case3 c d cs h ih =>
      rw [replaceFrom, width_pair]
      simpa [h, replaceFrom] using ih (some d)
    | case4 c d cs h ih =>
      rw [replaceFrom, width_pair]
      simpa [h] using ih (some c)
  exact hall none

end Regex

end BackupCenter.Lib
