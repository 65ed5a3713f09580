import Mathlib.Data.List.Basic

/-!
# Options of a command line

How `getopt` reads the words after the name of a program: letters after a dash, some of which take a
value, from the rest of the word or the word after it. Words between options are skipped, and
nothing after a word of two dashes is an option.
-/
namespace BackupCenter.Lib.Options

variable (takesValue : Char → Bool)

/-- The options of a word of letters, and the letter that still lacks its value. -/
def letters : List Char → List (Char × List Char) × Option Char
  | [] => ([], none)
  | c :: cs =>
    if takesValue c then if cs = [] then ([], some c) else ([(c, cs)], none)
    else ((c, []) :: (letters cs).1, (letters cs).2)

/-- The options of the words, after a letter that lacks its value; a letter that takes no value has
the empty one. -/
def options : Option Char → List (List Char) → List (Char × List Char)
  | _, [] => []
  | some c, word :: words => (c, word) :: options none words
  | none, word :: words =>
    if word = ['-', '-'] then []
    else
      match word with
      | '-' :: c :: cs =>
        (letters takesValue (c :: cs)).1 ++ options (letters takesValue (c :: cs)).2 words
      | _ => options none words

/-- The option is given in the words. -/
def Gives (c : Char) (words : List (List Char)) : Prop :=
  ∃ value, (c, value) ∈ options takesValue none words

instance (c : Char) (words : List (List Char)) : Decidable (Gives takesValue c words) :=
  decidable_of_iff (c ∈ (options takesValue none words).map Prod.fst) (by simp [Gives])

variable {takesValue}

/-- An option in two words at the start. -/
theorem gives_cons {c : Char} (hc : takesValue c = true) (hdash : c ≠ '-') (value : List Char)
    (words : List (List Char)) : Gives takesValue c (['-', c] :: value :: words) := by
  refine ⟨value, ?_⟩
  have hne : ['-', c] ≠ ['-', '-'] := fun h => hdash (by simpa using h)
  rw [options, if_neg hne]
  simp [letters, hc, options]

end BackupCenter.Lib.Options
