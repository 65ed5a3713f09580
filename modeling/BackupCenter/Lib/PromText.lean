import BackupCenter.Lib.Delimited

/-!
# The Prometheus text format

A sample is a name, its labels in braces and a value. A label value is written with a backslash
before a backslash and before a quotation mark, so that the reader finds its end.
-/
namespace BackupCenter.Lib.PromText

abbrev Labels := List (List Char × List Char)

/-! ## Reading -/

/-- What stands behind a backslash. -/
def unescape (c : Char) : Option Char :=
  if c = '\\' ∨ c = '"' then some c else if c = 'n' then some '\n' else none

/-- One character of a label value. -/
def readChar : List Char → Option (Char × List Char)
  | '\\' :: c :: rest => (unescape c).map (·, rest)
  | c :: rest => if c = '\n' then none else some (c, rest)
  | [] => none

def readLabel (text : List Char) : Option ((List Char × List Char) × List Char) :=
  match text.dropWhile (· ≠ '=') with
  | '=' :: '"' :: rest =>
    (readString readChar rest.length rest).map fun r => ((text.takeWhile (· ≠ '='), r.1), r.2)
  | _ => none

structure Sample where
  name : List Char
  labels : Labels
  value : List Char
  deriving DecidableEq

/-- Whether a character may stand in a metric name. -/
def endsName (c : Char) : Bool := c = '{' || c = ' '

/-- A line that is no comment. -/
def readSample (line : List Char) : Option Sample :=
  let name := line.takeWhile (!endsName ·)
  if ['#'] <+: line then none
  else match line.dropWhile (!endsName ·) with
    | ' ' :: value => some ⟨name, [], value⟩
    | '{' :: rest =>
      match readItems readLabel rest.length rest with
      | some (labels, ' ' :: value) => some ⟨name, labels, value⟩
      | _ => none
    | _ => none

/-! ## Writing -/

def escapeChar (c : Char) : List Char :=
  if c = '\\' then ['\\', '\\'] else if c = '"' then ['\\', '"'] else [c]

def escapeValue (value : List Char) : List Char := value.flatMap escapeChar

/-- A label whose value is escaped already. -/
def labelText (label : List Char × List Char) : List Char :=
  label.1 ++ '=' :: '"' :: label.2 ++ ['"']

/-- Labels in braces; none are written as nothing. -/
def labelsText (labels : Labels) : List Char :=
  if labels = [] then [] else '{' :: writeItems labelText labels

def sampleText (name : List Char) (labels : Labels) (value : List Char) : List Char :=
  name ++ labelsText labels ++ ' ' :: value

def escapeLabels (labels : Labels) : Labels :=
  labels.map fun label => (label.1, escapeValue label.2)

/-! ## Reading back -/

variable {value rest : List Char} {labels : Labels}

theorem readChar_escapeChar {c : Char} (h : c ≠ '\n') (text : List Char) :
    readChar (escapeChar c ++ text) = some (c, text) := by
  unfold escapeChar
  split_ifs with hbackslash hquote
  · rw [hbackslash]
    rfl
  · rw [hquote]
    rfl
  · rw [List.singleton_append, readChar]
    · exact if_neg h
    · exact fun _ _ he => absurd he hbackslash

theorem escapeChar_head (c : Char) : (escapeChar c).head? ≠ some '"' := by
  unfold escapeChar
  split_ifs <;> simp_all

theorem escapeChar_ne_nil (c : Char) : escapeChar c ≠ [] := by
  unfold escapeChar
  split_ifs <;> simp

theorem readString_escapeValue (h : '\n' ∉ value) :
    readString readChar (escapeValue value ++ '"' :: rest).length
      (escapeValue value ++ '"' :: rest) = some (value, rest) := by
  apply readString_flatMap rest _ escapeChar_head escapeChar_ne_nil
  · have hlength := length_le_flatMap escapeChar_ne_nil value
    rw [escapeValue, List.length_append]
    omega
  · exact fun c hc text => readChar_escapeChar (fun he => h (he ▸ hc)) text

theorem readLabel_labelText {label : List Char × List Char} (hname : '=' ∉ label.1)
    (hvalue : '\n' ∉ label.2) :
    readLabel (labelText (label.1, escapeValue label.2) ++ rest) = some (label, rest) := by
  have hplain : ∀ c ∈ label.1, decide (c ≠ '=') = true :=
    fun c hc => decide_eq_true fun he => hname (he ▸ hc)
  have hshape : labelText (label.1, escapeValue label.2) ++ rest =
      label.1 ++ '=' :: '"' :: (escapeValue label.2 ++ '"' :: rest) := by
    simp [labelText]
  rw [hshape, readLabel, List.dropWhile_append_of_pos hplain, List.takeWhile_append_of_pos hplain]
  rw [List.dropWhile_cons_of_neg (by simp), List.takeWhile_cons_of_neg (by simp)]
  change (readString readChar _ (escapeValue label.2 ++ '"' :: rest)).map _ = _
  rw [readString_escapeValue hvalue, List.append_nil]
  rfl

theorem labelText_ne_nil (label : List Char × List Char) : labelText label ≠ [] :=
  List.append_ne_nil_of_right_ne_nil _ (List.cons_ne_nil _ _)

/-- The labels in braces are read back. -/
theorem readItems_labels (hne : labels ≠ [])
    (hlabels : ∀ label ∈ labels, '=' ∉ label.1 ∧ '\n' ∉ label.2) :
    readItems readLabel (writeItems labelText (escapeLabels labels) ++ rest).length
      (writeItems labelText (escapeLabels labels) ++ rest) = some (labels, rest) := by
  have htext : writeItems labelText (escapeLabels labels) =
      writeItems (fun label => labelText (label.1, escapeValue label.2)) labels := by
    rw [writeItems, writeItems, escapeLabels, List.map_map]
    rfl
  rw [htext]
  apply readItems_writeItems (fun label text h => readLabel_labelText h.1 h.2) hlabels hne rest
  have hlength := @length_le_writeItems _ (fun label => labelText (label.1, escapeValue label.2))
    labels fun label => labelText_ne_nil (label.1, escapeValue label.2)
  rw [List.length_append]
  omega

/-- A sample that is written is read back, with the label values as they were. -/
theorem readSample_sampleText {name : List Char} (hname : ∀ c ∈ name, endsName c = false)
    (hcomment : name.head? ≠ some '#') (hne : name ≠ [])
    (hlabels : ∀ label ∈ labels, '=' ∉ label.1 ∧ '\n' ∉ label.2) :
    readSample (sampleText name (escapeLabels labels) value) = some ⟨name, labels, value⟩ := by
  have hplain : ∀ c ∈ name, (!endsName c) = true := fun c hc => by rw [hname c hc]; rfl
  have hnot : ¬ ['#'] <+: sampleText name (escapeLabels labels) value := by
    rintro ⟨tail, htail⟩
    have hhead := congrArg List.head? htail
    rw [sampleText, List.append_assoc, List.head?_append_of_ne_nil _ hne] at hhead
    exact hcomment hhead.symm
  rw [readSample, if_neg hnot]
  unfold sampleText labelsText
  rw [List.append_assoc, List.dropWhile_append_of_pos hplain, List.takeWhile_append_of_pos hplain]
  by_cases hnone : labels = []
  · subst hnone
    rw [if_pos (show escapeLabels [] = [] from rfl), List.nil_append,
      List.dropWhile_cons_of_neg (by decide),
      List.takeWhile_cons_of_neg (by decide), List.append_nil]
    rfl
  · have hescaped : escapeLabels labels ≠ [] := fun h => hnone (List.map_eq_nil_iff.mp h)
    rw [if_neg hescaped, List.cons_append, List.dropWhile_cons_of_neg (by decide),
      List.takeWhile_cons_of_neg (by decide), List.append_nil]
    change (match readItems readLabel _ (writeItems labelText (escapeLabels labels) ++ ' ' :: value)
      with
      | some (labels, ' ' :: value) => some (⟨name, labels, value⟩ : Sample)
      | _ => none) = _
    rw [readItems_labels hnone hlabels]
    rfl

/-- Different labels are written differently. -/
theorem labelsText_injective {labels' : Labels}
    (h : ∀ label ∈ labels, '=' ∉ label.1 ∧ '\n' ∉ label.2)
    (h' : ∀ label ∈ labels', '=' ∉ label.1 ∧ '\n' ∉ label.2)
    (he : labelsText (escapeLabels labels) = labelsText (escapeLabels labels')) :
    labels = labels' := by
  have hname : ∀ c ∈ ['m'], endsName c = false := by simp [endsName]
  have hread := @readSample_sampleText [] labels ['m'] hname (by decide) (by decide) h
  have hread' := @readSample_sampleText [] labels' ['m'] hname (by decide) (by decide) h'
  rw [sampleText, he, ← sampleText, hread'] at hread
  exact (Sample.mk.inj (Option.some.inj hread)).2.1.symm

/-! ## Lines -/

theorem newline_not_mem_escapeValue (h : '\n' ∉ value) : '\n' ∉ escapeValue value := by
  intro hmem
  obtain ⟨c, hc, hescaped⟩ := List.mem_flatMap.mp hmem
  unfold escapeChar at hescaped
  split_ifs at hescaped
  · exact absurd hescaped (by decide)
  · exact absurd hescaped (by decide)
  · exact h (List.mem_singleton.mp hescaped ▸ hc)

/-- A sample is one line. -/
theorem newline_not_mem_sampleText {name : List Char} (hname : '\n' ∉ name) (hvalue : '\n' ∉ value)
    (hlabels : ∀ label ∈ labels, '\n' ∉ label.1 ∧ '\n' ∉ label.2) :
    '\n' ∉ sampleText name (escapeLabels labels) value := by
  intro hmem
  rcases List.mem_append.mp hmem with hmem | hmem
  · rcases List.mem_append.mp hmem with hmem | hmem
    · exact hname hmem
    · unfold labelsText at hmem
      split at hmem
      · exact absurd hmem List.not_mem_nil
      · rcases List.mem_cons.mp hmem with hc | hmem
        · exact absurd hc (by decide)
        · rcases mem_writeItems hmem with hc | hc | ⟨escaped, hescaped, hc⟩
          · exact absurd hc (by decide)
          · exact absurd hc (by decide)
          · obtain ⟨label, hlabel, rfl⟩ := List.mem_map.mp hescaped
            obtain ⟨hkey, hval⟩ := hlabels label hlabel
            have hnot := newline_not_mem_escapeValue hval
            simp [labelText, hkey, hnot] at hc
  · rcases List.mem_cons.mp hmem with hc | hmem
    · exact absurd hc (by decide)
    · exact hvalue hmem

end BackupCenter.Lib.PromText
