import BackupCenter.Diffs.Normalize
import BackupCenter.Lib.UnifiedDiff

/-!
# Comparing two backups

The diff of the normalised lines is printed in the unified format, and the printed lines are read
back: once to count what was added and removed, once to number and escape them for the page.
Headers and content are told apart by the characters that a line begins with.
-/
namespace BackupCenter.Diffs

open BackupCenter.Lib

/-- `html.escape` -/
def htmlEscape (line : Line) : Line :=
  line.flatMap fun c =>
    if c = '&' then "&amp;".toList
    else if c = '<' then "&lt;".toList
    else if c = '>' then "&gt;".toList
    else if c = '"' then "&quot;".toList
    else if c = '\'' then "&#x27;".toList
    else [c]

inductive LineType where
  | add
  | remove
  | context
  deriving DecidableEq

structure HunkLine where
  type : LineType
  oldNum : Option Nat
  newNum : Option Nat
  content : Line
  deriving DecidableEq

structure HunkView where
  header : Line
  context : Line
  lines : List HunkLine
  deriving DecidableEq

/-! ## Reading a diff back -/

/-- `\d+`, with what follows; the headers have only ASCII digits. -/
def takeDigits (cs : List Char) : Option (Nat × List Char) :=
  let digits := cs.takeWhile Char.isDigit
  if digits = [] then none else some (Nat.ofDigitChars 10 digits 0, cs.dropWhile Char.isDigit)

/-- `(?:,\d+)?` -/
def skipCount (cs : List Char) : List Char :=
  match cs with
  | ',' :: rest => ((takeDigits rest).map Prod.snd).getD cs
  | _ => cs

/-- The text behind a fixed one. -/
def dropStart (start cs : List Char) : Option (List Char) :=
  if start.isPrefixOf cs then some (cs.drop start.length) else none

/-- `re.match(r'^@@ -(\d+)(?:,\d+)? \+(\d+)(?:,\d+)? @@(.*)$', line)`; a line has no new line in
it. -/
def matchHeader (line : Line) : Option (Nat × Nat × Line) := do
  let cs ← dropStart ['@', '@', ' ', '-'] line
  let (oldStart, cs) ← takeDigits cs
  let cs ← dropStart [' ', '+'] (skipCount cs)
  let (newStart, cs) ← takeDigits cs
  let cs ← dropStart [' ', '@', '@'] (skipCount cs)
  return (oldStart, newStart, cs)

/-- The variables of the loop. -/
structure ParseState where
  hunks : List HunkView := []
  currentHunk : Option HunkView := none
  oldLineNum : Nat := 0
  newLineNum : Nat := 0

/-- `current_hunk['lines'].append(line)` -/
def HunkView.append (hunk : HunkView) (line : HunkLine) : HunkView :=
  { hunk with lines := hunk.lines ++ [line] }

/-- The body of the loop. -/
def parseLine (st : ParseState) (line : Line) : ParseState :=
  if ['@', '@'].isPrefixOf line then
    let (oldLineNum, newLineNum, context) := ((matchHeader line).map fun m =>
      (m.1, m.2.1, stripChars m.2.2)).getD (1, 1, [])
    { hunks := st.hunks ++ st.currentHunk.toList
      currentHunk := some { header := line, context := context, lines := [] }
      oldLineNum := oldLineNum
      newLineNum := newLineNum }
  else if ['-', '-', '-'].isPrefixOf line || ['+', '+', '+'].isPrefixOf line then st
  else
    match st.currentHunk with
    | none => st
    | some hunk =>
      match line with
      | '+' :: content =>
        { st with
          currentHunk := some (hunk.append ⟨.add, none, some st.newLineNum, htmlEscape content⟩)
          newLineNum := st.newLineNum + 1 }
      | '-' :: content =>
        { st with
          currentHunk := some (hunk.append ⟨.remove, some st.oldLineNum, none, htmlEscape content⟩)
          oldLineNum := st.oldLineNum + 1 }
      | _ =>
        let content := match line with
          | ' ' :: content => content
          | _ => line
        { st with
          currentHunk := some (hunk.append
            ⟨.context, some st.oldLineNum, some st.newLineNum, htmlEscape content⟩)
          oldLineNum := st.oldLineNum + 1
          newLineNum := st.newLineNum + 1 }

/-- `_parse_unified_diff` -/
def parseUnifiedDiff (diffLines : List Line) : List HunkView :=
  let st := diffLines.foldl parseLine {}
  st.hunks ++ st.currentHunk.toList

/-! ## The comparison -/

structure Comparison where
  hasChanges : Bool
  addedLines : Nat
  removedLines : Nat
  hunks : List HunkView
  totalLinesOld : Option Nat := none
  totalLinesNew : Option Nat := none
  ignoredLinesOld : Option Nat := none
  ignoredLinesNew : Option Nat := none
  error : Option String

/-- `line.startswith('+') and not line.startswith('+++')` -/
def countsAs (sign : Char) (line : Line) : Bool :=
  [sign].isPrefixOf line && !([sign, sign, sign].isPrefixOf line)

/-- `compare_backups` from the contents on; `fromFile` and `toFile` are made of the dates. -/
def compareBackups (unifiedDiff : (old new : List Line) → UnifiedDiff old new)
    (fromFile toFile : Line) (contentOld contentNew : Option (List Char)) : Comparison :=
  match contentOld, contentNew with
  | some contentOld, some contentNew =>
    let (linesOld, droppedOld) := normalizeConfigLines contentOld
    let (linesNew, droppedNew) := normalizeConfigLines contentNew
    let diffLines := (unifiedDiff linesOld linesNew).print fromFile toFile
    let added := diffLines.countP (countsAs '+')
    let removed := diffLines.countP (countsAs '-')
    { hasChanges := 0 < diffLines.length && (0 < added || 0 < removed)
      addedLines := added
      removedLines := removed
      hunks := parseUnifiedDiff diffLines
      totalLinesOld := some linesOld.length
      totalLinesNew := some linesNew.length
      ignoredLinesOld := some droppedOld
      ignoredLinesNew := some droppedNew
      error := none }
  | _, _ =>
    { hasChanges := false
      addedLines := 0
      removedLines := 0
      hunks := []
      error := some "Não foi possível ler um ou ambos os arquivos de backup." }

/-! ## Counting -/

section Counting

variable {old new : List Line} {sign : Char} {part : DiffOp Line → Option Line}

/-- A changed line that begins like a header when its sign stands before it. -/
def doubled (sign : Char) (line : Line) : Bool := [sign, sign].isPrefixOf line

/-- What the counter sees of the lines of a diff. -/
structure Counts (sign : Char) (part : DiffOp Line → Option Line) : Prop where
  ops : ∀ op : DiffOp Line, countsAs sign op.text = (part op).any fun line => !doubled sign line
  hunkHeader : ∀ rest, countsAs sign ('@' :: rest) = false
  fileHeader : ∀ rest, countsAs sign ('-' :: '-' :: '-' :: rest) = false
  fileHeader' : ∀ rest, countsAs sign ('+' :: '+' :: '+' :: rest) = false

theorem counts_added : Counts '+' DiffOp.added? where
  ops op := by cases op <;> rfl
  hunkHeader _ := rfl
  fileHeader _ := rfl
  fileHeader' _ := rfl

theorem counts_removed : Counts '-' DiffOp.removed? where
  ops op := by cases op <;> rfl
  hunkHeader _ := rfl
  fileHeader _ := rfl
  fileHeader' _ := rfl

theorem countP_hunks (h : Counts sign part) (hs : List (DiffHunk Line)) :
    (hs.flatMap DiffHunk.print).countP (countsAs sign) =
      (hs.flatMap fun hunk => hunk.ops.filterMap part).countP fun line => !doubled sign line := by
  induction hs with
  | nil => rfl
  | cons hunk hs ih =>
    have hops : (hunk.ops.map DiffOp.text).countP (countsAs sign) =
        (hunk.ops.filterMap part).countP fun line => !doubled sign line := by
      rw [List.countP_map, List.countP_filterMap]
      apply List.countP_congr
      intro op _
      rw [Function.comp_apply, h.ops]
      cases part op <;> rfl
    have hheader : ¬ countsAs sign hunk.header = true := by
      have hfirst := h.hunkHeader hunk.header.tail
      exact fun hcounts => Bool.false_ne_true (hfirst.symm.trans hcounts)
    rw [List.flatMap_cons, List.flatMap_cons, List.countP_append, List.countP_append, ih]
    show (hunk.header :: hunk.ops.map DiffOp.text).countP _ + _ = _
    rw [List.countP_cons_of_neg hheader, hops]

/-- The counter finds the changed lines that do not begin like a header. -/
theorem countP_print (h : Counts sign part) (d : UnifiedDiff old new) (fromFile toFile : Line) :
    (d.print fromFile toFile).countP (countsAs sign) =
      (d.hunks.flatMap fun hunk => hunk.ops.filterMap part).countP
        fun line => !doubled sign line := by
  unfold UnifiedDiff.print
  split
  next hnone =>
    rw [hnone]
    rfl
  next =>
    have hfrom : ¬ countsAs sign (['-', '-', '-', ' '] ++ fromFile) = true :=
      fun hcounts => Bool.false_ne_true ((h.fileHeader _).symm.trans hcounts)
    have hto : ¬ countsAs sign (['+', '+', '+', ' '] ++ toFile) = true :=
      fun hcounts => Bool.false_ne_true ((h.fileHeader' _).symm.trans hcounts)
    rw [List.countP_cons_of_neg hfrom, List.countP_cons_of_neg hto]
    exact countP_hunks h d.hunks

end Counting

/-! ## Numbering -/

/-- The lines of a hunk as the page should show them. -/
def viewOps : Nat → Nat → List (DiffOp Line) → List HunkLine
  | _, _, [] => []
  | o, n, .context line :: ops =>
    ⟨.context, some o, some n, htmlEscape line⟩ :: viewOps (o + 1) (n + 1) ops
  | o, n, .remove line :: ops =>
    ⟨.remove, some o, none, htmlEscape line⟩ :: viewOps (o + 1) n ops
  | o, n, .add line :: ops =>
    ⟨.add, none, some n, htmlEscape line⟩ :: viewOps o (n + 1) ops

def oldBegin (h : DiffHunk Line) : Nat := rangeBegin h.oldStart h.oldSide.length

def newBegin (h : DiffHunk Line) : Nat := rangeBegin h.newStart h.newSide.length

def viewHunk (h : DiffHunk Line) : HunkView where
  header := h.header
  context := []
  lines := viewOps (oldBegin h) (newBegin h) h.ops

section Parsing

variable {st : ParseState}

theorem takeDigits_toDigits {n : Nat} {c : Char} {rest : List Char} (hc : c.isDigit = false) :
    takeDigits (Nat.toDigits 10 n ++ c :: rest) = some (n, c :: rest) := by
  have hdigits : ∀ d ∈ Nat.toDigits 10 n, d.isDigit = true :=
    fun d hd => Nat.isDigit_of_mem_toDigits (by decide) (by decide) hd
  unfold takeDigits
  rw [List.takeWhile_append_of_pos hdigits, List.dropWhile_append_of_pos hdigits,
    List.takeWhile_cons_of_neg (by simp [hc]), List.dropWhile_cons_of_neg (by simp [hc]),
    List.append_nil]
  dsimp only
  rw [if_neg Nat.toDigits_ne_nil, Nat.ofDigitChars_ten_toDigits]

/-- A range of a header is read as the number that it begins with. -/
theorem takeDigits_formatRange {start length : Nat} {rest : List Char} :
    ∃ cs, takeDigits (formatRange start length ++ ' ' :: rest) =
      some (rangeBegin start length, cs) ∧ skipCount cs = ' ' :: rest := by
  unfold formatRange
  split
  · exact ⟨_, takeDigits_toDigits rfl, rfl⟩
  · rw [List.append_assoc, List.cons_append]
    refine ⟨_, takeDigits_toDigits rfl, ?_⟩
    show ((takeDigits (Nat.toDigits 10 length ++ ' ' :: rest)).map Prod.snd).getD _ = _
    rw [takeDigits_toDigits rfl]
    rfl

theorem dropStart_append (start rest : List Char) :
    dropStart start (start ++ rest) = some rest := by
  unfold dropStart
  rw [if_pos (List.isPrefixOf_iff_prefix.mpr (List.prefix_append ..)), List.drop_left]

theorem matchHeader_header (h : DiffHunk Line) :
    matchHeader h.header = some (oldBegin h, newBegin h, []) := by
  obtain ⟨cs, hcs, hskip⟩ := @takeDigits_formatRange h.oldStart h.oldSide.length
    ('+' :: (formatRange h.newStart h.newSide.length ++ [' ', '@', '@']))
  obtain ⟨cs', hcs', hskip'⟩ := @takeDigits_formatRange h.newStart h.newSide.length ['@', '@']
  have hheader : h.header = ['@', '@', ' ', '-'] ++ (formatRange h.oldStart h.oldSide.length ++
      ' ' :: '+' :: (formatRange h.newStart h.newSide.length ++ [' ', '@', '@'])) := by
    unfold DiffHunk.header
    simp only [List.append_assoc, List.cons_append, List.nil_append]
  have hplus : ∀ rest, dropStart [' ', '+'] (' ' :: '+' :: rest) = some rest :=
    fun rest => dropStart_append [' ', '+'] rest
  have hend : dropStart [' ', '@', '@'] [' ', '@', '@'] = some [] := rfl
  unfold matchHeader
  rw [hheader, dropStart_append]
  simp only [Option.bind_eq_bind, Option.bind_some, hcs, hskip, hplus, hcs', hskip', hend,
    Option.pure_def]
  rfl

/-- A hunk header closes the hunk before it and sets the numbers. -/
theorem parseLine_header (h : DiffHunk Line) :
    parseLine st h.header =
      { hunks := st.hunks ++ st.currentHunk.toList
        currentHunk := some { header := h.header, context := [], lines := [] }
        oldLineNum := oldBegin h
        newLineNum := newBegin h } := by
  unfold parseLine
  rw [if_pos (by rfl : ['@', '@'].isPrefixOf h.header = true), matchHeader_header]
  rfl

/-- No changed line of the operations begins like a header. -/
def Plain (ops : List (DiffOp Line)) : Prop :=
  (∀ line ∈ ops.filterMap DiffOp.removed?, doubled '-' line = false) ∧
  ∀ line ∈ ops.filterMap DiffOp.added?, doubled '+' line = false

theorem parseLine_remove {hs : List HunkView} {hunk : HunkView} {o n : Nat} {line : Line}
    (h : doubled '-' line = false) :
    parseLine ⟨hs, some hunk, o, n⟩ ('-' :: line) =
      ⟨hs, some (hunk.append ⟨.remove, some o, none, htmlEscape line⟩), o + 1, n⟩ := by
  have hheader : (['-', '-', '-'].isPrefixOf ('-' :: line) ||
      ['+', '+', '+'].isPrefixOf ('-' :: line)) = false := by
    show (doubled '-' line || false) = false
    rw [h]
    rfl
  unfold parseLine
  rw [if_neg (by exact Bool.false_ne_true), hheader]
  rfl

theorem parseLine_add {hs : List HunkView} {hunk : HunkView} {o n : Nat} {line : Line}
    (h : doubled '+' line = false) :
    parseLine ⟨hs, some hunk, o, n⟩ ('+' :: line) =
      ⟨hs, some (hunk.append ⟨.add, none, some n, htmlEscape line⟩), o, n + 1⟩ := by
  have hheader : (['-', '-', '-'].isPrefixOf ('+' :: line) ||
      ['+', '+', '+'].isPrefixOf ('+' :: line)) = false := by
    show (false || doubled '+' line) = false
    rw [h]
    rfl
  unfold parseLine
  rw [if_neg (by exact Bool.false_ne_true), hheader]
  rfl

/-- The operations of a hunk become its lines, and the numbers move on by its sides. -/
theorem parseLine_ops {ops : List (DiffOp Line)} (hplain : Plain ops) {hs : List HunkView}
    {hunk : HunkView} {o n : Nat} :
    (ops.map DiffOp.text).foldl parseLine ⟨hs, some hunk, o, n⟩ =
      ⟨hs, some { hunk with lines := hunk.lines ++ viewOps o n ops },
        o + (ops.filterMap DiffOp.old?).length, n + (ops.filterMap DiffOp.new?).length⟩ := by
  induction ops generalizing hunk o n with
  | nil =>
    show _ = ParseState.mk hs (some { hunk with lines := hunk.lines ++ [] }) o n
    rw [List.append_nil]
    rfl
  | cons op ops ih =>
    rw [List.map_cons, List.foldl_cons]
    have hline : ∀ (line : HunkLine) (rest : List HunkLine),
        (hunk.append line).lines ++ rest = hunk.lines ++ line :: rest :=
      fun line rest => List.append_assoc ..
    cases op with
    | context line =>
      have hstep : parseLine ⟨hs, some hunk, o, n⟩ (DiffOp.context line).text =
          ⟨hs, some (hunk.append ⟨.context, some o, some n, htmlEscape line⟩), o + 1, n + 1⟩ := rfl
      rw [hstep, ih hplain, hline, Nat.add_right_comm o, Nat.add_right_comm n]
      rfl
    | remove line =>
      have hhead : doubled '-' line = false := hplain.1 line (List.mem_cons_self ..)
      have hrest : Plain ops := ⟨fun l hl => hplain.1 l (List.mem_cons_of_mem _ hl), hplain.2⟩
      rw [DiffOp.text, parseLine_remove hhead, ih hrest, hline, Nat.add_right_comm o]
      rfl
    | add line =>
      have hhead : doubled '+' line = false := hplain.2 line (List.mem_cons_self ..)
      have hrest : Plain ops := ⟨hplain.1, fun l hl => hplain.2 l (List.mem_cons_of_mem _ hl)⟩
      rw [DiffOp.text, parseLine_add hhead, ih hrest, hline, Nat.add_right_comm n]
      rfl

theorem parse_hunks {hs : List (DiffHunk Line)} (hplain : ∀ h ∈ hs, Plain h.ops) :
    let after := (hs.flatMap DiffHunk.print).foldl parseLine st
    after.hunks ++ after.currentHunk.toList =
      st.hunks ++ st.currentHunk.toList ++ hs.map viewHunk := by
  induction hs generalizing st with
  | nil => exact (List.append_nil _).symm
  | cons h hs ih =>
    dsimp only at ih ⊢
    rw [List.flatMap_cons, List.foldl_append]
    have hhunk : h.print.foldl parseLine st =
        ⟨st.hunks ++ st.currentHunk.toList, some (viewHunk h),
          oldBegin h + h.oldSide.length, newBegin h + h.newSide.length⟩ := by
      show (h.ops.map DiffOp.text).foldl parseLine (parseLine st h.header) = _
      rw [parseLine_header, parseLine_ops (hplain h (List.mem_cons_self ..))]
      rfl
    rw [ih fun h' hh => hplain h' (List.mem_cons_of_mem _ hh), hhunk, List.map_cons]
    show st.hunks ++ st.currentHunk.toList ++ [viewHunk h] ++ _ = _
    rw [List.append_assoc, List.singleton_append]

/-- Without misleading lines the printed hunks are read back. -/
theorem parseUnifiedDiff_print {old new : List Line} {d : UnifiedDiff old new}
    (hplain : ∀ h ∈ d.hunks, Plain h.ops) (fromFile toFile : Line) :
    parseUnifiedDiff (d.print fromFile toFile) = d.hunks.map viewHunk := by
  unfold parseUnifiedDiff UnifiedDiff.print
  split
  next hnone =>
    rw [hnone]
    rfl
  next =>
    have hskip : ∀ rest : List Line,
        ((['-', '-', '-', ' '] ++ fromFile) :: (['+', '+', '+', ' '] ++ toFile) :: rest).foldl
          parseLine {} = rest.foldl parseLine {} := fun _ => rfl
    dsimp only
    rw [hskip, parse_hunks hplain]
    rfl

end Parsing

/-! ## A faithful comparison -/

section Numbers

variable {o n : Nat} {ops : List (DiffOp Line)} {line : HunkLine} {i : Nat}

/-- A numbered line of the view is that line of the old side. -/
theorem viewOps_old (hmem : line ∈ viewOps o n ops) (hnum : line.oldNum = some i) :
    ∃ k, i = o + k ∧ ((ops.filterMap DiffOp.old?)[k]?).map htmlEscape = some line.content := by
  induction ops generalizing o n with
  | nil => exact nomatch hmem
  | cons op ops ih =>
    cases op with
    | context l =>
      rcases List.mem_cons.mp hmem with rfl | hmem
      · obtain rfl := Option.some.inj hnum
        exact ⟨0, rfl, rfl⟩
      · obtain ⟨k, rfl, hk⟩ := ih hmem
        exact ⟨k + 1, by omega, hk⟩
    | remove l =>
      rcases List.mem_cons.mp hmem with rfl | hmem
      · obtain rfl := Option.some.inj hnum
        exact ⟨0, rfl, rfl⟩
      · obtain ⟨k, rfl, hk⟩ := ih hmem
        exact ⟨k + 1, by omega, hk⟩
    | add l =>
      rcases List.mem_cons.mp hmem with rfl | hmem
      · cases hnum
      · exact ih hmem

theorem viewOps_new (hmem : line ∈ viewOps o n ops) (hnum : line.newNum = some i) :
    ∃ k, i = n + k ∧ ((ops.filterMap DiffOp.new?)[k]?).map htmlEscape = some line.content := by
  induction ops generalizing o n with
  | nil => exact nomatch hmem
  | cons op ops ih =>
    cases op with
    | context l =>
      rcases List.mem_cons.mp hmem with rfl | hmem
      · obtain rfl := Option.some.inj hnum
        exact ⟨0, rfl, rfl⟩
      · obtain ⟨k, rfl, hk⟩ := ih hmem
        exact ⟨k + 1, by omega, hk⟩
    | add l =>
      rcases List.mem_cons.mp hmem with rfl | hmem
      · obtain rfl := Option.some.inj hnum
        exact ⟨0, rfl, rfl⟩
      · obtain ⟨k, rfl, hk⟩ := ih hmem
        exact ⟨k + 1, by omega, hk⟩
    | remove l =>
      rcases List.mem_cons.mp hmem with rfl | hmem
      · cases hnum
      · exact ih hmem

end Numbers

/-- The content of the lines of one type. -/
def shown (type : LineType) (lines : List HunkLine) : List Line :=
  (lines.filter fun line => line.type = type).map HunkLine.content

/-- The comparison says what the diff of the normalised lines says. -/
structure Faithful {old new : List Line} (d : UnifiedDiff old new) (c : Comparison) : Prop where
  hasChanges : c.hasChanges = true ↔ old ≠ new
  added : c.addedLines = d.inserted.length
  removed : c.removedLines = d.deleted.length
  balance : old.length + c.addedLines = new.length + c.removedLines
  oldNumbers : ∀ hunk ∈ c.hunks, ∀ line ∈ hunk.lines, ∀ i, line.oldNum = some i →
    0 < i ∧ (old[i - 1]?).map htmlEscape = some line.content
  newNumbers : ∀ hunk ∈ c.hunks, ∀ line ∈ hunk.lines, ∀ i, line.newNum = some i →
    0 < i ∧ (new[i - 1]?).map htmlEscape = some line.content
  numbered : ∀ hunk ∈ c.hunks, ∀ line ∈ hunk.lines,
    (line.oldNum.isSome ↔ line.type ≠ .add) ∧ (line.newNum.isSome ↔ line.type ≠ .remove)
  deletedShown : shown .remove (c.hunks.flatMap HunkView.lines) = d.deleted.map htmlEscape
  insertedShown : shown .add (c.hunks.flatMap HunkView.lines) = d.inserted.map htmlEscape

section Views

variable {old new : List Line} {d : UnifiedDiff old new} {o n : Nat} {ops : List (DiffOp Line)}

theorem viewOps_numbered {line : HunkLine} (h : line ∈ viewOps o n ops) :
    (line.oldNum.isSome ↔ line.type ≠ .add) ∧ (line.newNum.isSome ↔ line.type ≠ .remove) := by
  induction ops generalizing o n with
  | nil => exact nomatch h
  | cons op ops ih =>
    cases op with
    | context l =>
      rcases List.mem_cons.mp h with rfl | h
      · simp
      · exact ih h
    | remove l =>
      rcases List.mem_cons.mp h with rfl | h
      · simp
      · exact ih h
    | add l =>
      rcases List.mem_cons.mp h with rfl | h
      · simp
      · exact ih h

theorem shown_viewOps :
    shown .remove (viewOps o n ops) = (ops.filterMap DiffOp.removed?).map htmlEscape ∧
    shown .add (viewOps o n ops) = (ops.filterMap DiffOp.added?).map htmlEscape := by
  induction ops generalizing o n with
  | nil => exact ⟨rfl, rfl⟩
  | cons op ops ih =>
    cases op with
    | context l => exact ih
    | remove l => exact ⟨congrArg _ ih.1, ih.2⟩
    | add l => exact ⟨ih.1, congrArg _ ih.2⟩

theorem shown_append (type : LineType) (lines lines' : List HunkLine) :
    shown type (lines ++ lines') = shown type lines ++ shown type lines' := by
  unfold shown
  rw [List.filter_append, List.map_append]

theorem shown_viewHunks (hs : List (DiffHunk Line)) :
    shown .remove ((hs.map viewHunk).flatMap HunkView.lines) =
      (hs.flatMap DiffHunk.removed).map htmlEscape ∧
    shown .add ((hs.map viewHunk).flatMap HunkView.lines) =
      (hs.flatMap DiffHunk.added).map htmlEscape := by
  induction hs with
  | nil => exact ⟨rfl, rfl⟩
  | cons h hs ih =>
    have hview := @shown_viewOps (oldBegin h) (newBegin h) h.ops
    simp only [List.map_cons, List.flatMap_cons, shown_append, List.map_append, ih.1, ih.2]
    exact ⟨congrArg (· ++ _) hview.1, congrArg (· ++ _) hview.2⟩

/-- The numbers of the view are the ones of the lists, counted from one. -/
theorem viewHunk_old {h : DiffHunk Line} (hmem : h ∈ d.hunks) {line : HunkLine}
    (hline : line ∈ (viewHunk h).lines) {i : Nat} (hnum : line.oldNum = some i) :
    0 < i ∧ (old[i - 1]?).map htmlEscape = some line.content := by
  obtain ⟨before, after, hold, hstart⟩ := d.leads.oldSide_at hmem
  obtain ⟨k, rfl, hk⟩ := viewOps_old hline hnum
  obtain ⟨content, hcontent, -⟩ := Option.map_eq_some_iff.mp hk
  have hlt : k < h.oldSide.length := (List.getElem?_eq_some_iff.mp hcontent).1
  have hbegin : oldBegin h = before.length + 1 := by
    unfold oldBegin rangeBegin
    rw [if_neg (by omega)]
    omega
  have hindex : oldBegin h + k - 1 = before.length + k := by omega
  refine ⟨by omega, ?_⟩
  rw [hindex, hold, List.append_assoc, List.getElem?_append_right (by omega),
    Nat.add_sub_cancel_left, List.getElem?_append_left hlt]
  exact hk

theorem viewHunk_new {h : DiffHunk Line} (hmem : h ∈ d.hunks) {line : HunkLine}
    (hline : line ∈ (viewHunk h).lines) {i : Nat} (hnum : line.newNum = some i) :
    0 < i ∧ (new[i - 1]?).map htmlEscape = some line.content := by
  obtain ⟨before, after, hnew, hstart⟩ := d.leads.newSide_at hmem
  obtain ⟨k, rfl, hk⟩ := viewOps_new hline hnum
  obtain ⟨content, hcontent, -⟩ := Option.map_eq_some_iff.mp hk
  have hlt : k < h.newSide.length := (List.getElem?_eq_some_iff.mp hcontent).1
  have hbegin : newBegin h = before.length + 1 := by
    unfold newBegin rangeBegin
    rw [if_neg (by omega)]
    omega
  have hindex : newBegin h + k - 1 = before.length + k := by omega
  refine ⟨by omega, ?_⟩
  rw [hindex, hnew, List.append_assoc, List.getElem?_append_right (by omega),
    Nat.add_sub_cancel_left, List.getElem?_append_left hlt]
  exact hk

/-- A diff changes something exactly when the lists differ. -/
theorem changes_iff : (0 < d.inserted.length ∨ 0 < d.deleted.length) ↔ old ≠ new := by
  constructor
  · rintro hchange rfl
    unfold UnifiedDiff.inserted UnifiedDiff.deleted at hchange
    rw [d.same rfl] at hchange
    simp at hchange
  · intro hne
    have hleads := d.leads
    cases hhunks : d.hunks with
    | nil => exact absurd (eq_of_patches_nil (hhunks ▸ hleads)) hne
    | cons h hs =>
      unfold UnifiedDiff.inserted UnifiedDiff.deleted
      simp only [hhunks, List.flatMap_cons, List.length_append]
      have hmem : h ∈ d.hunks := hhunks ▸ List.mem_cons_self ..
      rcases hleads.changes hmem with hremoved | hadded
      · have := List.length_pos_iff.mpr hremoved
        omega
      · have := List.length_pos_iff.mpr hadded
        omega

end Views

section Comparing

variable {unifiedDiff : (old new : List Line) → UnifiedDiff old new} {fromFile toFile : Line}
variable {contentOld contentNew : List Char}

/-- The diff that the comparison of two contents is made from. -/
def diffOf (unifiedDiff : (old new : List Line) → UnifiedDiff old new)
    (contentOld contentNew : List Char) :
    UnifiedDiff (normalizeConfigLines contentOld).1 (normalizeConfigLines contentNew).1 :=
  unifiedDiff (normalizeConfigLines contentOld).1 (normalizeConfigLines contentNew).1

theorem addedLines_eq :
    (compareBackups unifiedDiff fromFile toFile (some contentOld) (some contentNew)).addedLines =
      (diffOf unifiedDiff contentOld contentNew).inserted.countP fun line => !doubled '+' line :=
  countP_print counts_added (diffOf unifiedDiff contentOld contentNew) fromFile toFile

theorem removedLines_eq :
    (compareBackups unifiedDiff fromFile toFile (some contentOld) (some contentNew)).removedLines =
      (diffOf unifiedDiff contentOld contentNew).deleted.countP fun line => !doubled '-' line :=
  countP_print counts_removed (diffOf unifiedDiff contentOld contentNew) fromFile toFile

theorem hunks_eq
    (hdeleted : ∀ line ∈ (diffOf unifiedDiff contentOld contentNew).deleted,
      doubled '-' line = false)
    (hinserted : ∀ line ∈ (diffOf unifiedDiff contentOld contentNew).inserted,
      doubled '+' line = false) :
    (compareBackups unifiedDiff fromFile toFile (some contentOld) (some contentNew)).hunks =
      (diffOf unifiedDiff contentOld contentNew).hunks.map viewHunk := by
  apply parseUnifiedDiff_print
  intro h hmem
  exact ⟨fun line hline => hdeleted line (List.mem_flatMap_of_mem hmem hline),
    fun line hline => hinserted line (List.mem_flatMap_of_mem hmem hline)⟩

theorem hasChanges_iff :
    (compareBackups unifiedDiff fromFile toFile (some contentOld) (some contentNew)).hasChanges =
      true ↔
    0 < (compareBackups unifiedDiff fromFile toFile (some contentOld)
      (some contentNew)).addedLines ∨
    0 < (compareBackups unifiedDiff fromFile toFile (some contentOld)
      (some contentNew)).removedLines := by
  unfold compareBackups
  dsimp only
  generalize UnifiedDiff.print _ fromFile toFile = diffLines
  have hadded := @List.countP_le_length _ (countsAs '+') diffLines
  have hremoved := @List.countP_le_length _ (countsAs '-') diffLines
  rw [Bool.and_eq_true, Bool.or_eq_true, decide_eq_true_eq, decide_eq_true_eq, decide_eq_true_eq]
  omega

end Comparing

/-- The comparison is faithful exactly when no changed line begins like a file header. -/
theorem compareBackups_faithful_iff
    (unifiedDiff : (old new : List Line) → UnifiedDiff old new) (fromFile toFile : Line)
    (contentOld contentNew : List Char) :
    Faithful (diffOf unifiedDiff contentOld contentNew)
      (compareBackups unifiedDiff fromFile toFile (some contentOld) (some contentNew)) ↔
    (∀ line ∈ (diffOf unifiedDiff contentOld contentNew).deleted, doubled '-' line = false) ∧
    ∀ line ∈ (diffOf unifiedDiff contentOld contentNew).inserted, doubled '+' line = false := by
  constructor
  · intro h
    have hadded := addedLines_eq.symm.trans h.added
    have hremoved := removedLines_eq.symm.trans h.removed
    rw [List.countP_eq_length] at hadded hremoved
    exact ⟨fun line hline => by simpa using hremoved line hline,
      fun line hline => by simpa using hadded line hline⟩
  · intro ⟨hdeleted, hinserted⟩
    have hadded : (compareBackups unifiedDiff fromFile toFile (some contentOld)
        (some contentNew)).addedLines =
          (diffOf unifiedDiff contentOld contentNew).inserted.length := by
      rw [addedLines_eq, List.countP_eq_length]
      exact fun line hline => by simp [hinserted line hline]
    have hremoved : (compareBackups unifiedDiff fromFile toFile (some contentOld)
        (some contentNew)).removedLines =
          (diffOf unifiedDiff contentOld contentNew).deleted.length := by
      rw [removedLines_eq, List.countP_eq_length]
      exact fun line hline => by simp [hdeleted line hline]
    have hhunks := @hunks_eq unifiedDiff fromFile toFile _ _ hdeleted hinserted
    refine ⟨?_, hadded, hremoved, ?_, ?_, ?_, ?_, ?_, ?_⟩
    · rw [hasChanges_iff, hadded, hremoved]
      exact changes_iff
    · rw [hadded, hremoved]
      exact (diffOf unifiedDiff contentOld contentNew).leads.length_add
    all_goals rw [hhunks]
    · intro hunk hmem line hline i hnum
      obtain ⟨h, hh, rfl⟩ := List.mem_map.mp hmem
      exact viewHunk_old hh hline hnum
    · intro hunk hmem line hline i hnum
      obtain ⟨h, hh, rfl⟩ := List.mem_map.mp hmem
      exact viewHunk_new hh hline hnum
    · intro hunk hmem line hline
      obtain ⟨h, -, rfl⟩ := List.mem_map.mp hmem
      exact viewOps_numbered hline
    · exact (shown_viewHunks _).1
    · exact (shown_viewHunks _).2

/-- The end of a banner is removed and nothing is counted. -/
theorem not_faithful_banner : ¬ Faithful
    (diffOf UnifiedDiff.whole ['a', '\n', '-', '-'] ['a'])
    (compareBackups UnifiedDiff.whole [] [] (some ['a', '\n', '-', '-']) (some ['a'])) := by
  intro h
  exact absurd h.removed (by decide)

end BackupCenter.Diffs
