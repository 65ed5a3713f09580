import BackupCenter.Lib.Regex
import BackupCenter.Lib.Survivors

/-!
# The lines of a configuration

Two backups are compared line by line, after their line endings have been made alike, the white
space behind the lines has been cut off, the lines that change with every backup have been dropped
and runs of blank lines have been squeezed.
-/
namespace BackupCenter.Diffs

open BackupCenter.Lib
open BackupCenter.Lib.Regex

abbrev Line := List Char

/-! ## Volatile lines -/

/-- `$` without the multiline flag. -/
def textEnd : Regex := guard fun a => a.rest == [] || a.rest == ['\n']

/-- `^\s*#\s+.+\s+by\s+RouterOS\s+.+$` -/
def routerosTimestampRe : Regex :=
  inOrder [textStart, star space, chr (· == '#'), plus space, plus dot, plus space, itext "by",
    plus space, itext "RouterOS", plus space, plus dot, textEnd]

/-- `jan|fev|mar|apr|may|jun|jul|aug|sep|oct|nov|dec` -/
def months : Regex :=
  oneOfAll [itext "jan", itext "fev", itext "mar", itext "apr", itext "may", itext "jun",
    itext "jul", itext "aug", itext "sep", itext "oct", itext "nov", itext "dec"]

def volatileLinePatterns : List Regex :=
  [ -- `^\s*#\s+(jan|...|dec)[/\s-]`
    inOrder [textStart, star space, chr (· == '#'), plus space, months,
      chr fun c => c == '/' || isSpace c || c == '-'],
    -- `^\s*current configuration\s*:.*$`
    inOrder [textStart, star space, itext "current configuration", star space, chr (· == ':'),
      star dot, textEnd],
    inOrder [textStart, star space, itext "building configuration", star dot, textEnd],
    inOrder [textStart, star space, itext "last configuration change", star dot, textEnd],
    inOrder [textStart, star space, itext "ntp clock-period", star dot, textEnd],
    -- `^\s*!\s*time:\s*.*$`
    inOrder [textStart, star space, chr (· == '!'), star space, itext "time:", star space,
      star dot, textEnd],
    inOrder [textStart, star space, chr (· == '!'), star space, itext "generated", star dot,
      textEnd]]

/-- `pattern.match(line)` -/
def matchesLine (line : Line) (r : Regex) : Bool := (r.first ⟨none, line⟩).isSome

def volatileLine (line : Line) : Bool :=
  matchesLine line routerosTimestampRe || volatileLinePatterns.any (matchesLine line)

/-! ## Normalisation -/

/-- `text.replace("\r\n", "\n")` -/
def replaceCrlf : List Char → List Char
  | [] => []
  | '\r' :: '\n' :: cs => '\n' :: replaceCrlf cs
  | c :: cs => c :: replaceCrlf cs

/-- The text with `"\n"` for every line ending. -/
def sameEndings (content : List Char) : List Char :=
  (replaceCrlf content).map fun c => if c = '\r' then '\n' else c

/-- `text.split("\n")` -/
def inputLines (content : List Char) : List Line := (sameEndings content).splitOn '\n'

def rstrip (line : Line) : Line := line.rdropWhile isSpace

/-- The first loop: the lines that stay, and how many were dropped. -/
def dropVolatile : List Line → List Line × Nat
  | [] => ([], 0)
  | raw :: rest =>
    let line := rstrip raw
    let (normalized, dropped) := dropVolatile rest
    if volatileLine line then (normalized, dropped + 1) else (line :: normalized, dropped)

/-- `not line.strip()` -/
def blankLine (line : Line) : Bool := (stripChars line).isEmpty

/-- The second loop, with its `blank_streak`. -/
def compactBlanks : Nat → List Line → List Line × Nat
  | _, [] => ([], 0)
  | streak, line :: rest =>
    if blankLine line then
      let streak := streak + 1
      let (compact, dropped) := compactBlanks streak rest
      if 1 < streak then (compact, dropped + 1) else (line :: compact, dropped)
    else
      let (compact, dropped) := compactBlanks 0 rest
      (line :: compact, dropped)

def normalizeLines (lines : List Line) : List Line × Nat :=
  let (normalized, dropped) := dropVolatile lines
  let (compact, dropped') := compactBlanks 0 normalized
  (compact, dropped + dropped')

/-- `normalize_config_lines` -/
def normalizeConfigLines (content : List Char) : List Line × Nat :=
  normalizeLines (inputLines content)

/-- `"\n".join(lines)` -/
def joinLines (lines : List Line) : List Char := ['\n'].intercalate lines

/-! ## One pass over the lines -/

/-- What becomes of every line. -/
def lineFates (lines : List Line) : List (Line × Bool) :=
  fates volatileLine blankLine false (lines.map rstrip)

theorem compactBlanks_spec (streak : Nat) (raws : List Line) :
    (compactBlanks streak (dropVolatile raws).1).1 =
      survivors volatileLine blankLine (decide (0 < streak)) (raws.map rstrip) ∧
    (dropVolatile raws).2 + (compactBlanks streak (dropVolatile raws).1).2 =
      (fates volatileLine blankLine (decide (0 < streak)) (raws.map rstrip)).countP
        (fun m => !m.2) := by
  induction raws generalizing streak with
  | nil => exact ⟨rfl, rfl⟩
  | cons raw raws ih =>
    rw [List.map_cons, survivors_cons, fates_cons, List.countP_cons]
    unfold dropVolatile
    dsimp only
    cases hskip : volatileLine (rstrip raw) with
    | true =>
      obtain ⟨hlines, hcount⟩ := ih streak
      simp only [if_true, Bool.true_or, Bool.not_true, Bool.false_and, Bool.not_false]
      exact ⟨hlines, by omega⟩
    | false =>
      simp only [Bool.false_eq_true, if_false, Bool.false_or, Bool.not_false, Bool.true_and]
      unfold compactBlanks
      dsimp only
      cases hblank : blankLine (rstrip raw) with
      | false =>
        obtain ⟨hlines, hcount⟩ := ih 0
        simp only [Bool.false_eq_true, if_false, Bool.false_and, Bool.not_false, Bool.not_true]
        exact ⟨congrArg _ hlines, hcount⟩
      | true =>
        obtain ⟨hlines, hcount⟩ := ih (streak + 1)
        rw [decide_eq_true (Nat.succ_pos streak)] at hlines hcount
        simp only [if_true, Bool.true_and, Bool.not_not]
        by_cases hfirst : 0 < streak
        · rw [if_pos (by omega : 1 < streak + 1), decide_eq_true hfirst]
          exact ⟨hlines, by simp only [if_true]; omega⟩
        · rw [if_neg (by omega : ¬ 1 < streak + 1), decide_eq_false hfirst]
          exact ⟨congrArg _ hlines, hcount⟩

/-- The two loops are one pass. -/
theorem normalizeLines_eq (lines : List Line) :
    normalizeLines lines =
      (marked (lineFates lines), (lineFates lines).countP fun m => !m.2) :=
  Prod.ext (compactBlanks_spec 0 lines).1 (compactBlanks_spec 0 lines).2

theorem rstrip_rstrip (line : Line) : rstrip (rstrip line) = rstrip line :=
  List.rdropWhile_idempotent ..

theorem rstrip_append_blanks {blanks : Line} (line : Line) (h : ∀ c ∈ blanks, isSpace c = true) :
    rstrip (line ++ blanks) = rstrip line := by
  induction blanks using List.reverseRecOn with
  | nil => rw [List.append_nil]
  | append_singleton blanks c ih =>
    unfold rstrip at ih ⊢
    rw [← List.append_assoc, List.rdropWhile_concat_pos _ _ _ (h c (by simp))]
    exact ih fun d hd => h d (List.mem_append_left _ hd)

/-! ## Line endings -/

theorem replaceCrlf_cons {c : Char} {cs : List Char}
    (h : c = '\r' → cs.head? = some '\n' → False) :
    replaceCrlf (c :: cs) = c :: replaceCrlf cs := by
  rw [replaceCrlf]
  intro rest hc hcs
  exact h hc (hcs ▸ rfl)

/-- Two texts are read one after the other, unless they meet in the middle of an ending. -/
theorem replaceCrlf_append {cs ds : List Char}
    (h : cs.getLast? = some '\r' → ds.head? = some '\n' → False) :
    replaceCrlf (cs ++ ds) = replaceCrlf cs ++ replaceCrlf ds := by
  induction cs using replaceCrlf.induct with
  | case1 => rfl
  | case2 cs ih =>
    have hrest : replaceCrlf (cs ++ ds) = replaceCrlf cs ++ replaceCrlf ds := by
      cases cs with
      | nil => rfl
      | cons c cs => exact ih (by simpa using h)
    show '\n' :: replaceCrlf (cs ++ ds) = '\n' :: (replaceCrlf cs ++ replaceCrlf ds)
    rw [hrest]
  | case3 c cs hother ih =>
    have halone : c = '\r' → cs.head? = some '\n' → False := by
      intro hc hcs
      obtain ⟨rest, rfl⟩ := List.head?_eq_some_iff.mp hcs
      exact hother rest hc rfl
    rw [List.cons_append, replaceCrlf_cons halone]
    cases cs with
    | nil =>
      have hlast : c = '\r' → ds.head? = some '\n' → False :=
        fun hc hds => h (congrArg some hc) hds
      rw [List.nil_append, replaceCrlf_cons hlast]
      rfl
    | cons d cs =>
      rw [replaceCrlf_cons (fun hc hd => halone hc (by simpa using hd)), ih (by simpa using h)]
      rfl

/-- The three ways in which a line can end. -/
inductive LineEnding where
  | lf
  | crlf
  | cr

def LineEnding.text : LineEnding → List Char
  | lf => ['\n']
  | crlf => ['\r', '\n']
  | cr => ['\r']

/-- The ending between two texts makes no longer ending with its neighbours. -/
def LineEnding.Alone (e : LineEnding) (before after : List Char) : Prop :=
  (before.getLast? = some '\r' → e.text.head? = some '\n' → False) ∧
  (e.text.getLast? = some '\r' → after.head? = some '\n' → False)

theorem LineEnding.alone_crlf (before after : List Char) : crlf.Alone before after :=
  ⟨fun _ hhead => (nomatch hhead), fun hlast => (nomatch hlast)⟩

/-- Every line ending reads as the same. -/
theorem sameEndings_ending {e : LineEnding} {before after : List Char} (h : e.Alone before after) :
    sameEndings (before ++ e.text ++ after) = sameEndings before ++ '\n' :: sameEndings after := by
  unfold sameEndings
  rw [List.append_assoc, replaceCrlf_append, replaceCrlf_append h.2, List.map_append,
    List.map_append]
  · cases e <;> rfl
  · intro hlast hhead
    apply h.1 hlast
    cases e <;> exact hhead

theorem not_mem_sameEndings (content : List Char) : '\r' ∉ sameEndings content := by
  intro h
  obtain ⟨c, -, hc⟩ := List.mem_map.mp h
  split at hc
  next => cases hc
  next hne => exact hne hc

theorem sameEndings_eq_self {content : List Char} (h : '\r' ∉ content) :
    sameEndings content = content := by
  unfold sameEndings
  induction content with
  | nil => rfl
  | cons c cs ih =>
    obtain ⟨hne, hrest⟩ := not_or.mp (fun hor => h (List.mem_cons.mpr hor))
    rw [replaceCrlf_cons (fun hc => absurd hc.symm hne), List.map_cons, ih hrest,
      if_neg (Ne.symm hne)]

/-- A line has no line ending in it. -/
theorem not_mem_inputLines {content : List Char} {line : Line} (h : line ∈ inputLines content) :
    '\n' ∉ line ∧ '\r' ∉ line := by
  have hpiece := mem_of_mem_splitOn line h
  constructor
  · exact fun hmem => (hpiece _ hmem).2 rfl
  · exact fun hmem => not_mem_sameEndings content (hpiece _ hmem).1

theorem mem_joinLines {lines : List Line} {c : Char} (h : c ∈ joinLines lines) :
    c = '\n' ∨ ∃ line ∈ lines, c ∈ line := by
  unfold joinLines at h
  induction lines with
  | nil => exact nomatch h
  | cons line rest ih =>
    by_cases hrest : rest = []
    · rw [hrest, List.intercalate_singleton] at h
      exact .inr ⟨line, List.mem_cons_self .., h⟩
    · rw [List.intercalate_cons_of_ne_nil hrest] at h
      rcases List.mem_append.mp h with h | h
      · rcases List.mem_append.mp h with h | h
        · exact .inr ⟨line, List.mem_cons_self .., h⟩
        · exact .inl (List.mem_singleton.mp h)
      · rcases ih h with h | ⟨line', hline', h⟩
        · exact .inl h
        · exact .inr ⟨line', List.mem_cons_of_mem _ hline', h⟩

theorem inputLines_joinLines {lines : List Line} (hne : lines ≠ [])
    (h : ∀ line ∈ lines, '\n' ∉ line ∧ '\r' ∉ line) : inputLines (joinLines lines) = lines := by
  have hcr : '\r' ∉ joinLines lines := by
    intro hmem
    rcases mem_joinLines hmem with hc | ⟨line, hline, hc⟩
    · exact absurd hc (by decide)
    · exact (h line hline).2 hc
  unfold inputLines
  rw [sameEndings_eq_self hcr]
  exact List.splitOn_intercalate '\n' (fun line hline => (h line hline).1) hne

/-! ## The laws -/

section Laws

variable {content : List Char}

theorem mem_lineFates {m : Line × Bool} (h : m ∈ lineFates (inputLines content)) :
    rstrip m.1 = m.1 ∧ '\n' ∉ m.1 ∧ '\r' ∉ m.1 := by
  have hmem : m.1 ∈ (inputLines content).map rstrip := by
    rw [← @fates_map_fst _ volatileLine blankLine false ((inputLines content).map rstrip)]
    exact List.mem_map_of_mem h
  obtain ⟨raw, hraw, heq⟩ := List.mem_map.mp hmem
  have hfree := not_mem_inputLines hraw
  have hpart : rstrip raw <+: raw := List.rdropWhile_prefix ..
  rw [← heq]
  exact ⟨rstrip_rstrip raw, fun hc => hfree.1 (hpart.mem hc), fun hc => hfree.2 (hpart.mem hc)⟩

theorem mem_kept {line : Line} (h : line ∈ (normalizeConfigLines content).1) :
    rstrip line = line ∧ '\n' ∉ line ∧ '\r' ∉ line := by
  unfold normalizeConfigLines at h
  rw [normalizeLines_eq] at h
  obtain ⟨m, hm, rfl⟩ := List.mem_map.mp h
  exact mem_lineFates (List.mem_of_mem_filter hm)

theorem normalizeConfigLines_fst :
    (normalizeConfigLines content).1 =
      survivors volatileLine blankLine false ((inputLines content).map rstrip) := by
  unfold normalizeConfigLines
  rw [normalizeLines_eq]
  rfl

/-- Normalised lines are normal. -/
theorem normalizeConfigLines_joinLines (h : (normalizeConfigLines content).1 ≠ []) :
    normalizeConfigLines (joinLines (normalizeConfigLines content).1) =
      ((normalizeConfigLines content).1, 0) := by
  have hlines := inputLines_joinLines h fun line hline => (mem_kept hline).2
  have htrimmed : (normalizeConfigLines content).1.map rstrip = (normalizeConfigLines content).1 :=
    (List.map_congr_left fun line hline => (mem_kept hline).1).trans (List.map_id _)
  have hfates : lineFates (normalizeConfigLines content).1 =
      (normalizeConfigLines content).1.map (·, true) := by
    unfold lineFates
    rw [htrimmed, normalizeConfigLines_fst]
    exact fates_survivors
  rw [normalizeConfigLines, hlines, normalizeLines_eq, hfates, marked_map_true, List.countP_map]
  exact congrArg _ (List.countP_eq_zero.mpr fun _ _ => nofun)

/-- The kept and the dropped lines make up the input. -/
theorem length_add_dropped :
    (normalizeConfigLines content).1.length + (normalizeConfigLines content).2 =
      (inputLines content).length := by
  have hlength : ((inputLines content).map rstrip).length = (inputLines content).length :=
    List.length_map rstrip
  unfold normalizeConfigLines
  rw [normalizeLines_eq, ← hlength]
  exact length_survivors_add

/-- Two texts whose lines survive alike are normalised alike, up to the number of dropped lines. -/
theorem normalizeConfigLines_fst_congr {content' : List Char}
    (h : survivors volatileLine blankLine false ((inputLines content').map rstrip) =
      survivors volatileLine blankLine false ((inputLines content).map rstrip)) :
    (normalizeConfigLines content').1 = (normalizeConfigLines content).1 := by
  rw [normalizeConfigLines_fst, normalizeConfigLines_fst, h]

theorem inputLines_ending {e e' : LineEnding} {before after : List Char}
    (h : e.Alone before after) (h' : e'.Alone before after) :
    inputLines (before ++ e'.text ++ after) = inputLines (before ++ e.text ++ after) := by
  unfold inputLines
  rw [sameEndings_ending h, sameEndings_ending h']

end Laws

/-- What normalisation keeps and drops, and what it does not see. -/
theorem normalizeConfigLines_laws (content : List Char) :
    ((normalizeConfigLines content).1 ≠ [] →
      normalizeConfigLines (joinLines (normalizeConfigLines content).1) =
        ((normalizeConfigLines content).1, 0)) ∧
    ((normalizeConfigLines content).1.length + (normalizeConfigLines content).2 =
      (inputLines content).length) ∧
    (normalizeConfigLines content).1.Sublist ((inputLines content).map rstrip) ∧
    (∃ fate : List (Line × Bool), fate.map Prod.fst = (inputLines content).map rstrip ∧
      marked fate = (normalizeConfigLines content).1 ∧
      ∀ before line after, fate = before ++ (line, false) :: after →
        volatileLine line = true ∨
        blankLine line = true ∧
          ∃ kept, (marked before).getLast? = some kept ∧ blankLine kept = true) ∧
    (∀ (e e' : LineEnding) (before after : List Char), content = before ++ e.text ++ after →
      e.Alone before after → e'.Alone before after →
        normalizeConfigLines (before ++ e'.text ++ after) = normalizeConfigLines content) ∧
    (∀ content' before line blanks after, inputLines content = before ++ line :: after →
      (∀ c ∈ blanks, isSpace c = true) →
      inputLines content' = before ++ (line ++ blanks) :: after →
        normalizeConfigLines content' = normalizeConfigLines content) ∧
    (∀ content' before line after, inputLines content = before ++ after →
      volatileLine (rstrip line) = true → inputLines content' = before ++ line :: after →
        (normalizeConfigLines content').1 = (normalizeConfigLines content).1) ∧
    (∀ content' before line after, inputLines content = before ++ line :: after →
      blankLine (rstrip line) = true → inputLines content' = before ++ line :: line :: after →
        (normalizeConfigLines content').1 = (normalizeConfigLines content).1) := by
  refine ⟨normalizeConfigLines_joinLines, length_add_dropped, ?_, ?_, ?_, ?_, ?_, ?_⟩
  · rw [normalizeConfigLines_fst]
    exact survivors_sublist
  · refine ⟨lineFates (inputLines content), fates_map_fst, normalizeConfigLines_fst.symm, ?_⟩
    exact fun before line after h => dropped_of_fates h
  · rintro e e' before after rfl h h'
    unfold normalizeConfigLines
    rw [inputLines_ending h h']
  · intro content' before line blanks after h hblanks h'
    unfold normalizeConfigLines
    rw [normalizeLines_eq, normalizeLines_eq, h, h']
    unfold lineFates
    simp only [List.map_append, List.map_cons, rstrip_append_blanks line hblanks]
  · intro content' before line after h hvolatile h'
    apply normalizeConfigLines_fst_congr
    rw [h, h']
    simp only [List.map_append, List.map_cons]
    exact survivors_insert hvolatile
  · intro content' before line after h hblank h'
    apply normalizeConfigLines_fst_congr
    rw [h, h']
    simp only [List.map_append, List.map_cons]
    exact survivors_twice hblank

/-- A line ending replaced by a carriage return makes one ending with the line feed behind it. -/
theorem normalizeConfigLines_merged :
    LineEnding.lf.Alone ['a'] ['\n', 'b'] ∧
    (normalizeConfigLines (['a'] ++ LineEnding.cr.text ++ ['\n', 'b'])).1 ≠
      (normalizeConfigLines (['a'] ++ LineEnding.lf.text ++ ['\n', 'b'])).1 := by
  refine ⟨⟨fun hlast => absurd hlast (by decide), fun hlast => absurd hlast (by decide)⟩, ?_⟩
  decide

end BackupCenter.Diffs
