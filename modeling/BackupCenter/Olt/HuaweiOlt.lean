import BackupCenter.Olt.Cleaning
import BackupCenter.Olt.Selection

/-!
# The Huawei OLT script

Besides the first complete configuration the loop keeps the longest answer of any kind and the
lengths of the incomplete configurations. When no complete one came, two fallbacks look at these.
-/
namespace BackupCenter.Olt.HuaweiOlt

open BackupCenter.Lib

def errorMarkers : List String :=
  ["unknown command", "invalid input", "incomplete command", "parameter error", "unrecognized",
    "error locates at '^'"]

def configMarkers : List String :=
  ["sysname", "interface", "vlan", "service-port", "ont-lineprofile", "ont-srvprofile", "gpon",
    "return"]

def minFullConfigLen : Nat := 800

def minIncompleteFallbackLen : Nat := 5000

def commands : List String :=
  ["display current-configuration", "display saved-configuration",
    "display current-configuration simple", "display startup",
    "display current-configuration all", "show running-config", "show startup-config"]

/-- A letter or digit, and more of these with five marks. -/
def promptHostRe : Regex :=
  .seq (.chr Char.isAlphanum) (.star (.chr fun c => c.isAlphanum || "_.:-/".toList.contains c))

/-- A character of a line that is not the given one. -/
def otherThan (c : Char) : Regex := .chr fun d => d != c && d != '\r' && d != '\n'

def configTagNamesRe : Regex :=
  .seq
    (.oneOfAll (["pre", "global", "device", "public", "vlan", "emu", "bbs", "sysmode", "config",
      "aaa", "mcu", "meth", "null", "loopback", "post-system", "prevlanif", "preloopback",
      "vlanif", "gpon"].map .text))
    (.opt (.seq (.text "-") (.plus (otherThan '>'))))

/-- `<(?!/?tag>)[^>\r\n]{2,}>` -/
def promptAngleLine : Regex :=
  .inOrder [.text "<", .notAhead (.inOrder [.opt (.text "/"), configTagNamesRe, .text ">"]),
    otherThan '>', .plus (otherThan '>'), .text ">"]

def promptCommandLine : Regex :=
  .inOrder [.lineStart,
    .alt promptAngleLine
      (.inOrder [promptHostRe,
        .opt (.inOrder [.text "(config", .star (otherThan ')'), .text ")"]), .oneOf ">#"]),
    .star .space, .lineEnd]

/-- `(?is)^Command:\s*\n\s*command\s*\n` -/
def commandEchoRe (command : String) : Regex :=
  .inOrder [.textStart, .itext "Command:", .star .space, .text "\n", .star .space,
    .itext command, .star .space, .text "\n"]

/-- `(?im)^\s*return\s*$` -/
def terminatorRe : Regex :=
  .inOrder [.lineStart, .star .space, .itext "return", .star .space, .lineEnd]

def lstrip (text : String) : String := String.ofList (text.toList.dropWhile isSpace)

variable (tables : CharTables)

def looksInvalid (output : String) : Bool := containsAny (tables.lower output) errorMarkers

def looksLikeConfig (output : String) : Bool :=
  let low := tables.lower output
  if looksInvalid tables low then false
  else
    let markerCount := configMarkers.countP (contains low)
    if contains low "<pre-config>" && !contains low "sysname" && markerCount < 3 then false
    else if minFullConfigLen ≤ low.length && 1 ≤ markerCount then true
    else if contains low "sysname" &&
        containsAny low ["interface", "vlan", "service-port", "gpon", "return"] then true
    else if contains low "service-port" &&
        containsAny low ["gpon", "vlan", "ont-lineprofile", "ont-srvprofile"] then true
    else containsAny low ["ont-lineprofile", "ont-srvprofile"] && contains low "gpon"

def hasConfigTerminator (output : String) : Bool := terminatorRe.found output

def isCompleteConfigOutput (commandOk : Bool) (output : String) : Bool :=
  output != "" && (commandOk || hasConfigTerminator output)

def stripCommandNoise (output command : String) : String :=
  let text := strip (cleanTerminalText output)
  let text :=
    if command ≠ "" ∧ command.toList <+: text.toList then
      lstrip (String.ofList (text.toList.drop command.length))
    else text
  let text := if command ≠ "" then lstrip ((commandEchoRe command).sub "" text) else text
  strip (promptCommandLine.sub "" text)

/-- The variables of the loop. -/
structure Loop where
  bestUsable : String := ""
  usedUsable : Option String := none
  bestAny : String := ""
  usedAny : Option String := none
  incompleteCandidates : List (String × Nat) := []

/-- An answer as the loop reads it. -/
structure Reading where
  command : String
  ok : Bool
  text : String
  deriving DecidableEq

def read (command : String) (answer : Answer) : Reading :=
  { command, ok := answer.ok, text := stripCommandNoise answer.output command }

def Reading.complete (r : Reading) : Bool := isCompleteConfigOutput r.ok r.text

/-- Complete, not invalid and like a configuration. -/
def usable (r : Reading) : Bool :=
  r.complete && !looksInvalid tables r.text && looksLikeConfig tables r.text

/-- The same, but incomplete. -/
def candidate (r : Reading) : Bool :=
  !looksInvalid tables r.text && looksLikeConfig tables r.text && !r.complete

/-- The longest answer of any kind. -/
def Loop.note (s : Loop) (r : Reading) : Loop :=
  if s.bestAny.length < r.text.length then { s with bestAny := r.text, usedAny := some r.command }
  else s

/-- The loop over the commands with the answers to them. -/
def collect : Loop → List (String × Answer) → Loop
  | s, [] => s
  | s, (command, answer) :: rest =>
    let r := read command answer
    if r.text = "" then collect s rest
    else
      let s := s.note r
      if candidate tables r then
        collect { s with
          incompleteCandidates := s.incompleteCandidates ++ [(r.command, r.text.length)] } rest
      else if usable tables r then
        if s.bestUsable.length < r.text.length then
          { s with bestUsable := r.text, usedUsable := some r.command }
        else s
      else collect s rest

/-- `max(candidates, key=length)`: the first of the longest. -/
def longestCandidate (candidates : List (String × Nat)) : Option (String × Nat) :=
  candidates.foldl (keepLonger Prod.snd fun _ => true) none

/-- What is selected after the loop, with the command that it is named after. -/
def select (s : Loop) : String × Option String :=
  let selected := (s.bestUsable, s.usedUsable)
  -- for devices that mix error messages into the configuration
  let selected :=
    if selected.1.length < 80 ∧ 300 ≤ s.bestAny.length ∧
        looksLikeConfig tables s.bestAny = true ∧ hasConfigTerminator s.bestAny = true then
      (s.bestAny, s.usedAny)
    else selected
  -- for devices that do not end the configuration with `return`
  if looksLikeConfig tables selected.1 then selected
  else
    match longestCandidate s.incompleteCandidates with
    | some (command, length) =>
      if minIncompleteFallbackLen ≤ length ∧ looksLikeConfig tables s.bestAny = true then
        (s.bestAny, some command)
      else selected
    | none => selected

def successMessage (nomeDispositivo used : String) : String :=
  let msg := "Backup de '" ++ nomeDispositivo ++ "' concluido!"
  if used ≠ "" then msg ++ " (" ++ used ++ ")" else msg

def failureMessage (candidates : List (String × Nat)) : String :=
  let msg := "Falha durante a coleta do backup: configuracao retornada muito curta/vazia."
  if candidates ≠ [] then
    let shown := candidates.drop (candidates.length - 3)
    msg ++ " Retornos incompletos ignorados: " ++
      ", ".intercalate (shown.map fun c => c.1 ++ "=" ++ toString c.2) ++ "."
  else msg

/-- The script after the login, with the answers to its commands. -/
def realizarBackup (nomeDispositivo : String) (answers : List Answer) : Outcome :=
  let s := collect tables {} (commands.zip answers)
  let selected := select tables s
  if looksLikeConfig tables selected.1 then
    .stored (successMessage nomeDispositivo (selected.2.getD "")) selected.1
  else .failed (failureMessage s.incompleteCandidates)

/-! ## What is owed -/

/-- The answers that are not empty. -/
def readings (answers : List Answer) : List Reading :=
  ((commands.zip answers).map fun a => read a.1 a.2).filter (·.text != "")

/-- The first usable answer is stored; without one the longest incomplete configuration, if it
has five thousand characters; else the backup fails. -/
structure Owed (nomeDispositivo : String) (rs : List Reading) (outcome : Outcome) : Prop where
  complete : ∀ before r after, First (usable tables) rs before r after →
    outcome = .stored (successMessage nomeDispositivo r.command) r.text
  incomplete : (∀ r ∈ rs, usable tables r = false) → ∀ before r after,
    FirstLongest (·.text.length) (candidate tables) rs before r after →
    minIncompleteFallbackLen ≤ r.text.length →
    outcome = .stored (successMessage nomeDispositivo r.command) r.text
  fails : (∀ r ∈ rs, usable tables r = false) →
    (∀ r ∈ rs, candidate tables r = true → r.text.length < minIncompleteFallbackLen) →
    ∃ reason, outcome = .failed reason

/-- Without a usable answer, the incomplete configuration that is owed is the longest of all
answers, and the first of that length. -/
def Unsuppressed (rs : List Reading) : Prop :=
  (∀ r ∈ rs, usable tables r = false) → ∀ before r after,
    FirstLongest (·.text.length) (candidate tables) rs before r after →
    minIncompleteFallbackLen ≤ r.text.length →
    FirstLongest (·.text.length) (fun _ => true) rs before r after

/-! ## The loop as a scan -/

/-- What one answer that is not usable does to the variables. -/
def Loop.pass (s : Loop) (r : Reading) : Loop :=
  if candidate tables r then
    { s.note r with
      incompleteCandidates := s.incompleteCandidates ++ [(r.command, r.text.length)] }
  else s.note r

/-- The loop on the answers that are not empty. -/
def scan : Loop → List Reading → Loop
  | s, [] => s
  | s, r :: rs =>
    if usable tables r then
      if s.bestUsable.length < r.text.length then
        { s.note r with bestUsable := r.text, usedUsable := some r.command }
      else s.note r
    else scan (s.pass tables r) rs

theorem note_bestUsable (s : Loop) (r : Reading) : (s.note r).bestUsable = s.bestUsable := by
  unfold Loop.note
  split <;> rfl

theorem note_incompleteCandidates (s : Loop) (r : Reading) :
    (s.note r).incompleteCandidates = s.incompleteCandidates := by
  unfold Loop.note
  split <;> rfl

/-- An incomplete answer is not usable. -/
theorem not_usable_of_candidate {r : Reading} (h : candidate tables r = true) :
    usable tables r = false := by
  simp only [candidate, Bool.and_eq_true, Bool.not_eq_true'] at h
  simp [usable, h.2]

theorem collect_eq (s : Loop) (answers : List (String × Answer)) :
    collect tables s answers =
      scan tables s ((answers.map fun a => read a.1 a.2).filter (·.text != "")) := by
  induction answers generalizing s with
  | nil => rfl
  | cons a rest ih =>
    obtain ⟨command, answer⟩ := a
    rw [collect, List.map_cons]
    generalize read command answer = r
    dsimp only
    by_cases htext : r.text = ""
    · rw [if_pos htext, List.filter_cons_of_neg (by simp [htext])]
      exact ih s
    · rw [if_neg htext, List.filter_cons_of_pos (by simpa using htext), scan]
      by_cases hcandidate : candidate tables r = true
      · rw [if_pos hcandidate, not_usable_of_candidate tables hcandidate,
          if_neg Bool.false_ne_true, Loop.pass, if_pos hcandidate, ← ih,
          note_incompleteCandidates]
      · rw [if_neg hcandidate, Loop.pass, if_neg hcandidate, note_bestUsable]
        split
        · rfl
        · exact ih _

theorem scan_append {before : List Reading} (h : ∀ r ∈ before, usable tables r = false) (s : Loop)
    (rest : List Reading) :
    scan tables s (before ++ rest) = scan tables (before.foldl (Loop.pass tables) s) rest := by
  induction before generalizing s with
  | nil => rfl
  | cons r before ih =>
    rw [List.cons_append, scan, h r (List.mem_cons_self ..), if_neg Bool.false_ne_true,
      List.foldl_cons]
    exact ih (fun b hb => h b (List.mem_cons_of_mem _ hb)) _

/-- The longest answer as the variables of the loop. -/
def anyOf : Option Reading → String × Option String
  | some r => (r.text, some r.command)
  | none => ("", none)

/-- The variables of the loop hold what they are named after. -/
structure Holds (rs : List Reading) (s : Loop) : Prop where
  bestUsable : s.bestUsable = ""
  any : (s.bestAny, s.usedAny) = anyOf (rs.foldl (keepLonger (·.text.length) fun _ => true) none)
  candidates : s.incompleteCandidates =
    (rs.filter (candidate tables)).map fun r => (r.command, r.text.length)

variable {tables}

theorem Holds.note {s : Loop} {rs : List Reading} (h : Holds tables rs s) {r : Reading}
    (hr : r.text ≠ "") :
    ((s.note r).bestAny, (s.note r).usedAny) =
      anyOf ((rs ++ [r]).foldl (keepLonger (·.text.length) fun _ => true) none) := by
  have hany := h.any
  have hpos : 0 < r.text.length :=
    Nat.pos_of_ne_zero fun hzero => hr (String.length_eq_zero_iff.mp hzero)
  rw [List.foldl_append, List.foldl_cons, List.foldl_nil]
  generalize rs.foldl (keepLonger (·.text.length) fun _ => true) none = best at hany ⊢
  have hlonger : best.all (·.text.length < r.text.length) =
      decide (s.bestAny.length < r.text.length) := by
    have htext : s.bestAny = (anyOf best).1 := congrArg Prod.fst hany
    rw [htext]
    cases best with
    | none => exact (decide_eq_true (show ("" : String).length < _ from hpos)).symm
    | some b => rfl
  rw [keepLonger, hlonger, Bool.true_and, Loop.note]
  split
  · rename_i hlt
    rw [if_pos (decide_eq_true hlt)]
    rfl
  · rename_i hlt
    rw [if_neg (by simpa using hlt)]
    exact hany

theorem Holds.pass {s : Loop} {rs : List Reading} (h : Holds tables rs s) {r : Reading}
    (hr : r.text ≠ "") : Holds tables (rs ++ [r]) (s.pass tables r) := by
  have hany := h.note hr
  rw [Loop.pass]
  by_cases hcandidate : candidate tables r = true
  · rw [if_pos hcandidate]
    refine ⟨(note_bestUsable s r).trans h.bestUsable, hany, ?_⟩
    rw [List.filter_append, List.map_append, ← h.candidates, List.filter_cons_of_pos hcandidate]
    rfl
  · rw [if_neg hcandidate]
    refine ⟨(note_bestUsable s r).trans h.bestUsable, hany, ?_⟩
    rw [note_incompleteCandidates, List.filter_append, List.filter_cons_of_neg hcandidate,
      h.candidates]
    simp

/-- What the variables hold after answers of which none is usable. -/
theorem holds_foldl {rs : List Reading} (h : ∀ r ∈ rs, r.text ≠ "") :
    Holds tables rs (rs.foldl (Loop.pass tables) {}) := by
  induction rs using List.reverseRecOn with
  | nil => exact ⟨rfl, rfl, rfl⟩
  | append_singleton rs r ih =>
    rw [List.foldl_append]
    exact (ih fun b hb => h b (List.mem_append_left _ hb)).pass
      (h r (List.mem_append_right _ (List.mem_singleton.mpr rfl)))

/-- The longest answer is one of them. -/
theorem mem_of_anyOf {rs : List Reading} {text : String} {used : Option String}
    (h : (text, used) = anyOf (rs.foldl (keepLonger (·.text.length) fun _ => true) none))
    (hne : text ≠ "") : ∃ r ∈ rs, r.text = text := by
  cases hlongest : rs.foldl (keepLonger (·.text.length) fun _ => true) none with
  | none =>
    rw [hlongest] at h
    exact absurd (congrArg Prod.fst h) hne
  | some r =>
    rw [hlongest] at h
    exact ⟨r, (Longest.foldl _ _ rs).mem r hlongest, (congrArg Prod.fst h).symm⟩

/-- What looks like a configuration is not invalid. -/
theorem not_invalid_of_looksLikeConfig {text : String} (h : looksLikeConfig tables text = true) :
    looksInvalid tables text = false := by
  unfold looksLikeConfig at h
  dsimp only at h
  split at h
  · cases h
  · rename_i hvalid
    rw [looksInvalid, tables.lower_lower] at hvalid
    exact Bool.eq_false_iff.mpr hvalid

theorem looksLikeConfig_empty : looksLikeConfig tables "" = false := by
  have hlower : tables.lower "" = "" := by
    rw [tables.lower_ascii "" (by simp)]
    decide
  unfold looksLikeConfig looksInvalid
  simp only [hlower]
  decide

/-- A configuration with its terminator is usable. -/
theorem usable_of_terminator {r : Reading} (hlooks : looksLikeConfig tables r.text = true)
    (hne : r.text ≠ "") (hend : hasConfigTerminator r.text = true) : usable tables r = true := by
  rw [usable, Reading.complete, isCompleteConfigOutput, hend, hlooks,
    not_invalid_of_looksLikeConfig hlooks, bne_iff_ne.mpr hne]
  simp

theorem candidate_of_not_usable {r : Reading} (hlooks : looksLikeConfig tables r.text = true)
    (h : usable tables r = false) : candidate tables r = true := by
  rw [usable, hlooks, not_invalid_of_looksLikeConfig hlooks] at h
  rw [candidate, hlooks, not_invalid_of_looksLikeConfig hlooks]
  simpa using h

/-! ## What is selected -/

theorem longestCandidate_eq (rs : List Reading) :
    longestCandidate ((rs.filter (candidate tables)).map fun r => (r.command, r.text.length)) =
      (rs.foldl (keepLonger (·.text.length) (candidate tables)) none).map fun r =>
        (r.command, r.text.length) := by
  have hsize (r : Reading) : (r.command, r.text.length).2 = (fun r : Reading => r.text.length) r :=
    rfl
  have hmap := foldl_keepLonger_map (fun r : Reading => (r.command, r.text.length)) Prod.snd
    hsize (rs.filter (candidate tables)) none
  rw [foldl_keepLonger_filter rs none] at hmap
  exact hmap

/-- What the first fallback asks of the longest answer makes it usable. -/
theorem usable_of_first_fallback {rs : List Reading} {bestAny : String} {usedAny : Option String}
    (hany : (bestAny, usedAny) =
      anyOf (rs.foldl (keepLonger (·.text.length) fun _ => true) none))
    (hlength : 300 ≤ bestAny.length) (hlooks : looksLikeConfig tables bestAny = true)
    (hend : hasConfigTerminator bestAny = true) :
    ∃ r ∈ rs, usable tables r = true ∧ 300 ≤ r.text.length := by
  have hne : bestAny ≠ "" := by
    rintro rfl
    exact absurd hlength (by decide)
  obtain ⟨r, hr, rfl⟩ := mem_of_anyOf hany hne
  exact ⟨r, hr, usable_of_terminator hlooks hne hend, hlength⟩

/-- The first usable answer is selected: the longest answer is none that could replace it. -/
theorem select_of_usable {before : List Reading} {r : Reading}
    (hbefore : ∀ b ∈ before, usable tables b = false) (hr : usable tables r = true) {s : Loop}
    (hbest : s.bestUsable = r.text) (hused : s.usedUsable = some r.command)
    (hany : (s.bestAny, s.usedAny) =
      anyOf ((before ++ [r]).foldl (keepLonger (·.text.length) fun _ => true) none)) :
    select tables s = (r.text, some r.command) := by
  have hlooks : looksLikeConfig tables r.text = true := by
    rw [usable, Bool.and_eq_true] at hr
    exact hr.2
  have hfallback : ¬ (s.bestUsable.length < 80 ∧ 300 ≤ s.bestAny.length ∧
      looksLikeConfig tables s.bestAny = true ∧ hasConfigTerminator s.bestAny = true) := by
    rintro ⟨hshort, hlength, hlooksAny, hend⟩
    obtain ⟨b, hb, husable, hlong⟩ := usable_of_first_fallback hany hlength hlooksAny hend
    rcases List.mem_append.mp hb with hb | hb
    · rw [hbefore b hb] at husable
      cases husable
    · rw [List.mem_singleton.mp hb] at hlong
      rw [hbest] at hshort
      omega
  rw [hbest] at hfallback
  unfold select
  simp only [hbest, hused, if_neg hfallback, hlooks, if_true]

/-- Without a usable answer the longest candidate decides. -/
theorem select_of_not_usable {rs : List Reading} (hnone : ∀ r ∈ rs, usable tables r = false)
    {s : Loop} (hs : Holds tables rs s) :
    select tables s =
      match rs.foldl (keepLonger (·.text.length) (candidate tables)) none with
      | some c =>
        if minIncompleteFallbackLen ≤ c.text.length ∧ looksLikeConfig tables s.bestAny = true then
          (s.bestAny, some c.command)
        else ("", s.usedUsable)
      | none => ("", s.usedUsable) := by
  have hfallback : ¬ (s.bestUsable.length < 80 ∧ 300 ≤ s.bestAny.length ∧
      looksLikeConfig tables s.bestAny = true ∧ hasConfigTerminator s.bestAny = true) := by
    rintro ⟨-, hlength, hlooks, hend⟩
    obtain ⟨b, hb, husable, -⟩ := usable_of_first_fallback hs.any hlength hlooks hend
    rw [hnone b hb] at husable
    cases husable
  rw [hs.bestUsable] at hfallback
  unfold select
  simp only [hs.bestUsable, hs.candidates, longestCandidate_eq, if_neg hfallback,
    looksLikeConfig_empty, Bool.false_eq_true, if_false]
  cases rs.foldl (keepLonger (·.text.length) (candidate tables)) none <;> rfl

/-- The longest answer looks like a configuration exactly when it is the longest candidate. -/
theorem looksLikeConfig_bestAny_iff {rs : List Reading}
    (hnone : ∀ r ∈ rs, usable tables r = false) {s : Loop} (hs : Holds tables rs s)
    {before after : List Reading} {c : Reading}
    (hc : FirstLongest (·.text.length) (candidate tables) rs before c after) :
    looksLikeConfig tables s.bestAny = true ↔
      FirstLongest (·.text.length) (fun _ => true) rs before c after := by
  have hany := hs.any
  constructor
  · intro hlooks
    cases hlongest : rs.foldl (keepLonger (·.text.length) fun _ => true) none with
    | none =>
      have hmem := foldl_keepLonger_eq_none hlongest c hc.mem
      cases hmem
    | some r =>
      rw [hlongest] at hany
      obtain ⟨before', after', hr⟩ := exists_firstLongest hlongest
      rw [show s.bestAny = r.text from congrArg Prod.fst hany] at hlooks
      have hcandidate := candidate_of_not_usable hlooks (hnone r hr.mem)
      obtain ⟨rfl, rfl, rfl⟩ := hc.unique (hr.restrict hcandidate)
      exact hr
  · intro hlongest
    rw [hlongest.foldl_eq] at hany
    rw [show s.bestAny = c.text from congrArg Prod.fst hany]
    have hlooks := hc.holds
    simp only [candidate, Bool.and_eq_true] at hlooks
    exact hlooks.1.2

theorem bestAny_eq {rs : List Reading} {s : Loop} (hs : Holds tables rs s)
    {before after : List Reading} {c : Reading}
    (hc : FirstLongest (·.text.length) (fun _ => true) rs before c after) :
    s.bestAny = c.text := by
  have hany := hs.any
  rw [hc.foldl_eq] at hany
  exact congrArg Prod.fst hany

/-! ## The law -/

variable (tables)

theorem realizarBackup_eq (nomeDispositivo : String) (answers : List Answer) :
    realizarBackup tables nomeDispositivo answers =
      let s := scan tables {} (readings answers)
      let selected := select tables s
      if looksLikeConfig tables selected.1 then
        .stored (successMessage nomeDispositivo (selected.2.getD "")) selected.1
      else .failed (failureMessage s.incompleteCandidates) := by
  rw [realizarBackup, collect_eq]
  rfl

theorem text_ne_of_mem_readings {answers : List Answer} {r : Reading}
    (h : r ∈ readings answers) : r.text ≠ "" := by
  simpa using (List.mem_filter.mp h).2

/-- The first usable answer is stored. -/
theorem stored_of_usable (nomeDispositivo : String) {answers : List Answer}
    {before after : List Reading} {r : Reading}
    (h : First (usable tables) (readings answers) before r after) :
    realizarBackup tables nomeDispositivo answers =
      .stored (successMessage nomeDispositivo r.command) r.text := by
  have hne : ∀ b ∈ before, b.text ≠ "" := fun b hb =>
    text_ne_of_mem_readings (h.split ▸ List.mem_append_left _ hb)
  have hs := @holds_foldl tables _ hne
  have hr : r.text ≠ "" := text_ne_of_mem_readings h.mem
  have hlooks : looksLikeConfig tables r.text = true := by
    have husable := h.holds
    rw [usable, Bool.and_eq_true] at husable
    exact husable.2
  have hpos : (before.foldl (Loop.pass tables) {}).bestUsable.length < r.text.length := by
    rw [hs.bestUsable]
    exact Nat.pos_of_ne_zero fun hzero => hr (String.length_eq_zero_iff.mp hzero)
  have hscan : scan tables {} (readings answers) =
      { (before.foldl (Loop.pass tables) {}).note r with
        bestUsable := r.text, usedUsable := some r.command } := by
    rw [h.split, scan_append tables h.fails, scan, if_pos h.holds, if_pos hpos]
  have hselect : select tables (scan tables {} (readings answers)) = (r.text, some r.command) := by
    rw [hscan]
    exact select_of_usable h.fails h.holds rfl rfl (hs.note hr)
  rw [realizarBackup_eq]
  simp only [hselect, hlooks, if_true, Option.getD_some]

/-- Without a usable answer, and without a longest candidate of five thousand characters that is
the longest answer, the backup fails. -/
theorem outcome_of_not_usable (nomeDispositivo : String) {answers : List Answer}
    (hnone : ∀ r ∈ readings answers, usable tables r = false) :
    (∀ before c after,
        FirstLongest (·.text.length) (candidate tables) (readings answers) before c after →
        minIncompleteFallbackLen ≤ c.text.length →
        FirstLongest (·.text.length) (fun _ => true) (readings answers) before c after →
        realizarBackup tables nomeDispositivo answers =
          .stored (successMessage nomeDispositivo c.command) c.text) ∧
      ((∀ before c after,
        FirstLongest (·.text.length) (candidate tables) (readings answers) before c after →
        minIncompleteFallbackLen ≤ c.text.length →
        ¬ FirstLongest (·.text.length) (fun _ => true) (readings answers) before c after) →
        ∃ reason, realizarBackup tables nomeDispositivo answers = .failed reason) := by
  have hs := @holds_foldl tables (readings answers)
    fun r hr => text_ne_of_mem_readings hr
  have hscan : scan tables {} (readings answers) =
      (readings answers).foldl (Loop.pass tables) {} := by
    have h := scan_append tables hnone {} []
    rwa [List.append_nil] at h
  have hselect := select_of_not_usable hnone hs
  rw [realizarBackup_eq, hscan]
  dsimp only
  constructor
  · intro before c after hc hlength hlongest
    have hlooks := (looksLikeConfig_bestAny_iff hnone hs hc).mpr hlongest
    rw [hc.foldl_eq] at hselect
    dsimp only at hselect
    rw [if_pos ⟨hlength, hlooks⟩] at hselect
    rw [hselect, if_pos hlooks, bestAny_eq hs hlongest]
    rfl
  · intro hlimit
    have hempty : (select tables ((readings answers).foldl (Loop.pass tables) {})).1 = "" := by
      rw [hselect]
      cases hlongest :
          (readings answers).foldl (keepLonger (·.text.length) (candidate tables)) none with
      | none => rfl
      | some c =>
        obtain ⟨before, after, hc⟩ := exists_firstLongest hlongest
        dsimp only
        rw [if_neg]
        rintro ⟨hlength, hlooks⟩
        exact hlimit before c after hc hlength
          ((looksLikeConfig_bestAny_iff hnone hs hc).mp hlooks)
    rw [hempty, looksLikeConfig_empty, if_neg Bool.false_ne_true]
    exact ⟨_, rfl⟩

/-- What is owed is done exactly when no other answer suppresses the incomplete one. -/
theorem owed_iff (nomeDispositivo : String) (answers : List Answer) :
    Owed tables nomeDispositivo (readings answers)
        (realizarBackup tables nomeDispositivo answers) ↔
      Unsuppressed tables (readings answers) := by
  constructor
  · intro h hnone before c after hc hlength
    by_contra hlongest
    have hfailed := (outcome_of_not_usable tables nomeDispositivo hnone).2
      fun before' c' after' hc' _ hlongest' => hlongest (by
        obtain ⟨rfl, rfl, rfl⟩ := hc.unique hc'
        exact hlongest')
    obtain ⟨reason, hreason⟩ := hfailed
    rw [h.incomplete hnone before c after hc hlength] at hreason
    cases hreason
  · intro h
    refine ⟨fun before r after hr => stored_of_usable tables nomeDispositivo hr,
      fun hnone before c after hc hlength => ?_, fun hnone hshort => ?_⟩
    · exact (outcome_of_not_usable tables nomeDispositivo hnone).1 before c after hc hlength
        (h hnone before c after hc hlength)
    · refine (outcome_of_not_usable tables nomeDispositivo hnone).2
        fun before c after hc hlength => ?_
      have hlt := hshort c hc.mem hc.holds
      omega

/-! ## A longer answer that is invalid -/

/-- The characters that the clean-up looks for. -/
def isNoise (c : Char) : Bool :=
  isSpace c || ['\x1b', backspace, '\r', '\n', '>', '#', ':'].contains c

/-- A text without them is stored as it came. -/
theorem stripCommandNoise_plain {text command : String}
    (hplain : ∀ c ∈ text.toList, isNoise c = false)
    (hcommand : ¬ command.toList <+: text.toList) : stripCommandNoise text command = text := by
  have hnot {p : Char → Bool} (hp : ∀ c, isNoise c = false → p c = false) :
      ∀ c ∈ text.toList, p c = false := fun c hc => hp c (hplain c hc)
  have hspace : ∀ c ∈ text.toList, isSpace c = false :=
    hnot fun c hc => by simp [isNoise] at hc; exact hc.1
  have hcleaned : cleanTerminalText text = text := by
    have hansi : ansiRe.sub "" text = text :=
      Regex.Needs.sub_eq_self (p := (· == '\x1b')) (.left _ (.left _ (.chr fun _ h => h))) ""
        (hnot fun c hc => by simp [isNoise] at hc; simp [hc])
    have hbackspace : backspace ∉ text.toList := fun hmem => by
      have h := hplain _ hmem
      revert h
      decide
    rw [cleanTerminalText, cleanOnce_eq, hansi,
      erasePairs_of_not_hasPair (not_hasPair_of_notMem hbackspace),
      List.filter_eq_self.mpr fun c hc => ?_, String.ofList_toList]
    have h := hplain c hc
    simp [isNoise] at h
    simp [h]
  have hstrip : strip text = text := by
    rw [strip, stripChars_eq_self hspace, String.ofList_toList]
  have hlstrip : lstrip text = text := by
    have hdrop : text.toList.dropWhile isSpace = text.toList := by
      cases hcs : text.toList with
      | nil => rfl
      | cons c cs =>
        rw [hcs] at hspace
        rw [List.dropWhile_cons, hspace c (List.mem_cons_self ..), if_neg Bool.false_ne_true]
    rw [lstrip, hdrop, String.ofList_toList]
  have hecho : (commandEchoRe command).sub "" text = text :=
    Regex.Needs.sub_eq_self (p := (· == '\n'))
      (.right _ (.right _ (.right _ (.left _ (.left _ (.chr fun _ h => h)))))) ""
      (hnot fun c hc => by simp [isNoise] at hc; simp [hc])
  have hprompt : promptCommandLine.sub "" text = text :=
    Regex.Needs.sub_eq_self (p := fun c => c == '>' || c == '#')
      (.right _ (.left _ (.both
        (.right _ (.right _ (.right _ (.right _ (.left _ (.left _ (.chr fun c h => by
          rw [show (c == '>') = true from h, Bool.true_or])))))))
        (.right _ (.right _ (.left _ (.chr fun c h => by simpa using h))))))) ""
      (hnot fun c hc => by simp [isNoise] at hc; simp [hc])
  unfold stripCommandNoise
  simp only [hcleaned, hstrip, hcommand, and_false, if_false, hecho, hlstrip, ite_self, hprompt]

/-- A word and a number of ones. -/
def ones (word : String) (n : Nat) : String :=
  String.ofList (word.toList ++ List.replicate n '1')

theorem toList_ones (word : String) (n : Nat) :
    (ones word n).toList = word.toList ++ List.replicate n '1' := String.toList_ofList

theorem length_ones (word : String) (n : Nat) : (ones word n).length = word.length + n := by
  rw [← String.length_toList, toList_ones, List.length_append, List.length_replicate,
    String.length_toList]

theorem mem_ones {word : String} {n : Nat} {c : Char} (h : c ∈ (ones word n).toList) :
    c ∈ '1' :: word.toList := by
  rw [toList_ones] at h
  rcases List.mem_append.mp h with h | h
  · exact List.mem_cons_of_mem _ h
  · rw [List.eq_of_mem_replicate h]
    exact List.mem_cons_self ..

theorem lower_ones {word : String} (hword : word.toList.map Char.toLower = word.toList) (n : Nat) :
    CharTables.ascii.lower (ones word n) = ones word n := by
  show asciiLower (ones word n) = ones word n
  rw [asciiLower, toList_ones, List.map_append, hword, List.map_replicate]
  rfl

theorem stripCommandNoise_ones {word command : String} {c d : Char} {cs ds : List Char}
    (hword : word.toList = c :: cs) (hcommand : command.toList = d :: ds) (hne : d ≠ c)
    (hplain : ('1' :: word.toList).all (fun c => !isNoise c) = true) (n : Nat) :
    stripCommandNoise (ones word n) command = ones word n := by
  refine stripCommandNoise_plain (fun e he => ?_) ?_
  · simpa using List.all_eq_true.mp hplain e (mem_ones he)
  · rw [toList_ones, hword, hcommand]
    rintro ⟨rest, hrest⟩
    exact hne (List.cons.inj hrest).1

theorem stripCommandNoise_empty {command : String} (h : command ≠ "") :
    stripCommandNoise "" command = "" := by
  refine stripCommandNoise_plain (by simp) fun hprefix => h ?_
  exact String.toList_eq_nil_iff.mp (List.prefix_nil.mp hprefix)

theorem contains_ones (word : String) (n : Nat) : contains (ones word n) word = true :=
  decide_eq_true ⟨[], List.replicate n '1', by rw [toList_ones]; rfl⟩

theorem not_contains_ones {word marker : String} {c : Char} (hc : c ∈ marker.toList)
    (hword : ('1' :: word.toList).contains c = false) (n : Nat) :
    contains (ones word n) marker = false :=
  decide_eq_false fun h => by
    have hmem := List.contains_iff_mem.mpr (mem_ones (h.subset hc))
    rw [hword] at hmem
    cases hmem

/-- The start of a configuration and a longer error, and nothing else. -/
def suppressingAnswers (m n : Nat) : List Answer :=
  [⟨false, ones "vlan" m⟩, ⟨true, ones "unrecognized" n⟩, ⟨true, ""⟩, ⟨true, ""⟩, ⟨true, ""⟩,
    ⟨true, ""⟩, ⟨true, ""⟩]

def shortReading (m : Nat) : Reading := ⟨"display current-configuration", false, ones "vlan" m⟩

def errorReading (n : Nat) : Reading := ⟨"display saved-configuration", true, ones "unrecognized" n⟩

theorem readings_suppressing (m n : Nat) :
    readings (suppressingAnswers m n) = [shortReading m, errorReading n] := by
  have hshort : read "display current-configuration" ⟨false, ones "vlan" m⟩ = shortReading m := by
    rw [read, stripCommandNoise_ones rfl rfl (by decide) (by decide) m]
    rfl
  have herror : read "display saved-configuration" ⟨true, ones "unrecognized" n⟩ =
      errorReading n := by
    rw [read, stripCommandNoise_ones rfl rfl (by decide) (by decide) n]
    rfl
  have hempty {command : String} (h : command ≠ "") : (read command ⟨true, ""⟩).text = "" :=
    stripCommandNoise_empty h
  have hne (word : String) (h : 0 < word.length) (k : Nat) : ones word k ≠ "" := fun heq => by
    have hlength := congrArg String.length heq
    rw [length_ones] at hlength
    have hzero : "".length = 0 := rfl
    omega
  have hkeepShort : (shortReading m).text ≠ "" := hne "vlan" (by decide) m
  have hkeepError : (errorReading n).text ≠ "" := hne "unrecognized" (by decide) n
  simp only [readings, commands, suppressingAnswers, List.zip_cons_cons, List.zip_nil_right,
    List.map_cons, List.map_nil, hshort, herror]
  simp [hkeepShort, hkeepError, hempty]

theorem looksInvalid_short (m : Nat) : looksInvalid .ascii (ones "vlan" m) = false := by
  rw [looksInvalid, lower_ones (by decide), containsAny]
  simp only [errorMarkers, List.any_cons, List.any_nil, Bool.or_false, Bool.or_eq_false_iff]
  refine ⟨not_contains_ones (c := 'u') ?_ ?_ m, not_contains_ones (c := 'i') ?_ ?_ m,
    not_contains_ones (c := 'i') ?_ ?_ m, not_contains_ones (c := 'p') ?_ ?_ m,
    not_contains_ones (c := 'u') ?_ ?_ m, not_contains_ones (c := 'e') ?_ ?_ m⟩ <;> decide

theorem looksLikeConfig_short {m : Nat} (hm : 5000 ≤ m) :
    looksLikeConfig .ascii (ones "vlan" m) = true := by
  have hpre : contains (ones "vlan" m) "<pre-config>" = false :=
    not_contains_ones (c := '<') (by decide) (by decide) m
  have hlength : minFullConfigLen ≤ (ones "vlan" m).length := by
    rw [length_ones, minFullConfigLen]
    omega
  have hcount : 1 ≤ configMarkers.countP (contains (ones "vlan" m)) :=
    List.countP_pos_iff.mpr ⟨"vlan", by decide, contains_ones "vlan" m⟩
  unfold looksLikeConfig
  simp only [lower_ones (by decide : "vlan".toList.map Char.toLower = "vlan".toList),
    looksInvalid_short, hpre, hlength, hcount, Bool.false_and, Bool.false_eq_true, if_false,
    decide_true, Bool.and_self, if_true]

theorem not_complete_short (m : Nat) : (shortReading m).complete = false := by
  have hend : hasConfigTerminator (ones "vlan" m) = false := by
    refine Regex.Needs.foundFrom_eq_false (p := Regex.sameLetter 'r')
      (.right _ (.right _ (.left _ (.left _ (.chr fun _ h => h))))) (fun c hc => ?_) none
    have hall : ('1' :: "vlan".toList).all (fun c => !Regex.sameLetter 'r' c) = true := by decide
    simpa using List.all_eq_true.mp hall c (mem_ones hc)
  rw [Reading.complete, isCompleteConfigOutput, shortReading, hend]
  simp

theorem looksInvalid_error (n : Nat) : looksInvalid .ascii (ones "unrecognized" n) = true := by
  rw [looksInvalid, lower_ones (by decide)]
  exact List.any_eq_true.mpr ⟨"unrecognized", by decide, contains_ones "unrecognized" n⟩

/-- Five thousand characters of configuration are given up for an error message that is longer. -/
theorem suppressed : ¬ Owed .ascii "OLT 1" (readings (suppressingAnswers 5000 6000))
    (realizarBackup .ascii "OLT 1" (suppressingAnswers 5000 6000)) := by
  generalize hm : 5000 = m
  generalize hn : 6000 = n
  have hcandidate : candidate .ascii (shortReading m) = true := by
    have hlooks := looksLikeConfig_short (m := m) (by omega)
    rw [candidate, not_complete_short, shortReading, looksInvalid_short, hlooks]
    rfl
  have herror : looksInvalid .ascii (errorReading n).text = true := looksInvalid_error n
  have hnone : ∀ r ∈ readings (suppressingAnswers m n), usable .ascii r = false := by
    intro r hr
    rw [readings_suppressing] at hr
    rcases List.mem_cons.mp hr with rfl | hr
    · exact not_usable_of_candidate _ hcandidate
    · rw [List.mem_singleton.mp hr, usable, herror, Bool.not_true, Bool.and_false, Bool.false_and]
  have hlengths : (shortReading m).text.length < (errorReading n).text.length := by
    show (ones "vlan" m).length < (ones "unrecognized" n).length
    rw [length_ones, length_ones]
    have hvlan : "vlan".length = 4 := rfl
    omega
  have hlongest : FirstLongest (·.text.length) (candidate .ascii)
      (readings (suppressingAnswers m n)) [] (shortReading m) [errorReading n] := by
    refine ⟨readings_suppressing m n, hcandidate, by simp, fun r hr hkept => ?_⟩
    rw [List.mem_singleton.mp hr, candidate, herror, Bool.not_true, Bool.false_and,
      Bool.false_and] at hkept
    cases hkept
  intro h
  obtain ⟨reason, hreason⟩ := (outcome_of_not_usable .ascii "OLT 1" hnone).2
    fun before c after hc _ hall => by
      obtain ⟨rfl, rfl, rfl⟩ := hlongest.unique hc
      have hle := hall.longest _ (List.mem_singleton.mpr rfl) rfl
      exact absurd hlengths (Nat.not_lt.mpr hle)
  have hlong : minIncompleteFallbackLen ≤ (shortReading m).text.length := by
    show minIncompleteFallbackLen ≤ (ones "vlan" m).length
    rw [length_ones, minIncompleteFallbackLen]
    omega
  rw [h.incomplete hnone _ _ _ hlongest hlong] at hreason
  cases hreason

end BackupCenter.Olt.HuaweiOlt
