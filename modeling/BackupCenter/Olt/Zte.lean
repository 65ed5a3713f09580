import BackupCenter.Olt.Cleaning
import BackupCenter.Olt.Selection

/-!
# The ZTE script

The loop looks like that of the other command line scripts, with two differences: lines that
report an error are taken out of an answer that is a configuration without them, and whether the
prompt came back is logged but not tested.
-/
namespace BackupCenter.Olt.Zte

open BackupCenter.Lib

def errorMarkers : List String :=
  ["unknown command", "invalid command", "invalid input", "incomplete command",
    "parameter error", "unrecognized", "error 20200"]

def configMarkers : List String :=
  ["interface ", "pon-onu-mng", "pon-onu", "gpon-olt", "epon-olt", "vlan ", "service-port",
    "hostname ", "username ", "ip route", "interface vport", "config-version",
    "timestamp_write:", "operator-mode", "tacacs-server", "alarm enable", "crtv disable",
    "load-balance enable", "\nend"]

def weakConfigMarkers : List String := ["hostname ", "login authentication"]

def minMeaningfulConfigLen : Nat := 500

def commands : List String :=
  ["show startup-config", "show running-config", "show running-config all",
    "show configuration", "display current-configuration", "show config"]

/-- `(?m)^\s*end\s*$` -/
def endLineRe : Regex :=
  .inOrder [.lineStart, .star .space, .text "end", .star .space, .lineEnd]

/-- `^.*?command\s*` with the blanks of the command widened to `\s+`, and `.` any character. -/
def echoRe (command : String) : Regex :=
  .inOrder [.textStart, .few (.chr fun _ => true),
    .inOrder (command.toList.map fun c => if c = ' ' then .plus .space else .chr (· == c)),
    .star .space]

variable (tables : CharTables)

/-- `(?m)^[ \t]*%[Ee]rror\s+\d+[^\r\n]*$` -/
def zteErrorLineRe : Regex :=
  .inOrder [.lineStart, .star (.oneOf " \t"), .text "%", .oneOf "Ee", .text "rror",
    .plus .space, .plus (.chr tables.isDigit), .star (.chr fun c => c != '\r' && c != '\n'),
    .lineEnd]

def looksInvalid (output : String) : Bool := containsAny (tables.lower output) errorMarkers

def stripZteErrorLines (output : String) : String := (zteErrorLineRe tables).sub "" output

def looksMeaningfulConfig (output : String) : Bool :=
  let txt := strip (clean output)
  if txt = "" then false
  else
    let low := tables.lower txt
    if looksInvalid tables low then false
    else
      let strongMarkers := configMarkers.filter (!weakConfigMarkers.contains ·)
      let strongCount := strongMarkers.countP (contains low)
      let lines := ((textLines txt).map strip).filter (· != "")
      if 3 ≤ strongCount && 80 ≤ txt.length then true
      else if 2 ≤ strongCount && minMeaningfulConfigLen ≤ txt.length then true
      else if endLineRe.found low && 1 ≤ strongCount then true
      else if 2000 ≤ txt.length && 1 ≤ strongCount then true
      -- the weak markers are counted too, but both ways out of their test return false
      else 20 ≤ lines.length && 1 ≤ strongCount

/-- The answer to a command as the loop judges it. -/
def judge (command : String) (answer : Answer) : Judged :=
  let txt := strip ((echoRe command).sub "" (strip answer.output))
  let invalid := looksInvalid tables txt
  let txtClean := if invalid then stripZteErrorLines tables txt else txt
  let meaningful := looksMeaningfulConfig tables txtClean
  let wasCleaned := invalid && meaningful
  { command, ok := answer.ok, text := if wasCleaned then txtClean else txt
    paged := false
    valid := !(invalid && !wasCleaned)
    meaningful }

def kept (j : Judged) : Bool := j.text != "" && j.valid

def accepted (j : Judged) : Bool := j.valid && j.meaningful

def offer (s : Best) (j : Judged) : Best :=
  if j.valid && s.best.length < j.text.length then
    { best := j.text, used := some j.command, bestValid := j.meaningful }
  else s

/-- The loop over the commands with the answers to them. -/
def collect : Best → List (String × Answer) → Best
  | s, [] => s
  | s, (command, answer) :: rest =>
    let j := judge tables command answer
    if j.text = "" then collect s rest
    else if accepted j then offer s j
    else collect (offer s j) rest

def successMessage (nomeDispositivo used : String) : String :=
  let msg := "Backup da OLT ZTE '" ++ nomeDispositivo ++ "' concluido!"
  if used ≠ "" then msg ++ " (" ++ used ++ ")" else msg

/-- The script after the login, with the answers to its commands. -/
def realizarBackup (nomeDispositivo : String) (answers : List Answer) : Outcome :=
  let s := collect tables {} (commands.zip answers)
  if s.bestValid then .stored (successMessage nomeDispositivo (s.used.getD "")) s.best
  else
    let msg := "Configuracao retornada muito curta/vazia."
    let used := s.used.getD ""
    .failed (if used ≠ "" then msg ++ " Ultimo comando util: " ++ used ++ "." else msg)

/-! ## The loop as a scan -/

def judged (answers : List Answer) : List Judged :=
  (commands.zip answers).map fun a => judge tables a.1 a.2

theorem looksMeaningfulConfig_empty : looksMeaningfulConfig tables "" = false := by
  have hempty : strip (clean "") = "" := by decide
  unfold looksMeaningfulConfig
  simp only [hempty, if_true]

/-- The text is the one that was found to be a configuration. -/
theorem text_ne_of_accepted (command : String) (answer : Answer)
    (h : accepted (judge tables command answer) = true) :
    (judge tables command answer).text ≠ "" := by
  intro htext
  simp only [accepted, judge] at h htext
  generalize strip ((echoRe command).sub "" (strip answer.output)) = txt at h htext
  cases hinvalid : looksInvalid tables txt with
  | true =>
    simp only [hinvalid, if_true, Bool.true_and, Bool.and_eq_true] at h htext
    rw [if_pos h.2] at htext
    rw [htext, looksMeaningfulConfig_empty] at h
    cases h.2
  | false =>
    simp only [hinvalid, Bool.false_and, Bool.false_eq_true, if_false, Bool.and_eq_true] at h htext
    rw [htext, looksMeaningfulConfig_empty] at h
    cases h.2

theorem kept_of_accepted (command : String) (answer : Answer)
    (h : accepted (judge tables command answer) = true) :
    kept (judge tables command answer) = true := by
  have htext := text_ne_of_accepted tables command answer h
  rw [accepted, Bool.and_eq_true] at h
  rw [kept, h.1, Bool.and_true]
  exact bne_iff_ne.mpr htext

theorem pos_of_kept (j : Judged) (h : kept j = true) : 0 < j.text.length := by
  simp only [kept, Bool.and_eq_true, bne_iff_ne] at h
  exact Nat.pos_of_ne_zero fun hzero => h.1 (String.length_eq_zero_iff.mp hzero)

/-- An offered answer is kept when it is longer. -/
theorem offer_eq {s : Best} {best : Option Judged} (hs : s = Best.of accepted best) {j : Judged}
    (htext : j.text ≠ "") :
    offer s j = Best.of accepted (keepLonger (·.text.length) kept best j) := by
  have hkept : kept j = j.valid := by rw [kept, bne_iff_ne.mpr htext, Bool.true_and]
  rw [Best.of_keepLonger kept accepted (pos_of_kept j), ← hs, hkept]
  unfold offer
  split
  · rename_i hoffer
    rw [Bool.and_eq_true] at hoffer
    rw [accepted, hoffer.1, Bool.true_and]
  · rfl

theorem not_kept_of_empty {j : Judged} (htext : j.text = "") : kept j = false := by
  simp [kept, htext]

theorem collect_eq (answers : List (String × Answer)) (s : Best) (best : Option Judged)
    (hs : s = Best.of accepted best) :
    collect tables s answers =
      Best.of accepted (scanLongest (·.text.length) kept accepted best
        (answers.map fun a => judge tables a.1 a.2)) := by
  induction answers generalizing s best with
  | nil => exact hs
  | cons a rest ih =>
    obtain ⟨command, answer⟩ := a
    have hnonempty := text_ne_of_accepted tables command answer
    rw [collect, List.map_cons, scanLongest]
    generalize judge tables command answer = j at hnonempty ⊢
    by_cases htext : j.text = ""
    · rw [if_pos htext, if_neg fun haccepted => hnonempty haccepted htext,
        keepLonger_of_not_kept (not_kept_of_empty htext)]
      exact ih _ best hs
    · rw [if_neg htext]
      have hoffer := offer_eq hs htext
      split
      · exact hoffer
      · exact ih _ _ hoffer

/-- The outcome is read off the longest answer. -/
theorem follows (nomeDispositivo : String) (answers : List Answer) :
    Follows kept accepted (successMessage nomeDispositivo) (judged tables answers)
      (realizarBackup tables nomeDispositivo answers) := by
  refine Follows.of_scan (collect_eq tables (commands.zip answers) {} none rfl)
    (fun hvalid => ?_) fun hvalid => ?_
  · rw [realizarBackup, if_pos hvalid]
  · rw [realizarBackup, hvalid, if_neg Bool.false_ne_true]
    exact ⟨_, rfl⟩

theorem successMessage_inj {nomeDispositivo used used' : String} (hused : used ≠ "")
    (hused' : used' ≠ "")
    (h : successMessage nomeDispositivo used = successMessage nomeDispositivo used') :
    used = used' := by
  simp only [successMessage, if_pos hused, if_pos hused'] at h
  have hlists := congrArg String.toList h
  simp only [String.toList_append, List.append_assoc, List.append_cancel_left_eq,
    List.append_cancel_right_eq] at hlists
  exact String.toList_inj.mp hlists

theorem accepts (nomeDispositivo : String) (answers : List Answer) :
    Accepts kept accepted (successMessage nomeDispositivo) (judged tables answers) := by
  refine ⟨fun j hj haccepted => ?_, fun j hj => ?_, fun j hj _ _ i hi heq => ?_⟩
  · obtain ⟨a, _, rfl⟩ := List.mem_map.mp hj
    exact kept_of_accepted tables a.1 a.2 haccepted
  · obtain ⟨a, _, rfl⟩ := List.mem_map.mp hj
    have hpaged : (judge tables a.1 a.2).paged = false := rfl
    rw [Judged.good, accepted, hpaged, Bool.not_false, Bool.and_true, Bool.and_assoc]
  · obtain ⟨⟨c, x⟩, hc, rfl⟩ := List.mem_map.mp hj
    obtain ⟨⟨d, y⟩, hd, rfl⟩ := List.mem_map.mp hi
    have hne : ∀ command ∈ commands, command ≠ "" := by decide
    have hcommand : c = d := successMessage_inj (hne c (List.of_mem_zip hc).1)
      (hne d (List.of_mem_zip hd).1) heq
    subst hcommand
    rw [eq_of_mem_zip (by decide : commands.Nodup) hc hd]

end BackupCenter.Olt.Zte
