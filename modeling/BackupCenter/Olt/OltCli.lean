import BackupCenter.Olt.Cleaning
import BackupCenter.Olt.Selection

/-!
# The OLT command line scripts

`runOltCliBackup` is the part of the scripts' common function after the login: the answers to
the backup commands of a profile come in, and a stored file or the message of a failure goes out.
-/
namespace BackupCenter.Olt.OltCli

open BackupCenter.Lib

def baseErrorMarkers : List String :=
  ["unknown command", "invalid command", "invalid input", "incomplete command",
    "parameter error", "unrecognized command", "command not found", "no such command",
    "bad command", "% error", "syntax error"]

def baseConfigMarkers : List String :=
  ["hostname ", "sysname ", "interface ", "vlan ", "ip address", "ip route", "gpon", "epon",
    "xpon", "pon ", "onu ", "ont ", "service-port", "service port", "traffic-profile",
    "dba-profile", "line-profile", "srvprofile", "profile ", "snmp-server", "snmp-agent", "ntp",
    "aaa", "qos", "end", "return"]

structure OltCliProfile where
  backupCommands : List String
  configMarkers : List String := baseConfigMarkers
  errorMarkers : List String := baseErrorMarkers
  weakMarkers : List String := ["hostname ", "sysname "]
  minConfigLen : Int := 500
  minLines : Int := 8
  maxBackupAttempts : Int := 0
  verboseDiagnostics : Bool := false
  failureProbeCommands : List String := ["?", "help", "show ?"]

/-- What a call of the script states besides the profile. -/
structure Request where
  nomeDispositivo : String
  /-- `BACKUP_SCRIPT_VERBOSE_DIAGNOSTICS` -/
  verboseSetting : String := ""
  debug : Bool := false
  verboseDiagnostics : Bool := false

/-- `PAGER_RE` with the ignore-case flag. -/
def pagerRe : Regex :=
  .oneOfAll [.itext "--More--", .itext "---- More ----", .itext "[More]", .itext "--MORE--",
    .itext "<--- More --->", .itext "Press any key",
    .inOrder [.star .space, .star (.ichar '-'), .star .space, .itext "More", .star .space,
      .itext "(", .star .space, .itext "Press", .plus .space, .itext "'Q'", .plus .space,
      .itext "to", .plus .space, .alt (.itext "break") (.itext "quit"), .star .space,
      .itext ")", .star .space, .star (.ichar '-')]]

/-- `(?m)^\s*(end|return)\s*$` -/
def endLineRe : Regex :=
  .inOrder [.lineStart, .star .space, .alt (.text "end") (.text "return"), .star .space, .lineEnd]

def hasPagerMarker (output : String) : Bool := pagerRe.found output

variable (tables : CharTables) (profile : OltCliProfile)

def looksInvalid (output : String) : Bool :=
  containsAny (tables.lower output) profile.errorMarkers

/-- `re.sub(r"(?i)(password|passwd|community|secret|key)\s+\S+", r"\1 ***", text)` -/
def hideSecrets (text : String) : String :=
  Regex.subKeep
    (.oneOfAll [.itext "password", .itext "passwd", .itext "community", .itext "secret",
      .itext "key"])
    (.seq (.plus .space) (.plus (.chr fun c => !isSpace c))) " ***" text

def diagnosticPreview (output : String) (limit : Nat) : String :=
  let text := clean output
  let text := hideSecrets text
  let text := strip ((Regex.plus .space).sub " " text)
  if limit < text.length then
    String.ofList ((text.toList.take limit).rdropWhile isSpace) ++ "..."
  else text

def shouldLogDiagnostics (request : Request) : Bool :=
  profile.verboseDiagnostics ||
    ["1", "true", "yes", "sim"].contains (tables.lower (strip request.verboseSetting)) ||
    request.debug || request.verboseDiagnostics

def looksMeaningfulConfig (output : String) : Bool :=
  let txt := strip (clean output)
  if txt = "" then false
  else if hasPagerMarker txt then false
  else if looksInvalid tables profile txt then false
  else
    let low := tables.lower txt
    let strongMarkers := profile.configMarkers.filter (!profile.weakMarkers.contains ·)
    let strongCount := strongMarkers.countP (contains low)
    let lines := ((textLines txt).map strip).filter (· != "")
    if 3 ≤ strongCount && 120 ≤ txt.length then true
    else if 2 ≤ strongCount && profile.minConfigLen ≤ txt.length then true
    else if endLineRe.found low && 1 ≤ strongCount then true
    else if 2500 ≤ txt.length && 1 ≤ strongCount && profile.minLines ≤ lines.length then true
    -- the weak markers are counted too, but both ways out of their test return false
    else 20 ≤ lines.length && 1 ≤ strongCount

/-- The answer to a command as the loop judges it. -/
def judge (command : String) (answer : Answer) : Judged :=
  let txt := strip answer.output
  { command, ok := answer.ok, text := txt
    paged := hasPagerMarker txt
    valid := !looksInvalid tables profile txt
    meaningful := looksMeaningfulConfig tables profile txt }

/-- `complete and not invalid` of a text that is not empty. -/
def kept (j : Judged) : Bool := j.text != "" && (j.ok && !j.paged) && !(!j.valid || j.paged)

/-- `not invalid and meaningful` -/
def accepted (j : Judged) : Bool := !(!j.valid || j.paged) && ((j.ok && !j.paged) && j.meaningful)

/-- The variables of the loop. -/
structure Loop extends Best where
  attempted : Nat := 0
  failedSummaries : List String := []

/-- A command is sent; what the device rejects is named in the message of a failure. -/
def Loop.send (s : Loop) (verbose : Bool) (j : Judged) : Loop :=
  { s with
    attempted := s.attempted + 1
    failedSummaries :=
      if !verbose && (!j.valid || j.paged) && s.failedSummaries.length < 4 then
        s.failedSummaries ++ [j.command]
      else s.failedSummaries }

/-- The best so far is the longest one that is complete and not invalid. -/
def Loop.offer (s : Loop) (j : Judged) : Loop :=
  let invalid := !j.valid || j.paged
  let complete := j.ok && !j.paged
  if complete && !invalid && s.best.length < j.text.length then
    { s with best := j.text, used := some j.command, bestValid := complete && j.meaningful }
  else s

/-- The loop over the backup commands with the answers to them. -/
def collect (verbose : Bool) : Loop → List (String × Answer) → Loop
  | s, [] => s
  | s, (command, answer) :: rest =>
    if profile.maxBackupAttempts ≠ 0 ∧ profile.maxBackupAttempts ≤ s.attempted then s
    else
      let j := judge tables profile command answer
      let s := s.send verbose j
      if j.text = "" then collect verbose s rest
      else if accepted j then s.offer j
      else collect verbose (s.offer j) rest

/-- The first help text that the device gives. -/
def probeNote (probes : List (String × Answer)) : Option String :=
  probes.findSome? fun (command, answer) =>
    let txt := strip answer.output
    if txt ≠ "" ∧ looksInvalid tables profile txt = false then
      some (command ++ ": " ++ diagnosticPreview txt 160)
    else none

/-- The message of a failure. -/
def failureMessage (s : Loop) (probes : List (String × Answer)) : String :=
  let msg := "Configuracao retornada muito curta/vazia."
  let used := s.used.getD ""
  let msg :=
    if used ≠ "" then msg ++ " Ultimo comando util: " ++ used ++ "."
    else if s.failedSummaries ≠ [] then
      msg ++ " Comandos rejeitados pelo equipamento: " ++ ", ".intercalate s.failedSummaries ++
        (if s.failedSummaries.length < s.attempted then "..." else "") ++ "."
    else msg
  match probeNote tables profile probes with
  | some note => msg ++ " Ajuda do CLI: " ++ note
  | none => msg

/-- The message of a stored backup. -/
def successMessage (request : Request) (used : String) : String :=
  let msg := "Backup de '" ++ request.nomeDispositivo ++ "' concluido!"
  if used ≠ "" then msg ++ " (" ++ used ++ ")" else msg

/-- The answers are those to the backup commands of the profile, one after the other; `probes`
are those to its help commands. -/
def runOltCliBackup (request : Request) (answers probes : List Answer) : Outcome :=
  let s := collect tables profile (shouldLogDiagnostics tables profile request) {}
    (profile.backupCommands.zip answers)
  if s.bestValid then .stored (successMessage request (s.used.getD "")) s.best
  else .failed (failureMessage tables profile s (profile.failureProbeCommands.zip probes))

/-! ## The loop as a scan -/

/-- The commands that may be sent when `sent` have been, with the answers to them. -/
def attempts (sent : Nat) (answers : List (String × Answer)) : List (String × Answer) :=
  if profile.maxBackupAttempts = 0 then answers
  else answers.take (profile.maxBackupAttempts.toNat - sent)

def judged (answers : List Answer) : List Judged :=
  (attempts profile 0 (profile.backupCommands.zip answers)).map fun a =>
    judge tables profile a.1 a.2

variable {profile}

theorem attempts_cons_of_limit {sent : Nat} (h : profile.maxBackupAttempts ≠ 0)
    (hlimit : profile.maxBackupAttempts ≤ sent) (answers : List (String × Answer)) :
    attempts profile sent answers = [] := by
  rw [attempts, if_neg h, List.take_eq_nil_iff]
  exact .inl (by omega)

theorem attempts_cons {sent : Nat}
    (h : ¬ (profile.maxBackupAttempts ≠ 0 ∧ profile.maxBackupAttempts ≤ sent))
    (a : String × Answer) (rest : List (String × Answer)) :
    attempts profile sent (a :: rest) = a :: attempts profile (sent + 1) rest := by
  unfold attempts
  split
  · rfl
  · have hleft : profile.maxBackupAttempts.toNat - sent =
        profile.maxBackupAttempts.toNat - (sent + 1) + 1 := by omega
    rw [hleft, List.take_succ_cons]

variable (profile) in
theorem looksMeaningfulConfig_empty : looksMeaningfulConfig tables profile "" = false := by
  have hempty : strip (clean "") = "" := by decide
  unfold looksMeaningfulConfig
  simp only [hempty, if_true]

variable (profile) in
theorem text_ne_of_accepted (command : String) (answer : Answer)
    (h : accepted (judge tables profile command answer) = true) :
    (judge tables profile command answer).text ≠ "" := by
  intro htext
  have hmeaningful : (judge tables profile command answer).meaningful = false := by
    simp only [judge] at htext ⊢
    rw [htext, looksMeaningfulConfig_empty]
  rw [accepted, hmeaningful, Bool.and_false, Bool.and_false] at h
  cases h

variable (profile) in
theorem kept_of_accepted (command : String) (answer : Answer)
    (h : accepted (judge tables profile command answer) = true) :
    kept (judge tables profile command answer) = true := by
  have htext := text_ne_of_accepted tables profile command answer h
  simp only [accepted, Bool.and_eq_true] at h
  simp only [kept, Bool.and_eq_true, bne_iff_ne]
  exact ⟨⟨htext, h.2.1⟩, h.1⟩

theorem pos_of_kept (j : Judged) (h : kept j = true) : 0 < j.text.length := by
  simp only [kept, Bool.and_eq_true, bne_iff_ne] at h
  exact Nat.pos_of_ne_zero fun hzero => h.1.1 (by
    rw [String.length_eq_zero_iff] at hzero
    exact hzero)

theorem Loop.offer_attempted (s : Loop) (j : Judged) : (s.offer j).attempted = s.attempted := by
  unfold offer
  dsimp only
  split <;> rfl

/-- An offered answer is kept when it is longer. -/
theorem Loop.offer_eq {s : Loop} {best : Option Judged} (hs : s.toBest = Best.of accepted best)
    {j : Judged} (htext : j.text ≠ "") :
    (s.offer j).toBest =
      Best.of accepted (keepLonger (·.text.length) kept best j) := by
  have hkept : kept j = ((j.ok && !j.paged) && !(!j.valid || j.paged)) := by
    rw [kept, bne_iff_ne.mpr htext, Bool.true_and]
  rw [Best.of_keepLonger kept accepted (pos_of_kept j), ← hs, hkept]
  unfold offer
  dsimp only
  split
  · rename_i hoffer
    simp only [Bool.and_eq_true] at hoffer
    rw [accepted, hoffer.1.2, Bool.true_and]
  · rfl

theorem not_kept_of_empty {j : Judged} (htext : j.text = "") : kept j = false := by
  simp [kept, htext]

variable (profile) in
/-- The variables of the loop stand for the longest answer that it keeps. -/
theorem collect_eq (verbose : Bool) (answers : List (String × Answer)) (s : Loop)
    (best : Option Judged) (hs : s.toBest = Best.of accepted best) :
    (collect tables profile verbose s answers).toBest =
      Best.of accepted (scanLongest (·.text.length) kept accepted best
        ((attempts profile s.attempted answers).map fun a => judge tables profile a.1 a.2)) := by
  induction answers generalizing s best with
  | nil => simpa [attempts, collect, scanLongest] using hs
  | cons a rest ih =>
    obtain ⟨command, answer⟩ := a
    rw [collect]
    split
    · rename_i hlimit
      rw [attempts_cons_of_limit hlimit.1 hlimit.2]
      exact hs
    · rename_i hlimit
      have hnonempty := text_ne_of_accepted tables profile command answer
      rw [attempts_cons hlimit, List.map_cons, scanLongest]
      generalize judge tables profile command answer = j at hnonempty ⊢
      have hsend : (s.send verbose j).toBest = Best.of accepted best := hs
      dsimp only
      by_cases htext : j.text = ""
      · rw [if_pos htext, if_neg fun haccepted => hnonempty haccepted htext,
          keepLonger_of_not_kept (not_kept_of_empty htext)]
        exact ih _ best hsend
      · rw [if_neg htext]
        have hoffer := Loop.offer_eq hsend htext
        split
        · exact hoffer
        · have hrest := ih _ _ hoffer
          rw [Loop.offer_attempted] at hrest
          exact hrest

variable (profile)

/-- The outcome is read off the longest answer. -/
theorem follows (request : Request) (answers probes : List Answer) :
    Follows kept accepted (successMessage request) (judged tables profile answers)
      (runOltCliBackup tables profile request answers probes) := by
  have hbest : Loop.toBest _ = Best.scan kept accepted (judged tables profile answers) :=
    collect_eq tables profile (shouldLogDiagnostics tables profile request)
      (profile.backupCommands.zip answers) {} none rfl
  refine Follows.of_scan hbest (fun hvalid => ?_) fun hvalid => ?_
  · simp only [runOltCliBackup, hvalid, if_true]
  · simp only [runOltCliBackup, hvalid, Bool.false_eq_true, if_false]
    exact ⟨_, rfl⟩

theorem accepts (message : String → String) (answers : List Answer) :
    Accepts kept accepted message (judged tables profile answers) := by
  refine ⟨fun j hj haccepted => ?_, fun j _ => ?_, fun j _ haccepted hok => ?_⟩
  · obtain ⟨a, _, rfl⟩ := List.mem_map.mp hj
    exact kept_of_accepted tables profile a.1 a.2 haccepted
  · cases hok : j.ok <;> cases hpaged : j.paged <;> cases hvalid : j.valid <;>
      simp [Judged.good, accepted, hok, hpaged, hvalid]
  · simp [accepted, hok] at haccepted

end BackupCenter.Olt.OltCli
