import BackupCenter.Lib.Answering
import BackupCenter.Lib.Text

/-!
# Pager prompts

A command is sent with `send_command_timing`, which returns the text up to the next prompt. Two
loops answer the prompts: one looks for their marks in all of the output, the other in the end of
the last piece of it. Page texts may hold the same words.
-/
namespace BackupCenter.Scripts.Pagers

open BackupCenter.Lib

/-! ## What the loops take for a prompt -/

def pagerMarkers : List String :=
  ["--More--", "---- More ----", "[More]", "<--- More --->", "Press any key"]

def confirmMarkers : List String :=
  ["continue? [y/n]", "continue? [yes/no]", "are you sure", "[y/n]:", "(y/n)", "confirm"]

/-- What `_send_maybe_paged` answers to its output; `lower` is `str.lower`. -/
def pagedReply (lower : String → String) (output : String) : Option String :=
  if containsAny output pagerMarkers then some " "
  else if containsAny (lower output) confirmMarkers then some "y"
  else none

def netmikoPagerMarkers : List String :=
  ["--more--", "---- more ----", "[more]", "<--- more --->", "press any key", "(q to quit)",
    "more ( press 'q' to break )"]

def netmikoConfirmYesMarkers : List String :=
  ["continue? [y/n]", "continue? [yes/no]", "are you sure", "[y/n]:", "(y/n)", "confirm"]

def netmikoEnterMarkers : List String :=
  ["press enter to continue", "pressione enter", "any key to continue", "<cr>", "<k>"]

/-- `text[-limit:]` -/
def lastChars (limit : Nat) (text : String) : String :=
  String.ofList (text.toList.drop (text.length - limit))

/-- `_netmiko_tail_text` -/
def netmikoTailText (chunk output : String) (limit : Nat) : String :=
  lastChars limit (if chunk ≠ "" then chunk else lastChars limit output)

/-- What `netmiko_send_command_interactive` answers to its output, the last piece of which is
`chunk`. -/
def interactiveReply (lower : String → String) (output chunk : String) : Option String :=
  let probeText := lower (netmikoTailText chunk output 320)
  if containsAny probeText netmikoPagerMarkers then some " "
  else if containsAny probeText netmikoConfirmYesMarkers then some "y"
  else if containsAny probeText netmikoEnterMarkers then some ""
  else none

/-! ## The two loops -/

/-- A program over `send_command_timing`. -/
abbrev Sending := Talk String String String

/-- `_send_maybe_paged` -/
def sendMaybePaged (lower : String → String) (command : String) : Sending := do
  let output ← Prog.ask command
  answerPrompts (fun output _ => pagedReply lower output) 300 output output

/-- `netmiko_send_command_interactive` -/
def netmikoSendCommandInteractive (lower : String → String) (maxRounds : Nat) (command : String) :
    Sending := do
  let output ← Prog.ask command
  answerPrompts (interactiveReply lower) maxRounds output output

/-! ## Dialogues -/

/-- What the device waits for at a prompt. -/
inductive Prompt where
  | pager
  | confirm
  deriving DecidableEq

def Prompt.reply : Prompt → String
  | pager => " "
  | confirm => "y"

/-- A prompt, and the text from its answer to the next prompt. -/
structure Turn where
  prompt : Prompt
  text : String

/-- The answer of a device to a command: the text up to the first prompt, and the turns, the last
of which ends with the command prompt. -/
structure Dialogue where
  first : String
  turns : List Turn

namespace Dialogue

def exchange (d : Dialogue) : List (String × String) :=
  d.turns.map fun t => (t.prompt.reply, t.text)

/-- All that the device sends. -/
def text (d : Dialogue) : String := d.turns.foldl (fun text t => text ++ t.text) d.first

def replies (d : Dialogue) : List String := d.turns.map fun t => t.prompt.reply

/-- The device goes through the dialogue when each prompt gets its reply; anything else may lead
anywhere. -/
def HeldBy (d : Dialogue) (device : List String → String) (command : String) : Prop :=
  device [command] = d.first ∧ Spoken device [command] d.exchange

/-- Each prompt gets its reply, the command prompt gets nothing, and the output is all that the
device sent. -/
def LedBy (d : Dialogue) (device : List String → String) (command : String) (p : Sending) : Prop :=
  p.run (hear device) [] = (d.text, command :: d.replies)

/-- At each prompt the loop asks for what the device waits for, and at the command prompt for
nothing, unless it has no round left. -/
def ReadAs (d : Dialogue) (asks : String → String → Option String) (rounds : Nat) : Prop :=
  Heeded asks rounds d.first d.first d.exchange

end Dialogue

section Loops

variable {device : List String → String} {command : String} {d : Dialogue}

/-- A command and the loop behind it lead a dialogue when the loop reads it so. -/
theorem led_iff {asks : String → String → Option String} {rounds : Nat}
    (hheld : d.HeldBy device command) (hrounds : d.turns.length ≤ rounds) :
    d.LedBy device command (do
        let output ← Prog.ask command
        answerPrompts asks rounds output output) ↔ d.ReadAs asks rounds := by
  obtain ⟨hfirst, hspoken⟩ := hheld
  have hfew : d.exchange.length ≤ rounds := by
    rw [Dialogue.exchange, List.length_map]
    exact hrounds
  have hloop := @answerPrompts_iff _ _ _ asks device [command] d.exchange rounds d.first d.first
    hspoken hfew
  have htext : spokenText d.first d.exchange = d.text := by
    rw [spokenText, Dialogue.exchange, List.foldl_map]
    rfl
  have hreplies : d.exchange.map Prod.fst = d.replies := by
    rw [Dialogue.exchange, List.map_map]
    rfl
  rw [htext, hreplies] at hloop
  show (answerPrompts asks rounds (device [command]) (device [command])).run (hear device)
    [command] = _ ↔ _
  rw [hfirst]
  exact hloop

theorem contains_append {text more marker : String} (h : contains text marker = true) :
    contains (text ++ more) marker = true := by
  rw [contains, decide_eq_true_eq] at h ⊢
  rw [String.toList_append]
  exact h.trans (List.prefix_append ..).isInfix

/-- The mark of a pager stays in the output, so that the first loop reads the command prompt as
one more page. -/
theorem not_readAs_of_pager {lower : String → String} {rounds : Nat}
    (hpager : containsAny d.first pagerMarkers = true) (hfew : d.turns.length < rounds) :
    ¬ d.ReadAs (fun output _ => pagedReply lower output) rounds := by
  have hstays : ∀ (turns : List (String × String)) (rounds : Nat) (received last : String),
      containsAny received pagerMarkers = true → turns.length < rounds →
      ¬ Heeded (fun output _ => pagedReply lower output) rounds received last turns := by
    intro turns
    induction turns with
    | nil =>
      intro rounds received last hmark hlt hread
      obtain ⟨rounds, rfl⟩ : ∃ n, rounds = n + 1 := ⟨rounds - 1, by omega⟩
      have hnone : pagedReply lower received = none := hread
      rw [pagedReply, if_pos hmark] at hnone
      exact nomatch hnone
    | cons t turns ih =>
      intro rounds received last hmark hlt hread
      obtain ⟨rounds, rfl⟩ : ∃ n, rounds = n + 1 := ⟨rounds - 1, by omega⟩
      refine ih rounds _ _ ?_ (Nat.lt_of_succ_lt_succ hlt) hread.2
      obtain ⟨marker, hmem, hmark⟩ := List.any_eq_true.mp hmark
      exact List.any_eq_true.mpr ⟨marker, hmem, contains_append hmark⟩
  refine hstays _ _ _ _ hpager ?_
  rw [Dialogue.exchange, List.length_map]
  exact hfew

end Loops

/-- A device that sends the pieces of a dialogue one after the other, and then its prompt. -/
def Dialogue.device (d : Dialogue) (sent : List String) : String :=
  ((d.first :: d.turns.map Turn.text)[sent.length - 1]?).getD "<sw>"

/-- Two pages. -/
def twoPages : Dialogue where
  first := "sysname sw\n--More--"
  turns := [⟨.pager, "return\n<sw>"⟩]

/-- One page with a word of the prompts in it. -/
def onePage : Dialogue where
  first := "description confirm\n<sw>"
  turns := []

end BackupCenter.Scripts.Pagers
