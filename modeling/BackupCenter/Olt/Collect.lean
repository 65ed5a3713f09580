import BackupCenter.Lib.Expect
import BackupCenter.Olt.Cleaning

/-!
# Collecting the answer to a command

Each script reads the answer to a command in a loop of expectations and joins what stood before
every match. The loops append that text after a time-out too, although nothing was consumed then.
-/
namespace BackupCenter.Olt

open BackupCenter.Lib
open BackupCenter.Lib.Terminal (Found Searcher Session Reads reads_timeout_iff)

/-- What the clock shows in a round: whether the time of the command is over at its start, and
whether it is, or the device has been silent for too long, when the expectation has timed out. -/
structure Tick where
  late : Bool := false
  lateAfterTimeout : Bool := false

/-- What a loop ends with: the joined texts that are then cleaned, or an exception. -/
inductive Collected where
  | returned (ok : Bool) (text : List Char)
  | raised (message : String)
  deriving DecidableEq

/-! ## Three loops that return -/

/-- Where the three loops differ: what ends the answer, what is appended at the end of the
connection, and whether the clock is read again after a time-out. -/
structure LoopStyle (κ : Type*) where
  isPrompt : κ → Bool
  atEof : List Char
  readsClockAgain : Bool

/-- The loop of rounds; nothing when there are fewer ticks than it has rounds. -/
def collectLoop {κ : Type*} (style : LoopStyle κ) (search : Searcher κ) :
    List Tick → List Char → Session → Option Collected
  | [], _, _ => none
  | tick :: ticks, chunks, s =>
    if tick.late then some (.returned false chunks)
    else
      match s.expect search with
      | (.found f, s') =>
        if style.isPrompt f.kind then some (.returned true (chunks ++ f.before))
        -- a key is sent, and the next page comes
        else collectLoop style search ticks (chunks ++ f.before) s'
      | (.timeout before, s') =>
        if style.readsClockAgain && tick.lateAfterTimeout then
          some (.returned false (chunks ++ before))
        else collectLoop style search ticks (chunks ++ before) s'
      | (.eof before, _) => some (.returned true (chunks ++ before ++ style.atEof))

/-- `str(pexpect.EOF)` -/
def eofClass : List Char := "<class 'pexpect.exceptions.EOF'>".toList

namespace OltCli

inductive Prompt where
  | anyLine
  | pager
  | standalone
  | continueQuestion
  deriving DecidableEq

/-- A letter or digit, and more of these with marks. -/
def promptHostRe : Regex :=
  .seq (.chr Char.isAlphanum) (.star (.chr fun c => c.isAlphanum || "_.:-/".toList.contains c))

/-- What may stand between the brackets of a prompt. -/
def inBrackets : Regex := .star (.chr fun c => c != '\r' && c != '\n' && c != ')')

def promptParenRe : Regex :=
  .inOrder [.text "(", .chr fun c => c.isAlphanum || "_.:-/".toList.contains c,
    .upTo (.chr fun c => c.isAlphanum || "_.:-/".toList.contains c) 63, .text ")",
    .opt (.oneOf ">#")]

def promptAnyLine : Regex :=
  .inOrder [.lineStart,
    .oneOfAll [.inOrder [.text "<", promptHostRe, .text ">"],
      .inOrder [promptHostRe, .opt (.inOrder [.text "(", inBrackets, .text ")"]), .oneOf ">#"],
      promptParenRe, .inOrder [.text "(", inBrackets, .text ")#"]],
    .star .space, .lineEnd]

/-- `(?mi)^(?:[A-Za-z0-9 _/\-]{1,40}:)\s*$` -/
def standalonePromptRe : Regex :=
  let mark : Regex := .chr fun c => c.isAlphanum || " _-/".toList.contains c ||
    [0x130, 0x131, 0x17f, 0x212a].contains c.toNat
  .inOrder [.lineStart, mark, .upTo mark 39, .text ":", .star .space, .lineEnd]

/-- `(?i)continue\s*\?\s*\[?[YyNn]\]?` -/
def continueRe : Regex :=
  .inOrder [.itext "continue", .star .space, .text "?", .star .space, .opt (.text "["),
    .oneOf "YyNn", .opt (.text "]")]

/-- The pager prompts, here without the ignore-case flag. -/
def pagerPromptRe : Regex :=
  .oneOfAll [.text "--More--", .text "---- More ----", .text "[More]", .text "--MORE--",
    .text "<--- More --->", .text "Press any key",
    .inOrder [.star .space, .star (.text "-"), .star .space, .text "More", .star .space,
      .text "(", .star .space, .text "Press", .plus .space, .text "'Q'", .plus .space,
      .text "to", .plus .space, .alt (.text "break") (.text "quit"), .star .space,
      .text ")", .star .space, .star (.text "-")]]

def searcher : Searcher Prompt :=
  .ofPatterns [(.anyLine, promptAnyLine), (.pager, pagerPromptRe),
    (.standalone, standalonePromptRe), (.continueQuestion, continueRe)]

def style : LoopStyle Prompt where
  isPrompt := (· == .anyLine)
  atEof := eofClass
  readsClockAgain := true

def sendCollect (search : Searcher Prompt) (ticks : List Tick) (s : Session) : Option Collected :=
  collectLoop style search ticks [] s

end OltCli

namespace HuaweiOlt

inductive Prompt where
  | interactiveConfirm
  | commandLine
  | pager
  deriving DecidableEq

def style : LoopStyle Prompt where
  isPrompt := (· == .commandLine)
  atEof := []
  readsClockAgain := false

def sendAndCollect (search : Searcher Prompt) (ticks : List Tick) (s : Session) :
    Option Collected :=
  collectLoop style search ticks [] s

end HuaweiOlt

namespace Zte

inductive Prompt where
  | anyLine
  | pager
  | standaloneColon
  deriving DecidableEq

def style : LoopStyle Prompt where
  isPrompt := (· == .anyLine)
  atEof := eofClass
  readsClockAgain := true

def sendCollect (search : Searcher Prompt) (ticks : List Tick) (s : Session) : Option Collected :=
  collectLoop style search ticks [] s

end Zte

/-! ## The loop that raises -/

namespace Fiberhome

inductive Prompt where
  | pager
  | privileged
  | user
  deriving DecidableEq

def maxPagerPages : Nat := 100000

def minSubstantialChars : Nat := 1000

def isPrompt : Prompt → Bool
  | .pager => false
  | .privileged => true
  | .user => true

/-- `pages` pager prompts have been answered. The characters collected are those of `chunks`. -/
def collectLoop (command : String) (search : Searcher Prompt) :
    List Tick → Nat → List Char → Session → Option Collected
  | [], _, _, _ => none
  | tick :: ticks, pages, chunks, s =>
    if tick.late then some (.raised ("Timeout ao coletar configuracao (" ++ command ++ ")."))
    else
      match s.expect search with
      | (.found f, s') =>
        match f.kind with
        | .pager =>
          if maxPagerPages < pages + 1 then
            some (.raised ("Coleta interrompida: paginacao excessiva sem finalizar (" ++ command ++
              ")."))
          else collectLoop command search ticks (pages + 1) (chunks ++ f.before) s'
        | .privileged => some (.returned true (chunks ++ f.before))
        | .user =>
          -- the prompt of an unprivileged user ends an answer of some length
          if minSubstantialChars ≤ (chunks ++ f.before).length then
            some (.returned true (chunks ++ f.before))
          else
            some (.raised
              "Comando executado sem privilegio suficiente para coletar configuracao.")
      | (.timeout before, s') =>
        if tick.lateAfterTimeout then
          some (.raised ("Timeout ao coletar configuracao (" ++ command ++ ")."))
        else collectLoop command search ticks pages (chunks ++ before) s'
      | (.eof _, _) => some (.raised "Sessao Telnet encerrada durante coleta de configuracao.")

def collectTelnetCommandWithPager (command : String) (search : Searcher Prompt)
    (ticks : List Tick) (s : Session) : Option Collected :=
  collectLoop command search ticks 0 [] s

end Fiberhome

/-! ## Exact collection -/

section

variable {κ : Type*}

/-- What is owed to an answer: a returned text with `ok` is the answer up to a prompt that was
reached, and without `ok` it is the start of it. -/
def Exact (search : Searcher κ) (stops : κ → Bool) (s : Session) : Option Collected → Prop
  | some (.returned true text) => Reads search stops s text true
  | some (.returned false text) => ∀ answer reached, Reads search stops s answer reached →
      text <+: answer
  | _ => True

/-- In every round until the loop ends, an expectation that times out leaves nothing unconsumed,
and unless the loop raises then the connection does not end. -/
def Quiet (search : Searcher κ) (stops : κ → Bool) (readsClockAgain raisesAtEof : Bool) :
    List Tick → Session → Prop
  | [], _ => True
  | tick :: ticks, s =>
    tick.late = true ∨
      match s.expect search with
      | (.found f, s') =>
        stops f.kind = true ∨ Quiet search stops readsClockAgain raisesAtEof ticks s'
      | (.timeout before, s') =>
        before = [] ∧ ((readsClockAgain && tick.lateAfterTimeout) = true ∨
          Quiet search stops readsClockAgain raisesAtEof ticks s')
      | (.eof _, _) => raisesAtEof = true

variable {style : LoopStyle κ} {search : Searcher κ}

/-- What a loop owes when it has collected some text already. -/
def ExactFrom (search : Searcher κ) (stops : κ → Bool) (chunks : List Char) (s : Session) :
    Option Collected → Prop
  | some (.returned true text) => ∃ answer, text = chunks ++ answer ∧
      Reads search stops s answer true
  | some (.returned false text) => ∃ part, text = chunks ++ part ∧
      ∀ answer reached, Reads search stops s answer reached → part <+: answer
  | _ => True

/-- Collected before a match, the text stands before the rest of the answer. -/
theorem ExactFrom.of_more {stops : κ → Bool} {chunks : List Char} {s s' : Session} {f : Found κ}
    (hexpect : s.expect search = (.found f, s')) (hstops : stops f.kind = false)
    {result : Option Collected} (h : ExactFrom search stops (chunks ++ f.before) s' result) :
    ExactFrom search stops chunks s result := by
  match result, h with
  | some (.returned true _), ⟨answer, htext, hreads⟩ =>
    exact ⟨f.before ++ answer, by rw [htext, List.append_assoc], .more hexpect hstops hreads⟩
  | some (.returned false _), ⟨part, htext, hpart⟩ =>
    refine ⟨f.before ++ part, by rw [htext, List.append_assoc], fun answer reached hreads => ?_⟩
    obtain ⟨rest, rfl, hrest⟩ := hreads.of_more hexpect hstops
    exact (List.prefix_append_right_inj _).mpr (hpart rest reached hrest)
  | some (.raised _), _ => trivial
  | none, _ => trivial

/-- A time-out without unconsumed text changes nothing. -/
theorem ExactFrom.of_timeout {stops : κ → Bool} {chunks : List Char} {s s' : Session}
    (hexpect : s.expect search = (.timeout [], s')) {result : Option Collected}
    (h : ExactFrom search stops chunks s' result) : ExactFrom search stops chunks s result := by
  match result, h with
  | some (.returned true _), ⟨answer, htext, hreads⟩ =>
    exact ⟨answer, htext, (reads_timeout_iff hexpect).mpr hreads⟩
  | some (.returned false _), ⟨part, htext, hpart⟩ =>
    exact ⟨part, htext, fun answer reached hreads =>
      hpart answer reached ((reads_timeout_iff hexpect).mp hreads)⟩
  | some (.raised _), _ => trivial
  | none, _ => trivial

theorem collectLoop_exact (ticks : List Tick) (chunks : List Char) (s : Session)
    (h : Quiet search style.isPrompt style.readsClockAgain false ticks s) :
    ExactFrom search style.isPrompt chunks s (collectLoop style search ticks chunks s) := by
  induction ticks generalizing chunks s with
  | nil => trivial
  | cons tick ticks ih =>
    rw [collectLoop]
    split
    · exact ⟨[], (List.append_nil _).symm, fun _ _ _ => List.nil_prefix⟩
    · rename_i hlate
      have hround := h.resolve_left hlate
      split
      · rename_i f s' hexpect
        rw [hexpect] at hround
        by_cases hprompt : style.isPrompt f.kind = true
        · rw [if_pos hprompt]
          exact ⟨f.before, rfl, .stop hexpect hprompt⟩
        · rw [if_neg hprompt]
          exact (ih _ s' (hround.resolve_left hprompt)).of_more hexpect
            (Bool.eq_false_iff.mpr hprompt)
      · rename_i before s' hexpect
        rw [hexpect] at hround
        obtain ⟨rfl, hrest⟩ := hround
        rw [List.append_nil]
        split
        · exact ⟨[], (List.append_nil _).symm, fun _ _ _ => List.nil_prefix⟩
        · rename_i hclock
          exact (ih _ s' (hrest.resolve_left hclock)).of_timeout hexpect
      · rename_i before s' hexpect
        rw [hexpect] at hround
        cases hround

/-- What is returned at a prompt is at least as long as the answer. -/
theorem length_le_of_returned (ticks : List Tick) (chunks : List Char) (s : Session)
    {text answer : List Char}
    (h : collectLoop style search ticks chunks s = some (.returned true text))
    (hreads : Reads search style.isPrompt s answer true) :
    chunks.length + answer.length ≤ text.length := by
  induction ticks generalizing chunks s answer with
  | nil => cases h
  | cons tick ticks ih =>
    rw [collectLoop] at h
    split at h
    · cases h
    · split at h
      · rename_i f s' hexpect
        by_cases hprompt : style.isPrompt f.kind = true
        · rw [if_pos hprompt] at h
          cases h
          rw [(hreads.of_stop hexpect hprompt).1, List.length_append]
        · rw [if_neg hprompt] at h
          obtain ⟨rest, rfl, hrest⟩ := hreads.of_more hexpect (Bool.eq_false_iff.mpr hprompt)
          have hle := ih _ s' h hrest
          rw [List.length_append] at hle ⊢
          omega
      · rename_i before s' hexpect
        split at h
        · cases h
        · have hle := ih _ s' h ((reads_timeout_iff hexpect).mp hreads)
          rw [List.length_append] at hle
          omega
      · rename_i before s' hexpect
        cases hreads.of_eof hexpect

/-- A text returned at a prompt is the answer only when every round was quiet. -/
theorem quiet_of_exact (ticks : List Tick) (chunks : List Char) (s : Session)
    {answer : List Char}
    (h : collectLoop style search ticks chunks s = some (.returned true (chunks ++ answer)))
    (hreads : Reads search style.isPrompt s answer true) :
    Quiet search style.isPrompt style.readsClockAgain false ticks s := by
  induction ticks generalizing chunks s answer with
  | nil => trivial
  | cons tick ticks ih =>
    rw [collectLoop] at h
    split at h
    · rename_i hlate
      exact .inl hlate
    · refine .inr ?_
      split at h
      · rename_i f s' hexpect
        by_cases hprompt : style.isPrompt f.kind = true
        · exact .inl hprompt
        · rw [if_neg hprompt] at h
          obtain ⟨rest, rfl, hrest⟩ := hreads.of_more hexpect (Bool.eq_false_iff.mpr hprompt)
          rw [← List.append_assoc] at h
          exact .inr (ih _ s' h hrest)
      · rename_i before s' hexpect
        split at h
        · cases h
        · have hreads' := (reads_timeout_iff hexpect).mp hreads
          have hle := length_le_of_returned ticks _ s' h hreads'
          rw [List.length_append, List.length_append] at hle
          have hbefore : before = [] := List.eq_nil_of_length_eq_zero (by omega)
          rw [hbefore, List.append_nil] at h
          exact ⟨hbefore, .inr (ih _ s' h hreads')⟩
      · rename_i before s' hexpect
        cases hreads.of_eof hexpect

end

/-! ## The four scripts -/

namespace Fiberhome

/-- Where it returns, the loop does what the others do. -/
def style : LoopStyle Prompt where
  isPrompt := isPrompt
  atEof := []
  readsClockAgain := true

theorem returned_iff_style (command : String) (search : Searcher Prompt) {ticks : List Tick}
    {pages : Nat} {chunks : List Char} {s : Session} {ok : Bool} {text : List Char}
    (h : collectLoop command search ticks pages chunks s = some (.returned ok text)) :
    ok = true ∧ Olt.collectLoop style search ticks chunks s = some (.returned true text) ∧
      (Quiet search isPrompt true true ticks s ↔ Quiet search isPrompt true false ticks s) := by
  induction ticks generalizing pages chunks s with
  | nil => cases h
  | cons tick ticks ih =>
    rw [collectLoop] at h
    rw [Olt.collectLoop, Quiet, Quiet]
    split at h
    · cases h
    · rename_i hlate
      rw [if_neg hlate]
      split at h
      · rename_i f s' hexpect
        rw [hexpect]
        dsimp only
        cases hkind : f.kind with
        | pager =>
          rw [hkind] at h
          dsimp only at h
          split at h
          · cases h
          · obtain ⟨hok, hloop, hquiet⟩ := ih h
            exact ⟨hok, by simpa [style, isPrompt] using hloop, by rw [hquiet]⟩
        | privileged =>
          rw [hkind] at h
          cases h
          exact ⟨rfl, rfl, by simp [isPrompt]⟩
        | user =>
          rw [hkind] at h
          dsimp only at h
          split at h
          · cases h
            exact ⟨rfl, rfl, by simp [isPrompt]⟩
          · cases h
      · rename_i before s' hexpect
        rw [hexpect]
        dsimp only
        split at h
        · cases h
        · rename_i hclock
          obtain ⟨hok, hloop, hquiet⟩ := ih h
          exact ⟨hok, by simpa [style, hclock] using hloop, by rw [hquiet]⟩
      · cases h

end Fiberhome

/-- A script with what its patterns find. -/
inductive Collector where
  | oltCli (search : Searcher OltCli.Prompt)
  | huaweiOlt (search : Searcher HuaweiOlt.Prompt)
  | zte (search : Searcher Zte.Prompt)
  | fiberhome (search : Searcher Fiberhome.Prompt) (command : String)

namespace Collector

/-- The text before it is cleaned, from a session in which the command has been sent. -/
def run : Collector → List Tick → Session → Option Collected
  | oltCli search, ticks, s => OltCli.sendCollect search ticks s
  | huaweiOlt search, ticks, s => HuaweiOlt.sendAndCollect search ticks s
  | zte search, ticks, s => Zte.sendCollect search ticks s
  | fiberhome search command, ticks, s =>
    Fiberhome.collectTelnetCommandWithPager command search ticks s

def Exact : Collector → List Tick → Session → Prop
  | oltCli search, ticks, s =>
    Olt.Exact search OltCli.style.isPrompt s (OltCli.sendCollect search ticks s)
  | huaweiOlt search, ticks, s =>
    Olt.Exact search HuaweiOlt.style.isPrompt s (HuaweiOlt.sendAndCollect search ticks s)
  | zte search, ticks, s => Olt.Exact search Zte.style.isPrompt s (Zte.sendCollect search ticks s)
  | fiberhome search command, ticks, s =>
    Olt.Exact search Fiberhome.isPrompt s
      (Fiberhome.collectTelnetCommandWithPager command search ticks s)

def Quiet : Collector → List Tick → Session → Prop
  | oltCli search, ticks, s => Olt.Quiet search OltCli.style.isPrompt true false ticks s
  | huaweiOlt search, ticks, s => Olt.Quiet search HuaweiOlt.style.isPrompt false false ticks s
  | zte search, ticks, s => Olt.Quiet search Zte.style.isPrompt true false ticks s
  | fiberhome search _, ticks, s => Olt.Quiet search Fiberhome.isPrompt true true ticks s

end Collector

section

variable {κ : Type*} {style : LoopStyle κ} {search : Searcher κ} {ticks : List Tick} {s : Session}

theorem exact_of_exactFrom {stops : κ → Bool} {result : Option Collected}
    (h : ExactFrom search stops [] s result) : Exact search stops s result := by
  match result, h with
  | some (.returned true _), ⟨_, htext, hreads⟩ => exact htext ▸ hreads
  | some (.returned false _), ⟨_, htext, hpart⟩ => exact htext ▸ hpart
  | some (.raised _), _ => trivial
  | none, _ => trivial

theorem collectLoop_exact_iff :
    (Quiet search style.isPrompt style.readsClockAgain false ticks s →
        Exact search style.isPrompt s (collectLoop style search ticks [] s)) ∧
      ∀ text, collectLoop style search ticks [] s = some (.returned true text) →
        Exact search style.isPrompt s (collectLoop style search ticks [] s) →
        Quiet search style.isPrompt style.readsClockAgain false ticks s := by
  refine ⟨fun h => exact_of_exactFrom (collectLoop_exact ticks [] s h), fun text h hexact => ?_⟩
  rw [h] at hexact
  exact quiet_of_exact ticks [] s h hexact

end

/-- A device that pauses in the middle of its answer, and one that hangs up in it. -/
def pausing : Session where
  arrivals := [.data "vlan 10\n".toList, .pause, .data "vlan 20\nOLT#".toList]

def hangingUp : Session where
  arrivals := [.data "vlan 10\n".toList, .eof]

end BackupCenter.Olt
