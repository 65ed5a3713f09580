import BackupCenter.Lib.Screen

/-!
# Clean-up of terminal text

What a device sends is cleaned before it is judged and stored: escape sequences go, and so do
the characters that the device itself has erased. Three scripts take out each character with the
backspace behind it once; the FiberHome script repeats that until no backspace is left.
-/
namespace BackupCenter.Olt

open BackupCenter.Lib

/-- `\x1B\[[0-9;?]*[A-Za-z]` -/
def ansiRe : Regex :=
  .inOrder [.text "\x1b[", .star (.chr fun c => c.isDigit || c == ';' || c == '?'),
    .chr Char.isAlpha]

/-- `.\x08` -/
def erasedRe : Regex := .seq .dot (.chr (· == backspace))

/-- `text.replace(c, "")` -/
def dropChar (c : Char) (text : String) : String := String.ofList (text.toList.filter (· != c))

/-- The clean-up that three of the scripts share. -/
def cleanOnce (text : String) : String :=
  if text = "" then ""
  else
    let text := ansiRe.sub "" text
    let text := erasedRe.sub "" text
    dropChar '\r' text

namespace OltCli

def clean (text : String) : String := cleanOnce text

end OltCli

namespace HuaweiOlt

def cleanTerminalText (text : String) : String := cleanOnce text

end HuaweiOlt

namespace Zte

def clean (text : String) : String := cleanOnce text

end Zte

namespace Fiberhome

/-- The loop may not end: `rounds` bounds how often it is run. -/
def cleanTelnetOutput (rounds : Nat) (output : String) : Option String :=
  let text := dropChar '\x00' output
  let text := ansiRe.sub "" text
  (eraseWhile rounds text.toList).map String.ofList

end Fiberhome

theorem toList_erasedRe_sub (text : String) :
    (erasedRe.sub "" text).toList = erasePairs text.toList := by
  rw [Regex.sub, String.toList_ofList, erasedRe, Regex.dot, Regex.subChars_pair]
  rfl

theorem cleanOnce_eq (text : String) :
    cleanOnce text =
      String.ofList ((erasePairs (ansiRe.sub "" text).toList).filter (· != '\r')) := by
  unfold cleanOnce
  split
  · rename_i htext
    rw [htext]
    rfl
  · rw [dropChar, toList_erasedRe_sub]

/-! ## The text a terminal shows -/

inductive Cleaner where
  | oltCli
  | huaweiOlt
  | zte
  | fiberhome
  deriving DecidableEq

namespace Cleaner

/-- What the clean-up returns, if its loop ends within so many rounds. -/
def run : Cleaner → Nat → String → Option String
  | oltCli, _, text => some (OltCli.clean text)
  | huaweiOlt, _, text => some (HuaweiOlt.cleanTerminalText text)
  | zte, _, text => some (Zte.clean text)
  | fiberhome, rounds, text => Fiberhome.cleanTelnetOutput rounds text

/-- What the terminal types: the text without what it obeys or does not print. -/
def received : Cleaner → String → List Char
  | fiberhome, text => (ansiRe.sub "" (dropChar '\x00' text)).toList
  | _, text => (ansiRe.sub "" text).toList

/-- Carriage returns stand in the text of the FiberHome script only. -/
def keeps : Cleaner → Char → Bool
  | fiberhome, _ => true
  | _, c => c != '\r'

/-- The clean-up ends, with what a terminal shows. -/
def Shown (cleaner : Cleaner) (text : String) : Prop :=
  ∃ rounds, cleaner.run rounds text =
    some (String.ofList ((screen (cleaner.received text)).filter cleaner.keeps))

/-- Of the characters that the backspaces behind `b` erase, one has to be taken out: an odd run
takes the character before it, and all further ones have to be carriage returns. At the start
of a line nothing is erased, so the run has to be even. -/
def OneErased (shown : List Char) (b : Char × Nat) : Prop :=
  b.2 = 0 ∨ if b.1 = '\n' then b.2 % 2 = 0
    else b.2 % 2 = 1 ∧ ∀ c ∈ (lastLine shown).take (b.2 - 1), c = '\r'

/-- Every run of backspaces is one that a single pass gets right. -/
def SinglePass (cs : List Char) : Prop :=
  (struck cs).1 % 2 = 0 ∧ ∀ before b after, (struck cs).2 = before ++ b :: after →
    OneErased (before.foldl strike []) b

/-- Whenever the loop comes to a text with a backspace, there is a pair to take out, and doing
so adds nothing to the screen. -/
def EveryRound (cs : List Char) : Prop :=
  ∀ n, backspace ∈ erasePairs^[n] cs → HasPair (erasePairs^[n] cs) ∧
    screen (erasePairs^[n + 1] cs) = screen (erasePairs^[n] cs)

def Mild (cleaner : Cleaner) (text : String) : Prop :=
  match cleaner with
  | fiberhome => EveryRound (cleaner.received text)
  | _ => SinglePass (cleaner.received text)

theorem excessOf_eq_zero_iff (shown : List Char) (b : Char × Nat) :
    excessOf (· != '\r') shown b = 0 ↔ OneErased shown b := by
  obtain ⟨c, m⟩ := b
  cases m with
  | zero => simp [excessOf, OneErased]
  | succ n =>
    simp only [excessOf, OneErased, Nat.succ_ne_zero, false_or]
    split
    · exact Iff.rfl
    · rw [Nat.add_eq_zero_iff, List.countP_eq_zero, Nat.add_sub_cancel]
      constructor
      · rintro ⟨hcount, hodd⟩
        exact ⟨by omega, fun d hd => by simpa using hcount d hd⟩
      · rintro ⟨hodd, hreturns⟩
        exact ⟨fun d hd => by simpa using hreturns d hd, by omega⟩

/-- A single pass against the terminal. -/
theorem cleanOnce_eq_iff (text : String) :
    cleanOnce text =
        String.ofList ((screen (ansiRe.sub "" text).toList).filter (· != '\r')) ↔
      SinglePass (ansiRe.sub "" text).toList := by
  have hcount : (· != '\r') backspace = true := by decide
  rw [cleanOnce_eq, String.ofList_inj, filter_erasePairs_eq_iff hcount, excess_eq_zero_iff]
  simp only [excessOf_eq_zero_iff]
  rfl

theorem shown_once {cleaned : String} {text : String} (h : cleaned = cleanOnce text) :
    (∃ _ : Nat, some cleaned =
        some (String.ofList ((screen (ansiRe.sub "" text).toList).filter (· != '\r')))) ↔
      SinglePass (ansiRe.sub "" text).toList := by
  rw [← cleanOnce_eq_iff, h]
  constructor
  · rintro ⟨_, heq⟩
    exact Option.some.inj heq
  · exact fun heq => ⟨0, congrArg some heq⟩

theorem shown_fiberhome (text : String) :
    fiberhome.Shown text ↔ EveryRound (fiberhome.received text) := by
  have hkeeps : (screen (fiberhome.received text)).filter fiberhome.keeps =
      screen (fiberhome.received text) := List.filter_eq_self.mpr fun _ _ => rfl
  rw [EveryRound, ← eraseWhile_eq_screen_iff]
  unfold Shown
  rw [hkeeps]
  refine exists_congr fun rounds => ?_
  show (eraseWhile rounds (fiberhome.received text)).map String.ofList = _ ↔ _
  cases eraseWhile rounds (fiberhome.received text) with
  | none => simp
  | some out => simp [String.ofList_inj]

end Cleaner

end BackupCenter.Olt
