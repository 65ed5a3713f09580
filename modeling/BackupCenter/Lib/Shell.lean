import BackupCenter.Lib.Exec
import Mathlib.Data.List.Basic

/-!
# Tokens of a POSIX shell

A line is read character by character: blanks and operators end words, quotes and backslashes are
removed. A line is not read at all where the shell would expand something (a parameter, a command, a
pattern, a tilde) or where a quotation does not end.
-/
namespace BackupCenter.Lib.Shell

inductive Token where
  | word (text : List Char)
  /-- a number right before a redirection -/
  | ioNumber (text : List Char)
  | op (text : List Char)
  deriving DecidableEq

inductive Mode where
  | unquoted
  /-- after a backslash -/
  | escaped
  | single
  | double
  /-- after a backslash in double quotes -/
  | doubleEscaped
  | comment
  deriving DecidableEq

structure Reader where
  mode : Mode := .unquoted
  /-- the word that has begun -/
  word : Option (List Char) := none
  /-- no part of the word was quoted -/
  bare : Bool := true
  /-- the operator that has begun -/
  op : List Char := []
  tokens : List Token := []
  deriving DecidableEq

def isQuoting (c : Char) : Bool := c = '\'' || c = '"' || c = '\\'

/-- The characters at which an expansion begins. -/
def isExpanding (c : Char) : Bool := c = '$' || c = '`' || c = '*' || c = '?' || c = '['

def isBlank (c : Char) : Bool := c = ' ' || c = '\t'

def isOperator (c : Char) : Bool :=
  c = '|' || c = '&' || c = ';' || c = '<' || c = '>' || c = '(' || c = ')' || c = '\n'

/-- The operators of more than one character. -/
def longOperators : List (List Char) :=
  [['&', '&'], ['|', '|'], [';', ';'], ['<', '<'], ['>', '>'], ['<', '&'], ['>', '&'], ['<', '>'],
    ['<', '<', '-'], ['>', '|']]

/-- A character that stands for itself in a word. -/
def isPlain (c : Char) : Bool := !isQuoting c && !isExpanding c && !isBlank c && !isOperator c

namespace Reader

variable (r : Reader)

def opToken : List Token := if r.op = [] then [] else [.op r.op]

/-- The token that has begun. -/
def pending : List Token := r.opToken ++ r.word.toList.map .word

/-- The token that ends at an operator. -/
def pendingBefore (c : Char) : List Token :=
  match r.word with
  | some w =>
    if r.bare && (c = '<' || c = '>') && w.all Char.isDigit then [.ioNumber w] else r.pending
  | none => r.pending

/-- Characters that belong to the word. -/
def put (mode : Mode) (bare : Bool) (cs : List Char) : Reader where
  mode := mode
  word := some (r.word.getD [] ++ cs)
  bare := r.bare && bare
  tokens := r.tokens ++ r.opToken

def unquotedStep (c : Char) : Option Reader :=
  if c = '\'' then some (r.put .single false [])
  else if c = '"' then some (r.put .double false [])
  else if c = '\\' then some { r with mode := .escaped }
  else if isExpanding c then none
  else if isBlank c then some { tokens := r.tokens ++ r.pending }
  else if isOperator c then
    if r.op ++ [c] ∈ longOperators then some { r with op := r.op ++ [c] }
    else some { tokens := r.tokens ++ r.pendingBefore c, op := [c] }
  else if r.word = none ∧ c = '~' then none
  else if r.word = none ∧ c = '#' then
    some { tokens := r.tokens ++ r.pending, mode := .comment }
  else some (r.put .unquoted true [c])

/-- The characters that a backslash quotes within double quotes. -/
def quotedInDouble (c : Char) : Bool := c = '$' || c = '`' || c = '"' || c = '\\'

def step (c : Char) : Option Reader :=
  match r.mode with
  | .unquoted => r.unquotedStep c
  | .escaped =>
    some (if c = '\n' then { r with mode := .unquoted } else r.put .unquoted false [c])
  | .single => some (if c = '\'' then { r with mode := .unquoted } else r.put .single false [c])
  | .double =>
    if c = '"' then some { r with mode := .unquoted }
    else if c = '\\' then some { r with mode := .doubleEscaped }
    else if c = '$' ∨ c = '`' then none
    else some (r.put .double false [c])
  | .doubleEscaped =>
    some (if quotedInDouble c then r.put .double false [c]
      else if c = '\n' then { r with mode := .double }
      else r.put .double false ['\\', c])
  | .comment => some (if c = '\n' then { tokens := r.tokens, op := [c] } else r)

def finish : Option (List Token) :=
  match r.mode with
  | .unquoted | .comment => some (r.tokens ++ r.pending)
  | _ => none

end Reader

/-- The tokens of a line, after the ones before it. -/
def tokensFrom (X : List Token) (line : List Char) : Option (List Token) :=
  (exec Reader.step { tokens := X } line).bind Reader.finish

/-- The tokens of a line. -/
def tokensOf (line : List Char) : Option (List Token) := tokensFrom [] line

/-- The text of a quotation, which ends at each apostrophe and goes on after it. -/
def requoted (text : List Char) : List Char :=
  text.flatMap fun c => if c = '\'' then ['\'', '"', '\'', '"', '\''] else [c]

/-- The characters that `shlex.quote` leaves without quotes. -/
def isUnquotable (c : Char) : Bool := c.isAlphanum || "_@%+=:,./-".toList.contains c

/-- `shlex.quote` -/
def quote (text : List Char) : List Char :=
  if text = [] then ['\'', '\'']
  else if text.all isUnquotable then text
  else '\'' :: requoted text ++ ['\'']

/-! ## Reading plain and quoted text -/

/-- The reader after other tokens. -/
def Reader.after (X : List Token) (r : Reader) : Reader := { r with tokens := X ++ r.tokens }

theorem put_after (X : List Token) (r : Reader) (mode : Mode) (bare : Bool) (cs : List Char) :
    (r.after X).put mode bare cs = (r.put mode bare cs).after X := by
  dsimp only [Reader.put, Reader.after]
  rw [List.append_assoc]
  rfl

theorem unquotedStep_after (X : List Token) (r : Reader) (c : Char) :
    (r.after X).unquotedStep c = (r.unquotedStep c).map (Reader.after X) := by
  dsimp only [Reader.unquotedStep, Reader.after]
  iterate 3
    split
    · simp [Reader.put, Reader.after, Reader.opToken]
  split
  · rfl
  split
  · simp [Reader.after, Reader.pending, Reader.opToken]
  split
  · split
    · rfl
    · simp [Reader.after, Reader.pendingBefore, Reader.pending, Reader.opToken]
  split
  · rfl
  split
  · simp [Reader.after, Reader.pending, Reader.opToken]
  · simp [Reader.put, Reader.after, Reader.opToken]

/-- No step looks at the tokens before it. -/
theorem step_after (X : List Token) (r : Reader) (c : Char) :
    (r.after X).step c = (r.step c).map (Reader.after X) := by
  have hafter : (r.after X).mode = r.mode := rfl
  rw [Reader.step, Reader.step, hafter]
  cases hmode : r.mode with
  | unquoted => exact unquotedStep_after X r c
  | double =>
    dsimp only
    iterate 3
      split
      · rfl
    exact congrArg some (put_after ..)
  | escaped | single | doubleEscaped | comment =>
    dsimp only
    split_ifs <;> first | exact congrArg some (put_after ..) | rfl

theorem exec_after (X : List Token) : ∀ (cs : List Char) (r : Reader),
    exec Reader.step (r.after X) cs = (exec Reader.step r cs).map (Reader.after X)
  | [], _ => rfl
  | c :: cs, r => by
    rw [exec, exec, step_after]
    cases r.step c with
    | none => rfl
    | some s => exact exec_after X cs s

variable {X : List Token} {w cs : List Char} {b : Bool} {c : Char}

theorem isPlain_iff : isPlain c = true ↔
    isQuoting c = false ∧ isExpanding c = false ∧ isBlank c = false ∧ isOperator c = false := by
  simp [isPlain, and_assoc]

theorem ne_of_not_quoting (h : isQuoting c = false) : c ≠ '\'' ∧ c ≠ '"' ∧ c ≠ '\\' := by
  simpa [isQuoting, and_assoc] using h

/-- A plain character goes to the word that has begun, or begins one. -/
theorem step_plain {r : Reader} (hmode : r.mode = .unquoted) (hc : isPlain c = true)
    (hstart : r.word = none → c ≠ '~' ∧ c ≠ '#') : r.step c = some (r.put .unquoted true [c]) := by
  obtain ⟨hquoting, hexpanding, hblank, hoperator⟩ := isPlain_iff.mp hc
  obtain ⟨h₁, h₂, h₃⟩ := ne_of_not_quoting hquoting
  rw [Reader.step, hmode]
  dsimp only [Reader.unquotedStep]
  rw [if_neg h₁, if_neg h₂, if_neg h₃, if_neg (by simp [hexpanding]), if_neg (by simp [hblank]),
    if_neg (by simp [hoperator]), if_neg fun h => (hstart h.1).1 h.2,
    if_neg fun h => (hstart h.1).2 h.2]

theorem exec_plain (h : ∀ c ∈ cs, isPlain c = true) :
    exec Reader.step { word := some w, bare := b, tokens := X } cs =
      some { word := some (w ++ cs), bare := b, tokens := X } := by
  induction cs generalizing w with
  | nil => simp [exec]
  | cons c cs ih =>
    have hstep : Reader.step { word := some w, bare := b, tokens := X } c =
        some { word := some (w ++ [c]), bare := b, tokens := X } := by
      rw [step_plain rfl (h c (List.mem_cons_self ..)) (by simp)]
      simp [Reader.put, Reader.opToken]
    rw [exec, hstep, Option.bind_some, ih fun d hd => h d (List.mem_cons_of_mem _ hd)]
    simp

/-- The text is one word wherever it begins: no expansion, no comment, nothing that ends a word. -/
def IsWord (text : List Char) : Prop :=
  text ≠ [] ∧ (∀ c ∈ text, isPlain c = true) ∧ text.head? ≠ some '~' ∧ text.head? ≠ some '#'

theorem exec_word (h : IsWord cs) :
    exec Reader.step { tokens := X } cs = some { word := some cs, tokens := X } := by
  obtain ⟨hne, h, htilde, hhash⟩ := h
  obtain ⟨c, cs, rfl⟩ := List.exists_cons_of_ne_nil hne
  have hc : c ≠ '~' ∧ c ≠ '#' :=
    ⟨fun heq => htilde (by rw [heq]; rfl), fun heq => hhash (by rw [heq]; rfl)⟩
  have hstep : Reader.step { tokens := X } c = some { word := some [c], tokens := X } := by
    rw [step_plain rfl (h c (List.mem_cons_self ..)) fun _ => hc]
    simp [Reader.put, Reader.opToken]
  rw [exec, hstep, Option.bind_some, exec_plain fun d hd => h d (List.mem_cons_of_mem _ hd)]
  rfl

theorem exec_single (h : ∀ c ∈ cs, c ≠ '\'') :
    exec Reader.step { mode := .single, word := some w, bare := false, tokens := X } cs =
      some { mode := .single, word := some (w ++ cs), bare := false, tokens := X } := by
  induction cs generalizing w with
  | nil => simp [exec]
  | cons c cs ih =>
    have hc : c ≠ '\'' := h c (List.mem_cons_self ..)
    have hstep : Reader.step { mode := .single, word := some w, bare := false, tokens := X } c =
        some { mode := .single, word := some (w ++ [c]), bare := false, tokens := X } := by
      simp [Reader.step, hc, Reader.put, Reader.opToken]
    rw [exec, hstep, Option.bind_some, ih fun d hd => h d (List.mem_cons_of_mem _ hd)]
    simp

/-- A word in quotes. -/
theorem exec_quoted (h : ∀ c ∈ cs, c ≠ '\'') (rest : List Char) :
    exec Reader.step { tokens := X } ('\'' :: (cs ++ '\'' :: rest)) =
      exec Reader.step { word := some cs, bare := false, tokens := X } rest := by
  have hopen : Reader.step { tokens := X } '\'' =
      some { mode := .single, word := some [], bare := false, tokens := X } := by
    simp [Reader.step, Reader.unquotedStep, Reader.put, Reader.opToken]
  have hclose : Reader.step { mode := .single, word := some cs, bare := false, tokens := X } '\'' =
      some { word := some cs, bare := false, tokens := X } := by
    simp [Reader.step]
  rw [exec, hopen, Option.bind_some, exec_append (exec_single h), List.nil_append, exec, hclose,
    Option.bind_some]

/-- A blank ends a word. -/
theorem exec_blank (rest : List Char) :
    exec Reader.step { word := some w, bare := b, tokens := X } (' ' :: rest) =
      exec Reader.step { tokens := X ++ [.word w] } rest := by
  have hstep : Reader.step { word := some w, bare := b, tokens := X } ' ' =
      some { tokens := X ++ [.word w] } := by
    simp [Reader.step, Reader.unquotedStep, isExpanding, isBlank, Reader.pending, Reader.opToken]
  rw [exec, hstep, Option.bind_some]

theorem finish_after (X : List Token) (r : Reader) :
    (r.after X).finish = r.finish.map (X ++ ·) := by
  have hafter : (r.after X).mode = r.mode := rfl
  rw [Reader.finish, Reader.finish, hafter]
  cases r.mode with
  | unquoted | comment => exact congrArg some (List.append_assoc ..)
  | escaped | single | double | doubleEscaped => rfl

theorem tokensFrom_append {A : List Token} {pre : List Char}
    (h : exec Reader.step {} pre = some { tokens := A }) (rest : List Char) :
    tokensFrom X (pre ++ rest) = tokensFrom (X ++ A) rest := by
  have hpre := exec_after X pre {}
  rw [h] at hpre
  simp only [Reader.after, List.append_nil, Option.map_some] at hpre
  rw [tokensFrom, tokensFrom, exec_append hpre]

theorem tokensFrom_end {t : List Token} {line : List Char} (h : tokensOf line = some t) :
    tokensFrom X line = some (X ++ t) := by
  obtain ⟨r, hr, hend⟩ := Option.bind_eq_some_iff.mp h
  have hline := exec_after X line {}
  rw [hr, Option.map_some] at hline
  have hstart : Reader.after X {} = { tokens := X } := by simp [Reader.after]
  rw [tokensFrom, ← hstart, hline, Option.bind_some, finish_after, hend, Option.map_some]

theorem tokensFrom_word (h : IsWord cs) (rest : List Char) :
    tokensFrom X (cs ++ ' ' :: rest) = tokensFrom (X ++ [.word cs]) rest := by
  rw [tokensFrom, exec_append (exec_word h), exec_blank]
  rfl

theorem tokensFrom_quoted (h : ∀ c ∈ cs, c ≠ '\'') (rest : List Char) :
    tokensFrom X ('\'' :: (cs ++ '\'' :: ' ' :: rest)) = tokensFrom (X ++ [.word cs]) rest := by
  rw [tokensFrom, exec_quoted h, exec_blank]
  rfl

/-- A fixed text and a word after it. -/
theorem exec_append_word {A : List Token} {pre : List Char}
    (hpre : exec Reader.step {} pre = some { tokens := A }) (h : IsWord cs) :
    exec Reader.step {} (pre ++ cs ++ [' ']) = some { tokens := A ++ [.word cs] } := by
  rw [List.append_assoc, exec_append hpre, exec_append (exec_word h), exec_blank]
  rfl

theorem tokensOf_word (h : IsWord cs) : tokensOf cs = some [.word cs] := by
  rw [tokensOf, tokensFrom, exec_word h]
  rfl

theorem tokensFrom_quoted_end (h : ∀ c ∈ cs, c ≠ '\'') :
    tokensFrom X ('\'' :: (cs ++ ['\''])) = some (X ++ [.word cs]) := by
  rw [tokensFrom, exec_quoted h []]
  rfl

/-- Text that double quotes keep: nothing that ends or expands, and no backslash before another one
or before the end of the line. -/
def Kept : List Char → Prop
  | [] => True
  | [c] => c ≠ '"' ∧ c ≠ '$' ∧ c ≠ '`'
  | c :: d :: cs => (c ≠ '"' ∧ c ≠ '$' ∧ c ≠ '`') ∧ (c = '\\' → d ≠ '\\' ∧ d ≠ '\n') ∧
      Kept (d :: cs)

theorem Kept.head (h : Kept (c :: cs)) : c ≠ '"' ∧ c ≠ '$' ∧ c ≠ '`' := by
  cases cs with
  | nil => exact h
  | cons d cs => exact h.1

theorem Kept.tail (h : Kept (c :: cs)) : Kept cs := by
  cases cs with
  | nil => trivial
  | cons d cs => exact h.2.2

/-- Double quotes keep such a text as it is, if a backslash at its end does not meet another one. -/
theorem exec_double : ∀ {cs w : List Char}, Kept cs → cs.getLast? ≠ some '\\' →
    exec Reader.step { mode := .double, word := some w, bare := false, tokens := X } cs =
      some { mode := .double, word := some (w ++ cs), bare := false, tokens := X }
  | [], w, _, _ => by simp [exec]
  | [c], w, h, hlast => by
    have hc : c ≠ '\\' := by simpa using hlast
    simp [exec, Reader.step, Reader.put, Reader.opToken, h.1, h.2.1, h.2.2, hc]
  | c :: d :: cs, w, h, hlast => by
    obtain ⟨hquote, hdollar, htick⟩ := h.head
    have hlast' : (d :: cs).getLast? ≠ some '\\' := by rwa [List.getLast?_cons_cons] at hlast
    by_cases hc : c = '\\'
    · obtain ⟨hd₁, hd₂⟩ := h.2.1 hc
      obtain ⟨hd₃, hd₄, hd₅⟩ := h.tail.head
      have hrest : cs.getLast? ≠ some '\\' := by
        cases cs with
        | nil => simp
        | cons e cs => rwa [List.getLast?_cons_cons] at hlast'
      have ih := exec_double (w := w ++ ['\\', d]) h.tail.tail hrest
      have hbackslash : Reader.step
          { mode := .double, word := some w, bare := false, tokens := X } c =
          some { mode := .doubleEscaped, word := some w, bare := false, tokens := X } := by
        rw [hc]
        rfl
      have hkept : Reader.step
          { mode := .doubleEscaped, word := some w, bare := false, tokens := X } d =
          some { mode := .double, word := some (w ++ ['\\', d]), bare := false, tokens := X } := by
        simp [Reader.step, Reader.quotedInDouble, hd₁, hd₂, hd₃, hd₄, hd₅, Reader.put,
          Reader.opToken]
      rw [exec, hbackslash, Option.bind_some, exec, hkept, Option.bind_some, ih, hc,
        List.append_assoc]
      rfl
    · have ih := exec_double (w := w ++ [c]) h.tail hlast'
      rw [exec]
      have hstep : Reader.step { mode := .double, word := some w, bare := false, tokens := X } c =
          some { mode := .double, word := some (w ++ [c]), bare := false, tokens := X } := by
        simp [Reader.step, hquote, hdollar, htick, hc, Reader.put, Reader.opToken]
      rw [hstep, Option.bind_some, ih, List.append_assoc, List.singleton_append]

/-! ## What quoting takes away -/

def Token.text : Token → List Char
  | .word text | .ioNumber text => text
  | .op _ => []

/-- The characters in `p` of the words. -/
def weight (p : Char → Bool) (tokens : List Token) : Nat := (tokens.flatMap Token.text).countP p

def Mode.waits (mode : Mode) : Prop := mode = .escaped ∨ mode = .doubleEscaped

instance (mode : Mode) : Decidable mode.waits := inferInstanceAs (Decidable (_ ∨ _))

/-- The characters in `p` that have been read and not taken away, with a backslash that waits. -/
def Reader.weight (p : Char → Bool) (r : Reader) : Nat :=
  Shell.weight p r.tokens + (r.word.getD []).countP p +
    if r.mode.waits ∧ p '\\' = true then 1 else 0

variable {p : Char → Bool} {r r' : Reader} {tokens : List Token}

theorem weight_append {t t' : List Token} : weight p (t ++ t') = weight p t + weight p t' := by
  rw [weight, List.flatMap_append, List.countP_append]
  rfl

theorem weight_word {t : List Token} : weight p (.word w :: t) = w.countP p + weight p t := by
  simp [weight, Token.text]

theorem weight_opToken : weight p r.opToken = 0 := by
  unfold Reader.opToken
  split <;> rfl

theorem weight_pending : weight p r.pending = (r.word.getD []).countP p := by
  rw [Reader.pending, weight_append, weight_opToken, Nat.zero_add]
  cases r.word with
  | none => rfl
  | some w => simp [weight, Token.text]

theorem weight_pendingBefore : weight p (r.pendingBefore c) = (r.word.getD []).countP p := by
  unfold Reader.pendingBefore
  split
  next w hw =>
    split
    · simp [weight, Token.text, hw]
    · exact weight_pending
  next => exact weight_pending

theorem weight_put {mode : Mode} {bare : Bool} (hmode : ¬mode.waits) :
    (r.put mode bare cs).weight p =
      weight p r.tokens + (r.word.getD []).countP p + cs.countP p := by
  simp [Reader.weight, Reader.put, weight_append, weight_opToken, hmode, Nat.add_assoc]

/-- Going on without the character: a backslash that waited is taken away, too. -/
theorem weight_drop {mode : Mode} (hmode : ¬mode.waits) :
    ({ r with mode := mode } : Reader).weight p =
      weight p r.tokens + (r.word.getD []).countP p := by
  simp [Reader.weight, hmode]

theorem weight_unquotedStep (hmode : r.mode = .unquoted) (h : r.unquotedStep c = some r') :
    r'.weight p ≤ weight p r.tokens + (r.word.getD []).countP p + if p c then 1 else 0 := by
  dsimp only [Reader.unquotedStep] at h
  split at h
  · obtain rfl := Option.some.inj h
    rw [weight_put (by decide)]
    simp
  split at h
  · obtain rfl := Option.some.inj h
    rw [weight_put (by decide)]
    simp
  split at h
  next hc =>
    obtain rfl := Option.some.inj h
    rw [Reader.weight, hc]
    simp [Mode.waits]
  split at h
  · exact absurd h (by simp)
  split at h
  · obtain rfl := Option.some.inj h
    simp [Reader.weight, weight_append, weight_pending, Mode.waits]
  split at h
  · split at h
    all_goals obtain rfl := Option.some.inj h
    · simp [Reader.weight, hmode, Mode.waits]
    · simp [Reader.weight, weight_append, weight_pendingBefore, Mode.waits]
  split at h
  · exact absurd h (by simp)
  split at h
  · obtain rfl := Option.some.inj h
    simp [Reader.weight, weight_append, weight_pending, Mode.waits]
  · obtain rfl := Option.some.inj h
    exact Nat.le_of_eq (by rw [weight_put (by decide), List.countP_singleton])

/-- A backslash outside of quotes is lost. -/
theorem weight_escaped (hmode : r.mode = .escaped) (h : r.step c = some r') :
    r'.weight p ≤ weight p r.tokens + (r.word.getD []).countP p + if p c then 1 else 0 := by
  rw [Reader.step, hmode] at h
  obtain rfl := Option.some.inj h
  split
  · rw [weight_drop (by decide)]
    exact Nat.le_add_right ..
  · exact Nat.le_of_eq (by rw [weight_put (by decide), List.countP_singleton])

/-- No step adds a character that it has not read. -/
theorem weight_step (h : r.step c = some r') :
    r'.weight p ≤ r.weight p + if p c then 1 else 0 := by
  have hle : weight p r.tokens + (r.word.getD []).countP p ≤ r.weight p := Nat.le_add_right ..
  unfold Reader.step at h
  cases hmode : r.mode with
  | unquoted =>
    rw [hmode] at h
    have hstep := weight_unquotedStep (p := p) hmode h
    omega
  | escaped =>
    have hstep := weight_escaped (p := p) hmode (by rwa [Reader.step])
    omega
  | single =>
    rw [hmode] at h
    obtain rfl := Option.some.inj h
    split
    · rw [weight_drop (by decide)]
      omega
    · rw [weight_put (by decide), List.countP_singleton]
      omega
  | double =>
    rw [hmode] at h
    dsimp only at h
    split at h
    · obtain rfl := Option.some.inj h
      rw [weight_drop (by decide)]
      omega
    split at h
    next hc =>
      obtain rfl := Option.some.inj h
      rw [hc]
      simp [Reader.weight, hmode, Mode.waits]
    split at h
    · exact absurd h (by simp)
    · obtain rfl := Option.some.inj h
      rw [weight_put (by decide), List.countP_singleton]
      omega
  | doubleEscaped =>
    rw [hmode] at h
    obtain rfl := Option.some.inj h
    split
    · rw [weight_put (by decide), List.countP_singleton]
      omega
    split
    · rw [weight_drop (by decide)]
      omega
    · rw [weight_put (by decide)]
      simp [Reader.weight, hmode, Mode.waits, List.countP_cons]
      omega
  | comment =>
    rw [hmode] at h
    obtain rfl := Option.some.inj h
    split
    · simp [Reader.weight, Mode.waits]
      omega
    · omega

theorem weight_exec : ∀ {cs : List Char} {r r' : Reader}, exec Reader.step r cs = some r' →
    r'.weight p ≤ r.weight p + cs.countP p
  | [], r, r', h => by
    obtain rfl := Option.some.inj h
    exact Nat.le_add_right ..
  | c :: cs, r, r', h => by
    obtain ⟨s, hs, hrest⟩ := Option.bind_eq_some_iff.mp h
    have hstep := weight_step (p := p) hs
    have ih := weight_exec hrest
    rw [List.countP_cons]
    omega

theorem finish_eq_some_iff : r.finish = some tokens ↔
    (r.mode = .unquoted ∨ r.mode = .comment) ∧ r.tokens ++ r.pending = tokens := by
  unfold Reader.finish
  cases r.mode <;> simp

theorem weight_finish (h : r.finish = some tokens) : weight p tokens = r.weight p := by
  obtain ⟨hmode, rfl⟩ := finish_eq_some_iff.mp h
  rw [weight_append, weight_pending, Reader.weight]
  rcases hmode with hmode | hmode <;> simp [hmode, Mode.waits]

end BackupCenter.Lib.Shell
