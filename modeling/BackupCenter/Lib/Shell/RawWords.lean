import BackupCenter.Lib.Shell

/-!
# Words with their quotes

A text of plain characters, blanks and quotes is split at the blanks outside of the quotes. The
shell reads the words of this splitting, each without its quotes.
-/
namespace BackupCenter.Lib.Shell

def isQuote (c : Char) : Bool := c = '\'' || c = '"'

/-- A character of the texts considered here. -/
def isMild (c : Char) : Bool := (isPlain c && c != '~' && c != '#') || c = ' ' || isQuote c

/-- The rest of the word that has begun and the words after it; `q` is the quote that is open. -/
def rawFrom : Option Char → List Char → Option (List Char × List (List Char))
  | none, [] => some ([], [])
  | some _, [] => none
  | none, c :: cs =>
    if c = ' ' then (rawFrom none cs).map fun p => ([], if p.1 = [] then p.2 else p.1 :: p.2)
    else (rawFrom (if isQuote c then some c else none) cs).map fun p => (c :: p.1, p.2)
  | some q, c :: cs => (rawFrom (if c = q then none else some q) cs).map fun p => (c :: p.1, p.2)

/-- The words of a text with their quotes, unless a quotation does not end. -/
def rawWords (text : List Char) : Option (List (List Char)) :=
  (rawFrom none text).map fun p => if p.1 = [] then p.2 else p.1 :: p.2

/-- The rest of a word without its quotes. -/
def unquoteFrom : Option Char → List Char → List Char
  | _, [] => []
  | none, c :: cs =>
    if isQuote c then unquoteFrom (some c) cs else c :: unquoteFrom none cs
  | some q, c :: cs => if c = q then unquoteFrom none cs else c :: unquoteFrom (some q) cs

/-- Quote removal -/
def unquote (word : List Char) : List Char := unquoteFrom none word

variable {q : Option Char} {c : Char} {cs w text : List Char} {ws : List (List Char)}
  {X : List Token}

/-! ## The shell's reading -/

/-- The mode of the reader in a quotation. -/
def modeOf : Option Char → Mode
  | none => .unquoted
  | some c => if c = '"' then .double else .single

/-- The tokens of a word that has begun with `w`, if any, and goes on with a part. -/
def wordTokens (w : Option (List Char)) (part : List Char) (q : Option Char) : List Token :=
  if w = none ∧ part = [] then [] else [.word (w.getD [] ++ unquoteFrom q part)]

theorem wordTokens_some {part : List Char} :
    wordTokens (some w) part q = [.word (w ++ unquoteFrom q part)] := if_neg (by simp)

theorem wordTokens_none_cons {part : List Char} :
    wordTokens none (c :: part) q = [.word (unquoteFrom q (c :: part))] := if_neg (by simp)

theorem isMild_iff : isMild c = true ↔
    (isPlain c = true ∧ c ≠ '~' ∧ c ≠ '#') ∨ c = ' ' ∨ isQuote c = true := by
  simp [isMild, or_assoc, and_assoc]

/-- A mild character that is no quote and no blank goes to the word. -/
theorem plain_of_mild (h : isMild c = true) (hblank : c ≠ ' ') (hquote : isQuote c = false) :
    isPlain c = true ∧ c ≠ '~' ∧ c ≠ '#' := by
  rcases isMild_iff.mp h with h | h | h
  · exact h
  · exact absurd h hblank
  · rw [hquote] at h
    exact absurd h Bool.false_ne_true

theorem finish_word {w : Option (List Char)} {b : Bool} :
    Reader.finish { word := w, bare := b, tokens := X } = some (X ++ wordTokens w [] none) := by
  cases w with
  | none => simp [Reader.finish, Reader.pending, Reader.opToken, wordTokens]
  | some w => simp [Reader.finish, Reader.pending, Reader.opToken, wordTokens, unquoteFrom]

theorem step_blank {w : Option (List Char)} {b : Bool} :
    Reader.step { word := w, bare := b, tokens := X } ' ' =
      some { tokens := X ++ wordTokens w [] none } := by
  cases w with
  | none => simp [Reader.step, Reader.unquotedStep, isExpanding, isBlank, Reader.pending,
      Reader.opToken, wordTokens]
  | some w => simp [Reader.step, Reader.unquotedStep, isExpanding, isBlank, Reader.pending,
      Reader.opToken, wordTokens, unquoteFrom]

theorem step_open {w : Option (List Char)} {b : Bool} (hc : isQuote c = true) :
    Reader.step { word := w, bare := b, tokens := X } c =
      some { mode := modeOf (some c), word := some (w.getD []), bare := false, tokens := X } := by
  have hcases : c = '\'' ∨ c = '"' := by simpa [isQuote] using hc
  rcases hcases with rfl | rfl
  · simp [Reader.step, Reader.unquotedStep, Reader.put, Reader.opToken, modeOf]
  · simp [Reader.step, Reader.unquotedStep, Reader.put, Reader.opToken, modeOf]

theorem step_close {q : Char} {b : Bool} (hq : isQuote q = true) :
    Reader.step { mode := modeOf (some q), word := some w, bare := b, tokens := X } q =
      some { word := some w, bare := b, tokens := X } := by
  have hcases : q = '\'' ∨ q = '"' := by simpa [isQuote] using hq
  rcases hcases with rfl | rfl
  · simp [Reader.step, modeOf]
  · simp [Reader.step, modeOf]

/-- What is special in double quotes is not mild. -/
theorem ne_special_of_mild (h : isMild c = true) : c ≠ '\\' ∧ c ≠ '$' ∧ c ≠ '`' := by
  refine ⟨?_, ?_, ?_⟩
  all_goals
    rintro rfl
    exact absurd h (by decide)

theorem step_inside {q : Char} {b : Bool} (hq : isQuote q = true) (hc : isMild c = true)
    (hne : c ≠ q) :
    Reader.step { mode := modeOf (some q), word := some w, bare := b, tokens := X } c =
      some { mode := modeOf (some q), word := some (w ++ [c]), bare := false, tokens := X } := by
  obtain ⟨h₁, h₂, h₃⟩ := ne_special_of_mild hc
  have hcases : q = '\'' ∨ q = '"' := by simpa [isQuote] using hq
  rcases hcases with rfl | rfl
  · simp [Reader.step, Reader.put, Reader.opToken, modeOf, hne]
  · simp [Reader.step, Reader.put, Reader.opToken, modeOf, hne, h₁, h₂, h₃]

theorem wordTokens_none_append {part : List Char} (rest : List (List Char)) :
    wordTokens none part none ++ rest.map (fun part => Token.word (unquote part)) =
      (if part = [] then rest else part :: rest).map fun part => .word (unquote part) := by
  by_cases hpart : part = []
  · rw [if_pos hpart, wordTokens, if_pos ⟨rfl, hpart⟩, List.nil_append]
  · rw [if_neg hpart, wordTokens, if_neg fun h => hpart h.2]
    rfl

theorem wordTokens_open {w : Option (List Char)} {part : List Char} (hc : isQuote c = true) :
    wordTokens w (c :: part) none = wordTokens (some (w.getD [])) part (some c) := by
  rw [wordTokens_some, wordTokens, if_neg (by simp), unquoteFrom, if_pos hc]

theorem wordTokens_put {w : Option (List Char)} {part : List Char} (hc : isQuote c = false) :
    wordTokens w (c :: part) none = wordTokens (some (w.getD [] ++ [c])) part none := by
  have hnot : ¬ isQuote c = true := by rw [hc]; exact Bool.false_ne_true
  rw [wordTokens_some, wordTokens, if_neg (by simp), unquoteFrom, if_neg hnot,
    List.append_assoc (w.getD [])]
  rfl

theorem wordTokens_close {q : Char} {part : List Char} :
    wordTokens (some w) (q :: part) (some q) = wordTokens (some w) part none := by
  rw [wordTokens_some, wordTokens_some, unquoteFrom, if_pos rfl]

theorem wordTokens_inside {q : Char} {part : List Char} (hne : c ≠ q) :
    wordTokens (some w) (c :: part) (some q) = wordTokens (some (w ++ [c])) part (some q) := by
  rw [wordTokens_some, wordTokens_some, unquoteFrom, if_neg hne, List.append_assoc w]
  rfl

/-- What the reader makes of a mild text, from the middle of a word on; in a quotation a word has
begun. -/
theorem finish_exec (h : ∀ c ∈ cs, isMild c = true) {w : Option (List Char)} {b : Bool}
    (hbegun : ∀ c, q = some c → isQuote c = true ∧ w.isSome = true) :
    (exec Reader.step { mode := modeOf q, word := w, bare := b, tokens := X } cs).bind
        Reader.finish =
      (rawFrom q cs).map fun p =>
        X ++ wordTokens w p.1 q ++ p.2.map fun part => .word (unquote part) := by
  induction cs generalizing q w b X with
  | nil =>
    cases q with
    | none =>
      show Reader.finish { word := w, bare := b, tokens := X } =
        some (X ++ wordTokens w [] none ++ [])
      rw [finish_word, List.append_nil]
    | some q =>
      by_cases hq : q = '"'
      · simp [exec, modeOf, hq, Reader.finish, rawFrom]
      · simp [exec, modeOf, hq, Reader.finish, rawFrom]
  | cons c cs ih =>
    obtain ⟨hc, hcs⟩ := List.forall_mem_cons.mp h
    cases q with
    | none =>
      rw [rawFrom, exec, show modeOf none = Mode.unquoted from rfl]
      by_cases hblank : c = ' '
      · rw [hblank, if_pos rfl, step_blank, Option.bind_some]
        refine (ih hcs (q := none) (by simp)).trans ?_
        rw [Option.map_map]
        congr 1
        funext p
        rw [List.append_assoc, wordTokens_none_append]
        rfl
      rw [if_neg hblank]
      cases hquote : isQuote c with
      | true =>
        rw [if_pos rfl, step_open hquote, Option.bind_some,
          ih hcs fun d hd => ⟨Option.some.inj hd ▸ hquote, rfl⟩, Option.map_map]
        simp only [← wordTokens_open hquote]
        rfl
      | false =>
        obtain ⟨hplain, htilde, hhash⟩ := plain_of_mild hc hblank hquote
        have hstep : Reader.step { word := w, bare := b, tokens := X } c =
            some { word := some (w.getD [] ++ [c]), bare := b, tokens := X } := by
          rw [step_plain rfl hplain fun _ => ⟨htilde, hhash⟩]
          simp [Reader.put, Reader.opToken]
        rw [if_neg Bool.false_ne_true, hstep, Option.bind_some]
        refine (ih hcs (q := none) (by simp)).trans ?_
        rw [Option.map_map]
        simp only [← wordTokens_put hquote]
        rfl
    | some q =>
      obtain ⟨hq, hw⟩ := hbegun q rfl
      obtain ⟨v, rfl⟩ := Option.isSome_iff_exists.mp hw
      rw [rawFrom, exec]
      by_cases hclose : c = q
      · rw [if_pos hclose, hclose, step_close hq, Option.bind_some]
        refine (ih hcs (q := none) (by simp)).trans ?_
        rw [Option.map_map]
        simp only [← wordTokens_close (q := q)]
        rfl
      · rw [if_neg hclose, step_inside hq hc hclose, Option.bind_some,
          ih hcs fun d hd => ⟨(hbegun d hd).1, rfl⟩, Option.map_map]
        simp only [← wordTokens_inside hclose]
        rfl

/-- The words of a mild text are those of the splitting, without their quotes. -/
theorem tokensFrom_rawWords (h : ∀ c ∈ text, isMild c = true) :
    tokensFrom X text =
      (rawWords text).map fun words => X ++ words.map fun part => .word (unquote part) := by
  rw [tokensFrom, rawWords, Option.map_map]
  refine (finish_exec h (q := none) (by simp)).trans ?_
  congr 1
  funext p
  show X ++ wordTokens none p.1 none ++ _ = X ++ _
  rw [List.append_assoc, wordTokens_none_append]

/-! ## The splitting -/

/-- Characters of one word, without quotes. -/
def IsBare (cs : List Char) : Prop := ∀ c ∈ cs, c ≠ ' ' ∧ isQuote c = false

theorem rawFrom_append (h : IsBare w) :
    rawFrom none (w ++ cs) = (rawFrom none cs).map fun p => (w ++ p.1, p.2) := by
  induction w with
  | nil =>
    rw [List.nil_append]
    exact (Option.map_id' ..).symm
  | cons c w ih =>
    obtain ⟨⟨hblank, hquote⟩, hw⟩ := List.forall_mem_cons.mp h
    have hnot : ¬ isQuote c = true := by rw [hquote]; exact Bool.false_ne_true
    rw [List.cons_append, rawFrom, if_neg hblank, if_neg hnot, ih hw, Option.map_map]
    rfl

theorem rawWords_blank : rawWords (' ' :: cs) = rawWords cs := by
  rw [rawWords, rawFrom, if_pos rfl, Option.map_map, rawWords]
  rfl

/-- A word without quotes and a blank after it. -/
theorem rawWords_word (h : IsBare w) (hne : w ≠ []) :
    rawWords (w ++ ' ' :: cs) = (rawWords cs).map (w :: ·) := by
  have hrest (part : List Char) : w ++ part ≠ [] :=
    fun hnil => hne (List.append_eq_nil_iff.mp hnil).1
  rw [rawWords, rawFrom_append h, rawFrom, if_pos rfl, Option.map_map, Option.map_map, rawWords,
    Option.map_map]
  congr 1
  funext p
  show (if w ++ [] = [] then _ else (w ++ []) :: _) = _
  rw [if_neg (hrest []), List.append_nil]
  rfl

/-- Several words, each with a blank after it. -/
theorem rawWords_spaced {pre : List (List Char)} (h : ∀ w ∈ pre, IsBare w ∧ w ≠ []) :
    rawWords (pre.flatMap (· ++ [' ']) ++ cs) = (rawWords cs).map (pre ++ ·) := by
  induction pre with
  | nil => exact (Option.map_id' ..).symm
  | cons w pre ih =>
    obtain ⟨⟨hbare, hne⟩, hpre⟩ := List.forall_mem_cons.mp h
    have hsplit : (w :: pre).flatMap (· ++ [' ']) ++ cs =
        w ++ ' ' :: (pre.flatMap (· ++ [' ']) ++ cs) := by
      simp
    rw [hsplit, rawWords_word hbare hne, ih hpre, Option.map_map]
    rfl

/-- Blanks before the first word. -/
theorem rawWords_dropWhile {p : Char → Bool} (h : ∀ c ∈ text, p c = true → c = ' ') :
    rawWords (text.dropWhile p) = rawWords text := by
  induction text with
  | nil => rfl
  | cons c cs ih =>
    by_cases hc : p c = true
    · rw [List.dropWhile_cons_of_pos hc, ih fun d hd => h d (List.mem_cons_of_mem _ hd),
        h c List.mem_cons_self hc, rawWords_blank]
    · rw [List.dropWhile_cons_of_neg hc]

/-- A text that begins with characters of a word. -/
theorem rawWords_append (h : IsBare w) (hne : w ≠ []) (htext : rawWords (w ++ cs) = some ws) :
    ∃ rest words, ws = (w ++ rest) :: words ∧ rawFrom none cs = some (rest, words) := by
  rw [rawWords, rawFrom_append h, Option.map_map] at htext
  obtain ⟨p, hp, rfl⟩ := Option.map_eq_some_iff.mp htext
  exact ⟨p.1, p.2, if_neg fun hnil => hne (List.append_eq_nil_iff.mp hnil).1, hp⟩

/-- Where the words of the splitting stand in the text. -/
theorem occurs_rawFrom {part : List Char} (h : rawFrom q text = some (part, ws)) :
    part <+: text ∧ (ws ≠ [] → part ++ [' '] <+: text) ∧ (∀ w ∈ ws, w <:+: text) ∧
      ∀ w ∈ ws.dropLast, w ++ [' '] <:+: text := by
  induction text generalizing q part ws with
  | nil =>
    cases q with
    | none =>
      obtain ⟨rfl, rfl⟩ := Prod.mk.inj (Option.some.inj h)
      exact ⟨List.nil_prefix, fun hne => absurd rfl hne, nofun, nofun⟩
    | some q => cases h
  | cons c cs ih =>
    have hgoes {q' : Option Char} {p : List Char × List (List Char)}
        (hp : rawFrom q' cs = some p) (hpart : (c :: p.1, p.2) = (part, ws)) :
        part <+: c :: cs ∧ (ws ≠ [] → part ++ [' '] <+: c :: cs) ∧ (∀ w ∈ ws, w <:+: c :: cs) ∧
          ∀ w ∈ ws.dropLast, w ++ [' '] <:+: c :: cs := by
      obtain ⟨rfl, rfl⟩ := Prod.mk.inj hpart
      obtain ⟨hfirst, hblank, hall, hlast⟩ := ih hp
      exact ⟨List.prefix_cons_inj c |>.mpr hfirst,
        fun hne => (List.prefix_cons_inj c).mpr (hblank hne),
        fun w hw => (hall w hw).trans (List.suffix_cons c cs).isInfix,
        fun w hw => (hlast w hw).trans (List.suffix_cons c cs).isInfix⟩
    cases q with
    | none =>
      rw [rawFrom] at h
      split at h
      next hc =>
        obtain ⟨p, hp, hpart⟩ := Option.map_eq_some_iff.mp h
        obtain ⟨rfl, rfl⟩ := Prod.mk.inj hpart
        obtain ⟨hfirst, hblank, hall, hlast⟩ := ih hp
        have htail := (List.suffix_cons c cs).isInfix
        refine ⟨List.nil_prefix, fun _ => ⟨cs, by rw [hc]; rfl⟩, ?_, ?_⟩
        · intro w hw
          split at hw
          · exact (hall w hw).trans htail
          · rcases List.mem_cons.mp hw with rfl | hw
            · exact hfirst.isInfix.trans htail
            · exact (hall w hw).trans htail
        · intro w hw
          split at hw
          · exact (hlast w hw).trans htail
          · cases hws : p.2 with
            | nil =>
              rw [hws] at hw
              exact absurd hw List.not_mem_nil
            | cons v vs =>
              rw [hws, List.dropLast_cons_cons, ← hws] at hw
              rcases List.mem_cons.mp hw with rfl | hw
              · exact (hblank (by rw [hws]; exact List.cons_ne_nil v vs)).isInfix.trans htail
              · exact (hlast w hw).trans htail
      next hc =>
        obtain ⟨p, hp, hpart⟩ := Option.map_eq_some_iff.mp h
        exact hgoes hp hpart
    | some q =>
      rw [rawFrom] at h
      obtain ⟨p, hp, hpart⟩ := Option.map_eq_some_iff.mp h
      exact hgoes hp hpart

/-- A word that is not the last is followed by a blank. -/
theorem occurs_rawWords (h : rawWords text = some ws) :
    (∀ w ∈ ws, w <:+: text) ∧ ∀ w ∈ ws.dropLast, w ++ [' '] <:+: text := by
  obtain ⟨⟨part, rest⟩, hp, rfl⟩ := Option.map_eq_some_iff.mp h
  obtain ⟨hfirst, hblank, hall, hlast⟩ := occurs_rawFrom hp
  dsimp only
  split
  · exact ⟨hall, hlast⟩
  · refine ⟨List.forall_mem_cons.mpr ⟨hfirst.isInfix, hall⟩, fun w hw => ?_⟩
    cases rest with
    | nil => exact absurd hw List.not_mem_nil
    | cons v vs =>
      rw [List.dropLast_cons_cons] at hw
      rcases List.mem_cons.mp hw with rfl | hw
      · exact (hblank (List.cons_ne_nil v vs)).isInfix
      · exact hlast w hw

/-! ## Quote removal -/

theorem unquote_append (h : ∀ c ∈ w, isQuote c = false) :
    unquote (w ++ cs) = w ++ unquote cs := by
  induction w with
  | nil => rfl
  | cons c w ih =>
    obtain ⟨hquote, hw⟩ := List.forall_mem_cons.mp h
    have hnot : ¬ isQuote c = true := by rw [hquote]; exact Bool.false_ne_true
    have ih := ih hw
    rw [unquote] at ih
    rw [List.cons_append, unquote, unquoteFrom, if_neg hnot, ih]
    rfl

theorem unquote_eq_self (h : ∀ c ∈ w, isQuote c = false) : unquote w = w := by
  have happend : unquote (w ++ []) = w ++ unquote [] := unquote_append h
  rwa [List.append_nil, show unquote [] = [] from rfl, List.append_nil] at happend

end BackupCenter.Lib.Shell
