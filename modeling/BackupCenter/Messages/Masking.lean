import BackupCenter.Lib.RegexRuns

/-!
# The masks for passwords

The two replacements that take passwords out of a message: the one for the variables that hand a
password to the clients of a database, and the one for their options.
-/
namespace BackupCenter.Messages

open BackupCenter.Lib
open BackupCenter.Lib.Regex

/-- The tables that texts are read with, as far as words are concerned. -/
structure WordTables extends CharTables where
  isWord_ascii : ∀ c : Char, c.toNat < 128 → isWord c = (c.isAlphanum || c == '_')
  /-- the long s, which a pattern in either case takes for an s -/
  isWord_longS : isWord 'ſ' = true

/-- The tables on ASCII text and the long s. -/
def WordTables.ascii : WordTables where
  toCharTables :=
    { CharTables.ascii with isWord := fun c => c.isAlphanum || c == '_' || c == 'ſ' }
  isWord_ascii c hc := by
    have hne : (c == 'ſ') = false := by
      refine beq_false_of_ne ?_
      rintro rfl
      exact absurd hc (by decide)
    show (c.isAlphanum || c == '_' || c == 'ſ') = _
    rw [hne, Bool.or_false]
  isWord_longS := rfl

variable (w : WordTables)

/-! ## The patterns -/

/-- `(?i)\b(PGPASSWORD|MYSQL_PWD)` -/
def passwordKey : Regex :=
  seq (wordEdge w.isWord) (alt (itext "PGPASSWORD") (itext "MYSQL_PWD"))

/-- `=('([^']*)'|\S+)` -/
def passwordValue : Regex :=
  seq (chr (· == '=')) (alt (quoted '\'') (plus (chr fun c => !isSpace c)))

def hidePasswords (text : List Char) : List Char :=
  subKeepChars (passwordKey w) passwordValue "=***" text

/-- `(?i)(--password=|-p)` -/
def optionKey : Regex := alt (itext "--password=") (itext "-p")

/-- `'?[^'\s]+` -/
def optionValue : Regex :=
  seq (opt (chr (· == '\''))) (plus (chr fun c => c != '\'' && !isSpace c))

def hideOptions (text : List Char) : List Char := subKeepChars optionKey optionValue "***" text

/-! ## Where a password ends -/

/-- The end of the value after the equals sign, where the pattern takes one. -/
def valueEnd : List Char → Option Place
  | [] => none
  | c :: cs =>
    if isSpace c then none
    else match if c == '\'' then cs.dropWhile (· != '\'') else [] with
      | _ :: rest => some ⟨some '\'', rest⟩
      | [] => some (.behind (some c) (cs.takeWhile fun c => !isSpace c)
          (cs.dropWhile fun c => !isSpace c))

theorem first_value (b : Option Char) (cs : List Char) :
    (alt (quoted '\'') (plus (chr fun c => !isSpace c))).first ⟨b, cs⟩ = valueEnd cs := by
  rw [first, ends]
  cases cs with
  | nil => rfl
  | cons c cs =>
    rw [ends_quoted, ends_plus_chr, List.head?_append]
    dsimp only [valueEnd]
    have hrun : (if !isSpace c then stops (fun c => !isSpace c) (some c) cs else []).head? =
        if isSpace c then none else some (.behind (some c) (cs.takeWhile fun c => !isSpace c)
          (cs.dropWhile fun c => !isSpace c)) := by
      cases isSpace c with
      | true => rfl
      | false => exact head_stops ..
    rw [hrun]
    by_cases hquote : c = '\''
    · have hspace : isSpace c = false := by rw [hquote]; rfl
      simp only [hquote, beq_self_eq_true, if_true]
      rw [hquote] at hspace
      rw [hspace]
      cases cs.dropWhile (· != '\'') <;> rfl
    · have hbeq : (c == '\'') = false := beq_false_of_ne hquote
      simp only [hbeq, Bool.false_eq_true, if_false]
      rfl

/-- The name of a variable at the beginning of the text, in any case. -/
def keyOf (cs : List Char) : Option (List Char) :=
  ["PGPASSWORD".toList, "MYSQL_PWD".toList].find? fun key => beginsWith sameLetter key cs

theorem ends_keys (b : Option Char) (cs : List Char) :
    (alt (itext "PGPASSWORD") (itext "MYSQL_PWD")).ends ⟨b, cs⟩ =
      ((keyOf cs).map fun key => .behind b (cs.take key.length) (cs.drop key.length)).toList := by
  have hone (hpg : beginsWith sameLetter "PGPASSWORD".toList cs = true) :
      beginsWith sameLetter "MYSQL_PWD".toList cs = false := by
    rw [String.toList_ofList] at hpg ⊢
    cases cs with
    | nil => rfl
    | cons c cs =>
      have hp : sameLetter 'P' c = true := (Bool.and_eq_true_iff.mp hpg).1
      have hc : c.toLower = 'p' := by
        simpa [sameLetter] using hp
      have hm : sameLetter 'M' c = false := by
        simp [sameLetter, hc]
      rw [beginsWith, hm, Bool.false_and]
  rw [ends, ends_itext, ends_itext, keyOf, List.find?_cons, List.find?_cons, List.find?_nil]
  cases hpg : beginsWith sameLetter "PGPASSWORD".toList cs with
  | true =>
    rw [hone hpg]
    rfl
  | false => cases beginsWith sameLetter "MYSQL_PWD".toList cs <;> rfl

/-- A match of the mask at a place: the name, and where the match ends. -/
def passwordAt (b : Option Char) (cs : List Char) : Option (List Char × Place) :=
  if b.any w.isWord != cs.head?.any w.isWord then
    (keyOf cs).bind fun key =>
      match cs.drop key.length with
      | '=' :: value => (valueEnd value).map (cs.take key.length, ·)
      | _ => none
  else none

variable {w} {b : Option Char} {cs key : List Char} {e : Place}

theorem ends_passwordKey (b : Option Char) (cs : List Char) :
    (passwordKey w).ends ⟨b, cs⟩ =
      if b.any w.isWord != cs.head?.any w.isWord then
        ((keyOf cs).map fun key => .behind b (cs.take key.length) (cs.drop key.length)).toList
      else [] := by
  rw [passwordKey, ends, wordEdge, ends]
  dsimp only
  split
  · rw [List.flatMap_singleton, ends_keys]
  · rfl

theorem first_passwordValue (a : Place) :
    passwordValue.first a =
      match a.rest with
      | '=' :: value => valueEnd value
      | _ => none := by
  obtain ⟨b, cs⟩ := a
  rw [passwordValue, first, ends]
  cases cs with
  | nil => rfl
  | cons c cs =>
    rw [ends]
    by_cases hc : c = '='
    · rw [hc, if_pos (beq_self_eq_true '='), List.flatMap_singleton]
      exact first_value ..
    · rw [if_neg (by simpa using hc)]
      split
      next heq => exact absurd (List.cons.inj heq).1 hc
      next => rfl

theorem keptEnds_of_none (h : passwordAt w b cs = none) :
    keptEnds (passwordKey w) passwordValue ⟨b, cs⟩ = none := by
  unfold passwordAt at h
  have hends := ends_passwordKey (w := w) b cs
  split at h
  next hedge =>
    rw [if_pos hedge] at hends
    cases hkey : keyOf cs with
    | none =>
      rw [hkey] at hends
      exact keptEnds_of_nil hends
    | some key =>
      rw [hkey] at hends h
      rw [keptEnds_of_one hends, first_passwordValue]
      dsimp only [Option.bind_some, Place.behind] at h ⊢
      split at h
      next hdrop =>
        rw [hdrop]
        rw [Option.map_eq_none_iff] at h ⊢
        exact h
      next hdrop => rfl
  next hedge =>
    rw [if_neg hedge] at hends
    exact keptEnds_of_nil hends

theorem keptEnds_of_some (h : passwordAt w b cs = some (key, e)) :
    ∃ mid value, keptEnds (passwordKey w) passwordValue ⟨b, cs⟩ = some (mid, e) ∧
      cs = key ++ mid.rest ∧ mid.rest = '=' :: value ∧ valueEnd value = some e := by
  unfold passwordAt at h
  have hends := ends_passwordKey (w := w) b cs
  split at h
  next hedge =>
    rw [if_pos hedge] at hends
    cases hkey : keyOf cs with
    | none => simp [hkey] at h
    | some name =>
      rw [hkey] at hends h
      dsimp only [Option.bind_some] at h
      split at h
      next value hdrop =>
        obtain ⟨f, hf, heq⟩ := Option.map_eq_some_iff.mp h
        obtain ⟨rfl, rfl⟩ := Prod.mk.inj heq
        refine ⟨.behind b (cs.take name.length) (cs.drop name.length), value, ?_,
          (List.take_append_drop ..).symm, hdrop, hf⟩
        have hfirst : passwordValue.first
            (.behind b (cs.take name.length) (cs.drop name.length)) = some f := by
          rw [first_passwordValue, hdrop]
          exact hf
        rw [keptEnds_of_one hends, hfirst]
        rfl
      next => simp at h
  next => simp at h

/-! ## What the mask does -/

def hideFrom (w : WordTables) (b : Option Char) (cs : List Char) : List Char :=
  replaceFrom (keptNew (passwordKey w) passwordValue "=***") b 0 cs

theorem hidePasswords_eq (cs : List Char) : hidePasswords w cs = hideFrom w none cs := rfl

@[simp] theorem hideFrom_nil : hideFrom w b [] = [] := rfl

theorem hideFrom_of_none {c : Char} (h : passwordAt w b (c :: cs) = none) :
    hideFrom w b (c :: cs) = c :: hideFrom w (some c) cs :=
  replaceFrom_kept_none (keptEnds_of_none h)

theorem hideFrom_of_some (h : passwordAt w b cs = some (key, e)) :
    hideFrom w b cs = key ++ ("=***".toList ++ hideFrom w e.before e.rest) := by
  obtain ⟨mid, value, hends, hcs, hmid, hvalue⟩ := keptEnds_of_some h
  have hreach := reaches_of_keptEnds hends
  have hfirst := first_value none value
  rw [hvalue, first] at hfirst
  obtain ⟨taken, htaken, -⟩ := ends_reaches _ _ _ (List.mem_of_head? hfirst)
  have hrest : mid.rest = ('=' :: taken) ++ e.rest := by
    rw [hmid, List.cons_append]
    exact congrArg _ htaken
  exact replaceFrom_kept_some hends hcs hrest (List.cons_ne_nil _ _)

/-- The value is shorter than what it is read from. -/
theorem length_of_passwordAt (h : passwordAt w b cs = some (key, e)) :
    e.rest.length < cs.length := by
  obtain ⟨mid, value, hends, hcs, hmid, hvalue⟩ := keptEnds_of_some h
  have hfirst := first_value none value
  rw [hvalue, first] at hfirst
  have hsuffix := (ends_suffix _ _ _ (List.mem_of_head? hfirst)).length_le
  rw [hcs, hmid, List.length_append, List.length_cons]
  dsimp only at hsuffix
  omega

end BackupCenter.Messages
