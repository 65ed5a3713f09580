import BackupCenter.Lib.Delimited
import Mathlib.Tactic.Linarith

/-!
# JSON objects of strings

What `json.dumps(…, ensure_ascii=True, separators=(",", ":"))` writes for a dictionary of strings,
and what `json.loads` reads back from such a text: every character is escaped so that it can be
found again, if need be as a pair of surrogates.
-/
namespace BackupCenter.Lib.JsonText

/-! ## Hexadecimal digits -/

def hexValue (c : Char) : Option Nat :=
  if '0' ≤ c ∧ c ≤ '9' then some (c.toNat - 48)
  else if 'a' ≤ c ∧ c ≤ 'f' then some (c.toNat - 87)
  else if 'A' ≤ c ∧ c ≤ 'F' then some (c.toNat - 55)
  else none

/-- `'{0:04x}'` -/
def hex4 (n : Nat) : List Char :=
  [(n / 4096 % 16).digitChar, (n / 256 % 16).digitChar, (n / 16 % 16).digitChar,
    (n % 16).digitChar]

/-- The four digits at the beginning of a text. -/
def readHex4 : List Char → Option (Nat × List Char)
  | a :: b :: c :: d :: rest => do
    let a ← hexValue a
    let b ← hexValue b
    let c ← hexValue c
    let d ← hexValue d
    return (4096 * a + 256 * b + 16 * c + d, rest)
  | _ => none

/-! ## Strings -/

/-- `\uXXXX` -/
def unicodeEscape (n : Nat) : List Char := '\\' :: 'u' :: hex4 n

/-- `py_encode_basestring_ascii`, for one character -/
def escapeChar (c : Char) : List Char :=
  if c = '\\' then ['\\', '\\']
  else if c = '"' then ['\\', '"']
  else if c = '\n' then ['\\', 'n']
  else if c = '\r' then ['\\', 'r']
  else if c = '\t' then ['\\', 't']
  else if c = '\x0c' then ['\\', 'f']
  else if c = '\x08' then ['\\', 'b']
  else if 32 ≤ c.toNat ∧ c.toNat ≤ 126 then [c]
  else if c.toNat < 0x10000 then unicodeEscape c.toNat
  else
    unicodeEscape (0xd800 + (c.toNat - 0x10000) / 1024) ++
      unicodeEscape (0xdc00 + (c.toNat - 0x10000) % 1024)

def quoted (s : List Char) : List Char := '"' :: s.flatMap escapeChar ++ ['"']

def simpleEscape : Char → Option Char
  | '"' => some '"'
  | '\\' => some '\\'
  | '/' => some '/'
  | 'b' => some '\x08'
  | 'f' => some '\x0c'
  | 'n' => some '\n'
  | 'r' => some '\r'
  | 't' => some '\t'
  | _ => none

/-- `\u` has been read; a lone surrogate is no character here. -/
def readUnicode (text : List Char) : Option (Char × List Char) := do
  let (high, rest) ← readHex4 text
  if 0xd800 ≤ high ∧ high < 0xdc00 then
    match rest with
    | '\\' :: 'u' :: rest =>
      let (low, rest) ← readHex4 rest
      if 0xdc00 ≤ low ∧ low < 0xe000 then
        return (Char.ofNat (0x10000 + (high - 0xd800) * 1024 + (low - 0xdc00)), rest)
      else none
    | _ => none
  else if 0xdc00 ≤ high ∧ high < 0xe000 then none
  else return (Char.ofNat high, rest)

/-- One character of a string. -/
def readChar : List Char → Option (Char × List Char)
  | '\\' :: 'u' :: rest => readUnicode rest
  | '\\' :: c :: rest => (simpleEscape c).map (·, rest)
  | c :: rest => if c.toNat < 32 then none else some (c, rest)
  | [] => none

def readQuoted : List Char → Option (List Char × List Char)
  | '"' :: rest => readString readChar rest.length rest
  | _ => none

/-! ## Objects -/

abbrev Members := List (List Char × List Char)

def memberText (m : List Char × List Char) : List Char := quoted m.1 ++ ':' :: quoted m.2

/-- `json.dumps` of a dictionary of strings -/
def dumps (ms : Members) : List Char := '{' :: writeItems memberText ms

def readMember (text : List Char) : Option ((List Char × List Char) × List Char) := do
  let (key, rest) ← readQuoted text
  match rest with
  | ':' :: rest =>
    let (value, rest) ← readQuoted rest
    return ((key, value), rest)
  | _ => none

/-- What `json.loads` makes of a text that `dumps` may have written. -/
def loads : List Char → Option Members
  | ['{', '}'] => some []
  | '{' :: rest =>
    match readItems readMember rest.length rest with
    | some (ms, []) => some ms
    | _ => none
  | _ => none

/-! ## Reading back -/

theorem hexValue_digitChar {n : Nat} (h : n < 16) : hexValue n.digitChar = some n := by
  have hall : ∀ k < 16, hexValue (Nat.digitChar k) = some k := by decide
  exact hall n h

theorem readHex4_hex4 {n : Nat} (h : n < 0x10000) (rest : List Char) :
    readHex4 (hex4 n ++ rest) = some (n, rest) := by
  have hdigit : ∀ k, hexValue (k % 16).digitChar = some (k % 16) :=
    fun k => hexValue_digitChar (Nat.mod_lt k (by decide))
  simp only [hex4, readHex4, List.cons_append, List.nil_append, hdigit, Option.bind_eq_bind,
    Option.bind_some, Option.pure_def, Option.some.injEq, Prod.mk.injEq, and_true]
  omega

/-- A character is no surrogate. -/
theorem toNat_valid (c : Char) : c.toNat < 0xd800 ∨ 0xdfff < c.toNat ∧ c.toNat < 0x110000 := c.valid

theorem not_surrogate (c : Char) : ¬ (0xd800 ≤ c.toNat ∧ c.toNat < 0xdc00) ∧
    ¬ (0xdc00 ≤ c.toNat ∧ c.toNat < 0xe000) := by
  have hvalid := toNat_valid c
  constructor <;> omega

theorem readUnicode_single {c : Char} {text rest : List Char}
    (h : readHex4 text = some (c.toNat, rest)) : readUnicode text = some (c, rest) := by
  obtain ⟨hhigh, hlow⟩ := not_surrogate c
  unfold readUnicode
  rw [h, Option.bind_eq_bind, Option.bind_some]
  dsimp only
  rw [if_neg hhigh, if_neg hlow]
  exact congrArg (fun d => some (d, rest)) (Char.ofNat_toNat c)

theorem readUnicode_surrogates {high low : Nat} {text rest : List Char}
    (hhigh : 0xd800 ≤ high ∧ high < 0xdc00) (hlow : 0xdc00 ≤ low ∧ low < 0xe000)
    (h : readHex4 text = some (high, unicodeEscape low ++ rest)) :
    readUnicode text =
      some (Char.ofNat (0x10000 + (high - 0xd800) * 1024 + (low - 0xdc00)), rest) := by
  unfold readUnicode
  rw [h, Option.bind_eq_bind, Option.bind_some]
  dsimp only
  rw [if_pos hhigh]
  simp only [unicodeEscape, List.cons_append]
  rw [readHex4_hex4 (by omega), Option.bind_some]
  dsimp only
  rw [if_pos hlow]
  rfl

theorem readUnicode_pair {c : Char} (h : ¬ c.toNat < 0x10000) (rest : List Char) :
    readUnicode (hex4 (0xd800 + (c.toNat - 0x10000) / 1024) ++
      (unicodeEscape (0xdc00 + (c.toNat - 0x10000) % 1024) ++ rest)) = some (c, rest) := by
  have hvalid := toNat_valid c
  have hsum : 0x10000 + (0xd800 + (c.toNat - 0x10000) / 1024 - 0xd800) * 1024 +
      (0xdc00 + (c.toNat - 0x10000) % 1024 - 0xdc00) = c.toNat := by omega
  have hread := readHex4_hex4 (n := 0xd800 + (c.toNat - 0x10000) / 1024) (by omega)
    (unicodeEscape (0xdc00 + (c.toNat - 0x10000) % 1024) ++ rest)
  rw [readUnicode_surrogates (by omega) (by omega) hread, hsum, Char.ofNat_toNat]

theorem readChar_escapeChar (c : Char) (rest : List Char) :
    readChar (escapeChar c ++ rest) = some (c, rest) := by
  unfold escapeChar
  split_ifs with hbackslash hquote hnewline hreturn htab hfeed hback hplain hbasic
  · rw [hbackslash]; rfl
  · rw [hquote]; rfl
  · rw [hnewline]; rfl
  · rw [hreturn]; rfl
  · rw [htab]; rfl
  · rw [hfeed]; rfl
  · rw [hback]; rfl
  · rw [List.singleton_append, readChar]
    · exact if_neg (by omega)
    · exact fun _ he => absurd he hbackslash
    · exact fun _ _ he => absurd he hbackslash
  · exact readUnicode_single (readHex4_hex4 hbasic rest)
  · rw [List.append_assoc]
    exact readUnicode_pair hbasic rest

theorem escapeChar_head (c : Char) : (escapeChar c).head? ≠ some '"' := by
  unfold escapeChar unicodeEscape
  split_ifs <;> simp_all

theorem escapeChar_ne_nil (c : Char) : escapeChar c ≠ [] := by
  unfold escapeChar unicodeEscape
  split_ifs <;> simp

theorem readQuoted_quoted (s rest : List Char) :
    readQuoted (quoted s ++ rest) = some (s, rest) := by
  have hlength := length_le_flatMap escapeChar_ne_nil s
  have hshape : quoted s ++ rest = '"' :: (s.flatMap escapeChar ++ '"' :: rest) := by
    simp [quoted]
  rw [hshape, readQuoted]
  apply readString_flatMap rest (fun c _ text => readChar_escapeChar c text) escapeChar_head
    escapeChar_ne_nil
  rw [List.length_append]
  omega

theorem readMember_memberText (m : List Char × List Char) (rest : List Char) :
    readMember (memberText m ++ rest) = some (m, rest) := by
  rw [memberText, List.append_assoc, List.cons_append, readMember, readQuoted_quoted]
  simp only [Option.bind_eq_bind, Option.bind_some, readQuoted_quoted, Option.pure_def]

/-- What is written is read back. -/
theorem loads_dumps (ms : Members) : loads (dumps ms) = some ms := by
  cases ms with
  | nil => rfl
  | cons m ms =>
    have hlength := @length_le_writeItems _ memberText (m :: ms) fun _ => List.cons_ne_nil _ _
    have hread := readItems_writeItems (P := fun _ => True)
      (fun m rest _ => readMember_memberText m rest) (fun _ _ => trivial) (List.cons_ne_nil m ms)
      [] hlength
    rw [List.append_nil] at hread
    rw [dumps, loads, hread]
    intro he
    rw [he] at hread
    exact nomatch (hread : none = _)

/-- Different dictionaries are written differently. -/
theorem dumps_injective : Function.Injective dumps := by
  intro ms ms' h
  exact Option.some.inj ((loads_dumps ms).symm.trans ((congrArg loads h).trans (loads_dumps ms')))

end BackupCenter.Lib.JsonText
