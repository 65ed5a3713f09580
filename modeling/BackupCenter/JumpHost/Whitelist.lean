import BackupCenter.JumpHost.Console
import BackupCenter.Lib.Options
import BackupCenter.Lib.Shell.Quotation
import BackupCenter.Lib.Shell.RawWords

/-!
# What the console lets through

The policy of the console looks at the characters of a command, the shell of the jump host at its
words. They agree on the texts whose words are written out, and on no others.
-/
namespace BackupCenter.JumpHost.Console

open BackupCenter.Lib
open BackupCenter.Lib.Shell BackupCenter.Lib.Options

/-! ## The promise of the policy -/

/-- The program that a text of the policy names. -/
def programOf (text : Text) : Text := text.takeWhile (· ≠ ' ')

def safePrograms : List Text := safeCommandPrefixes.map programOf

def forbiddenPrograms : List Text := forbiddenCommandTokens.map programOf

/-- The words are a command that the policy allows, where `takesValue` tells which options of `ping`
take a value. -/
def Allowed (takesValue : Char → Bool) (words : List Text) : Prop :=
  ∃ program args, words = program :: args ∧ program ∈ safePrograms ∧
    (program = "cat".toList → args = ["/etc/os-release".toList]) ∧
    (∀ word ∈ words, word ∉ forbiddenPrograms) ∧
    (program = "ping".toList → Gives takesValue 'c' args)

/-- The shell reads the line as `timeout`, its limit, and an allowed command. -/
def Permitted (takesValue : Char → Bool) (line : Text) : Prop :=
  ∃ limit words, tokensOf line = some (("timeout".toList :: limit :: words).map .word) ∧
    limit ∉ forbiddenPrograms ∧ Allowed takesValue words

/-- The first word is a program of the policy as it is written there, with empty quotations after it
at most. -/
def Named (words : List Text) (program : Text) : Prop :=
  program ∈ safePrograms ∧ ∃ rest, words.head? = some (program ++ rest) ∧ unquote rest = []

/-- No forbidden program is written with quotes, or as the last word, and none is `chmod`. -/
def NoForbidden (words : List Text) : Prop :=
  (∀ word ∈ words, (∃ c ∈ word, isQuote c = true) → unquote word ∉ forbiddenPrograms) ∧
    (∀ word, words.getLast? = some word → word ∉ forbiddenPrograms) ∧ "chmod".toList ∉ words

/-- The texts on which the policy keeps its promise. -/
def Regular (takesValue : Char → Bool) (text : Text) : Prop :=
  ∃ words, rawWords text = some words ∧
    ("ssh ".toList <+: lower text ∨ ∃ program, Named words program) ∧
    ("cat".toList <+: text → ∃ rest, words = ["cat".toList, "/etc/os-release".toList ++ rest] ∧
      unquote rest = []) ∧
    NoForbidden words ∧
    ("ping".toList <+: text → "-c".toList <:+: text →
      Gives takesValue 'c' (words.tail.map unquote))

/-! ## Texts that are let through -/

/-- What the tests of the policy have found out about a text. -/
structure Accepted (text : Text) : Prop where
  chars : ∀ c ∈ text, isSafeCommandChar c = true
  tokens : ∀ token ∈ forbiddenCommandTokens, ¬ token <:+: lower text
  starts : ∃ start ∈ safeCommandPrefixes, start <+: lower text

section Accepting

variable {Host : Type} {remote : Host → Text → Nat → Except Text (Text × Text)}
  {setting : Option String} {jumpHost : Option Host} {command : Option Text} {timeout : Nat}
  {e : Execution}

theorem safe_of_stripped {text : Text} (h : safeCommandRe (stripChars text) = true) :
    ∀ c ∈ stripChars text, isSafeCommandChar c = true := by
  have hlast : (stripChars text).getLast? ≠ some '\n' := by
    intro hlast
    rw [stripChars, List.getLast?_reverse] at hlast
    exact absurd (head_dropWhile hlast) (by decide)
  unfold safeCommandRe at h
  rw [if_neg hlast] at h
  simp only [Bool.and_eq_true] at h
  exact List.all_eq_true.mp h.2

theorem accepted_of_ok (h : execConsoleCommand remote setting jumpHost command timeout = .ok e) :
    Accepted (stripChars (command.getD [])) ∧
      e.line = execCommand setting (stripChars (command.getD [])) timeout := by
  unfold execConsoleCommand at h
  dsimp only at h
  split at h
  · cases h
  split at h
  · cases h
  next hchars =>
  split at h
  · cases h
  next htokens =>
  split at h
  · cases h
  next hstarts =>
  cases jumpHost with
  | none => cases h
  | some host =>
    obtain rfl := Except.ok.inj h
    refine ⟨⟨safe_of_stripped (by simpa using hchars), ?_, ?_⟩, rfl⟩
    · simpa using htokens
    · simpa using hstarts

end Accepting

/-! ## The words of the line -/

variable {takesValue : Char → Bool} {text : Text} {words : List Text}

theorem mild_of_safe {c : Char} (h : isSafeCommandChar c = true) : isMild c = true := by
  have hcases : isUnquotable c = true ∨ c = ' ' ∨ c = '"' ∨ c = '\'' := by
    simp only [isSafeCommandChar, isUnquotable, Bool.or_eq_true] at h ⊢
    rcases h with h | h
    · exact .inl (.inl h)
    · simp at h ⊢
      tauto
  rcases hcases with h | rfl | rfl | rfl
  · obtain ⟨hplain, -, htilde, hhash⟩ := isPlain_of_unquotable h
    exact isMild_iff.mpr (.inl ⟨hplain, htilde, hhash⟩)
  all_goals decide

theorem isWord_toString (n : Nat) : IsWord (toString n).toList := by
  have htext : (toString n).toList = Nat.toDigits 10 n := Nat.toList_repr
  rw [htext]
  refine isWord_of_unquotable (Nat.toDigits_ne_nil) fun c hc => ?_
  have hdigit := Nat.isDigit_of_mem_toDigits (by decide) (by decide) hc
  simp [isUnquotable, Char.isAlphanum, hdigit]

/-- No forbidden program is a number. -/
theorem toString_not_forbidden (n : Nat) : (toString n).toList ∉ forbiddenPrograms := by
  intro h
  have hletters : forbiddenPrograms.all (fun f => f.any fun c => !c.isDigit) = true := by decide
  obtain ⟨c, hc, hnot⟩ := List.any_eq_true.mp (List.all_eq_true.mp hletters _ h)
  have htext : (toString n).toList = Nat.toDigits 10 n := Nat.toList_repr
  rw [htext] at hc
  rw [Nat.isDigit_of_mem_toDigits (by decide) (by decide) hc] at hnot
  exact absurd hnot (by decide)

/-- The shell reads the words of the command after `timeout` and the limit. -/
theorem permitted_iff_allowed {cmd : Text} (hmild : ∀ c ∈ cmd, isMild c = true) (limit : Nat) :
    Permitted takesValue ("timeout ".toList ++ (toString limit).toList ++ ' ' :: cmd) ↔
      ∃ words, rawWords cmd = some words ∧ Allowed takesValue (words.map unquote) := by
  have htimeout : IsWord "timeout".toList :=
    isWord_of_unquotable (by decide) (List.all_eq_true.mp (by decide))
  have hline : tokensOf ("timeout ".toList ++ (toString limit).toList ++ ' ' :: cmd) =
      (rawWords cmd).map fun words =>
        ("timeout".toList :: (toString limit).toList :: words.map unquote).map .word := by
    have hsplit : "timeout ".toList ++ (toString limit).toList ++ ' ' :: cmd =
        "timeout".toList ++ ' ' :: ((toString limit).toList ++ ' ' :: cmd) := by
      rw [List.append_assoc]
      rfl
    rw [hsplit, tokensOf, tokensFrom_word htimeout, tokensFrom_word (isWord_toString limit),
      tokensFrom_rawWords hmild]
    congr 1
    funext words
    simp [Function.comp_def]
  rw [Permitted, hline]
  constructor
  · rintro ⟨limit', allowed, htokens, -, hallowed⟩
    obtain ⟨words, hwords, he⟩ := Option.map_eq_some_iff.mp htokens
    have hmap := List.map_injective_iff.mpr (fun _ _ => Token.word.inj) he
    obtain ⟨-, hmap⟩ := List.cons.inj hmap
    obtain ⟨-, hmap⟩ := List.cons.inj hmap
    exact ⟨words, hwords, hmap ▸ hallowed⟩
  · rintro ⟨words, hwords, hallowed⟩
    exact ⟨_, _, by rw [hwords]; rfl, toString_not_forbidden limit, hallowed⟩

/-! ## Upper and lower case -/

theorem lower_append (a b : Text) : lower (a ++ b) = lower a ++ lower b := List.map_append

/-- The characters of which the lower-case form of a text begins with a given one. -/
theorem exists_start {start : Text} (h : start <+: lower text) :
    ∃ first rest, text = first ++ rest ∧ lower first = start := by
  obtain ⟨tail, htail⟩ := h
  obtain ⟨first, rest, htext, hfirst, -⟩ := List.map_eq_append_iff.mp htail.symm
  exact ⟨first, rest, htext, hfirst⟩

theorem isBare_of_lower {word : Text} (h : IsBare (lower word)) : IsBare word := by
  intro c hc
  have hlower := h _ (List.mem_map_of_mem hc)
  constructor
  · rintro rfl
    exact hlower.1 (by decide)
  · have hcases : isQuote c = true ↔ c = '\'' ∨ c = '"' := by simp [isQuote]
    refine Bool.eq_false_iff.mpr fun hquote => ?_
    rcases hcases.mp hquote with rfl | rfl
    · exact absurd hlower.2 (by decide)
    · exact absurd hlower.2 (by decide)

/-- A check of the characters of a text. -/
theorem isBare_of_all {word : Text} (h : word.all (fun c => c != ' ' && !isQuote c) = true) :
    IsBare word := by
  intro c hc
  simpa using List.all_eq_true.mp h c hc

theorem safe_isBare : ∀ program ∈ safePrograms, IsBare program ∧ program ≠ [] ∧
    lower program = program := by
  have hall : safePrograms.all (fun program =>
      program.all (fun c => c != ' ' && !isQuote c) && program != [] &&
        lower program == program) = true := by
    decide
  intro program hprogram
  have hcheck := List.all_eq_true.mp hall program hprogram
  simp only [Bool.and_eq_true] at hcheck
  exact ⟨isBare_of_all hcheck.1.1, by simpa using hcheck.1.2, by simpa using hcheck.2⟩

/-! ## Forbidden programs -/

theorem forbidden_plain : ∀ program ∈ forbiddenPrograms, lower program = program ∧
    ∀ c ∈ program, isQuote c = false := by
  have hall : forbiddenPrograms.all (fun program =>
      lower program == program && program.all fun c => !isQuote c) = true := by
    decide
  intro program hprogram
  simpa using List.all_eq_true.mp hall program hprogram

/-- The token of a forbidden program is its name or its name and a blank, but for `chmod`. -/
theorem token_of_forbidden : ∀ program ∈ forbiddenPrograms, program ∈ forbiddenCommandTokens ∨
    program ++ [' '] ∈ forbiddenCommandTokens ∨ program = "chmod".toList := by
  have hall : forbiddenPrograms.all (fun program => forbiddenCommandTokens.contains program ||
      forbiddenCommandTokens.contains (program ++ [' ']) || program == "chmod".toList) = true := by
    decide
  intro program hprogram
  simpa [or_assoc] using List.all_eq_true.mp hall program hprogram

/-- What the tokens leave: a forbidden program in quotes, as the last word, or `chmod`. -/
theorem noForbidden_iff (h : Accepted text) (hwords : rawWords text = some words) :
    NoForbidden words ↔ ∀ word ∈ words.map unquote, word ∉ forbiddenPrograms := by
  obtain ⟨hall, hblank⟩ := occurs_rawWords hwords
  have hlower {part : Text} (hpart : part <:+: text) : lower part <:+: lower text := hpart.map _
  constructor
  · rintro ⟨hquoted, hlast, hchmod⟩ word hword hforbidden
    obtain ⟨raw, hraw, rfl⟩ := List.mem_map.mp hword
    by_cases hquote : ∃ c ∈ raw, isQuote c = true
    · exact hquoted raw hraw hquote hforbidden
    have hplain : ∀ c ∈ raw, isQuote c = false := by simpa using hquote
    rw [unquote_eq_self hplain] at hforbidden
    have hkept := (forbidden_plain raw hforbidden).1
    rcases token_of_forbidden raw hforbidden with htoken | htoken | rfl
    · have hinside := hlower (hall raw hraw)
      rw [hkept] at hinside
      exact h.tokens raw htoken hinside
    · have hne : words ≠ [] := List.ne_nil_of_mem hraw
      rw [← List.dropLast_concat_getLast hne] at hraw
      rcases List.mem_append.mp hraw with hraw | hraw
      · have hinside := hlower (hblank raw hraw)
        rw [lower_append, hkept] at hinside
        exact h.tokens _ htoken hinside
      · rw [List.mem_singleton.mp hraw] at hforbidden
        exact hlast _ (List.getLast?_eq_some_getLast hne) hforbidden
    · exact hchmod hraw
  · intro hnone
    have hbare : ∀ word ∈ words, word ∉ forbiddenPrograms := by
      intro word hword hforbidden
      have hread := unquote_eq_self (forbidden_plain word hforbidden).2
      exact hnone word (hread ▸ List.mem_map_of_mem hword) hforbidden
    refine ⟨fun word hword _ => hnone _ (List.mem_map_of_mem hword),
      fun word hlast => hbare word (List.mem_of_getLast? hlast), fun hchmod => ?_⟩
    exact hbare _ hchmod (by decide)

/-! ## The first word -/

theorem not_quote_of_bare {word : Text} (h : IsBare word) : ∀ c ∈ word, isQuote c = false :=
  fun c hc => (h c hc).2

/-- A prefix of the policy is a name that begins no other, or goes on with a blank. -/
theorem prefix_shape : ∀ start ∈ safeCommandPrefixes, programOf start ∈ safePrograms ∧
    ((∀ program ∈ safePrograms, programOf start <+: program → programOf start = program) ∨
      programOf start ++ [' '] <+: start) := by
  have hall : safeCommandPrefixes.all (fun start =>
      (safePrograms.all fun program =>
        !(programOf start).isPrefixOf program || programOf start == program) ||
      (programOf start ++ [' ']).isPrefixOf start) = true := by
    decide
  intro start hstart
  refine ⟨List.mem_map_of_mem hstart, ?_⟩
  have hcheck := List.all_eq_true.mp hall start hstart
  rw [Bool.or_eq_true, List.isPrefixOf_iff_prefix] at hcheck
  refine hcheck.imp (fun h program hprogram hle => ?_) id
  have hcase := List.all_eq_true.mp h program hprogram
  rw [List.isPrefixOf_iff_prefix.mpr hle] at hcase
  simpa using hcase

/-- Only a blank becomes one in lower case. -/
theorem eq_blank_of_toLower {c : Char} (h : c.toLower = ' ') : c = ' ' := by
  by_cases hupper : c.val ≥ 'A'.val ∧ c.val ≤ 'Z'.val
  · have hval : c.toLower.val = c.val + 32 := by
      unfold Char.toLower
      rw [dif_pos hupper]
      rfl
    rw [h] at hval
    have hlo : 65 ≤ c.val.toNat := hupper.1
    have hhi : c.val.toNat ≤ 90 := hupper.2
    have hnat := congrArg UInt32.toNat hval
    rw [UInt32.toNat_add] at hnat
    have hblank : ' '.val.toNat = 32 := rfl
    have hadd : (32 : UInt32).toNat = 32 := rfl
    omega
  · unfold Char.toLower at h
    rwa [dif_neg hupper] at h

/-- The first word begins with a name in upper or lower case, and is no more than the name where the
policy has a blank after it. -/
theorem exists_first (h : Accepted text) (hwords : rawWords text = some words) :
    ∃ start ∈ safeCommandPrefixes, ∃ first rest args, words = (first ++ rest) :: args ∧
      first ++ rest <+: text ∧ lower first = programOf start ∧
      ((∀ program ∈ safePrograms, programOf start <+: program → programOf start = program) ∨
        rest = []) := by
  obtain ⟨start, hstart, hle⟩ := h.starts
  obtain ⟨hsafe, hshape⟩ := prefix_shape start hstart
  obtain ⟨hbare, hne, -⟩ := safe_isBare _ hsafe
  have hname : programOf start <+: start := List.takeWhile_prefix _
  obtain ⟨first, rest, rfl, hlower⟩ := exists_start (hname.trans hle)
  have hnil : first ≠ [] := by
    rintro rfl
    exact hne hlower.symm
  obtain ⟨part, args, rfl, hrest⟩ :=
    rawWords_append (isBare_of_lower (hlower ▸ hbare)) hnil hwords
  refine ⟨start, hstart, first, part, args, rfl,
    List.prefix_append_right_inj first |>.mpr (occurs_rawFrom hrest).1, hlower,
    hshape.imp id fun hblank => ?_⟩
  have hnext := hblank.trans hle
  rw [lower_append, hlower, List.prefix_append_right_inj] at hnext
  cases rest with
  | nil => exact absurd hnext.length_le (by simp [lower])
  | cons c cs =>
    have hc : c = ' ' := eq_blank_of_toLower (List.cons_prefix_cons.mp hnext).1.symm
    rw [hc, rawFrom, if_pos rfl] at hrest
    obtain ⟨p, -, hp⟩ := Option.map_eq_some_iff.mp hrest
    exact (Prod.mk.inj hp).1.symm

/-- The words begin with a safe program if and only if it is named. -/
theorem named_iff (h : Accepted text) (hwords : rawWords text = some words) {program : Text} :
    Named words program ↔
      program ∈ safePrograms ∧ ∃ args, words.map unquote = program :: args := by
  constructor
  · rintro ⟨hsafe, rest, hhead, hrest⟩
    refine ⟨hsafe, words.tail.map unquote, ?_⟩
    obtain ⟨args, rfl⟩ := List.head?_eq_some_iff.mp hhead
    have hplain := not_quote_of_bare (safe_isBare program hsafe).1
    rw [List.map_cons, unquote_append hplain, hrest, List.append_nil]
    rfl
  · rintro ⟨hsafe, args, hread⟩
    obtain ⟨start, hstart, first, rest, raw, rfl, -, hlower, hshape⟩ := exists_first h hwords
    have hname := (prefix_shape start hstart).1
    have hbare : IsBare first := isBare_of_lower (hlower ▸ (safe_isBare _ hname).1)
    rw [List.map_cons, unquote_append (not_quote_of_bare hbare)] at hread
    obtain ⟨rfl, -⟩ := List.cons.inj hread
    have hempty : unquote rest = [] := by
      rcases hshape with halone | rfl
      · have hcase := (safe_isBare _ hsafe).2.2
        rw [lower_append, hlower] at hcase
        have hsame := congrArg List.length (halone _ hsafe ⟨_, hcase⟩)
        rw [← hlower, List.length_append, lower, List.length_map] at hsame
        exact List.length_eq_zero_iff.mp (by omega)
      · rfl
    rw [hempty, List.append_nil] at hsafe ⊢
    exact ⟨hsafe, rest, rfl, hempty⟩

/-- A text that begins with a word of the policy begins with the prefix that goes on from it. -/
theorem starts_of_key (h : Accepted text) {key start : Text} (hkey : key <+: lower text)
    (hall : safeCommandPrefixes.all (fun other =>
      !(other.isPrefixOf key || key.isPrefixOf other) || other == start) = true) :
    start <+: lower text := by
  obtain ⟨other, hother, hle⟩ := h.starts
  have hcheck := List.all_eq_true.mp hall other hother
  have hcompare := List.prefix_or_prefix_of_prefix hle hkey
  rw [← List.isPrefixOf_iff_prefix, ← List.isPrefixOf_iff_prefix, ← Bool.or_eq_true] at hcompare
  rw [hcompare] at hcheck
  have hsame : other = start := by simpa using hcheck
  exact hsame ▸ hle

/-- A program that begins no other and that no other begins is the one named if the text begins with
it. -/
theorem program_eq_iff (h : Accepted text) (hwords : rawWords text = some words) {program : Text}
    (hnamed : Named words program) {key : Text}
    (hall : safePrograms.all (fun other =>
      !(other.isPrefixOf key || key.isPrefixOf other) || other == key) = true) :
    program = key ↔ key <+: text := by
  obtain ⟨hsafe, rest, hhead, -⟩ := hnamed
  obtain ⟨-, -, first, rest', args, rfl, hfirst, -⟩ := exists_first h hwords
  have hprogram : program <+: text := by
    rw [Option.some.inj hhead] at hfirst
    exact (List.prefix_append program rest).trans hfirst
  constructor
  · rintro rfl
    exact hprogram
  · intro hkey
    have hcheck := List.all_eq_true.mp hall program hsafe
    have hcompare := List.prefix_or_prefix_of_prefix hprogram hkey
    rw [← List.isPrefixOf_iff_prefix, ← List.isPrefixOf_iff_prefix, ← Bool.or_eq_true] at hcompare
    rw [hcompare] at hcheck
    simpa using hcheck

/-- `cat` has the one file as its argument if the rest of the text is empty quotations. -/
theorem cat_iff (h : Accepted text) (hwords : rawWords text = some words)
    (hcat : "cat".toList <+: text) :
    words.map unquote = ["cat".toList, "/etc/os-release".toList] ↔
      ∃ rest, words = ["cat".toList, "/etc/os-release".toList ++ rest] ∧ unquote rest = [] := by
  have hfile : IsBare "/etc/os-release".toList := isBare_of_all (by decide)
  have hname : IsBare "cat".toList := isBare_of_all (by decide)
  constructor
  · intro hread
    have hkey : "cat".toList <+: lower text := hcat.map Char.toLower
    have hstart : "cat /etc/os-release".toList <+: lower text := starts_of_key h hkey (by decide)
    obtain ⟨tail, rfl⟩ := hcat
    rw [lower_append] at hstart
    have htail : ' ' :: "/etc/os-release".toList <+: lower tail :=
      (List.prefix_append_right_inj "cat".toList).mp hstart
    cases tail with
    | nil => exact absurd htail.length_le (by decide)
    | cons c more =>
      obtain ⟨hblank, hmore⟩ := List.cons_prefix_cons.mp htail
      obtain ⟨first, rest, rfl, hlower⟩ := exists_start hmore
      have hbare : IsBare first := isBare_of_lower (hlower ▸ hfile)
      have hlength : first.length = "/etc/os-release".toList.length := by
        rw [← hlower, lower, List.length_map]
      rw [eq_blank_of_toLower hblank.symm, rawWords_word hname (by decide)] at hwords
      obtain ⟨args, hargs, rfl⟩ := Option.map_eq_some_iff.mp hwords
      have hne : first ≠ [] := by
        rintro rfl
        exact absurd hlength (by decide)
      obtain ⟨part, others, rfl, -⟩ := rawWords_append hbare hne hargs
      rw [List.map_cons, List.map_cons, unquote_append (not_quote_of_bare hbare)] at hread
      obtain ⟨hsame, hothers⟩ := List.cons.inj (List.cons.inj hread).2
      obtain ⟨rfl, hempty⟩ := List.append_inj (hsame.trans (List.append_nil _).symm) hlength
      rw [List.map_eq_nil_iff.mp hothers]
      exact ⟨part, rfl, hempty⟩
  · rintro ⟨rest, rfl, hrest⟩
    rw [List.map_cons, List.map_cons, unquote_eq_self (not_quote_of_bare hname),
      unquote_append (not_quote_of_bare hfile), hrest, List.append_nil]
    rfl

/-- The words of a text are an allowed command. -/
theorem allowed_iff (h : Accepted text) (hwords : rawWords text = some words) :
    Allowed takesValue (words.map unquote) ↔
      (∃ program, Named words program) ∧
      ("cat".toList <+: text → ∃ rest, words = ["cat".toList, "/etc/os-release".toList ++ rest] ∧
        unquote rest = []) ∧
      NoForbidden words ∧
      ("ping".toList <+: text → Gives takesValue 'c' (words.tail.map unquote)) := by
  rw [noForbidden_iff h hwords]
  constructor
  · rintro ⟨program, args, hread, hsafe, hcat, hnone, hping⟩
    have hnamed := (named_iff h hwords).mpr ⟨hsafe, args, hread⟩
    have htail : words.tail.map unquote = args := by
      rw [List.map_tail, hread]
      rfl
    refine ⟨⟨program, hnamed⟩, fun hkey => ?_, hnone, fun hkey => ?_⟩
    · have hprogram := (program_eq_iff h hwords hnamed (by decide)).mpr hkey
      refine (cat_iff h hwords hkey).mp ?_
      rw [hread, hcat hprogram, hprogram]
    · have hprogram := (program_eq_iff h hwords hnamed (by decide)).mpr hkey
      exact htail ▸ hping hprogram
  · rintro ⟨⟨program, hnamed⟩, hcat, hnone, hping⟩
    obtain ⟨hsafe, args, hread⟩ := (named_iff h hwords).mp hnamed
    have htail : words.tail.map unquote = args := by
      rw [List.map_tail, hread]
      rfl
    refine ⟨program, args, hread, hsafe, fun hprogram => ?_, hnone, fun hprogram => ?_⟩
    · have hkey := (program_eq_iff h hwords hnamed (by decide)).mp hprogram
      have hfile := (cat_iff h hwords hkey).mpr (hcat hkey)
      rw [hread] at hfile
      exact (List.cons.inj hfile).2
    · have hkey := (program_eq_iff h hwords hnamed (by decide)).mp hprogram
      exact htail ▸ hping hkey

/-! ## The command that is run -/

theorem exists_start_blank {key : Text} (h : key ++ [' '] <+: lower text) :
    ∃ first rest, text = first ++ ' ' :: rest ∧ lower first = key := by
  obtain ⟨first, rest, rfl, hlower⟩ := exists_start ((List.prefix_append key [' ']).trans h)
  rw [lower_append, hlower, List.prefix_append_right_inj] at h
  cases rest with
  | nil => exact absurd h.length_le (by simp [lower])
  | cons c cs =>
    have hc : c = ' ' := eq_blank_of_toLower (List.cons_prefix_cons.mp h).1.symm
    exact ⟨first, cs, by rw [hc], hlower⟩

/-- The words that `exec_console_command` puts before those of an `ssh` command. -/
def sshWords (setting : Option String) : List Text :=
  let strict := asciiLower (strip (setting.getD "0"))
  (["ssh", "-o", "BatchMode=yes"] ++
    (if strict ∈ ["1", "true", "yes", "on", "strict"] then ["-o", "StrictHostKeyChecking=yes"]
      else ["-o", "StrictHostKeyChecking=no", "-o", "UserKnownHostsFile=/dev/null"]) ++
    ["-o", "ConnectTimeout=8", "-o", "NumberOfPasswordPrompts=0"]).map String.toList

theorem safeFlags_eq (setting : Option String) :
    "ssh ".toList ++ safeFlags setting = (sshWords setting).flatMap (· ++ [' ']) := by
  unfold safeFlags sshHostKeySafeFlags sshWords
  dsimp only
  split <;> rfl

/-- The words before those of an `ssh` command are none of the forbidden ones, and one word each. -/
theorem sshWords_plain (setting : Option String) : ∀ word ∈ sshWords setting,
    (IsBare word ∧ word ≠ []) ∧ (∀ c ∈ word, isMild c = true) ∧ word ∉ forbiddenPrograms := by
  have hall : (sshWords setting).all (fun word =>
      word.all (fun c => c != ' ' && !isQuote c) && word != [] && word.all isMild &&
        !forbiddenPrograms.contains word) = true := by
    unfold sshWords
    dsimp only
    split <;> decide
  intro word hword
  have hcheck := List.all_eq_true.mp hall word hword
  simp only [Bool.and_eq_true] at hcheck
  obtain ⟨⟨⟨hbare, hne⟩, hmild⟩, hforbidden⟩ := hcheck
  exact ⟨⟨isBare_of_all hbare, by simpa using hne⟩, List.all_eq_true.mp hmild,
    by simpa using hforbidden⟩

/-- The only white space that the policy lets through is the blank. -/
theorem eq_blank_of_safe {c : Char} (hsafe : isSafeCommandChar c = true) (hc : isSpace c = true) :
    c = ' ' := by
  have hall : (List.range' 9 5 ++ List.range' 28 5 ++ List.range' 0x2000 11 ++
      [0x85, 0xa0, 0x1680, 0x2028, 0x2029, 0x202f, 0x205f, 0x3000]).all (fun n =>
        !isSafeCommandChar (Char.ofNat n) || Char.ofNat n == ' ') = true := by
    decide
  have hmem : c.toNat ∈ List.range' 9 5 ++ List.range' 28 5 ++ List.range' 0x2000 11 ++
      [0x85, 0xa0, 0x1680, 0x2028, 0x2029, 0x202f, 0x205f, 0x3000] := by
    simp only [isSpace, Bool.or_eq_true, Bool.and_eq_true, decide_eq_true_eq, beq_iff_eq] at hc
    simp only [List.mem_append, List.mem_range'_1, List.mem_cons, List.not_mem_nil, or_false]
    omega
  have hcheck := List.all_eq_true.mp hall _ hmem
  rw [Char.ofNat_toNat, hsafe] at hcheck
  simpa using hcheck

theorem mem_replaceFirst {old new : Text} {c : Char} (h : c ∈ replaceFirst old new text) :
    c ∈ new ∨ c ∈ text := by
  induction text with
  | nil => exact absurd h List.not_mem_nil
  | cons d ds ih =>
    rw [replaceFirst] at h
    split at h
    · rcases List.mem_append.mp h with h | h
      · exact .inl h
      · exact .inr (List.mem_of_mem_drop h)
    · rcases List.mem_cons.mp h with rfl | h
      · exact .inr List.mem_cons_self
      · exact (ih h).imp id (List.mem_cons_of_mem _)

/-- Every character of the command is mild. -/
theorem mild_safeCommand (h : Accepted text) (setting : Option String) (timeout : Nat) :
    ∀ c ∈ (safeCommand setting text timeout).1, isMild c = true := by
  have htext : ∀ c ∈ text, isMild c = true := fun c hc => mild_of_safe (h.chars c hc)
  intro c hc
  unfold safeCommand at hc
  split at hc
  · rcases mem_replaceFirst hc with hc | hc
    · exact List.all_eq_true.mp (show "ping -c 5 -W 2 ".toList.all isMild = true by decide) c hc
    · exact htext c hc
  split at hc
  · rw [safeFlags_eq] at hc
    rcases List.mem_append.mp hc with hc | hc
    · obtain ⟨word, hword, hc⟩ := List.mem_flatMap.mp hc
      rcases List.mem_append.mp hc with hc | hc
      · exact (sshWords_plain setting word hword).2.1 c hc
      · rw [List.mem_singleton.mp hc]
        decide
    · exact htext c (List.mem_of_mem_drop ((List.dropWhile_suffix _).subset hc))
  · exact htext c hc

theorem permitted_iff (h : Accepted text) (setting : Option String) (timeout : Nat) :
    Permitted takesValue (execCommand setting text timeout) ↔
      ∃ words, rawWords (safeCommand setting text timeout).1 = some words ∧
        Allowed takesValue (words.map unquote) :=
  permitted_iff_allowed (mild_safeCommand h setting timeout) _

/-- A text does not begin with two keys of which neither begins the other. -/
theorem not_both {key key' : Text} (h : key <+: lower text)
    (hne : (key.isPrefixOf key' || key'.isPrefixOf key) = false) : ¬ key' <+: lower text := by
  intro h'
  have hcompare := List.prefix_or_prefix_of_prefix h h'
  rw [← List.isPrefixOf_iff_prefix, ← List.isPrefixOf_iff_prefix, ← Bool.or_eq_true,
    hne] at hcompare
  cases hcompare

/-- `ssh` in upper or lower case. -/
theorem ssh_iff (h : Accepted text) (hssh : "ssh ".toList <+: lower text)
    (setting : Option String) (timeout : Nat) :
    Permitted takesValue (execCommand setting text timeout) ↔ Regular takesValue text := by
  rw [permitted_iff h]
  have hnot {key : Text}
      (hne : ("ssh ".toList.isPrefixOf key || key.isPrefixOf "ssh ".toList) = false)
      (hlower : lower key = key) : ¬ key <+: text := fun hkey =>
    not_both hssh hne (hlower ▸ hkey.map Char.toLower)
  have hcommand : (safeCommand setting text timeout).1 =
      "ssh ".toList ++ safeFlags setting ++ (text.drop 4).dropWhile isSpace := by
    unfold safeCommand
    rw [if_neg fun hping => not_both hssh (by decide) hping.1, if_pos hssh]
  have hstart : "ssh".toList ++ [' '] <+: lower text := hssh
  obtain ⟨first, rest, rfl, hlower⟩ := exists_start_blank hstart
  have hlength : first.length = 3 := by
    have hlen := congrArg List.length hlower
    rwa [lower, List.length_map] at hlen
  have hbare : IsBare first := isBare_of_lower (hlower ▸ isBare_of_all (by decide))
  have hne : first ≠ [] := by
    rintro rfl
    cases hlength
  have hdrop : (first ++ ' ' :: rest).drop 4 = rest := by
    rw [List.append_cons]
    exact List.drop_left' (by rw [List.length_append, hlength]; rfl)
  have hblank : ∀ c ∈ rest, isSpace c = true → c = ' ' := fun c hc =>
    eq_blank_of_safe (h.chars c (List.mem_append_right _ (List.mem_cons_of_mem _ hc)))
  have hwords : rawWords (first ++ ' ' :: rest) = (rawWords rest).map (first :: ·) :=
    rawWords_word hbare hne
  rw [hcommand, hdrop, safeFlags_eq, rawWords_spaced fun w hw => (sshWords_plain setting w hw).1,
    rawWords_dropWhile hblank]
  have hfirst : unquote first = first := unquote_eq_self (not_quote_of_bare hbare)
  have hallowed_first : first ∉ forbiddenPrograms := by
    intro hforbidden
    rw [← (forbidden_plain first hforbidden).1, hlower] at hforbidden
    exact absurd hforbidden (by decide)
  have hssh_words : (sshWords setting).map unquote = sshWords setting :=
    (List.map_congr_left fun w hw =>
      unquote_eq_self (not_quote_of_bare (sshWords_plain setting w hw).1.1)).trans (List.map_id' _)
  constructor
  · rintro ⟨words, hread, program, args, -, -, -, hnone, -⟩
    obtain ⟨ws, hws, rfl⟩ := Option.map_eq_some_iff.mp hread
    rw [hws] at hwords
    refine ⟨first :: ws, hwords, .inl hssh, fun hkey => absurd hkey (hnot (by decide) (by decide)),
      (noForbidden_iff h hwords).mpr ?_, fun hkey => absurd hkey (hnot (by decide) (by decide))⟩
    rw [List.map_cons, hfirst]
    rw [List.map_append] at hnone
    exact List.forall_mem_cons.mpr
      ⟨hallowed_first, fun word hword => hnone word (List.mem_append_right _ hword)⟩
  · rintro ⟨words, hread, -, -, hnone, -⟩
    rw [noForbidden_iff h hread] at hnone
    rw [hwords] at hread
    obtain ⟨ws, hws, rfl⟩ := Option.map_eq_some_iff.mp hread
    refine ⟨sshWords setting ++ ws, by rw [hws]; rfl, ?_⟩
    rw [List.map_append, hssh_words]
    refine ⟨"ssh".toList, (sshWords setting).tail ++ ws.map unquote, rfl, by decide,
      fun hkey => absurd hkey (by decide), fun word hword => ?_,
      fun hkey => absurd hkey (by decide)⟩
    rcases List.mem_append.mp hword with hword | hword
    · exact (sshWords_plain setting word hword).2.2
    · exact hnone word (by rw [List.map_cons]; exact List.mem_cons_of_mem _ hword)

theorem replaceFirst_cons {old new cs : Text} {c : Char} (h : ¬ old <+: c :: cs) :
    replaceFirst old new (c :: cs) = c :: replaceFirst old new cs := if_neg h

/-- `ping` in any other spelling is left as it is. -/
theorem ping_replaced {first rest : Text} (hlower : lower first = "ping".toList)
    (hne : first ≠ "ping".toList) (new : Text) :
    replaceFirst "ping ".toList new (first ++ ' ' :: rest) =
      first ++ ' ' :: replaceFirst "ping ".toList new rest := by
  obtain ⟨a, cs, rfl, ha, hcs⟩ := List.map_eq_cons_iff.mp hlower
  obtain ⟨b, cs, rfl, hb, hcs⟩ := List.map_eq_cons_iff.mp hcs
  obtain ⟨c, cs, rfl, hc, hcs⟩ := List.map_eq_cons_iff.mp hcs
  obtain ⟨d, cs, rfl, hd, hcs⟩ := List.map_eq_cons_iff.mp hcs
  obtain rfl := List.map_eq_nil_iff.mp hcs
  have hstart {x : Char} {xs : Text} (hx : x.toLower ≠ 'p') : ¬ "ping ".toList <+: x :: xs := by
    intro hle
    have hp : 'p' = x := (List.cons_prefix_cons.mp hle).1
    exact hx (by rw [← hp]; rfl)
  have hwhole : ¬ "ping ".toList <+: a :: b :: c :: d :: ' ' :: rest := by
    intro hle
    have hname : "ping".toList <+: [a, b, c, d] ++ ' ' :: rest :=
      List.IsPrefix.trans (by decide) hle
    have hsame := List.prefix_of_prefix_length_le hname (List.prefix_append _ _) (Nat.le_refl 4)
    exact hne (hsame.eq_of_length rfl).symm
  show replaceFirst _ new (a :: b :: c :: d :: ' ' :: rest) =
    a :: b :: c :: d :: ' ' :: replaceFirst _ new rest
  rw [replaceFirst_cons hwhole, replaceFirst_cons (hstart (by rw [hb]; decide)),
    replaceFirst_cons (hstart (by rw [hc]; decide)),
    replaceFirst_cons (hstart (by rw [hd]; decide)), replaceFirst_cons (hstart (by decide))]

/-- The words that are put before those of a `ping` without a count. -/
def pingWords : List Text := ["ping", "-c", "5", "-W", "2"].map String.toList

theorem ping_counted (rest : Text) :
    replaceFirst "ping ".toList "ping -c 5 -W 2 ".toList ("ping".toList ++ ' ' :: rest) =
      pingWords.flatMap (· ++ [' ']) ++ rest :=
  if_pos (List.prefix_append "ping ".toList rest)

theorem pingWords_plain : ∀ word ∈ pingWords, (IsBare word ∧ word ≠ []) ∧
    word ∉ forbiddenPrograms := by
  have hall : pingWords.all (fun word => word.all (fun c => c != ' ' && !isQuote c) &&
      word != [] && !forbiddenPrograms.contains word) = true := by
    decide
  intro word hword
  have hcheck := List.all_eq_true.mp hall word hword
  simp only [Bool.and_eq_true] at hcheck
  exact ⟨⟨isBare_of_all hcheck.1.1, by simpa using hcheck.1.2⟩, by simpa using hcheck.2⟩

/-- `ping` without a count. -/
theorem ping_iff (h : Accepted text) (hvalue : takesValue 'c' = true)
    (hping : "ping ".toList <+: lower text ∧ ¬ "-c".toList <:+: text)
    (setting : Option String) (timeout : Nat) :
    Permitted takesValue (execCommand setting text timeout) ↔ Regular takesValue text := by
  rw [permitted_iff h]
  have hcommand : (safeCommand setting text timeout).1 =
      replaceFirst "ping ".toList "ping -c 5 -W 2 ".toList text := by
    unfold safeCommand
    rw [if_pos hping]
  obtain ⟨hping, hcount⟩ := hping
  have hstart : "ping".toList ++ [' '] <+: lower text := hping
  obtain ⟨first, rest, rfl, hlower⟩ := exists_start_blank hstart
  have hbare : IsBare first := isBare_of_lower (hlower ▸ isBare_of_all (by decide))
  have hnil : first ≠ [] := by
    rintro rfl
    cases hlower
  have hwords : rawWords (first ++ ' ' :: rest) = (rawWords rest).map (first :: ·) :=
    rawWords_word hbare hnil
  have hfirst : unquote first = first := unquote_eq_self (not_quote_of_bare hbare)
  have hnot : ¬ "ssh ".toList <+: lower (first ++ ' ' :: rest) := not_both hping (by decide)
  rw [hcommand]
  by_cases hne : first = "ping".toList
  · subst hne
    have hnone_cat : ¬ "cat".toList <+: "ping".toList ++ ' ' :: rest := by
      intro hkey
      have hlow : "cat".toList <+: lower ("ping".toList ++ ' ' :: rest) := hkey.map Char.toLower
      exact not_both hping (by decide) hlow
    have hping_words : pingWords.map unquote = pingWords := by decide
    rw [ping_counted, rawWords_spaced fun w hw => (pingWords_plain w hw).1]
    constructor
    · rintro ⟨words, hread, program, args, -, -, -, hnone, -⟩
      obtain ⟨ws, hws, rfl⟩ := Option.map_eq_some_iff.mp hread
      rw [hws] at hwords
      rw [List.map_append, hping_words] at hnone
      have hnamed : Named ("ping".toList :: ws) "ping".toList := ⟨by decide, [], rfl, rfl⟩
      refine ⟨_, hwords, .inr ⟨_, hnamed⟩, fun hkey => absurd hkey hnone_cat,
        (noForbidden_iff h hwords).mpr ?_, fun _ hcounted => absurd hcounted hcount⟩
      rw [List.map_cons, hfirst]
      exact List.forall_mem_cons.mpr
        ⟨by decide, fun word hword => hnone word (List.mem_append_right _ hword)⟩
    · rintro ⟨words, hread, -, -, hnone, -⟩
      rw [noForbidden_iff h hread] at hnone
      rw [hwords] at hread
      obtain ⟨ws, hws, rfl⟩ := Option.map_eq_some_iff.mp hread
      refine ⟨pingWords ++ ws, by rw [hws]; rfl, ?_⟩
      rw [List.map_append, hping_words]
      refine ⟨"ping".toList, pingWords.tail ++ ws.map unquote, rfl, by decide,
        fun hkey => absurd hkey (by decide), fun word hword => ?_,
        fun _ => gives_cons hvalue (by decide) _ _⟩
      rcases List.mem_append.mp hword with hword | hword
      · exact (pingWords_plain word hword).2
      · exact hnone word (by rw [List.map_cons]; exact List.mem_cons_of_mem _ hword)
  · -- the program is written in another case, and so none of the policy
    have hunsafe : first ∉ safePrograms := by
      intro hsafe
      exact hne ((safe_isBare first hsafe).2.2.symm.trans hlower)
    rw [ping_replaced hlower hne, rawWords_word hbare hnil]
    constructor
    · rintro ⟨words, hread, program, args, hcons, hsafe, -⟩
      obtain ⟨ws, -, rfl⟩ := Option.map_eq_some_iff.mp hread
      rw [List.map_cons, hfirst] at hcons
      exact absurd ((List.cons.inj hcons).1 ▸ hsafe) hunsafe
    · rintro ⟨words, hread, hnamed, -⟩
      obtain ⟨program, hnamed⟩ := hnamed.resolve_left hnot
      obtain ⟨hsafe, args, hcons⟩ := (named_iff h hread).mp hnamed
      rw [hwords] at hread
      obtain ⟨ws, -, rfl⟩ := Option.map_eq_some_iff.mp hread
      rw [List.map_cons, hfirst] at hcons
      exact absurd ((List.cons.inj hcons).1 ▸ hsafe) hunsafe

/-- What is sent as it was entered. -/
theorem unchanged_iff (h : Accepted text) (hssh : ¬ "ssh ".toList <+: lower text)
    (hping : ¬("ping ".toList <+: lower text ∧ ¬ "-c".toList <:+: text))
    (setting : Option String) (timeout : Nat) :
    Permitted takesValue (execCommand setting text timeout) ↔ Regular takesValue text := by
  have hcommand : (safeCommand setting text timeout).1 = text := by
    unfold safeCommand
    rw [if_neg hping, if_neg hssh]
  have hcount (hkey : "ping".toList <+: text) : "-c".toList <:+: text := by
    by_contra hnot
    have hstart : "ping".toList <+: lower text := hkey.map Char.toLower
    exact hping ⟨starts_of_key h hstart (by decide), hnot⟩
  rw [permitted_iff h, hcommand]
  refine exists_congr fun words => and_congr_right fun hwords => ?_
  rw [allowed_iff h hwords, or_iff_right hssh]
  exact and_congr_right fun _ => and_congr_right fun _ => and_congr_right fun _ =>
    ⟨fun hgives hkey _ => hgives hkey, fun hgives hkey => hgives hkey (hcount hkey)⟩

/-- The line that is sent for a text that is not refused is what the policy promises if and only if
the text is regular. -/
theorem permitted_iff_regular {Host : Type} {remote : Host → Text → Nat → Except Text (Text × Text)}
    {setting : Option String} {jumpHost : Option Host} {command : Option Text} {timeout : Nat}
    {e : Execution} (hvalue : takesValue 'c' = true)
    (h : execConsoleCommand remote setting jumpHost command timeout = .ok e) :
    Permitted takesValue e.line ↔ Regular takesValue (stripChars (command.getD [])) := by
  obtain ⟨haccepted, hline⟩ := accepted_of_ok h
  rw [hline]
  by_cases hssh : "ssh ".toList <+: lower (stripChars (command.getD []))
  · exact ssh_iff haccepted hssh setting timeout
  by_cases hping : "ping ".toList <+: lower (stripChars (command.getD [])) ∧
      ¬ "-c".toList <:+: stripChars (command.getD [])
  · exact ping_iff haccepted hvalue hping setting timeout
  · exact unchanged_iff haccepted hssh hping setting timeout

/-- The options of `ping` that take a value. -/
def pingValues (c : Char) : Bool := "cFNTeiIlmMpQsStwW".toList.contains c

/-- A jump host on which every line runs without output. -/
def silent (_ : Unit) (_ : Text) (_ : Nat) : Except Text (Text × Text) := .ok ([], [])

theorem permitted_iff_regular_ping : ∃ e,
    execConsoleCommand silent none (some ()) (some "ping -c 3 10.0.0.1".toList) 15 = .ok e ∧
      (Permitted pingValues e.line ↔ Regular pingValues "ping -c 3 10.0.0.1".toList) := by
  obtain ⟨e, he⟩ : ∃ e,
      execConsoleCommand silent none (some ()) (some "ping -c 3 10.0.0.1".toList) 15 = .ok e :=
    ⟨_, rfl⟩
  exact ⟨e, he, permitted_iff_regular rfl he⟩

/-- A name of the policy without a blank after it lets through every program that begins with it. -/
theorem hostnamectl_sent : ¬ ∀ (command : Text) (e : Execution),
    execConsoleCommand silent none (some ()) (some command) 15 = .ok e →
      Permitted pingValues e.line := by
  intro h
  obtain ⟨limit, words, htokens, -, program, args, rfl, hsafe, -⟩ :=
    h "hostnamectl set-hostname x".toList _ rfl
  have hread : tokensOf "timeout 15 hostnamectl set-hostname x".toList =
      some (["timeout", "15", "hostnamectl", "set-hostname", "x"].map fun w => .word w.toList) := by
    decide
  have hwords := Option.some.inj (htokens.symm.trans hread)
  have hprogram : program = "hostnamectl".toList :=
    Token.word.inj (List.cons.inj (List.cons.inj (List.cons.inj hwords).2).2).1
  rw [hprogram] at hsafe
  exact absurd hsafe (by decide)

end BackupCenter.JumpHost.Console
