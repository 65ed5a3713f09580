import BackupCenter.Messages.Sanitizer

/-!
# Answers that differ in passwords

Two texts that are the same but for the password in each command for the dump. The mask hides the
difference, since it finds the same names at the same places of both: before a command there is no
word for a name to begin in, and a value that is read into a command ends behind its password.
-/
namespace BackupCenter.Zabbix

open BackupCenter.Lib
open BackupCenter.Lib.Regex
open BackupCenter.Messages

variable {w : WordTables} {b : Option Char} {c d : Char} {cs x y xs ys key p q : List Char}

/-! ## Letters -/

/-- A character of a name that, besides itself, only its other case and the long s are taken for. -/
def isKeyLetter (c : Char) : Bool :=
  (c.isAlphanum || c == '_') && c.toLower != 'i' && c.toLower != 'k'

/-- What a letter of a name may be spelled with. -/
def IsSpelling (d : Char) : Prop := (d.isAlphanum || d == '_') = true ∨ d = 'ſ'

theorem wordLetter_iff : (d.isAlphanum || d == '_') = true ↔
    (48 ≤ d.toNat ∧ d.toNat ≤ 57) ∨ (65 ≤ d.toNat ∧ d.toNat ≤ 90) ∨
      (97 ≤ d.toNat ∧ d.toNat ≤ 122) ∨ d.toNat = 95 := by
  have hunder : d = '_' ↔ d.toNat = 95 := ⟨fun h => h ▸ rfl, fun h => Char.toNat_inj.mp h⟩
  rw [Bool.or_eq_true, isAlphanum_iff, beq_iff_eq, hunder]
  omega

theorem toNat_toLower (c : Char) :
    c.toLower.toNat = if 65 ≤ c.toNat ∧ c.toNat ≤ 90 then c.toNat + 32 else c.toNat := by
  by_cases h : c.val ≥ 'A'.val ∧ c.val ≤ 'Z'.val
  · have hval : c.toLower.val = c.val + 32 := by
      unfold Char.toLower
      rw [dif_pos h]
      rfl
    have hnat : 65 ≤ c.toNat ∧ c.toNat ≤ 90 := h
    have hbound : c.val.toNat ≤ 90 := hnat.2
    have h32 : (32 : UInt32).toNat = 32 := rfl
    rw [if_pos hnat]
    show c.toLower.val.toNat = c.val.toNat + 32
    rw [hval, UInt32.toNat_add]
    omega
  · have hsame : c.toLower = c := dif_neg h
    have hnat : ¬(65 ≤ c.toNat ∧ c.toNat ≤ 90) := h
    rw [hsame, if_neg hnat]

theorem IsSpelling.isSpace_eq_false (h : IsSpelling d) : isSpace d = false := by
  rcases h with h | rfl
  · have hrange := wordLetter_iff.mp h
    simp only [isSpace, Bool.or_eq_false_iff, Bool.and_eq_false_iff, decide_eq_false_iff_not,
      beq_eq_false_iff_ne, ne_eq]
    omega
  · decide

theorem IsSpelling.isWord (h : IsSpelling d) : w.isWord d = true := by
  rcases h with h | rfl
  · have hrange := wordLetter_iff.mp h
    rw [w.isWord_ascii d (by omega), h]
  · exact w.isWord_longS

theorem toLower_wordLetter (hc : (c.isAlphanum || c == '_') = true)
    (h : d.toLower = c.toLower) : (d.isAlphanum || d == '_') = true := by
  have hnat := congrArg Char.toNat h
  rw [toNat_toLower, toNat_toLower] at hnat
  rw [wordLetter_iff] at hc ⊢
  split at hnat <;> split at hnat <;> omega

theorem isSpelling_of_sameLetter (hc : isKeyLetter c = true) (h : sameLetter c d = true) :
    IsSpelling d := by
  simp only [isKeyLetter, Bool.and_eq_true, bne_iff_ne, ne_eq] at hc
  obtain ⟨⟨hletter, hi⟩, hk⟩ := hc
  simp only [sameLetter, Bool.or_eq_true, Bool.and_eq_true, beq_iff_eq, hi, hk, false_and,
    or_false] at h
  rcases h with h | ⟨-, h⟩
  · exact .inl (toLower_wordLetter hletter h)
  · refine .inr (Char.ext ?_)
    exact UInt32.toNat_inj.mp h

theorem rdropWhile_cons (f : Char → Bool) (c : Char) (cs : List Char) :
    (c :: cs).rdropWhile f =
      if cs.rdropWhile f = [] then (if f c then [] else [c]) else c :: cs.rdropWhile f := by
  have hsplit := @List.dropWhile_append _ f cs.reverse [c]
  rw [List.rdropWhile, List.reverse_cons, hsplit]
  by_cases hnil : cs.reverse.dropWhile f = []
  · rw [if_pos (by rw [hnil]; rfl), if_pos (by rw [List.rdropWhile, hnil]; rfl)]
    cases hf : f c <;> simp [hf]
  · rw [if_neg (by simpa using hnil), if_neg (by simpa [List.rdropWhile] using hnil),
      List.reverse_append]
    rfl

theorem rdropWhile_append_cons {f : Char → Bool} (hd : f d = false) (pre zs : List Char) :
    (pre ++ d :: zs).rdropWhile f = pre ++ d :: zs.rdropWhile f := by
  induction pre with
  | nil =>
    rw [List.nil_append, rdropWhile_cons]
    split
    next hnil => rw [hd, hnil]; rfl
    next => rfl
  | cons c pre ih =>
    rw [List.cons_append, rdropWhile_cons, ih, if_neg (by simp), List.cons_append]

/-! ## Two texts with the same commands in them -/

/-- The names of the variables. -/
def IsKey (key : List Char) : Prop := key = "PGPASSWORD".toList ∨ key = "MYSQL_PWD".toList

/-- A password that is one run of characters, none of them an apostrophe. -/
def Unbroken (p : List Char) : Prop := p ≠ [] ∧ ∀ c ∈ p, isSpace c = false ∧ c ≠ '\''

/-- The texts behind a place are the same but for the password in each command. -/
inductive Echoed (w : WordTables) (key p q : List Char) :
    Option Char → List Char → List Char → Prop
  | nil (b : Option Char) : Echoed w key p q b [] []
  | char (b : Option Char) {c : Char} {xs ys : List Char} (h : Echoed w key p q (some c) xs ys) :
      Echoed w key p q b (c :: xs) (c :: ys)
  | command {b : Option Char} {d : Char} {xs ys : List Char} (hb : b.any w.isWord = false)
      (hd : isSpace d = false) (h : Echoed w key p q (some d) xs ys) :
      Echoed w key p q b (key ++ '=' :: (p ++ ' ' :: d :: xs))
        (key ++ '=' :: (q ++ ' ' :: d :: ys))

theorem key_letters (hkey : IsKey key) : key ≠ [] ∧ ∀ c ∈ key, isKeyLetter c = true := by
  rcases hkey with rfl | rfl
  all_goals
    rw [String.toList_ofList]
    exact ⟨List.cons_ne_nil _ _, List.all_eq_true.mp rfl⟩

theorem key_spellings (hkey : IsKey key) : ∀ c ∈ key, IsSpelling c := fun c hc =>
  isSpelling_of_sameLetter ((key_letters hkey).2 c hc) (by simp [sameLetter])

theorem key_eq_cons (hkey : IsKey key) : ∃ k ks, key = k :: ks ∧ IsSpelling k := by
  cases key with
  | nil => exact absurd rfl (key_letters hkey).1
  | cons k ks => exact ⟨k, ks, rfl, key_spellings hkey k (List.mem_cons_self ..)⟩

namespace Echoed

theorem refl : ∀ (b : Option Char) (x : List Char), Echoed w key p q b x x
  | b, [] => .nil b
  | b, c :: x => .char b (refl (some c) x)

/-- A text of its own before both. -/
theorem text : ∀ (s : List Char) {b : Option Char},
    Echoed w key p q (s.getLast?.or b) x y → Echoed w key p q b (s ++ x) (s ++ y)
  | [], _, h => h
  | [c], b, h => .char b h
  | c :: d :: s, b, h => by
    refine .char b (text (d :: s) ?_)
    rw [List.getLast?_cons_cons] at h
    cases hlast : (d :: s).getLast? with
    | none => simp at hlast
    | some e =>
      rw [hlast] at h
      exact h

theorem nil_iff (h : Echoed w key p q b x y) (hkey : IsKey key) : x = [] ↔ y = [] := by
  obtain ⟨k, ks, rfl, -⟩ := key_eq_cons hkey
  cases h with
  | nil => exact Iff.rfl
  | char b h => simp
  | command hb hd h => simp

/-! ## Runs -/

/-- A run that no command has an end in. -/
theorem dropWhile_spaces (h : Echoed w key p q b x y) (hkey : IsKey key) (hp : Unbroken p)
    (hq : Unbroken q) :
    (x.dropWhile (fun c => !isSpace c) = [] ∧ y.dropWhile (fun c => !isSpace c) = []) ∨
      ∃ s xs ys, x.dropWhile (fun c => !isSpace c) = s :: xs ∧
        y.dropWhile (fun c => !isSpace c) = s :: ys ∧ isSpace s = true ∧
        Echoed w key p q (some s) xs ys := by
  induction h with
  | nil => exact .inl ⟨rfl, rfl⟩
  | @char b c xs ys h ih =>
    cases hc : isSpace c with
    | true =>
      refine .inr ⟨c, xs, ys, ?_, ?_, hc, h⟩ <;> simp [hc]
    | false =>
      rw [List.dropWhile_cons_of_pos (by simp [hc]), List.dropWhile_cons_of_pos (by simp [hc])]
      exact ih
  | @command b d xs ys hb hd h ih =>
    have hrun {r zs : List Char} (hr : Unbroken r) :
        (key ++ '=' :: (r ++ ' ' :: d :: zs)).dropWhile (fun c => !isSpace c) = ' ' :: d :: zs := by
      have htext : key ++ '=' :: (r ++ ' ' :: d :: zs) =
          (key ++ '=' :: r) ++ ' ' :: d :: zs := by simp
      rw [htext, List.dropWhile_append_of_pos, List.dropWhile_cons_of_neg (by decide)]
      intro c hc
      rcases List.mem_append.mp hc with hc | hc
      · rw [(key_spellings hkey c hc).isSpace_eq_false]
        rfl
      · rcases List.mem_cons.mp hc with rfl | hc
        · rfl
        · rw [(hr.2 c hc).1]
          rfl
    exact .inr ⟨' ', d :: xs, d :: ys, hrun hp, hrun hq, rfl, .char _ h⟩

theorem not_apostrophe (h : IsSpelling c) : c ≠ '\'' := by
  rcases h with h | rfl
  · rintro rfl
    exact absurd h (by decide)
  · decide

theorem dropWhile_apostrophe (h : Echoed w key p q b x y) (hkey : IsKey key) (hp : Unbroken p)
    (hq : Unbroken q) :
    (x.dropWhile (· != '\'') = [] ∧ y.dropWhile (· != '\'') = []) ∨
      ∃ xs ys, x.dropWhile (· != '\'') = '\'' :: xs ∧ y.dropWhile (· != '\'') = '\'' :: ys ∧
        Echoed w key p q (some '\'') xs ys := by
  induction h with
  | nil => exact .inl ⟨rfl, rfl⟩
  | @char b c xs ys h ih =>
    by_cases hc : c = '\''
    · rw [hc] at h ⊢
      exact .inr ⟨xs, ys, rfl, rfl, h⟩
    · rw [List.dropWhile_cons_of_pos (by simp [hc]), List.dropWhile_cons_of_pos (by simp [hc])]
      exact ih
  | @command b d xs ys hb hd h ih =>
    have hrun {r zs : List Char} (hr : Unbroken r) :
        (key ++ '=' :: (r ++ ' ' :: d :: zs)).dropWhile (· != '\'') =
          (d :: zs).dropWhile (· != '\'') := by
      have htext : key ++ '=' :: (r ++ ' ' :: d :: zs) =
          (key ++ '=' :: r ++ [' ']) ++ d :: zs := by simp
      rw [htext, List.dropWhile_append_of_pos]
      intro c hc
      rw [bne_iff_ne]
      simp only [List.mem_append, List.mem_cons, List.not_mem_nil, or_false] at hc
      rcases hc with (hc | rfl | hc) | rfl
      · exact not_apostrophe (key_spellings hkey c hc)
      · decide
      · exact (hr.2 c hc).2
      · decide
    rw [hrun hp, hrun hq]
    by_cases hd' : d = '\''
    · rw [hd'] at h ⊢
      exact .inr ⟨xs, ys, rfl, rfl, h⟩
    · rw [List.dropWhile_cons_of_pos (by simp [hd']), List.dropWhile_cons_of_pos (by simp [hd'])]
      exact ih

/-! ## Where passwords are found -/

/-- Places behind two values from which the texts go on alike. -/
def Level (w : WordTables) (key p q : List Char) (e f : Place) : Prop :=
  (e.rest = [] ∧ f.rest = []) ∨
    (∃ s xs ys, e.rest = s :: xs ∧ f.rest = s :: ys ∧ isSpace s = true ∧
      Echoed w key p q (some s) xs ys) ∨
    (e.before = f.before ∧ Echoed w key p q e.before e.rest f.rest)

theorem valueEnd_run (hspace : isSpace c = false) (hquote : c ≠ '\'') (cs : List Char) :
    ∃ e, valueEnd (c :: cs) = some e ∧ e.rest = (c :: cs).dropWhile fun c => !isSpace c := by
  have hbeq : (c == '\'') = false := beq_false_of_ne hquote
  refine ⟨.behind (some c) (cs.takeWhile fun c => !isSpace c) (cs.dropWhile fun c => !isSpace c),
    ?_, ?_⟩
  · rw [valueEnd, hspace, hbeq]
    rfl
  · rw [List.dropWhile_cons_of_pos (by simp [hspace])]
    rfl

theorem level_of_run (h : Echoed w key p q b x y) (hkey : IsKey key) (hp : Unbroken p)
    (hq : Unbroken q) {e f : Place} (he : e.rest = x.dropWhile fun c => !isSpace c)
    (hf : f.rest = y.dropWhile fun c => !isSpace c) : Level w key p q e f := by
  rcases h.dropWhile_spaces hkey hp hq with ⟨hx, hy⟩ | ⟨s, xs, ys, hx, hy, hs, hrest⟩
  · exact .inl ⟨he.trans hx, hf.trans hy⟩
  · exact .inr (.inl ⟨s, xs, ys, he.trans hx, hf.trans hy, hs, hrest⟩)

theorem valueEnd (h : Echoed w key p q b x y) (hkey : IsKey key) (hp : Unbroken p)
    (hq : Unbroken q) :
    (valueEnd x = none ∧ valueEnd y = none) ∨
      ∃ e f, Messages.valueEnd x = some e ∧ Messages.valueEnd y = some f ∧
        Level w key p q e f := by
  cases h with
  | nil => exact .inl ⟨rfl, rfl⟩
  | @char b c xs ys h =>
    cases hc : isSpace c with
    | true => exact .inl ⟨by rw [Messages.valueEnd, hc]; rfl, by rw [Messages.valueEnd, hc]; rfl⟩
    | false =>
      have hwhole : Echoed w key p q none (c :: xs) (c :: ys) := .char none h
      by_cases hquote : c = '\''
      · rw [hquote] at h ⊢
        rcases h.dropWhile_apostrophe hkey hp hq with ⟨hx, hy⟩ | ⟨xs', ys', hx, hy, hrest⟩
        · refine .inr ⟨.behind (some '\'') (xs.takeWhile fun c => !isSpace c)
              (xs.dropWhile fun c => !isSpace c),
            .behind (some '\'') (ys.takeWhile fun c => !isSpace c)
              (ys.dropWhile fun c => !isSpace c), ?_, ?_, level_of_run h hkey hp hq rfl rfl⟩
          · rw [Messages.valueEnd, beq_self_eq_true, if_pos rfl, hx]
            rfl
          · rw [Messages.valueEnd, beq_self_eq_true, if_pos rfl, hy]
            rfl
        · refine .inr ⟨⟨some '\'', xs'⟩, ⟨some '\'', ys'⟩, ?_, ?_, .inr (.inr ⟨rfl, hrest⟩)⟩
          · rw [Messages.valueEnd, beq_self_eq_true, if_pos rfl, hx]
            rfl
          · rw [Messages.valueEnd, beq_self_eq_true, if_pos rfl, hy]
            rfl
      · obtain ⟨e, he, hrest⟩ := valueEnd_run hc hquote xs
        obtain ⟨f, hf, hrest'⟩ := valueEnd_run hc hquote ys
        exact .inr ⟨e, f, he, hf, hwhole.level_of_run hkey hp hq hrest hrest'⟩
  | @command b d xs ys hb hd h =>
    have hwhole : Echoed w key p q b (key ++ '=' :: (p ++ ' ' :: d :: xs))
        (key ++ '=' :: (q ++ ' ' :: d :: ys)) := .command hb hd h
    obtain ⟨k, ks, hcons, hk⟩ := key_eq_cons hkey
    obtain ⟨e, he, hrest⟩ := valueEnd_run hk.isSpace_eq_false (not_apostrophe hk)
      (ks ++ '=' :: (p ++ ' ' :: d :: xs))
    obtain ⟨f, hf, hrest'⟩ := valueEnd_run hk.isSpace_eq_false (not_apostrophe hk)
      (ks ++ '=' :: (q ++ ' ' :: d :: ys))
    rw [← List.cons_append, ← hcons] at he hrest hf hrest'
    exact .inr ⟨e, f, he, hf, hwhole.level_of_run hkey hp hq hrest hrest'⟩

/-- In a word no command begins, so both texts have the same letters as far as a name goes. -/
theorem take_word {name : List Char} (hname : ∀ c ∈ name, isKeyLetter c = true) :
    ∀ {b : Option Char} {x y : List Char}, b.any w.isWord = true → Echoed w key p q b x y →
      beginsWith sameLetter name x = beginsWith sameLetter name y ∧
        (beginsWith sameLetter name x = true → x.take name.length = y.take name.length ∧
          ∃ b', b'.any w.isWord = true ∧
            Echoed w key p q b' (x.drop name.length) (y.drop name.length)) := by
  induction name with
  | nil => exact fun hb h => ⟨rfl, fun _ => ⟨rfl, _, hb, h⟩⟩
  | cons n name ih =>
    intro b x y hb h
    cases h with
    | nil => exact ⟨rfl, fun h => by cases h⟩
    | @char b c xs ys h =>
      rw [beginsWith, beginsWith]
      cases hn : sameLetter n c with
      | false => exact ⟨rfl, fun h => by cases h⟩
      | true =>
        have hword : (some c).any w.isWord = true :=
          (isSpelling_of_sameLetter (hname n (List.mem_cons_self ..)) hn).isWord
        obtain ⟨hsame, hrest⟩ := ih (fun c hc => hname c (List.mem_cons_of_mem _ hc)) hword h
        refine ⟨congrArg _ hsame, fun hbegins => ?_⟩
        obtain ⟨htake, b', hb', hdrop⟩ := hrest hbegins
        refine ⟨?_, b', hb', hdrop⟩
        rw [List.length_cons, List.take_succ_cons, List.take_succ_cons, htake]
    | command hb' => rw [hb'] at hb; cases hb

theorem take_char {name : List Char} (hname : ∀ c ∈ name, isKeyLetter c = true)
    (hne : name ≠ []) (h : Echoed w key p q (some c) xs ys) :
    beginsWith sameLetter name (c :: xs) = beginsWith sameLetter name (c :: ys) ∧
      (beginsWith sameLetter name (c :: xs) = true →
        (c :: xs).take name.length = (c :: ys).take name.length ∧
        ∃ b', b'.any w.isWord = true ∧
          Echoed w key p q b' ((c :: xs).drop name.length) ((c :: ys).drop name.length)) := by
  cases name with
  | nil => exact absurd rfl hne
  | cons n name =>
    rw [beginsWith, beginsWith]
    cases hn : sameLetter n c with
    | false => exact ⟨rfl, fun h => by cases h⟩
    | true =>
      have hword : (some c).any w.isWord = true :=
        (isSpelling_of_sameLetter (hname n (List.mem_cons_self ..)) hn).isWord
      obtain ⟨hsame, hrest⟩ :=
        take_word (fun c hc => hname c (List.mem_cons_of_mem _ hc)) hword h
      refine ⟨congrArg _ hsame, fun hbegins => ?_⟩
      obtain ⟨htake, b', hb', hdrop⟩ := hrest hbegins
      refine ⟨?_, b', hb', hdrop⟩
      rw [List.length_cons, List.take_succ_cons, List.take_succ_cons, htake]

theorem isKey_of_keyOf {name : List Char} (h : keyOf cs = some name) :
    IsKey name ∧ beginsWith sameLetter name cs = true := by
  have hbegins := @List.find?_some _ (fun name => beginsWith sameLetter name cs) name _ h
  refine ⟨?_, hbegins⟩
  have hmem := List.mem_of_find?_eq_some h
  simpa [IsKey] using hmem

theorem keyOf_char (h : Echoed w key p q (some c) xs ys) :
    keyOf (c :: xs) = keyOf (c :: ys) := by
  have hsame {name : List Char} (hname : IsKey name) :
      beginsWith sameLetter name (c :: xs) = beginsWith sameLetter name (c :: ys) :=
    (h.take_char (key_letters hname).2 (key_letters hname).1).1
  rw [keyOf, keyOf, List.find?_cons, List.find?_cons, List.find?_cons, List.find?_cons,
    hsame (.inl rfl), hsame (.inr rfl)]
  rfl

theorem passwordAt_char (h : Echoed w key p q (some c) xs ys) (hkey : IsKey key)
    (hp : Unbroken p) (hq : Unbroken q) (b : Option Char) :
    (passwordAt w b (c :: xs) = none ∧ passwordAt w b (c :: ys) = none) ∨
      ∃ name e f, passwordAt w b (c :: xs) = some (name, e) ∧
        passwordAt w b (c :: ys) = some (name, f) ∧ Level w key p q e f := by
  unfold passwordAt
  rw [List.head?_cons, List.head?_cons, ← h.keyOf_char]
  split
  next =>
    cases hname : keyOf (c :: xs) with
    | none => exact .inl ⟨rfl, rfl⟩
    | some name =>
      obtain ⟨hisKey, hbegins⟩ := isKey_of_keyOf hname
      obtain ⟨hletters, hne⟩ := And.intro (key_letters hisKey).2 (key_letters hisKey).1
      obtain ⟨htake, b', hb', hdrop⟩ := (h.take_char hletters hne).2 hbegins
      rw [Option.bind_some, Option.bind_some, ← htake]
      generalize (c :: xs).drop name.length = x at hdrop
      generalize (c :: ys).drop name.length = y at hdrop
      cases hdrop with
      | nil => exact .inl ⟨rfl, rfl⟩
      | @char _ c' xs' ys' hrest =>
        by_cases hc' : c' = '='
        · rw [hc'] at hrest ⊢
          show ((Messages.valueEnd xs').map _ = none ∧ (Messages.valueEnd ys').map _ = none) ∨
            ∃ name e f, (Messages.valueEnd xs').map _ = some (name, e) ∧
              (Messages.valueEnd ys').map _ = some (name, f) ∧ _
          rcases hrest.valueEnd hkey hp hq with ⟨hx, hy⟩ | ⟨e, f, he, hf, hlevel⟩
          · exact .inl ⟨by rw [hx]; rfl, by rw [hy]; rfl⟩
          · exact .inr ⟨_, e, f, by rw [he]; rfl, by rw [hf]; rfl, hlevel⟩
        · left
          constructor
          all_goals
            split
            next heq => exact absurd (List.cons.inj heq).1 hc'
            next => rfl
      | command hb => rw [hb] at hb'; cases hb'
  next => exact .inl ⟨rfl, rfl⟩

/-- At the name of a variable the mask takes the value behind it. -/
theorem passwordAt_key (hkey : IsKey key) (hb : b.any w.isWord = false) (value : List Char) :
    passwordAt w b (key ++ '=' :: value) = (Messages.valueEnd value).map (key, ·) := by
  obtain ⟨k, ks, hcons, hk⟩ := key_eq_cons hkey
  have hname : keyOf (key ++ '=' :: value) = some key := by
    rcases hkey with rfl | rfl
    all_goals
      unfold keyOf
      repeat rw [String.toList_ofList]
      rfl
  have hedge : (b.any w.isWord != (key ++ '=' :: value).head?.any w.isWord) = true := by
    rw [hcons, hb, List.cons_append, List.head?_cons]
    show (false != w.isWord k) = true
    rw [hk.isWord]
    rfl
  unfold passwordAt
  rw [if_pos hedge, hname, Option.bind_some, List.drop_left, List.take_left]
  rfl

/-- The password of a command is found, and the texts go on alike behind it. -/
theorem passwordAt_command (hkey : IsKey key) (hp : Unbroken p) (hb : b.any w.isWord = false)
    (rest : List Char) :
    ∃ e, passwordAt w b (key ++ '=' :: (p ++ ' ' :: rest)) = some (key, e) ∧
      e.rest = ' ' :: rest := by
  cases p with
  | nil => exact absurd rfl hp.1
  | cons c cs =>
    obtain ⟨hspace, hquote⟩ := hp.2 c (List.mem_cons_self ..)
    obtain ⟨e, he, hrest⟩ := valueEnd_run hspace hquote (cs ++ ' ' :: rest)
    refine ⟨e, ?_, ?_⟩
    · rw [passwordAt_key hkey hb, List.cons_append, he]
      rfl
    · rw [hrest, ← List.cons_append, List.dropWhile_append_of_pos,
        List.dropWhile_cons_of_neg (by decide)]
      intro d hd
      rw [(hp.2 d hd).1]
      rfl

theorem passwordAt_space (hc : isSpace c = true) (b : Option Char) (cs : List Char) :
    passwordAt w b (c :: cs) = none := by
  have hname : keyOf (c :: cs) = none := by
    cases hname : keyOf (c :: cs) with
    | none => rfl
    | some name =>
      obtain ⟨hisKey, hbegins⟩ := isKey_of_keyOf hname
      obtain ⟨k, ks, rfl, -⟩ := key_eq_cons hisKey
      have hk := (key_letters hisKey).2 k (List.mem_cons_self ..)
      have hsame : sameLetter k c = true := (Bool.and_eq_true_iff.mp hbegins).1
      rw [(isSpelling_of_sameLetter hk hsame).isSpace_eq_false] at hc
      cases hc
  unfold passwordAt
  rw [hname]
  split <;> rfl

/-! ## The mask -/

/-- **The mask makes both texts the same.** -/
theorem hideFrom_eq (hkey : IsKey key) (hp : Unbroken p) (hq : Unbroken q) (n : Nat) :
    ∀ {b : Option Char} {x y : List Char}, x.length ≤ n → Echoed w key p q b x y →
      hideFrom w b x = hideFrom w b y := by
  induction n with
  | zero =>
    intro b x y hn h
    have hx := List.length_eq_zero_iff.mp (Nat.le_zero.mp hn)
    rw [hx, (h.nil_iff hkey).mp hx]
  | succ n ih =>
    intro b x y hn h
    have hspace {s : Char} {xs ys : List Char} {b₁ b₂ : Option Char} (hs : isSpace s = true)
        (hlength : xs.length ≤ n) (hrest : Echoed w key p q (some s) xs ys) :
        hideFrom w b₁ (s :: xs) = hideFrom w b₂ (s :: ys) := by
      rw [hideFrom_of_none (passwordAt_space hs ..), hideFrom_of_none (passwordAt_space hs ..),
        ih hlength hrest]
    cases h with
    | nil => rfl
    | @char b c xs ys h =>
      have hlength : xs.length ≤ n := Nat.le_of_succ_le_succ hn
      rcases h.passwordAt_char hkey hp hq b with ⟨hx, hy⟩ | ⟨name, e, f, hx, hy, hlevel⟩
      · rw [hideFrom_of_none hx, hideFrom_of_none hy, ih hlength h]
      · rw [hideFrom_of_some hx, hideFrom_of_some hy]
        have hshort := length_of_passwordAt hx
        rw [List.length_cons] at hshort
        congr 2
        rcases hlevel with ⟨he, hf⟩ | ⟨s, xs', ys', he, hf, hs, hrest⟩ | ⟨hbefore, hrest⟩
        · rw [he, hf]
          rfl
        · rw [he, hf]
          rw [he, List.length_cons] at hshort
          exact hspace hs (by omega) hrest
        · rw [← hbefore]
          exact ih (by omega) hrest
    | @command b d xs ys hb hd h =>
      obtain ⟨e, hx, he⟩ := passwordAt_command hkey hp hb (d :: xs)
      obtain ⟨f, hy, hf⟩ := passwordAt_command hkey hq hb (d :: ys)
      have hshort := length_of_passwordAt hx
      rw [hideFrom_of_some hx, hideFrom_of_some hy, he, hf]
      rw [he, List.length_cons] at hshort
      congr 2
      exact hspace rfl (by omega) (.char _ h)

theorem hidePasswords_eq (h : Echoed w key p q none x y) (hkey : IsKey key) (hp : Unbroken p)
    (hq : Unbroken q) : hidePasswords w x = hidePasswords w y :=
  hideFrom_eq hkey hp hq x.length (Nat.le_refl _) h

/-! ## White space -/

theorem not_isWord_blank : w.isWord ' ' = false := w.isWord_ascii ' ' (by decide)

/-- The characters of a command up to the blank behind its password. -/
theorem solid_command (hkey : IsKey key) (hp : Unbroken p) :
    ∀ c ∈ key ++ '=' :: p, isSpace c = false := by
  intro c hc
  rcases List.mem_append.mp hc with hc | hc
  · exact (key_spellings hkey c hc).isSpace_eq_false
  · rcases List.mem_cons.mp hc with rfl | hc
    · rfl
    · exact (hp.2 c hc).1

theorem squeeze_solid : ∀ {pre : List Char} (within : Bool), (∀ c ∈ pre, isSpace c = false) →
    pre ≠ [] → ∀ rest : List Char,
      squeeze isSpace [' '] within (pre ++ rest) = pre ++ squeeze isSpace [' '] false rest
  | [], _, _, hne, _ => absurd rfl hne
  | c :: pre, within, h, _, rest => by
    have hc : ¬isSpace c = true := by
      rw [h c (List.mem_cons_self ..)]
      exact Bool.false_ne_true
    have hrest : squeeze isSpace [' '] false (pre ++ rest) =
        pre ++ squeeze isSpace [' '] false rest := by
      cases pre with
      | nil => rfl
      | cons d pre =>
        exact squeeze_solid false (fun e he => h e (List.mem_cons_of_mem _ he))
          (List.cons_ne_nil _ _) rest
    rw [List.cons_append, squeeze, if_neg hc, hrest, List.cons_append]

theorem squeeze_command (hkey : IsKey key) (hp : Unbroken p) (hd : isSpace d = false)
    (within : Bool) (xs : List Char) :
    squeeze isSpace [' '] within (key ++ '=' :: (p ++ ' ' :: d :: xs)) =
      key ++ '=' :: (p ++ ' ' :: d :: squeeze isSpace [' '] false xs) := by
  have hne : key ++ '=' :: p ≠ [] := by simp
  have htext (zs : List Char) : key ++ '=' :: (p ++ zs) = (key ++ '=' :: p) ++ zs := by simp
  have hd' : ¬isSpace d = true := by rw [hd]; exact Bool.false_ne_true
  rw [htext, htext, squeeze_solid within (solid_command hkey hp) hne, squeeze,
    if_pos (by decide), squeeze, if_neg hd']
  rfl

protected theorem squeeze (h : Echoed w key p q b x y) (hkey : IsKey key) (hp : Unbroken p)
    (hq : Unbroken q) :
    ∀ (within : Bool) {b' : Option Char},
      (b.any w.isWord = false → b'.any w.isWord = false) →
      (within = true → b'.any w.isWord = false) →
      Echoed w key p q b' (squeeze isSpace [' '] within x) (squeeze isSpace [' '] within y) := by
  induction h with
  | nil => exact fun _ _ _ _ => .nil _
  | @char b c xs ys h ih =>
    intro within b' hb hwithin
    rw [squeeze, squeeze]
    split
    · cases within with
      | true => exact ih true (fun _ => hwithin rfl) hwithin
      | false => exact .char b' (ih true (fun _ => not_isWord_blank) fun _ => not_isWord_blank)
    · exact .char b' (ih false id fun h => absurd h Bool.false_ne_true)
  | @command b d xs ys hb hd h ih =>
    intro within b' hb' _
    rw [squeeze_command hkey hp hd, squeeze_command hkey hq hd]
    exact .command (hb' hb) hd (ih false id fun h => absurd h Bool.false_ne_true)

theorem collapse (h : Echoed w key p q none x y) (hkey : IsKey key) (hp : Unbroken p)
    (hq : Unbroken q) : Echoed w key p q none (collapse x) (collapse y) := by
  unfold Messages.collapse space
  rw [subChars_plus_chr, subChars_plus_chr]
  exact h.squeeze hkey hp hq false id nofun

theorem dropSpaces (h : Echoed w key p q b x y) (hkey : IsKey key) {b' : Option Char}
    (hb' : b'.any w.isWord = false) :
    Echoed w key p q b' (x.dropWhile isSpace) (y.dropWhile isSpace) := by
  induction h with
  | nil => exact .nil _
  | @char b c xs ys h ih =>
    cases hc : isSpace c with
    | true =>
      rw [List.dropWhile_cons_of_pos hc, List.dropWhile_cons_of_pos hc]
      exact ih
    | false =>
      have hneg : ¬isSpace c = true := by rw [hc]; exact Bool.false_ne_true
      rw [List.dropWhile_cons_of_neg hneg, List.dropWhile_cons_of_neg hneg]
      exact .char b' h
  | @command b d xs ys hb hd h ih =>
    obtain ⟨k, ks, hcons, hk⟩ := key_eq_cons hkey
    have hkeep (zs : List Char) : (key ++ zs).dropWhile isSpace = key ++ zs := by
      rw [hcons, List.cons_append, List.dropWhile_cons_of_neg]
      rw [hk.isSpace_eq_false]
      exact Bool.false_ne_true
    rw [hkeep, hkeep]
    exact .command hb' hd h

theorem dropLastSpaces (h : Echoed w key p q b x y) (hkey : IsKey key) :
    Echoed w key p q b (x.rdropWhile isSpace) (y.rdropWhile isSpace) := by
  induction h with
  | nil => exact .nil _
  | @char b c xs ys h ih =>
    rw [rdropWhile_cons, rdropWhile_cons]
    by_cases hx : xs.rdropWhile isSpace = []
    · rw [if_pos hx, if_pos ((ih.nil_iff hkey).mp hx)]
      exact .refl _ _
    · rw [if_neg hx, if_neg fun hy => hx ((ih.nil_iff hkey).mpr hy)]
      exact .char b ih
  | @command b d xs ys hb hd h ih =>
    have hkeep (r zs : List Char) :
        (key ++ '=' :: (r ++ ' ' :: d :: zs)).rdropWhile isSpace =
          key ++ '=' :: (r ++ ' ' :: d :: zs.rdropWhile isSpace) := by
      have htext (zs : List Char) :
          key ++ '=' :: (r ++ ' ' :: zs) = (key ++ '=' :: (r ++ [' '])) ++ zs := by simp
      rw [htext (d :: zs), rdropWhile_append_cons hd, htext (d :: zs.rdropWhile isSpace)]
    rw [hkeep, hkeep]
    exact .command hb hd ih

theorem stripChars (h : Echoed w key p q none x y) (hkey : IsKey key) :
    Echoed w key p q none (stripChars x) (stripChars y) :=
  (h.dropSpaces hkey rfl).dropLastSpaces hkey

/-- The text that a message is made of is the same for both passwords. -/
theorem masked_eq (h : Echoed w key p q none x y) (hkey : IsKey key) (hp : Unbroken p)
    (hq : Unbroken q) :
    hidePasswords w (Lib.stripChars (Messages.collapse x)) =
      hidePasswords w (Lib.stripChars (Messages.collapse y)) :=
  ((h.collapse hkey hp hq).stripChars hkey).hidePasswords_eq hkey hp hq

end Echoed

end BackupCenter.Zabbix
