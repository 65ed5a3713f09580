import BackupCenter.Lib.Regex

/-!
# Closed forms of matches

Where a match of a run of characters, of a word in either case or of a quoted text ends, and what a
replacement does behind a match.
-/
namespace BackupCenter.Lib

/-- The place behind a text that has been taken. -/
def Place.behind (b : Option Char) (taken rest : List Char) : Place := ⟨taken.getLast?.or b, rest⟩

@[simp] theorem Place.behind_nil (b : Option Char) (rest : List Char) :
    Place.behind b [] rest = ⟨b, rest⟩ := rfl

@[simp] theorem Place.behind_cons (b : Option Char) (c : Char) (taken rest : List Char) :
    Place.behind b (c :: taken) rest = Place.behind (some c) taken rest := by
  cases taken with
  | nil => rfl
  | cons d ds =>
    unfold Place.behind
    rw [List.getLast?_cons_cons]
    cases h : (d :: ds).getLast? with
    | none => simp at h
    | some e => rfl

namespace Regex

variable {p q : Char → Bool} {b : Option Char} {cs : List Char}

/-- The places at which a run may stop, the last one first. -/
def stops (p : Char → Bool) : Option Char → List Char → List Place
  | b, [] => [⟨b, []⟩]
  | b, c :: cs => if p c then stops p (some c) cs ++ [⟨b, c :: cs⟩] else [⟨b, c :: cs⟩]

theorem rounds_chr (p : Char → Bool) (n : Nat) (b : Option Char) (cs : List Char)
    (hn : cs.length ≤ n) : rounds (chr p).ends n ⟨b, cs⟩ = stops p b cs := by
  induction n generalizing b cs with
  | zero =>
    obtain rfl := List.length_eq_zero_iff.mp (Nat.le_zero.mp hn)
    rfl
  | succ n ih =>
    cases cs with
    | nil => rfl
    | cons c cs =>
      have hrest : cs.length ≤ n := Nat.le_of_succ_le_succ hn
      rw [rounds, stops, ends]
      split
      · rw [List.filter_cons_of_pos (by simp), List.filter_nil, List.flatMap_cons,
          List.flatMap_nil, List.append_nil, ih (some c) cs hrest]
      · rfl

theorem ends_star_chr (p : Char → Bool) (b : Option Char) (cs : List Char) :
    (star (chr p)).ends ⟨b, cs⟩ = stops p b cs :=
  rounds_chr p cs.length b cs (Nat.le_refl _)

theorem ends_plus_chr (p : Char → Bool) (b : Option Char) (c : Char) (cs : List Char) :
    (plus (chr p)).ends ⟨b, c :: cs⟩ = if p c then stops p (some c) cs else [] := by
  rw [plus, ends, ends]
  split
  · rw [List.flatMap_cons, List.flatMap_nil, List.append_nil, ends_star_chr]
  · rfl

/-- The preferred stop is the last one. -/
theorem head_stops (p : Char → Bool) (b : Option Char) (cs : List Char) :
    (stops p b cs).head? = some (.behind b (cs.takeWhile p) (cs.dropWhile p)) := by
  induction cs generalizing b with
  | nil => rfl
  | cons c cs ih =>
    rw [stops]
    split
    next hc =>
      rw [List.head?_append, ih, List.takeWhile_cons_of_pos hc, List.dropWhile_cons_of_pos hc,
        Place.behind_cons]
      rfl
    next hc =>
      rw [List.takeWhile_cons_of_neg hc, List.dropWhile_cons_of_neg hc]
      rfl

/-- A character that ends the run is found only behind all of it. -/
theorem stops_flatMap_chr (h : ∀ c, p c = true → q c = false) (b : Option Char)
    (cs : List Char) : (stops p b cs).flatMap (chr q).ends =
      match cs.dropWhile p with
      | [] => []
      | d :: ds => if q d then [⟨some d, ds⟩] else [] := by
  induction cs generalizing b with
  | nil => rfl
  | cons c cs ih =>
    rw [stops]
    split
    next hc =>
      rw [List.flatMap_append, ih, List.dropWhile_cons_of_pos hc, List.flatMap_singleton, ends,
        h c hc, if_neg Bool.false_ne_true, List.append_nil]
    next hc =>
      rw [List.dropWhile_cons_of_neg hc, List.flatMap_singleton, ends]

/-- A text in quotes: the quote, no quote in between, the quote. -/
def quoted (quote : Char) : Regex :=
  inOrder [chr (· == quote), star (chr (· != quote)), chr (· == quote)]

theorem ends_quoted (quote : Char) (b : Option Char) (cs : List Char) :
    (quoted quote).ends ⟨b, cs⟩ =
      match cs with
      | [] => []
      | c :: cs =>
        if c == quote then
          match cs.dropWhile (· != quote) with
          | [] => []
          | _ :: ds => [⟨some quote, ds⟩]
        else [] := by
  cases cs with
  | nil => rfl
  | cons c cs =>
    show ((chr (· == quote)).ends ⟨b, c :: cs⟩).flatMap
      (seq (star (chr (· != quote))) (seq (chr (· == quote)) empty)).ends = _
    rw [ends]
    dsimp only
    cases hc : c == quote with
    | false => rfl
    | true =>
      rw [if_pos rfl, if_pos rfl, List.flatMap_singleton]
      show ((star (chr (· != quote))).ends ⟨some c, cs⟩).flatMap
        (fun a => ((chr (· == quote)).ends a).flatMap empty.ends) = _
      have hempty (a : Place) : ((chr (· == quote)).ends a).flatMap empty.ends =
          (chr (· == quote)).ends a := List.flatMap_singleton' _
      simp only [hempty]
      rw [ends_star_chr]
      show (stops (· != quote) (some c) cs).flatMap (chr (· == quote)).ends = _
      rw [stops_flatMap_chr (by simp)]
      cases hdrop : cs.dropWhile (· != quote) with
      | nil => rfl
      | cons d ds =>
        have hne : cs.dropWhile (· != quote) ≠ [] := by
          rw [hdrop]
          exact List.cons_ne_nil _ _
        have hhead := List.head_dropWhile_not (· != quote) hne
        have hquote : d = quote := by simpa [hdrop] using hhead
        simp [hquote]

/-- The characters of a word stand at the beginning, up to what `same` makes no difference of. -/
def beginsWith (same : Char → Char → Bool) : List Char → List Char → Bool
  | [], _ => true
  | _ :: _, [] => false
  | c :: word, d :: cs => same c d && beginsWith same word cs

theorem ends_word (same : Char → Char → Bool) (word : List Char) (b : Option Char)
    (cs : List Char) : (word.foldr (fun c r => seq (chr (same c)) r) empty).ends ⟨b, cs⟩ =
      if beginsWith same word cs then
        [.behind b (cs.take word.length) (cs.drop word.length)] else [] := by
  induction word generalizing b cs with
  | nil => rfl
  | cons c word ih =>
    cases cs with
    | nil => rfl
    | cons d cs =>
      rw [List.foldr_cons, ends, ends, beginsWith]
      cases hsame : same c d with
      | false => rfl
      | true =>
        rw [if_pos rfl, List.flatMap_singleton, ih, List.length_cons, List.take_succ_cons,
          List.drop_succ_cons, Place.behind_cons, Bool.true_and]

theorem ends_itext (s : String) (b : Option Char) (cs : List Char) : (itext s).ends ⟨b, cs⟩ =
    if beginsWith sameLetter s.toList cs then
      [.behind b (cs.take s.toList.length) (cs.drop s.toList.length)] else [] :=
  ends_word sameLetter s.toList b cs

/-! ## Where a match ends -/

/-- The place is one that a match from the other can end at: behind what the match took. -/
def Reaches (a e : Place) : Prop :=
  ∃ taken, a.rest = taken ++ e.rest ∧ e.before = taken.getLast?.or a.before

theorem Reaches.refl (a : Place) : Reaches a a := ⟨[], rfl, rfl⟩

theorem Reaches.trans {a d e : Place} (hd : Reaches a d) (he : Reaches d e) : Reaches a e := by
  obtain ⟨x, hx, hd⟩ := hd
  obtain ⟨y, hy, he⟩ := he
  refine ⟨x ++ y, by rw [hx, hy, List.append_assoc], ?_⟩
  rw [he, hd, List.getLast?_append, Option.or_assoc]

theorem rounds_reaches {step : Place → List Place} (hstep : ∀ a, ∀ e ∈ step a, Reaches a e)
    (n : Nat) : ∀ a, ∀ e ∈ rounds step n a, Reaches a e := by
  induction n with
  | zero =>
    intro a e he
    rw [List.mem_singleton.mp he]
    exact .refl a
  | succ n ih =>
    intro a e he
    rcases List.mem_append.mp he with he | he
    · obtain ⟨d, hd, hrest⟩ := List.mem_flatMap.mp he
      exact (hstep a d (List.mem_of_mem_filter hd)).trans (ih d e hrest)
    · rw [List.mem_singleton.mp he]
      exact .refl a

theorem fewRounds_reaches {step : Place → List Place} (hstep : ∀ a, ∀ e ∈ step a, Reaches a e)
    (n : Nat) : ∀ a, ∀ e ∈ fewRounds step n a, Reaches a e := by
  induction n with
  | zero =>
    intro a e he
    rw [List.mem_singleton.mp he]
    exact .refl a
  | succ n ih =>
    intro a e he
    rcases List.mem_cons.mp he with rfl | he
    · exact .refl e
    · obtain ⟨d, hd, hrest⟩ := List.mem_flatMap.mp he
      exact (hstep a d (List.mem_of_mem_filter hd)).trans (ih d e hrest)

theorem ends_reaches (r : Regex) : ∀ a, ∀ e ∈ r.ends a, Reaches a e := by
  induction r with
  | empty =>
    intro a e he
    rw [List.mem_singleton.mp he]
    exact .refl a
  | chr p =>
    intro a e he
    obtain ⟨b, cs⟩ := a
    cases cs with
    | nil => cases he
    | cons c cs =>
      rw [ends] at he
      split at he
      · rw [List.mem_singleton.mp he]
        exact ⟨[c], rfl, rfl⟩
      · cases he
  | guard p =>
    intro a e he
    rw [ends] at he
    split at he
    · rw [List.mem_singleton.mp he]
      exact .refl a
    · cases he
  | seq r s ihr ihs =>
    intro a e he
    obtain ⟨d, hd, hrest⟩ := List.mem_flatMap.mp he
    exact (ihr a d hd).trans (ihs d e hrest)
  | alt r s ihr ihs =>
    intro a e he
    rcases List.mem_append.mp he with he | he
    · exact ihr a e he
    · exact ihs a e he
  | star r ih => exact fun a => rounds_reaches ih _ a
  | few r ih => exact fun a => fewRounds_reaches ih _ a

/-- The preferred match of `(keep)drop`: where its group ends and where it ends itself. -/
def keptEnds (keep drop : Regex) (a : Place) : Option (Place × Place) :=
  ((keep.ends a).flatMap fun mid => (drop.ends mid).map (mid, ·)).head?

theorem keptEnds_of_nil {keep drop : Regex} {a : Place} (h : keep.ends a = []) :
    keptEnds keep drop a = none := by
  rw [keptEnds, h]
  rfl

theorem keptEnds_of_one {keep drop : Regex} {a mid : Place} (h : keep.ends a = [mid]) :
    keptEnds keep drop a = (drop.first mid).map (mid, ·) := by
  rw [keptEnds, h, List.flatMap_singleton, List.head?_map]
  rfl

theorem reaches_of_keptEnds {keep drop : Regex} {a mid e : Place}
    (h : keptEnds keep drop a = some (mid, e)) : Reaches a mid ∧ Reaches mid e := by
  obtain ⟨d, hd, he⟩ := List.mem_flatMap.mp (List.mem_of_head? h)
  obtain ⟨f, hf, heq⟩ := List.mem_map.mp he
  obtain ⟨rfl, rfl⟩ := Prod.mk.inj heq
  exact ⟨ends_reaches keep a d hd, ends_reaches drop d f hf⟩

/-! ## Replacing -/

variable {match_ : Place → Option (Nat × List Char)}

/-- The text of a match is passed over. -/
theorem replaceFrom_skip (n : Nat) (b : Option Char) (cs : List Char) :
    replaceFrom match_ b n cs =
      replaceFrom match_ ((cs.take n).getLast?.or b) 0 (cs.drop n) := by
  induction n generalizing b cs with
  | zero => rfl
  | succ n ih =>
    cases cs with
    | nil => rfl
    | cons c cs =>
      rw [replaceFrom, ih, List.take_succ_cons, List.drop_succ_cons]
      congr 1
      have h := Place.behind_cons b c (cs.take n) []
      exact congrArg Place.before h.symm

/-- At a place without a match the character stays. -/
theorem replaceFrom_cons_of_none {c : Char} (h : match_ ⟨b, c :: cs⟩ = none) :
    replaceFrom match_ b 0 (c :: cs) = c :: replaceFrom match_ (some c) 0 cs := by
  rw [replaceFrom, h]

/-- A match is replaced, and the replacement goes on behind it. -/
theorem replaceFrom_cons_of_some {c : Char} {taken rest new : List Char}
    (hcs : c :: cs = taken ++ rest) (htaken : taken ≠ [])
    (h : match_ ⟨b, c :: cs⟩ = some (taken.length, new)) :
    replaceFrom match_ b 0 (c :: cs) = new ++ replaceFrom match_ taken.getLast? 0 rest := by
  cases taken with
  | nil => exact absurd rfl htaken
  | cons d taken =>
    obtain ⟨rfl, rfl⟩ := List.cons.inj hcs
    rw [List.length_cons] at h
    rw [replaceFrom, h]
    show new ++ replaceFrom match_ (some c) taken.length (taken ++ rest) = _
    rw [replaceFrom_skip, List.take_left, List.drop_left]
    have hlast := congrArg Place.before (Place.behind_cons none c taken [])
    simp only [Place.behind, Option.or_none] at hlast
    rw [hlast]

/-- Each run of the characters replaced by one text. -/
def squeeze (p : Char → Bool) (new : List Char) : Bool → List Char → List Char
  | _, [] => []
  | within, c :: cs =>
    if p c then (if within then [] else new) ++ squeeze p new true cs
    else c :: squeeze p new false cs

theorem squeeze_within (p : Char → Bool) (new cs : List Char) :
    squeeze p new true cs = squeeze p new false (cs.dropWhile p) := by
  induction cs with
  | nil => rfl
  | cons c cs ih =>
    cases hc : p c with
    | true =>
      rw [squeeze, if_pos hc, if_pos rfl, List.nil_append, ih, List.dropWhile_cons_of_pos hc]
    | false =>
      have hneg : ¬p c = true := by rw [hc]; exact Bool.false_ne_true
      rw [List.dropWhile_cons_of_neg hneg, squeeze, squeeze, if_neg hneg, if_neg hneg]

theorem subChars_plus_chr (p : Char → Bool) (new : String) (cs : List Char) :
    (plus (chr p)).subChars new cs = squeeze p new.toList false cs := by
  have hall (n : Nat) : ∀ (b : Option Char) (cs : List Char), cs.length ≤ n →
      replaceFrom (fun a => ((plus (chr p)).width a).map (·, new.toList)) b 0 cs =
        squeeze p new.toList false cs := by
    induction n with
    | zero =>
      intro b cs hn
      obtain rfl := List.length_eq_zero_iff.mp (Nat.le_zero.mp hn)
      rfl
    | succ n ih =>
      intro b cs hn
      cases cs with
      | nil => rfl
      | cons c cs =>
        have hrest : cs.length ≤ n := Nat.le_of_succ_le_succ hn
        have hfirst : (plus (chr p)).first ⟨b, c :: cs⟩ =
            if p c then some (.behind (some c) (cs.takeWhile p) (cs.dropWhile p)) else none := by
          rw [first, ends_plus_chr]
          split
          · exact head_stops ..
          · rfl
        rw [squeeze]
        cases hc : p c with
        | true =>
          rw [hc, if_pos rfl] at hfirst
          rw [if_pos rfl, if_neg Bool.false_ne_true, squeeze_within, ← ih none _
            ((List.length_dropWhile_le p cs).trans hrest)]
          have htaken : c :: cs = (c :: cs.takeWhile p) ++ cs.dropWhile p := by
            rw [List.cons_append, List.takeWhile_append_dropWhile]
          have hmatch : ((plus (chr p)).width ⟨b, c :: cs⟩).map (·, new.toList) =
              some ((c :: cs.takeWhile p).length, new.toList) := by
            have hlength := congrArg List.length htaken
            rw [List.length_append] at hlength
            rw [width, hfirst, Option.map_some, Option.map_some]
            show some ((c :: cs).length - (cs.dropWhile p).length, _) = _
            rw [hlength, Nat.add_sub_cancel]
          rw [replaceFrom_cons_of_some htaken (List.cons_ne_nil _ _) hmatch]
          rw [ih _ _ ((List.length_dropWhile_le p cs).trans hrest),
            ih _ _ ((List.length_dropWhile_le p cs).trans hrest)]
        | false =>
          rw [hc, if_neg Bool.false_ne_true] at hfirst
          rw [if_neg Bool.false_ne_true, replaceFrom_cons_of_none, ih _ cs hrest]
          rw [width, hfirst]
          rfl
  exact hall cs.length none cs (Nat.le_refl _)

/-- What `subKeepChars` puts in the place of a match. -/
def keptNew (keep drop : Regex) (new : String) (a : Place) : Option (Nat × List Char) :=
  (keptMatch keep drop a).map fun m => (m.1, m.2 ++ new.toList)

theorem keptNew_eq (keep drop : Regex) (new : String) (a : Place) :
    keptNew keep drop new a = (keptEnds keep drop a).map fun e =>
      (a.rest.length - e.2.rest.length,
        a.rest.take (a.rest.length - e.1.rest.length) ++ new.toList) := by
  rw [keptNew, keptMatch, Option.map_map]
  rfl

theorem replaceFrom_kept_none {keep drop : Regex} {new : String} {c : Char}
    (h : keptEnds keep drop ⟨b, c :: cs⟩ = none) :
    replaceFrom (keptNew keep drop new) b 0 (c :: cs) =
      c :: replaceFrom (keptNew keep drop new) (some c) 0 cs :=
  replaceFrom_cons_of_none (by rw [keptNew_eq, h]; rfl)

/-- The group stays, the rest of the match gives way, and the replacement goes on behind it. -/
theorem replaceFrom_kept_some {keep drop : Regex} {new : String} {key value : List Char}
    {mid e : Place} (h : keptEnds keep drop ⟨b, cs⟩ = some (mid, e))
    (hkey : cs = key ++ mid.rest) (hvalue : mid.rest = value ++ e.rest) (hne : value ≠ []) :
    replaceFrom (keptNew keep drop new) b 0 cs =
      key ++ (new.toList ++ replaceFrom (keptNew keep drop new) e.before 0 e.rest) := by
  obtain ⟨hmid, hend⟩ := reaches_of_keptEnds h
  obtain ⟨taken, htaken, hbefore⟩ := hmid.trans hend
  have hcs : cs = key ++ value ++ e.rest := by rw [hkey, hvalue, List.append_assoc]
  have heq : taken = key ++ value := List.append_cancel_right (htaken.symm.trans hcs)
  have htaken_ne : taken ≠ [] := by simp [heq, hne]
  have hlast : e.before = taken.getLast? := by
    rw [hbefore]
    cases hl : taken.getLast? with
    | none => exact absurd (List.getLast?_eq_none_iff.mp hl) htaken_ne
    | some c => rfl
  have hmatch : keptNew keep drop new ⟨b, cs⟩ = some (taken.length, key ++ new.toList) := by
    have hlength : cs.length - e.rest.length = taken.length := by
      rw [hcs, ← heq, List.length_append]
      omega
    have hgroup : cs.take (cs.length - mid.rest.length) = key := by
      have hsub : cs.length - mid.rest.length = key.length := by
        rw [hkey, List.length_append]
        omega
      rw [hsub, hkey, List.take_left]
    rw [keptNew_eq, h]
    show some (cs.length - e.rest.length, cs.take (cs.length - mid.rest.length) ++ new.toList) = _
    rw [hlength, hgroup]
  have hsplit : cs = taken ++ e.rest := htaken
  cases cs with
  | nil => exact absurd hsplit.symm (by simp [htaken_ne])
  | cons c cs =>
    rw [replaceFrom_cons_of_some hsplit htaken_ne hmatch, hlast, List.append_assoc]

/-- No match begins in the first part of the text. -/
def Untouched (match_ : Place → Option (Nat × List Char)) : Option Char → List Char → List Char →
    Prop
  | _, [], _ => True
  | b, c :: pre, rest => match_ ⟨b, c :: (pre ++ rest)⟩ = none ∧ Untouched match_ (some c) pre rest

theorem replaceFrom_untouched {pre rest : List Char} (h : Untouched match_ b pre rest) :
    replaceFrom match_ b 0 (pre ++ rest) =
      pre ++ replaceFrom match_ (pre.getLast?.or b) 0 rest := by
  induction pre generalizing b with
  | nil => rfl
  | cons c pre ih =>
    rw [List.cons_append, replaceFrom_cons_of_none h.1, ih h.2, List.cons_append]
    have hlast := congrArg Place.before (Place.behind_cons b c pre [])
    simp only [Place.behind] at hlast
    rw [hlast]

end Regex

end BackupCenter.Lib
