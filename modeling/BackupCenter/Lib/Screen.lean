import BackupCenter.Lib.Regex
import Mathlib.Algebra.Order.Group.Nat

/-!
# What a terminal shows

A backspace takes the last character that still stands on its line, and nothing at the start of
a line. `erasePairs` takes out a character together with the backspace right behind it: it
never shows less than the terminal does, and `excess` counts what it shows too much.
-/
namespace BackupCenter.Lib

def backspace : Char := '\x08'

/-! ## The screen -/

/-- A backspace on what stands on the screen, the last character first. -/
def takeBack : List Char → List Char
  | [] => []
  | c :: shown => if c = '\n' then c :: shown else shown

def typed (shown : List Char) (c : Char) : List Char :=
  if c = backspace then takeBack shown else c :: shown

def screen (cs : List Char) : List Char := (cs.foldl typed []).reverse

/-- What still stands on the last line, the last character first. -/
def lastLine (shown : List Char) : List Char := shown.takeWhile (· ≠ '\n')

theorem takeBack_sublist (shown : List Char) : (takeBack shown).Sublist shown := by
  cases shown with
  | nil => exact List.Sublist.slnil
  | cons c shown =>
    rw [takeBack]
    split
    · exact List.Sublist.refl _
    · exact List.sublist_cons_self ..

theorem takeBack_mono {shown more : List Char} (h : shown.Sublist more) :
    (takeBack shown).Sublist (takeBack more) := by
  cases h with
  | slnil => exact List.Sublist.slnil
  | @cons _ more c h =>
    rw [takeBack.eq_2 c more]
    split
    · exact (takeBack_sublist shown).trans (h.cons c)
    · exact (takeBack_sublist shown).trans h
  | cons_cons c h =>
    simp only [takeBack]
    split
    · exact h.cons_cons c
    · exact h

theorem typed_mono {shown more : List Char} (h : shown.Sublist more) (c : Char) :
    (typed shown c).Sublist (typed more c) := by
  unfold typed
  split
  · exact takeBack_mono h
  · exact h.cons_cons c

theorem foldl_typed_sublist (cs shown : List Char) :
    (cs.foldl typed shown).Sublist (cs.reverse ++ shown) := by
  induction cs generalizing shown with
  | nil => exact List.Sublist.refl _
  | cons c cs ih =>
    have hc : (typed shown c).Sublist (c :: shown) := by
      unfold typed
      split
      · exact (takeBack_sublist shown).trans (List.sublist_cons_self ..)
      · exact List.Sublist.refl _
    rw [List.foldl_cons, List.reverse_cons, List.append_assoc]
    exact (ih _).trans (List.Sublist.append_left hc _)

theorem screen_sublist (cs : List Char) : (screen cs).Sublist cs := by
  have h := (foldl_typed_sublist cs []).reverse
  rwa [List.append_nil, List.reverse_reverse] at h

theorem foldl_typed_of_notMem {cs : List Char} (h : backspace ∉ cs) (shown : List Char) :
    cs.foldl typed shown = cs.reverse ++ shown := by
  induction cs generalizing shown with
  | nil => rfl
  | cons c cs ih =>
    have hc : c ≠ backspace := fun hc => h (hc ▸ List.mem_cons_self ..)
    rw [List.foldl_cons, typed, if_neg hc, ih fun hmem => h (List.mem_cons_of_mem _ hmem),
      List.reverse_cons, List.append_assoc, List.singleton_append]

theorem screen_of_notMem {cs : List Char} (h : backspace ∉ cs) : screen cs = cs := by
  rw [screen, foldl_typed_of_notMem h, List.append_nil, List.reverse_reverse]

theorem backspace_notMem_foldl {cs shown : List Char} (h : backspace ∉ shown) :
    backspace ∉ cs.foldl typed shown := by
  induction cs generalizing shown with
  | nil => exact h
  | cons c cs ih =>
    refine ih ?_
    unfold typed
    split
    · exact fun hmem => h ((takeBack_sublist shown).subset hmem)
    · rename_i hc
      exact fun hmem => (List.mem_cons.mp hmem).elim (fun heq => hc heq.symm) h

theorem backspace_notMem_screen (cs : List Char) : backspace ∉ screen cs := fun hmem =>
  backspace_notMem_foldl (by simp) (List.mem_reverse.mp hmem)

/-! ## Pairs taken out -/

/-- `re.sub(r".\x08", "", text)` -/
def erasePairs (cs : List Char) : List Char := Regex.dropPairs (· != '\n') (· == backspace) cs

theorem erasePairs_cons_of_ne {c d : Char} (hd : d ≠ backspace) (cs : List Char) :
    erasePairs (c :: d :: cs) = c :: erasePairs (d :: cs) := by
  rw [erasePairs, Regex.dropPairs, if_neg (by simp [hd])]
  rfl

theorem erasePairs_newline (cs : List Char) :
    erasePairs ('\n' :: cs) = '\n' :: erasePairs cs := by
  cases cs <;> simp [erasePairs, Regex.dropPairs]

theorem erasePairs_pair {c : Char} (hc : c ≠ '\n') (cs : List Char) :
    erasePairs (c :: backspace :: cs) = erasePairs cs := by
  rw [erasePairs, Regex.dropPairs, if_pos (by simp [hc])]
  rfl

theorem length_erasePairs_le (cs : List Char) : (erasePairs cs).length ≤ cs.length := by
  unfold erasePairs
  fun_induction Regex.dropPairs (· != '\n') (· == backspace) cs with
  | case1 => exact Nat.le_refl _
  | case2 => exact Nat.le_refl _
  | case3 c d cs _ ih => simp only [List.length_cons]; omega
  | case4 c d cs _ ih => simp only [List.length_cons] at ih ⊢; omega

/-- The pairs taken out, the terminal still shows all that it showed before. -/
theorem foldl_typed_erasePairs {shown more : List Char} (h : shown.Sublist more)
    (cs : List Char) :
    (cs.foldl typed shown).Sublist ((erasePairs cs).foldl typed more) := by
  unfold erasePairs
  fun_induction Regex.dropPairs (· != '\n') (· == backspace) cs generalizing shown more with
  | case1 => exact h
  | case2 c => exact typed_mono h c
  | case3 c d cs hpair ih =>
    simp only [Bool.and_eq_true, bne_iff_ne, ne_eq, beq_iff_eq] at hpair
    obtain ⟨hc, rfl⟩ := hpair
    refine ih ?_
    -- the backspace takes the character before it, or is one of two
    rw [typed.eq_1 _ backspace, if_pos rfl, typed]
    split
    · exact (takeBack_sublist _).trans ((takeBack_sublist _).trans h)
    · rwa [takeBack, if_neg hc]
  | case4 c d cs _ ih => exact ih (typed_mono h c)

theorem screen_sublist_erasePairs (cs : List Char) :
    (screen cs).Sublist (screen (erasePairs cs)) :=
  (foldl_typed_erasePairs (List.Sublist.refl []) cs).reverse

/-! ## Runs of backspaces -/

/-- The backspaces that a text begins with, and its other characters, each with the number of
backspaces right behind it. -/
def struck : List Char → Nat × List (Char × Nat)
  | [] => (0, [])
  | c :: cs =>
    if c = backspace then ((struck cs).1 + 1, (struck cs).2)
    else (0, (c, (struck cs).1) :: (struck cs).2)

def written (bs : List (Char × Nat)) : List Char :=
  bs.flatMap fun b => b.1 :: List.replicate b.2 backspace

theorem written_struck (cs : List Char) :
    List.replicate (struck cs).1 backspace ++ written (struck cs).2 = cs := by
  induction cs with
  | nil => rfl
  | cons c cs ih =>
    rw [struck]
    split
    · rename_i hc
      rw [List.replicate_succ, List.cons_append, ih, hc]
    · simpa [written] using ih

theorem ne_of_mem_struck {cs : List Char} {b : Char × Nat} (hb : b ∈ (struck cs).2) :
    b.1 ≠ backspace := by
  induction cs with
  | nil => simp [struck] at hb
  | cons c cs ih =>
    rw [struck] at hb
    split at hb
    · exact ih hb
    · rename_i hc
      rcases List.mem_cons.mp hb with rfl | hb
      · exact hc
      · exact ih hb

/-- What the terminal shows after one character with its backspaces. -/
def strike (shown : List Char) (b : Char × Nat) : List Char := takeBack^[b.2] (b.1 :: shown)

/-- What is left of them when the pairs are taken out. -/
def leftover (b : Char × Nat) : List Char :=
  match b.2 with
  | 0 => [b.1]
  | n + 1 =>
    if b.1 = '\n' then '\n' :: List.replicate ((n + 1) % 2) backspace
    else List.replicate (n % 2) backspace

theorem foldl_typed_replicate (m : Nat) (shown : List Char) :
    (List.replicate m backspace).foldl typed shown = takeBack^[m] shown := by
  induction m generalizing shown with
  | zero => rfl
  | succ m ih => exact ih (takeBack shown)

theorem foldl_typed_written {bs : List (Char × Nat)} (hbs : ∀ b ∈ bs, b.1 ≠ backspace)
    (shown : List Char) : (written bs).foldl typed shown = bs.foldl strike shown := by
  induction bs generalizing shown with
  | nil => rfl
  | cons b bs ih =>
    have hb : typed shown b.1 = b.1 :: shown := if_neg (hbs b (List.mem_cons_self ..))
    have hwritten : written (b :: bs) = (b.1 :: List.replicate b.2 backspace) ++ written bs := rfl
    rw [hwritten, List.foldl_append, List.foldl_cons, hb, foldl_typed_replicate, List.foldl_cons]
    exact ih (fun c hc => hbs c (List.mem_cons_of_mem _ hc)) _

theorem head_written {bs : List (Char × Nat)} (hbs : ∀ b ∈ bs, b.1 ≠ backspace) :
    (written bs).head? ≠ some backspace := by
  cases bs with
  | nil => simp [written]
  | cons b bs => simpa [written] using hbs b (List.mem_cons_self ..)

theorem erasePairs_replicate {rest : List Char} (h : rest.head? ≠ some backspace) (m : Nat) :
    erasePairs (List.replicate m backspace ++ rest) =
      List.replicate (m % 2) backspace ++ erasePairs rest := by
  induction m using Nat.twoStepInduction with
  | zero => rfl
  | one =>
    cases rest with
    | nil => rfl
    | cons d rest => exact erasePairs_cons_of_ne (fun hd => h (hd ▸ rfl)) rest
  | more m ih _ =>
    rw [List.replicate_succ, List.replicate_succ, List.cons_append, List.cons_append,
      erasePairs_pair (by decide), ih, Nat.add_mod_right]

theorem erasePairs_written {bs : List (Char × Nat)} (hbs : ∀ b ∈ bs, b.1 ≠ backspace) :
    erasePairs (written bs) = bs.flatMap leftover := by
  induction bs with
  | nil => rfl
  | cons b bs ih =>
    obtain ⟨c, m⟩ := b
    have htail : ∀ b ∈ bs, b.1 ≠ backspace := fun b hb => hbs b (List.mem_cons_of_mem _ hb)
    have hrun (n : Nat) := erasePairs_replicate (head_written htail) n
    rw [ih htail] at hrun
    have hwritten :
        written ((c, m) :: bs) = c :: (List.replicate m backspace ++ written bs) := rfl
    rw [hwritten, List.flatMap_cons]
    cases m with
    | zero =>
      have hnext := head_written htail
      cases hcs : written bs with
      | nil =>
        rw [← ih htail, hcs]
        rfl
      | cons d cs =>
        rw [hcs] at hnext
        rw [← ih htail, hcs]
        exact erasePairs_cons_of_ne (fun hd => hnext (hd ▸ rfl)) cs
    | succ n =>
      by_cases hc : c = '\n'
      · rw [hc, erasePairs_newline, hrun]
        simp [leftover]
      · rw [List.replicate_succ, List.cons_append, erasePairs_pair hc, hrun]
        simp [leftover, hc]

/-! ## What is shown too much -/

section

variable (p : Char → Bool)

/-- The counted characters that pairs leave although the terminal has erased them, with the
backspaces they leave. -/
def excessOf (shown : List Char) (b : Char × Nat) : Nat :=
  match b.2 with
  | 0 => 0
  | n + 1 =>
    if b.1 = '\n' then (n + 1) % 2 else ((lastLine shown).take n).countP p + n % 2

theorem countP_takeBack (shown : List Char) (n : Nat) :
    (takeBack^[n] shown).countP p + ((lastLine shown).take n).countP p = shown.countP p := by
  induction n generalizing shown with
  | zero => simp
  | succ n ih =>
    rw [Function.iterate_succ_apply]
    cases shown with
    | nil => simpa [takeBack, lastLine] using ih []
    | cons c shown =>
      by_cases hc : c = '\n'
      · have h := ih (c :: shown)
        rw [takeBack, if_pos hc]
        simpa [lastLine, hc] using h
      · have h := ih shown
        have hline : (lastLine (c :: shown)).take (n + 1) = c :: (lastLine shown).take n := by
          simp [lastLine, hc]
        rw [takeBack, if_neg hc, hline, List.countP_cons, List.countP_cons]
        omega

variable {p}

theorem countP_strike (hp : p backspace = true) (shown : List Char) (b : Char × Nat) :
    (strike shown b).countP p + excessOf p shown b =
      shown.countP p + (leftover b).countP p := by
  obtain ⟨c, m⟩ := b
  cases m with
  | zero => simp [strike, excessOf, leftover, List.countP_cons]
  | succ n =>
    by_cases hc : c = '\n'
    · subst hc
      have hnewline : takeBack ('\n' :: shown) = '\n' :: shown := by
        rw [takeBack, if_pos rfl]
      have hstays : takeBack^[n + 1] ('\n' :: shown) = '\n' :: shown :=
        Function.iterate_fixed hnewline (n + 1)
      simp only [strike, excessOf, leftover, hstays, if_true, List.countP_cons,
        List.countP_replicate, hp]
      omega
    · have h := countP_takeBack p shown n
      have hfirst : takeBack (c :: shown) = shown := if_neg hc
      simp only [strike, excessOf, leftover, Function.iterate_succ_apply, hfirst, if_neg hc,
        List.countP_replicate, hp, if_true]
      omega

/-- All that is shown too much, character by character. -/
def excess (p : Char → Bool) : List Char → List (Char × Nat) → Nat
  | _, [] => 0
  | shown, b :: bs => excessOf p shown b + excess p (strike shown b) bs

theorem countP_foldl_strike (hp : p backspace = true) (shown : List Char)
    (bs : List (Char × Nat)) :
    (bs.foldl strike shown).countP p + excess p shown bs =
      shown.countP p + (bs.flatMap leftover).countP p := by
  induction bs generalizing shown with
  | nil => rfl
  | cons b bs ih =>
    have hb := countP_strike hp shown b
    have hbs := ih (strike shown b)
    rw [List.foldl_cons, excess, List.flatMap_cons, List.countP_append]
    omega

theorem excess_eq_zero_iff (shown : List Char) (bs : List (Char × Nat)) :
    excess p shown bs = 0 ↔ ∀ before b after, bs = before ++ b :: after →
      excessOf p (before.foldl strike shown) b = 0 := by
  induction bs generalizing shown with
  | nil => simp [excess]
  | cons b bs ih =>
    rw [excess, Nat.add_eq_zero_iff, ih]
    constructor
    · rintro ⟨hb, hbs⟩ before b' after heq
      cases before with
      | nil =>
        cases heq
        exact hb
      | cons c before =>
        cases heq
        exact hbs before b' after rfl
    · intro h
      exact ⟨h [] b bs rfl, fun before b' after heq => h (b :: before) b' after (by rw [heq]; rfl)⟩

/-- The terminal shows nothing else than what is left when the pairs are taken out, exactly when
nothing is shown too much. Only the counted characters are compared. -/
theorem filter_erasePairs_eq_iff (hp : p backspace = true) (cs : List Char) :
    (erasePairs cs).filter p = (screen cs).filter p ↔
      (struck cs).1 % 2 = 0 ∧ excess p [] (struck cs).2 = 0 := by
  have hne : ∀ b ∈ (struck cs).2, b.1 ≠ backspace := fun b => ne_of_mem_struck
  have hscreen : screen cs = ((struck cs).2.foldl strike []).reverse := by
    have hstart : takeBack^[(struck cs).1] [] = [] := Function.iterate_fixed rfl _
    rw [← foldl_typed_written hne, ← hstart, ← foldl_typed_replicate, ← List.foldl_append,
      written_struck]
    rfl
  have herased : erasePairs cs =
      List.replicate ((struck cs).1 % 2) backspace ++ (struck cs).2.flatMap leftover := by
    rw [← erasePairs_written hne, ← erasePairs_replicate (head_written hne), written_struck]
  have hcount := countP_foldl_strike hp [] (struck cs).2
  have hsub : ((screen cs).filter p).Sublist ((erasePairs cs).filter p) :=
    ((screen_sublist_erasePairs cs).trans (screen_sublist _)).filter p
  have hlengths : (erasePairs cs).countP p =
      (screen cs).countP p + ((struck cs).1 % 2 + excess p [] (struck cs).2) := by
    rw [herased, hscreen, List.countP_append, List.countP_replicate, if_pos hp,
      List.countP_reverse]
    simp only [List.countP_nil] at hcount
    omega
  constructor
  · intro heq
    have h := congrArg List.length heq
    rw [← List.countP_eq_length_filter, ← List.countP_eq_length_filter] at h
    omega
  · rintro ⟨hstart, hexcess⟩
    refine (hsub.eq_of_length ?_).symm
    rw [← List.countP_eq_length_filter, ← List.countP_eq_length_filter]
    omega

end

/-! ## Pairs taken out again and again -/

/-- `while "\x08" in text: text = re.sub(r".\x08", "", text)`, or nothing when the rounds do not
suffice. -/
def eraseWhile : Nat → List Char → Option (List Char)
  | 0, cs => if backspace ∈ cs then none else some cs
  | n + 1, cs => if backspace ∈ cs then eraseWhile n (erasePairs cs) else some cs

/-- There is a pair to take out. -/
def HasPair (cs : List Char) : Prop :=
  ∃ before c after, cs = before ++ c :: backspace :: after ∧ c ≠ '\n'

theorem erasePairs_of_not_hasPair {cs : List Char} (h : ¬ HasPair cs) : erasePairs cs = cs := by
  unfold erasePairs
  fun_induction Regex.dropPairs (· != '\n') (· == backspace) cs with
  | case1 => rfl
  | case2 => rfl
  | case3 c d cs hpair =>
    simp only [Bool.and_eq_true, bne_iff_ne, ne_eq, beq_iff_eq] at hpair
    exact absurd ⟨[], c, cs, by rw [hpair.2]; rfl, hpair.1⟩ h
  | case4 c d cs _ ih =>
    rw [ih]
    rintro ⟨before, e, after, heq, he⟩
    exact h ⟨c :: before, e, after, by rw [heq]; rfl, he⟩

theorem length_erasePairs_lt {cs : List Char} (h : HasPair cs) :
    (erasePairs cs).length < cs.length := by
  unfold erasePairs
  fun_induction Regex.dropPairs (· != '\n') (· == backspace) cs with
  | case1 =>
    obtain ⟨before, c, after, heq, _⟩ := h
    simp at heq
  | case2 d =>
    obtain ⟨before, c, after, heq, _⟩ := h
    have hlength := congrArg List.length heq
    simp only [List.length_append, List.length_cons, List.length_nil] at hlength
    omega
  | case3 c d cs _ _ =>
    have hle := length_erasePairs_le cs
    unfold erasePairs at hle
    simp only [List.length_cons]
    omega
  | case4 c d cs hpair ih =>
    obtain ⟨before, e, after, heq, he⟩ := h
    cases before with
    | nil =>
      cases heq
      exact absurd (by simp [he]) hpair
    | cons _ before =>
      have htail : d :: cs = before ++ e :: backspace :: after := (List.cons.inj heq).2
      have hlt := ih ⟨before, e, after, htail, he⟩
      simp only [List.length_cons] at hlt ⊢
      omega

theorem not_hasPair_of_notMem {cs : List Char} (h : backspace ∉ cs) : ¬ HasPair cs := by
  rintro ⟨before, c, after, rfl, _⟩
  exact h (by simp)

/-- What the rounds come to. -/
theorem eraseWhile_eq_some {fuel : Nat} {cs out : List Char} (h : eraseWhile fuel cs = some out) :
    backspace ∉ out ∧ ∃ n, erasePairs^[n] cs = out := by
  fun_induction eraseWhile fuel cs with
  | case1 => cases h
  | case2 cs hcs => cases h; exact ⟨hcs, 0, rfl⟩
  | case3 n cs _ ih =>
    obtain ⟨hout, k, hk⟩ := ih h
    exact ⟨hout, k + 1, hk⟩
  | case4 n cs hcs => cases h; exact ⟨hcs, 0, rfl⟩

theorem screen_sublist_iterate (cs : List Char) (n : Nat) :
    (screen cs).Sublist (screen (erasePairs^[n] cs)) := by
  induction n generalizing cs with
  | zero => exact List.Sublist.refl _
  | succ n ih => exact (screen_sublist_erasePairs cs).trans (ih _)

/-- The rounds end with what the terminal shows, exactly when each of them finds a pair and
takes nothing from the screen or adds to it. -/
theorem eraseWhile_eq_screen_iff (cs : List Char) :
    (∃ fuel, eraseWhile fuel cs = some (screen cs)) ↔
      ∀ n, backspace ∈ erasePairs^[n] cs → HasPair (erasePairs^[n] cs) ∧
        screen (erasePairs^[n + 1] cs) = screen (erasePairs^[n] cs) := by
  constructor
  · rintro ⟨fuel, hfuel⟩ n hn
    obtain ⟨hout, last, hlast⟩ := eraseWhile_eq_some hfuel
    have hstays (k : Nat) : erasePairs^[k] (screen cs) = screen cs :=
      Function.iterate_fixed (erasePairs_of_not_hasPair (not_hasPair_of_notMem hout)) k
    have hbefore : n < last := by
      by_contra hlt
      obtain ⟨k, rfl⟩ := Nat.exists_eq_add_of_le' (Nat.le_of_not_lt hlt)
      rw [Function.iterate_add_apply, hlast, hstays] at hn
      exact hout hn
    obtain ⟨k, rfl⟩ := Nat.exists_eq_add_of_le' (Nat.succ_le_of_lt hbefore)
    constructor
    · by_contra hpair
      have hsame : erasePairs^[k + (n + 1)] cs = erasePairs^[n] cs := by
        have hfixed := erasePairs_of_not_hasPair hpair
        rw [Function.iterate_add_apply, Function.iterate_succ_apply', hfixed]
        exact Function.iterate_fixed hfixed k
      rw [hsame] at hlast
      exact hout (hlast ▸ hn)
    · have hfirst := screen_sublist_iterate cs n
      have hnext : (screen (erasePairs^[n] cs)).Sublist (screen (erasePairs^[n + 1] cs)) := by
        rw [Function.iterate_succ_apply']
        exact screen_sublist_erasePairs _
      have hend : (screen (erasePairs^[n + 1] cs)).Sublist (screen cs) := by
        have h := screen_sublist_iterate (erasePairs^[n + 1] cs) k
        rw [← Function.iterate_add_apply, hlast, screen_of_notMem hout] at h
        exact h
      exact (hend.trans hfirst).antisymm hnext
  · intro h
    induction hlength : cs.length using Nat.strong_induction_on generalizing cs with
    | _ length ih =>
      by_cases hcs : backspace ∈ cs
      · obtain ⟨hpair, hscreen⟩ := h 0 hcs
        have hshorter : (erasePairs cs).length < length := hlength ▸ length_erasePairs_lt hpair
        obtain ⟨fuel, hfuel⟩ := ih _ hshorter (erasePairs cs) (fun n => h (n + 1)) rfl
        refine ⟨fuel + 1, ?_⟩
        rw [eraseWhile, if_pos hcs, hfuel]
        exact congrArg some hscreen
      · exact ⟨0, by rw [eraseWhile, if_neg hcs, screen_of_notMem hcs]⟩

end BackupCenter.Lib
