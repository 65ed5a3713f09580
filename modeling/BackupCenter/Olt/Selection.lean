import BackupCenter.Lib.Scan

/-!
# Choosing an answer

A script sends several commands and stores the answer to one of them. What it owes is the first
good answer. What the loops do is another thing: the longest answer that may be kept stands as the
best, the first accepted one ends the loop, and the backup succeeds if these two are the same.
-/
namespace BackupCenter.Olt

open BackupCenter.Lib

/-- Each command of a list without repetitions has one answer. -/
theorem eq_of_mem_zip {α β : Type*} {as : List α} {bs : List β} (has : as.Nodup) {a : α} {x y : β}
    (hx : (a, x) ∈ as.zip bs) (hy : (a, y) ∈ as.zip bs) : x = y := by
  induction as generalizing bs with
  | nil => simp at hx
  | cons c as ih =>
    cases bs with
    | nil => simp at hx
    | cons b bs =>
      obtain ⟨hc, has⟩ := List.nodup_cons.mp has
      rw [List.zip_cons_cons, List.mem_cons] at hx hy
      rcases hx with hx | hx <;> rcases hy with hy | hy
      · exact (Prod.mk.inj hx).2.trans (Prod.mk.inj hy).2.symm
      · exact absurd ((Prod.mk.inj hx).1 ▸ (List.of_mem_zip hy).1) hc
      · exact absurd ((Prod.mk.inj hy).1 ▸ (List.of_mem_zip hx).1) hc
      · exact ih has hx hy

/-- What a command returned, and whether the prompt came back. -/
structure Answer where
  ok : Bool
  output : String
  deriving DecidableEq

/-- An answer as a script judges it, with the text that it would store. -/
structure Judged where
  command : String
  ok : Bool
  text : String
  paged : Bool
  valid : Bool
  meaningful : Bool
  deriving DecidableEq

/-- Complete, without a pager marker, not invalid and meaningful. -/
def Judged.good (j : Judged) : Bool := j.ok && !j.paged && j.valid && j.meaningful

/-- A stored file, or the message of a failure. -/
inductive Outcome where
  | stored (message file : String)
  | failed (message : String)
  deriving DecidableEq

/-- The first good answer is stored under its command; without one the backup fails, and nothing
but a good answer is stored. -/
structure Lawful (message : String → String) (judged : List Judged) (outcome : Outcome) :
    Prop where
  stores : ∀ before j after, First Judged.good judged before j after →
    outcome = .stored (message j.command) j.text
  fails : (∀ j ∈ judged, j.good = false) → ∃ reason, outcome = .failed reason
  sound : ∀ name file, outcome = .stored name file →
    ∃ j ∈ judged, j.good = true ∧ name = message j.command ∧ file = j.text

/-- What the loops carry along. -/
structure Best where
  best : String := ""
  used : Option String := none
  bestValid : Bool := false
  deriving DecidableEq

section

variable (kept accepted : Judged → Bool)

/-- The first accepted answer decides. When it is complete, everything kept before it is shorter;
when it is not, something kept before it is at least as long, and no good answer follows. -/
def FirstWins (judged : List Judged) : Prop :=
  ∀ before a after, First accepted judged before a after →
    if a.ok then ∀ b ∈ before, kept b = true → b.text.length < a.text.length
    else (∃ b ∈ before, kept b = true ∧ a.text.length ≤ b.text.length) ∧
      ∀ c ∈ after, c.good = false

/-- The loop variables that stand for an answer. -/
def Best.of : Option Judged → Best
  | none => {}
  | some j => { best := j.text, used := some j.command, bestValid := accepted j }

/-- The longest answer so far, with its command and whether it is accepted. -/
def Best.scan (judged : List Judged) : Best :=
  Best.of accepted (scanLongest (·.text.length) kept accepted none judged)

/-- One round of the loop. -/
theorem Best.of_keepLonger {j : Judged} (hj : kept j = true → 0 < j.text.length)
    (best : Option Judged) :
    Best.of accepted (keepLonger (·.text.length) kept best j) =
      if kept j && (Best.of accepted best).best.length < j.text.length then
        { best := j.text, used := some j.command, bestValid := accepted j }
      else Best.of accepted best := by
  unfold keepLonger
  cases hkept : kept j with
  | false => rfl
  | true =>
    cases best with
    | none =>
      have hlong : decide ("".length < j.text.length) = true := decide_eq_true (hj hkept)
      show Best.of accepted (some j) = if (true && decide ("".length < _)) = true then _ else _
      rw [hlong]
      rfl
    | some b =>
      show Best.of accepted (if (true && decide (b.text.length < j.text.length)) = true then _
        else _) = if (true && decide (b.text.length < j.text.length)) = true then _ else _
      split <;> rfl

variable {kept accepted}

/-- An outcome that is read off the loop variables. -/
structure Follows (kept accepted : Judged → Bool) (message : String → String)
    (judged : List Judged) (outcome : Outcome) : Prop where
  stored : ∀ j, scanLongest (·.text.length) kept accepted none judged = some j →
    accepted j = true → outcome = .stored (message j.command) j.text
  failed : (∀ j, scanLongest (·.text.length) kept accepted none judged = some j →
    accepted j = false) → ∃ reason, outcome = .failed reason

/-- The script stores its best when that is a valid one. -/
theorem Follows.of_scan {message : String → String} {judged : List Judged} {outcome : Outcome}
    {s : Best} (hs : s = Best.scan kept accepted judged)
    (hstored : s.bestValid = true → outcome = .stored (message (s.used.getD "")) s.best)
    (hfailed : s.bestValid = false → ∃ reason, outcome = .failed reason) :
    Follows kept accepted message judged outcome := by
  subst hs
  constructor
  · intro j hj haccepted
    rw [Best.scan, hj] at hstored
    exact hstored haccepted
  · intro hnone
    refine hfailed ?_
    unfold Best.scan
    cases hscan : scanLongest (·.text.length) kept accepted none judged with
    | none => rfl
    | some j => exact hnone j hscan

/-- What a script accepts it keeps; a complete answer is accepted if it is good; and no other
answer goes by the name of one that is accepted although it is not complete. -/
structure Accepts (kept accepted : Judged → Bool) (message : String → String)
    (judged : List Judged) : Prop where
  keeps : ∀ j ∈ judged, accepted j = true → kept j = true
  good : ∀ j ∈ judged, j.good = (j.ok && accepted j)
  named : ∀ j ∈ judged, accepted j = true → j.ok = false →
    ∀ i ∈ judged, message j.command = message i.command → i = j

variable {message : String → String} {judged : List Judged} {outcome : Outcome}

theorem Accepts.first_good (h : Accepts kept accepted message judged)
    {before after : List Judged} {a : Judged} (ha : First accepted judged before a after)
    (hok : a.ok = true) : First Judged.good judged before a after := by
  refine ⟨ha.split, by rw [h.good a ha.mem, hok, ha.holds]; rfl, fun b hb => ?_⟩
  rw [h.good b (by simp [ha.split, hb]), ha.fails b hb, Bool.and_false]

/-- With a longer answer before the first accepted one the backup fails. -/
theorem Follows.failed_of_longer (h : Follows kept accepted message judged outcome)
    {before after : List Judged} {a b : Judged} (ha : First accepted judged before a after)
    (hb : b ∈ before) (hkept : kept b = true) (hlonger : a.text.length ≤ b.text.length) :
    ∃ reason, outcome = .failed reason := by
  have hlonger : ∃ c ∈ before,
      scanLongest (·.text.length) kept accepted none judged = some c :=
    scanLongest_of_longer ha hb hkept hlonger
  obtain ⟨c, hc, hscan⟩ := hlonger
  refine h.failed fun j hj => ?_
  rw [hscan] at hj
  cases hj
  exact ha.fails c hc

/-- Otherwise the first accepted one is stored. -/
theorem Follows.stored_of_shorter (h : Follows kept accepted message judged outcome)
    (haccepts : Accepts kept accepted message judged)
    {before after : List Judged} {a : Judged} (ha : First accepted judged before a after)
    (hshorter : ∀ b ∈ before, kept b = true → b.text.length < a.text.length) :
    outcome = .stored (message a.command) a.text :=
  h.stored a (scanLongest_of_shorter ha (haccepts.keeps a ha.mem ha.holds) hshorter) ha.holds

theorem Follows.failed_of_none (h : Follows kept accepted message judged outcome)
    (hnone : ∀ j ∈ judged, accepted j = false) : ∃ reason, outcome = .failed reason :=
  h.failed fun j hj => hnone j ((scanLongest_of_none hnone).mem j hj)

theorem FirstWins.of_lawful (h : Follows kept accepted message judged outcome)
    (haccepts : Accepts kept accepted message judged) (hlaw : Lawful message judged outcome) :
    FirstWins kept accepted judged := by
  intro before a after ha
  split
  · rename_i hok
    intro b hb hkept
    by_contra hlonger
    obtain ⟨reason, hreason⟩ := h.failed_of_longer ha hb hkept (Nat.le_of_not_lt hlonger)
    rw [hlaw.stores before a after (haccepts.first_good ha hok)] at hreason
    cases hreason
  · rename_i hok
    rw [Bool.not_eq_true] at hok
    by_cases hlonger : ∃ b ∈ before, kept b = true ∧ a.text.length ≤ b.text.length
    · refine ⟨hlonger, fun c hc => ?_⟩
      obtain ⟨b, hb, hkept, hsize⟩ := hlonger
      obtain ⟨reason, hreason⟩ := h.failed_of_longer ha hb hkept hsize
      by_contra hgood
      rw [Bool.not_eq_false] at hgood
      obtain ⟨before', j, after', hj⟩ :=
        exists_first ⟨c, ha.split ▸ List.mem_append_right _ (List.mem_cons_of_mem _ hc), hgood⟩
      rw [hlaw.stores before' j after' hj] at hreason
      cases hreason
    · have hstored := h.stored_of_shorter haccepts ha fun b hb hkept => by
        by_contra hsize
        exact hlonger ⟨b, hb, hkept, Nat.le_of_not_lt hsize⟩
      obtain ⟨j, hj, hgood, hname, -⟩ := hlaw.sound _ _ hstored
      rw [haccepts.named a ha.mem ha.holds hok j hj hname, haccepts.good a ha.mem, hok] at hgood
      cases hgood

theorem FirstWins.lawful (h : Follows kept accepted message judged outcome)
    (haccepts : Accepts kept accepted message judged) (hwins : FirstWins kept accepted judged) :
    Lawful message judged outcome := by
  by_cases hany : ∃ j ∈ judged, accepted j = true
  · obtain ⟨before, a, after, ha⟩ := exists_first hany
    have hfirst := hwins before a after ha
    split at hfirst
    · rename_i hok
      have hstored := h.stored_of_shorter haccepts ha hfirst
      have hgood := haccepts.first_good ha hok
      refine ⟨fun before' j after' hj => ?_, fun hnone => ?_, fun name file heq => ?_⟩
      · rw [(hj.unique hgood).2.1, hstored]
      · have ha' := hnone a ha.mem
        rw [hgood.holds] at ha'
        cases ha'
      · rw [hstored] at heq
        cases heq
        exact ⟨a, ha.mem, hgood.holds, rfl, rfl⟩
    · rename_i hok
      obtain ⟨⟨b, hb, hkept, hsize⟩, hafter⟩ := hfirst
      obtain ⟨reason, hreason⟩ := h.failed_of_longer ha hb hkept hsize
      have hnone : ∀ j ∈ judged, j.good = false := by
        intro j hj
        rw [ha.split] at hj
        rcases List.mem_append.mp hj with hj | hj
        · rw [haccepts.good j (by simp [ha.split, hj]), ha.fails j hj, Bool.and_false]
        · rcases List.mem_cons.mp hj with rfl | hj
          · rw [haccepts.good j ha.mem, Bool.eq_false_iff.mpr hok, Bool.false_and]
          · exact hafter j hj
      refine ⟨fun before' j after' hj => ?_, fun _ => ⟨reason, hreason⟩, fun name file heq => ?_⟩
      · have hgood := hj.holds
        rw [hnone j hj.mem] at hgood
        cases hgood
      · rw [hreason] at heq
        cases heq
  · have hnone : ∀ j ∈ judged, accepted j = false := fun j hj => by
      by_contra haccepted
      exact hany ⟨j, hj, by simpa using haccepted⟩
    obtain ⟨reason, hreason⟩ := h.failed_of_none hnone
    refine ⟨fun before j after hj => ?_, fun _ => ⟨reason, hreason⟩, fun name file heq => ?_⟩
    · have hgood := hj.holds
      rw [haccepts.good j hj.mem, hnone j hj.mem, Bool.and_false] at hgood
      cases hgood
    · rw [hreason] at heq
      cases heq

/-- The loops keep to the law exactly when the first accepted answer wins. -/
theorem Follows.lawful_iff_ordered (h : Follows kept accepted message judged outcome)
    (haccepts : Accepts kept accepted message judged) :
    Lawful message judged outcome ↔ FirstWins kept accepted judged :=
  ⟨FirstWins.of_lawful h haccepts, FirstWins.lawful h haccepts⟩

end

end BackupCenter.Olt
