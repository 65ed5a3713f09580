import BackupCenter.Lib.Prog

/-!
# Answering prompts

A client sends a message and receives what its partner says until it waits again. A loop answers
as long as what it has received asks for something. It says what the partner asks for, and no
more, exactly when it reads every prompt as it is meant.
-/
namespace BackupCenter.Lib

variable {ρ χ : Type}

/-- A partner says something after the messages that it has been sent, the last one of which is
this. -/
def hear (partner : List ρ → χ) (message : ρ) (sent : List ρ) : χ × List ρ :=
  (partner (sent ++ [message]), sent ++ [message])

/-- A program that sends messages. -/
abbrev Talk (ρ χ τ : Type) := Prog ρ (fun _ => χ) τ

section Loop

variable [Append χ] (asks : χ → χ → Option ρ)

/-- Answers what `asks` finds in all that was received and in the last piece of it, at most
`rounds` times. -/
def answerPrompts : Nat → χ → χ → Talk ρ χ χ
  | 0, received, _ => pure received
  | rounds + 1, received, last =>
    match asks received last with
    | none => pure received
    | some reply => do
      let piece ← Prog.ask reply
      answerPrompts rounds (received ++ piece) piece

/-- The partner follows a dialogue: of each turn the answer that it waits for, and what it says
then. -/
def Spoken (partner : List ρ → χ) : List ρ → List (ρ × χ) → Prop
  | _, [] => True
  | sent, t :: turns => partner (sent ++ [t.1]) = t.2 ∧ Spoken partner (sent ++ [t.1]) turns

/-- At each prompt the loop finds what the partner waits for, and at the end nothing, unless it
has no round left. -/
def Heeded : Nat → χ → χ → List (ρ × χ) → Prop
  | 0, _, _, _ => True
  | _ + 1, received, last, [] => asks received last = none
  | rounds + 1, received, last, t :: turns =>
    asks received last = some t.1 ∧ Heeded rounds (received ++ t.2) t.2 turns

/-- All that the partner says in a dialogue. -/
def spokenText (first : χ) (turns : List (ρ × χ)) : χ :=
  turns.foldl (fun text t => text ++ t.2) first

variable {asks} {partner : List ρ → χ} {sent : List ρ} {turns : List (ρ × χ)} {rounds : Nat}
  {received last : χ}

/-- What was sent stays sent. -/
theorem sent_prefix :
    sent <+: ((answerPrompts asks rounds received last).run (hear partner) sent).2 := by
  induction rounds generalizing sent received last with
  | zero => exact List.prefix_refl _
  | succ rounds ih =>
    unfold answerPrompts
    split
    next => exact List.prefix_refl _
    next reply _ => exact (List.prefix_append sent [reply]).trans ih

theorem run_answer {reply : ρ} (h : asks received last = some reply) :
    (answerPrompts asks (rounds + 1) received last).run (hear partner) sent =
      (answerPrompts asks rounds (received ++ partner (sent ++ [reply]))
        (partner (sent ++ [reply]))).run (hear partner) (sent ++ [reply]) := by
  simp only [answerPrompts, h]
  rfl

theorem run_end (h : asks received last = none) :
    (answerPrompts asks rounds received last).run (hear partner) sent = (received, sent) := by
  cases rounds with
  | zero => rfl
  | succ rounds =>
    simp only [answerPrompts, h]
    rfl

/-- A reply is among what was sent in the end. -/
theorem reply_sent {reply : ρ} (h : asks received last = some reply) : sent ++ [reply] <+:
    ((answerPrompts asks (rounds + 1) received last).run (hear partner) sent).2 := by
  rw [run_answer h]
  exact sent_prefix

/-- **The loop leads a dialogue as it is meant** exactly when it reads each prompt as it is
meant. -/
theorem answerPrompts_iff (hspoken : Spoken partner sent turns) (hrounds : turns.length ≤ rounds) :
    (answerPrompts asks rounds received last).run (hear partner) sent =
        (spokenText received turns, sent ++ turns.map Prod.fst) ↔
      Heeded asks rounds received last turns := by
  induction turns generalizing rounds sent received last with
  | nil =>
    rw [List.map_nil, List.append_nil]
    cases rounds with
    | zero => exact iff_of_true rfl trivial
    | succ rounds =>
      constructor
      · intro hrun
        show asks received last = none
        cases hask : asks received last with
        | none => rfl
        | some reply =>
          have hmore := @reply_sent _ _ _ _ partner sent rounds _ _ _ hask
          rw [hrun] at hmore
          have hlength : (sent ++ [reply]).length ≤ sent.length := hmore.length_le
          rw [List.length_append, List.length_singleton] at hlength
          omega
      · exact fun hnone => run_end hnone
  | cons t turns ih =>
    obtain ⟨hnext, hspoken⟩ := hspoken
    obtain ⟨rounds, rfl⟩ : ∃ n, rounds = n + 1 := ⟨rounds - 1, by
      rw [List.length_cons] at hrounds
      omega⟩
    rw [List.map_cons]
    show _ ↔ asks received last = some t.1 ∧ _
    cases hask : asks received last with
    | none =>
      refine iff_of_false (fun hrun => ?_) nofun
      rw [run_end hask] at hrun
      have hlength := congrArg List.length (Prod.mk.inj hrun).2
      rw [List.length_append, List.length_cons] at hlength
      omega
    | some reply =>
      by_cases hreply : reply = t.1
      · subst hreply
        rw [run_answer hask, hnext]
        have hrest := @ih (sent ++ [t.1]) rounds (received ++ t.2) t.2 hspoken
          (Nat.le_of_succ_le_succ hrounds)
        rw [List.append_assoc] at hrest
        exact hrest.trans (and_iff_right rfl).symm
      · -- the wrong reply stands where the right one is expected
        refine iff_of_false (fun hrun => ?_) fun h => hreply (Option.some.inj h.1)
        have hmore := @reply_sent _ _ _ _ partner sent rounds _ _ _ hask
        rw [hrun, List.prefix_append_right_inj] at hmore
        exact hreply (List.cons_prefix_cons.mp hmore).1

end Loop

end BackupCenter.Lib
