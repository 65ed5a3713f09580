import BackupCenter.Lib.Shell

/-!
# Lines without quotation

A text that stands in a line without any quotes is one word of it exactly if it consists of plain
characters and does not begin like a tilde prefix or a comment: what quotes, expands or ends a word
changes the tokens.
-/
namespace BackupCenter.Lib.Shell

variable {X tokens : List Token} {cs : List Char} {c : Char} {r r' : Reader}

/-- A quoting character that stands outside of quotes is lost. -/
theorem weight_quoting (hmode : r.mode = .unquoted ∨ r.mode = .comment) (hc : isQuoting c = true)
    (h : exec Reader.step r (c :: cs) = some r') (hend : r'.mode = .unquoted ∨ r'.mode = .comment) :
    r'.weight isQuoting ≤ r.weight isQuoting + cs.countP isQuoting := by
  obtain ⟨s, hs, hrest⟩ := exec_cons h
  have hrun := weight_exec (p := isQuoting) hrest
  have hle : weight isQuoting r.tokens + (r.word.getD []).countP isQuoting ≤ r.weight isQuoting :=
    Nat.le_add_right ..
  rcases hmode with hmode | hmode
  · rw [Reader.step, hmode] at hs
    dsimp only [Reader.unquotedStep] at hs
    split at hs
    · obtain rfl := Option.some.inj hs
      rw [weight_put (by decide), List.countP_nil] at hrun
      omega
    split at hs
    · obtain rfl := Option.some.inj hs
      rw [weight_put (by decide), List.countP_nil] at hrun
      omega
    split at hs
    · obtain rfl := Option.some.inj hs
      -- the backslash is lost with the next character
      cases cs with
      | nil =>
        obtain rfl := Option.some.inj hrest
        simp at hend
      | cons d cs =>
        obtain ⟨t, ht, hrest⟩ := exec_cons hrest
        have hrun := weight_exec (p := isQuoting) hrest
        have hstep := weight_escaped (p := isQuoting) rfl ht
        rw [List.countP_cons]
        dsimp only at hstep
        omega
    next h₁ h₂ h₃ => simp [isQuoting, h₁, h₂, h₃] at hc
  · rw [Reader.step, hmode] at hs
    obtain rfl := Option.some.inj hs
    rw [if_neg (by rintro rfl; simp [isQuoting] at hc)] at hrun
    exact hrun

theorem step_mode_of_not_quoting (hmode : r.mode = .unquoted ∨ r.mode = .comment)
    (hc : isQuoting c = false) (h : r.step c = some r') :
    r'.mode = .unquoted ∨ r'.mode = .comment := by
  obtain ⟨h₁, h₂, h₃⟩ := ne_of_not_quoting hc
  rcases hmode with hmode | hmode
  · rw [Reader.step, hmode] at h
    dsimp only [Reader.unquotedStep] at h
    rw [if_neg h₁, if_neg h₂, if_neg h₃] at h
    split at h
    · exact absurd h (by simp)
    split at h
    · obtain rfl := Option.some.inj h
      exact .inl rfl
    split at h
    · split at h
      all_goals obtain rfl := Option.some.inj h
      · exact .inl hmode
      · exact .inl rfl
    split at h
    · exact absurd h (by simp)
    split at h
    all_goals obtain rfl := Option.some.inj h
    · exact .inr rfl
    · exact .inl rfl
  · rw [Reader.step, hmode] at h
    obtain rfl := Option.some.inj h
    split
    · exact .inl rfl
    · exact .inr hmode

/-- A line that loses none of its quoting characters has none. -/
theorem not_quoting : ∀ {cs : List Char} {r : Reader}, r.mode = .unquoted ∨ r.mode = .comment →
    exec Reader.step r cs = some r' → r'.mode = .unquoted ∨ r'.mode = .comment →
    r.weight isQuoting + cs.countP isQuoting ≤ r'.weight isQuoting →
    ∀ c ∈ cs, isQuoting c = false
  | [], _, _, _, _, _ => List.forall_mem_nil _
  | c :: cs, r, hmode, h, hend, hweight => by
    have hc : isQuoting c = false := by
      refine Bool.eq_false_iff.mpr fun hc => ?_
      have hlost := weight_quoting hmode hc h hend
      rw [List.countP_cons, if_pos hc] at hweight
      omega
    obtain ⟨s, hs, hrest⟩ := exec_cons h
    have hstep := weight_step (p := isQuoting) hs
    rw [List.countP_cons] at hweight
    rw [hc] at hweight hstep
    have ih := not_quoting (step_mode_of_not_quoting hmode hc hs) hrest hend
      (by simpa using Nat.le_trans (Nat.add_le_add_right hstep _) hweight)
    exact List.forall_mem_cons.mpr ⟨hc, ih⟩

/-- All words consist of plain characters. -/
def Reader.PlainWords (r : Reader) : Prop :=
  (∀ w, r.word = some w → ∀ c ∈ w, isPlain c = true) ∧
    ∀ w, Token.word w ∈ r.tokens → ∀ c ∈ w, isPlain c = true

namespace Reader.PlainWords

theorem opToken_mem {w : List Char} : Token.word w ∉ r.opToken := by
  unfold Reader.opToken
  split <;> simp

theorem of_mem_pending (h : r.PlainWords) {w : List Char} (hw : Token.word w ∈ r.pending) :
    ∀ c ∈ w, isPlain c = true := by
  rcases List.mem_append.mp hw with hw | hw
  · exact absurd hw opToken_mem
  · obtain ⟨v, hv, heq⟩ := List.mem_map.mp hw
    obtain rfl := Token.word.inj heq
    exact h.1 _ (Option.mem_toList.mp hv)

theorem of_mem_pendingBefore (h : r.PlainWords) {w : List Char}
    (hw : Token.word w ∈ r.pendingBefore c) : ∀ c ∈ w, isPlain c = true := by
  unfold Reader.pendingBefore at hw
  split at hw
  · split at hw
    · simp at hw
    · exact h.of_mem_pending hw
  · exact h.of_mem_pending hw

theorem of_finish (h : r.PlainWords) (hend : r.finish = some tokens) {w : List Char}
    (hw : Token.word w ∈ tokens) : ∀ c ∈ w, isPlain c = true := by
  obtain ⟨-, rfl⟩ := finish_eq_some_iff.mp hend
  rcases List.mem_append.mp hw with hw | hw
  · exact h.2 _ hw
  · exact h.of_mem_pending hw

theorem step (h : r.PlainWords) (hmode : r.mode = .unquoted ∨ r.mode = .comment)
    (hc : isQuoting c = false) (hs : r.step c = some r') : r'.PlainWords := by
  obtain ⟨h₁, h₂, h₃⟩ := ne_of_not_quoting hc
  rcases hmode with hmode | hmode
  · rw [Reader.step, hmode] at hs
    dsimp only [Reader.unquotedStep] at hs
    rw [if_neg h₁, if_neg h₂, if_neg h₃] at hs
    split at hs
    · exact absurd hs (by simp)
    next hexpanding =>
    split at hs
    · obtain rfl := Option.some.inj hs
      exact ⟨by simp, fun w hw => (List.mem_append.mp hw).elim (h.2 w) h.of_mem_pending⟩
    next hblank =>
    split at hs
    · split at hs
      all_goals obtain rfl := Option.some.inj hs
      · exact h
      · exact ⟨by simp, fun w hw => (List.mem_append.mp hw).elim (h.2 w) h.of_mem_pendingBefore⟩
    next hoperator =>
    split at hs
    · exact absurd hs (by simp)
    split at hs
    all_goals obtain rfl := Option.some.inj hs
    · exact ⟨by simp, fun w hw => (List.mem_append.mp hw).elim (h.2 w) h.of_mem_pending⟩
    · have hplain : isPlain c = true := isPlain_iff.mpr
        ⟨hc, by simpa using hexpanding, by simpa using hblank, by simpa using hoperator⟩
      refine ⟨fun w hw d hd => ?_, fun w hw => ?_⟩
      · obtain rfl := Option.some.inj hw
        rcases List.mem_append.mp hd with hd | hd
        · cases hword : r.word with
          | none => simp [hword] at hd
          | some v => exact h.1 v hword d (by simpa [hword] using hd)
        · rwa [List.mem_singleton.mp hd]
      · exact (List.mem_append.mp hw).elim (h.2 w) fun hw => absurd hw opToken_mem
  · rw [Reader.step, hmode] at hs
    obtain rfl := Option.some.inj hs
    split
    · exact ⟨by simp, h.2⟩
    · exact h

theorem exec : ∀ {cs : List Char} {r : Reader}, r.PlainWords →
    r.mode = .unquoted ∨ r.mode = .comment → (∀ c ∈ cs, isQuoting c = false) →
    Lib.exec Reader.step r cs = some r' → r'.PlainWords
  | [], r, h, _, _, hrun => by
    obtain rfl := Option.some.inj hrun
    exact h
  | c :: cs, r, h, hmode, hcs, hrun => by
    obtain ⟨s, hs, hrest⟩ := exec_cons hrun
    have hc := hcs c (List.mem_cons_self ..)
    exact exec (h.step hmode hc hs) (step_mode_of_not_quoting hmode hc hs)
      (fun d hd => hcs d (List.mem_cons_of_mem _ hd)) hrest

end Reader.PlainWords

/-- A line whose words have all its quoting characters has plain words only. -/
theorem plain_of_tokens (h : r.PlainWords) (hmode : r.mode = .unquoted ∨ r.mode = .comment)
    (hrun : exec Reader.step r cs = some r') (hend : r'.finish = some tokens)
    (hweight : r.weight isQuoting + cs.countP isQuoting ≤ weight isQuoting tokens) {w : List Char}
    (hw : Token.word w ∈ tokens) : ∀ c ∈ w, isPlain c = true := by
  rw [weight_finish hend] at hweight
  have hcs := not_quoting hmode hrun (finish_eq_some_iff.mp hend).1 hweight
  exact (h.exec hmode hcs hrun).of_finish hend hw

/-- The rest of a comment is skipped. -/
theorem exec_comment : ∀ {cs : List Char} {r : Reader}, r.mode = .comment →
    (∀ c ∈ cs, c ≠ '\n') → exec Reader.step r cs = some r
  | [], _, _, _ => rfl
  | c :: cs, r, hmode, h => by
    have hstep : r.step c = some r := by
      rw [Reader.step, hmode]
      exact congrArg some (if_neg (h c (List.mem_cons_self ..)))
    rw [exec, hstep, Option.bind_some]
    exact exec_comment hmode fun d hd => h d (List.mem_cons_of_mem _ hd)

/-- A line is read with a text as a word of it if and only if the text is such a word. -/
theorem tokensFrom_word_iff {t : List Token} {arg rest : List Char}
    (hX : ∀ w, Token.word w ∈ X → ∀ c ∈ w, isPlain c = true)
    (hrest : tokensOf rest = some t) (hcalm : ∀ c ∈ rest, isQuoting c = false ∧ c ≠ '\n') :
    tokensFrom X (arg ++ ' ' :: rest) = some (X ++ .word arg :: t) ↔ IsWord arg := by
  constructor
  · intro h
    obtain ⟨r, hr, hend⟩ := Option.bind_eq_some_iff.mp h
    have hplain : ∀ c ∈ arg, isPlain c = true := by
      refine plain_of_tokens (r := { tokens := X }) ⟨by simp, hX⟩ (.inl rfl) hr hend ?_ (by simp)
      have hzero : rest.countP isQuoting = 0 :=
        List.countP_eq_zero.mpr fun c hc => by rw [(hcalm c hc).1]; exact Bool.false_ne_true
      have hblank : isQuoting ' ' = false := rfl
      rw [List.countP_append, List.countP_cons, hzero, hblank, weight_append, weight_word]
      simp [Reader.weight, Mode.waits]
    refine ⟨?_, hplain, ?_, ?_⟩
    · rintro rfl
      have hskip : tokensFrom X (' ' :: rest) = tokensFrom X rest := by
        have hstep : Reader.step { tokens := X } ' ' = some { tokens := X } := by
          simp [Reader.step, Reader.unquotedStep, isExpanding, isBlank, Reader.pending,
            Reader.opToken]
        rw [tokensFrom, exec, hstep]
        rfl
      rw [List.nil_append, hskip, tokensFrom_end hrest] at h
      simpa using congrArg List.length (List.append_cancel_left (Option.some.inj h))
    · intro htilde
      obtain ⟨cs, rfl⟩ := List.head?_eq_some_iff.mp htilde
      rw [List.cons_append, exec] at hr
      exact absurd hr (by simp [Reader.step, Reader.unquotedStep, isExpanding, isBlank, isOperator])
    · intro hhash
      obtain ⟨cs, rfl⟩ := List.head?_eq_some_iff.mp hhash
      have hstep : Reader.step { tokens := X } '#' = some { mode := .comment, tokens := X } := by
        simp [Reader.step, Reader.unquotedStep, isExpanding, isBlank, isOperator, Reader.pending,
          Reader.opToken]
      have hline : ∀ c ∈ cs ++ ' ' :: rest, c ≠ '\n' := by
        intro c hc
        rcases List.mem_append.mp hc with hc | hc
        · rintro rfl
          exact absurd (hplain _ (List.mem_cons_of_mem _ hc)) (by decide)
        · rcases List.mem_cons.mp hc with rfl | hc
          · decide
          · exact (hcalm c hc).2
      rw [List.cons_append, exec, hstep, Option.bind_some, exec_comment rfl hline] at hr
      obtain rfl := Option.some.inj hr
      have htokens := Option.some.inj hend
      simpa [Reader.pending, Reader.opToken] using congrArg List.length htokens
  · intro h
    rw [tokensFrom_word h, tokensFrom_end hrest, List.append_assoc, List.singleton_append]

end BackupCenter.Lib.Shell
