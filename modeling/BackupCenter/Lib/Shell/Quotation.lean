import BackupCenter.Lib.Shell

/-!
# A quotation within double quotes

A script in double quotes is read twice. What `shlex.quote` makes of a text is safe for one reading:
the two together give the text back exactly if the double quotes keep every character of it and it
has no apostrophe.
-/
namespace BackupCenter.Lib.Shell

variable {X tokens : List Token} {w cs : List Char} {c : Char} {p : Char → Bool} {r r' : Reader}

/-! ## Text within double quotes -/

theorem Kept.cons (hc : c ≠ '"' ∧ c ≠ '$' ∧ c ≠ '`')
    (hmeet : c = '\\' → ∀ d, cs.head? = some d → d ≠ '\\' ∧ d ≠ '\n') (h : Kept cs) :
    Kept (c :: cs) := by
  cases cs with
  | nil => exact hc
  | cons d cs => exact ⟨hc, fun hd => hmeet hd d rfl, h⟩

theorem Kept.append : ∀ {cs ds : List Char}, Kept cs → Kept ds →
    (cs.getLast? = some '\\' → ∀ d, ds.head? = some d → d ≠ '\\' ∧ d ≠ '\n') → Kept (cs ++ ds)
  | [], _, _, hds, _ => hds
  | [c], [], hcs, _, _ => hcs
  | [c], d :: ds, hcs, hds, hmeet => ⟨hcs, fun hc => hmeet (by rw [hc]; rfl) d rfl, hds⟩
  | c :: d :: cs, ds, hcs, hds, hmeet => by
    refine ⟨hcs.1, hcs.2.1, ?_⟩
    exact Kept.append hcs.2.2 hds (by rwa [List.getLast?_cons_cons] at hmeet)

/-- Whatever double quotes keep as it is, is kept text. -/
theorem kept_of_weight : ∀ {cs : List Char} {r : Reader}, exec Reader.step r cs = some r' →
    r.weight (fun _ => true) + cs.length ≤ r'.weight (fun _ => true) →
    (r.mode = .double → Kept cs) ∧
      (r.mode = .doubleEscaped → Kept cs ∧ ∀ d, cs.head? = some d → d ≠ '\\' ∧ d ≠ '\n')
  | [], _, _, _ => ⟨fun _ => trivial, fun _ => ⟨trivial, nofun⟩⟩
  | c :: cs, r, h, hweight => by
    obtain ⟨s, hs, hrest⟩ := exec_cons h
    have hrun := weight_exec (p := fun _ => true) hrest
    rw [List.countP_true] at hrun
    rw [List.length_cons] at hweight
    have hbase : r.weight (fun _ => true) + 1 ≤ s.weight (fun _ => true) := by omega
    have hstep := weight_step (p := fun _ => true) hs
    rw [if_pos rfl] at hstep
    have ih := kept_of_weight hrest (by omega)
    have hle : weight (fun _ => true) r.tokens + (r.word.getD []).countP (fun _ => true) ≤
        r.weight (fun _ => true) := Nat.le_add_right ..
    rw [Reader.step] at hs
    refine ⟨fun hmode => ?_, fun hmode => ?_⟩
    · rw [hmode] at hs
      dsimp only at hs
      split at hs
      · obtain rfl := Option.some.inj hs
        have hlost := weight_drop (p := fun _ => true) (r := r)
          (show ¬Mode.unquoted.waits by decide)
        omega
      next hquote =>
      split at hs
      next hc =>
        obtain rfl := Option.some.inj hs
        obtain ⟨hkept, hhead⟩ := ih.2 rfl
        exact hkept.cons (by simp [hc]) fun _ => hhead
      next hbackslash =>
      split at hs
      · exact absurd hs (by simp)
      next hexpanding =>
      obtain rfl := Option.some.inj hs
      obtain ⟨hdollar, htick⟩ := not_or.mp hexpanding
      exact (ih.1 rfl).cons ⟨hquote, hdollar, htick⟩ fun hc => absurd hc hbackslash
    · rw [hmode] at hs
      have hweight : r.weight (fun _ => true) = weight (fun _ => true) r.tokens +
          (r.word.getD []).countP (fun _ => true) + 1 := by
        simp [Reader.weight, hmode, Mode.waits]
      obtain rfl := Option.some.inj hs
      split at hbase
      · rw [weight_put (by decide), List.countP_singleton, if_pos rfl] at hbase
        omega
      next hquoted =>
      split at hbase
      · have hlost := weight_drop (p := fun _ => true) (r := r) (show ¬Mode.double.waits by decide)
        omega
      next hnewline =>
      simp only [Reader.quotedInDouble, Bool.or_eq_true, decide_eq_true_eq, not_or] at hquoted
      rw [if_neg (by simp [Reader.quotedInDouble, hquoted]), if_neg hnewline] at ih
      obtain ⟨⟨⟨hdollar, htick⟩, hquote⟩, hbackslash⟩ := hquoted
      refine ⟨(ih.1 rfl).cons ⟨hquote, hdollar, htick⟩ fun hc => absurd hc hbackslash, ?_⟩
      rintro d hd
      obtain rfl := Option.some.inj hd
      exact ⟨hbackslash, hnewline⟩

/-- Nothing but a double quote leaves double quotes. -/
theorem mode_double : ∀ {cs : List Char} {r : Reader}, (∀ c ∈ cs, c ≠ '"' ∧ c ≠ '\\') →
    r.mode = .double → exec Reader.step r cs = some r' → r'.mode = .double
  | [], r, _, hmode, h => by
    obtain rfl := Option.some.inj h
    exact hmode
  | c :: cs, r, hcs, hmode, h => by
    obtain ⟨s, hs, hrest⟩ := exec_cons h
    obtain ⟨hquote, hbackslash⟩ := hcs c (List.mem_cons_self ..)
    rw [Reader.step, hmode] at hs
    dsimp only at hs
    rw [if_neg hquote, if_neg hbackslash] at hs
    split at hs
    · exact absurd hs (by simp)
    obtain rfl := Option.some.inj hs
    exact mode_double (fun d hd => hcs d (List.mem_cons_of_mem _ hd)) rfl hrest

/-! ## The word that a reader is in -/

namespace Reader

/-- The reader is in a word of which a part was quoted. -/
def InWord (w : List Char) (r : Reader) : Prop :=
  r.word = some w ∧ r.bare = false ∧ r.op = [] ∧ r.mode ≠ .comment

theorem InWord.put {mode : Mode} {bare : Bool} (h : r.InWord w) (hmode : mode ≠ .comment) :
    (r.put mode bare cs).tokens = r.tokens ∧ (r.put mode bare cs).InWord (w ++ cs) := by
  obtain ⟨hword, hbare, hop, -⟩ := h
  simp [Reader.put, opToken, InWord, hword, hbare, hop, hmode]

theorem InWord.pending (h : r.InWord w) : r.pending = [.word w] := by
  simp [Reader.pending, opToken, h.1, h.2.2.1]

theorem InWord.pendingBefore (h : r.InWord w) : r.pendingBefore c = [.word w] := by
  unfold Reader.pendingBefore
  rw [h.pending, h.1, h.2.1]
  rfl

theorem InWord.unquotedStep (h : r.InWord w) (hs : r.unquotedStep c = some r') :
    (r'.tokens = r.tokens ∧ ∃ x, r'.InWord (w ++ x)) ∨ r'.tokens = r.tokens ++ [.word w] := by
  have hput (mode : Mode) (bare : Bool) (cs : List Char) (hmode : mode ≠ .comment) :
      (r.put mode bare cs).tokens = r.tokens ∧ ∃ x, (r.put mode bare cs).InWord (w ++ x) :=
    ⟨(h.put hmode).1, _, (h.put hmode).2⟩
  dsimp only [Reader.unquotedStep] at hs
  split at hs
  · obtain rfl := Option.some.inj hs
    exact .inl (hput _ _ _ (by decide))
  split at hs
  · obtain rfl := Option.some.inj hs
    exact .inl (hput _ _ _ (by decide))
  split at hs
  · obtain rfl := Option.some.inj hs
    exact .inl ⟨rfl, [], by rw [List.append_nil, h.1], h.2.1, h.2.2.1, Mode.noConfusion⟩
  split at hs
  · exact absurd hs (by simp)
  split at hs
  · obtain rfl := Option.some.inj hs
    exact .inr (by rw [h.pending])
  split at hs
  · rw [h.2.2.1, List.nil_append] at hs
    have hshort : [c] ∉ longOperators := by simp [longOperators]
    rw [if_neg hshort] at hs
    obtain rfl := Option.some.inj hs
    exact .inr (by rw [h.pendingBefore])
  split at hs
  next hnone => simp [h.1] at hnone
  split at hs
  next hnone => simp [h.1] at hnone
  · obtain rfl := Option.some.inj hs
    exact .inl (hput _ _ _ (by decide))

/-- A word goes on, or it becomes a token. -/
theorem InWord.step (h : r.InWord w) (hs : r.step c = some r') :
    (r'.tokens = r.tokens ∧ ∃ x, r'.InWord (w ++ x)) ∨ r'.tokens = r.tokens ++ [.word w] := by
  have hstay (mode : Mode) (hmode : mode ≠ .comment) :
      ∃ x, ({ r with mode := mode } : Reader).InWord (w ++ x) :=
    ⟨[], by rw [List.append_nil, h.1], h.2.1, h.2.2.1, hmode⟩
  have hput (mode : Mode) (bare : Bool) (cs : List Char) (hmode : mode ≠ .comment) :
      (r.put mode bare cs).tokens = r.tokens ∧ ∃ x, (r.put mode bare cs).InWord (w ++ x) :=
    ⟨(h.put hmode).1, _, (h.put hmode).2⟩
  rw [Reader.step] at hs
  cases hmode : r.mode with
  | unquoted =>
    rw [hmode] at hs
    exact h.unquotedStep hs
  | escaped =>
    rw [hmode] at hs
    obtain rfl := Option.some.inj hs
    split
    · exact .inl ⟨rfl, hstay _ (by decide)⟩
    · exact .inl (hput _ _ _ (by decide))
  | single =>
    rw [hmode] at hs
    obtain rfl := Option.some.inj hs
    split
    · exact .inl ⟨rfl, hstay _ (by decide)⟩
    · exact .inl (hput _ _ _ (by decide))
  | double =>
    rw [hmode] at hs
    dsimp only at hs
    split at hs
    · obtain rfl := Option.some.inj hs
      exact .inl ⟨rfl, hstay _ (by decide)⟩
    split at hs
    · obtain rfl := Option.some.inj hs
      exact .inl ⟨rfl, hstay _ (by decide)⟩
    split at hs
    · exact absurd hs (by simp)
    · obtain rfl := Option.some.inj hs
      exact .inl (hput _ _ _ (by decide))
  | doubleEscaped =>
    rw [hmode] at hs
    obtain rfl := Option.some.inj hs
    split
    · exact .inl (hput _ _ _ (by decide))
    split
    · exact .inl ⟨rfl, hstay _ (by decide)⟩
    · exact .inl (hput _ _ _ (by decide))
  | comment => exact absurd hmode h.2.2.2

theorem tokens_grow_unquotedStep (hs : r.unquotedStep c = some r') : r.tokens <+: r'.tokens := by
  dsimp only [unquotedStep] at hs
  iterate 3
    split at hs
    · obtain rfl := Option.some.inj hs
      first | exact List.prefix_append .. | exact List.prefix_refl _
  split at hs
  · exact absurd hs (by simp)
  split at hs
  · obtain rfl := Option.some.inj hs
    exact List.prefix_append ..
  split at hs
  · split at hs
    all_goals obtain rfl := Option.some.inj hs
    · exact List.prefix_refl _
    · exact List.prefix_append ..
  split at hs
  · exact absurd hs (by simp)
  split at hs
  all_goals
    obtain rfl := Option.some.inj hs
    exact List.prefix_append ..

theorem tokens_grow_step (hs : r.step c = some r') : r.tokens <+: r'.tokens := by
  rw [Reader.step] at hs
  cases hmode : r.mode with
  | unquoted =>
    rw [hmode] at hs
    exact tokens_grow_unquotedStep hs
  | double =>
    rw [hmode] at hs
    dsimp only at hs
    split at hs
    · obtain rfl := Option.some.inj hs
      exact List.prefix_refl _
    split at hs
    · obtain rfl := Option.some.inj hs
      exact List.prefix_refl _
    split at hs
    · exact absurd hs (by simp)
    · obtain rfl := Option.some.inj hs
      exact List.prefix_append ..
  | doubleEscaped =>
    rw [hmode] at hs
    obtain rfl := Option.some.inj hs
    split
    · exact List.prefix_append ..
    split
    · exact List.prefix_refl _
    · exact List.prefix_append ..
  | escaped | single | comment =>
    rw [hmode] at hs
    obtain rfl := Option.some.inj hs
    split
    · exact List.prefix_refl _
    · first | exact List.prefix_append .. | exact List.prefix_refl _

theorem tokens_grow : ∀ {cs : List Char} {r : Reader}, exec Reader.step r cs = some r' →
    r.tokens <+: r'.tokens
  | [], r, h => by
    obtain rfl := Option.some.inj h
    exact List.prefix_refl _
  | c :: cs, r, h => by
    obtain ⟨s, hs, hrest⟩ := exec_cons h
    exact (tokens_grow_step hs).trans (tokens_grow hrest)

/-- As long as there is no new token, the word goes on. -/
theorem InWord.exec : ∀ {cs w : List Char} {r : Reader}, r.InWord w →
    exec Reader.step r cs = some r' → r'.tokens.length ≤ r.tokens.length →
    r'.tokens = r.tokens ∧ ∃ x, r'.InWord (w ++ x)
  | [], w, r, h, hrun, _ => by
    obtain rfl := Option.some.inj hrun
    exact ⟨rfl, [], by rwa [List.append_nil]⟩
  | c :: cs, w, r, h, hrun, hlength => by
    obtain ⟨s, hs, hrest⟩ := exec_cons hrun
    have hle := (tokens_grow hrest).length_le
    rcases h.step hs with ⟨heq, x, hx⟩ | heq
    · obtain ⟨heq', y, hy⟩ := hx.exec hrest (by rwa [heq])
      exact ⟨heq'.trans heq, x ++ y, by rwa [← List.append_assoc]⟩
    · rw [heq, List.length_append, List.length_singleton] at hle
      omega

/-- The word that the reader is in is the next token. -/
theorem InWord.next_token : ∀ {cs w : List Char} {r : Reader}, r.InWord w →
    Lib.exec Reader.step r cs = some r' → r'.finish = some tokens →
    ∃ x, r.tokens ++ [.word (w ++ x)] <+: tokens
  | [], w, r, h, hrun, hend => by
    obtain rfl := Option.some.inj hrun
    obtain ⟨-, rfl⟩ := finish_eq_some_iff.mp hend
    exact ⟨[], by simp [h.pending]⟩
  | c :: cs, w, r, h, hrun, hend => by
    obtain ⟨s, hs, hrest⟩ := exec_cons hrun
    rcases h.step hs with ⟨heq, x, hx⟩ | heq
    · obtain ⟨y, hy⟩ := hx.next_token hrest hend
      exact ⟨x ++ y, by rwa [heq, List.append_assoc] at hy⟩
    · obtain ⟨-, rfl⟩ := finish_eq_some_iff.mp hend
      have hprefix := (tokens_grow hrest).trans (List.prefix_append r'.tokens r'.pending)
      exact ⟨[], by rwa [heq, ← List.append_nil w] at hprefix⟩

end Reader

/-! ## A quotation within double quotes -/

/-- An apostrophe or a backslash. -/
def isMark (c : Char) : Bool := c = '\'' || c = '\\'

def Mode.onApostrophe : Mode → Mode
  | .unquoted => .single
  | .escaped | .single => .unquoted
  | .double | .doubleEscaped => .double
  | .comment => .comment

def Mode.onQuote : Mode → Mode
  | .unquoted | .doubleEscaped => .double
  | .escaped | .double => .unquoted
  | .single => .single
  | .comment => .comment

def Mode.inDouble (mode : Mode) : Prop := mode = .double ∨ mode = .doubleEscaped

instance (mode : Mode) : Decidable mode.inDouble := inferInstanceAs (Decidable (_ ∨ _))

/-- An apostrophe is kept in double quotes only, unless a backslash is lost for it. -/
theorem step_apostrophe (h : r.step '\'' = some r') : r'.mode = r.mode.onApostrophe ∧
    r'.weight isMark ≤ r.weight isMark + if r.mode.inDouble then 1 else 0 := by
  have hstep := weight_step (p := isMark) h
  rw [Reader.step] at h
  cases hmode : r.mode with
  | unquoted =>
    rw [hmode] at h
    obtain rfl := Option.some.inj h
    refine ⟨rfl, ?_⟩
    rw [weight_put (by decide), List.countP_nil]
    simp [Reader.weight, hmode, Mode.waits]
  | escaped =>
    rw [hmode] at h
    obtain rfl := Option.some.inj h
    refine ⟨rfl, ?_⟩
    rw [if_neg (by decide), weight_put (by decide)]
    simp [Reader.weight, hmode, Mode.waits, isMark]
  | single =>
    rw [hmode] at h
    obtain rfl := Option.some.inj h
    refine ⟨rfl, ?_⟩
    rw [if_pos rfl, weight_drop (by decide)]
    simp [Reader.weight, hmode, Mode.waits]
  | double | doubleEscaped =>
    rw [hmode] at h
    obtain rfl := Option.some.inj h
    exact ⟨rfl, hstep⟩
  | comment =>
    rw [hmode] at h
    obtain rfl := Option.some.inj h
    exact ⟨hmode, Nat.le_add_right ..⟩

theorem step_quote (h : r.step '"' = some r') : r'.mode = r.mode.onQuote := by
  rw [Reader.step] at h
  cases hmode : r.mode <;> rw [hmode] at h <;> obtain rfl := Option.some.inj h
  case comment => exact hmode
  all_goals rfl

theorem weight_requote (h : exec Reader.step r ['\'', '"', '\'', '"', '\''] = some r') :
    r'.weight isMark ≤ r.weight isMark + 1 := by
  obtain ⟨s₁, h₁, h⟩ := exec_cons h
  obtain ⟨s₂, h₂, h⟩ := exec_cons h
  obtain ⟨s₃, h₃, h⟩ := exec_cons h
  obtain ⟨s₄, h₄, h⟩ := exec_cons h
  obtain ⟨s₅, h₅, h⟩ := exec_cons h
  obtain rfl := Option.some.inj h
  obtain ⟨m₁, w₁⟩ := step_apostrophe h₁
  have m₂ := step_quote h₂
  have w₂ := weight_step (p := isMark) h₂
  obtain ⟨m₃, w₃⟩ := step_apostrophe h₃
  have m₄ := step_quote h₄
  have w₄ := weight_step (p := isMark) h₄
  obtain ⟨m₅, w₅⟩ := step_apostrophe h₅
  have hquote : isMark '"' = false := rfl
  rw [hquote] at w₂ w₄
  rw [m₁] at m₂
  rw [m₂] at m₃ w₃
  rw [m₃] at m₄
  rw [m₄] at w₅
  -- one of the three apostrophes is in double quotes
  cases hmode : r.mode <;>
    simp [hmode, Mode.onApostrophe, Mode.onQuote, Mode.inDouble] at w₁ w₂ w₃ w₄ w₅ <;> omega

/-- Reading a quotation anew, at whatever level, gives no apostrophe or backslash twice. -/
theorem weight_requoted : ∀ {cs : List Char} {r : Reader},
    exec Reader.step r (requoted cs) = some r' →
    r'.weight isMark ≤ r.weight isMark + cs.countP isMark
  | [], r, h => by
    obtain rfl := Option.some.inj h
    exact Nat.le_add_right ..
  | c :: cs, r, h => by
    rw [requoted, List.flatMap_cons] at h
    obtain ⟨s, hs, hrest⟩ := exec_split h
    have ih := weight_requoted hrest
    rw [List.countP_cons]
    split at hs
    next hc =>
      have hchunk := weight_requote hs
      rw [hc, if_pos (by rfl)]
      omega
    next hc =>
      have hchunk := weight_exec (p := isMark) hs
      rw [List.countP_singleton] at hchunk
      omega

/-- The text means the same within double quotes and within single ones. -/
def isCalm (c : Char) : Bool := !isQuoting c && c ≠ '$' && c ≠ '`'

theorem isCalm_iff : isCalm c = true ↔
    c ≠ '\'' ∧ c ≠ '"' ∧ c ≠ '\\' ∧ c ≠ '$' ∧ c ≠ '`' := by
  simp [isCalm, isQuoting, and_assoc]

theorem kept_of_forall : ∀ {cs : List Char},
    (∀ c ∈ cs, c ≠ '"' ∧ c ≠ '\\' ∧ c ≠ '$' ∧ c ≠ '`') → Kept cs ∧ cs.getLast? ≠ some '\\'
  | [], _ => ⟨trivial, by simp⟩
  | c :: cs, h => by
    obtain ⟨hquote, hbackslash, hdollar, htick⟩ := h c (List.mem_cons_self ..)
    obtain ⟨hkept, -⟩ := kept_of_forall fun d hd => h d (List.mem_cons_of_mem _ hd)
    refine ⟨hkept.cons ⟨hquote, hdollar, htick⟩ fun hc => absurd hc hbackslash, fun hlast => ?_⟩
    exact (h _ (List.mem_of_getLast? hlast)).2.1 rfl

theorem kept_of_calm {cs : List Char} (h : ∀ c ∈ cs, isCalm c = true) :
    Kept cs ∧ cs.getLast? ≠ some '\\' :=
  kept_of_forall fun c hc => (isCalm_iff.mp (h c hc)).2

theorem countP_calm {cs : List Char} (h : ∀ c ∈ cs, isCalm c = true) : cs.countP isMark = 0 := by
  refine List.countP_eq_zero.mpr fun c hc => ?_
  obtain ⟨hapostrophe, -, hbackslash, -, -⟩ := isCalm_iff.mp (h c hc)
  simp [isMark, hapostrophe, hbackslash]

/-- An apostrophe in double quotes is part of the word, and so is a backslash that waits. -/
theorem step_apostrophe_inDouble (hmode : r.mode.inDouble) : ∃ v,
    r.step '\'' = some
      { mode := .double, word := some (v ++ ['\'']), bare := false,
        tokens := r.tokens ++ r.opToken } ∧
    r.word.getD [] <+: v ∧ ∀ p, r.weight p = weight p r.tokens + v.countP p := by
  rcases hmode with hmode | hmode
  · refine ⟨r.word.getD [], ?_, List.prefix_refl _, fun p => ?_⟩
    · simp [Reader.step, hmode, Reader.put]
    · simp [Reader.weight, hmode, Mode.waits]
  · refine ⟨r.word.getD [] ++ ['\\'], ?_, List.prefix_append .., fun p => ?_⟩
    · simp [Reader.step, hmode, Reader.put, Reader.quotedInDouble]
    · simp [Reader.weight, hmode, Mode.waits, Nat.add_assoc, List.countP_singleton]

/-- The end of a quotation and of the double quotes around it. -/
theorem exec_closing {post : List Char} (hpost : ∀ c ∈ post, isCalm c = true)
    (hmode : r.mode.inDouble)
    (h : exec Reader.step r ('\'' :: (post ++ ['"'])) = some r') (hend : r'.finish = some tokens) :
    ∃ v, tokens = r.tokens ++ r.opToken ++ [.word (v ++ '\'' :: post)] ∧
      r.word.getD [] <+: v ∧ ∀ p, r.weight p = weight p r.tokens + v.countP p := by
  obtain ⟨v, hstep, hv⟩ := step_apostrophe_inDouble hmode
  obtain ⟨hkept, hlast⟩ := kept_of_calm hpost
  rw [exec, hstep, Option.bind_some, exec_append (exec_double hkept hlast)] at h
  obtain rfl := Option.some.inj h
  refine ⟨v, ?_, hv⟩
  obtain rfl := Option.some.inj hend
  simp [Reader.pending, Reader.opToken]

variable {post : List Char}

/-- A quotation within double quotes, of which nothing was taken away but what quoted its own
apostrophes: what the reader has made of the text, `x`, is between the apostrophes. -/
theorem nested_quotation (hpost : ∀ c ∈ post, isCalm c = true)
    (h : exec Reader.step { mode := .double, word := some w, bare := false, tokens := X }
      ('\'' :: (requoted cs ++ '\'' :: (post ++ ['"']))) = some r) (hend : r.finish = some tokens)
    (hlength : tokens.length ≤ X.length + 1)
    (hweight : weight isMark X + w.countP isMark + cs.countP isMark + 2 ≤
      weight isMark tokens) :
    ∃ x s, tokens = X ++ [.word (w ++ '\'' :: (x ++ '\'' :: post))] ∧
      exec Reader.step
        { mode := .double, word := some (w ++ ['\'']), bare := false, tokens := X }
        (requoted cs) = some s ∧
      ∀ p, s.weight p = weight p X + (w ++ '\'' :: x).countP p := by
  have hopen : Reader.step { mode := .double, word := some w, bare := false, tokens := X } '\'' =
      some { mode := .double, word := some (w ++ ['\'']), bare := false, tokens := X } := by
    simp [Reader.step, Reader.put, Reader.opToken]
  rw [exec, hopen, Option.bind_some] at h
  obtain ⟨s, hs, hclosing⟩ := exec_split h
  have hread := weight_requoted hs
  have hopened : Reader.weight isMark
      { mode := .double, word := some (w ++ ['\'']), bare := false, tokens := X } =
      weight isMark X + w.countP isMark + 1 := by
    simp [Reader.weight, Mode.waits, isMark, Nat.add_assoc]
  rw [hopened] at hread
  have hdouble : s.mode.inDouble := by
    by_contra hout
    obtain ⟨t, ht, hrest⟩ := exec_cons hclosing
    have hlost := (step_apostrophe ht).2
    have hrun := weight_exec (p := isMark) hrest
    rw [if_neg hout] at hlost
    rw [List.countP_append, countP_calm hpost] at hrun
    rw [weight_finish hend] at hweight
    have hquote : ['"'].countP isMark = 0 := rfl
    omega
  obtain ⟨v, rfl, hprefix, hv⟩ := exec_closing hpost hdouble hclosing hend
  have htokens : s.tokens.length ≤ X.length := by
    simp only [List.length_append, List.length_singleton] at hlength
    omega
  have hword : Reader.InWord (w ++ ['\''])
      { mode := .double, word := some (w ++ ['\'']), bare := false, tokens := X } :=
    ⟨rfl, rfl, rfl, Mode.noConfusion⟩
  obtain ⟨heq, y, hy⟩ := hword.exec hs htokens
  have hop : s.opToken = [] := by simp [Reader.opToken, hy.2.2.1]
  rw [hy.1, Option.getD_some] at hprefix
  obtain ⟨z, rfl⟩ := hprefix
  dsimp only at heq
  refine ⟨y ++ z, s, ?_, hs, fun p => ?_⟩
  · rw [heq, hop]
    simp
  · rw [hv, heq]
    simp

/-- The two apostrophes of a quotation are lost. -/
theorem weight_quotation (h : exec Reader.step { tokens := X } ('\'' :: cs) = some r)
    (hend : r.finish = some tokens) :
    weight isMark tokens + 1 ≤ weight isMark X + cs.countP isMark := by
  by_cases hc : '\'' ∈ cs
  · obtain ⟨x, y, rfl, hx⟩ := List.eq_append_cons_of_mem hc
    rw [exec_quoted fun d hd heq => hx (heq ▸ hd)] at h
    have hread := weight_exec (p := isMark) h
    have hclosed : Reader.weight isMark { word := some x, bare := false, tokens := X } =
        weight isMark X + x.countP isMark := by
      simp [Reader.weight, Mode.waits]
    rw [weight_finish hend, List.countP_append, List.countP_cons, if_pos (by rfl)]
    omega
  · have hopen : Reader.step { tokens := X } '\'' =
        some { mode := .single, word := some [], bare := false, tokens := X } := by
      simp [Reader.step, Reader.unquotedStep, Reader.put, Reader.opToken]
    rw [exec, hopen, Option.bind_some, exec_single fun d hd heq => hc (heq ▸ hd)] at h
    obtain rfl := Option.some.inj h
    exact absurd hend (by simp [Reader.finish])

/-- In a quotation of which nothing was taken away there is no apostrophe. -/
theorem no_apostrophe (hpost : ∀ c ∈ post, isCalm c = true)
    (h : exec Reader.step { tokens := X } ('\'' :: (cs ++ '\'' :: post)) = some r)
    (hend : r.finish = some tokens)
    (hweight : weight isMark X + cs.countP isMark ≤ weight isMark tokens) : ∀ c ∈ cs, c ≠ '\'' := by
  rintro c hc rfl
  obtain ⟨x, y, rfl, hx⟩ := List.eq_append_cons_of_mem hc
  rw [List.append_assoc, List.cons_append, exec_quoted fun d hd heq => hx (heq ▸ hd)] at h
  obtain ⟨s, hs, hclosing⟩ := exec_split h
  have hread := weight_exec (p := isMark) hs
  have hclosed : Reader.weight isMark { word := some x, bare := false, tokens := X } =
      weight isMark X + x.countP isMark := by
    simp [Reader.weight, Mode.waits]
  obtain ⟨t, ht, hrest⟩ := exec_cons hclosing
  have hrun := weight_exec (p := isMark) hrest
  rw [countP_calm hpost] at hrun
  rw [weight_finish hend, List.countP_append, List.countP_cons, if_pos (by rfl)] at hweight
  have hlost := (step_apostrophe ht).2
  have hdouble : s.mode.inDouble := by
    by_contra hout
    rw [if_neg hout] at hlost
    omega
  obtain ⟨v, hstep, -, -⟩ := step_apostrophe_inDouble hdouble
  obtain rfl := Option.some.inj (hstep.symm.trans ht)
  have hmode := mode_double (fun d hd => (isCalm_iff.mp (hpost d hd)).2.imp_right And.left) rfl
    hrest
  rcases (finish_eq_some_iff.mp hend).1 with hend | hend <;> simp [hmode] at hend

theorem isPlain_of_unquotable (h : isUnquotable c = true) :
    isPlain c = true ∧ isCalm c = true ∧ c ≠ '~' ∧ c ≠ '#' := by
  have hne (d : Char) (hd : isUnquotable d = false) : c ≠ d := by
    rintro rfl
    rw [hd] at h
    exact absurd h Bool.false_ne_true
  have hall : "'\"\\$`*?[ \t|&;<>()\n~#".toList.all (fun d => !isUnquotable d) = true := by
    decide +kernel
  have hspecial : ∀ d ∈ "'\"\\$`*?[ \t|&;<>()\n~#".toList, c ≠ d := by
    intro d hd
    exact hne d (by simpa using List.all_eq_true.mp hall d hd)
  simp at hspecial
  simp [isPlain, isCalm, isQuoting, isExpanding, isBlank, isOperator, hspecial]

/-- A word that `shlex.quote` leaves as it is. -/
theorem isWord_of_unquotable (hne : cs ≠ []) (h : ∀ c ∈ cs, isUnquotable c = true) :
    IsWord cs := by
  refine ⟨hne, fun c hc => (isPlain_of_unquotable (h c hc)).1, fun hhead => ?_, fun hhead => ?_⟩
  · exact (isPlain_of_unquotable (h _ (List.mem_of_head? hhead))).2.2.1 rfl
  · exact (isPlain_of_unquotable (h _ (List.mem_of_head? hhead))).2.2.2 rfl

/-- The text is its own requotation. -/
theorem requoted_eq_self (h : ∀ c ∈ cs, c ≠ '\'') : requoted cs = cs := by
  have hflat : requoted cs = cs.flatMap fun c => [c] :=
    List.flatMap_congr fun c hc => if_neg (h c hc)
  rw [hflat, List.flatMap_singleton']

/-- What `shlex.quote` makes of a text is read as the text. -/
theorem tokensFrom_quote (h : ∀ c ∈ cs, c ≠ '\'') (rest : List Char) :
    tokensFrom X (quote cs ++ ' ' :: rest) = tokensFrom (X ++ [.word cs]) rest := by
  unfold quote
  split
  next hnil =>
    subst hnil
    exact tokensFrom_quoted h rest
  split
  next hne hall =>
    exact tokensFrom_word (isWord_of_unquotable hne (List.all_eq_true.mp hall)) rest
  · rw [requoted_eq_self h]
    simpa using tokensFrom_quoted h rest

/-- A text keeps within double quotes what it quotes. -/
theorem kept_quote (hkept : Kept cs) (h : ∀ c ∈ cs, c ≠ '\'') :
    Kept (quote cs) ∧ (quote cs).getLast? ≠ some '\\' := by
  unfold quote
  split
  · exact ⟨by simp [Kept], by decide⟩
  split
  next hall =>
    exact kept_of_calm fun c hc => (isPlain_of_unquotable (List.all_eq_true.mp hall c hc)).2.1
  · rw [requoted_eq_self h]
    refine ⟨?_, by rw [List.getLast?_concat]; decide⟩
    have hend : Kept (cs ++ ['\'']) :=
      hkept.append (by simp [Kept]) fun _ d hd => by
        obtain rfl := Option.some.inj hd
        decide
    exact hend.cons (by decide) fun hc => absurd hc (by decide)

theorem Kept.append_last {cs ds : List Char} (hcs : Kept cs ∧ cs.getLast? ≠ some '\\')
    (hds : Kept ds ∧ ds.getLast? ≠ some '\\') :
    Kept (cs ++ ds) ∧ (cs ++ ds).getLast? ≠ some '\\' := by
  refine ⟨hcs.1.append hds.1 fun h => absurd h hcs.2, ?_⟩
  rw [List.getLast?_append]
  cases h : ds.getLast? with
  | none => exact hcs.2
  | some d =>
    rw [h] at hds
    exact hds.2

section Nested

variable {A t : List Token} {pre a rest script : List Char}

/-- A quotation that is read at both levels as what it quotes. -/
theorem kept_of_nested (hpre : exec Reader.step {} pre = some { tokens := A })
    (hcalm : ∀ c ∈ pre, isCalm c = true) (hA : weight isMark A = 0)
    (hrest : tokensOf rest = some t) (hpost : ∀ c ∈ ' ' :: rest, isCalm c = true)
    (ht : weight isMark t = 0)
    (h : exec Reader.step { mode := .double, word := some pre, bare := false, tokens := X }
      ('\'' :: (requoted a ++ '\'' :: (' ' :: rest ++ ['"']))) = some r)
    (hend : r.finish = some (X ++ [.word script]))
    (hscript : tokensOf script = some (A ++ .word a :: t)) :
    Kept a ∧ ∀ c ∈ a, c ≠ '\'' := by
  have hscriptWeight : weight isMark (A ++ .word a :: t) = a.countP isMark := by
    rw [weight_append, weight_word, hA, ht, Nat.zero_add, Nat.add_zero]
  have hpreWeight : pre.countP isMark = 0 := countP_calm hcalm
  have hopen : Reader.step { mode := .double, word := some pre, bare := false, tokens := X } '\'' =
      some { mode := .double, word := some (pre ++ ['\'']), bare := false, tokens := X } := by
    simp [Reader.step, Reader.put, Reader.opToken]
  -- the script begins with the quotation, which costs it two apostrophes
  have hlost : a.countP isMark + 2 ≤ script.countP isMark := by
    have hrest := h
    rw [exec, hopen, Option.bind_some] at hrest
    have hword : Reader.InWord (pre ++ ['\''])
        { mode := .double, word := some (pre ++ ['\'']), bare := false, tokens := X } :=
      ⟨rfl, rfl, rfl, Mode.noConfusion⟩
    obtain ⟨x, hx⟩ := hword.next_token hrest hend
    have hscriptEq : script = pre ++ '\'' :: x := by
      have hhead := (List.cons_prefix_cons.mp ((List.prefix_append_right_inj X).mp hx)).1
      simpa using (Token.word.inj hhead).symm
    rw [tokensOf, hscriptEq, tokensFrom_append hpre] at hscript
    obtain ⟨r', hr', hend'⟩ := Option.bind_eq_some_iff.mp hscript
    have hquotation := weight_quotation hr' hend'
    rw [hscriptWeight, List.nil_append, hA] at hquotation
    rw [hscriptEq, List.countP_append, List.countP_cons, if_pos (by rfl)]
    omega
  obtain ⟨x, s, hx, hs, hsweight⟩ := nested_quotation hpost h hend (by simp) (by
    rw [weight_append, weight_word, hpreWeight]
    omega)
  obtain rfl : script = pre ++ '\'' :: (x ++ '\'' :: ' ' :: rest) := by simpa using hx
  rw [tokensOf, tokensFrom_append hpre, List.nil_append] at hscript
  have hxWeight : x.countP isMark ≤ a.countP isMark := by
    have hread := weight_requoted hs
    rw [hsweight] at hread
    rw [List.countP_append, List.countP_cons, if_pos (by rfl)] at hread
    have hopened : Reader.weight isMark
        { mode := .double, word := some (pre ++ ['\'']), bare := false, tokens := X } =
        weight isMark X + 1 := by
      simp [Reader.weight, Mode.waits, hpreWeight, isMark]
    omega
  obtain ⟨r', hr', hend'⟩ := Option.bind_eq_some_iff.mp hscript
  have hxApostrophe := no_apostrophe hpost hr' hend' (by omega)
  rw [tokensFrom_quoted hxApostrophe, tokensFrom_end hrest] at hscript
  obtain rfl : x = a := by simpa using hscript
  rw [requoted_eq_self hxApostrophe] at hs
  refine ⟨(kept_of_weight hs ?_).1 rfl, hxApostrophe⟩
  rw [hsweight]
  simp [Reader.weight, Mode.waits]
  omega

/-- A quoted argument of a script that is itself in double quotes: what is read at both levels is
the argument if and only if double quotes keep it and it has no apostrophe. -/
theorem nested_argument_iff (hpre : exec Reader.step {} pre = some { tokens := A })
    (hcalm : ∀ c ∈ pre, isCalm c = true) (hA : weight isMark A = 0)
    (hrest : tokensOf rest = some t) (hpost : ∀ c ∈ rest, isCalm c = true)
    (ht : weight isMark t = 0) :
    (∃ script, (exec Reader.step
          { mode := .double, word := some [], bare := false, tokens := X }
          (pre ++ quote a ++ ' ' :: rest ++ ['"'])).bind Reader.finish =
        some (X ++ [.word script]) ∧ tokensOf script = some (A ++ .word a :: t)) ↔
      Kept a ∧ ∀ c ∈ a, c ≠ '\'' := by
  have hblank : ∀ c ∈ ' ' :: rest, isCalm c = true := List.forall_mem_cons.mpr ⟨rfl, hpost⟩
  obtain ⟨hpreKept, hpreLast⟩ := kept_of_calm hcalm
  constructor
  · rintro ⟨script, hline, hscript⟩
    by_cases hnil : a = []
    · rw [hnil]
      exact ⟨trivial, List.forall_mem_nil _⟩
    by_cases hall : a.all isUnquotable = true
    · have hchars := fun c hc => (isPlain_of_unquotable (List.all_eq_true.mp hall c hc)).2.1
      exact ⟨(kept_of_calm hchars).1, fun c hc => (isCalm_iff.mp (hchars c hc)).1⟩
    obtain ⟨r, hr, hend⟩ := Option.bind_eq_some_iff.mp hline
    rw [quote, if_neg hnil, if_neg hall, List.append_assoc, List.append_assoc,
      exec_append (exec_double hpreKept hpreLast)] at hr
    exact kept_of_nested hpre hcalm hA hrest hblank ht (by simpa using hr) hend hscript
  · rintro ⟨hkept, hapostrophe⟩
    obtain ⟨hbody, hbodyLast⟩ := Kept.append_last
      (Kept.append_last ⟨hpreKept, hpreLast⟩ (kept_quote hkept hapostrophe)) (kept_of_calm hblank)
    refine ⟨pre ++ quote a ++ ' ' :: rest, ?_, ?_⟩
    · rw [exec_append (exec_double hbody hbodyLast)]
      rfl
    · rw [tokensOf, List.append_assoc, tokensFrom_append hpre, tokensFrom_quote hapostrophe,
        tokensFrom_end hrest]
      simp

end Nested

end BackupCenter.Lib.Shell
