import BackupCenter.Logs.Cleaning
import BackupCenter.Logs.Reading

/-!
# Polling while others write

A client polls a list with the last number of its previous answer. While the entries reach
the list in the order of their numbers, and none is removed, it gets each of them once and
in order, but for those that a burst longer than its limit pushes past it.
-/
namespace BackupCenter.Logs

open BackupCenter.Lib BackupCenter.Tasks

/-! ## A chain of answers -/

section Chains

variable (k : LogKey) (limit : Nat) (tenant : TenantId)

/-- Each poll answers for a longer list, from the number where the one before it ended. -/
inductive Polled : Nat → List Raw → List Poll → List Raw → Prop
  | nil {after : Nat} {l l' : List Raw} (h : l <+: l') : Polled after l [] l'
  | cons {after : Nat} {l l₁ l' : List Raw} {polls : List Poll} (h : l <+: l₁)
      (hrest : Polled (pollOf k after limit tenant l₁).lastSeq l₁ polls l') :
      Polled after l (pollOf k after limit tenant l₁ :: polls) l'

def delivered (polls : List Poll) : List LogEntry := polls.flatMap Poll.entries

/-- The `last_seq` that the client holds after these answers. -/
def lastSeqOf (after : Nat) (polls : List Poll) : Nat := polls.foldl (fun _ p => p.lastSeq) after

/-- A full answer holds newer entries only. -/
def PassedOver (polls : List Poll) (e : LogEntry) : Prop :=
  ∃ p ∈ polls, p.entries.length = limit ∧ ∀ e' ∈ p.entries, k.seqOf e < k.seqOf e'

/-- The answers hold the new entries of the list in order, each once, up to the last number,
save for those that were passed over. -/
structure Covers (after : Nat) (polls : List Poll) (l : List Raw) : Prop where
  ascending : (delivered polls).Pairwise (k.seqOf · < k.seqOf ·)
  listed : ∀ e ∈ delivered polls, e ∈ newEntries k after tenant l
  complete : ∀ e ∈ newEntries k after tenant l, k.seqOf e ≤ lastSeqOf after polls →
    e ∈ delivered polls ∨ PassedOver k limit polls e

variable {k limit tenant} {after : Nat} {l l' : List Raw} {polls : List Poll}

theorem Polled.prefix (h : Polled k limit tenant after l polls l') : l <+: l' := by
  induction h with
  | nil h => exact h
  | cons h _ ih => exact h.trans ih

theorem Polled.from_shorter {l₀ : List Raw} (h : Polled k limit tenant after l polls l')
    (hl : l₀ <+: l) : Polled k limit tenant after l₀ polls l' := by
  cases h with
  | nil h => exact .nil (hl.trans h)
  | cons h hrest => exact .cons (hl.trans h) hrest

theorem Polled.to_longer {l'' : List Raw} (h : Polled k limit tenant after l polls l')
    (hl : l' <+: l'') : Polled k limit tenant after l polls l'' := by
  induction h with
  | nil h => exact .nil (h.trans hl)
  | cons h _ ih => exact .cons h (ih hl)

theorem newEntries_inOrder (h : InOrder k l) :
    (newEntries k after tenant l).Pairwise (k.seqOf · < k.seqOf ·) :=
  List.Pairwise.filter _ h

theorem seqOf_le_lastSeq (h : InOrder k l) {e : LogEntry} (he : e ∈ newEntries k after tenant l) :
    k.seqOf e ≤ (pollOf k after limit tenant l).lastSeq := by
  have hasc := @newEntries_inOrder k tenant after l h
  unfold pollOf
  obtain ⟨others, newest, hlist⟩ :=
    (List.eq_nil_or_concat (newEntries k after tenant l)).resolve_left (List.ne_nil_of_mem he)
  rw [hlist, List.concat_eq_append] at hasc he ⊢
  rw [List.getLast?_concat]
  rcases List.mem_append.mp he with hmem | hmem
  · exact ((List.pairwise_append.mp hasc).2.2 e hmem newest (List.mem_singleton_self _)).le
  · obtain rfl := List.mem_singleton.mp hmem
    exact Nat.le_refl _

theorem after_le_lastSeq : after ≤ (pollOf k after limit tenant l).lastSeq := by
  rcases @pollOf_lastSeq k after limit tenant l with h | ⟨e, he, h⟩
  · exact h.ge
  · exact h ▸ (mem_newEntries.mp he).2.1.le

/-- In a list in order, what is not above an entry of a prefix is in the prefix. -/
theorem mem_of_prefix (hl : l <+: l') (h : InOrder k l') {e e' : LogEntry}
    (he : e ∈ entriesOf l') (he' : e' ∈ entriesOf l) (hle : k.seqOf e ≤ k.seqOf e') :
    e ∈ entriesOf l := by
  obtain ⟨more, hmore⟩ := entriesOf_extended hl
  unfold InOrder at h
  rw [← hmore] at h he
  rcases List.mem_append.mp he with he | he
  · exact he
  · have hlt := (List.pairwise_append.mp h).2.2 e' he' e he
    omega

/-- A chain of polls covers the list that it ends with. -/
theorem Polled.covers (h : Polled k limit tenant after l polls l') (horder : InOrder k l') :
    Covers k limit tenant after polls l' := by
  induction h with
  | nil _ =>
    constructor
    · exact .nil
    · exact nofun
    · intro e he hle
      have hnew := (mem_newEntries.mp he).2.1
      exact absurd hle (Nat.not_le.mpr hnew)
  | @cons after l l₁ l' polls h hrest ih =>
    have hl₁ := hrest.prefix
    have horder₁ := horder.of_prefix hl₁
    obtain ⟨hascending, hlisted, hcomplete⟩ := ih horder
    have hasc := @newEntries_inOrder k tenant after l₁ horder₁
    have hentries : ∀ e ∈ (pollOf k after limit tenant l₁).entries,
        e ∈ newEntries k after tenant l₁ := fun e he => List.mem_of_mem_drop he
    constructor
    · show ((pollOf k after limit tenant l₁).entries ++ delivered polls).Pairwise _
      rw [List.pairwise_append]
      refine ⟨List.Pairwise.sublist (List.drop_sublist ..) hasc, hascending, fun a ha b hb => ?_⟩
      have hle := @seqOf_le_lastSeq k limit tenant after l₁ horder₁ a (hentries a ha)
      have hlt := (mem_newEntries.mp (hlisted b hb)).2.1
      omega
    · intro e he
      rcases List.mem_append.mp he with he | he
      · exact newEntries_mem hl₁ (hentries e he)
      · obtain ⟨hmem, hlt, hown⟩ := mem_newEntries.mp (hlisted e he)
        exact mem_newEntries.mpr ⟨hmem, after_le_lastSeq.trans_lt hlt, hown⟩
    · intro e he hle
      obtain ⟨hmem, hlt, hown⟩ := mem_newEntries.mp he
      by_cases hseen : k.seqOf e ≤ (pollOf k after limit tenant l₁).lastSeq
      · have hnew : e ∈ newEntries k after tenant l₁ := by
          rcases @pollOf_lastSeq k after limit tenant l₁ with hlast | ⟨e', he', hlast⟩
          · omega
          · have hmem₁ := mem_of_prefix hl₁ horder hmem (mem_newEntries.mp he').1 (hlast ▸ hseen)
            exact mem_newEntries.mpr ⟨hmem₁, hlt, hown⟩
        rw [← List.take_append_drop ((newEntries k after tenant l₁).length - limit)
          (newEntries k after tenant l₁)] at hnew hasc
        rcases List.mem_append.mp hnew with hearly | hlate
        · refine .inr ⟨_, List.mem_cons_self .., ?_, fun e' he' => ?_⟩
          · have hlong : (newEntries k after tenant l₁).length - limit ≠ 0 := by
              intro hzero
              rw [hzero] at hearly
              exact nomatch hearly
            simp only [pollOf, List.length_drop]
            omega
          · exact (List.pairwise_append.mp hasc).2.2 e hearly e' he'
        · exact .inl (List.mem_append_left _ hlate)
      · have hrest := hcomplete e (mem_newEntries.mpr ⟨hmem, Nat.not_le.mp hseen, hown⟩) hle
        rcases hrest with hdone | ⟨p, hp, hfull⟩
        · exact .inl (List.mem_append_right _ hdone)
        · exact .inr ⟨p, List.mem_cons_of_mem _ hp, hfull⟩

end Chains

/-! ## The client's polls -/

section Client

variable {k : LogKey} {after limit : Nat} {tenant : TenantId} {s : LogStore}

theorem getLogs_eq (hk : k ≠ .task "") :
    getLogs limit tenant k after = scanRecentEntries k after limit (k.filterOf tenant) := by
  cases k with
  | global => rfl
  | task id =>
    have hid : id ≠ "" := fun h => hk (by rw [h])
    exact if_neg hid

/-- What is known of the answers at the end of the polls. -/
structure Answered (k : LogKey) (limit : Nat) (tenant : TenantId) (after : Nat) (s t : LogStore)
    (polls : List Poll) : Prop where
  wellNumbered : WellNumbered k t
  counted : lastSeqOf after polls ≤ (t.counters k).value
  polled : Polled k limit tenant after (s.items k) polls (t.items k)

theorem pollRepeatedly_reads (hk : k ≠ .task "") (hlimit : 0 < limit) (n : Nat)
    (hs : WellNumbered k s) (hafter : after ≤ (s.counters k).value) :
    ReadsGrowing k (Answered k limit (k.filterOf tenant) after s)
      (pollRepeatedly (getLogs limit tenant k) n after) s := by
  induction n generalizing after s with
  | zero => exact fun t ht => ⟨ht.2.2 hs, hafter.trans ht.2.1, .nil ht.1⟩
  | succ n ih =>
    unfold pollRepeatedly
    rw [getLogs_eq hk]
    apply (scanRecentEntries_reads hlimit hs hafter).bind
    rintro t _ ⟨ht, hst, hcounted, l, hl, hlt, rfl⟩
    apply (ih ht hcounted).bind
    rintro u rest ⟨hu, hrestCounted, hrest⟩ v hv
    refine ⟨hv.2.2 hu, hrestCounted.trans hv.2.1, ?_⟩
    exact .cons hl ((hrest.from_shorter hlt).to_longer hv.1)

end Client

/-! ## The writers -/

/-- The arguments of a call of `append_task_log`, with what it reads elsewhere. -/
structure AppendCall where
  request : LogRequest
  tenant : TenantId
  prune : Option Nat

def writerSemantics (L : LogSettings) :
    Semantics LogStore LogCommand LogCommand.Answer Unit AppendCall Passage where
  handle := handle
  program c := appendTaskLog L c.request c.tenant c.prune
  environment := passage

abbrev WriterEvent := ClientEvent AppendCall Passage

/-- The command takes nothing out of the list. -/
def KeepsList (k : LogKey) (s : LogStore) : LogCommand → Prop
  | .lpop k' => k' ≠ k
  | .ltrim k' n => k' = k → (s.items k).length ≤ n
  | .rewrite k' .. => k' ≠ k
  | _ => True

/-- An entry that is pushed has the highest number in the list. -/
def PushesInOrder (k : LogKey) (s : LogStore) : LogCommand → Prop
  | .rpush k' e => k' = k → ∀ e' ∈ entriesOf (s.items k), k.seqOf e' < k.seqOf e
  | _ => True

/-- The step takes nothing out of the list and adds to it in order. -/
def Undisturbed (k : LogKey) (r : LogRun) : WriterEvent → Prop
  | .spawn _ => True
  | .advance i =>
    match r.clients[i]? with
    | some (.call c _) => KeepsList k r.shared c ∧ PushesInOrder k r.shared c
    | _ => True
  | .env (.tick d) =>
    aliveAt (r.shared.now + d) (r.shared.lists k).expiry = true ∧
      aliveAt (r.shared.now + d) (r.shared.counters k).expiry = true

section Writers

variable {L : LogSettings} {k : LogKey} {s t : LogStore} {c : LogCommand}

/-- The counter does not go back. -/
def CountedLater (k : LogKey) (s t : LogStore) : Prop :=
  (s.counters k).value ≤ (t.counters k).value

instance (k : LogKey) : IsPreorder LogStore (CountedLater k) where
  refl _ := Nat.le_refl _
  trans _ _ _ h h' := Nat.le_trans h h'

/-- The number of an entry that is pushed was taken from the counter. -/
def NumberTaken (k : LogKey) (s : LogStore) (c : LogCommand) : Prop :=
  ∀ e, c = .rpush k e → k.seqOf e ≤ (s.counters k).value

abbrev TakesNumbers {ρ : Type} (k : LogKey) (p : LogProgram ρ) (s : LogStore) : Prop :=
  p.Under (CountedLater k) handle (NumberTaken k) (fun _ _ => True) s

theorem value_setCounter {k' : LogKey} {n : Counter}
    (h : k' = k → (s.counters k).value ≤ n.value) :
    (s.counters k).value ≤ ((s.setCounter k' n).counters k).value := by
  show (s.counters k).value ≤ (Function.update s.counters k' n k).value
  by_cases hk : k = k'
  · subst hk
    rw [Function.update_self]
    exact h rfl
  · rw [Function.update_of_ne hk]

theorem countedLater_handle : CountedLater k s (handle c s).2 := by
  unfold CountedLater
  cases c with
  | incr k' => exact value_setCounter fun h => by subst h; exact Nat.le_succ _
  | expireSeq k' ttl =>
    simp only [handle]
    split
    · exact Nat.le_refl _
    · exact value_setCounter fun h => by subst h; exact Nat.le_refl _
  | expireList k' ttl =>
    simp only [handle]
    split <;> exact Nat.le_refl _
  | _ => exact Nat.le_refl _

theorem takesNumbers_pushEntry {e : LogEntry} {prune : Option Nat}
    (htask : .task e.taskId = k → k.seqOf e ≤ (s.counters k).value)
    (hglobal : .global = k → k.seqOf e ≤ (s.counters k).value) :
    TakesNumbers k (pushEntry L e prune) s := by
  have hlater : ∀ {t u : LogStore} (c : LogCommand), CountedLater k s t →
      CountedLater k (handle c t).2 u → CountedLater k s u :=
    fun c ht hu => Nat.le_trans ht (Nat.le_trans countedLater_handle hu)
  intro t₁ h₁
  refine ⟨fun e' he => ?_, fun t₂ h₂ => ⟨nofun, fun t₃ h₃ => ⟨nofun, fun t₄ h₄ =>
    ⟨nofun, fun t₅ h₅ => ⟨fun e' he => ?_, ?_⟩⟩⟩⟩⟩
  · obtain ⟨hk, rfl⟩ := LogCommand.rpush.inj he
    exact (htask hk).trans h₁
  · obtain ⟨hk, rfl⟩ := LogCommand.rpush.inj he
    exact (hglobal hk).trans (hlater _ (hlater _ (hlater _ (hlater _ h₁ h₂) h₃) h₄) h₅)
  · apply Prog.Under.of_always
    exact always_trimGlobalLogs (fun _ => nofun) (fun _ => nofun) (fun _ => nofun)
      (fun _ => nofun) (fun _ _ => nofun) (fun _ _ => nofun) prune

/-- `append_task_log` pushes an entry with the numbers that it has taken. -/
theorem takesNumbers_append (c : AppendCall) :
    TakesNumbers k ((writerSemantics L).program c) s := by
  show TakesNumbers k (appendTaskLog L c.request c.tenant c.prune) s
  unfold appendTaskLog
  split
  · exact fun _ _ => trivial
  · intro t₁ _
    refine ⟨nofun, fun t₂ h₂ => ⟨nofun, fun t₃ h₃ => ⟨nofun, ?_⟩⟩⟩
    apply takesNumbers_pushEntry
    · rintro rfl
      have htaken : (t₁.counters (.task c.request.taskId)).value + 1 ≤
          (t₃.counters (.task c.request.taskId)).value := by
        apply Nat.le_trans _ (Nat.le_trans h₂ h₃)
        simp [handle, LogStore.setCounter, LogRequest.entry]
      exact htaken.trans countedLater_handle
    · rintro rfl
      simp [handle, LogStore.setCounter, LogKey.seqOf, LogRequest.entry]

theorem grown_of_same (hcount : CountedLater k s t) (hitems : t.items k = s.items k) :
    Grown k s t := by
  refine ⟨hitems ▸ List.prefix_refl _, hcount, fun hs => ?_⟩
  rw [WellNumbered, hitems]
  exact ⟨hs.1, fun e he => (hs.2 e he).trans hcount⟩

theorem grown_rpush {e : LogEntry} (horder : ∀ e' ∈ entriesOf (s.items k), k.seqOf e' < k.seqOf e)
    (hnumber : k.seqOf e ≤ (s.counters k).value) : Grown k s (handle (.rpush k e) s).2 := by
  have hitems : (handle (.rpush k e) s).2.items k = s.items k ++ [.entry e] := items_setList_self
  have hentries : entriesOf ((handle (.rpush k e) s).2.items k) = entriesOf (s.items k) ++ [e] := by
    rw [hitems, entriesOf, List.filterMap_append]
    rfl
  refine ⟨hitems ▸ List.prefix_append .., countedLater_handle, fun hs => ?_⟩
  constructor
  · rw [InOrder, hentries, List.pairwise_append]
    refine ⟨hs.1, List.pairwise_singleton .., fun a ha b hb => ?_⟩
    exact List.mem_singleton.mp hb ▸ horder a ha
  · rw [hentries]
    intro e' he'
    rcases List.mem_append.mp he' with hold | hnew
    · exact hs.2 e' hold
    · exact List.mem_singleton.mp hnew ▸ hnumber

/-- A command that takes nothing out of a list and adds to it in order lets it grow. -/
theorem grown_handle (hkeep : KeepsList k s c) (horder : PushesInOrder k s c)
    (hnumber : NumberTaken k s c) : Grown k s (handle c s).2 := by
  have hcount : CountedLater k s (handle c s).2 := countedLater_handle
  cases c with
  | rpush k' e =>
    by_cases hk : k' = k
    · subst hk
      exact grown_rpush (horder rfl) (hnumber e rfl)
    · exact grown_of_same hcount (items_setList_ne (Ne.symm hk))
  | ltrim k' n =>
    apply grown_of_same hcount
    by_cases hk : k' = k
    · subst hk
      have hshort : (s.items k').length - n = 0 := Nat.sub_eq_zero_of_le (hkeep rfl)
      simp [handle, hshort]
    · exact items_setList_ne (Ne.symm hk)
  | lpop k' => exact grown_of_same hcount (items_setList_ne (Ne.symm hkeep))
  | rewrite k' keep ttl => exact grown_of_same hcount (items_setList_ne (Ne.symm hkeep))
  | expireList k' ttl =>
    apply grown_of_same hcount
    simp only [handle]
    split
    · rfl
    · by_cases hk : k' = k
      · subst hk
        exact items_setList_self
      · exact items_setList_ne (Ne.symm hk)
  | expireSeq k' ttl =>
    apply grown_of_same hcount
    simp only [handle]
    split <;> rfl
  | _ => exact grown_of_same hcount rfl

theorem grown_tick {d : Nat} (hlist : aliveAt (s.now + d) (s.lists k).expiry = true)
    (hcounter : aliveAt (s.now + d) (s.counters k).expiry = true) : Grown k s (s.tick d) := by
  apply grown_of_same
  · simp [CountedLater, LogStore.tick, hcounter]
  · simp [LogStore.items, LogStore.tick, hlist]

/-- The writers that are under way take their numbers first, and the list is well numbered. -/
def WritersInv (k : LogKey) (r : LogRun) : Prop :=
  AllClients (WellNumbered k) (fun p s => TakesNumbers k p s) r

/-- One step of the writers. -/
theorem writers_step {r r' : LogRun} {e : WriterEvent} (h : WritersInv k r)
    (hok : Undisturbed k r e) (hs : clientStep (writerSemantics L) r e = some r') :
    WritersInv k r' ∧ Grown k r.shared r'.shared := by
  have hgrown : Grown k r.shared r'.shared := by
    cases e with
    | spawn call =>
      obtain rfl := Option.some.inj hs
      exact Std.Refl.refl _
    | advance i =>
      obtain ⟨c, next, hc, hshared, -⟩ := clientStep_advance hs
      simp only [Undisturbed, hc] at hok
      rw [hshared]
      have hclient := h.2 _ (List.mem_of_getElem? hc)
      exact grown_handle hok.1 hok.2 (hclient _ (Std.Refl.refl _)).1
    | env x =>
      obtain ⟨ht, -⟩ := clientStep_env hs
      cases x with
      | tick d =>
        rw [← Option.some.inj ht]
        exact grown_tick hok.1 hok.2
  refine ⟨?_, hgrown⟩
  have hwell : WellNumbered k r'.shared := hgrown.2.2 h.1
  have hclients : AllClients (fun _ => True) (fun p s => TakesNumbers k p s) r' := by
    apply AllClients.step (S := writerSemantics L) (s := r) ⟨trivial, h.2⟩ hs
    · exact fun call _ => takesNumbers_append call
    · intro i c next _ _ hp
      refine ⟨trivial, (hp _ (Std.Refl.refl _)).2, fun j q _ _ hq => ?_⟩
      exact hq.mono countedLater_handle
    · intro x t he ht
      refine ⟨trivial, fun q _ hq => hq.mono ?_⟩
      cases x with
      | tick d =>
        obtain rfl := Option.some.inj ht
        subst he
        exact (grown_tick hok.1 hok.2).2.1
  exact ⟨hwell, hclients.2⟩

end Writers

/-! ## Whole runs -/

/-- What the client has got of the list. -/
structure PolledDelivers (k : LogKey) (limit : Nat) (tenant : TenantId) (polls : List Poll)
    (l : List Raw) : Prop where
  ascending : (delivered polls).Pairwise (k.seqOf · < k.seqOf ·)
  listed : ∀ e ∈ delivered polls, e ∈ newEntries k 0 tenant l
  complete : ∀ e ∈ newEntries k 0 tenant l, e ∈ delivered polls ∨ PassedOver k limit polls e

/-- A poll by itself that answers nothing has nothing new before it. -/
theorem nothing_new {k : LogKey} {after limit : Nat} {tenant : TenantId} {s : LogStore}
    (hlimit : 0 < limit) (hs : WellNumbered k s) (hafter : after ≤ (s.counters k).value)
    (h : ((scanRecentEntries k after limit tenant).run handle s).1.entries = []) :
    newEntries k after tenant (s.items k) = [] := by
  obtain ⟨-, -, -, l, hl, -, hpoll⟩ := (@scanRecentEntries_reads k after limit tenant s hlimit hs
    hafter).run
  rw [hpoll] at h
  have hnone : newEntries k after tenant l = [] := by
    have hshort := List.drop_eq_nil_iff.mp h
    rw [← List.length_eq_zero_iff]
    omega
  rw [List.eq_nil_iff_forall_not_mem] at hnone ⊢
  exact fun e he => hnone e (newEntries_mem hl he)

instance (k : LogKey) (s : LogStore) : Decidable (WellNumbered k s) :=
  inferInstanceAs (Decidable (List.Pairwise _ _ ∧ _))

/-- While only the guest moves, nobody disturbs the list. -/
theorem along_guest {k : LogKey} (n : Nat) (g : Guested LogStore LogCommand LogCommand.Answer Unit
    (List Poll)) : Along (guestStep (writerSemantics asciiLogs))
      (fun g e => ∀ e', e = .host e' → Undisturbed k g.host e') g (List.replicate n .guest) := by
  induction n generalizing g with
  | zero => trivial
  | succ n ih => exact ⟨nofun, fun g' _ => ih g'⟩

/-- A task list that holds so many entries. -/
def burstStore (n : Nat) : LogStore :=
  { lists := Function.update (fun _ => {}) (.task "task")
      ⟨(List.range' 1 n).map fun i => .entry ⟨"task", i, "t", "OLT", "linha", .info, some 0, i⟩,
        none⟩
    counters := Function.update (fun _ => {}) (.task "task") ⟨n, none⟩ }

/-- The polls of the task's page, each for at most 150 entries. -/
def pagePolls : LogProgram (List Poll) := pollRepeatedly (getLogs 150 "" (.task "task")) 1 0

end BackupCenter.Logs
