import BackupCenter.Lib.Interference
import BackupCenter.Logs.Programs

/-!
# Reading logs

A poll reads the list in chunks from its newest element down to the first entry that the
client has seen before, and answers at most `limit` entries. On a list in the order of the
sequence numbers it answers the newest of the entries that are new.
-/
namespace BackupCenter.Logs

open BackupCenter.Lib BackupCenter.Tasks

/-- What a poll answers. -/
structure Poll where
  entries : List LogEntry
  lastSeq : Nat
  deriving Repr, DecidableEq

/-- The state of a scan; `found` is `entries_reversed`, newest first. -/
structure Scan where
  found : List LogEntry := []
  lastSeq : Nat
  reachedBoundary : Bool := false

def Scan.add (k : LogKey) (sc : Scan) (e : LogEntry) : Scan :=
  { sc with
    found := sc.found ++ [e]
    lastSeq := if sc.lastSeq < k.seqOf e then k.seqOf e else sc.lastSeq }

section Programs

variable (k : LogKey) (after limit : Nat) (tenant : TenantId)

/-- The loop over one chunk, newest first; an empty tenant stands for no filter. -/
def scanChunk : List Raw → Scan → Scan
  | [], sc => sc
  | .unreadable _ :: rest, sc => scanChunk rest sc
  | .entry e :: rest, sc =>
    if k.seqOf e ≤ after then { sc with reachedBoundary := true }
    else if tenant ≠ "" ∧ e.tenantId ≠ tenant then scanChunk rest sc
    else if limit ≤ (sc.add k e).found.length then sc.add k e
    else scanChunk rest (sc.add k e)

def Scan.Stopped (sc : Scan) : Prop := limit ≤ sc.found.length ∨ sc.reachedBoundary = true

instance (sc : Scan) : Decidable (sc.Stopped limit) := inferInstanceAs (Decidable (_ ∨ _))

def chunkSize : Nat := max (limit * 4) 500

theorem chunkSize_pos : 0 < chunkSize limit :=
  Nat.lt_of_lt_of_le (by decide) (Nat.le_max_right ..)

/-- The loop over the chunks; `remaining` is `end + 1`, and `rounds` bounds the number of
chunks. -/
def scanLoop : Nat → Nat → Scan → LogProgram Scan
  | 0, _, sc => pure sc
  | rounds + 1, remaining, sc =>
    if remaining = 0 ∨ sc.Stopped limit then pure sc
    else do
      let rawEntries ← Log.lrange k (remaining - chunkSize limit) (remaining - 1)
      if rawEntries = [] then return sc
      else if remaining - chunkSize limit = 0 then
        return scanChunk k after limit tenant rawEntries.reverse sc
      else
        scanLoop rounds (remaining - chunkSize limit)
          (scanChunk k after limit tenant rawEntries.reverse sc)

/-- `_scan_recent_entries` -/
def scanRecentEntries : LogProgram Poll := do
  let latestSeq ← Log.getSeq k
  if 0 < latestSeq ∧ latestSeq ≤ after then return ⟨[], latestSeq⟩
  else do
    let total ← Log.llen k
    if total = 0 then return ⟨[], after⟩
    else do
      let sc ← scanLoop k after limit tenant total total { lastSeq := after }
      return ⟨(sc.found.drop (sc.found.length - limit)).reverse, sc.lastSeq⟩

end Programs

/-- `get_task_logs` -/
def getTaskLogs (taskId : TaskId) (after limit : Nat) : LogProgram Poll :=
  if taskId = "" then pure ⟨[], after⟩
  else scanRecentEntries (.task taskId) after limit ""

/-- `get_global_logs` -/
def getGlobalLogs (after limit : Nat) (tenant : TenantId) : LogProgram Poll :=
  scanRecentEntries .global after limit tenant

/-- What a client of a list calls; only the global list is filtered. -/
def getLogs (limit : Nat) (tenant : TenantId) : LogKey → Nat → LogProgram Poll
  | .task id, after => getTaskLogs id after limit
  | .global, after => getGlobalLogs after limit tenant

def LogKey.filterOf (tenant : TenantId) : LogKey → TenantId
  | .task _ => ""
  | .global => tenant

/-- The client passes on the `last_seq` of each answer. -/
def pollRepeatedly (poll : Nat → LogProgram Poll) : Nat → Nat → LogProgram (List Poll)
  | 0, _ => pure []
  | n + 1, after => do
    let p ← poll after
    let rest ← pollRepeatedly poll n p.lastSeq
    return p :: rest

/-! ## What a scan finds in a list -/

def Raw.entry? : Raw → Option LogEntry
  | .entry e => some e
  | .unreadable _ => none

def entriesOf (l : List Raw) : List LogEntry := l.filterMap Raw.entry?

/-- The entry is later than the last one seen, and of the tenant. -/
def isNew (k : LogKey) (after : Nat) (tenant : TenantId) (e : LogEntry) : Bool :=
  decide (after < k.seqOf e) && (tenant = "" || e.tenantId = tenant)

def newEntries (k : LogKey) (after : Nat) (tenant : TenantId) (l : List Raw) : List LogEntry :=
  (entriesOf l).filter (isNew k after tenant)

/-- The newest `limit` of the new entries of a list. -/
def pollOf (k : LogKey) (after limit : Nat) (tenant : TenantId) (l : List Raw) : Poll where
  entries := (newEntries k after tenant l).drop ((newEntries k after tenant l).length - limit)
  lastSeq := (((newEntries k after tenant l).getLast?).map k.seqOf).getD after

/-- The entries are in the order of their sequence numbers. -/
def InOrder (k : LogKey) (l : List Raw) : Prop :=
  (entriesOf l).Pairwise (k.seqOf · < k.seqOf ·)

section Scanning

variable {k : LogKey} {after limit : Nat} {tenant : TenantId} {sc : Scan} {raws : List Raw}

theorem mem_newEntries {e : LogEntry} {l : List Raw} : e ∈ newEntries k after tenant l ↔
    e ∈ entriesOf l ∧ after < k.seqOf e ∧ (tenant = "" ∨ e.tenantId = tenant) := by
  simp [newEntries, isNew]

theorem newEntries_eq_nil {l : List Raw} (h : ∀ e ∈ entriesOf l, k.seqOf e ≤ after) :
    newEntries k after tenant l = [] := by
  rw [List.eq_nil_iff_forall_not_mem]
  intro e he
  obtain ⟨hmem, hnew, -⟩ := mem_newEntries.mp he
  exact absurd (h e hmem) (Nat.not_le.mpr hnew)

theorem newEntries_reverse (l : List Raw) :
    newEntries k after tenant l.reverse = (newEntries k after tenant l).reverse := by
  simp [newEntries, entriesOf, List.filterMap_reverse, List.filter_reverse]

/-- A scan of a list in descending order collects what is new up to its limit. -/
theorem scanChunk_found (hdesc : (entriesOf raws).Pairwise fun a b => k.seqOf b < k.seqOf a)
    (hroom : sc.found.length < limit) :
    (scanChunk k after limit tenant raws sc).found =
      sc.found ++ (newEntries k after tenant raws).take (limit - sc.found.length) := by
  induction raws generalizing sc with
  | nil => simp [scanChunk, newEntries, entriesOf]
  | cons raw rest ih =>
    cases raw with
    | unreadable text => exact ih hdesc hroom
    | entry e =>
      obtain ⟨hlater, hrest⟩ := List.pairwise_cons.mp hdesc
      have hcons : newEntries k after tenant (.entry e :: rest) =
          if isNew k after tenant e then e :: newEntries k after tenant rest
          else newEntries k after tenant rest := List.filter_cons
      unfold scanChunk
      split_ifs with hseen hother hfull
      · have hnone : newEntries k after tenant (.entry e :: rest) = [] := by
          apply newEntries_eq_nil
          intro e' he'
          rcases List.mem_cons.mp he' with rfl | he'
          · exact hseen
          · exact (hlater e' he').le.trans hseen
        simp [hnone]
      · have hold : isNew k after tenant e = false := by
          simp [isNew, hother.1, hother.2]
        rw [hcons, hold]
        exact ih hrest hroom
      · have hnew : isNew k after tenant e = true := by
          simp only [isNew, Bool.and_eq_true, decide_eq_true_eq, Bool.or_eq_true]
          exact ⟨Nat.not_le.mp hseen, by tauto⟩
        have hone : limit - sc.found.length = 1 := by
          simp only [Scan.add, List.length_append, List.length_singleton] at hfull
          omega
        rw [hcons, hnew, hone]
        simp [Scan.add]
      · have hnew : isNew k after tenant e = true := by
          simp only [isNew, Bool.and_eq_true, decide_eq_true_eq, Bool.or_eq_true]
          exact ⟨Nat.not_le.mp hseen, by tauto⟩
        have hmore : limit - sc.found.length = (limit - (sc.add k e).found.length) + 1 := by
          simp only [Scan.add, List.length_append, List.length_singleton] at hfull ⊢
          omega
        rw [ih hrest (Nat.not_le.mp hfull), hcons, hnew, hmore]
        simp [Scan.add]

/-- The last number seen is that of the newest entry found. -/
def Scan.Tracks (k : LogKey) (after : Nat) (sc : Scan) : Prop :=
  sc.lastSeq = ((sc.found.head?).map k.seqOf).getD after

/-- What is still to be scanned is older than what was found. -/
def Scan.Precedes (k : LogKey) (sc : Scan) (raws : List Raw) : Prop :=
  ∀ h, sc.found.head? = some h → ∀ e ∈ entriesOf raws, k.seqOf e < k.seqOf h

theorem Scan.Tracks.add {e : LogEntry} (h : sc.Tracks k after) (hnew : after < k.seqOf e)
    (hold : ∀ h, sc.found.head? = some h → k.seqOf e < k.seqOf h) :
    (sc.add k e).Tracks k after := by
  unfold Scan.Tracks at h ⊢
  cases hfound : sc.found with
  | nil =>
    rw [hfound] at h
    have hlast : sc.lastSeq = after := h
    simp [Scan.add, hfound, hlast, hnew]
  | cons newest rest =>
    rw [hfound] at h
    have hlast : sc.lastSeq = k.seqOf newest := h
    have hlt := hold newest (by rw [hfound]; rfl)
    have hnot : ¬ sc.lastSeq < k.seqOf e := by omega
    simp [Scan.add, hfound, hlast, Nat.le_of_lt hlt]

theorem scanChunk_tracks (hdesc : (entriesOf raws).Pairwise fun a b => k.seqOf b < k.seqOf a)
    (h : sc.Tracks k after) (hold : sc.Precedes k raws) :
    (scanChunk k after limit tenant raws sc).Tracks k after := by
  induction raws generalizing sc with
  | nil => exact h
  | cons raw rest ih =>
    cases raw with
    | unreadable text => exact ih hdesc h hold
    | entry e =>
      obtain ⟨hlater, hrest⟩ := List.pairwise_cons.mp hdesc
      have hadd : after < k.seqOf e → (sc.add k e).Tracks k after := fun hnew =>
        h.add hnew fun newest hn => hold newest hn e (List.mem_cons_self ..)
      have hprecedes : (sc.add k e).Precedes k rest := by
        intro newest hn e' he'
        cases hfound : sc.found with
        | nil =>
          simp only [Scan.add, hfound, List.nil_append, List.head?_cons, Option.some.injEq] at hn
          exact hn ▸ hlater e' he'
        | cons first others =>
          simp only [Scan.add, hfound, List.cons_append, List.head?_cons, Option.some.injEq] at hn
          exact hold newest (by rw [hfound, ← hn]; rfl) e' (List.mem_cons_of_mem _ he')
      unfold scanChunk
      split_ifs with hseen hother hfull
      · exact h
      · exact ih hrest h fun newest hn e' he' => hold newest hn e' (List.mem_cons_of_mem _ he')
      · exact hadd (Nat.not_le.mp hseen)
      · exact ih hrest (hadd (Nat.not_le.mp hseen)) hprecedes

/-- Scanning goes on with the next chunk unless it has stopped. -/
theorem scanChunk_append {others : List Raw} (hgo : ¬ sc.Stopped limit) :
    scanChunk k after limit tenant (raws ++ others) sc =
      if (scanChunk k after limit tenant raws sc).Stopped limit then
        scanChunk k after limit tenant raws sc
      else scanChunk k after limit tenant others (scanChunk k after limit tenant raws sc) := by
  induction raws generalizing sc with
  | nil => exact (if_neg hgo).symm
  | cons raw rest ih =>
    cases raw with
    | unreadable text => exact ih hgo
    | entry e =>
      rw [List.cons_append, scanChunk, scanChunk]
      by_cases hseen : k.seqOf e ≤ after
      · simp only [if_pos hseen]
        exact (if_pos (.inr rfl)).symm
      by_cases hother : tenant ≠ "" ∧ e.tenantId ≠ tenant
      · simp only [if_neg hseen, if_pos hother]
        exact ih hgo
      by_cases hfull : limit ≤ (sc.add k e).found.length
      · simp only [if_neg hseen, if_neg hother, if_pos hfull]
        exact (if_pos (.inl hfull)).symm
      · simp only [if_neg hseen, if_neg hother, if_neg hfull]
        apply ih
        rintro (hlimit | hboundary)
        · exact hfull hlimit
        · exact hgo (.inr hboundary)

theorem inOrder_reverse {l : List Raw} (h : InOrder k l) :
    (entriesOf l.reverse).Pairwise fun a b => k.seqOf b < k.seqOf a := by
  unfold entriesOf
  rw [List.filterMap_reverse, List.pairwise_reverse]
  exact h

/-- A scan of a whole list finds what the poll of that list answers. -/
theorem scanChunk_whole {l : List Raw} (h : InOrder k l) (hlimit : 0 < limit) :
    let sc := scanChunk k after limit tenant l.reverse { lastSeq := after }
    (⟨(sc.found.drop (sc.found.length - limit)).reverse, sc.lastSeq⟩ : Poll) =
      pollOf k after limit tenant l := by
  intro sc
  have hfound : sc.found = (newEntries k after tenant l).reverse.take limit := by
    have hscan := @scanChunk_found k after limit tenant { lastSeq := after } _
      (inOrder_reverse h) hlimit
    rw [newEntries_reverse] at hscan
    exact hscan
  have hstart : ({ lastSeq := after } : Scan).Tracks k after := rfl
  have htracks : sc.Tracks k after := scanChunk_tracks (inOrder_reverse h) hstart nofun
  have hentries : sc.found.reverse =
      (newEntries k after tenant l).drop ((newEntries k after tenant l).length - limit) := by
    rw [hfound, List.take_reverse, List.reverse_reverse]
  have hshort : sc.found.length - limit = 0 := by
    rw [hfound, List.length_take]
    omega
  have hhead : sc.found.head? = (newEntries k after tenant l).getLast? := by
    rw [hfound, List.head?_take, if_neg (Nat.ne_of_gt hlimit), List.head?_reverse]
  rw [hshort, List.drop_zero, hentries, htracks, hhead]
  rfl

end Scanning

/-! ## A poll among writers -/

/-- The list is in order, and the counter has reached all of its numbers. -/
def WellNumbered (k : LogKey) (s : LogStore) : Prop :=
  InOrder k (s.items k) ∧ ∀ e ∈ entriesOf (s.items k), k.seqOf e ≤ (s.counters k).value

/-- What the writers do to a list from which nothing is removed. -/
def Grown (k : LogKey) (s t : LogStore) : Prop :=
  s.items k <+: t.items k ∧ (s.counters k).value ≤ (t.counters k).value ∧
    (WellNumbered k s → WellNumbered k t)

instance (k : LogKey) : IsPreorder LogStore (Grown k) where
  refl _ := ⟨List.prefix_refl _, Nat.le_refl _, id⟩
  trans _ _ _ h h' := ⟨h.1.trans h'.1, h.2.1.trans h'.2.1, h'.2.2 ∘ h.2.2⟩

section Polls

variable (k : LogKey) {after limit : Nat} {tenant : TenantId} {s : LogStore} {l : List Raw}

/-- The program only reads, and ends in the postcondition, while the list grows. -/
abbrev ReadsGrowing {ρ : Type} (post : LogStore → ρ → Prop) (p : LogProgram ρ) (s : LogStore) :
    Prop :=
  p.Under (Grown k) handle (fun t c => (handle c t).2 = t) post s

variable {k}

theorem entriesOf_extended {l' : List Raw} (h : l <+: l') : entriesOf l <+: entriesOf l' :=
  h.filterMap _

theorem InOrder.of_prefix {l' : List Raw} (h : InOrder k l') (hl : l <+: l') : InOrder k l :=
  List.Pairwise.sublist (entriesOf_extended hl).sublist h

/-- The elements between two places of a list do not change when it grows. -/
theorem slice_of_prefix {l' : List Raw} (h : l <+: l') {start remaining : Nat}
    (hr : remaining ≤ l.length) :
    (l'.take remaining).drop start = (l.take remaining).drop start := by
  obtain ⟨more, rfl⟩ := h
  rw [List.take_append_of_le_length hr]

theorem scanLoop_stopped {sc : Scan} (h : sc.Stopped limit) (rounds remaining : Nat) :
    scanLoop k after limit tenant rounds remaining sc = pure sc := by
  cases rounds with
  | zero => rfl
  | succ rounds => rw [scanLoop, if_pos (.inr h)]

/-- The loop over the chunks scans what the list was when it was measured. -/
theorem scanLoop_reads {rounds remaining : Nat} {sc : Scan} (hl : l <+: s.items k)
    (hremaining : remaining ≤ l.length) (hrounds : remaining ≤ rounds)
    (hgo : ¬ sc.Stopped limit) :
    ReadsGrowing k (fun _ r => r = scanChunk k after limit tenant (l.take remaining).reverse sc)
      (scanLoop k after limit tenant rounds remaining sc) s := by
  induction rounds generalizing remaining sc s with
  | zero =>
    obtain rfl := Nat.le_zero.mp hrounds
    exact fun _ _ => rfl
  | succ rounds ih =>
    unfold scanLoop
    by_cases hzero : remaining = 0
    · subst hzero
      rw [if_pos (.inl rfl)]
      exact fun _ _ => rfl
    rw [if_neg (not_or.mpr ⟨hzero, hgo⟩)]
    intro t ht
    refine ⟨rfl, ?_⟩
    have hlt : l <+: t.items k := hl.trans ht.1
    have hread : (handle (.lrange k (remaining - chunkSize limit) (remaining - 1)) t).1 =
        (l.take remaining).drop (remaining - chunkSize limit) := by
      show ((t.items k).take (remaining - 1 + 1)).drop (remaining - chunkSize limit) = _
      rw [Nat.sub_add_cancel (Nat.pos_of_ne_zero hzero)]
      exact slice_of_prefix hlt hremaining
    have hchunk := chunkSize_pos limit
    have hsplit : (l.take remaining).reverse =
        ((l.take remaining).drop (remaining - chunkSize limit)).reverse ++
          (l.take (remaining - chunkSize limit)).reverse := by
      have hparts := List.take_append_drop (remaining - chunkSize limit) (l.take remaining)
      rw [List.take_take, Nat.min_eq_left (Nat.sub_le ..)] at hparts
      rw [← List.reverse_append, hparts]
    have hsome : (l.take remaining).drop (remaining - chunkSize limit) ≠ [] := by
      rw [Ne, List.drop_eq_nil_iff, List.length_take]
      omega
    show ReadsGrowing k _ (if (handle (.lrange k (remaining - chunkSize limit) (remaining - 1))
      t).1 = [] then _ else _) t
    rw [hread, if_neg hsome]
    by_cases hlast : remaining - chunkSize limit = 0
    · rw [if_pos hlast, hsplit, hlast]
      intro u _
      simp
    rw [if_neg hlast, hsplit, scanChunk_append hgo]
    split
    next hstop =>
      rw [scanLoop_stopped hstop]
      exact fun _ _ => rfl
    next hgo' => exact ih hlt (by omega) (by omega) hgo'

/-- What a poll answers is the poll of some list between its start and its end. -/
structure Answers (k : LogKey) (after limit : Nat) (tenant : TenantId) (s t : LogStore)
    (p : Poll) : Prop where
  wellNumbered : WellNumbered k t
  grown : Grown k s t
  counted : p.lastSeq ≤ (t.counters k).value
  seen : ∃ l, s.items k <+: l ∧ l <+: t.items k ∧ p = pollOf k after limit tenant l

theorem newEntries_mem {l' : List Raw} (h : l <+: l') {e : LogEntry}
    (he : e ∈ newEntries k after tenant l) : e ∈ newEntries k after tenant l' := by
  obtain ⟨hmem, hnew⟩ := mem_newEntries.mp he
  exact mem_newEntries.mpr ⟨(entriesOf_extended h).subset hmem, hnew⟩

/-- The number that a poll answers is that of an entry, or the one it was given. -/
theorem pollOf_lastSeq : (pollOf k after limit tenant l).lastSeq = after ∨
    ∃ e ∈ newEntries k after tenant l, (pollOf k after limit tenant l).lastSeq = k.seqOf e := by
  unfold pollOf
  cases hlast : (newEntries k after tenant l).getLast? with
  | none => exact .inl rfl
  | some e => exact .inr ⟨e, List.mem_of_getLast? hlast, rfl⟩

theorem Answers.of_list {t : LogStore} (hs : WellNumbered k s)
    (hafter : after ≤ (s.counters k).value) (hst : Grown k s t) (hl : s.items k <+: l)
    (hlt : l <+: t.items k) :
    Answers k after limit tenant s t (pollOf k after limit tenant l) := by
  have ht := hst.2.2 hs
  refine ⟨ht, hst, ?_, l, hl, hlt, rfl⟩
  rcases @pollOf_lastSeq k after limit tenant l with h | ⟨e, he, h⟩
  · rw [h]
    exact hafter.trans hst.2.1
  · rw [h]
    exact ht.2 e (mem_newEntries.mp (newEntries_mem hlt he)).1

/-- **A poll among writers** answers what it would answer at some moment while it runs. -/
theorem scanRecentEntries_reads (hlimit : 0 < limit) (hs : WellNumbered k s)
    (hafter : after ≤ (s.counters k).value) :
    ReadsGrowing k (Answers k after limit tenant s) (scanRecentEntries k after limit tenant) s := by
  have hempty : ∀ {l : List Raw}, (∀ e ∈ entriesOf l, k.seqOf e ≤ after) →
      pollOf k after limit tenant l = ⟨[], after⟩ := by
    intro l hl
    simp [pollOf, newEntries_eq_nil hl]
  intro t ht
  refine ⟨rfl, ?_⟩
  have htn := ht.2.2 hs
  show ReadsGrowing k _ (if 0 < (t.counters k).value ∧ (t.counters k).value ≤ after then _ else _) t
  split
  next hfast =>
    -- the counter has not moved since the last answer
    have hsame : (t.counters k).value = after := Nat.le_antisymm hfast.2 (hafter.trans ht.2.1)
    intro u hu
    have hnone := hempty fun e he => (htn.2 e he).trans hfast.2
    show Answers k after limit tenant s u ⟨[], (t.counters k).value⟩
    rw [hsame, ← hnone]
    exact .of_list hs hafter (IsTrans.trans _ _ _ ht hu) ht.1 hu.1
  next =>
    intro u hu
    refine ⟨rfl, ?_⟩
    have hsu : Grown k s u := IsTrans.trans _ _ _ ht hu
    show ReadsGrowing k _ (if (u.items k).length = 0 then _ else _) u
    split
    next hnil =>
      intro v hv
      have hlist : u.items k = [] := List.length_eq_zero_iff.mp hnil
      have hnone : pollOf k after limit tenant (u.items k) = ⟨[], after⟩ :=
        hempty (by rw [hlist]; exact nofun)
      show Answers k after limit tenant s v ⟨[], after⟩
      rw [← hnone]
      exact .of_list hs hafter (IsTrans.trans _ _ _ hsu hv) hsu.1 hv.1
    next =>
      have hread : ∀ t c, (handle c t).2 = t → Grown k t (handle c t).2 :=
        fun t c h => h.symm ▸ Std.Refl.refl t
      have hloop := Prog.Under.ends_later hread (@scanLoop_reads k after limit
        tenant u (u.items k) _ _ { lastSeq := after } (List.prefix_refl (u.items k))
        (Nat.le_refl _) (Nat.le_refl _)
        (not_or.mpr ⟨Nat.not_le.mpr hlimit, Bool.false_ne_true⟩))
      apply hloop.bind
      rintro v sc ⟨huv, rfl⟩ w hw
      rw [List.take_length]
      have huw : Grown k u w := IsTrans.trans _ _ _ huv hw
      have hpoll := @scanChunk_whole k after limit tenant _ (hsu.2.2 hs).1 hlimit
      show Answers k after limit tenant s w _
      rw [hpoll]
      exact .of_list hs hafter (IsTrans.trans _ _ _ hsu huw) hsu.1 huw.1

end Polls

end BackupCenter.Logs
