import BackupCenter.Logs.Reading

/-!
# A scan of a list at rest

A reader goes through the list from its end, a chunk at a time. While nobody writes, what it
answers does not depend on where the chunks are cut: it is what filtering the list by the
number last seen and by the tenant would give.
-/
namespace BackupCenter.Logs

open BackupCenter.Lib BackupCenter.Tasks

section Loop

variable {k : LogKey} {after limit : Nat} {tenant : TenantId}

/-- The loop is over after at most as many chunks as there are elements: more rounds make the
same program. -/
theorem scanLoop_rounds {rounds remaining : Nat} (h : remaining ≤ rounds) (sc : Scan) :
    scanLoop k after limit tenant rounds remaining sc =
      scanLoop k after limit tenant remaining remaining sc := by
  -- each side goes on with the elements before the chunk, which are fewer
  induction remaining using Nat.strongRecOn generalizing rounds sc with
  | ind remaining ih =>
    cases remaining with
    | zero =>
      cases rounds with
      | zero => rfl
      | succ rounds => exact if_pos (.inl rfl)
    | succ n =>
      obtain ⟨rounds, rfl⟩ : ∃ m, rounds = m + 1 := ⟨rounds - 1, by omega⟩
      have hchunk := chunkSize_pos limit
      have hfewer : n + 1 - chunkSize limit < n + 1 := by omega
      have hnext : ∀ sc', scanLoop k after limit tenant rounds (n + 1 - chunkSize limit) sc' =
          scanLoop k after limit tenant n (n + 1 - chunkSize limit) sc' := by
        intro sc'
        have hleft := @ih _ hfewer rounds (by omega) sc'
        have hright := @ih _ hfewer n (by omega) sc'
        exact hleft.trans hright.symm
      rw [scanLoop, scanLoop]
      simp only [hnext]

end Loop

section AtRest

variable {k : LogKey} {after limit : Nat} {tenant : TenantId} {s : LogStore}

/-- The counter of the list has the number of its last entry. -/
def CountsLast (k : LogKey) (s : LogStore) : Prop :=
  ∀ e ∈ (entriesOf (s.items k)).getLast?, (s.counters k).value = k.seqOf e

instance : Decidable (CountsLast k s) := inferInstanceAs (Decidable (∀ e ∈ _, _))

/-- What a reader without news keeps as its last number. -/
def standing (k : LogKey) (after : Nat) (s : LogStore) : Nat :=
  if 0 < (s.counters k).value ∧ (s.counters k).value ≤ after then (s.counters k).value else after

/-- No entry is numbered above the counter. -/
theorem seqOf_le_counter (horder : InOrder k (s.items k)) (hlast : CountsLast k s) {e : LogEntry}
    (he : e ∈ entriesOf (s.items k)) : k.seqOf e ≤ (s.counters k).value := by
  obtain ⟨front, last, hsplit⟩ := (List.eq_nil_or_concat' (entriesOf (s.items k))).resolve_left
    (List.ne_nil_of_mem he)
  have hcount := hlast last (by rw [hsplit, List.getLast?_concat]; rfl)
  unfold InOrder at horder
  rw [hsplit] at horder he
  rw [hcount]
  rcases List.mem_append.mp he with hfront | hend
  · have hbefore := (List.pairwise_append.mp horder).2.2
    exact Nat.le_of_lt (hbefore e hfront last (List.mem_singleton.mpr rfl))
  · rw [List.mem_singleton.mp hend]

/-- Without interference the loop scans the whole list, and leaves it. -/
theorem scanLoop_run (hlimit : 0 < limit) :
    (scanLoop k after limit tenant (s.items k).length (s.items k).length
      { lastSeq := after }).run handle s =
      (scanChunk k after limit tenant (s.items k).reverse { lastSeq := after }, s) := by
  have hstart : ¬ ({ lastSeq := after } : Scan).Stopped limit :=
    not_or.mpr ⟨Nat.not_le.mpr hlimit, Bool.false_ne_true⟩
  have hreads := @scanLoop_reads k after limit tenant s (s.items k) _ _ { lastSeq := after }
    (List.prefix_refl _) (Nat.le_refl _) (Nat.le_refl _) hstart
  have hresult := hreads.run
  rw [List.take_length] at hresult
  exact Prod.ext hresult hreads.run_reads

/-- The scan answers the poll of the whole list, but for the counter. -/
theorem scanRecentEntries_run (hlimit : 0 < limit) (horder : InOrder k (s.items k))
    (hlast : CountsLast k s) :
    (scanRecentEntries k after limit tenant).run handle s =
      (⟨(pollOf k after limit tenant (s.items k)).entries,
        (((newEntries k after tenant (s.items k)).getLast?).map k.seqOf).getD
          (standing k after s)⟩, s) := by
  show Prog.run handle (if 0 < (s.counters k).value ∧ (s.counters k).value ≤ after then _ else _) s
    = _
  have hquiet : ∀ n, newEntries k after tenant (s.items k) = [] →
      (((⟨[], n⟩ : Poll), s) : Poll × LogStore) =
        (⟨(pollOf k after limit tenant (s.items k)).entries,
          (((newEntries k after tenant (s.items k)).getLast?).map k.seqOf).getD n⟩, s) := by
    intro n hnone
    rw [pollOf, hnone, List.drop_nil]
    rfl
  unfold standing
  by_cases hfast : 0 < (s.counters k).value ∧ (s.counters k).value ≤ after
  · -- the counter tells that nothing is new
    have hnone : newEntries k after tenant (s.items k) = [] :=
      newEntries_eq_nil fun e he => (seqOf_le_counter horder hlast he).trans hfast.2
    rw [if_pos hfast, if_pos hfast]
    exact hquiet _ hnone
  rw [if_neg hfast, if_neg hfast]
  show Prog.run handle (if (s.items k).length = 0 then _ else _) s = _
  by_cases hempty : (s.items k).length = 0
  · rw [if_pos hempty]
    exact hquiet _ (by rw [List.length_eq_zero_iff.mp hempty]; rfl)
  rw [if_neg hempty]
  show Prog.run handle (scanLoop k after limit tenant (s.items k).length (s.items k).length
    { lastSeq := after } >>= _) s = _
  rw [Prog.run_bind, scanLoop_run hlimit]
  exact Prod.ext (scanChunk_whole horder hlimit) rfl

/-- What a scan of a list at rest is: the plain filter. -/
structure ScansAll (k : LogKey) (after limit : Nat) (tenant : TenantId) (s : LogStore) (p : Poll) :
    Prop where
  /-- the newest of the entries that are new, and of the tenant -/
  newest : p.entries = (newEntries k after tenant (s.items k)).drop
    ((newEntries k after tenant (s.items k)).length - limit)
  count : p.entries.length = min limit (newEntries k after tenant (s.items k)).length
  ascending : p.entries.Pairwise (k.seqOf · < k.seqOf ·)
  lastSeq : p.lastSeq = ((p.entries.getLast?).map k.seqOf).getD (standing k after s)

/-- The end of a list stays when its front is dropped. -/
theorem getLast?_newest {α : Type*} (l : List α) (hlimit : 0 < limit) :
    (l.drop (l.length - limit)).getLast? = l.getLast? := by
  rw [List.getLast?_drop]
  split
  next hnone =>
    have hnil : l = [] := List.length_eq_zero_iff.mp (by omega)
    rw [hnil, List.getLast?_nil]
  next => rfl

/-- **The backward scan is the plain filter**, and its loop is over within the length of the
list. -/
theorem scansAll (hlimit : 0 < limit) (horder : InOrder k (s.items k)) (hlast : CountsLast k s) :
    ScansAll k after limit tenant s ((scanRecentEntries k after limit tenant).run handle s).1 ∧
      ((scanRecentEntries k after limit tenant).run handle s).2 = s ∧
      ∀ rounds, (s.items k).length ≤ rounds → ∀ sc,
        scanLoop k after limit tenant rounds (s.items k).length sc =
          scanLoop k after limit tenant (s.items k).length (s.items k).length sc := by
  rw [scanRecentEntries_run hlimit horder hlast]
  refine ⟨⟨rfl, ?_, ?_, ?_⟩, rfl, fun rounds h => scanLoop_rounds h⟩
  · show (List.drop _ _).length = _
    rw [List.length_drop]
    omega
  · have hsub : List.Sublist (newEntries k after tenant (s.items k)) (entriesOf (s.items k)) :=
      List.filter_sublist
    exact List.Pairwise.sublist ((List.drop_sublist ..).trans hsub) horder
  · show _ = (((List.drop _ _).getLast?).map k.seqOf).getD _
    rw [getLast?_newest _ hlimit]

/-- A list with an element that cannot be read, polled for one entry of one tenant. -/
def mixedStore : LogStore :=
  { lists := Function.update (fun _ => {}) .global
      ⟨[.entry ⟨"a", 1, "t", "OLT", "linha", .info, some 0, 4⟩, .unreadable "sem json",
        .entry ⟨"b", 1, "u", "OLT", "linha", .info, some 0, 7⟩], none⟩
    counters := Function.update (fun _ => {}) .global ⟨7, none⟩ }

theorem scansAll_mixed :
    ScansAll .global 3 1 "t" mixedStore
      ((scanRecentEntries .global 3 1 "t").run handle mixedStore).1 ∧
      ((scanRecentEntries .global 3 1 "t").run handle mixedStore).2 = mixedStore ∧
      ∀ rounds, (mixedStore.items .global).length ≤ rounds → ∀ sc,
        scanLoop .global 3 1 "t" rounds (mixedStore.items .global).length sc =
          scanLoop .global 3 1 "t" (mixedStore.items .global).length
            (mixedStore.items .global).length sc :=
  scansAll (by decide) (by unfold InOrder; decide) (by decide)

end AtRest

end BackupCenter.Logs
