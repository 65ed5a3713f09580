import BackupCenter.Lib.Heads
import BackupCenter.Logs.Cleaning

/-!
# Two ways to prune the global log

The pruning by age pops the head of the list until it finds an entry that is young enough;
`prune_global_logs` filters the whole list. On a list in the order of time they leave the
same.
-/
namespace BackupCenter.Logs

open BackupCenter.Lib BackupCenter.Tasks BackupCenter.Realtime

/-- What tells the age of an element, if it can be read. -/
def Raw.timestamp? : Raw → Option Timestamp
  | .unreadable _ => none
  | .entry e => e.timestampIso

/-- The times are in order, and what has no time stands before all that is within the
retention. -/
structure AgeOrdered (now retention : Nat) (l : List Raw) : Prop where
  ordered : (l.filterMap Raw.timestamp?).Pairwise (· ≤ ·)
  timelessFirst : l.Pairwise fun raw later =>
    expired now retention raw = false → later.timestamp? ≠ none

section Ages

variable {now retention : Nat} {l : List Raw}

theorem expired_eq_false {raw : Raw} : expired now retention raw = false ↔
    ∃ ts, raw.timestamp? = some ts ∧ now ≤ ts + retention := by
  cases raw with
  | unreadable text => simp [expired, Raw.timestamp?]
  | entry e =>
    cases htime : e.timestampIso <;> simp [expired, Raw.timestamp?, htime]

/-- What follows a young element of an ordered list is young. -/
theorem AgeOrdered.youngLast (h : AgeOrdered now retention l) :
    l.Pairwise fun raw later =>
      expired now retention raw = false → expired now retention later = false := by
  obtain ⟨hordered, htimeless⟩ := h
  rw [List.pairwise_filterMap] at hordered
  refine (hordered.and htimeless).imp ?_
  rintro raw later ⟨htimes, htime⟩ hyoung
  obtain ⟨ts, hts, hage⟩ := expired_eq_false.mp hyoung
  obtain ⟨ts', hts'⟩ := Option.ne_none_iff_exists'.mp (htime hyoung)
  have hle : ts ≤ ts' := htimes ts hts ts' hts'
  exact expired_eq_false.mpr ⟨ts', hts', hage.trans (Nat.add_le_add_right hle retention)⟩

end Ages

section Runs

variable {L : LogSettings} {s : LogStore}

theorem items_lpop : (handle (.lpop .global) s).2.items .global = (s.items .global).tail := by
  show (s.setList .global _).items .global = _
  rw [items_setList_self, items_withItems]

/-- The pruning by age pops an element that is too old, and goes on. -/
theorem pruneGlobalLogsByAge_pops {now : Timestamp} {rounds : Nat} {raw : Raw} {rest : List Raw}
    (hitems : s.items .global = raw :: rest)
    (hold : expired now (ttlSeconds L.env) raw = true) :
    (pruneGlobalLogsByAge L now (rounds + 1)).run handle s =
      (((pruneGlobalLogsByAge L now rounds).run handle (handle (.lpop .global) s).2).1 + 1,
        ((pruneGlobalLogsByAge L now rounds).run handle (handle (.lpop .global) s).2).2) := by
  have hhead : (handle (.lindexHead .global) s).1 = some raw :=
    congrArg List.head? hitems
  simp only [pruneGlobalLogsByAge, Log.lindexHead, Log.lpop, Prog.ask_bind, Prog.run, hhead,
    if_pos hold, Prog.run_bind]
  rfl

/-- It ends at the first element that is young enough, or at the end of the list. -/
theorem pruneGlobalLogsByAge_ends {now : Timestamp} {rounds : Nat}
    (h : ∀ raw ∈ (s.items .global).head?, expired now (ttlSeconds L.env) raw = false) :
    (pruneGlobalLogsByAge L now (rounds + 1)).run handle s = (0, s) := by
  have hhead : (handle (.lindexHead .global) s).1 = (s.items .global).head? := rfl
  cases hfirst : (s.items .global).head? with
  | none =>
    simp only [pruneGlobalLogsByAge, Log.lindexHead, Prog.ask_bind, Prog.run, hhead, hfirst]
    rfl
  | some raw =>
    have hyoung : ¬ expired now (ttlSeconds L.env) raw = true :=
      Bool.not_eq_true _ ▸ h raw hfirst
    simp only [pruneGlobalLogsByAge, Log.lindexHead, Prog.ask_bind, Prog.run, hhead, hfirst,
      if_neg hyoung]
    rfl

/-- The pruning by age drops from the head, within one round for each element and one more. -/
theorem pruneGlobalLogsByAge_run {now : Timestamp} {rounds : Nat}
    (h : (s.items .global).length < rounds) :
    ((pruneGlobalLogsByAge L now rounds).run handle s).1 =
        ((s.items .global).takeWhile (expired now (ttlSeconds L.env))).length ∧
      ((pruneGlobalLogsByAge L now rounds).run handle s).2.items .global =
        (s.items .global).dropWhile (expired now (ttlSeconds L.env)) := by
  induction rounds generalizing s with
  | zero => exact absurd h (Nat.not_lt_zero _)
  | succ rounds ih =>
    cases hitems : s.items .global with
    | nil =>
      rw [pruneGlobalLogsByAge_ends (by rw [hitems]; nofun)]
      exact ⟨rfl, hitems⟩
    | cons raw rest =>
      by_cases hold : expired now (ttlSeconds L.env) raw = true
      · have htail : (handle (.lpop .global) s).2.items .global = rest := by
          rw [items_lpop, hitems, List.tail_cons]
        have hshort : ((handle (.lpop .global) s).2.items .global).length < rounds := by
          rw [hitems, List.length_cons] at h
          rw [htail]
          omega
        obtain ⟨hcount, hleft⟩ := ih hshort
        rw [htail] at hcount hleft
        rw [pruneGlobalLogsByAge_pops hitems hold, List.takeWhile_cons_of_pos hold,
          List.dropWhile_cons_of_pos hold, List.length_cons]
        exact ⟨congrArg (· + 1) hcount, hleft⟩
      · have hyoung : expired now (ttlSeconds L.env) raw = false := Bool.eq_false_iff.mpr hold
        have hhead : ∀ first ∈ (s.items .global).head?,
            expired now (ttlSeconds L.env) first = false := by
          intro first hfirst
          rw [hitems] at hfirst
          obtain rfl := Option.some.inj hfirst
          exact hyoung
        rw [pruneGlobalLogsByAge_ends hhead, List.takeWhile_cons_of_neg hold,
          List.dropWhile_cons_of_neg hold]
        exact ⟨rfl, hitems⟩

/-- More rounds do the same: the loop has ended by itself. -/
theorem pruneGlobalLogsByAge_rounds {now : Timestamp} {rounds n : Nat}
    (h : (s.items .global).length < rounds) (hn : rounds ≤ n) :
    (pruneGlobalLogsByAge L now n).run handle s =
      (pruneGlobalLogsByAge L now rounds).run handle s := by
  induction rounds generalizing s n with
  | zero => exact absurd h (Nat.not_lt_zero _)
  | succ rounds ih =>
    obtain ⟨n, rfl⟩ : ∃ m, n = m + 1 := ⟨n - 1, by omega⟩
    by_cases hyoung : ∀ raw ∈ (s.items .global).head?, expired now (ttlSeconds L.env) raw = false
    · rw [pruneGlobalLogsByAge_ends hyoung, pruneGlobalLogsByAge_ends hyoung]
    · obtain ⟨raw, rest, hitems, hold⟩ : ∃ raw rest, s.items .global = raw :: rest ∧
          expired now (ttlSeconds L.env) raw = true := by
        push Not at hyoung
        obtain ⟨raw, hraw, hold⟩ := hyoung
        obtain ⟨rest, hitems⟩ := List.head?_eq_some_iff.mp hraw
        exact ⟨raw, rest, hitems, Bool.eq_true_of_not_eq_false hold⟩
      have hshort : ((handle (.lpop .global) s).2.items .global).length < rounds := by
        rw [hitems, List.length_cons] at h
        rw [items_lpop, hitems, List.tail_cons]
        omega
      rw [pruneGlobalLogsByAge_pops hitems hold, pruneGlobalLogsByAge_pops hitems hold,
        ih hshort (Nat.le_of_succ_le_succ hn)]

/-- Nothing is left for the pruning by age to pop. -/
theorem pruneGlobalLogsByAge_again {now : Timestamp} {rounds : Nat}
    (h : s.items .global = (s.items .global).dropWhile (expired now (ttlSeconds L.env)))
    (hrounds : 0 < rounds) : (pruneGlobalLogsByAge L now rounds).run handle s = (0, s) := by
  obtain ⟨rounds, rfl⟩ : ∃ m, rounds = m + 1 := ⟨rounds - 1, by omega⟩
  apply pruneGlobalLogsByAge_ends
  intro raw hraw
  have hfirst := List.head?_dropWhile_not (expired now (ttlSeconds L.env)) (s.items .global)
  rw [h] at hraw
  rw [hraw] at hfirst
  exact hfirst

/-- `prune_global_logs` filters. -/
theorem pruneGlobalLogs_run (retentionDays : Nat) :
    ((pruneGlobalLogs L retentionDays false).run handle s).1 = (s.items .global).length -
        ((s.items .global).filter
          (!expired s.now (max retentionDays 1 * 24 * 60 * 60) ·)).length ∧
      ((pruneGlobalLogs L retentionDays false).run handle s).2.items .global =
        (s.items .global).filter (!expired s.now (max retentionDays 1 * 24 * 60 * 60) ·) ∧
      ((pruneGlobalLogs L retentionDays false).run handle s).2.now = s.now := by
  unfold pruneGlobalLogs
  show (Prog.run handle (if s.items .global = [] then _ else _) s).1 = _ ∧
    (Prog.run handle (if s.items .global = [] then _ else _) s).2.items .global = _ ∧
    (Prog.run handle (if s.items .global = [] then _ else _) s).2.now = _
  by_cases hempty : s.items .global = []
  · rw [if_pos hempty, hempty]
    exact ⟨rfl, hempty, rfl⟩
  · rw [if_neg hempty]
    refine ⟨rfl, ?_, rfl⟩
    show (s.setList .global (if _ = [] then {} else _)).items .global = _
    rw [items_setList_self]
    split
    next hnone => exact hnone.symm
    next => rfl

/-- What both prunings do to a list: `byAge` and `full` are their counts and stores. -/
structure PruneAlike (now retention : Nat) (s : LogStore) (byAge full : Nat × LogStore) :
    Prop where
  /-- on an ordered list they agree -/
  agree : AgeOrdered now retention (s.items .global) →
    byAge.2.items .global = full.2.items .global ∧ byAge.1 = full.1
  /-- on any list the pruning by age pops some that the other removes too -/
  popped : ∃ gone, s.items .global = gone ++ byAge.2.items .global ∧ gone.length = byAge.1 ∧
    ∀ raw ∈ gone, raw ∉ full.2.items .global
  kept : List.Sublist (full.2.items .global) (byAge.2.items .global)

/-- **The two prunings agree** on an ordered list, and elsewhere the one by age removes no more
than the other. Neither removes anything when it runs again, and more rounds do the same. -/
theorem prunings_agree {retentionDays rounds : Nat}
    (hsame : ttlSeconds L.env = max retentionDays 1 * 24 * 60 * 60)
    (hrounds : (s.items .global).length < rounds) :
    let byAge := fun n s' => (pruneGlobalLogsByAge L s.now n).run handle s'
    let full := fun s' => (pruneGlobalLogs L retentionDays false).run handle s'
    PruneAlike s.now (ttlSeconds L.env) s (byAge rounds s) (full s) ∧
      ((byAge rounds (byAge rounds s).2).1 = 0 ∧
        (byAge rounds (byAge rounds s).2).2 = (byAge rounds s).2) ∧
      ((full (full s).2).1 = 0 ∧
        (full (full s).2).2.items .global = (full s).2.items .global) ∧
      ∀ n, rounds ≤ n → byAge n s = byAge rounds s := by
  intro byAge full
  obtain ⟨hcount, hleft⟩ := @pruneGlobalLogsByAge_run L s s.now rounds hrounds
  obtain ⟨hremoved, hkept, hclock⟩ := @pruneGlobalLogs_run L s retentionDays
  rw [← hsame] at hremoved hkept
  refine ⟨⟨fun hordered => ?_, ?_, ?_⟩, ?_, ?_, fun n hn =>
    pruneGlobalLogsByAge_rounds hrounds hn⟩
  · have halike := dropWhile_eq_filter hordered.youngLast
    refine ⟨hleft.trans (halike.trans hkept.symm), ?_⟩
    show (Prog.run handle _ s).1 = (Prog.run handle _ s).1
    rw [hcount, hremoved, length_takeWhile, halike]
  · refine ⟨(s.items .global).takeWhile (expired s.now (ttlSeconds L.env)), ?_, hcount.symm, ?_⟩
    · show _ = _ ++ (Prog.run handle _ s).2.items .global
      rw [hleft, List.takeWhile_append_dropWhile]
    · intro raw hraw hmem
      rw [hkept] at hmem
      have hold := List.mem_takeWhile_imp hraw
      have hyoung := (List.mem_filter.mp hmem).2
      rw [hold] at hyoung
      exact Bool.false_ne_true hyoung
  · show List.Sublist ((Prog.run handle _ s).2.items .global)
      ((Prog.run handle _ s).2.items .global)
    rw [hkept, hleft]
    exact filter_sublist_dropWhile _ _
  · have hdone : (byAge rounds s).2.items .global = ((byAge rounds s).2.items .global).dropWhile
        (expired s.now (ttlSeconds L.env)) := by
      show (Prog.run handle _ s).2.items .global =
        ((Prog.run handle _ s).2.items .global).dropWhile _
      rw [hleft, List.dropWhile_idempotent]
    have hagain := pruneGlobalLogsByAge_again hdone (Nat.zero_lt_of_lt hrounds)
    exact Prod.ext_iff.mp hagain
  · obtain ⟨hcount', hkept', -⟩ := @pruneGlobalLogs_run L (full s).2 retentionDays
    have hclean : ((full s).2.items .global).filter
        (!expired (full s).2.now (max retentionDays 1 * 24 * 60 * 60) ·) =
          (full s).2.items .global := by
      show ((Prog.run handle _ s).2.items .global).filter (!expired (Prog.run handle _ s).2.now _ ·)
        = (Prog.run handle _ s).2.items .global
      rw [hkept, hclock, ← hsame, List.filter_filter]
      simp only [Bool.and_self]
    rw [hclean] at hcount' hkept'
    exact ⟨hcount'.trans (Nat.sub_self _), hkept'⟩

/-- An element that cannot be read, then an entry that is too old and one that is not. -/
def agedStore : LogStore :=
  { now := 8000000
    lists := Function.update (fun _ => {}) .global
      ⟨[.unreadable "sem json", .entry ⟨"a", 1, "t", "OLT", "linha", .info, some 10, 1⟩,
        .entry ⟨"a", 2, "t", "OLT", "linha", .info, some 7999999, 2⟩], none⟩ }

theorem prunings_agree_aged :
    let byAge := fun n s' => (pruneGlobalLogsByAge asciiLogs agedStore.now n).run handle s'
    let full := fun s' => (pruneGlobalLogs asciiLogs 90 false).run handle s'
    PruneAlike agedStore.now (ttlSeconds asciiLogs.env) agedStore (byAge 4 agedStore)
        (full agedStore) ∧
      ((byAge 4 (byAge 4 agedStore).2).1 = 0 ∧
        (byAge 4 (byAge 4 agedStore).2).2 = (byAge 4 agedStore).2) ∧
      ((full (full agedStore).2).1 = 0 ∧
        (full (full agedStore).2).2.items .global = (full agedStore).2.items .global) ∧
      ∀ n, 4 ≤ n → byAge n agedStore = byAge 4 agedStore :=
  prunings_agree (by decide) (by decide)

end Runs

end BackupCenter.Logs
