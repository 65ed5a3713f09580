import Mathlib.Data.List.Basic

/-!
# Sliding and fixed time windows

A history is the list of the times of some events, latest first. The sliding window of an
event holds the events of the last `w` time units. A fixed window opens with an event,
closes `w` time units later, and the next one opens with the first event after that. The
fixed window of an event holds no more than its sliding window, but it may hold fewer.
-/
namespace BackupCenter.Lib

/-- The events of the last `w` time units before `now`. -/
def recent (w now : Nat) (h : List Nat) : List Nat := h.filter fun t => now - t < w

/-- The fixed window of the latest event: when it opened, and how many events it holds. -/
def fixedWindow (w : Nat) : List Nat → Option (Nat × Nat)
  | [] => none
  | t :: older =>
    match fixedWindow w older with
    | some (opened, n) => if t < opened + w then some (opened, n + 1) else some (t, 1)
    | none => some (t, 1)

/-- The number of events in the fixed window of the latest one. -/
def fixedCount (w : Nat) (h : List Nat) : Nat := ((fixedWindow w h).map Prod.snd).getD 0

/-- Times do not go back. -/
abbrev Chronological (h : List Nat) : Prop := h.Pairwise (· ≥ ·)

variable {w now t : Nat} {h older : List Nat}

theorem recent_sublist : (recent w now h).Sublist h := List.filter_sublist

theorem recent_cons_self (hw : 0 < w) : recent w t (t :: older) = t :: recent w t older := by
  simp [recent, hw]

/-- What is recent later is recent now. -/
theorem recent_length_anti {later : Nat} (hle : now ≤ later) :
    (recent w later h).length ≤ (recent w now h).length := by
  induction h with
  | nil => exact Nat.le_refl _
  | cons t older ih =>
    unfold recent at *
    by_cases hlater : later - t < w
    · have hnow : now - t < w := by omega
      simpa [hlater, hnow] using ih
    · by_cases hnow : now - t < w
      · simp only [List.filter_cons, hlater, hnow, decide_true, decide_false, if_true,
          Bool.false_eq_true, if_false, List.length_cons]
        omega
      · simpa [hlater, hnow] using ih

/-- An event that is recent is not older than the window. -/
theorem lt_of_mem_recent (hmem : t ∈ recent w now h) : now < t + w := by
  have hlt := of_decide_eq_true (List.mem_filter.mp hmem).2
  omega

theorem exists_fixedWindow_cons : ∃ window, fixedWindow w (t :: older) = some window := by
  rw [fixedWindow]
  split
  · split <;> exact ⟨_, rfl⟩
  · exact ⟨_, rfl⟩

/-- The fixed window opened with one of the events and has not closed yet. -/
theorem fixedWindow_cons {opened n : Nat} (hw : 0 < w)
    (hwin : fixedWindow w (t :: older) = some (opened, n)) :
    opened ∈ t :: older ∧ t < opened + w := by
  induction older generalizing t opened n with
  | nil =>
    obtain ⟨rfl, rfl⟩ : t = opened ∧ 1 = n := by simpa [fixedWindow] using hwin
    exact ⟨List.mem_singleton_self _, by omega⟩
  | cons u rest ih =>
    rw [fixedWindow] at hwin
    split at hwin
    next opened' n' hwin' =>
      split at hwin
      next hin =>
        obtain ⟨rfl, -⟩ := Prod.mk.inj (Option.some.inj hwin)
        exact ⟨List.mem_cons_of_mem _ (ih hwin').1, hin⟩
      next hout =>
        obtain ⟨rfl, -⟩ := Prod.mk.inj (Option.some.inj hwin)
        exact ⟨List.mem_cons_self .., by omega⟩
    next hnone =>
      obtain ⟨rfl, -⟩ := Prod.mk.inj (Option.some.inj hwin)
      exact ⟨List.mem_cons_self .., by omega⟩

theorem fixedWindow_pos {opened n : Nat} (hwin : fixedWindow w h = some (opened, n)) : 0 < n := by
  cases h with
  | nil => cases hwin
  | cons t older =>
    rw [fixedWindow] at hwin
    split at hwin
    · split at hwin
      all_goals obtain ⟨-, rfl⟩ := Prod.mk.inj (Option.some.inj hwin)
      all_goals omega
    · obtain ⟨-, rfl⟩ := Prod.mk.inj (Option.some.inj hwin)
      omega

/-- The events of the fixed window are all since it opened. -/
theorem fixedWindow_le_since {opened n : Nat} (hchron : Chronological h)
    (hwin : fixedWindow w h = some (opened, n)) :
    n ≤ (h.filter fun t => opened ≤ t).length := by
  induction h generalizing opened n with
  | nil => cases hwin
  | cons t older ih =>
    have hold := List.pairwise_cons.mp hchron
    rw [fixedWindow] at hwin
    split at hwin
    next opened' n' hwin' =>
      split at hwin
      next hin =>
        obtain ⟨rfl, rfl⟩ := Prod.mk.inj (Option.some.inj hwin)
        have hn := ih hold.2 hwin'
        have hopened : opened' ≤ t := by
          cases older with
          | nil => cases hwin'
          | cons u rest =>
            by_contra hlt
            have hempty : (List.filter (fun x => decide (opened' ≤ x)) (u :: rest)) = [] := by
              rw [List.filter_eq_nil_iff]
              intro x hx
              have := hold.1 x hx
              simp only [decide_eq_true_eq]
              omega
            rw [hempty] at hn
            have hpos : 0 < n' := fixedWindow_pos hwin'
            simp at hn
            omega
        simpa [hopened] using hn
      next hout =>
        obtain ⟨rfl, rfl⟩ := Prod.mk.inj (Option.some.inj hwin)
        simp
    next hnone =>
      obtain ⟨rfl, rfl⟩ := Prod.mk.inj (Option.some.inj hwin)
      simp

/-- The fixed window holds no more than the sliding window. -/
theorem fixedCount_le_recent (hw : 0 < w) (hchron : Chronological (t :: older)) :
    fixedCount w (t :: older) ≤ (recent w t (t :: older)).length := by
  unfold fixedCount
  cases hwin : fixedWindow w (t :: older) with
  | none => exact Nat.zero_le _
  | some window =>
    obtain ⟨opened, n⟩ := window
    have hin : t < opened + w := (fixedWindow_cons hw hwin).2
    have hsince : n ≤ ((t :: older).filter fun t => opened ≤ t).length :=
      fixedWindow_le_since hchron hwin
    have hmono : (t :: older).countP (fun t => opened ≤ t) ≤
        (t :: older).countP fun u => t - u < w := by
      apply List.countP_mono_left
      intro u _ hu
      have hle : opened ≤ u := of_decide_eq_true hu
      exact decide_eq_true (by omega)
    rw [List.countP_eq_length_filter, List.countP_eq_length_filter] at hmono
    exact Nat.le_trans hsince hmono

/-! ## The last event at which a count reached its limit -/

/-- The time of the last event that brought the count to the limit. -/
def lastReached (count : List Nat → Nat) (limit : Nat) : List Nat → Option Nat
  | [] => none
  | t :: older => if limit ≤ count (t :: older) then some t else lastReached count limit older

/-- Some event less than `d` ago brought the count to the limit. -/
def ReachedWithin (count : List Nat → Nat) (limit d now : Nat) (h : List Nat) : Prop :=
  ∃ t older, t :: older <:+ h ∧ limit ≤ count (t :: older) ∧ now < t + d

variable {count count' : List Nat → Nat} {limit d : Nat}

theorem lastReached_suffix (hlast : lastReached count limit h = some t) :
    ∃ older, t :: older <:+ h ∧ limit ≤ count (t :: older) := by
  induction h with
  | nil => cases hlast
  | cons u rest ih =>
    rw [lastReached] at hlast
    split at hlast
    next hle =>
      obtain rfl := Option.some.inj hlast
      exact ⟨rest, List.suffix_refl _, hle⟩
    next =>
      obtain ⟨older, hsuffix, hle⟩ := ih hlast
      exact ⟨older, hsuffix.trans (List.suffix_cons ..), hle⟩

theorem lastReached_of_suffix (hchron : Chronological h) (hsuffix : t :: older <:+ h)
    (hle : limit ≤ count (t :: older)) : ∃ u, lastReached count limit h = some u ∧ t ≤ u := by
  induction h with
  | nil => cases List.suffix_nil.mp hsuffix
  | cons u rest ih =>
    have hold := List.pairwise_cons.mp hchron
    rw [lastReached]
    split
    next =>
      refine ⟨u, rfl, ?_⟩
      rcases List.mem_cons.mp (hsuffix.subset (List.mem_cons_self ..)) with rfl | hmem
      · exact Nat.le_refl _
      · exact hold.1 t hmem
    next hnot =>
      rcases List.suffix_cons_iff.mp hsuffix with heq | hrest
      · exact absurd (heq ▸ hle) hnot
      · exact ih hold.2 hrest

theorem lastReached_iff (hchron : Chronological h) :
    (∃ t, lastReached count limit h = some t ∧ now < t + d) ↔
      ReachedWithin count limit d now h := by
  constructor
  · rintro ⟨t, hlast, hlt⟩
    obtain ⟨older, hsuffix, hle⟩ := lastReached_suffix hlast
    exact ⟨t, older, hsuffix, hle, hlt⟩
  · rintro ⟨t, older, hsuffix, hle, hlt⟩
    obtain ⟨u, hlast, htu⟩ := lastReached_of_suffix hchron hsuffix hle
    exact ⟨u, hlast, by omega⟩

/-- A count that is never below another one reaches the limit whenever that one does. -/
theorem ReachedWithin.mono (hreached : ReachedWithin count limit d now h)
    (hle : ∀ t older, t :: older <:+ h → count (t :: older) ≤ count' (t :: older)) :
    ReachedWithin count' limit d now h := by
  obtain ⟨t, older, hsuffix, hlimit, hlt⟩ := hreached
  exact ⟨t, older, hsuffix, Nat.le_trans hlimit (hle t older hsuffix), hlt⟩

/-- The events of the sliding window of the latest one. -/
def slidingCount (w : Nat) : List Nat → Nat
  | [] => 0
  | t :: older => (recent w t (t :: older)).length

end BackupCenter.Lib
