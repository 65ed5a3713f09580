import BackupCenter.Lib.Table

/-!
# Partial unique indexes

Some rows of a table take a slot. A partial unique index over the slots would refuse the second
row for one of them; without it, what one change of the table does to it is stated here.
-/
namespace BackupCenter.Lib.Table

variable {ρ κ ι : Type} [Keyed ρ κ]

/-- No two rows take one slot. -/
def Exclusive (slot : ρ → Option ι) (t : Table ρ) : Prop :=
  ∀ a ∈ t, ∀ b ∈ t, ∀ i, slot a = some i → slot b = some i → a = b

variable {slot : ρ → Option ι} {t t' : Table ρ} {r : ρ} {p : ρ → Bool} {f : Update ρ}

/-- The row would not be the first one in its slot. -/
def Occupied (slot : ρ → Option ι) (t : Table ρ) (r : ρ) : Prop :=
  ∃ i, slot r = some i ∧ ∃ a ∈ t, slot a = some i

theorem Exclusive.erase (h : t.Exclusive slot) : (t.erase p).Exclusive slot :=
  fun a ha b hb => h a (mem_erase.mp ha).1 b (mem_erase.mp hb).1

/-- A change after which a row takes the slot that it took before, or none, keeps the slots
exclusive. -/
theorem Exclusive.modify (h : t.Exclusive slot)
    (hf : ∀ r ∈ t, p r = true → ∀ i, slot (f.apply r) = some i → slot r = some i) :
    (t.modify p f).Exclusive slot := by
  have hback : ∀ r ∈ t, ∀ i, slot (if p r then f.apply r else r) = some i → slot r = some i := by
    intro r hr i hi
    split at hi
    next hp => exact hf r hr hp i hi
    next => exact hi
  intro a ha b hb i hai hbi
  obtain ⟨a', ha', rfl⟩ := mem_modify.mp ha
  obtain ⟨b', hb', rfl⟩ := mem_modify.mp hb
  rw [h a' ha' b' hb' i (hback a' ha' i hai) (hback b' hb' i hbi)]

variable [DecidableEq κ]

/-- A new row keeps the slots exclusive exactly when its slot is free. -/
theorem Exclusive.add_iff (h : t.Exclusive slot) (hadd : t.add r = some t') :
    t'.Exclusive slot ↔ ¬ t.Occupied slot r := by
  have hnew : t.find (key r) = none := by
    rw [← add_isSome, hadd]
    rfl
  constructor
  · rintro hexcl ⟨i, hi, a, ha, hai⟩
    have hsame : a = r :=
      hexcl a ((mem_of_add hadd).mpr (.inr ha)) r ((mem_of_add hadd).mpr (.inl rfl)) i hai hi
    rw [find_eq_some.mpr ⟨ha, congrArg key hsame⟩] at hnew
    exact nomatch hnew
  · intro hfree a ha b hb i hai hbi
    rcases (mem_of_add hadd).mp ha with rfl | ha <;> rcases (mem_of_add hadd).mp hb with rfl | hb
    · rfl
    · exact absurd ⟨i, hai, b, hb, hbi⟩ hfree
    · exact absurd ⟨i, hbi, a, ha, hai⟩ hfree
    · exact h a ha b hb i hai hbi

/-- A change that moves one row without a slot into one keeps the slots exclusive exactly when
that slot is free. -/
theorem Exclusive.modify_iff (h : t.Exclusive slot) (hr : r ∈ t) (hnone : slot r = none) :
    (t.modify (fun a => key a = key r) f).Exclusive slot ↔ ¬ t.Occupied slot (f.apply r) := by
  have hmoved : f.apply r ∈ t.modify (fun a => key a = key r) f :=
    mem_modify.mpr ⟨r, hr, by rw [if_pos (decide_eq_true rfl)]⟩
  have hother : ∀ a ∈ t, a ≠ r → key a ≠ key r := fun a ha hne he => hne (eq_of_key ha hr he)
  have hkept : ∀ a ∈ t, a ≠ r → a ∈ t.modify (fun a => key a = key r) f := by
    intro a ha hne
    refine mem_modify.mpr ⟨a, ha, ?_⟩
    rw [if_neg (by simpa using hother a ha hne)]
  constructor
  · rintro hexcl ⟨i, hi, a, ha, hai⟩
    have hne : a ≠ r := by
      rintro rfl
      exact nomatch hnone.symm.trans hai
    have hsame := hexcl a (hkept a ha hne) _ hmoved i hai hi
    exact hother a ha hne ((congrArg key hsame).trans (f.keeps r))
  · intro hfree
    -- every row of the changed table is the moved one, or was there before
    have hcases : ∀ a ∈ t.modify (fun a => key a = key r) f, a = f.apply r ∨ a ∈ t := by
      intro a ha
      obtain ⟨b, hb, rfl⟩ := mem_modify.mp ha
      by_cases hb' : b = r
      · rw [hb', if_pos (decide_eq_true rfl)]
        exact .inl rfl
      · rw [if_neg (by simpa using hother b hb hb')]
        exact .inr hb
    intro a ha b hb i hai hbi
    rcases hcases a ha with rfl | ha <;> rcases hcases b hb with rfl | hb
    · rfl
    · exact absurd ⟨i, hai, b, hb, hbi⟩ hfree
    · exact absurd ⟨i, hbi, a, ha, hai⟩ hfree
    · exact h a ha b hb i hai hbi

end BackupCenter.Lib.Table
