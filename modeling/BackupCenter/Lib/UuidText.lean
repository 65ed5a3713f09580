import BackupCenter.Lib.Text
import Mathlib.Data.List.Basic

/-!
# The text of a UUID

`str(uuid)`: at least 32 hexadecimal digits of its number, with dashes behind the eighth, twelfth,
sixteenth and twentieth.
-/
namespace BackupCenter.Lib

/-- `'%032x' % n` -/
def hexDigits (n : Nat) : List Char :=
  List.replicate (32 - (Nat.toDigits 16 n).length) '0' ++ Nat.toDigits 16 n

def dashed (hex : List Char) : List Char :=
  hex.take 8 ++ '-' :: ((hex.drop 8).take 4 ++ '-' :: ((hex.drop 12).take 4 ++
    '-' :: ((hex.drop 16).take 4 ++ '-' :: hex.drop 20)))

def uuidText (n : Nat) : String := String.ofList (dashed (hexDigits n))

/-! ## Digits -/

def hexValue (c : Char) : Nat :=
  if c.isDigit then c.toNat - 48 else c.toNat - 87

def ofHex (cs : List Char) : Nat := cs.foldl (fun n c => 16 * n + hexValue c) 0

theorem hexValue_digitChar {d : Nat} (h : d < 16) : hexValue d.digitChar = d := by
  have hall : ∀ d < 16, hexValue (Nat.digitChar d) = d := by decide
  exact hall d h

theorem ofHex_concat (cs : List Char) (c : Char) :
    ofHex (cs ++ [c]) = 16 * ofHex cs + hexValue c := by
  unfold ofHex
  rw [List.foldl_append, List.foldl_cons, List.foldl_nil]

theorem ofHex_toDigits (n : Nat) : ofHex (Nat.toDigits 16 n) = n := by
  induction n using Nat.strongRecOn with
  | ind n ih =>
    rw [Nat.toDigits_eq_if (by decide)]
    split
    · next hsmall =>
      show 16 * 0 + hexValue n.digitChar = n
      rw [hexValue_digitChar hsmall]
      omega
    · next hbig =>
      rw [ofHex_concat, ih (n / 16) (by omega), hexValue_digitChar (by omega)]
      omega

theorem ofHex_zeros (k : Nat) (cs : List Char) : ofHex (List.replicate k '0' ++ cs) = ofHex cs := by
  induction k with
  | zero => rfl
  | succ k ih => exact ih

theorem ofHex_hexDigits (n : Nat) : ofHex (hexDigits n) = n := by
  unfold hexDigits
  rw [ofHex_zeros, ofHex_toDigits]

theorem digitChar_plain {d : Nat} (h : d < 16) :
    d.digitChar ≠ '-' ∧ d.digitChar ≠ ':' ∧ isSpace d.digitChar = false := by
  have hall : ∀ d < 16, Nat.digitChar d ≠ '-' ∧ Nat.digitChar d ≠ ':' ∧
      isSpace (Nat.digitChar d) = false := by decide
  exact hall d h

theorem plain_of_mem_toDigits {n : Nat} {c : Char} (h : c ∈ Nat.toDigits 16 n) :
    c ≠ '-' ∧ c ≠ ':' ∧ isSpace c = false := by
  induction n using Nat.strongRecOn with
  | ind n ih =>
    rw [Nat.toDigits_eq_if (by decide)] at h
    split at h
    · next hsmall =>
      rw [List.mem_singleton.mp h]
      exact digitChar_plain hsmall
    · next hbig =>
      rcases List.mem_append.mp h with h | h
      · exact ih (n / 16) (by omega) h
      · rw [List.mem_singleton.mp h]
        exact digitChar_plain (by omega)

theorem plain_of_mem_hexDigits {n : Nat} {c : Char} (h : c ∈ hexDigits n) :
    c ≠ '-' ∧ c ≠ ':' ∧ isSpace c = false := by
  rcases List.mem_append.mp h with h | h
  · rw [(List.mem_replicate.mp h).2]
    decide
  · exact plain_of_mem_toDigits h

theorem length_hexDigits (n : Nat) : 32 ≤ (hexDigits n).length := by
  unfold hexDigits
  rw [List.length_append, List.length_replicate]
  omega

/-! ## Dashes -/

/-- Without its dashes a text is its digits. -/
theorem filter_dashed {hex : List Char} (h : '-' ∉ hex) :
    (dashed hex).filter (· ≠ '-') = hex := by
  have hpart : ∀ l : List Char, (∀ c ∈ l, c ∈ hex) → l.filter (· ≠ '-') = l := by
    intro l hl
    refine List.filter_eq_self.mpr fun c hc => decide_eq_true ?_
    rintro rfl
    exact h (hl _ hc)
  have hdrop : ∀ k, ∀ c ∈ hex.drop k, c ∈ hex := fun k c hc => List.mem_of_mem_drop hc
  have htake : ∀ k m, ∀ c ∈ (hex.drop k).take m, c ∈ hex :=
    fun k m c hc => hdrop k c (List.mem_of_mem_take hc)
  have hdash : decide (('-' : Char) ≠ '-') = false := by decide
  unfold dashed
  simp only [List.filter_append, List.filter_cons, hdash, Bool.false_eq_true, if_false]
  rw [hpart _ fun c hc => List.mem_of_mem_take hc, hpart _ (htake 8 4), hpart _ (htake 12 4),
    hpart _ (htake 16 4), hpart _ (hdrop 20)]
  have hsplit : ∀ k, (hex.drop k).take 4 ++ hex.drop (k + 4) = hex.drop k := by
    intro k
    rw [← List.drop_drop]
    exact List.take_append_drop 4 _
  rw [hsplit 16, hsplit 12, hsplit 8]
  exact List.take_append_drop 8 hex

theorem dash_not_mem_hexDigits (n : Nat) : '-' ∉ hexDigits n :=
  fun h => (plain_of_mem_hexDigits h).1 rfl

theorem uuidText_injective : Function.Injective uuidText := by
  intro m n h
  have hlists : dashed (hexDigits m) = dashed (hexDigits n) := by
    simpa [uuidText] using congrArg String.toList h
  have hdigits := congrArg (List.filter (· ≠ '-')) hlists
  rw [filter_dashed (dash_not_mem_hexDigits m), filter_dashed (dash_not_mem_hexDigits n)] at hdigits
  rw [← ofHex_hexDigits m, hdigits, ofHex_hexDigits]

theorem mem_dashed {hex : List Char} {c : Char} (h : c ∈ dashed hex) : c = '-' ∨ c ∈ hex := by
  unfold dashed at h
  simp only [List.mem_append, List.mem_cons] at h
  rcases h with h | h | h | h | h | h | h | h | h
  · exact .inr (List.mem_of_mem_take h)
  · exact .inl h
  · exact .inr (List.mem_of_mem_drop (List.mem_of_mem_take h))
  · exact .inl h
  · exact .inr (List.mem_of_mem_drop (List.mem_of_mem_take h))
  · exact .inl h
  · exact .inr (List.mem_of_mem_drop (List.mem_of_mem_take h))
  · exact .inl h
  · exact .inr (List.mem_of_mem_drop h)

theorem uuidText_plain (n : Nat) :
    ∀ c ∈ (uuidText n).toList, c ≠ ':' ∧ isSpace c = false := by
  intro c hc
  rw [uuidText, String.toList_ofList] at hc
  rcases mem_dashed hc with rfl | hc
  · decide
  · exact (plain_of_mem_hexDigits hc).2

theorem uuidText_ne_empty (n : Nat) : uuidText n ≠ "" := by
  intro h
  have hnil : dashed (hexDigits n) = [] := by
    simpa [uuidText] using congrArg String.toList h
  have hlength := congrArg List.length hnil
  unfold dashed at hlength
  simp at hlength

/-- The dashes are not where a number has its sign. -/
theorem count_dash_uuidText (n : Nat) : (uuidText n).toList.count '-' = 4 := by
  have hnone : ∀ l : List Char, (∀ c ∈ l, c ∈ hexDigits n) → l.count '-' = 0 :=
    fun l hl => List.count_eq_zero.mpr fun h => dash_not_mem_hexDigits n (hl _ h)
  have htake : ∀ k m, ∀ c ∈ ((hexDigits n).drop k).take m, c ∈ hexDigits n :=
    fun k m c hc => List.mem_of_mem_drop (List.mem_of_mem_take hc)
  rw [uuidText, String.toList_ofList]
  unfold dashed
  simp only [List.count_append, List.count_cons_self]
  rw [hnone _ fun c hc => List.mem_of_mem_take hc, hnone _ (htake 8 4), hnone _ (htake 12 4),
    hnone _ (htake 16 4), hnone _ fun c hc => List.mem_of_mem_drop hc]

theorem strip_uuidText (n : Nat) : strip (uuidText n) = uuidText n := by
  rw [strip, stripChars_eq_self fun c hc => (uuidText_plain n c hc).2, String.ofList_toList]

example : uuidText 0x12345678123456781234567812345678 =
    "12345678-1234-5678-1234-567812345678" := by decide +kernel

end BackupCenter.Lib
