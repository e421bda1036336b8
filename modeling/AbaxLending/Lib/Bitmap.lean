import Mathlib.Tactic

/-!
Bitmaps: setting, clearing and testing one bit of a word by shifts.

The three idioms are `x ||| 1 <<< k`, `x &&& ~~~(1 <<< k)` and
`(x >>> k) &&& 1 = 1`; `getLsbD` is the bit they speak about.  `x &&& 1 <<< k = 1` looks like
the last one and tests bit `0` (`and_mask_eq_one`).
-/

namespace Bitmap

variable {w : ℕ}

/-- The mask `1 <<< k` has bit `k` and no other. -/
lemma getLsbD_mask (k j : ℕ) : (1#w <<< k).getLsbD j = decide (j < w ∧ j = k) := by
  rw [BitVec.getLsbD_shiftLeft, BitVec.getLsbD_one]
  rcases Nat.lt_trichotomy j k with h | h | h
  · simp [h, show j ≠ k by omega]
  · simp [h]
    omega
  · simp [show ¬j < k by omega, show j - k ≠ 0 by omega, show j ≠ k by omega]

/-- Setting bit `k` sets bit `k` and keeps the others. -/
lemma getLsbD_set (x : BitVec w) (k j : ℕ) :
    (x ||| 1#w <<< k).getLsbD j = (x.getLsbD j || decide (j < w ∧ j = k)) := by
  rw [BitVec.getLsbD_or, getLsbD_mask]

/-- Clearing bit `k` clears bit `k` and keeps the others. -/
lemma getLsbD_clear (x : BitVec w) (k j : ℕ) :
    (x &&& ~~~(1#w <<< k)).getLsbD j = (x.getLsbD j && decide (j ≠ k)) := by
  rw [BitVec.getLsbD_and, BitVec.getLsbD_not, getLsbD_mask]
  by_cases hj : j < w
  · simp [hj]
  · simp [BitVec.getLsbD_of_ge x j (by omega)]

/-- The shift test reads bit `k`. -/
lemma shift_and_one_eq (x : BitVec w) (hw : 0 < w) (k : ℕ) :
    (x >>> k) &&& 1#w = 1#w ↔ x.getLsbD k = true := by
  constructor
  · intro h
    have h0 := congrArg (fun y : BitVec w => y.getLsbD 0) h
    simpa [BitVec.getLsbD_and, BitVec.getLsbD_ushiftRight, BitVec.getLsbD_one, hw] using h0
  · intro h
    apply BitVec.eq_of_getLsbD_eq
    intro i hi
    by_cases h0 : i = 0
    · subst h0
      simp [h, hw]
    · simp [BitVec.getLsbD_and, BitVec.getLsbD_one, h0]

/-- A mask compared with `1` tests bit `0` only. -/
lemma and_mask_eq_one (x : BitVec w) (hw : 0 < w) (k : ℕ) :
    x &&& 1#w <<< k = 1#w ↔ k = 0 ∧ x.getLsbD 0 = true := by
  constructor
  · intro h
    have h0 := congrArg (fun y : BitVec w => y.getLsbD 0) h
    simp only [BitVec.getLsbD_and, getLsbD_mask, BitVec.getLsbD_one, hw, decide_true,
      Bool.and_true, Bool.and_eq_true, decide_eq_true_eq] at h0
    exact ⟨h0.2.2.symm, h0.1⟩
  · rintro ⟨rfl, h⟩
    apply BitVec.eq_of_getLsbD_eq
    intro i hi
    rw [BitVec.getLsbD_and, getLsbD_mask, BitVec.getLsbD_one]
    by_cases h0 : i = 0
    · subst h0
      simp [h, hw]
    · simp [h0, hw]

/-- Without bit `k` the shift test reads zero. -/
lemma shift_and_one_eq_zero (x : BitVec w) (hw : 0 < w) (k : ℕ) (h : x.getLsbD k = false) :
    (x >>> k) &&& 1#w = 0#w := by
  apply BitVec.eq_of_getLsbD_eq
  intro i hi
  by_cases h0 : i = 0
  · subst h0
    simp [h, hw]
  · simp [BitVec.getLsbD_and, BitVec.getLsbD_one, h0]

/-- A shifted word is zero when no bit is left at or above the shift. -/
lemma shift_eq_zero_iff (x : BitVec w) (k : ℕ) :
    x >>> k = 0#w ↔ ∀ j, k ≤ j → x.getLsbD j = false := by
  constructor
  · intro h j hj
    have h0 := congrArg (fun y : BitVec w => y.getLsbD (j - k)) h
    simpa [BitVec.getLsbD_ushiftRight, Nat.add_sub_cancel' hj] using h0
  · intro h
    apply BitVec.eq_of_getLsbD_eq
    intro i _
    simpa [BitVec.getLsbD_ushiftRight] using h (k + i) (by omega)

end Bitmap
