import AbaxLending.Spec.Power
import AbaxLending.Spec.Views

/-!
The lending power as a sum.

`calculate_lending_power_e6` walks the ids, skips the assets without an active bit and stops
after the last one.  What it returns is a pair of sums over all ids: of the weighed values of
the active collaterals, and of the weighed values of the borrowed assets.

* `weighedE6`: the value of an amount in the unit of the power, rounded down twice;
* `Appraisal`: what the loop reads besides the storage; `part` of an asset in a side;
* `Appraisable`: what the loop needs of an asset with an active bit;
* `addAssetPower_eq_ok`: what one asset adds, exactly;
* `lendingPowerLoop_stop`, `lendingPowerLoop_skip`, `lendingPowerLoop_add`: what a pass of the
  loop does;
* `lendingPowerLoop_eq_ok`: the whole loop, exactly;
* `calculateLendingPowerE6_eq_ok`: when the check returns, and the two sums it compares;
* `calculateLendingPowerOfAnAccountE6_rulesCover`: a check that returns found all coefficients.
-/

namespace AbaxLending

open Outcome

/-- The coefficient of a side in the rules of an asset. -/
def Side.coefficientE6 : Side → AssetRules → Option ℕ
  | .deposit => AssetRules.collateralCoefficientE6
  | .debt => AssetRules.borrowCoefficientE6

/-- The power of an amount: the value is rounded down to `e8`, and then once more when it is
weighed with the coefficient. -/
def weighedE6 (amount priceE18 decimalMultiplier coefficientE6 : ℕ) : ℕ :=
  amount * priceE18 / (decimalMultiplier * E10) * coefficientE6 / E8

lemma weighedE6_mono {amount amount' : ℕ} (h : amount ≤ amount')
    (priceE18 decimalMultiplier coefficientE6 : ℕ) :
    weighedE6 amount priceE18 decimalMultiplier coefficientE6
      ≤ weighedE6 amount' priceE18 decimalMultiplier coefficientE6 := by
  have hvalue : amount * priceE18 / (decimalMultiplier * E10)
      ≤ amount' * priceE18 / (decimalMultiplier * E10) :=
    Nat.div_le_div_right (Nat.mul_le_mul_right _ h)
  exact Nat.div_le_div_right (Nat.mul_le_mul_right _ hvalue)

@[simp] lemma weighedE6_zero (priceE18 decimalMultiplier coefficientE6 : ℕ) :
    weighedE6 0 priceE18 decimalMultiplier coefficientE6 = 0 := by
  simp [weighedE6]

/-- The power of an amount is computed without an overflow. -/
structure Weighable (amount priceE18 decimalMultiplier coefficientE6 : ℕ) : Prop where
  positive : 0 < decimalMultiplier * E10
  denominator : decimalMultiplier * E10 < 2 ^ 128
  value : amount * priceE18 / (decimalMultiplier * E10) < 2 ^ 128
  power : weighedE6 amount priceE18 decimalMultiplier coefficientE6 < 2 ^ 128

/-- A smaller amount is computed as well. -/
lemma Weighable.anti {amount amount' priceE18 decimalMultiplier coefficientE6 : ℕ}
    (h : Weighable amount' priceE18 decimalMultiplier coefficientE6) (hle : amount ≤ amount') :
    Weighable amount priceE18 decimalMultiplier coefficientE6 where
  positive := h.positive
  denominator := h.denominator
  value := (Nat.div_le_div_right (Nat.mul_le_mul_right _ hle)).trans_lt h.value
  power := (weighedE6_mono hle _ _ _).trans_lt h.power

/-- The value of an amount. -/
lemma calculateAssetAmountValueE8_eq_ok [Pendzl] {amount priceE18 multiplier value : ℕ} :
    calculateAssetAmountValueE8 amount priceE18 multiplier = .ok value
      ↔ 0 < multiplier * E10 ∧ multiplier * E10 < 2 ^ 128
        ∧ value = amount * priceE18 / (multiplier * E10) ∧ value < 2 ^ 128 := by
  simp only [calculateAssetAmountValueE8, bind_eq_ok, unwrap_eq_ok, checkedMul_eq_some]
  constructor
  · rintro ⟨d, ⟨rfl, hd⟩, h⟩
    split at h
    · cases h
      obtain ⟨hpos, hv, hlt⟩ := mulDiv_eq_ok.mp ‹_›
      exact ⟨hpos, hd, hv, hlt⟩
    · cases h
  · rintro ⟨hpos, hd, hv, hlt⟩
    refine ⟨_, ⟨rfl, hd⟩, ?_⟩
    rw [mulDiv_eq_ok.mpr ⟨hpos, hv, hlt⟩]

/-- **One weighing**, exactly. -/
lemma addLendingPower_eq_ok [Pendzl] {power amount priceE18 multiplier power' : ℕ}
    {coefficientE6 : Option ℕ} {disabled : LendingPoolError} :
    addLendingPower power amount priceE18 multiplier coefficientE6 disabled = .ok power'
      ↔ coefficientE6.isSome = true
        ∧ Weighable amount priceE18 multiplier (coefficientE6.getD 0)
        ∧ power' = power + weighedE6 amount priceE18 multiplier (coefficientE6.getD 0)
        ∧ power' < 2 ^ 128 := by
  simp only [addLendingPower, bind_eq_ok, okOr_eq_ok, calculateAssetAmountValueE8_eq_ok,
    e8MulE6ToE6Rdown, mulDiv_eq_ok, checkedAdd_eq_some, exactDiv]
  constructor
  · rintro ⟨v, ⟨hpos, hd, rfl, hv⟩, coefficient, rfl, w, ⟨-, rfl, hw⟩, rfl, hsum⟩
    exact ⟨rfl, ⟨hpos, hd, hv, hw⟩, rfl, hsum⟩
  · rintro ⟨hsome, h, rfl, hsum⟩
    obtain ⟨coefficient, rfl⟩ := Option.isSome_iff_exists.mp hsome
    exact ⟨_, ⟨h.positive, h.denominator, rfl, h.value⟩, coefficient, rfl, _,
      ⟨by norm_num, rfl, h.power⟩, rfl, hsum⟩

/-- What the loop of `calculate_lending_power_e6` reads besides the storage. -/
structure Appraisal where
  rule : MarketRule
  collaterals : Bitmap128
  debts : Bitmap128
  datas : List (Option AccountReserveData)
  reductions : FeeReductions
  prices : List ℕ

namespace Appraisal

/-- The bits of the assets that count on a side. -/
def bits (c : Appraisal) : Side → Bitmap128
  | .deposit => c.collaterals
  | .debt => c.debts

/-- The bits of the assets that the loop looks at. -/
def active (c : Appraisal) : Bitmap128 := c.collaterals ||| c.debts

lemma active_bit {c : Appraisal} {k : ℕ} :
    c.active.getLsbD k = true ↔ ∃ side, (c.bits side).getLsbD k = true := by
  rw [active, BitVec.getLsbD_or, Bool.or_eq_true]
  constructor
  · rintro (h | h)
    · exact ⟨.deposit, h⟩
    · exact ⟨.debt, h⟩
  · rintro ⟨side, h⟩
    cases side with
    | deposit => exact .inl h
    | debt => exact .inr h

lemma shiftRight_active (c : Appraisal) {k : ℕ} (hk : k < 128) :
    shiftRight (c.collaterals ||| c.debts) k = .ok (c.active >>> k) :=
  shiftRight_eq_ok.mpr ⟨hk, rfl⟩

lemma shift_ne_zero (c : Appraisal) {k : ℕ} (hbit : c.active.getLsbD k = true) :
    c.active >>> k ≠ 0#128 := by
  intro hzero
  rw [(Bitmap.shift_eq_zero_iff _ k).mp hzero k le_rfl] at hbit
  cases hbit

lemma shift_test (c : Appraisal) {k : ℕ} (hbit : c.active.getLsbD k = true) :
    c.active >>> k &&& 1#128 ≠ 0#128 := by
  rw [(Bitmap.shift_and_one_eq _ (by norm_num) k).mpr hbit]
  decide

/-- The coefficient of an asset on a side. -/
def coefficient (c : Appraisal) (side : Side) (k : ℕ) : Option ℕ :=
  c.rule[k]?.join.bind side.coefficientE6

/-- The ids from `k` on, `left` of them, are looked at without a shift by 128: there is no such
id, or the loop stops before it because the last bit is clear. -/
def InWord (c : Appraisal) (left k : ℕ) : Prop :=
  left = 0 ∨ k + left ≤ 128 ∨ k < 128 ∧ c.active.getLsbD 127 = false

lemma inWord_succ {c : Appraisal} {left k : ℕ} (hk : k < 128) (hne : c.active >>> k ≠ 0#128) :
    c.InWord (left + 1) k ↔ c.InWord left (k + 1) := by
  simp only [InWord]
  constructor
  · rintro (h | h | ⟨-, hlast⟩)
    · omega
    · exact .inr (.inl (by omega))
    · refine .inr (.inr ⟨?_, hlast⟩)
      -- at the last bit the loop would have stopped
      by_contra hk'
      have hk127 : k = 127 := by omega
      refine hne ((Bitmap.shift_eq_zero_iff _ k).mpr fun j hj => ?_)
      by_cases hj' : j = 127
      · rw [hj']
        exact hlast
      · exact BitVec.getLsbD_of_ge _ _ (by omega)
  · rintro (h | h | ⟨-, hlast⟩)
    · exact .inr (.inl (by omega))
    · exact .inr (.inl (by omega))
    · exact .inr (.inr ⟨hk, hlast⟩)

end Appraisal

namespace LendingPoolStorage

variable (s : LendingPoolStorage) (c : Appraisal)

/-- The power of an amount of an asset on a side. -/
def weigh (side : Side) (k amount : ℕ) : ℕ :=
  weighedE6 amount (c.prices[k]?.getD 0) ((s.reserveDecimalMultiplier.get k).getD 0)
    ((c.coefficient side k).getD 0)

/-- The power of an amount of an asset can be computed: the price, the multiplier and the
coefficient are there, and the values fit. -/
structure CanWeigh (side : Side) (k amount : ℕ) : Prop where
  price : c.prices[k]?.isSome = true
  multiplier : (s.reserveDecimalMultiplier.get k).isSome = true
  coefficient : (c.coefficient side k).isSome = true
  weighable : Weighable amount (c.prices[k]?.getD 0) ((s.reserveDecimalMultiplier.get k).getD 0)
    ((c.coefficient side k).getD 0)

variable [Pendzl]

/-- The entry of an asset with the interest that the check accrues. -/
def accruedEntry (k : ℕ) : AccountReserveData :=
  (c.datas[k]?.join.bind fun data => (s.reserveIndexesAndFees.get k).bind fun r =>
    (data.accumulateAccountInterest r.indexes r.fees c.reductions).toOption.map
      Accrual.data).getD default

/-- What an asset adds to a side of the power. -/
def part (side : Side) (k : ℕ) : ℕ :=
  if (c.bits side).getLsbD k then s.weigh c side k (side.amount (s.accruedEntry c k)) else 0

/-- The power of a side: the sum over all ids. -/
def power (side : Side) : ℕ := ∑ k ∈ Finset.range s.assetCount, s.part c side k

/-- What the loop needs of an entry with an active bit: the accrual and both weighings. -/
structure Appraisable (k : ℕ) (data : AccountReserveData) : Prop where
  accrues : ∃ r a, s.reserveIndexesAndFees.get k = some r
    ∧ data.accumulateAccountInterest r.indexes r.fees c.reductions = .ok a
  weighs : ∀ side, (c.bits side).getLsbD k = true →
    s.CanWeigh c side k (side.amount (s.accruedEntry c k))

variable {s c} {k : ℕ}

lemma accruedEntry_of_ok {data : AccountReserveData} {r : ReserveIndexesAndFees} {a : Accrual}
    (hdata : c.datas[k]?.join = some data) (hr : s.reserveIndexesAndFees.get k = some r)
    (ha : data.accumulateAccountInterest r.indexes r.fees c.reductions = .ok a) :
    s.accruedEntry c k = a.data := by
  rw [accruedEntry, hdata, Option.bind_some, hr, Option.bind_some, ha]
  rfl

lemma accruedEntry_of_none (hdata : c.datas[k]?.join = none) : s.accruedEntry c k = default := by
  rw [accruedEntry, hdata]
  rfl

/-- An asset without its bit adds nothing. -/
lemma part_of_clear {side : Side} (h : (c.bits side).getLsbD k = false) :
    s.part c side k = 0 := if_neg (by simp [h])

lemma part_of_inactive (h : c.active.getLsbD k = false) (side : Side) : s.part c side k = 0 := by
  refine part_of_clear (Bool.eq_false_iff.mpr fun hbit => ?_)
  rw [Appraisal.active_bit.mpr ⟨side, hbit⟩] at h
  cases h

/-- An asset without an entry adds nothing. -/
lemma part_of_none {side : Side} (h : c.datas[k]?.join = none) : s.part c side k = 0 := by
  have hzero : side.amount (s.accruedEntry c k) = 0 := by
    rw [accruedEntry_of_none h, side.amount_default]
  rw [part, hzero, weigh, weighedE6_zero, ite_self]

/-! ### One asset -/

/-- One side of an asset, exactly. -/
lemma addSidePower_eq_ok (side : Side) {amount power power' : ℕ} {disabled : LendingPoolError}
    (hk : k < 128) :
    s.addSidePower (c.bits side) c.prices k amount (c.coefficient side k) disabled power
        = .ok power'
      ↔ ((c.bits side).getLsbD k = true → s.CanWeigh c side k amount ∧ power' < 2 ^ 128)
        ∧ power' = power
          + if (c.bits side).getLsbD k then s.weigh c side k amount else 0 := by
  have hshift : shiftRight (c.bits side) k = .ok (c.bits side >>> k) :=
    shiftRight_eq_ok.mpr ⟨hk, rfl⟩
  rw [addSidePower, hshift, ok_bind]
  cases hbit : (c.bits side).getLsbD k with
  | false =>
      rw [if_neg fun h => by simp [(shiftRight_test hshift).mp h] at hbit]
      simp [eq_comm]
  | true =>
      rw [if_pos ((shiftRight_test hshift).mpr hbit)]
      simp only [getDecimalMultiplier, bind_eq_ok, unwrap_eq_ok, addLendingPower_eq_ok,
        forall_const, if_true]
      constructor
      · rintro ⟨price, hprice, multiplier, hmultiplier, hsome, hw, rfl, hlt⟩
        refine ⟨⟨⟨by simp [hprice], by simp [hmultiplier], hsome, ?_⟩, hlt⟩, ?_⟩
        · simpa [hprice, hmultiplier] using hw
        · simp [weigh, hprice, hmultiplier]
      · rintro ⟨⟨hw, hlt⟩, rfl⟩
        obtain ⟨price, hprice⟩ := Option.isSome_iff_exists.mp hw.price
        obtain ⟨multiplier, hmultiplier⟩ := Option.isSome_iff_exists.mp hw.multiplier
        have hweighable := hw.weighable
        rw [weigh, hprice, hmultiplier] at hlt ⊢
        rw [hprice, hmultiplier] at hweighable
        exact ⟨price, rfl, multiplier, rfl, hw.coefficient, hweighable, rfl, hlt⟩

/-- **One pass of the loop**, exactly: an asset adds its parts to both powers. -/
lemma addAssetPower_eq_ok {data : AccountReserveData} {powers powers' : ℕ × ℕ} (hk : k < 128)
    (hdata : c.datas[k]?.join = some data) (h₁ : powers.1 < 2 ^ 128) (h₂ : powers.2 < 2 ^ 128) :
    s.addAssetPower c.rule c.collaterals c.debts c.reductions c.prices k data powers = .ok powers'
      ↔ s.Appraisable c k data
        ∧ powers' = (powers.1 + s.part c .deposit k, powers.2 + s.part c .debt k)
        ∧ powers'.1 < 2 ^ 128 ∧ powers'.2 < 2 ^ 128 := by
  simp only [addAssetPower, getReserveIndexesAndFees, bind_eq_ok, unwrap_eq_ok, pure_eq,
    Except.ok.injEq]
  constructor
  · rintro ⟨r, hr, a, ha, p, hp, q, hq, rfl⟩
    have hentry := accruedEntry_of_ok hdata hr ha
    obtain ⟨hwp, hp⟩ := (addSidePower_eq_ok (s := s) (c := c) .deposit hk).mp hp
    obtain ⟨hwq, hq⟩ := (addSidePower_eq_ok (s := s) (c := c) .debt hk).mp hq
    refine ⟨⟨⟨r, a, hr, ha⟩, fun side hbit => ?_⟩, ?_, ?_, ?_⟩
    · rw [hentry]
      cases side with
      | deposit => exact (hwp hbit).1
      | debt => exact (hwq hbit).1
    · rw [part, part, hentry]
      exact Prod.ext hp hq
    · cases hbit : (c.bits .deposit).getLsbD k with
      | true => exact (hwp hbit).2
      | false =>
          rw [hbit] at hp
          exact (hp.trans (Nat.add_zero _)).trans_lt h₁
    · cases hbit : (c.bits .debt).getLsbD k with
      | true => exact (hwq hbit).2
      | false =>
          rw [hbit] at hq
          exact (hq.trans (Nat.add_zero _)).trans_lt h₂
  · rintro ⟨happ, rfl, hlt₁, hlt₂⟩
    obtain ⟨r, a, hr, ha⟩ := happ.accrues
    have hentry := accruedEntry_of_ok hdata hr ha
    have hweighs := happ.weighs
    rw [hentry] at hweighs
    refine ⟨r, hr, a, ha, powers.1 + s.part c .deposit k, ?_, powers.2 + s.part c .debt k, ?_, rfl⟩
    · refine (addSidePower_eq_ok (s := s) (c := c) .deposit hk).mpr
        ⟨fun hbit => ⟨hweighs .deposit hbit, hlt₁⟩, ?_⟩
      rw [part, hentry]
      rfl
    · refine (addSidePower_eq_ok (s := s) (c := c) .debt hk).mpr
        ⟨fun hbit => ⟨hweighs .debt hbit, hlt₂⟩, ?_⟩
      rw [part, hentry]
      rfl

/-! ### The loop -/

variable (s c) in
/-- What the loop needs of an id: where its bit is active the vector reaches to it, and an
entry there can be appraised. -/
def Appraises (k : ℕ) : Prop :=
  c.active.getLsbD k = true → k < c.datas.length
    ∧ ∀ data, c.datas[k]?.join = some data → s.Appraisable c k data

/-- An id without its bit needs nothing. -/
lemma appraises_of_inactive (hbit : c.active.getLsbD k = false) : s.Appraises c k := by
  intro h
  rw [hbit] at h
  cases h

/-- An id without an entry needs a vector that reaches to it. -/
lemma appraises_of_none (hlen : k < c.datas.length) (h : c.datas[k]?.join = none) :
    s.Appraises c k := by
  refine fun _ => ⟨hlen, fun data hdata => ?_⟩
  rw [h] at hdata
  cases hdata

lemma appraises_of_some {data : AccountReserveData} (hbit : c.active.getLsbD k = true)
    (hlen : k < c.datas.length) (hdata : c.datas[k]?.join = some data) :
    s.Appraises c k ↔ s.Appraisable c k data := by
  constructor
  · exact fun h => (h hbit).2 data hdata
  · intro h _
    refine ⟨hlen, fun data' hdata' => ?_⟩
    rw [hdata, Option.some.injEq] at hdata'
    exact hdata' ▸ h

omit [Pendzl] in
/-- The first id of a sum. -/
lemma sum_Ico_head (f : ℕ → ℕ) (k left : ℕ) :
    ∑ j ∈ Finset.Ico k (k + (left + 1)), f j
      = f k + ∑ j ∈ Finset.Ico (k + 1) (k + 1 + left), f j := by
  have hend : k + (left + 1) = k + 1 + left := by omega
  rw [Finset.sum_eq_sum_Ico_succ_bot (by omega), hend]

omit [Pendzl] in
/-- What holds from an id on holds at it and from the next one on. -/
lemma forall_from {P : ℕ → Prop} {left : ℕ} :
    (∀ j, k ≤ j → j < k + (left + 1) → P j)
      ↔ P k ∧ ∀ j, k + 1 ≤ j → j < k + 1 + left → P j := by
  constructor
  · intro h
    exact ⟨h k le_rfl (by omega), fun j hj hlt => h j (by omega) (by omega)⟩
  · rintro ⟨hk, hrest⟩ j hj hlt
    rcases hj.eq_or_lt with rfl | hlt'
    · exact hk
    · exact hrest j hlt' (by omega)

/-! What a pass of the loop does with an id, by its bit and its entry. -/

/-- An id that has no bit in the word traps. -/
lemma lendingPowerLoop_outside {left : ℕ} {powers powers' : ℕ × ℕ} (hk : ¬k < 128) :
    s.lendingPowerLoop c.rule c.collaterals c.debts c.datas c.reductions c.prices (left + 1) k
      powers ≠ .ok powers' := by
  intro h
  simp only [lendingPowerLoop, bind_eq_ok, shiftRight_eq_ok] at h
  obtain ⟨_, ⟨hk', -⟩, -⟩ := h
  exact hk hk'

/-- The loop stops where no bit is left. -/
lemma lendingPowerLoop_stop {left : ℕ} {powers : ℕ × ℕ} (hk : k < 128)
    (hzero : c.active >>> k = 0#128) :
    s.lendingPowerLoop c.rule c.collaterals c.debts c.datas c.reductions c.prices (left + 1) k
      powers = .ok powers := by
  rw [lendingPowerLoop, c.shiftRight_active hk, ok_bind, if_pos hzero]
  rfl

/-- The loop skips an id without its bit. -/
lemma lendingPowerLoop_skip {left : ℕ} {powers : ℕ × ℕ} (hk : k < 128)
    (hne : c.active >>> k ≠ 0#128) (hbit : c.active.getLsbD k = false) :
    s.lendingPowerLoop c.rule c.collaterals c.debts c.datas c.reductions c.prices (left + 1) k
        powers
      = s.lendingPowerLoop c.rule c.collaterals c.debts c.datas c.reductions c.prices left (k + 1)
        powers := by
  have htest : c.active >>> k &&& 1#128 = 0#128 :=
    Bitmap.shift_and_one_eq_zero _ (by norm_num) k hbit
  rw [lendingPowerLoop, c.shiftRight_active hk, ok_bind, if_neg hne, if_pos htest]

/-- An active id that the vector does not reach to traps. -/
lemma lendingPowerLoop_beyond {left : ℕ} {powers : ℕ × ℕ} (hk : k < 128)
    (hbit : c.active.getLsbD k = true) (hentry : c.datas[k]? = none) :
    s.lendingPowerLoop c.rule c.collaterals c.debts c.datas c.reductions c.prices (left + 1) k
      powers = .error .trap := by
  simp only [lendingPowerLoop, c.shiftRight_active hk, ok_bind, c.shift_ne_zero hbit,
    c.shift_test hbit, if_false, hentry, unwrap, error_bind]

/-- The loop skips an active id without an entry. -/
lemma lendingPowerLoop_empty {left : ℕ} {powers : ℕ × ℕ} (hk : k < 128)
    (hbit : c.active.getLsbD k = true) (hentry : c.datas[k]? = some none) :
    s.lendingPowerLoop c.rule c.collaterals c.debts c.datas c.reductions c.prices (left + 1) k
        powers
      = s.lendingPowerLoop c.rule c.collaterals c.debts c.datas c.reductions c.prices left (k + 1)
        powers := by
  simp only [lendingPowerLoop, c.shiftRight_active hk, ok_bind, c.shift_ne_zero hbit,
    c.shift_test hbit, if_false, hentry, unwrap]

/-- The loop adds the powers of an active entry. -/
lemma lendingPowerLoop_add {left : ℕ} {powers : ℕ × ℕ} {data : AccountReserveData} (hk : k < 128)
    (hbit : c.active.getLsbD k = true) (hentry : c.datas[k]? = some (some data)) :
    s.lendingPowerLoop c.rule c.collaterals c.debts c.datas c.reductions c.prices (left + 1) k
        powers
      = s.addAssetPower c.rule c.collaterals c.debts c.reductions c.prices k data powers >>=
        s.lendingPowerLoop c.rule c.collaterals c.debts c.datas c.reductions c.prices left
          (k + 1) := by
  simp only [lendingPowerLoop, c.shiftRight_active hk, ok_bind, c.shift_ne_zero hbit,
    c.shift_test hbit, if_false, hentry, unwrap]

/-- **The loop adds the parts of all ids**, and returns exactly when every active entry can be
appraised, both sums fit, and no id is shifted by that has no bit. -/
theorem lendingPowerLoop_eq_ok {left : ℕ} {powers powers' : ℕ × ℕ} (h₁ : powers.1 < 2 ^ 128)
    (h₂ : powers.2 < 2 ^ 128) :
    s.lendingPowerLoop c.rule c.collaterals c.debts c.datas c.reductions c.prices left k powers
        = .ok powers'
      ↔ c.InWord left k ∧ (∀ j, k ≤ j → j < k + left → s.Appraises c j)
        ∧ powers' = (powers.1 + ∑ j ∈ Finset.Ico k (k + left), s.part c .deposit j,
          powers.2 + ∑ j ∈ Finset.Ico k (k + left), s.part c .debt j)
        ∧ powers'.1 < 2 ^ 128 ∧ powers'.2 < 2 ^ 128 := by
  induction left generalizing k powers with
  | zero =>
      simp only [lendingPowerLoop, Except.ok.injEq, Appraisal.InWord, true_or, true_and,
        Nat.add_zero, Finset.Ico_self, Finset.sum_empty]
      constructor
      · rintro rfl
        exact ⟨fun j hj hlt => absurd hj (not_le.mpr hlt), rfl, h₁, h₂⟩
      · exact fun h => h.2.1.symm
  | succ left ih =>
      by_cases hk : k < 128
      swap
      · refine iff_of_false (lendingPowerLoop_outside hk) fun h => ?_
        rcases h.1 with h | h | h <;> omega
      rw [forall_from, sum_Ico_head, sum_Ico_head]
      by_cases hzero : c.active >>> k = 0#128
      · -- no id from here on has a bit
        have hclear := (Bitmap.shift_eq_zero_iff _ k).mp hzero
        have hsum : ∀ side, ∑ j ∈ Finset.Ico (k + 1) (k + 1 + left), s.part c side j = 0 :=
          fun side => Finset.sum_eq_zero fun j hj =>
            part_of_inactive (hclear j (by have := (Finset.mem_Ico.mp hj).1; omega)) side
        rw [lendingPowerLoop_stop hk hzero, part_of_inactive (hclear k le_rfl),
          part_of_inactive (hclear k le_rfl), hsum, hsum]
        simp only [Except.ok.injEq, Nat.add_zero]
        constructor
        · rintro rfl
          exact ⟨.inr (.inr ⟨hk, hclear 127 (by omega)⟩), ⟨appraises_of_inactive (hclear k le_rfl),
            fun j hj _ => appraises_of_inactive (hclear j (by omega))⟩, rfl, h₁, h₂⟩
        · exact fun h => h.2.2.1.symm
      · rw [Appraisal.inWord_succ hk hzero]
        cases hbit : c.active.getLsbD k with
        | false =>
            rw [lendingPowerLoop_skip hk hzero hbit, ih h₁ h₂, part_of_inactive hbit,
              part_of_inactive hbit, Nat.zero_add, Nat.zero_add]
            simp only [appraises_of_inactive hbit, true_and]
        | true =>
            cases hentry : c.datas[k]? with
            | none =>
                have hlen : ¬k < c.datas.length := not_lt.mpr (List.getElem?_eq_none_iff.mp hentry)
                rw [lendingPowerLoop_beyond hk hbit hentry]
                refine iff_of_false (fun h => by cases h) fun h => ?_
                exact hlen (h.2.1.1 hbit).1
            | some entry =>
                have hlen : k < c.datas.length := (List.getElem?_eq_some_iff.mp hentry).1
                cases entry with
                | none =>
                    -- an id without an entry adds nothing
                    have hjoin : c.datas[k]?.join = none := by rw [hentry]; rfl
                    rw [lendingPowerLoop_empty hk hbit hentry, ih h₁ h₂, part_of_none hjoin,
                      part_of_none hjoin, Nat.zero_add, Nat.zero_add]
                    simp only [appraises_of_none hlen hjoin, true_and]
                | some data =>
                    have hjoin : c.datas[k]?.join = some data := by rw [hentry]; rfl
                    rw [lendingPowerLoop_add hk hbit hentry, bind_eq_ok,
                      appraises_of_some hbit hlen hjoin]
                    constructor
                    · rintro ⟨mid, hmid, hloop⟩
                      obtain ⟨happ, rfl, hm₁, hm₂⟩ :=
                        (addAssetPower_eq_ok hk hjoin h₁ h₂).mp hmid
                      obtain ⟨hword, hrest, hsum, hlt⟩ := (ih hm₁ hm₂).mp hloop
                      exact ⟨hword, ⟨happ, hrest⟩,
                        hsum.trans (Prod.ext (Nat.add_assoc ..) (Nat.add_assoc ..)), hlt⟩
                    · rintro ⟨hword, ⟨happ, hrest⟩, hsum, hlt₁, hlt₂⟩
                      have hsum₁ := congrArg Prod.fst hsum
                      have hsum₂ := congrArg Prod.snd hsum
                      have hm₁ : powers.1 + s.part c .deposit k < 2 ^ 128 := by omega
                      have hm₂ : powers.2 + s.part c .debt k < 2 ^ 128 := by omega
                      exact ⟨_, (addAssetPower_eq_ok hk hjoin h₁ h₂).mpr
                        ⟨happ, rfl, hm₁, hm₂⟩, (ih hm₁ hm₂).mpr ⟨hword, hrest,
                          hsum.trans (Prod.ext (Nat.add_assoc ..).symm (Nat.add_assoc ..).symm),
                          hlt₁, hlt₂⟩⟩

/-! ### The check -/

omit [Pendzl] in
/-- The appraisal that `calculate_lending_power_e6` makes under a rule. -/
def appraisal (rule : MarketRule) (datas : List (Option AccountReserveData))
    (config : AccountConfig) (reductions : FeeReductions) (prices : List ℕ) : Appraisal where
  rule
  collaterals := config.deposits &&& config.collaterals
  debts := config.borrows
  datas
  reductions
  prices

/-- The appraisal returns: every id with an active bit can be appraised, and both powers fit. -/
structure Returns (s : LendingPoolStorage) (c : Appraisal) : Prop where
  inWord : c.InWord s.assetCount 0
  appraises : ∀ k < s.assetCount, s.Appraises c k
  fits : ∀ side, s.power c side < 2 ^ 128

/-- **The collateral check compares two sums.**  It returns exactly when the appraisal does,
and then whether the collateral power covers the debt power, and their difference. -/
theorem calculateLendingPowerE6_eq_ok {datas : List (Option AccountReserveData)}
    {config : AccountConfig} {reductions : FeeReductions} {prices : List ℕ} {covered : Bool}
    {difference : ℕ} :
    s.calculateLendingPowerE6 datas config reductions prices = .ok (covered, difference)
      ↔ ∃ rule, s.getMarketRule config = .ok rule
        ∧ s.Returns (appraisal rule datas config reductions prices)
        ∧ covered = decide (s.power (appraisal rule datas config reductions prices) .debt
          ≤ s.power (appraisal rule datas config reductions prices) .deposit)
        ∧ difference = if covered
          then s.power (appraisal rule datas config reductions prices) .deposit
            - s.power (appraisal rule datas config reductions prices) .debt
          else s.power (appraisal rule datas config reductions prices) .debt
            - s.power (appraisal rule datas config reductions prices) .deposit := by
  rw [calculateLendingPowerE6, bind_eq_ok]
  refine exists_congr fun rule => and_congr_right fun _ => ?_
  set c := appraisal rule datas config reductions prices with hc
  have hzero : (0 : ℕ) < 2 ^ 128 := Nat.two_pow_pos 128
  have hloop : ∀ powers, s.lendingPowerLoop c.rule c.collaterals c.debts c.datas c.reductions
      c.prices s.assetCount 0 (0, 0) = .ok powers ↔ _ :=
    fun powers => lendingPowerLoop_eq_ok hzero hzero
  rw [bind_eq_ok]
  have hpower : ∀ side, ∑ j ∈ Finset.Ico 0 (0 + s.assetCount), s.part c side j = s.power c side :=
    fun side => by rw [power, Nat.zero_add, Finset.range_eq_Ico]
  constructor
  · rintro ⟨powers, hrun, h⟩
    obtain ⟨hword, happraises, hsum, hlt₁, hlt₂⟩ := (hloop powers).mp hrun
    rw [hpower, hpower, Nat.zero_add, Nat.zero_add] at hsum
    subst hsum
    refine ⟨⟨hword, fun k hk => happraises k (Nat.zero_le k) (by omega), fun side => ?_⟩, ?_⟩
    · cases side with
      | deposit => exact hlt₁
      | debt => exact hlt₂
    · split_ifs at h with hle
      · simp only [pure_eq, Except.ok.injEq, Prod.mk.injEq] at h
        rw [← h.1, ← h.2]
        simp [hle]
      · simp only [pure_eq, Except.ok.injEq, Prod.mk.injEq] at h
        rw [← h.1, ← h.2]
        simp [hle]
  · rintro ⟨hreturns, rfl, rfl⟩
    refine ⟨(s.power c .deposit, s.power c .debt), (hloop _).mpr ⟨hreturns.inWord,
      fun j _ hj => hreturns.appraises j (by omega), ?_, hreturns.fits .deposit,
      hreturns.fits .debt⟩, ?_⟩
    · rw [hpower, hpower, Nat.zero_add, Nat.zero_add]
    · by_cases hle : s.power c .debt ≤ s.power c .deposit
      · simp [hle]
      · simp [hle]

/-- An appraisal that returns found the coefficients of every active entry. -/
lemma Returns.coefficient (h : s.Returns c) (hk : k < s.assetCount)
    (hentry : c.datas[k]?.join ≠ none) (side : Side) (hbit : (c.bits side).getLsbD k = true) :
    c.coefficient side k ≠ none := by
  obtain ⟨data, hdata⟩ := Option.ne_none_iff_exists'.mp hentry
  have happraisable := (h.appraises k hk (Appraisal.active_bit.mpr ⟨side, hbit⟩)).2 data hdata
  exact Option.isSome_iff_ne_none.mp (happraisable.weighs side hbit).coefficient

/-- A check that returns a value found every coefficient. -/
theorem calculateLendingPowerOfAnAccountE6_rulesCover {env : Env} {account : AccountId}
    {power : Bool × ℕ} (h : s.calculateLendingPowerOfAnAccountE6 env account = .ok power) :
    s.RulesCover account := by
  rw [calculateLendingPowerOfAnAccountE6, bind_eq_ok] at h
  obtain ⟨prices, -, hcheck⟩ := h
  obtain ⟨rule, hrule, hreturns, -⟩ := calculateLendingPowerE6_eq_ok.mp hcheck
  intro rule' hrule' k hk hentry
  cases (unwrap_eq_ok.mp hrule).symm.trans hrule'
  rw [← getAccountDatas_join] at hentry
  have hcoefficient := hreturns.coefficient hk hentry
  rintro (⟨hbit, hnone⟩ | ⟨hbit, hnone⟩)
  · exact hcoefficient .deposit hbit hnone
  · exact hcoefficient .debt hbit hnone

end LendingPoolStorage

end AbaxLending
