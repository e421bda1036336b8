import AbaxLending.Contract.Run
import AbaxLending.Spec.PowerSum

/-!
The rounding of the collateral check.

Both powers are rounded down twice for each asset.  For the collateral this is on the safe
side; a debt counts less than it is worth, by less than one unit and its coefficient.

* `exactE6`: the power of an amount as a rational number; `weighedE6_le_exactE6` and
  `exactE6_lt` bound the rounding of one weighing;
* `exactPower`, `slack`: the exact power of a side, and what the rounding of the debts can hide;
* `check_conservative`: what a check that passes says about the exact powers, and when an
  account without collateral passes.
-/

namespace AbaxLending

open Outcome

/-- The power of an amount without a rounding. -/
def exactE6 (amount priceE18 decimalMultiplier coefficientE6 : ℕ) : ℚ :=
  (amount * priceE18 : ℚ) / (decimalMultiplier * 10 ^ 10) * coefficientE6 / 10 ^ 8

section

variable (amount priceE18 decimalMultiplier coefficientE6 : ℕ)

/-- The rounding loses power. -/
lemma weighedE6_le_exactE6 :
    (weighedE6 amount priceE18 decimalMultiplier coefficientE6 : ℚ)
      ≤ exactE6 amount priceE18 decimalMultiplier coefficientE6 := by
  have hvalue : ((amount * priceE18 / (decimalMultiplier * E10) : ℕ) : ℚ)
      ≤ (amount * priceE18 : ℚ) / (decimalMultiplier * 10 ^ 10) := by
    refine Nat.cast_div_le.trans (le_of_eq ?_)
    push_cast
    rfl
  calc (weighedE6 amount priceE18 decimalMultiplier coefficientE6 : ℚ)
      ≤ ((amount * priceE18 / (decimalMultiplier * E10) * coefficientE6 : ℕ) : ℚ) / (E8 : ℕ) :=
        Nat.cast_div_le
    _ = (amount * priceE18 / (decimalMultiplier * E10) : ℕ) * coefficientE6 / 10 ^ 8 := by
        rw [Nat.cast_mul, Nat.cast_pow, Nat.cast_ofNat]
    _ ≤ exactE6 amount priceE18 decimalMultiplier coefficientE6 := by
        rw [exactE6]
        gcongr

/-- A quotient is less than one above its floor. -/
lemma div_lt_floor_add_one {a b : ℕ} (hb : 0 < b) : (a : ℚ) / b < (a / b : ℕ) + 1 := by
  have hlt : (a : ℚ) < b * ((a / b : ℕ) + 1) := by
    exact_mod_cast Nat.lt_mul_div_succ a hb
  rw [div_lt_iff₀ (by exact_mod_cast hb)]
  linarith

/-- What the two roundings lose: less than one unit, and less than one unit of the value. -/
lemma exactE6_lt (h : 0 < decimalMultiplier * E10) :
    exactE6 amount priceE18 decimalMultiplier coefficientE6
      < weighedE6 amount priceE18 decimalMultiplier coefficientE6
        + (1 + coefficientE6 / 10 ^ 8) := by
  set value := amount * priceE18 / (decimalMultiplier * E10) with hdef
  have hvalue : (amount * priceE18 : ℚ) / (decimalMultiplier * 10 ^ 10) ≤ value + 1 := by
    have hlt := div_lt_floor_add_one (a := amount * priceE18) h
    push_cast at hlt
    rw [hdef]
    exact hlt.le
  have hweighed : (value * coefficientE6 : ℚ) / 10 ^ 8
      < weighedE6 amount priceE18 decimalMultiplier coefficientE6 + 1 := by
    have hlt := div_lt_floor_add_one (a := value * coefficientE6) (b := E8) (by norm_num)
    rw [Nat.cast_mul, Nat.cast_pow, Nat.cast_ofNat] at hlt
    exact hlt
  calc exactE6 amount priceE18 decimalMultiplier coefficientE6
      ≤ (value + 1) * coefficientE6 / 10 ^ 8 := by
        rw [exactE6]
        gcongr
    _ = value * coefficientE6 / 10 ^ 8 + coefficientE6 / 10 ^ 8 := by ring
    _ < weighedE6 amount priceE18 decimalMultiplier coefficientE6 + 1
          + coefficientE6 / 10 ^ 8 := by gcongr
    _ = weighedE6 amount priceE18 decimalMultiplier coefficientE6
          + (1 + coefficientE6 / 10 ^ 8) := by ring

end

namespace LendingPoolStorage

section

variable [Pendzl] (s : LendingPoolStorage) (c : Appraisal)

/-- What an asset adds to the exact power of a side. -/
def exactPart (side : Side) (k : ℕ) : ℚ :=
  if (c.bits side).getLsbD k then
    exactE6 (side.amount (s.accruedEntry c k)) (c.prices[k]?.getD 0)
      ((s.reserveDecimalMultiplier.get k).getD 0) ((c.coefficient side k).getD 0)
  else 0

/-- The exact power of a side: the sum of accrued amount times price times coefficient over
its assets, in the unit of the power. -/
def exactPower (side : Side) : ℚ := ∑ k ∈ Finset.range s.assetCount, s.exactPart c side k

omit [Pendzl] in
/-- What the rounding of the debts can hide: for each borrowed asset one unit, and one unit of
the value. -/
def slack : ℚ :=
  ∑ k ∈ Finset.range s.assetCount,
    if c.debts.getLsbD k then 1 + ((c.coefficient .debt k).getD 0 : ℚ) / 10 ^ 8 else 0

variable {s c} {k : ℕ}

/-- The collateral power is at most the exact one. -/
lemma part_le_exactPart (side : Side) : (s.part c side k : ℚ) ≤ s.exactPart c side k := by
  rw [part, exactPart]
  split_ifs
  · exact weighedE6_le_exactE6 ..
  · rw [Nat.cast_zero]

/-- A debt hides at most its slack. -/
lemma exactPart_debt_le (h : s.Appraises c k) :
    s.exactPart c .debt k ≤ s.part c .debt k
      + if c.debts.getLsbD k then 1 + ((c.coefficient .debt k).getD 0 : ℚ) / 10 ^ 8 else 0 := by
  have hbits : c.bits .debt = c.debts := rfl
  rw [exactPart, part, hbits]
  by_cases hbit : c.debts.getLsbD k = true
  · rw [if_pos hbit, if_pos hbit, if_pos hbit, weigh]
    cases hentry : c.datas[k]?.join with
    | none =>
        -- a bit without an entry counts nothing on either side
        have hzero : Side.debt.amount (s.accruedEntry c k) = 0 := by
          rw [accruedEntry_of_none hentry]
          rfl
        rw [hzero, weighedE6_zero, exactE6, Nat.cast_zero, zero_mul, zero_div, zero_mul, zero_div]
        positivity
    | some data =>
        have happ := (h (Appraisal.active_bit.mpr ⟨.debt, hbit⟩)).2 data hentry
        exact (exactE6_lt _ _ _ _ (happ.weighs .debt hbit).weighable.positive).le
  · rw [if_neg hbit, if_neg hbit, if_neg hbit]
    simp

/-- An appraisal whose rounded debts are covered has its exact debts covered up to the
slack. -/
lemma exactPower_debt_le (h : s.Returns c) (hle : s.power c .debt ≤ s.power c .deposit) :
    s.exactPower c .debt ≤ s.exactPower c .deposit + s.slack c := by
  calc s.exactPower c .debt
      ≤ ∑ k ∈ Finset.range s.assetCount, ((s.part c .debt k : ℚ)
          + if c.debts.getLsbD k then 1 + ((c.coefficient .debt k).getD 0 : ℚ) / 10 ^ 8 else 0) :=
        Finset.sum_le_sum fun k hk =>
          exactPart_debt_le (h.appraises k (Finset.mem_range.mp hk))
    _ = (s.power c .debt : ℚ) + s.slack c := by
        rw [Finset.sum_add_distrib, power, Nat.cast_sum, slack]
    _ ≤ (s.power c .deposit : ℚ) + s.slack c := by gcongr
    _ ≤ s.exactPower c .deposit + s.slack c := by
        rw [power, Nat.cast_sum]
        gcongr
        exact Finset.sum_le_sum fun k _ => part_le_exactPart .deposit

/-- **The collateral check is conservative up to the rounding of the debts.**  When it passes,
the exact debt power exceeds the exact collateral power by at most the slack; and an account
without collateral passes exactly when every debt counts nothing after the rounding. -/
theorem check_conservative {datas : List (Option AccountReserveData)} {config : AccountConfig}
    {reductions : FeeReductions} {prices : List ℕ} {covered : Bool} {difference : ℕ}
    (h : s.calculateLendingPowerE6 datas config reductions prices = .ok (covered, difference)) :
    ∃ rule, s.getMarketRule config = .ok rule
      ∧ (covered = true →
        s.exactPower (appraisal rule datas config reductions prices) .debt
          ≤ s.exactPower (appraisal rule datas config reductions prices) .deposit
            + s.slack (appraisal rule datas config reductions prices))
      ∧ (config.deposits &&& config.collaterals = 0#128 →
        (covered = true ↔ ∀ k < s.assetCount,
          s.part (appraisal rule datas config reductions prices) .debt k = 0)) := by
  obtain ⟨rule, hrule, hreturns, hcovered, -⟩ := calculateLendingPowerE6_eq_ok.mp h
  refine ⟨rule, hrule, fun hc => ?_, fun hnone => ?_⟩
  · rw [hc, eq_comm, decide_eq_true_eq] at hcovered
    exact exactPower_debt_le hreturns hcovered
  · have hzero : s.power (appraisal rule datas config reductions prices) .deposit = 0 := by
      refine Finset.sum_eq_zero fun k _ => part_of_clear ?_
      show (config.deposits &&& config.collaterals).getLsbD k = false
      rw [hnone, BitVec.getLsbD_zero]
    rw [hcovered, decide_eq_true_eq, hzero, Nat.le_zero, power, Finset.sum_eq_zero_iff]
    exact forall_congr' fun k => by rw [Finset.mem_range]

end

end LendingPoolStorage

/-! ### Sample checks -/

namespace Sample

/-- The messages after which `account 3` owes `10^9` of an asset with 18 decimals, `account 102`,
and has no collateral at all. -/
def dust : List (Env × Message) := setup ++ [
  (env admin 0, .registerAsset (account 102) 18 rules restrictions 0 0 (some rateModel)),
  send 2 1 fun a => .deposit (account 102) a (10 ^ 18),
  send 3 1 fun a => .borrow (account 102) a (10 ^ 9)]

/-- The prices that the sample oracle gives for three assets. -/
def prices : List ℕ := [E18, E18, E18]

end Sample

namespace LendingPoolStorage

attribute [local instance] Pendzl.exact in
/-- The check of `account 3`, which borrowed against a deposit, has its exact debts covered. -/
theorem check_conservative_borrower :
    ∃ w difference rule, Sample.world.run Sample.borrower = some w
      ∧ w.pool.calculateLendingPowerE6 (w.pool.getAccountDatas (Sample.account 3))
        (w.pool.getAccountConfig (Sample.account 3)) (0, 0) Sample.prices = .ok (true, difference)
      ∧ w.pool.exactPower (appraisal rule (w.pool.getAccountDatas (Sample.account 3))
          (w.pool.getAccountConfig (Sample.account 3)) (0, 0) Sample.prices) .debt
        ≤ w.pool.exactPower (appraisal rule (w.pool.getAccountDatas (Sample.account 3))
            (w.pool.getAccountConfig (Sample.account 3)) (0, 0) Sample.prices) .deposit
          + w.pool.slack (appraisal rule (w.pool.getAccountDatas (Sample.account 3))
            (w.pool.getAccountConfig (Sample.account 3)) (0, 0) Sample.prices) := by
  have hrun : (Sample.world.run Sample.borrower).bind (fun w =>
        ((w.pool.calculateLendingPowerE6 (w.pool.getAccountDatas (Sample.account 3))
          (w.pool.getAccountConfig (Sample.account 3)) (0, 0) Sample.prices).toOption.map Prod.fst))
      = some true := by decide +kernel
  obtain ⟨w, hw, hv⟩ := Option.bind_eq_some_iff.mp hrun
  obtain ⟨⟨covered, difference⟩, hcheck, rfl⟩ := Option.map_eq_some_iff.mp hv
  have hok := toOption_eq_some.mp hcheck
  obtain ⟨rule, -, hexact, -⟩ := check_conservative hok
  exact ⟨w, difference, rule, hw, hok, hexact rfl⟩

attribute [local instance] Pendzl.exact in
/-- **A debt without any collateral passes the check** when its value is rounded down to zero:
`account 3` owes `10^9` of an asset of price `1` with 18 decimals, and is collateralized. -/
theorem dust_passes :
    ∃ w rule, Sample.world.run Sample.dust = some w
      ∧ w.pool.getMarketRule (w.pool.getAccountConfig (Sample.account 3)) = .ok rule
      ∧ w.pool.calculateLendingPowerE6 (w.pool.getAccountDatas (Sample.account 3))
        (w.pool.getAccountConfig (Sample.account 3)) (0, 0) Sample.prices = .ok (true, 0)
      ∧ w.pool.exactPower (appraisal rule (w.pool.getAccountDatas (Sample.account 3))
          (w.pool.getAccountConfig (Sample.account 3)) (0, 0) Sample.prices) .deposit
        < w.pool.exactPower (appraisal rule (w.pool.getAccountDatas (Sample.account 3))
          (w.pool.getAccountConfig (Sample.account 3)) (0, 0) Sample.prices) .debt := by
  have hrun : (Sample.world.run Sample.dust).bind (fun w =>
        (w.pool.getMarketRule (w.pool.getAccountConfig (Sample.account 3))).toOption.map fun rule =>
          ((w.pool.calculateLendingPowerE6 (w.pool.getAccountDatas (Sample.account 3))
              (w.pool.getAccountConfig (Sample.account 3)) (0, 0) Sample.prices).toOption,
            decide (w.pool.exactPower (appraisal rule (w.pool.getAccountDatas (Sample.account 3))
              (w.pool.getAccountConfig (Sample.account 3)) (0, 0) Sample.prices) .deposit
            < w.pool.exactPower (appraisal rule (w.pool.getAccountDatas (Sample.account 3))
              (w.pool.getAccountConfig (Sample.account 3)) (0, 0) Sample.prices) .debt)))
      = some (some (true, 0), true) := by decide +kernel
  obtain ⟨w, hw, hv⟩ := Option.bind_eq_some_iff.mp hrun
  obtain ⟨rule, hrule, hv⟩ := Option.map_eq_some_iff.mp hv
  obtain ⟨hcheck, hlt⟩ := Prod.mk.inj hv
  exact ⟨w, rule, hw, toOption_eq_some.mp hrule, toOption_eq_some.mp hcheck, of_decide_eq_true hlt⟩

end LendingPoolStorage

end AbaxLending
