import AbaxLending.Effects.Accruals
import AbaxLending.Effects.FullSum
import AbaxLending.Invariants.Supply

/-!
What the arithmetic of the collateral check needs.

The check accrues every active position, values and weighs its amounts, and sums the weighed
values.  Here all of this is said in closed form, of the stored positions, the indexes, the
fees, the reductions, the prices and the coefficients, and not of what the functions return.

* `InterestFits`: an accrual returns exactly when the interest that is due fits
  (`accumulateAccountInterest_returns_iff`);
* `dueAt`, `duePart`: the amount of a position with the interest due, and what it adds to a power;
* `CheckFits`: every interest, every value and both sums fit; `Returns.checkFits` says that a
  check that returns meets it, `CheckFits.calculateLendingPowerE6_raises` that under it the check
  fails for a missing coefficient only.
-/

namespace AbaxLending

open Outcome

namespace AccountReserveData

section

variable (data : AccountReserveData) (indexes : ReserveIndexes)

/-- A deposit has interest due: its index has moved. -/
def DepositDue : Prop :=
  data.deposit ≠ 0 ∧ data.appliedDepositIndexE18 ≠ 0
    ∧ data.appliedDepositIndexE18 < indexes.depositIndexE18

/-- A debt has interest due. -/
def DebtDue : Prop :=
  data.debt ≠ 0 ∧ data.appliedDebtIndexE18 ≠ 0 ∧ data.appliedDebtIndexE18 < indexes.debtIndexE18

/-- The interest on a deposit and its fee fit: the deposit before the fee, the first stage of
the fee, the fee within the interest, and the income with the fee. -/
structure DepositFits (feeE6 reductionE6 earnedFee : ℕ) : Prop where
  gross : data.depositBeforeFee indexes.depositIndexE18 < 2 ^ 128
  preFee : ((data.depositBeforeFee indexes.depositIndexE18 - data.deposit) * feeE6) ⌈/⌉ E6
    < 2 ^ 128
  reduction : reductionE6 ≤ E6
  charge : data.depositCharge indexes feeE6 reductionE6
    ≤ data.depositBeforeFee indexes.depositIndexE18 - data.deposit
  income : earnedFee + data.depositCharge indexes feeE6 reductionE6 < 2 ^ 128

/-- The interest on a debt and its fee fit: the debt before and after the fee, the first stage
of the fee, and the income with the fee. -/
structure DebtFits (feeE6 reductionE6 earnedFee : ℕ) : Prop where
  gross : data.debtBeforeFee indexes.debtIndexE18 < 2 ^ 128
  preFee : ((data.debtBeforeFee indexes.debtIndexE18 - data.debt) * feeE6) ⌈/⌉ E6 < 2 ^ 128
  reduction : reductionE6 ≤ E6
  net : data.debtBeforeFee indexes.debtIndexE18 + data.debtCharge indexes feeE6 reductionE6
    < 2 ^ 128
  income : earnedFee + data.debtCharge indexes feeE6 reductionE6 < 2 ^ 128

/-- The interest that is due on a position fits.  The fee on the debt comes on top of the one on
the deposit. -/
structure InterestFits (fees : ReserveFees) (reductions : FeeReductions) : Prop where
  deposit : data.DepositDue indexes →
    data.DepositFits indexes fees.depositFeeE6 reductions.1 fees.earnedFee
  debt : data.DebtDue indexes → data.DebtFits indexes fees.debtFeeE6 reductions.2
    (fees.earnedFee + data.depositCharge indexes fees.depositFeeE6 reductions.1)

end

section

variable [Pendzl] {self : AccountReserveData} {indexes : ReserveIndexes} {fees : ReserveFees}
  {reductionE6 : ℕ}

/-- A fee that is computed has a first stage that fits and a reduction below one. -/
lemma feeOn_bounds {interest feeE6 fee : ℕ} (h : feeOn interest feeE6 reductionE6 = .ok fee) :
    (interest * feeE6) ⌈/⌉ E6 < 2 ^ 128 ∧ reductionE6 ≤ E6 := by
  simp only [feeOn, e0MulE6ToE0Rup, bind_eq_ok, mulDiv_eq_ok, unwrap_eq_ok,
    checkedSub_eq_some] at h
  obtain ⟨pre, ⟨-, hpre, hlt⟩, part, hpart, -⟩ := h
  rw [exactDiv] at hpre
  exact ⟨hpre ▸ hlt, by omega⟩

/-- The accrual of a deposit returns exactly when the interest due fits. -/
lemma accumulateDeposit_returns_iff :
    (∃ a, self.accumulateDeposit indexes fees reductionE6 = .ok a)
      ↔ (self.DepositDue indexes → self.DepositFits indexes fees.depositFeeE6 reductionE6
        fees.earnedFee) := by
  by_cases hc : self.deposit ≠ 0 ∧ self.appliedDepositIndexE18 ≠ 0
      ∧ self.appliedDepositIndexE18 < indexes.depositIndexE18
  · have hbefore : self.depositBeforeFee indexes.depositIndexE18
        = self.deposit * indexes.depositIndexE18 / self.appliedDepositIndexE18 := if_pos hc
    constructor
    · rintro ⟨a, ha⟩ -
      obtain ⟨hamount, -, hinterest⟩ := accumulateDeposit_amount ha
      rw [accumulateDeposit, if_pos hc] at ha
      simp only [bind_eq_ok, e0MulE18DivE18ToE0Rdown, mulDiv_eq_ok, okOr_eq_ok,
        checkedSub_eq_some, ReserveFees.increaseEarnedFee, checkedAdd_eq_some, pure_eq,
        Except.ok.injEq] at ha
      obtain ⟨gross, ⟨-, hgross, hlt⟩, part, hpart, fee, hfee, _, -, _, -, _,
        ⟨_, ⟨-, hearned⟩, -⟩, -⟩ := ha
      rw [exactDiv, ← hbefore] at hgross
      have hpart' : part = self.depositBeforeFee indexes.depositIndexE18 - self.deposit := by omega
      rw [hpart'] at hfee
      obtain ⟨hpre, hred⟩ := feeOn_bounds hfee
      rw [feeOn_ok hfee] at hearned
      exact ⟨hgross ▸ hlt, hpre, hred, by omega, hearned⟩
    · intro h
      have hfits := h hc
      have hfee : feeOn (self.depositBeforeFee indexes.depositIndexE18 - self.deposit)
          fees.depositFeeE6 reductionE6
          = .ok (self.depositCharge indexes fees.depositFeeE6 reductionE6) := by
        rw [feeOn_eq _ _ hfits.reduction, if_pos hfits.preFee]
        rfl
      have heq := accumulateDeposit_of hc hbefore.symm (deposit_le_depositBeforeFee self _)
        hfits.charge fun _ => hfee
      rw [heq, if_pos ⟨hfits.gross, hfits.income⟩]
      exact ⟨_, rfl⟩
  · rw [accumulateDeposit, if_neg hc]
    exact iff_of_true ⟨_, rfl⟩ fun h => absurd h hc

/-- The accrual of a debt returns exactly when the interest due fits. -/
lemma accumulateDebt_returns_iff :
    (∃ a, self.accumulateDebt indexes fees reductionE6 = .ok a)
      ↔ (self.DebtDue indexes → self.DebtFits indexes fees.debtFeeE6 reductionE6
        fees.earnedFee) := by
  by_cases hc : self.debt ≠ 0 ∧ self.appliedDebtIndexE18 ≠ 0
      ∧ self.appliedDebtIndexE18 < indexes.debtIndexE18
  · have hbefore : self.debtBeforeFee indexes.debtIndexE18
        = (self.debt * indexes.debtIndexE18) ⌈/⌉ self.appliedDebtIndexE18 := if_pos hc
    constructor
    · rintro ⟨a, ha⟩ -
      rw [accumulateDebt, if_pos hc] at ha
      simp only [bind_eq_ok, e0MulE18DivE18ToE0Rup, mulDiv_eq_ok, okOr_eq_ok,
        checkedSub_eq_some, ReserveFees.increaseEarnedFee, checkedAdd_eq_some, pure_eq,
        Except.ok.injEq] at ha
      obtain ⟨gross, ⟨-, hgross, hlt⟩, part, hpart, fee, hfee, _, ⟨-, hnet⟩, _, -, _,
        ⟨_, ⟨-, hearned⟩, -⟩, -⟩ := ha
      rw [exactDiv, ← hbefore] at hgross
      have hpart' : part = self.debtBeforeFee indexes.debtIndexE18 - self.debt := by omega
      rw [hpart'] at hfee
      obtain ⟨hpre, hred⟩ := feeOn_bounds hfee
      have hcharge : fee = self.debtCharge indexes fees.debtFeeE6 reductionE6 := feeOn_ok hfee
      rw [hgross, hcharge] at hnet
      rw [hcharge] at hearned
      exact ⟨hgross ▸ hlt, hpre, hred, hnet, hearned⟩
    · intro h
      have hfits := h hc
      have hfee := feeOn_eq (self.debtBeforeFee indexes.debtIndexE18 - self.debt) fees.debtFeeE6
        hfits.reduction
      have heq := accumulateDebt_of hc hbefore.symm (debt_le_debtBeforeFee self _) hfee
      rw [heq, if_pos ⟨hfits.gross, hfits.preFee, hfits.net, hfits.income⟩]
      exact ⟨_, rfl⟩
  · rw [accumulateDebt, if_neg hc]
    exact iff_of_true ⟨_, rfl⟩ fun h => absurd h hc

/-- **An accrual returns exactly when the interest due fits.** -/
lemma accumulateAccountInterest_returns_iff {reductions : FeeReductions} :
    (∃ a, self.accumulateAccountInterest indexes fees reductions = .ok a)
      ↔ self.InterestFits indexes fees reductions := by
  rw [accumulateAccountInterest]
  split_ifs with hc
  · refine iff_of_true ⟨_, rfl⟩ ⟨fun h => ?_, fun h => ?_⟩
    · exact absurd h.2.2 (not_lt.mpr hc.1)
    · exact absurd h.2.2 (not_lt.mpr hc.2)
  · constructor
    · rintro ⟨a, ha⟩
      simp only [bind_eq_ok] at ha
      obtain ⟨onDeposit, hdeposit, onDebt, hdebt, -⟩ := ha
      rw [(accumulateDeposit_amount hdeposit).2.1] at hdebt
      exact ⟨accumulateDeposit_returns_iff.mp ⟨_, hdeposit⟩,
        accumulateDebt_returns_iff.mp ⟨_, hdebt⟩⟩
    · rintro ⟨hdeposit, hdebt⟩
      obtain ⟨onDeposit, hon⟩ := accumulateDeposit_returns_iff.mpr hdeposit
      have hfees := (accumulateDeposit_amount hon).2.1
      have hdebt' : self.DebtDue indexes → self.DebtFits indexes onDeposit.fees.debtFeeE6
          reductions.2 onDeposit.fees.earnedFee := by
        rw [hfees]
        exact hdebt
      obtain ⟨onDebt, hon'⟩ := accumulateDebt_returns_iff.mpr hdebt'
      rw [hon, ok_bind, hon']
      exact ⟨_, rfl⟩

end

end AccountReserveData

/-- One weighing of a value that fits fails for a missing coefficient only. -/
lemma addLendingPower_raises_of_fits [Pendzl] {power amount priceE18 multiplier : ℕ}
    {coefficientE6 : Option ℕ} (side : Side)
    (hweighable : Weighable amount priceE18 multiplier (coefficientE6.getD 0))
    (hlt : power + weighedE6 amount priceE18 multiplier (coefficientE6.getD 0) < 2 ^ 128) :
    Raises (fun e => ¬IsMathError e)
      (addLendingPower power amount priceE18 multiplier coefficientE6 side.disabled) := by
  cases coefficientE6 with
  | none =>
      rw [LendingPoolStorage.addLendingPower_of_none hweighable]
      intro e he
      cases he
      rintro ⟨m, hm⟩
      cases side with
      | deposit => cases hm
      | debt => cases hm
  | some coefficient =>
      rw [addLendingPower_eq_ok.mpr ⟨rfl, hweighable, rfl, hlt⟩]
      exact raises_ok _

namespace LendingPoolStorage

section

variable (s : LendingPoolStorage) (c : Appraisal)

/-- The amount of an entry with the interest that is due on it. -/
def dueAt (side : Side) (k : ℕ) : ℕ :=
  match c.datas[k]?.join, s.reserveIndexesAndFees.get k with
  | some data, some r => side.amount data + side.pending data r.indexes r.fees c.reductions
  | _, _ => 0

/-- What the amount with the interest adds to the power of a side. -/
def duePart (side : Side) (k : ℕ) : ℕ :=
  if (c.bits side).getLsbD k then s.weigh c side k (s.dueAt c side k) else 0

/-- **The arithmetic of the check does not fail**: for every active entry the interest that is
due, the values and the weighed values fit, and so do the two sums. -/
structure CheckFits : Prop where
  interest : ∀ k < s.assetCount, c.active.getLsbD k = true → ∀ data r,
    c.datas[k]?.join = some data → s.reserveIndexesAndFees.get k = some r →
    data.InterestFits r.indexes r.fees c.reductions
  weighable : ∀ side, ∀ k < s.assetCount, (c.bits side).getLsbD k = true →
    c.datas[k]?.join ≠ none →
    Weighable (s.dueAt c side k) (c.prices[k]?.getD 0) ((s.reserveDecimalMultiplier.get k).getD 0)
      ((c.coefficient side k).getD 0)
  powers : ∀ side, ∑ k ∈ Finset.range s.assetCount, s.duePart c side k < 2 ^ 128

end

section

variable [Pendzl] {s : LendingPoolStorage} {c : Appraisal} {k left : ℕ} {powers : ℕ × ℕ}

/-- What an accrual leaves is the amount with the interest due. -/
lemma dueAt_of_accrual (side : Side) {data : AccountReserveData} {r : ReserveIndexesAndFees}
    {a : Accrual} (hdata : c.datas[k]?.join = some data)
    (hr : s.reserveIndexesAndFees.get k = some r)
    (ha : data.accumulateAccountInterest r.indexes r.fees c.reductions = .ok a) :
    s.dueAt c side k = side.amount a.data := by
  rw [side.amount_pending ha]
  simp only [dueAt, hdata, hr]

/-- A position that is accrued adds its amounts with the interest due. -/
lemma part_eq_duePart (side : Side) {data : AccountReserveData} {r : ReserveIndexesAndFees}
    {a : Accrual} (hdata : c.datas[k]?.join = some data)
    (hr : s.reserveIndexesAndFees.get k = some r)
    (ha : data.accumulateAccountInterest r.indexes r.fees c.reductions = .ok a) :
    s.part c side k = s.duePart c side k := by
  rw [part, duePart, dueAt_of_accrual side hdata hr ha, accruedEntry_of_ok hdata hr ha]

/-! ### A check that returns -/

/-- Where the appraisal returns it adds the amounts with the interest due. -/
lemma Returns.part_eq (h : s.Returns c) (side : Side) (hk : k < s.assetCount) :
    s.part c side k = s.duePart c side k := by
  cases hbit : (c.bits side).getLsbD k with
  | false => rw [part_of_clear hbit, duePart, if_neg (by simp [hbit])]
  | true =>
      cases hdata : c.datas[k]?.join with
      | none =>
          have hzero : s.dueAt c side k = 0 := by simp only [dueAt, hdata]
          rw [part_of_none hdata, duePart, hzero, weigh, weighedE6_zero, ite_self]
      | some data =>
          have hactive := Appraisal.active_bit.mpr ⟨side, hbit⟩
          obtain ⟨r, a, hr, ha⟩ := ((h.appraises k hk hactive).2 data hdata).accrues
          exact part_eq_duePart side hdata hr ha

/-- **A check that returns fits.** -/
lemma Returns.checkFits (h : s.Returns c) : s.CheckFits c := by
  constructor
  case interest =>
    intro k hk hactive data r hdata hr
    obtain ⟨r', a, hr', ha⟩ := ((h.appraises k hk hactive).2 data hdata).accrues
    rw [hr, Option.some.injEq] at hr'
    subst hr'
    exact AccountReserveData.accumulateAccountInterest_returns_iff.mp ⟨a, ha⟩
  case weighable =>
    intro side k hk hbit hentry
    obtain ⟨data, hdata⟩ := Option.ne_none_iff_exists'.mp hentry
    have happraisable := (h.appraises k hk (Appraisal.active_bit.mpr ⟨side, hbit⟩)).2 data hdata
    obtain ⟨r, a, hr, ha⟩ := happraisable.accrues
    have hweighable := (happraisable.weighs side hbit).weighable
    rwa [accruedEntry_of_ok hdata hr ha, ← dueAt_of_accrual side hdata hr ha] at hweighable
  case powers =>
    intro side
    calc ∑ k ∈ Finset.range s.assetCount, s.duePart c side k = s.power c side :=
          Finset.sum_congr rfl fun k hk => (h.part_eq side (Finset.mem_range.mp hk)).symm
      _ < 2 ^ 128 := h.fits side

/-! ### A check that fits -/

/-- One side of an asset fails for a missing coefficient only. -/
lemma CheckFits.addSidePower_raises (h : s.CheckFits c) (hk : k < s.assetCount) (side : Side)
    (hentry : c.datas[k]?.join ≠ none) {power : ℕ} (hlt : power + s.duePart c side k < 2 ^ 128) :
    Raises (fun e => ¬IsMathError e) (s.addSidePower (c.bits side) c.prices k (s.dueAt c side k)
      (c.coefficient side k) side.disabled power) := by
  refine shiftRight_raises.bind fun shifted hshift => ?_
  split_ifs with htest
  · have hbit := (shiftRight_test hshift).mp htest
    refine (raises_unwrap _).bind fun price hprice => (raises_unwrap _).bind fun mult hmult => ?_
    have hweighable := h.weighable side k hk hbit hentry
    rw [duePart, if_pos hbit, weigh] at hlt
    rw [unwrap_eq_ok.mp hprice, unwrap_eq_ok.mp hmult] at hweighable hlt
    exact addLendingPower_raises_of_fits side hweighable hlt
  · exact raises_ok _

/-- The step lemma: one asset fails for a missing coefficient only, and otherwise adds its
parts. -/
lemma CheckFits.addAssetPower_raises (h : s.CheckFits c) (hk : k < s.assetCount)
    (hbit : c.active.getLsbD k = true) {data : AccountReserveData}
    (hdata : c.datas[k]?.join = some data) (h₁ : powers.1 + s.duePart c .deposit k < 2 ^ 128)
    (h₂ : powers.2 + s.duePart c .debt k < 2 ^ 128) :
    Raises (fun e => ¬IsMathError e) (s.addAssetPower c.rule c.collaterals c.debts c.reductions
      c.prices k data powers) := by
  have hentry : c.datas[k]?.join ≠ none := by simp [hdata]
  refine (raises_unwrap _).bind fun r hr => ?_
  have hr := unwrap_eq_ok.mp hr
  obtain ⟨a, ha⟩ := AccountReserveData.accumulateAccountInterest_returns_iff.mpr
    (h.interest k hk hbit data r hdata hr)
  have hdeposit : s.dueAt c .deposit k = a.data.deposit := dueAt_of_accrual .deposit hdata hr ha
  have hdebt : s.dueAt c .debt k = a.data.debt := dueAt_of_accrual .debt hdata hr ha
  have hraises := h.addSidePower_raises hk .deposit hentry h₁
  have hraises' := h.addSidePower_raises hk .debt hentry h₂
  rw [hdeposit] at hraises
  rw [hdebt] at hraises'
  rw [ha, ok_bind]
  exact hraises.bind fun _ _ => hraises'.bind fun _ _ => raises_ok _

/-- One asset that is added adds its parts. -/
lemma addAssetPower_due (hk : k < 128) {data : AccountReserveData}
    (hdata : c.datas[k]?.join = some data) (h₁ : powers.1 < 2 ^ 128) (h₂ : powers.2 < 2 ^ 128)
    {powers' : ℕ × ℕ}
    (h : s.addAssetPower c.rule c.collaterals c.debts c.reductions c.prices k data powers
      = .ok powers') :
    powers' = (powers.1 + s.duePart c .deposit k, powers.2 + s.duePart c .debt k) := by
  obtain ⟨happraisable, heq, -⟩ := (addAssetPower_eq_ok hk hdata h₁ h₂).mp h
  obtain ⟨r, a, hr, ha⟩ := happraisable.accrues
  rw [heq, part_eq_duePart .deposit hdata hr ha, part_eq_duePart .debt hdata hr ha]

/-- The run lemma: as long as the sums fit, the loop fails for a missing coefficient only. -/
lemma CheckFits.lendingPowerLoop_raises (h : s.CheckFits c) (hle : k + left ≤ s.assetCount)
    (h₁ : powers.1 + ∑ j ∈ Finset.Ico k (k + left), s.duePart c .deposit j < 2 ^ 128)
    (h₂ : powers.2 + ∑ j ∈ Finset.Ico k (k + left), s.duePart c .debt j < 2 ^ 128) :
    Raises (fun e => ¬IsMathError e) (s.lendingPowerLoop c.rule c.collaterals c.debts c.datas
      c.reductions c.prices left k powers) := by
  induction left generalizing k powers with
  | zero => exact raises_ok _
  | succ left ih =>
      rw [sum_Ico_head] at h₁ h₂
      have hrest := fun powers h₁ h₂ => @ih (k + 1) powers (by omega) h₁ h₂
      have hskip := hrest powers (by omega) (by omega)
      by_cases hk : k < 128
      swap
      · -- an id that has no bit in the word traps
        rw [lendingPowerLoop]
        refine shiftRight_raises.bind fun shifted hshift => ?_
        exact absurd (shiftRight_eq_ok.mp hshift).1 hk
      by_cases hzero : c.active >>> k = 0#128
      · rw [lendingPowerLoop_stop hk hzero]
        exact raises_ok _
      · cases hbit : c.active.getLsbD k with
        | false =>
            rw [lendingPowerLoop_skip hk hzero hbit]
            exact hskip
        | true =>
            cases hentry : c.datas[k]? with
            | none =>
                rw [lendingPowerLoop_beyond hk hbit hentry]
                exact raises_trap
            | some entry =>
                cases entry with
                | none =>
                    rw [lendingPowerLoop_empty hk hbit hentry]
                    exact hskip
                | some data =>
                    have hdata : c.datas[k]?.join = some data := by rw [hentry]; rfl
                    rw [lendingPowerLoop_add hk hbit hentry]
                    refine (h.addAssetPower_raises (by omega) hbit hdata (by omega)
                      (by omega)).bind fun powers' hadd => ?_
                    have hsum := addAssetPower_due hk hdata (by omega) (by omega) hadd
                    rw [hsum]
                    exact hrest _ (by dsimp only; omega) (by dsimp only; omega)

/-- **A check that fits fails for a missing coefficient only.** -/
lemma CheckFits.calculateLendingPowerE6_raises {rule : MarketRule} {config : AccountConfig}
    {datas : List (Option AccountReserveData)} {reductions : FeeReductions} {prices : List ℕ}
    (h : s.CheckFits (appraisal rule datas config reductions prices))
    (hrule : s.getMarketRule config = .ok rule) :
    Raises (fun e => ¬IsMathError e)
      (s.calculateLendingPowerE6 datas config reductions prices) := by
  rw [calculateLendingPowerE6, hrule, ok_bind]
  have hsum : ∀ side, 0 + ∑ k ∈ Finset.Ico 0 (0 + s.assetCount),
      s.duePart (appraisal rule datas config reductions prices) side k < 2 ^ 128 := by
    intro side
    rw [Nat.zero_add, Nat.zero_add, ← Finset.range_eq_Ico]
    exact h.powers side
  refine Raises.bind (h.lendingPowerLoop_raises (by omega) (hsum .deposit) (hsum .debt))
    fun powers _ => ?_
  split_ifs
  · exact raises_ok _
  · exact raises_ok _

end

end LendingPoolStorage

end AbaxLending
