import AbaxLending.Spec.Interest
import AbaxLending.Spec.Worth

/-!
An accrual is complete and fails by overflow only.

The values that `accumulate_account_interest` computes are the two amounts before the fee,
the fees and the income; `AccrualFits` says that they fit in 128 bits.

* `feeCharge_le`: a fee parameter of at most `10^6` charges at most the interest, so that no
  subtraction of the accrual underflows;
* `accumulateDeposit_eq`, `accumulateDebt_eq`: what each side computes, or its overflow;
* `accrual_complete`: the accrual returns exactly when its values fit, with both interests
  bounded by the exact ones and the income grown by the difference.
-/

namespace AbaxLending

open Outcome

/-- Taking a share of at most `10^6` millionths, rounded up, takes at most everything. -/
lemma share_le (amount : ℕ) {shareE6 : ℕ} (h : shareE6 ≤ E6) :
    (amount * shareE6) ⌈/⌉ E6 ≤ amount := by
  have hE : 0 < E6 := by norm_num
  rw [ceilDiv_le_iff_le_mul hE, Nat.mul_comm E6]
  exact Nat.mul_le_mul_left amount h

/-- A reduction makes a fee smaller. -/
lemma feeCharge_le_preFee (interest feeE6 reductionE6 : ℕ) :
    feeCharge interest feeE6 reductionE6 ≤ (interest * feeE6) ⌈/⌉ E6 :=
  share_le _ (Nat.sub_le E6 reductionE6)

/-- A fee parameter of at most `10^6` charges at most the interest. -/
lemma feeCharge_le (interest reductionE6 : ℕ) {feeE6 : ℕ} (h : feeE6 ≤ E6) :
    feeCharge interest feeE6 reductionE6 ≤ interest :=
  (feeCharge_le_preFee interest feeE6 reductionE6).trans (share_le interest h)

namespace AccountReserveData

section

variable [Pendzl] {self : AccountReserveData} {indexes : ReserveIndexes} {fees : ReserveFees}

/-- A fee is computed unless its first stage overflows. -/
lemma feeOn_eq (interest feeE6 : ℕ) {reductionE6 : ℕ} (hred : reductionE6 ≤ E6) :
    feeOn interest feeE6 reductionE6
      = if (interest * feeE6) ⌈/⌉ E6 < 2 ^ 128 then .ok (feeCharge interest feeE6 reductionE6)
        else .error (.err (mathErr .overflow)) := by
  have hE : 0 < E6 := by norm_num
  rw [feeOn, e0MulE6ToE0Rup, mulDiv_of_pos _ hE, exactDiv, tryFrom]
  split_ifs with hpre
  · have hpart : checkedSub E6 reductionE6 = some (E6 - reductionE6) := if_pos hred
    have hfee : feeCharge interest feeE6 reductionE6 < 2 ^ 128 :=
      (feeCharge_le_preFee interest feeE6 reductionE6).trans_lt hpre
    rw [hpart]
    simp only [okOr, unwrap, ok_bind, e0MulE6ToE0Rup]
    rw [mulDiv_of_pos _ hE, exactDiv, tryFrom, ← feeCharge, if_pos hfee]
    rfl
  · rfl

omit [Pendzl] in
/-- A deposit that is brought to a greater index does not get smaller. -/
lemma deposit_le_depositBeforeFee (self : AccountReserveData) (index : ℕ) :
    self.deposit ≤ self.depositBeforeFee index := by
  rw [depositBeforeFee]
  split_ifs with hc
  · rw [Nat.le_div_iff_mul_le (Nat.pos_of_ne_zero hc.2.1)]
    exact Nat.mul_le_mul_left self.deposit hc.2.2.le
  · exact le_rfl

/-- The accrual of a deposit whose amount before the fee and whose fee are known. -/
lemma accumulateDeposit_of {reductionE6 gross charge : ℕ}
    (hc : self.deposit ≠ 0 ∧ self.appliedDepositIndexE18 ≠ 0
      ∧ self.appliedDepositIndexE18 < indexes.depositIndexE18)
    (hgross : self.deposit * indexes.depositIndexE18 / self.appliedDepositIndexE18 = gross)
    (hle : self.deposit ≤ gross) (hcharge : charge ≤ gross - self.deposit)
    (hfeeOn : gross < 2 ^ 128 →
      feeOn (gross - self.deposit) fees.depositFeeE6 reductionE6 = .ok charge) :
    self.accumulateDeposit indexes fees reductionE6
      = if gross < 2 ^ 128 ∧ fees.earnedFee + charge < 2 ^ 128 then
        .ok {
          amount := gross - charge
          fees := { fees with earnedFee := fees.earnedFee + charge }
          interest := gross - charge - self.deposit }
        else .error (.err (mathErr .overflow)) := by
  have hinterest : checkedSub gross self.deposit = some (gross - self.deposit) := if_pos hle
  have hupdated : checkedSub gross charge = some (gross - charge) := if_pos (by omega)
  have hnet : checkedSub (gross - charge) self.deposit
      = some (gross - charge - self.deposit) := if_pos (by omega)
  rw [accumulateDeposit, if_pos hc, e0MulE18DivE18ToE0Rdown,
    mulDiv_of_pos _ (Nat.pos_of_ne_zero hc.2.1), exactDiv, hgross]
  by_cases hfits : gross < 2 ^ 128
  · simp only [tryFrom, if_pos hfits, okOr, ok_bind, hinterest, hfeeOn hfits, hupdated, hnet,
      ReserveFees.increaseEarnedFee, checkedAdd]
    by_cases hincome : fees.earnedFee + charge < 2 ^ 128
    · rw [if_pos hincome, if_pos ⟨hfits, hincome⟩]
      rfl
    · rw [if_neg hincome, if_neg fun h => hincome h.2]
      rfl
  · rw [tryFrom, if_neg hfits, if_neg fun h => hfits h.1]
    rfl

/-- **The accrual of a deposit** returns unless the deposit before the fee or the income
overflows. -/
lemma accumulateDeposit_eq {reductionE6 : ℕ} (hfee : fees.depositFeeE6 ≤ E6)
    (hred : reductionE6 ≤ E6) (hdeposit : self.deposit < 2 ^ 128)
    (hearned : fees.earnedFee < 2 ^ 128) :
    self.accumulateDeposit indexes fees reductionE6
      = if self.depositBeforeFee indexes.depositIndexE18 < 2 ^ 128
          ∧ fees.earnedFee + self.depositCharge indexes fees.depositFeeE6 reductionE6 < 2 ^ 128 then
        .ok {
          amount := self.depositBeforeFee indexes.depositIndexE18
            - self.depositCharge indexes fees.depositFeeE6 reductionE6
          fees := { fees with earnedFee :=
            fees.earnedFee + self.depositCharge indexes fees.depositFeeE6 reductionE6 }
          interest := self.depositBeforeFee indexes.depositIndexE18
            - self.depositCharge indexes fees.depositFeeE6 reductionE6 - self.deposit }
        else .error (.err (mathErr .overflow)) := by
  by_cases hc : self.deposit ≠ 0 ∧ self.appliedDepositIndexE18 ≠ 0
      ∧ self.appliedDepositIndexE18 < indexes.depositIndexE18
  · refine accumulateDeposit_of hc (by rw [depositBeforeFee, if_pos hc])
      (deposit_le_depositBeforeFee self indexes.depositIndexE18) (feeCharge_le _ _ hfee) ?_
    intro hfits
    rw [feeOn_eq _ _ hred, if_pos ?_, depositCharge]
    exact (share_le _ hfee).trans_lt ((Nat.sub_le _ _).trans_lt hfits)
  · have hgross : self.depositBeforeFee indexes.depositIndexE18 = self.deposit := if_neg hc
    rw [accumulateDeposit, if_neg hc, depositCharge, hgross, Nat.sub_self, feeCharge_zero,
      Nat.sub_zero, Nat.sub_self, Nat.add_zero, if_pos ⟨hdeposit, hearned⟩]

/-- The accrual of a debt whose amount before the fee, whose fee and the first stage of it
are known. -/
lemma accumulateDebt_of {reductionE6 gross charge preFee : ℕ}
    (hc : self.debt ≠ 0 ∧ self.appliedDebtIndexE18 ≠ 0
      ∧ self.appliedDebtIndexE18 < indexes.debtIndexE18)
    (hgross : (self.debt * indexes.debtIndexE18) ⌈/⌉ self.appliedDebtIndexE18 = gross)
    (hle : self.debt ≤ gross)
    (hfeeOn : feeOn (gross - self.debt) fees.debtFeeE6 reductionE6
      = if preFee < 2 ^ 128 then .ok charge else .error (.err (mathErr .overflow))) :
    self.accumulateDebt indexes fees reductionE6
      = if gross < 2 ^ 128 ∧ preFee < 2 ^ 128 ∧ gross + charge < 2 ^ 128
          ∧ fees.earnedFee + charge < 2 ^ 128 then
        .ok {
          amount := gross + charge
          fees := { fees with earnedFee := fees.earnedFee + charge }
          interest := gross + charge - self.debt }
        else .error (.err (mathErr .overflow)) := by
  have hinterest : checkedSub gross self.debt = some (gross - self.debt) := if_pos hle
  have hnet : checkedSub (gross + charge) self.debt = some (gross + charge - self.debt) :=
    if_pos (by omega)
  rw [accumulateDebt, if_pos hc, e0MulE18DivE18ToE0Rup,
    mulDiv_of_pos _ (Nat.pos_of_ne_zero hc.2.1), exactDiv, hgross]
  by_cases hfits : gross < 2 ^ 128
  · simp only [tryFrom, if_pos hfits, okOr, ok_bind, hinterest, hfeeOn]
    by_cases hpre : preFee < 2 ^ 128
    · simp only [if_pos hpre, ok_bind, checkedAdd]
      by_cases hafter : gross + charge < 2 ^ 128
      · simp only [if_pos hafter, ok_bind, hnet, ReserveFees.increaseEarnedFee, checkedAdd]
        by_cases hincome : fees.earnedFee + charge < 2 ^ 128
        · rw [if_pos hincome, if_pos ⟨hfits, hpre, hafter, hincome⟩]
          rfl
        · rw [if_neg hincome, if_neg fun h => hincome h.2.2.2]
          rfl
      · rw [if_neg hafter, if_neg fun h => hafter h.2.2.1]
        rfl
    · rw [if_neg hpre, if_neg fun h => hpre h.2.1]
      rfl
  · rw [tryFrom, if_neg hfits, if_neg fun h => hfits h.1]
    rfl

/-- **The accrual of a debt** returns unless the debt before the fee, the first stage of the
fee, the debt with the fee or the income overflows. -/
lemma accumulateDebt_eq (indexes : ReserveIndexes) (fees : ReserveFees) {reductionE6 : ℕ}
    (hred : reductionE6 ≤ E6) (hdebt : self.debt < 2 ^ 128) (hearned : fees.earnedFee < 2 ^ 128) :
    self.accumulateDebt indexes fees reductionE6
      = if self.debtBeforeFee indexes.debtIndexE18 < 2 ^ 128
          ∧ ((self.debtBeforeFee indexes.debtIndexE18 - self.debt) * fees.debtFeeE6) ⌈/⌉ E6
            < 2 ^ 128
          ∧ self.debtBeforeFee indexes.debtIndexE18
            + self.debtCharge indexes fees.debtFeeE6 reductionE6 < 2 ^ 128
          ∧ fees.earnedFee + self.debtCharge indexes fees.debtFeeE6 reductionE6 < 2 ^ 128 then
        .ok {
          amount := self.debtBeforeFee indexes.debtIndexE18
            + self.debtCharge indexes fees.debtFeeE6 reductionE6
          fees := { fees with earnedFee :=
            fees.earnedFee + self.debtCharge indexes fees.debtFeeE6 reductionE6 }
          interest := self.debtBeforeFee indexes.debtIndexE18
            + self.debtCharge indexes fees.debtFeeE6 reductionE6 - self.debt }
        else .error (.err (mathErr .overflow)) := by
  by_cases hc : self.debt ≠ 0 ∧ self.appliedDebtIndexE18 ≠ 0
      ∧ self.appliedDebtIndexE18 < indexes.debtIndexE18
  · exact accumulateDebt_of hc (by rw [debtBeforeFee, if_pos hc])
      (debt_le_debtBeforeFee self indexes.debtIndexE18) (feeOn_eq _ _ hred)
  · have hgross : self.debtBeforeFee indexes.debtIndexE18 = self.debt := if_neg hc
    have hnone : (0 * fees.debtFeeE6) ⌈/⌉ E6 < 2 ^ 128 := by
      rw [Nat.zero_mul, zero_ceilDiv]
      norm_num
    rw [accumulateDebt, if_neg hc, debtCharge, hgross, Nat.sub_self, feeCharge_zero,
      Nat.add_zero, Nat.add_zero, Nat.sub_self, if_pos ⟨hdebt, hnone, hdebt, hearned⟩]

/-! ### Both sides -/

/-- The values that an accrual computes fit in 128 bits: both amounts before the fee, the
first stage of the fee on the debt, the debt with its fee, and the income. -/
structure AccrualFits (data : AccountReserveData) (indexes : ReserveIndexes)
    (fees : ReserveFees) (reductions : FeeReductions) : Prop where
  deposit : data.depositBeforeFee indexes.depositIndexE18 < 2 ^ 128
  debt : data.debtBeforeFee indexes.debtIndexE18 < 2 ^ 128
  preFee : ((data.debtBeforeFee indexes.debtIndexE18 - data.debt) * fees.debtFeeE6) ⌈/⌉ E6
    < 2 ^ 128
  debtAfterFee : data.debtBeforeFee indexes.debtIndexE18
    + data.debtCharge indexes fees.debtFeeE6 reductions.2 < 2 ^ 128
  income : fees.earnedFee + data.depositCharge indexes fees.depositFeeE6 reductions.1
    + data.debtCharge indexes fees.debtFeeE6 reductions.2 < 2 ^ 128

section

omit [Pendzl]

/-- A deposit before the fee is the exact quotient, rounded down. -/
lemma depositBeforeFee_eq (hdata : self.UpTo indexes) :
    self.depositBeforeFee indexes.depositIndexE18
      = self.deposit * indexes.depositIndexE18 / self.appliedDepositIndexE18 := by
  have hle : self.appliedDepositIndexE18 ≤ indexes.depositIndexE18 := hdata.le .deposit
  rw [depositBeforeFee]
  split_ifs with hc
  · rfl
  · by_cases hd : self.deposit = 0
    · rw [hd, Nat.zero_mul, Nat.zero_div]
    · have ha : self.appliedDepositIndexE18 ≠ 0 := fun h => hd (hdata.zero .deposit h)
      have heq : self.appliedDepositIndexE18 = indexes.depositIndexE18 := by omega
      rw [← heq, Nat.mul_div_cancel _ (Nat.pos_of_ne_zero ha)]

/-- A debt before the fee is the exact quotient, rounded up. -/
lemma debtBeforeFee_eq (hdata : self.UpTo indexes) :
    self.debtBeforeFee indexes.debtIndexE18
      = (self.debt * indexes.debtIndexE18) ⌈/⌉ self.appliedDebtIndexE18 := by
  have hle : self.appliedDebtIndexE18 ≤ indexes.debtIndexE18 := hdata.le .debt
  rw [debtBeforeFee]
  split_ifs with hc
  · rfl
  · by_cases hb : self.debt = 0
    · rw [hb, Nat.zero_mul, zero_ceilDiv]
    · have ha : self.appliedDebtIndexE18 ≠ 0 := fun h => hb (hdata.zero .debt h)
      have heq : self.appliedDebtIndexE18 = indexes.debtIndexE18 := by omega
      rw [← heq, Nat.mul_comm]
      exact (smul_ceilDiv (Nat.pos_of_ne_zero ha) self.debt).symm

/-- Without an index that moved the values fit. -/
lemma accrualFits_of_le {reductions : FeeReductions} (hdeposit : self.deposit < 2 ^ 128)
    (hdebt : self.debt < 2 ^ 128) (hearned : fees.earnedFee < 2 ^ 128)
    (hd : indexes.depositIndexE18 ≤ self.appliedDepositIndexE18)
    (hb : indexes.debtIndexE18 ≤ self.appliedDebtIndexE18) :
    self.AccrualFits indexes fees reductions := by
  have hd' : self.depositBeforeFee indexes.depositIndexE18 = self.deposit := if_neg (by omega)
  have hb' : self.debtBeforeFee indexes.debtIndexE18 = self.debt := if_neg (by omega)
  constructor
  · rwa [hd']
  · rwa [hb']
  · rw [hb', Nat.sub_self, Nat.zero_mul, zero_ceilDiv]
    norm_num
  · rwa [debtCharge, hb', Nat.sub_self, feeCharge_zero, Nat.add_zero]
  · rwa [depositCharge, debtCharge, hd', hb', Nat.sub_self, Nat.sub_self, feeCharge_zero,
      feeCharge_zero, Nat.add_zero]

end

omit [Pendzl] in
/-- What is left of an interest after a fee that is taken from it. -/
lemma interest_of_taken {amount amount' before charge interest : ℕ}
    (hcharge : amount' + charge = before) (hinterest : amount' = amount + interest) :
    interest = before - amount - charge := by
  omega

omit [Pendzl] in
/-- What an interest comes to with a fee that is added to it. -/
lemma interest_of_added {amount amount' before charge interest : ℕ} (hle : amount ≤ before)
    (hcharge : amount' = before + charge) (hinterest : amount' = amount + interest) :
    interest = before - amount + charge := by
  omega

/-- What the interests and the fees of an accrual come to: both interests against the exact
ones, and the income against the difference. -/
lemma accumulateAccountInterest_bounds {reductions : FeeReductions} {r : Accrual}
    (hdata : self.UpTo indexes) (hfee : fees.depositFeeE6 ≤ E6)
    (h : self.accumulateAccountInterest indexes fees reductions = .ok r) :
    r.depositInterest ≤ self.deposit * indexes.depositIndexE18 / self.appliedDepositIndexE18
        - self.deposit
      ∧ (self.debt * indexes.debtIndexE18) ⌈/⌉ self.appliedDebtIndexE18 - self.debt
        ≤ r.debtInterest
      ∧ r.fees.earnedFee = fees.earnedFee
        + (self.deposit * indexes.depositIndexE18 / self.appliedDepositIndexE18 - self.deposit
          - r.depositInterest)
        + (r.debtInterest
          - ((self.debt * indexes.debtIndexE18) ⌈/⌉ self.appliedDebtIndexE18 - self.debt)) := by
  obtain ⟨hdeposit, hdebt, hfees⟩ := accumulateAccountInterest_amounts h
  obtain ⟨hdi, hbi, -⟩ := accumulateAccountInterest_spec h
  have hcharge : self.depositCharge indexes fees.depositFeeE6 reductions.1
      ≤ self.depositBeforeFee indexes.depositIndexE18 - self.deposit := feeCharge_le _ _ hfee
  have hd := interest_of_taken hdeposit hdi
  have hb := interest_of_added (debt_le_debtBeforeFee self _) hdebt hbi
  have hearned := congrArg ReserveFees.earnedFee hfees
  rw [← depositBeforeFee_eq hdata, ← debtBeforeFee_eq hdata, hd, hb, hearned]
  refine ⟨Nat.sub_le _ _, Nat.le_add_right _ _, ?_⟩
  rw [Nat.sub_sub_self hcharge, Nat.add_sub_cancel_left, Nat.add_assoc]

/-- An accrual returns when its values fit, and overflows otherwise. -/
lemma accumulateAccountInterest_returns {reductions : FeeReductions}
    (indexes : ReserveIndexes) (hfee : fees.depositFeeE6 ≤ E6) (hred : reductions.1 ≤ E6)
    (hred' : reductions.2 ≤ E6) (hdeposit : self.deposit < 2 ^ 128) (hdebt : self.debt < 2 ^ 128)
    (hearned : fees.earnedFee < 2 ^ 128) :
    (self.AccrualFits indexes fees reductions →
        ∃ r, self.accumulateAccountInterest indexes fees reductions = .ok r)
      ∧ (¬self.AccrualFits indexes fees reductions →
        self.accumulateAccountInterest indexes fees reductions
          = .error (.err (mathErr .overflow))) := by
  rw [accumulateAccountInterest]
  by_cases hc : indexes.depositIndexE18 ≤ self.appliedDepositIndexE18
      ∧ indexes.debtIndexE18 ≤ self.appliedDebtIndexE18
  · rw [if_pos hc]
    exact ⟨fun _ => ⟨_, rfl⟩,
      fun hno => absurd (accrualFits_of_le hdeposit hdebt hearned hc.1 hc.2) hno⟩
  · rw [if_neg hc, accumulateDeposit_eq hfee hred hdeposit hearned]
    by_cases hd : self.depositBeforeFee indexes.depositIndexE18 < 2 ^ 128
        ∧ fees.earnedFee + self.depositCharge indexes fees.depositFeeE6 reductions.1 < 2 ^ 128
    · rw [if_pos hd, ok_bind]
      dsimp only
      have hb := accumulateDebt_eq indexes
        ⟨fees.depositFeeE6, fees.debtFeeE6,
          fees.earnedFee + self.depositCharge indexes fees.depositFeeE6 reductions.1⟩
        hred' hdebt hd.2
      rw [hb]
      dsimp only
      constructor
      · intro hfits
        rw [if_pos ⟨hfits.debt, hfits.preFee, hfits.debtAfterFee, hfits.income⟩]
        exact ⟨_, rfl⟩
      · intro hno
        rw [if_neg fun h => hno ⟨hd.1, h.1, h.2.1, h.2.2.1, h.2.2.2⟩]
        rfl
    · rw [if_neg hd]
      refine ⟨fun hfits => absurd ⟨hfits.deposit, ?_⟩ hd, fun _ => rfl⟩
      exact (Nat.le_add_right _ _).trans_lt hfits.income

/-- **An accrual is complete, bounded and never underflows.**  It returns exactly when the
values it computes fit in 128 bits, and is an overflow otherwise.  What it returns adds both
interests to the amounts: the one on the deposit is at most the exact one rounded down, the
one on the debt at least the exact one rounded up, the differences are the income, and both
indexes are applied. -/
theorem accrual_complete {reductions : FeeReductions} (hdata : self.UpTo indexes)
    (hfee : fees.depositFeeE6 ≤ 10 ^ 6) (hred : reductions.1 ≤ 10 ^ 6)
    (hred' : reductions.2 ≤ 10 ^ 6) (hdeposit : self.deposit < 2 ^ 128)
    (hdebt : self.debt < 2 ^ 128) (hearned : fees.earnedFee < 2 ^ 128) :
    (self.AccrualFits indexes fees reductions →
      ∃ r, self.accumulateAccountInterest indexes fees reductions = .ok r
        ∧ r.data.deposit = self.deposit + r.depositInterest
        ∧ r.data.debt = self.debt + r.debtInterest
        ∧ r.depositInterest ≤ self.deposit * indexes.depositIndexE18
          / self.appliedDepositIndexE18 - self.deposit
        ∧ (self.debt * indexes.debtIndexE18) ⌈/⌉ self.appliedDebtIndexE18 - self.debt
          ≤ r.debtInterest
        ∧ r.fees.earnedFee = fees.earnedFee
          + (self.deposit * indexes.depositIndexE18 / self.appliedDepositIndexE18 - self.deposit
            - r.depositInterest)
          + (r.debtInterest
            - ((self.debt * indexes.debtIndexE18) ⌈/⌉ self.appliedDebtIndexE18 - self.debt))
        ∧ r.data.CaughtUp indexes)
      ∧ (¬self.AccrualFits indexes fees reductions →
        self.accumulateAccountInterest indexes fees reductions
          = .error (.err (mathErr .overflow)))
      ∧ self.accumulateAccountInterest indexes fees reductions
        ≠ .error (.err (mathErr .underflow)) := by
  obtain ⟨hreturns, hoverflows⟩ := accumulateAccountInterest_returns indexes hfee hred hred'
    hdeposit hdebt hearned
  refine ⟨fun hfits => ?_, hoverflows, fun h => ?_⟩
  · obtain ⟨r, hr⟩ := hreturns hfits
    obtain ⟨hd, hb, -⟩ := accumulateAccountInterest_spec hr
    obtain ⟨hdi, hbi, hincome⟩ := accumulateAccountInterest_bounds hdata hfee hr
    exact ⟨r, hr, hd, hb, hdi, hbi, hincome, accumulateAccountInterest_applied hdata hr⟩
  · by_cases hfits : self.AccrualFits indexes fees reductions
    · obtain ⟨r, hr⟩ := hreturns hfits
      rw [hr] at h
      cases h
    · rw [hoverflows hfits] at h
      cases h

end

attribute [local instance] Pendzl.exact in
/-- A deposit that grew by a tenth and a debt that grew by a fifth, with fees of a tenth. -/
theorem accrual_complete_sample :
    ∃ r, (⟨1000, 500, 10 ^ 18, 10 ^ 18⟩ : AccountReserveData).accumulateAccountInterest
        ⟨11 * 10 ^ 17, 12 * 10 ^ 17, 5⟩ ⟨10 ^ 5, 10 ^ 5, 7⟩ (0, 0) = .ok r
      ∧ r.depositInterest ≤ 100 ∧ 100 ≤ r.debtInterest := by
  have hdata : (⟨1000, 500, 10 ^ 18, 10 ^ 18⟩ : AccountReserveData).UpTo
      ⟨11 * 10 ^ 17, 12 * 10 ^ 17, 5⟩ :=
    ⟨fun side => by cases side <;> decide, fun side h => by cases side <;> cases h⟩
  have hfits : (⟨1000, 500, 10 ^ 18, 10 ^ 18⟩ : AccountReserveData).AccrualFits
      ⟨11 * 10 ^ 17, 12 * 10 ^ 17, 5⟩ ⟨10 ^ 5, 10 ^ 5, 7⟩ (0, 0) := by
    constructor <;> decide +kernel
  obtain ⟨r, hr, -, -, hdi, hbi, -, -⟩ := (accrual_complete hdata (by decide) (by decide)
    (by decide) (by decide) (by decide) (by decide)).1 hfits
  have hgross : 1000 * (11 * 10 ^ 17) / 10 ^ 18 - 1000 = 100 := by decide
  have hgross' : (500 * (12 * 10 ^ 17)) ⌈/⌉ 10 ^ 18 - 500 = 100 := by decide +kernel
  exact ⟨r, hr, hgross ▸ hdi, hgross' ▸ hbi⟩

end AccountReserveData

end AbaxLending
