import AbaxLending.Spec.Accrual

/-!
Interest and fees in closed form.

An accrual first brings an amount to the current index (`depositBeforeFee`,
`debtBeforeFee`), and then charges a fee on the difference (`feeCharge`): the fee is taken
from the deposit and added to the debt, and goes into the income of the reserve.

* `accumulateAccountInterest_amounts`: what an accrual leaves, in these terms;
* `accumulateAccountInterest_iff`: it is the accrual of both sides, also when it returns
  early;
* `accumulateDebt_congr`: the accrual of a debt depends on the index only through
  `debtBeforeFee`.
-/

namespace AbaxLending

open Outcome

/-- The fee on an interest: the fee parameter and what the reduction leaves of it, each
rounded up. -/
def feeCharge (interest feeE6 reductionE6 : ℕ) : ℕ :=
  ((interest * feeE6) ⌈/⌉ E6 * (E6 - reductionE6)) ⌈/⌉ E6

lemma feeCharge_mono {interest interest' : ℕ} (h : interest ≤ interest') (feeE6 reductionE6 : ℕ) :
    feeCharge interest feeE6 reductionE6 ≤ feeCharge interest' feeE6 reductionE6 := by
  have hE : 0 < E6 := by norm_num
  have hpre : (interest * feeE6) ⌈/⌉ E6 ≤ (interest' * feeE6) ⌈/⌉ E6 :=
    (gc_smul_ceilDiv hE).monotone_l (Nat.mul_le_mul_right feeE6 h)
  exact (gc_smul_ceilDiv hE).monotone_l (Nat.mul_le_mul_right _ hpre)

@[simp] lemma feeCharge_zero (feeE6 reductionE6 : ℕ) : feeCharge 0 feeE6 reductionE6 = 0 := by
  simp [feeCharge]

/-- An amount with its fee determines the amount before the fee. -/
lemma eq_of_add_feeCharge {debt q q' feeE6 reductionE6 : ℕ}
    (h : q + feeCharge (q - debt) feeE6 reductionE6
      = q' + feeCharge (q' - debt) feeE6 reductionE6) : q = q' := by
  rcases Nat.lt_trichotomy q q' with hlt | heq | hgt
  · have hfee := feeCharge_mono (Nat.sub_le_sub_right hlt.le debt) feeE6 reductionE6
    omega
  · exact heq
  · have hfee := feeCharge_mono (Nat.sub_le_sub_right hgt.le debt) feeE6 reductionE6
    omega

namespace AccountReserveData

/-- The deposit brought to an index, before the fee. -/
def depositBeforeFee (self : AccountReserveData) (depositIndexE18 : ℕ) : ℕ :=
  if self.deposit ≠ 0 ∧ self.appliedDepositIndexE18 ≠ 0
      ∧ self.appliedDepositIndexE18 < depositIndexE18 then
    self.deposit * depositIndexE18 / self.appliedDepositIndexE18
  else self.deposit

/-- The debt brought to an index, before the fee. -/
def debtBeforeFee (self : AccountReserveData) (debtIndexE18 : ℕ) : ℕ :=
  if self.debt ≠ 0 ∧ self.appliedDebtIndexE18 ≠ 0
      ∧ self.appliedDebtIndexE18 < debtIndexE18 then
    (self.debt * debtIndexE18) ⌈/⌉ self.appliedDebtIndexE18
  else self.debt

/-- The fee that an accrual charges on a deposit. -/
def depositCharge (self : AccountReserveData) (indexes : ReserveIndexes) (feeE6 reductionE6 : ℕ) :
    ℕ := feeCharge (self.depositBeforeFee indexes.depositIndexE18 - self.deposit) feeE6 reductionE6

/-- The fee that an accrual charges on a debt. -/
def debtCharge (self : AccountReserveData) (indexes : ReserveIndexes) (feeE6 reductionE6 : ℕ) :
    ℕ := feeCharge (self.debtBeforeFee indexes.debtIndexE18 - self.debt) feeE6 reductionE6

/-- A debt that is brought to a greater index gets greater. -/
lemma debt_lt_debtBeforeFee {self : AccountReserveData} {index : ℕ}
    (h : self.debt ≠ 0 ∧ self.appliedDebtIndexE18 ≠ 0 ∧ self.appliedDebtIndexE18 < index) :
    self.debt < self.debtBeforeFee index := by
  have happlied : 0 < self.appliedDebtIndexE18 := Nat.pos_of_ne_zero h.2.1
  have hmul : self.debt * self.appliedDebtIndexE18 < self.debt * index :=
    Nat.mul_lt_mul_of_pos_left h.2.2 (Nat.pos_of_ne_zero h.1)
  rw [debtBeforeFee, if_pos h, Nat.ceilDiv_eq_add_pred_div]
  have hle : self.debt + 1
      ≤ (self.debt * index + self.appliedDebtIndexE18 - 1) / self.appliedDebtIndexE18 := by
    rw [Nat.le_div_iff_mul_le happlied, Nat.add_mul]
    omega
  omega

lemma debt_le_debtBeforeFee (self : AccountReserveData) (index : ℕ) :
    self.debt ≤ self.debtBeforeFee index := by
  by_cases h : self.debt ≠ 0 ∧ self.appliedDebtIndexE18 ≠ 0 ∧ self.appliedDebtIndexE18 < index
  · exact (debt_lt_debtBeforeFee h).le
  · rw [debtBeforeFee, if_neg h]

variable [Pendzl] {self : AccountReserveData} {indexes indexes' : ReserveIndexes}
  {fees : ReserveFees}

/-- A fee that is computed is the closed form. -/
lemma feeOn_ok {interest feeE6 reductionE6 fee : ℕ}
    (h : feeOn interest feeE6 reductionE6 = .ok fee) :
    fee = feeCharge interest feeE6 reductionE6 := by
  simp only [feeOn, e0MulE6ToE0Rup, bind_eq_ok, mulDiv_eq_ok, unwrap_eq_ok,
    checkedSub_eq_some] at h
  obtain ⟨pre, ⟨-, hpre, -⟩, part, hpart, -, hfee, -⟩ := h
  have hpart' : part = E6 - reductionE6 := by omega
  rw [hfee, hpre, hpart']
  rfl

/-- What the accrual of a deposit leaves. -/
lemma accumulateDeposit_amount {reductionE6 : ℕ} {r : SideAccrual}
    (h : self.accumulateDeposit indexes fees reductionE6 = .ok r) :
    r.amount + self.depositCharge indexes fees.depositFeeE6 reductionE6
        = self.depositBeforeFee indexes.depositIndexE18
      ∧ r.fees = { fees with
          earnedFee := fees.earnedFee + self.depositCharge indexes fees.depositFeeE6 reductionE6 }
      ∧ r.amount = self.deposit + r.interest := by
  rw [accumulateDeposit] at h
  split_ifs at h with hc
  · simp only [bind_eq_ok, e0MulE18DivE18ToE0Rdown, mulDiv_eq_ok, okOr_eq_ok,
      checkedSub_eq_some, ReserveFees.increaseEarnedFee, checkedAdd_eq_some, pure_eq,
      Except.ok.injEq] at h
    obtain ⟨gross, ⟨_, hgross, _⟩, grossInterest, h1, fee, hfee, updated, h2, interest, h3, fees',
      ⟨earned, ⟨rfl, _⟩, rfl⟩, rfl⟩ := h
    have hbefore : self.depositBeforeFee indexes.depositIndexE18 = gross := by
      rw [depositBeforeFee, if_pos hc, hgross, exactDiv]
    have hinterest : gross - self.deposit = grossInterest := by omega
    rw [depositCharge, hbefore, hinterest, ← feeOn_ok hfee]
    exact ⟨h2.symm, rfl, by rw [h3, add_comm]⟩
  · simp only [Except.ok.injEq] at h
    subst h
    have hbefore : self.depositBeforeFee indexes.depositIndexE18 = self.deposit := if_neg hc
    rw [depositCharge, hbefore, Nat.sub_self, feeCharge_zero]
    exact ⟨rfl, rfl, rfl⟩

/-- What the accrual of a debt leaves. -/
lemma accumulateDebt_amount {reductionE6 : ℕ} {r : SideAccrual}
    (h : self.accumulateDebt indexes fees reductionE6 = .ok r) :
    r.amount = self.debtBeforeFee indexes.debtIndexE18
        + self.debtCharge indexes fees.debtFeeE6 reductionE6
      ∧ r.fees = { fees with
          earnedFee := fees.earnedFee + self.debtCharge indexes fees.debtFeeE6 reductionE6 }
      ∧ r.amount = self.debt + r.interest := by
  rw [accumulateDebt] at h
  split_ifs at h with hc
  · simp only [bind_eq_ok, e0MulE18DivE18ToE0Rup, mulDiv_eq_ok, okOr_eq_ok,
      checkedSub_eq_some, ReserveFees.increaseEarnedFee, checkedAdd_eq_some, pure_eq,
      Except.ok.injEq] at h
    obtain ⟨gross, ⟨_, hgross, _⟩, grossInterest, h1, fee, hfee, updated, ⟨h2, _⟩, interest, h3,
      fees', ⟨earned, ⟨rfl, _⟩, rfl⟩, rfl⟩ := h
    have hbefore : self.debtBeforeFee indexes.debtIndexE18 = gross := by
      rw [debtBeforeFee, if_pos hc, hgross, exactDiv]
    have hinterest : gross - self.debt = grossInterest := by omega
    rw [debtCharge, hbefore, hinterest, ← feeOn_ok hfee]
    exact ⟨h2.symm, rfl, by rw [h3, add_comm]⟩
  · simp only [Except.ok.injEq] at h
    subst h
    have hbefore : self.debtBeforeFee indexes.debtIndexE18 = self.debt := if_neg hc
    rw [debtCharge, hbefore, Nat.sub_self, feeCharge_zero]
    exact ⟨rfl, rfl, rfl⟩

/-- The accrual of a debt depends on the index only through the debt before the fee. -/
lemma accumulateDebt_congr {reductionE6 : ℕ}
    (h : self.debtBeforeFee indexes'.debtIndexE18 = self.debtBeforeFee indexes.debtIndexE18) :
    self.accumulateDebt indexes' fees reductionE6
      = self.accumulateDebt indexes fees reductionE6 := by
  by_cases hc : self.debt ≠ 0 ∧ self.appliedDebtIndexE18 ≠ 0
      ∧ self.appliedDebtIndexE18 < indexes.debtIndexE18
  · by_cases hc' : self.debt ≠ 0 ∧ self.appliedDebtIndexE18 ≠ 0
        ∧ self.appliedDebtIndexE18 < indexes'.debtIndexE18
    · -- both indexes give the same quotient, and nothing else reads them
      have hquotient : e0MulE18DivE18ToE0Rup self.debt indexes'.debtIndexE18
            self.appliedDebtIndexE18
          = e0MulE18DivE18ToE0Rup self.debt indexes.debtIndexE18 self.appliedDebtIndexE18 := by
        rw [debtBeforeFee, debtBeforeFee, if_pos hc, if_pos hc'] at h
        have hpos : 0 < self.appliedDebtIndexE18 := Nat.pos_of_ne_zero hc.2.1
        rw [e0MulE18DivE18ToE0Rup, e0MulE18DivE18ToE0Rup, mulDiv, mulDiv,
          Pendzl.mulDiv_pos _ _ _ _ hpos, Pendzl.mulDiv_pos _ _ _ _ hpos, exactDiv, exactDiv, h]
      rw [accumulateDebt, accumulateDebt, if_pos hc, if_pos hc', hquotient]
    · rw [debtBeforeFee, if_neg hc'] at h
      exact absurd h (debt_lt_debtBeforeFee hc).ne
  · by_cases hc' : self.debt ≠ 0 ∧ self.appliedDebtIndexE18 ≠ 0
        ∧ self.appliedDebtIndexE18 < indexes'.debtIndexE18
    · rw [debtBeforeFee.eq_def self indexes.debtIndexE18, if_neg hc] at h
      exact absurd h.symm (debt_lt_debtBeforeFee hc').ne
    · rw [accumulateDebt, accumulateDebt, if_neg hc, if_neg hc']

/-- An accrual accrues both sides, also when it returns early. -/
lemma accumulateAccountInterest_iff {reductions : FeeReductions} {deposit debt : ℕ} :
    (∃ a, self.accumulateAccountInterest indexes fees reductions = .ok a
        ∧ a.data.deposit = deposit ∧ a.data.debt = debt)
      ↔ ∃ p q, self.accumulateDeposit indexes fees reductions.1 = .ok p
        ∧ self.accumulateDebt indexes p.fees reductions.2 = .ok q
        ∧ p.amount = deposit ∧ q.amount = debt := by
  rw [accumulateAccountInterest]
  split_ifs with hc
  · have hd : self.accumulateDeposit indexes fees reductions.1 = .ok ⟨self.deposit, fees, 0⟩ :=
      if_neg (by omega)
    have hb : self.accumulateDebt indexes fees reductions.2 = .ok ⟨self.debt, fees, 0⟩ :=
      if_neg (by omega)
    rw [hd]
    constructor
    · rintro ⟨a, ha, rfl, rfl⟩
      cases ha
      exact ⟨_, _, rfl, hb, rfl, rfl⟩
    · rintro ⟨p, q, hp, hq, rfl, rfl⟩
      cases hp
      cases hb.symm.trans hq
      exact ⟨_, rfl, rfl, rfl⟩
  · simp only [bind_eq_ok, pure_eq, Except.ok.injEq]
    constructor
    · rintro ⟨a, ⟨p, hp, q, hq, rfl⟩, rfl, rfl⟩
      exact ⟨p, q, hp, hq, rfl, rfl⟩
    · rintro ⟨p, q, hp, hq, rfl, rfl⟩
      exact ⟨_, ⟨p, hp, q, hq, rfl⟩, rfl, rfl⟩

/-- **What an accrual leaves**: both amounts brought to the indexes, with the fees taken from
the deposit and added to the debt, and the income with both fees. -/
theorem accumulateAccountInterest_amounts {reductions : FeeReductions} {a : Accrual}
    (h : self.accumulateAccountInterest indexes fees reductions = .ok a) :
    a.data.deposit + self.depositCharge indexes fees.depositFeeE6 reductions.1
        = self.depositBeforeFee indexes.depositIndexE18
      ∧ a.data.debt = self.debtBeforeFee indexes.debtIndexE18
        + self.debtCharge indexes fees.debtFeeE6 reductions.2
      ∧ a.fees = { fees with
          earnedFee := fees.earnedFee + (self.depositCharge indexes fees.depositFeeE6 reductions.1
            + self.debtCharge indexes fees.debtFeeE6 reductions.2) } := by
  rw [accumulateAccountInterest] at h
  split_ifs at h with hc
  · have hd : self.accumulateDeposit indexes fees reductions.1 = .ok ⟨self.deposit, fees, 0⟩ :=
      if_neg (by omega)
    have hb : self.accumulateDebt indexes fees reductions.2 = .ok ⟨self.debt, fees, 0⟩ :=
      if_neg (by omega)
    cases h
    obtain ⟨hd1, hd2, -⟩ := accumulateDeposit_amount hd
    obtain ⟨hb1, hb2, -⟩ := accumulateDebt_amount hb
    refine ⟨hd1, hb1, ?_⟩
    have he := congrArg ReserveFees.earnedFee hd2
    have he' := congrArg ReserveFees.earnedFee hb2
    simp only at he he'
    rw [← Nat.add_assoc, ← he, ← he']
  · simp only [bind_eq_ok, pure_eq, Except.ok.injEq] at h
    obtain ⟨p, hp, q, hq, rfl⟩ := h
    obtain ⟨hd1, hd2, -⟩ := accumulateDeposit_amount hp
    obtain ⟨hb1, hb2, -⟩ := accumulateDebt_amount hq
    rw [hd2] at hb1 hb2
    exact ⟨hd1, hb1, by rw [hb2, Nat.add_assoc]⟩

end AccountReserveData

namespace ReserveIndexes

variable [Pendzl] {self indexes : ReserveIndexes} {rd : ReserveData} {t : ℕ}

omit [Pendzl] in
/-- An index does not change while no time passes. -/
lemma nextIndex_zero {mul : ℕ → ℕ → Res ℕ} (hmul : ∀ a, mul a E18 = .ok a) (index rate total : ℕ) :
    nextIndex mul index rate total 0 = .ok index := by
  have hinterest : e18MulE0ToE18 rate 0 = .ok 0 := by
    rw [e18MulE0ToE18, unwrap_eq_ok, checkedMul_eq_some]
    exact ⟨Nat.mul_zero rate, by rw [Nat.mul_zero]; norm_num⟩
  have hmultiplier : okOr (checkedAdd 128 E18 0) (mathErr .overflow) = .ok E18 := by
    rw [okOr_eq_ok, checkedAdd_eq_some]
    exact ⟨Nat.add_zero E18, by norm_num⟩
  rw [nextIndex]
  split_ifs with hc
  · rw [hinterest, ok_bind, hmultiplier, ok_bind, hmul]
  · rfl

lemma e18MulE18ToE18Rdown_one (a : ℕ) : e18MulE18ToE18Rdown a E18 = .ok a := by
  rw [e18MulE18ToE18Rdown, if_pos (Eq.refl E18)]
  split_ifs with h
  · rw [h]
  · rfl

lemma e18MulE18ToE18Rup_one (a : ℕ) : e18MulE18ToE18Rup a E18 = .ok a := by
  rw [e18MulE18ToE18Rup, if_pos (Eq.refl E18)]
  split_ifs with h
  · rw [h]
  · rfl

/-- **An update grows both indexes by their rates** for the time since the last one. -/
theorem update_eq_ok :
    self.update rd t = .ok indexes ↔ self.updateTimestamp ≤ t
      ∧ nextIndex e18MulE18ToE18Rdown self.depositIndexE18 rd.currentDepositRateE18 rd.totalDeposit
        (t - self.updateTimestamp) = .ok indexes.depositIndexE18
      ∧ nextIndex e18MulE18ToE18Rup self.debtIndexE18 rd.currentDebtRateE18 rd.totalDebt
        (t - self.updateTimestamp) = .ok indexes.debtIndexE18
      ∧ indexes.updateTimestamp = t := by
  obtain ⟨d, b, u⟩ := indexes
  simp only [update, bind_eq_ok, okOr_eq_ok, checkedSub_eq_some]
  constructor
  · rintro ⟨delta, hdelta, h⟩
    have hsub : t - self.updateTimestamp = delta := by omega
    have hle : self.updateTimestamp ≤ t := by omega
    rw [hsub]
    split_ifs at h with h0
    · simp only [pure_eq, Except.ok.injEq] at h
      rw [h0, nextIndex_zero e18MulE18ToE18Rdown_one, nextIndex_zero e18MulE18ToE18Rup_one]
      have hu : self.updateTimestamp = t := by omega
      rw [h] at hu ⊢
      exact ⟨hu.le, rfl, rfl, hu⟩
    · simp only [bind_eq_ok, pure_eq, Except.ok.injEq, ReserveIndexes.mk.injEq] at h
      obtain ⟨_, hd, _, hb, rfl, rfl, rfl⟩ := h
      exact ⟨by omega, hd, hb, rfl⟩
  · rintro ⟨hle, hd, hb, rfl⟩
    refine ⟨u - self.updateTimestamp, by omega, ?_⟩
    split_ifs with h0
    · rw [h0, nextIndex_zero e18MulE18ToE18Rdown_one, Except.ok.injEq] at hd
      rw [h0, nextIndex_zero e18MulE18ToE18Rup_one, Except.ok.injEq] at hb
      have hu : self.updateTimestamp = u := by omega
      rw [← hd, ← hb, ← hu]
      rfl
    · rw [hd, ok_bind, hb]
      rfl

end ReserveIndexes

end AbaxLending
