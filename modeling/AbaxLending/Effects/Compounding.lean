import AbaxLending.Effects.Accruals
import AbaxLending.Lib.Rounding

/-!
Poking an account never favours its owner.

The two-stage fee is a levy on the interest, the deposit is scaled with a rounding down and the
debt with a rounding up.  So an accrual in between only costs: the roundings of `Lib.Rounding`
apply to both sides of a position.

* `feeCharge_levy`: the fee is monotone and subadditive in the interest;
* `accumulateAccountInterest_scaled`: an accrual is one step of the scaling;
* `accrual_stop_never_favours`: an accrual at an index in between lowers the deposit and raises
  the debt, or changes nothing.
-/

namespace AbaxLending

open Outcome

/-- The fee on an interest is a levy. -/
lemma feeCharge_levy (feeE6 reductionE6 : ℕ) :
    Rounded.Levy fun interest => feeCharge interest feeE6 reductionE6 :=
  (Rounded.Levy.share feeE6 E6).comp (Rounded.Levy.share (E6 - reductionE6) E6)

namespace AccountReserveData

section

variable [Pendzl] {self : AccountReserveData} {indexes first last : ReserveIndexes}
  {fees : ReserveFees} {reductions : FeeReductions} {a stop twice once : Accrual}

/-- An accrual scales both amounts from the applied indexes to the new ones. -/
lemma accumulateAccountInterest_scaled (hdata : self.UpTo indexes)
    (h : self.accumulateAccountInterest indexes fees reductions = .ok a) :
    a.data.deposit
        = Rounded.owned (fun i => feeCharge i fees.depositFeeE6 reductions.1) self.deposit
          self.appliedDepositIndexE18 indexes.depositIndexE18
      ∧ a.data.debt
        = Rounded.owed (fun i => feeCharge i fees.debtFeeE6 reductions.2) self.debt
          self.appliedDebtIndexE18 indexes.debtIndexE18 := by
  obtain ⟨hdeposit, hdebt, -⟩ := accumulateAccountInterest_amounts h
  have hgross : self.depositBeforeFee indexes.depositIndexE18
      = Rounded.floorScale self.deposit self.appliedDepositIndexE18 indexes.depositIndexE18 :=
    depositBeforeFee_eq hdata
  have hgross' : self.debtBeforeFee indexes.debtIndexE18
      = Rounded.ceilScale self.debt self.appliedDebtIndexE18 indexes.debtIndexE18 :=
    debtBeforeFee_eq hdata
  rw [depositCharge, hgross] at hdeposit
  rw [debtCharge, hgross'] at hdebt
  exact ⟨Nat.eq_sub_of_add_eq hdeposit, hdebt⟩

omit [Pendzl] in
/-- An entry with positive applied indexes is up to every later pair of indexes. -/
lemma upTo_of_le (hpos : ∀ side : Side, 0 < side.applied self)
    (hle : ∀ side : Side, side.applied self ≤ side.index indexes) : self.UpTo indexes :=
  ⟨hle, fun side hzero => absurd hzero (hpos side).ne'⟩

/-- **An accrual in between never favours the owner.**  For every entry with positive applied
indexes, and every pair of indexes that is followed by a later one: the accrual at the first pair
and then at the last one leaves a deposit of at most, and a debt of at least, what the accrual
at the last pair alone leaves, whatever income the reserve earned in the meantime. -/
theorem accrual_stop_never_favours {income income' : ℕ}
    (hpos : ∀ side : Side, 0 < side.applied self)
    (hfirst : ∀ side : Side, side.applied self ≤ side.index first)
    (hlast : ∀ side : Side, side.index first ≤ side.index last)
    (hfee : fees.depositFeeE6 ≤ 10 ^ 6)
    (hstop : self.accumulateAccountInterest first fees reductions = .ok stop)
    (htwice : stop.data.accumulateAccountInterest last { fees with earnedFee := income }
      reductions = .ok twice)
    (honce : self.accumulateAccountInterest last { fees with earnedFee := income' }
      reductions = .ok once) :
    twice.data.deposit ≤ once.data.deposit ∧ once.data.debt ≤ twice.data.debt := by
  have hdata : self.UpTo first := upTo_of_le hpos hfirst
  have happlied := accumulateAccountInterest_applied hdata hstop
  -- the first accrual leaves the entry at the first pair of indexes
  have hdata' : stop.data.UpTo last := by
    refine upTo_of_le (fun side => ?_) fun side => ?_
    · rw [happlied side]
      exact (hpos side).trans_le (hfirst side)
    · rw [happlied side]
      exact hlast side
  obtain ⟨hdeposit₁, hdebt₁⟩ := accumulateAccountInterest_scaled hdata hstop
  obtain ⟨hdeposit₂, hdebt₂⟩ := accumulateAccountInterest_scaled hdata' htwice
  obtain ⟨hdeposit, hdebt⟩ := accumulateAccountInterest_scaled
    (upTo_of_le hpos fun side => (hfirst side).trans (hlast side)) honce
  have hd : stop.data.appliedDepositIndexE18 = first.depositIndexE18 := happlied .deposit
  have hb : stop.data.appliedDebtIndexE18 = first.debtIndexE18 := happlied .debt
  constructor
  · rw [hdeposit₂, hdeposit, hdeposit₁, hd]
    exact Rounded.owned_stop (feeCharge_levy _ _) (fun i => feeCharge_le i _ hfee)
      (hpos .deposit) (hfirst .deposit) (hlast .deposit)
  · rw [hdebt₂, hdebt, hdebt₁, hb]
    exact Rounded.owed_stop (feeCharge_levy _ _) (hpos .debt) (hfirst .debt) (hlast .debt)

end

/-- A position in which the roundings show. -/
def sevenAndThree : AccountReserveData := ⟨7, 3, 10 ^ 18, 10 ^ 18⟩

attribute [local instance] Pendzl.exact in
/-- Accruals at one and a half and at two times the indexes, against one at two times: with
fees of a tenth the deposit is smaller by two units, and the debt is greater by two. -/
theorem accrual_stop_never_favours_sample :
    ∃ stop twice once, sevenAndThree.accumulateAccountInterest
          ⟨15 * 10 ^ 17, 15 * 10 ^ 17, 5⟩ ⟨10 ^ 5, 10 ^ 5, 0⟩ (0, 0) = .ok stop
      ∧ stop.data.accumulateAccountInterest ⟨2 * 10 ^ 18, 2 * 10 ^ 18, 9⟩ ⟨10 ^ 5, 10 ^ 5, 2⟩
          (0, 0) = .ok twice
      ∧ sevenAndThree.accumulateAccountInterest ⟨2 * 10 ^ 18, 2 * 10 ^ 18, 9⟩ ⟨10 ^ 5, 10 ^ 5, 0⟩
          (0, 0) = .ok once
      ∧ twice.data.deposit = 11 ∧ once.data.deposit = 13
      ∧ twice.data.debt = 9 ∧ once.data.debt = 7
      ∧ twice.data.deposit ≤ once.data.deposit ∧ once.data.debt ≤ twice.data.debt := by
  refine ⟨⟨⟨9, 6, 15 * 10 ^ 17, 15 * 10 ^ 17⟩, ⟨10 ^ 5, 10 ^ 5, 2⟩, 2, 3⟩,
    ⟨⟨11, 9, 2 * 10 ^ 18, 2 * 10 ^ 18⟩, ⟨10 ^ 5, 10 ^ 5, 4⟩, 2, 3⟩,
    ⟨⟨13, 7, 2 * 10 ^ 18, 2 * 10 ^ 18⟩, ⟨10 ^ 5, 10 ^ 5, 2⟩, 6, 4⟩, ?_⟩
  have hstop : sevenAndThree.accumulateAccountInterest
      ⟨15 * 10 ^ 17, 15 * 10 ^ 17, 5⟩ ⟨10 ^ 5, 10 ^ 5, 0⟩ (0, 0)
      = .ok ⟨⟨9, 6, 15 * 10 ^ 17, 15 * 10 ^ 17⟩, ⟨10 ^ 5, 10 ^ 5, 2⟩, 2, 3⟩ := rfl
  have htwice : (⟨9, 6, 15 * 10 ^ 17, 15 * 10 ^ 17⟩ : AccountReserveData).accumulateAccountInterest
      ⟨2 * 10 ^ 18, 2 * 10 ^ 18, 9⟩ ⟨10 ^ 5, 10 ^ 5, 2⟩ (0, 0)
      = .ok ⟨⟨11, 9, 2 * 10 ^ 18, 2 * 10 ^ 18⟩, ⟨10 ^ 5, 10 ^ 5, 4⟩, 2, 3⟩ := rfl
  have honce : sevenAndThree.accumulateAccountInterest
      ⟨2 * 10 ^ 18, 2 * 10 ^ 18, 9⟩ ⟨10 ^ 5, 10 ^ 5, 0⟩ (0, 0)
      = .ok ⟨⟨13, 7, 2 * 10 ^ 18, 2 * 10 ^ 18⟩, ⟨10 ^ 5, 10 ^ 5, 2⟩, 6, 4⟩ := rfl
  exact ⟨hstop, htwice, honce, rfl, rfl, rfl, rfl,
    accrual_stop_never_favours (fun side => by cases side <;> decide)
      (fun side => by cases side <;> decide) (fun side => by cases side <;> decide) (by decide)
      hstop htwice honce⟩

end AccountReserveData

end AbaxLending
