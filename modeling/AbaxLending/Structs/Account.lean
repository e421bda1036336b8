import AbaxLending.Lib.Bitmap
import AbaxLending.Structs.Reserve

/-!
The data of an account: `account_config.rs`, `reserve_restrictions.rs`,
`account_reserve_data.rs`, `fee_reduction.rs` and `multi_op.rs`.

* `AccountConfig`: the three bitmaps and the chosen market rule.  Shifting a
  128-bit word by 128 or more traps (`bitMask`, `shiftRight`), as the contracts
  are built with overflow checks;
* `AccountReserveData`: the position of one account in one asset, its four
  increases and decreases, and `accumulateAccountInterest`, which settles the
  interest since the indexes applied last.
-/

namespace AbaxLending

open Outcome

/-! ### `AccountConfig` -/

/-- `Bitmap128`. -/
abbrev Bitmap128 := BitVec 128

/-- `AccountConfig`. -/
structure AccountConfig where
  deposits : Bitmap128
  collaterals : Bitmap128
  borrows : Bitmap128
  marketRuleId : ℕ
  deriving DecidableEq, Repr

/-- The derived default of `AccountConfig`. -/
instance : Inhabited AccountConfig := ⟨⟨0#128, 0#128, 0#128, 0⟩⟩

/-- `1_u128 << asset_id`. -/
def bitMask (assetId : ℕ) : Res Bitmap128 := do
  trapIf (128 ≤ assetId)
  return 1#128 <<< assetId

/-- `bitmap >> asset_id`. -/
def shiftRight (bitmap : Bitmap128) (assetId : ℕ) : Res Bitmap128 := do
  trapIf (128 ≤ assetId)
  return bitmap >>> assetId

namespace AccountConfig

/-- `if c { account_config.deposits &= !(1 << asset_id) }`. -/
def clearDepositIf (self : AccountConfig) (c : Prop) [Decidable c] (assetId : ℕ) :
    Res AccountConfig :=
  if c then do return { self with deposits := self.deposits &&& ~~~(← bitMask assetId) }
  else .ok self

/-- `if c { account_config.collaterals &= !(1 << asset_id) }`. -/
def clearCollateralIf (self : AccountConfig) (c : Prop) [Decidable c] (assetId : ℕ) :
    Res AccountConfig :=
  if c then do return { self with collaterals := self.collaterals &&& ~~~(← bitMask assetId) }
  else .ok self

/-- `if c { account_config.borrows &= !(1 << asset_id) }`. -/
def clearBorrowIf (self : AccountConfig) (c : Prop) [Decidable c] (assetId : ℕ) :
    Res AccountConfig :=
  if c then do return { self with borrows := self.borrows &&& ~~~(← bitMask assetId) }
  else .ok self

end AccountConfig

/-! ### `ReserveRestrictions` -/

/-- `ReserveRestrictions`. -/
structure ReserveRestrictions where
  maximalTotalDeposit : Option ℕ
  maximalTotalDebt : Option ℕ
  minimalCollateral : ℕ
  minimalDebt : ℕ
  deriving DecidableEq, Repr

/-- `FeeReductions`: the reductions of the deposit fee and of the debt fee. -/
abbrev FeeReductions := ℕ × ℕ

/-- `AccountReserveData`; its default is all zero. -/
structure AccountReserveData where
  deposit : ℕ
  debt : ℕ
  appliedDepositIndexE18 : ℕ
  appliedDebtIndexE18 : ℕ
  deriving DecidableEq, Repr, Inhabited

namespace ReserveRestrictions

/-- The comparison of both `ensure_max_total_*`: an absent bound allows everything. -/
def ensureMaxNotReached (bound : Option ℕ) (total : ℕ)
    (e : ReserveRestrictionsError) : Res Unit :=
  match bound with
  | some maximum => failIf (maximum < total) (.reserveRestrictionsError e)
  | none => .ok ()

/-- `ensure_max_total_deposit_not_reached`. -/
def ensureMaxTotalDepositNotReached (self : ReserveRestrictions) (reserveData : ReserveData) :
    Res Unit :=
  ensureMaxNotReached self.maximalTotalDeposit reserveData.totalDeposit .maxDepositReached

/-- `ensure_max_total_debt_not_reached`. -/
def ensureMaxTotalDebtNotReached (self : ReserveRestrictions) (reserveData : ReserveData) :
    Res Unit :=
  ensureMaxNotReached self.maximalTotalDebt reserveData.totalDebt .maxDebtReached

/-- `ensure_debt_exceeds_minimum`. -/
def ensureDebtExceedsMinimum (self : ReserveRestrictions) (data : AccountReserveData) :
    Res Unit :=
  failIf (data.debt ≠ 0 ∧ data.debt < self.minimalDebt) (.reserveRestrictionsError .minimalDebt)

/-- `ensure_collateral_exceeds_minimum`. -/
def ensureCollateralExceedsMinimum (self : ReserveRestrictions) (data : AccountReserveData) :
    Res Unit :=
  failIf (data.deposit < self.minimalCollateral) (.reserveRestrictionsError .minimalCollateral)

end ReserveRestrictions

/-! ### `AccountReserveData` -/

/-- What an increase or a decrease of a position writes. -/
structure Posting where
  data : AccountReserveData
  config : AccountConfig
  reserveData : ReserveData

/-- What the accrual of one side of a position computes: the new amount, the
fees with the fee taken, and the interest. -/
structure SideAccrual where
  amount : ℕ
  fees : ReserveFees
  interest : ℕ

/-- What `accumulate_account_interest` computes. -/
structure Accrual where
  data : AccountReserveData
  fees : ReserveFees
  depositInterest : ℕ
  debtInterest : ℕ

namespace AccountReserveData

/-- `increase_account_deposit`. -/
def increaseAccountDeposit (self : AccountReserveData) (assetId : ℕ)
    (config : AccountConfig) (reserveData : ReserveData) (amount : ℕ) : Res Posting := do
  let config := { config with deposits := config.deposits ||| (← bitMask assetId) }
  let deposit ← okOr (checkedAdd 128 self.deposit amount) (mathErr .overflow)
  let reserveData ← reserveData.increaseTotalDeposit amount
  return { data := { self with deposit }, config, reserveData }

/-- `decrease_account_deposit`: the deposit bit is cleared when the whole deposit
leaves, the collateral bit when less than the minimal collateral stays. -/
def decreaseAccountDeposit (self : AccountReserveData) (assetId : ℕ)
    (config : AccountConfig) (reserveData : ReserveData) (restrictions : ReserveRestrictions)
    (amount : ℕ) : Res Posting := do
  let config ← config.clearDepositIf (amount = self.deposit) assetId
  let deposit ← okOr (checkedSub self.deposit amount) (mathErr .underflow)
  let reserveData ← reserveData.decreaseTotalDeposit amount
  let config ← config.clearCollateralIf (deposit < restrictions.minimalCollateral) assetId
  return { data := { self with deposit }, config, reserveData }

/-- `increase_account_debt`. -/
def increaseAccountDebt (self : AccountReserveData) (assetId : ℕ)
    (config : AccountConfig) (reserveData : ReserveData) (amount : ℕ) : Res Posting := do
  let config := { config with borrows := config.borrows ||| (← bitMask assetId) }
  let debt ← okOr (checkedAdd 128 self.debt amount) (mathErr .overflow)
  let reserveData ← reserveData.increaseTotalDebt amount
  return { data := { self with debt }, config, reserveData }

/-- `decrease_account_debt`: the borrow bit is cleared when the whole debt is repaid. -/
def decreaseAccountDebt (self : AccountReserveData) (assetId : ℕ)
    (config : AccountConfig) (reserveData : ReserveData) (amount : ℕ) : Res Posting := do
  let config ← config.clearBorrowIf (amount = self.debt) assetId
  let debt ← okOr (checkedSub self.debt amount) (mathErr .underflow)
  let reserveData ← reserveData.decreaseTotalDebt amount
  return { data := { self with debt }, config, reserveData }

variable [Pendzl]

/-- The two-stage fee on an interest: the fee parameter and what the reduction
leaves of it, each rounded up. -/
def feeOn (interest feeE6 feeReductionE6 : ℕ) : Res ℕ := do
  let preFee ← e0MulE6ToE0Rup interest feeE6
  let feePartE6 ← unwrap (checkedSub E6 feeReductionE6)
  e0MulE6ToE0Rup preFee feePartE6

/-- The deposit half of `accumulate_account_interest`. -/
def accumulateDeposit (self : AccountReserveData) (indexes : ReserveIndexes)
    (fees : ReserveFees) (feeReductionE6 : ℕ) : Res SideAccrual :=
  if self.deposit ≠ 0 ∧ self.appliedDepositIndexE18 ≠ 0
      ∧ self.appliedDepositIndexE18 < indexes.depositIndexE18 then do
    let updatedDepositWithFee ← e0MulE18DivE18ToE0Rdown self.deposit
      indexes.depositIndexE18 self.appliedDepositIndexE18
    let interestWithFee ←
      okOr (checkedSub updatedDepositWithFee self.deposit) (mathErr .underflow)
    let fee ← feeOn interestWithFee fees.depositFeeE6 feeReductionE6
    let updatedDeposit ← okOr (checkedSub updatedDepositWithFee fee) (mathErr .underflow)
    let interest ← okOr (checkedSub updatedDeposit self.deposit) (mathErr .underflow)
    let fees ← fees.increaseEarnedFee fee
    return { amount := updatedDeposit, fees, interest }
  else .ok { amount := self.deposit, fees, interest := 0 }

/-- The debt half of `accumulate_account_interest`. -/
def accumulateDebt (self : AccountReserveData) (indexes : ReserveIndexes)
    (fees : ReserveFees) (feeReductionE6 : ℕ) : Res SideAccrual :=
  if self.debt ≠ 0 ∧ self.appliedDebtIndexE18 ≠ 0
      ∧ self.appliedDebtIndexE18 < indexes.debtIndexE18 then do
    let updatedBorrowWithNoFee ← e0MulE18DivE18ToE0Rup self.debt
      indexes.debtIndexE18 self.appliedDebtIndexE18
    let interestWithNoFee ←
      okOr (checkedSub updatedBorrowWithNoFee self.debt) (mathErr .underflow)
    let fee ← feeOn interestWithNoFee fees.debtFeeE6 feeReductionE6
    let updatedBorrow ← okOr (checkedAdd 128 updatedBorrowWithNoFee fee) (mathErr .overflow)
    let interest ← okOr (checkedSub updatedBorrow self.debt) (mathErr .underflow)
    let fees ← fees.increaseEarnedFee fee
    return { amount := updatedBorrow, fees, interest }
  else .ok { amount := self.debt, fees, interest := 0 }

/-- `accumulate_account_interest`. -/
def accumulateAccountInterest (self : AccountReserveData) (indexes : ReserveIndexes)
    (fees : ReserveFees) (feeReductions : FeeReductions) : Res Accrual :=
  if indexes.depositIndexE18 ≤ self.appliedDepositIndexE18
      ∧ indexes.debtIndexE18 ≤ self.appliedDebtIndexE18 then
    .ok { data := self, fees, depositInterest := 0, debtInterest := 0 }
  else do
    let onDeposit ← self.accumulateDeposit indexes fees feeReductions.1
    let onDebt ← self.accumulateDebt indexes onDeposit.fees feeReductions.2
    return {
      data := {
        deposit := onDeposit.amount
        debt := onDebt.amount
        appliedDepositIndexE18 := indexes.depositIndexE18
        appliedDebtIndexE18 := indexes.debtIndexE18 }
      fees := onDebt.fees
      depositInterest := onDeposit.interest
      debtInterest := onDebt.interest }

end AccountReserveData

/-! ### `multi_op.rs` -/

/-- `Operation`. -/
inductive Operation where
  | deposit
  | withdraw
  | borrow
  | repay
  deriving DecidableEq, Repr

/-- `Action` with its `OperationArgs`. -/
structure Action where
  op : Operation
  asset : AccountId
  amount : ℕ
  deriving DecidableEq, Repr

end AbaxLending
