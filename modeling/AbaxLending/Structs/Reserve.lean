import AbaxLending.Structs.Rates

/-!
The data of a reserve: `reserve_data.rs`, `reserve_indexes_and_fees.rs`,
`tw.rs`, `asset_rules.rs` and `reserve_abacus_tokens.rs`.

* `ReserveData`: the switches, the two totals and the two current rates;
* `ReserveIndexes.update`: both interest indexes brought to a timestamp;
* `ReserveFees`: the fee parameters and the income earned so far;
* `TwIndex`, `TwEntry`: the ring of utilization snapshots;
* `AssetRules.validateNewRule`.
-/

namespace AbaxLending

open Outcome

/-- An account of the chain, 32 bytes. -/
structure AccountId where
  raw : Fin (2 ^ 256)
  deriving DecidableEq, Repr

instance : Fintype AccountId :=
  Fintype.ofEquiv (Fin (2 ^ 256)) ⟨AccountId.mk, AccountId.raw, fun _ => rfl, fun _ => rfl⟩

/-! ### `ReserveData` -/

/-- `ReserveData`. -/
structure ReserveData where
  activated : Bool
  frozen : Bool
  totalDeposit : ℕ
  currentDepositRateE18 : ℕ
  totalDebt : ℕ
  currentDebtRateE18 : ℕ
  deriving DecidableEq, Repr

namespace ReserveData

/-- `ReserveData::default()`. -/
def initial : ReserveData where
  activated := true
  frozen := false
  totalDeposit := 0
  currentDepositRateE18 := 0
  totalDebt := 0
  currentDebtRateE18 := 0

/-- `ReserveData::set_is_active`. -/
def setIsActive (self : ReserveData) (active : Bool) : Res ReserveData := do
  failIf (self.activated = active) (.reserveDataError .alreadySet)
  return { self with activated := active }

/-- `ReserveData::ensure_activated`. -/
def ensureActivated (self : ReserveData) : Res Unit :=
  failIf (self.activated = false) (.reserveDataError .inactive)

/-- `ReserveData::set_is_frozen`: the check reads `frozen`, the assignment
writes `activated`. -/
def setIsFrozen (self : ReserveData) (freeze : Bool) : Res ReserveData := do
  failIf (self.frozen = freeze) (.reserveDataError .alreadySet)
  return { self with activated := freeze }

/-- `ReserveData::ensure_not_frozen`. -/
def ensureNotFrozen (self : ReserveData) : Res Unit :=
  failIf (self.frozen = true) (.reserveDataError .frozen)

/-- `ReserveData::increase_total_deposit`. -/
def increaseTotalDeposit (self : ReserveData) (amount : ℕ) : Res ReserveData := do
  let totalDeposit ← okOr (checkedAdd 128 self.totalDeposit amount) (mathErr .overflow)
  return { self with totalDeposit }

/-- `ReserveData::decrease_total_deposit`. -/
def decreaseTotalDeposit (self : ReserveData) (amount : ℕ) : Res ReserveData := do
  let totalDeposit ← okOr (checkedSub self.totalDeposit amount) (mathErr .underflow)
  return { self with totalDeposit }

/-- `ReserveData::increase_total_debt`. -/
def increaseTotalDebt (self : ReserveData) (amount : ℕ) : Res ReserveData := do
  let totalDebt ← okOr (checkedAdd 128 self.totalDebt amount) (mathErr .overflow)
  return { self with totalDebt }

/-- `ReserveData::decrease_total_debt`. -/
def decreaseTotalDebt (self : ReserveData) (amount : ℕ) : Res ReserveData := do
  let totalDebt ← okOr (checkedSub self.totalDebt amount) (mathErr .underflow)
  return { self with totalDebt }

/-- `ReserveData::add_interests`. -/
def addInterests (self : ReserveData) (interests : ℕ × ℕ) : Res ReserveData := do
  let self ← self.increaseTotalDeposit interests.1
  self.increaseTotalDebt interests.2

variable [Pendzl]

/-- `ReserveData::current_utilization_rate_e6`. -/
def currentUtilizationRateE6 (self : ReserveData) : Res ℕ :=
  if self.totalDeposit = 0 then .ok E6
  else do
    let v ← mulDiv self.totalDebt E6 self.totalDeposit .down
    okOr (tryFrom 32 v) (mathErr .overflow)

/-- `ReserveData::recalculate_current_rates`. -/
def recalculateCurrentRates (self : ReserveData) (model : InterestRateModel) : Res ReserveData :=
  if self.totalDebt = 0 then
    .ok { self with currentDebtRateE18 := 0, currentDepositRateE18 := 0 }
  else do
    let utilizationRateE6 ← self.currentUtilizationRateE6
    let currentDebtRateE18 ← model.utilizationRateToInterestRateE18 utilizationRateE6
    let currentDepositRateE18 ←
      if self.totalDeposit ≠ 0 then
        e18MulE18DivE18ToE18Rdown self.totalDebt currentDebtRateE18 self.totalDeposit
      else .ok 0
    return { self with currentDebtRateE18, currentDepositRateE18 }

end ReserveData

/-! ### `ReserveFees` and `ReserveIndexes` -/

/-- `ReserveFees`. -/
structure ReserveFees where
  depositFeeE6 : ℕ
  debtFeeE6 : ℕ
  earnedFee : ℕ
  deriving DecidableEq, Repr

namespace ReserveFees

/-- `ReserveFees::new`. -/
def new (depositFeeE6 debtFeeE6 : ℕ) : ReserveFees := ⟨depositFeeE6, debtFeeE6, 0⟩

/-- `ReserveFees::increase_earned_fee`. -/
def increaseEarnedFee (self : ReserveFees) (amount : ℕ) : Res ReserveFees := do
  let earnedFee ← okOr (checkedAdd 128 self.earnedFee amount) (mathErr .overflow)
  return { self with earnedFee }

/-- `ReserveFees::take_earned_fee`: the cleared fees and the amount taken. -/
def takeEarnedFee (self : ReserveFees) : ReserveFees × ℕ :=
  ({ self with earnedFee := 0 }, self.earnedFee)

end ReserveFees

/-- `ReserveIndexes`. -/
structure ReserveIndexes where
  depositIndexE18 : ℕ
  debtIndexE18 : ℕ
  updateTimestamp : ℕ
  deriving DecidableEq, Repr

namespace ReserveIndexes

/-- `ReserveIndexes::new`. -/
def new (timestamp : ℕ) : ReserveIndexes := ⟨E18, E18, timestamp⟩

/-- One index of `ReserveIndexes::update`: unchanged while the rate or the total
is zero, otherwise multiplied by `10^18 + rate * delta` with the rounding `mul`. -/
def nextIndex (mul : ℕ → ℕ → Res ℕ) (index rate total deltaTimestamp : ℕ) : Res ℕ :=
  if rate ≠ 0 ∧ total ≠ 0 then do
    let interest ← e18MulE0ToE18 rate deltaTimestamp
    let multiplier ← okOr (checkedAdd 128 E18 interest) (mathErr .overflow)
    mul index multiplier
  else .ok index

variable [Pendzl]

/-- `ReserveIndexes::update`. -/
def update (self : ReserveIndexes) (reserveData : ReserveData) (timestamp : ℕ) :
    Res ReserveIndexes := do
  let deltaTimestamp ← okOr (checkedSub timestamp self.updateTimestamp) (mathErr .underflow)
  if deltaTimestamp = 0 then return self
  else
    let depositIndexE18 ← nextIndex e18MulE18ToE18Rdown self.depositIndexE18
      reserveData.currentDepositRateE18 reserveData.totalDeposit deltaTimestamp
    let debtIndexE18 ← nextIndex e18MulE18ToE18Rup self.debtIndexE18
      reserveData.currentDebtRateE18 reserveData.totalDebt deltaTimestamp
    return { depositIndexE18, debtIndexE18, updateTimestamp := timestamp }

end ReserveIndexes

/-- `ReserveIndexesAndFees`. -/
structure ReserveIndexesAndFees where
  indexes : ReserveIndexes
  fees : ReserveFees
  deriving DecidableEq, Repr

/-- `ReserveIndexesAndFees::new`. -/
def ReserveIndexesAndFees.new (timestamp : ℕ) (fees : ReserveFees) :
    ReserveIndexesAndFees := ⟨ReserveIndexes.new timestamp, fees⟩

/-! ### Time-weighted utilization entries -/

/-- `TW_INDEX_SIZE`. -/
abbrev TW_INDEX_SIZE : ℕ := 60

/-- `TwIndex`. -/
structure TwIndex where
  value : ℕ
  deriving DecidableEq, Repr

/-- `TwIndex::new`. -/
def TwIndex.new : TwIndex := ⟨0⟩

/-- `TwIndex::next`: the increment wraps at 32 bits before the remainder. -/
def TwIndex.next (self : TwIndex) : TwIndex := ⟨(self.value + 1) % 2 ^ 32 % TW_INDEX_SIZE⟩

/-- `TwEntry`; its default is the zero entry. -/
structure TwEntry where
  timestamp : ℕ
  accumulator : ℕ
  deriving DecidableEq, Repr, Inhabited

/-! ### Market rules and token addresses -/

/-- `AssetRules`. -/
structure AssetRules where
  collateralCoefficientE6 : Option ℕ
  borrowCoefficientE6 : Option ℕ
  penaltyE6 : Option ℕ
  deriving DecidableEq, Repr

/-- `AssetRules::validate_new_rule`. -/
def AssetRules.validateNewRule (self : AssetRules) (oldRule : Option AssetRules) : Res Unit := do
  match oldRule with
  | some old => do
      failIf (old.collateralCoefficientE6.isSome ∧ self.collateralCoefficientE6.isNone)
        (.assetRulesError .invalidAssetRule)
      failIf (old.borrowCoefficientE6.isSome ∧ self.borrowCoefficientE6.isNone)
        (.assetRulesError .invalidAssetRule)
  | none => pure ()
  failIf
    (((self.collateralCoefficientE6.isSome ∨ self.borrowCoefficientE6.isSome)
        ∧ self.penaltyE6.isNone)
      ∨ (self.collateralCoefficientE6.isNone ∧ self.borrowCoefficientE6.isNone
        ∧ self.penaltyE6.isNone))
    (.assetRulesError .invalidAssetRule)

/-- `MarketRule`. -/
abbrev MarketRule := List (Option AssetRules)

/-- `ReserveAbacusTokens`. -/
structure ReserveAbacusTokens where
  aTokenAddress : AccountId
  vTokenAddress : AccountId
  deriving DecidableEq, Repr

end AbaxLending
