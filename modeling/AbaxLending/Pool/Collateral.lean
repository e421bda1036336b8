import AbaxLending.Pool.Storage

/-!
The calculation section of the pool: lending power, the collateral check and the
amount a liquidation takes.

`calculateLendingPowerE6` walks the asset ids upwards, skips the assets that are
neither an active collateral nor borrowed, and stops once no higher bit is left.
It accrues each active entry with the indexes as they are stored, without
bringing them to the block time first.
-/

namespace AbaxLending

open Outcome

variable [Pendzl]

/-- One side of one asset in `calculate_lending_power_e6`: the value of the
amount weighed by the coefficient, added to the power so far.  The value is
computed before the coefficient is looked up. -/
def addLendingPower (power amount priceE18 decimalMultiplier : ℕ) (coefficientE6 : Option ℕ)
    (disabled : LendingPoolError) : Res ℕ := do
  let valueE8 ← calculateAssetAmountValueE8 amount priceE18 decimalMultiplier
  let coefficientE6 ← okOr coefficientE6 disabled
  okOr (checkedAdd 128 power (← e8MulE6ToE6Rdown valueE8 coefficientE6)) (mathErr .overflow)

namespace LendingPoolStorage

variable (self : LendingPoolStorage)

/-- The test of one bitmap in `calculate_lending_power_e6`: an asset with its bit
set adds the weighed value of its amount. -/
def addSidePower (bitmap : Bitmap128) (pricesE18 : List ℕ) (assetId amount : ℕ)
    (coefficientE6 : Option ℕ) (disabled : LendingPoolError) (power : ℕ) : Res ℕ := do
  let shifted ← shiftRight bitmap assetId
  if shifted &&& 1#128 = 1#128 then do
    let price ← unwrap pricesE18[assetId]?
    let multiplier ← self.getDecimalMultiplier assetId
    addLendingPower power amount price multiplier coefficientE6 disabled
  else return power

/-- The body of the loop of `calculate_lending_power_e6` for an active asset:
the collateral power and the debt power with this asset added. -/
def addAssetPower (marketRule : MarketRule) (collaterals debts : Bitmap128)
    (feeReductions : FeeReductions) (pricesE18 : List ℕ) (assetId : ℕ)
    (accountReserveData : AccountReserveData) (powers : ℕ × ℕ) : Res (ℕ × ℕ) := do
  -- Reserve indexes are not updated
  let reserve ← self.getReserveIndexesAndFees assetId
  let accrual ← accountReserveData.accumulateAccountInterest reserve.indexes reserve.fees
    feeReductions
  let rules := marketRule[assetId]?.join
  let collateralPower ← self.addSidePower collaterals pricesE18 assetId accrual.data.deposit
    (rules.bind AssetRules.collateralCoefficientE6) .ruleCollateralDisable powers.1
  let debtPower ← self.addSidePower debts pricesE18 assetId accrual.data.debt
    (rules.bind AssetRules.borrowCoefficientE6) .ruleBorrowDisable powers.2
  return (collateralPower, debtPower)

/-- The loop of `calculate_lending_power_e6` from an asset id on, with the
number of ids left. -/
def lendingPowerLoop (marketRule : MarketRule) (collaterals debts : Bitmap128)
    (accountReserveDatas : List (Option AccountReserveData)) (feeReductions : FeeReductions)
    (pricesE18 : List ℕ) : ℕ → ℕ → ℕ × ℕ → Res (ℕ × ℕ)
  | 0, _, powers => .ok powers
  | left + 1, assetId, powers => do
      let shifted ← shiftRight (collaterals ||| debts) assetId
      if shifted = 0#128 then return powers
      else if shifted &&& 1#128 = 0#128 then
        lendingPowerLoop marketRule collaterals debts accountReserveDatas feeReductions pricesE18
          left (assetId + 1) powers
      else
        match ← unwrap accountReserveDatas[assetId]? with
        | none =>
            lendingPowerLoop marketRule collaterals debts accountReserveDatas feeReductions
              pricesE18 left (assetId + 1) powers
        | some accountReserveData => do
            let powers ← self.addAssetPower marketRule collaterals debts feeReductions pricesE18
              assetId accountReserveData powers
            lendingPowerLoop marketRule collaterals debts accountReserveDatas feeReductions
              pricesE18 left (assetId + 1) powers

/-- `calculate_lending_power_e6`: whether the collateral power covers the debt
power, and their difference. -/
def calculateLendingPowerE6 (accountReserveDatas : List (Option AccountReserveData))
    (accountConfig : AccountConfig) (feeReductions : FeeReductions) (pricesE18 : List ℕ) :
    Res (Bool × ℕ) := do
  let marketRule ← self.getMarketRule accountConfig
  let collaterals := accountConfig.deposits &&& accountConfig.collaterals
  let debts := accountConfig.borrows
  let powers ← self.lendingPowerLoop marketRule collaterals debts accountReserveDatas
    feeReductions pricesE18 self.assetCount 0 (0, 0)
  if powers.2 ≤ powers.1 then return (true, powers.1 - powers.2)
  else return (false, powers.2 - powers.1)

/-- `calculate_lending_power_of_an_account_e6`.  The prices are asked for after
the account is read, which changes nothing else. -/
def calculateLendingPowerOfAnAccountE6 (env : Env) (account : AccountId) : Res (Bool × ℕ) := do
  let pricesE18 ← self.getAssetsPricesE18 env
  self.calculateLendingPowerE6 (self.getAccountDatas account) (self.getAccountConfig account)
    (self.getFeeReductionsOfAccount env account) pricesE18

/-- `ensure_collateralized`. -/
def ensureCollateralized (accountReserveDatas : List (Option AccountReserveData))
    (accountConfig : AccountConfig) (feeReductions : FeeReductions) (pricesE18 : List ℕ) :
    Res Unit := do
  let power ← self.calculateLendingPowerE6 accountReserveDatas accountConfig feeReductions
    pricesE18
  failIf (power.1 = false) .insufficientCollateral

/-- `ensure_collateralized_from_raw`. -/
def ensureCollateralizedFromRaw (env : Env)
    (accountReserveDatas : List (Option AccountReserveData)) (accountConfig : AccountConfig)
    (feeReductions : FeeReductions) : Res Unit := do
  let pricesE18 ← self.getAssetsPricesE18 env
  self.ensureCollateralized accountReserveDatas accountConfig feeReductions pricesE18

/-- `ensure_collateralized_by_account`. -/
def ensureCollateralizedByAccount (env : Env) (account : AccountId) : Res Unit :=
  self.ensureCollateralizedFromRaw env (self.getAccountDatas account)
    (self.getAccountConfig account) (self.getFeeReductionsOfAccount env account)

omit [Pendzl] in
/-- `calculate_liquidated_amount_and_ensure_collateralized`: the collateral bit
and the market rule are those of the stored config. -/
def calculateLiquidatedAmountAndEnsureCollateralized (account : AccountId)
    (assetToRepayId assetToTakeId : ℕ)
    (assetToRepayPriceE18 assetToTakePriceE18 amountToRepay : ℕ) : Res ℕ := do
  let accountConfig ← okOr (self.accountConfigs.get account) .nothingToRepay
  failIf ((← shiftRight accountConfig.collaterals assetToTakeId) &&& 1#128 ≠ 1#128)
    .takingNotACollateral
  let reserveToRepayDecimalMultiplier ← self.getDecimalMultiplier assetToRepayId
  let reserveToTakeDecimalMultiplier ← self.getDecimalMultiplier assetToTakeId
  let marketRule ← self.getMarketRule accountConfig
  let penaltyToRepayE6 ← getPenalty marketRule assetToRepayId
  let penaltyToTakeE6 ← getPenalty marketRule assetToTakeId
  calculateAmountToTake amountToRepay assetToRepayPriceE18 assetToTakePriceE18
    reserveToRepayDecimalMultiplier reserveToTakeDecimalMultiplier penaltyToRepayE6
    penaltyToTakeE6

end LendingPoolStorage

end AbaxLending
