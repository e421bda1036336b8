import AbaxLending.Pool.Accounting

/-!
The management section and the views of the pool.

* registering an asset, the market rules, and the setters;
* `viewProtocolIncome`, `takeProtocolIncome`: the loops over the earned fees;
* `totalDepositOf`, `accountDepositOf`, `totalDebtOf`, `accountDebtOf`: the
  supply and the balances that the aToken and the vToken show.
-/

namespace AbaxLending

open Outcome

namespace LendingPoolStorage

variable (self : LendingPoolStorage)

/-! ### Management -/

/-- `account_for_price_feed_provider_change`. -/
def accountForPriceFeedProviderChange (priceFeedProvider : AccountId) : LendingPoolStorage :=
  { self with priceFeedProvider := some priceFeedProvider }

/-- `account_for_fee_reduction_provider_change`. -/
def accountForFeeReductionProviderChange (feeReductionProvider : AccountId) :
    LendingPoolStorage :=
  { self with feeReductionProvider := some feeReductionProvider }

/-- `account_for_register_asset`. -/
def accountForRegisterAsset (asset : AccountId) (reserveData : ReserveData)
    (reserveRestrictions : ReserveRestrictions) (decimalMultiplier : ℕ)
    (reserveFees : ReserveFees) (interestRateModel : Option InterestRateModel)
    (timestamp : ℕ) : Res LendingPoolStorage := do
  failIf (self.assetToId.contains asset = true) .alreadyRegistered
  let id := self.assetCount
  let nextAssetId ← okOr (checkedAdd 32 id 1) (mathErr .overflow)
  return { self with
    assetToId := self.assetToId.insert asset id
    idToAsset := self.idToAsset.insert id asset
    reserveDatas := self.reserveDatas.insert id reserveData
    reserveRestrictions := self.reserveRestrictions.insert id reserveRestrictions
    reserveDecimalMultiplier := self.reserveDecimalMultiplier.insert id decimalMultiplier
    reserveIndexesAndFees :=
      self.reserveIndexesAndFees.insert id (ReserveIndexesAndFees.new timestamp reserveFees)
    twUrIndexes := self.twUrIndexes.insert id TwIndex.new
    interestRateModel :=
      match interestRateModel with
      | some model => self.interestRateModel.insert id model
      | none => self.interestRateModel
    nextAssetId := some nextAssetId }

/-- `account_for_set_abacus_tokens`. -/
def accountForSetAbacusTokens (asset : AccountId) (reserveAbacusTokens : ReserveAbacusTokens) :
    Res LendingPoolStorage := do
  failIf (self.assetToId.contains asset = false) .assetNotRegistered
  return { self with
    reserveAbacusTokens := self.reserveAbacusTokens.insert asset reserveAbacusTokens }

/-- `account_for_market_rule_change`. -/
def accountForMarketRuleChange (account : AccountId) (marketRuleId : ℕ) :
    Res LendingPoolStorage := do
  self.ensureMarketRuleInBounds marketRuleId
  let accountConfig := self.getAccountConfig account
  return self.putConfig account { accountConfig with marketRuleId }

/-- `account_for_changing_activity`. -/
def accountForChangingActivity (asset : AccountId) (active : Bool) :
    Res LendingPoolStorage := do
  let assetId ← self.assetId asset
  let reserveData ← self.getReserveData assetId
  let reserveData ← reserveData.setIsActive active
  return self.putReserveData assetId reserveData

/-- `account_for_changing_is_frozen`. -/
def accountForChangingIsFrozen (asset : AccountId) (newIsFrozen : Bool) :
    Res LendingPoolStorage := do
  let assetId ← self.assetId asset
  let reserveData ← self.getReserveData assetId
  let reserveData ← reserveData.setIsFrozen newIsFrozen
  return self.putReserveData assetId reserveData

/-- `account_for_reserve_restricitions_change`. -/
def accountForReserveRestricitionsChange (asset : AccountId)
    (reserveRestrictions : ReserveRestrictions) : Res LendingPoolStorage := do
  let assetId ← self.assetId asset
  return { self with
    reserveRestrictions := self.reserveRestrictions.insert assetId reserveRestrictions }

/-- `account_for_interest_rate_model_change`. -/
def accountForInterestRateModelChange [Pendzl] (asset : AccountId)
    (interestRateModel : InterestRateModel) (timestamp : ℕ) :
    Res LendingPoolStorage := do
  let assetId ← self.assetId asset
  failIf (self.interestRateModel.contains assetId = false) .assetIsProtocolStablecoin
  let reserveData ← self.getReserveData assetId
  let reserveIndexesAndFees ← self.getReserveIndexesAndFees assetId
  let indexes ← reserveIndexesAndFees.indexes.update reserveData timestamp
  let reserveData ← reserveData.recalculateCurrentRates interestRateModel
  let self := { self with
    interestRateModel := self.interestRateModel.insert assetId interestRateModel }
  return self.putReserve assetId reserveData { reserveIndexesAndFees with indexes }

/-- `account_for_reserve_fees_change`. -/
def accountForReserveFeesChange (asset : AccountId) (reserveFees : ReserveFees) :
    Res LendingPoolStorage := do
  let assetId ← self.assetId asset
  failIf (self.interestRateModel.contains assetId = false) .assetIsProtocolStablecoin
  let reserveIndexesAndFees ← self.getReserveIndexesAndFees assetId
  return self.putIndexesAndFees assetId { reserveIndexesAndFees with fees := reserveFees }

/-- `account_for_add_market_rule`: the storage and the id of the new rule. -/
def accountForAddMarketRule (marketRule : MarketRule) : Res (LendingPoolStorage × ℕ) := do
  let ruleId := self.nextRuleId.getD 0
  let nextRuleId ← unwrap (checkedAdd 32 ruleId 1)
  return ({ self with
    marketRules := self.marketRules.insert ruleId marketRule
    nextRuleId := some nextRuleId }, ruleId)

/-- `account_for_asset_rule_change`.  The old rule is read back from the vector
after the new one was written to it. -/
def accountForAssetRuleChange (marketRuleId : ℕ) (asset : AccountId)
    (assetRules : AssetRules) : Res LendingPoolStorage := do
  let assetId ← self.assetId asset
  self.ensureMarketRuleInBounds marketRuleId
  let marketRule ← unwrap (self.marketRules.get marketRuleId)
  let marketRule := marketRule ++ List.replicate (assetId + 1 - marketRule.length) none
  let marketRule := marketRule.set assetId (some assetRules)
  let oldAssetRule ← unwrap marketRule[assetId]?
  assetRules.validateNewRule oldAssetRule
  return { self with marketRules := self.marketRules.insert marketRuleId marketRule }

/-- `account_for_stablecoin_debt_rate_e18_change`. -/
def accountForStablecoinDebtRateE18Change (asset : AccountId) (debtRateE18 : ℕ) :
    Res LendingPoolStorage := do
  let assetId ← self.assetId asset
  failIf (self.interestRateModel.contains assetId = true) .assetIsNotProtocolStablecoin
  let reserveData ← self.getReserveData assetId
  return self.putReserveData assetId { reserveData with currentDebtRateE18 := debtRateE18 }

/-! ### Protocol income -/

/-- `_view_protocol_income`. -/
def viewProtocolIncome : List AccountId → Res (List (AccountId × ℕ))
  | [] => .ok []
  | asset :: rest => do
      let assetId ← self.assetId asset
      let reserve ← okOr (self.reserveIndexesAndFees.get assetId) .assetNotRegistered
      let result ← viewProtocolIncome rest
      return (asset, reserve.fees.takeEarnedFee.2) :: result

/-- `_take_protocol_income`: the storage with the fees cleared and the income of
each asset of the list. -/
def takeProtocolIncome (self : LendingPoolStorage) :
    List AccountId → Res (LendingPoolStorage × List (AccountId × ℕ))
  | [] => .ok (self, [])
  | asset :: rest => do
      let assetId ← self.assetId asset
      let reserve ← okOr (self.reserveIndexesAndFees.get assetId) .assetNotRegistered
      let (fees, income) := reserve.fees.takeEarnedFee
      let self := self.putIndexesAndFees assetId { reserve with fees }
      let (self, result) ← self.takeProtocolIncome rest
      return (self, (asset, income) :: result)

/-! ### Views -/

variable [Pendzl]

/-- `total_deposit_of`: the indexes are updated on a copy that is not used. -/
def totalDepositOf (asset : AccountId) (timestamp : ℕ) : Res ℕ := do
  let assetId ← self.assetId asset
  let reserveData ← self.getReserveData assetId
  let reserve ← self.getReserveIndexesAndFees assetId
  let _ ← reserve.indexes.update reserveData timestamp
  return reserveData.totalDeposit

/-- `total_debt_of`. -/
def totalDebtOf (asset : AccountId) (timestamp : ℕ) : Res ℕ := do
  let assetId ← self.assetId asset
  let reserveData ← self.getReserveData assetId
  let reserve ← self.getReserveIndexesAndFees assetId
  let _ ← reserve.indexes.update reserveData timestamp
  return reserveData.totalDebt

/-- The entry of an account in an asset, accrued at a timestamp: the common part
of `account_deposit_of` and `account_debt_of`. -/
def accruedDataOf (env : Env) (asset account : AccountId) (timestamp : ℕ) :
    Res AccountReserveData := do
  let assetId ← self.assetId asset
  let reserveData ← self.getReserveData assetId
  let reserve ← self.getReserveIndexesAndFees assetId
  let (accountReserveData, _) := self.getAccountReserveData assetId account
  let indexes ← reserve.indexes.update reserveData timestamp
  let accrual ← accountReserveData.accumulateAccountInterest indexes reserve.fees
    (self.getFeeReductionsOfAccount env account)
  return accrual.data

/-- `account_deposit_of`. -/
def accountDepositOf (env : Env) (asset account : AccountId) (timestamp : ℕ) :
    Res ℕ := do
  return (← self.accruedDataOf env asset account timestamp).deposit

/-- `account_debt_of`. -/
def accountDebtOf (env : Env) (asset account : AccountId) (timestamp : ℕ) :
    Res ℕ := do
  return (← self.accruedDataOf env asset account timestamp).debt

end LendingPoolStorage

end AbaxLending
