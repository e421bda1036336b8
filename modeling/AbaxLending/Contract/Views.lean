import AbaxLending.Contract.Messages

/-!
The views of the pool, and the contract that reads them in bulk.

`LendingPoolView` follows `view.rs`: the functions that anybody may call, and that return what
is stored, or what is stored brought to the time of the call.  A view has no error to return,
so it traps where another function would fail.  `BalanceViewer` calls a view for every asset
of a list, or for all registered assets.
-/

namespace AbaxLending

open Outcome

namespace LendingPoolView

variable (s : LendingPoolStorage) (env : Env)

/-! ### What is stored -/

/-- `view_flash_loan_fee_e6`. -/
def viewFlashLoanFeeE6 : Res ℕ := unwrap s.flashLoanFeeE6

/-- `view_asset_id`. -/
def viewAssetId (asset : AccountId) : Option ℕ := s.assetToId.get asset

/-- `view_registered_assets`. -/
def viewRegisteredAssets : Res (List AccountId) := s.getAllRegisteredAssets

/-- `view_reserve_data`. -/
def viewReserveData (asset : AccountId) : Option ReserveData :=
  (s.assetToId.get asset).bind s.reserveDatas.get

/-- `view_interest_rate_model`. -/
def viewInterestRateModel (asset : AccountId) : Option InterestRateModel :=
  (s.assetToId.get asset).bind s.interestRateModel.get

/-- `view_reserve_restrictions`. -/
def viewReserveRestrictions (asset : AccountId) : Option ReserveRestrictions :=
  (s.assetToId.get asset).bind s.reserveRestrictions.get

/-- `view_asset_tw_index`. -/
def viewAssetTwIndex (asset : AccountId) : Option TwIndex :=
  (s.assetToId.get asset).bind s.twUrIndexes.get

/-- `view_reserve_tokens`. -/
def viewReserveTokens (asset : AccountId) : Option ReserveAbacusTokens :=
  s.reserveAbacusTokens.get asset

/-- `view_reserve_decimal_multiplier`: an asset that is not registered traps. -/
def viewReserveDecimalMultiplier (asset : AccountId) : Res (Option ℕ) := do
  let assetId ← unwrap (s.assetToId.get asset)
  return s.reserveDecimalMultiplier.get assetId

/-- `view_unupdated_reserve_indexes`. -/
def viewUnupdatedReserveIndexes (asset : AccountId) : Res (Option ReserveIndexes) :=
  match s.assetToId.get asset with
  | some assetId => do
      let reserve ← s.getReserveIndexesAndFees assetId
      return some reserve.indexes
  | none => .ok none

/-- `view_reserve_fees`. -/
def viewReserveFees (asset : AccountId) : Res (Option ReserveFees) :=
  match s.assetToId.get asset with
  | some assetId => do
      let reserve ← s.getReserveIndexesAndFees assetId
      return some reserve.fees
  | none => .ok none

/-- The entry that is shown of an asset that is not registered. -/
def noReserveData : AccountReserveData where
  deposit := 0
  debt := 0
  appliedDepositIndexE18 := E18
  appliedDebtIndexE18 := E18

/-- `view_unupdated_account_reserve_data`. -/
def viewUnupdatedAccountReserveData (asset account : AccountId) : AccountReserveData :=
  match s.assetToId.get asset with
  | some assetId => (s.getAccountReserveData assetId account).1
  | none => noReserveData

/-- `view_account_config`. -/
def viewAccountConfig (account : AccountId) : AccountConfig :=
  (s.accountConfigs.get account).getD default

/-- `view_market_rule`. -/
def viewMarketRule (marketRuleId : ℕ) : Option MarketRule := s.marketRules.get marketRuleId

/-- `view_asset_tw_entries`. -/
def viewAssetTwEntries (asset : AccountId) (first last : ℕ) : List (Option TwEntry) :=
  match s.assetToId.get asset with
  | some assetId => (List.range' first (last - first)).map fun i => s.twUrEntries.get (assetId, i)
  | none => []

/-- `view_protocol_income`. -/
def viewProtocolIncome (assets : Option (List AccountId)) : Res (List (AccountId × ℕ)) :=
  match assets with
  | some assets => unwrapOk (s.viewProtocolIncome assets)
  | none => do
      let registeredAssets ← s.getAllRegisteredAssets
      unwrapOk (s.viewProtocolIncome registeredAssets)

/-- `view_tw_ur_from_period_longer_than`. -/
def viewTwUrFromPeriodLongerThan (period : ℕ) (asset : AccountId) (guessedIndex : ℕ) : Res ℕ := do
  let assetId ← s.assetId asset
  s.getTwUrFromShortestPeriodLongerThan env.gas period assetId guessedIndex

/-! ### What is brought to the time of the call -/

variable [Pendzl]

/-- `view_reserve_indexes`. -/
def viewReserveIndexes (asset : AccountId) : Res (Option ReserveIndexes) :=
  match s.assetToId.get asset with
  | some assetId => do
      let reserveData ← s.getReserveData assetId
      let reserve ← s.getReserveIndexesAndFees assetId
      let indexes ← unwrapOk (reserve.indexes.update reserveData env.blockTimestamp)
      return some indexes
  | none => .ok none

/-- `view_account_reserve_data`. -/
def viewAccountReserveData (asset account : AccountId) : Res AccountReserveData :=
  match s.assetToId.get asset with
  | some assetId => do
      let accountReserveData := (s.getAccountReserveData assetId account).1
      let reserveData ← s.getReserveData assetId
      let reserve ← s.getReserveIndexesAndFees assetId
      let feeReductions := s.getFeeReductionsOfAccount env account
      let indexes ← unwrapOk (reserve.indexes.update reserveData env.blockTimestamp)
      let accrual ← unwrapOk
        (accountReserveData.accumulateAccountInterest indexes reserve.fees feeReductions)
      return accrual.data
  | none => .ok noReserveData

/-- `get_account_free_collateral_coefficient`. -/
def getAccountFreeCollateralCoefficient (account : AccountId) : Res (Bool × ℕ) :=
  unwrapOk (s.calculateLendingPowerOfAnAccountE6 env account)

end LendingPoolView

/-- `CompleteReserveData`. -/
structure CompleteReserveData where
  data : Option ReserveData
  indexes : Option ReserveIndexes
  interestRateModel : Option InterestRateModel
  fees : Option ReserveFees
  restriction : Option ReserveRestrictions
  decimalMultiplier : Option ℕ
  tokens : Option ReserveAbacusTokens
  deriving DecidableEq

namespace BalanceViewer

open LendingPoolView

variable (s : LendingPoolStorage) (env : Env)

/-- The assets that a bulk view goes through. -/
def assetsToView (assets : Option (List AccountId)) : Res (List AccountId) :=
  match assets with
  | some assets => .ok assets
  | none => viewRegisteredAssets s

/-- A bulk view: the result of a view for every asset. -/
def viewEach {α : Type} (view : AccountId → Res α) (assets : Option (List AccountId)) :
    Res (List (AccountId × α)) := do
  let assets ← assetsToView s assets
  assets.mapM fun asset => do
    let result ← view asset
    return (asset, result)

/-- `view_unupdated_reserve_datas`. -/
def viewUnupdatedReserveDatas (assets : Option (List AccountId)) :
    Res (List (AccountId × Option ReserveData)) :=
  viewEach s (fun asset => .ok (viewReserveData s asset)) assets

/-- `view_reserve_datas`: it reads the same view. -/
def viewReserveDatas (assets : Option (List AccountId)) :
    Res (List (AccountId × Option ReserveData)) :=
  viewEach s (fun asset => .ok (viewReserveData s asset)) assets

/-- `view_unupdated_account_reserve_datas`. -/
def viewUnupdatedAccountReserveDatas (assets : Option (List AccountId)) (account : AccountId) :
    Res (List (AccountId × AccountReserveData)) :=
  viewEach s (fun asset => .ok (viewUnupdatedAccountReserveData s asset account)) assets

variable [Pendzl]

/-- `view_account_reserve_datas`. -/
def viewAccountReserveDatas (assets : Option (List AccountId)) (account : AccountId) :
    Res (List (AccountId × AccountReserveData)) :=
  viewEach s (fun asset => viewAccountReserveData s env asset account) assets

/-- `view_complete_reserve_data`. -/
def viewCompleteReserveData (asset : AccountId) : Res CompleteReserveData := do
  let data := viewReserveData s asset
  let indexes ← viewReserveIndexes s env asset
  let interestRateModel := viewInterestRateModel s asset
  let fees ← viewReserveFees s asset
  let restriction := viewReserveRestrictions s asset
  let decimalMultiplier ← viewReserveDecimalMultiplier s asset
  let tokens := viewReserveTokens s asset
  return { data, indexes, interestRateModel, fees, restriction, decimalMultiplier, tokens }

/-- `view_complete_reserve_datas`. -/
def viewCompleteReserveDatas (assets : Option (List AccountId)) :
    Res (List (AccountId × CompleteReserveData)) :=
  viewEach s (viewCompleteReserveData s env) assets

end BalanceViewer

end AbaxLending
