import AbaxLending.Lib.Mapping
import AbaxLending.Structs.Account

/-!
`LendingPoolStorage`: the fields of the pool and the functions that read them.

A lazy field that was never written reads as `none`.  Each `unwrap` of the
source is a trap.  `Env` is what a message finds around the pool: who called,
at what time, and what the contracts outside the repository answer.

* `getAccountDatas` resizes the vector of an account to the number of
  registered assets; `getAccountReserveData` also picks one entry;
* `insertAccountData` is the `Vec::insert` of the source, which shifts the
  entries behind the position it writes to;
* `storeUtilizationRateSnapshot` and the search for a time-weighted
  utilization rate.
-/

namespace AbaxLending

open Outcome

/-- The roles of `constants.rs` that pool messages ask for. -/
inductive Role where
  | assetListingAdmin
  | parametersAdmin
  | stablecoinRateAdmin
  | emergencyAdmin
  | treasury
  deriving DecidableEq, Repr

/-- The two tokens of a reserve. -/
inductive TokenKind where
  | aToken
  | vToken
  deriving DecidableEq, Repr

/-- The calls that the pool makes to an underlying token. -/
inductive PSP22Call where
  | transferFrom (fromAccount toAccount : AccountId) (amount : ℕ)
  | transfer (toAccount : AccountId) (amount : ℕ)
  | mint (toAccount : AccountId) (amount : ℕ)
  | burn (fromAccount : AccountId) (amount : ℕ)
  deriving DecidableEq, Repr

/-- The surroundings of one message: the caller, the block time, the gas that
bounds an unbounded loop, the roles granted by the access control, and the
answers of the contracts the pool only knows by their address. -/
structure Env where
  caller : AccountId
  blockTimestamp : ℕ
  gas : ℕ
  hasRole : Role → AccountId → Bool
  /-- `PriceFeed::get_latest_prices` of the contract at an address -/
  getLatestPrices : AccountId → List AccountId → Comp PriceFeedError (List ℕ)
  /-- `FeeReduction::get_fee_reductions` of the contract at an address -/
  getFeeReductions : AccountId → AccountId → FeeReductions
  /-- whether an underlying token accepts a call that its balances cover -/
  admitsCall : AccountId → PSP22Call → Comp PSP22Error Unit
  /-- the address of a token instantiated for an asset, if there is one -/
  instantiate : TokenKind → AccountId → Option AccountId

/-- `LendingPoolStorage`. -/
structure LendingPoolStorage where
  priceFeedProvider : Option AccountId
  feeReductionProvider : Option AccountId
  nextAssetId : Option ℕ
  assetToId : Mapping AccountId ℕ
  idToAsset : Mapping ℕ AccountId
  nextRuleId : Option ℕ
  marketRules : Mapping ℕ MarketRule
  reserveAbacusTokens : Mapping AccountId ReserveAbacusTokens
  reserveRestrictions : Mapping ℕ ReserveRestrictions
  reserveIndexesAndFees : Mapping ℕ ReserveIndexesAndFees
  reserveDecimalMultiplier : Mapping ℕ ℕ
  reserveDatas : Mapping ℕ ReserveData
  twUrIndexes : Mapping ℕ TwIndex
  twUrEntries : Mapping (ℕ × ℕ) TwEntry
  interestRateModel : Mapping ℕ InterestRateModel
  accountReserveDatas : Mapping AccountId (List (Option AccountReserveData))
  accountConfigs : Mapping AccountId AccountConfig
  flashLoanFeeE6 : Option ℕ

namespace LendingPoolStorage

/-- The storage that the constructor `LendingPool::new` leaves. -/
def new : LendingPoolStorage where
  priceFeedProvider := none
  feeReductionProvider := none
  nextAssetId := some 0
  assetToId := .empty
  idToAsset := .empty
  nextRuleId := some 0
  marketRules := .empty
  reserveAbacusTokens := .empty
  reserveRestrictions := .empty
  reserveIndexesAndFees := .empty
  reserveDecimalMultiplier := .empty
  reserveDatas := .empty
  twUrIndexes := .empty
  twUrEntries := .empty
  interestRateModel := .empty
  accountReserveDatas := .empty
  accountConfigs := .empty
  flashLoanFeeE6 := some 1000

variable (self : LendingPoolStorage)

/-! ### Getters -/

/-- `next_asset_id.get().unwrap_or(0)`: the number of registered assets. -/
def assetCount : ℕ := self.nextAssetId.getD 0

/-- `asset_id`. -/
def assetId (asset : AccountId) : Res ℕ :=
  okOr (self.assetToId.get asset) .assetNotRegistered

/-- `get_all_registered_assets`. -/
def getAllRegisteredAssets : Res (List AccountId) :=
  (List.range self.assetCount).mapM fun u => unwrap (self.idToAsset.get u)

/-- `get_account_reserve_datas_defaults`. -/
def getAccountReserveDatasDefaults : List (Option AccountReserveData) :=
  List.replicate self.assetCount none

/-- `get_account_datas`. -/
def getAccountDatas (account : AccountId) : List (Option AccountReserveData) :=
  let accountDatas :=
    (self.accountReserveDatas.get account).getD self.getAccountReserveDatasDefaults
  if accountDatas.length < self.assetCount then
    accountDatas ++ List.replicate (self.assetCount - accountDatas.length) none
  else accountDatas

/-- `get_account_reserve_data`. -/
def getAccountReserveData (assetId : ℕ) (account : AccountId) :
    AccountReserveData × List (Option AccountReserveData) :=
  let accountDatas := self.getAccountDatas account
  ((accountDatas[assetId]?.join).getD default, accountDatas)

/-- `get_account_config`. -/
def getAccountConfig (account : AccountId) : AccountConfig :=
  (self.accountConfigs.get account).getD default

/-- `get_market_rule`. -/
def getMarketRule (config : AccountConfig) : Res MarketRule :=
  unwrap (self.marketRules.get config.marketRuleId)

/-- `get_reserve_restrictions`. -/
def getReserveRestrictions (assetId : ℕ) : Res ReserveRestrictions :=
  unwrap (self.reserveRestrictions.get assetId)

/-- `get_reserve_indexes_and_fees`. -/
def getReserveIndexesAndFees (assetId : ℕ) : Res ReserveIndexesAndFees :=
  unwrap (self.reserveIndexesAndFees.get assetId)

/-- `get_reserve_data`. -/
def getReserveData (assetId : ℕ) : Res ReserveData :=
  unwrap (self.reserveDatas.get assetId)

/-- `get_decimal_multiplier`. -/
def getDecimalMultiplier (assetId : ℕ) : Res ℕ :=
  unwrap (self.reserveDecimalMultiplier.get assetId)

/-- `get_assets_prices_e18`. -/
def getAssetsPricesE18 (env : Env) : Res (List ℕ) := do
  let allAssets ← self.getAllRegisteredAssets
  let priceFeeder ← unwrap self.priceFeedProvider
  mapErr .priceFeedError (env.getLatestPrices priceFeeder allAssets)

/-- `get_fee_reductions_of_account`. -/
def getFeeReductionsOfAccount (env : Env) (account : AccountId) : FeeReductions :=
  match self.feeReductionProvider with
  | none => (0, 0)
  | some provider => env.getFeeReductions provider account

/-- `ensure_market_rule_in_bounds`. -/
def ensureMarketRuleInBounds (marketRuleId : ℕ) : Res Unit :=
  failIf (self.nextRuleId.getD 0 ≤ marketRuleId) .marketRuleInvalidId

/-- `account_reserve_datas.insert(account, ..)`. -/
@[simps] def putDatas (account : AccountId) (accountDatas : List (Option AccountReserveData)) :
    LendingPoolStorage :=
  { self with accountReserveDatas := self.accountReserveDatas.insert account accountDatas }

/-- `account_configs.insert(account, ..)`. -/
@[simps] def putConfig (account : AccountId) (accountConfig : AccountConfig) :
    LendingPoolStorage :=
  { self with accountConfigs := self.accountConfigs.insert account accountConfig }

/-- `reserve_datas.insert(asset_id, ..)`. -/
@[simps] def putReserveData (assetId : ℕ) (reserveData : ReserveData) : LendingPoolStorage :=
  { self with reserveDatas := self.reserveDatas.insert assetId reserveData }

/-- `reserve_indexes_and_fees.insert(asset_id, ..)`. -/
@[simps] def putIndexesAndFees (assetId : ℕ) (reserveIndexesAndFees : ReserveIndexesAndFees) :
    LendingPoolStorage :=
  { self with
    reserveIndexesAndFees := self.reserveIndexesAndFees.insert assetId reserveIndexesAndFees }

/-- `insert_account_data`. -/
def insertAccountData (accountDatas : List (Option AccountReserveData)) (assetId : ℕ)
    (updatedAccountData : AccountReserveData) (of : AccountId) : Res LendingPoolStorage := do
  trapIf (accountDatas.length < assetId)
  return self.putDatas of (accountDatas.insertIdx assetId (some updatedAccountData))

/-! ### Time-weighted utilization rate -/

/-- `get_tw_ur_entry`. -/
def getTwUrEntry (assetId : ℕ) (index : ℕ) : Option TwEntry :=
  self.twUrEntries.get (assetId, index)

variable [Pendzl]

/-- `store_utilization_rate_snapshot`. -/
def storeUtilizationRateSnapshot (assetId : ℕ) (reserveData : ReserveData)
    (timestamp : ℕ) : Res LendingPoolStorage := do
  let twIndex ← unwrap (self.twUrIndexes.get assetId)
  let lastTwEntry := (self.twUrEntries.get (assetId, twIndex.value)).getD default
  if timestamp ≤ lastTwEntry.timestamp then return self
  else
    let deltaTimestamp := timestamp - lastTwEntry.timestamp
    let utilizationRateE6 ← reserveData.currentUtilizationRateE6
    let deltaAccumulator ←
      okOr (checkedMul 64 utilizationRateE6 deltaTimestamp) (mathErr .overflow)
    let newAccumulator := (lastTwEntry.accumulator + deltaAccumulator) % 2 ^ 64
    let newTwIndex := twIndex.next
    return { self with
      twUrEntries := self.twUrEntries.insert (assetId, newTwIndex.value)
        ⟨timestamp, newAccumulator⟩
      twUrIndexes := self.twUrIndexes.insert assetId newTwIndex }

omit [Pendzl] in
/-- The `while` loop of `get_tw_ur_from_shortest_period_longer_than`: the index
it stops at.  It is bounded by gas, and running out of gas traps. -/
def searchTwIndex (period : ℕ) (assetId : ℕ) (lastTwEntry : TwEntry) :
    ℕ → TwIndex → TwEntry → Res TwIndex
  | 0, _, _ => .error .trap
  | gas + 1, current, after =>
      if period ≤ lastTwEntry.timestamp - after.timestamp then do
        let current := current.next
        let after ← okOr (self.getTwUrEntry assetId current.next.value) (.twEntryInvalidIndex 1)
        searchTwIndex period assetId lastTwEntry gas current after
      else .ok current

omit [Pendzl] in
/-- `get_tw_ur_from_shortest_period_longer_than`. -/
def getTwUrFromShortestPeriodLongerThan (gas : ℕ) (period : ℕ) (assetId : ℕ)
    (guessedIndex : ℕ) : Res ℕ := do
  let twIndex ← unwrap (self.twUrIndexes.get assetId)
  let lastTwEntry ← unwrap (self.getTwUrEntry assetId twIndex.value)
  let guessed : TwIndex := ⟨guessedIndex⟩
  let after ← okOr (self.getTwUrEntry assetId guessed.next.value) (.twEntryInvalidIndex 0)
  let current ← self.searchTwIndex period assetId lastTwEntry gas guessed after
  let appropriate ← okOr (self.getTwUrEntry assetId current.value) (.twEntryInvalidIndex 2)
  let deltaTimestamp := lastTwEntry.timestamp - appropriate.timestamp
  failIf (deltaTimestamp < period) (.twEntryInvalidIndex 3)
  let deltaAccumulator :=
    (lastTwEntry.accumulator + 2 ^ 64 - appropriate.accumulator) % 2 ^ 64
  failIf (deltaTimestamp = 0) (mathErr .divByZero)
  okOr (tryFrom 32 (deltaAccumulator / deltaTimestamp)) (mathErr .overflow)

end LendingPoolStorage

/-- `get_account_data_entry_mut`: the entry at an asset, a missing one read as
the default, and a trap when the vector is too short. -/
def getAccountDataEntryMut (accountDatas : List (Option AccountReserveData))
    (assetId : ℕ) : Res AccountReserveData := do
  let entry ← unwrap accountDatas[assetId]?
  return entry.getD default

/-- `get_penalty`: a missing rule or penalty traps. -/
def getPenalty (marketRule : MarketRule) (assetId : ℕ) : Res ℕ := do
  let entry ← unwrap marketRule[assetId]?
  let rules ← unwrap entry
  unwrap rules.penaltyE6

end AbaxLending
