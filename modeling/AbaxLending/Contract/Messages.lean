import AbaxLending.Contract.Token
import AbaxLending.Lib.TimedRun

/-!
The messages of the lending pool and of its tokens.

Each pool message follows one function of `deposit.rs`, `borrow.rs`,
`multi_op.rs`, `liquidate.rs`, `maintain.rs`, `manage.rs` and of the two token
interfaces; the token messages follow the aToken and vToken contracts.  A message
that does not return a value changes nothing, so only the world after a success
is described.
-/

namespace AbaxLending

open Outcome

variable [Pendzl]

namespace World

variable (w : World)

/-! ### Deposits and borrows -/

/-- `deposit`. -/
def deposit (env : Env) (asset onBehalfOf : AccountId) (amount : ℕ) : Res World := do
  checkAmountNotZero amount
  let res ← w.pool.accountForAccountActions env onBehalfOf [⟨.deposit, asset, amount⟩]
  let w := w.withPool res.storage
  let interests ← unwrap res.interests.head?
  let action ← unwrap res.actions[0]?
  let w ← w.transferIn env asset env.caller action.amount
  let abacusTokens ← unwrap (w.pool.reserveAbacusTokens.get asset)
  let minted ← okOr (checkedAdd 128 interests.1 amount) (mathErr .overflow)
  let w ← w.emitAbacusTokenTransferEvent abacusTokens.aTokenAddress onBehalfOf (toI128 minted)
  w.emitAbacusTokenTransferEvent abacusTokens.vTokenAddress onBehalfOf (toI128 interests.2)

/-- `withdraw`. -/
def withdraw (env : Env) (asset onBehalfOf : AccountId) (amount : ℕ) :
    Res (World × ℕ) := do
  checkAmountNotZero amount
  let res ← w.pool.accountForAccountActions env onBehalfOf [⟨.withdraw, asset, amount⟩]
  let w := w.withPool res.storage
  let interests ← unwrap res.interests.head?
  let action ← unwrap res.actions[0]?
  let w ← w.transferOut env asset env.caller action.amount
  let abacusTokens ← unwrap (w.pool.reserveAbacusTokens.get asset)
  let w ← w.emitAbacusTokenTransferEventAndDecreaseAllowance abacusTokens.aTokenAddress onBehalfOf
    (overflowingSub (toI128 interests.1) (toI128 action.amount)) env.caller action.amount
  let w ← w.emitAbacusTokenTransferEvent abacusTokens.vTokenAddress onBehalfOf (toI128 interests.2)
  return (w, action.amount)

/-- `borrow`. -/
def borrow (env : Env) (asset onBehalfOf : AccountId) (amount : ℕ) : Res World := do
  checkAmountNotZero amount
  let res ← w.pool.accountForAccountActions env onBehalfOf [⟨.borrow, asset, amount⟩]
  let w := w.withPool res.storage
  let interests ← unwrap res.interests.head?
  let w ← w.transferOut env asset env.caller amount
  let abacusTokens ← unwrap (w.pool.reserveAbacusTokens.get asset)
  let w ← w.emitAbacusTokenTransferEvent abacusTokens.aTokenAddress onBehalfOf (toI128 interests.1)
  let minted ← okOr (checkedAdd 128 interests.2 amount) (mathErr .overflow)
  w.emitAbacusTokenTransferEventAndDecreaseAllowance abacusTokens.vTokenAddress onBehalfOf
    (toI128 minted) env.caller amount

/-- `repay`. -/
def repay (env : Env) (asset onBehalfOf : AccountId) (amount : ℕ) :
    Res (World × ℕ) := do
  checkAmountNotZero amount
  let res ← w.pool.accountForAccountActions env onBehalfOf [⟨.repay, asset, amount⟩]
  let w := w.withPool res.storage
  let interests ← unwrap res.interests.head?
  let action ← unwrap res.actions[0]?
  let w ← w.transferIn env asset env.caller action.amount
  let abacusTokens ← unwrap (w.pool.reserveAbacusTokens.get asset)
  let w ← w.emitAbacusTokenTransferEvent abacusTokens.aTokenAddress onBehalfOf (toI128 interests.1)
  let w ← w.emitAbacusTokenTransferEvent abacusTokens.vTokenAddress onBehalfOf
    (overflowingSub (toI128 interests.2) (toI128 action.amount))
  return (w, action.amount)

/-- `choose_market_rule`. -/
def chooseMarketRule (env : Env) (marketRuleId : ℕ) : Res World := do
  let pool ← w.pool.accountForMarketRuleChange env.caller marketRuleId
  pool.ensureCollateralizedByAccount env env.caller
  return w.withPool pool

/-- `set_as_collateral`, with the registration of the caller that precedes it. -/
def setAsCollateral (env : Env) (asset : AccountId) (useAsCollateralToSet : Bool) :
    Res World := do
  let registrar ← w.registrar.ensureRegistered env.caller
  let pool ← w.pool.accountForSetAsCollateral env.caller asset useAsCollateralToSet
  if useAsCollateralToSet = false then
    pool.ensureCollateralizedByAccount env env.caller
  return { w with registrar, pool }

/-! ### `multi_op` -/

/-- The body of the loop of `multi_op` for one action with its amount clipped and
its interests.  `firstAmount` is the amount of the first action of the list, which
the source reads for every withdrawal and repayment. -/
def settleAction (env : Env) (onBehalfOf : AccountId) (firstAmount : ℕ) (action : Action)
    (interests : ℕ × ℕ) : Res World := do
  let asset := action.asset
  let amount := action.amount
  let abacusTokens ← unwrap (w.pool.reserveAbacusTokens.get asset)
  match action.op with
  | .deposit => do
      let w ← w.transferIn env asset env.caller amount
      let minted ← okOr (checkedAdd 128 interests.1 amount) (mathErr .overflow)
      let w ← w.emitAbacusTokenTransferEvent abacusTokens.aTokenAddress onBehalfOf (toI128 minted)
      w.emitAbacusTokenTransferEvent abacusTokens.vTokenAddress onBehalfOf (toI128 interests.2)
  | .withdraw => do
      let w ← w.transferOut env asset env.caller amount
      let w ← w.emitAbacusTokenTransferEventAndDecreaseAllowance abacusTokens.aTokenAddress
        onBehalfOf (overflowingSub (toI128 interests.1) (toI128 firstAmount)) env.caller firstAmount
      w.emitAbacusTokenTransferEvent abacusTokens.vTokenAddress onBehalfOf (toI128 interests.2)
  | .borrow => do
      let w ← w.transferOut env asset env.caller amount
      let w ← w.emitAbacusTokenTransferEvent abacusTokens.aTokenAddress onBehalfOf
        (toI128 interests.1)
      let minted ← okOr (checkedAdd 128 interests.2 amount) (mathErr .overflow)
      w.emitAbacusTokenTransferEventAndDecreaseAllowance abacusTokens.vTokenAddress onBehalfOf
        (toI128 minted) env.caller amount
  | .repay => do
      let w ← w.transferIn env asset env.caller amount
      let w ← w.emitAbacusTokenTransferEvent abacusTokens.aTokenAddress onBehalfOf
        (toI128 interests.1)
      w.emitAbacusTokenTransferEvent abacusTokens.vTokenAddress onBehalfOf
        (overflowingSub (toI128 interests.2) (toI128 firstAmount))

/-- The loop of `multi_op`. -/
def settleActions (w : World) (env : Env) (onBehalfOf : AccountId) (firstAmount : ℕ) :
    List (Action × (ℕ × ℕ)) → Res World
  | [] => .ok w
  | (action, interests) :: rest => do
      let w ← w.settleAction env onBehalfOf firstAmount action interests
      w.settleActions env onBehalfOf firstAmount rest

/-- `multi_op`.  The list of interests is as long as the list of actions. -/
def multiOp (env : Env) (op : List Action) (onBehalfOf : AccountId) : Res World := do
  let res ← w.pool.accountForAccountActions env onBehalfOf op
  let firstAmount := (res.actions.head?.map Action.amount).getD 0
  (w.withPool res.storage).settleActions env onBehalfOf firstAmount
    (res.actions.zip res.interests)

/-! ### Liquidation -/

/-- The guard of `liquidate`: every error value of the check counts as a shortfall. -/
def ensureUndercollateralized (env : Env) (liquidatedAccount : AccountId) : Res Unit :=
  match w.pool.ensureCollateralizedByAccount env liquidatedAccount with
  | .ok _ => .error (.err .collaterized)
  | .error (.err _) => .ok ()
  | .error .trap => .error .trap

/-- `liquidate`: the world, the amount repaid and the amount taken. -/
def liquidate (env : Env) (liquidatedAccount assetToRepay assetToTake : AccountId)
    (amountToRepay minimumRecievedForOneRepaidTokenE18 : ℕ) :
    Res (World × ℕ × ℕ) := do
  w.ensureUndercollateralized env liquidatedAccount
  let res ← w.pool.accountForLiquidate env env.caller liquidatedAccount assetToRepay assetToTake
    amountToRepay env.blockTimestamp
  let w := w.withPool res.storage
  let recievedForOneRepaidTokenE18 ← mulDiv res.amountToTake E18 res.amountToRepay .down
  failIf (recievedForOneRepaidTokenE18 < minimumRecievedForOneRepaidTokenE18) .minimumRecieved
  let w ← w.transferIn env assetToRepay env.caller res.amountToRepay
  let tokensToRepay ← unwrap (w.pool.reserveAbacusTokens.get assetToRepay)
  let w ← w.emitAbacusTokenTransferEvent tokensToRepay.aTokenAddress liquidatedAccount
    (toI128 res.interestsToRepay.1)
  let w ← w.emitAbacusTokenTransferEvent tokensToRepay.vTokenAddress liquidatedAccount
    (overflowingSub (toI128 res.interestsToRepay.2) (toI128 res.amountToRepay))
  let tokensToTake ← unwrap (w.pool.reserveAbacusTokens.get assetToTake)
  let received ←
    okOr (checkedAdd 128 res.callerInterestsToTake.1 res.amountToTake) (mathErr .overflow)
  let w ← w.emitAbacusTokenTransferEvents tokensToTake.aTokenAddress
    [(liquidatedAccount, overflowingSub (toI128 res.interestsToTake.1) (toI128 res.amountToTake)),
      (env.caller, toI128 received)]
  let w ← w.emitAbacusTokenTransferEvents tokensToTake.vTokenAddress
    [(liquidatedAccount, toI128 res.interestsToTake.2),
      (env.caller, toI128 res.callerInterestsToTake.2)]
  return (w, res.amountToRepay, res.amountToTake)

/-! ### Maintenance -/

/-- `accumulate_interest`. -/
def accumulateInterest (env : Env) (asset : AccountId) : Res World := do
  return w.withPool (← w.pool.accountForAccumulateInterest asset env.blockTimestamp)

/-- `adjust_rate_at_target`: the world and the new rate. -/
def adjustRateAtTarget (env : Env) (asset : AccountId) (guessedIndex : ℕ) : Res (World × ℕ) := do
  let assetId ← w.pool.assetId asset
  let model ← okOr (w.pool.interestRateModel.get assetId) .assetNotRegistered
  let earliest ← okOr
    (checkedAdd 64 model.lastAdjustmentTimestamp model.minimalTimeBetweenAdjustments)
    (mathErr .overflow)
  failIf (env.blockTimestamp < earliest) .tooEarlyToAdjustRate
  let twaUrE6 ← w.pool.getTwUrFromShortestPeriodLongerThan env.gas
    model.minimalTimeBetweenAdjustments assetId guessedIndex
  let model ← model.adjustRateAtTarget twaUrE6 env.blockTimestamp
  return (w.withPool { w.pool with
    interestRateModel := w.pool.interestRateModel.insert assetId model }, model.rateAtTargetUrE18)

/-! ### Management -/

omit [Pendzl] in
/-- `_ensure_has_role` of the caller. -/
def ensureHasRole (env : Env) (role : Role) : Res Unit :=
  failIf (env.hasRole role env.caller = false) (.accessControlError .missingRole)

omit [Pendzl] in
/-- A setter: a role, and one storage function. -/
def manage (w : World) (env : Env) (role : Role) (f : Res LendingPoolStorage) : Res World := do
  ensureHasRole env role
  return w.withPool (← f)

omit [Pendzl] in
/-- `set_price_feed_provider`. -/
def setPriceFeedProvider (env : Env) (priceFeedProvider : AccountId) : Res World :=
  w.manage env .parametersAdmin (.ok (w.pool.accountForPriceFeedProviderChange priceFeedProvider))

omit [Pendzl] in
/-- `set_fee_reduction_provider`. -/
def setFeeReductionProvider (env : Env) (feeReductionProvider : AccountId) : Res World :=
  w.manage env .parametersAdmin
    (.ok (w.pool.accountForFeeReductionProviderChange feeReductionProvider))

omit [Pendzl] in
/-- `set_flash_loan_fee_e6`. -/
def setFlashLoanFeeE6 (env : Env) (flashLoanFeeE6 : ℕ) : Res World :=
  w.manage env .parametersAdmin (.ok { w.pool with flashLoanFeeE6 := some flashLoanFeeE6 })

omit [Pendzl] in
/-- `_instantiate_abacus_token`: a new contract at an address that no contract
has.  Anything else traps. -/
def instantiateAbacusToken (env : Env) (kind : TokenKind) (underlyingAsset : AccountId) :
    Res (World × AccountId) := do
  let address ← unwrap (env.instantiate kind underlyingAsset)
  trapIf (w.tokens.contains address = true ∨ address = w.poolAddress)
  let token := AbacusToken.new kind w.poolAddress underlyingAsset
  return ({ w with tokens := w.tokens.insert address token }, address)

omit [Pendzl] in
/-- `register_asset`.  `10_u128.pow(decimals)` traps on overflow. -/
def registerAsset (env : Env) (asset : AccountId) (decimals : ℕ) (assetRules : AssetRules)
    (reserveRestrictions : ReserveRestrictions) (depositFeeE6 debtFeeE6 : ℕ)
    (interestRateModelParams : Option InterestRateModelParams) : Res World := do
  ensureHasRole env .assetListingAdmin
  failIf (10 ^ 6 < depositFeeE6) .depositFeeTooHigh
  let interestRateModel :=
    interestRateModelParams.map fun params => InterestRateModel.new params env.blockTimestamp
  let decimalMultiplier ← unwrap (tryFrom 128 (10 ^ decimals))
  let pool ← w.pool.accountForRegisterAsset asset ReserveData.initial reserveRestrictions
    decimalMultiplier (ReserveFees.new depositFeeE6 debtFeeE6) interestRateModel env.blockTimestamp
  let w := w.withPool pool
  let (w, aTokenAddress) ← w.instantiateAbacusToken env .aToken asset
  let (w, vTokenAddress) ← w.instantiateAbacusToken env .vToken asset
  let pool ← w.pool.accountForSetAbacusTokens asset ⟨aTokenAddress, vTokenAddress⟩
  let pool ← pool.accountForAssetRuleChange 0 asset assetRules
  return w.withPool pool

omit [Pendzl] in
/-- `set_reserve_is_active`. -/
def setReserveIsActive (env : Env) (asset : AccountId) (active : Bool) : Res World :=
  w.manage env .emergencyAdmin (w.pool.accountForChangingActivity asset active)

omit [Pendzl] in
/-- `set_reserve_is_frozen`. -/
def setReserveIsFrozen (env : Env) (asset : AccountId) (newIsFrozen : Bool) : Res World :=
  w.manage env .emergencyAdmin (w.pool.accountForChangingIsFrozen asset newIsFrozen)

omit [Pendzl] in
/-- `set_reserve_restrictions`. -/
def setReserveRestrictions (env : Env) (asset : AccountId)
    (reserveRestrictions : ReserveRestrictions) : Res World :=
  w.manage env .parametersAdmin
    (w.pool.accountForReserveRestricitionsChange asset reserveRestrictions)

/-- `set_interest_rate_model`. -/
def setInterestRateModel (env : Env) (asset : AccountId) (params : InterestRateModelParams) :
    Res World :=
  w.manage env .parametersAdmin
    (w.pool.accountForInterestRateModelChange asset
      (InterestRateModel.new params env.blockTimestamp) env.blockTimestamp)

omit [Pendzl] in
/-- `set_reserve_fees`. -/
def setReserveFees (env : Env) (asset : AccountId) (depositFeeE6 debtFeeE6 : ℕ) :
    Res World := do
  ensureHasRole env .parametersAdmin
  failIf (10 ^ 6 < depositFeeE6) .depositFeeTooHigh
  return w.withPool (← w.pool.accountForReserveFeesChange asset
    (ReserveFees.new depositFeeE6 debtFeeE6))

omit [Pendzl] in
/-- `set_stablecoin_debt_rate_e18`. -/
def setStablecoinDebtRateE18 (env : Env) (asset : AccountId) (debtRateE18 : ℕ) : Res World :=
  w.manage env .stablecoinRateAdmin
    (w.pool.accountForStablecoinDebtRateE18Change asset debtRateE18)

omit [Pendzl] in
/-- `add_market_rule`: each rule is checked on its own, and a rule at a position
without a registered asset traps. -/
def addMarketRule (env : Env) (marketRule : MarketRule) : Res World := do
  ensureHasRole env .parametersAdmin
  marketRule.forM fun entry =>
    match entry with
    | some rules => rules.validateNewRule none
    | none => .ok ()
  let (pool, _) ← w.pool.accountForAddMarketRule marketRule
  let registeredAssets ← pool.getAllRegisteredAssets
  trapIf (∃ id ∈ List.range marketRule.length,
    marketRule[id]?.join.isSome = true ∧ registeredAssets.length ≤ id)
  return w.withPool pool

omit [Pendzl] in
/-- `modify_asset_rule`. -/
def modifyAssetRule (env : Env) (marketRuleId : ℕ) (asset : AccountId)
    (assetRules : AssetRules) : Res World :=
  w.manage env .parametersAdmin (w.pool.accountForAssetRuleChange marketRuleId asset assetRules)

omit [Pendzl] in
/-- The second loop of `take_protocol_income`. -/
def payIncome (w : World) (env : Env) (toAccount : AccountId) :
    List (AccountId × ℕ) → Res World
  | [] => .ok w
  | (asset, amount) :: rest => do
      let w ← w.transferOut env asset toAccount amount
      w.payIncome env toAccount rest

omit [Pendzl] in
/-- The assets of `take_protocol_income`: those given, or all of them. -/
def incomeAssets (assets : Option (List AccountId)) : Res (List AccountId) :=
  match assets with
  | some assets => .ok assets
  | none => w.pool.getAllRegisteredAssets

omit [Pendzl] in
/-- `take_protocol_income`: what is paid out ends at the first income of zero. -/
def takeProtocolIncome (env : Env) (assets : Option (List AccountId)) (toAccount : AccountId) :
    Res (World × List (AccountId × ℕ)) := do
  ensureHasRole env .treasury
  let assets ← w.incomeAssets assets
  let (pool, incomes) ← w.pool.takeProtocolIncome assets
  let w ← (w.withPool pool).payIncome env toAccount (incomes.takeWhile fun income => 0 < income.2)
  return (w, incomes)

/-! ### The interfaces of the two tokens -/

/-- `transfer_deposit_from_to`: the world and the deposit interests of both accounts. -/
def transferDepositFromTo (env : Env) (underlyingAsset fromAccount toAccount : AccountId)
    (amount : ℕ) : Res (World × ℕ × ℕ) := do
  checkAmountNotZero amount
  let abacusTokens ← okOr (w.pool.reserveAbacusTokens.get underlyingAsset) .assetNotRegistered
  failIf (env.caller ≠ abacusTokens.aTokenAddress) (.accessControlError .missingRole)
  let res ← w.pool.accountForDepositTransferFromTo env underlyingAsset fromAccount toAccount amount
    env.blockTimestamp
  let w := w.withPool res.storage
  w.pool.ensureCollateralizedByAccount env fromAccount
  let w ←
    if res.fromInterests.2 ≠ 0 ∨ res.toInterests.2 ≠ 0 then
      mapErr .psp22Error (w.emitTransferEvents abacusTokens.vTokenAddress
        [⟨none, some fromAccount, res.fromInterests.2⟩, ⟨none, some toAccount, res.toInterests.2⟩])
    else .ok w
  return (w, res.fromInterests.1, res.toInterests.1)

/-- `transfer_debt_from_to`: the world and the debt interests of both accounts. -/
def transferDebtFromTo (env : Env) (underlyingAsset fromAccount toAccount : AccountId)
    (amount : ℕ) : Res (World × ℕ × ℕ) := do
  checkAmountNotZero amount
  let abacusTokens ← okOr (w.pool.reserveAbacusTokens.get underlyingAsset) .assetNotRegistered
  failIf (env.caller ≠ abacusTokens.vTokenAddress) (.accessControlError .missingRole)
  let res ← w.pool.accountForDebtTransferFromTo env underlyingAsset fromAccount toAccount amount
    env.blockTimestamp
  let w := w.withPool res.storage
  w.pool.ensureCollateralizedByAccount env toAccount
  let w ←
    if res.fromInterests.1 ≠ 0 ∨ res.toInterests.1 ≠ 0 then
      mapErr .psp22Error (w.emitTransferEvents abacusTokens.aTokenAddress
        [⟨none, some fromAccount, res.fromInterests.1⟩, ⟨none, some toAccount, res.toInterests.1⟩])
    else .ok w
  return (w, res.fromInterests.2, res.toInterests.2)

/-! ### Token messages -/

/-- `_update` of an abacus token: the pool is called by the token. -/
def update (env : Env) (tokenAddress : AccountId) (token : AbacusToken)
    (fromAccount toAccount : AccountId) (amount : ℕ) : TokenRes World := do
  trapIf (token.lendingPool ≠ w.poolAddress)
  let env := { env with caller := tokenAddress }
  let (w, mintFrom, mintTo) ← mapErr LendingPoolError.toPSP22Error
    (match token.kind with
    | .aToken => w.transferDepositFromTo env token.underlyingAsset fromAccount toAccount amount
    | .vToken => w.transferDebtFromTo env token.underlyingAsset fromAccount toAccount amount)
  return w.emit (transferEvents tokenAddress
      [⟨none, some fromAccount, mintFrom⟩, ⟨none, some toAccount, mintTo⟩]
    ++ [.transfer tokenAddress (some fromAccount) (some toAccount) amount])

/-- `transfer` of a token.  A vToken asks for the allowance of the receiver. -/
def transfer (env : Env) (tokenAddress toAccount : AccountId) (value : ℕ) :
    TokenRes World := do
  let token ← unwrap (w.tokens.get tokenAddress)
  match token.kind with
  | .aToken => w.update env tokenAddress token env.caller toAccount value
  | .vToken => do
      failIf (token.allowance toAccount env.caller < value) .insufficientAllowance
      let w ← w.decreaseAllowanceFromTo tokenAddress token toAccount env.caller value
      w.update env tokenAddress token env.caller toAccount value

/-- `transfer_from` of a token.  A vToken checks the allowance of the sender and
decreases the one of the receiver. -/
def transferFrom (env : Env) (tokenAddress fromAccount toAccount : AccountId) (value : ℕ) :
    TokenRes World := do
  let token ← unwrap (w.tokens.get tokenAddress)
  failIf (token.allowance fromAccount env.caller < value) .insufficientAllowance
  let owner :=
    match token.kind with
    | .aToken => fromAccount
    | .vToken => toAccount
  let w ← w.decreaseAllowanceFromTo tokenAddress token owner env.caller value
  w.update env tokenAddress token fromAccount toAccount value

omit [Pendzl] in
/-- `approve` of a token. -/
def approve (env : Env) (tokenAddress spender : AccountId) (value : ℕ) :
    TokenRes World := do
  let token ← unwrap (w.tokens.get tokenAddress)
  return w.approveFromTo tokenAddress token env.caller spender value

omit [Pendzl] in
/-- `increase_allowance` of a token. -/
def increaseAllowance (env : Env) (tokenAddress spender : AccountId) (delta : ℕ) :
    TokenRes World := do
  let token ← unwrap (w.tokens.get tokenAddress)
  w.increaseAllowanceFromTo tokenAddress token env.caller spender delta

omit [Pendzl] in
/-- `decrease_allowance` of a token. -/
def decreaseAllowance (env : Env) (tokenAddress spender : AccountId) (delta : ℕ) :
    TokenRes World := do
  let token ← unwrap (w.tokens.get tokenAddress)
  w.decreaseAllowanceFromTo tokenAddress token env.caller spender delta

end World

/-! ### The system -/

/-- A message to the pool or to one of its tokens. -/
inductive Message where
  | deposit (asset onBehalfOf : AccountId) (amount : ℕ)
  | withdraw (asset onBehalfOf : AccountId) (amount : ℕ)
  | borrow (asset onBehalfOf : AccountId) (amount : ℕ)
  | repay (asset onBehalfOf : AccountId) (amount : ℕ)
  | multiOp (op : List Action) (onBehalfOf : AccountId)
  | liquidate (liquidatedAccount assetToRepay assetToTake : AccountId)
      (amountToRepay minimumRecievedForOneRepaidTokenE18 : ℕ)
  | chooseMarketRule (marketRuleId : ℕ)
  | setAsCollateral (asset : AccountId) (useAsCollateralToSet : Bool)
  | accumulateInterest (asset : AccountId)
  | adjustRateAtTarget (asset : AccountId) (guessedIndex : ℕ)
  | setPriceFeedProvider (priceFeedProvider : AccountId)
  | setFeeReductionProvider (feeReductionProvider : AccountId)
  | setFlashLoanFeeE6 (flashLoanFeeE6 : ℕ)
  | registerAsset (asset : AccountId) (decimals : ℕ) (assetRules : AssetRules)
      (reserveRestrictions : ReserveRestrictions) (depositFeeE6 debtFeeE6 : ℕ)
      (interestRateModelParams : Option InterestRateModelParams)
  | setReserveIsActive (asset : AccountId) (active : Bool)
  | setReserveIsFrozen (asset : AccountId) (newIsFrozen : Bool)
  | setReserveRestrictions (asset : AccountId) (reserveRestrictions : ReserveRestrictions)
  | setInterestRateModel (asset : AccountId) (params : InterestRateModelParams)
  | setReserveFees (asset : AccountId) (depositFeeE6 debtFeeE6 : ℕ)
  | setStablecoinDebtRateE18 (asset : AccountId) (debtRateE18 : ℕ)
  | addMarketRule (marketRule : MarketRule)
  | modifyAssetRule (marketRuleId : ℕ) (asset : AccountId) (assetRules : AssetRules)
  | takeProtocolIncome (assets : Option (List AccountId)) (toAccount : AccountId)
  | transfer (token toAccount : AccountId) (value : ℕ)
  | transferFrom (token fromAccount toAccount : AccountId) (value : ℕ)
  | approve (token spender : AccountId) (value : ℕ)
  | increaseAllowance (token spender : AccountId) (delta : ℕ)
  | decreaseAllowance (token spender : AccountId) (delta : ℕ)

/-- The error of a message to either contract. -/
inductive MessageError where
  | pool (e : LendingPoolError)
  | token (e : PSP22Error)
  deriving DecidableEq, Repr

/-- The world that a message leaves; its return value is dropped. -/
def World.execute (w : World) (env : Env) : Message → Comp MessageError World
  | .deposit asset onBehalfOf amount => mapErr .pool (w.deposit env asset onBehalfOf amount)
  | .withdraw asset onBehalfOf amount => mapErr .pool do
      return (← w.withdraw env asset onBehalfOf amount).1
  | .borrow asset onBehalfOf amount => mapErr .pool (w.borrow env asset onBehalfOf amount)
  | .repay asset onBehalfOf amount => mapErr .pool do
      return (← w.repay env asset onBehalfOf amount).1
  | .multiOp op onBehalfOf => mapErr .pool (w.multiOp env op onBehalfOf)
  | .liquidate liquidatedAccount assetToRepay assetToTake amountToRepay minimumRecieved =>
      mapErr .pool do
        return (← w.liquidate env liquidatedAccount assetToRepay assetToTake amountToRepay
          minimumRecieved).1
  | .chooseMarketRule marketRuleId => mapErr .pool (w.chooseMarketRule env marketRuleId)
  | .setAsCollateral asset useAsCollateralToSet =>
      mapErr .pool (w.setAsCollateral env asset useAsCollateralToSet)
  | .accumulateInterest asset => mapErr .pool (w.accumulateInterest env asset)
  | .adjustRateAtTarget asset guessedIndex => mapErr .pool do
      return (← w.adjustRateAtTarget env asset guessedIndex).1
  | .setPriceFeedProvider provider => mapErr .pool (w.setPriceFeedProvider env provider)
  | .setFeeReductionProvider provider => mapErr .pool (w.setFeeReductionProvider env provider)
  | .setFlashLoanFeeE6 fee => mapErr .pool (w.setFlashLoanFeeE6 env fee)
  | .registerAsset asset decimals assetRules reserveRestrictions depositFeeE6 debtFeeE6 params =>
      mapErr .pool (w.registerAsset env asset decimals assetRules reserveRestrictions depositFeeE6
        debtFeeE6 params)
  | .setReserveIsActive asset active => mapErr .pool (w.setReserveIsActive env asset active)
  | .setReserveIsFrozen asset newIsFrozen =>
      mapErr .pool (w.setReserveIsFrozen env asset newIsFrozen)
  | .setReserveRestrictions asset reserveRestrictions =>
      mapErr .pool (w.setReserveRestrictions env asset reserveRestrictions)
  | .setInterestRateModel asset params => mapErr .pool (w.setInterestRateModel env asset params)
  | .setReserveFees asset depositFeeE6 debtFeeE6 =>
      mapErr .pool (w.setReserveFees env asset depositFeeE6 debtFeeE6)
  | .setStablecoinDebtRateE18 asset debtRateE18 =>
      mapErr .pool (w.setStablecoinDebtRateE18 env asset debtRateE18)
  | .addMarketRule marketRule => mapErr .pool (w.addMarketRule env marketRule)
  | .modifyAssetRule marketRuleId asset assetRules =>
      mapErr .pool (w.modifyAssetRule env marketRuleId asset assetRules)
  | .takeProtocolIncome assets toAccount => mapErr .pool do
      return (← w.takeProtocolIncome env assets toAccount).1
  | .transfer token toAccount value => mapErr .token (w.transfer env token toAccount value)
  | .transferFrom token fromAccount toAccount value =>
      mapErr .token (w.transferFrom env token fromAccount toAccount value)
  | .approve token spender value => mapErr .token (w.approve env token spender value)
  | .increaseAllowance token spender delta =>
      mapErr .token (w.increaseAllowance env token spender delta)
  | .decreaseAllowance token spender delta =>
      mapErr .token (w.decreaseAllowance env token spender delta)

/-- The world around a pool that was just constructed; only the underlying tokens
have balances. -/
def World.IsInitial (w : World) : Prop :=
  w.pool = LendingPoolStorage.new ∧ w.registrar = ⟨.empty, .empty, 0⟩ ∧ w.tokens = .empty
    ∧ w.calls = [] ∧ w.events = []

/-- One step of the system at a block time: a message of a kind that succeeds. -/
def World.Step (kind : Message → Prop) (t : ℕ) (w w' : World) : Prop :=
  ∃ env message, env.blockTimestamp = t ∧ kind message ∧ w.execute env message = .ok w'

/-- The worlds that runs of messages of a kind reach, with the time of the last one. -/
def World.Reachable (kind : Message → Prop) : ℕ → World → Prop :=
  TimedRun.Reach World.IsInitial (World.Step kind)

end AbaxLending
