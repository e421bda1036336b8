import AbaxLending.Pool.Collateral

/-!
The lending section of the pool: how deposits, withdrawals, borrows, repayments,
liquidations and transfers are accounted for.

The `&mut` arguments of the source are returned: the four basic steps return a
`Step` with everything they may have changed, and `accountForReserveAction`
returns the storage together with the entries, the configs, the actions with the
amounts clipped in them and the interests.

* `accountForDeposit`, `accountForWithdraw`, `accountForBorrow`,
  `accountForRepay`: one step on one entry of one reserve;
* `accountForReserveAction`: a list of steps on one reserve;
* `accountForAccountActions`: a list of actions of one account;
* `accountForLiquidate`, `accountForDepositTransferFromTo`,
  `accountForDebtTransferFromTo`: the actions between two accounts;
* `accountForSetAsCollateral`, `accountForAccumulateInterest`.
-/

namespace AbaxLending

open Outcome

/-- `ReserveAction`: accounts are positions in the lists given with the action. -/
inductive ReserveAction where
  | deposit (accountId : ℕ) (amount : ℕ)
  | withdraw (accountId : ℕ) (amount : ℕ) (canMutateAmount : Bool)
  | borrow (accountId : ℕ) (amount : ℕ)
  | repay (accountId : ℕ) (amount : ℕ)
  | depositTransfer (fromId toId : ℕ) (amount : ℕ) (isMutable : Bool)
  | debtTransfer (fromId toId : ℕ) (amount : ℕ) (isMutable : Bool)
  deriving DecidableEq, Repr

/-- `ReserveDataContext`. -/
structure ReserveDataContext where
  assetId : ℕ
  reserveData : ReserveData
  reserveIndexesAndFees : ReserveIndexesAndFees
  reserveRestrictions : ReserveRestrictions

/-- What a basic step leaves: the context, the entry and the config it worked on,
the amount after clipping, and the interests it settled. -/
structure Step where
  ctx : ReserveDataContext
  data : AccountReserveData
  config : AccountConfig
  amount : ℕ
  interests : ℕ × ℕ

namespace ReserveDataContext

/-- The context with the reserve data replaced. -/
def withReserveData (ctx : ReserveDataContext) (reserveData : ReserveData) :
    ReserveDataContext := { ctx with reserveData }

variable [Pendzl]

/-- The accrual that opens every basic step: the interest of the entry is settled
against the indexes of the context and added to the totals. -/
def settle (ctx : ReserveDataContext) (data : AccountReserveData)
    (feeReductions : FeeReductions) :
    Res (ReserveDataContext × AccountReserveData × (ℕ × ℕ)) := do
  let accrual ← data.accumulateAccountInterest ctx.reserveIndexesAndFees.indexes
    ctx.reserveIndexesAndFees.fees feeReductions
  let interests := (accrual.depositInterest, accrual.debtInterest)
  let reserveData ← ctx.reserveData.addInterests interests
  return ({ ctx with
      reserveData
      reserveIndexesAndFees := { ctx.reserveIndexesAndFees with fees := accrual.fees } },
    accrual.data, interests)

/-- `account_for_deposit`. -/
def accountForDeposit (ctx : ReserveDataContext) (data : AccountReserveData)
    (config : AccountConfig) (feeReductions : FeeReductions) (amount : ℕ) : Res Step := do
  ctx.reserveData.ensureActivated
  ctx.reserveData.ensureNotFrozen
  let (ctx, data, interests) ← ctx.settle data feeReductions
  let posting ← data.increaseAccountDeposit ctx.assetId config ctx.reserveData amount
  let ctx := ctx.withReserveData posting.reserveData
  ctx.reserveRestrictions.ensureMaxTotalDepositNotReached ctx.reserveData
  return { ctx, data := posting.data, config := posting.config, amount, interests }

/-- `account_for_withdraw`. -/
def accountForWithdraw (ctx : ReserveDataContext) (data : AccountReserveData)
    (config : AccountConfig) (feeReductions : FeeReductions) (amount : ℕ)
    (canMutateAmount : Bool) : Res Step := do
  ctx.reserveData.ensureActivated
  failIf (data.deposit = 0) .insufficientDeposit
  let (ctx, data, interests) ← ctx.settle data feeReductions
  let amount := if data.deposit < amount ∧ canMutateAmount = true then data.deposit else amount
  let posting ← data.decreaseAccountDeposit ctx.assetId config ctx.reserveData
    ctx.reserveRestrictions amount
  let ctx := ctx.withReserveData posting.reserveData
  return { ctx, data := posting.data, config := posting.config, amount, interests }

/-- `account_for_borrow`. -/
def accountForBorrow (ctx : ReserveDataContext) (data : AccountReserveData)
    (config : AccountConfig) (feeReductions : FeeReductions) (amount : ℕ) : Res Step := do
  ctx.reserveData.ensureActivated
  ctx.reserveData.ensureNotFrozen
  let (ctx, data, interests) ← ctx.settle data feeReductions
  let posting ← data.increaseAccountDebt ctx.assetId config ctx.reserveData amount
  let ctx := ctx.withReserveData posting.reserveData
  ctx.reserveRestrictions.ensureDebtExceedsMinimum posting.data
  ctx.reserveRestrictions.ensureMaxTotalDebtNotReached ctx.reserveData
  return { ctx, data := posting.data, config := posting.config, amount, interests }

/-- `account_for_repay`. -/
def accountForRepay (ctx : ReserveDataContext) (data : AccountReserveData)
    (config : AccountConfig) (feeReductions : FeeReductions) (amount : ℕ)
    (canMutateAmount : Bool) : Res Step := do
  ctx.reserveData.ensureActivated
  let (ctx, data, interests) ← ctx.settle data feeReductions
  failIf (data.debt = 0) .nothingToRepay
  let amount := if data.debt < amount ∧ canMutateAmount = true then data.debt else amount
  let posting ← data.decreaseAccountDebt ctx.assetId config ctx.reserveData amount
  let ctx := ctx.withReserveData posting.reserveData
  ctx.reserveRestrictions.ensureDebtExceedsMinimum posting.data
  return { ctx, data := posting.data, config := posting.config, amount, interests }

end ReserveDataContext

/-! ### Actions on one reserve -/

/-- What the loop of `account_for_reserve_action` carries: the context and, by
position, the entries, the configs and the interests of the accounts. -/
structure ReserveActionState where
  ctx : ReserveDataContext
  accountsData : List AccountReserveData
  accountsConfig : List AccountConfig
  interestsAcc : List (ℕ × ℕ)

namespace ReserveActionState

/-- `InterestsAcc::update_at`. -/
def updateAt (items : List (ℕ × ℕ)) (index : ℕ) (interests : ℕ × ℕ) :
    Res (List (ℕ × ℕ)) := do
  let item ← unwrap items[index]?
  let deposit ← okOr (checkedAdd 128 item.1 interests.1) (mathErr .overflow)
  let debt ← okOr (checkedAdd 128 item.2 interests.2) (mathErr .overflow)
  return items.set index (deposit, debt)

/-- One step on the account at a position, and the amount it leaves. -/
def onAccount (st : ReserveActionState) (accountsFeeReductions : List FeeReductions)
    (accountId : ℕ)
    (step : ReserveDataContext → AccountReserveData → AccountConfig → FeeReductions → Res Step) :
    Res (ReserveActionState × ℕ) := do
  let data ← unwrap st.accountsData[accountId]?
  let config ← unwrap st.accountsConfig[accountId]?
  let feeReductions ← unwrap accountsFeeReductions[accountId]?
  let res ← step st.ctx data config feeReductions
  let interestsAcc ← updateAt st.interestsAcc accountId res.interests
  return ({
    ctx := res.ctx
    accountsData := st.accountsData.set accountId res.data
    accountsConfig := st.accountsConfig.set accountId res.config
    interestsAcc }, res.amount)

variable [Pendzl]

/-- The body of the loop of `account_for_reserve_action`: the state and the
action with its amount clipped. -/
def applyAction (st : ReserveActionState) (accountsFeeReductions : List FeeReductions) :
    ReserveAction → Res (ReserveActionState × ReserveAction)
  | .deposit accountId amount => do
      let (st, amount) ← st.onAccount accountsFeeReductions accountId
        fun ctx data config fee => ctx.accountForDeposit data config fee amount
      return (st, .deposit accountId amount)
  | .withdraw accountId amount canMutateAmount => do
      let (st, amount) ← st.onAccount accountsFeeReductions accountId
        fun ctx data config fee => ctx.accountForWithdraw data config fee amount canMutateAmount
      return (st, .withdraw accountId amount canMutateAmount)
  | .borrow accountId amount => do
      let (st, amount) ← st.onAccount accountsFeeReductions accountId
        fun ctx data config fee => ctx.accountForBorrow data config fee amount
      return (st, .borrow accountId amount)
  | .repay accountId amount => do
      let (st, amount) ← st.onAccount accountsFeeReductions accountId
        fun ctx data config fee => ctx.accountForRepay data config fee amount true
      return (st, .repay accountId amount)
  | .depositTransfer fromId toId amount isMutable => do
      let (st, amount) ← st.onAccount accountsFeeReductions fromId
        fun ctx data config fee => ctx.accountForWithdraw data config fee amount isMutable
      let (st, amount) ← st.onAccount accountsFeeReductions toId
        fun ctx data config fee => ctx.accountForDeposit data config fee amount
      return (st, .depositTransfer fromId toId amount isMutable)
  | .debtTransfer fromId toId amount isMutable => do
      let (st, amount) ← st.onAccount accountsFeeReductions fromId
        fun ctx data config fee => ctx.accountForRepay data config fee amount isMutable
      let (st, amount) ← st.onAccount accountsFeeReductions toId
        fun ctx data config fee => ctx.accountForBorrow data config fee amount
      return (st, .debtTransfer fromId toId amount isMutable)

/-- The loop of `account_for_reserve_action`. -/
def applyActions (st : ReserveActionState) (accountsFeeReductions : List FeeReductions) :
    List ReserveAction → Res (ReserveActionState × List ReserveAction)
  | [] => .ok (st, [])
  | action :: rest => do
      let (st, action) ← st.applyAction accountsFeeReductions action
      let (st, rest) ← st.applyActions accountsFeeReductions rest
      return (st, action :: rest)

end ReserveActionState

/-- What `account_for_reserve_action` leaves. -/
structure ReserveActionResult where
  storage : LendingPoolStorage
  accountsData : List AccountReserveData
  accountsConfig : List AccountConfig
  actions : List ReserveAction
  interests : List (ℕ × ℕ)

namespace LendingPoolStorage

variable [Pendzl] (self : LendingPoolStorage)

/-- The opening of `account_for_reserve_action`: the utilization snapshot is stored
and the indexes of the reserve are brought to the timestamp. -/
def openReserve (assetId : ℕ) (timestamp : ℕ) :
    Res (LendingPoolStorage × ReserveDataContext) := do
  let reserveData ← self.getReserveData assetId
  let reserveIndexesAndFees ← self.getReserveIndexesAndFees assetId
  let reserveRestrictions ← self.getReserveRestrictions assetId
  let self ← self.storeUtilizationRateSnapshot assetId reserveData timestamp
  let indexes ← reserveIndexesAndFees.indexes.update reserveData timestamp
  return (self, {
    assetId
    reserveData
    reserveIndexesAndFees := { reserveIndexesAndFees with indexes }
    reserveRestrictions })

/-- The current rates recalculated, for an asset that has an interest rate model. -/
def recalculateRates (assetId : ℕ) (reserveData : ReserveData) : Res ReserveData :=
  match self.interestRateModel.get assetId with
  | some model => reserveData.recalculateCurrentRates model
  | none => .ok reserveData

omit [Pendzl] in
/-- The reserve of an asset written back. -/
@[simps] def putReserve (assetId : ℕ) (reserveData : ReserveData)
    (reserveIndexesAndFees : ReserveIndexesAndFees) : LendingPoolStorage :=
  { self with
    reserveDatas := self.reserveDatas.insert assetId reserveData
    reserveIndexesAndFees := self.reserveIndexesAndFees.insert assetId reserveIndexesAndFees }

/-- `account_for_reserve_action`. -/
def accountForReserveAction (assetId : ℕ) (accountsData : List AccountReserveData)
    (accountsConfig : List AccountConfig) (accountsFeeReductions : List FeeReductions)
    (actions : List ReserveAction) (timestamp : ℕ) : Res ReserveActionResult := do
  failIf (accountsData.length ≠ accountsConfig.length) .vectorsInconsistentLengths
  let (self, ctx) ← self.openReserve assetId timestamp
  let st : ReserveActionState := {
    ctx
    accountsData
    accountsConfig
    interestsAcc := List.replicate accountsData.length (0, 0) }
  let (st, actions) ← st.applyActions accountsFeeReductions actions
  let reserveData ← self.recalculateRates assetId st.ctx.reserveData
  return {
    storage := self.putReserve assetId reserveData st.ctx.reserveIndexesAndFees
    accountsData := st.accountsData
    accountsConfig := st.accountsConfig
    actions
    interests := st.interestsAcc }

end LendingPoolStorage

/-- The amount an action ends up with. -/
def ReserveAction.amount : ReserveAction → ℕ
  | .deposit _ amount => amount
  | .withdraw _ amount _ => amount
  | .borrow _ amount => amount
  | .repay _ amount => amount
  | .depositTransfer _ _ amount _ => amount
  | .debtTransfer _ _ amount _ => amount

/-! ### Actions of one account -/

/-- What the loop of `account_for_account_actions` carries: the storage, the
local copies of the vector and the config of the account, and whether the
collateral must be checked. -/
structure AccountActionsState where
  storage : LendingPoolStorage
  accountDatas : List (Option AccountReserveData)
  accountConfig : AccountConfig
  mustCheckCollateralization : Bool

/-- What `account_for_account_actions` leaves: the storage, the actions with
their amounts clipped, and the interests of each action. -/
structure AccountActionsResult where
  storage : LendingPoolStorage
  actions : List Action
  interests : List (ℕ × ℕ)

/-- The reserve action of an action of the account, at position `0`. -/
def Action.toReserveAction (action : Action) : ReserveAction :=
  match action.op with
  | .deposit => .deposit 0 action.amount
  | .withdraw => .withdraw 0 action.amount true
  | .borrow => .borrow 0 action.amount
  | .repay => .repay 0 action.amount

namespace AccountActionsState

variable [Pendzl]

omit [Pendzl] in
/-- `must_check_collateralization` after the test that precedes an action: a
withdrawal of a collateral and every borrow demand the check. -/
def mustCheckAfter (st : AccountActionsState) (assetId : ℕ) (action : Action) : Res Bool :=
  match action.op with
  | .withdraw => do
      let shifted ← shiftRight st.accountConfig.collaterals assetId
      return if shifted &&& 1#128 = 1#128 then true else st.mustCheckCollateralization
  | .borrow => .ok true
  | .deposit | .repay => .ok st.mustCheckCollateralization

/-- The body of the loop of `account_for_account_actions`: the state, the action
with its amount clipped, and its interests. -/
def applyAction (st : AccountActionsState) (feeReductions : FeeReductions)
    (timestamp : ℕ) (action : Action) :
    Res (AccountActionsState × Action × (ℕ × ℕ)) := do
  let assetId ← st.storage.assetId action.asset
  let accountData ← getAccountDataEntryMut st.accountDatas assetId
  let mustCheckCollateralization ← st.mustCheckAfter assetId action
  let res ← st.storage.accountForReserveAction assetId [accountData] [st.accountConfig]
    [feeReductions] [action.toReserveAction] timestamp
  let accountData ← unwrap res.accountsData.head?
  let accountConfig ← unwrap res.accountsConfig.head?
  let reserveAction ← unwrap res.actions.head?
  let interests ← unwrap res.interests.head?
  return ({
      storage := res.storage
      accountDatas := st.accountDatas.set assetId (some accountData)
      accountConfig
      mustCheckCollateralization },
    { action with amount := reserveAction.amount }, interests)

/-- The loop of `account_for_account_actions`. -/
def applyActions (st : AccountActionsState) (feeReductions : FeeReductions)
    (timestamp : ℕ) :
    List Action → Res (AccountActionsState × List Action × List (ℕ × ℕ))
  | [] => .ok (st, [], [])
  | action :: rest => do
      let (st, action, interests) ← st.applyAction feeReductions timestamp action
      let (st, rest, results) ← st.applyActions feeReductions timestamp rest
      return (st, action :: rest, interests :: results)

end AccountActionsState

namespace LendingPoolStorage

variable [Pendzl] (self : LendingPoolStorage)

omit [Pendzl] in
/-- The vector and the config of an account written back. -/
@[simps] def putAccount (account : AccountId) (accountDatas : List (Option AccountReserveData))
    (accountConfig : AccountConfig) : LendingPoolStorage :=
  { self with
    accountReserveDatas := self.accountReserveDatas.insert account accountDatas
    accountConfigs := self.accountConfigs.insert account accountConfig }

/-- `account_for_account_actions`. -/
def accountForAccountActions (env : Env) (account : AccountId) (actions : List Action) :
    Res AccountActionsResult := do
  let feeReductions := self.getFeeReductionsOfAccount env account
  let st : AccountActionsState := {
    storage := self
    accountDatas := self.getAccountDatas account
    accountConfig := self.getAccountConfig account
    mustCheckCollateralization := false }
  let (st, actions, interests) ← st.applyActions feeReductions env.blockTimestamp actions
  if st.mustCheckCollateralization then
    st.storage.ensureCollateralizedFromRaw env st.accountDatas st.accountConfig feeReductions
  return {
    storage := st.storage.putAccount account st.accountDatas st.accountConfig
    actions
    interests }

/-! ### Actions between two accounts -/

/-- What `account_for_liquidate` leaves: the storage, the amount repaid after
clipping, the amount taken, and the three pairs of interests it returns. -/
structure LiquidateResult where
  storage : LendingPoolStorage
  amountToRepay : ℕ
  amountToTake : ℕ
  interestsToRepay : ℕ × ℕ
  interestsToTake : ℕ × ℕ
  callerInterestsToTake : ℕ × ℕ

/-- `account_for_liquidate`.  The vectors and configs of both accounts are local
copies, written back in the order liquidated account, caller. -/
def accountForLiquidate (env : Env) (caller liquidatedAccount assetToRepay assetToTake : AccountId)
    (amountToRepay : ℕ) (timestamp : ℕ) : Res LiquidateResult := do
  let assetToRepayId ← self.assetId assetToRepay
  let assetToTakeId ← self.assetId assetToTake
  let liquidatedDatas := self.getAccountDatas liquidatedAccount
  let callerDatas := self.getAccountDatas caller
  let liquidatedConfig := self.getAccountConfig liquidatedAccount
  let callerConfig := self.getAccountConfig caller
  let liquidatedFeeReductions := self.getFeeReductionsOfAccount env liquidatedAccount
  let callerFeeReductions := self.getFeeReductionsOfAccount env caller
  let dataToRepay ← okOr (← unwrap liquidatedDatas[assetToRepayId]?) .nothingToRepay
  failIf (dataToRepay.debt = 0) .nothingToRepay
  let repaid ← self.accountForReserveAction assetToRepayId [dataToRepay] [liquidatedConfig]
    [liquidatedFeeReductions] [.repay 0 amountToRepay] timestamp
  let self := repaid.storage
  let dataToRepay ← unwrap repaid.accountsData.head?
  let liquidatedConfig ← unwrap repaid.accountsConfig.head?
  let repayAction ← unwrap repaid.actions.head?
  let interestsToRepay ← unwrap repaid.interests.head?
  let amountToRepay := repayAction.amount
  let liquidatedDatas := liquidatedDatas.set assetToRepayId (some dataToRepay)
  let pricesE18 ← self.getAssetsPricesE18 env
  let amountToTake ← self.calculateLiquidatedAmountAndEnsureCollateralized liquidatedAccount
    assetToRepayId assetToTakeId (← unwrap pricesE18[assetToRepayId]?)
    (← unwrap pricesE18[assetToTakeId]?) amountToRepay
  let dataToTake ← okOr (← unwrap liquidatedDatas[assetToTakeId]?) .nothingToCompensateWith
  let callerData ← getAccountDataEntryMut callerDatas assetToTakeId
  let taken ← self.accountForReserveAction assetToTakeId [dataToTake, callerData]
    [liquidatedConfig, callerConfig] [liquidatedFeeReductions, callerFeeReductions]
    [.depositTransfer 0 1 amountToTake true] timestamp
  let self := taken.storage
  let dataToTake ← unwrap taken.accountsData[0]?
  let callerData ← unwrap taken.accountsData[1]?
  let liquidatedConfig ← unwrap taken.accountsConfig[0]?
  let callerConfig ← unwrap taken.accountsConfig[1]?
  let takeAction ← unwrap taken.actions.head?
  let liquidatedDatas := liquidatedDatas.set assetToTakeId (some dataToTake)
  let callerDatas := callerDatas.set assetToTakeId (some callerData)
  return {
    storage := (self.putAccount liquidatedAccount liquidatedDatas liquidatedConfig).putAccount
      caller callerDatas callerConfig
    amountToRepay
    amountToTake := takeAction.amount
    interestsToRepay
    interestsToTake := ← unwrap taken.interests[0]?
    callerInterestsToTake := ← unwrap taken.interests[1]? }

/-- What the two transfers leave: the storage and the interests of both accounts. -/
structure TransferResult where
  storage : LendingPoolStorage
  fromInterests : ℕ × ℕ
  toInterests : ℕ × ℕ

/-- `account_for_deposit_transfer_from_to`.  The receiver is written by
`insertAccountData`, then the sender; `collaterals & (1 << asset_id) == 1` is the
test of the source. -/
def accountForDepositTransferFromTo (env : Env) (asset fromAccount toAccount : AccountId)
    (amount : ℕ) (timestamp : ℕ) : Res TransferResult := do
  let assetId ← self.assetId asset
  let fromConfig ← okOr (self.accountConfigs.get fromAccount) .insufficientDeposit
  let fromDatas ← okOr (self.accountReserveDatas.get fromAccount) .insufficientDeposit
  let toConfig := self.getAccountConfig toAccount
  let (toData, toDatas) := self.getAccountReserveData assetId toAccount
  let fromFeeReductions := self.getFeeReductionsOfAccount env fromAccount
  let toFeeReductions := self.getFeeReductionsOfAccount env toAccount
  let fromData ← okOr (← unwrap fromDatas[assetId]?) .insufficientDeposit
  let res ← self.accountForReserveAction assetId [fromData, toData] [fromConfig, toConfig]
    [fromFeeReductions, toFeeReductions] [.depositTransfer 0 1 amount false] timestamp
  let self := res.storage
  let fromData ← unwrap res.accountsData[0]?
  let toData ← unwrap res.accountsData[1]?
  let fromConfig ← unwrap res.accountsConfig[0]?
  let toConfig ← unwrap res.accountsConfig[1]?
  let fromDatas := fromDatas.set assetId (some fromData)
  if fromConfig.collaterals &&& (← bitMask assetId) = 1#128 then
    self.ensureCollateralizedFromRaw env fromDatas fromConfig
      (self.getFeeReductionsOfAccount env fromAccount)
  let self ← self.insertAccountData toDatas assetId toData toAccount
  return {
    storage := ((self.putDatas fromAccount fromDatas).putConfig fromAccount fromConfig).putConfig
      toAccount toConfig
    fromInterests := ← unwrap res.interests[0]?
    toInterests := ← unwrap res.interests[1]? }

/-- `account_for_debt_transfer_from_to`.  The giver is written by
`insertAccountData`, then the receiver. -/
def accountForDebtTransferFromTo (env : Env) (asset fromAccount toAccount : AccountId)
    (amount : ℕ) (timestamp : ℕ) : Res TransferResult := do
  let assetId ← self.assetId asset
  let fromConfig := self.getAccountConfig fromAccount
  let (fromData, fromDatas) := self.getAccountReserveData assetId fromAccount
  let toConfig ← okOr (self.accountConfigs.get toAccount) .insufficientCollateral
  let toDatas ← okOr (self.accountReserveDatas.get toAccount) .insufficientCollateral
  let fromFeeReductions := self.getFeeReductionsOfAccount env fromAccount
  let toFeeReductions := self.getFeeReductionsOfAccount env toAccount
  let toData ← getAccountDataEntryMut toDatas assetId
  let res ← self.accountForReserveAction assetId [fromData, toData] [fromConfig, toConfig]
    [fromFeeReductions, toFeeReductions] [.debtTransfer 0 1 amount false] timestamp
  let self := res.storage
  let fromData ← unwrap res.accountsData[0]?
  let toData ← unwrap res.accountsData[1]?
  let fromConfig ← unwrap res.accountsConfig[0]?
  let toConfig ← unwrap res.accountsConfig[1]?
  let toDatas := toDatas.set assetId (some toData)
  self.ensureCollateralizedFromRaw env toDatas toConfig
    (self.getFeeReductionsOfAccount env toAccount)
  let self ← self.insertAccountData fromDatas assetId fromData fromAccount
  return {
    storage := ((self.putDatas toAccount toDatas).putConfig toAccount toConfig).putConfig
      fromAccount fromConfig
    fromInterests := ← unwrap res.interests[0]?
    toInterests := ← unwrap res.interests[1]? }

/-! ### Collateral switches and pokes -/

omit [Pendzl] in
/-- `account_for_set_as_collateral`. -/
def accountForSetAsCollateral (account asset : AccountId) (useAsCollateralToSet : Bool) :
    Res LendingPoolStorage := do
  let assetId ← self.assetId asset
  let (accountReserveData, _) := self.getAccountReserveData assetId account
  let accountConfig := self.getAccountConfig account
  let reserveRestrictions ← self.getReserveRestrictions assetId
  let marketRule ← self.getMarketRule accountConfig
  let rules ← okOr marketRule[assetId]?.join .ruleCollateralDisable
  let collateralCoefficientE6 := rules.collateralCoefficientE6.getD 0
  failIf (useAsCollateralToSet = true ∧ collateralCoefficientE6 = 0) .ruleCollateralDisable
  if useAsCollateralToSet then
    reserveRestrictions.ensureCollateralExceedsMinimum accountReserveData
  let mask ← bitMask assetId
  let collaterals :=
    if useAsCollateralToSet then accountConfig.collaterals ||| mask
    else accountConfig.collaterals &&& ~~~mask
  return self.putConfig account { accountConfig with collaterals }

/-- `account_for_accumulate_interest`. -/
def accountForAccumulateInterest (asset : AccountId) (timestamp : ℕ) :
    Res LendingPoolStorage := do
  let assetId ← self.assetId asset
  let reserveData ← self.getReserveData assetId
  let reserveIndexesAndFees ← self.getReserveIndexesAndFees assetId
  let self ← self.storeUtilizationRateSnapshot assetId reserveData timestamp
  let indexes ← reserveIndexesAndFees.indexes.update reserveData timestamp
  let reserveData ← self.recalculateRates assetId reserveData
  return self.putReserve assetId reserveData { reserveIndexesAndFees with indexes }

end LendingPoolStorage

end AbaxLending
