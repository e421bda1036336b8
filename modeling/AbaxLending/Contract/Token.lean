import AbaxLending.Pool.Manage

/-!
The world around the pool: the aTokens and vTokens, the underlying tokens, and
the helpers of `internal.rs` by which the pool talks to them.

* `World`: the pool, the registered accounts, the deployed abacus tokens, the
  balances of the underlying tokens with the calls made to them, and the
  `Transfer` and `Approval` events emitted by the abacus tokens;
* `emitTransferEvents`, `emitTransferEventAndDecreaseAllowance`: the messages an
  abacus token accepts from the pool only;
* `emitAbacusTokenTransferEvent` and its two variants: a net amount is an `i128`
  computed from `u128`s with wrapping casts (`toI128`, `overflowingSub`, `toU128`);
* `transferIn`, `transferOut`: an underlying token moves exactly the requested
  amount or the call fails; an asset without interest rate model is burnt and
  minted instead.
-/

namespace AbaxLending

open Outcome

/-! ### Errors between the contracts -/

/-- `format!("{e:?}")` of a `PSP22Error`. -/
def PSP22Error.debugText : PSP22Error → String
  | .custom text => "Custom(" ++ text.quote ++ ")"
  | .insufficientBalance => "InsufficientBalance"
  | .insufficientAllowance => "InsufficientAllowance"

/-- `format!("{e:?}")` of a `LendingPoolError`. -/
def LendingPoolError.debugText : LendingPoolError → String
  | .psp22Error e => "PSP22Error(" ++ e.debugText ++ ")"
  | .accessControlError .missingRole => "AccessControlError(MissingRole)"
  | .mathError .overflow => "MathError(Overflow)"
  | .mathError .underflow => "MathError(Underflow)"
  | .mathError .divByZero => "MathError(DivByZero)"
  | .assetRulesError .invalidAssetRule => "AssetRulesError(InvalidAssetRule)"
  | .reserveDataError .alreadySet => "ReserveDataError(AlreadySet)"
  | .reserveDataError .inactive => "ReserveDataError(Inactive)"
  | .reserveDataError .frozen => "ReserveDataError(Frozen)"
  | .reserveRestrictionsError .maxDebtReached => "ReserveRestrictionsError(MaxDebtReached)"
  | .reserveRestrictionsError .maxDepositReached => "ReserveRestrictionsError(MaxDepositReached)"
  | .reserveRestrictionsError .minimalDebt => "ReserveRestrictionsError(MinimalDebt)"
  | .reserveRestrictionsError .minimalCollateral => "ReserveRestrictionsError(MinimalCollateral)"
  | .priceFeedError .noSuchAsset => "PriceFeedError(NoSuchAsset)"
  | .priceFeedError .noPriceFeed => "PriceFeedError(NoPriceFeed)"
  | .amountNotGreaterThanZero => "AmountNotGreaterThanZero"
  | .alreadyRegistered => "AlreadyRegistered"
  | .assetNotRegistered => "AssetNotRegistered"
  | .assetIsProtocolStablecoin => "AssetIsProtocolStablecoin"
  | .assetIsNotProtocolStablecoin => "AssetIsNotProtocolStablecoin"
  | .ruleBorrowDisable => "RuleBorrowDisable"
  | .ruleCollateralDisable => "RuleCollateralDisable"
  | .insufficientCollateral => "InsufficientCollateral"
  | .insufficientDebt => "InsufficientDebt"
  | .collaterized => "Collaterized"
  | .insufficientDeposit => "InsufficientDeposit"
  | .minimumRecieved => "MinimumRecieved"
  | .nothingToRepay => "NothingToRepay"
  | .nothingToCompensateWith => "NothingToCompensateWith"
  | .takingNotACollateral => "TakingNotACollateral"
  | .vectorsInconsistentLengths => "VectorsInconsistentLengths"
  | .marketRuleInvalidId => "MarketRuleInvalidId"
  | .depositFeeTooHigh => "DepositFeeTooHigh"
  | .twEntryInvalidIndex n => "TwEntryInvalidIndex(" ++ toString n ++ ")"
  | .tooEarlyToAdjustRate => "TooEarlyToAdjustRate"

/-- `impl From<LendingPoolError> for PSP22Error`. -/
def LendingPoolError.toPSP22Error : LendingPoolError → PSP22Error
  | .mathError .underflow => .insufficientBalance
  | e => .custom e.debugText

/-! ### `i128` -/

/-- `n as i128`. -/
def toI128 (n : ℕ) : ℤ := (n : ℤ).bmod (2 ^ 128)

/-- `x.overflowing_sub(y).0` of two `i128`. -/
def overflowingSub (x y : ℤ) : ℤ := (x - y).bmod (2 ^ 128)

/-- `x as u128`. -/
def toU128 (x : ℤ) : ℕ := (x % 2 ^ 128).toNat

/-- `u128::try_from(x.neg()).unwrap()`: the negation of the least `i128` and a
negative result trap. -/
def negToU128 {ε : Type} (x : ℤ) : Comp ε ℕ := do
  trapIf (x = -2 ^ 127 ∨ 0 < x)
  return (-x).toNat

/-! ### The world -/

/-- The storage of an aToken or vToken. -/
structure AbacusToken where
  kind : TokenKind
  lendingPool : AccountId
  underlyingAsset : AccountId
  allowances : Mapping (AccountId × AccountId) ℕ

/-- The token that the constructor of an abacus token leaves. -/
def AbacusToken.new (kind : TokenKind) (lendingPool underlyingAsset : AccountId) : AbacusToken :=
  { kind, lendingPool, underlyingAsset, allowances := .empty }

/-- `_allowance`. -/
def AbacusToken.allowance (self : AbacusToken) (owner spender : AccountId) : ℕ :=
  (self.allowances.get (owner, spender)).getD 0

/-- The token with one allowance written. -/
def AbacusToken.setAllowance (self : AbacusToken) (owner spender : AccountId)
    (amount : ℕ) : AbacusToken :=
  { self with allowances := self.allowances.insert (owner, spender) amount }

/-- The PSP22 events of the abacus tokens. -/
inductive Event where
  | transfer (token : AccountId) (fromAccount toAccount : Option AccountId) (value : ℕ)
  | approval (token owner spender : AccountId) (value : ℕ)
  deriving DecidableEq, Repr

/-- `TransferEventData`. -/
structure TransferEventData where
  fromAccount : Option AccountId
  toAccount : Option AccountId
  amount : ℕ
  deriving DecidableEq, Repr

/-- The `Transfer` events of a list of event data; amounts of zero emit nothing. -/
def transferEvents (token : AccountId) (events : List TransferEventData) : List Event :=
  (events.filter fun event => event.amount ≠ 0).map fun event =>
    .transfer token event.fromAccount event.toAccount event.amount

/-- `AccountRegistrar`. -/
structure AccountRegistrar where
  counterToAccount : Mapping ℕ AccountId
  accountToCounter : Mapping AccountId ℕ
  nextCounter : ℕ

/-- `AccountRegistrar::ensure_registered`. -/
def AccountRegistrar.ensureRegistered (self : AccountRegistrar) (account : AccountId) :
    Res AccountRegistrar :=
  if self.accountToCounter.contains account then .ok self
  else do
    let nextCounter ← unwrap (checkedAdd 128 self.nextCounter 1)
    return {
      counterToAccount := self.counterToAccount.insert self.nextCounter account
      accountToCounter := self.accountToCounter.insert account self.nextCounter
      nextCounter }

/-- Everything a message can change. -/
structure World where
  poolAddress : AccountId
  pool : LendingPoolStorage
  registrar : AccountRegistrar
  tokens : Mapping AccountId AbacusToken
  balanceOf : AccountId → AccountId → ℕ
  calls : List (AccountId × PSP22Call)
  events : List Event

namespace World

variable (w : World)

/-- The world with the pool replaced. -/
@[simps] def withPool (pool : LendingPoolStorage) : World := { w with pool }

/-- The world with events appended. -/
@[simps] def emit (events : List Event) : World := { w with events := w.events ++ events }

/-- The allowance that a token shows; a missing token shows nothing. -/
def allowance (token owner spender : AccountId) : ℕ :=
  ((w.tokens.get token).map fun t => t.allowance owner spender).getD 0

/-! ### Abacus tokens -/

/-- `_approve` of a token: the allowance and its event. -/
@[simps] def approveFromTo (tokenAddress : AccountId) (token : AbacusToken)
    (owner spender : AccountId) (amount : ℕ) : World :=
  { w with
    tokens := w.tokens.insert tokenAddress (token.setAllowance owner spender amount)
    events := w.events ++ [.approval tokenAddress owner spender amount] }

/-- `_decrease_allowance_from_to`. -/
def decreaseAllowanceFromTo (tokenAddress : AccountId) (token : AbacusToken)
    (owner spender : AccountId) (amount : ℕ) : TokenRes World := do
  let newAllowance ← okOr (checkedSub (token.allowance owner spender) amount) .insufficientAllowance
  return w.approveFromTo tokenAddress token owner spender newAllowance

/-- `_increase_allowance_from_to`. -/
def increaseAllowanceFromTo (tokenAddress : AccountId) (token : AbacusToken)
    (owner spender : AccountId) (amount : ℕ) : TokenRes World := do
  let newAllowance ←
    okOr (checkedAdd 128 (token.allowance owner spender) amount) (.custom "Overflow")
  return w.approveFromTo tokenAddress token owner spender newAllowance

/-- `AbacusToken::emit_transfer_events`, called by the pool. -/
def emitTransferEvents (tokenAddress : AccountId) (events : List TransferEventData) :
    TokenRes World := do
  let token ← unwrap (w.tokens.get tokenAddress)
  failIf (token.lendingPool ≠ w.poolAddress) (.custom "NotLendingPool")
  return w.emit (transferEvents tokenAddress events)

/-- `AbacusToken::emit_transfer_event_and_decrease_allowance`, called by the pool. -/
def emitTransferEventAndDecreaseAllowance (tokenAddress : AccountId) (event : TransferEventData)
    (owner spender : AccountId) (decreaseAllowanceBy : ℕ) : TokenRes World := do
  let token ← unwrap (w.tokens.get tokenAddress)
  failIf (token.lendingPool ≠ w.poolAddress) (.custom "NotLendingPool")
  let w := w.emit (transferEvents tokenAddress [event])
  failIf (token.allowance owner spender < decreaseAllowanceBy) .insufficientAllowance
  w.decreaseAllowanceFromTo tokenAddress token owner spender decreaseAllowanceBy

/-- `_emit_abacus_token_transfer_event`. -/
def emitAbacusTokenTransferEvent (abacusToken account : AccountId) (amountTransferred : ℤ) :
    Res World :=
  mapErr .psp22Error <|
    if 0 < amountTransferred then
      w.emitTransferEvents abacusToken [⟨none, some account, amountTransferred.toNat⟩]
    else if amountTransferred < 0 then do
      w.emitTransferEvents abacusToken [⟨some account, none, ← negToU128 amountTransferred⟩]
    else .ok w

/-- One event of `_emit_abacus_token_transfer_events`. -/
def simplifiedEvent (account : AccountId) (amount : ℤ) : TokenRes TransferEventData :=
  if 0 < amount then .ok ⟨none, some account, toU128 amount⟩
  else do return ⟨some account, none, ← negToU128 amount⟩

/-- `_emit_abacus_token_transfer_events`. -/
def emitAbacusTokenTransferEvents (abacusToken : AccountId) (data : List (AccountId × ℤ)) :
    Res World :=
  mapErr .psp22Error do
    let events ← data.mapM fun event => simplifiedEvent event.1 event.2
    w.emitTransferEvents abacusToken events

/-- `_emit_abacus_token_transfer_event_and_decrease_allowance`: only a spender
other than the account needs an allowance.  In that case a negative amount is cast
to `u128` as it stands. -/
def emitAbacusTokenTransferEventAndDecreaseAllowance (abacusToken account : AccountId)
    (amountTransferred : ℤ) (spender : AccountId) (decreaseAllowanceBy : ℕ) : Res World :=
  if spender = account then w.emitAbacusTokenTransferEvent abacusToken account amountTransferred
  else
    let event : TransferEventData :=
      if 0 < amountTransferred then ⟨none, some account, toU128 amountTransferred⟩
      else ⟨some account, none, toU128 amountTransferred⟩
    mapErr .psp22Error
      (w.emitTransferEventAndDecreaseAllowance abacusToken event account spender
        decreaseAllowanceBy)

/-! ### Underlying tokens -/

/-- The balances of one token with an amount added to an account. -/
def credit (balances : AccountId → ℕ) (account : AccountId) (amount : ℕ) :
    AccountId → ℕ := Function.update balances account (balances account + amount)

/-- The balances of one token with an amount taken from an account. -/
def debit (balances : AccountId → ℕ) (account : AccountId) (amount : ℕ) :
    Res (AccountId → ℕ) := do
  let rest ← okOr (checkedSub (balances account) amount) (.psp22Error .insufficientBalance)
  return Function.update balances account rest

/-- The balances of one token after a call of the pool. -/
def settleCall (poolAddress : AccountId) (balances : AccountId → ℕ) :
    PSP22Call → Res (AccountId → ℕ)
  | .transferFrom fromAccount toAccount amount => do
      return credit (← debit balances fromAccount amount) toAccount amount
  | .transfer toAccount amount => do
      return credit (← debit balances poolAddress amount) toAccount amount
  | .mint toAccount amount => .ok (credit balances toAccount amount)
  | .burn fromAccount amount => debit balances fromAccount amount

/-- A call of the pool to an underlying token: it moves exactly the amount, or fails. -/
def invoke (env : Env) (asset : AccountId) (call : PSP22Call) : Res World := do
  mapErr .psp22Error (env.admitsCall asset call)
  let balances ← settleCall w.poolAddress (w.balanceOf asset) call
  return { w with
    balanceOf := Function.update w.balanceOf asset balances
    calls := w.calls ++ [(asset, call)] }

/-- `_transfer_in`. -/
def transferIn (env : Env) (asset fromAccount : AccountId) (amount : ℕ) : Res World := do
  let assetId ← w.pool.assetId asset
  if w.pool.interestRateModel.contains assetId then
    w.invoke env asset (.transferFrom fromAccount w.poolAddress amount)
  else w.invoke env asset (.burn fromAccount amount)

/-- `_transfer_out`. -/
def transferOut (env : Env) (asset toAccount : AccountId) (amount : ℕ) : Res World := do
  let assetId ← w.pool.assetId asset
  if w.pool.interestRateModel.contains assetId then
    w.invoke env asset (.transfer toAccount amount)
  else w.invoke env asset (.mint toAccount amount)

end World

/-- `_check_amount_not_zero`. -/
def checkAmountNotZero (amount : ℕ) : Res Unit :=
  failIf (amount = 0) .amountNotGreaterThanZero

end AbaxLending
