import AbaxLending.Contract.Messages
import AbaxLending.Spec.Transfers

/-!
What a message does to the pool.

A message changes the pool through the storage functions only; its calls to the
tokens leave the pool alone.  `PoolStep` lists, message by message, which storage
function ran, and `execute_frame` says that a message that succeeds did just that.
Invariants of the pool are proved against `PoolStep`.
-/

namespace AbaxLending

open Outcome

/-- What an abacus token is for: its kind and its asset. -/
def AbacusToken.identity (self : AbacusToken) : TokenKind × AccountId :=
  (self.kind, self.underlyingAsset)

namespace World

/-- What the calls to the tokens keep: the pool, its address, and the identities of the
abacus tokens. -/
structure Keeps (w w' : World) : Prop where
  pool : w'.pool = w.pool
  poolAddress : w'.poolAddress = w.poolAddress
  tokens : ∀ address, (w'.tokens.get address).map AbacusToken.identity
    = (w.tokens.get address).map AbacusToken.identity

/-- What the calls to the abacus tokens keep besides: they move no underlying, call no
underlying token and register nobody. -/
structure Emits (w w' : World) : Prop extends Keeps w w' where
  balanceOf : w'.balanceOf = w.balanceOf
  calls : w'.calls = w.calls
  registrar : w'.registrar = w.registrar

variable {w w' : World} {env : Env} {asset account spender : AccountId} {amount : ℕ} {net : ℤ}

lemma Keeps.refl (w : World) : Keeps w w := ⟨rfl, rfl, fun _ => rfl⟩

lemma Keeps.trans {w'' : World} (h : Keeps w w') (h' : Keeps w' w'') : Keeps w w'' :=
  ⟨h'.pool.trans h.pool, h'.poolAddress.trans h.poolAddress,
    fun address => (h'.tokens address).trans (h.tokens address)⟩

/-! ### Calls to the tokens -/

/-- Emitting events keeps the rest. -/
lemma emit_emits (w : World) (events : List Event) : Emits w (w.emit events) :=
  ⟨⟨rfl, rfl, fun _ => rfl⟩, rfl, rfl, rfl⟩

/-- Writing an allowance keeps the identity of the token. -/
lemma approveFromTo_keeps {token : AbacusToken} (ht : w.tokens.get asset = some token) :
    Keeps w (w.approveFromTo asset token account spender amount) := by
  refine ⟨rfl, rfl, fun address => ?_⟩
  rw [approveFromTo_tokens, Mapping.get_insert]
  split_ifs with ha
  · rw [ha, ht]
    rfl
  · rfl

/-- An abacus token that emits events changes nothing else. -/
lemma emitTransferEvents_ok {data : List TransferEventData}
    (h : w.emitTransferEvents asset data = .ok w') : w' = w.emit (transferEvents asset data) := by
  simp only [emitTransferEvents, bind_eq_ok, pure_eq, Except.ok.injEq] at h
  obtain ⟨_, _, _, _, rfl⟩ := h
  rfl

/-- An abacus token charges an allowance that covers the amount. -/
lemma emitTransferEventAndDecreaseAllowance_ok {event : TransferEventData}
    (h : w.emitTransferEventAndDecreaseAllowance asset event account spender amount = .ok w') :
    ∃ token, w.tokens.get asset = some token ∧ amount ≤ token.allowance account spender
      ∧ w' = (w.emit (transferEvents asset [event])).approveFromTo asset token account spender
          (token.allowance account spender - amount) := by
  simp only [emitTransferEventAndDecreaseAllowance, decreaseAllowanceFromTo, bind_eq_ok,
    unwrap_eq_ok, okOr_eq_ok, checkedSub_eq_some, failIf_eq_ok, pure_eq, Except.ok.injEq] at h
  obtain ⟨token, ht, _, _, _, hle, rest, hrest, rfl⟩ := h
  exact ⟨token, ht, by omega, by rw [hrest, Nat.add_sub_cancel]⟩

/-- `_emit_abacus_token_transfer_event` emits events only. -/
lemma emitAbacusTokenTransferEvent_ok
    (h : w.emitAbacusTokenTransferEvent asset account net = .ok w') :
    ∃ events, w' = w.emit events := by
  simp only [emitAbacusTokenTransferEvent, mapErr_eq_ok] at h
  split_ifs at h
  · exact ⟨_, emitTransferEvents_ok h⟩
  · simp only [bind_eq_ok] at h
    obtain ⟨_, _, h⟩ := h
    exact ⟨_, emitTransferEvents_ok h⟩
  · simp only [Except.ok.injEq] at h
    exact ⟨[], by simp [← h, emit]⟩

/-- `_emit_abacus_token_transfer_events` emits events only. -/
lemma emitAbacusTokenTransferEvents_ok {data : List (AccountId × ℤ)}
    (h : w.emitAbacusTokenTransferEvents asset data = .ok w') : ∃ events, w' = w.emit events := by
  simp only [emitAbacusTokenTransferEvents, mapErr_eq_ok, bind_eq_ok] at h
  obtain ⟨_, _, h⟩ := h
  exact ⟨_, emitTransferEvents_ok h⟩

/-- `_emit_abacus_token_transfer_event_and_decrease_allowance` emits events, and charges
the allowance of a spender other than the account. -/
lemma emitAbacusTokenTransferEventAndDecreaseAllowance_ok
    (h : w.emitAbacusTokenTransferEventAndDecreaseAllowance asset account net spender amount
      = .ok w') :
    (spender = account ∧ ∃ events, w' = w.emit events)
      ∨ (spender ≠ account ∧ ∃ token events, w.tokens.get asset = some token
          ∧ amount ≤ token.allowance account spender
          ∧ w' = (w.emit events).approveFromTo asset token account spender
            (token.allowance account spender - amount)) := by
  rw [emitAbacusTokenTransferEventAndDecreaseAllowance] at h
  by_cases hs : spender = account
  · rw [if_pos hs] at h
    exact .inl ⟨hs, emitAbacusTokenTransferEvent_ok h⟩
  · rw [if_neg hs, mapErr_eq_ok] at h
    obtain ⟨token, ht, hle, rfl⟩ := emitTransferEventAndDecreaseAllowance_ok h
    exact .inr ⟨hs, token, _, ht, hle, rfl⟩

lemma emitAbacusTokenTransferEventAndDecreaseAllowance_emits
    (h : w.emitAbacusTokenTransferEventAndDecreaseAllowance asset account net spender amount
      = .ok w') : Emits w w' := by
  obtain ⟨-, events, rfl⟩ | ⟨-, token, events, ht, -, rfl⟩ :=
    emitAbacusTokenTransferEventAndDecreaseAllowance_ok h
  · exact emit_emits w events
  · exact ⟨(emit_emits w events).toKeeps.trans (approveFromTo_keeps ht), rfl, rfl, rfl⟩

lemma emitAbacusTokenTransferEvent_emits
    (h : w.emitAbacusTokenTransferEvent asset account net = .ok w') : Emits w w' := by
  obtain ⟨events, rfl⟩ := emitAbacusTokenTransferEvent_ok h
  exact emit_emits w events

lemma emitAbacusTokenTransferEvents_emits {data : List (AccountId × ℤ)}
    (h : w.emitAbacusTokenTransferEvents asset data = .ok w') : Emits w w' := by
  obtain ⟨events, rfl⟩ := emitAbacusTokenTransferEvents_ok h
  exact emit_emits w events

/-- A call to an underlying token changes its balances and the list of calls. -/
lemma invoke_ok {call : PSP22Call} (h : w.invoke env asset call = .ok w') :
    ∃ balances, settleCall w.poolAddress (w.balanceOf asset) call = .ok balances
      ∧ w' = { w with
          balanceOf := Function.update w.balanceOf asset balances
          calls := w.calls ++ [(asset, call)] } := by
  simp only [invoke, bind_eq_ok, pure_eq, Except.ok.injEq] at h
  obtain ⟨_, _, balances, hb, rfl⟩ := h
  exact ⟨balances, hb, rfl⟩

/-- What `_transfer_in` does. -/
lemma transferIn_ok (h : w.transferIn env asset account amount = .ok w') :
    ∃ k, w.pool.assetToId.get asset = some k
      ∧ w.invoke env asset (if w.pool.interestRateModel.contains k = true
          then .transferFrom account w.poolAddress amount else .burn account amount) = .ok w' := by
  simp only [transferIn, LendingPoolStorage.assetId, bind_eq_ok, okOr_eq_ok] at h
  obtain ⟨k, hk, h⟩ := h
  refine ⟨k, hk, ?_⟩
  split_ifs at h ⊢ <;> exact h

/-- What `_transfer_out` does. -/
lemma transferOut_ok (h : w.transferOut env asset account amount = .ok w') :
    ∃ k, w.pool.assetToId.get asset = some k
      ∧ w.invoke env asset (if w.pool.interestRateModel.contains k = true
          then .transfer account amount else .mint account amount) = .ok w' := by
  simp only [transferOut, LendingPoolStorage.assetId, bind_eq_ok, okOr_eq_ok] at h
  obtain ⟨k, hk, h⟩ := h
  refine ⟨k, hk, ?_⟩
  split_ifs at h ⊢ <;> exact h

/-- A call to an underlying token keeps the pool, its address and the abacus tokens. -/
lemma invoke_frame {call : PSP22Call} (h : w.invoke env asset call = .ok w') :
    Keeps w w' ∧ w'.tokens = w.tokens := by
  obtain ⟨_, _, rfl⟩ := invoke_ok h
  exact ⟨⟨rfl, rfl, fun _ => rfl⟩, rfl⟩

lemma transferIn_frame (h : w.transferIn env asset account amount = .ok w') :
    Keeps w w' ∧ w'.tokens = w.tokens := by
  obtain ⟨_, _, h⟩ := transferIn_ok h
  exact invoke_frame h

lemma transferOut_frame (h : w.transferOut env asset account amount = .ok w') :
    Keeps w w' ∧ w'.tokens = w.tokens := by
  obtain ⟨_, _, h⟩ := transferOut_ok h
  exact invoke_frame h

/-! ### The pool after a message -/

/-- The storage function behind a transfer of a token: the pool is called by the
token, and checks the account that can get short of collateral. -/
def TokenMove [Pendzl] (env : Env) (tokenAddress : AccountId) (token : AbacusToken)
    (fromAccount toAccount : AccountId) (amount : ℕ) (s s' : LendingPoolStorage) : Prop :=
  let env := { env with caller := tokenAddress }
  match token.kind with
  | .aToken => ∃ res,
      s.accountForDepositTransferFromTo env token.underlyingAsset fromAccount toAccount amount
        env.blockTimestamp = .ok res
      ∧ s' = res.storage ∧ amount ≠ 0 ∧ s'.ensureCollateralizedByAccount env fromAccount = .ok ()
  | .vToken => ∃ res,
      s.accountForDebtTransferFromTo env token.underlyingAsset fromAccount toAccount amount
        env.blockTimestamp = .ok res
      ∧ s' = res.storage ∧ amount ≠ 0 ∧ s'.ensureCollateralizedByAccount env toAccount = .ok ()

/-- **The rule of a token move**: what both kinds of transfer establish, it establishes. -/
lemma TokenMove.rule [Pendzl] {env : Env} {tokenAddress : AccountId} {token : AbacusToken}
    {fromAccount toAccount : AccountId} {amount : ℕ} {s s' : LendingPoolStorage}
    {P : LendingPoolStorage → Prop}
    (h : TokenMove env tokenAddress token fromAccount toAccount amount s s')
    (hdeposit : ∀ res, s.accountForDepositTransferFromTo { env with caller := tokenAddress }
      token.underlyingAsset fromAccount toAccount amount env.blockTimestamp = .ok res →
      P res.storage)
    (hdebt : ∀ res, s.accountForDebtTransferFromTo { env with caller := tokenAddress }
      token.underlyingAsset fromAccount toAccount amount env.blockTimestamp = .ok res →
      P res.storage) : P s' := by
  rw [TokenMove] at h
  cases hkind : token.kind with
  | aToken =>
      simp only [hkind] at h
      obtain ⟨res, hres, rfl, -⟩ := h
      exact hdeposit res hres
  | vToken =>
      simp only [hkind] at h
      obtain ⟨res, hres, rfl, -⟩ := h
      exact hdebt res hres

/-- The storage functions that a message runs on the pool. -/
def PoolStep [Pendzl] (env : Env) (w : World) (s' : LendingPoolStorage) : Message → Prop
  | .deposit asset onBehalfOf amount => ∃ res,
      w.pool.accountForAccountActions env onBehalfOf [⟨.deposit, asset, amount⟩] = .ok res
      ∧ s' = res.storage
  | .withdraw asset onBehalfOf amount => ∃ res,
      w.pool.accountForAccountActions env onBehalfOf [⟨.withdraw, asset, amount⟩] = .ok res
      ∧ s' = res.storage
  | .borrow asset onBehalfOf amount => ∃ res,
      w.pool.accountForAccountActions env onBehalfOf [⟨.borrow, asset, amount⟩] = .ok res
      ∧ s' = res.storage
  | .repay asset onBehalfOf amount => ∃ res,
      w.pool.accountForAccountActions env onBehalfOf [⟨.repay, asset, amount⟩] = .ok res
      ∧ s' = res.storage
  | .multiOp op onBehalfOf => ∃ res,
      w.pool.accountForAccountActions env onBehalfOf op = .ok res ∧ s' = res.storage
  | .liquidate liquidatedAccount assetToRepay assetToTake amountToRepay _ => ∃ res,
      w.pool.accountForLiquidate env env.caller liquidatedAccount assetToRepay assetToTake
        amountToRepay env.blockTimestamp = .ok res
      ∧ s' = res.storage
  | .chooseMarketRule marketRuleId =>
      w.pool.accountForMarketRuleChange env.caller marketRuleId = .ok s'
      ∧ s'.ensureCollateralizedByAccount env env.caller = .ok ()
  | .setAsCollateral asset useAsCollateralToSet =>
      w.pool.accountForSetAsCollateral env.caller asset useAsCollateralToSet = .ok s'
      ∧ (useAsCollateralToSet = false →
          s'.ensureCollateralizedByAccount env env.caller = .ok ())
  | .accumulateInterest asset =>
      w.pool.accountForAccumulateInterest asset env.blockTimestamp = .ok s'
  | .adjustRateAtTarget asset _ => ∃ k old model, w.pool.assetToId.get asset = some k
      ∧ w.pool.interestRateModel.get k = some old
      ∧ s' = { w.pool with interestRateModel := w.pool.interestRateModel.insert k model }
  | .setPriceFeedProvider provider => s' = w.pool.accountForPriceFeedProviderChange provider
  | .setFeeReductionProvider provider => s' = w.pool.accountForFeeReductionProviderChange provider
  | .setFlashLoanFeeE6 fee => s' = { w.pool with flashLoanFeeE6 := some fee }
  | .registerAsset asset _ assetRules reserveRestrictions depositFeeE6 debtFeeE6 params =>
      ∃ s₁ s₂ decimalMultiplier abacusTokens,
        w.pool.accountForRegisterAsset asset ReserveData.initial reserveRestrictions
          decimalMultiplier (ReserveFees.new depositFeeE6 debtFeeE6)
          (params.map fun params => InterestRateModel.new params env.blockTimestamp)
          env.blockTimestamp = .ok s₁
        ∧ s₁.accountForSetAbacusTokens asset abacusTokens = .ok s₂
        ∧ s₂.accountForAssetRuleChange 0 asset assetRules = .ok s'
  | .setReserveIsActive asset active => w.pool.accountForChangingActivity asset active = .ok s'
  | .setReserveIsFrozen asset newIsFrozen =>
      w.pool.accountForChangingIsFrozen asset newIsFrozen = .ok s'
  | .setReserveRestrictions asset restrictions =>
      w.pool.accountForReserveRestricitionsChange asset restrictions = .ok s'
  | .setInterestRateModel asset params =>
      w.pool.accountForInterestRateModelChange asset
        (InterestRateModel.new params env.blockTimestamp) env.blockTimestamp = .ok s'
  | .setReserveFees asset depositFeeE6 debtFeeE6 =>
      w.pool.accountForReserveFeesChange asset (ReserveFees.new depositFeeE6 debtFeeE6) = .ok s'
  | .setStablecoinDebtRateE18 asset rate =>
      w.pool.accountForStablecoinDebtRateE18Change asset rate = .ok s'
  | .addMarketRule marketRule => ∃ id, w.pool.accountForAddMarketRule marketRule = .ok (s', id)
  | .modifyAssetRule marketRuleId asset assetRules =>
      w.pool.accountForAssetRuleChange marketRuleId asset assetRules = .ok s'
  | .takeProtocolIncome _ _ =>
      ∃ assets incomes, w.pool.takeProtocolIncome assets = .ok (s', incomes)
  | .transfer token toAccount amount => ∃ t, w.tokens.get token = some t
      ∧ TokenMove env token t env.caller toAccount amount w.pool s'
  | .transferFrom token fromAccount toAccount amount => ∃ t, w.tokens.get token = some t
      ∧ TokenMove env token t fromAccount toAccount amount w.pool s'
  | .approve _ _ _ | .increaseAllowance _ _ _ | .decreaseAllowance _ _ _ => s' = w.pool

variable [Pendzl]

omit [Pendzl] in
/-- The loop of `multi_op` keeps the pool. -/
lemma settleAction_keeps {onBehalfOf : AccountId} {first : ℕ} {action : Action}
    {interests : ℕ × ℕ}
    (h : w.settleAction env onBehalfOf first action interests = .ok w') : Keeps w w' := by
  obtain ⟨op, asset, amount⟩ := action
  simp only [settleAction, bind_eq_ok] at h
  obtain ⟨tokens, -, h⟩ := h
  cases op with
  | deposit =>
      simp only [bind_eq_ok] at h
      obtain ⟨w₁, h₁, minted, -, w₂, h₂, h₃⟩ := h
      exact ((transferIn_frame h₁).1.trans (emitAbacusTokenTransferEvent_emits h₂).toKeeps).trans
        (emitAbacusTokenTransferEvent_emits h₃).toKeeps
  | withdraw =>
      simp only [bind_eq_ok] at h
      obtain ⟨w₁, h₁, w₂, h₂, h₃⟩ := h
      exact ((transferOut_frame h₁).1.trans
        (emitAbacusTokenTransferEventAndDecreaseAllowance_emits h₂).toKeeps).trans
        (emitAbacusTokenTransferEvent_emits h₃).toKeeps
  | borrow =>
      simp only [bind_eq_ok] at h
      obtain ⟨w₁, h₁, w₂, h₂, minted, -, h₃⟩ := h
      exact ((transferOut_frame h₁).1.trans (emitAbacusTokenTransferEvent_emits h₂).toKeeps).trans
        (emitAbacusTokenTransferEventAndDecreaseAllowance_emits h₃).toKeeps
  | repay =>
      simp only [bind_eq_ok] at h
      obtain ⟨w₁, h₁, w₂, h₂, h₃⟩ := h
      exact ((transferIn_frame h₁).1.trans (emitAbacusTokenTransferEvent_emits h₂).toKeeps).trans
        (emitAbacusTokenTransferEvent_emits h₃).toKeeps

omit [Pendzl] in
lemma settleActions_keeps {onBehalfOf : AccountId} {first : ℕ}
    {l : List (Action × (ℕ × ℕ))}
    (h : w.settleActions env onBehalfOf first l = .ok w') : Keeps w w' := by
  induction l generalizing w with
  | nil =>
      simp only [settleActions, Except.ok.injEq] at h
      exact h ▸ .refl w
  | cons x rest ih =>
      simp only [settleActions, bind_eq_ok] at h
      obtain ⟨w₁, h₁, h₂⟩ := h
      exact (settleAction_keeps h₁).trans (ih h₂)

omit [Pendzl] in
/-- The payments of `take_protocol_income` keep the pool. -/
lemma payIncome_keeps {l : List (AccountId × ℕ)} (h : w.payIncome env account l = .ok w') :
    Keeps w w' := by
  induction l generalizing w with
  | nil =>
      simp only [payIncome, Except.ok.injEq] at h
      exact h ▸ .refl w
  | cons x rest ih =>
      simp only [payIncome, bind_eq_ok] at h
      obtain ⟨w₁, h₁, h₂⟩ := h
      exact (transferOut_frame h₁).1.trans (ih h₂)

omit [Pendzl] in
/-- What every message keeps: the address of the pool, and the identity of every abacus
token there is. -/
structure Stays (w w' : World) : Prop where
  poolAddress : w'.poolAddress = w.poolAddress
  tokens : ∀ address i, (w.tokens.get address).map AbacusToken.identity = some i →
    (w'.tokens.get address).map AbacusToken.identity = some i

omit [Pendzl] in
lemma Stays.of_eq (ha : w'.poolAddress = w.poolAddress) (ht : w'.tokens = w.tokens) :
    Stays w w' := by
  refine ⟨ha, fun address i hi => ?_⟩
  rw [ht]
  exact hi

omit [Pendzl] in
lemma Stays.trans {w'' : World} (h : Stays w w') (h' : Stays w' w'') : Stays w w'' :=
  ⟨h'.poolAddress.trans h.poolAddress,
    fun address i hi => h'.tokens address i (h.tokens address i hi)⟩

omit [Pendzl] in
/-- Only the address and the tokens of the first world matter. -/
lemma Keeps.stays {w₀ : World} (h : Keeps w₀ w') (ha : w₀.poolAddress = w.poolAddress)
    (ht : w₀.tokens = w.tokens) : Stays w w' := by
  refine ⟨h.poolAddress.trans ha, fun address i hi => ?_⟩
  rw [h.tokens, ht]
  exact hi

omit [Pendzl] in
/-- A setter runs its storage function. -/
lemma manage_ok {role : Role} {f : Res LendingPoolStorage} (h : w.manage env role f = .ok w') :
    f = .ok w'.pool ∧ Stays w w' := by
  simp only [manage, bind_eq_ok, pure_eq, Except.ok.injEq] at h
  obtain ⟨_, _, s, hs, rfl⟩ := h
  exact ⟨hs, .of_eq rfl rfl⟩

omit [Pendzl] in
/-- Instantiating a token keeps the pool and its address. -/
lemma instantiateAbacusToken_ok {kind : TokenKind} {address : AccountId}
    (h : w.instantiateAbacusToken env kind asset = .ok (w', address)) :
    w.tokens.get address = none
      ∧ w' = { w with
          tokens := w.tokens.insert address (AbacusToken.new kind w.poolAddress asset) } := by
  simp only [instantiateAbacusToken, bind_eq_ok, trapIf_eq_ok, not_or, pure_eq,
    Except.ok.injEq, Prod.mk.injEq] at h
  obtain ⟨_, _, _, ⟨hfresh, _⟩, rfl, rfl⟩ := h
  exact ⟨by simpa [Mapping.contains] using hfresh, rfl⟩

omit [Pendzl] in
/-- A token is instantiated at a fresh address. -/
lemma instantiateAbacusToken_tokens {kind : TokenKind} {address : AccountId}
    (h : w.instantiateAbacusToken env kind asset = .ok (w', address)) :
    (w'.tokens.get address).map AbacusToken.identity = some (kind, asset) ∧ Stays w w' := by
  obtain ⟨hfresh, rfl⟩ := instantiateAbacusToken_ok h
  refine ⟨by simp [AbacusToken.new, AbacusToken.identity], rfl, fun other i hi => ?_⟩
  rw [Mapping.get_insert_of_ne]
  · exact hi
  · rintro rfl
    rw [hfresh] at hi
    cases hi

omit [Pendzl] in
/-- What `register_asset` does to the tokens: both are fresh, and the pool knows them as the
tokens of the asset. -/
lemma registerAsset_tokens {decimals depositFeeE6 debtFeeE6 : ℕ} {assetRules : AssetRules}
    {restrictions : ReserveRestrictions} {params : Option InterestRateModelParams}
    (h : w.registerAsset env asset decimals assetRules restrictions depositFeeE6 debtFeeE6 params
      = .ok w') :
    ∃ tokens : ReserveAbacusTokens,
      w'.pool.reserveAbacusTokens = w.pool.reserveAbacusTokens.insert asset tokens
      ∧ (w'.tokens.get tokens.aTokenAddress).map AbacusToken.identity = some (.aToken, asset)
      ∧ (w'.tokens.get tokens.vTokenAddress).map AbacusToken.identity = some (.vToken, asset)
      ∧ Stays w w' := by
  simp only [registerAsset, bind_eq_ok, pure_eq, Except.ok.injEq] at h
  obtain ⟨_, _, _, _, _, _, s₁, hs₁, ⟨w₁, aToken⟩, h₁, ⟨w₂, vToken⟩, h₂, s₂, hs₂, s₃, hs₃, rfl⟩ := h
  obtain ⟨ha, hstay₁⟩ := instantiateAbacusToken_tokens h₁
  obtain ⟨hv, hstay₂⟩ := instantiateAbacusToken_tokens h₂
  obtain ⟨-, rfl⟩ := instantiateAbacusToken_ok h₁
  obtain ⟨-, rfl⟩ := instantiateAbacusToken_ok h₂
  simp only [LendingPoolStorage.accountForRegisterAsset, bind_eq_ok, pure_eq,
    Except.ok.injEq] at hs₁
  obtain ⟨_, _, _, _, rfl⟩ := hs₁
  simp only [LendingPoolStorage.accountForSetAbacusTokens, bind_eq_ok, pure_eq,
    Except.ok.injEq] at hs₂
  obtain ⟨_, _, rfl⟩ := hs₂
  simp only [LendingPoolStorage.accountForAssetRuleChange, bind_eq_ok, pure_eq,
    Except.ok.injEq] at hs₃
  obtain ⟨_, _, _, _, _, _, _, _, _, _, rfl⟩ := hs₃
  exact ⟨⟨aToken, vToken⟩, rfl, hstay₂.tokens aToken _ ha, hv,
    ⟨(hstay₁.trans hstay₂).poolAddress, (hstay₁.trans hstay₂).tokens⟩⟩

/-- `transfer_deposit_from_to` runs its storage function and checks the sender. -/
lemma transferDepositFromTo_ok {fromAccount toAccount : AccountId} {x : World × ℕ × ℕ}
    (h : w.transferDepositFromTo env asset fromAccount toAccount amount = .ok x) :
    ∃ res, w.pool.accountForDepositTransferFromTo env asset fromAccount toAccount amount
          env.blockTimestamp = .ok res
      ∧ x.1.pool = res.storage ∧ amount ≠ 0
      ∧ x.1.pool.ensureCollateralizedByAccount env fromAccount = .ok ()
      ∧ x.1.poolAddress = w.poolAddress ∧ x.1.tokens = w.tokens := by
  simp only [transferDepositFromTo, checkAmountNotZero, bind_eq_ok, failIf_eq_ok] at h
  obtain ⟨_, hne, tokens, _, _, _, res, hres, _, hcheck, h⟩ := h
  refine ⟨res, hres, ?_⟩
  split_ifs at h
  · simp only [bind_eq_ok, mapErr_eq_ok, pure_eq, Except.ok.injEq] at h
    obtain ⟨w₁, hw₁, rfl⟩ := h
    rw [emitTransferEvents_ok hw₁]
    exact ⟨rfl, hne, hcheck, rfl, rfl⟩
  · simp only [bind_eq_ok, pure_eq, Except.ok.injEq] at h
    obtain ⟨w₁, rfl, rfl⟩ := h
    exact ⟨rfl, hne, hcheck, rfl, rfl⟩

/-- `transfer_debt_from_to` runs its storage function and checks the receiver. -/
lemma transferDebtFromTo_ok {fromAccount toAccount : AccountId} {x : World × ℕ × ℕ}
    (h : w.transferDebtFromTo env asset fromAccount toAccount amount = .ok x) :
    ∃ res, w.pool.accountForDebtTransferFromTo env asset fromAccount toAccount amount
          env.blockTimestamp = .ok res
      ∧ x.1.pool = res.storage ∧ amount ≠ 0
      ∧ x.1.pool.ensureCollateralizedByAccount env toAccount = .ok ()
      ∧ x.1.poolAddress = w.poolAddress ∧ x.1.tokens = w.tokens := by
  simp only [transferDebtFromTo, checkAmountNotZero, bind_eq_ok, failIf_eq_ok] at h
  obtain ⟨_, hne, tokens, _, _, _, res, hres, _, hcheck, h⟩ := h
  refine ⟨res, hres, ?_⟩
  split_ifs at h
  · simp only [bind_eq_ok, mapErr_eq_ok, pure_eq, Except.ok.injEq] at h
    obtain ⟨w₁, hw₁, rfl⟩ := h
    rw [emitTransferEvents_ok hw₁]
    exact ⟨rfl, hne, hcheck, rfl, rfl⟩
  · simp only [bind_eq_ok, pure_eq, Except.ok.injEq] at h
    obtain ⟨w₁, rfl, rfl⟩ := h
    exact ⟨rfl, hne, hcheck, rfl, rfl⟩

/-- `_update` moves the position behind the token. -/
lemma update_ok {token : AbacusToken} {fromAccount toAccount : AccountId}
    (h : w.update env asset token fromAccount toAccount amount = .ok w') :
    TokenMove env asset token fromAccount toAccount amount w.pool w'.pool
      ∧ w'.poolAddress = w.poolAddress ∧ w'.tokens = w.tokens := by
  simp only [update, bind_eq_ok, mapErr_eq_ok, pure_eq, Except.ok.injEq] at h
  obtain ⟨_, _, ⟨w₁, i, j⟩, hmove, rfl⟩ := h
  rw [TokenMove]
  cases hk : token.kind with
  | aToken =>
      simp only [hk] at hmove
      obtain ⟨res, hres, hpool, hne, hcheck, hstays⟩ := transferDepositFromTo_ok hmove
      exact ⟨⟨res, hres, hpool, hne, hcheck⟩, hstays⟩
  | vToken =>
      simp only [hk] at hmove
      obtain ⟨res, hres, hpool, hne, hcheck, hstays⟩ := transferDebtFromTo_ok hmove
      exact ⟨⟨res, hres, hpool, hne, hcheck⟩, hstays⟩

omit [Pendzl] in
/-- A decreased allowance leaves the pool. -/
lemma decreaseAllowanceFromTo_keeps {token : AbacusToken} (ht : w.tokens.get asset = some token)
    (h : w.decreaseAllowanceFromTo asset token account spender amount = .ok w') : Keeps w w' := by
  simp only [decreaseAllowanceFromTo, bind_eq_ok, pure_eq, Except.ok.injEq] at h
  obtain ⟨_, _, rfl⟩ := h
  exact approveFromTo_keeps ht

/-- **A message that succeeds changes the pool by its storage functions**, and keeps the
address of the pool and the identities of the abacus tokens. -/
theorem execute_frame {message : Message} (h : w.execute env message = .ok w') :
    PoolStep env w w'.pool message ∧ Stays w w' := by
  cases message with
  | deposit asset onBehalfOf amount =>
      simp only [execute, mapErr_eq_ok, deposit, bind_eq_ok] at h
      obtain ⟨_, _, res, hres, _, _, _, _, w₁, h₁, _, _, _, _, w₂, h₂, h₃⟩ := h
      have hkeep := ((transferIn_frame h₁).1.trans
        (emitAbacusTokenTransferEvent_emits h₂).toKeeps).trans
        (emitAbacusTokenTransferEvent_emits h₃).toKeeps
      exact ⟨⟨res, hres, hkeep.pool⟩, hkeep.stays rfl rfl⟩
  | withdraw asset onBehalfOf amount =>
      simp only [execute, mapErr_eq_ok, withdraw, bind_eq_ok, pure_eq, Except.ok.injEq] at h
      obtain ⟨_, ⟨_, _, res, hres, _, _, _, _, w₁, h₁, _, _, w₂, h₂, w₃, h₃, rfl⟩, rfl⟩ := h
      have hkeep := ((transferOut_frame h₁).1.trans
        (emitAbacusTokenTransferEventAndDecreaseAllowance_emits h₂).toKeeps).trans
        (emitAbacusTokenTransferEvent_emits h₃).toKeeps
      exact ⟨⟨res, hres, hkeep.pool⟩, hkeep.stays rfl rfl⟩
  | borrow asset onBehalfOf amount =>
      simp only [execute, mapErr_eq_ok, borrow, bind_eq_ok] at h
      obtain ⟨_, _, res, hres, _, _, w₁, h₁, _, _, w₂, h₂, _, _, h₃⟩ := h
      have hkeep := ((transferOut_frame h₁).1.trans
        (emitAbacusTokenTransferEvent_emits h₂).toKeeps).trans
        (emitAbacusTokenTransferEventAndDecreaseAllowance_emits h₃).toKeeps
      exact ⟨⟨res, hres, hkeep.pool⟩, hkeep.stays rfl rfl⟩
  | repay asset onBehalfOf amount =>
      simp only [execute, mapErr_eq_ok, repay, bind_eq_ok, pure_eq, Except.ok.injEq] at h
      obtain ⟨_, ⟨_, _, res, hres, _, _, _, _, w₁, h₁, _, _, w₂, h₂, w₃, h₃, rfl⟩, rfl⟩ := h
      have hkeep := ((transferIn_frame h₁).1.trans
        (emitAbacusTokenTransferEvent_emits h₂).toKeeps).trans
        (emitAbacusTokenTransferEvent_emits h₃).toKeeps
      exact ⟨⟨res, hres, hkeep.pool⟩, hkeep.stays rfl rfl⟩
  | multiOp op onBehalfOf =>
      simp only [execute, mapErr_eq_ok, multiOp, bind_eq_ok] at h
      obtain ⟨res, hres, h⟩ := h
      have hkeep := settleActions_keeps h
      exact ⟨⟨res, hres, hkeep.pool⟩, hkeep.stays rfl rfl⟩
  | liquidate liquidatedAccount assetToRepay assetToTake amountToRepay minimumRecieved =>
      simp only [execute, mapErr_eq_ok, liquidate, bind_eq_ok, pure_eq, Except.ok.injEq] at h
      obtain ⟨_, ⟨_, _, res, hres, _, _, _, _, w₁, h₁, _, _, w₂, h₂, w₃, h₃, _, _, _, _, w₄, h₄,
        w₅, h₅, rfl⟩, rfl⟩ := h
      have hpaid := ((transferIn_frame h₁).1.trans
        (emitAbacusTokenTransferEvent_emits h₂).toKeeps).trans
        (emitAbacusTokenTransferEvent_emits h₃).toKeeps
      have hkeep := (hpaid.trans (emitAbacusTokenTransferEvents_emits h₄).toKeeps).trans
        (emitAbacusTokenTransferEvents_emits h₅).toKeeps
      exact ⟨⟨res, hres, hkeep.pool⟩, hkeep.stays rfl rfl⟩
  | chooseMarketRule marketRuleId =>
      simp only [execute, mapErr_eq_ok, chooseMarketRule, bind_eq_ok, pure_eq,
        Except.ok.injEq] at h
      obtain ⟨s, hs, _, hcheck, rfl⟩ := h
      exact ⟨⟨hs, hcheck⟩, .of_eq rfl rfl⟩
  | setAsCollateral asset use =>
      simp only [execute, mapErr_eq_ok, setAsCollateral, bind_eq_ok] at h
      obtain ⟨registrar, _, s, hs, h⟩ := h
      split_ifs at h with huse
      · simp only [bind_eq_ok, pure_eq, Except.ok.injEq] at h
        obtain ⟨_, hcheck, rfl⟩ := h
        exact ⟨⟨hs, fun _ => hcheck⟩, .of_eq rfl rfl⟩
      · simp only [pure_eq, Except.ok.injEq] at h
        subst h
        exact ⟨⟨hs, fun hf => absurd hf huse⟩, .of_eq rfl rfl⟩
  | accumulateInterest asset =>
      simp only [execute, mapErr_eq_ok, accumulateInterest, bind_eq_ok, pure_eq,
        Except.ok.injEq] at h
      obtain ⟨s, hs, rfl⟩ := h
      exact ⟨hs, .of_eq rfl rfl⟩
  | adjustRateAtTarget asset guessedIndex =>
      simp only [execute, mapErr_eq_ok, adjustRateAtTarget, LendingPoolStorage.assetId,
        bind_eq_ok, okOr_eq_ok, pure_eq, Except.ok.injEq] at h
      obtain ⟨_, ⟨k, hk, old, hold, _, _, _, _, _, _, model, _, rfl⟩, rfl⟩ := h
      exact ⟨⟨k, old, model, hk, hold, rfl⟩, .of_eq rfl rfl⟩
  | setPriceFeedProvider provider =>
      simp only [execute, mapErr_eq_ok, setPriceFeedProvider] at h
      simpa [PoolStep, eq_comm] using manage_ok h
  | setFeeReductionProvider provider =>
      simp only [execute, mapErr_eq_ok, setFeeReductionProvider] at h
      simpa [PoolStep, eq_comm] using manage_ok h
  | setFlashLoanFeeE6 fee =>
      simp only [execute, mapErr_eq_ok, setFlashLoanFeeE6] at h
      simpa [PoolStep, eq_comm] using manage_ok h
  | registerAsset asset decimals assetRules restrictions depositFeeE6 debtFeeE6 params =>
      simp only [execute, mapErr_eq_ok] at h
      obtain ⟨-, -, -, -, hstay⟩ := registerAsset_tokens h
      simp only [registerAsset, bind_eq_ok, pure_eq, Except.ok.injEq] at h
      obtain ⟨_, _, _, _, multiplier, _, s₁, hs₁, ⟨w₁, aToken⟩, h₁, ⟨w₂, vToken⟩, h₂, s₂, hs₂, s₃,
        hs₃, rfl⟩ := h
      obtain ⟨-, rfl⟩ := instantiateAbacusToken_ok h₁
      obtain ⟨-, rfl⟩ := instantiateAbacusToken_ok h₂
      exact ⟨⟨s₁, s₂, multiplier, ⟨aToken, vToken⟩, hs₁, hs₂, hs₃⟩, hstay⟩
  | setReserveIsActive asset active =>
      simp only [execute, mapErr_eq_ok, setReserveIsActive] at h
      exact manage_ok h
  | setReserveIsFrozen asset newIsFrozen =>
      simp only [execute, mapErr_eq_ok, setReserveIsFrozen] at h
      exact manage_ok h
  | setReserveRestrictions asset restrictions =>
      simp only [execute, mapErr_eq_ok, setReserveRestrictions] at h
      exact manage_ok h
  | setInterestRateModel asset params =>
      simp only [execute, mapErr_eq_ok, setInterestRateModel] at h
      exact manage_ok h
  | setReserveFees asset depositFeeE6 debtFeeE6 =>
      simp only [execute, mapErr_eq_ok, setReserveFees, bind_eq_ok, pure_eq, Except.ok.injEq] at h
      obtain ⟨_, _, _, _, s, hs, rfl⟩ := h
      exact ⟨hs, .of_eq rfl rfl⟩
  | setStablecoinDebtRateE18 asset rate =>
      simp only [execute, mapErr_eq_ok, setStablecoinDebtRateE18] at h
      exact manage_ok h
  | addMarketRule marketRule =>
      simp only [execute, mapErr_eq_ok, addMarketRule, bind_eq_ok, pure_eq, Except.ok.injEq] at h
      obtain ⟨_, _, _, _, ⟨s, id⟩, hs, _, _, _, _, rfl⟩ := h
      exact ⟨⟨id, hs⟩, .of_eq rfl rfl⟩
  | modifyAssetRule marketRuleId asset assetRules =>
      simp only [execute, mapErr_eq_ok, modifyAssetRule] at h
      exact manage_ok h
  | takeProtocolIncome assets toAccount =>
      simp only [execute, mapErr_eq_ok, takeProtocolIncome, bind_eq_ok, pure_eq,
        Except.ok.injEq] at h
      obtain ⟨_, ⟨_, _, list, _, ⟨s, incomes⟩, hs, w₁, h₁, rfl⟩, rfl⟩ := h
      have hkeep := payIncome_keeps h₁
      exact ⟨⟨list, incomes, by rw [hkeep.pool, withPool_pool, hs]⟩, hkeep.stays rfl rfl⟩
  | transfer token toAccount value =>
      simp only [execute, mapErr_eq_ok, transfer, bind_eq_ok, unwrap_eq_ok] at h
      obtain ⟨t, ht, h⟩ := h
      cases hk : t.kind with
      | aToken =>
          simp only [hk] at h
          obtain ⟨hmove, haddress, htokens⟩ := update_ok h
          exact ⟨⟨t, ht, hmove⟩, .of_eq haddress htokens⟩
      | vToken =>
          simp only [hk, bind_eq_ok] at h
          obtain ⟨_, _, w₁, h₁, h₂⟩ := h
          have hkeep := decreaseAllowanceFromTo_keeps ht h₁
          obtain ⟨hmove, haddress, htokens⟩ := update_ok h₂
          rw [hkeep.pool] at hmove
          exact ⟨⟨t, ht, hmove⟩, (hkeep.stays rfl rfl).trans (.of_eq haddress htokens)⟩
  | transferFrom token fromAccount toAccount value =>
      simp only [execute, mapErr_eq_ok, transferFrom, bind_eq_ok, unwrap_eq_ok] at h
      obtain ⟨t, ht, _, _, w₁, h₁, h₂⟩ := h
      have hkeep := decreaseAllowanceFromTo_keeps ht h₁
      obtain ⟨hmove, haddress, htokens⟩ := update_ok h₂
      rw [hkeep.pool] at hmove
      exact ⟨⟨t, ht, hmove⟩, (hkeep.stays rfl rfl).trans (.of_eq haddress htokens)⟩
  | approve token spender value =>
      simp only [execute, mapErr_eq_ok, approve, bind_eq_ok, unwrap_eq_ok, pure_eq,
        Except.ok.injEq] at h
      obtain ⟨t, ht, rfl⟩ := h
      exact ⟨rfl, (approveFromTo_keeps ht).stays rfl rfl⟩
  | increaseAllowance token spender delta =>
      simp only [execute, mapErr_eq_ok, increaseAllowance, increaseAllowanceFromTo, bind_eq_ok,
        unwrap_eq_ok, pure_eq, Except.ok.injEq] at h
      obtain ⟨t, ht, _, _, rfl⟩ := h
      exact ⟨rfl, (approveFromTo_keeps ht).stays rfl rfl⟩
  | decreaseAllowance token spender delta =>
      simp only [execute, mapErr_eq_ok, decreaseAllowance, bind_eq_ok, unwrap_eq_ok] at h
      obtain ⟨t, ht, h⟩ := h
      have hkeep := decreaseAllowanceFromTo_keeps ht h
      exact ⟨hkeep.pool, hkeep.stays rfl rfl⟩

end World

end AbaxLending
