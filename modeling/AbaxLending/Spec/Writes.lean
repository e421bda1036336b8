import AbaxLending.Spec.Manage
import AbaxLending.Spec.Messages

/-!
The fields of the pool that a message writes.

A message writes a few of the fields of the pool, and which of them its kind says
(`Message.writes`).  The pool without these fields is the same before and after
(`execute_writes`), so whatever is read off the other fields stays (`execute_keeps`).
A result about some of the fields looks at the messages that write them, and at no other.
-/

namespace AbaxLending

open Outcome

/-- The fields of the pool. -/
inductive PoolField where
  | priceFeedProvider
  | feeReductionProvider
  | nextAssetId
  | assetToId
  | idToAsset
  | nextRuleId
  | marketRules
  | reserveAbacusTokens
  | reserveRestrictions
  | reserveIndexesAndFees
  | reserveDecimalMultiplier
  | reserveDatas
  | twUrIndexes
  | twUrEntries
  | interestRateModel
  | accountReserveDatas
  | accountConfigs
  | flashLoanFeeE6
  deriving BEq

namespace LendingPoolStorage

/-- The pool with some of its fields cleared. -/
def without (s : LendingPoolStorage) (fields : List PoolField) : LendingPoolStorage where
  priceFeedProvider := bif fields.contains .priceFeedProvider then none else s.priceFeedProvider
  feeReductionProvider :=
    bif fields.contains .feeReductionProvider then none else s.feeReductionProvider
  nextAssetId := bif fields.contains .nextAssetId then none else s.nextAssetId
  assetToId := bif fields.contains .assetToId then .empty else s.assetToId
  idToAsset := bif fields.contains .idToAsset then .empty else s.idToAsset
  nextRuleId := bif fields.contains .nextRuleId then none else s.nextRuleId
  marketRules := bif fields.contains .marketRules then .empty else s.marketRules
  reserveAbacusTokens :=
    bif fields.contains .reserveAbacusTokens then .empty else s.reserveAbacusTokens
  reserveRestrictions :=
    bif fields.contains .reserveRestrictions then .empty else s.reserveRestrictions
  reserveIndexesAndFees :=
    bif fields.contains .reserveIndexesAndFees then .empty else s.reserveIndexesAndFees
  reserveDecimalMultiplier :=
    bif fields.contains .reserveDecimalMultiplier then .empty else s.reserveDecimalMultiplier
  reserveDatas := bif fields.contains .reserveDatas then .empty else s.reserveDatas
  twUrIndexes := bif fields.contains .twUrIndexes then .empty else s.twUrIndexes
  twUrEntries := bif fields.contains .twUrEntries then .empty else s.twUrEntries
  interestRateModel := bif fields.contains .interestRateModel then .empty else s.interestRateModel
  accountReserveDatas :=
    bif fields.contains .accountReserveDatas then .empty else s.accountReserveDatas
  accountConfigs := bif fields.contains .accountConfigs then .empty else s.accountConfigs
  flashLoanFeeE6 := bif fields.contains .flashLoanFeeE6 then none else s.flashLoanFeeE6

/-- The fields of one reserve that a visit writes. -/
def reserveFields : List PoolField :=
  [.reserveDatas, .reserveIndexesAndFees, .twUrIndexes, .twUrEntries]

/-- The fields that a move of positions writes. -/
def positionFields : List PoolField := [.accountReserveDatas, .accountConfigs] ++ reserveFields

end LendingPoolStorage

open LendingPoolStorage

/-- The fields of the pool that a message writes. -/
def Message.writes : Message → List PoolField
  | .deposit _ _ _ | .withdraw _ _ _ | .borrow _ _ _ | .repay _ _ _ | .multiOp _ _
  | .liquidate _ _ _ _ _ | .transfer _ _ _ | .transferFrom _ _ _ _ => positionFields
  | .chooseMarketRule _ | .setAsCollateral _ _ => [.accountConfigs]
  | .accumulateInterest _ => reserveFields
  | .adjustRateAtTarget _ _ => [.interestRateModel]
  | .setPriceFeedProvider _ => [.priceFeedProvider]
  | .setFeeReductionProvider _ => [.feeReductionProvider]
  | .setFlashLoanFeeE6 _ => [.flashLoanFeeE6]
  | .registerAsset _ _ _ _ _ _ _ => [.nextAssetId, .assetToId, .idToAsset, .marketRules,
      .reserveAbacusTokens, .reserveRestrictions, .reserveIndexesAndFees,
      .reserveDecimalMultiplier, .reserveDatas, .twUrIndexes, .interestRateModel]
  | .setReserveIsActive _ _ | .setReserveIsFrozen _ _ | .setStablecoinDebtRateE18 _ _ =>
      [.reserveDatas]
  | .setReserveRestrictions _ _ => [.reserveRestrictions]
  | .setInterestRateModel _ _ => [.interestRateModel, .reserveDatas, .reserveIndexesAndFees]
  | .setReserveFees _ _ _ | .takeProtocolIncome _ _ => [.reserveIndexesAndFees]
  | .addMarketRule _ => [.marketRules, .nextRuleId]
  | .modifyAssetRule _ _ _ => [.marketRules]
  | .approve _ _ _ | .increaseAllowance _ _ _ | .decreaseAllowance _ _ _ => []

variable [Pendzl]

namespace LendingPoolStorage

variable {s : LendingPoolStorage} {env : Env} {account asset fromAccount toAccount : AccountId}
  {amount t : ℕ}

section

omit [Pendzl]

/-- What does not read the fields that may differ is the same. -/
lemma read_eq_of_without {s' : LendingPoolStorage} {fields : List PoolField} {α : Type}
    (read : LendingPoolStorage → α)
    (hread : ∀ s : LendingPoolStorage, read (s.without fields) = read s)
    (h : s'.without fields = s.without fields) : read s' = read s := by
  rw [← hread s', h, hread]

/-! ### Writing positions -/

@[simp] lemma without_putDatas (s : LendingPoolStorage) (v : List (Option AccountReserveData)) :
    (s.putDatas account v).without positionFields = s.without positionFields := rfl

@[simp] lemma without_putConfig (s : LendingPoolStorage) (config : AccountConfig) :
    (s.putConfig account config).without positionFields = s.without positionFields := rfl

@[simp] lemma without_putAccount (s : LendingPoolStorage) (v : List (Option AccountReserveData))
    (config : AccountConfig) :
    (s.putAccount account v config).without positionFields = s.without positionFields := rfl

@[simp] lemma without_putReserve (s : LendingPoolStorage) {k : ℕ} {rd : ReserveData}
    {r : ReserveIndexesAndFees} :
    (s.putReserve k rd r).without positionFields = s.without positionFields := rfl

@[simp] lemma without_withRing (s : LendingPoolStorage) {i : Mapping ℕ TwIndex}
    {e : Mapping (ℕ × ℕ) TwEntry} :
    (s.withRing i e).without positionFields = s.without positionFields := rfl

end

/-- The loop over the actions of an account writes the fields of positions. -/
lemma applyActions_writes {st st' : AccountActionsState} {feeReductions : FeeReductions}
    {actions actions' : List Action} {results : List (ℕ × ℕ)}
    (h : st.applyActions feeReductions t actions = .ok (st', actions', results)) :
    st'.storage.without positionFields = st.storage.without positionFields := by
  refine AccountActionsState.applyActions_induct
    (P := fun st' => st'.storage.without positionFields = st.storage.without positionFields)
    (fun st₁ action st₂ _ _ hst₁ hact => ?_) h rfl
  obtain ⟨k, ctx, step, rd, i, e, -, -, -, -, -, -, -, rfl⟩ :=
    AccountActionsState.applyAction_ok hact
  simp only [without_putReserve, without_withRing, hst₁]

/-- The actions of an account write the fields of positions. -/
lemma accountForAccountActions_writes {actions : List Action} {res : AccountActionsResult}
    (h : s.accountForAccountActions env account actions = .ok res) :
    res.storage.without positionFields = s.without positionFields := by
  obtain ⟨st, hst, -, hs⟩ := accountForAccountActions_ok h
  rw [hs, AccountActionsState.flush, without_putAccount, applyActions_writes hst]
  rfl

/-- A liquidation writes the fields of positions. -/
lemma accountForLiquidate_writes {caller liquidated assetToRepay assetToTake : AccountId}
    {res : LiquidateResult}
    (h : s.accountForLiquidate env caller liquidated assetToRepay assetToTake amount t = .ok res) :
    res.storage.without positionFields = s.without positionFields := by
  obtain ⟨r, rfl⟩ := accountForLiquidate_ok h
  obtain ⟨rd, i, e, -, hmid⟩ := r.mid_eq
  simp only [Liquidation.written, TwoSteps.reserveWritten, hmid, without_putAccount,
    without_putReserve, without_withRing]

omit [Pendzl] in
/-- A transfer writes the fields of positions. -/
lemma written_writes (r : TwoSteps) (s : LendingPoolStorage) {k : ℕ}
    {inserted replaced : AccountId} {insertedData replacedData : AccountReserveData}
    {insertedConfig replacedConfig : AccountConfig} {v : List (Option AccountReserveData)} :
    ((r.reserveWritten s).putPair k inserted replaced insertedData replacedData insertedConfig
      replacedConfig v).without positionFields = s.without positionFields := by
  simp only [putPair, TwoSteps.reserveWritten, without_putDatas, without_putConfig,
    without_putReserve, without_withRing]

end LendingPoolStorage

namespace World

variable {w w' : World} {env : Env} {message : Message}

/-! ### The messages -/

/-- A move of a position writes the fields of positions. -/
lemma TokenMove.writes {tokenAddress fromAccount toAccount : AccountId} {token : AbacusToken}
    {amount : ℕ} {s s' : LendingPoolStorage}
    (h : TokenMove env tokenAddress token fromAccount toAccount amount s s') :
    s'.without positionFields = s.without positionFields := by
  refine h.rule (P := fun s' => s'.without positionFields = s.without positionFields)
    (fun res hres => ?_) fun res hres => ?_
  · obtain ⟨r, rfl⟩ := accountForDepositTransferFromTo_ok hres
    exact written_writes ..
  · obtain ⟨r, rfl⟩ := accountForDebtTransferFromTo_ok hres
    exact written_writes ..

/-- **A message writes its fields of the pool, and no others.** -/
theorem execute_writes (hex : w.execute env message = .ok w') :
    w'.pool.without message.writes = w.pool.without message.writes := by
  have hstep := (execute_frame hex).1
  cases message with
  | deposit | withdraw | borrow | repay | multiOp =>
      obtain ⟨res, hres, hs⟩ := hstep
      rw [hs]
      exact accountForAccountActions_writes hres
  | liquidate liquidated assetToRepay assetToTake amount minimum =>
      obtain ⟨res, hres, hs⟩ := hstep
      rw [hs]
      exact accountForLiquidate_writes hres
  | chooseMarketRule id =>
      rw [accountForMarketRuleChange_ok hstep.1]
      rfl
  | setAsCollateral asset use =>
      obtain ⟨_, hs⟩ := accountForSetAsCollateral_ok hstep.1
      rw [hs]
      rfl
  | accumulateInterest asset =>
      obtain ⟨k, rd, r, indexes, rd', i, e, -, -, -, -, -, -, hs⟩ :=
        accountForAccumulateInterest_ok hstep
      rw [hs]
      rfl
  | adjustRateAtTarget asset guessedIndex =>
      obtain ⟨k, old, model, -, -, hs⟩ := hstep
      rw [hs]
      rfl
  | setPriceFeedProvider | setFeeReductionProvider | setFlashLoanFeeE6 =>
      rw [hstep]
      rfl
  | registerAsset asset decimals rules restrictions depositFeeE6 debtFeeE6 params =>
      obtain ⟨s₁, s₂, multiplier, tokens, h₁, h₂, h₃⟩ := hstep
      obtain ⟨-, rule, hs⟩ := register_storage h₁ h₂ h₃
      rw [hs]
      rfl
  | setReserveIsActive asset active =>
      obtain ⟨k, rd, -, -, -, hs⟩ := accountForChangingActivity_ok hstep
      rw [hs]
      rfl
  | setReserveIsFrozen asset frozen =>
      obtain ⟨k, rd, -, -, -, hs⟩ := accountForChangingIsFrozen_ok hstep
      rw [hs]
      rfl
  | setReserveRestrictions asset restrictions =>
      obtain ⟨k, -, hs⟩ := accountForReserveRestricitionsChange_ok hstep
      rw [hs]
      rfl
  | setInterestRateModel asset params =>
      obtain ⟨k, rd, r, indexes, rd', -, -, -, -, -, hs⟩ :=
        accountForInterestRateModelChange_ok hstep
      rw [hs]
      rfl
  | setReserveFees asset depositFeeE6 debtFeeE6 =>
      obtain ⟨k, r, -, -, hs⟩ := accountForReserveFeesChange_ok hstep
      rw [hs]
      rfl
  | setStablecoinDebtRateE18 asset rate =>
      obtain ⟨k, rd, -, -, hs⟩ := accountForStablecoinDebtRateE18Change_ok hstep
      rw [hs]
      rfl
  | addMarketRule rule =>
      obtain ⟨id, hid⟩ := hstep
      rw [accountForAddMarketRule_ok hid]
      rfl
  | modifyAssetRule id asset rules =>
      obtain ⟨rule, hs⟩ := accountForAssetRuleChange_ok hstep
      rw [hs]
      rfl
  | takeProtocolIncome assets toAccount =>
      obtain ⟨list, incomes, hs⟩ := hstep
      obtain ⟨reserves, hpool⟩ := takeProtocolIncome_ok hs
      rw [hpool]
      rfl
  | transfer | transferFrom =>
      obtain ⟨t, -, hmove⟩ := hstep
      exact hmove.writes
  | approve | increaseAllowance | decreaseAllowance => rw [hstep]

/-- **The frame rule of the messages**: what does not read the fields that a message writes
stays. -/
lemma execute_keeps {α : Type} (read : LendingPoolStorage → α)
    (hread : ∀ s : LendingPoolStorage, read (s.without message.writes) = read s)
    (hex : w.execute env message = .ok w') : read w'.pool = read w.pool :=
  read_eq_of_without read hread (execute_writes hex)

end World

end AbaxLending
