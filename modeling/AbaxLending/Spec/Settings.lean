import AbaxLending.Invariants.RateBand
import AbaxLending.Invariants.Rules
import AbaxLending.Lib.Numbering
import AbaxLending.Spec.Blocks

/-!
What the administrators of a pool decide.

Governance knows assets by their addresses and market rules by their ids, and sets one thing at
a time: `Settings` with `Settings.apply`.  The pool keeps these decisions by asset id, in the
same stores as the totals, the indexes and the income that the users move.

* `Settings.apply`: the decisions, message by message; `Message.role`: who may take them;
* `feesE6At`, `policyAt`: where the pool keeps the decisions that share a store with others;
* `KeepsSettings`: a part of a message that decides nothing, with the lemmas for all of them.
-/

namespace AbaxLending

open Outcome

/-! ### Decisions -/

/-- The parameters that a model was set up with. -/
def InterestRateModel.params (self : InterestRateModel) : InterestRateModelParams where
  targetUrE6 := self.targetUrE6
  minRateAtTargetE18 := self.minRateAtTargetE18
  maxRateAtTargetE18 := self.maxRateAtTargetE18
  rateAtMaxUrE18 := self.rateAtMaxUrE18
  minimalTimeBetweenAdjustments := self.minimalTimeBetweenAdjustments

/-- How the debt rate of an asset comes about: from a model, or as it was fixed. -/
inductive RatePolicy where
  | model (params : InterestRateModelParams)
  | fixed (debtRateE18 : ℕ)
  deriving DecidableEq, Repr

/-- The policy that an asset is registered with: a protocol stablecoin has no model. -/
def RatePolicy.initial : Option InterestRateModelParams → RatePolicy
  | some params => .model params
  | none => .fixed 0

/-- What was decided for a pool. -/
structure Settings where
  priceFeedProvider : Option AccountId
  feeReductionProvider : Option AccountId
  flashLoanFeeE6 : Option ℕ
  assets : List AccountId
  restrictions : AccountId → Option ReserveRestrictions
  decimalMultiplier : AccountId → Option ℕ
  feesE6 : AccountId → Option (ℕ × ℕ)
  policy : AccountId → Option RatePolicy
  rules : List (AccountId → Option AssetRules)

namespace Settings

/-- A new pool: nothing is decided but the fee of flash loans. -/
def initial : Settings where
  priceFeedProvider := none
  feeReductionProvider := none
  flashLoanFeeE6 := some 1000
  assets := []
  restrictions := fun _ => none
  decimalMultiplier := fun _ => none
  feesE6 := fun _ => none
  policy := fun _ => none
  rules := []

/-- The rules of one asset set in one market rule. -/
def setRules (self : Settings) (id : ℕ) (asset : AccountId) (rules : AssetRules) : Settings :=
  { self with rules := self.rules.modify id fun rule => Function.update rule asset (some rules) }

/-- The decision of a message. -/
def apply (self : Settings) : Message → Settings
  | .setPriceFeedProvider provider => { self with priceFeedProvider := some provider }
  | .setFeeReductionProvider provider => { self with feeReductionProvider := some provider }
  | .setFlashLoanFeeE6 fee => { self with flashLoanFeeE6 := some fee }
  | .registerAsset asset decimals rules restrictions depositFeeE6 debtFeeE6 params =>
      setRules { self with
        assets := self.assets ++ [asset]
        restrictions := Function.update self.restrictions asset (some restrictions)
        decimalMultiplier := Function.update self.decimalMultiplier asset (some (10 ^ decimals))
        feesE6 := Function.update self.feesE6 asset (some (depositFeeE6, debtFeeE6))
        policy := Function.update self.policy asset (some (.initial params)) } 0 asset rules
  | .setReserveRestrictions asset restrictions =>
      { self with restrictions := Function.update self.restrictions asset (some restrictions) }
  | .setInterestRateModel asset params =>
      { self with policy := Function.update self.policy asset (some (.model params)) }
  | .setReserveFees asset depositFeeE6 debtFeeE6 =>
      { self with feesE6 := Function.update self.feesE6 asset (some (depositFeeE6, debtFeeE6)) }
  | .setStablecoinDebtRateE18 asset rate =>
      { self with policy := Function.update self.policy asset (some (.fixed rate)) }
  | .addMarketRule rule =>
      -- the vector of the message is by the positions of the assets
      { self with
        rules := self.rules ++ [fun asset => (self.assets.idxOf? asset).bind (rule[·]?.join)] }
  | .modifyAssetRule id asset rules => self.setRules id asset rules
  | _ => self

end Settings

/-- The role that a message asks of its caller. -/
def Message.role : Message → Option Role
  | .setPriceFeedProvider _ | .setFeeReductionProvider _ | .setFlashLoanFeeE6 _
  | .setReserveRestrictions _ _ | .setInterestRateModel _ _ | .setReserveFees _ _ _
  | .addMarketRule _ | .modifyAssetRule _ _ _ => some .parametersAdmin
  | .registerAsset _ _ _ _ _ _ _ => some .assetListingAdmin
  | .setReserveIsActive _ _ | .setReserveIsFrozen _ _ => some .emergencyAdmin
  | .setStablecoinDebtRateE18 _ _ => some .stablecoinRateAdmin
  | .takeProtocolIncome _ _ => some .treasury
  | _ => none

/-- The messages that decide something. -/
def Message.decides : Message → Bool
  | .setPriceFeedProvider _ | .setFeeReductionProvider _ | .setFlashLoanFeeE6 _
  | .registerAsset _ _ _ _ _ _ _ | .setReserveRestrictions _ _ | .setInterestRateModel _ _
  | .setReserveFees _ _ _ | .setStablecoinDebtRateE18 _ _ | .addMarketRule _
  | .modifyAssetRule _ _ _ => true
  | _ => false

/-- A message that decides nothing leaves the settings. -/
lemma Settings.apply_of_decides_eq_false (σ : Settings) {message : Message}
    (h : message.decides = false) : σ.apply message = σ := by
  cases message <;> first | rfl | cases h

/-- A message that needs no role decides nothing. -/
lemma Message.decides_of_role_eq_none {message : Message} (h : message.role = none) :
    message.decides = false := by
  cases message <;> first | rfl | cases h

/-! ### Where the pool keeps them -/

namespace LendingPoolStorage

variable {s s' s'' : LendingPoolStorage} {k t : ℕ}

/-- The fees of a reserve. -/
def feesE6At (s : LendingPoolStorage) (k : ℕ) : Option (ℕ × ℕ) :=
  (s.reserveIndexesAndFees.get k).map fun r => (r.fees.depositFeeE6, r.fees.debtFeeE6)

/-- The policy of a reserve: without a model its debt rate is fixed. -/
def policyAt (s : LendingPoolStorage) (k : ℕ) : Option RatePolicy :=
  match s.interestRateModel.get k with
  | some model => some (.model model.params)
  | none => (s.reserveDatas.get k).map fun rd => .fixed rd.currentDebtRateE18

/-- The fields that only decisions write. -/
def decided (s : LendingPoolStorage) : LendingPoolStorage :=
  { s.setup with interestRateModel := .empty }

/-- The change keeps everything that was decided. -/
structure KeepsSettings (s s' : LendingPoolStorage) : Prop where
  decided : s'.decided = s.decided
  feesE6 : s'.feesE6At = s.feesE6At
  policy : s'.policyAt = s.policyAt
  models : ∀ k, s.interestRateModel.get k = none → s'.interestRateModel.get k = none

lemma KeepsSettings.refl (s : LendingPoolStorage) : KeepsSettings s s :=
  ⟨rfl, rfl, rfl, fun _ h => h⟩

lemma KeepsSettings.trans (h : KeepsSettings s s') (h' : KeepsSettings s' s'') :
    KeepsSettings s s'' :=
  ⟨h'.decided.trans h.decided, h'.feesE6.trans h.feesE6, h'.policy.trans h.policy,
    fun k hk => h'.models k (h.models k hk)⟩

/-- A function of what was decided stays. -/
lemma KeepsSettings.eq_of_decided {β : Type} (h : KeepsSettings s s') (f : LendingPoolStorage → β)
    (hf : ∀ s, f s.decided = f s) : f s' = f s := by
  rw [← hf, h.decided, hf]

/-- Only the setup, the reserves and their indexes and fees matter. -/
lemma KeepsSettings.of_eq (hsetup : s'.setup = s.setup)
    (hrds : s'.reserveDatas = s.reserveDatas)
    (hrs : s'.reserveIndexesAndFees = s.reserveIndexesAndFees) : KeepsSettings s s' := by
  have hmodels := interestRateModel_of_setup hsetup
  refine ⟨?_, ?_, ?_, fun k hk => by rw [hmodels, hk]⟩
  · rw [LendingPoolStorage.decided, LendingPoolStorage.decided, hsetup]
  · funext k
    rw [feesE6At, feesE6At, hrs]
  · funext k
    rw [policyAt, policyAt, hmodels, hrds]

/-- Writing the vector of an account keeps the settings. -/
lemma KeepsSettings.putDatas (h : KeepsSettings s s') (account : AccountId)
    (datas : List (Option AccountReserveData)) : KeepsSettings s (s'.putDatas account datas) :=
  h.trans (.of_eq rfl rfl rfl)

/-- Writing the config of an account keeps the settings. -/
lemma KeepsSettings.putConfig (h : KeepsSettings s s') (account : AccountId)
    (config : AccountConfig) : KeepsSettings s (s'.putConfig account config) :=
  h.trans (.of_eq rfl rfl rfl)

/-- Writing a reserve keeps the settings when its fees stay, and without a model its debt
rate. -/
lemma KeepsSettings.putReserve {rd rd' : ReserveData} {r r' : ReserveIndexesAndFees}
    {i : Mapping ℕ TwIndex} {e : Mapping (ℕ × ℕ) TwEntry}
    (hrd : s.reserveDatas.get k = some rd) (hr : s.reserveIndexesAndFees.get k = some r)
    (hdeposit : r'.fees.depositFeeE6 = r.fees.depositFeeE6)
    (hdebt : r'.fees.debtFeeE6 = r.fees.debtFeeE6)
    (hrate : s.interestRateModel.get k = none → rd'.currentDebtRateE18 = rd.currentDebtRateE18) :
    KeepsSettings s ((s.withRing i e).putReserve k rd' r') := by
  refine ⟨rfl, ?_, ?_, fun _ h => h⟩
  · funext j
    rw [feesE6At, putReserve_reserveIndexesAndFees, withRing_reserveIndexesAndFees,
      Mapping.get_insert, feesE6At]
    split_ifs with hj
    · rw [hj, hr, Option.map_some, Option.map_some, hdeposit, hdebt]
    · rfl
  · funext j
    rw [policyAt, policyAt]
    have hmodels : ((s.withRing i e).putReserve k rd' r').interestRateModel
        = s.interestRateModel := rfl
    rw [hmodels, putReserve_reserveDatas, withRing_reserveDatas, Mapping.get_insert]
    cases hmodel : s.interestRateModel.get j with
    | some model => rfl
    | none =>
        by_cases hj : j = k
        · subst hj
          simp only [if_true, hrd, Option.map_some, hrate hmodel]
        · simp only [if_neg hj]

/-- Without a model the rates stay. -/
lemma recalculateRates_debtRate [Pendzl] {rd rd' : ReserveData}
    (h : s.recalculateRates k rd = .ok rd') (hmodel : s.interestRateModel.get k = none) :
    rd'.currentDebtRateE18 = rd.currentDebtRateE18 := by
  simp only [recalculateRates, hmodel, Except.ok.injEq] at h
  rw [h]

end LendingPoolStorage

/-! ### Steps of a reserve -/

namespace ReserveDataContext

variable {ctx ctx' ctx'' : ReserveDataContext} {st : Step}

/-- The fees and the debt rate of the reserve are those of another context. -/
structure SameTariff (ctx ctx' : ReserveDataContext) : Prop where
  depositFeeE6 : ctx'.reserveIndexesAndFees.fees.depositFeeE6
    = ctx.reserveIndexesAndFees.fees.depositFeeE6
  debtFeeE6 : ctx'.reserveIndexesAndFees.fees.debtFeeE6 = ctx.reserveIndexesAndFees.fees.debtFeeE6
  debtRate : ctx'.reserveData.currentDebtRateE18 = ctx.reserveData.currentDebtRateE18

lemma SameTariff.refl (ctx : ReserveDataContext) : ctx.SameTariff ctx := ⟨rfl, rfl, rfl⟩

lemma SameTariff.trans (h : ctx.SameTariff ctx') (h' : ctx'.SameTariff ctx'') :
    ctx.SameTariff ctx'' :=
  ⟨h'.depositFeeE6.trans h.depositFeeE6, h'.debtFeeE6.trans h.debtFeeE6,
    h'.debtRate.trans h.debtRate⟩

variable [Pendzl] {data : AccountReserveData} {config : AccountConfig}
  {feeReductions : FeeReductions} {amount : ℕ} {isMutable : Bool}

/-- An accrual adds to the income and leaves the fees. -/
lemma accrual_tariff {a : Accrual} (h : ctx.accrual data feeReductions = .ok a) :
    a.fees.depositFeeE6 = ctx.reserveIndexesAndFees.fees.depositFeeE6
      ∧ a.fees.debtFeeE6 = ctx.reserveIndexesAndFees.fees.debtFeeE6 := by
  obtain ⟨-, -, hfees⟩ := AccountReserveData.accumulateAccountInterest_amounts h
  rw [hfees]
  exact ⟨rfl, rfl⟩

lemma accountForDeposit_sameTariff
    (h : ctx.accountForDeposit data config feeReductions amount = .ok st) :
    ctx.SameTariff st.ctx := by
  obtain ⟨a, ha, -, -, -, -, rfl⟩ := accountForDeposit_ok h
  exact ⟨(accrual_tariff ha).1, (accrual_tariff ha).2, rfl⟩

lemma accountForWithdraw_sameTariff
    (h : ctx.accountForWithdraw data config feeReductions amount isMutable = .ok st) :
    ctx.SameTariff st.ctx := by
  obtain ⟨a, n, ha, -, -, -, -, -, -, rfl⟩ := accountForWithdraw_ok h
  exact ⟨(accrual_tariff ha).1, (accrual_tariff ha).2, rfl⟩

lemma accountForBorrow_sameTariff
    (h : ctx.accountForBorrow data config feeReductions amount = .ok st) :
    ctx.SameTariff st.ctx := by
  obtain ⟨a, ha, -, -, -, -, -, rfl⟩ := accountForBorrow_ok h
  exact ⟨(accrual_tariff ha).1, (accrual_tariff ha).2, rfl⟩

lemma accountForRepay_sameTariff
    (h : ctx.accountForRepay data config feeReductions amount isMutable = .ok st) :
    ctx.SameTariff st.ctx := by
  obtain ⟨a, n, ha, -, -, -, -, -, -, -, rfl⟩ := accountForRepay_ok h
  exact ⟨(accrual_tariff ha).1, (accrual_tariff ha).2, rfl⟩

end ReserveDataContext

namespace ReserveActionState

variable [Pendzl] {st st' : ReserveActionState} {reductions : List FeeReductions}

omit [Pendzl] in
/-- A step on one account keeps the tariff when the basic step does. -/
lemma onAccount_sameTariff {i n : ℕ}
    {step : ReserveDataContext → AccountReserveData → AccountConfig → FeeReductions → Res Step}
    (hstep : ∀ ctx data config fee res, step ctx data config fee = .ok res →
      ctx.SameTariff res.ctx)
    (h : st.onAccount reductions i step = .ok (st', n)) : st.ctx.SameTariff st'.ctx := by
  obtain ⟨data, config, fee, res, hres, hctx⟩ := onAccount_ctx h
  exact hctx ▸ hstep st.ctx data config fee res hres

/-- Each reserve action keeps the tariff. -/
lemma applyAction_sameTariff {action action' : ReserveAction}
    (h : st.applyAction reductions action = .ok (st', action')) : st.ctx.SameTariff st'.ctx := by
  cases action with
  | deposit i n =>
      simp only [applyAction, bind_eq_ok, pure_eq, Except.ok.injEq, Prod.mk.injEq] at h
      obtain ⟨⟨st₁, n₁⟩, h₁, rfl, -⟩ := h
      exact onAccount_sameTariff
        (fun _ _ _ _ _ => ReserveDataContext.accountForDeposit_sameTariff) h₁
  | withdraw i n can =>
      simp only [applyAction, bind_eq_ok, pure_eq, Except.ok.injEq, Prod.mk.injEq] at h
      obtain ⟨⟨st₁, n₁⟩, h₁, rfl, -⟩ := h
      exact onAccount_sameTariff
        (fun _ _ _ _ _ => ReserveDataContext.accountForWithdraw_sameTariff) h₁
  | borrow i n =>
      simp only [applyAction, bind_eq_ok, pure_eq, Except.ok.injEq, Prod.mk.injEq] at h
      obtain ⟨⟨st₁, n₁⟩, h₁, rfl, -⟩ := h
      exact onAccount_sameTariff
        (fun _ _ _ _ _ => ReserveDataContext.accountForBorrow_sameTariff) h₁
  | repay i n =>
      simp only [applyAction, bind_eq_ok, pure_eq, Except.ok.injEq, Prod.mk.injEq] at h
      obtain ⟨⟨st₁, n₁⟩, h₁, rfl, -⟩ := h
      exact onAccount_sameTariff
        (fun _ _ _ _ _ => ReserveDataContext.accountForRepay_sameTariff) h₁
  | depositTransfer i j n can =>
      simp only [applyAction, bind_eq_ok, pure_eq, Except.ok.injEq, Prod.mk.injEq] at h
      obtain ⟨⟨st₁, n₁⟩, h₁, ⟨st₂, n₂⟩, h₂, rfl, -⟩ := h
      have hfirst := onAccount_sameTariff
        (fun _ _ _ _ _ => ReserveDataContext.accountForWithdraw_sameTariff) h₁
      exact hfirst.trans (onAccount_sameTariff
        (fun _ _ _ _ _ => ReserveDataContext.accountForDeposit_sameTariff) h₂)
  | debtTransfer i j n can =>
      simp only [applyAction, bind_eq_ok, pure_eq, Except.ok.injEq, Prod.mk.injEq] at h
      obtain ⟨⟨st₁, n₁⟩, h₁, ⟨st₂, n₂⟩, h₂, rfl, -⟩ := h
      have hfirst := onAccount_sameTariff
        (fun _ _ _ _ _ => ReserveDataContext.accountForRepay_sameTariff) h₁
      exact hfirst.trans (onAccount_sameTariff
        (fun _ _ _ _ _ => ReserveDataContext.accountForBorrow_sameTariff) h₂)

/-- The run lemma of the tariff. -/
lemma applyActions_sameTariff {actions actions' : List ReserveAction}
    (h : st.applyActions reductions actions = .ok (st', actions')) :
    st.ctx.SameTariff st'.ctx := by
  induction actions generalizing st actions' with
  | nil =>
      simp only [applyActions, Except.ok.injEq, Prod.mk.injEq] at h
      exact h.1 ▸ .refl _
  | cons action rest ih =>
      simp only [applyActions, bind_eq_ok, pure_eq, Except.ok.injEq, Prod.mk.injEq] at h
      obtain ⟨⟨st₁, a₁⟩, h₁, ⟨st₂, rest₂⟩, h₂, rfl, -⟩ := h
      exact (applyAction_sameTariff h₁).trans (ih h₂)

end ReserveActionState

/-! ### Messages of the users -/

namespace LendingPoolStorage

variable [Pendzl] {s s' : LendingPoolStorage} {k t : ℕ}

/-- A list of reserve actions keeps the settings. -/
theorem accountForReserveAction_keepsSettings {datas : List AccountReserveData}
    {configs : List AccountConfig} {reductions : List FeeReductions} {actions : List ReserveAction}
    {res : ReserveActionResult}
    (h : s.accountForReserveAction k datas configs reductions actions t = .ok res) :
    KeepsSettings s res.storage := by
  obtain ⟨ctx, st, acts, rd, i, e, hopened, hrun, hrates, rfl⟩ := accountForReserveAction_ok h
  have htariff := ReserveActionState.applyActions_sameTariff hrun
  obtain ⟨r, hr, -, hfees⟩ := hopened.indexes
  refine .putReserve hopened.reserveData hr ?_ ?_ fun hmodel => ?_
  · rw [htariff.depositFeeE6, hfees]
  · rw [htariff.debtFeeE6, hfees]
  · rw [recalculateRates_debtRate hrates hmodel, htariff.debtRate]

/-- The loop over the actions of an account keeps the settings. -/
lemma applyActions_keepsSettings {st st' : AccountActionsState} {feeReductions : FeeReductions}
    {actions actions' : List Action} {results : List (ℕ × ℕ)}
    (h : st.applyActions feeReductions t actions = .ok (st', actions', results)) :
    KeepsSettings st.storage st'.storage := by
  refine AccountActionsState.applyActions_induct
    (P := fun st' => KeepsSettings st.storage st'.storage)
    (fun st₁ action st₂ action' interests hst₁ hact => hst₁.trans ?_) h (.refl _)
  simp only [AccountActionsState.applyAction, bind_eq_ok, pure_eq, Except.ok.injEq,
    Prod.mk.injEq] at hact
  obtain ⟨_, -, _, -, _, -, res, hres, _, -, _, -, _, -, _, -, rfl, -⟩ := hact
  exact accountForReserveAction_keepsSettings hres

/-- The actions of an account keep the settings. -/
lemma accountForAccountActions_keepsSettings {env : Env} {account : AccountId}
    {actions : List Action} {res : AccountActionsResult}
    (h : s.accountForAccountActions env account actions = .ok res) :
    KeepsSettings s res.storage := by
  obtain ⟨st, hst, -, hs⟩ := accountForAccountActions_ok h
  have hloop : KeepsSettings s st.storage := applyActions_keepsSettings hst
  exact hs ▸ hloop.trans (.of_eq rfl rfl rfl)

/-- A liquidation keeps the settings. -/
lemma accountForLiquidate_keepsSettings {env : Env} {caller liquidated toRepay toTake : AccountId}
    {amount : ℕ} {res : LiquidateResult}
    (h : s.accountForLiquidate env caller liquidated toRepay toTake amount t = .ok res) :
    KeepsSettings s res.storage := by
  simp only [accountForLiquidate, bind_eq_ok, pure_eq, Except.ok.injEq] at h
  obtain ⟨_, -, _, -, _, -, _, -, _, -, p, hp, _, -, _, -, _, -, _, -, h⟩ := h
  obtain ⟨_, -, _, -, _, -, _, -, _, -, _, -, _, -, q, hq, h⟩ := h
  obtain ⟨_, -, _, -, _, -, _, -, _, -, _, -, _, -, rfl⟩ := h
  have hpaid := accountForReserveAction_keepsSettings hp
  have htaken := hpaid.trans (accountForReserveAction_keepsSettings hq)
  exact htaken.trans (.of_eq rfl rfl rfl)

omit [Pendzl] in
/-- Writing the accounts of a transfer keeps the settings. -/
lemma KeepsSettings.written (s : LendingPoolStorage) (a b : AccountId)
    (v w : List (Option AccountReserveData)) (c d : AccountConfig) :
    KeepsSettings s ((((s.putDatas a v).putDatas b w).putConfig b c).putConfig a d) :=
  ((((KeepsSettings.refl s).putDatas a v).putDatas b w).putConfig b c).putConfig a d

/-- A transfer of a deposit keeps the settings. -/
lemma accountForDepositTransferFromTo_keepsSettings {env : Env}
    {asset fromAccount toAccount : AccountId} {amount : ℕ} {res : TransferResult}
    (h : s.accountForDepositTransferFromTo env asset fromAccount toAccount amount t = .ok res) :
    KeepsSettings s res.storage := by
  simp only [accountForDepositTransferFromTo, insertAccountData, bind_eq_ok] at h
  obtain ⟨_, -, _, -, _, -, _, -, _, -, q, hq, _, -, _, -, _, -, _, -, _, -, h⟩ := h
  have hmoved := accountForReserveAction_keepsSettings hq
  split_ifs at h with hc
  · simp only [bind_eq_ok, pure_eq, Except.ok.injEq] at h
    obtain ⟨_, -, _, ⟨_, -, rfl⟩, _, -, _, -, rfl⟩ := h
    exact hmoved.trans (.written ..)
  · simp only [bind_eq_ok, pure_eq, Except.ok.injEq] at h
    obtain ⟨_, ⟨_, -, rfl⟩, _, -, _, -, rfl⟩ := h
    exact hmoved.trans (.written ..)

/-- A transfer of a debt keeps the settings. -/
lemma accountForDebtTransferFromTo_keepsSettings {env : Env}
    {asset fromAccount toAccount : AccountId} {amount : ℕ} {res : TransferResult}
    (h : s.accountForDebtTransferFromTo env asset fromAccount toAccount amount t = .ok res) :
    KeepsSettings s res.storage := by
  simp only [accountForDebtTransferFromTo, insertAccountData, bind_eq_ok, pure_eq,
    Except.ok.injEq] at h
  obtain ⟨_, -, _, -, _, -, _, -, q, hq, _, -, _, -, _, -, _, -, _, -, _, ⟨_, -, rfl⟩, _, -, _, -,
    rfl⟩ := h
  exact (accountForReserveAction_keepsSettings hq).trans (.written ..)

/-- A poke keeps the settings. -/
lemma accountForAccumulateInterest_keepsSettings {asset : AccountId}
    (h : s.accountForAccumulateInterest asset t = .ok s') : KeepsSettings s s' := by
  obtain ⟨j, rd, r, indexes, rd', i, e, -, hrd, hr, -, -, hrates, rfl⟩ :=
    accountForAccumulateInterest_ok h
  exact .putReserve hrd hr rfl rfl (recalculateRates_debtRate hrates)

omit [Pendzl] in
/-- Taking the income leaves the fees. -/
lemma takeProtocolIncome_keepsSettings {assets : List AccountId}
    {incomes : List (AccountId × ℕ)} (h : s.takeProtocolIncome assets = .ok (s', incomes)) :
    KeepsSettings s s' := by
  induction assets generalizing s incomes with
  | nil =>
      simp only [takeProtocolIncome, Except.ok.injEq, Prod.mk.injEq] at h
      exact h.1 ▸ .refl s
  | cons asset rest ih =>
      simp only [takeProtocolIncome, bind_eq_ok, okOr_eq_ok, pure_eq, Except.ok.injEq,
        Prod.mk.injEq] at h
      obtain ⟨j, -, r, hr, ⟨s₁, _⟩, h₁, rfl, -⟩ := h
      have hfees : KeepsSettings s (s.putIndexesAndFees j { r with fees := r.fees.takeEarnedFee.1 })
          := by
        refine ⟨rfl, ?_, rfl, fun _ h => h⟩
        funext k
        rw [feesE6At, putIndexesAndFees_reserveIndexesAndFees, Mapping.get_insert, feesE6At]
        split_ifs with hk
        · rw [hk, hr]
          rfl
        · rfl
      exact hfees.trans (ih h₁)

omit [Pendzl] in
/-- A switch of a flag keeps the settings. -/
lemma KeepsSettings.putFlag {rd : ReserveData} (hrd : s.reserveDatas.get k = some rd)
    (active : Bool) : KeepsSettings s (s.putReserveData k { rd with activated := active }) := by
  refine ⟨rfl, rfl, ?_, fun _ h => h⟩
  funext j
  rw [policyAt, putReserveData_reserveDatas, Mapping.get_insert, policyAt]
  have hmodels : (s.putReserveData k { rd with activated := active }).interestRateModel
      = s.interestRateModel := rfl
  rw [hmodels]
  by_cases hj : j = k
  · rw [if_pos hj, hj, hrd]
    rfl
  · rw [if_neg hj]

omit [Pendzl] in
/-- Another model with the same parameters keeps the settings. -/
lemma KeepsSettings.putModel {model model' : InterestRateModel}
    (hmodel : s.interestRateModel.get k = some model) (hparams : model'.params = model.params) :
    KeepsSettings s { s with interestRateModel := s.interestRateModel.insert k model' } := by
  refine ⟨rfl, rfl, ?_, fun j hj => ?_⟩
  · funext j
    rw [policyAt, policyAt, Mapping.get_insert]
    by_cases hj : j = k
    · simp only [hj, if_true, hmodel, hparams]
    · simp only [if_neg hj]
  · have hne : j ≠ k := by
      rintro rfl
      rw [hmodel] at hj
      cases hj
    exact (Mapping.get_insert_of_ne _ hne _).trans hj

end LendingPoolStorage

/-- An adjustment of the rate keeps the parameters. -/
lemma InterestRateModel.adjustRateAtTarget_params [Pendzl] {model model' : InterestRateModel}
    {u t : ℕ} (h : model.adjustRateAtTarget u t = .ok model') : model'.params = model.params := by
  simp only [InterestRateModel.adjustRateAtTarget, bind_eq_ok, pure_eq, Except.ok.injEq] at h
  obtain ⟨_, _, rfl⟩ := h
  rfl

end AbaxLending
