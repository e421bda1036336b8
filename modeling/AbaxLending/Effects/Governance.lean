import AbaxLending.Contract.Run
import AbaxLending.Spec.Settings

/-!
The pool keeps what its administrators decide, and nobody else decides anything.

* `Settings.Describes`: the pool stores these settings;
* `execute_describes`: every message changes the settings by its decision;
* `execute_role`: a message that needs a role has a caller with this role;
* `settings_decided`: after every run the pool stores the settings that result from the
  messages of callers with the role for it, taken in their order.
-/

namespace AbaxLending

open Outcome

/-- **A pool stores the settings**: what was decided for an asset is stored under its id, and
the assets have their ids in the order of their registration. -/
structure Settings.Describes (σ : Settings) (s : LendingPoolStorage) : Prop where
  priceFeedProvider : s.priceFeedProvider = σ.priceFeedProvider
  feeReductionProvider : s.feeReductionProvider = σ.feeReductionProvider
  flashLoanFeeE6 : s.flashLoanFeeE6 = σ.flashLoanFeeE6
  assets : Numbers σ.assets s.idToAsset s.assetToId s.assetCount
  restrictions : Numbers.lookup s.assetToId s.reserveRestrictions.get = σ.restrictions
  decimalMultiplier :
    Numbers.lookup s.assetToId s.reserveDecimalMultiplier.get = σ.decimalMultiplier
  feesE6 : Numbers.lookup s.assetToId s.feesE6At = σ.feesE6
  policy : Numbers.lookup s.assetToId s.policyAt = σ.policy
  models : ∀ k, s.assetCount ≤ k → s.interestRateModel.get k = none
  ruleCount : s.nextRuleId.getD 0 = σ.rules.length
  rules : ∀ id rule, σ.rules[id]? = some rule → Numbers.lookup s.assetToId (s.rulesOf id) = rule

namespace Settings.Describes

open LendingPoolStorage

variable {σ : Settings} {s s' : LendingPoolStorage} {asset : AccountId} {k id : ℕ}

/-- A new pool stores the initial settings. -/
lemma new : Settings.initial.Describes .new where
  priceFeedProvider := rfl
  feeReductionProvider := rfl
  flashLoanFeeE6 := rfl
  assets := .nil
  restrictions := rfl
  decimalMultiplier := rfl
  feesE6 := rfl
  policy := rfl
  models _ _ := rfl
  ruleCount := rfl
  rules id rule h := by simp [Settings.initial] at h

/-- What keeps the settings stores the same ones. -/
lemma keeps (h : σ.Describes s) (hk : KeepsSettings s s') : σ.Describes s' := by
  have hassetToId := hk.eq_of_decided (·.assetToId) fun _ => rfl
  have hcount := hk.eq_of_decided (·.assetCount) fun _ => rfl
  constructor
  case priceFeedProvider =>
    rw [hk.eq_of_decided (·.priceFeedProvider) fun _ => rfl, h.priceFeedProvider]
  case feeReductionProvider =>
    rw [hk.eq_of_decided (·.feeReductionProvider) fun _ => rfl, h.feeReductionProvider]
  case flashLoanFeeE6 =>
    rw [hk.eq_of_decided (·.flashLoanFeeE6) fun _ => rfl, h.flashLoanFeeE6]
  case assets =>
    rw [hassetToId, hk.eq_of_decided (·.idToAsset) fun _ => rfl, hcount]
    exact h.assets
  case restrictions =>
    rw [hassetToId, hk.eq_of_decided (·.reserveRestrictions) fun _ => rfl, h.restrictions]
  case decimalMultiplier =>
    rw [hassetToId, hk.eq_of_decided (·.reserveDecimalMultiplier) fun _ => rfl,
      h.decimalMultiplier]
  case feesE6 => rw [hassetToId, hk.feesE6, h.feesE6]
  case policy => rw [hassetToId, hk.policy, h.policy]
  case models =>
    intro k hle
    exact hk.models k (h.models k (hcount ▸ hle))
  case ruleCount => rw [hk.eq_of_decided (·.nextRuleId) fun _ => rfl, h.ruleCount]
  case rules =>
    intro id rule hrule
    rw [hassetToId, hk.eq_of_decided (·.rulesOf id) fun _ => rfl, h.rules id rule hrule]

/-- Writing the rules of one asset in one market rule. -/
lemma writesRules {rules : AssetRules} (h : σ.Describes s) (hid : s.assetToId.get asset = some k)
    (hw : WritesRules s s' id k rules)
    (hs : s' = { s with marketRules := s'.marketRules }) :
    (σ.setRules id asset rules).Describes s' := by
  have hrulesOf : ∀ j, s'.rulesOf j
      = if j = id then Function.update (s.rulesOf id) k (some rules) else s.rulesOf j := by
    intro j
    funext i
    rw [hw.rulesOf]
    by_cases hj : j = id
    · subst hj
      simp only [true_and, if_true, Function.update_apply]
    · simp only [hj, false_and, if_false]
  have hlookup : ∀ j rule, (σ.setRules id asset rules).rules[j]? = some rule →
      Numbers.lookup s.assetToId (s'.rulesOf j) = rule := by
    intro j rule hrule
    simp only [Settings.setRules, List.getElem?_modify, Option.map_eq_map,
      Option.map_eq_some_iff] at hrule
    obtain ⟨old, hold, rfl⟩ := hrule
    rw [hrulesOf]
    by_cases hj : j = id
    · subst hj
      rw [if_pos rfl, if_pos rfl, h.assets.lookup_update hid, h.rules j old hold]
    · rw [if_neg hj, if_neg (Ne.symm hj), h.rules j old hold]
  have hcount : s'.nextRuleId.getD 0 = (σ.setRules id asset rules).rules.length := by
    rw [hw.nextRuleId, h.ruleCount, Settings.setRules, List.length_modify]
  rw [hs] at hlookup hcount ⊢
  exact { h with ruleCount := hcount, rules := hlookup }

/-- New restrictions of an asset. -/
lemma putRestrictions (h : σ.Describes s) (hid : s.assetToId.get asset = some k)
    (restrictions : ReserveRestrictions) :
    (σ.apply (.setReserveRestrictions asset restrictions)).Describes
      { s with reserveRestrictions := s.reserveRestrictions.insert k restrictions } := by
  refine { h with restrictions := ?_ }
  show Numbers.lookup s.assetToId (s.reserveRestrictions.insert k restrictions).get
    = Function.update σ.restrictions asset (some restrictions)
  rw [Mapping.get_insert_eq_update, h.assets.lookup_update hid, h.restrictions]

/-- New fees of an asset. -/
lemma putFees {r : ReserveIndexesAndFees} (h : σ.Describes s)
    (hid : s.assetToId.get asset = some k) (depositFeeE6 debtFeeE6 : ℕ) :
    (σ.apply (.setReserveFees asset depositFeeE6 debtFeeE6)).Describes
      (s.putIndexesAndFees k { r with fees := ReserveFees.new depositFeeE6 debtFeeE6 }) := by
  refine { h with feesE6 := ?_ }
  have hfees : (s.putIndexesAndFees k { r with fees := ReserveFees.new depositFeeE6 debtFeeE6 }
      ).feesE6At = Function.update s.feesE6At k (some (depositFeeE6, debtFeeE6)) := by
    funext j
    rw [feesE6At, putIndexesAndFees_reserveIndexesAndFees, Mapping.get_insert,
      Function.update_apply]
    split_ifs <;> rfl
  show Numbers.lookup s.assetToId _
    = Function.update σ.feesE6 asset (some (depositFeeE6, debtFeeE6))
  rw [hfees, h.assets.lookup_update hid, h.feesE6]

/-- A new policy of an asset. -/
lemma putPolicy {policy : RatePolicy} (h : σ.Describes s) (hid : s.assetToId.get asset = some k)
    (hassets : s'.assetToId = s.assetToId) (hpolicy : s'.policyAt
      = Function.update s.policyAt k (some policy)) :
    Numbers.lookup s'.assetToId s'.policyAt
      = Function.update σ.policy asset (some policy) := by
  rw [hassets, hpolicy, h.assets.lookup_update hid, h.policy]

/-- A new model of an asset that has one. -/
lemma putModel {rd' : ReserveData} {r : ReserveIndexesAndFees} {indexes : ReserveIndexes}
    {t : ℕ} (h : σ.Describes s) (hid : s.assetToId.get asset = some k)
    (hr : s.reserveIndexesAndFees.get k = some r) (params : InterestRateModelParams) :
    (σ.apply (.setInterestRateModel asset params)).Describes
      (({ s with interestRateModel := s.interestRateModel.insert k (.new params t) } :
        LendingPoolStorage).putReserve k rd' { r with indexes }) := by
  have hk : k < s.assetCount := by
    have hsome : (s.idToAsset.get k).isSome := by
      rw [h.assets.inverse.mpr hid]
      rfl
    exact h.assets.isSome_iff.mp hsome
  refine { h with policy := h.putPolicy hid rfl ?_, feesE6 := ?_, models := fun j hj => ?_ }
  · refine Eq.trans (congrArg (Numbers.lookup s.assetToId) (funext fun j => ?_)) h.feesE6
    rw [feesE6At, putReserve_reserveIndexesAndFees, Mapping.get_insert, feesE6At]
    split_ifs with hj
    · rw [hj, hr]
      rfl
    · rfl
  · funext j
    rw [policyAt, Function.update_apply]
    by_cases hj : j = k
    · subst hj
      simp [InterestRateModel.params, InterestRateModel.new]
    · simp [hj, policyAt]
  · have hne : j ≠ k := fun heq => absurd hk (by rw [← heq]; exact not_lt.mpr hj)
    exact (Mapping.get_insert_of_ne _ hne _).trans (h.models j hj)

/-- A new debt rate of a protocol stablecoin. -/
lemma putDebtRate {rd : ReserveData} (h : σ.Describes s) (hid : s.assetToId.get asset = some k)
    (hmodel : s.interestRateModel.contains k = false) (rate : ℕ) :
    (σ.apply (.setStablecoinDebtRateE18 asset rate)).Describes
      (s.putReserveData k { rd with currentDebtRateE18 := rate }) := by
  refine { h with policy := h.putPolicy hid rfl ?_ }
  have hnone : s.interestRateModel.get k = none := by
    simpa [Mapping.contains] using hmodel
  funext j
  rw [policyAt, Function.update_apply]
  by_cases hj : j = k
  · subst hj
    simp [hnone]
  · simp [hj, policyAt]

/-- A new market rule, by the positions of the assets. -/
lemma addRule {rule : MarketRule} (h : σ.Describes s)
    (hadd : s.accountForAddMarketRule rule = .ok (s', id)) :
    (σ.apply (.addMarketRule rule)).Describes s' := by
  obtain ⟨hrules, -, hnext, -⟩ := accountForAddMarketRule_rulesOf hadd
  have hcount : s'.nextRuleId.getD 0 = (σ.apply (.addMarketRule rule)).rules.length := by
    rw [hnext, Option.getD_some, h.ruleCount]
    show _ = (σ.rules ++ [_]).length
    rw [List.length_append, List.length_singleton]
  have hlookup : ∀ j entry, (σ.apply (.addMarketRule rule)).rules[j]? = some entry →
      Numbers.lookup s.assetToId (s'.rulesOf j) = entry := by
    intro j entry hentry
    have hentry' : (σ.rules ++ [fun asset => (σ.assets.idxOf? asset).bind (rule[·]?.join)])[j]?
      = some entry := hentry
    have hrulesOf : s'.rulesOf j
        = if j = σ.rules.length then (rule[·]?.join) else s.rulesOf j := by
      funext i
      rw [hrules, h.ruleCount]
      split_ifs <;> rfl
    rw [hrulesOf]
    by_cases hj : j = σ.rules.length
    · rw [if_pos hj]
      rw [hj, List.getElem?_concat_length, Option.some.injEq] at hentry'
      subst hentry'
      funext asset
      rw [Numbers.lookup, h.assets.number_eq]
    · rw [if_neg hj]
      refine h.rules j entry ?_
      have hlt : j < σ.rules.length := by
        obtain ⟨hlt, -⟩ := List.getElem?_eq_some_iff.mp hentry'
        rw [List.length_append, List.length_singleton] at hlt
        omega
      rwa [List.getElem?_append_left hlt] at hentry'
  rw [accountForAddMarketRule_ok hadd] at hcount hlookup ⊢
  exact { h with ruleCount := hcount, rules := hlookup }

/-- What is read of a table that has another entry for a new asset. -/
lemma lookup_insert {β : Type} {table table' : ℕ → Option β} {f : AccountId → Option β}
    {v : Option β} (h : σ.Describes s) (ha : asset ∉ σ.assets)
    (hread : Numbers.lookup s.assetToId table = f)
    (htable : ∀ j, table' j = if j = s.assetCount then v else table j) :
    Numbers.lookup (s.assetToId.insert asset s.assetCount) table'
      = Function.update f asset v := by
  have heq : table' = Function.update table s.assetCount v := by
    funext j
    rw [htable, Function.update_apply]
  rw [heq, h.assets.lookup_append ha, hread]

/-- A registered asset, with its rules in the first market rule. -/
lemma register {restrictions : ReserveRestrictions} {decimals depositFeeE6 debtFeeE6 t : ℕ}
    {params : Option InterestRateModelParams} {tokens : ReserveAbacusTokens} {rules : AssetRules}
    {s₁ s₂ : LendingPoolStorage} (h : σ.Describes s) (hsound : s.RulesSound)
    (h₁ : s.accountForRegisterAsset asset ReserveData.initial restrictions (10 ^ decimals)
      (ReserveFees.new depositFeeE6 debtFeeE6) (params.map fun params => .new params t) t
      = .ok s₁)
    (h₂ : s₁.accountForSetAbacusTokens asset tokens = .ok s₂)
    (h₃ : s₂.accountForAssetRuleChange 0 asset rules = .ok s') :
    (σ.apply (.registerAsset asset decimals rules restrictions depositFeeE6 debtFeeE6
      params)).Describes s' := by
  have hw := register_writes h₁ h₂ h₃
  obtain ⟨hfresh, rule, rfl⟩ := register_storage h₁ h₂ h₃
  have ha : asset ∉ σ.assets := by
    rw [← h.assets.contains_iff, hfresh]
    exact Bool.false_ne_true
  have hnone : s.interestRateModel.get s.assetCount = none := h.models _ le_rfl
  constructor
  case priceFeedProvider => exact h.priceFeedProvider
  case feeReductionProvider => exact h.feeReductionProvider
  case flashLoanFeeE6 => exact h.flashLoanFeeE6
  case assets => exact h.assets.append ha
  case restrictions => exact h.lookup_insert ha h.restrictions (Mapping.get_insert _ _ · _)
  case decimalMultiplier =>
    exact h.lookup_insert ha h.decimalMultiplier (Mapping.get_insert _ _ · _)
  case feesE6 =>
    refine h.lookup_insert ha h.feesE6 fun j => ?_
    rw [feesE6At, Mapping.get_insert]
    split_ifs <;> rfl
  case policy =>
    refine h.lookup_insert ha h.policy fun j => ?_
    split_ifs with hj
    · subst hj
      cases params with
      | some params => simp [policyAt, RatePolicy.initial, InterestRateModel.params,
          InterestRateModel.new]
      | none => simp [policyAt, RatePolicy.initial, hnone, ReserveData.initial]
    · cases params <;> simp [policyAt, hj]
  case models =>
    intro k hk
    have hlt : s.assetCount < k := hk
    cases params with
    | some params => exact (Mapping.get_insert_of_ne _ hlt.ne' _).trans (h.models k hlt.le)
    | none => exact h.models k hlt.le
  case ruleCount =>
    rw [hw.nextRuleId, h.ruleCount]
    exact (List.length_modify ..).symm
  case rules =>
    intro j entry hentry
    have hentry' : (σ.rules.modify 0 fun rule => Function.update rule asset (some rules))[j]?
      = some entry := hentry
    simp only [List.getElem?_modify, Option.map_eq_map, Option.map_eq_some_iff] at hentry'
    obtain ⟨old, hold, rfl⟩ := hentry'
    by_cases hj : j = 0
    · subst hj
      refine h.lookup_insert ha (h.rules 0 old hold) fun i => ?_
      rw [hw.rulesOf]
      simp only [true_and]
    · -- the other market rules have nothing at the id of the new asset
      have hempty : s.rulesOf j s.assetCount = none := by
        by_contra hsome
        obtain ⟨entry, hentry⟩ := Option.ne_none_iff_exists'.mp hsome
        exact absurd (hsound.registered j _ entry hentry) (lt_irrefl _)
      have hunknown : old asset = none := by
        have hid : s.assetToId.get asset = none := by simpa [Mapping.contains] using hfresh
        rw [← h.rules j old hold, Numbers.lookup, hid, Option.bind_none]
      have hsame : Function.update old asset none = old :=
        Function.update_eq_self_iff.mpr hunknown.symm
      rw [if_neg (Ne.symm hj), ← hsame]
      refine h.lookup_insert ha (h.rules j old hold) fun i => ?_
      rw [hw.rulesOf, if_neg fun hzero => hj hzero.1]
      split_ifs with hi
      · rw [hi, hempty]
      · rfl

end Settings.Describes

namespace World

section

variable [Pendzl] {w w' : World} {env : Env} {message : Message} {σ : Settings}

omit [Pendzl] in
/-- A setter has a caller with its role. -/
lemma manage_role {role : Role} {f : Res LendingPoolStorage}
    (h : w.manage env role f = .ok w') : env.hasRole role env.caller = true := by
  simp only [manage, ensureHasRole, bind_eq_ok, failIf_eq_ok] at h
  obtain ⟨-, hrole, -⟩ := h
  simpa using hrole

/-- **A message that needs a role has a caller with this role.** -/
theorem execute_role {role : Role} (hex : w.execute env message = .ok w')
    (hrole : message.role = some role) : env.hasRole role env.caller = true := by
  cases message <;> simp only [Message.role, reduceCtorEq, Option.some.injEq] at hrole <;>
    subst hrole <;> simp only [execute, mapErr_eq_ok] at hex
  case registerAsset =>
    simp only [registerAsset, ensureHasRole, bind_eq_ok, failIf_eq_ok] at hex
    obtain ⟨-, hrole, -⟩ := hex
    simpa using hrole
  case setReserveFees =>
    simp only [setReserveFees, ensureHasRole, bind_eq_ok, failIf_eq_ok] at hex
    obtain ⟨-, hrole, -⟩ := hex
    simpa using hrole
  case addMarketRule =>
    simp only [addMarketRule, ensureHasRole, bind_eq_ok, failIf_eq_ok] at hex
    obtain ⟨-, hrole, -⟩ := hex
    simpa using hrole
  case takeProtocolIncome =>
    simp only [takeProtocolIncome, ensureHasRole, bind_eq_ok, failIf_eq_ok] at hex
    obtain ⟨-, ⟨-, hrole, -⟩, -⟩ := hex
    simpa using hrole
  all_goals exact manage_role hex

/-- A message that decides nothing keeps the settings. -/
lemma execute_keepsSettings (hex : w.execute env message = .ok w')
    (hm : message.decides = false) : w.pool.KeepsSettings w'.pool := by
  have hstep := (execute_frame hex).1
  cases hactions : message.userActions with
  | some p =>
      obtain ⟨res, hres, hs⟩ := execute_userActions hex hactions
      exact hs ▸ LendingPoolStorage.accountForAccountActions_keepsSettings hres
  | none =>
      cases message with
      | deposit | withdraw | borrow | repay | multiOp => cases hactions
      | liquidate liquidated toRepay toTake amount minimum =>
          obtain ⟨res, hres, hs⟩ := hstep
          exact hs ▸ LendingPoolStorage.accountForLiquidate_keepsSettings hres
      | accumulateInterest asset =>
          exact LendingPoolStorage.accountForAccumulateInterest_keepsSettings hstep
      | adjustRateAtTarget asset guessedIndex =>
          simp only [execute, adjustRateAtTarget, mapErr_eq_ok, bind_eq_ok, okOr_eq_ok, pure_eq,
            Except.ok.injEq] at hex
          obtain ⟨⟨w₁, rate⟩, ⟨k, -, model, hmodel, _, -, _, -, u, -, model', hadjust, h⟩, rfl⟩ :=
            hex
          obtain ⟨rfl, -⟩ := Prod.mk.inj h
          exact .putModel hmodel (InterestRateModel.adjustRateAtTarget_params hadjust)
      | setReserveIsActive asset active =>
          obtain ⟨k, rd, -, hrd, -, hs⟩ := LendingPoolStorage.accountForChangingActivity_ok hstep
          exact hs ▸ .putFlag hrd active
      | setReserveIsFrozen asset frozen =>
          obtain ⟨k, rd, -, hrd, -, hs⟩ := LendingPoolStorage.accountForChangingIsFrozen_ok hstep
          exact hs ▸ .putFlag hrd frozen
      | takeProtocolIncome assets toAccount =>
          obtain ⟨list, incomes, hs⟩ := hstep
          exact LendingPoolStorage.takeProtocolIncome_keepsSettings hs
      | transfer token toAccount value =>
          obtain ⟨t, -, hmove⟩ := hstep
          exact hmove.rule (P := w.pool.KeepsSettings)
            (fun _ => LendingPoolStorage.accountForDepositTransferFromTo_keepsSettings)
            fun _ => LendingPoolStorage.accountForDebtTransferFromTo_keepsSettings
      | transferFrom token fromAccount toAccount value =>
          obtain ⟨t, -, hmove⟩ := hstep
          exact hmove.rule (P := w.pool.KeepsSettings)
            (fun _ => LendingPoolStorage.accountForDepositTransferFromTo_keepsSettings)
            fun _ => LendingPoolStorage.accountForDebtTransferFromTo_keepsSettings
      | chooseMarketRule | setAsCollateral | approve | increaseAllowance | decreaseAllowance =>
          exact .of_eq (execute_keeps (·.setup) (fun _ => rfl) hex)
            (execute_keeps (·.reserveDatas) (fun _ => rfl) hex)
            (execute_keeps (·.reserveIndexesAndFees) (fun _ => rfl) hex)
      | _ => cases hm

omit [Pendzl] in
/-- What a registration does to the pool: the multiplier has the decimals of the asset. -/
lemma registerAsset_pool {asset : AccountId} {decimals depositFeeE6 debtFeeE6 : ℕ}
    {rules : AssetRules} {restrictions : ReserveRestrictions}
    {params : Option InterestRateModelParams}
    (h : w.registerAsset env asset decimals rules restrictions depositFeeE6 debtFeeE6 params
      = .ok w') :
    ∃ s₁ s₂ tokens, w.pool.accountForRegisterAsset asset ReserveData.initial restrictions
        (10 ^ decimals) (ReserveFees.new depositFeeE6 debtFeeE6)
        (params.map fun params => .new params env.blockTimestamp) env.blockTimestamp = .ok s₁
      ∧ s₁.accountForSetAbacusTokens asset tokens = .ok s₂
      ∧ s₂.accountForAssetRuleChange 0 asset rules = .ok w'.pool := by
  simp only [registerAsset, bind_eq_ok, unwrap_eq_ok, tryFrom_eq_some, pure_eq,
    Except.ok.injEq] at h
  obtain ⟨_, -, _, -, _, ⟨rfl, -⟩, s₁, hs₁, ⟨w₁, aToken⟩, h₁, ⟨w₂, vToken⟩, h₂, s₂, hs₂, s₃, hs₃,
    rfl⟩ := h
  obtain ⟨-, rfl⟩ := instantiateAbacusToken_ok h₁
  obtain ⟨-, rfl⟩ := instantiateAbacusToken_ok h₂
  exact ⟨s₁, s₂, _, hs₁, hs₂, hs₃⟩

/-- **Every message changes the settings by its decision.** -/
theorem execute_describes (hsound : w.pool.RulesSound) (h : σ.Describes w.pool)
    (hex : w.execute env message = .ok w') : (σ.apply message).Describes w'.pool := by
  cases hm : message.decides with
  | false =>
      rw [σ.apply_of_decides_eq_false hm]
      exact h.keeps (execute_keepsSettings hex hm)
  | true =>
      have hstep := (execute_frame hex).1
      cases message with
      | setPriceFeedProvider provider => exact hstep ▸ { h with priceFeedProvider := rfl }
      | setFeeReductionProvider provider => exact hstep ▸ { h with feeReductionProvider := rfl }
      | setFlashLoanFeeE6 fee => exact hstep ▸ { h with flashLoanFeeE6 := rfl }
      | registerAsset asset decimals rules restrictions depositFeeE6 debtFeeE6 params =>
          simp only [execute, mapErr_eq_ok] at hex
          obtain ⟨s₁, s₂, tokens, h₁, h₂, h₃⟩ := registerAsset_pool hex
          exact h.register hsound h₁ h₂ h₃
      | setReserveRestrictions asset restrictions =>
          obtain ⟨k, hk, hs⟩ := LendingPoolStorage.accountForReserveRestricitionsChange_ok hstep
          exact hs ▸ h.putRestrictions hk restrictions
      | setInterestRateModel asset params =>
          obtain ⟨k, rd, r, indexes, rd', hk, -, hr, -, -, hs⟩ :=
            LendingPoolStorage.accountForInterestRateModelChange_ok hstep
          exact hs ▸ h.putModel hk hr params
      | setReserveFees asset depositFeeE6 debtFeeE6 =>
          obtain ⟨k, r, hk, -, hs⟩ := LendingPoolStorage.accountForReserveFeesChange_ok hstep
          exact hs ▸ h.putFees hk depositFeeE6 debtFeeE6
      | setStablecoinDebtRateE18 asset rate =>
          have hstep' : w.pool.accountForStablecoinDebtRateE18Change asset rate = .ok w'.pool :=
            hstep
          simp only [LendingPoolStorage.accountForStablecoinDebtRateE18Change,
            LendingPoolStorage.assetId, bind_eq_ok, okOr_eq_ok, failIf_eq_ok, pure_eq,
            Except.ok.injEq] at hstep'
          obtain ⟨k, hk, _, hmodel, rd, -, hs⟩ := hstep'
          exact hs ▸ h.putDebtRate hk (by simpa using hmodel) rate
      | addMarketRule rule =>
          obtain ⟨id, hadd⟩ := hstep
          exact h.addRule hadd
      | modifyAssetRule id asset rules =>
          obtain ⟨k, hk, hw⟩ := LendingPoolStorage.accountForAssetRuleChange_writes hstep
          obtain ⟨rule, hs⟩ := LendingPoolStorage.accountForAssetRuleChange_ok hstep
          exact h.writesRules hk hw (by rw [hs])
      | _ => cases hm

/-- The decisions of a run: the messages whose callers have the role that they ask for. -/
def decisions (messages : List (Env × Message)) : List Message :=
  (messages.filter fun m => m.2.role.any fun role => m.1.hasRole role m.1.caller).map Prod.snd

/-- The settings that result from the decisions of a run. -/
def settingsOf (messages : List (Env × Message)) : Settings :=
  (decisions messages).foldl Settings.apply .initial

/-- The settings after one more message. -/
lemma settingsOf_concat (hex : w.execute env message = .ok w')
    (before : List (Env × Message)) :
    settingsOf (before ++ [(env, message)]) = (settingsOf before).apply message := by
  cases hrole : message.role with
  | some role =>
      have hcaller := execute_role hex hrole
      have hadd : decisions (before ++ [(env, message)]) = decisions before ++ [message] := by
        simp [decisions, hrole, hcaller]
      rw [settingsOf, hadd, List.foldl_append]
      rfl
  | none =>
      have hsame : decisions (before ++ [(env, message)]) = decisions before := by
        simp [decisions, hrole]
      rw [Settings.apply_of_decides_eq_false _ (Message.decides_of_role_eq_none hrole),
        settingsOf, hsame]
      rfl

/-- The run lemma of the settings. -/
lemma run_describes {messages : List (Env × Message)} (hw : w.IsInitial)
    (h : w.run messages = some w') : (settingsOf messages).Describes w'.pool := by
  refine (run_history (P := fun before w' => w'.Linked ∧ w'.pool.RulesSound ∧
    (settingsOf before).Describes w'.pool) ⟨?_, ?_, ?_⟩ ?_ h).2.2
  · exact reachable_linked (.start hw : Reachable (fun _ => True) 0 w)
  · rw [hw.1]
    exact .new
  · rw [hw.1]
    exact .new
  · rintro before env message w₁ w₂ ⟨hl, hsound, hdescribes⟩ hex
    refine ⟨execute_linked hl hex, execute_rulesSound hl hsound hex, ?_⟩
    rw [settingsOf_concat hex]
    exact execute_describes hsound hdescribes hex

/-- **The pool stores what its administrators decided, and nobody else decides anything.**
After every run from a new pool, the settings of the pool are those that result from the
messages of callers with the role for it, in their order. -/
theorem settings_decided {messages : List (Env × Message)} (hw : w.IsInitial)
    (h : w.run messages = some w') :
    ((decisions messages).foldl Settings.apply .initial).Describes w'.pool :=
  run_describes hw h

end

attribute [local instance] Pendzl.exact in
/-- The settings of the sample pool with a borrower are those that its administrator decided. -/
theorem settings_decided_sample :
    ∃ w, Sample.world.run Sample.borrower = some w
      ∧ (decisions Sample.borrower).length < Sample.borrower.length
      ∧ ((decisions Sample.borrower).foldl Settings.apply .initial).Describes w.pool
      ∧ w.pool.rulesOf 0 1 = some Sample.rules := by
  have hrun : (Sample.world.run Sample.borrower).map (fun w => w.pool.rulesOf 0 1)
      = some (some Sample.rules) := by decide +kernel
  obtain ⟨w, hw, hrules⟩ := Option.map_eq_some_iff.mp hrun
  exact ⟨w, hw, by decide +kernel, settings_decided Sample.world_isInitial hw, hrules⟩

end World

end AbaxLending
