import AbaxLending.Invariants.Rules
import AbaxLending.Invariants.Utilization

/-!
The listing of the assets.

A registration writes the id of an asset, the asset of the id, and one entry in each of the
maps that are read with an id.  The readers unwrap these entries, and the market rule of an
account, without a check.

* `KeepsListing`: a change that keeps what a registration writes once, and the market rule of
  every account;
* `Listed`: the ids and the assets are inverse to each other, and the entries are there;
* `RulesListed`: the market rules are those of the ids given out, and the accounts follow
  one of them;
* `reachable_listed`: both hold in every reachable world, and so no reader traps.
-/

namespace AbaxLending

open Outcome

/-- The messages that write the listing of an asset or the market rule of an account. -/
def Message.writesListing : Message → Bool
  | .registerAsset _ _ _ _ _ _ _ | .setReserveRestrictions _ _ | .chooseMarketRule _ => true
  | _ => false

/-! ### The market rule of an account -/

namespace ReserveDataContext

variable [Pendzl] {ctx : ReserveDataContext} {data : AccountReserveData} {config : AccountConfig}
  {feeReductions : FeeReductions} {amount : ℕ} {canMutateAmount : Bool} {st : Step}

lemma accountForDeposit_marketRuleId
    (h : ctx.accountForDeposit data config feeReductions amount = .ok st) :
    st.config.marketRuleId = config.marketRuleId := by
  obtain ⟨a, -, -, -, -, -, rfl⟩ := accountForDeposit_ok h
  exact AccountConfig.markDeposit_marketRuleId ..

lemma accountForWithdraw_marketRuleId
    (h : ctx.accountForWithdraw data config feeReductions amount canMutateAmount = .ok st) :
    st.config.marketRuleId = config.marketRuleId := by
  obtain ⟨a, n, -, -, -, -, -, -, -, rfl⟩ := accountForWithdraw_ok h
  exact AccountConfig.afterWithdraw_marketRuleId ..

lemma accountForBorrow_marketRuleId
    (h : ctx.accountForBorrow data config feeReductions amount = .ok st) :
    st.config.marketRuleId = config.marketRuleId := by
  obtain ⟨a, -, -, -, -, -, -, rfl⟩ := accountForBorrow_ok h
  exact AccountConfig.markBorrow_marketRuleId ..

lemma accountForRepay_marketRuleId
    (h : ctx.accountForRepay data config feeReductions amount canMutateAmount = .ok st) :
    st.config.marketRuleId = config.marketRuleId := by
  obtain ⟨a, n, -, -, -, -, -, -, -, -, rfl⟩ := accountForRepay_ok h
  exact AccountConfig.afterRepay_marketRuleId ..

end ReserveDataContext

/-- Every basic step keeps the market rule of the account. -/
lemma Action.step_marketRuleId [Pendzl] {action : Action} {ctx : ReserveDataContext}
    {data : AccountReserveData} {config : AccountConfig} {feeReductions : FeeReductions} {st : Step}
    (h : action.step ctx data config feeReductions = .ok st) :
    st.config.marketRuleId = config.marketRuleId := by
  obtain ⟨op, asset, amount⟩ := action
  cases op with
  | deposit => exact ReserveDataContext.accountForDeposit_marketRuleId h
  | withdraw => exact ReserveDataContext.accountForWithdraw_marketRuleId h
  | borrow => exact ReserveDataContext.accountForBorrow_marketRuleId h
  | repay => exact ReserveDataContext.accountForRepay_marketRuleId h

/-! ### Changes that keep the listing -/

namespace LendingPoolStorage

/-- The change keeps what a registration writes once, and the market rule of every account. -/
structure KeepsListing (s s' : LendingPoolStorage) : Prop where
  idToAsset : s'.idToAsset = s.idToAsset
  reserveDecimalMultiplier : s'.reserveDecimalMultiplier = s.reserveDecimalMultiplier
  reserveRestrictions : s'.reserveRestrictions = s.reserveRestrictions
  marketRuleId : ∀ account,
    (s'.getAccountConfig account).marketRuleId = (s.getAccountConfig account).marketRuleId

variable {s s' : LendingPoolStorage} {k t : ℕ} {account : AccountId}

namespace KeepsListing

lemma refl (s : LendingPoolStorage) : KeepsListing s s := ⟨rfl, rfl, rfl, fun _ => rfl⟩

lemma trans {s'' : LendingPoolStorage} (h : KeepsListing s s') (h' : KeepsListing s' s'') :
    KeepsListing s s'' where
  idToAsset := h'.idToAsset.trans h.idToAsset
  reserveDecimalMultiplier := h'.reserveDecimalMultiplier.trans h.reserveDecimalMultiplier
  reserveRestrictions := h'.reserveRestrictions.trans h.reserveRestrictions
  marketRuleId account := (h'.marketRuleId account).trans (h.marketRuleId account)

/-- An account stored with the market rule that it had. -/
lemma putAccount (h : KeepsListing s s') {v : List (Option AccountReserveData)}
    {config : AccountConfig}
    (hconfig : config.marketRuleId = (s.getAccountConfig account).marketRuleId) :
    KeepsListing s (s'.putAccount account v config) := by
  refine ⟨h.idToAsset, h.reserveDecimalMultiplier, h.reserveRestrictions, fun a => ?_⟩
  by_cases ha : a = account
  · subst ha
    rw [getAccountConfig_putAccount_self, hconfig]
  · rw [getAccountConfig_putAccount_of_ne ha, h.marketRuleId]

end KeepsListing

/-- A config stored with the market rule that the account had. -/
lemma putConfig_keepsListing {config : AccountConfig}
    (hconfig : config.marketRuleId = (s.getAccountConfig account).marketRuleId) :
    KeepsListing s (s.putConfig account config) := by
  refine ⟨rfl, rfl, rfl, fun a => ?_⟩
  rw [getAccountConfig_putConfig]
  split_ifs with ha
  · rw [hconfig, ha]
  · rfl

/-- A written pair of accounts, each with the market rule that it had. -/
lemma putPair_keepsListing (s : LendingPoolStorage) {inserted replaced : AccountId}
    {insertedData replacedData : AccountReserveData}
    {insertedConfig replacedConfig : AccountConfig} {v : List (Option AccountReserveData)}
    (hi : insertedConfig.marketRuleId = (s.getAccountConfig inserted).marketRuleId)
    (hr : replacedConfig.marketRuleId = (s.getAccountConfig replaced).marketRuleId) :
    KeepsListing s (s.putPair k inserted replaced insertedData replacedData insertedConfig
      replacedConfig v) := by
  refine ⟨?_, ?_, ?_, fun a => ?_⟩
  · simp only [putPair, putConfig_idToAsset, putDatas_idToAsset]
  · simp only [putPair, putConfig_reserveDecimalMultiplier, putDatas_reserveDecimalMultiplier]
  · simp only [putPair, putConfig_reserveRestrictions, putDatas_reserveRestrictions]
  · rw [getAccountConfig_putPair]
    split_ifs with ha ha'
    · rw [hi, ha]
    · rw [hr, ha']
    · rfl

/-- Writing a reserve keeps the listing. -/
lemma reserveWritten_keepsListing (r : TwoSteps) (s : LendingPoolStorage) :
    KeepsListing s (r.reserveWritten s) := ⟨rfl, rfl, rfl, fun _ => rfl⟩

section

variable [Pendzl]

/-- The actions of an account keep the listing. -/
lemma accountForAccountActions_keepsListing {env : Env} {actions : List Action}
    {res : AccountActionsResult}
    (h : s.accountForAccountActions env account actions = .ok res) :
    KeepsListing s res.storage := by
  obtain ⟨st, hst, -, hs⟩ := accountForAccountActions_ok h
  have hloop : KeepsListing s st.storage
      ∧ st.accountConfig.marketRuleId = (s.getAccountConfig account).marketRuleId := by
    refine AccountActionsState.applyActions_induct
      (P := fun st => KeepsListing s st.storage
        ∧ st.accountConfig.marketRuleId = (s.getAccountConfig account).marketRuleId)
      (fun st action st' _ _ hst hact => ?_) hst ⟨.refl s, rfl⟩
    obtain ⟨k, ctx, step, rd, i, e, -, -, -, hstep, -, -, -, rfl⟩ :=
      AccountActionsState.applyAction_ok hact
    exact ⟨hst.1.trans ⟨rfl, rfl, rfl, fun _ => rfl⟩,
      (Action.step_marketRuleId hstep).trans hst.2⟩
  exact hs ▸ hloop.1.putAccount hloop.2

/-- A liquidation keeps the listing. -/
lemma accountForLiquidate_keepsListing {env : Env}
    {caller liquidated assetToRepay assetToTake : AccountId} {amount : ℕ} {res : LiquidateResult}
    (h : s.accountForLiquidate env caller liquidated assetToRepay assetToTake amount t = .ok res) :
    KeepsListing s res.storage := by
  obtain ⟨r, rfl⟩ := accountForLiquidate_ok h
  obtain ⟨rd, i, e, -, hmid⟩ := r.mid_eq
  have hpaid : KeepsListing s r.mid := by
    rw [hmid]
    exact ⟨rfl, rfl, rfl, fun _ => rfl⟩
  have hliquidated : r.first.config.marketRuleId = (s.getAccountConfig liquidated).marketRuleId :=
    (ReserveDataContext.accountForWithdraw_marketRuleId r.first_ok).trans
      (ReserveDataContext.accountForRepay_marketRuleId r.paid_ok)
  have hcaller := ReserveDataContext.accountForDeposit_marketRuleId r.second_ok
  have hbase := hpaid.trans (reserveWritten_keepsListing r.toTwoSteps r.mid)
  exact (hbase.putAccount hliquidated).putAccount hcaller

/-- A transfer of a deposit keeps the listing. -/
lemma accountForDepositTransferFromTo_keepsListing {env : Env}
    {asset fromAccount toAccount : AccountId} {amount : ℕ} {res : TransferResult}
    (h : s.accountForDepositTransferFromTo env asset fromAccount toAccount amount t = .ok res) :
    KeepsListing s res.storage := by
  obtain ⟨r, rfl⟩ := accountForDepositTransferFromTo_ok h
  exact (reserveWritten_keepsListing r.toTwoSteps s).trans <| putPair_keepsListing _
    (ReserveDataContext.accountForDeposit_marketRuleId r.second_ok)
    (ReserveDataContext.accountForWithdraw_marketRuleId r.first_ok)

/-- A transfer of a debt keeps the listing. -/
lemma accountForDebtTransferFromTo_keepsListing {env : Env}
    {asset fromAccount toAccount : AccountId} {amount : ℕ} {res : TransferResult}
    (h : s.accountForDebtTransferFromTo env asset fromAccount toAccount amount t = .ok res) :
    KeepsListing s res.storage := by
  obtain ⟨r, rfl⟩ := accountForDebtTransferFromTo_ok h
  exact (reserveWritten_keepsListing r.toTwoSteps s).trans <| putPair_keepsListing _
    (ReserveDataContext.accountForRepay_marketRuleId r.first_ok)
    (ReserveDataContext.accountForBorrow_marketRuleId r.second_ok)

end

end LendingPoolStorage

namespace World

section

variable [Pendzl] {w w' : World} {env : Env} {message : Message}

/-- A move of a position keeps the listing. -/
lemma TokenMove.keepsListing {tokenAddress : AccountId} {token : AbacusToken}
    {fromAccount toAccount : AccountId} {amount : ℕ} {s s' : LendingPoolStorage}
    (h : TokenMove env tokenAddress token fromAccount toAccount amount s s') :
    s.KeepsListing s' :=
  h.rule (fun _ hres => LendingPoolStorage.accountForDepositTransferFromTo_keepsListing hres)
    fun _ hres => LendingPoolStorage.accountForDebtTransferFromTo_keepsListing hres

/-- Every other message keeps the listing. -/
lemma execute_keepsListing (hex : w.execute env message = .ok w')
    (hm : message.writesListing = false) : w.pool.KeepsListing w'.pool := by
  have hstep := (execute_frame hex).1
  cases hactions : message.userActions with
  | some p =>
      obtain ⟨res, hres, hs⟩ := execute_userActions hex hactions
      exact hs ▸ LendingPoolStorage.accountForAccountActions_keepsListing hres
  | none =>
      cases message with
      | registerAsset | setReserveRestrictions | chooseMarketRule => cases hm
      | deposit | withdraw | borrow | repay | multiOp => cases hactions
      | liquidate liquidated toRepay toTake amount minimum =>
          obtain ⟨res, hres, hs⟩ := hstep
          exact hs ▸ LendingPoolStorage.accountForLiquidate_keepsListing hres
      | setAsCollateral asset use =>
          obtain ⟨k, hs⟩ := LendingPoolStorage.accountForSetAsCollateral_ok hstep.1
          exact hs ▸ LendingPoolStorage.putConfig_keepsListing rfl
      | transfer token toAccount value =>
          obtain ⟨t, -, hmove⟩ := hstep
          exact hmove.keepsListing
      | transferFrom token fromAccount toAccount value =>
          obtain ⟨t, -, hmove⟩ := hstep
          exact hmove.keepsListing
      | _ =>
          refine ⟨execute_keeps (·.idToAsset) (fun _ => rfl) hex,
            execute_keeps (·.reserveDecimalMultiplier) (fun _ => rfl) hex,
            execute_keeps (·.reserveRestrictions) (fun _ => rfl) hex, fun account => ?_⟩
          rw [LendingPoolStorage.getAccountConfig_congr
            (execute_keeps (·.accountConfigs) (fun _ => rfl) hex)]

end

end World

/-! ### The assets and their ids -/

namespace LendingPoolStorage

variable {s s' : LendingPoolStorage} {asset : AccountId}

/-- The ids and the registered assets are inverse to each other, and everything that a
registration writes once is there. -/
structure Listed (s : LendingPoolStorage) : Prop where
  inverse : ∀ asset k, s.assetToId.get asset = some k ↔ s.idToAsset.get k = some asset
  ids : ∀ k, (s.idToAsset.get k).isSome = true ↔ k < s.assetCount
  reserveRestrictions : ∀ k < s.assetCount, (s.reserveRestrictions.get k).isSome = true
  reserveDecimalMultiplier : ∀ k < s.assetCount, (s.reserveDecimalMultiplier.get k).isSome = true
  reserveAbacusTokens : ∀ asset k, s.assetToId.get asset = some k →
    (s.reserveAbacusTokens.get asset).isSome = true

lemma Listed.new : Listed LendingPoolStorage.new where
  inverse asset k := iff_of_false (fun h => by cases h) fun h => by cases h
  ids k := iff_of_false (fun h => by cases h) (Nat.not_lt_zero k)
  reserveRestrictions k h := absurd h (Nat.not_lt_zero k)
  reserveDecimalMultiplier k h := absurd h (Nat.not_lt_zero k)
  reserveAbacusTokens asset k h := by cases h

/-- Restrictions may be written, not taken away. -/
lemma Listed.keeps (h : Listed s) (hk : KeepsRegistry s s')
    (hassets : s'.idToAsset = s.idToAsset)
    (hmultiplier : s'.reserveDecimalMultiplier = s.reserveDecimalMultiplier)
    (hrestrictions : ∀ k, (s.reserveRestrictions.get k).isSome = true →
      (s'.reserveRestrictions.get k).isSome = true) : Listed s' := by
  have hcount := hk.assetCount
  refine ⟨?_, ?_, fun k hlt => ?_, fun k hlt => ?_, ?_⟩
  · rw [hk.assetToId, hassets]
    exact h.inverse
  · rw [hcount, hassets]
    exact h.ids
  · exact hrestrictions k (h.reserveRestrictions k (hcount ▸ hlt))
  · rw [hmultiplier]
    exact h.reserveDecimalMultiplier k (hcount ▸ hlt)
  · rw [hk.assetToId, hk.reserveAbacusTokens]
    exact h.reserveAbacusTokens

/-- What is written for the next id is there for all ids below. -/
lemma isSome_insert_next {α : Type} {m : Mapping ℕ α} {n : ℕ} {x : α}
    (h : ∀ k < n, (m.get k).isSome = true) {k : ℕ} (hk : k < n + 1) :
    ((m.insert n x).get k).isSome = true := by
  rw [Mapping.get_insert]
  split_ifs with heq
  · rfl
  · exact h k (by omega)

/-- A registration lists the asset under the next id. -/
lemma Listed.registers (h : Listed s) {restrictions : ReserveRestrictions}
    {multiplier : ℕ} {tokens : ReserveAbacusTokens} (hfresh : s.assetToId.get asset = none)
    (hcount : s'.assetCount = s.assetCount + 1)
    (hid : s'.assetToId = s.assetToId.insert asset s.assetCount)
    (hassets : s'.idToAsset = s.idToAsset.insert s.assetCount asset)
    (hrestrictions : s'.reserveRestrictions
      = s.reserveRestrictions.insert s.assetCount restrictions)
    (hmultiplier : s'.reserveDecimalMultiplier
      = s.reserveDecimalMultiplier.insert s.assetCount multiplier)
    (htokens : s'.reserveAbacusTokens = s.reserveAbacusTokens.insert asset tokens) :
    Listed s' := by
  have hnext : s.idToAsset.get s.assetCount = none := by
    rw [← Option.not_isSome_iff_eq_none, h.ids]
    exact lt_irrefl _
  refine ⟨fun a k => ?_, fun k => ?_, fun k hlt => ?_, fun k hlt => ?_, fun a k hk => ?_⟩
  · rw [hid, hassets, Mapping.get_insert, Mapping.get_insert]
    by_cases ha : a = asset <;> by_cases hk : k = s.assetCount
    · rw [if_pos ha, if_pos hk, ha, hk]
      exact iff_of_true rfl rfl
    · -- the asset had no id
      rw [if_pos ha, if_neg hk, ha, ← h.inverse, hfresh]
      exact iff_of_false (fun heq => hk (Option.some.inj heq).symm) (by simp)
    · -- the id had no asset
      rw [if_neg ha, if_pos hk, h.inverse, hk, hnext]
      exact iff_of_false (by simp) fun heq => ha (Option.some.inj heq).symm
    · rw [if_neg ha, if_neg hk]
      exact h.inverse a k
  · rw [hassets, hcount, Mapping.get_insert]
    split_ifs with heq
    · exact iff_of_true rfl (by omega)
    · rw [h.ids]
      omega
  · rw [hrestrictions]
    exact isSome_insert_next h.reserveRestrictions (hcount ▸ hlt)
  · rw [hmultiplier]
    exact isSome_insert_next h.reserveDecimalMultiplier (hcount ▸ hlt)
  · rw [htokens, Mapping.get_insert]
    split_ifs with ha
    · rfl
    · rw [hid, Mapping.get_insert_of_ne _ ha] at hk
      exact h.reserveAbacusTokens a k hk

/-! ### The market rules -/

/-- The market rules are those of the ids given out, there is one once an asset is registered,
and every account follows a market rule of these or the first one. -/
structure RulesListed (s : LendingPoolStorage) : Prop where
  marketRules : ∀ r, (s.marketRules.get r).isSome = true ↔ r < s.nextRuleId.getD 0
  first : 0 < s.assetCount → 0 < s.nextRuleId.getD 0
  followed : ∀ account, (s.getAccountConfig account).marketRuleId = 0
    ∨ (s.getAccountConfig account).marketRuleId < s.nextRuleId.getD 0

lemma RulesListed.new : RulesListed LendingPoolStorage.new where
  marketRules r := iff_of_false (fun h => by cases h) (Nat.not_lt_zero r)
  first h := absurd h (Nat.not_lt_zero 0)
  followed account := .inl rfl

/-- Once an asset is registered, the market rule of every account is there. -/
lemma RulesListed.rule_of_account (h : RulesListed s) (hcount : 0 < s.assetCount)
    (account : AccountId) :
    (s.marketRules.get (s.getAccountConfig account).marketRuleId).isSome = true := by
  rw [h.marketRules]
  rcases h.followed account with hzero | hlt
  · rw [hzero]
    exact h.first hcount
  · exact hlt

/-- Rules that are written stay. -/
lemma RulesListed.writes {r k : ℕ} {rules : AssetRules} (h : RulesListed s)
    (hw : WritesRules s s' r k rules) :
    ∀ r', (s'.marketRules.get r').isSome = true ↔ r' < s'.nextRuleId.getD 0 := by
  intro r'
  rw [hw.nextRuleId, ← h.marketRules]
  by_cases hr : r' = r
  · subst hr
    have hknown : (s.marketRules.get r').isSome = true := Option.isSome_iff_ne_none.mpr hw.known
    have hwritten : s'.rulesOf r' k = some rules := by rw [hw.rulesOf, if_pos ⟨rfl, rfl⟩]
    obtain ⟨rule, hrule, -⟩ := Option.bind_eq_some_iff.mp hwritten
    exact iff_of_true (by rw [hrule]; rfl) hknown
  · rw [hw.others r' hr]

/-! ### What the readers rely on -/

/-- The registry is consistent: the ids and the registered assets are inverse to each other,
every id given out has its entries, the market rules are those of the ids given out, and a
stored config has one of them once an asset is registered. -/
structure RegistryConsistent (s : LendingPoolStorage) : Prop extends Listed s where
  reserveDatas : ∀ k < s.assetCount, (s.reserveDatas.get k).isSome = true
  reserveIndexesAndFees : ∀ k < s.assetCount, (s.reserveIndexesAndFees.get k).isSome = true
  twUrIndexes : ∀ k < s.assetCount, (s.twUrIndexes.get k).isSome = true
  marketRules : ∀ r, (s.marketRules.get r).isSome = true ↔ r < s.nextRuleId.getD 0
  marketRuleOf : 0 < s.assetCount → ∀ account config, s.accountConfigs.get account = some config →
    (s.marketRules.get config.marketRuleId).isSome = true
  marketRuleOf_default : 0 < s.assetCount →
    (s.marketRules.get (default : AccountConfig).marketRuleId).isSome = true

/-- The readers of the entries of a registered asset do not trap, and neither do the readers of
all assets and of the market rule of an account. -/
structure UnwrapsSafe (s : LendingPoolStorage) : Prop where
  getAllRegisteredAssets : ∃ assets, s.getAllRegisteredAssets = .ok assets
  getMarketRule : ∀ account, ∃ rule, s.getMarketRule (s.getAccountConfig account) = .ok rule
  getMarketRule_default : ∃ rule, s.getMarketRule default = .ok rule
  getReserveRestrictions : ∀ k < s.assetCount, ∃ x, s.getReserveRestrictions k = .ok x
  getReserveIndexesAndFees : ∀ k < s.assetCount, ∃ x, s.getReserveIndexesAndFees k = .ok x
  getReserveData : ∀ k < s.assetCount, ∃ x, s.getReserveData k = .ok x
  getDecimalMultiplier : ∀ k < s.assetCount, ∃ x, s.getDecimalMultiplier k = .ok x
  twUrIndexes : ∀ k < s.assetCount, ∃ x, (unwrap (s.twUrIndexes.get k) : Res TwIndex) = .ok x

lemma exists_unwrap_eq_ok {α : Type} {o : Option α} (h : o.isSome = true) :
    ∃ x, (unwrap o : Res α) = .ok x := by
  obtain ⟨x, hx⟩ := Option.isSome_iff_exists.mp h
  exact ⟨x, unwrap_eq_ok.mpr hx⟩

/-- **A consistent registry makes the readers safe.** -/
lemma RegistryConsistent.unwrapsSafe (h : RegistryConsistent s) (hcount : 0 < s.assetCount) :
    UnwrapsSafe s := by
  constructor
  case getAllRegisteredAssets =>
    refine exists_mapM_eq_ok fun k hk => ?_
    exact exists_unwrap_eq_ok ((h.ids k).mpr (List.mem_range.mp hk))
  case getMarketRule =>
    intro account
    rw [LendingPoolStorage.getMarketRule, getAccountConfig]
    cases hconfig : s.accountConfigs.get account with
    | none => exact exists_unwrap_eq_ok (h.marketRuleOf_default hcount)
    | some config => exact exists_unwrap_eq_ok (h.marketRuleOf hcount account config hconfig)
  case getMarketRule_default => exact exists_unwrap_eq_ok (h.marketRuleOf_default hcount)
  case getReserveRestrictions =>
    exact fun k hk => exists_unwrap_eq_ok (h.reserveRestrictions k hk)
  case getReserveIndexesAndFees =>
    exact fun k hk => exists_unwrap_eq_ok (h.reserveIndexesAndFees k hk)
  case getReserveData => exact fun k hk => exists_unwrap_eq_ok (h.reserveDatas k hk)
  case getDecimalMultiplier =>
    exact fun k hk => exists_unwrap_eq_ok (h.reserveDecimalMultiplier k hk)
  case twUrIndexes => exact fun k hk => exists_unwrap_eq_ok (h.twUrIndexes k hk)

end LendingPoolStorage

namespace World

section

variable [Pendzl] {w w' : World} {env : Env} {message : Message}

/-- The step lemma of the ids. -/
lemma execute_listed (h : w.pool.Listed) (hex : w.execute env message = .ok w') :
    w'.pool.Listed := by
  have hstep := (execute_frame hex).1
  cases hm : message.writesListing with
  | false =>
      have hregisters : message.registers = none := by
        cases message with
        | registerAsset => cases hm
        | _ => rfl
      have hk := execute_keepsListing hex hm
      refine h.keeps (execute_keepsRegistry hex hregisters) hk.idToAsset
        hk.reserveDecimalMultiplier fun k hsome => ?_
      rw [hk.reserveRestrictions]
      exact hsome
  | true =>
      cases message with
      | registerAsset asset decimals rules restrictions depositFeeE6 debtFeeE6 params =>
          obtain ⟨s₁, s₂, multiplier, tokens, h₁, h₂, h₃⟩ := hstep
          obtain ⟨hr, -⟩ := LendingPoolStorage.register_ok h₁ h₂ h₃
          obtain ⟨-, rule, hs⟩ := LendingPoolStorage.register_storage h₁ h₂ h₃
          rw [hs]
          exact h.registers hr.fresh rfl rfl rfl rfl rfl rfl
      | setReserveRestrictions asset restrictions =>
          obtain ⟨k, -, hs⟩ := LendingPoolStorage.accountForReserveRestricitionsChange_ok hstep
          rw [hs]
          refine h.keeps ⟨rfl, rfl, rfl⟩ rfl rfl fun j hsome => ?_
          rw [Mapping.get_insert]
          split_ifs
          · rfl
          · exact hsome
      | chooseMarketRule id =>
          rw [LendingPoolStorage.accountForMarketRuleChange_ok hstep.1]
          exact h.keeps ⟨rfl, rfl, rfl⟩ rfl rfl fun _ hsome => hsome
      | _ => cases hm

/-- The ids of market rules are given out in order. -/
lemma execute_marketRules (h : w.pool.RulesListed) (hex : w.execute env message = .ok w') :
    (∀ r, (w'.pool.marketRules.get r).isSome = true ↔ r < w'.pool.nextRuleId.getD 0)
      ∧ w.pool.nextRuleId.getD 0 ≤ w'.pool.nextRuleId.getD 0 := by
  have hstep := (execute_frame hex).1
  cases hm : message.changesRules with
  | false =>
      cases hr : message.registers with
      | none =>
          have hk := execute_keepsRules hex hm hr
          rw [hk.marketRules, hk.nextRuleId]
          exact ⟨h.marketRules, le_rfl⟩
      | some asset =>
          cases message with
          | registerAsset asset decimals rules restrictions depositFeeE6 debtFeeE6 params =>
              obtain ⟨s₁, s₂, multiplier, tokens, h₁, h₂, h₃⟩ := hstep
              have hw := LendingPoolStorage.register_writes h₁ h₂ h₃
              exact ⟨h.writes hw, hw.nextRuleId.symm ▸ le_rfl⟩
          | _ => cases hr
  | true =>
      cases message with
      | modifyAssetRule id asset rules =>
          obtain ⟨k, -, hw⟩ := LendingPoolStorage.accountForAssetRuleChange_writes hstep
          exact ⟨h.writes hw, hw.nextRuleId.symm ▸ le_rfl⟩
      | addMarketRule rule =>
          obtain ⟨id, hid⟩ := hstep
          rw [LendingPoolStorage.accountForAddMarketRule_ok hid]
          refine ⟨fun r => ?_, Nat.le_succ _⟩
          rw [Mapping.get_insert, Option.getD_some]
          split_ifs with heq
          · exact iff_of_true rfl (by omega)
          · rw [h.marketRules]
            omega
      | _ => cases hm

/-- After a registration there is a market rule, and before it the assets stay. -/
lemma execute_firstRule (h : w.pool.RulesListed) (hex : w.execute env message = .ok w')
    (hcount : 0 < w'.pool.assetCount) : 0 < w'.pool.nextRuleId.getD 0 := by
  obtain ⟨hrules, hle⟩ := execute_marketRules h hex
  cases hr : message.registers with
  | none =>
      have hsame := (execute_keepsRegistry hex hr).assetCount
      exact (h.first (hsame ▸ hcount)).trans_le hle
  | some asset =>
      have hstep := (execute_frame hex).1
      cases message with
      | registerAsset asset decimals rules restrictions depositFeeE6 debtFeeE6 params =>
          obtain ⟨s₁, s₂, multiplier, tokens, h₁, h₂, h₃⟩ := hstep
          have hw := LendingPoolStorage.register_writes h₁ h₂ h₃
          have hknown := Option.isSome_iff_ne_none.mpr hw.known
          exact ((h.marketRules 0).mp hknown).trans_le hle
      | _ => cases hr

/-- An account follows the market rule that it followed, or one that was given out. -/
lemma execute_followed (hex : w.execute env message = .ok w') (account : AccountId) :
    (w'.pool.getAccountConfig account).marketRuleId
        = (w.pool.getAccountConfig account).marketRuleId
      ∨ (w'.pool.getAccountConfig account).marketRuleId < w'.pool.nextRuleId.getD 0 := by
  have hstep := (execute_frame hex).1
  cases hm : message.writesListing with
  | false => exact .inl ((execute_keepsListing hex hm).marketRuleId account)
  | true =>
      cases message with
      | registerAsset asset decimals rules restrictions depositFeeE6 debtFeeE6 params =>
          obtain ⟨hr, -⟩ := execute_registers hex rfl
          left
          rw [LendingPoolStorage.getAccountConfig_congr hr.accountConfigs]
      | setReserveRestrictions asset restrictions =>
          obtain ⟨k, -, hs⟩ := LendingPoolStorage.accountForReserveRestricitionsChange_ok hstep
          rw [hs]
          exact .inl rfl
      | chooseMarketRule id =>
          have hbounds := hstep.1
          simp only [LendingPoolStorage.accountForMarketRuleChange,
            LendingPoolStorage.ensureMarketRuleInBounds, bind_eq_ok, failIf_eq_ok] at hbounds
          obtain ⟨-, hlt, -⟩ := hbounds
          rw [LendingPoolStorage.accountForMarketRuleChange_ok hstep.1,
            LendingPoolStorage.getAccountConfig_putConfig]
          split_ifs
          · exact .inr (not_le.mp hlt)
          · exact .inl rfl
      | _ => cases hm

/-- The step lemma of the market rules. -/
lemma execute_rulesListed (h : w.pool.RulesListed) (hex : w.execute env message = .ok w') :
    w'.pool.RulesListed := by
  obtain ⟨hrules, hle⟩ := execute_marketRules h hex
  refine ⟨hrules, execute_firstRule h hex, fun account => ?_⟩
  rcases execute_followed hex account with hsame | hlt
  · rw [hsame]
    exact (h.followed account).imp_right fun hlt => hlt.trans_le hle
  · exact .inr hlt

/-- The run lemma of the listing. -/
lemma reachable_listing {kind : Message → Prop} {t : ℕ} (h : Reachable kind t w) :
    w.pool.Listed ∧ w.pool.RulesListed := by
  refine TimedRun.Reach.invariant (P := fun w => w.pool.Listed ∧ w.pool.RulesListed)
    (fun w hw => ?_) (fun t w w' hP hstep => ?_) h
  · rw [hw.1]
    exact ⟨.new, .new⟩
  · obtain ⟨env, message, -, -, hex⟩ := hstep
    exact ⟨execute_listed hP.1 hex, execute_rulesListed hP.2 hex⟩

/-- In every reachable world a registered asset has its ring of snapshots. -/
lemma reachable_twUrIndexes {kind : Message → Prop} {t k : ℕ} (h : Reachable kind t w)
    (hk : k < w.pool.assetCount) : (w.pool.twUrIndexes.get k).isSome = true := by
  obtain ⟨hist, htraced⟩ := TimedRun.Traced.exists_of_reach h
  obtain ⟨i, log, hrec⟩ := traced_records htraced hk
  exact Option.isSome_iff_exists.mpr ⟨_, hrec.index⟩

/-- **The registry is consistent, and the unwraps are safe.**  In every reachable world the ids
and the registered assets are inverse to each other, every id given out has its entries, and a
market rule is there for every account once an asset is registered; then no reader of these
entries traps. -/
theorem registry_consistent {kind : Message → Prop} {t : ℕ} (h : Reachable kind t w) :
    w.pool.RegistryConsistent ∧ (0 < w.pool.assetCount → w.pool.UnwrapsSafe) := by
  obtain ⟨hlisted, hrules⟩ := reachable_listing h
  have hocc := reachable_occupied h
  have hconsistent : w.pool.RegistryConsistent := by
    refine ⟨hlisted, fun k hk => (hocc.reserveData k).mpr hk, fun k hk => (hocc.indexes k).mpr hk,
      fun k hk => reachable_twUrIndexes h hk, hrules.marketRules,
      fun hcount account config hconfig => ?_,
      fun hcount => (hrules.marketRules 0).mpr (hrules.first hcount)⟩
    have hrule := hrules.rule_of_account hcount account
    rw [LendingPoolStorage.getAccountConfig, hconfig] at hrule
    exact hrule
  exact ⟨hconsistent, fun hcount => hconsistent.unwrapsSafe hcount⟩

end

attribute [local instance] Pendzl.exact in
/-- In the sample pool the assets, and the market rule of an account that was never stored, are
read without a trap. -/
theorem registry_consistent_sample :
    ∃ w, Sample.world.run Sample.setup = some w
      ∧ (∃ assets, w.pool.getAllRegisteredAssets = .ok assets)
      ∧ ∃ rule, w.pool.getMarketRule (w.pool.getAccountConfig (Sample.account 7)) = .ok rule := by
  have hrun : (Sample.world.run Sample.setup).map (fun w => decide (0 < w.pool.assetCount))
      = some true := by decide +kernel
  obtain ⟨w, hw, hreach, hcount⟩ :=
    run_reaches (fun _ => True) Sample.world_isInitial (by decide) hrun
  have hsafe := (registry_consistent hreach).2 (of_decide_eq_true hcount)
  exact ⟨w, hw, hsafe.getAllRegisteredAssets, hsafe.getMarketRule (Sample.account 7)⟩

end World

end AbaxLending
