import AbaxLending.Invariants.Listing
import AbaxLending.Invariants.Slots
import AbaxLending.Lib.LastWrite

/-!
What an account chooses for itself.

The market rule that an account follows and the assets that count as its collaterals decide
about its collateral check.  Nobody else can choose them.

* `choosesRule`, `switchesCollateral`: what a message chooses for an account;
* `execute_clearsOnly`: no message but `set_as_collateral` sets a collateral bit;
* `choices_are_own`: after every run an account follows the rule that it chose last, and
  its collaterals are among the assets that it switched on last.
-/

namespace AbaxLending

open Outcome

/-- The market rule that a message chooses for an account. -/
def choosesRule (account : AccountId) : Env × Message → Option ℕ
  | (env, .chooseMarketRule id) => if env.caller = account then some id else none
  | _ => none

/-- Whether a message switches an asset on or off as a collateral of an account. -/
def switchesCollateral (account asset : AccountId) : Env × Message → Option Bool
  | (env, .setAsCollateral other use) =>
      if env.caller = account ∧ other = asset then some use else none
  | _ => none

/-! ### Steps -/

/-- A basic step sets no collateral bit. -/
lemma Slot.Step.collaterals {r : ReserveRestrictions} {slot slot' : Slot} {op : Operation} {n : ℕ}
    (h : slot.Step r op n slot') (hbit : slot'.collaterals = true) : slot.collaterals = true := by
  cases h with
  | deposit | borrow | repay => exact hbit
  | withdraw => exact (Bool.and_eq_true_iff.mp hbit).1

lemma Step.OnSlot.collaterals {st : Step} {op : Operation} {ctx : ReserveDataContext}
    {data : AccountReserveData} {config : AccountConfig} (h : st.OnSlot op ctx data config) {k : ℕ}
    (hbit : st.config.collaterals.getLsbD k = true) : config.collaterals.getLsbD k = true := by
  by_cases hk : k = ctx.assetId
  · rw [hk] at hbit ⊢
    exact h.own.collaterals hbit
  · exact (congrArg Slot.collaterals (h.others k hk data)).symm.trans hbit

namespace LendingPoolStorage

/-- Every collateral bit that is set was set before. -/
def ClearsOnly (s s' : LendingPoolStorage) : Prop :=
  ∀ a k, (s'.getAccountConfig a).collaterals.getLsbD k = true →
    (s.getAccountConfig a).collaterals.getLsbD k = true

variable {s s' : LendingPoolStorage} {k t : ℕ} {env : Env}

lemma ClearsOnly.of_eq (h : s'.accountConfigs = s.accountConfigs) : ClearsOnly s s' :=
  fun a k hbit => by rwa [getAccountConfig_congr h] at hbit

/-- What a transfer writes sets no collateral bit if its configs do not. -/
lemma ClearsOnly.putPair {inserted replaced : AccountId}
    {insertedData replacedData : AccountReserveData} {insertedConfig replacedConfig : AccountConfig}
    {v : List (Option AccountReserveData)}
    (hinserted : ∀ j, insertedConfig.collaterals.getLsbD j = true →
      (s.getAccountConfig inserted).collaterals.getLsbD j = true)
    (hreplaced : ∀ j, replacedConfig.collaterals.getLsbD j = true →
      (s.getAccountConfig replaced).collaterals.getLsbD j = true) :
    ClearsOnly s (s.putPair k inserted replaced insertedData replacedData insertedConfig
      replacedConfig v) := by
  intro a j hbit
  rw [getAccountConfig_putPair] at hbit
  split_ifs at hbit with hi hr
  · exact hi ▸ hinserted j hbit
  · exact hr ▸ hreplaced j hbit
  · exact hbit

variable [Pendzl]

lemma accountForAccountActions_clearsOnly {account : AccountId} {actions : List Action}
    {res : AccountActionsResult}
    (h : s.accountForAccountActions env account actions = .ok res) :
    ClearsOnly s res.storage := by
  refine accountForAccountActions_slots (R := fun a k slot => slot.collaterals = true →
    (s.getAccountConfig a).collaterals.getLsbD k = true) ?_ h fun a k hbit => hbit
  intro asset k restrictions slot op n slot' _ _ hR hstep hbit
  exact hR (hstep.collaterals hbit)

lemma Liquidation.clearsOnly {caller liquidated assetToRepay assetToTake : AccountId} {amount : ℕ}
    (r : Liquidation s env caller liquidated assetToRepay assetToTake amount t) :
    ClearsOnly s r.written := by
  refine r.slots (R := fun a k slot => slot.collaterals = true →
    (s.getAccountConfig a).collaterals.getLsbD k = true) ?_ ?_ fun a k hbit => hbit
  · intro asset k restrictions slot op n slot' _ _ _ _ hR hstep hbit
    exact hR (hstep.collaterals hbit)
  · intro restrictions slot' _ hR hstep hbit
    exact hR (hstep.collaterals hbit)

lemma DepositTransfer.clearsOnly {asset fromAccount toAccount : AccountId} {amount : ℕ}
    (r : DepositTransfer s env asset fromAccount toAccount amount t) :
    ClearsOnly s r.written := by
  intro a j hbit
  refine ClearsOnly.putPair (s := r.reserveWritten s) (fun i hi => ?_) (fun i hi => ?_) a j hbit
  · exact (ReserveDataContext.accountForDeposit_slot r.second_ok).collaterals hi
  · exact (ReserveDataContext.accountForWithdraw_slot r.first_ok).collaterals hi

lemma DebtTransfer.clearsOnly {asset fromAccount toAccount : AccountId} {amount : ℕ}
    (r : DebtTransfer s env asset fromAccount toAccount amount t) :
    ClearsOnly s r.written := by
  intro a j hbit
  refine ClearsOnly.putPair (s := r.reserveWritten s) (fun i hi => ?_) (fun i hi => ?_) a j hbit
  · exact (ReserveDataContext.accountForRepay_slot r.first_ok).collaterals hi
  · exact (ReserveDataContext.accountForBorrow_slot r.second_ok).collaterals hi

end LendingPoolStorage

namespace World

open LendingPoolStorage

section

variable [Pendzl] {w w' : World} {env : Env} {message : Message}

lemma TokenMove.clearsOnly {tokenAddress fromAccount toAccount : AccountId} {token : AbacusToken}
    {amount : ℕ} {s s' : LendingPoolStorage}
    (h : TokenMove env tokenAddress token fromAccount toAccount amount s s') :
    s.ClearsOnly s' := by
  refine h.rule (P := fun s' => s.ClearsOnly s') (fun res hres => ?_) fun res hres => ?_
  · obtain ⟨r, rfl⟩ := accountForDepositTransferFromTo_ok hres
    exact r.clearsOnly
  · obtain ⟨r, rfl⟩ := accountForDebtTransferFromTo_ok hres
    exact r.clearsOnly

/-- **No message but `set_as_collateral` sets a collateral bit**, of any account. -/
theorem execute_clearsOnly (hex : w.execute env message = .ok w')
    (hm : ∀ asset use, message ≠ .setAsCollateral asset use) : w.pool.ClearsOnly w'.pool := by
  have hstep := (execute_frame hex).1
  cases hactions : message.userActions with
  | some p =>
      obtain ⟨account, actions⟩ := p
      obtain ⟨res, hres, hs⟩ := execute_userActions hex hactions
      exact hs ▸ accountForAccountActions_clearsOnly hres
  | none =>
      cases message with
      | deposit | withdraw | borrow | repay | multiOp => cases hactions
      | setAsCollateral asset use => exact absurd rfl (hm asset use)
      | liquidate liquidated toRepay toTake amount minimum =>
          obtain ⟨res, hres, hs⟩ := hstep
          obtain ⟨r, rfl⟩ := accountForLiquidate_ok hres
          exact hs ▸ r.clearsOnly
      | transfer token toAccount value =>
          obtain ⟨t, -, hmove⟩ := hstep
          exact hmove.clearsOnly
      | transferFrom token fromAccount toAccount value =>
          obtain ⟨t, -, hmove⟩ := hstep
          exact hmove.clearsOnly
      | chooseMarketRule id =>
          rw [accountForMarketRuleChange_ok hstep.1]
          intro a k hbit
          rw [getAccountConfig_putConfig] at hbit
          split_ifs at hbit with ha
          · exact ha ▸ hbit
          · exact hbit
      | _ => exact .of_eq (execute_keeps (·.accountConfigs) (fun _ => rfl) hex)

/-- The step lemma of the collaterals: a bit that is set was switched on by the message, or
it was set before and the message did not switch its asset off. -/
lemma execute_collateral (hex : w.execute env message = .ok w')
    {a : AccountId} {k : ℕ} (hbit : (w'.pool.getAccountConfig a).collaterals.getLsbD k = true) :
    (∃ asset, w.pool.assetToId.get asset = some k
        ∧ switchesCollateral a asset (env, message) = some true)
      ∨ (w.pool.getAccountConfig a).collaterals.getLsbD k = true
        ∧ ∀ asset, w.pool.assetToId.get asset = some k →
          switchesCollateral a asset (env, message) = none := by
  by_cases hm : ∃ asset use, message = .setAsCollateral asset use
  · obtain ⟨asset, use, rfl⟩ := hm
    obtain ⟨j, restrictions, hj, hsets⟩ :=
      accountForSetAsCollateral_slots (execute_frame hex).1.1
    have hslot : (w'.pool.slot a k).collaterals = true := hbit
    rw [hsets.slot] at hslot
    split_ifs at hslot with hown
    · obtain ⟨rfl, rfl⟩ := hown
      left
      refine ⟨asset, hj, ?_⟩
      rw [switchesCollateral, if_pos ⟨rfl, rfl⟩]
      exact congrArg some hslot
    · right
      refine ⟨hslot, fun other hother => if_neg ?_⟩
      rintro ⟨rfl, rfl⟩
      exact hown ⟨rfl, Option.some.inj (hother.symm.trans hj)⟩
  · have hne : ∀ asset use, message ≠ .setAsCollateral asset use :=
      fun asset use h => hm ⟨asset, use, h⟩
    right
    refine ⟨execute_clearsOnly hex hne a k hbit, fun asset _ => ?_⟩
    cases message with
    | setAsCollateral other use => exact absurd rfl (hne other use)
    | _ => rfl

/-- The step lemma of the market rule of an account. -/
lemma execute_marketRuleId (hex : w.execute env message = .ok w') (a : AccountId) :
    (w'.pool.getAccountConfig a).marketRuleId
      = (choosesRule a (env, message)).getD (w.pool.getAccountConfig a).marketRuleId := by
  cases hm : message.writesListing with
  | false =>
      have hnone : choosesRule a (env, message) = none := by
        cases message with
        | chooseMarketRule id => cases hm
        | _ => rfl
      rw [(execute_keepsListing hex hm).marketRuleId, hnone]
      rfl
  | true =>
      have hstep := (execute_frame hex).1
      cases message with
      | registerAsset asset decimals rules restrictions depositFeeE6 debtFeeE6 params =>
          rw [getAccountConfig_congr (execute_registers hex rfl).1.accountConfigs]
          rfl
      | setReserveRestrictions asset restrictions =>
          obtain ⟨k, -, hs⟩ := accountForReserveRestricitionsChange_ok hstep
          rw [hs]
          rfl
      | chooseMarketRule id =>
          rw [accountForMarketRuleChange_ok hstep.1, getAccountConfig_putConfig, choosesRule]
          by_cases ha : a = env.caller
          · rw [if_pos ha, if_pos ha.symm]
            rfl
          · rw [if_neg ha, if_neg (Ne.symm ha)]
            rfl
      | _ => cases hm

/-- The run lemma of the collaterals. -/
lemma run_collateral {messages : List (Env × Message)} (hw : w.IsInitial)
    (h : w.run messages = some w') {a : AccountId} {k : ℕ}
    (hbit : (w'.pool.getAccountConfig a).collaterals.getLsbD k = true) :
    ∃ asset, w'.pool.assetToId.get asset = some k
      ∧ lastWrite (switchesCollateral a asset) false messages = true := by
  refine run_history (P := fun before w' => ∀ k,
    (w'.pool.getAccountConfig a).collaterals.getLsbD k = true →
      ∃ asset, w'.pool.assetToId.get asset = some k
        ∧ lastWrite (switchesCollateral a asset) false before = true) (fun k hbit => ?_)
    (fun before env message w₁ w₂ hbits hex k hbit => ?_) h k hbit
  · have hempty : w.pool.getAccountConfig a = default := by
      rw [hw.1]
      rfl
    rw [hempty] at hbit
    exact absurd hbit (by simp [show (default : AccountConfig).collaterals = 0#128 from rfl])
  · rcases execute_collateral hex hbit with ⟨asset, hk, hon⟩ | ⟨hbefore, hsilent⟩
    · exact ⟨asset, execute_assetToId hex hk, by rw [lastWrite_concat, hon]; rfl⟩
    · obtain ⟨asset, hk, hon⟩ := hbits k hbefore
      refine ⟨asset, execute_assetToId hex hk, ?_⟩
      rw [lastWrite_concat, hsilent asset hk]
      exact hon

/-- **What counts for an account is its own choice.**  After every run from a new pool, an
account follows the market rule that it chose last, or the first one; and whatever counts as
its collateral is a registered asset that it switched on itself and has not switched off
since. -/
theorem choices_are_own {messages : List (Env × Message)} (hw : w.IsInitial)
    (h : w.run messages = some w') (a : AccountId) :
    (w'.pool.getAccountConfig a).marketRuleId = lastWrite (choosesRule a) 0 messages
      ∧ ∀ k, (w'.pool.getAccountConfig a).collaterals.getLsbD k = true →
        ∃ asset, w'.pool.assetToId.get asset = some k
          ∧ lastWrite (switchesCollateral a asset) false messages = true := by
  refine ⟨?_, fun k hbit => run_collateral hw h hbit⟩
  refine run_history (P := fun before w' => (w'.pool.getAccountConfig a).marketRuleId
    = lastWrite (choosesRule a) 0 before) ?_ (fun before env message w₁ w₂ hrule hex => ?_) h
  · rw [hw.1]
    rfl
  · rw [execute_marketRuleId hex, hrule, lastWrite_concat]

end

attribute [local instance] Pendzl.exact in
/-- The one collateral of the sample depositor is the asset that it switched on. -/
theorem choices_are_own_sample :
    ∃ w, Sample.world.run Sample.depositors = some w
      ∧ (w.pool.getAccountConfig (Sample.account 3)).collaterals.getLsbD 1 = true
      ∧ ∃ asset, w.pool.assetToId.get asset = some 1
        ∧ lastWrite (switchesCollateral (Sample.account 3) asset) false Sample.depositors
          = true := by
  have hrun : (Sample.world.run Sample.depositors).map
      (fun w => (w.pool.getAccountConfig (Sample.account 3)).collaterals.getLsbD 1)
      = some true := by decide +kernel
  obtain ⟨w, hw, hbit⟩ := Option.map_eq_some_iff.mp hrun
  exact ⟨w, hw, hbit, (choices_are_own Sample.world_isInitial hw (Sample.account 3)).2 1 hbit⟩

end World

end AbaxLending
