import AbaxLending.Contract.Run
import AbaxLending.Spec.Messages
import AbaxLending.Spec.Power

/-!
No operation leaves its account liquidatable.

Storing an account changes nothing that the collateral check shares between accounts,
so a check made on local copies before they are stored is the check of the stored
account (`ensureCollateralizedByAccount_flush`).

* `Demands`: some action of a list demands the check, as seen before the list runs;
  a withdrawal keeps demanding it although actions before it may clear the collateral
  bit (`Demands.cons`, `applyActions_demands`);
* `Message.canLower`: the operations that can lower the free collateral of an account;
* `stays_collateralized`: after each of them the account passes the check, and a
  liquidation of it is refused.
-/

namespace AbaxLending

open Outcome

/-! ### The check of the copies -/

namespace LendingPoolStorage

/-- **Checking the copies is checking the stored account.** -/
lemma ensureCollateralizedByAccount_flush [Pendzl] {env : Env} {account : AccountId}
    {st : AccountActionsState} {reductions : FeeReductions}
    (hlen : st.storage.assetCount ≤ st.accountDatas.length)
    (hred : st.storage.getFeeReductionsOfAccount env account = reductions) :
    (st.flush account).ensureCollateralizedByAccount env account
      = st.storage.ensureCollateralizedFromRaw env st.accountDatas st.accountConfig reductions := by
  have hred' : (st.flush account).getFeeReductionsOfAccount env account = reductions := hred
  rw [ensureCollateralizedByAccount, AccountActionsState.flush_getAccountDatas hlen, hred']
  rw [AccountActionsState.flush, getAccountConfig_putAccount_self,
    ensureCollateralizedFromRaw_congr (.putAccount account _ _) rfl rfl]

/-- Whether an asset is marked as a collateral of an account. -/
def Marked (s : LendingPoolStorage) (account asset : AccountId) : Prop :=
  ∃ k, s.assetToId.get asset = some k ∧ (s.getAccountConfig account).collaterals.getLsbD k = true

end LendingPoolStorage

/-! ### The demand for a check -/

/-- Only a withdrawal touches the collateral bits, and only that of its asset. -/
lemma Action.step_collaterals [Pendzl] {action : Action} {ctx : ReserveDataContext}
    {data : AccountReserveData} {config : AccountConfig} {feeReductions : FeeReductions} {st : Step}
    (h : action.step ctx data config feeReductions = .ok st) (j : ℕ)
    (hj : action.op = .withdraw → j ≠ ctx.assetId) :
    st.config.collaterals.getLsbD j = config.collaterals.getLsbD j := by
  obtain ⟨op, asset, amount⟩ := action
  cases op with
  | deposit =>
      obtain ⟨_, _, _, _, _, _, rfl⟩ := ReserveDataContext.accountForDeposit_ok h
      rfl
  | withdraw =>
      obtain ⟨_, _, _, _, _, _, _, _, _, rfl⟩ := ReserveDataContext.accountForWithdraw_ok h
      simp [hj rfl]
  | borrow =>
      obtain ⟨_, _, _, _, _, _, _, rfl⟩ := ReserveDataContext.accountForBorrow_ok h
      rfl
  | repay =>
      obtain ⟨_, _, _, _, _, _, _, _, _, _, rfl⟩ := ReserveDataContext.accountForRepay_ok h
      simp

namespace AccountActionsState

/-- The check is already demanded, or some action still to come demands it. -/
def Demands (st : AccountActionsState) (actions : List Action) : Prop :=
  st.mustCheckCollateralization = true
  ∨ ∃ action ∈ actions, action.op = .borrow
    ∨ action.op = .withdraw ∧ ∃ k, st.storage.assetToId.get action.asset = some k
      ∧ st.accountConfig.collaterals.getLsbD k = true

variable [Pendzl] {st st' : AccountActionsState} {feeReductions : FeeReductions} {t : ℕ}
  {action action' : Action} {interests : ℕ × ℕ} {actions actions' : List Action}
  {results : List (ℕ × ℕ)}

/-- The demand of a list survives its first action: what clears a collateral bit is a
withdrawal of that collateral, which demands the check itself. -/
lemma Demands.cons (h : st.Demands (action :: actions))
    (hact : st.applyAction feeReductions t action = .ok (st', action', interests)) :
    st'.Demands actions := by
  obtain ⟨k, ctx, step, rd, i, e, hk, hlen, hctx, hstep, -, -, -, rfl⟩ := applyAction_ok hact
  rcases h with hmust | ⟨b, hb, hdemand⟩
  · exact .inl (by simp [hmust])
  · rcases List.mem_cons.mp hb with rfl | hb
    · refine .inl ?_
      rcases hdemand with hop | ⟨hop, j, hj, hbit⟩
      · simp [Action.demandsCheck, hop]
      · have hjk : j = k := Option.some.inj (hj.symm.trans hk)
        subst hjk
        simp [Action.demandsCheck, hop, hbit]
    · rcases hdemand with hop | ⟨hop, j, hj, hbit⟩
      · exact .inr ⟨b, hb, .inl hop⟩
      · by_cases hclear : action.op = .withdraw ∧ j = k
        · obtain ⟨hop', rfl⟩ := hclear
          exact .inl (by simp [Action.demandsCheck, hop', hbit])
        · refine .inr ⟨b, hb, .inr ⟨hop, j, hj, ?_⟩⟩
          rw [Action.step_collaterals hstep j]
          · exact hbit
          · intro hop' hjk
            exact hclear ⟨hop', hjk.trans hctx.assetId⟩

/-- A list that demands the check ends with the check demanded. -/
lemma applyActions_demands (h : st.Demands actions)
    (hrun : st.applyActions feeReductions t actions = .ok (st', actions', results)) :
    st'.mustCheckCollateralization = true := by
  induction actions generalizing st actions' results with
  | nil =>
      rcases h with hmust | ⟨_, hmem, _⟩
      · rw [← (applyActions_nil_ok hrun).1]
        exact hmust
      · cases hmem
  | cons action rest ih =>
      obtain ⟨st₁, a₁, i₁, a₂, i₂, h₁, h₂, -, -⟩ := applyActions_cons_ok hrun
      exact ih (h.cons h₁) h₂

end AccountActionsState

/-- **The actions of an account that demand the check leave it collateralized.** -/
theorem accountForAccountActions_collateralized [Pendzl] {s : LendingPoolStorage} {env : Env}
    {account : AccountId} {actions : List Action} {res : AccountActionsResult}
    (h : s.accountForAccountActions env account actions = .ok res)
    (hdemand : ∃ action ∈ actions, action.op = .borrow
      ∨ action.op = .withdraw ∧ s.Marked account action.asset) :
    res.storage.ensureCollateralizedByAccount env account = .ok () := by
  obtain ⟨st, hrun, hcheck, hs⟩ := LendingPoolStorage.accountForAccountActions_ok h
  have hmust : st.mustCheckCollateralization = true :=
    AccountActionsState.applyActions_demands (.inr hdemand) hrun
  have hkeeps := AccountActionsState.applyActions_keeps hrun
  have hlen : st.storage.assetCount ≤ st.accountDatas.length :=
    hkeeps.fits LendingPoolStorage.assetCount_le_length_getAccountDatas
  rw [hs, LendingPoolStorage.ensureCollateralizedByAccount_flush hlen hkeeps.reductions]
  exact hcheck hmust

/-! ### Messages -/

/-- The operations that can lower the free collateral of an account `x`. -/
def Message.canLower (w : World) (env : Env) (x : AccountId) : Message → Prop
  | .withdraw asset onBehalfOf _ => x = onBehalfOf ∧ w.pool.Marked x asset
  | .borrow _ onBehalfOf _ => x = onBehalfOf
  | .multiOp op onBehalfOf => x = onBehalfOf ∧ ∃ action ∈ op, action.op = .borrow
      ∨ action.op = .withdraw ∧ w.pool.Marked x action.asset
  | .setAsCollateral _ useAsCollateralToSet => x = env.caller ∧ useAsCollateralToSet = false
  | .chooseMarketRule _ => x = env.caller
  | .transfer token toAccount _ => ∃ t, w.tokens.get token = some t
      ∧ x = match t.kind with | .aToken => env.caller | .vToken => toAccount
  | .transferFrom token fromAccount toAccount _ => ∃ t, w.tokens.get token = some t
      ∧ x = match t.kind with | .aToken => fromAccount | .vToken => toAccount
  | _ => False

namespace World

section

variable [Pendzl] {w w' : World} {env : Env} {x : AccountId} {message : Message}

/-- A transfer of a token leaves the account that it can put short collateralized. -/
lemma tokenMove_collateralized {tokenAddress fromAccount toAccount : AccountId}
    {token : AbacusToken} {amount : ℕ} {s s' : LendingPoolStorage}
    (h : TokenMove env tokenAddress token fromAccount toAccount amount s s')
    (hx : x = match token.kind with | .aToken => fromAccount | .vToken => toAccount) :
    s'.ensureCollateralizedByAccount env x = .ok () := by
  rw [TokenMove] at h
  cases hk : token.kind with
  | aToken =>
      simp only [hk] at h hx
      obtain ⟨res, -, -, -, hcheck⟩ := h
      rw [hx]
      exact hcheck
  | vToken =>
      simp only [hk] at h hx
      obtain ⟨res, -, -, -, hcheck⟩ := h
      rw [hx]
      exact hcheck

/-- The check passes in the world that such an operation leaves. -/
lemma execute_collateralized (hex : w.execute env message = .ok w')
    (hx : message.canLower w env x) :
    w'.pool.ensureCollateralizedByAccount env x = .ok () := by
  have hstep := (execute_frame hex).1
  cases message with
  | withdraw asset onBehalfOf amount =>
      obtain ⟨rfl, hmarked⟩ := hx
      obtain ⟨res, hres, hs⟩ := hstep
      rw [hs]
      exact accountForAccountActions_collateralized hres
        ⟨_, List.mem_singleton_self _, .inr ⟨rfl, hmarked⟩⟩
  | borrow asset onBehalfOf amount =>
      subst hx
      obtain ⟨res, hres, hs⟩ := hstep
      rw [hs]
      exact accountForAccountActions_collateralized hres
        ⟨_, List.mem_singleton_self _, .inl rfl⟩
  | multiOp op onBehalfOf =>
      obtain ⟨rfl, hdemand⟩ := hx
      obtain ⟨res, hres, hs⟩ := hstep
      rw [hs]
      exact accountForAccountActions_collateralized hres hdemand
  | setAsCollateral asset use =>
      obtain ⟨rfl, huse⟩ := hx
      exact hstep.2 huse
  | chooseMarketRule id =>
      subst hx
      exact hstep.2
  | transfer token toAccount amount =>
      obtain ⟨t, ht, hx⟩ := hx
      obtain ⟨t', ht', hmove⟩ := hstep
      cases ht.symm.trans ht'
      exact tokenMove_collateralized hmove hx
  | transferFrom token fromAccount toAccount amount =>
      obtain ⟨t, ht, hx⟩ := hx
      obtain ⟨t', ht', hmove⟩ := hstep
      cases ht.symm.trans ht'
      exact tokenMove_collateralized hmove hx
  | _ => exact hx.elim

/-- A liquidation of an account that passes the check is refused. -/
lemma liquidate_refused {toRepay toTake : AccountId} {amount minimum : ℕ}
    (h : w.pool.ensureCollateralizedByAccount env x = .ok ()) :
    w.execute env (.liquidate x toRepay toTake amount minimum)
      = .error (.err (.pool .collaterized)) := by
  have hguard : w.ensureUndercollateralized env x = .error (.err .collaterized) := by
    rw [ensureUndercollateralized, h]
  simp only [execute, liquidate, hguard, error_bind, mapErr]

/-- **An operation that can lower the free collateral of an account never leaves it
liquidatable**: the account passes the check afterwards, and as long as prices and fee
reductions stay, every liquidation of it returns `Collaterized`. -/
theorem stays_collateralized (hex : w.execute env message = .ok w')
    (hx : message.canLower w env x) :
    w'.pool.ensureCollateralizedByAccount env x = .ok ()
    ∧ ∀ env' : Env, env'.getLatestPrices = env.getLatestPrices →
        env'.getFeeReductions = env.getFeeReductions →
        ∀ toRepay toTake amount minimum,
          w'.execute env' (.liquidate x toRepay toTake amount minimum)
            = .error (.err (.pool .collaterized)) := by
  have hcheck := execute_collateralized hex hx
  refine ⟨hcheck, fun env' hprices hfees toRepay toTake amount minimum => ?_⟩
  apply liquidate_refused
  rw [LendingPoolStorage.ensureCollateralizedByAccount_env hprices hfees]
  exact hcheck

end

attribute [local instance] Pendzl.exact in
/-- A borrow in the sample pool that leaves the borrower collateralized. -/
theorem stays_collateralized_borrow :
    ∃ w w', Sample.world.run (Sample.setup ++ [
          Sample.send 2 1 fun a => .deposit (Sample.account 100) a 1000,
          Sample.send 3 1 fun a => .deposit (Sample.account 101) a 1000,
          Sample.send 3 1 fun _ => .setAsCollateral (Sample.account 101) true]) = some w
      ∧ w.execute (Sample.env (Sample.account 3) 2)
          (.borrow (Sample.account 100) (Sample.account 3) 250) = .ok w'
      ∧ w'.pool.ensureCollateralizedByAccount (Sample.env (Sample.account 3) 2)
          (Sample.account 3) = .ok () := by
  have hrun : ((Sample.world.run (Sample.setup ++ [
          Sample.send 2 1 fun a => .deposit (Sample.account 100) a 1000,
          Sample.send 3 1 fun a => .deposit (Sample.account 101) a 1000,
          Sample.send 3 1 fun _ => .setAsCollateral (Sample.account 101) true])).map fun w =>
        (w.execute (Sample.env (Sample.account 3) 2)
          (.borrow (Sample.account 100) (Sample.account 3) 250)).isOk) = some true := by
    decide +kernel
  obtain ⟨w, hw, hok⟩ := Option.map_eq_some_iff.mp hrun
  obtain ⟨w', hex⟩ := isOk_eq_true.mp hok
  exact ⟨w, w', hw, hex, (stays_collateralized hex rfl).1⟩

end World

end AbaxLending
