import AbaxLending.Effects.Governance
import AbaxLending.Effects.Prices
import AbaxLending.Invariants.FreeCollateral
import AbaxLending.Invariants.Listing

/-!
Which messages depend on the prices.

A collateral check asks for the prices of all registered assets at once, whatever the account
holds.  The other messages do not ask at all.

* `AsksPrices`: the messages that ask;
* `execute_asks`: a message that asks and succeeds had an answer;
* `prices_demanded`: then every registered asset has a symbol and a price, and the pool has
  worked with the last ones;
* `execute_ignores_prices`: any other message does the same with every feed.
-/

namespace AbaxLending

open Outcome

/-! ### The demand for a check -/

/-- No basic step marks a collateral. -/
lemma Action.step_marks_no_collateral [Pendzl] {action : Action} {ctx : ReserveDataContext}
    {data : AccountReserveData} {config : AccountConfig} {feeReductions : FeeReductions} {st : Step}
    (h : action.step ctx data config feeReductions = .ok st) (j : ℕ)
    (hbit : st.config.collaterals.getLsbD j = true) : config.collaterals.getLsbD j = true := by
  by_cases hj : action.op = .withdraw ∧ j = ctx.assetId
  · obtain ⟨op, asset, amount⟩ := action
    obtain ⟨rfl, rfl⟩ := hj
    obtain ⟨_, _, _, _, _, _, _, _, _, rfl⟩ := ReserveDataContext.accountForWithdraw_ok h
    simp only [AccountConfig.afterWithdraw_collaterals_bit, Bool.and_eq_true] at hbit
    exact hbit.1
  · rw [← Action.step_collaterals h j fun hop heq => hj ⟨hop, heq⟩]
    exact hbit

namespace AccountActionsState

variable [Pendzl] {st st' : AccountActionsState} {feeReductions : FeeReductions} {t : ℕ}
  {action action' : Action} {interests : ℕ × ℕ} {actions actions' : List Action}
  {results : List (ℕ × ℕ)}

/-- An action demands no check for those after it: it marks no collateral. -/
lemma Demands.of_cons (hact : st.applyAction feeReductions t action = .ok (st', action', interests))
    (h : st'.Demands actions) : st.Demands (action :: actions) := by
  obtain ⟨k, ctx, step, rd, i, e, hk, hlen, hctx, hstep, -, -, -, rfl⟩ := applyAction_ok hact
  rcases h with hmust | ⟨b, hb, hdemand⟩
  · simp only [Bool.or_eq_true] at hmust
    refine hmust.imp id fun hdemands => ⟨action, List.mem_cons_self, ?_⟩
    cases hop : action.op with
    | borrow => exact .inl rfl
    | withdraw =>
        simp only [Action.demandsCheck, hop] at hdemands
        exact .inr ⟨rfl, k, hk, hdemands⟩
    | deposit | repay => simp only [Action.demandsCheck, hop, Bool.false_eq_true] at hdemands
  · refine .inr ⟨b, List.mem_cons_of_mem _ hb, ?_⟩
    rcases hdemand with hborrow | ⟨hop, j, hj, hbit⟩
    · exact .inl hborrow
    · exact .inr ⟨hop, j, hj, Action.step_marks_no_collateral hstep j hbit⟩

/-- A check that a list makes was demanded before it ran. -/
lemma Demands.of_applyActions
    (hrun : st.applyActions feeReductions t actions = .ok (st', actions', results))
    (hmust : st'.mustCheckCollateralization = true) : st.Demands actions := by
  induction actions generalizing st actions' results with
  | nil =>
      rw [(applyActions_nil_ok hrun).1]
      exact .inl hmust
  | cons action rest ih =>
      obtain ⟨st₁, a₁, i₁, a₂, i₂, h₁, h₂, -, -⟩ := applyActions_cons_ok hrun
      exact (ih h₂).of_cons h₁

end AccountActionsState

/-- The messages that check the collateral of their caller. -/
def Message.checksCaller : Message → Bool
  | .chooseMarketRule _ | .setAsCollateral _ false => true
  | _ => false

namespace World

/-- The messages that ask for the prices: liquidations, transfers, the choices of a market rule
and against a collateral, and actions among which there is a borrow or a withdrawal of a
collateral. -/
def AsksPrices (w : World) (message : Message) : Prop :=
  (∃ account actions, message.userActions = some (account, actions)
      ∧ (w.pool.startActions account).Demands actions)
    ∨ message.isLiquidate = true ∨ message.isTransfer = true ∨ message.checksCaller = true

section

variable [Pendzl] {w w' : World} {env : Env} {message : Message}

/-- A collateral check that succeeds had an answer. -/
lemma ensureCollateralizedFromRaw_asks {s : LendingPoolStorage}
    {datas : List (Option AccountReserveData)} {config : AccountConfig}
    {reductions : FeeReductions}
    (h : s.ensureCollateralizedFromRaw env datas config reductions = .ok ()) :
    ∃ prices, s.getAssetsPricesE18 env = .ok prices := by
  simp only [LendingPoolStorage.ensureCollateralizedFromRaw, bind_eq_ok] at h
  obtain ⟨prices, hprices, -⟩ := h
  exact ⟨prices, hprices⟩

omit [Pendzl] in
/-- The answer depends on what was decided for the pool. -/
lemma getAssetsPricesE18_keeps {s s' : LendingPoolStorage} (h : s.KeepsSettings s') :
    s'.getAssetsPricesE18 env = s.getAssetsPricesE18 env :=
  h.eq_of_decided (·.getAssetsPricesE18 env) fun _ => rfl

/-- A move of a position had an answer. -/
lemma TokenMove.asks {tokenAddress fromAccount toAccount : AccountId} {token : AbacusToken}
    {amount : ℕ} {s s' : LendingPoolStorage}
    (h : TokenMove env tokenAddress token fromAccount toAccount amount s s') :
    ∃ prices, s'.getAssetsPricesE18 env = .ok prices := by
  rw [TokenMove] at h
  cases hkind : token.kind with
  | aToken =>
      simp only [hkind] at h
      obtain ⟨res, -, -, -, hcheck⟩ := h
      exact ensureCollateralizedFromRaw_asks hcheck
  | vToken =>
      simp only [hkind] at h
      obtain ⟨res, -, -, -, hcheck⟩ := h
      exact ensureCollateralizedFromRaw_asks hcheck

/-- **A message that asks for the prices and succeeds had an answer.** -/
theorem execute_asks (hex : w.execute env message = .ok w') (hasks : w.AsksPrices message) :
    ∃ prices, w.pool.getAssetsPricesE18 env = .ok prices := by
  have hstep := (execute_frame hex).1
  rcases hasks with ⟨account, actions, hactions, hdemands⟩ | hliquidate | htransfer | hcaller
  · obtain ⟨res, hres, -⟩ := execute_userActions hex hactions
    obtain ⟨st, hst, hcheck, -⟩ := LendingPoolStorage.accountForAccountActions_ok hres
    have hmust := AccountActionsState.applyActions_demands hdemands hst
    obtain ⟨prices, hprices⟩ := ensureCollateralizedFromRaw_asks (hcheck hmust)
    have hkeeps : w.pool.KeepsSettings st.storage :=
      LendingPoolStorage.applyActions_keepsSettings hst
    exact ⟨prices, getAssetsPricesE18_keeps hkeeps ▸ hprices⟩
  · cases message with
    | liquidate liquidated toRepay toTake amount minimum =>
        obtain ⟨res, hres, -⟩ := hstep
        simp only [LendingPoolStorage.accountForLiquidate, bind_eq_ok] at hres
        obtain ⟨_, -, _, -, _, -, _, -, _, -, p, hp, _, -, _, -, _, -, _, -, prices, hprices, -⟩ :=
          hres
        rw [getAssetsPricesE18_keeps
          (LendingPoolStorage.accountForReserveAction_keepsSettings hp)] at hprices
        exact ⟨prices, hprices⟩
    | _ => cases hliquidate
  · cases message with
    | transfer token toAccount value =>
        obtain ⟨t, -, hmove⟩ := hstep
        exact getAssetsPricesE18_keeps (execute_keepsSettings hex rfl) ▸ hmove.asks
    | transferFrom token fromAccount toAccount value =>
        obtain ⟨t, -, hmove⟩ := hstep
        exact getAssetsPricesE18_keeps (execute_keepsSettings hex rfl) ▸ hmove.asks
    | _ => cases htransfer
  · cases message with
    | chooseMarketRule id =>
        obtain ⟨prices, hprices⟩ := ensureCollateralizedFromRaw_asks hstep.2
        rw [getAssetsPricesE18_keeps (execute_keepsSettings hex rfl)] at hprices
        exact ⟨prices, hprices⟩
    | setAsCollateral asset use =>
        cases use with
        | true => cases hcaller
        | false =>
            obtain ⟨prices, hprices⟩ := ensureCollateralizedFromRaw_asks (hstep.2 rfl)
            rw [getAssetsPricesE18_keeps (execute_keepsSettings hex rfl)] at hprices
            exact ⟨prices, hprices⟩
    | _ => cases hcaller

omit [Pendzl] in
/-- The assets are listed at the places of their ids. -/
lemma getAllRegisteredAssets_getElem? {s : LendingPoolStorage} {assets : List AccountId}
    {asset : AccountId} {k : ℕ} (h : s.Listed) (hassets : s.getAllRegisteredAssets = .ok assets)
    (hk : s.assetToId.get asset = some k) : assets[k]? = some asset := by
  have hid := (h.inverse asset k).mp hk
  have hlt : k < s.assetCount := (h.ids k).mp (Option.isSome_iff_exists.mpr ⟨asset, hid⟩)
  rw [LendingPoolStorage.getAllRegisteredAssets, mapM_eq_ok_iff, List.forall₂_iff_get] at hassets
  obtain ⟨hlen, hassets⟩ := hassets
  rw [List.length_range] at hlen
  have hread := hassets k (by rwa [List.length_range]) (hlen ▸ hlt)
  rw [List.get_eq_getElem, List.getElem_range, unwrap_eq_ok, hid] at hread
  rw [List.getElem?_eq_getElem (hlen ▸ hlt), Option.some.inj hread]
  rfl

/-- **The prices that were worked with are the last ones.**  A message that asks and succeeds
was answered with a price for every registered asset, at the place of its id: the last price of
the last symbol of the asset, and so every registered asset has them.  It does not matter which
assets the account holds. -/
theorem prices_demanded {kind : Message → Prop} {t : ℕ} {feed : Feed} {deployer oracle : AccountId}
    {log : List (Env × FeedMessage)} (hreach : Reachable kind t w)
    (hfeed : (Feed.new deployer oracle).run log = some feed)
    (hanswers : ∀ provider assets, w.pool.priceFeedProvider = some provider →
      env.getLatestPrices provider assets = feed.getLatestPrices assets)
    (hex : w.execute env message = .ok w') (hasks : w.AsksPrices message) :
    ∃ prices, w.pool.getAssetsPricesE18 env = .ok prices
      ∧ ∀ asset k, w.pool.assetToId.get asset = some k →
        ∃ price, pricedAt log asset = some price ∧ prices[k]? = some price := by
  obtain ⟨prices, hprices⟩ := execute_asks hex hasks
  refine ⟨prices, hprices, fun asset k hk => ?_⟩
  simp only [LendingPoolStorage.getAssetsPricesE18, bind_eq_ok, unwrap_eq_ok, mapErr_eq_ok]
    at hprices
  obtain ⟨assets, hassets, provider, hprovider, hanswer⟩ := hprices
  rw [hanswers provider assets hprovider, Feed.getLatestPrices_eq_ok hfeed] at hanswer
  have hasset := getAllRegisteredAssets_getElem? (reachable_listing hreach).1 hassets hk
  obtain ⟨hlt, hget⟩ := List.getElem?_eq_some_iff.mp hasset
  have hlt' : k < prices.length := hanswer.length_eq ▸ hlt
  have hpriced := hanswer.get hlt hlt'
  rw [List.get_eq_getElem, hget] at hpriced
  exact ⟨prices[k], hpriced, List.getElem?_eq_getElem hlt'⟩

/-! ### Messages that do not ask -/

/-- Actions that demand no check do the same with every feed. -/
lemma accountForAccountActions_ignores {s : LendingPoolStorage} {account : AccountId}
    {actions : List Action} (f : AccountId → List AccountId → Comp PriceFeedError (List ℕ))
    (h : ¬(s.startActions account).Demands actions) :
    s.accountForAccountActions { env with getLatestPrices := f } account actions
      = s.accountForAccountActions env account actions := by
  refine bind_congr_of_ok fun ⟨st, actions', results⟩ hrun => ?_
  have hmust : st.mustCheckCollateralization = false :=
    Bool.eq_false_iff.mpr fun hmust => h (.of_applyActions hrun hmust)
  simp only [hmust, Bool.false_eq_true, if_false]

omit [Pendzl] in
/-- The loop of `multi_op` asks for no prices. -/
lemma settleActions_ignores (f : AccountId → List AccountId → Comp PriceFeedError (List ℕ))
    {onBehalfOf : AccountId} {firstAmount : ℕ} (items : List (Action × (ℕ × ℕ))) (v : World) :
    v.settleActions { env with getLatestPrices := f } onBehalfOf firstAmount items
      = v.settleActions env onBehalfOf firstAmount items := by
  induction items generalizing v with
  | nil => rfl
  | cons item rest ih =>
      show _ >>= _ = _ >>= _
      refine bind_congr_of_ok fun v₁ _ => ih v₁

omit [Pendzl] in
/-- The loop of `take_protocol_income` asks for no prices. -/
lemma payIncome_ignores (f : AccountId → List AccountId → Comp PriceFeedError (List ℕ))
    {toAccount : AccountId} (items : List (AccountId × ℕ)) (v : World) :
    v.payIncome { env with getLatestPrices := f } toAccount items
      = v.payIncome env toAccount items := by
  induction items generalizing v with
  | nil => rfl
  | cons item rest ih =>
      show _ >>= _ = _ >>= _
      refine bind_congr_of_ok fun v₁ _ => ih v₁

/-- **Messages that do not ask do the same with every feed**, also with one that fails or
traps, in every world. -/
theorem execute_ignores_prices (f : AccountId → List AccountId → Comp PriceFeedError (List ℕ))
    (hasks : ¬w.AsksPrices message) :
    w.execute { env with getLatestPrices := f } message = w.execute env message := by
  simp only [AsksPrices, not_or, not_exists, not_and] at hasks
  obtain ⟨hactions, hliquidate, htransfer, hcaller⟩ := hasks
  cases message with
  | deposit asset onBehalfOf amount =>
      simp only [execute, deposit, accountForAccountActions_ignores f (hactions _ _ rfl)]
      rfl
  | withdraw asset onBehalfOf amount =>
      simp only [execute, withdraw, accountForAccountActions_ignores f (hactions _ _ rfl)]
      rfl
  | borrow asset onBehalfOf amount =>
      simp only [execute, borrow, accountForAccountActions_ignores f (hactions _ _ rfl)]
      rfl
  | repay asset onBehalfOf amount =>
      simp only [execute, repay, accountForAccountActions_ignores f (hactions _ _ rfl)]
      rfl
  | multiOp op onBehalfOf =>
      simp only [execute, multiOp, accountForAccountActions_ignores f (hactions _ _ rfl),
        settleActions_ignores]
  | takeProtocolIncome assets toAccount =>
      simp only [execute, takeProtocolIncome, payIncome_ignores]
      rfl
  | setAsCollateral asset use =>
      cases use with
      | true => rfl
      | false => exact absurd rfl hcaller
  | liquidate => exact absurd rfl hliquidate
  | transfer | transferFrom => exact absurd rfl htransfer
  | chooseMarketRule => exact absurd rfl hcaller
  | _ => rfl

end

/-- The sample pool with a deposit of `account 2` and a collateral of `account 3`. -/
def collateralSample : List (Env × Message) := Sample.setup ++ [
  Sample.send 2 1 fun a => .deposit (Sample.account 100) a 1000,
  Sample.send 3 1 fun a => .deposit (Sample.account 101) a 1000,
  Sample.send 3 1 fun _ => .setAsCollateral (Sample.account 101) true]

attribute [local instance] Pendzl.exact in
/-- A borrow of the sample works with the last price of the first asset, which was set twice. -/
theorem prices_demanded_sample :
    ∃ feed w prices, (Feed.new Sample.admin (Sample.account 7)).run Feed.sampleLog = some feed
      ∧ Sample.world.run collateralSample = some w
      ∧ w.pool.getAssetsPricesE18 (Sample.envWith feed.getLatestPrices (Sample.account 3) 2)
        = .ok prices
      ∧ prices[0]? = some (2 * E18) := by
  have hfeed : ((Feed.new Sample.admin (Sample.account 7)).run Feed.sampleLog).isSome = true := by
    decide +kernel
  obtain ⟨feed, hfeed⟩ := Option.isSome_iff_exists.mp hfeed
  have hrun : (((Feed.new Sample.admin (Sample.account 7)).run Feed.sampleLog).bind fun feed =>
      (Sample.world.run collateralSample).map fun w =>
        (w.execute (Sample.envWith feed.getLatestPrices (Sample.account 3) 2)
          (.borrow (Sample.account 100) (Sample.account 3) 100)).isOk
          && decide (w.pool.assetToId.get (Sample.account 100) = some 0)) = some true := by
    decide +kernel
  rw [hfeed, Option.bind_some] at hrun
  obtain ⟨w, hw, hreach, hok⟩ :=
    run_reaches (fun _ => True) Sample.world_isInitial (by decide) hrun
  rw [Bool.and_eq_true, decide_eq_true_eq] at hok
  obtain ⟨⟨w', hex⟩, hid⟩ := hok.imp_left isOk_eq_true.mp
  have hasks : w.AsksPrices (.borrow (Sample.account 100) (Sample.account 3) 100) :=
    .inl ⟨_, _, rfl, .inr ⟨_, List.mem_singleton_self _, .inl rfl⟩⟩
  obtain ⟨prices, hprices, hpriced⟩ :=
    prices_demanded hreach hfeed (fun _ _ _ => rfl) hex hasks
  obtain ⟨price, hprice, hget⟩ := hpriced _ _ hid
  have htwice : pricedAt Feed.sampleLog (Sample.account 100) = some (2 * E18) := by decide +kernel
  exact ⟨feed, w, prices, hfeed, hw, hprices, hget.trans (hprice.symm.trans htwice)⟩

attribute [local instance] Pendzl.exact in
/-- A lender of the sample without a collateral withdraws although the feed is dead. -/
theorem execute_ignores_prices_sample :
    ∃ w w', Sample.world.run collateralSample = some w
      ∧ w.execute (Sample.envWith (fun _ => .error .trap) (Sample.account 2) 2)
        (.withdraw (Sample.account 100) (Sample.account 2) 10) = .ok w' := by
  have hrun : (Sample.world.run collateralSample).map (fun w =>
      (w.execute (Sample.env (Sample.account 2) 2)
        (.withdraw (Sample.account 100) (Sample.account 2) 10)).isOk
        && decide ((w.pool.getAccountConfig (Sample.account 2)).collaterals = 0#128))
      = some true := by
    decide +kernel
  obtain ⟨w, hw, hok⟩ := Option.map_eq_some_iff.mp hrun
  rw [Bool.and_eq_true, decide_eq_true_eq] at hok
  obtain ⟨⟨w', hex⟩, hnone⟩ := hok.imp_left isOk_eq_true.mp
  refine ⟨w, w', hw, (execute_ignores_prices (fun _ _ => .error .trap) ?_).trans hex⟩
  intro hasks
  rcases hasks with ⟨_, _, hactions, hdemands⟩ | hliquidate | htransfer | hcaller
  · cases hactions
    rcases hdemands with hmust | ⟨action, hmem, hop | ⟨-, k, -, hbit⟩⟩
    · cases hmust
    · rw [List.mem_singleton.mp hmem] at hop
      cases hop
    · have hzero : (w.pool.startActions (Sample.account 2)).accountConfig.collaterals = 0#128 :=
        hnone
      rw [hzero] at hbit
      exact absurd hbit (by simp)
  · cases hliquidate
  · cases htransfer
  · cases hcaller

end World

end AbaxLending
