import AbaxLending.Effects.Credits
import AbaxLending.Effects.Governance
import AbaxLending.Effects.TransferEvents
import AbaxLending.Invariants.Supply
import AbaxLending.Contract.Run

/-!
The maximal totals of a reserve.

The restrictions of an asset bound its total deposit and its total debt.  A step compares the
total with the bound after it added something, and a later step of the same message posts no
interest of the account again, so that the total is within its bound at the end of the message.

* `Side.cap`, `World.Adds`: the bound of a side, and the messages that add to it;
* `applyActions_withinCap`: the loop over the actions of an account;
* `additions_within_caps`: every message that adds to a side leaves its total within the bound.
-/

namespace AbaxLending

open Outcome

/-! ### Steps -/

namespace Side

/-- The bound on the total of a side. -/
def cap : Side → ReserveRestrictions → Option ℕ
  | .deposit => ReserveRestrictions.maximalTotalDeposit
  | .debt => ReserveRestrictions.maximalTotalDebt

/-- The operation that adds to a side. -/
def addition : Side → Operation
  | .deposit => .deposit
  | .debt => .borrow

end Side

/-- The total of a side is within its bound. -/
def ReserveRestrictions.Allows (self : ReserveRestrictions) (side : Side)
    (reserveData : ReserveData) : Prop :=
  ∀ maximum, side.cap self = some maximum → side.total reserveData ≤ maximum

lemma ensureMaxNotReached_eq_ok {bound : Option ℕ} {total : ℕ} {e : ReserveRestrictionsError}
    {u : Unit} : ReserveRestrictions.ensureMaxNotReached bound total e = .ok u
      ↔ ∀ maximum, bound = some maximum → total ≤ maximum := by
  cases bound with
  | none => simp [ReserveRestrictions.ensureMaxNotReached]
  | some maximum => simp [ReserveRestrictions.ensureMaxNotReached]

section

variable [Pendzl] {ctx : ReserveDataContext} {data : AccountReserveData} {config : AccountConfig}
  {feeReductions : FeeReductions} {amount : ℕ} {action : Action} {st : Step}

/-- A deposit leaves the total deposit within its bound. -/
lemma accountForDeposit_allows
    (h : ctx.accountForDeposit data config feeReductions amount = .ok st) :
    ctx.reserveRestrictions.Allows .deposit st.ctx.reserveData := by
  obtain ⟨a, -, -, -, -, hmax, -⟩ := ReserveDataContext.accountForDeposit_ok h
  exact ensureMaxNotReached_eq_ok.mp hmax

/-- A borrow leaves the total debt within its bound. -/
lemma accountForBorrow_allows
    (h : ctx.accountForBorrow data config feeReductions amount = .ok st) :
    ctx.reserveRestrictions.Allows .debt st.ctx.reserveData := by
  obtain ⟨a, -, -, -, -, -, hmax, -⟩ := ReserveDataContext.accountForBorrow_ok h
  exact ensureMaxNotReached_eq_ok.mp hmax

/-- The step that adds to a side leaves its total within the bound. -/
lemma Action.step_allows {side : Side} (hop : action.op = side.addition)
    (h : action.step ctx data config feeReductions = .ok st) :
    ctx.reserveRestrictions.Allows side st.ctx.reserveData := by
  obtain ⟨op, asset, amount⟩ := action
  cases side with
  | deposit =>
      obtain rfl : op = .deposit := hop
      exact accountForDeposit_allows h
  | debt =>
      obtain rfl : op = .borrow := hop
      exact accountForBorrow_allows h

/-- A step on an entry without pending interest that does not add to a side does not raise its
total. -/
lemma Action.step_total_le {side : Side} (hop : action.op ≠ side.addition)
    (hd : ctx.reserveIndexesAndFees.indexes.depositIndexE18 ≤ data.appliedDepositIndexE18)
    (hb : ctx.reserveIndexesAndFees.indexes.debtIndexE18 ≤ data.appliedDebtIndexE18)
    (h : action.step ctx data config feeReductions = .ok st) :
    side.total st.ctx.reserveData ≤ side.total ctx.reserveData := by
  have hposts := side.total_of_posts (Action.step_posts h)
  obtain ⟨a, ha, hamount, hholding, -⟩ := Action.step_settles h
  rw [ReserveDataContext.accrual, AccountReserveData.accumulateAccountInterest_of_le hd hb] at ha
  have hdata : a.data = data := by rw [← Except.ok.inj ha]
  have hle : side.amount st.data ≤ side.amount data := by
    rw [← side.held_holding, hholding, hdata, ← side.held_holding]
    obtain ⟨op, asset, amount⟩ := action
    cases side <;> cases op <;>
      first | exact absurd rfl hop | exact le_rfl | exact Nat.sub_le ..
  omega

end

/-! ### The actions of an account -/

namespace AccountActionsState

variable [Pendzl] {st st' : AccountActionsState} {feeReductions : FeeReductions} {t k : ℕ}
  {action action' : Action} {interests : ℕ × ℕ} {side : Side}

/-- The reserve is settled for the account, and the total of a side is within its bound. -/
def WithinCap (st : AccountActionsState) (side : Side) (k t : ℕ) : Prop :=
  st.SettledAt k t ∧ ∃ rd restrictions, st.storage.reserveDatas.get k = some rd
    ∧ st.storage.reserveRestrictions.get k = some restrictions ∧ restrictions.Allows side rd

/-- An action settles its own reserve. -/
lemma applyAction_settledAt
    (h : st.applyAction feeReductions t action = .ok (st', action', interests))
    (hk : st.storage.assetToId.get action.asset = some k) : st'.SettledAt k t := by
  obtain ⟨j, ctx, res, rd, i, e, hj, hlen, hopen, hstep, -, -, -, rfl⟩ := applyAction_ok h
  cases hk.symm.trans hj
  obtain ⟨a, ha, -, -, hd, hb, hreserve⟩ := Action.step_settles hstep
  obtain ⟨hcd, hcb⟩ := AccountReserveData.accumulateAccountInterest_caughtUp ha
  obtain ⟨r, hr, hupdate, -⟩ := hopen.indexes
  refine ⟨rd, res.ctx.reserveIndexesAndFees, res.data, Mapping.get_insert_self ..,
    Mapping.get_insert_self .., ?_, ?_, ?_, ?_⟩
  · rw [hreserve]
    exact ReserveIndexes.update_timestamp hupdate
  · rw [getElem?_set_join _ hlen, if_pos rfl]
  · rw [hreserve, hd]
    exact hcd
  · rw [hreserve, hb]
    exact hcb

/-- An action that adds to a side leaves its total within the bound. -/
lemma applyAction_adds (hop : action.op = side.addition)
    (hk : st.storage.assetToId.get action.asset = some k)
    (h : st.applyAction feeReductions t action = .ok (st', action', interests)) :
    st'.WithinCap side k t := by
  refine ⟨applyAction_settledAt h hk, ?_⟩
  obtain ⟨j, ctx, res, rd, i, e, hj, hlen, hopen, hstep, hrates, -, -, rfl⟩ := applyAction_ok h
  cases hk.symm.trans hj
  refine ⟨rd, ctx.reserveRestrictions, Mapping.get_insert_self .., hopen.restrictions, ?_⟩
  intro maximum hcap
  rw [side.total_recalculateRates hrates]
  exact Action.step_allows hop hstep maximum hcap

/-- **The step lemma of the caps**: no action leaves a bound again. -/
lemma applyAction_withinCap (hs : st.WithinCap side k t)
    (h : st.applyAction feeReductions t action = .ok (st', action', interests)) :
    st'.WithinCap side k t := by
  obtain ⟨j, ctx, res, rd', i, e, hj, hlen, hopen, hstep, hrates, -, -, hst'⟩ := applyAction_ok h
  obtain ⟨⟨rd, r, data, hrd, hr, htime, hdata, hd, hb⟩, rd₁, restrictions, hrd₁, hrestrictions,
    hallows⟩ := hs
  cases hrd.symm.trans hrd₁
  by_cases hjk : k = j
  · subst hjk
    by_cases hop : action.op = side.addition
    · exact applyAction_adds hop hj h
    · -- the entry is settled, so that opening the reserve again posts nothing
      refine ⟨applyAction_settledAt h hj, rd', restrictions, ?_, ?_, fun maximum hcap => ?_⟩
      · rw [hst']
        exact Mapping.get_insert_self ..
      · rw [hst']
        exact hrestrictions
      · obtain ⟨r', hr', hup, -⟩ := hopen.indexes
        cases hr.symm.trans hr'
        rw [← htime] at hup
        have hindexes : ctx.reserveIndexesAndFees.indexes = r.indexes :=
          Except.ok.inj (hup.symm.trans (ReserveIndexes.update_self rfl _))
        have hposition : st.position k = data := by rw [position, hdata, Option.getD_some]
        rw [← hposition, ← hindexes] at hd hb
        have hle : side.total res.ctx.reserveData ≤ side.total ctx.reserveData :=
          Action.step_total_le hop hd hb hstep
        cases hrd.symm.trans hopen.reserveData
        rw [side.total_recalculateRates hrates]
        exact hle.trans (hallows maximum hcap)
  · refine ⟨⟨rd, r, data, ?_, ?_, htime, ?_, hd, hb⟩, rd, restrictions, ?_, ?_, hallows⟩
    · rw [hst']
      exact (Mapping.get_insert_of_ne _ hjk _).trans hrd
    · rw [hst']
      exact (Mapping.get_insert_of_ne _ hjk _).trans hr
    · rw [hst', getElem?_set_join _ hlen, if_neg hjk]
      exact hdata
    · rw [hst']
      exact (Mapping.get_insert_of_ne _ hjk _).trans hrd
    · rw [hst']
      exact hrestrictions

/-- The run lemma of the caps: the action that adds to a side brings its total within the bound,
and the later actions keep it there. -/
lemma applyActions_withinCap {actions actions' : List Action} {results : List (ℕ × ℕ)}
    (h : st.applyActions feeReductions t actions = .ok (st', actions', results))
    (hmem : action ∈ actions) (hop : action.op = side.addition) :
    ∃ k, st.storage.assetToId.get action.asset = some k ∧ st'.WithinCap side k t := by
  induction actions generalizing st actions' results with
  | nil => cases hmem
  | cons first rest ih =>
      obtain ⟨st₁, action₁, ints, rest₂, results₂, h₁, h₂, -, -⟩ := applyActions_cons_ok h
      rcases List.mem_cons.mp hmem with rfl | hlater
      · obtain ⟨k, -, -, -, -, -, hk, -⟩ := applyAction_ok h₁
        exact ⟨k, hk, applyActions_induct (fun _ _ _ _ _ => applyAction_withinCap) h₂
          (applyAction_adds hop hk h₁)⟩
      · have hids : st₁.storage.assetToId = st.storage.assetToId :=
          (LendingPoolStorage.applyAction_keepsRegistry h₁).assetToId
        obtain ⟨k, hk, hwithin⟩ := ih h₂ hlater
        exact ⟨k, by rw [← hids, hk], hwithin⟩

end AccountActionsState

/-! ### Messages -/

namespace World

/-- A message adds to a side of an asset: an action does, a liquidation gives the seized asset
to its caller, and the transfer of a token gives the position to the receiver. -/
def Adds (w : World) (side : Side) (asset : AccountId) : Message → Prop
  | .transfer token _ _ | .transferFrom token _ _ _ =>
      (w.tokens.get token).map AbacusToken.identity = some (side.kind, asset)
  | .liquidate _ _ assetToTake _ _ => side = .deposit ∧ assetToTake = asset
  | message => ∃ account actions, message.userActions = some (account, actions)
      ∧ ∃ action ∈ actions, action.op = side.addition ∧ action.asset = asset

end World

namespace LendingPoolStorage

/-- The total of a side of an asset is within the bound that is set for it. -/
def WithinCap (s : LendingPoolStorage) (side : Side) (asset : AccountId) : Prop :=
  ∃ k rd restrictions, s.assetToId.get asset = some k ∧ s.reserveDatas.get k = some rd
    ∧ s.reserveRestrictions.get k = some restrictions ∧ restrictions.Allows side rd

variable [Pendzl] {s : LendingPoolStorage} {env : Env} {side : Side} {asset : AccountId}
  {amount t : ℕ}

/-- The actions of an account leave the sides that they add to within their bounds. -/
lemma accountForAccountActions_withinCap {account : AccountId} {actions : List Action}
    {res : AccountActionsResult} (h : s.accountForAccountActions env account actions = .ok res)
    (hadds : ∃ action ∈ actions, action.op = side.addition ∧ action.asset = asset) :
    res.storage.WithinCap side asset := by
  have hids : res.storage.assetToId = s.assetToId :=
    (KeepsRegistry.of_positions (accountForAccountActions_writes h)).assetToId
  obtain ⟨st, hst, -, hs⟩ := accountForAccountActions_ok h
  obtain ⟨action, hmem, hop, rfl⟩ := hadds
  obtain ⟨k, hk, -, rd, restrictions, hrd, hrestrictions, hallows⟩ :=
    AccountActionsState.applyActions_withinCap hst hmem hop
  rw [hs] at hids ⊢
  exact ⟨k, rd, restrictions, by rw [hids]; exact hk, hrd, hrestrictions, hallows⟩

/-- A liquidation leaves the total deposit of the seized asset within its bound. -/
lemma Liquidation.withinCap {caller liquidated assetToRepay assetToTake : AccountId}
    (r : Liquidation s env caller liquidated assetToRepay assetToTake amount t) :
    r.written.WithinCap .deposit assetToTake := by
  obtain ⟨a, n, -, -, -, -, -, -, -, hfirst⟩ := ReserveDataContext.accountForWithdraw_ok r.first_ok
  have hctx : r.first.ctx.reserveRestrictions = r.ctx.reserveRestrictions := by rw [hfirst]; rfl
  refine ⟨r.k, r.reserveData, r.first.ctx.reserveRestrictions, ?_, r.reserve_take, ?_,
    fun maximum hcap => ?_⟩
  · rw [r.written_assetToId]
    exact r.registeredTake
  · rw [hctx]
    exact r.opened.restrictions
  · rw [Side.total_recalculateRates r.rates]
    exact accountForDeposit_allows r.second_ok maximum hcap

/-- A transfer of deposits leaves the total deposit within its bound. -/
lemma DepositTransfer.withinCap {fromAccount toAccount : AccountId}
    (r : DepositTransfer s env asset fromAccount toAccount amount t) :
    r.written.WithinCap .deposit asset := by
  obtain ⟨a, n, -, -, -, -, -, -, -, hfirst⟩ := ReserveDataContext.accountForWithdraw_ok r.first_ok
  have hctx : r.first.ctx.reserveRestrictions = r.ctx.reserveRestrictions := by rw [hfirst]; rfl
  refine ⟨r.k, r.reserveData, r.first.ctx.reserveRestrictions, r.registered,
    Mapping.get_insert_self .., ?_, fun maximum hcap => ?_⟩
  · rw [hctx]
    exact r.opened.restrictions
  · rw [Side.total_recalculateRates r.rates]
    exact accountForDeposit_allows r.second_ok maximum hcap

/-- A transfer of debts leaves the total debt within its bound. -/
lemma DebtTransfer.withinCap {fromAccount toAccount : AccountId}
    (r : DebtTransfer s env asset fromAccount toAccount amount t) :
    r.written.WithinCap .debt asset := by
  obtain ⟨a, n, -, -, -, -, -, -, -, -, hfirst⟩ := ReserveDataContext.accountForRepay_ok r.first_ok
  have hctx : r.first.ctx.reserveRestrictions = r.ctx.reserveRestrictions := by rw [hfirst]; rfl
  refine ⟨r.k, r.reserveData, r.first.ctx.reserveRestrictions, r.registered,
    Mapping.get_insert_self .., ?_, fun maximum hcap => ?_⟩
  · rw [hctx]
    exact r.opened.restrictions
  · rw [Side.total_recalculateRates r.rates]
    exact accountForBorrow_allows r.second_ok maximum hcap

end LendingPoolStorage

namespace World

section

variable [Pendzl] {w₀ w w' : World} {env : Env} {message : Message} {side : Side}
  {asset : AccountId} {messages : List (Env × Message)}

/-- The receiver of a token is given its position within the bound. -/
lemma TokenMove.withinCap {tokenAddress fromAccount toAccount : AccountId} {token : AbacusToken}
    {amount : ℕ} {s s' : LendingPoolStorage}
    (h : TokenMove env tokenAddress token fromAccount toAccount amount s s')
    (hidentity : token.identity = (side.kind, asset)) : s'.WithinCap side asset := by
  obtain ⟨kind, lendingPool, underlyingAsset, allowances⟩ := token
  obtain ⟨rfl, rfl⟩ := Prod.mk.inj hidentity
  cases side with
  | deposit =>
      obtain ⟨res, hres, rfl, -⟩ := h
      obtain ⟨r, rfl⟩ := LendingPoolStorage.accountForDepositTransferFromTo_ok hres
      exact r.withinCap
  | debt =>
      obtain ⟨res, hres, rfl, -⟩ := h
      obtain ⟨r, rfl⟩ := LendingPoolStorage.accountForDebtTransferFromTo_ok hres
      exact r.withinCap

/-- **A message that adds to a side leaves its total within the bound.** -/
lemma execute_withinCap (hex : w.execute env message = .ok w') (hadds : w.Adds side asset message) :
    w'.pool.WithinCap side asset := by
  have hstep := (execute_frame hex).1
  cases hm : message.userActions with
  | some p =>
      obtain ⟨account, actions⟩ := p
      obtain ⟨res, hres, hs⟩ := execute_userActions hex hm
      have hactions : ∃ action ∈ actions, action.op = side.addition ∧ action.asset = asset := by
        cases message with
        | deposit | withdraw | borrow | repay | multiOp =>
            obtain ⟨account', actions', hm', hadds⟩ := hadds
            cases hm.symm.trans hm'
            exact hadds
        | _ => cases hm
      rw [hs]
      exact LendingPoolStorage.accountForAccountActions_withinCap hres hactions
  | none =>
      cases message with
      | liquidate liquidatedAccount assetToRepay assetToTake amountToRepay minimumRecieved =>
          obtain ⟨rfl, rfl⟩ := hadds
          obtain ⟨res, hres, hs⟩ := hstep
          obtain ⟨r, rfl⟩ := LendingPoolStorage.accountForLiquidate_ok hres
          rw [hs]
          exact r.withinCap
      | transfer tokenAddress toAccount value =>
          obtain ⟨token, htoken, hmove⟩ := hstep
          rw [Adds, htoken, Option.map_some, Option.some.injEq] at hadds
          exact hmove.withinCap hadds
      | transferFrom tokenAddress fromAccount toAccount value =>
          obtain ⟨token, htoken, hmove⟩ := hstep
          rw [Adds, htoken, Option.map_some, Option.some.injEq] at hadds
          exact hmove.withinCap hadds
      | _ =>
          obtain ⟨account, actions, hactions, -⟩ := hadds
          cases hm.symm.trans hactions

/-- **Nothing is added beyond a maximum.**  In every run from a new pool, a message that adds to
a side of an asset leaves the total of this side within the maximum that the administrators set
for it last, whatever interest the message posts on its way. -/
theorem additions_within_caps (hw : w₀.IsInitial) (hrun : w₀.run messages = some w)
    (hex : w.execute env message = .ok w') (hadds : w.Adds side asset message) :
    ∃ k reserveData restrictions, w'.pool.assetToId.get asset = some k
      ∧ w'.pool.reserveDatas.get k = some reserveData
      ∧ (settingsOf (messages ++ [(env, message)])).restrictions asset = some restrictions
      ∧ restrictions.Allows side reserveData := by
  obtain ⟨k, reserveData, restrictions, hk, hrd, hrestrictions, hallows⟩ :=
    execute_withinCap hex hadds
  have hrun' : w₀.run (messages ++ [(env, message)]) = some w' := by
    rw [run_append, hrun, Option.bind_some, run_cons_eq_some]
    exact ⟨w', hex, rfl⟩
  refine ⟨k, reserveData, restrictions, hk, hrd, ?_, hallows⟩
  rw [← (run_describes hw hrun').restrictions, Numbers.lookup, hk]
  exact hrestrictions

end

/-- The sample pool with a borrower bounds the deposits of the borrowed asset. -/
def bounded : List (Env × Message) := Sample.borrower ++ [
  (Sample.env Sample.admin 2,
    .setReserveRestrictions (Sample.account 100) ⟨some 2000, none, 0, 0⟩)]

attribute [local instance] Pendzl.exact in
/-- The lender deposits again, late enough for its deposit to have grown. -/
theorem additions_within_caps_sample :
    ∃ w w' k reserveData, Sample.world.run bounded = some w
      ∧ w.execute (Sample.env (Sample.account 2) (9 * 10 ^ 10))
          (.deposit (Sample.account 100) (Sample.account 2) 900) = .ok w'
      ∧ w'.pool.assetToId.get (Sample.account 100) = some k
      ∧ w'.pool.reserveDatas.get k = some reserveData
      ∧ 1900 < reserveData.totalDeposit ∧ reserveData.totalDeposit ≤ 2000 := by
  have hrun : (Sample.world.run bounded).bind (fun w =>
      (w.execute (Sample.env (Sample.account 2) (9 * 10 ^ 10))
        (.deposit (Sample.account 100) (Sample.account 2) 900)).toOption.bind fun w' =>
      (w'.pool.assetToId.get (Sample.account 100)).bind fun k =>
      (w'.pool.reserveDatas.get k).map (·.totalDeposit)) = some 1911 := by decide +kernel
  obtain ⟨w, hw, hrest⟩ := Option.bind_eq_some_iff.mp hrun
  obtain ⟨w', hw', hrest⟩ := Option.bind_eq_some_iff.mp hrest
  obtain ⟨k, hk, hrest⟩ := Option.bind_eq_some_iff.mp hrest
  obtain ⟨reserveData, hrd, htotal⟩ := Option.map_eq_some_iff.mp hrest
  rw [toOption_eq_some] at hw'
  have hadds : w.Adds .deposit (Sample.account 100)
      (.deposit (Sample.account 100) (Sample.account 2) 900) :=
    ⟨_, _, rfl, _, List.mem_singleton_self _, rfl, rfl⟩
  obtain ⟨k', rd', restrictions, hk', hrd', hrestrictions, hallows⟩ :=
    additions_within_caps Sample.world_isInitial hw hw' hadds
  cases hk.symm.trans hk'
  cases hrd.symm.trans hrd'
  cases hrestrictions
  exact ⟨w, w', k, reserveData, hw, hw', hk, hrd, by omega, hallows 2000 rfl⟩

end World

end AbaxLending
