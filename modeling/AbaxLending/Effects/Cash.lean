import AbaxLending.Effects.Payout
import AbaxLending.Effects.Postings
import AbaxLending.Invariants.Occupied
import AbaxLending.Spec.Replays
import AbaxLending.Spec.Worth

/-!
Where the underlying tokens of the pool come from and go.

Every message has the tokens moved that its entries in the books stand for.

* `netInflow`: what the calls of the pool have brought in of an asset, less what they have
  taken out;
* `interestPosted`, `incomePaid`: what a message adds to the books, and what it pays out,
  without a move on the other side;
* `execute_cash`: a message brings in what it posts to the deposits less what it posts to
  the debts, up to interest and income;
* `execute_total`: the totals move by what is posted, also for an asset that is not
  registered.
-/

namespace AbaxLending

open Outcome Book

/-- What a call to an underlying token brings into the pool; what it takes out counts
negative. -/
def PSP22Call.inflow : PSP22Call → ℤ
  | .transferFrom _ _ amount | .burn _ amount => amount
  | .transfer _ amount | .mint _ amount => -amount

namespace World

/-- What the calls of the pool so far have brought in of an asset. -/
def netInflow (w : World) (asset : AccountId) : ℤ :=
  (w.calls.map fun call => if call.1 = asset then call.2.inflow else 0).sum

variable {w w' : World} {env : Env} {asset : AccountId}

/-! ### Calls -/

lemma netInflow_congr (h : w'.calls = w.calls) : w'.netInflow asset = w.netInflow asset := by
  rw [netInflow, netInflow, h]

/-- One more call. -/
lemma invoke_netInflow {other : AccountId} {call : PSP22Call}
    (h : w.invoke env other call = .ok w') :
    w'.netInflow asset = w.netInflow asset + if other = asset then call.inflow else 0 := by
  obtain ⟨balances, -, rfl⟩ := invoke_ok h
  simp only [netInflow, List.map_append, List.sum_append, List.map_cons, List.map_nil,
    List.sum_cons, List.sum_nil, add_zero]

lemma transferIn_netInflow {other account : AccountId} {amount : ℕ}
    (h : w.transferIn env other account amount = .ok w') :
    w'.netInflow asset = w.netInflow asset + if other = asset then (amount : ℤ) else 0 := by
  obtain ⟨k, -, hcall⟩ := transferIn_ok h
  rw [invoke_netInflow hcall]
  split_ifs <;> rfl

lemma transferOut_netInflow {other account : AccountId} {amount : ℕ}
    (h : w.transferOut env other account amount = .ok w') :
    w'.netInflow asset = w.netInflow asset + if other = asset then -(amount : ℤ) else 0 := by
  obtain ⟨k, -, hcall⟩ := transferOut_ok h
  rw [invoke_netInflow hcall]
  split_ifs <;> rfl

/-! ### The actions of an account -/

/-- The step lemma of the cash of a message. -/
lemma settleAction_netInflow {onBehalfOf : AccountId} {first : ℕ} {action : Action}
    {interests : ℕ × ℕ} (h : w.settleAction env onBehalfOf first action interests = .ok w') :
    w'.netInflow asset = w.netInflow asset + if action.asset = asset then action.inflow else 0 := by
  obtain ⟨op, other, amount⟩ := action
  simp only [settleAction, bind_eq_ok] at h
  obtain ⟨tokens, -, h⟩ := h
  cases op with
  | deposit =>
      simp only [bind_eq_ok] at h
      obtain ⟨w₁, hin, minted, -, w₂, hemit, hlast⟩ := h
      rw [netInflow_congr (emitAbacusTokenTransferEvent_emits hlast).calls,
        netInflow_congr (emitAbacusTokenTransferEvent_emits hemit).calls, transferIn_netInflow hin]
      rfl
  | withdraw =>
      simp only [bind_eq_ok] at h
      obtain ⟨w₁, hout, w₂, hcharge, hemit⟩ := h
      rw [netInflow_congr (emitAbacusTokenTransferEvent_emits hemit).calls,
        netInflow_congr (emitAbacusTokenTransferEventAndDecreaseAllowance_emits hcharge).calls,
        transferOut_netInflow hout]
      rfl
  | borrow =>
      simp only [bind_eq_ok] at h
      obtain ⟨w₁, hout, w₂, hemit, minted, -, hcharge⟩ := h
      rw [netInflow_congr (emitAbacusTokenTransferEventAndDecreaseAllowance_emits hcharge).calls,
        netInflow_congr (emitAbacusTokenTransferEvent_emits hemit).calls,
        transferOut_netInflow hout]
      rfl
  | repay =>
      simp only [bind_eq_ok] at h
      obtain ⟨w₁, hin, w₂, hemit, hlast⟩ := h
      rw [netInflow_congr (emitAbacusTokenTransferEvent_emits hlast).calls,
        netInflow_congr (emitAbacusTokenTransferEvent_emits hemit).calls, transferIn_netInflow hin]
      rfl

/-- The run lemma of the cash of a message. -/
lemma settleActions_netInflow {onBehalfOf : AccountId} {first : ℕ} {l : List (Action × (ℕ × ℕ))}
    (h : w.settleActions env onBehalfOf first l = .ok w') :
    w'.netInflow asset = w.netInflow asset + sumOn asset (fun action _ => action.inflow) l := by
  induction l generalizing w with
  | nil =>
      simp only [settleActions, Except.ok.injEq] at h
      rw [h, sumOn_nil, add_zero]
  | cons head rest ih =>
      obtain ⟨action, interests⟩ := head
      simp only [settleActions, bind_eq_ok] at h
      obtain ⟨w₁, hfirst, hrest⟩ := h
      rw [ih hrest, settleAction_netInflow hfirst, sumOn_cons, add_assoc]

/-- What an action brings in is what it moves on the side of the deposits, less what it moves
on the side of the debts. -/
lemma sumOn_inflow (asset : AccountId) (l : List (Action × (ℕ × ℕ))) :
    sumOn asset (fun action _ => action.inflow) l
      = (sumOn asset (Side.deposit.change) l - sumOn asset (Side.debt.change) l)
        - (sumOn asset (fun _ interests => Side.deposit.pick interests) l
          - sumOn asset (fun _ interests => Side.debt.pick interests) l) := by
  have hmoved : ∀ action : Action, action.inflow
      = Side.deposit.move action.op action.amount - Side.debt.move action.op action.amount := by
    rintro ⟨op, other, amount⟩
    cases op <;> simp [Action.inflow, Side.move]
  induction l with
  | nil => rfl
  | cons head rest ih =>
      simp only [sumOn_cons]
      rw [ih, hmoved head.1, Side.change, Side.change]
      split_ifs <;> ring

/-! ### Liquidations and incomes -/

/-- The second loop of `take_protocol_income` takes out its entries. -/
lemma payIncome_netInflow {toAccount : AccountId} {l : List (AccountId × ℕ)}
    (h : w.payIncome env toAccount l = .ok w') :
    w'.netInflow asset = w.netInflow asset - sumFor asset l := by
  induction l generalizing w with
  | nil =>
      simp only [payIncome, Except.ok.injEq] at h
      rw [h, sumFor, Nat.cast_zero, sub_zero]
  | cons entry rest ih =>
      obtain ⟨head, amount⟩ := entry
      simp only [payIncome, bind_eq_ok] at h
      obtain ⟨w₁, hout, hrest⟩ := h
      rw [ih hrest, transferOut_netInflow hout, sumFor]
      split_ifs <;> push_cast <;> ring

variable [Pendzl]

/-- A liquidation brings in the repaid amount. -/
lemma liquidate_netInflow {x toRepay toTake : AccountId} {amount minimum : ℕ} {amounts : ℕ × ℕ}
    (h : w.liquidate env x toRepay toTake amount minimum = .ok (w', amounts)) :
    w'.netInflow asset = w.netInflow asset + if toRepay = asset
      then ((min amount (w.pool.ledgerOf env x env.blockTimestamp asset).debt : ℕ) : ℤ) else 0 := by
  simp only [liquidate, bind_eq_ok, pure_eq, Except.ok.injEq, Prod.mk.injEq] at h
  obtain ⟨-, -, res, hres, received, -, -, -, w₁, hin, tokensToRepay, -, w₂, hemit₂, w₃, hemit₃,
    tokensToTake, -, sum, -, w₄, hemit₄, w₅, hemit₅, rfl, -⟩ := h
  obtain ⟨r, rfl⟩ := LendingPoolStorage.accountForLiquidate_ok hres
  obtain ⟨b, hb, hamount, -⟩ := r.repaid
  rw [netInflow_congr (emitAbacusTokenTransferEvents_emits hemit₅).calls,
    netInflow_congr (emitAbacusTokenTransferEvents_emits hemit₄).calls,
    netInflow_congr (emitAbacusTokenTransferEvent_emits hemit₃).calls,
    netInflow_congr (emitAbacusTokenTransferEvent_emits hemit₂).calls, transferIn_netInflow hin]
  split_ifs with hasset
  · subst hasset
    rw [LendingPoolStorage.ledgerOf_debt hb, hamount]
    rfl
  · rfl

/-! ### Messages -/

/-- The interest that a message posts to a side of an asset. -/
def interestPosted (w : World) (env : Env) (side : Side) (asset : AccountId) : Message → ℤ
  | .liquidate liquidatedAccount assetToRepay assetToTake _ _ =>
      (if assetToRepay = asset then
          w.pool.due env side asset liquidatedAccount env.blockTimestamp else 0)
      + (if assetToTake = asset then
          (if assetToTake = assetToRepay then 0
            else w.pool.due env side asset liquidatedAccount env.blockTimestamp)
          + w.pool.due env side asset env.caller env.blockTimestamp
        else 0)
  | .transfer token toAccount _ => w.transferPosted env side asset token env.caller toAccount
  | .transferFrom token fromAccount toAccount _ =>
      w.transferPosted env side asset token fromAccount toAccount
  | message =>
      match message.userActions with
      | some (account, actions) =>
          sumOn asset (fun _ interests => side.pick interests) (w.settlementsOf env account actions)
      | none => 0

omit [Pendzl] in
/-- The protocol income of an asset that a message pays out. -/
def incomePaid (w : World) (asset : AccountId) : Message → ℕ
  | .takeProtocolIncome assets _ =>
      match w.incomeAssets assets with
      | .ok list => sumFor asset
          ((incomesOf w.pool.earnedOf list).takeWhile fun income => 0 < income.2)
      | .error _ => 0
  | _ => 0

/-- What a message with actions posts and pays. -/
lemma posted_of_userActions (w : World) (env : Env) (asset : AccountId) {message : Message}
    {account : AccountId} {actions : List Action}
    (hm : message.userActions = some (account, actions)) (side : Side) :
    w.posted env side asset message = sumOn asset side.change (w.settlementsOf env account actions)
      ∧ w.interestPosted env side asset message
        = sumOn asset (fun _ interests => side.pick interests)
          (w.settlementsOf env account actions)
      ∧ w.incomePaid asset message = 0 := by
  cases message <;> simp only [Message.userActions, reduceCtorEq, Option.some.injEq,
    Prod.mk.injEq] at hm
  all_goals
    obtain ⟨rfl, rfl⟩ := hm
    exact ⟨rfl, rfl, rfl⟩

/-- What a message without moves posts is interest. -/
lemma posted_of_quiet (w : World) (env : Env) (asset : AccountId) {message : Message}
    (hquiet : message.usesFunds = false) (side : Side) :
    w.posted env side asset message = w.interestPosted env side asset message
      ∧ w.incomePaid asset message = 0 := by
  cases message <;> simp only [Message.usesFunds, reduceCtorEq] at hquiet
  all_goals exact ⟨rfl, rfl⟩

/-- **What a message brings in**: what it posts to the deposits less what it posts to the
debts, without the interest on both sides, less the income that it pays out. -/
theorem execute_cash {message : Message} (asset : AccountId) (hl : w.Linked)
    (hex : w.execute env message = .ok w') :
    w'.netInflow asset = w.netInflow asset
      + (w.posted env .deposit asset message - w.posted env .debt asset message)
      - (w.interestPosted env .deposit asset message - w.interestPosted env .debt asset message)
      - w.incomePaid asset message := by
  by_cases hquiet : message.usesFunds = false
  · have hcalls : w'.calls = w.calls :=
      congrArg Funds.calls ((execute_overlooks hex hquiet).funds hex)
    obtain ⟨hdeposit, hpaid⟩ := posted_of_quiet w env asset hquiet .deposit
    obtain ⟨hdebt, -⟩ := posted_of_quiet w env asset hquiet .debt
    rw [netInflow_congr hcalls, hdeposit, hdebt, hpaid]
    push_cast
    ring
  cases hm : message.userActions with
  | some p =>
      obtain ⟨account, actions⟩ := p
      obtain ⟨res, l, hres, hzip, -, hloop⟩ := execute_settles hl.ids hm hex
      obtain ⟨hsettled, -, -⟩ :=
        LendingPoolStorage.accountForAccountActions_settlements hl.ids hres
      have hlist : l = w.settlementsOf env account actions := hzip.trans hsettled
      obtain ⟨hdeposit, hdeposit', hpaid⟩ :=
        posted_of_userActions w env asset hm .deposit
      obtain ⟨hdebt, hdebt', -⟩ :=
        posted_of_userActions w env asset hm .debt
      have hstart : (w.withPool res.storage).netInflow asset = w.netInflow asset := rfl
      rw [settleActions_netInflow hloop, sumOn_inflow, hstart, hlist, hdeposit, hdebt, hdeposit',
        hdebt', hpaid]
      push_cast
      ring
  | none =>
      cases message <;>
        simp only [Message.usesFunds, Message.userActions, not_true_eq_false, reduceCtorEq]
          at hquiet hm
      case liquidate x toRepay toTake amount minimum =>
        obtain ⟨amounts, h⟩ := exists_of_fst_eq_ok (mapErr_eq_ok.mp hex)
        rw [liquidate_netInflow h]
        simp only [posted, interestPosted, incomePaid, Side.debtOnly]
        split_ifs <;> push_cast <;> ring
      case setAsCollateral asset' use =>
        have hcalls : w'.calls = w.calls := by
          simp only [execute, mapErr_eq_ok, setAsCollateral, bind_eq_ok] at hex
          obtain ⟨registrar, -, pool, -, hex⟩ := hex
          split_ifs at hex
          · simp only [bind_eq_ok, pure_eq, Except.ok.injEq] at hex
            obtain ⟨_, _, rfl⟩ := hex
            rfl
          · simp only [pure_eq, Except.ok.injEq] at hex
            exact hex ▸ rfl
        rw [netInflow_congr hcalls]
        simp [posted, interestPosted, incomePaid, Message.userActions]
      case takeProtocolIncome assets toAccount =>
        obtain ⟨incomes, h⟩ := exists_of_fst_eq_ok (mapErr_eq_ok.mp hex)
        simp only [takeProtocolIncome, bind_eq_ok, pure_eq, Except.ok.injEq, Prod.mk.injEq,
          Prod.exists] at h
        obtain ⟨-, -, list, hlist, pool, l, hclear, w₁, hpay, rfl, rfl⟩ := h
        obtain ⟨hincomes, -⟩ := LendingPoolStorage.takeProtocolIncome_incomes hl.ids hclear
        have hstart : (w.withPool pool).netInflow asset = w.netInflow asset := rfl
        rw [payIncome_netInflow hpay, hstart, hincomes]
        simp [posted, interestPosted, incomePaid, Message.userActions, hlist]

/-! ### Totals -/

omit [Pendzl] in
/-- The total of an asset on a side; an asset that is not registered has none. -/
def total (w : World) (side : Side) (asset : AccountId) : ℕ :=
  match w.pool.assetToId.get asset with
  | some k => ((w.pool.reserveDatas.get k).map side.total).getD 0
  | none => 0

omit [Pendzl] in
lemma total_of_get {side : Side} {k : ℕ} {rd : ReserveData}
    (hk : w.pool.assetToId.get asset = some k) (hrd : w.pool.reserveDatas.get k = some rd) :
    w.total side asset = side.total rd := by
  rw [total, hk]
  simp only [hrd, Option.map_some, Option.getD_some]

/-- The transfer of a token needs a registered asset. -/
lemma transferPosted_of_unregistered {tokenAddress fromAccount toAccount : AccountId}
    {token : AbacusToken} {amount : ℕ} {s' : LendingPoolStorage}
    (h : TokenMove env tokenAddress token fromAccount toAccount amount w.pool s')
    (htoken : w.tokens.get tokenAddress = some token)
    (hk : w.pool.assetToId.get asset = none) (side : Side) :
    w.transferPosted env side asset tokenAddress fromAccount toAccount = 0 := by
  have hregistered : ∃ k, w.pool.assetToId.get token.underlyingAsset = some k := by
    refine h.rule (P := fun _ => ∃ k, w.pool.assetToId.get token.underlyingAsset = some k)
      (fun res hres => ?_) fun res hres => ?_
    · obtain ⟨r, -⟩ := LendingPoolStorage.accountForDepositTransferFromTo_ok hres
      exact ⟨r.k, r.registered⟩
    · obtain ⟨r, -⟩ := LendingPoolStorage.accountForDebtTransferFromTo_ok hres
      exact ⟨r.k, r.registered⟩
  obtain ⟨k, hunderlying⟩ := hregistered
  have hne : token.underlyingAsset ≠ asset := by
    rintro rfl
    rw [hk] at hunderlying
    cases hunderlying
  simp only [transferPosted, htoken, if_neg hne]

/-- Nothing is posted for an asset that is not registered. -/
lemma posted_of_unregistered {message : Message} (hl : w.Linked)
    (hk : w.pool.assetToId.get asset = none) (hex : w.execute env message = .ok w') (side : Side) :
    w.posted env side asset message = 0 := by
  cases hm : message.userActions with
  | some p =>
      obtain ⟨account, actions⟩ := p
      obtain ⟨res, hres, -⟩ := execute_userActions hex hm
      obtain ⟨hsettled, -, hregistered⟩ :=
        LendingPoolStorage.accountForAccountActions_settlements hl.ids hres
      rw [(posted_of_userActions w env asset hm side).1]
      refine sumOn_of_not_mem fun p hp hasset => ?_
      obtain ⟨k, hp⟩ := hregistered p (hsettled.symm ▸ hp)
      rw [hasset, hk] at hp
      cases hp
  | none =>
      have hstep := (execute_frame hex).1
      cases message with
      | liquidate x toRepay toTake amount minimum =>
          obtain ⟨res, hres, -⟩ := hstep
          obtain ⟨r, -⟩ := LendingPoolStorage.accountForLiquidate_ok hres
          have hrepay : toRepay ≠ asset := by
            rintro rfl
            cases hk.symm.trans r.registeredRepay
          have htake : toTake ≠ asset := by
            rintro rfl
            cases hk.symm.trans r.registeredTake
          simp only [posted, if_neg hrepay, if_neg htake, add_zero]
      | transfer token toAccount value =>
          obtain ⟨t, htoken, hmove⟩ := hstep
          exact transferPosted_of_unregistered hmove htoken hk side
      | transferFrom token fromAccount toAccount value =>
          obtain ⟨t, htoken, hmove⟩ := hstep
          exact transferPosted_of_unregistered hmove htoken hk side
      | deposit | withdraw | borrow | repay | multiOp => cases hm
      | _ => rfl

/-- **The totals move by what is posted**, also while an asset is not registered. -/
theorem execute_total {message : Message} (hl : w.Linked) (hocc : w.pool.Occupied)
    (hex : w.execute env message = .ok w') (side : Side) (asset : AccountId) :
    (w'.total side asset : ℤ) = w.total side asset + w.posted env side asset message := by
  cases hk : w.pool.assetToId.get asset with
  | some k =>
      obtain ⟨rd, r, hrd, -⟩ := hocc.reserve hl.ids hk
      obtain ⟨rd', hrd', hposts⟩ := execute_posts hl hk hrd hex
      rw [total_of_get (execute_assetToId hex hk) hrd', total_of_get hk hrd]
      exact hposts.total side
  | none =>
      have hzero : w.total side asset = 0 := by rw [total, hk]
      rw [posted_of_unregistered hl hk hex side, hzero, total]
      cases hm : message.registers with
      | none => rw [(execute_keepsRegistry hex hm).assetToId, hk]; rfl
      | some other =>
          obtain ⟨hr, -⟩ := execute_registers hex hm
          by_cases hasset : asset = other
          · simp only [hr.assetToId, hr.reserveDatas, hasset, Mapping.get_insert_self,
              Option.map_some, Option.getD_some]
            cases side <;> rfl
          · rw [hr.assetToId, Mapping.get_insert_of_ne _ hasset, hk]
            rfl

end World

end AbaxLending
