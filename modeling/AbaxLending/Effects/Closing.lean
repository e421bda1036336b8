import AbaxLending.Effects.RateChange
import AbaxLending.Invariants.Amounts
import AbaxLending.Spec.Ledger

/-!
Closing a position.

A withdrawal or a repayment of `u128::MAX` is clipped to what the account has after the
accrual.  The views `account_deposit_of` and `account_debt_of` make the same accrual on a
copy, so what closing a position returns is what its view shows just before.

* `Step.Closes`: what the closing step of a side does;
* `close_agrees`: closing a position returns the amount of the view, and leaves nothing.
-/

namespace AbaxLending

open Outcome

/-- The operation that takes a side of a position away. -/
def Side.closing : Side → Operation
  | .deposit => .withdraw
  | .debt => .repay

/-- `u128::MAX`. -/
abbrev U128_MAX : ℕ := 2 ^ 128 - 1

/-- What the closing step of a side does after an accrual: it takes all of it, clears its bit,
and posts it to the total of the reserve. -/
structure Step.Closes (side : Side) (ctx : ReserveDataContext) (a : Accrual) (st : Step) :
    Prop where
  amount : st.amount = side.amount a.data
  left : side.amount st.data = 0
  bit : (side.bits st.config).getLsbD ctx.assetId = false
  total : side.total st.ctx.reserveData + st.amount
    = side.total ctx.reserveData + side.interest a

section

variable [Pendzl] {ctx : ReserveDataContext} {data : AccountReserveData} {config : AccountConfig}
  {feeReductions : FeeReductions} {st : Step}

omit [Pendzl] in
/-- An amount in range is what the maximum is clipped to. -/
lemma clip_max {available : ℕ} (h : available < 2 ^ 128) :
    (if available < U128_MAX ∧ true = true then available else U128_MAX) = available := by
  rw [clip_eq_min]
  exact min_eq_right (Nat.le_sub_one_of_lt h)

lemma ReserveDataContext.accountForWithdraw_closes (hdata : data.InRange)
    (h : ctx.accountForWithdraw data config feeReductions U128_MAX true = .ok st) :
    ∃ a, ctx.accrual data feeReductions = .ok a ∧ st.Closes .deposit ctx a := by
  obtain ⟨a, n, ha, hn, -, -, hle, htotal, -, rfl⟩ := accountForWithdraw_ok h
  have hrange := AccountReserveData.accumulateAccountInterest_inRange hdata ha
  rw [clip_max hrange.deposit] at hn
  refine ⟨a, ha, hn, ?_, ?_, ?_⟩
  · show a.data.deposit - n = 0
    omega
  · show (config.afterWithdraw ctx.assetId (n = a.data.deposit) _).deposits.getLsbD ctx.assetId
      = false
    simp [hn]
  · show ctx.reserveData.totalDeposit + a.depositInterest - n + n
      = ctx.reserveData.totalDeposit + a.depositInterest
    omega

lemma ReserveDataContext.accountForRepay_closes (hdata : data.InRange)
    (h : ctx.accountForRepay data config feeReductions U128_MAX true = .ok st) :
    ∃ a, ctx.accrual data feeReductions = .ok a ∧ st.Closes .debt ctx a := by
  obtain ⟨a, n, ha, hn, -, -, hle, htotal, -, -, rfl⟩ := accountForRepay_ok h
  have hrange := AccountReserveData.accumulateAccountInterest_inRange hdata ha
  rw [clip_max hrange.debt] at hn
  refine ⟨a, ha, hn, ?_, ?_, ?_⟩
  · show a.data.debt - n = 0
    omega
  · show (config.afterRepay ctx.assetId (n = a.data.debt)).borrows.getLsbD ctx.assetId = false
    simp [hn]
  · show ctx.reserveData.totalDebt + a.debtInterest - n + n
      = ctx.reserveData.totalDebt + a.debtInterest
    omega

/-- The closing step of a side. -/
lemma Action.step_closes (side : Side) {asset : AccountId} (hdata : data.InRange)
    (h : Action.step ⟨side.closing, asset, U128_MAX⟩ ctx data config feeReductions = .ok st) :
    ∃ a, ctx.accrual data feeReductions = .ok a ∧ st.Closes side ctx a := by
  cases side with
  | deposit => exact ReserveDataContext.accountForWithdraw_closes hdata h
  | debt => exact ReserveDataContext.accountForRepay_closes hdata h

end

namespace LendingPoolStorage

/-- Closing a side of the position of an account in asset `k`: what the accrual `a` makes of
the position is returned, and the total moves by the interest less what is returned. -/
structure Closed [Pendzl] (s s' : LendingPoolStorage) (side : Side) (env : Env)
    (account : AccountId) (k amount : ℕ) : Prop where
  left : side.amount (s'.position account k) = 0
  bit : (side.bits (s'.getAccountConfig account)).getLsbD k = false
  total : ∃ rd rd' r indexes a, s.reserveDatas.get k = some rd
    ∧ s'.reserveDatas.get k = some rd' ∧ s.reserveIndexesAndFees.get k = some r
    ∧ r.indexes.update rd env.blockTimestamp = .ok indexes
    ∧ (s.position account k).accumulateAccountInterest indexes r.fees
      (s.getFeeReductionsOfAccount env account) = .ok a
    ∧ (side.total rd' : ℤ) - side.total rd = side.interest a - amount

variable [Pendzl] {s : LendingPoolStorage} {env : Env} {account asset : AccountId} {k : ℕ}

/-- The accounting of a closing message. -/
theorem accountForAccountActions_closes {side : Side} {res : AccountActionsResult}
    (hrange : s.AmountsInRange) (hk : s.assetToId.get asset = some k)
    (h : s.accountForAccountActions env account [⟨side.closing, asset, U128_MAX⟩] = .ok res) :
    ∃ n, res.actions = [⟨side.closing, asset, n⟩]
      ∧ side.view s env asset account env.blockTimestamp = .ok n
      ∧ s.Closed res.storage side env account k n := by
  obtain ⟨st, hrun, -, hstorage⟩ := accountForAccountActions_ok h
  obtain ⟨action, interests, hstep, hactions, -⟩ := AccountActionsState.applyActions_single hrun
  obtain ⟨j, ctx, r, rd, i, e, hj, hlt, hopen, hr, hrates, haction, -, hst⟩ :=
    AccountActionsState.applyAction_ok hstep
  cases hk.symm.trans hj
  have hstart : (s.startActions account).position k = s.position account k :=
    startActions_position k
  obtain ⟨a, ha, hclose⟩ := Action.step_closes side (hrange account k) (hstart ▸ hr)
  have hlen : k < (s.getAccountDatas account).length := hlt
  have hposition : res.storage.position account k = r.data := by
    rw [hstorage, AccountActionsState.flush_position_self, hst,
      AccountActionsState.position_set hlt, if_pos rfl]
  have hconfig : res.storage.getAccountConfig account = r.config := by
    rw [hstorage, hst, AccountActionsState.flush, getAccountConfig_putAccount_self]
  have hreserve : res.storage.reserveDatas.get k = some rd := by
    rw [hstorage, hst]
    exact Mapping.get_insert_self ..
  have hkeep := side.total_recalculateRates hrates
  refine ⟨r.amount, by rw [hactions, haction], ?_, ?_⟩
  · rw [Side.view_eq_ok]
    exact ⟨a.data, hopen.accruedDataOf hk rfl (.refl _) ha, hclose.amount.symm⟩
  · obtain ⟨r₀, hr₀, hindexes, hfees⟩ := hopen.indexes
    refine ⟨by rw [hposition]; exact hclose.left, ?_, ?_⟩
    · rw [hconfig, ← hopen.assetId]
      exact hclose.bit
    · refine ⟨ctx.reserveData, rd, r₀, _, a, hopen.reserveData, hreserve, hr₀, hindexes,
        hfees ▸ ha, ?_⟩
      have htotal := hclose.total
      rw [hkeep]
      omega

end LendingPoolStorage

namespace World

section

variable [Pendzl] {w w' : World} {env : Env} {asset account : AccountId} {k n t : ℕ}

/-- The messages `withdraw` and `repay` with `u128::MAX`. -/
def close (w : World) (side : Side) (env : Env) (asset onBehalfOf : AccountId) :
    Res (World × ℕ) :=
  match side with
  | .deposit => w.withdraw env asset onBehalfOf U128_MAX
  | .debt => w.repay env asset onBehalfOf U128_MAX

lemma withdraw_ok {amount : ℕ} (h : w.withdraw env asset account amount = .ok (w', n)) :
    ∃ res action, w.pool.accountForAccountActions env account [⟨.withdraw, asset, amount⟩]
        = .ok res
      ∧ w'.pool = res.storage ∧ res.actions[0]? = some action ∧ n = action.amount := by
  simp only [withdraw, bind_eq_ok, unwrap_eq_ok, pure_eq, Except.ok.injEq, Prod.mk.injEq] at h
  obtain ⟨_, -, res, hres, _, -, action, haction, w₁, h₁, _, -, w₂, h₂, w₃, h₃, rfl, rfl⟩ := h
  have hpool := (emitAbacusTokenTransferEventAndDecreaseAllowance_emits h₂).toKeeps.trans
    (emitAbacusTokenTransferEvent_emits h₃).toKeeps
  exact ⟨res, action, hres, ((transferOut_frame h₁).1.trans hpool).pool, haction, rfl⟩

lemma repay_ok {amount : ℕ} (h : w.repay env asset account amount = .ok (w', n)) :
    ∃ res action, w.pool.accountForAccountActions env account [⟨.repay, asset, amount⟩]
        = .ok res
      ∧ w'.pool = res.storage ∧ res.actions[0]? = some action ∧ n = action.amount := by
  simp only [repay, bind_eq_ok, unwrap_eq_ok, pure_eq, Except.ok.injEq, Prod.mk.injEq] at h
  obtain ⟨_, -, res, hres, _, -, action, haction, w₁, h₁, _, -, w₂, h₂, w₃, h₃, rfl, rfl⟩ := h
  have hpool := (emitAbacusTokenTransferEvent_emits h₂).toKeeps.trans
    (emitAbacusTokenTransferEvent_emits h₃).toKeeps
  exact ⟨res, action, hres, ((transferIn_frame h₁).1.trans hpool).pool, haction, rfl⟩

lemma close_ok {side : Side} (h : w.close side env asset account = .ok (w', n)) :
    ∃ res action, w.pool.accountForAccountActions env account
        [⟨side.closing, asset, U128_MAX⟩] = .ok res
      ∧ w'.pool = res.storage ∧ res.actions[0]? = some action ∧ n = action.amount := by
  cases side with
  | deposit => exact withdraw_ok h
  | debt => exact repay_ok h

/-- **Closing a position returns what its view shows.**  In every state of a run without
transfers a withdrawal or a repayment of `u128::MAX` that succeeds returns the amount that
`account_deposit_of` or `account_debt_of` has just before, leaves none of it and clears its
bit, and the total changes by the interest of the account less the amount returned. -/
theorem close_agrees {side : Side} (h : Reachable NoTransfer t w)
    (hk : w.pool.assetToId.get asset = some k)
    (hclose : w.close side env asset account = .ok (w', n)) :
    side.view w.pool env asset account env.blockTimestamp = .ok n
      ∧ w.pool.Closed w'.pool side env account k n := by
  obtain ⟨res, action, hres, hpool, haction, rfl⟩ := close_ok hclose
  obtain ⟨m, hactions, hview, hclosed⟩ :=
    LendingPoolStorage.accountForAccountActions_closes (reachable_amountsInRange h) hk hres
  rw [hactions, List.getElem?_cons_zero, Option.some.injEq] at haction
  rw [← haction, hpool]
  exact ⟨hview, hclosed⟩

end

attribute [local instance] Pendzl.exact in
/-- `account 3` borrowed `200` of the stablecoin; ten units of time later closing the debt
returns `202`, and so does the view. -/
theorem close_agrees_stablecoin :
    ∃ w w', Sample.world.run Sample.stablecoinDebt = some w
      ∧ w.close .debt (Sample.env (Sample.account 3) 11) (Sample.account 102) (Sample.account 3)
        = .ok (w', 202)
      ∧ w.pool.accountDebtOf (Sample.env (Sample.account 3) 11) (Sample.account 102)
        (Sample.account 3) 11 = .ok 202 := by
  have hrun : (Sample.world.run Sample.stablecoinDebt).map (fun w =>
        (w.pool.assetToId.get (Sample.account 102),
          (w.close .debt (Sample.env (Sample.account 3) 11) (Sample.account 102)
            (Sample.account 3)).toOption.map Prod.snd))
      = some (some 2, some 202) := by decide +kernel
  obtain ⟨w, hw, hreach, hv⟩ :=
    run_reaches NoTransfer Sample.world_isInitial (by decide) hrun
  obtain ⟨hk, hclose⟩ := Prod.mk.inj hv
  obtain ⟨⟨w', n⟩, hw', rfl⟩ := Option.map_eq_some_iff.mp hclose
  have hok := toOption_eq_some.mp hw'
  exact ⟨w, w', hw, hok, (close_agrees hreach hk hok).1⟩

end World

end AbaxLending
