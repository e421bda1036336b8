import AbaxLending.Contract.Run
import AbaxLending.Spec.Changes

/-!
No position is invisible to the collateral check.

The check trusts the bitmaps of a config, so the bit of every non-zero amount must
be set.  `Covers config positions` says so for the positions of one account; a basic
step keeps it, because it sets the bit of an amount it increases and clears a bit
only with the whole amount (`Step.KeepsBits`).

* `Covers.update`: a step on one position;
* `BitsAgree`: all accounts of a storage, with its step lemmas for the actions of an
  account and for a liquidation, the self-liquidation included;
* `no_hidden_position`: the invariant of all runs without transfers.
-/

namespace AbaxLending

open Outcome

/-! ### One account -/

/-- The bit of every non-zero amount is set. -/
def Covers (config : AccountConfig) (positions : ℕ → AccountReserveData) : Prop :=
  ∀ k, k < 128 →
    ((positions k).debt ≠ 0 → config.borrows.getLsbD k = true)
    ∧ ((positions k).deposit ≠ 0 → config.deposits.getLsbD k = true)

/-- A step that leaves no amount of asset `k` without its bit and no other bit changed. -/
structure Step.KeepsBits (k : ℕ) (config : AccountConfig) (data : AccountReserveData)
    (st : Step) : Prop where
  debt : (data.debt ≠ 0 → config.borrows.getLsbD k = true) → k < 128 → st.data.debt ≠ 0 →
    st.config.borrows.getLsbD k = true
  deposit : (data.deposit ≠ 0 → config.deposits.getLsbD k = true) → k < 128 →
    st.data.deposit ≠ 0 → st.config.deposits.getLsbD k = true
  borrows : ∀ j, j ≠ k → st.config.borrows.getLsbD j = config.borrows.getLsbD j
  deposits : ∀ j, j ≠ k → st.config.deposits.getLsbD j = config.deposits.getLsbD j

/-- A step on one position keeps the account covered. -/
lemma Covers.update {config : AccountConfig} {positions : ℕ → AccountReserveData} {k : ℕ}
    {st : Step} (h : Covers config positions) (hst : st.KeepsBits k config (positions k)) :
    Covers st.config (Function.update positions k st.data) := by
  intro j hj
  by_cases hjk : j = k
  · subst hjk
    rw [Function.update_self]
    exact ⟨hst.debt (h j hj).1 hj, hst.deposit (h j hj).2 hj⟩
  · rw [Function.update_of_ne hjk, hst.borrows j hjk, hst.deposits j hjk]
    exact h j hj

namespace ReserveDataContext

variable [Pendzl] {ctx : ReserveDataContext} {data : AccountReserveData} {config : AccountConfig}
  {feeReductions : FeeReductions} {amount : ℕ} {canMutateAmount : Bool} {st : Step}

/-- Accruing makes no amount out of nothing. -/
lemma accrual_ne_zero {a : Accrual} (h : ctx.accrual data feeReductions = .ok a) :
    (a.data.deposit ≠ 0 → data.deposit ≠ 0) ∧ (a.data.debt ≠ 0 → data.debt ≠ 0) :=
  ⟨mt (AccountReserveData.accumulateAccountInterest_zero h).1,
    mt (AccountReserveData.accumulateAccountInterest_zero h).2⟩

lemma accountForDeposit_keepsBits
    (h : ctx.accountForDeposit data config feeReductions amount = .ok st) :
    st.KeepsBits ctx.assetId config data := by
  obtain ⟨a, ha, -, -, -, -, rfl⟩ := accountForDeposit_ok h
  constructor
  · intro hbit _ hne
    exact hbit ((accrual_ne_zero ha).2 hne)
  · intro _ hk _
    simp [hk]
  · intro j _
    rfl
  · intro j hj
    simp [hj]

lemma accountForWithdraw_keepsBits
    (h : ctx.accountForWithdraw data config feeReductions amount canMutateAmount = .ok st) :
    st.KeepsBits ctx.assetId config data := by
  obtain ⟨a, n, ha, -, -, -, hn, -, -, rfl⟩ := accountForWithdraw_ok h
  constructor
  · intro hbit _ hne
    rw [AccountConfig.afterWithdraw_borrows]
    exact hbit ((accrual_ne_zero ha).2 hne)
  · intro hbit _ hne
    -- what stays is not the whole deposit, so the bit is not cleared
    have hstay : n ≠ a.data.deposit := fun heq => hne (by simp [heq])
    have hpos : a.data.deposit ≠ 0 := fun hz => hne (by simp [hz])
    simp [hstay, hbit ((accrual_ne_zero ha).1 hpos)]
  · intro j _
    rw [AccountConfig.afterWithdraw_borrows]
  · intro j hj
    simp [hj]

lemma accountForBorrow_keepsBits
    (h : ctx.accountForBorrow data config feeReductions amount = .ok st) :
    st.KeepsBits ctx.assetId config data := by
  obtain ⟨a, ha, -, -, -, -, -, rfl⟩ := accountForBorrow_ok h
  constructor
  · intro _ hk _
    simp [hk]
  · intro hbit _ hne
    exact hbit ((accrual_ne_zero ha).1 hne)
  · intro j hj
    simp [hj]
  · intro j _
    rfl

lemma accountForRepay_keepsBits
    (h : ctx.accountForRepay data config feeReductions amount canMutateAmount = .ok st) :
    st.KeepsBits ctx.assetId config data := by
  obtain ⟨a, n, ha, -, -, -, hn, -, -, -, rfl⟩ := accountForRepay_ok h
  constructor
  · intro hbit _ hne
    have hstay : n ≠ a.data.debt := fun heq => hne (by simp [heq])
    have hpos : a.data.debt ≠ 0 := fun hz => hne (by simp [hz])
    simp [hstay, hbit ((accrual_ne_zero ha).2 hpos)]
  · intro hbit _ hne
    rw [AccountConfig.afterRepay_deposits]
    exact hbit ((accrual_ne_zero ha).1 hne)
  · intro j hj
    simp [hj]
  · intro j _
    rw [AccountConfig.afterRepay_deposits]

end ReserveDataContext

/-- Every basic step keeps the bits. -/
lemma Action.step_keepsBits [Pendzl] {action : Action} {ctx : ReserveDataContext}
    {data : AccountReserveData} {config : AccountConfig} {feeReductions : FeeReductions} {st : Step}
    (h : action.step ctx data config feeReductions = .ok st) :
    st.KeepsBits ctx.assetId config data := by
  obtain ⟨op, asset, amount⟩ := action
  cases op with
  | deposit => exact ReserveDataContext.accountForDeposit_keepsBits h
  | withdraw => exact ReserveDataContext.accountForWithdraw_keepsBits h
  | borrow => exact ReserveDataContext.accountForBorrow_keepsBits h
  | repay => exact ReserveDataContext.accountForRepay_keepsBits h

/-! ### All accounts -/

namespace LendingPoolStorage

/-- Every account is covered. -/
def BitsAgree (s : LendingPoolStorage) : Prop :=
  ∀ a, Covers (s.getAccountConfig a) (s.position a)

namespace BitsAgree

variable {s s' : LendingPoolStorage}

/-- A new pool has no positions. -/
lemma new : BitsAgree LendingPoolStorage.new := by
  intro a k _
  exact ⟨fun h => absurd rfl h, fun h => absurd rfl h⟩

/-- Only the positions and the two bitmaps matter. -/
lemma of_same (h : BitsAgree s) (hposition : s'.position = s.position)
    (hdeposits : ∀ a, (s'.getAccountConfig a).deposits = (s.getAccountConfig a).deposits)
    (hborrows : ∀ a, (s'.getAccountConfig a).borrows = (s.getAccountConfig a).borrows) :
    BitsAgree s' := by
  intro a k hk
  rw [hposition, hdeposits, hborrows]
  exact h a k hk

/-- Messages that keep the books keep the invariant. -/
lemma keepsBooks (h : BitsAgree s) (hk : KeepsBooks s s') : BitsAgree s' :=
  h.of_same (position_congr hk.accountReserveDatas) hk.deposits hk.borrows

/-- So does the registration of an asset. -/
lemma registers {asset : AccountId} (h : BitsAgree s) (hr : Registers s s' asset) :
    BitsAgree s' :=
  h.of_same (position_congr hr.accountReserveDatas)
    (fun _ => by rw [getAccountConfig_congr hr.accountConfigs])
    (fun _ => by rw [getAccountConfig_congr hr.accountConfigs])

/-- An account stored with a covered local copy. -/
lemma putAccount (h : BitsAgree s) {account : AccountId} {v : List (Option AccountReserveData)}
    {config : AccountConfig} (hc : Covers config fun k => v[k]?.join.getD default) :
    BitsAgree (s.putAccount account v config) := by
  intro a
  by_cases ha : a = account
  · subst ha
    have hpos : (s.putAccount a v config).position a = fun k => v[k]?.join.getD default := by
      funext k
      exact position_putAccount_self
    rw [getAccountConfig_putAccount_self, hpos]
    exact hc
  · have hpos : (s.putAccount account v config).position a = s.position a := by
      funext k
      exact position_putAccount_of_ne ha
    rw [getAccountConfig_putAccount_of_ne ha, hpos]
    exact h a

variable [Pendzl]

/-- The actions of an account keep the invariant. -/
lemma accountForAccountActions {env : Env} {account : AccountId} {actions : List Action}
    {res : AccountActionsResult} (h : BitsAgree s)
    (hres : s.accountForAccountActions env account actions = .ok res) :
    BitsAgree res.storage := by
  obtain ⟨st, hrun, -, hs⟩ := accountForAccountActions_ok hres
  -- along the loop the stored accounts stay, and the local copy stays covered
  have hloop : BitsAgree st.storage ∧ Covers st.accountConfig st.position := by
    refine AccountActionsState.applyActions_induct
      (P := fun st => BitsAgree st.storage ∧ Covers st.accountConfig st.position)
      (fun st action st' _ _ hst hact => ?_) hrun ⟨h, ?_⟩
    · obtain ⟨k, ctx, step, rd, i, e, -, hlen, hctx, hstep, -, -, -, rfl⟩ :=
        AccountActionsState.applyAction_ok hact
      have hbits := Action.step_keepsBits hstep
      rw [hctx.assetId] at hbits
      refine ⟨hst.1, ?_⟩
      have hpos : ∀ s c must,
          AccountActionsState.position ⟨s, st.accountDatas.set k (some step.data), c, must⟩
            = Function.update st.position k step.data := by
        intro s c must
        funext j
        rw [AccountActionsState.position_set hlen, Function.update_apply]
      rw [hpos]
      exact hst.2.update hbits
    · have hpos : (s.startActions account).position = s.position account := by
        funext k
        exact startActions_position k
      rw [hpos]
      exact h account
  rw [hs]
  exact hloop.1.putAccount hloop.2

/-- **A liquidation keeps the invariant**, also when an account liquidates itself: then
the caller's copy is stored, which only gained a deposit. -/
lemma accountForLiquidate {env : Env} {caller liquidated assetToRepay assetToTake : AccountId}
    {amount t : ℕ} {res : LiquidateResult} (h : BitsAgree s)
    (hres : s.accountForLiquidate env caller liquidated assetToRepay assetToTake amount t
      = .ok res) : BitsAgree res.storage := by
  obtain ⟨r, rfl⟩ := accountForLiquidate_ok hres
  have hpaid := ReserveDataContext.accountForRepay_keepsBits r.paid_ok
  have hfirst := ReserveDataContext.accountForWithdraw_keepsBits r.first_ok
  have hsecond := ReserveDataContext.accountForDeposit_keepsBits r.second_ok
  have hctx : r.first.ctx.assetId = r.k := by
    rw [ReserveDataContext.accountForWithdraw_assetId r.first_ok]
    exact r.opened.assetId
  rw [r.repayOpened.assetId] at hpaid
  rw [r.opened.assetId] at hfirst
  rw [hctx] at hsecond
  obtain ⟨_, _, _, _, hmid⟩ := r.mid_eq
  have hbase : BitsAgree (r.reserveWritten r.mid) := by
    rw [hmid]
    exact h
  -- the liquidated account after the repayment and after the withdrawal
  have hrange : r.repayId < (s.getAccountDatas liquidated).length :=
    (List.getElem?_eq_some_iff.mp r.dataToRepay_eq).1
  have hdata : s.position liquidated r.repayId = r.dataToRepay := by
    rw [position, ← getAccountDatas_join, r.dataToRepay_eq]
    rfl
  have hafterPaid : Covers r.paid.config
      (Function.update (s.position liquidated) r.repayId r.paid.data) :=
    (h liquidated).update (hdata ▸ hpaid)
  have hposPaid : ∀ j, ((s.getAccountDatas liquidated).set r.repayId
      (some r.paid.data))[j]?.join.getD default
        = Function.update (s.position liquidated) r.repayId r.paid.data j := by
    intro j
    rw [getElem?_set_join _ hrange, Function.update_apply, getAccountDatas_join, position]
    split_ifs <;> rfl
  have hdataToTake : Function.update (s.position liquidated) r.repayId r.paid.data r.k
      = r.dataToTake := by
    rw [← hposPaid, r.dataToTake_eq]
    rfl
  have hrange' : r.k < ((s.getAccountDatas liquidated).set r.repayId (some r.paid.data)).length :=
    (List.getElem?_eq_some_iff.mp r.dataToTake_eq).1
  have hliquidated : Covers r.first.config fun j =>
      (((s.getAccountDatas liquidated).set r.repayId (some r.paid.data)).set r.k
        (some r.first.data))[j]?.join.getD default := by
    have hcover := hafterPaid.update (hdataToTake ▸ hfirst)
    convert hcover using 1
    funext j
    rw [getElem?_set_join _ hrange', Function.update_apply, ← hposPaid]
    split_ifs <;> rfl
  -- the caller, from its own copies
  have hcaller : Covers r.second.config fun j =>
      ((s.getAccountDatas caller).set r.k (some r.second.data))[j]?.join.getD default := by
    have hcover := (h caller).update hsecond
    convert hcover using 1
    funext j
    rw [getElem?_set_join _ r.callerInRange, Function.update_apply, getAccountDatas_join, position]
    split_ifs <;> rfl
  exact (hbase.putAccount hliquidated).putAccount hcaller

end BitsAgree

end LendingPoolStorage

/-! ### Runs -/

namespace World

section

variable [Pendzl]

/-- The messages other than the transfers of the two tokens. -/
def NoTransfer (message : Message) : Prop := message.isTransfer = false

instance : DecidablePred NoTransfer := fun _ => inferInstanceAs (Decidable (_ = _))

/-- The step lemma of the bits. -/
lemma execute_bitsAgree {w w' : World} {env : Env} {message : Message} (h : w.pool.BitsAgree)
    (hkind : NoTransfer message) (hex : w.execute env message = .ok w') : w'.pool.BitsAgree := by
  cases execute_change hex with
  | actions account actions res _ hres hs => exact hs ▸ h.accountForAccountActions hres
  | quiet hk => exact h.keepsBooks hk
  | register asset _ hr => exact h.registers hr
  | liquidate liquidated assetToRepay assetToTake amount res _ hres hs =>
      exact hs ▸ h.accountForLiquidate hres
  | move _ _ _ _ _ hm => exact absurd hm (by simp [show message.isTransfer = false from hkind])

/-- **No debt is invisible to the collateral check**: in every state that runs without
transfers reach, the bit of every non-zero debt and of every non-zero deposit is set. -/
theorem no_hidden_position {t : ℕ} {w : World} (h : Reachable NoTransfer t w) (a : AccountId)
    {k : ℕ} (hk : k < 128) :
    ((w.pool.position a k).debt ≠ 0 → (w.pool.getAccountConfig a).borrows.getLsbD k = true)
    ∧ ((w.pool.position a k).deposit ≠ 0 →
        (w.pool.getAccountConfig a).deposits.getLsbD k = true) := by
  have hagree : w.pool.BitsAgree := by
    refine TimedRun.Reach.invariant (P := fun w => w.pool.BitsAgree) (fun w hw => ?_)
      (fun t w w' hP hstep => ?_) h
    · rw [hw.1]
      exact .new
    · obtain ⟨env, message, -, hkind, hex⟩ := hstep
      exact execute_bitsAgree hP hkind hex
  exact hagree a k hk

end

attribute [local instance] Pendzl.exact in
/-- After a deposit into the sample pool the bit of the deposit is set. -/
theorem no_hidden_position_deposit :
    ∃ w, Sample.world.run (Sample.setup ++
        [Sample.send 2 1 fun a => .deposit (Sample.account 100) a 500]) = some w
      ∧ (w.pool.getAccountConfig (Sample.account 2)).deposits.getLsbD 0 = true := by
  have hrun : (Sample.world.run (Sample.setup ++
        [Sample.send 2 1 fun a => .deposit (Sample.account 100) a 500])).map
      (fun w => (w.pool.position (Sample.account 2) 0).deposit) = some 500 := by decide +kernel
  obtain ⟨w, hw, hreach, hd⟩ :=
    run_reaches NoTransfer Sample.world_isInitial (by decide) hrun
  exact ⟨w, hw, (no_hidden_position hreach _ (by decide)).2 (by simp [hd])⟩

end World

end AbaxLending
