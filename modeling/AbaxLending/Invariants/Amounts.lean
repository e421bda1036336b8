import AbaxLending.Invariants.Slots

/-!
Every stored amount is a 128-bit amount.

The amounts of an entry are natural numbers here; in the source they are `Balance`, and a
step that would leave more is an overflow.  Only the accrual and the two increases raise an
amount, and all of them are checked.

* `AccountReserveData.InRange`: both amounts of an entry fit;
* `accumulateAccountInterest_inRange`, `Action.step_inRange`: the accrual and the four basic
  steps keep it;
* `reachable_amountsInRange`: it holds in every state that runs without transfers reach.
-/

namespace AbaxLending

open Outcome

/-- Both amounts of an entry are 128-bit amounts. -/
structure AccountReserveData.InRange (data : AccountReserveData) : Prop where
  deposit : data.deposit < 2 ^ 128
  debt : data.debt < 2 ^ 128

lemma AccountReserveData.inRange_default : (default : AccountReserveData).InRange where
  deposit := Nat.two_pow_pos 128
  debt := Nat.two_pow_pos 128

section

variable [Pendzl]

namespace AccountReserveData

variable {self : AccountReserveData} {indexes : ReserveIndexes} {fees : ReserveFees}

/-- A deposit accrues at most its value before the fee, which is computed in 128 bits. -/
lemma accumulateDeposit_lt {reduction : ℕ} {r : SideAccrual} (hself : self.deposit < 2 ^ 128)
    (h : self.accumulateDeposit indexes fees reduction = .ok r) : r.amount < 2 ^ 128 := by
  unfold accumulateDeposit at h
  split_ifs at h
  · simp only [e0MulE18DivE18ToE0Rdown, bind_eq_ok, mulDiv_eq_ok, okOr_eq_ok, checkedSub_eq_some,
      pure_eq, Except.ok.injEq] at h
    obtain ⟨withFee, ⟨-, -, hfits⟩, interest, -, fee, -, amount, hamount, -, -, -, -, rfl⟩ := h
    show amount < 2 ^ 128
    omega
  · cases h
    exact hself

/-- The fee is added to a debt in 128 bits. -/
lemma accumulateDebt_lt {reduction : ℕ} {r : SideAccrual} (hself : self.debt < 2 ^ 128)
    (h : self.accumulateDebt indexes fees reduction = .ok r) : r.amount < 2 ^ 128 := by
  unfold accumulateDebt at h
  split_ifs at h
  · simp only [bind_eq_ok, okOr_eq_ok, checkedAdd_eq_some, pure_eq, Except.ok.injEq] at h
    obtain ⟨withNoFee, -, interest, -, fee, -, amount, ⟨hamount, hfits⟩, -, -, -, -, rfl⟩ := h
    show amount < 2 ^ 128
    omega
  · cases h
    exact hself

/-- **An accrual leaves amounts in range.** -/
theorem accumulateAccountInterest_inRange {reductions : FeeReductions} {r : Accrual}
    (hself : self.InRange)
    (h : self.accumulateAccountInterest indexes fees reductions = .ok r) : r.data.InRange := by
  unfold accumulateAccountInterest at h
  split_ifs at h
  · cases h
    exact hself
  · simp only [bind_eq_ok, pure_eq, Except.ok.injEq] at h
    obtain ⟨p, hp, q, hq, rfl⟩ := h
    exact ⟨accumulateDeposit_lt hself.deposit hp, accumulateDebt_lt hself.debt hq⟩

end AccountReserveData

namespace ReserveDataContext

variable {ctx : ReserveDataContext} {data : AccountReserveData} {config : AccountConfig}
  {feeReductions : FeeReductions} {amount : ℕ} {canMutateAmount : Bool} {st : Step}

lemma accountForDeposit_inRange (hdata : data.InRange)
    (h : ctx.accountForDeposit data config feeReductions amount = .ok st) : st.data.InRange := by
  simp only [accountForDeposit, bind_eq_ok] at h
  obtain ⟨-, -, -, -, r, hr, h⟩ := h
  obtain ⟨a, ha, rfl⟩ := settle_ok hr
  have hrange := AccountReserveData.accumulateAccountInterest_inRange hdata ha
  simp only [AccountReserveData.increaseAccountDeposit, bind_eq_ok, okOr_eq_ok,
    checkedAdd_eq_some, pure_eq, Except.ok.injEq] at h
  obtain ⟨posting, ⟨mask, -, deposit, ⟨hdeposit, hfits⟩, rd, -, rfl⟩, -, -, rfl⟩ := h
  exact ⟨hdeposit ▸ hfits, hrange.debt⟩

lemma accountForBorrow_inRange (hdata : data.InRange)
    (h : ctx.accountForBorrow data config feeReductions amount = .ok st) : st.data.InRange := by
  simp only [accountForBorrow, bind_eq_ok] at h
  obtain ⟨-, -, -, -, r, hr, h⟩ := h
  obtain ⟨a, ha, rfl⟩ := settle_ok hr
  have hrange := AccountReserveData.accumulateAccountInterest_inRange hdata ha
  simp only [AccountReserveData.increaseAccountDebt, bind_eq_ok, okOr_eq_ok,
    checkedAdd_eq_some, pure_eq, Except.ok.injEq] at h
  obtain ⟨posting, ⟨mask, -, debt, ⟨hdebt, hfits⟩, rd, -, rfl⟩, -, -, -, -, rfl⟩ := h
  exact ⟨hrange.deposit, hdebt ▸ hfits⟩

lemma accountForWithdraw_inRange (hdata : data.InRange)
    (h : ctx.accountForWithdraw data config feeReductions amount canMutateAmount = .ok st) :
    st.data.InRange := by
  obtain ⟨a, n, ha, -, -, -, -, -, -, rfl⟩ := accountForWithdraw_ok h
  have hrange := AccountReserveData.accumulateAccountInterest_inRange hdata ha
  exact ⟨(Nat.sub_le _ _).trans_lt hrange.deposit, hrange.debt⟩

lemma accountForRepay_inRange (hdata : data.InRange)
    (h : ctx.accountForRepay data config feeReductions amount canMutateAmount = .ok st) :
    st.data.InRange := by
  obtain ⟨a, n, ha, -, -, -, -, -, -, -, rfl⟩ := accountForRepay_ok h
  have hrange := AccountReserveData.accumulateAccountInterest_inRange hdata ha
  exact ⟨hrange.deposit, (Nat.sub_le _ _).trans_lt hrange.debt⟩

end ReserveDataContext

/-- **A basic step leaves amounts in range.** -/
theorem Action.step_inRange {action : Action} {ctx : ReserveDataContext}
    {data : AccountReserveData} {config : AccountConfig} {feeReductions : FeeReductions} {st : Step}
    (hdata : data.InRange) (h : action.step ctx data config feeReductions = .ok st) :
    st.data.InRange := by
  unfold Action.step at h
  cases hop : action.op <;> simp only [hop] at h
  · exact ReserveDataContext.accountForDeposit_inRange hdata h
  · exact ReserveDataContext.accountForWithdraw_inRange hdata h
  · exact ReserveDataContext.accountForBorrow_inRange hdata h
  · exact ReserveDataContext.accountForRepay_inRange hdata h

end

/-! ### The stored entries -/

namespace LendingPoolStorage

/-- Every stored amount is a 128-bit amount. -/
def AmountsInRange (s : LendingPoolStorage) : Prop := ∀ a k, (s.position a k).InRange

lemma AmountsInRange.new : AmountsInRange LendingPoolStorage.new := fun _ _ =>
  AccountReserveData.inRange_default

variable [Pendzl] {s : LendingPoolStorage} {env : Env} {account : AccountId}

/-- The actions of one account keep it. -/
lemma AmountsInRange.accountForAccountActions {actions : List Action}
    {res : AccountActionsResult} (h : s.AmountsInRange)
    (hres : s.accountForAccountActions env account actions = .ok res) :
    res.storage.AmountsInRange := by
  obtain ⟨st, hrun, -, hstorage⟩ := accountForAccountActions_ok hres
  have hkeep := (AccountActionsState.applyActions_keepsAccounts hrun).1
  have hstart : ∀ k, ((s.startActions account).position k).InRange := fun k => by
    rw [startActions_position]
    exact h account k
  have hdatas : ∀ k, (st.position k).InRange := by
    refine AccountActionsState.applyActions_induct (P := fun st => ∀ k, (st.position k).InRange)
      (fun st action st' action' interests hst hstep j => ?_) hrun hstart
    obtain ⟨k, ctx, r, rd, indexes, entries, -, hlt, -, hr, -, -, -, hst'⟩ :=
      AccountActionsState.applyAction_ok hstep
    rw [hst', AccountActionsState.position_set hlt]
    split_ifs with hj
    · exact Action.step_inRange (hst k) hr
    · exact hst j
  intro a k
  rw [hstorage]
  by_cases ha : a = account
  · rw [ha, AccountActionsState.flush_position_self]
    exact hdatas k
  · rw [AccountActionsState.flush_position_of_ne st ha, position_congr hkeep]
    exact h a k

/-- A liquidation keeps it. -/
lemma Liquidation.amountsInRange {caller liquidated assetToRepay assetToTake : AccountId}
    {amount t : ℕ} (r : Liquidation s env caller liquidated assetToRepay assetToTake amount t)
    (h : s.AmountsInRange) : r.written.AmountsInRange := by
  have hpaid : r.paid.data.InRange := by
    refine ReserveDataContext.accountForRepay_inRange ?_ r.paid_ok
    rw [← r.dataToRepay_position]
    exact h liquidated r.repayId
  have htake : r.dataToTake.InRange := by
    rw [r.dataToTake_position]
    split_ifs
    · exact hpaid
    · exact h liquidated r.k
  have hfirst := ReserveDataContext.accountForWithdraw_inRange htake r.first_ok
  have hsecond := ReserveDataContext.accountForDeposit_inRange (h caller r.k) r.second_ok
  intro a j
  by_cases hc : a = caller
  · rw [hc, position, r.entry_caller]
    split_ifs with hj
    · exact hsecond
    · exact h caller j
  · by_cases hl : a = liquidated
    · rw [hl, position, r.entry_liquidated (hl ▸ hc)]
      split_ifs
      · exact hfirst
      · exact hpaid
      · exact h liquidated j
    · rw [position, r.entry_of_ne hc hl]
      exact h a j

end LendingPoolStorage

namespace World

variable [Pendzl] {w w' : World} {env : Env} {message : Message} {t : ℕ}

/-- The step lemma of the stored amounts. -/
lemma execute_amountsInRange (h : w.pool.AmountsInRange) (hkind : NoTransfer message)
    (hex : w.execute env message = .ok w') : w'.pool.AmountsInRange := by
  cases execute_slotChange hkind hex with
  | actions account actions res _ hres hs => exact hs ▸ h.accountForAccountActions hres
  | liquidate liquidated toRepay toTake amount minimum r _ hs => exact hs ▸ r.amountsInRange h
  | collateral account asset k use restrictions hk hsets =>
      intro a j
      have hdata : w'.pool.position a j = w.pool.position a j := by
        have hslot := congrArg Slot.data (hsets.slot a j)
        split_ifs at hslot with hc
        · rw [hc.1, hc.2] at hslot ⊢
          exact hslot
        · exact hslot
      rw [hdata]
      exact h a j
  | keep hsame =>
      intro a j
      have hdata : w'.pool.position a j = w.pool.position a j :=
        congrArg (fun slot => (slot a j).data) hsame
      rw [hdata]
      exact h a j

/-- The run lemma of the stored amounts. -/
lemma reachable_amountsInRange (h : Reachable NoTransfer t w) : w.pool.AmountsInRange := by
  refine TimedRun.Reach.invariant (P := fun w => w.pool.AmountsInRange) (fun w hw => ?_)
    (fun t w w' hP hstep => ?_) h
  · rw [hw.1]
    exact .new
  · obtain ⟨env, message, -, hkind, hex⟩ := hstep
    exact execute_amountsInRange hP hkind hex

end World

end AbaxLending
