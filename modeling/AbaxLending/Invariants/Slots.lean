import AbaxLending.Effects.Liquidation
import AbaxLending.Invariants.Bits
import AbaxLending.Spec.Visits

/-!
The slots of an account.

The config of an account has three bits for each asset, and its vector one entry.  Together
they are the slot of the account in the asset.  A basic step works on one slot and keeps the
others (`Action.step_slot`), so a property of slots that every basic step keeps is kept by the
actions of an account (`accountForAccountActions_slots`) and by a liquidation
(`Liquidation.slots`).
-/

namespace AbaxLending

open Outcome

/-- What an account has in one asset: the three bits of its config, and its entry. -/
@[ext] structure Slot where
  deposits : Bool
  collaterals : Bool
  borrows : Bool
  data : AccountReserveData

/-- The slot of a config and an entry. -/
def AccountConfig.slot (self : AccountConfig) (k : ℕ) (data : AccountReserveData) : Slot :=
  ⟨self.deposits.getLsbD k, self.collaterals.getLsbD k, self.borrows.getLsbD k, data⟩

/-- An accrual lowers no amount, and makes none out of nothing. -/
structure AccountReserveData.Accrues (before data : AccountReserveData) : Prop where
  deposit : before.deposit ≤ data.deposit
  debt : before.debt ≤ data.debt
  deposit_zero : before.deposit = 0 → data.deposit = 0
  debt_zero : before.debt = 0 → data.debt = 0

/-- What a basic step with an amount does to its slot: it accrues the entry, moves the amount,
and sets or clears bits. -/
inductive Slot.Step (r : ReserveRestrictions) (self : Slot) : Operation → ℕ → Slot → Prop
  | deposit (data : AccountReserveData) (n : ℕ) : self.data.Accrues data →
      Step r self .deposit n { self with
        deposits := true
        data := { data with deposit := data.deposit + n } }
  | withdraw (data : AccountReserveData) (n : ℕ) : self.data.Accrues data →
      self.data.deposit ≠ 0 → n ≤ data.deposit →
      Step r self .withdraw n { self with
        deposits := self.deposits && !decide (n = data.deposit)
        collaterals := self.collaterals && !decide (data.deposit - n < r.minimalCollateral)
        data := { data with deposit := data.deposit - n } }
  | borrow (data : AccountReserveData) (n : ℕ) : self.data.Accrues data →
      (data.debt + n ≠ 0 → r.minimalDebt ≤ data.debt + n) →
      Step r self .borrow n { self with
        borrows := true
        data := { data with debt := data.debt + n } }
  | repay (data : AccountReserveData) (n : ℕ) : self.data.Accrues data →
      self.data.debt ≠ 0 → n ≤ data.debt → (data.debt - n ≠ 0 → r.minimalDebt ≤ data.debt - n) →
      Step r self .repay n { self with
        borrows := self.borrows && !decide (n = data.debt)
        data := { data with debt := data.debt - n } }

/-- The step of an operation works on the slot of its asset, and keeps the other ones. -/
structure Step.OnSlot (st : Step) (op : Operation) (ctx : ReserveDataContext)
    (data : AccountReserveData) (config : AccountConfig) : Prop where
  own : (config.slot ctx.assetId data).Step ctx.reserveRestrictions op st.amount
    (st.config.slot ctx.assetId st.data)
  others : ∀ j, j ≠ ctx.assetId → ∀ d, st.config.slot j d = config.slot j d

lemma ReserveRestrictions.ensureDebtExceedsMinimum_eq_ok {r : ReserveRestrictions}
    {data : AccountReserveData} :
    r.ensureDebtExceedsMinimum data = .ok () ↔ (data.debt ≠ 0 → r.minimalDebt ≤ data.debt) := by
  rw [ensureDebtExceedsMinimum, failIf_eq_ok, not_and, not_lt]

namespace ReserveDataContext

variable [Pendzl] {ctx : ReserveDataContext} {data : AccountReserveData} {config : AccountConfig}
  {feeReductions : FeeReductions} {amount j : ℕ} {canMutateAmount : Bool} {st : Step}

lemma accrual_accrues {a : Accrual} (h : ctx.accrual data feeReductions = .ok a) :
    data.Accrues a.data := by
  obtain ⟨hdeposit, hdebt, -⟩ := AccountReserveData.accumulateAccountInterest_spec h
  obtain ⟨hdeposit_zero, hdebt_zero⟩ := AccountReserveData.accumulateAccountInterest_zero h
  exact ⟨by omega, by omega, hdeposit_zero, hdebt_zero⟩

lemma accountForDeposit_slot
    (h : ctx.accountForDeposit data config feeReductions amount = .ok st) :
    st.OnSlot .deposit ctx data config := by
  obtain ⟨a, ha, -, -, hk, -, rfl⟩ := accountForDeposit_ok h
  refine ⟨?_, fun j hj d => ?_⟩
  · have hslot : (config.markDeposit ctx.assetId).slot ctx.assetId
          { a.data with deposit := a.data.deposit + amount }
        = { config.slot ctx.assetId data with
            deposits := true
            data := { a.data with deposit := a.data.deposit + amount } } := by
      simp [AccountConfig.slot, hk]
    simp only [hslot]
    exact .deposit a.data amount (accrual_accrues ha)
  · simp [AccountConfig.slot, hj]

lemma accountForWithdraw_slot
    (h : ctx.accountForWithdraw data config feeReductions amount canMutateAmount = .ok st) :
    st.OnSlot .withdraw ctx data config := by
  obtain ⟨a, n, ha, -, -, hpos, hn, -, -, rfl⟩ := accountForWithdraw_ok h
  refine ⟨?_, fun j hj d => ?_⟩
  · have hslot : (config.afterWithdraw ctx.assetId (n = a.data.deposit)
          (a.data.deposit - n < ctx.reserveRestrictions.minimalCollateral)).slot ctx.assetId
          { a.data with deposit := a.data.deposit - n }
        = { config.slot ctx.assetId data with
            deposits := (config.slot ctx.assetId data).deposits && !decide (n = a.data.deposit)
            collaterals := (config.slot ctx.assetId data).collaterals
              && !decide (a.data.deposit - n < ctx.reserveRestrictions.minimalCollateral)
            data := { a.data with deposit := a.data.deposit - n } } := by
      simp [AccountConfig.slot]
    simp only [hslot]
    exact .withdraw a.data n (accrual_accrues ha) hpos hn
  · simp [AccountConfig.slot, hj]

lemma accountForBorrow_slot
    (h : ctx.accountForBorrow data config feeReductions amount = .ok st) :
    st.OnSlot .borrow ctx data config := by
  obtain ⟨a, ha, -, -, hk, hmin, -, rfl⟩ := accountForBorrow_ok h
  refine ⟨?_, fun j hj d => ?_⟩
  · have hslot : (config.markBorrow ctx.assetId).slot ctx.assetId
          { a.data with debt := a.data.debt + amount }
        = { config.slot ctx.assetId data with
            borrows := true
            data := { a.data with debt := a.data.debt + amount } } := by
      simp [AccountConfig.slot, hk]
    simp only [hslot]
    exact .borrow a.data amount (accrual_accrues ha)
      (ReserveRestrictions.ensureDebtExceedsMinimum_eq_ok.mp hmin)
  · simp [AccountConfig.slot, hj]

lemma accountForRepay_slot
    (h : ctx.accountForRepay data config feeReductions amount canMutateAmount = .ok st) :
    st.OnSlot .repay ctx data config := by
  obtain ⟨a, n, ha, -, -, hpos, hn, -, -, hmin, rfl⟩ := accountForRepay_ok h
  have haccrues := accrual_accrues ha
  refine ⟨?_, fun j hj d => ?_⟩
  · have hslot : (config.afterRepay ctx.assetId (n = a.data.debt)).slot ctx.assetId
          { a.data with debt := a.data.debt - n }
        = { config.slot ctx.assetId data with
            borrows := (config.slot ctx.assetId data).borrows && !decide (n = a.data.debt)
            data := { a.data with debt := a.data.debt - n } } := by
      simp [AccountConfig.slot]
    simp only [hslot]
    exact .repay a.data n haccrues (mt haccrues.debt_zero hpos) hn
      (ReserveRestrictions.ensureDebtExceedsMinimum_eq_ok.mp hmin)
  · simp [AccountConfig.slot, hj]

end ReserveDataContext

/-- **A basic step works on one slot.** -/
theorem Action.step_slot [Pendzl] {action : Action} {ctx : ReserveDataContext}
    {data : AccountReserveData} {config : AccountConfig} {feeReductions : FeeReductions} {st : Step}
    (h : action.step ctx data config feeReductions = .ok st) :
    st.OnSlot action.op ctx data config := by
  obtain ⟨op, asset, amount⟩ := action
  cases op with
  | deposit => exact ReserveDataContext.accountForDeposit_slot h
  | withdraw => exact ReserveDataContext.accountForWithdraw_slot h
  | borrow => exact ReserveDataContext.accountForBorrow_slot h
  | repay => exact ReserveDataContext.accountForRepay_slot h

/-! ### The slots of all accounts -/

namespace AccountActionsState

/-- The slots of the local copies. -/
def slot (st : AccountActionsState) (k : ℕ) : Slot := st.accountConfig.slot k (st.position k)

end AccountActionsState

namespace LendingPoolStorage

/-- The slots of an account. -/
def slot (s : LendingPoolStorage) (a : AccountId) (k : ℕ) : Slot :=
  (s.getAccountConfig a).slot k (s.position a k)

variable {s s' : LendingPoolStorage} {a account : AccountId} {k t : ℕ}

lemma slot_putAccount {v : List (Option AccountReserveData)} {c : AccountConfig} :
    (s.putAccount account v c).slot a k
      = if a = account then c.slot k (v[k]?.join.getD default) else s.slot a k := by
  rw [slot]
  split_ifs with ha
  · subst ha
    rw [getAccountConfig_putAccount_self, position_putAccount_self]
  · rw [getAccountConfig_putAccount_of_ne ha, position_putAccount_of_ne ha]
    rfl

/-- Only the accounts matter. -/
lemma slot_congr (hconfigs : s'.accountConfigs = s.accountConfigs)
    (hdatas : s'.accountReserveDatas = s.accountReserveDatas) : s'.slot = s.slot := by
  funext a k
  rw [slot, getAccountConfig_congr hconfigs, position_congr hdatas, slot]

variable [Pendzl]

omit [Pendzl] in
/-- The slots of the storage with the local copies written back. -/
lemma slot_flush (st : AccountActionsState) :
    (st.flush account).slot a k = if a = account then st.slot k else st.storage.slot a k := by
  rw [AccountActionsState.flush, slot_putAccount]
  rfl

/-- What an action does to the slots of its account. -/
lemma applyAction_slot {st st' : AccountActionsState} {feeReductions : FeeReductions}
    {action action' : Action} {interests : ℕ × ℕ}
    (h : st.applyAction feeReductions t action = .ok (st', action', interests)) :
    ∃ k restrictions, st.storage.assetToId.get action.asset = some k
      ∧ st.storage.reserveRestrictions.get k = some restrictions
      ∧ (st.slot k).Step restrictions action.op action'.amount (st'.slot k)
      ∧ ∀ j, j ≠ k → st'.slot j = st.slot j := by
  obtain ⟨k, ctx, res, rd, i, e, hk, hlen, hopen, hstep, -, rfl, -, rfl⟩ :=
    AccountActionsState.applyAction_ok h
  obtain ⟨hown, hothers⟩ := Action.step_slot hstep
  rw [hopen.assetId] at hown hothers
  refine ⟨k, ctx.reserveRestrictions, hk, hopen.restrictions, ?_, fun j hj => ?_⟩
  · rw [AccountActionsState.slot, AccountActionsState.slot,
      AccountActionsState.position_set hlen, if_pos rfl]
    exact hown
  · rw [AccountActionsState.slot, AccountActionsState.position_set hlen, if_neg hj]
    exact hothers j hj _

/-- **The slot rule of the actions**: what every basic step keeps, the actions of an account
keep. -/
theorem accountForAccountActions_slots {env : Env} {actions : List Action}
    {res : AccountActionsResult} {R : AccountId → ℕ → Slot → Prop}
    (hstep : ∀ asset k restrictions slot op n slot', s.assetToId.get asset = some k →
      s.reserveRestrictions.get k = some restrictions → R account k slot →
      slot.Step restrictions op n slot' → R account k slot')
    (h : s.accountForAccountActions env account actions = .ok res) (hR : ∀ a k, R a k (s.slot a k))
    (a : AccountId) (k : ℕ) : R a k (res.storage.slot a k) := by
  obtain ⟨st, hst, -, hs⟩ := accountForAccountActions_ok h
  have hloop : (st.storage.slot = s.slot ∧ st.storage.assetToId = s.assetToId
        ∧ st.storage.reserveRestrictions = s.reserveRestrictions)
      ∧ ∀ k, R account k (st.slot k) := by
    refine AccountActionsState.applyActions_induct
      (P := fun st => (st.storage.slot = s.slot ∧ st.storage.assetToId = s.assetToId
          ∧ st.storage.reserveRestrictions = s.reserveRestrictions)
        ∧ ∀ k, R account k (st.slot k))
      (fun st action st' _ _ hst hact => ?_) hst ⟨⟨rfl, rfl, rfl⟩, fun k => ?_⟩
    · obtain ⟨k, restrictions, hk, hrestrictions, hslot, hothers⟩ := applyAction_slot hact
      refine ⟨?_, fun j => ?_⟩
      · obtain ⟨_, _, _, _, _, _, -, -, -, -, -, -, -, rfl⟩ :=
          AccountActionsState.applyAction_ok hact
        exact hst.1
      · by_cases hj : j = k
        · rw [hst.1.2.1] at hk
          rw [hst.1.2.2] at hrestrictions
          exact hj ▸ hstep _ k restrictions _ _ _ _ hk hrestrictions (hst.2 k) hslot
        · rw [hothers j hj]
          exact hst.2 j
    · rw [AccountActionsState.slot, startActions_position]
      exact hR account k
  rw [hs, slot_flush]
  split_ifs with ha
  · exact ha ▸ hloop.2 k
  · rw [hloop.1.1]
    exact hR a k

namespace Liquidation

variable {env : Env} {caller liquidated assetToRepay assetToTake : AccountId} {amount : ℕ}
  (r : Liquidation s env caller liquidated assetToRepay assetToTake amount t)

/-- The repayment works on the slot of the liquidated account in the repaid asset. -/
lemma paid_slot :
    (s.slot liquidated r.repayId).Step r.repayCtx.reserveRestrictions .repay r.paid.amount
        (r.paid.config.slot r.repayId r.paid.data)
      ∧ ∀ j, j ≠ r.repayId → ∀ d,
        r.paid.config.slot j d = (s.getAccountConfig liquidated).slot j d := by
  obtain ⟨hown, hothers⟩ := ReserveDataContext.accountForRepay_slot r.paid_ok
  rw [r.repayOpened.assetId] at hown hothers
  rw [← r.dataToRepay_position] at hown
  exact ⟨hown, hothers⟩

/-- The restrictions of the second reserve action are those of the storage before. -/
lemma take_restrictions :
    s.reserveRestrictions.get r.k = some r.ctx.reserveRestrictions := by
  obtain ⟨rd, i, e, -, hmid⟩ := r.mid_eq
  have hopened := r.opened.restrictions
  rw [hmid] at hopened
  exact hopened

/-- The withdrawal keeps the context but for the reserve. -/
lemma first_ctx : r.first.ctx.assetId = r.k
    ∧ r.first.ctx.reserveRestrictions = r.ctx.reserveRestrictions := by
  obtain ⟨_, _, _, _, _, _, _, _, _, hst⟩ := ReserveDataContext.accountForWithdraw_ok r.first_ok
  rw [hst]
  exact ⟨r.opened.assetId, rfl⟩

/-- The withdrawal works on the slot that the repayment left. -/
lemma first_slot :
    (r.paid.config.slot r.k r.dataToTake).Step r.ctx.reserveRestrictions .withdraw r.first.amount
        (r.first.config.slot r.k r.first.data)
      ∧ ∀ j, j ≠ r.k → ∀ d, r.first.config.slot j d = r.paid.config.slot j d := by
  obtain ⟨hown, hothers⟩ := ReserveDataContext.accountForWithdraw_slot r.first_ok
  rw [r.opened.assetId] at hown hothers
  exact ⟨hown, hothers⟩

/-- The deposit works on the slot of the caller, as it was stored before. -/
lemma second_slot :
    (s.slot caller r.k).Step r.ctx.reserveRestrictions .deposit r.second.amount
        (r.second.config.slot r.k r.second.data)
      ∧ ∀ j, j ≠ r.k → ∀ d, r.second.config.slot j d = (s.getAccountConfig caller).slot j d := by
  obtain ⟨hown, hothers⟩ := ReserveDataContext.accountForDeposit_slot r.second_ok
  obtain ⟨hid, hrestrictions⟩ := r.first_ctx
  rw [hid] at hown hothers
  rw [hrestrictions] at hown
  exact ⟨hown, hothers⟩

/-- The caller is stored last. -/
lemma slot_caller (j : ℕ) :
    r.written.slot caller j
      = if j = r.k then r.second.config.slot r.k r.second.data else s.slot caller j := by
  rw [written, slot_putAccount, if_pos rfl, getElem?_set_join _ r.callerInRange]
  split_ifs with hj
  · rw [hj]
    rfl
  · rw [r.second_slot.2 j hj, getAccountDatas_join]
    rfl

/-- Another liquidated account is stored with what both steps left. -/
lemma slot_liquidated (hne : liquidated ≠ caller) (j : ℕ) :
    r.written.slot liquidated j
      = if j = r.k then r.first.config.slot r.k r.first.data
        else if j = r.repayId then r.paid.config.slot r.repayId r.paid.data
        else s.slot liquidated j := by
  have hentry := r.entry_liquidated hne j
  have hconfig : r.written.getAccountConfig liquidated = r.first.config := by
    rw [written, getAccountConfig_putAccount_of_ne hne, getAccountConfig_putAccount_self]
  rw [slot, hconfig, position, hentry]
  split_ifs with hk hrepay
  · rw [hk]
    rfl
  · rw [r.first_slot.2 j hk, hrepay]
    rfl
  · rw [r.first_slot.2 j hk, r.paid_slot.2 j hrepay]
    rfl

/-- Nobody else is touched. -/
lemma slot_of_ne (hc : a ≠ caller) (hl : a ≠ liquidated) (j : ℕ) :
    r.written.slot a j = s.slot a j := by
  obtain ⟨rd, i, e, -, hmid⟩ := r.mid_eq
  rw [written, slot_putAccount, if_neg hc, slot_putAccount, if_neg hl, TwoSteps.reserveWritten,
    hmid]
  rfl

/-- **The slot rule of a liquidation**: what a repayment and a withdrawal of the liquidated
account keep, and the deposit of the caller keeps, the liquidation keeps. -/
theorem slots {R : AccountId → ℕ → Slot → Prop}
    (hstep : ∀ asset k restrictions slot op n slot', op ≠ .deposit → op ≠ .borrow →
      s.assetToId.get asset = some k → s.reserveRestrictions.get k = some restrictions →
      R liquidated k slot → slot.Step restrictions op n slot' → R liquidated k slot')
    (hdeposit : ∀ restrictions slot', s.reserveRestrictions.get r.k = some restrictions →
      R caller r.k (s.slot caller r.k) →
      (s.slot caller r.k).Step restrictions .deposit r.second.amount slot' → R caller r.k slot')
    (hR : ∀ a k, R a k (s.slot a k)) (a : AccountId) (k : ℕ) : R a k (r.written.slot a k) := by
  obtain ⟨hpaid, hothers⟩ := r.paid_slot
  have hrepaid : R liquidated r.repayId (r.paid.config.slot r.repayId r.paid.data) :=
    hstep _ _ _ _ _ _ _ (by decide) (by decide) r.registeredRepay r.repayOpened.restrictions
      (hR liquidated r.repayId) hpaid
  -- the slot that the withdrawal finds
  have hfound : R liquidated r.k (r.paid.config.slot r.k r.dataToTake) := by
    rw [r.dataToTake_position]
    split_ifs with hk
    · rw [hk]
      exact hrepaid
    · rw [hothers r.k hk]
      exact hR liquidated r.k
  by_cases hc : a = caller
  · rw [hc, r.slot_caller]
    split_ifs with hk
    · rw [hk]
      exact hdeposit _ _ r.take_restrictions (hR caller r.k) r.second_slot.1
    · exact hR caller k
  · by_cases hl : a = liquidated
    · rw [hl, r.slot_liquidated (hl ▸ hc)]
      split_ifs with hk hrepay
      · rw [hk]
        exact hstep _ _ _ _ _ _ _ (by decide) (by decide) r.registeredTake r.take_restrictions
          hfound r.first_slot.1
      · rw [hrepay]
        exact hrepaid
      · exact hR liquidated k
    · rw [r.slot_of_ne hc hl]
      exact hR a k

end Liquidation

omit [Pendzl]

/-! ### The other messages -/

/-- A config written with the bits that the account had. -/
lemma slot_putConfig {c : AccountConfig} (hdeposits : c.deposits = (s.getAccountConfig a).deposits)
    (hcollaterals : c.collaterals = (s.getAccountConfig a).collaterals)
    (hborrows : c.borrows = (s.getAccountConfig a).borrows) : (s.putConfig a c).slot = s.slot := by
  funext b k
  rw [slot, getAccountConfig_putConfig]
  split_ifs with hb
  · rw [hb, slot, AccountConfig.slot, AccountConfig.slot, hdeposits, hcollaterals, hborrows]
    rfl
  · rfl

/-- The collateral bit of one slot is set, if the stored deposit is not below the minimal
collateral, or cleared. -/
structure SetsCollateral (s s' : LendingPoolStorage) (account : AccountId) (k : ℕ) (use : Bool)
    (restrictions : ReserveRestrictions) : Prop where
  restrictions_eq : s.reserveRestrictions.get k = some restrictions
  minimal : use = true → restrictions.minimalCollateral ≤ (s.slot account k).data.deposit
  slot : ∀ a j, s'.slot a j
    = if a = account ∧ j = k then { s.slot account k with collaterals := use } else s.slot a j

/-- A config written with one collateral bit set or cleared. -/
lemma slot_putCollaterals {bits : Bitmap128} {use : Bool}
    (hbits : ∀ j, bits.getLsbD j
      = if j = k then use else (s.getAccountConfig account).collaterals.getLsbD j) (j : ℕ) :
    (s.putConfig account { s.getAccountConfig account with collaterals := bits }).slot a j
      = if a = account ∧ j = k then { s.slot account k with collaterals := use }
        else s.slot a j := by
  by_cases ha : a = account
  · subst ha
    rw [slot, getAccountConfig_putConfig, if_pos rfl, AccountConfig.slot]
    simp only [hbits, true_and]
    split_ifs with hj
    · rw [hj]
      rfl
    · rfl
  · rw [if_neg fun h => ha h.1, slot, getAccountConfig_putConfig, if_neg ha]
    rfl

/-- What `account_for_set_as_collateral` does to the slots. -/
lemma accountForSetAsCollateral_slots {asset : AccountId} {use : Bool}
    (h : s.accountForSetAsCollateral account asset use = .ok s') :
    ∃ k restrictions, s.assetToId.get asset = some k
      ∧ SetsCollateral s s' account k use restrictions := by
  simp only [accountForSetAsCollateral, assetId, getReserveRestrictions, getAccountReserveData_eq,
    bind_eq_ok, okOr_eq_ok, unwrap_eq_ok] at h
  obtain ⟨k, hk, restrictions, hrestrictions, _, -, _, -, _, -, h⟩ := h
  refine ⟨k, restrictions, hk, hrestrictions, fun huse => ?_, fun a j => ?_⟩
  · rw [if_pos huse] at h
    simp only [ReserveRestrictions.ensureCollateralExceedsMinimum, bind_eq_ok, failIf_eq_ok,
      not_lt] at h
    obtain ⟨_, hmin, -⟩ := h
    exact hmin
  · split_ifs at h with huse <;>
      simp only [bind_eq_ok, bitMask_eq_ok, pure_eq, Except.ok.injEq] at h
    · obtain ⟨_, -, _, ⟨hlt, rfl⟩, rfl⟩ := h
      refine slot_putCollaterals (fun j => ?_) j
      rw [Bitmap.getLsbD_set, huse]
      split_ifs with hj
      · simp [hj, hlt]
      · simp [hj]
    · obtain ⟨_, ⟨hlt, rfl⟩, rfl⟩ := h
      refine slot_putCollaterals (fun j => ?_) j
      rw [Bitmap.getLsbD_clear, Bool.eq_false_iff.mpr huse]
      split_ifs with hj <;> simp [hj]

end LendingPoolStorage

namespace World

variable [Pendzl] {w w' : World} {env : Env} {message : Message}

/-- What a message does to the slots, unless it is a transfer. -/
inductive SlotChange (env : Env) (w : World) (s' : LendingPoolStorage) (message : Message) :
    Prop where
  | actions (account : AccountId) (actions : List Action) (res : AccountActionsResult) :
      message.userActions = some (account, actions) →
      w.pool.accountForAccountActions env account actions = .ok res → s' = res.storage →
      SlotChange env w s' message
  | liquidate (liquidated assetToRepay assetToTake : AccountId) (amount minimum : ℕ)
      (r : LendingPoolStorage.Liquidation w.pool env env.caller liquidated assetToRepay assetToTake
        amount env.blockTimestamp) :
      message = .liquidate liquidated assetToRepay assetToTake amount minimum →
      s' = r.written → SlotChange env w s' message
  | collateral (account asset : AccountId) (k : ℕ) (use : Bool)
      (restrictions : ReserveRestrictions) : w.pool.assetToId.get asset = some k →
      w.pool.SetsCollateral s' account k use restrictions → SlotChange env w s' message
  | keep : s'.slot = w.pool.slot → SlotChange env w s' message

/-- **Every message but a transfer changes the slots by basic steps**, or sets or clears one
collateral bit. -/
theorem execute_slotChange (hkind : NoTransfer message)
    (hex : w.execute env message = .ok w') : SlotChange env w w'.pool message := by
  have hstep := (execute_frame hex).1
  cases hactions : message.userActions with
  | some p =>
      obtain ⟨account, actions⟩ := p
      obtain ⟨res, hres, hs⟩ := execute_userActions hex hactions
      exact .actions account actions res hactions hres hs
  | none =>
      cases message with
      | deposit | withdraw | borrow | repay | multiOp => cases hactions
      | transfer | transferFrom => cases hkind
      | liquidate liquidated toRepay toTake amount minimum =>
          obtain ⟨res, hres, hs⟩ := hstep
          obtain ⟨r, rfl⟩ := LendingPoolStorage.accountForLiquidate_ok hres
          exact .liquidate liquidated toRepay toTake amount minimum r rfl hs
      | setAsCollateral asset use =>
          obtain ⟨k, restrictions, hk, hsets⟩ :=
            LendingPoolStorage.accountForSetAsCollateral_slots hstep.1
          exact .collateral _ asset k use restrictions hk hsets
      | chooseMarketRule id =>
          rw [LendingPoolStorage.accountForMarketRuleChange_ok hstep.1]
          exact .keep (LendingPoolStorage.slot_putConfig rfl rfl rfl)
      | _ =>
          exact .keep (LendingPoolStorage.slot_congr
            (execute_keeps (·.accountConfigs) (fun _ => rfl) hex)
            (execute_keeps (·.accountReserveDatas) (fun _ => rfl) hex))

end World

end AbaxLending
