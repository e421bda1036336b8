import AbaxLending.Pool.Accounting
import AbaxLending.Spec.Accrual

/-!
What the four basic steps do.

Each step accrues the entry it works on and then changes one amount, the total
of the reserve with it, and at most two bits of the config.  The inversion
lemmas `accountForDeposit_ok`, `accountForWithdraw_ok`, `accountForBorrow_ok`
and `accountForRepay_ok` say this with the guards that were passed; everything
later is derived from them.

* `AccountConfig.markDeposit`, `dropDeposit`, ...: the changes of single bits,
  with the bits they leave;
* `ReserveDataContext.after`: the context with new totals and fees.
-/

namespace AbaxLending

open Outcome

/-! ### Bits of a config -/

namespace AccountConfig

/-- The deposit bit of an asset set. -/
def markDeposit (self : AccountConfig) (k : ℕ) : AccountConfig :=
  { self with deposits := self.deposits ||| 1#128 <<< k }

/-- The borrow bit of an asset set. -/
def markBorrow (self : AccountConfig) (k : ℕ) : AccountConfig :=
  { self with borrows := self.borrows ||| 1#128 <<< k }

/-- The deposit bit of an asset cleared. -/
def dropDeposit (self : AccountConfig) (k : ℕ) : AccountConfig :=
  { self with deposits := self.deposits &&& ~~~(1#128 <<< k) }

/-- The collateral bit of an asset cleared. -/
def dropCollateral (self : AccountConfig) (k : ℕ) : AccountConfig :=
  { self with collaterals := self.collaterals &&& ~~~(1#128 <<< k) }

/-- The borrow bit of an asset cleared. -/
def dropBorrow (self : AccountConfig) (k : ℕ) : AccountConfig :=
  { self with borrows := self.borrows &&& ~~~(1#128 <<< k) }

/-- The config after a withdrawal that empties the deposit, or leaves less than
the minimal collateral. -/
def afterWithdraw (self : AccountConfig) (k : ℕ) (emptied low : Bool) : AccountConfig :=
  let config := if emptied then self.dropDeposit k else self
  if low then config.dropCollateral k else config

/-- The config after a repayment that may clear the debt. -/
def afterRepay (self : AccountConfig) (k : ℕ) (cleared : Bool) : AccountConfig :=
  if cleared then self.dropBorrow k else self

variable (self : AccountConfig) (k j : ℕ)

@[simp] lemma markDeposit_deposits_bit :
    (self.markDeposit k).deposits.getLsbD j
      = (self.deposits.getLsbD j || decide (j < 128 ∧ j = k)) := Bitmap.getLsbD_set ..

@[simp] lemma markDeposit_collaterals : (self.markDeposit k).collaterals = self.collaterals := rfl

@[simp] lemma markDeposit_borrows : (self.markDeposit k).borrows = self.borrows := rfl

@[simp] lemma markDeposit_marketRuleId :
    (self.markDeposit k).marketRuleId = self.marketRuleId := rfl

@[simp] lemma markBorrow_borrows_bit :
    (self.markBorrow k).borrows.getLsbD j
      = (self.borrows.getLsbD j || decide (j < 128 ∧ j = k)) := Bitmap.getLsbD_set ..

@[simp] lemma markBorrow_collaterals : (self.markBorrow k).collaterals = self.collaterals := rfl

@[simp] lemma markBorrow_deposits : (self.markBorrow k).deposits = self.deposits := rfl

@[simp] lemma markBorrow_marketRuleId :
    (self.markBorrow k).marketRuleId = self.marketRuleId := rfl

@[simp] lemma dropDeposit_deposits_bit :
    (self.dropDeposit k).deposits.getLsbD j = (self.deposits.getLsbD j && decide (j ≠ k)) :=
  Bitmap.getLsbD_clear ..

@[simp] lemma dropDeposit_collaterals : (self.dropDeposit k).collaterals = self.collaterals := rfl

@[simp] lemma dropCollateral_collaterals_bit :
    (self.dropCollateral k).collaterals.getLsbD j
      = (self.collaterals.getLsbD j && decide (j ≠ k)) := Bitmap.getLsbD_clear ..

@[simp] lemma dropCollateral_deposits : (self.dropCollateral k).deposits = self.deposits := rfl

@[simp] lemma dropBorrow_borrows_bit :
    (self.dropBorrow k).borrows.getLsbD j = (self.borrows.getLsbD j && decide (j ≠ k)) :=
  Bitmap.getLsbD_clear ..

/-- A withdrawal clears the deposit bit exactly when it empties the deposit. -/
@[simp] lemma afterWithdraw_deposits_bit (emptied low : Bool) :
    (self.afterWithdraw k emptied low).deposits.getLsbD j
      = (self.deposits.getLsbD j && !(emptied && decide (j = k))) := by
  cases emptied <;> cases low <;> simp [afterWithdraw]

/-- A withdrawal clears the collateral bit exactly when it leaves too little. -/
@[simp] lemma afterWithdraw_collaterals_bit (emptied low : Bool) :
    (self.afterWithdraw k emptied low).collaterals.getLsbD j
      = (self.collaterals.getLsbD j && !(low && decide (j = k))) := by
  cases emptied <;> cases low <;> simp [afterWithdraw]

@[simp] lemma afterWithdraw_borrows (emptied low : Bool) :
    (self.afterWithdraw k emptied low).borrows = self.borrows := by
  cases emptied <;> cases low <;> rfl

@[simp] lemma afterWithdraw_marketRuleId (emptied low : Bool) :
    (self.afterWithdraw k emptied low).marketRuleId = self.marketRuleId := by
  cases emptied <;> cases low <;> rfl

/-- A repayment clears the borrow bit exactly when it clears the debt. -/
@[simp] lemma afterRepay_borrows_bit (cleared : Bool) :
    (self.afterRepay k cleared).borrows.getLsbD j
      = (self.borrows.getLsbD j && !(cleared && decide (j = k))) := by
  cases cleared <;> simp [afterRepay]

@[simp] lemma afterRepay_deposits (cleared : Bool) :
    (self.afterRepay k cleared).deposits = self.deposits := by cases cleared <;> rfl

@[simp] lemma afterRepay_collaterals (cleared : Bool) :
    (self.afterRepay k cleared).collaterals = self.collaterals := by cases cleared <;> rfl

@[simp] lemma afterRepay_marketRuleId (cleared : Bool) :
    (self.afterRepay k cleared).marketRuleId = self.marketRuleId := by cases cleared <;> rfl

end AccountConfig

@[simp] lemma bitMask_eq_ok {k : ℕ} {mask : Bitmap128} :
    bitMask k = .ok mask ↔ k < 128 ∧ mask = 1#128 <<< k := by
  rw [@eq_comm _ mask]
  simp [bitMask]

@[simp] lemma shiftRight_eq_ok {x y : Bitmap128} {k : ℕ} :
    shiftRight x k = .ok y ↔ k < 128 ∧ y = x >>> k := by
  rw [@eq_comm _ y]
  simp [shiftRight]

namespace AccountConfig

variable {self config : AccountConfig} {c : Prop} [Decidable c] {k : ℕ}

@[simp] lemma clearDepositIf_eq_ok :
    self.clearDepositIf c k = .ok config
      ↔ (c → k < 128) ∧ config = if c then self.dropDeposit k else self := by
  rw [@eq_comm _ config]
  by_cases hc : c <;> simp [clearDepositIf, dropDeposit, hc, and_assoc]

@[simp] lemma clearCollateralIf_eq_ok :
    self.clearCollateralIf c k = .ok config
      ↔ (c → k < 128) ∧ config = if c then self.dropCollateral k else self := by
  rw [@eq_comm _ config]
  by_cases hc : c <;> simp [clearCollateralIf, dropCollateral, hc, and_assoc]

@[simp] lemma clearBorrowIf_eq_ok :
    self.clearBorrowIf c k = .ok config
      ↔ (c → k < 128) ∧ config = if c then self.dropBorrow k else self := by
  rw [@eq_comm _ config]
  by_cases hc : c <;> simp [clearBorrowIf, dropBorrow, hc, and_assoc]

end AccountConfig

/-! ### The steps -/

/-- Clipping an amount that may be changed takes the smaller one. -/
lemma clip_eq_min (amount available : ℕ) :
    (if available < amount ∧ true = true then available else amount) = min amount available := by
  by_cases h : available < amount
  · rw [if_pos ⟨h, rfl⟩, Nat.min_eq_right h.le]
  · rw [if_neg (fun hc => h hc.1), Nat.min_eq_left (not_lt.mp h)]

namespace ReserveDataContext

/-- The context with new totals, and with the fees that an accrual leaves. -/
def after (ctx : ReserveDataContext) (accrual : Accrual) (totalDeposit totalDebt : ℕ) :
    ReserveDataContext :=
  { ctx with
    reserveData := { ctx.reserveData with totalDeposit, totalDebt }
    reserveIndexesAndFees := { ctx.reserveIndexesAndFees with fees := accrual.fees } }

variable [Pendzl] {ctx : ReserveDataContext} {data : AccountReserveData} {config : AccountConfig}
  {feeReductions : FeeReductions} {amount : ℕ} {canMutateAmount : Bool} {st : Step}

/-- The accrual of an entry against the indexes and the fees of a context. -/
def accrual (ctx : ReserveDataContext) (data : AccountReserveData)
    (feeReductions : FeeReductions) : Res Accrual :=
  data.accumulateAccountInterest ctx.reserveIndexesAndFees.indexes ctx.reserveIndexesAndFees.fees
    feeReductions

/-- What `settle` does. -/
lemma settle_ok {r : ReserveDataContext × AccountReserveData × (ℕ × ℕ)}
    (h : ctx.settle data feeReductions = .ok r) :
    ∃ a, ctx.accrual data feeReductions = .ok a
      ∧ r = (ctx.after a (ctx.reserveData.totalDeposit + a.depositInterest)
            (ctx.reserveData.totalDebt + a.debtInterest),
          a.data, (a.depositInterest, a.debtInterest)) := by
  simp only [settle, ReserveData.addInterests, ReserveData.increaseTotalDeposit,
    ReserveData.increaseTotalDebt, bind_eq_ok, okOr_eq_ok, checkedAdd_eq_some, pure_eq,
    Except.ok.injEq] at h
  obtain ⟨a, ha, _, ⟨_, ⟨_, ⟨rfl, _⟩, rfl⟩, _, ⟨rfl, _⟩, rfl⟩, rfl⟩ := h
  exact ⟨a, ha, rfl⟩

/-- **What a deposit does.** -/
theorem accountForDeposit_ok (h : ctx.accountForDeposit data config feeReductions amount = .ok st) :
    ∃ a, ctx.accrual data feeReductions = .ok a
      ∧ ctx.reserveData.activated = true ∧ ctx.reserveData.frozen = false ∧ ctx.assetId < 128
      ∧ ctx.reserveRestrictions.ensureMaxTotalDepositNotReached st.ctx.reserveData = .ok ()
      ∧ st = {
          ctx := ctx.after a (ctx.reserveData.totalDeposit + a.depositInterest + amount)
            (ctx.reserveData.totalDebt + a.debtInterest)
          data := { a.data with deposit := a.data.deposit + amount }
          config := config.markDeposit ctx.assetId
          amount
          interests := (a.depositInterest, a.debtInterest) } := by
  simp only [accountForDeposit, ReserveData.ensureActivated, ReserveData.ensureNotFrozen,
    bind_eq_ok, failIf_eq_ok, Bool.not_eq_false, Bool.not_eq_true] at h
  obtain ⟨_, hact, _, hfr, r, hr, h⟩ := h
  obtain ⟨a, ha, rfl⟩ := settle_ok hr
  simp only [AccountReserveData.increaseAccountDeposit, ReserveData.increaseTotalDeposit,
    bind_eq_ok, bitMask_eq_ok, okOr_eq_ok, checkedAdd_eq_some, pure_eq, Except.ok.injEq] at h
  obtain ⟨_, ⟨_, ⟨hk, rfl⟩, _, ⟨rfl, _⟩, _, ⟨_, ⟨rfl, _⟩, rfl⟩, rfl⟩, _, hmax, rfl⟩ := h
  exact ⟨a, ha, hact, hfr, hk, hmax, rfl⟩

/-- **What a withdrawal does**: `n` is the amount after clipping. -/
theorem accountForWithdraw_ok
    (h : ctx.accountForWithdraw data config feeReductions amount canMutateAmount = .ok st) :
    ∃ a n, ctx.accrual data feeReductions = .ok a
      ∧ n = (if a.data.deposit < amount ∧ canMutateAmount = true then a.data.deposit else amount)
      ∧ ctx.reserveData.activated = true ∧ data.deposit ≠ 0 ∧ n ≤ a.data.deposit
      ∧ n ≤ ctx.reserveData.totalDeposit + a.depositInterest
      ∧ (n = a.data.deposit ∨ a.data.deposit - n < ctx.reserveRestrictions.minimalCollateral →
          ctx.assetId < 128)
      ∧ st = {
          ctx := ctx.after a (ctx.reserveData.totalDeposit + a.depositInterest - n)
            (ctx.reserveData.totalDebt + a.debtInterest)
          data := { a.data with deposit := a.data.deposit - n }
          config := config.afterWithdraw ctx.assetId (n = a.data.deposit)
            (a.data.deposit - n < ctx.reserveRestrictions.minimalCollateral)
          amount := n
          interests := (a.depositInterest, a.debtInterest) } := by
  simp only [accountForWithdraw, ReserveData.ensureActivated, bind_eq_ok, failIf_eq_ok,
    Bool.not_eq_false] at h
  obtain ⟨_, hact, _, hdep, r, hr, h⟩ := h
  obtain ⟨a, ha, rfl⟩ := settle_ok hr
  refine ⟨a, _, ha, rfl, hact, hdep, ?_⟩
  generalize (if a.data.deposit < amount ∧ canMutateAmount = true then a.data.deposit
    else amount) = n at h ⊢
  simp only [AccountReserveData.decreaseAccountDeposit, ReserveData.decreaseTotalDeposit,
    AccountConfig.clearDepositIf_eq_ok, AccountConfig.clearCollateralIf_eq_ok,
    bind_eq_ok, okOr_eq_ok, checkedSub_eq_some, pure_eq, Except.ok.injEq] at h
  obtain ⟨_, ⟨_, ⟨hk, rfl⟩, d, hd, _, ⟨td, htd, rfl⟩, _, ⟨hk', rfl⟩, rfl⟩, rfl⟩ := h
  have hn : a.data.deposit - n = d := by omega
  have htd' : ctx.reserveData.totalDeposit + a.depositInterest - n = td := by
    simp only [after] at htd
    omega
  refine ⟨by omega, by simp only [after] at htd; omega, ?_, ?_⟩
  · rintro (h | h)
    · exact hk h
    · exact hk' (hn ▸ h)
  · simp only [hn, htd', AccountConfig.afterWithdraw, decide_eq_true_eq]
    rfl

/-- **What a borrow does.** -/
theorem accountForBorrow_ok (h : ctx.accountForBorrow data config feeReductions amount = .ok st) :
    ∃ a, ctx.accrual data feeReductions = .ok a
      ∧ ctx.reserveData.activated = true ∧ ctx.reserveData.frozen = false ∧ ctx.assetId < 128
      ∧ ctx.reserveRestrictions.ensureDebtExceedsMinimum st.data = .ok ()
      ∧ ctx.reserveRestrictions.ensureMaxTotalDebtNotReached st.ctx.reserveData = .ok ()
      ∧ st = {
          ctx := ctx.after a (ctx.reserveData.totalDeposit + a.depositInterest)
            (ctx.reserveData.totalDebt + a.debtInterest + amount)
          data := { a.data with debt := a.data.debt + amount }
          config := config.markBorrow ctx.assetId
          amount
          interests := (a.depositInterest, a.debtInterest) } := by
  simp only [accountForBorrow, ReserveData.ensureActivated, ReserveData.ensureNotFrozen,
    bind_eq_ok, failIf_eq_ok, Bool.not_eq_false, Bool.not_eq_true] at h
  obtain ⟨_, hact, _, hfr, r, hr, h⟩ := h
  obtain ⟨a, ha, rfl⟩ := settle_ok hr
  simp only [AccountReserveData.increaseAccountDebt, ReserveData.increaseTotalDebt,
    bind_eq_ok, bitMask_eq_ok, okOr_eq_ok, checkedAdd_eq_some, pure_eq, Except.ok.injEq] at h
  obtain ⟨_, ⟨_, ⟨hk, rfl⟩, _, ⟨rfl, _⟩, _, ⟨_, ⟨rfl, _⟩, rfl⟩, rfl⟩, _, hmin, _, hmax, rfl⟩ := h
  exact ⟨a, ha, hact, hfr, hk, hmin, hmax, rfl⟩

/-- **What a repayment does**: `n` is the amount after clipping. -/
theorem accountForRepay_ok
    (h : ctx.accountForRepay data config feeReductions amount canMutateAmount = .ok st) :
    ∃ a n, ctx.accrual data feeReductions = .ok a
      ∧ n = (if a.data.debt < amount ∧ canMutateAmount = true then a.data.debt else amount)
      ∧ ctx.reserveData.activated = true ∧ a.data.debt ≠ 0 ∧ n ≤ a.data.debt
      ∧ n ≤ ctx.reserveData.totalDebt + a.debtInterest
      ∧ (n = a.data.debt → ctx.assetId < 128)
      ∧ ctx.reserveRestrictions.ensureDebtExceedsMinimum st.data = .ok ()
      ∧ st = {
          ctx := ctx.after a (ctx.reserveData.totalDeposit + a.depositInterest)
            (ctx.reserveData.totalDebt + a.debtInterest - n)
          data := { a.data with debt := a.data.debt - n }
          config := config.afterRepay ctx.assetId (n = a.data.debt)
          amount := n
          interests := (a.depositInterest, a.debtInterest) } := by
  simp only [accountForRepay, ReserveData.ensureActivated, bind_eq_ok, failIf_eq_ok,
    Bool.not_eq_false] at h
  obtain ⟨_, hact, r, hr, h⟩ := h
  obtain ⟨a, ha, rfl⟩ := settle_ok hr
  obtain ⟨_, hdebt, h⟩ := h
  refine ⟨a, _, ha, rfl, hact, hdebt, ?_⟩
  simp only at h
  generalize (if a.data.debt < amount ∧ canMutateAmount = true then a.data.debt
    else amount) = n at h ⊢
  simp only [AccountReserveData.decreaseAccountDebt, ReserveData.decreaseTotalDebt,
    AccountConfig.clearBorrowIf_eq_ok, bind_eq_ok, okOr_eq_ok, checkedSub_eq_some, pure_eq,
    Except.ok.injEq] at h
  obtain ⟨_, ⟨_, ⟨hk, rfl⟩, d, hd, _, ⟨tb, htb, rfl⟩, rfl⟩, _, hmin, rfl⟩ := h
  have hn : a.data.debt - n = d := by omega
  have htb' : ctx.reserveData.totalDebt + a.debtInterest - n = tb := by
    simp only [after] at htb
    omega
  refine ⟨by omega, by simp only [after] at htb; omega, hk, hmin, ?_⟩
  simp only [hn, htb', AccountConfig.afterRepay, decide_eq_true_eq]
  rfl

lemma accountForWithdraw_assetId
    (h : ctx.accountForWithdraw data config feeReductions amount canMutateAmount = .ok st) :
    st.ctx.assetId = ctx.assetId := by
  obtain ⟨a, n, -, -, -, -, -, -, -, rfl⟩ := accountForWithdraw_ok h
  rfl

lemma accountForRepay_assetId
    (h : ctx.accountForRepay data config feeReductions amount canMutateAmount = .ok st) :
    st.ctx.assetId = ctx.assetId := by
  obtain ⟨a, n, -, -, -, -, -, -, -, -, rfl⟩ := accountForRepay_ok h
  rfl

end ReserveDataContext

end AbaxLending
