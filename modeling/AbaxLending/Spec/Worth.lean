import AbaxLending.Lib.Indexed
import AbaxLending.Spec.Ledger

/-!
What the positions in a reserve are worth.

At given indexes every stored amount is worth more than it says, by the interest that was
not settled yet; `Side.worth` is that worth, before fees.  What a reserve owes is what the
deposits are worth and the income it earned, less what the debts are worth
(`LendingPoolStorage.claims`).

* `accumulateAccountInterest_claim`: settling interest does not raise what is owed, the
  rounding is against the account and the fee only changes its owner;
* `Action.step_claim`: an action changes what is owed by at most what it pays in;
* `claims_update`: neither does time, as long as the stored total of the deposits is no
  staler than the one of the debts (`DepositsNoStaler`).
-/

namespace AbaxLending

open Outcome

namespace Side

/-- The index that was applied to a side of a position. -/
def applied : Side → AccountReserveData → ℕ
  | .deposit => AccountReserveData.appliedDepositIndexE18
  | .debt => AccountReserveData.appliedDebtIndexE18

/-- The index of a side. -/
def index : Side → ReserveIndexes → ℕ
  | .deposit => ReserveIndexes.depositIndexE18
  | .debt => ReserveIndexes.debtIndexE18

lemma index_deposit (indexes : ReserveIndexes) :
    Side.deposit.index indexes = indexes.depositIndexE18 := rfl

lemma index_debt (indexes : ReserveIndexes) : Side.debt.index indexes = indexes.debtIndexE18 := rfl

/-- New indexes are positive. -/
lemma index_new_pos (side : Side) (timestamp : ℕ) :
    0 < side.index (ReserveIndexes.new timestamp) := by
  cases side with
  | deposit =>
      rw [index_deposit, ReserveIndexes.new]
      norm_num
  | debt =>
      rw [index_debt, ReserveIndexes.new]
      norm_num

/-- What a side of a position is worth at some indexes. -/
def worth (side : Side) (indexes : ReserveIndexes) (data : AccountReserveData) : ℚ :=
  Indexed.worth (side.index indexes) (side.amount data) (side.applied data)

/-- A side that has caught up is worth its amount. -/
lemma worth_self (side : Side) {indexes : ReserveIndexes} {data : AccountReserveData}
    (h : side.applied data = side.index indexes) (hpos : 0 < side.index indexes) :
    side.worth indexes data = side.amount data := by
  rw [worth, h, Indexed.worth_self hpos]

end Side

namespace AccountReserveData

/-- No applied index is ahead of the indexes, and an amount has one. -/
structure UpTo (indexes : ReserveIndexes) (data : AccountReserveData) : Prop where
  le : ∀ side : Side, side.applied data ≤ side.index indexes
  zero : ∀ side : Side, side.applied data = 0 → side.amount data = 0

/-- Both indexes were applied. -/
def CaughtUp (indexes : ReserveIndexes) (self : AccountReserveData) : Prop :=
  ∀ side : Side, side.applied self = side.index indexes

/-- What the reserve owes to an account, less what the account owes to it. -/
def claim (indexes : ReserveIndexes) (self : AccountReserveData) : ℚ :=
  Side.deposit.worth indexes self - Side.debt.worth indexes self

lemma upTo_default (indexes : ReserveIndexes) : UpTo indexes default :=
  ⟨fun side => by cases side <;> exact Nat.zero_le _, fun side _ => side.amount_default⟩

/-- A position that has caught up stays so whatever its amounts are. -/
lemma CaughtUp.upTo {indexes : ReserveIndexes} {self : AccountReserveData}
    (h : self.CaughtUp indexes) (hpos : ∀ side : Side, 0 < side.index indexes) :
    self.UpTo indexes := by
  refine ⟨fun side => (h side).le, fun side hz => ?_⟩
  have := hpos side
  rw [h side] at hz
  omega

/-- A position that has caught up claims the difference of its amounts. -/
lemma CaughtUp.claim {indexes : ReserveIndexes} {self : AccountReserveData}
    (h : self.CaughtUp indexes) (hpos : ∀ side : Side, 0 < side.index indexes) :
    self.claim indexes = self.deposit - self.debt := by
  rw [AccountReserveData.claim, Side.deposit.worth_self (h _) (hpos _),
    Side.debt.worth_self (h _) (hpos _)]
  rfl

variable [Pendzl] {self : AccountReserveData} {indexes : ReserveIndexes} {fees : ReserveFees}
  {reduction : ℕ} {reductions : FeeReductions}

/-- The deposit and the fee that an accrual leaves are covered by the worth. -/
lemma accumulateDeposit_worth {r : SideAccrual} (hself : self.UpTo indexes)
    (hpos : ∀ side : Side, 0 < side.index indexes)
    (h : self.accumulateDeposit indexes fees reduction = .ok r) :
    (r.amount : ℚ) + r.fees.earnedFee ≤ Side.deposit.worth indexes self + fees.earnedFee := by
  obtain ⟨fee, hamount, hfees, hnone, hsome⟩ := accumulateDeposit_spec h
  have hearned : r.fees.earnedFee = fees.earnedFee + fee := by rw [hfees]
  have hle := hself.le .deposit
  have hzero := hself.zero .deposit
  simp only [Side.applied, Side.index, Side.amount] at hle hzero
  have hcovered : ((r.amount + fee : ℕ) : ℚ) ≤ Side.deposit.worth indexes self := by
    by_cases hc : self.deposit ≠ 0 ∧ self.appliedDepositIndexE18 ≠ 0
        ∧ self.appliedDepositIndexE18 < indexes.depositIndexE18
    · rw [hamount, hsome hc]
      exact Indexed.floor_le_worth
    · obtain ⟨hi, hf⟩ := hnone (by omega)
      rw [hamount, hi, hf, add_zero, add_zero]
      by_cases hd : self.deposit = 0
      · rw [hd, Nat.cast_zero]
        exact Indexed.worth_nonneg
      · have heq : self.appliedDepositIndexE18 = indexes.depositIndexE18 := by omega
        exact (Side.deposit.worth_self heq (hpos .deposit)).ge
  rw [hearned]
  push_cast at hcovered ⊢
  linarith

/-- The debt that an accrual leaves covers the worth and the fee. -/
lemma accumulateDebt_worth {r : SideAccrual} (hself : self.UpTo indexes)
    (hpos : ∀ side : Side, 0 < side.index indexes)
    (h : self.accumulateDebt indexes fees reduction = .ok r) :
    Side.debt.worth indexes self + r.fees.earnedFee ≤ r.amount + fees.earnedFee := by
  obtain ⟨fee, hamount, hfees, hnone, hsome⟩ := accumulateDebt_spec h
  have hearned : r.fees.earnedFee = fees.earnedFee + fee := by rw [hfees]
  have hle := hself.le .debt
  have hzero := hself.zero .debt
  simp only [Side.applied, Side.index, Side.amount] at hle hzero
  have hcovered : Side.debt.worth indexes self + fee ≤ (r.amount : ℚ) := by
    by_cases hc : self.debt ≠ 0 ∧ self.appliedDebtIndexE18 ≠ 0
        ∧ self.appliedDebtIndexE18 < indexes.debtIndexE18
    · rw [hamount, hsome hc]
      push_cast
      exact add_le_add_left (Indexed.worth_le_ceil (Nat.pos_of_ne_zero hc.2.1)) _
    · obtain ⟨hi, hf⟩ := hnone (by omega)
      rw [hamount, hi, hf, add_zero, Nat.cast_zero, add_zero]
      by_cases hd : self.debt = 0
      · rw [Side.worth, Side.amount, hd, Indexed.worth_zero, Nat.cast_zero]
      · have heq : self.appliedDebtIndexE18 = indexes.debtIndexE18 := by omega
        exact (Side.debt.worth_self heq (hpos .debt)).le
  rw [hearned]
  push_cast
  linarith

/-- An accrued position has caught up. -/
lemma accumulateAccountInterest_applied {r : Accrual} (hself : self.UpTo indexes)
    (h : self.accumulateAccountInterest indexes fees reductions = .ok r) :
    r.data.CaughtUp indexes := by
  have hd := hself.le .deposit
  have hb := hself.le .debt
  simp only [Side.applied, Side.index] at hd hb
  rw [accumulateAccountInterest] at h
  split_ifs at h with hc
  · simp only [Except.ok.injEq] at h
    subst h
    intro side
    cases side with
    | deposit => exact le_antisymm hd hc.1
    | debt => exact le_antisymm hb hc.2
  · simp only [bind_eq_ok, pure_eq, Except.ok.injEq] at h
    obtain ⟨_, _, _, _, rfl⟩ := h
    intro side
    cases side <;> rfl

/-- **Settling interest does not raise what is owed**: the amounts and the income after an
accrual are covered by the claim of the position and the income before it. -/
theorem accumulateAccountInterest_claim {r : Accrual} (hself : self.UpTo indexes)
    (hpos : ∀ side : Side, 0 < side.index indexes)
    (h : self.accumulateAccountInterest indexes fees reductions = .ok r) :
    (r.data.deposit : ℚ) - r.data.debt + r.fees.earnedFee
      ≤ self.claim indexes + fees.earnedFee := by
  have hcaught := accumulateAccountInterest_applied hself h
  rw [accumulateAccountInterest] at h
  split_ifs at h with hc
  · simp only [Except.ok.injEq] at h
    subst h
    rw [hcaught.claim hpos]
  · simp only [bind_eq_ok, pure_eq, Except.ok.injEq] at h
    obtain ⟨onDeposit, hd, onDebt, hb, rfl⟩ := h
    have hdeposit := accumulateDeposit_worth hself hpos hd
    have hdebt := accumulateDebt_worth hself hpos hb
    rw [claim]
    simp only
    linarith

end AccountReserveData

/-! ### One action -/

/-- What an action pays into the reserve. -/
def Action.inflow (action : Action) : ℤ :=
  match action.op with
  | .deposit | .repay => action.amount
  | .withdraw | .borrow => -action.amount

/-- Entering an amount changes the difference of a holding by the inflow. -/
lemma Holding.enter_difference (action : Action) (self : Holding) :
    (((self.enter action.op (action.settled self)).deposit : ℚ)
        - (self.enter action.op (action.settled self)).debt)
      = self.deposit - self.debt
        + (({ action with amount := action.settled self } : Action).inflow : ℤ) := by
  obtain ⟨op, asset, amount⟩ := action
  cases op with
  | deposit =>
      simp only [enter, Action.settled, Action.inflow]
      push_cast
      ring
  | withdraw =>
      have hle : min amount self.deposit ≤ self.deposit := min_le_right ..
      simp only [enter, Action.settled, Action.inflow]
      push_cast [Nat.cast_sub hle]
      ring
  | borrow =>
      simp only [enter, Action.settled, Action.inflow]
      push_cast
      ring
  | repay =>
      have hle : min amount self.debt ≤ self.debt := min_le_right ..
      simp only [enter, Action.settled, Action.inflow]
      push_cast [Nat.cast_sub hle]
      ring

/-- **An action changes what is owed by at most what it pays in.** -/
theorem Action.step_claim [Pendzl] {action : Action} {ctx : ReserveDataContext}
    {data : AccountReserveData} {config : AccountConfig} {feeReductions : FeeReductions} {st : Step}
    (hdata : data.UpTo ctx.reserveIndexesAndFees.indexes)
    (hpos : ∀ side : Side, 0 < side.index ctx.reserveIndexesAndFees.indexes)
    (h : action.step ctx data config feeReductions = .ok st) :
    st.data.CaughtUp ctx.reserveIndexesAndFees.indexes
      ∧ st.data.claim ctx.reserveIndexesAndFees.indexes
          + st.ctx.reserveIndexesAndFees.fees.earnedFee
        ≤ data.claim ctx.reserveIndexesAndFees.indexes
          + ctx.reserveIndexesAndFees.fees.earnedFee
          + (({ action with amount := st.amount } : Action).inflow : ℤ) := by
  obtain ⟨a, ha, hamount, hholding, hd, hb, hreserve⟩ := Action.step_settles h
  have haccrued := AccountReserveData.accumulateAccountInterest_applied hdata ha
  have hcaught : st.data.CaughtUp ctx.reserveIndexesAndFees.indexes := by
    intro side
    rw [← haccrued side]
    cases side with
    | deposit => exact hd
    | debt => exact hb
  have hclaim := AccountReserveData.accumulateAccountInterest_claim hdata hpos ha
  have hdifference := Holding.enter_difference action a.data.holding
  rw [← hamount, ← hholding] at hdifference
  simp only [AccountReserveData.holding] at hdifference
  refine ⟨hcaught, ?_⟩
  rw [hcaught.claim hpos, hdifference, hreserve]
  simp only
  linarith

/-! ### Time -/

section

variable [Pendzl] {a b v index rate total delta index' : ℕ}

/-- Multiplying, rounded down, gives at most the product. -/
lemma e18MulE18ToE18Rdown_le (h : e18MulE18ToE18Rdown a b = .ok v) : (v : ℚ) ≤ a * (b / E18) := by
  have hE : ((E18 : ℕ) : ℚ) ≠ 0 := by norm_num
  rw [e18MulE18ToE18Rdown] at h
  split_ifs at h with h1 h2
  · simp only [Except.ok.injEq] at h
    rw [h1, h, mul_div_cancel₀ _ hE]
  · simp only [Except.ok.injEq] at h
    rw [h2, h, div_self hE, mul_one]
  · rw [mulDiv_eq_ok] at h
    obtain ⟨-, hv, -⟩ := h
    rw [hv, exactDiv, ← mul_div_assoc, ← Nat.cast_mul]
    exact Nat.cast_div_le

/-- Multiplying, rounded up, gives at least the product. -/
lemma e18MulE18ToE18Rup_ge (h : e18MulE18ToE18Rup a b = .ok v) : (a : ℚ) * (b / E18) ≤ v := by
  have hE : ((E18 : ℕ) : ℚ) ≠ 0 := by norm_num
  rw [e18MulE18ToE18Rup] at h
  split_ifs at h with h1 h2
  · simp only [Except.ok.injEq] at h
    rw [h1, h, mul_div_cancel₀ _ hE]
  · simp only [Except.ok.injEq] at h
    rw [h2, h, div_self hE, mul_one]
  · rw [mulDiv_eq_ok] at h
    obtain ⟨hpos, hv, -⟩ := h
    have hworth : Indexed.worth b a E18 ≤ (v : ℚ) := by
      rw [hv, exactDiv]
      exact Indexed.worth_le_ceil hpos
    rwa [Indexed.worth, div_mul_eq_mul_div, mul_div_assoc] at hworth

omit [Pendzl] in
/-- What one period does to an index. -/
lemma ReserveIndexes.nextIndex_ok {mul : ℕ → ℕ → Res ℕ}
    (h : nextIndex mul index rate total delta = .ok index') :
    ((rate = 0 ∨ total = 0) ∧ index' = index)
      ∨ (rate ≠ 0 ∧ total ≠ 0 ∧ mul index (E18 + rate * delta) = .ok index') := by
  rw [nextIndex] at h
  split_ifs at h with hc
  · simp only [e18MulE0ToE18, bind_eq_ok, unwrap_eq_ok, okOr_eq_ok, checkedMul_eq_some,
      checkedAdd_eq_some] at h
    obtain ⟨_, ⟨rfl, -⟩, _, ⟨rfl, -⟩, h⟩ := h
    exact .inr ⟨hc.1, hc.2, h⟩
  · simp only [Except.ok.injEq] at h
    exact .inl ⟨by tauto, h.symm⟩

omit [Pendzl] in
/-- The factor by which one period multiplies an index. -/
lemma growth_factor (rate delta : ℕ) :
    (((E18 + rate * delta : ℕ) : ℚ) / E18) = 1 + rate * (delta / E18) := by
  push_cast
  rw [add_div, div_self (by norm_num), mul_div_assoc]

end

namespace LendingPoolStorage

variable {s : LendingPoolStorage} {k : ℕ}

/-- What a side of a reserve is worth at some indexes. -/
def worth (s : LendingPoolStorage) (side : Side) (k : ℕ) (indexes : ReserveIndexes) : ℚ :=
  ∑ a, side.worth indexes (s.position a k)

/-- What a reserve owes: the claims of all accounts, and the income it earned. -/
def claims (s : LendingPoolStorage) (k : ℕ) (indexes : ReserveIndexes) (earnedFee : ℕ) : ℚ :=
  ∑ a, (s.position a k).claim indexes + earnedFee

/-- The stored total of the deposits is no staler than the one of the debts: next to what
they are worth before time `t` passes, it understates the deposits no more than the total
of the debts understates the debts.  A reserve whose deposits earn nothing is never
stale. -/
def DepositsNoStaler (s : LendingPoolStorage) (k t : ℕ) : Prop :=
  ∀ rd r, s.reserveDatas.get k = some rd → s.reserveIndexesAndFees.get k = some r →
    r.indexes.updateTimestamp < t → rd.currentDepositRateE18 ≠ 0 → rd.totalDeposit ≠ 0 →
    rd.totalDebt * s.worth .deposit k r.indexes ≤ rd.totalDeposit * s.worth .debt k r.indexes

lemma claims_eq (indexes : ReserveIndexes) (earnedFee : ℕ) :
    s.claims k indexes earnedFee
      = s.worth .deposit k indexes - s.worth .debt k indexes + earnedFee := by
  simp only [claims, worth, AccountReserveData.claim, Finset.sum_sub_distrib]

lemma worth_nonneg (side : Side) (indexes : ReserveIndexes) : 0 ≤ s.worth side k indexes :=
  Finset.sum_nonneg fun _ _ => Indexed.worth_nonneg

lemma worth_mono (side : Side) {indexes indexes' : ReserveIndexes}
    (h : side.index indexes ≤ side.index indexes') :
    s.worth side k indexes ≤ s.worth side k indexes' :=
  Finset.sum_le_sum fun _ _ => Indexed.worth_mono h

/-- The worth grows by at most the factor of its index. -/
lemma worth_le_of_growth (side : Side) {indexes indexes' : ReserveIndexes} {growth : ℚ}
    (h : (side.index indexes' : ℚ) ≤ side.index indexes * (1 + growth)) :
    s.worth side k indexes' ≤ s.worth side k indexes * (1 + growth) := by
  rw [worth, worth, Finset.sum_mul]
  exact Finset.sum_le_sum fun _ _ => Indexed.worth_le_of_growth h

/-- The worth grows by at least the factor of its index. -/
lemma worth_ge_of_growth (side : Side) {indexes indexes' : ReserveIndexes} {growth : ℚ}
    (h : (side.index indexes : ℚ) * (1 + growth) ≤ side.index indexes') :
    s.worth side k indexes * (1 + growth) ≤ s.worth side k indexes' := by
  rw [worth, worth, Finset.sum_mul]
  exact Finset.sum_le_sum fun _ _ => Indexed.worth_ge_of_growth h

/-- **Time does not raise what is owed**, as long as the stored total of the deposits is no
staler than the one of the debts. -/
theorem claims_update [Pendzl] {rd : ReserveData} {indexes indexes' : ReserveIndexes} {t : ℕ}
    (hrates : rd.currentDepositRateE18 * rd.totalDeposit ≤ rd.totalDebt * rd.currentDebtRateE18)
    (hstale : indexes.updateTimestamp < t → rd.currentDepositRateE18 ≠ 0 → rd.totalDeposit ≠ 0 →
      rd.totalDebt * s.worth .deposit k indexes ≤ rd.totalDeposit * s.worth .debt k indexes)
    (h : indexes.update rd t = .ok indexes') (earnedFee : ℕ) :
    s.claims k indexes' earnedFee ≤ s.claims k indexes earnedFee := by
  have hdebtMono := (ReserveIndexes.update_mono h).2
  rw [ReserveIndexes.update, bind_eq_ok] at h
  obtain ⟨delta, hdelta, h⟩ := h
  simp only [okOr_eq_ok, checkedSub_eq_some] at hdelta
  split_ifs at h with h0
  · simp only [pure_eq, Except.ok.injEq] at h
    rw [h]
  · simp only [bind_eq_ok, pure_eq, Except.ok.injEq] at h
    obtain ⟨depositIndex, hdeposit, debtIndex, hdebt, rfl⟩ := h
    rw [claims_eq, claims_eq]
    rcases ReserveIndexes.nextIndex_ok hdeposit with ⟨-, rfl⟩ | ⟨hrate, htotal, hmul⟩
    · -- the deposits earn nothing in this period
      have hsame : s.worth .deposit k ⟨indexes.depositIndexE18, debtIndex, t⟩
          = s.worth .deposit k indexes := rfl
      have hgrows : s.worth .debt k indexes
          ≤ s.worth .debt k ⟨indexes.depositIndexE18, debtIndex, t⟩ := worth_mono .debt hdebtMono
      rw [hsame]
      linarith
    · rcases ReserveIndexes.nextIndex_ok hdebt with ⟨hzero, -⟩ | ⟨-, -, hmul'⟩
      · -- a positive deposit rate needs a debt rate and a debt
        have : 0 < rd.currentDepositRateE18 * rd.totalDeposit := by positivity
        rcases hzero with hz | hz <;> simp [hz] at hrates <;> omega
      · set period : ℚ := (delta : ℚ) / E18 with hperiod
        have hearned := e18MulE18ToE18Rdown_le hmul
        have hpaid := e18MulE18ToE18Rup_ge hmul'
        rw [growth_factor] at hearned hpaid
        have hnonneg : 0 ≤ period := by positivity
        have hrates' : (rd.currentDepositRateE18 : ℚ) * rd.totalDeposit
            ≤ rd.totalDebt * rd.currentDebtRateE18 := by exact_mod_cast hrates
        have hcover : s.worth .deposit k indexes * rd.currentDepositRateE18
            ≤ s.worth .debt k indexes * rd.currentDebtRateE18 :=
          Indexed.growth_covered (by positivity) (worth_nonneg .deposit indexes) (by positivity)
            hrates' (hstale (by omega) hrate htotal)
        have hgain : s.worth .deposit k ⟨depositIndex, debtIndex, t⟩
            ≤ s.worth .deposit k indexes * (1 + rd.currentDepositRateE18 * period) :=
          worth_le_of_growth .deposit hearned
        have hcost : s.worth .debt k indexes * (1 + rd.currentDebtRateE18 * period)
            ≤ s.worth .debt k ⟨depositIndex, debtIndex, t⟩ := worth_ge_of_growth .debt hpaid
        have hperiodic := mul_le_mul_of_nonneg_right hcover hnonneg
        linarith

end LendingPoolStorage

end AbaxLending
