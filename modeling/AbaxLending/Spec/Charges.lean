import AbaxLending.Spec.Interest
import AbaxLending.Spec.Transfers

/-!
The fees that a message charges in one reserve.

Every basic step accrues the position it works on once, and adds the fee of that accrual to
the earned fee of its reserve (`Step.Charges`).  `chargeAt` is the fee that a call of
`accumulate_account_interest` charges on a position, with the indexes and the fee parameters
that the reserve has at the time of the call.

* `applyActions_earnedFee`: the fees of a list of actions, call by call;
* `Liquidation.earnedFee`: of a liquidation; when both assets are the same, the second call for
  the liquidated account finds its position up to date and charges nothing;
* `DepositTransfer.earnedFee`, `DebtTransfer.earnedFee`: of the transfers.
-/

namespace AbaxLending

open Outcome

/-- The fee that an accrual of a position charges against the indexes and fees of a context. -/
def ReserveDataContext.charge (ctx : ReserveDataContext) (data : AccountReserveData)
    (reductions : FeeReductions) : ℕ :=
  data.depositCharge ctx.reserveIndexesAndFees.indexes
      ctx.reserveIndexesAndFees.fees.depositFeeE6 reductions.1
    + data.debtCharge ctx.reserveIndexesAndFees.indexes
      ctx.reserveIndexesAndFees.fees.debtFeeE6 reductions.2

/-- The step adds a fee to the earned fee, and changes nothing else of the indexes and fees. -/
def Step.Charges (ctx : ReserveDataContext) (fee : ℕ) (st : Step) : Prop :=
  st.ctx.reserveIndexesAndFees = { ctx.reserveIndexesAndFees with
    fees := { ctx.reserveIndexesAndFees.fees with
      earnedFee := ctx.reserveIndexesAndFees.fees.earnedFee + fee } }

namespace ReserveDataContext

variable [Pendzl] {ctx ctx' : ReserveDataContext} {data : AccountReserveData}
  {config : AccountConfig} {feeReductions : FeeReductions} {amount : ℕ} {canMutateAmount : Bool}
  {st : Step}

/-- An accrual adds its charge to the earned fee. -/
lemma accrual_fees {a : Accrual} (h : ctx.accrual data feeReductions = .ok a) :
    a.fees = { ctx.reserveIndexesAndFees.fees with
      earnedFee := ctx.reserveIndexesAndFees.fees.earnedFee + ctx.charge data feeReductions } :=
  (AccountReserveData.accumulateAccountInterest_amounts h).2.2

/-- A position that was accrued against the same indexes is charged nothing. -/
lemma charge_again {a : Accrual} {data' : AccountReserveData}
    (h : ctx.accrual data feeReductions = .ok a)
    (hd : data'.appliedDepositIndexE18 = a.data.appliedDepositIndexE18)
    (hb : data'.appliedDebtIndexE18 = a.data.appliedDebtIndexE18)
    (hindexes : ctx'.reserveIndexesAndFees.indexes = ctx.reserveIndexesAndFees.indexes)
    (reductions : FeeReductions) : ctx'.charge data' reductions = 0 := by
  have hagain : ctx'.accrual data' reductions
      = .ok ⟨data', ctx'.reserveIndexesAndFees.fees, 0, 0⟩ := by
    rw [accrual, hindexes]
    exact AccountReserveData.accumulateAccountInterest_again h hd hb _ reductions
  have hfees := congrArg ReserveFees.earnedFee (accrual_fees hagain)
  simp only at hfees
  omega

lemma accountForDeposit_charges
    (h : ctx.accountForDeposit data config feeReductions amount = .ok st) :
    st.Charges ctx (ctx.charge data feeReductions) := by
  obtain ⟨a, ha, -, -, -, -, rfl⟩ := accountForDeposit_ok h
  rw [Step.Charges, after, accrual_fees ha]

lemma accountForWithdraw_charges
    (h : ctx.accountForWithdraw data config feeReductions amount canMutateAmount = .ok st) :
    st.Charges ctx (ctx.charge data feeReductions) := by
  obtain ⟨a, n, ha, -, -, -, -, -, -, rfl⟩ := accountForWithdraw_ok h
  rw [Step.Charges, after, accrual_fees ha]

lemma accountForBorrow_charges
    (h : ctx.accountForBorrow data config feeReductions amount = .ok st) :
    st.Charges ctx (ctx.charge data feeReductions) := by
  obtain ⟨a, ha, -, -, -, -, -, rfl⟩ := accountForBorrow_ok h
  rw [Step.Charges, after, accrual_fees ha]

lemma accountForRepay_charges
    (h : ctx.accountForRepay data config feeReductions amount canMutateAmount = .ok st) :
    st.Charges ctx (ctx.charge data feeReductions) := by
  obtain ⟨a, n, ha, -, -, -, -, -, -, -, rfl⟩ := accountForRepay_ok h
  rw [Step.Charges, after, accrual_fees ha]

omit [Pendzl] in
/-- The charge depends on the indexes and the fee parameters only. -/
lemma charge_congr
    (hindexes : ctx'.reserveIndexesAndFees.indexes = ctx.reserveIndexesAndFees.indexes)
    (hfees : ctx.reserveIndexesAndFees.fees.Below ctx'.reserveIndexesAndFees.fees) :
    ctx'.charge data feeReductions = ctx.charge data feeReductions := by
  rw [charge, charge, hindexes, ← hfees.depositFeeE6, ← hfees.debtFeeE6]

omit [Pendzl] in
/-- After a step other positions are charged as before it. -/
lemma charge_after {fee : ℕ} (h : st.Charges ctx fee) :
    st.ctx.charge data feeReductions = ctx.charge data feeReductions := by
  rw [charge, charge, show st.ctx.reserveIndexesAndFees = _ from h]

end ReserveDataContext

/-- Every action charges its account. -/
lemma Action.step_charges [Pendzl] {action : Action} {ctx : ReserveDataContext}
    {data : AccountReserveData} {config : AccountConfig} {feeReductions : FeeReductions} {st : Step}
    (h : action.step ctx data config feeReductions = .ok st) :
    st.Charges ctx (ctx.charge data feeReductions) := by
  obtain ⟨op, asset, amount⟩ := action
  cases op with
  | deposit => exact ReserveDataContext.accountForDeposit_charges h
  | withdraw => exact ReserveDataContext.accountForWithdraw_charges h
  | borrow => exact ReserveDataContext.accountForBorrow_charges h
  | repay => exact ReserveDataContext.accountForRepay_charges h

namespace LendingPoolStorage

/-- The earned fee of a reserve. -/
def earnedFee (s : LendingPoolStorage) (k : ℕ) : ℕ :=
  ((s.reserveIndexesAndFees.get k).map fun r => r.fees.earnedFee).getD 0

lemma earnedFee_of_get {s : LendingPoolStorage} {k : ℕ} {r : ReserveIndexesAndFees}
    (h : s.reserveIndexesAndFees.get k = some r) : s.earnedFee k = r.fees.earnedFee := by
  rw [earnedFee, h]
  rfl

lemma earnedFee_congr {s s' : LendingPoolStorage}
    (h : s'.reserveIndexesAndFees = s.reserveIndexesAndFees) : s'.earnedFee = s.earnedFee := by
  funext k
  rw [earnedFee, earnedFee, h]

lemma earnedFee_of_insert {s s' : LendingPoolStorage} {j : ℕ} {r : ReserveIndexesAndFees}
    (h : s'.reserveIndexesAndFees = s.reserveIndexesAndFees.insert j r) (k : ℕ) :
    s'.earnedFee k = if k = j then r.fees.earnedFee else s.earnedFee k := by
  rw [earnedFee, h, Mapping.get_insert]
  split_ifs <;> rfl

variable [Pendzl] {s : LendingPoolStorage} {k t : ℕ}

/-- The fee that `accumulate_account_interest` charges on a position in a reserve at a time. -/
def chargeAt (s : LendingPoolStorage) (k t : ℕ) (data : AccountReserveData)
    (reductions : FeeReductions) : ℕ :=
  match s.reserveDatas.get k, s.reserveIndexesAndFees.get k with
  | some rd, some r =>
      match r.indexes.update rd t with
      | .ok indexes => data.depositCharge indexes r.fees.depositFeeE6 reductions.1
          + data.debtCharge indexes r.fees.debtFeeE6 reductions.2
      | .error _ => 0
  | _, _ => 0

/-- In an opened reserve it is the charge of the context. -/
lemma Opened.chargeAt {ctx : ReserveDataContext} (h : s.Opened k t ctx) (data : AccountReserveData)
    (reductions : FeeReductions) : s.chargeAt k t data reductions = ctx.charge data reductions := by
  obtain ⟨r, hr, hup, hfees⟩ := h.indexes
  simp only [LendingPoolStorage.chargeAt, h.reserveData, hr, hup, ReserveDataContext.charge, hfees]

/-- An opened reserve has the earned fee of its context. -/
lemma Opened.earnedFee {ctx : ReserveDataContext} (h : s.Opened k t ctx) :
    s.earnedFee k = ctx.reserveIndexesAndFees.fees.earnedFee := by
  obtain ⟨r, hr, -, hfees⟩ := h.indexes
  rw [earnedFee_of_get hr, hfees]

end LendingPoolStorage

/-! ### Actions -/

namespace AccountActionsState

variable [Pendzl] {st st' : AccountActionsState} {feeReductions : FeeReductions} {t : ℕ}

/-- The fees that the calls of `accumulate_account_interest` charge in a reserve during a list of
actions, each on the local position at the time of its action. -/
def charges (st : AccountActionsState) (feeReductions : FeeReductions) (t k : ℕ) :
    List Action → ℕ
  | [] => 0
  | action :: rest =>
      (if st.storage.assetToId.get action.asset = some k then
          st.storage.chargeAt k t (st.position k) feeReductions else 0)
        + match st.applyAction feeReductions t action with
          | .ok (st', _) => charges st' feeReductions t k rest
          | .error _ => 0

/-- An action adds its charge to the earned fee of the reserve of its asset. -/
lemma applyAction_earnedFee {action action' : Action} {interests : ℕ × ℕ}
    (h : st.applyAction feeReductions t action = .ok (st', action', interests)) (k : ℕ) :
    st'.storage.earnedFee k = st.storage.earnedFee k
      + if st.storage.assetToId.get action.asset = some k then
          st.storage.chargeAt k t (st.position k) feeReductions else 0 := by
  obtain ⟨j, ctx, res, rd, i, e, hj, -, hctx, hact, -, -, -, rfl⟩ := applyAction_ok h
  have hcharge := Action.step_charges hact
  rw [LendingPoolStorage.earnedFee_of_insert (s := st.storage) rfl, hj]
  by_cases hkj : k = j
  · subst hkj
    rw [if_pos rfl, if_pos rfl, hctx.earnedFee, hctx.chargeAt,
      show res.ctx.reserveIndexesAndFees = _ from hcharge]
  · rw [if_neg hkj, if_neg fun heq => hkj (Option.some.inj heq).symm, Nat.add_zero]

/-- **The actions of an account add their charges to the earned fee.** -/
theorem applyActions_earnedFee {actions actions' : List Action} {results : List (ℕ × ℕ)}
    (h : st.applyActions feeReductions t actions = .ok (st', actions', results)) (k : ℕ) :
    st'.storage.earnedFee k = st.storage.earnedFee k + st.charges feeReductions t k actions := by
  induction actions generalizing st actions' results with
  | nil =>
      rw [← (applyActions_nil_ok h).1, charges, Nat.add_zero]
  | cons action rest ih =>
      obtain ⟨st₁, action₁, ints, rest₂, results₂, h₁, h₂, -, -⟩ := applyActions_cons_ok h
      rw [ih h₂, applyAction_earnedFee h₁, charges, h₁, Nat.add_assoc]

end AccountActionsState

namespace LendingPoolStorage

variable [Pendzl] {s : LendingPoolStorage} {env : Env} {k t : ℕ}

/-- The charge on the stored position of an account. -/
def chargeOf (s : LendingPoolStorage) (env : Env) (account : AccountId) (k t : ℕ) : ℕ :=
  s.chargeAt k t (s.position account k) (s.getFeeReductionsOfAccount env account)

/-! ### Transfers -/

/-- Two steps in one reserve charge both accounts. -/
lemma TwoSteps.earnedFee {r : TwoSteps} {fee fee' : ℕ} (hopen : s.Opened r.k t r.ctx)
    (hfirst : r.first.Charges r.ctx fee) (hsecond : r.second.Charges r.first.ctx fee') :
    (r.reserveWritten s).earnedFee k = s.earnedFee k + if k = r.k then fee + fee' else 0 := by
  rw [earnedFee_of_insert (s := s) rfl]
  by_cases hk : k = r.k
  · rw [if_pos hk, if_pos hk, hk, hopen.earnedFee,
      show r.second.ctx.reserveIndexesAndFees = _ from hsecond,
      show r.first.ctx.reserveIndexesAndFees = _ from hfirst, Nat.add_assoc]
  · rw [if_neg hk, if_neg hk, Nat.add_zero]

section

variable {asset fromAccount toAccount : AccountId} {amount : ℕ}

/-- A transfer of a deposit charges the sender and the receiver. -/
lemma DepositTransfer.earnedFee
    (r : DepositTransfer s env asset fromAccount toAccount amount t) (k : ℕ) :
    r.written.earnedFee k = s.earnedFee k
      + if k = r.k then s.chargeOf env fromAccount k t + s.chargeOf env toAccount k t else 0 := by
  have hfirst := ReserveDataContext.accountForWithdraw_charges r.first_ok
  have hsecond := ReserveDataContext.accountForDeposit_charges r.second_ok
  rw [ReserveDataContext.charge_after hfirst] at hsecond
  have hposition : s.position fromAccount r.k = r.fromData := by
    simp [position, entry, r.fromDatas_eq, r.fromData_eq]
  have hwritten : r.written.earnedFee = (r.reserveWritten s).earnedFee := earnedFee_congr rfl
  rw [hwritten, TwoSteps.earnedFee r.opened hfirst hsecond]
  by_cases hk : k = r.k
  · rw [if_pos hk, if_pos hk, hk, chargeOf, chargeOf, r.opened.chargeAt, r.opened.chargeAt,
      hposition]
  · rw [if_neg hk, if_neg hk]

/-- A transfer of a debt charges the giver and the receiver. -/
lemma DebtTransfer.earnedFee
    (r : DebtTransfer s env asset fromAccount toAccount amount t) (k : ℕ) :
    r.written.earnedFee k = s.earnedFee k
      + if k = r.k then s.chargeOf env fromAccount k t + s.chargeOf env toAccount k t else 0 := by
  have hfirst := ReserveDataContext.accountForRepay_charges r.first_ok
  have hsecond := ReserveDataContext.accountForBorrow_charges r.second_ok
  rw [ReserveDataContext.charge_after hfirst] at hsecond
  have hwritten : r.written.earnedFee = (r.reserveWritten s).earnedFee := earnedFee_congr rfl
  rw [hwritten, TwoSteps.earnedFee r.opened hfirst hsecond]
  by_cases hk : k = r.k
  · rw [if_pos hk, if_pos hk, hk, chargeOf, chargeOf, r.opened.chargeAt, r.opened.chargeAt]
  · rw [if_neg hk, if_neg hk]

end

end LendingPoolStorage

end AbaxLending
