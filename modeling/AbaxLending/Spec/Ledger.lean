import AbaxLending.Invariants.Registry
import AbaxLending.Spec.Views

/-!
The actions of an account as entries of a ledger.

For the account, what `account_for_account_actions` computes with indexes, bitmaps and
totals is a ledger: in each asset it has a deposit and a debt, a withdrawal takes at most
the deposit, and a repayment pays at most the debt (`Ledger.settle`).  `ledgerOf` reads
this ledger off the storage, as the balance views show it.

* `Action.step_settles`: a basic step is an entry in the ledger;
* `applyAction_ledger`: so is an action in the loop, also when its asset was touched by
  an earlier action of the same message;
* `accountForAccountActions_ledger`: the ledger after a message is the settled one, and
  the amounts that the message returns are the settled amounts.
-/

namespace AbaxLending

open Outcome

/-! ### Ledgers -/

/-- What an account has and owes in one asset. -/
@[ext] structure Holding where
  deposit : ℕ
  debt : ℕ
  deriving DecidableEq, Repr

/-- What an account has and owes, by asset. -/
abbrev Ledger := AccountId → Holding

/-- The amounts of a position. -/
def AccountReserveData.holding (self : AccountReserveData) : Holding :=
  ⟨self.deposit, self.debt⟩

/-- The amount of a holding on a side. -/
def Side.held : Side → Holding → ℕ
  | .deposit => Holding.deposit
  | .debt => Holding.debt

lemma Side.held_holding (side : Side) (data : AccountReserveData) :
    side.held data.holding = side.amount data := by cases side <;> rfl

/-- The amount with which an action is settled. -/
def Action.settled (action : Action) (holding : Holding) : ℕ :=
  match action.op with
  | .deposit | .borrow => action.amount
  | .withdraw => min action.amount holding.deposit
  | .repay => min action.amount holding.debt

/-- An amount entered. -/
def Holding.enter (self : Holding) (op : Operation) (amount : ℕ) : Holding :=
  match op with
  | .deposit => { self with deposit := self.deposit + amount }
  | .withdraw => { self with deposit := self.deposit - amount }
  | .borrow => { self with debt := self.debt + amount }
  | .repay => { self with debt := self.debt - amount }

namespace Ledger

/-- One action entered. -/
def enter (self : Ledger) (action : Action) : Ledger :=
  Function.update self action.asset
    ((self action.asset).enter action.op (action.settled (self action.asset)))

/-- A list of actions entered: the ledger it leaves, and the actions with the amounts with
which they are settled. -/
def settle (self : Ledger) : List Action → Ledger × List Action
  | [] => (self, [])
  | action :: rest =>
      let settled := (self.enter action).settle rest
      (settled.1, { action with amount := action.settled (self action.asset) } :: settled.2)

end Ledger

/-! ### One step -/

variable [Pendzl]

/-- **A basic step enters its amount in the accrued position**, which keeps its applied
indexes; of the indexes and the fees of the reserve, the step keeps what the accrual left. -/
theorem Action.step_settles {action : Action} {ctx : ReserveDataContext}
    {data : AccountReserveData} {config : AccountConfig} {feeReductions : FeeReductions} {st : Step}
    (h : action.step ctx data config feeReductions = .ok st) :
    ∃ a, ctx.accrual data feeReductions = .ok a
      ∧ st.amount = action.settled a.data.holding
      ∧ st.data.holding = a.data.holding.enter action.op st.amount
      ∧ st.data.appliedDepositIndexE18 = a.data.appliedDepositIndexE18
      ∧ st.data.appliedDebtIndexE18 = a.data.appliedDebtIndexE18
      ∧ st.ctx.reserveIndexesAndFees = { ctx.reserveIndexesAndFees with fees := a.fees } := by
  obtain ⟨op, asset, amount⟩ := action
  cases op with
  | deposit =>
      obtain ⟨a, ha, -, -, -, -, rfl⟩ := ReserveDataContext.accountForDeposit_ok h
      exact ⟨a, ha, rfl, rfl, rfl, rfl, rfl⟩
  | withdraw =>
      obtain ⟨a, n, ha, hn, -, -, -, -, -, rfl⟩ := ReserveDataContext.accountForWithdraw_ok h
      rw [clip_eq_min] at hn
      exact ⟨a, ha, hn, rfl, rfl, rfl, rfl⟩
  | borrow =>
      obtain ⟨a, ha, -, -, -, -, -, rfl⟩ := ReserveDataContext.accountForBorrow_ok h
      exact ⟨a, ha, rfl, rfl, rfl, rfl, rfl⟩
  | repay =>
      obtain ⟨a, n, ha, hn, -, -, -, -, -, -, rfl⟩ := ReserveDataContext.accountForRepay_ok h
      rw [clip_eq_min] at hn
      exact ⟨a, ha, hn, rfl, rfl, rfl, rfl⟩

namespace LendingPoolStorage

/-! ### The ledger of an account -/

/-- The ledger of an account at a time, as the balance views show it; an asset without a
view holds nothing. -/
def ledgerOf (s : LendingPoolStorage) (env : Env) (account : AccountId) (t : ℕ) : Ledger :=
  fun asset =>
    match s.accruedDataOf env asset account t with
    | .ok data => data.holding
    | .error _ => ⟨0, 0⟩

variable {s s' : LendingPoolStorage} {env : Env} {account asset : AccountId} {k t : ℕ}

lemma ledgerOf_of_ok {data : AccountReserveData}
    (h : s.accruedDataOf env asset account t = .ok data) :
    s.ledgerOf env account t asset = data.holding := by
  simp only [ledgerOf, h]

/-- What is accrued of a position depends on the reserve of the asset, the position, and
the fee reductions. -/
lemma accruedDataOf_congr (hids : s'.assetToId = s.assetToId)
    (hprovider : s'.feeReductionProvider = s.feeReductionProvider)
    (hk : ∀ k, s.assetToId.get asset = some k →
      s'.reserveDatas.get k = s.reserveDatas.get k
      ∧ s'.reserveIndexesAndFees.get k = s.reserveIndexesAndFees.get k
      ∧ s'.position account k = s.position account k) :
    s'.accruedDataOf env asset account t = s.accruedDataOf env asset account t := by
  cases hasset : s.assetToId.get asset with
  | none => simp only [accruedDataOf, assetId, hids, hasset, okOr, error_bind]
  | some k =>
      obtain ⟨hrd, hr, hposition⟩ := hk k hasset
      simp only [accruedDataOf, assetId, hids, getReserveData, hrd, getReserveIndexesAndFees, hr,
        getAccountReserveData_eq, hposition, getFeeReductionsOfAccount, hprovider, hasset, okOr,
        ok_bind]

/-- The loop over the actions of an account starts from the stored ledger. -/
lemma startActions_ledgerOf (s : LendingPoolStorage) (env : Env) (account : AccountId) (t : ℕ) :
    ((s.startActions account).flush account).ledgerOf env account t
      = s.ledgerOf env account t := by
  funext asset
  have haccrued : ((s.startActions account).flush account).accruedDataOf env asset account t
      = s.accruedDataOf env asset account t :=
    accruedDataOf_congr rfl rfl fun k _ => ⟨rfl, rfl, startActions_flush_position account account k⟩
  rw [ledgerOf, ledgerOf, haccrued]

/-- In the loop the ledger shows the accrual of the local position. -/
lemma flush_ledgerOf {st : AccountActionsState} {ctx : ReserveDataContext} {a : Accrual}
    (hk : st.storage.assetToId.get asset = some k) (hopen : st.storage.Opened k t ctx)
    (ha : ctx.accrual (st.position k) (st.storage.getFeeReductionsOfAccount env account) = .ok a) :
    (st.flush account).ledgerOf env account t asset = a.data.holding := by
  have hopen' : (st.flush account).Opened k t ctx :=
    ⟨hopen.assetId, hopen.reserveData, hopen.restrictions, hopen.indexes⟩
  refine ledgerOf_of_ok (hopen'.accruedDataOf hk rfl (.refl _) ?_)
  rw [AccountActionsState.flush_position_self]
  exact ha

/-- **An action is an entry in the ledger**: its amount is the settled one, and the ledger
shows the entry and nothing else. -/
theorem applyAction_ledger {st st' : AccountActionsState} {action action' : Action}
    {interests : ℕ × ℕ} (hids : st.storage.IdsUnique)
    (h : st.applyAction (st.storage.getFeeReductionsOfAccount env account) t action
      = .ok (st', action', interests)) :
    action' = { action with
        amount := action.settled ((st.flush account).ledgerOf env account t action.asset) }
      ∧ (st'.flush account).ledgerOf env account t
        = ((st.flush account).ledgerOf env account t).enter action := by
  obtain ⟨k, ctx, res, rd, i, e, hk, hlen, hopen, hstep, -, hact, -, hst'⟩ :=
    AccountActionsState.applyAction_ok h
  obtain ⟨a, ha, hamount, hholding, hd, hb, hreserve⟩ := Action.step_settles hstep
  have hindexes : res.ctx.reserveIndexesAndFees.indexes = ctx.reserveIndexesAndFees.indexes := by
    rw [hreserve]
  have hbefore : (st.flush account).ledgerOf env account t action.asset = a.data.holding :=
    flush_ledgerOf hk hopen ha
  refine ⟨by rw [hact, hamount, hbefore], ?_⟩
  have hposition : ∀ a j, (st'.flush account).position a j
      = if a = account ∧ j = k then res.data else (st.flush account).position a j :=
    AccountActionsState.flush_position_set hlen (hst' ▸ rfl) (hst' ▸ rfl)
  obtain ⟨r, -, hupdate, -⟩ := hopen.indexes
  -- the position of the action was just accrued, so accruing it again changes nothing
  have hafter : (st'.flush account).accruedDataOf env action.asset account t = .ok res.data := by
    have hagain := AccountReserveData.accumulateAccountInterest_again ha hd hb
      res.ctx.reserveIndexesAndFees.fees (st.storage.getFeeReductionsOfAccount env account)
    rw [← hindexes] at hupdate hagain
    have hself : (st'.flush account).position account k = res.data := by
      rw [hposition, if_pos ⟨rfl, rfl⟩]
    simp only [accruedDataOf, assetId, getReserveData, getReserveIndexesAndFees,
      getAccountReserveData_eq, bind_eq_ok, okOr_eq_ok, unwrap_eq_ok, pure_eq, Except.ok.injEq]
    subst hst'
    refine ⟨k, hk, rd, Mapping.get_insert_self .., _, Mapping.get_insert_self .., _,
      ReserveIndexes.update_again hupdate rd, ⟨res.data, res.ctx.reserveIndexesAndFees.fees, 0, 0⟩,
      ?_, rfl⟩
    rw [hself]
    exact hagain
  funext asset
  rw [Ledger.enter]
  by_cases hasset : asset = action.asset
  · subst hasset
    rw [Function.update_self, ledgerOf_of_ok hafter, hholding, hamount, hbefore]
  · rw [Function.update_of_ne hasset]
    have hother : (st'.flush account).accruedDataOf env asset account t
        = (st.flush account).accruedDataOf env asset account t := by
      refine accruedDataOf_congr (hst' ▸ rfl) (hst' ▸ rfl) fun j hj => ?_
      have hjk : j ≠ k := by
        rintro rfl
        exact hasset (hids.inj asset action.asset j hj hk)
      rw [hposition, if_neg fun hc => hjk hc.2, hst']
      exact ⟨Mapping.get_insert_of_ne _ hjk _, Mapping.get_insert_of_ne _ hjk _, rfl⟩
    rw [ledgerOf, ledgerOf, hother]

/-- The run lemma of the ledger. -/
lemma applyActions_ledger {st st' : AccountActionsState} {actions actions' : List Action}
    {results : List (ℕ × ℕ)} {feeReductions : FeeReductions} (hids : st.storage.IdsUnique)
    (hreductions : feeReductions = st.storage.getFeeReductionsOfAccount env account)
    (h : st.applyActions feeReductions t actions = .ok (st', actions', results)) :
    ((st'.flush account).ledgerOf env account t, actions')
      = ((st.flush account).ledgerOf env account t).settle actions := by
  induction actions generalizing st actions' results with
  | nil =>
      obtain ⟨rfl, rfl, -⟩ := AccountActionsState.applyActions_nil_ok h
      rfl
  | cons action rest ih =>
      obtain ⟨st₁, action₁, ints, rest₂, results₂, h₁, h₂, rfl, -⟩ :=
        AccountActionsState.applyActions_cons_ok h
      have hkeeps := applyAction_keepsRegistry h₁
      subst hreductions
      obtain ⟨hamount, hledger⟩ := applyAction_ledger hids h₁
      have hreductions : st.storage.getFeeReductionsOfAccount env account
          = st₁.storage.getFeeReductionsOfAccount env account := by
        obtain ⟨_, _, _, _, _, _, -, -, -, -, -, -, -, rfl⟩ :=
          AccountActionsState.applyAction_ok h₁
        rfl
      have hrest := ih (hids.keepsRegistry hkeeps) hreductions h₂
      rw [hledger, Prod.ext_iff] at hrest
      rw [Ledger.settle, ← hrest.1, ← hrest.2, hamount]

/-- **The actions of an account are settled in its ledger**: the amounts that are returned
are the settled ones, and the ledger afterwards is the one they leave. -/
theorem accountForAccountActions_ledger {actions : List Action} {res : AccountActionsResult}
    (hids : s.IdsUnique) (h : s.accountForAccountActions env account actions = .ok res) :
    (res.storage.ledgerOf env account env.blockTimestamp, res.actions)
      = (s.ledgerOf env account env.blockTimestamp).settle actions := by
  obtain ⟨st, hst, -, hs⟩ := accountForAccountActions_ok h
  rw [hs, applyActions_ledger hids rfl hst, startActions_ledgerOf]

end LendingPoolStorage

end AbaxLending
