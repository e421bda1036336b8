import AbaxLending.Lib.Book
import AbaxLending.Pool.Manage
import AbaxLending.Spec.Positions

/-!
The balances that the tokens show.

A position has two sides, its deposit and its debt (`Side`), and everything that is
said about one side is said about the other.  `Side.view` is the balance view of a
side at a time; a step that accrues a position starts from what the views show of it
(`Opened.accruedDataOf`), also when other positions were accrued before in the same reserve.
-/

namespace AbaxLending

open Outcome

/-- The two sides of a position. -/
inductive Side where
  | deposit
  | debt
  deriving DecidableEq, Repr

namespace Side

/-- The amount of a position on a side. -/
def amount : Side → AccountReserveData → ℕ
  | .deposit => AccountReserveData.deposit
  | .debt => AccountReserveData.debt

/-- The total of a reserve on a side. -/
def total : Side → ReserveData → ℕ
  | .deposit => ReserveData.totalDeposit
  | .debt => ReserveData.totalDebt

/-- The bitmap of a config for a side. -/
def bits : Side → AccountConfig → Bitmap128
  | .deposit => AccountConfig.deposits
  | .debt => AccountConfig.borrows

/-- The interest of an accrual on a side. -/
def interest : Side → Accrual → ℕ
  | .deposit => Accrual.depositInterest
  | .debt => Accrual.debtInterest

/-- The balance that the token of a side shows: `account_deposit_of` or
`account_debt_of`. -/
def view [Pendzl] (side : Side) (s : LendingPoolStorage) (env : Env) (asset account : AccountId)
    (timestamp : ℕ) : Res ℕ :=
  match side with
  | .deposit => s.accountDepositOf env asset account timestamp
  | .debt => s.accountDebtOf env asset account timestamp

/-- The stored positions of a side sum to its total. -/
def BalancedIn (side : Side) (s : LendingPoolStorage) (k : ℕ) : Prop :=
  ∃ rd, s.reserveDatas.get k = some rd
    ∧ Book.Balanced (side.total rd) fun a => side.amount (s.position a k)

lemma amount_default (side : Side) : side.amount default = 0 := by cases side <;> rfl

/-- The totals of a side move with the amounts of the entry. -/
lemma total_of_posts {ctx : ReserveDataContext} {data : AccountReserveData} {st : Step}
    (h : st.Posts ctx data) (side : Side) :
    side.total st.ctx.reserveData + side.amount data
      = side.total ctx.reserveData + side.amount st.data := by
  cases side with
  | deposit => exact h.deposit
  | debt => exact h.debt

/-- Recalculating the rates keeps the totals. -/
lemma total_recalculateRates [Pendzl] {s : LendingPoolStorage} {k : ℕ} {rd rd' : ReserveData}
    (h : s.recalculateRates k rd = .ok rd') (side : Side) : side.total rd' = side.total rd := by
  cases side with
  | deposit => exact LendingPoolStorage.recalculateRates_totalDeposit h
  | debt => exact LendingPoolStorage.recalculateRates_totalDebt h

/-- A view shows the amount of the accrued entry. -/
lemma view_eq_ok [Pendzl] {side : Side} {s : LendingPoolStorage} {env : Env}
    {asset account : AccountId} {t n : ℕ} :
    side.view s env asset account t = .ok n
      ↔ ∃ data, s.accruedDataOf env asset account t = .ok data ∧ side.amount data = n := by
  cases side <;> simp [view, LendingPoolStorage.accountDepositOf,
    LendingPoolStorage.accountDebtOf, amount]

/-- A view depends on the id of its asset only. -/
lemma view_congr [Pendzl] {s : LendingPoolStorage} {asset asset' : AccountId}
    (h : s.assetToId.get asset = s.assetToId.get asset') (side : Side) (env : Env)
    (account : AccountId) (t : ℕ) :
    side.view s env asset account t = side.view s env asset' account t := by
  have hdata : s.accruedDataOf env asset account t = s.accruedDataOf env asset' account t := by
    rw [LendingPoolStorage.accruedDataOf, LendingPoolStorage.accruedDataOf,
      LendingPoolStorage.assetId, LendingPoolStorage.assetId, h]
  cases side <;> simp only [view, LendingPoolStorage.accountDepositOf,
    LendingPoolStorage.accountDebtOf, hdata]

end Side

namespace LendingPoolStorage

variable [Pendzl] {s : LendingPoolStorage} {env : Env} {asset account : AccountId} {k t : ℕ}
  {ctx ctx' : ReserveDataContext} {a : Accrual}

/-- A view brings the indexes to its time and accrues the stored position. -/
lemma accruedDataOf_eq_ok {data : AccountReserveData} :
    s.accruedDataOf env asset account t = .ok data
      ↔ ∃ k rd r indexes a, s.assetToId.get asset = some k ∧ s.reserveDatas.get k = some rd
        ∧ s.reserveIndexesAndFees.get k = some r ∧ r.indexes.update rd t = .ok indexes
        ∧ (s.position account k).accumulateAccountInterest indexes r.fees
            (s.getFeeReductionsOfAccount env account) = .ok a
        ∧ a.data = data := by
  simp only [LendingPoolStorage.accruedDataOf, LendingPoolStorage.assetId, getReserveData,
    getReserveIndexesAndFees, getAccountReserveData_eq, bind_eq_ok, okOr_eq_ok, unwrap_eq_ok,
    pure_eq, Except.ok.injEq]
  constructor
  · rintro ⟨k, hk, rd, hrd, r, hr, indexes, hup, a, ha, rfl⟩
    exact ⟨k, rd, r, indexes, a, hk, hrd, hr, hup, ha, rfl⟩
  · rintro ⟨k, rd, r, indexes, a, hk, hrd, hr, hup, ha, rfl⟩
    exact ⟨k, hk, rd, hrd, r, hr, indexes, hup, a, ha, rfl⟩

/-- Accruing a stored position in a context with the opened indexes and some more
income yields what the views accrue. -/
lemma Opened.accruedDataOf (hopen : s.Opened k t ctx) (hk : s.assetToId.get asset = some k)
    (hindexes : ctx'.reserveIndexesAndFees.indexes = ctx.reserveIndexesAndFees.indexes)
    (hfees : ctx.reserveIndexesAndFees.fees.Below ctx'.reserveIndexesAndFees.fees)
    (h : ctx'.accrual (s.position account k) (s.getFeeReductionsOfAccount env account) = .ok a) :
    s.accruedDataOf env asset account t = .ok a.data := by
  obtain ⟨r, hr, hi, hf⟩ := hopen.indexes
  rw [ReserveDataContext.accrual, hindexes] at h
  obtain ⟨low, h', -⟩ := AccountReserveData.accumulateAccountInterest_below hfees h
  exact accruedDataOf_eq_ok.mpr ⟨k, ctx.reserveData, r, _, { a with fees := low }, hk,
    hopen.reserveData, hr, hi, hf ▸ h', rfl⟩

/-- Nothing is shown of a position without amounts. -/
lemma view_of_zero {rd : ReserveData} {r : ReserveIndexesAndFees} {indexes : ReserveIndexes}
    (hk : s.assetToId.get asset = some k) (hrd : s.reserveDatas.get k = some rd)
    (hr : s.reserveIndexesAndFees.get k = some r) (hup : r.indexes.update rd t = .ok indexes)
    (hzero : ∀ side : Side, side.amount (s.position account k) = 0) (side : Side) :
    side.view s env asset account t = .ok 0 := by
  obtain ⟨a, ha, hd, hb⟩ := AccountReserveData.accumulateAccountInterest_of_zero (hzero .deposit)
    (hzero .debt) indexes r.fees (s.getFeeReductionsOfAccount env account)
  refine Side.view_eq_ok.mpr
    ⟨a.data, accruedDataOf_eq_ok.mpr ⟨k, rd, r, indexes, a, hk, hrd, hr, hup, ha, rfl⟩, ?_⟩
  cases side with
  | deposit => exact hd
  | debt => exact hb

end LendingPoolStorage

end AbaxLending
