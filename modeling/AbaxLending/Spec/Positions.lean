import AbaxLending.Spec.Reserve

/-!
Reading the positions of the accounts.

`entry` is the stored entry of an account in an asset, a missing vector or a
missing element read as `none`; `position` reads `none` as the zero position, as
the pool does.  The simp lemmas say how the four ways of writing the storage
(`putAccount`, `putReserve`, `withRing`, an insertion) change what is read.

`Step.Posts` is what the four basic steps have in common: the totals of the
reserve move with the amounts of the entry.
-/

namespace AbaxLending

open Outcome

namespace LendingPoolStorage

variable {s : LendingPoolStorage} {a b : AccountId} {j k : ℕ}
  {v : List (Option AccountReserveData)} {c : AccountConfig}

/-! ### Entries -/

/-- The stored entry of an account in an asset. -/
def entry (s : LendingPoolStorage) (a : AccountId) (k : ℕ) : Option AccountReserveData :=
  ((s.accountReserveDatas.get a).bind fun v => v[k]?).join

/-- The stored position of an account in an asset; a missing entry is zero. -/
def position (s : LendingPoolStorage) (a : AccountId) (k : ℕ) : AccountReserveData :=
  (s.entry a k).getD default

/-- Only the vectors matter. -/
lemma entry_congr {s' : LendingPoolStorage}
    (h : s'.accountReserveDatas = s.accountReserveDatas) : s'.entry = s.entry := by
  funext a k
  rw [entry, entry, h]

/-- Only the vectors matter. -/
lemma position_congr {s' : LendingPoolStorage}
    (h : s'.accountReserveDatas = s.accountReserveDatas) : s'.position = s.position := by
  funext a k
  rw [position, position, entry_congr h]

/-- Only the configs matter. -/
lemma getAccountConfig_congr {s' : LendingPoolStorage}
    (h : s'.accountConfigs = s.accountConfigs) : s'.getAccountConfig = s.getAccountConfig := by
  funext a
  rw [getAccountConfig, getAccountConfig, h]

/-- Only the vectors and the number of assets matter. -/
lemma getAccountDatas_congr {s' : LendingPoolStorage}
    (h : s'.accountReserveDatas = s.accountReserveDatas) (hcount : s'.nextAssetId = s.nextAssetId) :
    s'.getAccountDatas = s.getAccountDatas := by
  funext a
  rw [getAccountDatas, getAccountDatas, getAccountReserveDatasDefaults,
    getAccountReserveDatasDefaults, assetCount, assetCount, h, hcount]

@[simp] lemma entry_putAccount_self : (s.putAccount a v c).entry a k = v[k]?.join := by
  simp [entry]

@[simp] lemma entry_putAccount_of_ne (h : b ≠ a) :
    (s.putAccount a v c).entry b k = s.entry b k := by
  simp [entry, h]

@[simp] lemma position_putAccount_self :
    (s.putAccount a v c).position a k = v[k]?.join.getD default := by
  simp [position]

@[simp] lemma position_putAccount_of_ne (h : b ≠ a) :
    (s.putAccount a v c).position b k = s.position b k := by
  simp [position, h]

@[simp] lemma getAccountConfig_putAccount_self : (s.putAccount a v c).getAccountConfig a = c := by
  simp [getAccountConfig]

@[simp] lemma getAccountConfig_putAccount_of_ne (h : b ≠ a) :
    (s.putAccount a v c).getAccountConfig b = s.getAccountConfig b := by
  simp [getAccountConfig, h]

lemma getAccountConfig_putConfig :
    (s.putConfig a c).getAccountConfig b = if b = a then c else s.getAccountConfig b := by
  rw [getAccountConfig, putConfig_accountConfigs, Mapping.get_insert]
  split_ifs <;> rfl

/-! ### The vectors the pool reads -/

/-- The vector that is read has a place for every registered asset. -/
lemma assetCount_le_length_getAccountDatas : s.assetCount ≤ (s.getAccountDatas a).length := by
  simp only [getAccountDatas]
  split_ifs with h
  · rw [List.length_append, List.length_replicate]
    omega
  · omega

/-- Padding a vector with empty places does not change what is read. -/
lemma getElem?_append_none_join {α : Type} (v : List (Option α)) (n k : ℕ) :
    (v ++ List.replicate n none)[k]?.join = v[k]?.join := by
  rw [List.getElem?_append]
  split_ifs with hk
  · rfl
  · rw [List.getElem?_eq_none (by omega : v.length ≤ k), List.getElem?_replicate]
    split_ifs <;> rfl

/-- Resizing does not change what is read. -/
@[simp] lemma getAccountDatas_join (s : LendingPoolStorage) (a : AccountId) (k : ℕ) :
    (s.getAccountDatas a)[k]?.join = s.entry a k := by
  have hread : ((s.accountReserveDatas.get a).getD s.getAccountReserveDatasDefaults)[k]?.join
      = s.entry a k := by
    cases hv : s.accountReserveDatas.get a with
    | none =>
      simp only [entry, hv, getAccountReserveDatasDefaults, Option.getD_none,
        List.getElem?_replicate, Option.bind_none, Option.join_none]
      split_ifs <;> rfl
    | some v => simp [entry, hv]
  simp only [getAccountDatas]
  split_ifs
  · rw [getElem?_append_none_join, hread]
  · exact hread

/-- Both halves of `getAccountReserveData`. -/
@[simp] lemma getAccountReserveData_eq (s : LendingPoolStorage) (k : ℕ) (a : AccountId) :
    s.getAccountReserveData k a = (s.position a k, s.getAccountDatas a) := by
  simp [getAccountReserveData, position]

end LendingPoolStorage

/-- Reading one place of a vector. -/
@[simp] lemma getAccountDataEntryMut_eq_ok {v : List (Option AccountReserveData)} {k : ℕ}
    {data : AccountReserveData} :
    getAccountDataEntryMut v k = .ok data ↔ k < v.length ∧ data = v[k]?.join.getD default := by
  rw [@eq_comm _ data]
  by_cases hk : k < v.length
  · simp [getAccountDataEntryMut, hk]
  · simp [getAccountDataEntryMut, hk]

/-- Writing one place of a vector. -/
lemma getElem?_set_join {α : Type} (v : List (Option α)) {j k : ℕ} (hk : k < v.length)
    (x : α) : (v.set k (some x))[j]?.join = if j = k then some x else v[j]?.join := by
  by_cases hjk : j = k
  · subst hjk
    simp [hk]
  · simp [List.getElem?_set_ne (Ne.symm hjk), hjk]

/-! ### Postings -/

/-- The totals of the reserve move with the amounts of the entry. -/
structure Step.Posts (ctx : ReserveDataContext) (data : AccountReserveData) (st : Step) :
    Prop where
  deposit : st.ctx.reserveData.totalDeposit + data.deposit
    = ctx.reserveData.totalDeposit + st.data.deposit
  debt : st.ctx.reserveData.totalDebt + data.debt = ctx.reserveData.totalDebt + st.data.debt

namespace ReserveDataContext

variable [Pendzl] {ctx : ReserveDataContext} {data : AccountReserveData} {config : AccountConfig}
  {feeReductions : FeeReductions} {amount : ℕ} {canMutateAmount : Bool} {st : Step}

lemma accrual_deposit {a : Accrual} (h : ctx.accrual data feeReductions = .ok a) :
    a.data.deposit = data.deposit + a.depositInterest :=
  (AccountReserveData.accumulateAccountInterest_spec h).1

lemma accrual_debt {a : Accrual} (h : ctx.accrual data feeReductions = .ok a) :
    a.data.debt = data.debt + a.debtInterest :=
  (AccountReserveData.accumulateAccountInterest_spec h).2.1

lemma accountForDeposit_posts
    (h : ctx.accountForDeposit data config feeReductions amount = .ok st) : st.Posts ctx data := by
  obtain ⟨a, ha, -, -, -, -, rfl⟩ := accountForDeposit_ok h
  have hd := accrual_deposit ha
  have hb := accrual_debt ha
  constructor <;> simp only [after] <;> omega

lemma accountForWithdraw_posts
    (h : ctx.accountForWithdraw data config feeReductions amount canMutateAmount = .ok st) :
    st.Posts ctx data := by
  obtain ⟨a, n, ha, -, -, -, hn, hn', -, rfl⟩ := accountForWithdraw_ok h
  have hd := accrual_deposit ha
  have hb := accrual_debt ha
  constructor <;> simp only [after] <;> omega

lemma accountForBorrow_posts
    (h : ctx.accountForBorrow data config feeReductions amount = .ok st) : st.Posts ctx data := by
  obtain ⟨a, ha, -, -, -, -, -, rfl⟩ := accountForBorrow_ok h
  have hd := accrual_deposit ha
  have hb := accrual_debt ha
  constructor <;> simp only [after] <;> omega

lemma accountForRepay_posts
    (h : ctx.accountForRepay data config feeReductions amount canMutateAmount = .ok st) :
    st.Posts ctx data := by
  obtain ⟨a, n, ha, -, -, -, hn, hn', -, -, rfl⟩ := accountForRepay_ok h
  have hd := accrual_deposit ha
  have hb := accrual_debt ha
  constructor <;> simp only [after] <;> omega

end ReserveDataContext

/-- **Every basic step is a posting.** -/
theorem Action.step_posts [Pendzl] {action : Action} {ctx : ReserveDataContext}
    {data : AccountReserveData} {config : AccountConfig} {feeReductions : FeeReductions} {st : Step}
    (h : action.step ctx data config feeReductions = .ok st) : st.Posts ctx data := by
  obtain ⟨op, asset, amount⟩ := action
  cases op with
  | deposit => exact ReserveDataContext.accountForDeposit_posts h
  | withdraw => exact ReserveDataContext.accountForWithdraw_posts h
  | borrow => exact ReserveDataContext.accountForBorrow_posts h
  | repay => exact ReserveDataContext.accountForRepay_posts h

end AbaxLending
