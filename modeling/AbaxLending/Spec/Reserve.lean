import AbaxLending.Spec.Steps

/-!
What an action on one reserve does to the storage.

`account_for_reserve_action` opens the reserve of an asset, runs its steps in one
context, and writes the reserve back.  Nothing else in the storage changes but the
utilization ring (`withRing`), so a result is described by the steps that were run
and the reserve that was written (`putReserve`).

* `Opened`: the context a reserve is opened with;
* `accountForReserveAction_single`: one action of one account, for which
  `Action.step` is the basic step;
* `accountForReserveAction_depositTransfer`, `accountForReserveAction_debtTransfer`:
  the two steps of a transfer.
-/

namespace AbaxLending

open Outcome

namespace LendingPoolStorage

/-- The storage with the utilization ring replaced. -/
@[simps] def withRing (self : LendingPoolStorage) (twUrIndexes : Mapping ℕ TwIndex)
    (twUrEntries : Mapping (ℕ × ℕ) TwEntry) : LendingPoolStorage :=
  { self with twUrIndexes, twUrEntries }

variable [Pendzl] {self s : LendingPoolStorage} {k : ℕ} {t : ℕ}

/-! ### Opening and closing a reserve -/

/-- A utilization snapshot changes the ring only. -/
lemma storeUtilizationRateSnapshot_ok {reserveData : ReserveData}
    (h : self.storeUtilizationRateSnapshot k reserveData t = .ok s) :
    ∃ indexes entries, s = self.withRing indexes entries := by
  simp only [storeUtilizationRateSnapshot, bind_eq_ok] at h
  obtain ⟨_, _, h⟩ := h
  split_ifs at h with ht
  · simp only [pure_eq, Except.ok.injEq] at h
    exact ⟨_, _, h.symm⟩
  · simp only [bind_eq_ok, pure_eq, Except.ok.injEq] at h
    obtain ⟨_, _, _, _, rfl⟩ := h
    exact ⟨_, _, rfl⟩

/-- The context with which the reserve of an asset is opened at a time. -/
structure Opened (s : LendingPoolStorage) (k t : ℕ) (ctx : ReserveDataContext) : Prop where
  assetId : ctx.assetId = k
  reserveData : s.reserveDatas.get k = some ctx.reserveData
  restrictions : s.reserveRestrictions.get k = some ctx.reserveRestrictions
  indexes : ∃ r, s.reserveIndexesAndFees.get k = some r
    ∧ r.indexes.update ctx.reserveData t = .ok ctx.reserveIndexesAndFees.indexes
    ∧ ctx.reserveIndexesAndFees.fees = r.fees

/-- What `openReserve` does. -/
lemma openReserve_ok {ctx : ReserveDataContext} (h : self.openReserve k t = .ok (s, ctx)) :
    self.Opened k t ctx ∧ ∃ indexes entries, s = self.withRing indexes entries := by
  simp only [openReserve, getReserveData, getReserveIndexesAndFees, getReserveRestrictions,
    bind_eq_ok, unwrap_eq_ok, pure_eq, Except.ok.injEq, Prod.mk.injEq] at h
  obtain ⟨rd, hrd, r, hr, rr, hrr, s₁, hs₁, indexes, hi, rfl, rfl⟩ := h
  exact ⟨⟨rfl, hrd, hrr, r, hr, hi, rfl⟩, storeUtilizationRateSnapshot_ok hs₁⟩

/-- The storage that an opened reserve leaves has the snapshot. -/
lemma openReserve_stores {ctx : ReserveDataContext} (h : self.openReserve k t = .ok (s, ctx)) :
    self.storeUtilizationRateSnapshot k ctx.reserveData t = .ok s := by
  simp only [openReserve, getReserveData, getReserveIndexesAndFees, getReserveRestrictions,
    bind_eq_ok, unwrap_eq_ok, pure_eq, Except.ok.injEq, Prod.mk.injEq] at h
  obtain ⟨rd, -, r, -, rr, -, s₁, hs₁, indexes, -, rfl, rfl⟩ := h
  exact hs₁

/-- Recalculating the rates with a model changes the rates only. -/
lemma recalculateCurrentRates_ok {reserveData reserveData' : ReserveData}
    {model : InterestRateModel} (h : reserveData.recalculateCurrentRates model = .ok reserveData') :
    ∃ depositRate debtRate, reserveData' = { reserveData with
      currentDepositRateE18 := depositRate, currentDebtRateE18 := debtRate } := by
  rw [ReserveData.recalculateCurrentRates] at h
  split_ifs at h with h0 h1
  · simp only [Except.ok.injEq] at h
    exact ⟨_, _, h.symm⟩
  · simp only [bind_eq_ok, pure_eq, Except.ok.injEq] at h
    obtain ⟨_, _, _, _, _, _, rfl⟩ := h
    exact ⟨_, _, rfl⟩
  · simp only [bind_eq_ok, pure_eq, Except.ok.injEq] at h
    obtain ⟨_, _, _, _, _, _, rfl⟩ := h
    exact ⟨_, _, rfl⟩

/-- Recalculating the rates changes the rates only. -/
lemma recalculateRates_ok {reserveData reserveData' : ReserveData}
    (h : self.recalculateRates k reserveData = .ok reserveData') :
    ∃ depositRate debtRate, reserveData' = { reserveData with
      currentDepositRateE18 := depositRate, currentDebtRateE18 := debtRate } := by
  rw [recalculateRates] at h
  split at h
  · exact recalculateCurrentRates_ok h
  · simp only [Except.ok.injEq] at h
    exact ⟨_, _, h.symm⟩

lemma recalculateRates_totalDeposit {reserveData reserveData' : ReserveData}
    (h : self.recalculateRates k reserveData = .ok reserveData') :
    reserveData'.totalDeposit = reserveData.totalDeposit := by
  obtain ⟨_, _, rfl⟩ := recalculateRates_ok h
  rfl

lemma recalculateRates_totalDebt {reserveData reserveData' : ReserveData}
    (h : self.recalculateRates k reserveData = .ok reserveData') :
    reserveData'.totalDebt = reserveData.totalDebt := by
  obtain ⟨_, _, rfl⟩ := recalculateRates_ok h
  rfl

end LendingPoolStorage

/-! ### The steps of a reserve action -/

namespace ReserveActionState

/-- Adding the first interests of an account to none. -/
lemma updateAt_ok {items items' : List (ℕ × ℕ)} {index : ℕ} {interests : ℕ × ℕ}
    (h : updateAt items index interests = .ok items') (hz : items[index]? = some (0, 0)) :
    items' = items.set index interests := by
  simp only [updateAt, hz, bind_eq_ok, unwrap_eq_ok, Option.some.injEq, okOr_eq_ok,
    checkedAdd_eq_some, pure_eq, Except.ok.injEq] at h
  obtain ⟨_, rfl, _, ⟨rfl, _⟩, _, ⟨rfl, _⟩, rfl⟩ := h
  simp

/-- One step on the account at a position that had no interests yet. -/
lemma onAccount_ok {st st' : ReserveActionState} {reductions : List FeeReductions} {i : ℕ}
    {step : ReserveDataContext → AccountReserveData → AccountConfig → FeeReductions → Res Step}
    {amount : ℕ} (h : st.onAccount reductions i step = .ok (st', amount))
    (hz : st.interestsAcc[i]? = some (0, 0)) :
    ∃ data config fee res, st.accountsData[i]? = some data ∧ st.accountsConfig[i]? = some config
      ∧ reductions[i]? = some fee ∧ step st.ctx data config fee = .ok res
      ∧ amount = res.amount
      ∧ st' = {
          ctx := res.ctx
          accountsData := st.accountsData.set i res.data
          accountsConfig := st.accountsConfig.set i res.config
          interestsAcc := st.interestsAcc.set i res.interests } := by
  simp only [onAccount, bind_eq_ok, unwrap_eq_ok, pure_eq, Except.ok.injEq, Prod.mk.injEq] at h
  obtain ⟨data, hd, config, hc, fee, hf, res, hres, acc, hacc, rfl, rfl⟩ := h
  exact ⟨data, config, fee, res, hd, hc, hf, hres, rfl, by rw [updateAt_ok hacc hz]⟩

/-- A step on the first of two accounts, then one on the second. -/
lemma onAccount_pair {ctx : ReserveDataContext} {data data' : AccountReserveData}
    {config config' : AccountConfig} {reductions reductions' : FeeReductions}
    {step step' : ReserveDataContext → AccountReserveData → AccountConfig → FeeReductions →
      Res Step} {st₁ st₂ : ReserveActionState} {n n' : ℕ}
    (h : (⟨ctx, [data, data'], [config, config'], [(0, 0), (0, 0)]⟩ : ReserveActionState).onAccount
      [reductions, reductions'] 0 step = .ok (st₁, n))
    (h' : st₁.onAccount [reductions, reductions'] 1 step' = .ok (st₂, n')) :
    ∃ res res', step ctx data config reductions = .ok res
      ∧ step' res.ctx data' config' reductions' = .ok res' ∧ n = res.amount ∧ n' = res'.amount
      ∧ st₂ = ⟨res'.ctx, [res.data, res'.data], [res.config, res'.config],
          [res.interests, res'.interests]⟩ := by
  obtain ⟨_, _, _, res, hd, hc, hf, hres, rfl, rfl⟩ := onAccount_ok h rfl
  simp only [List.getElem?_cons_zero, Option.some.injEq] at hd hc hf
  subst hd hc hf
  obtain ⟨_, _, _, res', hd, hc, hf, hres', rfl, rfl⟩ := onAccount_ok h' rfl
  simp only [List.set_cons_zero, List.getElem?_cons_succ, List.getElem?_cons_zero,
    Option.some.injEq] at hd hc hf
  subst hd hc hf
  exact ⟨res, res', hres, hres', rfl, rfl, rfl⟩

end ReserveActionState

/-- The basic step of an action. -/
def Action.step [Pendzl] (action : Action) (ctx : ReserveDataContext) (data : AccountReserveData)
    (config : AccountConfig) (feeReductions : FeeReductions) : Res Step :=
  match action.op with
  | .deposit => ctx.accountForDeposit data config feeReductions action.amount
  | .withdraw => ctx.accountForWithdraw data config feeReductions action.amount true
  | .borrow => ctx.accountForBorrow data config feeReductions action.amount
  | .repay => ctx.accountForRepay data config feeReductions action.amount true

namespace LendingPoolStorage

variable [Pendzl] {self s : LendingPoolStorage} {k : ℕ} {t : ℕ}

/-- The frame of every reserve action: it runs its loop in the opened context and
writes one reserve. -/
lemma accountForReserveAction_opens {datas : List AccountReserveData}
    {configs : List AccountConfig} {reductions : List FeeReductions} {actions : List ReserveAction}
    {res : ReserveActionResult}
    (h : self.accountForReserveAction k datas configs reductions actions t = .ok res) :
    ∃ ctx s₁ st acts reserveData, self.openReserve k t = .ok (s₁, ctx)
      ∧ ReserveActionState.applyActions
          ⟨ctx, datas, configs, List.replicate datas.length (0, 0)⟩ reductions actions
        = .ok (st, acts)
      ∧ self.recalculateRates k st.ctx.reserveData = .ok reserveData
      ∧ res = {
          storage := s₁.putReserve k reserveData st.ctx.reserveIndexesAndFees
          accountsData := st.accountsData
          accountsConfig := st.accountsConfig
          actions := acts
          interests := st.interestsAcc } := by
  simp only [accountForReserveAction, bind_eq_ok, pure_eq, Except.ok.injEq] at h
  obtain ⟨_, _, ⟨s₁, ctx⟩, hopen, ⟨st, acts⟩, hrun, rd, hrd, rfl⟩ := h
  obtain ⟨-, indexes, entries, rfl⟩ := openReserve_ok hopen
  exact ⟨ctx, _, st, acts, rd, hopen, hrun, hrd, rfl⟩

lemma accountForReserveAction_ok {datas : List AccountReserveData} {configs : List AccountConfig}
    {reductions : List FeeReductions} {actions : List ReserveAction} {res : ReserveActionResult}
    (h : self.accountForReserveAction k datas configs reductions actions t = .ok res) :
    ∃ ctx st acts reserveData indexes entries, self.Opened k t ctx
      ∧ ReserveActionState.applyActions
          ⟨ctx, datas, configs, List.replicate datas.length (0, 0)⟩ reductions actions
        = .ok (st, acts)
      ∧ self.recalculateRates k st.ctx.reserveData = .ok reserveData
      ∧ res = {
          storage := (self.withRing indexes entries).putReserve k reserveData
            st.ctx.reserveIndexesAndFees
          accountsData := st.accountsData
          accountsConfig := st.accountsConfig
          actions := acts
          interests := st.interestsAcc } := by
  obtain ⟨ctx, _, st, acts, rd, hopen, hrun, hrd, rfl⟩ := accountForReserveAction_opens h
  obtain ⟨hctx, indexes, entries, rfl⟩ := openReserve_ok hopen
  exact ⟨ctx, st, acts, rd, indexes, entries, hctx, hrun, hrd, rfl⟩

/-- **One action of one account on one reserve.** -/
theorem accountForReserveAction_single {data : AccountReserveData} {config : AccountConfig}
    {reductions : FeeReductions} {action : Action} {res : ReserveActionResult}
    (h : self.accountForReserveAction k [data] [config] [reductions] [action.toReserveAction] t
      = .ok res) :
    ∃ ctx s₁ st reserveData, self.openReserve k t = .ok (s₁, ctx)
      ∧ action.step ctx data config reductions = .ok st
      ∧ self.recalculateRates k st.ctx.reserveData = .ok reserveData
      ∧ res = {
          storage := s₁.putReserve k reserveData st.ctx.reserveIndexesAndFees
          accountsData := [st.data]
          accountsConfig := [st.config]
          actions := [{ action with amount := st.amount }.toReserveAction]
          interests := [st.interests] } := by
  obtain ⟨ctx, s₁, st, acts, rd, hopen, hrun, hrd, rfl⟩ := accountForReserveAction_opens h
  obtain ⟨op, asset, amount⟩ := action
  cases op <;>
  · simp only [Action.toReserveAction, ReserveActionState.applyActions,
      ReserveActionState.applyAction, bind_eq_ok, pure_eq, Except.ok.injEq, Prod.mk.injEq] at hrun
    obtain ⟨_, ⟨⟨st₁, n⟩, hst, rfl⟩, _, ⟨rfl, rfl⟩, rfl, rfl⟩ := hrun
    obtain ⟨_, _, _, res, hd, hc, hf, hres, rfl, rfl⟩ := ReserveActionState.onAccount_ok hst rfl
    simp only [List.getElem?_cons_zero, Option.some.injEq] at hd hc hf
    subst hd hc hf
    exact ⟨ctx, s₁, res, rd, hopen, hres, hrd, rfl⟩

variable {fromData toData : AccountReserveData} {fromConfig toConfig : AccountConfig}
  {fromReductions toReductions : FeeReductions} {amount : ℕ} {isMutable : Bool}
  {res : ReserveActionResult}

/-- **A transfer of a deposit** is a withdrawal followed by a deposit of the amount
that was withdrawn. -/
theorem accountForReserveAction_depositTransfer
    (h : self.accountForReserveAction k [fromData, toData] [fromConfig, toConfig]
      [fromReductions, toReductions] [.depositTransfer 0 1 amount isMutable] t = .ok res) :
    ∃ ctx st₁ st₂ reserveData indexes entries, self.Opened k t ctx
      ∧ ctx.accountForWithdraw fromData fromConfig fromReductions amount isMutable = .ok st₁
      ∧ st₁.ctx.accountForDeposit toData toConfig toReductions st₁.amount = .ok st₂
      ∧ self.recalculateRates k st₂.ctx.reserveData = .ok reserveData
      ∧ res = {
          storage := (self.withRing indexes entries).putReserve k reserveData
            st₂.ctx.reserveIndexesAndFees
          accountsData := [st₁.data, st₂.data]
          accountsConfig := [st₁.config, st₂.config]
          actions := [.depositTransfer 0 1 st₂.amount isMutable]
          interests := [st₁.interests, st₂.interests] } := by
  obtain ⟨ctx, st, acts, rd, indexes, entries, hctx, hrun, hrd, rfl⟩ :=
    accountForReserveAction_ok h
  simp only [ReserveActionState.applyActions, ReserveActionState.applyAction, bind_eq_ok,
    pure_eq, Except.ok.injEq, Prod.mk.injEq] at hrun
  obtain ⟨_, ⟨⟨sta, na⟩, hsta, ⟨stb, nb⟩, hstb, rfl⟩, _, ⟨rfl, rfl⟩, rfl, rfl⟩ := hrun
  obtain ⟨st₁, st₂, hst₁, hst₂, rfl, rfl, rfl⟩ := ReserveActionState.onAccount_pair hsta hstb
  exact ⟨ctx, st₁, st₂, rd, indexes, entries, hctx, hst₁, hst₂, hrd, rfl⟩

/-- **A transfer of a debt** is a repayment followed by a borrow of the amount that
was repaid. -/
theorem accountForReserveAction_debtTransfer
    (h : self.accountForReserveAction k [fromData, toData] [fromConfig, toConfig]
      [fromReductions, toReductions] [.debtTransfer 0 1 amount isMutable] t = .ok res) :
    ∃ ctx st₁ st₂ reserveData indexes entries, self.Opened k t ctx
      ∧ ctx.accountForRepay fromData fromConfig fromReductions amount isMutable = .ok st₁
      ∧ st₁.ctx.accountForBorrow toData toConfig toReductions st₁.amount = .ok st₂
      ∧ self.recalculateRates k st₂.ctx.reserveData = .ok reserveData
      ∧ res = {
          storage := (self.withRing indexes entries).putReserve k reserveData
            st₂.ctx.reserveIndexesAndFees
          accountsData := [st₁.data, st₂.data]
          accountsConfig := [st₁.config, st₂.config]
          actions := [.debtTransfer 0 1 st₂.amount isMutable]
          interests := [st₁.interests, st₂.interests] } := by
  obtain ⟨ctx, st, acts, rd, indexes, entries, hctx, hrun, hrd, rfl⟩ :=
    accountForReserveAction_ok h
  simp only [ReserveActionState.applyActions, ReserveActionState.applyAction, bind_eq_ok,
    pure_eq, Except.ok.injEq, Prod.mk.injEq] at hrun
  obtain ⟨_, ⟨⟨sta, na⟩, hsta, ⟨stb, nb⟩, hstb, rfl⟩, _, ⟨rfl, rfl⟩, rfl, rfl⟩ := hrun
  obtain ⟨st₁, st₂, hst₁, hst₂, rfl, rfl, rfl⟩ := ReserveActionState.onAccount_pair hsta hstb
  exact ⟨ctx, st₁, st₂, rd, indexes, entries, hctx, hst₁, hst₂, hrd, rfl⟩

end LendingPoolStorage

end AbaxLending
