import AbaxLending.Spec.Actions
import AbaxLending.Spec.Interest
import AbaxLending.Spec.Ledger
import AbaxLending.Spec.Visits
import Mathlib.Algebra.BigOperators.Group.Multiset.Basic

/-!
What the messages of one block do to the reserves.

All messages of a block see the same indexes, whoever touches a reserve first, and what a
basic step does to its account does not depend on the totals.  So what was done to a reserve
since a block began is the sum of what its touches added.

* `SameTerms`: contexts that agree in all that a basic step reads for its account;
  `Action.step_sameTerms`: it does the same in both;
* `Touch`: what a visit of a reserve adds to it; `Action.step_touches`;
* `InBlock`: a storage described by the touches since a base; `InBlock.unique`: the touches
  determine the reserves;
* `InBlock.opens`, `InBlock.touch`: a visit in a block adds its touch.
-/

namespace AbaxLending

open Outcome

/-! ### Terms -/

namespace ReserveDataContext

/-- Contexts that agree in all that a basic step reads for its account. -/
structure SameTerms (ctx ctx' : ReserveDataContext) : Prop where
  assetId : ctx'.assetId = ctx.assetId
  indexes : ctx'.reserveIndexesAndFees.indexes = ctx.reserveIndexesAndFees.indexes
  depositFeeE6 : ctx'.reserveIndexesAndFees.fees.depositFeeE6
    = ctx.reserveIndexesAndFees.fees.depositFeeE6
  debtFeeE6 : ctx'.reserveIndexesAndFees.fees.debtFeeE6 = ctx.reserveIndexesAndFees.fees.debtFeeE6
  restrictions : ctx'.reserveRestrictions = ctx.reserveRestrictions

variable {ctx ctx' : ReserveDataContext}

lemma SameTerms.symm (h : ctx.SameTerms ctx') : ctx'.SameTerms ctx :=
  ⟨h.assetId.symm, h.indexes.symm, h.depositFeeE6.symm, h.debtFeeE6.symm, h.restrictions.symm⟩

variable [Pendzl] {data : AccountReserveData} {config : AccountConfig}
  {feeReductions : FeeReductions}

/-- An accrual does the same to its entry in contexts with the same terms. -/
lemma SameTerms.accrual {a a' : Accrual} (h : ctx.SameTerms ctx')
    (ha : ctx.accrual data feeReductions = .ok a)
    (ha' : ctx'.accrual data feeReductions = .ok a') : a' = { a with fees := a'.fees } := by
  -- the accrual with the smaller income is the other one up to the income
  have hbelow : ∀ {c c' : ReserveDataContext} {b b' : Accrual}, c.SameTerms c' →
      c.reserveIndexesAndFees.fees.earnedFee ≤ c'.reserveIndexesAndFees.fees.earnedFee →
      c.accrual data feeReductions = .ok b → c'.accrual data feeReductions = .ok b' →
      b = { b' with fees := b.fees } := by
    intro c c' b b' hterms hle hb hb'
    have hlow : c.reserveIndexesAndFees.fees.Below c'.reserveIndexesAndFees.fees :=
      ⟨hterms.depositFeeE6.symm, hterms.debtFeeE6.symm, hle⟩
    rw [ReserveDataContext.accrual, hterms.indexes] at hb'
    obtain ⟨low', hlow', -⟩ := AccountReserveData.accumulateAccountInterest_below hlow hb'
    rw [Except.ok.inj (hb.symm.trans hlow')]
  rcases le_total ctx.reserveIndexesAndFees.fees.earnedFee
    ctx'.reserveIndexesAndFees.fees.earnedFee with hle | hle
  · rw [hbelow h hle ha ha']
  · exact hbelow h.symm hle ha' ha

end ReserveDataContext

/-- **What a basic step does to its account depends on the terms**, not on the totals. -/
theorem Action.step_sameTerms [Pendzl] {action : Action} {ctx ctx' : ReserveDataContext}
    {data : AccountReserveData} {config : AccountConfig} {feeReductions : FeeReductions}
    {st st' : Step} (h : ctx.SameTerms ctx')
    (hst : action.step ctx data config feeReductions = .ok st)
    (hst' : action.step ctx' data config feeReductions = .ok st') :
    st'.data = st.data ∧ st'.config = st.config ∧ st'.amount = st.amount
      ∧ st'.interests = st.interests := by
  obtain ⟨op, asset, amount⟩ := action
  cases op with
  | deposit =>
      obtain ⟨a, ha, -, -, -, -, rfl⟩ := ReserveDataContext.accountForDeposit_ok hst
      obtain ⟨a', ha', -, -, -, -, rfl⟩ := ReserveDataContext.accountForDeposit_ok hst'
      rw [h.accrual ha ha', h.assetId]
      exact ⟨rfl, rfl, rfl, rfl⟩
  | withdraw =>
      obtain ⟨a, n, ha, hn, -, -, -, -, -, rfl⟩ := ReserveDataContext.accountForWithdraw_ok hst
      obtain ⟨a', n', ha', hn', -, -, -, -, -, rfl⟩ :=
        ReserveDataContext.accountForWithdraw_ok hst'
      rw [h.accrual ha ha'] at hn' ⊢
      rw [h.assetId, h.restrictions, hn.trans hn'.symm]
      exact ⟨rfl, rfl, rfl, rfl⟩
  | borrow =>
      obtain ⟨a, ha, -, -, -, -, -, rfl⟩ := ReserveDataContext.accountForBorrow_ok hst
      obtain ⟨a', ha', -, -, -, -, -, rfl⟩ := ReserveDataContext.accountForBorrow_ok hst'
      rw [h.accrual ha ha', h.assetId]
      exact ⟨rfl, rfl, rfl, rfl⟩
  | repay =>
      obtain ⟨a, n, ha, hn, -, -, -, -, -, -, rfl⟩ := ReserveDataContext.accountForRepay_ok hst
      obtain ⟨a', n', ha', hn', -, -, -, -, -, -, rfl⟩ :=
        ReserveDataContext.accountForRepay_ok hst'
      rw [h.accrual ha ha'] at hn' ⊢
      rw [h.assetId, hn.trans hn'.symm]
      exact ⟨rfl, rfl, rfl, rfl⟩

/-! ### Touches -/

/-- What a visit of a reserve adds to its totals and to the income earned on it. -/
structure Touch where
  asset : ℕ
  deposit : ℤ
  debt : ℤ
  income : ℤ

/-- A visit that only brings a reserve up to date. -/
def Touch.idle (k : ℕ) : Touch := ⟨k, 0, 0, 0⟩

/-- What touches add to a part of the reserve of an asset. -/
def added (touches : Multiset Touch) (k : ℕ) (part : Touch → ℤ) : ℤ :=
  ((touches.filter fun x => x.asset = k).map part).sum

section

variable {touches : Multiset Touch} {x : Touch} {k : ℕ} {part : Touch → ℤ}

lemma added_of_forall_ne (h : ∀ x ∈ touches, x.asset ≠ k) : added touches k part = 0 := by
  rw [added, Multiset.filter_eq_nil.mpr h]
  rfl

lemma added_touch_self :
    added (touches + {x}) x.asset part = added touches x.asset part + part x := by
  simp [added, Multiset.filter_add, Multiset.filter_singleton]

lemma added_touch_of_ne (h : x.asset ≠ k) :
    added (touches + {x}) k part = added touches k part := by
  simp [added, Multiset.filter_add, Multiset.filter_singleton, h]

end

namespace ReserveDataContext

/-- A context in which a touch was added to the totals and to the income. -/
structure Touches (ctx ctx' : ReserveDataContext) (x : Touch) : Prop where
  asset : x.asset = ctx.assetId
  reserveData : ctx'.reserveData = { ctx.reserveData with
    totalDeposit := ctx'.reserveData.totalDeposit, totalDebt := ctx'.reserveData.totalDebt }
  indexes : ctx'.reserveIndexesAndFees.indexes = ctx.reserveIndexesAndFees.indexes
  depositFeeE6 : ctx'.reserveIndexesAndFees.fees.depositFeeE6
    = ctx.reserveIndexesAndFees.fees.depositFeeE6
  debtFeeE6 : ctx'.reserveIndexesAndFees.fees.debtFeeE6 = ctx.reserveIndexesAndFees.fees.debtFeeE6
  deposit : (ctx'.reserveData.totalDeposit : ℤ) = ctx.reserveData.totalDeposit + x.deposit
  debt : (ctx'.reserveData.totalDebt : ℤ) = ctx.reserveData.totalDebt + x.debt
  income : (ctx'.reserveIndexesAndFees.fees.earnedFee : ℤ)
    = ctx.reserveIndexesAndFees.fees.earnedFee + x.income

lemma Touches.idle (ctx : ReserveDataContext) : ctx.Touches ctx (Touch.idle ctx.assetId) :=
  ⟨rfl, rfl, rfl, rfl, rfl, (add_zero _).symm, (add_zero _).symm, (add_zero _).symm⟩

end ReserveDataContext

/-- The fees on both interests of an entry. -/
def AccountReserveData.charges (self : AccountReserveData) (ctx : ReserveDataContext)
    (feeReductions : FeeReductions) : ℕ :=
  self.depositCharge ctx.reserveIndexesAndFees.indexes
      ctx.reserveIndexesAndFees.fees.depositFeeE6 feeReductions.1
    + self.debtCharge ctx.reserveIndexesAndFees.indexes
      ctx.reserveIndexesAndFees.fees.debtFeeE6 feeReductions.2

/-- The touch of a basic step: what the entry gains, and the fees on its interests. -/
def Step.touch (st : Step) (ctx : ReserveDataContext) (data : AccountReserveData)
    (feeReductions : FeeReductions) : Touch where
  asset := ctx.assetId
  deposit := st.data.deposit - data.deposit
  debt := st.data.debt - data.debt
  income := data.charges ctx feeReductions

section

variable [Pendzl] {action : Action} {ctx ctx' : ReserveDataContext} {data : AccountReserveData}
  {config : AccountConfig} {feeReductions : FeeReductions} {st st' : Step}

/-- A basic step writes the totals of the reserve data only. -/
lemma Action.step_reserveData (h : action.step ctx data config feeReductions = .ok st) :
    st.ctx.reserveData = { ctx.reserveData with
      totalDeposit := st.ctx.reserveData.totalDeposit
      totalDebt := st.ctx.reserveData.totalDebt } := by
  obtain ⟨op, asset, amount⟩ := action
  cases op with
  | deposit =>
      obtain ⟨a, -, -, -, -, -, rfl⟩ := ReserveDataContext.accountForDeposit_ok h
      rfl
  | withdraw =>
      obtain ⟨a, n, -, -, -, -, -, -, -, rfl⟩ := ReserveDataContext.accountForWithdraw_ok h
      rfl
  | borrow =>
      obtain ⟨a, -, -, -, -, -, -, rfl⟩ := ReserveDataContext.accountForBorrow_ok h
      rfl
  | repay =>
      obtain ⟨a, n, -, -, -, -, -, -, -, -, rfl⟩ := ReserveDataContext.accountForRepay_ok h
      rfl

/-- **A basic step adds its touch.** -/
theorem Action.step_touches (h : action.step ctx data config feeReductions = .ok st) :
    ctx.Touches st.ctx (st.touch ctx data feeReductions) := by
  have hposts := Action.step_posts h
  have hdeposit := hposts.deposit
  have hdebt := hposts.debt
  obtain ⟨a, ha, -, -, -, -, hfees⟩ := Action.step_settles h
  obtain ⟨-, -, hearned⟩ := AccountReserveData.accumulateAccountInterest_amounts ha
  refine ⟨rfl, Action.step_reserveData h, ?_, ?_, ?_, ?_, ?_, ?_⟩
  · rw [hfees]
  · simp only [hfees, hearned]
  · simp only [hfees, hearned]
  · simp only [Step.touch]
    omega
  · simp only [Step.touch]
    omega
  · simp only [hfees, hearned, Step.touch, AccountReserveData.charges, Nat.cast_add]

/-- Under the same terms it is the same touch. -/
lemma Action.step_touch (hterms : ctx.SameTerms ctx')
    (h : action.step ctx data config feeReductions = .ok st)
    (h' : action.step ctx' data config feeReductions = .ok st') :
    st'.touch ctx' data feeReductions = st.touch ctx data feeReductions := by
  obtain ⟨hdata, -, -, -⟩ := Action.step_sameTerms hterms h h'
  simp only [Step.touch, AccountReserveData.charges, hdata, hterms.assetId, hterms.indexes,
    hterms.depositFeeE6, hterms.debtFeeE6]

end

/-! ### Storages in a block -/

namespace LendingPoolStorage

/-- What neither a visit of a reserve nor the actions of an account write. -/
def setup (s : LendingPoolStorage) : LendingPoolStorage := s.without positionFields

variable {base s s' s₁ : LendingPoolStorage} {k j t : ℕ} {m n : Multiset Touch} {x : Touch}

/-- A storage is its setup and the six maps. -/
lemma eq_of_setup (h : s'.setup = s.setup) (hrds : s'.reserveDatas = s.reserveDatas)
    (hrs : s'.reserveIndexesAndFees = s.reserveIndexesAndFees)
    (hindexes : s'.twUrIndexes = s.twUrIndexes) (hentries : s'.twUrEntries = s.twUrEntries)
    (hdatas : s'.accountReserveDatas = s.accountReserveDatas)
    (hconfigs : s'.accountConfigs = s.accountConfigs) : s' = s :=
  calc s' = { s'.setup with
        reserveDatas := s'.reserveDatas
        reserveIndexesAndFees := s'.reserveIndexesAndFees
        twUrIndexes := s'.twUrIndexes
        twUrEntries := s'.twUrEntries
        accountReserveDatas := s'.accountReserveDatas
        accountConfigs := s'.accountConfigs } := rfl
    _ = { s.setup with
        reserveDatas := s.reserveDatas
        reserveIndexesAndFees := s.reserveIndexesAndFees
        twUrIndexes := s.twUrIndexes
        twUrEntries := s.twUrEntries
        accountReserveDatas := s.accountReserveDatas
        accountConfigs := s.accountConfigs } := by
      rw [h, hrds, hrs, hindexes, hentries, hdatas, hconfigs]
    _ = s := rfl

lemma assetToId_of_setup (h : s'.setup = s.setup) : s'.assetToId = s.assetToId :=
  read_eq_of_without (·.assetToId) (fun _ => rfl) h

lemma reserveRestrictions_of_setup (h : s'.setup = s.setup) :
    s'.reserveRestrictions = s.reserveRestrictions :=
  read_eq_of_without (·.reserveRestrictions) (fun _ => rfl) h

lemma interestRateModel_of_setup (h : s'.setup = s.setup) :
    s'.interestRateModel = s.interestRateModel :=
  read_eq_of_without (·.interestRateModel) (fun _ => rfl) h

variable [Pendzl]

lemma recalculateRates_of_setup (h : s'.setup = s.setup) :
    s'.recalculateRates = s.recalculateRates := by
  funext k rd
  rw [recalculateRates, recalculateRates, interestRateModel_of_setup h]

/-- The new rates depend on the flags and the totals, and without a model on the old rates. -/
def SameRates (s : LendingPoolStorage) (k : ℕ) (rd rd' : ReserveData) : Prop :=
  ∀ totalDeposit totalDebt, s.recalculateRates k { rd' with totalDeposit, totalDebt }
    = s.recalculateRates k { rd with totalDeposit, totalDebt }

lemma SameRates.refl (s : LendingPoolStorage) (k : ℕ) (rd : ReserveData) : s.SameRates k rd rd :=
  fun _ _ => rfl

lemma SameRates.trans {rd rd' rd'' : ReserveData} (h : s.SameRates k rd rd')
    (h' : s.SameRates k rd' rd'') : s.SameRates k rd rd'' :=
  fun totalDeposit totalDebt => (h' totalDeposit totalDebt).trans (h totalDeposit totalDebt)

/-- New rates stay the same ones when they are calculated again. -/
lemma recalculateRates_sameRates {rd rd' : ReserveData}
    (h : s.recalculateRates k rd = .ok rd') : s.SameRates k rd rd' := by
  intro totalDeposit totalDebt
  obtain ⟨depositRate, debtRate, rfl⟩ := recalculateRates_ok h
  rw [recalculateRates] at h
  simp only [recalculateRates]
  cases hmodel : s.interestRateModel.get k with
  | some model => rfl
  | none =>
      simp only [hmodel, Except.ok.injEq] at h
      have hdeposit : rd.currentDepositRateE18 = depositRate :=
        congrArg ReserveData.currentDepositRateE18 h
      have hdebt : rd.currentDebtRateE18 = debtRate :=
        congrArg ReserveData.currentDebtRateE18 h
      rw [hdeposit, hdebt]

/-- What touches have made of the data, the indexes and the fees of a reserve. -/
structure Grown (base : LendingPoolStorage) (k t : ℕ) (touches : Multiset Touch)
    (rd rd' : ReserveData) (r r' : ReserveIndexesAndFees) : Prop where
  indexes : r.indexes.update rd t = .ok r'.indexes
  depositFeeE6 : r'.fees.depositFeeE6 = r.fees.depositFeeE6
  debtFeeE6 : r'.fees.debtFeeE6 = r.fees.debtFeeE6
  income : (r'.fees.earnedFee : ℤ) = r.fees.earnedFee + added touches k Touch.income
  totalDeposit : (rd'.totalDeposit : ℤ) = rd.totalDeposit + added touches k Touch.deposit
  totalDebt : (rd'.totalDebt : ℤ) = rd.totalDebt + added touches k Touch.debt
  rates : base.SameRates k rd rd'

/-- The reserve of an asset in a storage, when touches of it were stored since a base. -/
structure Visited (base s : LendingPoolStorage) (k t : ℕ) (touches : Multiset Touch)
    (rd rd' : ReserveData) (r r' : ReserveIndexesAndFees) (opened : LendingPoolStorage) : Prop
    extends Grown base k t touches rd rd' r r' where
  reserveData : base.reserveDatas.get k = some rd
  indexesAndFees : base.reserveIndexesAndFees.get k = some r
  reserveData' : s.reserveDatas.get k = some rd'
  indexesAndFees' : s.reserveIndexesAndFees.get k = some r'
  recalculated : base.recalculateRates k
    { rd with totalDeposit := rd'.totalDeposit, totalDebt := rd'.totalDebt } = .ok rd'
  snapshot : base.storeUtilizationRateSnapshot k rd t = .ok opened
  ring : KeepsRing k opened s

/-- The reserve of an asset that was not visited. -/
structure Untouched (base s : LendingPoolStorage) (k : ℕ) : Prop extends KeepsRing k base s where
  reserveData : s.reserveDatas.get k = base.reserveDatas.get k
  indexesAndFees : s.reserveIndexesAndFees.get k = base.reserveIndexesAndFees.get k

/-- **A storage in a block**: what the touches since a base have made of its reserves. -/
structure InBlock (base : LendingPoolStorage) (t : ℕ) (touches : Multiset Touch)
    (s : LendingPoolStorage) : Prop where
  setup : s.setup = base.setup
  untouched : ∀ k, (∀ x ∈ touches, x.asset ≠ k) → Untouched base s k
  visited : ∀ x ∈ touches, ∃ rd rd' r r' opened,
    Visited base s x.asset t touches rd rd' r r' opened

lemma InBlock.start (base : LendingPoolStorage) (t : ℕ) : InBlock base t 0 base :=
  ⟨rfl, fun k _ => ⟨.refl k base, rfl, rfl⟩, fun _ hx => absurd hx (Multiset.notMem_zero _)⟩

/-- Writing an account keeps what was made of the reserves. -/
lemma InBlock.putAccount (h : InBlock base t m s) (account : AccountId)
    (v : List (Option AccountReserveData)) (c : AccountConfig) :
    InBlock base t m (s.putAccount account v c) := by
  refine ⟨h.setup, fun k hk => ?_, fun x hx => ?_⟩
  · obtain ⟨hring, hrd, hr⟩ := h.untouched k hk
    exact ⟨⟨hring.index, hring.entry⟩, hrd, hr⟩
  · obtain ⟨rd, rd', r, r', opened, hv⟩ := h.visited x hx
    exact ⟨rd, rd', r, r', opened, { hv with ring := ⟨hv.ring.index, hv.ring.entry⟩ }⟩

/-- **The touches determine the reserves.** -/
theorem InBlock.unique (h : InBlock base t m s) (h' : InBlock base t m s')
    (hdatas : s'.accountReserveDatas = s.accountReserveDatas)
    (hconfigs : s'.accountConfigs = s.accountConfigs) : s' = s := by
  have hreserve : ∀ k, s'.reserveDatas.get k = s.reserveDatas.get k
      ∧ s'.reserveIndexesAndFees.get k = s.reserveIndexesAndFees.get k ∧ KeepsRing k s s' := by
    intro k
    by_cases hk : ∀ x ∈ m, x.asset ≠ k
    · obtain ⟨hring, hrd, hr⟩ := h.untouched k hk
      obtain ⟨hring', hrd', hr'⟩ := h'.untouched k hk
      exact ⟨hrd'.trans hrd.symm, hr'.trans hr.symm, hring'.index.trans hring.index.symm,
        fun i => (hring'.entry i).trans (hring.entry i).symm⟩
    · simp only [not_forall, not_not] at hk
      obtain ⟨x, hx, rfl⟩ := hk
      obtain ⟨rd, rd₁, r, r₁, opened, hv⟩ := h.visited x hx
      obtain ⟨rd', rd₂, r', r₂, opened', hv'⟩ := h'.visited x hx
      cases hv.reserveData.symm.trans hv'.reserveData
      cases hv.indexesAndFees.symm.trans hv'.indexesAndFees
      cases Except.ok.inj (hv.snapshot.symm.trans hv'.snapshot)
      have hrd : rd₂ = rd₁ := by
        have hdeposit := hv.totalDeposit.trans hv'.totalDeposit.symm
        have hdebt := hv.totalDebt.trans hv'.totalDebt.symm
        have hagain := hv'.recalculated
        rw [← Nat.cast_inj.mp hdeposit, ← Nat.cast_inj.mp hdebt, hv.recalculated] at hagain
        exact (Except.ok.inj hagain).symm
      have hr : r₂ = r₁ := by
        have hindexes := Except.ok.inj (hv.indexes.symm.trans hv'.indexes)
        have hincome := Nat.cast_inj.mp (hv.income.trans hv'.income.symm)
        have hdepositFee := hv.depositFeeE6.trans hv'.depositFeeE6.symm
        have hdebtFee := hv.debtFeeE6.trans hv'.debtFeeE6.symm
        obtain ⟨indexes, depositFee, debtFee, earned⟩ := r₁
        obtain ⟨indexes', depositFee', debtFee', earned'⟩ := r₂
        simp only at hindexes hincome hdepositFee hdebtFee
        rw [hindexes, hincome, hdepositFee, hdebtFee]
      rw [hv.reserveData', hv'.reserveData', hv.indexesAndFees', hv'.indexesAndFees', hrd, hr]
      exact ⟨rfl, rfl, hv'.ring.index.trans hv.ring.index.symm,
        fun i => (hv'.ring.entry i).trans (hv.ring.entry i).symm⟩
  have hsetup : s'.setup = s.setup := h'.setup.trans h.setup.symm
  have hrds : s'.reserveDatas = s.reserveDatas := Mapping.ext fun k => (hreserve k).1
  have hrs : s'.reserveIndexesAndFees = s.reserveIndexesAndFees :=
    Mapping.ext fun k => (hreserve k).2.1
  have hindexes : s'.twUrIndexes = s.twUrIndexes := Mapping.ext fun k => (hreserve k).2.2.index
  have hentries : s'.twUrEntries = s.twUrEntries :=
    Mapping.ext fun k => (hreserve k.1).2.2.entry k.2
  exact eq_of_setup hsetup hrds hrs hindexes hentries hdatas hconfigs

/-! ### Visits in a block -/

/-- The start of a visit of a reserve: the snapshot is stored, and the indexes are updated. -/
structure Starts (s : LendingPoolStorage) (k t : ℕ) (s₁ : LendingPoolStorage)
    (ctx : ReserveDataContext) : Prop where
  assetId : ctx.assetId = k
  reserveData : s.reserveDatas.get k = some ctx.reserveData
  indexes : ∃ r, s.reserveIndexesAndFees.get k = some r
    ∧ r.indexes.update ctx.reserveData t = .ok ctx.reserveIndexesAndFees.indexes
    ∧ ctx.reserveIndexesAndFees.fees = r.fees
  stores : s.storeUtilizationRateSnapshot k ctx.reserveData t = .ok s₁

lemma openReserve_starts {ctx : ReserveDataContext} (h : s.openReserve k t = .ok (s₁, ctx)) :
    s.Starts k t s₁ ctx :=
  have hctx := (openReserve_ok h).1
  ⟨hctx.assetId, hctx.reserveData, hctx.indexes, openReserve_stores h⟩

/-- A visit in a block: its context is what the touches before it have made of the reserve at
the base, with the indexes and the snapshot of the block. -/
structure OpensIn (base : LendingPoolStorage) (k t : ℕ) (touches : Multiset Touch)
    (rd : ReserveData) (r : ReserveIndexesAndFees) (opened s₁ : LendingPoolStorage)
    (ctx : ReserveDataContext) : Prop
    extends Grown base k t touches rd ctx.reserveData r ctx.reserveIndexesAndFees where
  assetId : ctx.assetId = k
  reserveData : base.reserveDatas.get k = some rd
  indexesAndFees : base.reserveIndexesAndFees.get k = some r
  snapshot : base.storeUtilizationRateSnapshot k rd t = .ok opened
  ring : KeepsRing k opened s₁

/-- **Whoever opens a reserve in a block finds the same indexes and the same snapshot.** -/
theorem InBlock.opens {ctx : ReserveDataContext} (h : InBlock base t m s)
    (hstart : s.Starts k t s₁ ctx) :
    ∃ rd r opened, OpensIn base k t m rd r opened s₁ ctx := by
  obtain ⟨hid, hdata, ⟨r', hr', hupdate, hfees⟩, hstores⟩ := hstart
  by_cases hk : ∀ x ∈ m, x.asset ≠ k
  · -- the first visit: the reserve is that of the base
    obtain ⟨hring, hrd, hr⟩ := h.untouched k hk
    obtain ⟨opened, hsnapshot, hkeeps⟩ := storeUtilizationRateSnapshot_congr hring hstores
    refine ⟨ctx.reserveData, r', opened, ⟨⟨hupdate, ?_, ?_, ?_, ?_, ?_, .refl base k _⟩,
      hid, hrd ▸ hdata, hr ▸ hr', hsnapshot, hkeeps⟩⟩
    · rw [hfees]
    · rw [hfees]
    · rw [hfees, added_of_forall_ne hk, add_zero]
    · rw [added_of_forall_ne hk, add_zero]
    · rw [added_of_forall_ne hk, add_zero]
  · -- a later visit: the indexes and the ring have the time of the block already
    simp only [not_forall, not_not] at hk
    obtain ⟨x, hx, rfl⟩ := hk
    obtain ⟨rd, rd', r, r₁, opened, hv⟩ := h.visited x hx
    cases hv.reserveData'.symm.trans hdata
    cases hv.indexesAndFees'.symm.trans hr'
    have hindexes : ctx.reserveIndexesAndFees.indexes = r'.indexes :=
      Except.ok.inj (hupdate.symm.trans
        (ReserveIndexes.update_again hv.indexes ctx.reserveData))
    have hfresh : s.HasSnapshot x.asset t :=
      (storeUtilizationRateSnapshot_hasSnapshot hv.snapshot).congr hv.ring
    have hsame : s₁ = s := Except.ok.inj
      (hstores.symm.trans (hfresh.storeUtilizationRateSnapshot ctx.reserveData))
    refine ⟨rd, r, opened, ⟨⟨hindexes ▸ hv.indexes, ?_, ?_, ?_, hv.totalDeposit, hv.totalDebt,
      hv.rates⟩, hid, hv.reserveData, hv.indexesAndFees, hv.snapshot, hsame ▸ hv.ring⟩⟩
    · rw [hfees, hv.depositFeeE6]
    · rw [hfees, hv.debtFeeE6]
    · rw [hfees, hv.income]

/-- The contexts in which a reserve is opened in a block have the same terms. -/
lemma InBlock.sameTerms {s₁' : LendingPoolStorage} {ctx ctx' : ReserveDataContext}
    (h : InBlock base t m s) (h' : InBlock base t n s') (hopen : s.openReserve k t = .ok (s₁, ctx))
    (hopen' : s'.openReserve k t = .ok (s₁', ctx')) : ctx.SameTerms ctx' := by
  obtain ⟨rd, r, opened, ho⟩ := h.opens (openReserve_starts hopen)
  obtain ⟨rd', r', opened', ho'⟩ := h'.opens (openReserve_starts hopen')
  cases ho.reserveData.symm.trans ho'.reserveData
  cases ho.indexesAndFees.symm.trans ho'.indexesAndFees
  have hrestrictions : s'.reserveRestrictions = s.reserveRestrictions :=
    reserveRestrictions_of_setup (h'.setup.trans h.setup.symm)
  have hctx := (openReserve_ok hopen).1.restrictions
  have hctx' := (openReserve_ok hopen').1.restrictions
  rw [hrestrictions] at hctx'
  exact ⟨ho'.assetId.trans ho.assetId.symm, Except.ok.inj (ho'.indexes.symm.trans ho.indexes),
    ho'.depositFeeE6.trans ho.depositFeeE6.symm, ho'.debtFeeE6.trans ho.debtFeeE6.symm,
    Option.some.inj (hctx'.symm.trans hctx)⟩

/-- **A visit in a block adds its touch.** -/
theorem InBlock.touch {ctx ctx' : ReserveDataContext} {rd' : ReserveData} (h : InBlock base t m s)
    (hstart : s.Starts k t s₁ ctx) (htouch : ctx.Touches ctx' x)
    (hrates : s.recalculateRates k ctx'.reserveData = .ok rd') :
    InBlock base t (m + {x}) (s₁.putReserve k rd' ctx'.reserveIndexesAndFees) := by
  obtain ⟨rd, r, opened, ho⟩ := h.opens hstart
  have hstores := hstart.stores
  obtain ⟨indexes, entries, hs₁⟩ := storeUtilizationRateSnapshot_ok hstores
  have hasset : x.asset = k := htouch.asset.trans hstart.assetId
  rw [recalculateRates_of_setup h.setup] at hrates
  -- the flags and the old rates are those of the base, the totals those of the context
  have hdata : base.SameRates k ctx.reserveData ctx'.reserveData := by
    rw [htouch.reserveData]
    exact .refl base k _
  have hdeposit := recalculateRates_totalDeposit hrates
  have hdebt := recalculateRates_totalDebt hrates
  have hrecalculated : base.recalculateRates k
      { rd with totalDeposit := rd'.totalDeposit, totalDebt := rd'.totalDebt } = .ok rd' :=
    calc base.recalculateRates k
          { rd with totalDeposit := rd'.totalDeposit, totalDebt := rd'.totalDebt }
        = base.recalculateRates k { ctx'.reserveData with
            totalDeposit := rd'.totalDeposit, totalDebt := rd'.totalDebt } :=
          ((ho.rates.trans hdata) rd'.totalDeposit rd'.totalDebt).symm
      _ = base.recalculateRates k ctx'.reserveData := by rw [hdeposit, hdebt]
      _ = .ok rd' := hrates
  have hgrown : Grown base k t (m + {x}) rd rd' r ctx'.reserveIndexesAndFees := by
    refine ⟨htouch.indexes ▸ ho.indexes, htouch.depositFeeE6.trans ho.depositFeeE6,
      htouch.debtFeeE6.trans ho.debtFeeE6, ?_, ?_, ?_,
      (ho.rates.trans hdata).trans (recalculateRates_sameRates hrates)⟩
    · rw [htouch.income, ho.income, ← hasset, added_touch_self, add_assoc]
    · rw [hdeposit, htouch.deposit, ho.totalDeposit, ← hasset, added_touch_self, add_assoc]
    · rw [hdebt, htouch.debt, ho.totalDebt, ← hasset, added_touch_self, add_assoc]
  refine ⟨?_, fun j hj => ?_, fun y hy => ?_⟩
  · rw [hs₁]
    exact h.setup
  · have hjk : j ≠ k := fun hjk => hj x (by simp) (hasset.trans hjk.symm)
    obtain ⟨hring, hrd, hr⟩ := h.untouched j fun y hy => hj y (Multiset.mem_add.mpr (.inl hy))
    have hkeeps := storeUtilizationRateSnapshot_keepsRing hjk hstores
    refine ⟨⟨hkeeps.index.trans hring.index, fun i => (hkeeps.entry i).trans (hring.entry i)⟩,
      ?_, ?_⟩
    · rw [putReserve_reserveDatas, Mapping.get_insert_of_ne _ hjk, ← hrd, hs₁]
      rfl
    · rw [putReserve_reserveIndexesAndFees, Mapping.get_insert_of_ne _ hjk, ← hr, hs₁]
      rfl
  · by_cases hy' : y.asset = k
    · rw [hy']
      exact ⟨rd, rd', r, ctx'.reserveIndexesAndFees, opened, hgrown, ho.reserveData,
        ho.indexesAndFees, Mapping.get_insert_self .., Mapping.get_insert_self .., hrecalculated,
        ho.snapshot, ⟨ho.ring.index, ho.ring.entry⟩⟩
    · have hxy : x.asset ≠ y.asset := fun hxy => hy' (hxy.symm.trans hasset)
      have hmem : y ∈ m := by
        rcases Multiset.mem_add.mp hy with hmem | hmem
        · exact hmem
        · exact absurd (congrArg Touch.asset (Multiset.mem_singleton.mp hmem)).symm hxy
      obtain ⟨rdy, rdy', ry, ry', openedy, hv⟩ := h.visited y hmem
      have hkeeps := storeUtilizationRateSnapshot_keepsRing hy' hstores
      refine ⟨rdy, rdy', ry, ry', openedy, ⟨hv.indexes, hv.depositFeeE6, hv.debtFeeE6, ?_, ?_, ?_,
        hv.rates⟩, hv.reserveData, hv.indexesAndFees, ?_, ?_, hv.recalculated, hv.snapshot,
        ⟨hkeeps.index.trans hv.ring.index, fun i => (hkeeps.entry i).trans (hv.ring.entry i)⟩⟩
      · rw [added_touch_of_ne hxy]
        exact hv.income
      · rw [added_touch_of_ne hxy]
        exact hv.totalDeposit
      · rw [added_touch_of_ne hxy]
        exact hv.totalDebt
      · rw [putReserve_reserveDatas, Mapping.get_insert_of_ne _ hy', ← hv.reserveData', hs₁]
        rfl
      · rw [putReserve_reserveIndexesAndFees, Mapping.get_insert_of_ne _ hy',
          ← hv.indexesAndFees', hs₁]
        rfl

end LendingPoolStorage

end AbaxLending
