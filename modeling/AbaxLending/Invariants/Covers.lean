import AbaxLending.Spec.Worth

/-!
What a reserve owes, and the cash that covers it.

`Covers` is the invariant of a reserve with an interest rate model: an amount of cash is at
least what the reserve owes at the stored indexes (`LendingPoolStorage.claims`), and its
deposit rate promises no more interest on the stored totals than the debt rate earns.

* `EmptyReserve.solvent`: an empty reserve owes nothing;
* `applyAction_solvent`: an action raises what is owed by at most its inflow;
* `accountForAccountActions_solvent`, `accountForAccumulateInterest_solvent`: so do the
  storage functions, unless they let time pass while the stored total of the deposits is
  staler than the one of the debts.
-/

namespace AbaxLending

open Outcome

/-- What the actions of a list pay into the reserve of an asset. -/
def inflows (asset : AccountId) (actions : List Action) : ℤ :=
  ((actions.filter fun action => action.asset = asset).map Action.inflow).sum

lemma inflows_cons (asset : AccountId) (action : Action) (rest : List Action) :
    inflows asset (action :: rest)
      = (if action.asset = asset then action.inflow else 0) + inflows asset rest := by
  rw [inflows, List.filter_cons]
  by_cases h : action.asset = asset
  · rw [if_pos (by simpa using h), if_pos h, List.map_cons, List.sum_cons, inflows]
  · rw [if_neg (by simpa using h), if_neg h, inflows, zero_add]

namespace LendingPoolStorage

/-! ### The invariant -/

/-- The reserve covers what it owes with an amount of cash. -/
structure Covers (s : LendingPoolStorage) (k : ℕ) (cash : ℚ) (rd : ReserveData)
    (r : ReserveIndexesAndFees) : Prop where
  reserveData : s.reserveDatas.get k = some rd
  indexesAndFees : s.reserveIndexesAndFees.get k = some r
  model : s.interestRateModel.contains k = true
  pos : ∀ side : Side, 0 < side.index r.indexes
  upTo : ∀ a, (s.position a k).UpTo r.indexes
  rates : rd.currentDepositRateE18 * rd.totalDeposit ≤ rd.totalDebt * rd.currentDebtRateE18
  claims : s.claims k r.indexes r.fees.earnedFee ≤ cash

/-- Some reserve data covers what is owed. -/
def Solvent (s : LendingPoolStorage) (k : ℕ) (cash : ℚ) : Prop := ∃ rd r, s.Covers k cash rd r

variable {s s' : LendingPoolStorage} {k t : ℕ} {cash : ℚ}

lemma worth_congr (h : ∀ a, s'.position a k = s.position a k) (side : Side)
    (indexes : ReserveIndexes) : s'.worth side k indexes = s.worth side k indexes := by
  simp only [worth, h]

lemma claims_congr (h : ∀ a, s'.position a k = s.position a k) (indexes : ReserveIndexes)
    (earnedFee : ℕ) : s'.claims k indexes earnedFee = s.claims k indexes earnedFee := by
  simp only [claims, h]

/-- Only the reserve and its positions matter. -/
lemma Solvent.congr (h : s.Solvent k cash) (hrd : s'.reserveDatas.get k = s.reserveDatas.get k)
    (hr : s'.reserveIndexesAndFees.get k = s.reserveIndexesAndFees.get k)
    (hmodel : s'.interestRateModel = s.interestRateModel)
    (hposition : ∀ a, s'.position a k = s.position a k) : s'.Solvent k cash := by
  obtain ⟨rd, r, hc⟩ := h
  refine ⟨rd, r, hrd.trans hc.reserveData, hr.trans hc.indexesAndFees, ?_, hc.pos, fun a => ?_,
    hc.rates, ?_⟩
  · rw [hmodel]
    exact hc.model
  · rw [hposition a]
    exact hc.upTo a
  · rw [claims_congr hposition]
    exact hc.claims

/-- Only the reserve and its positions matter. -/
lemma DepositsNoStaler.congr (h : s.DepositsNoStaler k t)
    (hrd : s'.reserveDatas.get k = s.reserveDatas.get k)
    (hr : s'.reserveIndexesAndFees.get k = s.reserveIndexesAndFees.get k)
    (hposition : ∀ a, s'.position a k = s.position a k) : s'.DepositsNoStaler k t := by
  intro rd r hrd' hr'
  rw [worth_congr hposition, worth_congr hposition]
  exact h rd r (hrd ▸ hrd') (hr ▸ hr')

/-- A reserve without positions, totals and income, as `register_asset` leaves it. -/
structure EmptyReserve (s : LendingPoolStorage) (k : ℕ) : Prop where
  reserveData : ∃ rd, s.reserveDatas.get k = some rd ∧ rd.totalDeposit = 0 ∧ rd.totalDebt = 0
  indexesAndFees : ∃ r, s.reserveIndexesAndFees.get k = some r ∧ r.fees.earnedFee = 0
    ∧ ∀ side : Side, 0 < side.index r.indexes
  model : s.interestRateModel.contains k = true
  vacant : ∀ a, s.entry a k = none

/-- An empty reserve owes nothing. -/
lemma EmptyReserve.solvent (h : s.EmptyReserve k) (hcash : 0 ≤ cash) : s.Solvent k cash := by
  obtain ⟨rd, hrd, hd, hb⟩ := h.reserveData
  obtain ⟨r, hr, he, hpos⟩ := h.indexesAndFees
  have hposition : ∀ a, s.position a k = default := by
    intro a
    rw [position, h.vacant a, Option.getD_none]
  refine ⟨rd, r, hrd, hr, h.model, hpos, fun a => ?_, by rw [hd, hb, mul_zero, zero_mul], ?_⟩
  · rw [hposition a]
    exact AccountReserveData.upTo_default _
  · have hzero : ∀ a, (s.position a k).claim r.indexes = 0 := by
      intro a
      rw [hposition a, AccountReserveData.claim, Side.worth, Side.worth, Side.amount_default,
        Side.amount_default, Indexed.worth_zero, Indexed.worth_zero, sub_zero]
    rw [LendingPoolStorage.claims, Finset.sum_eq_zero fun a _ => hzero a, he, Nat.cast_zero,
      add_zero]
    exact hcash

/-- An empty reserve is never stale. -/
lemma EmptyReserve.noStaler (h : s.EmptyReserve k) (t : ℕ) : s.DepositsNoStaler k t := by
  intro rd r hrd _ _ _ hne
  obtain ⟨rd', hrd', hd, -⟩ := h.reserveData
  cases hrd.symm.trans hrd'
  exact absurd hd hne

/-- A reserve is not stale at the time of its indexes. -/
lemma noStaler_of_updated {r : ReserveIndexesAndFees} (hr : s.reserveIndexesAndFees.get k = some r)
    (ht : t ≤ r.indexes.updateTimestamp) : s.DepositsNoStaler k t := by
  intro rd r' _ hr' htime
  cases hr.symm.trans hr'
  omega

/-- A side of which one account holds the whole total, up to date, is worth its total. -/
lemma worth_eq_total {side : Side} {rd : ReserveData} {indexes : ReserveIndexes} {a : AccountId}
    (h : Book.Balanced (side.total rd) fun b => side.amount (s.position b k))
    (hamount : side.amount (s.position a k) = side.total rd)
    (happlied : side.applied (s.position a k) = side.index indexes)
    (hpos : 0 < side.index indexes) : s.worth side k indexes = side.total rd := by
  have hrest : ∀ b ∈ Finset.univ, b ≠ a → side.worth indexes (s.position b k) = 0 := by
    intro b _ hb
    rw [Side.worth, h.eq_zero_of_total hamount hb, Indexed.worth_zero]
  rw [worth, Finset.sum_eq_single a hrest fun hmem => absurd (Finset.mem_univ a) hmem,
    side.worth_self happlied hpos, hamount]

/-- A reserve whose totals are up to date is not stale. -/
lemma noStaler_of_worth {rd : ReserveData} {r : ReserveIndexesAndFees}
    (hrd : s.reserveDatas.get k = some rd) (hr : s.reserveIndexesAndFees.get k = some r)
    (h : ∀ side : Side, s.worth side k r.indexes = side.total rd) (t : ℕ) :
    s.DepositsNoStaler k t := by
  intro rd' r' hrd' hr' _ _ _
  cases hrd.symm.trans hrd'
  cases hr.symm.trans hr'
  rw [h .deposit, h .debt]
  exact (mul_comm ..).le

variable [Pendzl]

/-- Recalculated rates promise no more than they earn. -/
lemma recalculateRates_rates {rd rd' : ReserveData} (hmodel : s.interestRateModel.contains k = true)
    (h : s.recalculateRates k rd = .ok rd') :
    rd'.currentDepositRateE18 * rd'.totalDeposit ≤ rd'.totalDebt * rd'.currentDebtRateE18 := by
  rw [recalculateRates] at h
  cases hm : s.interestRateModel.get k with
  | none => simp [Mapping.contains, hm] at hmodel
  | some model =>
      simp only [hm, ReserveData.recalculateCurrentRates] at h
      split_ifs at h with h0 h1
      · simp only [Except.ok.injEq] at h
        rw [← h]
        simp
      · simp only [e18MulE18DivE18ToE18Rdown, bind_eq_ok, mulDiv_eq_ok, okOr_eq_ok,
          tryFrom_eq_some, pure_eq, Except.ok.injEq] at h
        obtain ⟨_, _, debtRate, _, depositRate, ⟨_, ⟨_, hrate, _⟩, rfl, _⟩, rfl⟩ := h
        rw [exactDiv] at hrate
        simp only [hrate]
        exact Nat.div_mul_le_self ..
      · simp only [bind_eq_ok, pure_eq, Except.ok.injEq] at h
        obtain ⟨_, _, _, _, _, rfl, rfl⟩ := h
        simp

/-- What is owed when the indexes are brought to a time. -/
lemma Covers.update {rd : ReserveData} {r : ReserveIndexesAndFees} {indexes : ReserveIndexes}
    (h : s.Covers k cash rd r) (hstale : s.DepositsNoStaler k t)
    (hup : r.indexes.update rd t = .ok indexes) :
    (∀ side : Side, 0 < side.index indexes) ∧ (∀ a, (s.position a k).UpTo indexes)
      ∧ s.claims k indexes r.fees.earnedFee ≤ cash := by
  have hmono : ∀ side : Side, side.index r.indexes ≤ side.index indexes := by
    intro side
    cases side with
    | deposit => exact (ReserveIndexes.update_mono hup).1
    | debt => exact (ReserveIndexes.update_mono hup).2
  refine ⟨fun side => (h.pos side).trans_le (hmono side), fun a => ?_, ?_⟩
  · exact ⟨fun side => ((h.upTo a).le side).trans (hmono side), (h.upTo a).zero⟩
  · exact (claims_update h.rates (hstale rd r h.reserveData h.indexesAndFees) hup _).trans h.claims

/-! ### Actions -/

/-- **An action raises what is owed by at most its inflow.**  Afterwards no time has to
pass for the next action of the same message. -/
theorem applyAction_solvent {st st' : AccountActionsState} {feeReductions : FeeReductions}
    {account asset : AccountId} {action action' : Action} {interests : ℕ × ℕ}
    (hids : st.storage.IdsUnique) (hasset : st.storage.assetToId.get asset = some k)
    (h : (st.flush account).Solvent k cash) (hstale : (st.flush account).DepositsNoStaler k t)
    (hact : st.applyAction feeReductions t action = .ok (st', action', interests)) :
    (st'.flush account).Solvent k
        (cash + ((if action'.asset = asset then action'.inflow else 0 : ℤ) : ℚ))
      ∧ (st'.flush account).DepositsNoStaler k t := by
  obtain ⟨j, ctx, res, rd', i, e, hj, hlen, hopen, hstep, hrates, haction, -, hst'⟩ :=
    AccountActionsState.applyAction_ok hact
  have hmoved : ∀ a l, (st'.flush account).position a l
      = if a = account ∧ l = j then res.data else (st.flush account).position a l :=
    AccountActionsState.flush_position_set hlen (hst' ▸ rfl) (hst' ▸ rfl)
  have hasset' : action'.asset = action.asset := by rw [haction]
  by_cases hsame : action.asset = asset
  · -- the reserve of the asset: its indexes are brought to the time, then one position moves
    subst hsame
    cases hasset.symm.trans hj
    rw [if_pos hasset']
    obtain ⟨rd, r, hc⟩ := h
    obtain ⟨r', hr', hup, hfees⟩ := hopen.indexes
    cases hc.indexesAndFees.symm.trans hr'
    cases hc.reserveData.symm.trans hopen.reserveData
    obtain ⟨hpos, hupTo, hclaims⟩ := hc.update hstale hup
    have hposition : (st.flush account).position account k = st.position k :=
      AccountActionsState.flush_position_self ..
    obtain ⟨hcaught, hclaim⟩ := Action.step_claim (hposition ▸ hupTo account) hpos hstep
    obtain ⟨a, -, -, -, -, -, hreserve⟩ := Action.step_settles hstep
    have hindexes : res.ctx.reserveIndexesAndFees.indexes = ctx.reserveIndexesAndFees.indexes := by
      rw [hreserve]
    have hget : (st'.flush account).reserveIndexesAndFees.get k
        = some res.ctx.reserveIndexesAndFees := by
      rw [hst']
      exact Mapping.get_insert_self ..
    have htime : res.ctx.reserveIndexesAndFees.indexes.updateTimestamp = t := by
      rw [hindexes]
      exact ReserveIndexes.update_timestamp hup
    refine ⟨⟨rd', res.ctx.reserveIndexesAndFees, ?_, hget, ?_, ?_, fun b => ?_, ?_, ?_⟩, ?_⟩
    · rw [hst']
      exact Mapping.get_insert_self ..
    · rw [hst']
      exact hc.model
    · rw [hindexes]
      exact hpos
    · rw [hindexes]
      rw [hmoved]
      split_ifs
      · exact hcaught.upTo hpos
      · exact hupTo b
    · exact recalculateRates_rates hc.model hrates
    · have hsum := Book.sum_add_of_eq_off
        (f := fun b => ((st.flush account).position b k).claim ctx.reserveIndexesAndFees.indexes)
        (g := fun b => ((st'.flush account).position b k).claim ctx.reserveIndexesAndFees.indexes)
        (a := account) fun b hb => by rw [hmoved, if_neg fun hc => hb hc.1]
      rw [hmoved, if_pos ⟨rfl, rfl⟩, hposition] at hsum
      rw [LendingPoolStorage.claims] at hclaims ⊢
      rw [hfees] at hclaim
      rw [hindexes, haction]
      linarith
    · intro rd₁ r₁ _ hr₁ htime'
      cases hget.symm.trans hr₁
      omega
  · -- another reserve: this one and its positions stay
    rw [if_neg (hasset' ▸ hsame), Int.cast_zero, add_zero]
    have hjk : k ≠ j := by
      rintro rfl
      exact hsame (hids.inj action.asset asset k hj hasset)
    have hposition : ∀ a, (st'.flush account).position a k = (st.flush account).position a k := by
      intro a
      rw [hmoved, if_neg fun hc => hjk hc.2]
    have hrd : (st'.flush account).reserveDatas.get k = (st.flush account).reserveDatas.get k := by
      rw [hst']
      exact Mapping.get_insert_of_ne _ hjk _
    have hr : (st'.flush account).reserveIndexesAndFees.get k
        = (st.flush account).reserveIndexesAndFees.get k := by
      rw [hst']
      exact Mapping.get_insert_of_ne _ hjk _
    exact ⟨h.congr hrd hr (hst' ▸ rfl) hposition, hstale.congr hrd hr hposition⟩

/-- The run lemma of the actions. -/
lemma applyActions_solvent {st st' : AccountActionsState} {feeReductions : FeeReductions}
    {account asset : AccountId} {actions actions' : List Action} {results : List (ℕ × ℕ)}
    (hids : st.storage.IdsUnique) (hasset : st.storage.assetToId.get asset = some k)
    (h : (st.flush account).Solvent k cash) (hstale : (st.flush account).DepositsNoStaler k t)
    (hrun : st.applyActions feeReductions t actions = .ok (st', actions', results)) :
    (st'.flush account).Solvent k (cash + (inflows asset actions' : ℤ)) := by
  induction actions generalizing st actions' results cash with
  | nil =>
      obtain ⟨rfl, rfl, -⟩ := AccountActionsState.applyActions_nil_ok hrun
      rw [show inflows asset [] = 0 from rfl, Int.cast_zero, add_zero]
      exact h
  | cons action rest ih =>
      obtain ⟨st₁, action₁, ints, rest₂, results₂, h₁, h₂, rfl, -⟩ :=
        AccountActionsState.applyActions_cons_ok hrun
      have hkeeps := applyAction_keepsRegistry h₁
      obtain ⟨hsolvent, hstale₁⟩ := applyAction_solvent hids hasset h hstale h₁
      have hrest := ih (hids.keepsRegistry hkeeps) (hkeeps.assetToId ▸ hasset) hsolvent hstale₁ h₂
      rw [inflows_cons, Int.cast_add, ← add_assoc]
      exact hrest

/-- The actions of an account raise what is owed by at most their inflows. -/
lemma accountForAccountActions_solvent {env : Env} {account asset : AccountId}
    {actions : List Action} {res : AccountActionsResult} (hids : s.IdsUnique)
    (hasset : s.assetToId.get asset = some k) (h : s.Solvent k cash)
    (hstale : s.DepositsNoStaler k env.blockTimestamp)
    (hres : s.accountForAccountActions env account actions = .ok res) :
    res.storage.Solvent k (cash + (inflows asset res.actions : ℤ)) := by
  obtain ⟨st, hst, -, hs⟩ := accountForAccountActions_ok hres
  have hposition : ∀ a, ((s.startActions account).flush account).position a k
      = s.position a k := fun a => startActions_flush_position account a k
  rw [hs]
  exact applyActions_solvent hids hasset (h.congr rfl rfl rfl hposition)
    (hstale.congr rfl rfl hposition) hst

/-- `accumulate_interest` does not raise what is owed. -/
lemma accountForAccumulateInterest_solvent {asset : AccountId} (h : s.Solvent k cash)
    (hstale : s.DepositsNoStaler k t) (hs : s.accountForAccumulateInterest asset t = .ok s') :
    s'.Solvent k cash := by
  obtain ⟨j, rd, r, indexes, rd', i, e, -, hrd, hr, -, hup, hrates, rfl⟩ :=
    accountForAccumulateInterest_ok hs
  by_cases hjk : k = j
  · subst hjk
    obtain ⟨rd₀, r₀, hc⟩ := h
    cases hc.reserveData.symm.trans hrd
    cases hc.indexesAndFees.symm.trans hr
    obtain ⟨hpos, hupTo, hclaims⟩ := hc.update hstale hup
    exact ⟨rd', { r with indexes }, Mapping.get_insert_self .., Mapping.get_insert_self ..,
      hc.model, hpos, hupTo, recalculateRates_rates hc.model hrates, hclaims⟩
  · exact h.congr (Mapping.get_insert_of_ne _ hjk _) (Mapping.get_insert_of_ne _ hjk _) rfl
      fun _ => rfl

end LendingPoolStorage

end AbaxLending
