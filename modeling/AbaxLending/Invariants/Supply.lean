import AbaxLending.Effects.Liquidation
import AbaxLending.Spec.Interest

/-!
The supply that a token shows and the balances that it shows.

The stored positions sum to the stored totals also when accounts liquidate each other
(`TotalsAgree.accountForLiquidate`), and the supply is the stored total: `total_deposit_of`
and `total_debt_of` update the indexes on a copy and drop it.  The balances contain the
interest up to the time of the view.

* `Side.pending`: the interest that a position has pending, in closed form;
* `supply_eq_sum_iff`: the supply is the sum of the balances exactly when no account has
  interest pending.
-/

namespace AbaxLending

open Outcome

namespace Side

/-- The supply that the token of a side shows. -/
def supply [Pendzl] (side : Side) (s : LendingPoolStorage) (asset : AccountId) (timestamp : ℕ) :
    Res ℕ :=
  match side with
  | .deposit => s.totalDepositOf asset timestamp
  | .debt => s.totalDebtOf asset timestamp

/-- The interest on a position that is not settled yet, after the fee. -/
def pending (side : Side) (data : AccountReserveData) (indexes : ReserveIndexes)
    (fees : ReserveFees) (reductions : FeeReductions) : ℕ :=
  match side with
  | .deposit => data.depositBeforeFee indexes.depositIndexE18 - data.deposit
      - data.depositCharge indexes fees.depositFeeE6 reductions.1
  | .debt => data.debtBeforeFee indexes.debtIndexE18 - data.debt
      + data.debtCharge indexes fees.debtFeeE6 reductions.2

/-- An accrual settles the pending interest. -/
lemma amount_pending [Pendzl] (side : Side) {data : AccountReserveData} {indexes : ReserveIndexes}
    {fees : ReserveFees} {reductions : FeeReductions} {a : Accrual}
    (h : data.accumulateAccountInterest indexes fees reductions = .ok a) :
    side.amount a.data = side.amount data + side.pending data indexes fees reductions := by
  obtain ⟨hd, hb, -⟩ := AccountReserveData.accumulateAccountInterest_amounts h
  obtain ⟨hdeposit, -⟩ := AccountReserveData.accumulateAccountInterest_spec h
  have hdebt := data.debt_le_debtBeforeFee indexes.debtIndexE18
  cases side with
  | deposit =>
      simp only [amount, pending]
      omega
  | debt =>
      simp only [amount, pending]
      omega

end Side

namespace LendingPoolStorage

section

variable [Pendzl] {s : LendingPoolStorage} {env : Env}
  {caller liquidated assetToRepay assetToTake : AccountId} {amount t : ℕ}

/-! ### The totals over liquidations -/

namespace Liquidation

variable (r : Liquidation s env caller liquidated assetToRepay assetToTake amount t)

/-- A liquidation writes the reserves of its two assets. -/
lemma reserve_of_ne {j : ℕ} (hk : j ≠ r.k) (hr : j ≠ r.repayId) :
    r.written.reserveDatas.get j = s.reserveDatas.get j := by
  obtain ⟨rd, i, e, -, hmid⟩ := r.mid_eq
  have hget : r.written.reserveDatas.get j = r.mid.reserveDatas.get j :=
    Mapping.get_insert_of_ne _ hk _
  rw [hget, hmid]
  exact Mapping.get_insert_of_ne _ hr _

/-- It registers nothing. -/
lemma reserve_exists (j : ℕ) :
    (∃ rd, r.written.reserveDatas.get j = some rd) ↔ ∃ rd, s.reserveDatas.get j = some rd := by
  by_cases hk : j = r.k
  · obtain ⟨rd, hrd, -⟩ := r.total_take
    rw [hk]
    exact iff_of_true ⟨_, r.reserve_take⟩ ⟨rd, hrd⟩
  · by_cases hr : j = r.repayId
    · obtain ⟨rd, rd', hrd, hrd', -⟩ := r.total_repay fun heq => hk (hr.trans heq.symm)
      rw [hr]
      exact iff_of_true ⟨rd', hrd'⟩ ⟨rd, hrd⟩
    · rw [r.reserve_of_ne hk hr]

lemma written_assetToId : r.written.assetToId = s.assetToId := by
  obtain ⟨rd, i, e, -, hmid⟩ := r.mid_eq
  have hwritten : r.written.assetToId = r.mid.assetToId := rfl
  rw [hwritten, hmid]
  rfl

lemma written_assetCount : r.written.assetCount = s.assetCount := by
  obtain ⟨rd, i, e, -, hmid⟩ := r.mid_eq
  have hwritten : r.written.assetCount = r.mid.assetCount := rfl
  rw [hwritten, hmid]
  rfl

/-- In the other assets no entry changes. -/
lemma entry_away (hne : caller ≠ liquidated) {j : ℕ} (hk : j ≠ r.k) (hr : j ≠ r.repayId)
    (a : AccountId) : r.written.entry a j = s.entry a j := by
  by_cases hc : a = caller
  · rw [hc, r.entry_caller, if_neg hk]
  · by_cases hl : a = liquidated
    · rw [hl, r.entry_liquidated hne.symm, if_neg hk, if_neg hr]
    · exact r.entry_of_ne hc hl j

/-- Between distinct accounts a liquidation keeps the books of every reserve balanced. -/
lemma books (hne : caller ≠ liquidated) (side : Side) (j : ℕ) :
    side.BalancedIn r.written j ↔ side.BalancedIn s j := by
  by_cases hk : j = r.k
  · rw [hk]
    exact r.books_take hne side
  · by_cases hr : j = r.repayId
    · rw [hr]
      exact r.books_repay hne side
    · simp only [Side.BalancedIn, r.reserve_of_ne hk hr, position, r.entry_away hne hk hr]

end Liquidation

/-- **A liquidation of another account keeps the totals the sums of the positions.** -/
theorem TotalsAgree.accountForLiquidate {res : LiquidateResult} (h : s.TotalsAgree)
    (hne : caller ≠ liquidated)
    (hres : s.accountForLiquidate env caller liquidated assetToRepay assetToTake amount t
      = .ok res) : res.storage.TotalsAgree := by
  obtain ⟨r, rfl⟩ := accountForLiquidate_ok hres
  apply TotalsAgree.of_balanced
  case hcount =>
    intro j rd hj
    obtain ⟨rd', hrd'⟩ := (r.reserve_exists j).mp ⟨rd, hj⟩
    have hcount : r.written.assetCount = s.assetCount := r.written_assetCount
    exact hcount ▸ h.inCount j rd' hrd'
  case hregistered =>
    intro asset j hj
    have hassets : r.written.assetToId = s.assetToId := r.written_assetToId
    exact (r.reserve_exists j).mpr (h.registered asset j (hassets ▸ hj))
  case hvacant =>
    intro j hj a
    have hvacant : s.reserveDatas.get j = none := by
      cases hg : s.reserveDatas.get j with
      | none => rfl
      | some rd =>
          obtain ⟨rd', hrd'⟩ := (r.reserve_exists j).mpr ⟨rd, hg⟩
          exact absurd hrd' (by rw [hj]; simp)
    have haway : ∀ i, (∃ rd, s.reserveDatas.get i = some rd) → j ≠ i := by
      rintro i ⟨rd, hrd⟩ rfl
      rw [hvacant] at hrd
      cases hrd
    obtain ⟨rd, hrd, -⟩ := r.total_take
    have hk : j ≠ r.k := haway _ ⟨rd, hrd⟩
    have hr : j ≠ r.repayId := haway _ ⟨_, r.repayOpened.reserveData⟩
    exact (r.entry_away hne hk hr a).trans (h.vacant j hvacant a)
  case hbooks =>
    intro side j rd hj
    obtain ⟨rd₀, hrd₀⟩ := (r.reserve_exists j).mp ⟨rd, hj⟩
    obtain ⟨rd', hrd', hsum⟩ := (r.books hne side j).mpr ⟨rd₀, hrd₀, h.balanced side hrd₀⟩
    cases hj.symm.trans hrd'
    exact hsum

/-! ### The supply -/

/-- At a time no account has interest pending on a side of an asset. -/
def NoInterestPending (side : Side) (s : LendingPoolStorage) (env : Env) (k t : ℕ) : Prop :=
  ∃ rd r indexes, s.reserveDatas.get k = some rd ∧ s.reserveIndexesAndFees.get k = some r
    ∧ r.indexes.update rd t = .ok indexes
    ∧ ∀ a, side.pending (s.position a k) indexes r.fees (s.getFeeReductionsOfAccount env a) = 0

/-- The supply is the stored total, once the indexes can be brought to the time. -/
lemma supply_of_update {asset : AccountId} {k : ℕ} {rd : ReserveData} {r : ReserveIndexesAndFees}
    {indexes : ReserveIndexes} (hk : s.assetToId.get asset = some k)
    (hrd : s.reserveDatas.get k = some rd) (hr : s.reserveIndexesAndFees.get k = some r)
    (hup : r.indexes.update rd t = .ok indexes) (side : Side) :
    side.supply s asset t = .ok (side.total rd) := by
  cases side <;> simp only [Side.supply, totalDepositOf, totalDebtOf, assetId, getReserveData,
    getReserveIndexesAndFees, hk, hrd, hr, hup, okOr, unwrap, ok_bind, pure_eq, Side.total]

/-- **The balances exceed the supply by the pending interest.** -/
theorem TotalsAgree.supply_add_pending {asset : AccountId} {k : ℕ} {side : Side}
    {balances : AccountId → ℕ} (h : s.TotalsAgree) (hk : s.assetToId.get asset = some k)
    (hviews : ∀ a, side.view s env asset a t = .ok (balances a)) :
    ∃ rd r indexes, s.reserveDatas.get k = some rd ∧ s.reserveIndexesAndFees.get k = some r
      ∧ r.indexes.update rd t = .ok indexes ∧ side.supply s asset t = .ok (side.total rd)
      ∧ side.total rd + ∑ a, side.pending (s.position a k) indexes r.fees
          (s.getFeeReductionsOfAccount env a) = ∑ a, balances a := by
  obtain ⟨_, hdata, -⟩ := Side.view_eq_ok.mp (hviews ⟨0⟩)
  obtain ⟨k', rd, r, indexes, -, hk', hrd, hr, hup, -, -⟩ := accruedDataOf_eq_ok.mp hdata
  cases hk'.symm.trans hk
  have hbalance : ∀ a, balances a = side.amount (s.position a k)
      + side.pending (s.position a k) indexes r.fees (s.getFeeReductionsOfAccount env a) := by
    intro a
    obtain ⟨_, hdata, hamount⟩ := Side.view_eq_ok.mp (hviews a)
    obtain ⟨k', rd', r', indexes', accrual, hk', hrd', hr', hup', ha, rfl⟩ :=
      accruedDataOf_eq_ok.mp hdata
    cases hk'.symm.trans hk
    cases hrd'.symm.trans hrd
    cases hr'.symm.trans hr
    cases hup'.symm.trans hup
    rw [← hamount, side.amount_pending ha]
  obtain ⟨rd', hrd', hsum⟩ := h.balancedIn hk side
  cases hrd'.symm.trans hrd
  refine ⟨rd, r, indexes, hrd, hr, hup, supply_of_update hk hrd hr hup side, ?_⟩
  rw [hsum, ← Finset.sum_add_distrib]
  exact Finset.sum_congr rfl fun a _ => (hbalance a).symm

/-- No interest is pending when the balances are the stored amounts. -/
lemma TotalsAgree.noInterestPending {asset : AccountId} {k : ℕ} {side : Side} (h : s.TotalsAgree)
    (hk : s.assetToId.get asset = some k)
    (hviews : ∀ a, side.view s env asset a t = .ok (side.amount (s.position a k))) :
    s.NoInterestPending side env k t := by
  obtain ⟨rd, r, indexes, hrd, hr, hup, -, hsum⟩ := h.supply_add_pending hk hviews
  obtain ⟨rd', hrd', htotal⟩ := h.balancedIn hk side
  cases hrd'.symm.trans hrd
  rw [← htotal] at hsum
  have hzero : ∑ a, side.pending (s.position a k) indexes r.fees
      (s.getFeeReductionsOfAccount env a) = 0 := by omega
  exact ⟨rd, r, indexes, hrd, hr, hup,
    fun a => Finset.sum_eq_zero_iff.mp hzero a (Finset.mem_univ a)⟩

omit [Pendzl] in
/-- When one account holds all deposits and one owes all debts, the others hold and owe
nothing. -/
lemma TotalsAgree.idle {k : ℕ} {rd : ReserveData} {holder debtor a : AccountId}
    (h : s.TotalsAgree) (hrd : s.reserveDatas.get k = some rd)
    (hd : (s.position holder k).deposit = rd.totalDeposit)
    (hb : (s.position debtor k).debt = rd.totalDebt) (ha : a ≠ holder) (ha' : a ≠ debtor)
    (side : Side) : side.amount (s.position a k) = 0 := by
  cases side with
  | deposit => exact (h.deposit k rd hrd).eq_zero_of_total hd ha
  | debt => exact (h.debt k rd hrd).eq_zero_of_total hb ha'

end

end LendingPoolStorage

/-! ### Runs -/

/-- The account that a message liquidates. -/
def Message.liquidates : Message → Option AccountId
  | .liquidate liquidatedAccount _ _ _ _ => some liquidatedAccount
  | _ => none

namespace World

section

variable [Pendzl]

/-- A step of the system by a message that neither transfers a position nor liquidates its own
caller. -/
def DistinctStep (t : ℕ) (w w' : World) : Prop :=
  ∃ env message, env.blockTimestamp = t ∧ message.isTransfer = false
    ∧ message.liquidates ≠ some env.caller ∧ w.execute env message = .ok w'

/-- The step lemma of the totals, with liquidations. -/
lemma distinctStep_totalsAgree {t : ℕ} {w w' : World} (h : w.pool.TotalsAgree)
    (hstep : DistinctStep t w w') : w'.pool.TotalsAgree := by
  obtain ⟨env, message, -, htransfer, hself, hex⟩ := hstep
  by_cases hl : message.isLiquidate = true
  · have hpool := (execute_frame hex).1
    cases message with
    | liquidate liquidatedAccount assetToRepay assetToTake amountToRepay minimumRecieved =>
        obtain ⟨res, hres, hs⟩ := hpool
        have hne : env.caller ≠ liquidatedAccount := fun heq => hself (congrArg some heq.symm)
        exact hs ▸ h.accountForLiquidate hne hres
    | _ => cases hl
  · exact execute_totalsAgree h ⟨htransfer, by simpa using hl⟩ hex

/-- The run lemma of the totals, with liquidations. -/
lemma reach_totalsAgree {t : ℕ} {w : World} (h : TimedRun.Reach IsInitial DistinctStep t w) :
    w.pool.TotalsAgree := by
  refine TimedRun.Reach.invariant (P := fun w => w.pool.TotalsAgree) (fun w hw => ?_)
    (fun _ _ _ => distinctStep_totalsAgree) h
  rw [hw.1]
  exact .new

/-- **When the supply of a token is the sum of its balances.**  In every state that runs reach
in which nobody transfers a position or liquidates itself, and at every time at which the
balances can be viewed, the supply of the aToken or of the vToken of an asset is the sum of the
balances exactly when no account has interest pending on that side. -/
theorem supply_eq_sum_iff {w : World} {view : Env} {asset : AccountId} {k t t' : ℕ} {side : Side}
    {balances : AccountId → ℕ} (h : TimedRun.Reach IsInitial DistinctStep t w)
    (hk : w.pool.assetToId.get asset = some k)
    (hviews : ∀ a, side.view w.pool view asset a t' = .ok (balances a)) :
    side.supply w.pool asset t' = .ok (∑ a, balances a)
      ↔ w.pool.NoInterestPending side view k t' := by
  obtain ⟨rd, r, indexes, hrd, hr, hup, hsupply, hsum⟩ :=
    (reach_totalsAgree h).supply_add_pending hk hviews
  rw [hsupply, Except.ok.injEq, ← hsum]
  constructor
  · intro htotal
    have hzero : ∑ a, side.pending (w.pool.position a k) indexes r.fees
        (w.pool.getFeeReductionsOfAccount view a) = 0 := by omega
    exact ⟨rd, r, indexes, hrd, hr, hup,
      fun a => Finset.sum_eq_zero_iff.mp hzero a (Finset.mem_univ a)⟩
  · rintro ⟨rd', r', indexes', hrd', hr', hup', hpending⟩
    cases hrd'.symm.trans hrd
    cases hr'.symm.trans hr
    cases hup'.symm.trans hup
    rw [Finset.sum_eq_zero fun a _ => hpending a, Nat.add_zero]

end

/-- Runs of one-sided messages are among them. -/
lemma reachable_distinct [Pendzl] {t : ℕ} {w : World} (h : Reachable OneSided t w) :
    TimedRun.Reach IsInitial DistinctStep t w := by
  refine TimedRun.Reach.mono (fun t w w' hstep => ?_) h
  obtain ⟨env, message, ht, ⟨htransfer, hliquidate⟩, hex⟩ := hstep
  refine ⟨env, message, ht, htransfer, ?_, hex⟩
  cases message with
  | liquidate _ _ _ _ _ => cases hliquidate
  | _ => exact nofun

attribute [local instance] Pendzl.exact in
/-- After a deposit into the sample pool the supplies are the sums of the balances, also at a
later time, as nobody pays interest. -/
theorem supply_eq_sum_iff_deposit :
    ∃ (w : World) (balances : AccountId → ℕ), Sample.world.run (Sample.setup ++
        [Sample.send 2 1 fun a => .deposit (Sample.account 100) a 500]) = some w
      ∧ (∀ a, Side.deposit.view w.pool (Sample.env Sample.admin 5) (Sample.account 100) a 5
          = .ok (balances a))
      ∧ Side.deposit.supply w.pool (Sample.account 100) 5 = .ok (∑ a, balances a) := by
  have hrun : (Sample.world.run (Sample.setup ++
        [Sample.send 2 1 fun a => .deposit (Sample.account 100) a 500])).map (fun w =>
          (w.pool.assetToId.get (Sample.account 100),
          (w.pool.reserveDatas.get 0).map ReserveData.totals,
          ((w.pool.position (Sample.account 2) 0).deposit,
            (w.pool.position (Sample.account 2) 0).debt),
          (w.pool.accountDepositOf (Sample.env Sample.admin 5) (Sample.account 100)
            (Sample.account 2) 5).toOption))
      = some (some 0, some (500, 0), (500, 0), some 500) := by decide +kernel
  obtain ⟨w, hw, hreach, hv⟩ :=
    run_reaches OneSided Sample.world_isInitial (by decide) hrun
  simp only [Prod.mk.injEq] at hv
  obtain ⟨hk, htotals, ⟨hd, hb⟩, hview⟩ := hv
  have hview : Side.deposit.view w.pool (Sample.env Sample.admin 5) (Sample.account 100)
      (Sample.account 2) 5 = .ok 500 := toOption_eq_some.mp hview
  have hdistinct := reachable_distinct hreach
  have hagree := reach_totalsAgree hdistinct
  obtain ⟨_, hdata, -⟩ := Side.view_eq_ok.mp hview
  obtain ⟨k, rd, r, indexes, -, hk', hrd, hr, hup, -, -⟩ :=
    LendingPoolStorage.accruedDataOf_eq_ok.mp hdata
  cases hk'.symm.trans hk
  rw [hrd, Option.map_some, Option.some.injEq] at htotals
  obtain ⟨htd, htb⟩ := Prod.mk.inj htotals
  have hviews : ∀ a, Side.deposit.view w.pool (Sample.env Sample.admin 5) (Sample.account 100) a 5
      = .ok (Side.deposit.amount (w.pool.position a 0)) := by
    intro a
    by_cases ha : a = Sample.account 2
    · rw [ha, hview]
      exact congrArg Except.ok hd.symm
    · have hidle := hagree.idle hrd (hd.trans htd.symm) (hb.trans htb.symm) ha ha
      rw [LendingPoolStorage.view_of_zero hk hrd hr hup hidle, hidle]
  exact ⟨w, _, hw, hviews,
    (supply_eq_sum_iff hdistinct hk hviews).mpr (hagree.noInterestPending hk hviews)⟩

attribute [local instance] Pendzl.exact in
/-- **The supply leaves the pending interest out**: at time `2` `account 3`, the only one that
owes the first asset, owes `251`, and the supply of its vToken is `250`. -/
theorem supply_lags_interest :
    ∃ (w : World) (balances : AccountId → ℕ), Reachable OneSided 1 w
      ∧ w.pool.assetToId.get (Sample.account 100) = some 0
      ∧ (∀ a, Side.debt.view w.pool (Sample.env Sample.admin 2) (Sample.account 100) a 2
          = .ok (balances a))
      ∧ Side.debt.supply w.pool (Sample.account 100) 2 = .ok 250
      ∧ ∑ a, balances a = 251 := by
  have hrun : (Sample.world.run Sample.borrower).map (fun w =>
          (w.pool.assetToId.get (Sample.account 100),
          ((w.pool.reserveDatas.get 0).map ReserveData.totals,
            (w.pool.position (Sample.account 2) 0).deposit,
            (w.pool.position (Sample.account 3) 0).debt),
          (w.pool.accountDebtOf (Sample.env Sample.admin 2) (Sample.account 100)
            (Sample.account 2) 2).toOption,
          (w.pool.accountDebtOf (Sample.env Sample.admin 2) (Sample.account 100)
            (Sample.account 3) 2).toOption))
      = some (some 0, (some (1000, 250), 1000, 250), some 0, some 251) := by decide +kernel
  obtain ⟨w, hw, hreach, hv⟩ :=
    run_reaches OneSided Sample.world_isInitial (by decide) hrun
  simp only [Prod.mk.injEq] at hv
  obtain ⟨hk, ⟨htotals, hd, hb⟩, hview₂, hview₃⟩ := hv
  have hview₂ : Side.debt.view w.pool (Sample.env Sample.admin 2) (Sample.account 100)
      (Sample.account 2) 2 = .ok 0 := toOption_eq_some.mp hview₂
  have hview₃ : Side.debt.view w.pool (Sample.env Sample.admin 2) (Sample.account 100)
      (Sample.account 3) 2 = .ok 251 := toOption_eq_some.mp hview₃
  have hagree := reach_totalsAgree (reachable_distinct hreach)
  obtain ⟨_, hdata, -⟩ := Side.view_eq_ok.mp hview₃
  obtain ⟨k, rd, r, indexes, -, hk', hrd, hr, hup, -, -⟩ :=
    LendingPoolStorage.accruedDataOf_eq_ok.mp hdata
  cases hk'.symm.trans hk
  rw [hrd, Option.map_some, Option.some.injEq] at htotals
  obtain ⟨htd, htb⟩ := Prod.mk.inj htotals
  have hsupply := LendingPoolStorage.supply_of_update hk hrd hr hup .debt
  refine ⟨w, fun a => if a = Sample.account 3 then 251 else 0, hreach, hk, fun a => ?_,
    hsupply.trans (congrArg Except.ok htb), by simp⟩
  beta_reduce
  by_cases ha₃ : a = Sample.account 3
  · rw [ha₃, if_pos rfl]
    exact hview₃
  · rw [if_neg ha₃]
    by_cases ha₂ : a = Sample.account 2
    · rw [ha₂]
      exact hview₂
    · exact LendingPoolStorage.view_of_zero hk hrd hr hup
        (hagree.idle hrd (hd.trans htd.symm) (hb.trans htb.symm) ha₂ ha₃) .debt

end World

end AbaxLending
