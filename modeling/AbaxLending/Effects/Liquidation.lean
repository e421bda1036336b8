import AbaxLending.Invariants.Totals
import AbaxLending.Spec.Transfers
import AbaxLending.Spec.Views

/-!
What a liquidation does to the positions.

A liquidation is meant to take the repaid amount from the debt of the liquidated account
and to move the taken amount from its deposit to the one of the caller, on top of what
all of them have after interest (`LiquidationExact`).  The two accounts are worked on in
separate copies, and the copy of the caller is stored last.

* `Liquidation.repaid`, `Liquidation.taken`, `Liquidation.given`: what the copies hold,
  read from the views, also when both assets are the same;
* `liquidate_exact_iff`: between distinct accounts the effect is exact provided that the
  totals were the sums before; when an account liquidates itself, its copy as a caller
  undoes the repayment and keeps the deposit, so that the effect is exact only if there
  is none (`Inert`).
-/

namespace AbaxLending

open Outcome

namespace LendingPoolStorage

section

variable [Pendzl] {s : LendingPoolStorage} {env : Env}
  {caller liquidated assetToRepay assetToTake : AccountId} {amount t : ℕ}

namespace Liquidation

variable (r : Liquidation s env caller liquidated assetToRepay assetToTake amount t)

/-! ### The copies -/

/-- The repaid debt is the stored one. -/
lemma dataToRepay_position : s.position liquidated r.repayId = r.dataToRepay := by
  have hjoin := getAccountDatas_join s liquidated r.repayId
  rw [r.dataToRepay_eq] at hjoin
  rw [position, ← hjoin]
  rfl

/-- The collateral that is taken from is the stored one, or the one that was just
accrued by the repayment. -/
lemma dataToTake_position :
    r.dataToTake = if r.k = r.repayId then r.paid.data else s.position liquidated r.k := by
  have hjoin := congrArg Option.join r.dataToTake_eq
  obtain ⟨hk, -⟩ := List.getElem?_eq_some_iff.mp r.dataToRepay_eq
  rw [getElem?_set_join _ hk] at hjoin
  split_ifs at hjoin ⊢ with hkk
  · simpa using hjoin.symm
  · rw [getAccountDatas_join] at hjoin
    rw [position, hjoin]
    rfl

/-- What the repayment leaves, read from the views. -/
lemma repaid :
    ∃ b, Side.debt.view s env assetToRepay liquidated t = .ok b
      ∧ r.paid.amount = min amount b ∧ r.paid.data.debt + r.paid.amount = b ∧ b ≠ 0
      ∧ Side.deposit.view s env assetToRepay liquidated t = .ok r.paid.data.deposit := by
  obtain ⟨a, n, ha, hn, -, hne, hle, -, -, -, hpaid⟩ :=
    ReserveDataContext.accountForRepay_ok r.paid_ok
  have hdata := r.repayOpened.accruedDataOf r.registeredRepay rfl (.refl _)
    (r.dataToRepay_position.symm ▸ ha)
  rw [clip_eq_min] at hn
  refine ⟨a.data.debt, Side.view_eq_ok.mpr ⟨_, hdata, rfl⟩, ?_, ?_, hne,
    Side.view_eq_ok.mpr ⟨_, hdata, ?_⟩⟩ <;> rw [hpaid]
  · exact hn
  · simp only
    omega
  · rfl

/-- The reserve of the asset to take is worked on with the indexes of the storage at
that time, and with at least its income. -/
lemma opens : ∃ ctx₀, s.Opened r.k t ctx₀ ∧ (r.k = r.repayId → ctx₀ = r.repayCtx)
    ∧ r.ctx.reserveIndexesAndFees.indexes = ctx₀.reserveIndexesAndFees.indexes
    ∧ ctx₀.reserveIndexesAndFees.fees.Below r.ctx.reserveIndexesAndFees.fees
    ∧ ∀ side : Side, side.total r.ctx.reserveData + side.amount (s.position liquidated r.k)
        = side.total ctx₀.reserveData + side.amount r.dataToTake := by
  obtain ⟨rd, i, e, hrd, hmid⟩ := r.mid_eq
  obtain ⟨x, hx, hupdate, hfees⟩ := r.opened.indexes
  have hreserve := r.opened.reserveData
  rw [hmid] at hx hreserve
  simp only [putReserve_reserveIndexesAndFees, putReserve_reserveDatas, Mapping.get_insert,
    withRing_reserveIndexesAndFees, withRing_reserveDatas] at hx hreserve
  have hdata := r.dataToTake_position
  split_ifs at hx hreserve hdata with hkk
  · -- the same asset: the repayment has opened it already
    simp only [Option.some.injEq] at hx hreserve
    have hopen : s.Opened r.k t r.repayCtx := by
      rw [hkk]
      exact r.repayOpened
    obtain ⟨y, hy, hupdate', hfees'⟩ := hopen.indexes
    obtain ⟨a, n, ha, -, -, -, -, -, -, -, hpaid⟩ :=
      ReserveDataContext.accountForRepay_ok r.paid_ok
    have hposts := ReserveDataContext.accountForRepay_posts r.paid_ok
    have hindexes : r.paid.ctx.reserveIndexesAndFees.indexes
        = r.repayCtx.reserveIndexesAndFees.indexes := by
      rw [hpaid]
      rfl
    refine ⟨r.repayCtx, hopen, fun _ => rfl, ?_, ?_, fun side => ?_⟩
    · rw [← hx, hindexes, ReserveIndexes.update_again hupdate' _, Except.ok.injEq] at hupdate
      exact hupdate.symm
    · rw [hfees, ← hx, hpaid]
      exact AccountReserveData.accumulateAccountInterest_fees ha
    · rw [hdata, ← hreserve, hkk, r.dataToRepay_position, side.total_recalculateRates hrd]
      exact side.total_of_posts hposts
  · -- another asset: the repayment has not touched it
    refine ⟨r.ctx, ⟨r.opened.assetId, hreserve, ?_, x, hx, hupdate, hfees⟩,
      fun h => absurd h hkk, rfl, .refl _, fun side => by rw [hdata]⟩
    have hrestrictions := r.opened.restrictions
    rw [hmid] at hrestrictions
    exact hrestrictions

/-- The entry to take from is not accrued a second time when the repayment has accrued
it, and is accrued like the views otherwise. -/
lemma taken_accrual {a : Accrual}
    (ha : r.ctx.accrual r.dataToTake (s.getFeeReductionsOfAccount env liquidated) = .ok a) :
    ∃ data, s.accruedDataOf env assetToTake liquidated t = .ok data
      ∧ a.data.deposit = data.deposit
      ∧ a.data.debt + (if r.k = r.repayId then r.paid.amount else 0) = data.debt := by
  obtain ⟨ctx₀, hopen, hsame, hindexes, hfees, -⟩ := r.opens
  have hdata := r.dataToTake_position
  split_ifs at hdata ⊢ with hkk
  · obtain ⟨a', n, ha', -, -, -, hle, -, -, -, hpaid⟩ :=
      ReserveDataContext.accountForRepay_ok r.paid_ok
    rw [ReserveDataContext.accrual, hdata, hindexes, hsame hkk,
      AccountReserveData.accumulateAccountInterest_again ha' (by rw [hpaid]) (by rw [hpaid]),
      Except.ok.injEq] at ha
    refine ⟨a'.data, r.repayOpened.accruedDataOf (hkk ▸ r.registeredTake) rfl (.refl _)
      (r.dataToRepay_position.symm ▸ ha'), ?_, ?_⟩ <;> rw [← ha, hpaid]
    simp only
    omega
  · rw [hdata] at ha
    exact ⟨a.data, hopen.accruedDataOf r.registeredTake hindexes hfees ha, rfl, rfl⟩

/-- What the withdrawal of the collateral leaves, read from the views. -/
lemma taken :
    ∃ d b, Side.deposit.view s env assetToTake liquidated t = .ok d
      ∧ Side.debt.view s env assetToTake liquidated t = .ok b
      ∧ r.first.amount = min r.amountToTake d ∧ d ≠ 0
      ∧ r.first.data.deposit + r.first.amount = d
      ∧ r.first.data.debt + (if r.k = r.repayId then r.paid.amount else 0) = b := by
  obtain ⟨a, n, ha, hn, -, hne, hle, -, -, hfirst⟩ :=
    ReserveDataContext.accountForWithdraw_ok r.first_ok
  obtain ⟨data, hdata, hd, hb⟩ := r.taken_accrual ha
  have hgrow := ReserveDataContext.accrual_deposit ha
  rw [clip_eq_min] at hn
  refine ⟨data.deposit, data.debt, Side.view_eq_ok.mpr ⟨_, hdata, rfl⟩,
    Side.view_eq_ok.mpr ⟨_, hdata, rfl⟩, ?_, by omega, ?_, ?_⟩ <;> rw [hfirst]
  · rw [← hd]
    exact hn
  · simp only
    omega
  · exact hb

/-- What the caller is given, read from the views. -/
lemma given :
    ∃ d b, Side.deposit.view s env assetToTake caller t = .ok d
      ∧ Side.debt.view s env assetToTake caller t = .ok b
      ∧ r.second.amount = r.first.amount
      ∧ r.second.data.deposit = d + r.first.amount ∧ r.second.data.debt = b := by
  obtain ⟨ctx₀, hopen, -, hindexes, hfees, -⟩ := r.opens
  obtain ⟨a, n, ha, -, -, -, -, -, -, hfirst⟩ :=
    ReserveDataContext.accountForWithdraw_ok r.first_ok
  obtain ⟨a', ha', -, -, -, -, hsecond⟩ := ReserveDataContext.accountForDeposit_ok r.second_ok
  have hdata : s.accruedDataOf env assetToTake caller t = .ok a'.data := by
    refine hopen.accruedDataOf r.registeredTake ?_ ?_ ha'
    · rw [hfirst]
      exact hindexes
    · rw [hfirst]
      exact hfees.trans (AccountReserveData.accumulateAccountInterest_fees ha)
  refine ⟨a'.data.deposit, a'.data.debt, Side.view_eq_ok.mpr ⟨_, hdata, rfl⟩,
    Side.view_eq_ok.mpr ⟨_, hdata, rfl⟩, ?_, ?_, ?_⟩ <;> rw [hsecond]

/-! ### The totals -/

/-- The total of the asset to take moves with both copies. -/
lemma total_take : ∃ rd, s.reserveDatas.get r.k = some rd ∧ ∀ side : Side,
    side.total r.reserveData + side.amount (s.position liquidated r.k)
        + side.amount (s.position caller r.k)
      = side.total rd + side.amount r.first.data + side.amount r.second.data := by
  obtain ⟨ctx₀, hopen, -, -, -, htotal⟩ := r.opens
  have hposts := ReserveDataContext.accountForWithdraw_posts r.first_ok
  have hposts' := ReserveDataContext.accountForDeposit_posts r.second_ok
  refine ⟨ctx₀.reserveData, hopen.reserveData, fun side => ?_⟩
  have h := htotal side
  have h₁ := side.total_of_posts hposts
  have h₂ := side.total_of_posts hposts'
  rw [side.total_recalculateRates r.rates]
  omega

/-- The total of another asset to repay moves with the copy of the liquidated account. -/
lemma total_repay (hkk : r.k ≠ r.repayId) : ∃ rd rd', s.reserveDatas.get r.repayId = some rd
    ∧ r.written.reserveDatas.get r.repayId = some rd' ∧ ∀ side : Side,
      side.total rd' + side.amount (s.position liquidated r.repayId)
        = side.total rd + side.amount r.paid.data := by
  obtain ⟨rd, i, e, hrd, hmid⟩ := r.mid_eq
  have hposts := ReserveDataContext.accountForRepay_posts r.paid_ok
  refine ⟨r.repayCtx.reserveData, rd, r.repayOpened.reserveData, ?_, fun side => ?_⟩
  · have hget : r.written.reserveDatas.get r.repayId = r.mid.reserveDatas.get r.repayId :=
      Mapping.get_insert_of_ne _ (Ne.symm hkk) _
    rw [hget, hmid]
    exact Mapping.get_insert_self ..
  · rw [r.dataToRepay_position, side.total_recalculateRates hrd]
    exact side.total_of_posts hposts

/-! ### What is stored -/

omit [Pendzl] in
private lemma putAccount_entry {s : LendingPoolStorage} {a b : AccountId} {j : ℕ}
    {v : List (Option AccountReserveData)} {c : AccountConfig} :
    (s.putAccount a v c).entry b j = if b = a then v[j]?.join else s.entry b j := by
  split_ifs with h
  · rw [h, entry_putAccount_self]
  · exact entry_putAccount_of_ne h

/-- The copy of the caller is stored last. -/
lemma entry_caller (j : ℕ) :
    r.written.entry caller j = if j = r.k then some r.second.data else s.entry caller j := by
  rw [written, putAccount_entry, if_pos rfl, getElem?_set_join _ r.callerInRange,
    getAccountDatas_join]

/-- The copy of another liquidated account is stored as it is. -/
lemma entry_liquidated (hne : liquidated ≠ caller) (j : ℕ) :
    r.written.entry liquidated j = if j = r.k then some r.first.data
      else if j = r.repayId then some r.paid.data else s.entry liquidated j := by
  obtain ⟨hk, -⟩ := List.getElem?_eq_some_iff.mp r.dataToRepay_eq
  obtain ⟨hk', -⟩ := List.getElem?_eq_some_iff.mp r.dataToTake_eq
  rw [written, putAccount_entry, if_neg hne, putAccount_entry, if_pos rfl,
    getElem?_set_join _ hk', getElem?_set_join _ hk, getAccountDatas_join]

/-- Nobody else is touched. -/
lemma entry_of_ne {a : AccountId} (hc : a ≠ caller) (hl : a ≠ liquidated) (j : ℕ) :
    r.written.entry a j = s.entry a j := by
  obtain ⟨rd, i, e, -, hmid⟩ := r.mid_eq
  rw [written, putAccount_entry, if_neg hc, putAccount_entry, if_neg hl, TwoSteps.reserveWritten,
    hmid]
  rfl

lemma reserve_take : r.written.reserveDatas.get r.k = some r.reserveData :=
  Mapping.get_insert_self ..

/-! ### Distinct accounts -/

/-- Between distinct accounts the books of the asset to take are posted twice. -/
lemma books_take (hne : caller ≠ liquidated) (side : Side) :
    side.BalancedIn r.written r.k ↔ side.BalancedIn s r.k := by
  obtain ⟨rd, hrd, htotal⟩ := r.total_take
  have hpost : Book.Balanced (side.total r.reserveData)
        (fun a => side.amount (r.written.position a r.k))
      ↔ Book.Balanced (side.total rd) (fun a => side.amount (s.position a r.k)) := by
    refine Book.balanced_iff_of_two_posts hne.symm (fun c hl hc => ?_) ?_
    · rw [position, position, r.entry_of_ne hc hl]
    · have hliquidated : r.written.position liquidated r.k = r.first.data := by
        rw [position, r.entry_liquidated hne.symm, if_pos rfl]
        rfl
      have hcaller : r.written.position caller r.k = r.second.data := by
        rw [position, r.entry_caller, if_pos rfl]
        rfl
      rw [hliquidated, hcaller]
      exact htotal side
  simp only [Side.BalancedIn, r.reserve_take, hrd, Option.some.injEq, exists_eq_left']
  exact hpost

/-- Between distinct accounts the books of another asset to repay are posted once. -/
lemma books_repay (hne : caller ≠ liquidated) (side : Side) :
    side.BalancedIn r.written r.repayId ↔ side.BalancedIn s r.repayId := by
  by_cases hkk : r.k = r.repayId
  · rw [← hkk]
    exact r.books_take hne side
  · obtain ⟨rd, rd', hrd, hrd', htotal⟩ := r.total_repay hkk
    have hpost : Book.Balanced (side.total rd')
          (fun a => side.amount (r.written.position a r.repayId))
        ↔ Book.Balanced (side.total rd) (fun a => side.amount (s.position a r.repayId)) := by
      refine Book.balanced_iff_of_post (a := liquidated) (fun c hl => ?_) ?_
      · by_cases hc : c = caller
        · rw [hc, position, position, r.entry_caller, if_neg (Ne.symm hkk)]
        · rw [position, position, r.entry_of_ne hc hl]
      · have hentry := r.entry_liquidated hne.symm r.repayId
        rw [if_neg (Ne.symm hkk), if_pos rfl] at hentry
        have hpos : r.written.position liquidated r.repayId = r.paid.data := by
          rw [position, hentry]
          rfl
        rw [hpos]
        exact htotal side
    simp only [Side.BalancedIn, hrd', hrd, Option.some.injEq, exists_eq_left']
    exact hpost

end Liquidation

/-- The exact effect of a liquidation that repaid and took given amounts. -/
structure LiquidationExact (s s' : LendingPoolStorage) (env : Env)
    (caller liquidated assetToRepay : AccountId) (repayId : ℕ) (assetToTake : AccountId)
    (takeId repaid taken t : ℕ) : Prop where
  debt : ∃ b, Side.debt.view s env assetToRepay liquidated t = .ok b
    ∧ (s'.position liquidated repayId).debt + repaid = b
  deposit : ∃ d, Side.deposit.view s env assetToTake liquidated t = .ok d
    ∧ if caller = liquidated then (s'.position liquidated takeId).deposit = d
      else (s'.position liquidated takeId).deposit + taken = d
  received : caller ≠ liquidated → ∃ d, Side.deposit.view s env assetToTake caller t = .ok d
    ∧ (s'.position caller takeId).deposit = d + taken
  others : ∀ a j, (a, j) ≠ (liquidated, repayId) → (a, j) ≠ (liquidated, takeId) →
    (a, j) ≠ (caller, takeId) → s'.entry a j = s.entry a j
  balanced : ∀ side : Side, side.BalancedIn s' repayId ∧ side.BalancedIn s' takeId

/-- **Between distinct accounts a liquidation has its exact effect** provided that the
books of both assets were balanced. -/
theorem Liquidation.exact_iff_of_ne
    (r : Liquidation s env caller liquidated assetToRepay assetToTake amount t)
    (hne : caller ≠ liquidated) :
    LiquidationExact s r.written env caller liquidated assetToRepay r.repayId assetToTake r.k
      r.paid.amount r.second.amount t
    ↔ ∀ side : Side, side.BalancedIn s r.repayId ∧ side.BalancedIn s r.k := by
  obtain ⟨b, hb, -, hpaid, -, -⟩ := r.repaid
  obtain ⟨d, b', hd, hb', -, -, hfirst, hdebt⟩ := r.taken
  obtain ⟨d', b'', hd', -, hsame, hsecond, -⟩ := r.given
  have hbooks : (∀ side : Side, side.BalancedIn r.written r.repayId
        ∧ side.BalancedIn r.written r.k)
      ↔ ∀ side : Side, side.BalancedIn s r.repayId ∧ side.BalancedIn s r.k := by
    simp only [r.books_repay hne, r.books_take hne]
  refine ⟨fun h => hbooks.mp h.balanced, fun h => ⟨⟨b, hb, ?_⟩, ⟨d, hd, ?_⟩, fun _ => ⟨d', hd', ?_⟩,
    fun a j hr hl hc => ?_, hbooks.mpr h⟩⟩
  · rw [position, r.entry_liquidated hne.symm]
    by_cases hkk : r.repayId = r.k
    · -- one asset: the copy that was taken from is the one that was repaid
      have hassets : s.assetToId.get assetToRepay = s.assetToId.get assetToTake := by
        rw [r.registeredRepay, r.registeredTake, hkk]
      rw [Side.view_congr hassets, hb', Except.ok.injEq] at hb
      rw [if_pos hkk.symm] at hdebt
      rw [if_pos hkk, Option.getD_some, hdebt, hb]
    · rw [if_neg hkk, if_pos rfl, Option.getD_some]
      exact hpaid
  · rw [if_neg hne, position, r.entry_liquidated hne.symm, if_pos rfl, hsame]
    exact hfirst
  · rw [position, r.entry_caller, if_pos rfl, hsame]
    exact hsecond
  · by_cases hac : a = caller
    · subst hac
      have hjk : j ≠ r.k := fun heq => hc (by rw [heq])
      rw [r.entry_caller, if_neg hjk]
    · by_cases hal : a = liquidated
      · subst hal
        have hjk : j ≠ r.k := fun heq => hl (by rw [heq])
        have hjr : j ≠ r.repayId := fun heq => hr (by rw [heq])
        rw [r.entry_liquidated hne.symm, if_neg hjk, if_neg hjr]
      · exact r.entry_of_ne hac hal j

/-! ### One account -/

/-- The amount that a liquidation quotes for what it will repay: the smaller one of the
amount asked for and the debt that the view shows. -/
def quotedTake (s : LendingPoolStorage) (env : Env) (liquidated assetToRepay : AccountId)
    (repayId takeId amount t : ℕ) : Res ℕ := do
  let debt ← s.accountDebtOf env assetToRepay liquidated t
  let pricesE18 ← s.getAssetsPricesE18 env
  let priceToRepay ← unwrap pricesE18[repayId]?
  let priceToTake ← unwrap pricesE18[takeId]?
  s.calculateLiquidatedAmountAndEnsureCollateralized liquidated repayId takeId priceToRepay
    priceToTake (min amount debt)

/-- The stored positions sum to the total once the interest of an account, up to what its
view shows, is added to the total. -/
def SettledIn (side : Side) (s : LendingPoolStorage) (env : Env) (asset account : AccountId)
    (k t : ℕ) : Prop :=
  ∃ rd n, s.reserveDatas.get k = some rd ∧ side.view s env asset account t = .ok n
    ∧ side.total rd + n
      = (∑ a, side.amount (s.position a k)) + side.amount (s.position account k)

/-- A liquidation of an account by itself that is without effect: nothing is quoted, what
is repaid is the interest on the debt (nothing, when both assets are the same), and
the books already contain the interest that is settled. -/
structure Inert (s : LendingPoolStorage) (env : Env) (account assetToRepay : AccountId)
    (repayId : ℕ) (assetToTake : AccountId) (takeId amount t : ℕ) : Prop where
  quoted : s.quotedTake env account assetToRepay repayId takeId amount t = .ok 0
  repaid : if takeId = repayId then amount = 0
    else ∃ b, Side.debt.view s env assetToRepay account t = .ok b
      ∧ (s.position account repayId).debt + min amount b = b
  settledTake : ∀ side : Side, SettledIn side s env assetToTake account takeId t
  settledRepay : takeId ≠ repayId → SettledIn .deposit s env assetToRepay account repayId t
    ∧ Side.debt.BalancedIn s repayId

namespace Liquidation

/-- A liquidation quotes what it works with. -/
lemma quotedTake_eq
    (r : Liquidation s env caller liquidated assetToRepay assetToTake amount t) :
    s.quotedTake env liquidated assetToRepay r.repayId r.k amount t = .ok r.amountToTake := by
  obtain ⟨b, hb, hamount, -, -, -⟩ := r.repaid
  obtain ⟨prices, pr, pt, hprices, hpr, hpt, htake⟩ := r.amountToTake_eq
  obtain ⟨rd, i, e, -, hmid⟩ := r.mid_eq
  rw [hmid] at hprices htake
  have hview : s.accountDebtOf env assetToRepay liquidated t = .ok b := hb
  have hprices' : s.getAssetsPricesE18 env = .ok prices := hprices
  simp only [quotedTake, hview, hprices', hpr, hpt, unwrap, ok_bind, ← hamount]
  exact htake

variable {x : AccountId} (r : Liquidation s env x x assetToRepay assetToTake amount t)

/-- The stored position of an account that liquidates itself is the one it got as a
caller. -/
lemma position_self : r.written.position x r.k = r.second.data := by
  rw [position, r.entry_caller, if_pos rfl]
  rfl

lemma position_self_of_ne {j : ℕ} (hj : j ≠ r.k) : r.written.position x j = s.position x j := by
  rw [position, r.entry_caller, if_neg hj]
  rfl

lemma position_other {a : AccountId} (ha : a ≠ x) (j : ℕ) :
    r.written.position a j = s.position a j := by
  rw [position, r.entry_of_ne ha ha]
  rfl

/-- The books of the asset to take, when nothing was taken from it. -/
lemma books_take_self {side : Side} {n : ℕ}
    (hview : side.view s env assetToTake x t = .ok n) (hfirst : side.amount r.first.data = n) :
    side.BalancedIn r.written r.k ↔ SettledIn side s env assetToTake x r.k t := by
  obtain ⟨rd, hrd, htotal⟩ := r.total_take
  have h := htotal side
  have hsum := Book.sum_add_of_eq_off (f := fun a => side.amount (s.position a r.k))
    (g := fun a => side.amount (r.written.position a r.k)) (a := x)
    fun b hb => by simp only [r.position_other hb]
  simp only [r.position_self] at hsum
  simp only [Side.BalancedIn, SettledIn, Book.Balanced, r.reserve_take, hrd, hview,
    Option.some.injEq, Except.ok.injEq, exists_eq_left', exists_and_left]
  omega

/-- The books of another asset to repay, of which nothing is stored. -/
lemma books_repay_self (hkk : r.k ≠ r.repayId) (side : Side) :
    side.BalancedIn r.written r.repayId
      ↔ side.total r.repayCtx.reserveData + side.amount r.paid.data
        = (∑ a, side.amount (s.position a r.repayId))
          + side.amount (s.position x r.repayId) := by
  obtain ⟨rd, rd', hrd, hrd', htotal⟩ := r.total_repay hkk
  cases hrd.symm.trans r.repayOpened.reserveData
  have h := htotal side
  have hsum : ∑ a, side.amount (r.written.position a r.repayId)
      = ∑ a, side.amount (s.position a r.repayId) := by
    refine Finset.sum_congr rfl fun a _ => ?_
    by_cases ha : a = x
    · rw [ha, r.position_self_of_ne (Ne.symm hkk)]
    · rw [r.position_other ha]
  simp only [Side.BalancedIn, Book.Balanced, hrd', Option.some.injEq, exists_eq_left', hsum]
  omega

/-- The deposit side of it was accrued and not stored. -/
lemma books_repay_deposit (hkk : r.k ≠ r.repayId) :
    Side.deposit.BalancedIn r.written r.repayId
      ↔ SettledIn .deposit s env assetToRepay x r.repayId t := by
  obtain ⟨-, -, -, -, -, hview⟩ := r.repaid
  rw [r.books_repay_self hkk]
  simp only [SettledIn, r.repayOpened.reserveData, hview, Option.some.injEq, Except.ok.injEq,
    exists_eq_left', exists_and_left]
  exact Iff.rfl

/-- The debt side of it was accrued by what was repaid. -/
lemma books_repay_debt (hkk : r.k ≠ r.repayId)
    (hdebt : r.paid.data.debt = (s.position x r.repayId).debt) :
    Side.debt.BalancedIn r.written r.repayId ↔ Side.debt.BalancedIn s r.repayId := by
  rw [r.books_repay_self hkk]
  simp only [Side.BalancedIn, Book.Balanced, r.repayOpened.reserveData, Option.some.injEq,
    exists_eq_left', Side.amount, hdebt]
  omega

/-- The debt is lower by the repaid amount when that is the interest on it, or nothing. -/
lemma debt_self_iff :
    (∃ b, Side.debt.view s env assetToRepay x t = .ok b
      ∧ (r.written.position x r.repayId).debt + r.paid.amount = b)
    ↔ if r.k = r.repayId then amount = 0
      else ∃ b, Side.debt.view s env assetToRepay x t = .ok b
        ∧ (s.position x r.repayId).debt + min amount b = b := by
  obtain ⟨b, hb, hamount, -, hbne, -⟩ := r.repaid
  simp only [hb, Except.ok.injEq, exists_eq_left']
  split_ifs with hkk
  · -- one asset: the copy that is stored was accrued and not repaid
    obtain ⟨-, b'', -, hb'', -, -, hsecond⟩ := r.given
    have hassets : s.assetToId.get assetToRepay = s.assetToId.get assetToTake := by
      rw [r.registeredRepay, r.registeredTake, hkk]
    rw [Side.view_congr hassets, hb'', Except.ok.injEq] at hb
    rw [← hkk, r.position_self, hsecond]
    omega
  · rw [r.position_self_of_ne (Ne.symm hkk), hamount]

/-- The deposit stays what it was when nothing is quoted. -/
lemma deposit_self_iff :
    (∃ d, Side.deposit.view s env assetToTake x t = .ok d
      ∧ if x = x then (r.written.position x r.k).deposit = d
        else (r.written.position x r.k).deposit + r.second.amount = d)
    ↔ s.quotedTake env x assetToRepay r.repayId r.k amount t = .ok 0 := by
  obtain ⟨d, -, hd, -, htaken, hdne, -, -⟩ := r.taken
  obtain ⟨d', -, hd', -, -, hsecond, -⟩ := r.given
  cases hd.symm.trans hd'
  simp only [hd, Except.ok.injEq, exists_eq_left', if_true, r.position_self, r.quotedTake_eq,
    hsecond]
  omega

/-- The books are balanced afterwards when they already contained the interest, given that
nothing is taken and that only the interest is repaid. -/
lemma balanced_self_iff
    (hquoted : s.quotedTake env x assetToRepay r.repayId r.k amount t = .ok 0)
    (hrepaid : if r.k = r.repayId then amount = 0
      else ∃ b, Side.debt.view s env assetToRepay x t = .ok b
        ∧ (s.position x r.repayId).debt + min amount b = b) :
    (∀ side : Side, side.BalancedIn r.written r.repayId ∧ side.BalancedIn r.written r.k)
    ↔ (∀ side : Side, SettledIn side s env assetToTake x r.k t)
      ∧ (r.k ≠ r.repayId → SettledIn .deposit s env assetToRepay x r.repayId t
        ∧ Side.debt.BalancedIn s r.repayId) := by
  obtain ⟨b, hb, hamount, hpaid, -, -⟩ := r.repaid
  obtain ⟨d, b', hd, hb', htaken, -, hfirst, hdebt⟩ := r.taken
  have hzero : r.amountToTake = 0 := by
    have heq := r.quotedTake_eq.symm.trans hquoted
    simpa using heq
  -- the copy that was taken from shows the views, as nothing was taken from it
  have hcopy : r.first.data.debt = b' := by
    split_ifs at hdebt hrepaid with hkk
    · omega
    · exact hdebt
  have htake : ∀ side : Side,
      side.BalancedIn r.written r.k ↔ SettledIn side s env assetToTake x r.k t := by
    intro side
    cases side with
    | deposit => exact r.books_take_self hd (by simp only [Side.amount]; omega)
    | debt => exact r.books_take_self hb' hcopy
  by_cases hkk : r.k = r.repayId
  · simp only [← hkk, and_self, htake, ne_eq, not_true_eq_false, false_implies, and_true]
  · rw [if_neg hkk] at hrepaid
    obtain ⟨b₁, hb₁, hinterest⟩ := hrepaid
    cases hb.symm.trans hb₁
    have hrepay := r.books_repay_debt hkk (by omega)
    have hrepay' := r.books_repay_deposit hkk
    constructor
    · intro h
      exact ⟨fun side => (htake side).mp (h side).2,
        fun _ => ⟨hrepay'.mp (h .deposit).1, hrepay.mp (h .debt).1⟩⟩
    · rintro ⟨hsettled, hother⟩ side
      refine ⟨?_, (htake side).mpr (hsettled side)⟩
      cases side with
      | deposit => exact hrepay'.mpr (hother hkk).1
      | debt => exact hrepay.mpr (hother hkk).2

/-- **An account that liquidates itself** sees the exact effect only if there is none. -/
theorem exact_iff_self :
    LiquidationExact s r.written env x x assetToRepay r.repayId assetToTake r.k r.paid.amount
      r.second.amount t
    ↔ Inert s env x assetToRepay r.repayId assetToTake r.k amount t := by
  constructor
  · intro h
    have hquoted := r.deposit_self_iff.mp h.deposit
    have hrepaid := r.debt_self_iff.mp h.debt
    obtain ⟨htake, hrepay⟩ := (r.balanced_self_iff hquoted hrepaid).mp h.balanced
    exact ⟨hquoted, hrepaid, htake, hrepay⟩
  · intro h
    refine ⟨r.debt_self_iff.mpr h.repaid, r.deposit_self_iff.mpr h.quoted,
      fun hne => absurd rfl hne, fun a j _ htake _ => ?_,
      (r.balanced_self_iff h.quoted h.repaid).mpr ⟨h.settledTake, h.settledRepay⟩⟩
    by_cases ha : a = x
    · subst ha
      have hjk : j ≠ r.k := fun heq => htake (by rw [heq])
      rw [r.entry_caller, if_neg hjk]
    · exact r.entry_of_ne ha ha j

end Liquidation

/-- **When a liquidation has its exact effect**: between distinct accounts when the books of
both assets were balanced, and for an account that liquidates itself when there is no
effect at all. -/
theorem liquidate_exact_iff {res : LiquidateResult} {repayId takeId : ℕ}
    (hr : s.assetToId.get assetToRepay = some repayId)
    (ht : s.assetToId.get assetToTake = some takeId)
    (h : s.accountForLiquidate env caller liquidated assetToRepay assetToTake amount t
      = .ok res) :
    LiquidationExact s res.storage env caller liquidated assetToRepay repayId assetToTake takeId
      res.amountToRepay res.amountToTake t
    ↔ (caller ≠ liquidated ∧ ∀ side : Side, side.BalancedIn s repayId ∧ side.BalancedIn s takeId)
      ∨ (caller = liquidated
        ∧ Inert s env liquidated assetToRepay repayId assetToTake takeId amount t) := by
  obtain ⟨r, rfl⟩ := accountForLiquidate_ok h
  cases hr.symm.trans r.registeredRepay
  cases ht.symm.trans r.registeredTake
  by_cases hne : caller = liquidated
  · subst hne
    rw [r.exact_iff_self]
    simp
  · rw [r.exact_iff_of_ne hne]
    simp [hne]

end

attribute [local instance] Pendzl.exact in
/-- The exact effect of a liquidation in the sample pool, by another account. -/
theorem liquidate_exact_sample :
    ∃ w res, Sample.world.run Sample.borrower = some w
      ∧ w.pool.accountForLiquidate (Sample.doubledEnv (Sample.account 5) 2) (Sample.account 5)
          (Sample.account 3) (Sample.account 100) (Sample.account 101) 100 2 = .ok res
      ∧ LiquidationExact w.pool res.storage (Sample.doubledEnv (Sample.account 5) 2)
          (Sample.account 5) (Sample.account 3) (Sample.account 100) 0 (Sample.account 101) 1
          res.amountToRepay res.amountToTake 2 := by
  have hrun : (Sample.world.run Sample.borrower).map (fun w =>
        ((w.pool.accountForLiquidate (Sample.doubledEnv (Sample.account 5) 2) (Sample.account 5)
          (Sample.account 3) (Sample.account 100) (Sample.account 101) 100 2).isOk,
        w.pool.assetToId.get (Sample.account 100), w.pool.assetToId.get (Sample.account 101)))
      = some (true, some 0, some 1) := by
    decide +kernel
  obtain ⟨w, hw, hreach, hv⟩ :=
    World.run_reaches World.OneSided Sample.world_isInitial (by decide) hrun
  simp only [Prod.mk.injEq] at hv
  obtain ⟨hok, hr, ht⟩ := hv
  obtain ⟨res, hres⟩ := isOk_eq_true.mp hok
  have hagree := World.reachable_totalsAgree hreach
  exact ⟨w, res, hw, hres, (liquidate_exact_iff hr ht hres).mpr
    (.inl ⟨by decide, fun side => ⟨hagree.balancedIn hr side, hagree.balancedIn ht side⟩⟩)⟩

attribute [local instance] Pendzl.exact in
/-- **An account that liquidates itself keeps its debt and gains a deposit**: in a reachable
state it repays `100` of its debt of `251`, and still owes `250` afterwards. -/
theorem liquidate_self_keeps_debt :
    ∃ w res, World.Reachable (fun _ => True) 1 w
      ∧ w.pool.accountForLiquidate (Sample.doubledEnv (Sample.account 3) 2) (Sample.account 3)
          (Sample.account 3) (Sample.account 100) (Sample.account 101) 100 2 = .ok res
      ∧ w.pool.assetToId.get (Sample.account 100) = some 0
      ∧ w.pool.assetToId.get (Sample.account 101) = some 1
      ∧ res.amountToRepay = 100
      ∧ ¬LiquidationExact w.pool res.storage (Sample.doubledEnv (Sample.account 3) 2)
          (Sample.account 3) (Sample.account 3) (Sample.account 100) 0 (Sample.account 101) 1
          res.amountToRepay res.amountToTake 2 := by
  have hrun : (Sample.world.run Sample.borrower).map (fun w =>
        ((w.pool.accountForLiquidate (Sample.doubledEnv (Sample.account 3) 2) (Sample.account 3)
            (Sample.account 3) (Sample.account 100) (Sample.account 101) 100 2).toOption.map
          fun res => (res.amountToRepay, (res.storage.position (Sample.account 3) 0).debt),
        w.pool.assetToId.get (Sample.account 100), w.pool.assetToId.get (Sample.account 101),
        w.pool.accountDebtOf (Sample.doubledEnv (Sample.account 3) 2) (Sample.account 100)
          (Sample.account 3) 2))
      = some (some (100, 250), some 0, some 1, .ok 251) := by
    decide +kernel
  obtain ⟨w, hw, hreach, hv⟩ :=
    World.run_reaches (fun _ => True) Sample.world_isInitial (by decide) hrun
  simp only [Prod.mk.injEq] at hv
  obtain ⟨hres, hr, ht, hview⟩ := hv
  obtain ⟨res, hok, hafter⟩ := Option.map_eq_some_iff.mp hres
  obtain ⟨hrepaid, hdebt⟩ := Prod.mk.inj hafter
  refine ⟨w, res, hreach, toOption_eq_some.mp hok, hr, ht, hrepaid, fun hexact => ?_⟩
  obtain ⟨b, hb, hlower⟩ := hexact.debt
  have h251 : b = 251 := by
    have heq := hb.symm.trans hview
    simpa using heq
  omega

end LendingPoolStorage

end AbaxLending
