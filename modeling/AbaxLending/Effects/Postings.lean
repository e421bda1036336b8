import AbaxLending.Effects.RateRange
import AbaxLending.Effects.Reconciliation
import AbaxLending.Effects.TransferAmounts

/-!
What a message posts to the totals of a reserve.

Every basic step moves a total by as much as the entry it works on, so the totals of a
reserve after a message follow from the ledgers of the accounts before it.  Interest is
posted when an entry is touched, and what moves between two accounts cancels.

* `Reposts`: new data of a reserve, with moved totals and, under a rate model, with a
  utilization that was computed;
* `posted`: what a message posts to a side of an asset, read off the ledgers;
* `execute_posts`: the totals after a message.
-/

namespace AbaxLending

open Outcome

/-! ### The data of a reserve -/

/-- A posting moves a total by as much as its entry. -/
lemma Step.Posts.total {ctx : ReserveDataContext} {data : AccountReserveData} {st : Step}
    (h : st.Posts ctx data) (side : Side) : (side.total st.ctx.reserveData : ℤ)
      = side.total ctx.reserveData + ((side.amount st.data : ℤ) - side.amount data) := by
  have hposts := side.total_of_posts h
  omega

namespace Side

/-- An amount that counts on the side of the debt only. -/
def debtOnly : Side → ℕ → ℤ
  | .deposit, _ => 0
  | .debt, amount => amount

end Side

namespace LendingPoolStorage

variable [Pendzl] {s s' : LendingPoolStorage} {k : ℕ} {rd rd' rd'' : ReserveData}

/-- Rates under a model are computed from the utilization. -/
lemma recalculateRates_utilized (h : s.recalculateRates k rd = .ok rd')
    (hm : s.interestRateModel.contains k = true) : rd'.Utilized := by
  obtain ⟨model, hmodel⟩ := Option.isSome_iff_exists.mp hm
  have htotals : rd'.Utilized ↔ rd.Utilized := by
    rw [ReserveData.utilized_iff, ReserveData.utilized_iff, recalculateRates_totalDeposit h,
      recalculateRates_totalDebt h]
  rw [htotals]
  simp only [recalculateRates, hmodel] at h
  by_cases hdebt : rd.totalDebt = 0
  · rw [ReserveData.utilized_iff, hdebt]
    omega
  · rw [ReserveData.recalculateCurrentRates, if_neg hdebt] at h
    simp only [bind_eq_ok] at h
    obtain ⟨u, hu, -⟩ := h
    exact ⟨u, hu⟩

/-- New data of a reserve: the totals are moved, and a reserve with a rate model keeps its
utilization. -/
structure Reposts (s : LendingPoolStorage) (k : ℕ) (rd rd' : ReserveData) (moved : Side → ℤ) :
    Prop where
  total : ∀ side : Side, (side.total rd' : ℤ) = side.total rd + moved side
  utilized : s.interestRateModel.contains k = true → rd.Utilized → rd'.Utilized

/-- Data with the same totals. -/
lemma Reposts.of_totals (s : LendingPoolStorage) (k : ℕ) (h : rd'.totals = rd.totals) :
    Reposts s k rd rd' 0 := by
  obtain ⟨hd, hb⟩ := Prod.mk.inj h
  refine ⟨fun side => ?_, fun _ hu => ?_⟩
  · cases side <;> simp [Side.total, hd, hb]
  · rw [ReserveData.utilized_iff] at hu ⊢
    rw [hd, hb]
    exact hu

/-- Rates that were recalculated. -/
lemma Reposts.of_rates {moved : Side → ℤ} (h : s.recalculateRates k rd' = .ok rd'')
    (htotal : ∀ side : Side, (side.total rd' : ℤ) = side.total rd + moved side) :
    Reposts s k rd rd'' moved := by
  refine ⟨fun side => ?_, fun hm _ => recalculateRates_utilized h hm⟩
  rw [← htotal, side.total_recalculateRates h]

lemma Reposts.trans {moved moved' : Side → ℤ} (h : Reposts s k rd rd' moved)
    (hm : s'.interestRateModel.contains k = s.interestRateModel.contains k)
    (h' : Reposts s' k rd' rd'' moved') : Reposts s k rd rd'' (moved + moved') := by
  refine ⟨fun side => ?_, fun hmodel hu => h'.utilized (hm.trans hmodel) (h.utilized hmodel hu)⟩
  rw [h'.total, h.total, add_assoc]
  rfl

/-! ### The actions of an account -/

/-- The step lemma of the totals. -/
lemma applyAction_reposts {st st' : AccountActionsState} {feeReductions : FeeReductions} {t j : ℕ}
    {action action' : Action} {interests : ℕ × ℕ} {asset : AccountId}
    (hids : st.storage.IdsUnique)
    (h : st.applyAction feeReductions t action = .ok (st', action', interests))
    (hj : st.storage.assetToId.get asset = some j) (hrd : st.storage.reserveDatas.get j = some rd) :
    st'.storage.interestRateModel = st.storage.interestRateModel
      ∧ ∃ rd', st'.storage.reserveDatas.get j = some rd'
        ∧ Reposts st.storage j rd rd' fun side =>
          if action'.asset = asset then side.change action' interests else 0 := by
  obtain ⟨k, ctx, res, rd', i, e, hk, hlen, hopen, hstep, hrates, hact, hinterests, hst'⟩ :=
    AccountActionsState.applyAction_ok h
  refine ⟨by rw [hst']; rfl, ?_⟩
  have hasset : action'.asset = action.asset := by rw [hact]
  by_cases hjk : j = k
  · subst hjk
    have heq : action.asset = asset := hids.inj _ _ _ hk hj
    refine ⟨rd', by rw [hst']; exact Mapping.get_insert_self .., .of_rates hrates fun side => ?_⟩
    cases hrd.symm.trans hopen.reserveData
    rw [hasset, if_pos heq, (Action.step_posts hstep).total, hact, hinterests]
    have hchange := Action.step_change hstep side
    omega
  · have hne : action.asset ≠ asset := by
      rintro rfl
      exact hjk (Option.some.inj (hj.symm.trans hk))
    refine ⟨rd, ?_, ?_⟩
    · rw [hst']
      exact (Mapping.get_insert_of_ne _ hjk _).trans hrd
    · simp only [hasset, if_neg hne]
      exact .of_totals _ _ rfl

/-- The run lemma of the totals. -/
lemma applyActions_reposts {st st' : AccountActionsState} {feeReductions : FeeReductions} {t j : ℕ}
    {actions actions' : List Action} {results : List (ℕ × ℕ)} {asset : AccountId}
    (hids : st.storage.IdsUnique)
    (h : st.applyActions feeReductions t actions = .ok (st', actions', results))
    (hj : st.storage.assetToId.get asset = some j) (hrd : st.storage.reserveDatas.get j = some rd) :
    ∃ rd', st'.storage.reserveDatas.get j = some rd'
      ∧ Reposts st.storage j rd rd' fun side => sumOn asset side.change (actions'.zip results) := by
  induction actions generalizing st actions' results rd with
  | nil =>
      obtain ⟨rfl, rfl, rfl⟩ := AccountActionsState.applyActions_nil_ok h
      exact ⟨rd, hrd, .of_totals _ _ rfl⟩
  | cons action rest ih =>
      obtain ⟨st₁, action₁, interests₁, rest₂, results₂, h₁, h₂, rfl, rfl⟩ :=
        AccountActionsState.applyActions_cons_ok h
      have hkeeps := applyAction_keepsRegistry h₁
      obtain ⟨hmodels, rd₁, hrd₁, hfirst⟩ := applyAction_reposts hids h₁ hj hrd
      have hj₁ : st₁.storage.assetToId.get asset = some j := hkeeps.assetToId.symm ▸ hj
      obtain ⟨rd₂, hrd₂, hrest⟩ := ih (hids.keepsRegistry hkeeps) h₂ hj₁ hrd₁
      exact ⟨rd₂, hrd₂, hfirst.trans (by rw [hmodels]) hrest⟩

/-- The actions of an account post what is settled for them. -/
lemma accountForAccountActions_reposts {env : Env} {account asset : AccountId}
    {actions : List Action} {res : AccountActionsResult} {j : ℕ} (hids : s.IdsUnique)
    (h : s.accountForAccountActions env account actions = .ok res)
    (hj : s.assetToId.get asset = some j) (hrd : s.reserveDatas.get j = some rd) :
    ∃ rd', res.storage.reserveDatas.get j = some rd' ∧ Reposts s j rd rd' fun side =>
      sumOn asset side.change ((s.storedOf account).settlements
        (s.ledgerOf env account env.blockTimestamp) actions) := by
  obtain ⟨hsettled, -, -⟩ := accountForAccountActions_settlements hids h
  obtain ⟨st, hst, -, hs⟩ := accountForAccountActions_ok h
  rw [← hsettled, hs]
  exact applyActions_reposts hids hst hj hrd

/-! ### Two accounts -/

/-- The interest due on a side of an asset: what is shown less what is stored. -/
def due (s : LendingPoolStorage) (env : Env) (side : Side) (asset account : AccountId)
    (t : ℕ) : ℤ :=
  (side.held (s.ledgerOf env account t asset) : ℤ) - side.held (s.storedOf account asset)

variable {env : Env} {asset fromAccount toAccount : AccountId} {amount t j : ℕ}

/-- The due of an account whose accrual is known. -/
lemma due_eq {account : AccountId} {data : AccountReserveData}
    (hk : s.assetToId.get asset = some k)
    (h : s.accruedDataOf env asset account t = .ok data) (side : Side) :
    s.due env side asset account t
      = (side.amount data : ℤ) - side.amount (s.position account k) := by
  rw [due, ledgerOf_of_ok h, storedOf_of_get hk, Side.held_holding, Side.held_holding]

/-- Two steps in one reserve post what both of them change. -/
lemma TwoSteps.reposts (r : TwoSteps) {first second : AccountReserveData} {moved : Side → ℤ}
    (hreserve : s'.reserveDatas = s.reserveDatas.insert r.k r.reserveData)
    (hopen : s.Opened r.k t r.ctx) (h₁ : r.first.Posts r.ctx first)
    (h₂ : r.second.Posts r.first.ctx second)
    (hrates : s.recalculateRates r.k r.second.ctx.reserveData = .ok r.reserveData)
    (hmoved : ∀ side : Side, moved side
      = ((side.amount r.first.data : ℤ) - side.amount first)
        + ((side.amount r.second.data : ℤ) - side.amount second))
    (hrd : s.reserveDatas.get j = some rd) :
    ∃ rd', s'.reserveDatas.get j = some rd'
      ∧ Reposts s j rd rd' fun side => if j = r.k then moved side else 0 := by
  by_cases hj : j = r.k
  · subst hj
    cases hrd.symm.trans hopen.reserveData
    refine ⟨r.reserveData, by rw [hreserve, Mapping.get_insert_self],
      .of_rates hrates fun side => ?_⟩
    rw [h₂.total, h₁.total, if_pos rfl, hmoved, add_assoc]
  · refine ⟨rd, by rw [hreserve, Mapping.get_insert_of_ne _ hj, hrd], ?_⟩
    simp only [if_neg hj]
    exact .of_totals _ _ rfl

/-- A transfer of a deposit posts the interest of both accounts. -/
lemma DepositTransfer.reposts (r : DepositTransfer s env asset fromAccount toAccount amount t)
    (hrd : s.reserveDatas.get j = some rd) :
    ∃ rd', r.written.reserveDatas.get j = some rd' ∧ Reposts s j rd rd' fun side =>
      if j = r.k then s.due env side asset fromAccount t + s.due env side asset toAccount t
      else 0 := by
  obtain ⟨a, n, ha, -, -, -, hle, -, -, hfirst⟩ :=
    ReserveDataContext.accountForWithdraw_ok r.first_ok
  obtain ⟨a', ha', -, -, -, -, hsecond⟩ := ReserveDataContext.accountForDeposit_ok r.second_ok
  have hshown : s.accruedDataOf env asset fromAccount t = .ok a.data :=
    r.opened.accruedDataOf r.registered rfl (.refl _) (r.position_from.symm ▸ ha)
  have hshown' : s.accruedDataOf env asset toAccount t = .ok a'.data :=
    r.receiver_accrued ha'
  refine r.toTwoSteps.reposts rfl r.opened (ReserveDataContext.accountForWithdraw_posts r.first_ok)
    (ReserveDataContext.accountForDeposit_posts r.second_ok) r.rates (fun side => ?_) hrd
  rw [due_eq r.registered hshown, due_eq r.registered hshown', r.position_from, hsecond, hfirst]
  cases side with
  | deposit =>
      simp only [Side.amount]
      omega
  | debt => rfl

/-- A transfer of a debt posts the interest of both accounts. -/
lemma DebtTransfer.reposts (r : DebtTransfer s env asset fromAccount toAccount amount t)
    (hrd : s.reserveDatas.get j = some rd) :
    ∃ rd', r.written.reserveDatas.get j = some rd' ∧ Reposts s j rd rd' fun side =>
      if j = r.k then s.due env side asset fromAccount t + s.due env side asset toAccount t
      else 0 := by
  obtain ⟨a, n, ha, -, -, -, hle, -, -, -, hfirst⟩ :=
    ReserveDataContext.accountForRepay_ok r.first_ok
  obtain ⟨a', ha', -, -, -, -, -, hsecond⟩ := ReserveDataContext.accountForBorrow_ok r.second_ok
  have hshown : s.accruedDataOf env asset fromAccount t = .ok a.data :=
    r.opened.accruedDataOf r.registered rfl (.refl _) ha
  have hshown' : s.accruedDataOf env asset toAccount t = .ok a'.data :=
    r.receiver_accrued ha'
  refine r.toTwoSteps.reposts rfl r.opened (ReserveDataContext.accountForRepay_posts r.first_ok)
    (ReserveDataContext.accountForBorrow_posts r.second_ok) r.rates (fun side => ?_) hrd
  rw [due_eq r.registered hshown, due_eq r.registered hshown', hsecond, hfirst]
  cases side with
  | deposit => rfl
  | debt =>
      simp only [Side.amount]
      omega

namespace Liquidation

variable {caller liquidated assetToRepay assetToTake : AccountId}
  (r : Liquidation s env caller liquidated assetToRepay assetToTake amount t)

/-- What is posted for the repayment: the interest of both sides, less the repaid debt. -/
lemma paid_due (side : Side) :
    (side.amount r.paid.data : ℤ) - side.amount (s.position liquidated r.repayId)
      = s.due env side assetToRepay liquidated t
        - side.debtOnly (min amount (s.ledgerOf env liquidated t assetToRepay).debt) := by
  obtain ⟨b, hb, hamount, hpaid, -, hdeposit⟩ := r.repaid
  rw [due, storedOf_of_get r.registeredRepay, Side.held_holding, ledgerOf_debt hb, ← hamount]
  cases side with
  | deposit =>
      simp only [Side.held, Side.amount, Side.debtOnly, ledgerOf_deposit hdeposit]
      omega
  | debt =>
      simp only [Side.held, Side.amount, Side.debtOnly, ledgerOf_debt hb]
      omega

/-- What is posted for the two copies of the asset to take: the interest of the liquidated
account, unless the repayment posted it, and the interest of the caller. -/
lemma taken_due (side : Side) :
    (side.amount r.first.data : ℤ)
        - (if r.k = r.repayId then side.amount r.paid.data
          else side.amount (s.position liquidated r.k))
        + (side.amount r.second.data - side.amount (s.position caller r.k))
      = (if r.k = r.repayId then 0 else s.due env side assetToTake liquidated t)
        + s.due env side assetToTake caller t := by
  obtain ⟨b, hb, -, hpaid, -, hdeposit⟩ := r.repaid
  obtain ⟨d, b', hd, hb', -, -, hleft, hdebt⟩ := r.taken
  obtain ⟨dc, bc, hdc, hbc, -, hgiven, hkept⟩ := r.given
  have hsame : r.k = r.repayId → d = r.paid.data.deposit ∧ b' = b := by
    intro hk
    have hassets : s.assetToId.get assetToRepay = s.assetToId.get assetToTake := by
      rw [r.registeredRepay, r.registeredTake, hk]
    rw [Side.view_congr hassets, hd, Except.ok.injEq] at hdeposit
    rw [Side.view_congr hassets, hb', Except.ok.injEq] at hb
    exact ⟨hdeposit, hb⟩
  rw [due, due, storedOf_of_get r.registeredTake, storedOf_of_get r.registeredTake,
    Side.held_holding, Side.held_holding]
  cases side with
  | deposit =>
      simp only [Side.held, Side.amount, ledgerOf_deposit hd, ledgerOf_deposit hdc]
      split_ifs with hk
      · have hd' := (hsame hk).1
        omega
      · omega
  | debt =>
      simp only [Side.held, Side.amount, ledgerOf_debt hb', ledgerOf_debt hbc]
      split_ifs at hdebt ⊢ with hk
      · have hb'' := (hsame hk).2
        omega
      · omega

/-- A liquidation posts the interest of both accounts, less the repaid debt. -/
lemma reposts (hids : s.IdsUnique) (hj : s.assetToId.get asset = some j)
    (hrd : s.reserveDatas.get j = some rd) :
    ∃ rd', r.written.reserveDatas.get j = some rd' ∧ Reposts s j rd rd' fun side =>
      (if assetToRepay = asset then s.due env side asset liquidated t
        - side.debtOnly (min amount (s.ledgerOf env liquidated t asset).debt) else 0)
      + (if assetToTake = asset then (if assetToTake = assetToRepay then 0
          else s.due env side asset liquidated t) + s.due env side asset caller t else 0) := by
  have hrepay : assetToRepay = asset ↔ j = r.repayId :=
    ⟨fun heq => Option.some.inj (hj.symm.trans (heq ▸ r.registeredRepay)),
      fun heq => hids.inj _ _ _ r.registeredRepay (heq ▸ hj)⟩
  have htake : assetToTake = asset ↔ j = r.k :=
    ⟨fun heq => Option.some.inj (hj.symm.trans (heq ▸ r.registeredTake)),
      fun heq => hids.inj _ _ _ r.registeredTake (heq ▸ hj)⟩
  by_cases hk : j = r.k
  · subst hk
    have hasset : assetToTake = asset := htake.mpr rfl
    subst hasset
    obtain ⟨rd₀, hrd₀, htotal⟩ := r.total_take
    cases hrd.symm.trans hrd₀
    refine ⟨r.reserveData, r.reserve_take, fun side => ?_,
      fun hm _ => recalculateRates_utilized r.rates hm⟩
    have hside := htotal side
    have hpaid := r.paid_due side
    have htaken := r.taken_due side
    rw [if_pos rfl]
    by_cases hkr : r.k = r.repayId
    · have hassets := hrepay.mpr hkr
      rw [if_pos hassets, if_pos hassets.symm]
      rw [if_pos hkr, if_pos hkr] at htaken
      have hdue : s.due env side assetToRepay liquidated t
          - side.debtOnly (min amount (s.ledgerOf env liquidated t assetToRepay).debt)
          = s.due env side assetToTake liquidated t
          - side.debtOnly (min amount (s.ledgerOf env liquidated t assetToTake).debt) := by
        rw [hassets]
      rw [hdue, ← hkr] at hpaid
      omega
    · have hassets : assetToRepay ≠ assetToTake := fun heq => hkr (hrepay.mp heq)
      rw [if_neg hassets, if_neg hassets.symm]
      rw [if_neg hkr, if_neg hkr] at htaken
      omega
  · have hne : assetToTake ≠ asset := fun heq => hk (htake.mp heq)
    simp only [if_neg hne, add_zero]
    by_cases hr : j = r.repayId
    · subst hr
      have hasset : assetToRepay = asset := hrepay.mpr rfl
      subst hasset
      obtain ⟨rd₀, rd₁, hrd₀, hrd₁, htotal⟩ := r.total_repay fun heq => hk heq.symm
      obtain ⟨rd₂, i, e, hrates, hmid⟩ := r.mid_eq
      have hwritten : r.written.reserveDatas.get r.repayId = some rd₂ := by
        have hget : r.written.reserveDatas.get r.repayId = r.mid.reserveDatas.get r.repayId :=
          Mapping.get_insert_of_ne _ hk _
        rw [hget, hmid]
        exact Mapping.get_insert_self ..
      cases hrd.symm.trans hrd₀
      cases hwritten.symm.trans hrd₁
      refine ⟨_, hwritten, fun side => ?_, fun hm _ => recalculateRates_utilized hrates hm⟩
      have hside := htotal side
      have hpaid := r.paid_due side
      rw [if_pos rfl]
      omega
    · have hne' : assetToRepay ≠ asset := fun heq => hr (hrepay.mp heq)
      refine ⟨rd, (r.reserve_of_ne hk hr).trans hrd, ?_⟩
      simp only [if_neg hne']
      exact .of_totals _ _ rfl

end Liquidation

end LendingPoolStorage

/-! ### Messages -/

namespace World

variable [Pendzl] {w w' : World} {env : Env} {asset : AccountId}

/-- What the transfer of a token posts to a side of an asset. -/
def transferPosted (w : World) (env : Env) (side : Side)
    (asset token fromAccount toAccount : AccountId) : ℤ :=
  match w.tokens.get token with
  | some t =>
      if t.underlyingAsset = asset then
        w.pool.due env side asset fromAccount env.blockTimestamp
          + w.pool.due env side asset toAccount env.blockTimestamp
      else 0
  | none => 0

/-- What a message posts to a side of an asset. -/
def posted (w : World) (env : Env) (side : Side) (asset : AccountId) : Message → ℤ
  | .liquidate liquidatedAccount assetToRepay assetToTake amountToRepay _ =>
      (if assetToRepay = asset then
          w.pool.due env side asset liquidatedAccount env.blockTimestamp
          - side.debtOnly (min amountToRepay
            (w.pool.ledgerOf env liquidatedAccount env.blockTimestamp asset).debt)
        else 0)
      + (if assetToTake = asset then
          (if assetToTake = assetToRepay then 0
            else w.pool.due env side asset liquidatedAccount env.blockTimestamp)
          + w.pool.due env side asset env.caller env.blockTimestamp
        else 0)
  | .transfer token toAccount _ => w.transferPosted env side asset token env.caller toAccount
  | .transferFrom token fromAccount toAccount _ =>
      w.transferPosted env side asset token fromAccount toAccount
  | message =>
      match message.userActions with
      | some (account, actions) => sumOn asset side.change (w.settlementsOf env account actions)
      | none => 0

/-- A move of a position posts the interest of both accounts. -/
lemma TokenMove.reposts {tokenAddress fromAccount toAccount : AccountId} {token : AbacusToken}
    {amount k : ℕ} {s' : LendingPoolStorage} {rd : ReserveData} (hids : w.pool.IdsUnique)
    (h : TokenMove env tokenAddress token fromAccount toAccount amount w.pool s')
    (htoken : w.tokens.get tokenAddress = some token)
    (hk : w.pool.assetToId.get asset = some k) (hrd : w.pool.reserveDatas.get k = some rd) :
    ∃ rd', s'.reserveDatas.get k = some rd' ∧ w.pool.Reposts k rd rd' fun side =>
      w.transferPosted env side asset tokenAddress fromAccount toAccount := by
  have hasset : ∀ j, w.pool.assetToId.get token.underlyingAsset = some j →
      (token.underlyingAsset = asset ↔ k = j) := by
    intro j hj
    exact ⟨fun heq => Option.some.inj (hk.symm.trans (heq ▸ hj)),
      fun heq => hids.inj _ _ _ hj (heq ▸ hk)⟩
  have hmoved : ∀ {j : ℕ} {s' : LendingPoolStorage},
      w.pool.assetToId.get token.underlyingAsset = some j →
      (∃ rd', s'.reserveDatas.get k = some rd' ∧ w.pool.Reposts k rd rd' fun side =>
        if k = j then w.pool.due env side token.underlyingAsset fromAccount env.blockTimestamp
          + w.pool.due env side token.underlyingAsset toAccount env.blockTimestamp else 0) →
      ∃ rd', s'.reserveDatas.get k = some rd' ∧ w.pool.Reposts k rd rd' fun side =>
        w.transferPosted env side asset tokenAddress fromAccount toAccount := by
    intro j s' hj hposts
    simp only [transferPosted, htoken]
    by_cases heq : token.underlyingAsset = asset
    · subst heq
      simp only [(hasset j hj).mp rfl, if_true] at hposts ⊢
      exact hposts
    · simp only [if_neg heq, if_neg fun hkj => heq ((hasset j hj).mpr hkj)] at hposts ⊢
      exact hposts
  refine h.rule (P := fun s' => ∃ rd', s'.reserveDatas.get k = some rd'
    ∧ w.pool.Reposts k rd rd' fun side =>
      w.transferPosted env side asset tokenAddress fromAccount toAccount)
    (fun res hres => ?_) fun res hres => ?_
  · obtain ⟨r, rfl⟩ := LendingPoolStorage.accountForDepositTransferFromTo_ok hres
    exact hmoved r.registered (r.reposts hrd)
  · obtain ⟨r, rfl⟩ := LendingPoolStorage.accountForDebtTransferFromTo_ok hres
    exact hmoved r.registered (r.reposts hrd)

/-- Only the actions of an account, liquidations, transfers and registrations touch the books. -/
lemma execute_quiet {message : Message} (hactions : message.userActions = none)
    (hregisters : message.registers = none) (hliquidate : message.isLiquidate = false)
    (htransfer : message.isTransfer = false) (hex : w.execute env message = .ok w') :
    w.pool.KeepsBooks w'.pool := by
  cases execute_change hex with
  | actions account actions res hm => exact absurd (hactions.symm.trans hm) nofun
  | quiet hkeep => exact hkeep
  | register asset hm => exact absurd (hregisters.symm.trans hm) nofun
  | liquidate _ _ _ _ _ hm => exact absurd (hliquidate.symm.trans hm) nofun
  | move _ _ _ _ _ hm => exact absurd (htransfer.symm.trans hm) nofun

/-- **What a message does to the totals of a reserve**: they move by what the message posts,
and under a rate model the utilization can still be computed. -/
theorem execute_posts {message : Message} {k : ℕ} {rd : ReserveData} (hl : w.Linked)
    (hk : w.pool.assetToId.get asset = some k) (hrd : w.pool.reserveDatas.get k = some rd)
    (hex : w.execute env message = .ok w') :
    ∃ rd', w'.pool.reserveDatas.get k = some rd'
      ∧ w.pool.Reposts k rd rd' fun side => w.posted env side asset message := by
  cases hm : message.userActions with
  | some p =>
      obtain ⟨account, actions⟩ := p
      obtain ⟨res, hres, hs⟩ := execute_userActions hex hm
      obtain ⟨rd', hrd', hposts⟩ :=
        LendingPoolStorage.accountForAccountActions_reposts hl.ids hres hk hrd
      refine ⟨rd', hs ▸ hrd', ?_⟩
      cases message <;> simp only [Message.userActions, reduceCtorEq, Option.some.injEq,
        Prod.mk.injEq] at hm
      all_goals
        obtain ⟨rfl, rfl⟩ := hm
        exact hposts
  | none =>
      have hstep := (execute_frame hex).1
      have hquiet : w.pool.KeepsBooks w'.pool → ∃ rd', w'.pool.reserveDatas.get k = some rd'
          ∧ w.pool.Reposts k rd rd' 0 := by
        intro hkeep
        have htotals := hkeep.totals k
        rw [hrd, Option.map_some, Option.map_eq_some_iff] at htotals
        obtain ⟨rd', hrd', heq⟩ := htotals
        exact ⟨rd', hrd', .of_totals _ _ heq⟩
      cases message with
      | liquidate liquidatedAccount assetToRepay assetToTake amountToRepay minimumRecieved =>
          obtain ⟨res, hres, hs⟩ := hstep
          obtain ⟨r, rfl⟩ := LendingPoolStorage.accountForLiquidate_ok hres
          rw [hs]
          exact r.reposts hl.ids hk hrd
      | transfer token toAccount value =>
          obtain ⟨t, htoken, hmove⟩ := hstep
          exact hmove.reposts hl.ids htoken hk hrd
      | transferFrom token fromAccount toAccount value =>
          obtain ⟨t, htoken, hmove⟩ := hstep
          exact hmove.reposts hl.ids htoken hk hrd
      | registerAsset asset' decimals rules restrictions depositFeeE6 debtFeeE6 params =>
          obtain ⟨s₁, s₂, multiplier, tokens, h₁, h₂, h₃⟩ := hstep
          have hregister := (LendingPoolStorage.register_ok h₁ h₂ h₃).1
          have hne : k ≠ w.pool.assetCount := (hl.ids.below asset k hk).ne
          refine ⟨rd, ?_, .of_totals _ _ rfl⟩
          rw [hregister.reserveDatas, Mapping.get_insert_of_ne _ hne, hrd]
      | deposit | withdraw | borrow | repay | multiOp => cases hm
      | _ => exact hquiet (execute_quiet hm rfl rfl rfl hex)

end World

end AbaxLending
