import AbaxLending.Effects.Compounding
import AbaxLending.Effects.Reconciliation
import AbaxLending.Spec.Bank

/-!
The entries of a message in the bank.

Whatever the pool stores of indexes, totals and bitmaps: the actions of an account and the
liquidation of another account are, at their block time, entries in ledgers.
-/

namespace AbaxLending

open Outcome

/-! ### One step -/

/-- **A basic step enters its amount in what the position holds**, under terms that it keeps. -/
lemma Action.step_holdingAt [Pendzl] {action : Action} {ctx : ReserveDataContext}
    {data : AccountReserveData} {config : AccountConfig} {feeReductions : FeeReductions} {st : Step}
    (h : action.step ctx data config feeReductions = .ok st) :
    st.amount = action.settled (data.holdingAt ctx.terms feeReductions)
      ∧ (∀ reductions, st.data.holdingAt ctx.terms reductions
        = (data.holdingAt ctx.terms feeReductions).enter action.op st.amount)
      ∧ st.ctx.terms = ctx.terms := by
  obtain ⟨a, ha, hamount, hholding, hd, hb, hreserve⟩ := Action.step_settles h
  have hbefore : data.holdingAt ctx.terms feeReductions = a.data.holding :=
    AccountReserveData.holdingAt_of_accrual rfl rfl ha
  obtain ⟨hcaught, hcaught'⟩ := AccountReserveData.accumulateAccountInterest_caughtUp ha
  refine ⟨hbefore ▸ hamount, fun reductions => ?_, ?_⟩
  · rw [hbefore, ← hholding]
    exact AccountReserveData.holdingAt_of_le (hd.symm ▸ hcaught) (hb.symm ▸ hcaught')
  · obtain ⟨-, -, hdeposit, hdebt, -⟩ := AccountReserveData.accumulateAccountInterest_spec ha
    rw [ReserveDataContext.terms, ReserveDataContext.terms, hreserve]
    simp only [hdeposit, hdebt]

namespace LendingPoolStorage

variable [Pendzl] {s s' : LendingPoolStorage} {env view : Env} {account : AccountId} {t j k : ℕ}

/-! ### The actions of an account -/

/-- An action keeps the terms of all reserves. -/
lemma applyAction_termsAt {st st' : AccountActionsState} {feeReductions : FeeReductions}
    {action action' : Action} {interests : ℕ × ℕ}
    (h : st.applyAction feeReductions t action = .ok (st', action', interests)) (j : ℕ) :
    st'.storage.termsAt t j = st.storage.termsAt t j := by
  obtain ⟨k, ctx, res, rd, i, e, hk, hlen, hopen, hstep, -, -, -, rfl⟩ :=
    AccountActionsState.applyAction_ok h
  by_cases hj : j = k
  · subst hj
    obtain ⟨-, -, hterms⟩ := Action.step_holdingAt hstep
    exact hopen.keepsTerms (Mapping.get_insert_self ..) (Mapping.get_insert_self ..) hterms
  · rw [termsAt, termsAt, putReserve_reserveIndexesAndFees, putReserve_reserveDatas,
      Mapping.get_insert_of_ne _ hj, Mapping.get_insert_of_ne _ hj]
    rfl

/-- **An action is entered in the ledger of its account**, with its settled amount, and in no
other ledger. -/
lemma applyAction_bankAt {st st' : AccountActionsState} {action action' : Action}
    {interests : ℕ × ℕ} (hids : st.storage.IdsUnique)
    (h : st.applyAction (st.storage.getFeeReductionsOfAccount view account) t action
      = .ok (st', action', interests)) :
    (st'.flush account).bankAt view t
      = Function.update ((st.flush account).bankAt view t) account
        (((st.flush account).bankAt view t account).enter action) := by
  have hterms : ∀ j, (st'.flush account).termsAt t j = (st.flush account).termsAt t j :=
    applyAction_termsAt h
  obtain ⟨k, ctx, res, rd, i, e, hk, hlen, hopen, hstep, -, -, -, hst'⟩ :=
    AccountActionsState.applyAction_ok h
  obtain ⟨hamount, hholding, hkept⟩ := Action.step_holdingAt hstep
  have hposition : ∀ a j, (st'.flush account).position a j
      = if a = account ∧ j = k then res.data else (st.flush account).position a j :=
    AccountActionsState.flush_position_set hlen (hst' ▸ rfl) (hst' ▸ rfl)
  have hids' : (st'.flush account).assetToId = (st.flush account).assetToId := by rw [hst']; rfl
  have hprovider : (st'.flush account).feeReductionProvider
      = (st.flush account).feeReductionProvider := by rw [hst']; rfl
  have hk' : (st.flush account).assetToId.get action.asset = some k := hk
  have hctx : (st.flush account).termsAt t k = some ctx.terms := hopen.termsAt
  have hbefore : (st.flush account).bankAt view t account action.asset
      = (st.position k).holdingAt ctx.terms
        (st.storage.getFeeReductionsOfAccount view account) := by
    rw [bankAt_of_terms hk' hctx, AccountActionsState.flush_position_self]
    rfl
  funext a asset
  by_cases ha : a = account
  · subst ha
    rw [Function.update_self, Ledger.enter]
    by_cases hasset : asset = action.asset
    · subst hasset
      have hself : (st'.flush a).position a k = res.data := by rw [hposition, if_pos ⟨rfl, rfl⟩]
      rw [Function.update_self, bankAt_of_terms (hids'.symm ▸ hk') ((hterms k).trans hctx), hself,
        hholding, hbefore, hamount]
    · rw [Function.update_of_ne hasset]
      refine bankAt_congr (by rw [hids']) hprovider fun j hj => ⟨hterms j, ?_⟩
      have hjk : j ≠ k := by
        rintro rfl
        exact hasset (hids.inj asset action.asset j hj hk)
      rw [hposition, if_neg fun hc => hjk hc.2]
  · rw [Function.update_of_ne ha]
    refine bankAt_congr (by rw [hids']) hprovider fun j _ => ⟨hterms j, ?_⟩
    rw [hposition, if_neg fun hc => ha hc.1]

/-- The run lemma of the ledgers. -/
lemma applyActions_bankAt {st st' : AccountActionsState} {actions actions' : List Action}
    {results : List (ℕ × ℕ)} {feeReductions : FeeReductions} (hids : st.storage.IdsUnique)
    (hreductions : feeReductions = st.storage.getFeeReductionsOfAccount view account)
    (h : st.applyActions feeReductions t actions = .ok (st', actions', results)) :
    (st'.flush account).bankAt view t
      = ((st.flush account).bankAt view t).act account actions := by
  induction actions generalizing st actions' results with
  | nil =>
      obtain ⟨rfl, -, -⟩ := AccountActionsState.applyActions_nil_ok h
      exact (Function.update_eq_self _ _).symm
  | cons action rest ih =>
      obtain ⟨st₁, action₁, ints, rest₂, results₂, h₁, h₂, -, -⟩ :=
        AccountActionsState.applyActions_cons_ok h
      have hkeeps := applyAction_keepsRegistry h₁
      subst hreductions
      have hfirst := applyAction_bankAt hids h₁
      have hreductions : st.storage.getFeeReductionsOfAccount view account
          = st₁.storage.getFeeReductionsOfAccount view account := by
        obtain ⟨_, _, _, _, _, _, -, -, -, -, -, -, -, rfl⟩ :=
          AccountActionsState.applyAction_ok h₁
        rfl
      rw [ih (hids.keepsRegistry hkeeps) hreductions h₂, hfirst, Bank.act, Function.update_self,
        Function.update_idem]
      rfl

omit [Pendzl] in
/-- Accounts without changes are the stored ones. -/
lemma startActions_bankAt (s : LendingPoolStorage) (view : Env) (account : AccountId) (t : ℕ) :
    ((s.startActions account).flush account).bankAt view t = s.bankAt view t := by
  funext a asset
  exact bankAt_congr rfl rfl fun k _ => ⟨rfl, startActions_flush_position account a k⟩

/-- **The actions of an account are entered in its ledger.** -/
theorem accountForAccountActions_bankAt {actions : List Action} {res : AccountActionsResult}
    (hids : s.IdsUnique) (hview : env.getFeeReductions = view.getFeeReductions)
    (h : s.accountForAccountActions env account actions = .ok res) :
    res.storage.bankAt view env.blockTimestamp
      = (s.bankAt view env.blockTimestamp).act account actions := by
  obtain ⟨st, hst, -, hs⟩ := accountForAccountActions_ok h
  have hreductions : s.getFeeReductionsOfAccount env account
      = s.getFeeReductionsOfAccount view account := by
    rw [getFeeReductionsOfAccount, getFeeReductionsOfAccount, hview]
  rw [hs, applyActions_bankAt hids hreductions hst, startActions_bankAt]

/-! ### Liquidations -/

section

variable {caller liquidated assetToRepay assetToTake : AccountId} {amount : ℕ}

namespace Liquidation

variable (r : Liquidation s env caller liquidated assetToRepay assetToTake amount t)

/-- The repayment keeps the terms of all reserves. -/
lemma mid_termsAt (j : ℕ) : r.mid.termsAt t j = s.termsAt t j := by
  have hstep : Action.step ⟨.repay, assetToRepay, amount⟩ r.repayCtx r.dataToRepay
      (s.getAccountConfig liquidated) (s.getFeeReductionsOfAccount env liquidated)
      = .ok r.paid := r.paid_ok
  obtain ⟨rd, i, e, -, hmid⟩ := r.mid_eq
  by_cases hj : j = r.repayId
  · subst hj
    rw [hmid]
    exact r.repayOpened.keepsTerms (Mapping.get_insert_self ..) (Mapping.get_insert_self ..)
      (Action.step_holdingAt hstep).2.2
  · rw [hmid, termsAt, termsAt, putReserve_reserveIndexesAndFees, putReserve_reserveDatas,
      Mapping.get_insert_of_ne _ hj, Mapping.get_insert_of_ne _ hj]
    rfl

/-- The two steps in the asset to take, with the terms of its reserve. -/
lemma steps : Action.step ⟨.withdraw, assetToTake, r.amountToTake⟩ r.ctx r.dataToTake
      r.paid.config (s.getFeeReductionsOfAccount env liquidated) = .ok r.first
    ∧ Action.step ⟨.deposit, assetToTake, r.first.amount⟩ r.first.ctx (s.position caller r.k)
      (s.getAccountConfig caller) (s.getFeeReductionsOfAccount env caller) = .ok r.second
    ∧ r.first.ctx.terms = r.ctx.terms ∧ r.second.ctx.terms = r.ctx.terms := by
  have hfirst : Action.step ⟨.withdraw, assetToTake, r.amountToTake⟩ r.ctx r.dataToTake
      r.paid.config (s.getFeeReductionsOfAccount env liquidated) = .ok r.first := r.first_ok
  have hsecond : Action.step ⟨.deposit, assetToTake, r.first.amount⟩ r.first.ctx
      (s.position caller r.k) (s.getAccountConfig caller) (s.getFeeReductionsOfAccount env caller)
      = .ok r.second := r.second_ok
  have hterms := (Action.step_holdingAt hfirst).2.2
  exact ⟨hfirst, hsecond, hterms, (Action.step_holdingAt hsecond).2.2.trans hterms⟩

/-- A liquidation keeps the terms of all reserves. -/
lemma written_termsAt (j : ℕ) : r.written.termsAt t j = s.termsAt t j := by
  obtain ⟨-, -, -, hterms⟩ := r.steps
  rw [← r.mid_termsAt j]
  by_cases hj : j = r.k
  · subst hj
    exact r.opened.keepsTerms (Mapping.get_insert_self ..) (Mapping.get_insert_self ..) hterms
  · have hwritten : r.written.termsAt t j = (r.reserveWritten r.mid).termsAt t j := rfl
    rw [hwritten, TwoSteps.reserveWritten, termsAt, termsAt, putReserve_reserveIndexesAndFees,
      putReserve_reserveDatas, Mapping.get_insert_of_ne _ hj, Mapping.get_insert_of_ne _ hj]
    rfl

lemma written_provider : r.written.feeReductionProvider = s.feeReductionProvider := by
  obtain ⟨rd, i, e, -, hmid⟩ := r.mid_eq
  have hwritten : r.written.feeReductionProvider = r.mid.feeReductionProvider := rfl
  rw [hwritten, hmid]
  rfl

/-- What the liquidated account holds in the asset to repay, before and after the repayment. -/
lemma repaid_holding :
    s.bankAt env t liquidated assetToRepay = r.dataToRepay.holdingAt r.repayCtx.terms
        (s.getFeeReductionsOfAccount env liquidated)
      ∧ r.paid.amount = min amount (s.bankAt env t liquidated assetToRepay).debt
      ∧ ∀ reductions, r.paid.data.holdingAt r.repayCtx.terms reductions
        = (s.bankAt env t liquidated assetToRepay).enter .repay r.paid.amount := by
  have hstep : Action.step ⟨.repay, assetToRepay, amount⟩ r.repayCtx r.dataToRepay
      (s.getAccountConfig liquidated) (s.getFeeReductionsOfAccount env liquidated)
      = .ok r.paid := r.paid_ok
  obtain ⟨hamount, hholding, -⟩ := Action.step_holdingAt hstep
  have hbefore : s.bankAt env t liquidated assetToRepay
      = r.dataToRepay.holdingAt r.repayCtx.terms (s.getFeeReductionsOfAccount env liquidated) := by
    rw [bankAt_of_terms r.registeredRepay r.repayOpened.termsAt, r.dataToRepay_position]
  rw [hbefore]
  exact ⟨rfl, hamount, hholding⟩

/-- What the liquidated account holds after the repayment, in the asset to take. -/
lemma toTake_holding (hids : s.IdsUnique) :
    (s.bankAt env t liquidated).enter r.repayment assetToTake
        = r.dataToTake.holdingAt r.ctx.terms (s.getFeeReductionsOfAccount env liquidated)
      ∧ ((s.bankAt env t liquidated).enter r.repayment assetToTake).deposit
        = (s.bankAt env t liquidated assetToTake).deposit := by
  obtain ⟨-, hamount, hpaid⟩ := r.repaid_holding
  have hsettled : r.repayment.settled (s.bankAt env t liquidated assetToRepay) = r.paid.amount := by
    show min r.paid.amount _ = r.paid.amount
    omega
  have hterms : s.termsAt t r.k = some r.ctx.terms := by
    rw [← r.mid_termsAt, r.opened.termsAt]
  have hdata := r.dataToTake_position
  by_cases hassets : assetToTake = assetToRepay
  · subst hassets
    have hk : r.k = r.repayId := Option.some.inj (r.registeredTake.symm.trans r.registeredRepay)
    have hsame : r.ctx.terms = r.repayCtx.terms := by
      have hrepay := r.repayOpened.termsAt
      rw [← hk, hterms] at hrepay
      exact Option.some.inj hrepay
    have hentered : (s.bankAt env t liquidated).enter r.repayment assetToTake
        = (s.bankAt env t liquidated assetToTake).enter .repay r.paid.amount :=
      Ledger.enter_of_settled _ rfl hsettled
    refine ⟨?_, by rw [hentered]; rfl⟩
    rw [hentered, hdata, if_pos hk, hsame, hpaid]
  · have hk : r.k ≠ r.repayId := fun hk =>
      hassets (hids.inj _ _ _ r.registeredTake (hk ▸ r.registeredRepay))
    have hentered : (s.bankAt env t liquidated).enter r.repayment assetToTake
        = s.bankAt env t liquidated assetToTake := Ledger.enter_of_ne _ hassets
    refine ⟨?_, by rw [hentered]⟩
    rw [hentered, bankAt_of_terms r.registeredTake hterms, hdata, if_neg hk]

/-- The amounts of a liquidation are there. -/
lemma amounts_covered (hids : s.IdsUnique) : r.paid.amount ≤ amount
    ∧ r.paid.amount ≤ (s.bankAt env t liquidated assetToRepay).debt
    ∧ r.second.amount ≤ (s.bankAt env t liquidated assetToTake).deposit := by
  obtain ⟨-, hamount, -⟩ := r.repaid_holding
  obtain ⟨hfirst, -, -, -⟩ := r.steps
  obtain ⟨hheld, hdeposit⟩ := r.toTake_holding hids
  obtain ⟨_, _, -, -, hgiven, -, -⟩ := r.given
  have htaken : r.first.amount = min r.amountToTake (r.dataToTake.holdingAt r.ctx.terms
      (s.getFeeReductionsOfAccount env liquidated)).deposit := (Action.step_holdingAt hfirst).1
  rw [← hheld, hdeposit] at htaken
  exact ⟨by omega, by omega, by omega⟩

/-- What the liquidated account holds afterwards. -/
lemma written_liquidated (hids : s.IdsUnique) (hne : caller ≠ liquidated) :
    r.written.bankAt env t liquidated
      = ((s.bankAt env t liquidated).enter r.repayment).enter r.seizure := by
  obtain ⟨-, hamount, hpaid⟩ := r.repaid_holding
  obtain ⟨hfirst, -, -, -⟩ := r.steps
  obtain ⟨htaken, hholding, -⟩ := Action.step_holdingAt hfirst
  obtain ⟨hheld, hdeposit⟩ := r.toTake_holding hids
  obtain ⟨_, _, -, -, hgiven, -, -⟩ := r.given
  have hentry := r.entry_liquidated hne.symm
  have hassetToId := r.written_assetToId
  funext asset
  by_cases htake : asset = assetToTake
  · subst htake
    have hposition : r.written.position liquidated r.k = r.first.data := by
      rw [position, hentry, if_pos rfl, Option.getD_some]
    have hterms : r.written.termsAt t r.k = some r.ctx.terms := by
      rw [r.written_termsAt, ← r.mid_termsAt, r.opened.termsAt]
    have hsettled : r.seizure.settled ((s.bankAt env t liquidated).enter r.repayment asset)
        = r.first.amount := by
      show min r.second.amount _ = r.first.amount
      rw [hheld]
      have hmin : r.first.amount = min r.amountToTake (r.dataToTake.holdingAt r.ctx.terms
        (s.getFeeReductionsOfAccount env liquidated)).deposit := htaken
      omega
    rw [bankAt_of_terms (hassetToId ▸ r.registeredTake) hterms, hposition, hholding, ← hheld]
    exact (Ledger.enter_of_settled _ rfl hsettled).symm
  · have hseized : (((s.bankAt env t liquidated).enter r.repayment).enter r.seizure) asset
        = (s.bankAt env t liquidated).enter r.repayment asset := Ledger.enter_of_ne _ htake
    rw [hseized]
    by_cases hrepay : asset = assetToRepay
    · subst hrepay
      have hk : r.repayId ≠ r.k := fun hk =>
        htake (hids.inj _ _ _ r.registeredRepay (hk ▸ r.registeredTake))
      have hposition : r.written.position liquidated r.repayId = r.paid.data := by
        rw [position, hentry, if_neg hk, if_pos rfl, Option.getD_some]
      have hterms : r.written.termsAt t r.repayId = some r.repayCtx.terms := by
        rw [r.written_termsAt, r.repayOpened.termsAt]
      have hsettled : r.repayment.settled (s.bankAt env t liquidated asset) = r.paid.amount := by
        show min r.paid.amount _ = r.paid.amount
        omega
      rw [bankAt_of_terms (hassetToId ▸ r.registeredRepay) hterms, hposition, hpaid]
      exact (Ledger.enter_of_settled _ rfl hsettled).symm
    · have hrepaid : (s.bankAt env t liquidated).enter r.repayment asset
          = s.bankAt env t liquidated asset := Ledger.enter_of_ne _ hrepay
      rw [hrepaid]
      refine bankAt_congr (by rw [hassetToId]) r.written_provider fun j hj =>
        ⟨r.written_termsAt j, ?_⟩
      have hjk : j ≠ r.k := fun hjk => htake (hids.inj _ _ _ hj (hjk ▸ r.registeredTake))
      have hjr : j ≠ r.repayId := fun hjr => hrepay (hids.inj _ _ _ hj (hjr ▸ r.registeredRepay))
      rw [position, hentry, if_neg hjk, if_neg hjr]
      rfl

/-- What the caller holds afterwards. -/
lemma written_caller (hids : s.IdsUnique) :
    r.written.bankAt env t caller = (s.bankAt env t caller).enter r.award := by
  obtain ⟨-, hsecond, hterms, -⟩ := r.steps
  obtain ⟨-, hholding, -⟩ := Action.step_holdingAt hsecond
  have hassetToId := r.written_assetToId
  have hopened : s.termsAt t r.k = some r.ctx.terms := by
    rw [← r.mid_termsAt, r.opened.termsAt]
  funext asset
  by_cases htake : asset = assetToTake
  · subst htake
    have hposition : r.written.position caller r.k = r.second.data := by
      rw [position, r.entry_caller, if_pos rfl, Option.getD_some]
    have hwritten : r.written.termsAt t r.k = some r.ctx.terms := by
      rw [r.written_termsAt, hopened]
    have hsettled : r.award.settled (s.bankAt env t caller asset) = r.second.amount := rfl
    rw [hterms] at hholding
    rw [bankAt_of_terms (hassetToId ▸ r.registeredTake) hwritten, hposition, hholding,
      ← bankAt_of_terms r.registeredTake hopened]
    exact (Ledger.enter_of_settled _ rfl hsettled).symm
  · have hawarded : (s.bankAt env t caller).enter r.award asset = s.bankAt env t caller asset :=
      Ledger.enter_of_ne _ htake
    rw [hawarded]
    refine bankAt_congr (by rw [hassetToId]) r.written_provider fun j hj =>
      ⟨r.written_termsAt j, ?_⟩
    have hjk : j ≠ r.k := fun hjk => htake (hids.inj _ _ _ hj (hjk ▸ r.registeredTake))
    rw [position, r.entry_caller, if_neg hjk]
    rfl

/-- **A liquidation of another account is entered in the two ledgers.** -/
theorem written_bankAt (hids : s.IdsUnique) (hne : caller ≠ liquidated) :
    r.written.bankAt env t
      = ((s.bankAt env t).act liquidated [r.repayment, r.seizure]).act caller [r.award] := by
  funext a
  by_cases hc : a = caller
  · subst hc
    rw [Bank.act, Function.update_self, Bank.act, Function.update_of_ne hne, r.written_caller hids]
    rfl
  · rw [Bank.act, Function.update_of_ne hc]
    by_cases hl : a = liquidated
    · subst hl
      rw [Bank.act, Function.update_self, r.written_liquidated hids hne]
      rfl
    · rw [Bank.act, Function.update_of_ne hl]
      funext asset
      refine bankAt_congr (by rw [r.written_assetToId]) r.written_provider fun j _ =>
        ⟨r.written_termsAt j, ?_⟩
      rw [position, r.entry_of_ne hc hl]
      rfl

end Liquidation

end

end LendingPoolStorage

end AbaxLending
