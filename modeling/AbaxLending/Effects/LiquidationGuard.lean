import AbaxLending.Contract.Run
import AbaxLending.Effects.CheckArithmetic
import AbaxLending.Spec.Messages

/-!
When the guard of a liquidation lets a message pass.

`liquidate` goes on when the check of the account returns any error value, so it also
goes on when the check could not be evaluated.  The prices were found by the same
message (`liquidate_prices`), which leaves a missing coefficient and the arithmetic.  Both are
said of the state before: the market rule covers the active assets (`RulesCover`), and what the
check computes fits (`CheckFitsOf`).  `liquidate_shortfall_iff` says that these are the only ways
in which an account without a shortfall is liquidated.
-/

namespace AbaxLending

open Outcome

namespace LendingPoolStorage

section

variable [Pendzl] {s : LendingPoolStorage} {env : Env} {account : AccountId}

/-- The arithmetic of the check of an account does not fail, with its market rule and the
prices of the oracle. -/
def CheckFitsOf (s : LendingPoolStorage) (env : Env) (account : AccountId) : Prop :=
  ∀ rule prices, s.marketRules.get (s.getAccountConfig account).marketRuleId = some rule →
    s.getAssetsPricesE18 env = .ok prices →
    s.CheckFits (appraisal rule (s.getAccountDatas account) (s.getAccountConfig account)
      (s.getFeeReductionsOfAccount env account) prices)

/-- A check that returns a value fits. -/
lemma checkFitsOf_of_ok {power : Bool × ℕ}
    (h : s.calculateLendingPowerOfAnAccountE6 env account = .ok power) :
    s.CheckFitsOf env account := by
  intro rule prices hrule hprices
  rw [calculateLendingPowerOfAnAccountE6, hprices, ok_bind] at h
  obtain ⟨rule', hrule', hreturns, -⟩ := calculateLendingPowerE6_eq_ok.mp h
  rw [unwrap_eq_ok.mp hrule', Option.some.injEq] at hrule
  subst hrule
  exact hreturns.checkFits

/-- A check that fits, with a rule that covers the active assets and the prices at hand, returns
no error value. -/
lemma CheckFitsOf.not_error (h : s.CheckFitsOf env account) (hcover : s.RulesCover account)
    {prices : List ℕ} (hprices : s.getAssetsPricesE18 env = .ok prices) (e : LendingPoolError) :
    s.calculateLendingPowerOfAnAccountE6 env account ≠ .error (.err e) := by
  rw [calculateLendingPowerOfAnAccountE6, hprices, ok_bind]
  intro hcheck
  cases hrule : s.marketRules.get (s.getAccountConfig account).marketRuleId with
  | none =>
      -- an account without a rule traps
      rw [calculateLendingPowerE6, getMarketRule, hrule] at hcheck
      cases hcheck
  | some rule =>
      have hfits := (h rule prices hrule hprices).calculateLendingPowerE6_raises
        (unwrap_eq_ok.mpr hrule)
      rcases calculateLendingPowerE6_raises e hcheck with hnot | hmath
      · exact hnot hcover
      · exact hfits e hcheck hmath

end

end LendingPoolStorage

namespace World

section

variable [Pendzl] {w w' : World} {env : Env} {x toRepay toTake : AccountId}
  {amount minimum : ℕ}

/-- What passing the guard says about the check. -/
lemma ensureUndercollateralized_ok (h : w.ensureUndercollateralized env x = .ok ()) :
    ∃ e, w.pool.ensureCollateralizedByAccount env x = .error (.err e) := by
  rw [ensureUndercollateralized] at h
  split at h
  · cases h
  · exact ⟨_, ‹_›⟩
  · cases h

/-- A liquidation runs its guard and its storage function. -/
lemma liquidate_ok (h : w.execute env (.liquidate x toRepay toTake amount minimum) = .ok w') :
    w.ensureUndercollateralized env x = .ok ()
    ∧ ∃ res, w.pool.accountForLiquidate env env.caller x toRepay toTake amount
        env.blockTimestamp = .ok res := by
  simp only [execute, mapErr_eq_ok, liquidate, bind_eq_ok] at h
  obtain ⟨_, ⟨_, hguard, res, hres, _⟩, _⟩ := h
  exact ⟨hguard, res, hres⟩

/-- A liquidation that succeeds found the prices. -/
lemma liquidate_prices (h : w.execute env (.liquidate x toRepay toTake amount minimum) = .ok w') :
    ∃ prices, w.pool.getAssetsPricesE18 env = .ok prices := by
  obtain ⟨-, res, hres⟩ := liquidate_ok h
  obtain ⟨r, -⟩ := LendingPoolStorage.accountForLiquidate_ok hres
  obtain ⟨prices, -, -, hprices, -⟩ := r.amountToTake_eq
  obtain ⟨rd, i, e, -, hmid⟩ := r.mid_eq
  rw [hmid] at hprices
  exact ⟨prices, hprices⟩

/-- **A liquidation acts on an actual shortfall exactly when the check of the account
can be evaluated**: its market rule covers its active assets, and the interests that are due,
the values and the sums of the check fit. -/
theorem liquidate_shortfall_iff
    (h : w.execute env (.liquidate x toRepay toTake amount minimum) = .ok w') :
    (∃ d, w.pool.calculateLendingPowerOfAnAccountE6 env x = .ok (false, d))
    ↔ w.pool.RulesCover x ∧ w.pool.CheckFitsOf env x := by
  constructor
  · rintro ⟨d, hd⟩
    exact ⟨LendingPoolStorage.calculateLendingPowerOfAnAccountE6_rulesCover hd,
      LendingPoolStorage.checkFitsOf_of_ok hd⟩
  · rintro ⟨hcover, hfits⟩
    obtain ⟨e, he⟩ := ensureUndercollateralized_ok (liquidate_ok h).1
    rw [LendingPoolStorage.ensureCollateralizedByAccount_eq] at he
    cases hpower : w.pool.calculateLendingPowerOfAnAccountE6 env x with
    | ok power =>
        obtain ⟨covered, d⟩ := power
        rw [hpower, ok_bind] at he
        cases covered with
        | false => exact ⟨d, rfl⟩
        | true => cases he
    | error fault =>
        -- the guard passed on an error of the check itself
        rw [hpower, error_bind, Except.error.injEq] at he
        subst he
        obtain ⟨prices, hprices⟩ := liquidate_prices h
        exact absurd hpower (hfits.not_error hcover hprices e)

end

attribute [local instance] Pendzl.exact in
/-- A liquidation in the sample pool after a change of the prices. -/
theorem liquidate_shortfall_short :
    ∃ w w', Sample.world.run Sample.borrower = some w
      ∧ w.execute (Sample.doubledEnv (Sample.account 5) 2)
          (.liquidate (Sample.account 3) (Sample.account 100) (Sample.account 101) 100 0) = .ok w'
      ∧ w.pool.RulesCover (Sample.account 3) := by
  have hrun : (Sample.world.run Sample.borrower).map (fun w =>
        ((w.execute (Sample.doubledEnv (Sample.account 5) 2)
          (.liquidate (Sample.account 3) (Sample.account 100) (Sample.account 101) 100 0)).isOk,
        w.pool.calculateLendingPowerOfAnAccountE6 (Sample.doubledEnv (Sample.account 5) 2)
          (Sample.account 3))) = some (true, .ok (false, 500)) := by
    decide +kernel
  obtain ⟨w, hw, hv⟩ := Option.map_eq_some_iff.mp hrun
  obtain ⟨hok, hpower⟩ := Prod.mk.inj hv
  obtain ⟨w', hex⟩ := isOk_eq_true.mp hok
  exact ⟨w, w', hw, hex, ((liquidate_shortfall_iff hex).mp ⟨500, hpower⟩).1⟩

/-- The messages after which the check of `account 3` cannot be evaluated: it marked the
second asset before it had a deposit there, chose a market rule without that asset, and
somebody else then deposited the asset on its behalf. -/
def unassessedMessages : List (Env × Message) := Sample.setup ++ [
  (Sample.env Sample.admin 0, .addMarketRule [some Sample.rules, none]),
  Sample.send 3 1 fun a => .deposit (Sample.account 100) a 1000,
  Sample.send 3 1 fun _ => .setAsCollateral (Sample.account 100) true,
  Sample.send 3 1 fun _ => .setAsCollateral (Sample.account 101) true,
  Sample.send 3 1 fun _ => .chooseMarketRule 1,
  Sample.send 3 1 fun a => .borrow (Sample.account 100) a 100,
  Sample.send 4 1 fun _ => .deposit (Sample.account 101) (Sample.account 3) 1]

attribute [local instance] Pendzl.exact in
/-- **An account without a shortfall is liquidated**: the deposit of one unit by somebody
else made its check unevaluable, although its collateral covers its debt. -/
theorem liquidate_unassessed :
    ∃ w w', Sample.world.run unassessedMessages = some w
      ∧ Reachable (fun _ => True) 1 w
      ∧ w.execute (Sample.env (Sample.account 5) 2)
          (.liquidate (Sample.account 3) (Sample.account 100) (Sample.account 100) 50 0) = .ok w'
      ∧ w.pool.calculateLendingPowerOfAnAccountE6 (Sample.env (Sample.account 5) 2)
          (Sample.account 3) = .error (.err .ruleCollateralDisable)
      ∧ ¬∃ d, w.pool.calculateLendingPowerOfAnAccountE6 (Sample.env (Sample.account 5) 2)
          (Sample.account 3) = .ok (false, d) := by
  have hrun : (Sample.world.run unassessedMessages).map (fun w =>
        ((w.execute (Sample.env (Sample.account 5) 2)
          (.liquidate (Sample.account 3) (Sample.account 100) (Sample.account 100) 50 0)).isOk,
        w.pool.calculateLendingPowerOfAnAccountE6 (Sample.env (Sample.account 5) 2)
          (Sample.account 3))) = some (true, .error (.err .ruleCollateralDisable)) := by
    decide +kernel
  obtain ⟨w, hw, hreach, hv⟩ :=
    run_reaches (fun _ => True) Sample.world_isInitial (by decide) hrun
  obtain ⟨hok, hpower⟩ := Prod.mk.inj hv
  obtain ⟨w', hex⟩ := isOk_eq_true.mp hok
  refine ⟨w, w', hw, hreach, hex, hpower, ?_⟩
  rintro ⟨d, hd⟩
  rw [hpower] at hd
  cases hd

end World

end AbaxLending
