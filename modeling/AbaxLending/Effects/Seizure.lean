import AbaxLending.Effects.Liquidation
import AbaxLending.Spec.Messages

/-!
What a liquidator is paid.

* `SeizureTerms`: the prices, decimal multipliers and penalties that a liquidation
  reads, all of them in the storage before the message;
* `calculateAmountToTake_le`: the exchange is rounded in favour of the liquidated account;
* `liquidate_seizes`: what is taken is worth at most what was transferred in, plus both
  penalties, and at least the minimum that the caller asked for.
-/

namespace AbaxLending

open Outcome

/-- The amount to take is worth at most the amount to repay with both penalties. -/
lemma calculateAmountToTake_le {amount priceRepay priceTake multiplierRepay multiplierTake
      penaltyRepay penaltyTake taken : ℕ}
    (h : calculateAmountToTake amount priceRepay priceTake multiplierRepay multiplierTake
      penaltyRepay penaltyTake = .ok taken) :
    taken * priceTake * multiplierRepay * E6
      ≤ amount * priceRepay * multiplierTake * (E6 + penaltyRepay + penaltyTake) := by
  simp only [calculateAmountToTake, bind_eq_ok, unwrap_eq_ok, okOr_eq_ok, checkedMul_eq_some,
    checkedAdd_eq_some, trapIf_eq_ok, tryFrom_eq_some] at h
  obtain ⟨_, ⟨rfl, _⟩, _, ⟨rfl, _⟩, _, ⟨rfl, _⟩, _, ⟨rfl, _⟩, _, ⟨rfl, _⟩, _, ⟨rfl, _⟩, _, ⟨rfl, _⟩,
    _, -, rfl, -⟩ := h
  have hle := Nat.div_mul_le_self
    (amount * priceRepay * multiplierTake * (penaltyRepay + penaltyTake + E6))
    (priceTake * multiplierRepay * E6)
  calc _ = _ / (priceTake * multiplierRepay * E6) * (priceTake * multiplierRepay * E6) := by ring
    _ ≤ amount * priceRepay * multiplierTake * (penaltyRepay + penaltyTake + E6) := hle
    _ = _ := by ring

namespace LendingPoolStorage

/-- The terms on which an account is liquidated: the ids of both assets, and the prices,
the decimal multipliers and the penalties of both under the market rule of the account. -/
structure SeizureTerms (s : LendingPoolStorage) (env : Env)
    (liquidated assetToRepay assetToTake : AccountId) where
  repayId : ℕ
  takeId : ℕ
  pricesE18 : List ℕ
  rule : MarketRule
  priceRepay : ℕ
  priceTake : ℕ
  multiplierRepay : ℕ
  multiplierTake : ℕ
  penaltyRepay : ℕ
  penaltyTake : ℕ
  registeredRepay : s.assetToId.get assetToRepay = some repayId
  registeredTake : s.assetToId.get assetToTake = some takeId
  prices_eq : s.getAssetsPricesE18 env = .ok pricesE18
  priceRepay_eq : pricesE18[repayId]? = some priceRepay
  priceTake_eq : pricesE18[takeId]? = some priceTake
  multiplierRepay_eq : s.getDecimalMultiplier repayId = .ok multiplierRepay
  multiplierTake_eq : s.getDecimalMultiplier takeId = .ok multiplierTake
  rule_eq : s.getMarketRule (s.getAccountConfig liquidated) = .ok rule
  penaltyRepay_eq : getPenalty rule repayId = .ok penaltyRepay
  penaltyTake_eq : getPenalty rule takeId = .ok penaltyTake

/-- The quote of a liquidation reads the stored terms. -/
lemma Liquidation.terms [Pendzl] {s : LendingPoolStorage} {env : Env}
    {caller liquidated assetToRepay assetToTake : AccountId} {amount t : ℕ}
    (r : Liquidation s env caller liquidated assetToRepay assetToTake amount t) :
    ∃ q : SeizureTerms s env liquidated assetToRepay assetToTake,
      calculateAmountToTake r.paid.amount q.priceRepay q.priceTake q.multiplierRepay
        q.multiplierTake q.penaltyRepay q.penaltyTake = .ok r.amountToTake := by
  obtain ⟨prices, priceRepay, priceTake, hprices, hrepay, htake, hquote⟩ := r.amountToTake_eq
  obtain ⟨rd, i, e, -, hmid⟩ := r.mid_eq
  -- between the two reserve actions only a reserve and the ring were written
  rw [hmid] at hprices hquote
  simp only [calculateLiquidatedAmountAndEnsureCollateralized, bind_eq_ok, okOr_eq_ok] at hquote
  obtain ⟨config, hconfig, -, -, -, -, multiplierRepay, hmr, multiplierTake, hmt, rule, hrule,
    penaltyRepay, hpr, penaltyTake, hpt, hamount⟩ := hquote
  have hstored : s.getAccountConfig liquidated = config := by
    have hget : s.accountConfigs.get liquidated = some config := hconfig
    rw [getAccountConfig, hget, Option.getD_some]
  exact ⟨{ repayId := r.repayId, takeId := r.k, pricesE18 := prices, rule, priceRepay, priceTake,
           multiplierRepay, multiplierTake, penaltyRepay, penaltyTake,
           registeredRepay := r.registeredRepay, registeredTake := r.registeredTake,
           prices_eq := hprices, priceRepay_eq := hrepay, priceTake_eq := htake,
           multiplierRepay_eq := hmr, multiplierTake_eq := hmt, rule_eq := hstored ▸ hrule,
           penaltyRepay_eq := hpr, penaltyTake_eq := hpt }, hamount⟩

end LendingPoolStorage

namespace World

/-- What is promised of a liquidation that returns the amounts `repaid` and `taken`. -/
structure Seizes [Pendzl] (w w' : World) (env : Env)
    (liquidated assetToRepay assetToTake : AccountId) (minimum repaid taken : ℕ) : Prop where
  transferredIn : ∃ k, w.pool.assetToId.get assetToRepay = some k
    ∧ w'.calls = w.calls ++ [(assetToRepay,
        if w.pool.interestRateModel.contains k = true
        then .transferFrom env.caller w.poolAddress repaid else .burn env.caller repaid)]
  debt : ∃ b, w.pool.accountDebtOf env assetToRepay liquidated env.blockTimestamp = .ok b
    ∧ repaid ≤ b
  deposit : ∃ d, w.pool.accountDepositOf env assetToTake liquidated env.blockTimestamp = .ok d
    ∧ taken ≤ d
  value : ∃ q : w.pool.SeizureTerms env liquidated assetToRepay assetToTake,
    taken * q.priceTake * q.multiplierRepay * 10 ^ 6
      ≤ repaid * q.priceRepay * q.multiplierTake * (10 ^ 6 + q.penaltyRepay + q.penaltyTake)
  minimum : minimum * repaid ≤ taken * 10 ^ 18

section

variable [Pendzl] {w w' : World} {env : Env} {x toRepay toTake : AccountId}
  {amount minimum repaid taken : ℕ}

/-- What a liquidation does to the world around the pool: it collects the repaid amount, and
emits events. -/
lemma liquidate_eq_ok (h : w.liquidate env x toRepay toTake amount minimum
      = .ok (w', repaid, taken)) :
    ∃ res w₁ events, w.pool.accountForLiquidate env env.caller x toRepay toTake amount
        env.blockTimestamp = .ok res
      ∧ repaid = res.amountToRepay ∧ taken = res.amountToTake
      ∧ 0 < repaid ∧ minimum ≤ taken * E18 / repaid
      ∧ (w.withPool res.storage).transferIn env toRepay env.caller repaid = .ok w₁
      ∧ w' = w₁.emit events := by
  simp only [liquidate, bind_eq_ok, mulDiv_eq_ok, exactDiv, failIf_eq_ok, pure_eq, Except.ok.injEq,
    Prod.mk.injEq] at h
  obtain ⟨_, -, res, hres, _, ⟨hpos, rfl, -⟩, _, hmin, w₁, h₁, _, -, w₂, h₂, w₃, h₃, _, -, _, -, w₄,
    h₄, w₅, h₅, rfl, rfl, rfl⟩ := h
  obtain ⟨e₂, rfl⟩ := emitAbacusTokenTransferEvent_ok h₂
  obtain ⟨e₃, rfl⟩ := emitAbacusTokenTransferEvent_ok h₃
  obtain ⟨e₄, rfl⟩ := emitAbacusTokenTransferEvents_ok h₄
  obtain ⟨e₅, rfl⟩ := emitAbacusTokenTransferEvents_ok h₅
  refine ⟨res, w₁, e₂ ++ e₃ ++ e₄ ++ e₅, hres, rfl, rfl, hpos, not_lt.mp hmin, h₁, ?_⟩
  simp only [emit, List.append_assoc]

/-- **A liquidator never takes more than the repaid value plus the penalties**, and never
less than the minimum that was asked for. -/
theorem liquidate_seizes (h : w.liquidate env x toRepay toTake amount minimum
      = .ok (w', repaid, taken)) :
    Seizes w w' env x toRepay toTake minimum repaid taken := by
  obtain ⟨res, w₁, events, hres, hrepaid, htaken, hpos, hmin, hin, rfl⟩ := liquidate_eq_ok h
  obtain ⟨hassets, hmodels⟩ := LendingPoolStorage.accountForLiquidate_keeps hres
  obtain ⟨r, rfl⟩ := LendingPoolStorage.accountForLiquidate_ok hres
  obtain ⟨b, hb, hpaid, -, -, -⟩ := r.repaid
  obtain ⟨d, _, hd, -, hfirst, -, -, -⟩ := r.taken
  obtain ⟨_, _, -, -, hsecond, -, -⟩ := r.given
  obtain ⟨q, hq⟩ := r.terms
  have hrepaid' : repaid = r.paid.amount := hrepaid
  have htaken' : taken = min r.amountToTake d := by rw [htaken, ← hfirst, ← hsecond]
  refine ⟨?_, ⟨b, hb, ?_⟩, ⟨d, hd, ?_⟩, ⟨q, ?_⟩, ?_⟩
  · obtain ⟨k, hk, hinvoke⟩ := transferIn_ok hin
    obtain ⟨balances, -, rfl⟩ := invoke_ok hinvoke
    simp only [withPool_pool] at hk hassets hmodels
    rw [hassets] at hk
    refine ⟨k, hk, ?_⟩
    simp only [emit_calls, withPool_calls, withPool_poolAddress, withPool_pool, hmodels]
  · rw [hrepaid', hpaid]
    exact Nat.min_le_right _ _
  · rw [htaken']
    exact Nat.min_le_right _ _
  · have hle : taken ≤ r.amountToTake := htaken' ▸ Nat.min_le_left _ _
    have hquote := calculateAmountToTake_le hq
    rw [← hrepaid'] at hquote
    calc taken * q.priceTake * q.multiplierRepay * 10 ^ 6
        ≤ r.amountToTake * q.priceTake * q.multiplierRepay * 10 ^ 6 := by gcongr
      _ ≤ _ := hquote
  · exact (Nat.le_div_iff_mul_le hpos).mp hmin

end

attribute [local instance] Pendzl.exact in
/-- A liquidation in the sample pool that pays `110` for `50` at twice the price. -/
theorem liquidate_seizes_sample :
    ∃ w w' repaid taken, Sample.world.run Sample.borrower = some w
      ∧ w.liquidate (Sample.doubledEnv (Sample.account 5) 2) (Sample.account 3)
          (Sample.account 100) (Sample.account 101) 50 E18 = .ok (w', repaid, taken)
      ∧ Seizes w w' (Sample.doubledEnv (Sample.account 5) 2) (Sample.account 3)
          (Sample.account 100) (Sample.account 101) E18 repaid taken := by
  have hrun : (Sample.world.run Sample.borrower).map (fun w =>
        ((w.liquidate (Sample.doubledEnv (Sample.account 5) 2) (Sample.account 3)
          (Sample.account 100) (Sample.account 101) 50 E18).toOption.map Prod.snd))
      = some (some (50, 110)) := by
    decide +kernel
  obtain ⟨w, hw, hv⟩ := Option.map_eq_some_iff.mp hrun
  obtain ⟨⟨w', repaid, taken⟩, hok, -⟩ := Option.map_eq_some_iff.mp hv
  exact ⟨w, w', repaid, taken, hw, toOption_eq_some.mp hok,
    liquidate_seizes (toOption_eq_some.mp hok)⟩

end World

end AbaxLending
