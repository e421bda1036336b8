import AbaxLending.Contract.Run
import AbaxLending.Spec.Manage
import AbaxLending.Spec.Power

/-!
The collateral check and `accumulate_interest`.

The check accrues every active asset with the indexes as they are stored; a poke of
`accumulate_interest` stores newer ones.  A poke touches the indexes of its asset only
(`accountForAccumulateInterest_ok`), so the check of an account is the same after any
pokes of assets that are not active for it, or whose indexes would not move
(`UpToDate`): `pokes_keep_check`.  Poking a stale active asset can change the result
(`poke_changes_check`).
-/

namespace AbaxLending

open Outcome

namespace LendingPoolStorage

/-- An asset whose two indexes would not change when they are brought to a time. -/
def UpToDate [Pendzl] (s : LendingPoolStorage) (k t : ℕ) : Prop :=
  ∃ rd r indexes, s.reserveDatas.get k = some rd ∧ s.reserveIndexesAndFees.get k = some r
    ∧ r.indexes.update rd t = .ok indexes
    ∧ indexes.depositIndexE18 = r.indexes.depositIndexE18
    ∧ indexes.debtIndexE18 = r.indexes.debtIndexE18

/-- An asset that the check of an account works on. -/
def ActiveFor (s : LendingPoolStorage) (account : AccountId) (k : ℕ) : Prop :=
  ActiveIn (s.getAccountConfig account) (s.getAccountDatas account) k

/-- A list of assets poked at one time. -/
def pokes [Pendzl] (s : LendingPoolStorage) (assets : List AccountId) (t : ℕ) :
    Res LendingPoolStorage :=
  assets.foldlM (fun s asset => s.accountForAccumulateInterest asset t) s

section

variable [Pendzl] {s s' : LendingPoolStorage} {env : Env} {account asset : AccountId} {k t : ℕ}

/-- What pokes keep of a storage, as far as the check of an account is concerned. -/
structure PokeFrame (s s' : LendingPoolStorage) (account : AccountId) (t : ℕ) : Prop where
  pricing : SamePricing s s'
  assetToId : s'.assetToId = s.assetToId
  datas : s'.accountReserveDatas = s.accountReserveDatas
  configs : s'.accountConfigs = s.accountConfigs
  feeReductionProvider : s'.feeReductionProvider = s.feeReductionProvider
  accrualPart : ∀ j, s.ActiveFor account j → s'.accrualPart j = s.accrualPart j
  upToDate : ∀ j, s.UpToDate j t → s'.UpToDate j t

/-- A poke keeps the other reserves up to date, and leaves its own one up to date. -/
lemma poke_upToDate (h : s.accountForAccumulateInterest asset t = .ok s') (j : ℕ)
    (hj : s.UpToDate j t) : s'.UpToDate j t := by
  obtain ⟨k, rd, r, indexes, rd', i, e, -, -, -, -, hindexes, -, rfl⟩ :=
    accountForAccumulateInterest_ok h
  by_cases hjk : j = k
  · subst hjk
    exact ⟨rd', { r with indexes }, indexes, Mapping.get_insert_self .., Mapping.get_insert_self ..,
      ReserveIndexes.update_again hindexes rd', rfl, rfl⟩
  · obtain ⟨rd₁, r₁, indexes₁, hrd₁, hr₁, hupdate⟩ := hj
    exact ⟨rd₁, r₁, indexes₁, (Mapping.get_insert_of_ne _ hjk _).trans hrd₁,
      (Mapping.get_insert_of_ne _ hjk _).trans hr₁, hupdate⟩

/-- A poke keeps what an accrual reads of a reserve that it does not touch, or that is up
to date. -/
lemma poke_accrualPart (h : s.accountForAccumulateInterest asset t = .ok s') (j : ℕ)
    (hj : s.assetToId.get asset = some j → s.UpToDate j t) :
    s'.accrualPart j = s.accrualPart j := by
  obtain ⟨k, rd, r, indexes, rd', i, e, hk, hrd, hr, -, hindexes, -, rfl⟩ :=
    accountForAccumulateInterest_ok h
  by_cases hjk : j = k
  · subst hjk
    obtain ⟨rd₁, r₁, indexes₁, hrd₁, hr₁, hupdate, hd, hb⟩ := hj hk
    cases hrd.symm.trans hrd₁
    cases hr.symm.trans hr₁
    cases hindexes.symm.trans hupdate
    simp only [accrualPart, putReserve_reserveIndexesAndFees, Mapping.get_insert_self,
      Option.map_some, hr, hd, hb]
  · simp only [accrualPart, putReserve_reserveIndexesAndFees, withRing_reserveIndexesAndFees,
      Mapping.get_insert_of_ne _ hjk]

/-- The run lemma of pokes. -/
lemma pokes_frame {assets : List AccountId} (h : s.pokes assets t = .ok s')
    (hfresh : ∀ asset ∈ assets, ∀ k, s.assetToId.get asset = some k → s.ActiveFor account k →
      s.UpToDate k t) : PokeFrame s s' account t := by
  refine foldlM_induct (fun s₁ => PokeFrame s s₁ account t) (fun s₁ asset s₂ hmem hs₁ hpoke => ?_)
    ⟨.refl, rfl, rfl, rfl, rfl, fun _ _ => rfl, fun _ h => h⟩ h
  have hpart : ∀ j, s.ActiveFor account j → s₂.accrualPart j = s₁.accrualPart j := by
    intro j hactive
    refine poke_accrualPart hpoke j fun hj => hs₁.upToDate j ?_
    exact hfresh asset hmem j (hs₁.assetToId ▸ hj) hactive
  have hdate := poke_upToDate hpoke
  obtain ⟨k, rd, r, indexes, rd', i, e, -, -, -, -, -, -, rfl⟩ :=
    accountForAccumulateInterest_ok hpoke
  exact ⟨hs₁.pricing.trans ⟨rfl, rfl, rfl, rfl, rfl⟩, hs₁.assetToId, hs₁.datas, hs₁.configs,
    hs₁.feeReductionProvider, fun j hactive => (hpart j hactive).trans (hs₁.accrualPart j hactive),
    fun j hj => hdate j (hs₁.upToDate j hj)⟩

/-- The check of an account is the same in two storages that agree on what it reads. -/
lemma PokeFrame.check (h : PokeFrame s s' account t) :
    s'.calculateLendingPowerOfAnAccountE6 env account
      = s.calculateLendingPowerOfAnAccountE6 env account := by
  have hdatas : s'.getAccountDatas account = s.getAccountDatas account := by
    rw [getAccountDatas_congr h.datas h.pricing.nextAssetId]
  have hconfig : s'.getAccountConfig account = s.getAccountConfig account := by
    rw [getAccountConfig_congr h.configs]
  have hreductions : s'.getFeeReductionsOfAccount env account
      = s.getFeeReductionsOfAccount env account := by
    rw [getFeeReductionsOfAccount, getFeeReductionsOfAccount, h.feeReductionProvider]
  rw [calculateLendingPowerOfAnAccountE6, calculateLendingPowerOfAnAccountE6,
    getAssetsPricesE18_congr h.pricing rfl, hdatas, hconfig, hreductions]
  simp only [calculateLendingPowerE6_congr h.pricing h.accrualPart]

/-- **Pokes of assets that are up to date or not active for an account keep its check**,
and with it whether the account can be liquidated. -/
theorem pokes_keep_check {assets : List AccountId} (h : s.pokes assets t = .ok s')
    (hfresh : ∀ asset ∈ assets, ∀ k, s.assetToId.get asset = some k → s.ActiveFor account k →
      s.UpToDate k t) :
    s'.calculateLendingPowerOfAnAccountE6 env account
      = s.calculateLendingPowerOfAnAccountE6 env account
    ∧ s'.ensureCollateralizedByAccount env account
      = s.ensureCollateralizedByAccount env account := by
  have hcheck : s'.calculateLendingPowerOfAnAccountE6 env account
      = s.calculateLendingPowerOfAnAccountE6 env account := (pokes_frame h hfresh).check
  refine ⟨hcheck, ?_⟩
  rw [ensureCollateralizedByAccount_eq, ensureCollateralizedByAccount_eq, hcheck]

end

attribute [local instance] Pendzl.exact in
/-- Poking the collateral of the sample borrower, which nobody borrowed, keeps its check. -/
theorem pokes_keep_check_sample :
    ∃ w s', Sample.world.run Sample.borrower = some w
      ∧ w.pool.pokes [Sample.account 101] (10 ^ 6) = .ok s'
      ∧ s'.calculateLendingPowerOfAnAccountE6 (Sample.env (Sample.account 5) (10 ^ 6))
          (Sample.account 3) = .ok (true, 0) := by
  have hrun : (Sample.world.run Sample.borrower).map (fun w =>
        ((w.pool.pokes [Sample.account 101] (10 ^ 6)).isOk,
        w.pool.calculateLendingPowerOfAnAccountE6 (Sample.env (Sample.account 5) (10 ^ 6))
          (Sample.account 3)))
      = some (true, .ok (true, 0)) := by
    decide +kernel
  have hreserve : (Sample.world.run Sample.borrower).map (fun w =>
        (w.pool.assetToId.get (Sample.account 101),
        (w.pool.reserveDatas.get 1).map fun rd =>
          (rd.currentDepositRateE18, rd.currentDebtRateE18),
        (w.pool.reserveIndexesAndFees.get 1).map fun r => r.indexes.updateTimestamp))
      = some (some 1, some (0, 0), some 1) := by
    decide +kernel
  obtain ⟨w, hw, hv⟩ := Option.map_eq_some_iff.mp hrun
  rw [hw, Option.map_some, Option.some.injEq] at hreserve
  simp only [Prod.mk.injEq] at hv hreserve
  obtain ⟨hok, hcheck⟩ := hv
  obtain ⟨hk, hrates, htime⟩ := hreserve
  obtain ⟨s', hs'⟩ := isOk_eq_true.mp hok
  obtain ⟨rd, hrd, hrates⟩ := Option.map_eq_some_iff.mp hrates
  obtain ⟨r, hr, htime⟩ := Option.map_eq_some_iff.mp htime
  obtain ⟨hdeposit, hdebt⟩ := Prod.mk.inj hrates
  -- both rates are zero, so the indexes of the collateral do not move
  have hupdate : r.indexes.update rd (10 ^ 6)
      = .ok { r.indexes with updateTimestamp := 10 ^ 6 } := by
    simp [ReserveIndexes.update, ReserveIndexes.nextIndex, htime, hdeposit, hdebt, checkedSub, okOr]
  refine ⟨w, s', hw, hs', ?_⟩
  rw [(pokes_keep_check hs' ?_).1, hcheck]
  intro asset hasset k hk' _
  cases List.mem_singleton.mp hasset
  cases hk.symm.trans hk'
  exact ⟨rd, r, _, hrd, hr, hupdate, rfl, rfl⟩

attribute [local instance] Pendzl.exact in
/-- **A poke makes a check fail**: in a reachable state the debt of an account is covered by
the stored indexes, and no more after `accumulate_interest` of the borrowed asset. -/
theorem poke_changes_check :
    ∃ w s', World.Reachable (fun _ => True) 1 w
      ∧ w.pool.pokes [Sample.account 100] (10 ^ 6) = .ok s'
      ∧ w.pool.calculateLendingPowerOfAnAccountE6 (Sample.env (Sample.account 5) (10 ^ 6))
          (Sample.account 3) = .ok (true, 0)
      ∧ s'.calculateLendingPowerOfAnAccountE6 (Sample.env (Sample.account 5) (10 ^ 6))
          (Sample.account 3) = .ok (false, 2) := by
  have hrun : (Sample.world.run Sample.borrower).map (fun w =>
        ((w.pool.pokes [Sample.account 100] (10 ^ 6)).toOption.map fun s' =>
          s'.calculateLendingPowerOfAnAccountE6 (Sample.env (Sample.account 5) (10 ^ 6))
            (Sample.account 3),
        w.pool.calculateLendingPowerOfAnAccountE6 (Sample.env (Sample.account 5) (10 ^ 6))
          (Sample.account 3)))
      = some (some (.ok (false, 2)), .ok (true, 0)) := by
    decide +kernel
  obtain ⟨w, hw, hreach, hv⟩ :=
    World.run_reaches (fun _ => True) Sample.world_isInitial (by decide) hrun
  obtain ⟨hpoke, hcheck⟩ := Prod.mk.inj hv
  obtain ⟨s', hs', hafter⟩ := Option.map_eq_some_iff.mp hpoke
  exact ⟨w, s', hreach, toOption_eq_some.mp hs', hcheck, hafter⟩

end LendingPoolStorage

end AbaxLending
