import AbaxLending.Pool.Manage
import AbaxLending.Spec.Reserve

/-!
What the storage functions behind the maintenance and the management messages do.

There is one lemma for each function: what it read, what it checked, and the storage that it
leaves as an update of the old one.  Invariants are proved from these lemmas, and nothing
below this module unfolds the functions.

* `accountForAccumulateInterest_ok`, `accountForSetAsCollateral_ok`,
  `accountForMarketRuleChange_ok`: the messages that everybody may send;
* `accountForChangingActivity_ok` to `accountForStablecoinDebtRateE18Change_ok`: the changes
  of one reserve;
* `accountForAddMarketRule_ok`, `accountForAssetRuleChange_ok`: the changes of the rules;
* `takeProtocolIncome_ok`: the loop over the incomes;
* `register_storage`: the three steps of a registration.
-/

namespace AbaxLending

open Outcome

namespace LendingPoolStorage

variable {s s' : LendingPoolStorage} {account asset : AccountId} {t : ℕ}

/-! ### Messages of everybody -/

/-- What a poke does: it is the opening of a reserve action, with the rates recalculated. -/
lemma accountForAccumulateInterest_ok [Pendzl]
    (h : s.accountForAccumulateInterest asset t = .ok s') :
    ∃ k rd r indexes rd' i e, s.assetToId.get asset = some k ∧ s.reserveDatas.get k = some rd
      ∧ s.reserveIndexesAndFees.get k = some r
      ∧ s.storeUtilizationRateSnapshot k rd t = .ok (s.withRing i e)
      ∧ r.indexes.update rd t = .ok indexes ∧ (s.withRing i e).recalculateRates k rd = .ok rd'
      ∧ s' = (s.withRing i e).putReserve k rd' { r with indexes } := by
  simp only [accountForAccumulateInterest, assetId, getReserveData, getReserveIndexesAndFees,
    bind_eq_ok, okOr_eq_ok, unwrap_eq_ok, pure_eq, Except.ok.injEq] at h
  obtain ⟨k, hk, rd, hrd, r, hr, s₁, hs₁, indexes, hindexes, rd', hrates, rfl⟩ := h
  obtain ⟨i, e, rfl⟩ := storeUtilizationRateSnapshot_ok hs₁
  exact ⟨k, rd, r, indexes, rd', i, e, hk, hrd, hr, hs₁, hindexes, hrates, rfl⟩

/-- The choice of a collateral writes the collateral bits. -/
lemma accountForSetAsCollateral_ok {use : Bool}
    (h : s.accountForSetAsCollateral account asset use = .ok s') :
    ∃ collaterals, s' = s.putConfig account { s.getAccountConfig account with collaterals } := by
  simp only [accountForSetAsCollateral, bind_eq_ok] at h
  obtain ⟨_, -, _, -, _, -, _, -, _, -, h⟩ := h
  split_ifs at h <;> simp only [bind_eq_ok, pure_eq, Except.ok.injEq] at h
  · obtain ⟨_, -, _, -, rfl⟩ := h
    exact ⟨_, rfl⟩
  · obtain ⟨_, -, rfl⟩ := h
    exact ⟨_, rfl⟩

/-- The choice of a market rule writes its id. -/
lemma accountForMarketRuleChange_ok {marketRuleId : ℕ}
    (h : s.accountForMarketRuleChange account marketRuleId = .ok s') :
    s' = s.putConfig account { s.getAccountConfig account with marketRuleId } := by
  simp only [accountForMarketRuleChange, bind_eq_ok, pure_eq, Except.ok.injEq] at h
  obtain ⟨_, -, hs⟩ := h
  exact hs.symm

/-! ### Changes of one reserve -/

/-- What the activity switch does. -/
lemma accountForChangingActivity_ok {active : Bool}
    (h : s.accountForChangingActivity asset active = .ok s') :
    ∃ k rd, s.assetToId.get asset = some k ∧ s.reserveDatas.get k = some rd
      ∧ rd.activated = !active ∧ s' = s.putReserveData k { rd with activated := active } := by
  simp only [accountForChangingActivity, assetId, getReserveData, ReserveData.setIsActive,
    bind_eq_ok, okOr_eq_ok, unwrap_eq_ok, failIf_eq_ok, pure_eq, Except.ok.injEq] at h
  obtain ⟨k, hk, rd, hrd, _, ⟨_, hne, rfl⟩, rfl⟩ := h
  exact ⟨k, rd, hk, hrd, Bool.eq_not.mpr hne, rfl⟩

/-- What the freeze switch does: it writes to `activated`. -/
lemma accountForChangingIsFrozen_ok {frozen : Bool}
    (h : s.accountForChangingIsFrozen asset frozen = .ok s') :
    ∃ k rd, s.assetToId.get asset = some k ∧ s.reserveDatas.get k = some rd
      ∧ rd.frozen = !frozen ∧ s' = s.putReserveData k { rd with activated := frozen } := by
  simp only [accountForChangingIsFrozen, assetId, getReserveData, ReserveData.setIsFrozen,
    bind_eq_ok, okOr_eq_ok, unwrap_eq_ok, failIf_eq_ok, pure_eq, Except.ok.injEq] at h
  obtain ⟨k, hk, rd, hrd, _, ⟨_, hne, rfl⟩, rfl⟩ := h
  exact ⟨k, rd, hk, hrd, Bool.eq_not.mpr hne, rfl⟩

/-- New restrictions. -/
lemma accountForReserveRestricitionsChange_ok {restrictions : ReserveRestrictions}
    (h : s.accountForReserveRestricitionsChange asset restrictions = .ok s') :
    ∃ k, s.assetToId.get asset = some k
      ∧ s' = { s with reserveRestrictions := s.reserveRestrictions.insert k restrictions } := by
  simp only [accountForReserveRestricitionsChange, assetId, bind_eq_ok, okOr_eq_ok, pure_eq,
    Except.ok.injEq] at h
  obtain ⟨k, hk, rfl⟩ := h
  exact ⟨k, hk, rfl⟩

/-- A new model: the indexes are brought to the time with the old rates, and the rates are
recalculated with the new model. -/
lemma accountForInterestRateModelChange_ok [Pendzl] {model : InterestRateModel}
    (h : s.accountForInterestRateModelChange asset model t = .ok s') :
    ∃ k rd r indexes rd', s.assetToId.get asset = some k ∧ s.reserveDatas.get k = some rd
      ∧ s.reserveIndexesAndFees.get k = some r ∧ r.indexes.update rd t = .ok indexes
      ∧ rd.recalculateCurrentRates model = .ok rd'
      ∧ s' = ({ s with interestRateModel := s.interestRateModel.insert k model } :
        LendingPoolStorage).putReserve k rd' { r with indexes } := by
  simp only [accountForInterestRateModelChange, assetId, getReserveData, getReserveIndexesAndFees,
    bind_eq_ok, okOr_eq_ok, unwrap_eq_ok, pure_eq, Except.ok.injEq] at h
  obtain ⟨k, hk, _, -, rd, hrd, r, hr, indexes, hup, rd', hrates, rfl⟩ := h
  exact ⟨k, rd, r, indexes, rd', hk, hrd, hr, hup, hrates, rfl⟩

/-- New fees: the earned fee is replaced with the others. -/
lemma accountForReserveFeesChange_ok {fees : ReserveFees}
    (h : s.accountForReserveFeesChange asset fees = .ok s') :
    ∃ k r, s.assetToId.get asset = some k ∧ s.reserveIndexesAndFees.get k = some r
      ∧ s' = s.putIndexesAndFees k { r with fees } := by
  simp only [accountForReserveFeesChange, assetId, getReserveIndexesAndFees, bind_eq_ok,
    okOr_eq_ok, unwrap_eq_ok, pure_eq, Except.ok.injEq] at h
  obtain ⟨k, hk, _, -, r, hr, rfl⟩ := h
  exact ⟨k, r, hk, hr, rfl⟩

/-- A new stablecoin rate: the indexes are not brought to any time. -/
lemma accountForStablecoinDebtRateE18Change_ok {rate : ℕ}
    (h : s.accountForStablecoinDebtRateE18Change asset rate = .ok s') :
    ∃ k rd, s.assetToId.get asset = some k ∧ s.reserveDatas.get k = some rd
      ∧ s' = s.putReserveData k { rd with currentDebtRateE18 := rate } := by
  simp only [accountForStablecoinDebtRateE18Change, assetId, getReserveData, bind_eq_ok,
    okOr_eq_ok, unwrap_eq_ok, pure_eq, Except.ok.injEq] at h
  obtain ⟨k, hk, _, -, rd, hrd, rfl⟩ := h
  exact ⟨k, rd, hk, hrd, rfl⟩

/-! ### Changes of the rules -/

/-- A market rule is added under the next id. -/
lemma accountForAddMarketRule_ok {rule : MarketRule} {id : ℕ}
    (h : s.accountForAddMarketRule rule = .ok (s', id)) :
    s' = { s with
      marketRules := s.marketRules.insert (s.nextRuleId.getD 0) rule
      nextRuleId := some (s.nextRuleId.getD 0 + 1) } := by
  simp only [accountForAddMarketRule, bind_eq_ok, unwrap_eq_ok, checkedAdd_eq_some, pure_eq,
    Except.ok.injEq, Prod.mk.injEq] at h
  obtain ⟨_, ⟨rfl, -⟩, rfl, -⟩ := h
  rfl

/-- A change of rules writes one market rule. -/
lemma accountForAssetRuleChange_ok {id : ℕ} {rules : AssetRules}
    (h : s.accountForAssetRuleChange id asset rules = .ok s') :
    ∃ rule, s' = { s with marketRules := s.marketRules.insert id rule } := by
  simp only [accountForAssetRuleChange, bind_eq_ok, pure_eq, Except.ok.injEq] at h
  obtain ⟨_, -, _, -, _, -, _, -, _, -, rfl⟩ := h
  exact ⟨_, rfl⟩

/-! ### Protocol income -/

/-- The loop over the incomes writes the reserves with their fees taken, and nothing else. -/
lemma takeProtocolIncome_ok {assets : List AccountId} {incomes : List (AccountId × ℕ)}
    (h : s.takeProtocolIncome assets = .ok (s', incomes)) :
    ∃ reserves, s' = { s with reserveIndexesAndFees := reserves } := by
  induction assets generalizing s incomes with
  | nil =>
      simp only [takeProtocolIncome, Except.ok.injEq, Prod.mk.injEq] at h
      exact ⟨s.reserveIndexesAndFees, h.1.symm⟩
  | cons asset rest ih =>
      simp only [takeProtocolIncome, bind_eq_ok, pure_eq, Except.ok.injEq, Prod.mk.injEq] at h
      obtain ⟨k, -, r, -, ⟨s₁, _⟩, h₁, rfl, -⟩ := h
      obtain ⟨reserves, hs⟩ := ih h₁
      exact ⟨reserves, hs⟩

/-! ### Registration -/

/-- The storage after the three steps of a registration. -/
lemma register_storage {restrictions : ReserveRestrictions} {multiplier : ℕ} {fees : ReserveFees}
    {model : Option InterestRateModel} {tokens : ReserveAbacusTokens} {rules : AssetRules}
    {s₁ s₂ : LendingPoolStorage}
    (h₁ : s.accountForRegisterAsset asset ReserveData.initial restrictions multiplier fees model t
      = .ok s₁)
    (h₂ : s₁.accountForSetAbacusTokens asset tokens = .ok s₂)
    (h₃ : s₂.accountForAssetRuleChange 0 asset rules = .ok s') :
    s.assetToId.contains asset = false ∧ ∃ rule, s' = { s with
      assetToId := s.assetToId.insert asset s.assetCount
      idToAsset := s.idToAsset.insert s.assetCount asset
      reserveDatas := s.reserveDatas.insert s.assetCount ReserveData.initial
      reserveRestrictions := s.reserveRestrictions.insert s.assetCount restrictions
      reserveDecimalMultiplier := s.reserveDecimalMultiplier.insert s.assetCount multiplier
      reserveIndexesAndFees :=
        s.reserveIndexesAndFees.insert s.assetCount (ReserveIndexesAndFees.new t fees)
      twUrIndexes := s.twUrIndexes.insert s.assetCount TwIndex.new
      interestRateModel :=
        match model with
        | some model => s.interestRateModel.insert s.assetCount model
        | none => s.interestRateModel
      nextAssetId := some (s.assetCount + 1)
      reserveAbacusTokens := s.reserveAbacusTokens.insert asset tokens
      marketRules := s.marketRules.insert 0 rule } := by
  simp only [accountForRegisterAsset, bind_eq_ok, failIf_eq_ok, okOr_eq_ok, checkedAdd_eq_some,
    pure_eq, Except.ok.injEq] at h₁
  obtain ⟨_, hfresh, _, ⟨rfl, -⟩, rfl⟩ := h₁
  simp only [accountForSetAbacusTokens, bind_eq_ok, pure_eq, Except.ok.injEq] at h₂
  obtain ⟨_, -, rfl⟩ := h₂
  obtain ⟨rule, rfl⟩ := accountForAssetRuleChange_ok h₃
  refine ⟨by simpa using hfresh, rule, ?_⟩
  cases model <;> rfl

end LendingPoolStorage

end AbaxLending
