import AbaxLending.Spec.Changes

/-!
The registry of the assets and of their tokens.

Only `register_asset` touches the registry (`KeepsRegistry` for everything else), and it
gives a fresh id and two fresh token addresses.  So in every reachable world ids belong
to one asset (`IdsUnique`), and the aToken and the vToken that the pool knows for an asset
are deployed, of the right kind, and issued for that asset (`Linked`).
-/

namespace AbaxLending

open Outcome

/-- The address of the token of a kind. -/
def ReserveAbacusTokens.address (self : ReserveAbacusTokens) : TokenKind → AccountId
  | .aToken => self.aTokenAddress
  | .vToken => self.vTokenAddress

namespace LendingPoolStorage

variable {s s' : LendingPoolStorage}

/-- Ids are given out in order, each to one asset. -/
structure IdsUnique (s : LendingPoolStorage) : Prop where
  below : ∀ asset k, s.assetToId.get asset = some k → k < s.assetCount
  inj : ∀ asset asset' k, s.assetToId.get asset = some k → s.assetToId.get asset' = some k →
    asset = asset'

lemma IdsUnique.new : IdsUnique LendingPoolStorage.new where
  below asset k h := by cases h
  inj asset asset' k h := by cases h

/-- Only the ids matter. -/
lemma IdsUnique.keepsRegistry (h : IdsUnique s) (hk : KeepsRegistry s s') : IdsUnique s' := by
  refine ⟨fun asset k hasset => ?_, fun asset asset' k hasset hasset' => ?_⟩
  · rw [assetCount, hk.nextAssetId]
    exact h.below asset k (hk.assetToId ▸ hasset)
  · exact h.inj asset asset' k (hk.assetToId ▸ hasset) (hk.assetToId ▸ hasset')

/-- A registered asset gets the next id, which no asset has. -/
lemma IdsUnique.registers {asset : AccountId} (h : IdsUnique s) (hr : Registers s s' asset) :
    IdsUnique s' := by
  have hcount := hr.assetCount
  have hold : ∀ b k, b ≠ asset → s'.assetToId.get b = some k → s.assetToId.get b = some k := by
    intro b k hb hk
    rwa [hr.assetToId, Mapping.get_insert_of_ne _ hb] at hk
  have hnew : ∀ k, s'.assetToId.get asset = some k → k = s.assetCount := by
    intro k hk
    rw [hr.assetToId, Mapping.get_insert_self, Option.some.injEq] at hk
    exact hk.symm
  refine ⟨fun b k hb => ?_, fun b b' k hb hb' => ?_⟩
  · by_cases hba : b = asset
    · subst hba
      have := hnew k hb
      omega
    · have := h.below b k (hold b k hba hb)
      omega
  · by_cases hba : b = asset <;> by_cases hba' : b' = asset
    · rw [hba, hba']
    · subst hba
      have hk := hnew k hb
      have := h.below b' k (hold b' k hba' hb')
      omega
    · subst hba'
      have hk := hnew k hb'
      have := h.below b k (hold b k hba hb)
      omega
    · exact h.inj b b' k (hold b k hba hb) (hold b' k hba' hb')

variable [Pendzl]

/-- An action of an account keeps the registry. -/
lemma applyAction_keepsRegistry {st st' : AccountActionsState} {feeReductions : FeeReductions}
    {t : ℕ} {action action' : Action} {interests : ℕ × ℕ}
    (h : st.applyAction feeReductions t action = .ok (st', action', interests)) :
    KeepsRegistry st.storage st'.storage := by
  obtain ⟨k, ctx, res, rd, i, e, -, -, -, -, -, -, -, rfl⟩ := AccountActionsState.applyAction_ok h
  exact ⟨rfl, rfl, rfl⟩

end LendingPoolStorage

namespace World

variable [Pendzl] {w w' : World} {env : Env} {message : Message}

omit [Pendzl] in
/-- The tokens that the pool knows are deployed for their assets. -/
structure Linked (w : World) : Prop where
  ids : w.pool.IdsUnique
  tokens : ∀ asset tokens, w.pool.reserveAbacusTokens.get asset = some tokens → ∀ kind,
    (w.tokens.get (tokens.address kind)).map AbacusToken.identity = some (kind, asset)

omit [Pendzl] in
/-- Tokens of different kinds or for different assets have different addresses. -/
lemma Linked.address_inj (h : w.Linked) {asset asset' : AccountId}
    {tokens tokens' : ReserveAbacusTokens} {kind kind' : TokenKind}
    (ht : w.pool.reserveAbacusTokens.get asset = some tokens)
    (ht' : w.pool.reserveAbacusTokens.get asset' = some tokens')
    (heq : tokens.address kind = tokens'.address kind') : kind = kind' ∧ asset = asset' := by
  have hi := h.tokens asset tokens ht kind
  rw [heq, h.tokens asset' tokens' ht' kind', Option.some.injEq, Prod.mk.injEq] at hi
  exact ⟨hi.1.symm, hi.2.symm⟩

omit [Pendzl] in
/-- Only the registry and the identities of the tokens matter. -/
lemma Linked.keeps (h : w.Linked) (hk : w.pool.KeepsRegistry w'.pool) (hstay : Stays w w') :
    w'.Linked := by
  refine ⟨h.ids.keepsRegistry hk, fun asset tokens htokens kind => hstay.tokens _ _ ?_⟩
  exact h.tokens asset tokens (hk.reserveAbacusTokens ▸ htokens) kind

omit [Pendzl] in
/-- Registering an asset links its two tokens. -/
lemma Linked.registers {asset : AccountId} {decimals depositFeeE6 debtFeeE6 : ℕ}
    {rules : AssetRules} {restrictions : ReserveRestrictions}
    {params : Option InterestRateModelParams} (h : w.Linked)
    (hr : w.registerAsset env asset decimals rules restrictions depositFeeE6 debtFeeE6 params
      = .ok w') (hs : w.pool.Registers w'.pool asset) : w'.Linked := by
  obtain ⟨tokens, hinsert, ha, hv, hstay⟩ := registerAsset_tokens hr
  refine ⟨h.ids.registers hs, fun b tokens' hb kind => ?_⟩
  rw [hinsert, Mapping.get_insert] at hb
  split_ifs at hb with hba
  · simp only [Option.some.injEq] at hb
    subst hb hba
    cases kind with
    | aToken => exact ha
    | vToken => exact hv
  · exact hstay.tokens _ _ (h.tokens b tokens' hb kind)

/-- The step lemma of the links. -/
lemma execute_linked (h : w.Linked) (hex : w.execute env message = .ok w') : w'.Linked := by
  obtain ⟨hstep, hstay⟩ := execute_frame hex
  cases message with
  | registerAsset asset decimals rules restrictions depositFeeE6 debtFeeE6 params =>
      obtain ⟨s₁, s₂, multiplier, tokens, h₁, h₂, h₃⟩ := hstep
      simp only [execute, mapErr_eq_ok] at hex
      exact h.registers hex (LendingPoolStorage.register_ok h₁ h₂ h₃).1
  | _ => exact h.keeps (execute_keepsRegistry hex rfl) hstay

/-- **In every reachable world the registry is linked to the tokens.** -/
theorem reachable_linked {kind : Message → Prop} {t : ℕ} (h : Reachable kind t w) : w.Linked := by
  refine TimedRun.Reach.invariant (P := Linked) (fun w hw => ?_) (fun t w w' hP hstep => ?_) h
  · obtain ⟨hpool, -⟩ := hw
    refine ⟨hpool ▸ .new, fun asset tokens htokens => ?_⟩
    rw [hpool] at htokens
    cases htokens
  · obtain ⟨env, message, -, -, hex⟩ := hstep
    exact execute_linked hP hex

end World

end AbaxLending
