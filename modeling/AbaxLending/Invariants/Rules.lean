import AbaxLending.Contract.Run
import AbaxLending.Spec.PowerSum
import AbaxLending.Spec.Visits

/-!
The market rules and what they permit.

A rule permits an asset as a collateral or as a debt by a coefficient (`Permits`).
`validate_new_rule` is meant to refuse an entry that lacks a coefficient of the one it
replaces, but `account_for_asset_rule_change` reads the replaced entry back after the new one
was written, so that the two are always the same and only the penalty is checked.

* `accountForAssetRuleChange_writes`: what a change of a rule does to the entries;
* `RulesSound`: no message stores an entry without a penalty, or an entry for an asset that
  is not registered;
* `execute_permits_iff`: when a message takes no permission back;
* `permissions_kept`: no permission is lost in a run whose changes of rules keep the
  coefficients that are stored.
-/

namespace AbaxLending

open Outcome

/-- What the rules of an asset can permit. -/
inductive Permission where
  | collateral
  | borrow
  deriving DecidableEq, Repr

/-- The coefficient that grants a permission. -/
def Permission.coefficient : Permission → AssetRules → Option ℕ
  | .collateral => AssetRules.collateralCoefficientE6
  | .borrow => AssetRules.borrowCoefficientE6

/-- The new rules of an asset have every coefficient that the old ones have. -/
def AssetRules.Extends (self old : AssetRules) : Prop :=
  ∀ p : Permission, p.coefficient old ≠ none → p.coefficient self ≠ none

/-- The messages that change the market rules of registered assets. -/
def Message.changesRules : Message → Bool
  | .addMarketRule _ | .modifyAssetRule _ _ _ => true
  | _ => false

/-- **What `validate_new_rule` checks**: the coefficients of the rule that it is given as the old
one, and that there is a penalty. -/
lemma AssetRules.validateNewRule_eq_ok {self : AssetRules} {old : Option AssetRules} :
    self.validateNewRule old = .ok ()
      ↔ (∀ rules, old = some rules → self.Extends rules) ∧ self.penaltyE6 ≠ none := by
  have hpenalty : ¬((self.collateralCoefficientE6.isSome ∨ self.borrowCoefficientE6.isSome)
        ∧ self.penaltyE6.isNone
      ∨ self.collateralCoefficientE6.isNone ∧ self.borrowCoefficientE6.isNone
        ∧ self.penaltyE6.isNone) ↔ self.penaltyE6 ≠ none := by
    cases self.collateralCoefficientE6 <;> cases self.borrowCoefficientE6 <;>
      cases self.penaltyE6 <;> simp
  cases old with
  | none =>
      simp only [validateNewRule, failIf_eq_ok, hpenalty]
      exact (and_iff_right nofun).symm
  | some old =>
      have hextends : self.Extends old
          ↔ ¬(old.collateralCoefficientE6.isSome ∧ self.collateralCoefficientE6.isNone)
            ∧ ¬(old.borrowCoefficientE6.isSome ∧ self.borrowCoefficientE6.isNone) := by
        have hsplit : self.Extends old
            ↔ (old.collateralCoefficientE6 ≠ none → self.collateralCoefficientE6 ≠ none)
              ∧ (old.borrowCoefficientE6 ≠ none → self.borrowCoefficientE6 ≠ none) :=
          ⟨fun h => ⟨h .collateral, h .borrow⟩, fun h p => by cases p <;> [exact h.1; exact h.2]⟩
        rw [hsplit]
        cases self.collateralCoefficientE6 <;> cases self.borrowCoefficientE6 <;>
          cases old.collateralCoefficientE6 <;> cases old.borrowCoefficientE6 <;> simp
      simp only [validateNewRule, bind_eq_ok, failIf_eq_ok, hpenalty, Option.some.injEq,
        forall_eq', hextends, exists_const, and_assoc]

namespace LendingPoolStorage

variable {s s' : LendingPoolStorage} {r k : ℕ}

/-- The stored rules of an asset in a market rule. -/
def rulesOf (s : LendingPoolStorage) (r k : ℕ) : Option AssetRules :=
  (s.marketRules.get r).bind fun rule => rule[k]?.join

/-- A stored market rule grants a permission for an asset. -/
def Permits (s : LendingPoolStorage) (p : Permission) (r k : ℕ) : Prop :=
  ∃ rules, s.rulesOf r k = some rules ∧ p.coefficient rules ≠ none

/-- The penalty of an asset in a market rule, as a liquidation reads it. -/
def penaltyAt (s : LendingPoolStorage) (r k : ℕ) : Res ℕ := do
  let rule ← unwrap (s.marketRules.get r)
  getPenalty rule k

/-- A penalty is read from the stored rules. -/
lemma penaltyAt_eq_ok {n : ℕ} :
    s.penaltyAt r k = .ok n ↔ ∃ rules, s.rulesOf r k = some rules ∧ rules.penaltyE6 = some n := by
  simp only [penaltyAt, getPenalty, rulesOf, bind_eq_ok, unwrap_eq_ok, Option.bind_eq_some_iff,
    Option.join_eq_some_iff]
  constructor
  · rintro ⟨rule, hrule, _, hentry, rules, rfl, hn⟩
    exact ⟨rules, ⟨rule, hrule, hentry⟩, hn⟩
  · rintro ⟨rules, ⟨rule, hrule, hentry⟩, hn⟩
    exact ⟨rule, hrule, _, hentry, rules, rfl, hn⟩

/-! ### Messages that set no rules -/

/-- The change keeps the market rules. -/
structure KeepsRules (s s' : LendingPoolStorage) : Prop where
  marketRules : s'.marketRules = s.marketRules
  nextRuleId : s'.nextRuleId = s.nextRuleId

lemma KeepsRules.rulesOf (h : KeepsRules s s') : s'.rulesOf = s.rulesOf := by
  funext r k
  rw [LendingPoolStorage.rulesOf, h.marketRules, LendingPoolStorage.rulesOf]

/-! ### Messages that set rules -/

/-- The rules of one asset in one market rule are written. -/
structure WritesRules (s s' : LendingPoolStorage) (r k : ℕ) (rules : AssetRules) : Prop where
  known : s.marketRules.get r ≠ none
  penalty : rules.penaltyE6 ≠ none
  rulesOf : ∀ r' j, s'.rulesOf r' j = if r' = r ∧ j = k then some rules else s.rulesOf r' j
  others : ∀ r', r' ≠ r → s'.marketRules.get r' = s.marketRules.get r'
  nextRuleId : s'.nextRuleId = s.nextRuleId

lemma WritesRules.after {s₁ : LendingPoolStorage} {rules : AssetRules} (hk : KeepsRules s s₁)
    (h : WritesRules s₁ s' r k rules) : WritesRules s s' r k rules where
  known := hk.marketRules ▸ h.known
  penalty := h.penalty
  rulesOf r' j := by rw [h.rulesOf, hk.rulesOf]
  others r' hr' := by rw [h.others r' hr', hk.marketRules]
  nextRuleId := h.nextRuleId.trans hk.nextRuleId

/-- A market rule that is extended for an asset, and written there. -/
lemma extended_join {α : Type} (rule : List (Option α)) (rules : α) (k j : ℕ) :
    ((rule ++ List.replicate (k + 1 - rule.length) none).set k (some rules))[j]?.join
      = if j = k then some rules else rule[j]?.join := by
  have hk : k < (rule ++ List.replicate (k + 1 - rule.length) none).length := by
    rw [List.length_append, List.length_replicate]
    omega
  rw [getElem?_set_join _ hk, getElem?_append_none_join]

/-- **What a change of rules writes.**  Of the old rules nothing is required: the check reads
the new ones as the old ones. -/
theorem accountForAssetRuleChange_writes {asset : AccountId} {rules : AssetRules}
    (h : s.accountForAssetRuleChange r asset rules = .ok s') :
    ∃ k, s.assetToId.get asset = some k ∧ WritesRules s s' r k rules := by
  simp only [accountForAssetRuleChange, assetId, bind_eq_ok, okOr_eq_ok, unwrap_eq_ok, pure_eq,
    Except.ok.injEq] at h
  obtain ⟨k, hk, _, -, rule, hrule, old, -, _, hvalid, rfl⟩ := h
  refine ⟨k, hk, ⟨by simp [hrule], (AssetRules.validateNewRule_eq_ok.mp hvalid).2,
    fun r' j => ?_, fun r' hr' => Mapping.get_insert_of_ne _ hr' _, rfl⟩⟩
  by_cases hr : r' = r
  · subst hr
    simp only [LendingPoolStorage.rulesOf, Mapping.get_insert_self, Option.bind_some, hrule,
      extended_join, true_and]
  · simp only [LendingPoolStorage.rulesOf, Mapping.get_insert_of_ne _ hr, hr, false_and, if_false]

/-- A registration writes the rules of the new asset in the first market rule. -/
lemma register_writes {asset : AccountId} {restrictions : ReserveRestrictions} {multiplier t : ℕ}
    {fees : ReserveFees} {model : Option InterestRateModel} {tokens : ReserveAbacusTokens}
    {rules : AssetRules} {s₁ s₂ : LendingPoolStorage}
    (h₁ : s.accountForRegisterAsset asset ReserveData.initial restrictions multiplier fees model t
      = .ok s₁)
    (h₂ : s₁.accountForSetAbacusTokens asset tokens = .ok s₂)
    (h₃ : s₂.accountForAssetRuleChange 0 asset rules = .ok s') :
    WritesRules s s' 0 s.assetCount rules := by
  obtain ⟨k, hk, hw⟩ := accountForAssetRuleChange_writes h₃
  obtain ⟨hr, -⟩ := register_ok h₁ h₂ h₃
  have hassets : s'.assetToId = s₂.assetToId := by
    obtain ⟨_, hs⟩ := accountForAssetRuleChange_ok h₃
    rw [hs]
  have hkeep : KeepsRules s s₂ := by
    simp only [accountForRegisterAsset, bind_eq_ok, pure_eq, Except.ok.injEq] at h₁
    obtain ⟨_, -, _, -, rfl⟩ := h₁
    simp only [accountForSetAbacusTokens, bind_eq_ok, pure_eq, Except.ok.injEq] at h₂
    obtain ⟨_, -, rfl⟩ := h₂
    exact ⟨rfl, rfl⟩
  rw [← hassets, hr.assetToId, Mapping.get_insert_self, Option.some.injEq] at hk
  exact hk ▸ hw.after hkeep

/-- A market rule is added under the next id. -/
lemma accountForAddMarketRule_rulesOf {rule : MarketRule} {id : ℕ}
    (h : s.accountForAddMarketRule rule = .ok (s', id)) :
    (∀ r' j, s'.rulesOf r' j = if r' = s.nextRuleId.getD 0 then rule[j]?.join else s.rulesOf r' j)
      ∧ (∀ r', r' ≠ s.nextRuleId.getD 0 → s'.marketRules.get r' = s.marketRules.get r')
      ∧ s'.nextRuleId = some (s.nextRuleId.getD 0 + 1) ∧ s'.nextAssetId = s.nextAssetId := by
  rw [accountForAddMarketRule_ok h]
  refine ⟨fun r' j => ?_, fun r' hr' => Mapping.get_insert_of_ne _ hr' _, rfl, rfl⟩
  simp only [rulesOf, Mapping.get_insert]
  split_ifs <;> rfl

/-- Market rules have ids below the next one, and the rules that they store are for registered
assets and have a penalty. -/
structure RulesSound (s : LendingPoolStorage) : Prop where
  fresh : ∀ r, s.nextRuleId.getD 0 ≤ r → s.marketRules.get r = none
  registered : ∀ r k rules, s.rulesOf r k = some rules → k < s.assetCount
  penalty : ∀ r k rules, s.rulesOf r k = some rules → rules.penaltyE6 ≠ none

lemma RulesSound.new : RulesSound LendingPoolStorage.new where
  fresh r _ := rfl
  registered r k rules h := by cases h
  penalty r k rules h := by cases h

/-- Only the rules and the number of assets matter. -/
lemma RulesSound.keepsRules (h : RulesSound s) (hk : KeepsRules s s')
    (hcount : s.assetCount ≤ s'.assetCount) : RulesSound s' := by
  constructor
  case fresh =>
    intro r hr
    rw [hk.marketRules]
    exact h.fresh r (hk.nextRuleId ▸ hr)
  case registered =>
    intro r k rules hrules
    exact (h.registered r k rules (hk.rulesOf ▸ hrules)).trans_le hcount
  case penalty =>
    intro r k rules hrules
    exact h.penalty r k rules (hk.rulesOf ▸ hrules)

/-- Rules that are written for a registered asset are sound. -/
lemma RulesSound.writes {rules : AssetRules} (h : RulesSound s) (hw : WritesRules s s' r k rules)
    (hcount : s.assetCount ≤ s'.assetCount) (hk : k < s'.assetCount) : RulesSound s' := by
  constructor
  case fresh =>
    intro r' hr'
    rw [hw.nextRuleId] at hr'
    have hne : r' ≠ r := by
      rintro rfl
      exact hw.known (h.fresh r' hr')
    rw [hw.others r' hne]
    exact h.fresh r' hr'
  case registered =>
    intro r' j rules' hrules
    rw [hw.rulesOf] at hrules
    split_ifs at hrules with hrj
    · rw [hrj.2]
      exact hk
    · exact (h.registered r' j rules' hrules).trans_le hcount
  case penalty =>
    intro r' j rules' hrules
    rw [hw.rulesOf] at hrules
    split_ifs at hrules with hrj
    · cases hrules
      exact hw.penalty
    · exact h.penalty r' j rules' hrules

/-! ### The collateral check -/

/-- A permission is a coefficient of the market rule. -/
lemma permits_iff {p : Permission} {rule : MarketRule} (hrule : s.marketRules.get r = some rule) :
    s.Permits p r k ↔ rule[k]?.join.bind p.coefficient ≠ none := by
  rw [Permits, rulesOf, hrule, Option.bind_some]
  cases rule[k]?.join <;> simp

/-- Where no permission of the market rule of an account is lost, the rules still cover it. -/
lemma RulesCover.mono {account : AccountId} {rule : MarketRule} (h : s.RulesCover account)
    (hrule : s.marketRules.get (s.getAccountConfig account).marketRuleId = some rule)
    (hpermits : ∀ p r k, s.Permits p r k → s'.Permits p r k)
    (hcount : s'.assetCount = s.assetCount) (hconfigs : s'.accountConfigs = s.accountConfigs)
    (hdatas : s'.accountReserveDatas = s.accountReserveDatas) : s'.RulesCover account := by
  intro rule' hrule' k hk hentry
  rw [getAccountConfig_congr hconfigs] at hrule' ⊢
  rw [entry_congr hdatas] at hentry
  have hcover := h rule hrule k (hcount ▸ hk) hentry
  have hcoefficient : ∀ p : Permission, rule'[k]?.join.bind p.coefficient = none →
      rule[k]?.join.bind p.coefficient = none := by
    intro p hnone
    by_contra hsome
    exact (permits_iff hrule').mp (hpermits p _ k ((permits_iff hrule).mpr hsome)) hnone
  rintro (⟨hbit, hnone⟩ | ⟨hbit, hnone⟩)
  · exact hcover (.inl ⟨hbit, hcoefficient .collateral hnone⟩)
  · exact hcover (.inr ⟨hbit, hcoefficient .borrow hnone⟩)

end LendingPoolStorage

namespace World

section

variable [Pendzl] {w w' : World} {env : Env} {message : Message}

/-- Messages that neither register an asset nor change the rules keep them. -/
lemma execute_keepsRules (hex : w.execute env message = .ok w') (hm : message.changesRules = false)
    (hr : message.registers = none) : w.pool.KeepsRules w'.pool := by
  cases message with
  | registerAsset => cases hr
  | addMarketRule | modifyAssetRule => cases hm
  | _ =>
      exact ⟨execute_keeps (·.marketRules) (fun _ => rfl) hex,
        execute_keeps (·.nextRuleId) (fun _ => rfl) hex⟩

/-- A market rule that is added has a penalty wherever it has rules, and rules for registered
assets only. -/
lemma addMarketRule_sound {rule : MarketRule} (hex : w.execute env (.addMarketRule rule) = .ok w')
    {k : ℕ} {rules : AssetRules} (hk : rule[k]?.join = some rules) :
    rules.penaltyE6 ≠ none ∧ k < w'.pool.assetCount := by
  simp only [execute, mapErr_eq_ok, addMarketRule, bind_eq_ok, pure_eq, Except.ok.injEq,
    forM_eq_ok, trapIf_eq_ok] at hex
  obtain ⟨_, -, _, hvalid, ⟨s, id⟩, hs, assets, hassets, _, hlength, rfl⟩ := hex
  have hget : rule[k]? = some (some rules) := Option.join_eq_some_iff.mp hk
  have hmem : some rules ∈ rule := List.mem_of_getElem? hget
  refine ⟨(AssetRules.validateNewRule_eq_ok.mp (hvalid _ hmem)).2, ?_⟩
  -- the loop that emits the events reads the address of every asset with rules
  have hcount : assets.length = s.assetCount := by
    rw [length_of_mapM hassets, List.length_range]
  have hbound : ¬assets.length ≤ k := by
    intro hle
    obtain ⟨hkl, -⟩ := List.getElem?_eq_some_iff.mp hget
    exact hlength ⟨k, List.mem_range.mpr hkl, by simp [hk], hle⟩
  have hpool : (w.withPool s).pool.assetCount = s.assetCount := rfl
  exact hpool ▸ hcount ▸ not_le.mp hbound

/-- The step lemma of the rules. -/
lemma execute_rulesSound (hl : w.Linked) (h : w.pool.RulesSound)
    (hex : w.execute env message = .ok w') : w'.pool.RulesSound := by
  have hstep := (execute_frame hex).1
  by_cases hr : message.registers = none
  · have hcount := (execute_keepsRegistry hex hr).assetCount
    by_cases hm : message.changesRules = false
    · exact h.keepsRules (execute_keepsRules hex hm hr) hcount.ge
    · cases message with
      | modifyAssetRule id asset rules =>
          obtain ⟨k, hk, hw⟩ := LendingPoolStorage.accountForAssetRuleChange_writes hstep
          exact h.writes hw hcount.ge (hcount ▸ hl.ids.below asset k hk)
      | addMarketRule rule =>
          obtain ⟨id, hid⟩ := hstep
          obtain ⟨hrules, hothers, hnext, -⟩ :=
            LendingPoolStorage.accountForAddMarketRule_rulesOf hid
          constructor
          case fresh =>
            intro r hle
            rw [hnext, Option.getD_some] at hle
            rw [hothers r (by omega)]
            exact h.fresh r (by omega)
          case registered =>
            intro r k rules hentry
            rw [hrules] at hentry
            split_ifs at hentry
            · exact (addMarketRule_sound hex hentry).2
            · exact hcount ▸ h.registered r k rules hentry
          case penalty =>
            intro r k rules hentry
            rw [hrules] at hentry
            split_ifs at hentry
            · exact (addMarketRule_sound hex hentry).1
            · exact h.penalty r k rules hentry
      | _ => exact absurd rfl hm
  · cases message with
    | registerAsset asset decimals rules restrictions depositFeeE6 debtFeeE6 params =>
        obtain ⟨s₁, s₂, multiplier, tokens, h₁, h₂, h₃⟩ := hstep
        have hw := LendingPoolStorage.register_writes h₁ h₂ h₃
        obtain ⟨hregisters, -⟩ := LendingPoolStorage.register_ok h₁ h₂ h₃
        have hcount := hregisters.assetCount
        exact h.writes hw (by omega) (by omega)
    | _ => exact absurd rfl hr

/-! ### Permissions -/

/-- A change of rules gives every coefficient that the stored rules of the asset have. -/
def KeepsCoefficients (w : World) : Message → Prop
  | .modifyAssetRule id asset rules => ∀ k old, w.pool.assetToId.get asset = some k →
      w.pool.rulesOf id k = some old → rules.Extends old
  | _ => True

/-- **When a message takes no permission back.** -/
theorem execute_permits_iff (h : w.pool.RulesSound)
    (hex : w.execute env message = .ok w') :
    (∀ p r k, w.pool.Permits p r k → w'.pool.Permits p r k) ↔ w.KeepsCoefficients message := by
  have hstep := (execute_frame hex).1
  have hsame : ∀ p r k, w'.pool.rulesOf r k = w.pool.rulesOf r k → w.pool.Permits p r k →
      w'.pool.Permits p r k := by
    intro p r k heq hp
    rwa [LendingPoolStorage.Permits, heq]
  cases message with
  | modifyAssetRule id asset rules =>
      obtain ⟨k, hk, hw⟩ := LendingPoolStorage.accountForAssetRuleChange_writes hstep
      have hwritten : w'.pool.rulesOf id k = some rules := by rw [hw.rulesOf, if_pos ⟨rfl, rfl⟩]
      constructor
      · intro hkeep k' old hk' hold p hp
        cases hk.symm.trans hk'
        obtain ⟨rules', hrules', hp'⟩ := hkeep p id k ⟨old, hold, hp⟩
        cases hwritten.symm.trans hrules'
        exact hp'
      · intro hextends p r j hpermits
        by_cases hrj : r = id ∧ j = k
        · obtain ⟨rfl, rfl⟩ := hrj
          obtain ⟨old, hold, hp⟩ := hpermits
          exact ⟨rules, hwritten, hextends j old hk hold p hp⟩
        · exact hsame p r j (by rw [hw.rulesOf, if_neg hrj]) hpermits
  | addMarketRule rule =>
      obtain ⟨id, hid⟩ := hstep
      obtain ⟨hrules, -⟩ := LendingPoolStorage.accountForAddMarketRule_rulesOf hid
      refine iff_of_true (fun p r k hpermits => ?_) trivial
      have hne : r ≠ w.pool.nextRuleId.getD 0 := by
        rintro rfl
        obtain ⟨old, hold, -⟩ := hpermits
        rw [LendingPoolStorage.rulesOf, h.fresh _ le_rfl] at hold
        cases hold
      exact hsame p r k (by rw [hrules, if_neg hne]) hpermits
  | registerAsset asset decimals rules restrictions depositFeeE6 debtFeeE6 params =>
      obtain ⟨s₁, s₂, multiplier, tokens, h₁, h₂, h₃⟩ := hstep
      have hw := LendingPoolStorage.register_writes h₁ h₂ h₃
      refine iff_of_true (fun p r k hpermits => ?_) trivial
      have hne : ¬(r = 0 ∧ k = w.pool.assetCount) := by
        rintro ⟨-, rfl⟩
        obtain ⟨old, hold, -⟩ := hpermits
        exact absurd (h.registered r _ old hold) (lt_irrefl _)
      exact hsame p r k (by rw [hw.rulesOf, if_neg hne]) hpermits
  | _ =>
      refine iff_of_true (fun p r k => ?_) trivial
      exact hsame p r k (by rw [(execute_keepsRules hex rfl rfl).rulesOf])

/-- A change of rules makes no penalty unreadable. -/
lemma execute_penaltyAt (h : w.pool.RulesSound) (h' : w'.pool.RulesSound)
    (hex : w.execute env message = .ok w') (hm : message.changesRules = true) {r k n : ℕ}
    (hn : w.pool.penaltyAt r k = .ok n) : ∃ n', w'.pool.penaltyAt r k = .ok n' := by
  obtain ⟨old, hold, -⟩ := LendingPoolStorage.penaltyAt_eq_ok.mp hn
  have hrules : ∃ rules, w'.pool.rulesOf r k = some rules := by
    have hstep := (execute_frame hex).1
    cases message with
    | modifyAssetRule id asset rules =>
        obtain ⟨j, -, hw⟩ := LendingPoolStorage.accountForAssetRuleChange_writes hstep
        rw [hw.rulesOf]
        split_ifs
        · exact ⟨rules, rfl⟩
        · exact ⟨old, hold⟩
    | addMarketRule rule =>
        obtain ⟨id, hid⟩ := hstep
        obtain ⟨hrules, -⟩ := LendingPoolStorage.accountForAddMarketRule_rulesOf hid
        refine ⟨old, ?_⟩
        rw [hrules, if_neg, hold]
        rintro rfl
        rw [LendingPoolStorage.rulesOf, h.fresh _ le_rfl] at hold
        cases hold
    | _ => cases hm
  obtain ⟨rules, hrules⟩ := hrules
  obtain ⟨n', hn'⟩ := Option.ne_none_iff_exists'.mp (h'.penalty r k rules hrules)
  exact ⟨n', LendingPoolStorage.penaltyAt_eq_ok.mpr ⟨rules, hrules, hn'⟩⟩

/-- The error values of the check for an asset that the rules do not permit. -/
def IsRuleDisable (e : LendingPoolError) : Prop :=
  e = .ruleCollateralDisable ∨ e = .ruleBorrowDisable

/-- **A change of rules that takes no permission back disables no asset** of an account whose
lending power could be calculated, whatever the prices are then. -/
theorem execute_power (h : w.pool.RulesSound) (hex : w.execute env message = .ok w')
    (hm : message.changesRules = true) (hkeep : w.KeepsCoefficients message)
    {view view' : Env} {account : AccountId} {power : Bool × ℕ}
    (hpower : w.pool.calculateLendingPowerOfAnAccountE6 view account = .ok power) :
    Raises (fun e => ¬IsRuleDisable e)
      (w'.pool.calculateLendingPowerOfAnAccountE6 view' account) := by
  have hcover := LendingPoolStorage.calculateLendingPowerOfAnAccountE6_rulesCover hpower
  have hrule : ∃ rule, w.pool.marketRules.get
      (w.pool.getAccountConfig account).marketRuleId = some rule := by
    simp only [LendingPoolStorage.calculateLendingPowerOfAnAccountE6,
      LendingPoolStorage.calculateLendingPowerE6, LendingPoolStorage.getMarketRule, bind_eq_ok,
      unwrap_eq_ok] at hpower
    obtain ⟨_, -, rule, hrule, -⟩ := hpower
    exact ⟨rule, hrule⟩
  obtain ⟨rule, hrule⟩ := hrule
  have hpermits := (execute_permits_iff h hex).mpr hkeep
  have hsame : w'.pool.assetCount = w.pool.assetCount
      ∧ w'.pool.accountConfigs = w.pool.accountConfigs
      ∧ w'.pool.accountReserveDatas = w.pool.accountReserveDatas := by
    have hstep := (execute_frame hex).1
    cases message with
    | modifyAssetRule id asset rules =>
        obtain ⟨_, hs⟩ := LendingPoolStorage.accountForAssetRuleChange_ok hstep
        rw [hs]
        exact ⟨rfl, rfl, rfl⟩
    | addMarketRule rule =>
        obtain ⟨id, hid⟩ := hstep
        rw [LendingPoolStorage.accountForAddMarketRule_ok hid]
        exact ⟨rfl, rfl, rfl⟩
    | _ => cases hm
  obtain ⟨hcount, hconfigs, hdatas⟩ := hsame
  have hcover' := hcover.mono hrule hpermits hcount hconfigs hdatas
  refine LendingPoolStorage.calculateLendingPowerOfAnAccountE6_raises.mono fun e he => ?_
  rcases he with ⟨pe, rfl⟩ | hnot | ⟨m, rfl⟩
  · rintro (he | he) <;> cases he
  · exact absurd hcover' hnot
  · rintro (he | he) <;> cases he

/-! ### Runs -/

/-- A step of the system in which a change of rules gives the coefficients that are stored. -/
def PermissiveStep (t : ℕ) (w w' : World) : Prop :=
  ∃ env message, env.blockTimestamp = t ∧ w.KeepsCoefficients message
    ∧ w.execute env message = .ok w'

/-- The rules are sound in every reachable world. -/
lemma reachable_rulesSound {kind : Message → Prop} {t : ℕ} (h : Reachable kind t w) :
    w.Linked ∧ w.pool.RulesSound := by
  refine TimedRun.Reach.invariant (P := fun w => w.Linked ∧ w.pool.RulesSound) (fun w hw => ?_)
    (fun t w w' hP hstep => ?_) h
  · exact ⟨reachable_linked (.start hw : Reachable kind 0 w), hw.1 ▸ .new⟩
  · obtain ⟨env, message, -, -, hex⟩ := hstep
    exact ⟨execute_linked hP.1 hex, execute_rulesSound hP.1 hP.2 hex⟩

/-- The run lemma of the permissions. -/
lemma reach_permits {t : ℕ} (hl : w.Linked) (h : w.pool.RulesSound)
    (hrun : TimedRun.Reach (· = w) PermissiveStep t w') :
    (w'.Linked ∧ w'.pool.RulesSound) ∧ ∀ p r k, w.pool.Permits p r k → w'.pool.Permits p r k := by
  refine TimedRun.Reach.invariant (P := fun w' => (w'.Linked ∧ w'.pool.RulesSound)
    ∧ ∀ p r k, w.pool.Permits p r k → w'.pool.Permits p r k) (fun w' hw => ?_)
    (fun t w₁ w₂ hP hstep => ?_) hrun
  · rw [hw]
    exact ⟨⟨hl, h⟩, fun p r k hp => hp⟩
  · obtain ⟨⟨hl₁, h₁⟩, hpermits⟩ := hP
    obtain ⟨env, message, -, hkeep, hex⟩ := hstep
    exact ⟨⟨execute_linked hl₁ hex, execute_rulesSound hl₁ h₁ hex⟩,
      fun p r k hp => (execute_permits_iff h₁ hex).mpr hkeep p r k (hpermits p r k hp)⟩

/-- **No permission is lost in a run whose changes of rules keep the stored coefficients.**
What a stored market rule permits in a reachable world it permits in every later one, and all
stored rules have a penalty.  Then a change of rules makes no penalty unreadable, and, if it keeps
the stored coefficients too, disables no asset of an account whose lending power could be
calculated. -/
theorem permissions_kept {t t' : ℕ} (h : Reachable (fun _ => True) t w)
    (hrun : TimedRun.Reach (· = w) PermissiveStep t' w') :
    (∀ p r k, w.pool.Permits p r k → w'.pool.Permits p r k)
      ∧ (∀ r k rules, w'.pool.rulesOf r k = some rules → rules.penaltyE6 ≠ none)
      ∧ ∀ env message w'', message.changesRules = true → w'.execute env message = .ok w'' →
        (∀ r k n, w'.pool.penaltyAt r k = .ok n → ∃ n', w''.pool.penaltyAt r k = .ok n')
        ∧ (w'.KeepsCoefficients message → ∀ view view' account power,
            w'.pool.calculateLendingPowerOfAnAccountE6 view account = .ok power →
            Raises (fun e => ¬IsRuleDisable e)
              (w''.pool.calculateLendingPowerOfAnAccountE6 view' account)) := by
  obtain ⟨hl, hsound⟩ := reachable_rulesSound h
  obtain ⟨⟨hl', hsound'⟩, hpermits⟩ := reach_permits hl hsound hrun
  refine ⟨hpermits, hsound'.penalty, fun env message w'' hm hex => ⟨fun r k n hn => ?_, ?_⟩⟩
  · exact execute_penaltyAt hsound' (execute_rulesSound hl' hsound' hex) hex hm hn
  · intro hkeep view view' account power hpower
    exact execute_power hsound' hex hm hkeep hpower

end

attribute [local instance] Pendzl.exact in
/-- In the sample pool a change of the rules of the first asset that has both coefficients
keeps its permissions. -/
theorem permissions_kept_sample :
    ∃ w w', Sample.world.run Sample.setup = some w
      ∧ w.execute (Sample.env Sample.admin 1) (.modifyAssetRule 0 (Sample.account 100)
        ⟨some (4 * 10 ^ 5), some (3 * 10 ^ 6), some (5 * 10 ^ 4)⟩) = .ok w'
      ∧ ∀ p, w'.pool.Permits p 0 0 := by
  have hrun : (Sample.world.run Sample.setup).map (fun w =>
        (w.pool.rulesOf 0 0, w.pool.assetToId.get (Sample.account 100),
          (w.execute (Sample.env Sample.admin 1) (.modifyAssetRule 0 (Sample.account 100)
            ⟨some (4 * 10 ^ 5), some (3 * 10 ^ 6), some (5 * 10 ^ 4)⟩)).isOk))
      = some (some Sample.rules, some 0, true) := by decide +kernel
  obtain ⟨w, hw, hreach, hv⟩ :=
    run_reaches (fun _ => True) Sample.world_isInitial (by decide) hrun
  simp only [Prod.mk.injEq] at hv
  obtain ⟨hrules, hk, hok⟩ := hv
  obtain ⟨w', hw'⟩ := isOk_eq_true.mp hok
  have hkeep : w.KeepsCoefficients (.modifyAssetRule 0 (Sample.account 100)
      ⟨some (4 * 10 ^ 5), some (3 * 10 ^ 6), some (5 * 10 ^ 4)⟩) := by
    intro k old _ _ p _
    cases p <;> exact nofun
  have hstep : PermissiveStep 1 w w' := ⟨_, _, rfl, hkeep, hw'⟩
  have hpermits : ∀ p, w.pool.Permits p 0 0 := by
    intro p
    refine ⟨Sample.rules, hrules, ?_⟩
    cases p <;> exact nofun
  have hrun' : TimedRun.Reach (· = w) PermissiveStep 1 w' := .next (.start rfl) le_rfl hstep
  exact ⟨w, w', hw, hw', fun p => (permissions_kept hreach hrun').1 p 0 0 (hpermits p)⟩

attribute [local instance] Pendzl.exact in
/-- **A rule takes back a permission.**  `account 3` owes the first asset, and the administrator
replaces its rules by rules without a borrow coefficient: afterwards the lending power of
`account 3` cannot be calculated. -/
theorem modify_takes_permission :
    ∃ w w', Sample.world.run Sample.borrower = some w
      ∧ w.execute (Sample.env Sample.admin 1) (.modifyAssetRule 0 (Sample.account 100)
        ⟨none, none, some (5 * 10 ^ 4)⟩) = .ok w'
      ∧ w.pool.rulesOf 0 0 = some Sample.rules
      ∧ w'.pool.rulesOf 0 0 = some ⟨none, none, some (5 * 10 ^ 4)⟩
      ∧ (∃ power, w.pool.calculateLendingPowerOfAnAccountE6 (Sample.env Sample.admin 1)
          (Sample.account 3) = .ok power)
      ∧ w'.pool.calculateLendingPowerOfAnAccountE6 (Sample.env Sample.admin 1)
          (Sample.account 3) = .error (.err .ruleBorrowDisable) := by
  have hrun : (Sample.world.run Sample.borrower).map (fun w => (w.pool.rulesOf 0 0,
        (w.pool.calculateLendingPowerOfAnAccountE6 (Sample.env Sample.admin 1)
          (Sample.account 3)).isOk)) = some (some Sample.rules, true) := by decide +kernel
  have hafter : (Sample.world.run Sample.borrower).bind (fun w =>
        (w.execute (Sample.env Sample.admin 1) (.modifyAssetRule 0 (Sample.account 100)
          ⟨none, none, some (5 * 10 ^ 4)⟩)).toOption.map fun w' => (w'.pool.rulesOf 0 0,
            w'.pool.calculateLendingPowerOfAnAccountE6 (Sample.env Sample.admin 1)
              (Sample.account 3)))
      = some (some ⟨none, none, some (5 * 10 ^ 4)⟩, .error (.err .ruleBorrowDisable)) := by
    decide +kernel
  obtain ⟨w, hw, hv⟩ := Option.map_eq_some_iff.mp hrun
  obtain ⟨hrules, hpower⟩ := Prod.mk.inj hv
  rw [hw, Option.bind_some] at hafter
  obtain ⟨w', hw', hv'⟩ := Option.map_eq_some_iff.mp hafter
  obtain ⟨hrules', hpower'⟩ := Prod.mk.inj hv'
  exact ⟨w, w', hw, toOption_eq_some.mp hw', hrules, hrules', isOk_eq_true.mp hpower, hpower'⟩

end World

end AbaxLending
