import AbaxLending.Invariants.Income
import AbaxLending.Invariants.Listing
import AbaxLending.Invariants.Slots

/-!
The minimal debt and the minimal collateral of an asset.

The restrictions of an asset promise a minimal debt, and a minimal deposit where the deposit
is a collateral.  A borrow and a repayment check the first; a withdrawal clears the collateral
bit when too little stays, and setting the bit checks the stored deposit.

* `Slot.Minimal`, `Slot.Step.minimal`: what a slot must respect, and its step lemma;
* `Fresh`: without transfers nobody has a slot in an asset that is not registered yet;
* `minimal_amounts`: from the registration of an asset on both minima hold, as long as its
  restrictions stay.
-/

namespace AbaxLending

open Outcome

/-! ### One slot -/

/-- The debt is none or not below the minimal debt, and a collateral is not below the minimal
collateral. -/
structure Slot.Minimal (r : ReserveRestrictions) (slot : Slot) : Prop where
  debt : slot.data.debt = 0 ∨ r.minimalDebt ≤ slot.data.debt
  collateral : slot.collaterals = true → r.minimalCollateral ≤ slot.data.deposit

/-- The slot of an account that never used an asset. -/
def Slot.empty : Slot := ⟨false, false, false, default⟩

lemma Slot.minimal_empty (r : ReserveRestrictions) : Slot.empty.Minimal r where
  debt := .inl rfl
  collateral h := by cases h

/-- What is accrued respects the minima. -/
lemma Slot.Minimal.accrues {r : ReserveRestrictions} {slot : Slot} {data : AccountReserveData}
    (h : slot.Minimal r) (ha : slot.data.Accrues data) :
    (data.debt = 0 ∨ r.minimalDebt ≤ data.debt)
      ∧ (slot.collaterals = true → r.minimalCollateral ≤ data.deposit) := by
  refine ⟨?_, fun hbit => (h.collateral hbit).trans ha.deposit⟩
  rcases h.debt with hzero | hmin
  · exact .inl (ha.debt_zero hzero)
  · exact .inr (hmin.trans ha.debt)

/-- **A basic step keeps the minima.** -/
lemma Slot.Step.minimal {r : ReserveRestrictions} {slot slot' : Slot} {op : Operation} {n : ℕ}
    (hs : slot.Step r op n slot') (h : slot.Minimal r) : slot'.Minimal r := by
  cases hs with
  | deposit data _ ha =>
      obtain ⟨hdebt, hcollateral⟩ := h.accrues ha
      exact ⟨hdebt, fun hbit => (hcollateral hbit).trans (Nat.le_add_right _ _)⟩
  | withdraw data _ ha _ _ =>
      obtain ⟨hdebt, -⟩ := h.accrues ha
      -- a collateral bit that is still set was not cleared for too small a deposit
      refine ⟨hdebt, fun hbit => ?_⟩
      simp only [Bool.and_eq_true, Bool.not_eq_true', decide_eq_false_iff_not, not_lt] at hbit
      exact hbit.2
  | borrow data _ ha hmin =>
      obtain ⟨-, hcollateral⟩ := h.accrues ha
      exact ⟨or_iff_not_imp_left.mpr hmin, hcollateral⟩
  | repay data _ ha _ _ hmin =>
      obtain ⟨-, hcollateral⟩ := h.accrues ha
      exact ⟨or_iff_not_imp_left.mpr hmin, hcollateral⟩

/-! ### Assets that are not registered yet -/

namespace LendingPoolStorage

/-- Nobody has a slot in an asset that is not registered yet. -/
def Fresh (s : LendingPoolStorage) : Prop := ∀ a k, s.assetCount ≤ k → s.slot a k = Slot.empty

lemma Fresh.new : Fresh LendingPoolStorage.new := by
  intro a k _
  have hzero : (0#128).getLsbD k = false := BitVec.getLsbD_zero
  show Slot.mk ((0#128).getLsbD k) ((0#128).getLsbD k) ((0#128).getLsbD k) default = Slot.empty
  rw [hzero]
  rfl

end LendingPoolStorage

namespace World

section

variable [Pendzl] {w w' : World} {env : Env} {message : Message} {asset account : AccountId}
  {k t : ℕ} {restrictions : ReserveRestrictions}

/-- The step lemma of the slots that are not used yet. -/
lemma execute_fresh (hids : w.pool.IdsUnique) (h : w.pool.Fresh) (hkind : NoTransfer message)
    (hex : w.execute env message = .ok w') : w'.pool.Fresh := by
  have hcount := execute_assetCount hex
  have hkeep : ∀ a k, w.pool.assetCount ≤ k → w'.pool.slot a k = Slot.empty := by
    cases execute_slotChange hkind hex with
    | actions account actions res _ hres hs =>
        rw [hs]
        refine LendingPoolStorage.accountForAccountActions_slots
          (R := fun _ k slot => w.pool.assetCount ≤ k → slot = Slot.empty)
          (fun asset k _ _ _ _ _ hk _ _ _ hle => ?_) hres h
        exact absurd hle (not_le.mpr (hids.below asset k hk))
    | liquidate liquidated toRepay toTake amount minimum r _ hs =>
        rw [hs]
        refine r.slots (R := fun _ k slot => w.pool.assetCount ≤ k → slot = Slot.empty)
          (fun asset k _ _ _ _ _ _ _ hk _ _ _ hle => ?_) (fun _ _ _ _ _ hle => ?_) h
        · exact absurd hle (not_le.mpr (hids.below asset k hk))
        · exact absurd hle (not_le.mpr (hids.below toTake _ r.registeredTake))
    | collateral account asset k use _ hk hsets =>
        intro a j hle
        have hne : j ≠ k := fun heq => absurd (heq ▸ hle) (not_le.mpr (hids.below asset k hk))
        rw [hsets.slot, if_neg fun heq => hne heq.2]
        exact h a j hle
    | keep hsame =>
        rw [hsame]
        exact h
  exact fun a k hle => hkeep a k (hcount.trans hle)

/-- Without transfers nobody has a slot in an asset that is not registered yet. -/
lemma reachable_fresh (h : Reachable NoTransfer t w) : w.pool.Fresh := by
  have hboth : w.Linked ∧ w.pool.Fresh := by
    refine TimedRun.Reach.invariant (P := fun w => w.Linked ∧ w.pool.Fresh) (fun w hw => ?_)
      (fun t w w' hP hstep => ?_) h
    · refine ⟨reachable_linked (.start hw : Reachable NoTransfer 0 _), ?_⟩
      rw [hw.1]
      exact .new
    · obtain ⟨env, message, -, hkind, hex⟩ := hstep
      exact ⟨execute_linked hP.1 hex, execute_fresh hP.1.ids hP.2 hkind hex⟩
  exact hboth.2

/-! ### From the registration on -/

/-- The messages other than the transfers of the two tokens and the changes of the
restrictions of an asset. -/
def KeepsRestrictionsOf (asset : AccountId) (message : Message) : Prop :=
  NoTransfer message ∧ ∀ restrictions, message ≠ .setReserveRestrictions asset restrictions

/-- The asset has an id, and its restrictions are given. -/
structure Restricted (w : World) (asset : AccountId) (k : ℕ)
    (restrictions : ReserveRestrictions) : Prop where
  registered : w.pool.assetToId.get asset = some k
  restrictions : w.pool.reserveRestrictions.get k = some restrictions

/-- The restrictions of an asset stay. -/
lemma execute_restricted (hids : w.pool.IdsUnique) (h : w.Restricted asset k restrictions)
    (hkind : KeepsRestrictionsOf asset message) (hex : w.execute env message = .ok w') :
    w'.Restricted asset k restrictions := by
  have hstep := (execute_frame hex).1
  have hlt := hids.below asset k h.registered
  cases hm : message.writesListing with
  | false =>
      have hregisters : message.registers = none := by
        cases message with
        | registerAsset => cases hm
        | _ => rfl
      have hids' := (execute_keepsRegistry hex hregisters).assetToId
      have hsame := (execute_keepsListing hex hm).reserveRestrictions
      exact ⟨hids' ▸ h.registered, hsame ▸ h.restrictions⟩
  | true =>
      cases message with
      | registerAsset asset' decimals rules restrictions' depositFeeE6 debtFeeE6 params =>
          obtain ⟨s₁, s₂, multiplier, tokens, h₁, h₂, h₃⟩ := hstep
          obtain ⟨hr, -⟩ := LendingPoolStorage.register_ok h₁ h₂ h₃
          obtain ⟨-, rule, hs⟩ := LendingPoolStorage.register_storage h₁ h₂ h₃
          have hne : asset ≠ asset' := by
            rintro rfl
            cases hr.fresh.symm.trans h.registered
          refine ⟨?_, ?_⟩
          · rw [hr.assetToId, Mapping.get_insert_of_ne _ hne]
            exact h.registered
          · rw [hs, Mapping.get_insert_of_ne _ hlt.ne]
            exact h.restrictions
      | setReserveRestrictions asset' restrictions' =>
          obtain ⟨k', hk', hs⟩ :=
            LendingPoolStorage.accountForReserveRestricitionsChange_ok hstep
          have hne : k ≠ k' := by
            rintro rfl
            have hsame := hids.inj asset asset' k h.registered hk'
            exact hkind.2 restrictions' (hsame ▸ rfl)
          refine ⟨hs ▸ h.registered, ?_⟩
          rw [hs, Mapping.get_insert_of_ne _ hne]
          exact h.restrictions
      | chooseMarketRule id =>
          have hs := LendingPoolStorage.accountForMarketRuleChange_ok hstep.1
          exact ⟨hs ▸ h.registered, hs ▸ h.restrictions⟩
      | _ => cases hm

/-- The step lemma of the minima of one account. -/
lemma execute_minimal (hr : w.Restricted asset k restrictions)
    (h : (w.pool.slot account k).Minimal restrictions) (hkind : NoTransfer message)
    (hex : w.execute env message = .ok w') : (w'.pool.slot account k).Minimal restrictions := by
  have hall : ∀ a j, a = account → j = k → (w.pool.slot a j).Minimal restrictions := by
    rintro a j rfl rfl
    exact h
  cases execute_slotChange hkind hex with
  | actions owner actions res _ hres hs =>
      rw [hs]
      refine LendingPoolStorage.accountForAccountActions_slots
        (R := fun a j slot => a = account → j = k → slot.Minimal restrictions)
        (fun asset' j r slot op n slot' _ hrestrictions hR hslot ha hj => ?_) hres hall
        account k rfl rfl
      rw [hj, hr.restrictions, Option.some.injEq] at hrestrictions
      exact (hrestrictions ▸ hslot).minimal (hR ha hj)
  | liquidate liquidated toRepay toTake amount minimum r _ hs =>
      rw [hs]
      refine r.slots (R := fun a j slot => a = account → j = k → slot.Minimal restrictions)
        (fun asset' j _ slot op n slot' _ _ _ hrestrictions hR hslot ha hj => ?_)
        (fun _ slot' hrestrictions hR hslot ha hj => ?_) hall account k rfl rfl
      · rw [hj, hr.restrictions, Option.some.injEq] at hrestrictions
        exact (hrestrictions ▸ hslot).minimal (hR ha hj)
      · rw [hj, hr.restrictions, Option.some.injEq] at hrestrictions
        exact (hrestrictions ▸ hslot).minimal (hR ha hj)
  | collateral owner asset' j use restrictions' _ hsets =>
      rw [hsets.slot]
      split_ifs with hown
      · obtain ⟨rfl, rfl⟩ := hown
        cases hr.restrictions.symm.trans hsets.restrictions_eq
        exact ⟨h.debt, hsets.minimal⟩
      · exact h
  | keep hsame =>
      rw [hsame]
      exact h

/-- The minima hold along a run from any world in which they hold. -/
lemma reach_minimal {w₁ : World} (hl : w₁.Linked) (hr : w₁.Restricted asset k restrictions)
    (h : (w₁.pool.slot account k).Minimal restrictions)
    (hrun : TimedRun.Reach (· = w₁) (Step (KeepsRestrictionsOf asset)) t w) :
    w.Linked ∧ w.Restricted asset k restrictions
      ∧ (w.pool.slot account k).Minimal restrictions := by
  refine TimedRun.Reach.invariant
    (P := fun w => w.Linked ∧ w.Restricted asset k restrictions
      ∧ (w.pool.slot account k).Minimal restrictions)
    (fun w hw => ?_) (fun t w w' hP hstep => ?_) hrun
  · rw [hw]
    exact ⟨hl, hr, h⟩
  · obtain ⟨env, message, -, hkind, hex⟩ := hstep
    exact ⟨execute_linked hP.1 hex, execute_restricted hP.1.ids hP.2.1 hkind hex,
      execute_minimal hP.2.1 hP.2.2 hkind.1 hex⟩

/-- A registration gives the asset the restrictions that it was sent with. -/
lemma registerAsset_restricted {decimals depositFeeE6 debtFeeE6 : ℕ} {rules : AssetRules}
    {params : Option InterestRateModelParams}
    (hex : w.execute env (.registerAsset asset decimals rules restrictions depositFeeE6 debtFeeE6
      params) = .ok w') :
    w'.Restricted asset w.pool.assetCount restrictions ∧ w'.pool.slot = w.pool.slot := by
  obtain ⟨s₁, s₂, multiplier, tokens, h₁, h₂, h₃⟩ := (execute_frame hex).1
  obtain ⟨-, rule, hs⟩ := LendingPoolStorage.register_storage h₁ h₂ h₃
  rw [hs]
  refine ⟨⟨?_, ?_⟩, rfl⟩
  · rw [hs, Mapping.get_insert_self]
  · rw [hs, Mapping.get_insert_self]

/-- **Minimal debt and minimal collateral hold throughout.**  From the registration of an asset
on, in every run of messages other than the transfers that does not change its restrictions,
every stored debt in the asset is none or not below the minimal debt, and every deposit with
the collateral bit is not below the minimal collateral.  Before the registration any messages
may be sent, if they left the account no slot under the id that is given out; messages other
than the transfers do not. -/
theorem minimal_amounts {kind : Message → Prop} {t₀ : ℕ} {w₀ w₁ : World}
    {decimals depositFeeE6 debtFeeE6 : ℕ} {rules : AssetRules}
    {params : Option InterestRateModelParams} (hbefore : Reachable kind t₀ w₀)
    (hregister : w₀.execute env (.registerAsset asset decimals rules restrictions depositFeeE6
      debtFeeE6 params) = .ok w₁)
    (hrun : TimedRun.Reach (· = w₁) (Step (KeepsRestrictionsOf asset)) t w)
    (hunused : (∀ message, kind message → NoTransfer message)
      ∨ w₀.pool.slot account w₀.pool.assetCount = Slot.empty) :
    ∃ k, w.pool.assetToId.get asset = some k
      ∧ w.pool.reserveRestrictions.get k = some restrictions
      ∧ ((w.pool.position account k).debt = 0
        ∨ restrictions.minimalDebt ≤ (w.pool.position account k).debt)
      ∧ ((w.pool.getAccountConfig account).collaterals.getLsbD k = true →
        restrictions.minimalCollateral ≤ (w.pool.position account k).deposit) := by
  obtain ⟨hrestricted, hslots⟩ := registerAsset_restricted hregister
  have hempty : w₀.pool.slot account w₀.pool.assetCount = Slot.empty := by
    rcases hunused with hkind | hempty
    · refine reachable_fresh (hbefore.mono fun t w w' hstep => ?_) account _ le_rfl
      obtain ⟨env, message, htime, hk, hex⟩ := hstep
      exact ⟨env, message, htime, hkind message hk, hex⟩
    · exact hempty
  have hstart : (w₁.pool.slot account w₀.pool.assetCount).Minimal restrictions := by
    rw [hslots, hempty]
    exact Slot.minimal_empty restrictions
  have hlinked := execute_linked (reachable_linked hbefore) hregister
  obtain ⟨-, hr, hminimal⟩ := reach_minimal hlinked hrestricted hstart hrun
  exact ⟨_, hr.registered, hr.restrictions, hminimal.debt, hminimal.collateral⟩

end

/-- The registration of an asset with a minimal debt and a minimal collateral. -/
def registerMinimal : Message :=
  .registerAsset (Sample.account 100) 6 Sample.rules ⟨none, none, 20, 10⟩ 0 0
    (some Sample.rateModel)

/-- The messages after which a deposit is used as a collateral. -/
def collateralized : List (Env × Message) := [
  Sample.send 2 1 fun a => .deposit (Sample.account 100) a 500,
  Sample.send 2 1 fun _ => .setAsCollateral (Sample.account 100) true]

attribute [local instance] Pendzl.exact in
/-- A deposit that is used as a collateral is not below the minimal collateral. -/
theorem minimal_amounts_collateral :
    ∃ w, Sample.world.run (Sample.setup.take 2
        ++ (Sample.env Sample.admin 0, registerMinimal) :: collateralized) = some w
      ∧ 20 ≤ (w.pool.position (Sample.account 2) 0).deposit := by
  have hrun : (Sample.world.run (Sample.setup.take 2
        ++ (Sample.env Sample.admin 0, registerMinimal) :: collateralized)).map
      (fun w => (w.pool.assetToId.get (Sample.account 100),
        (w.pool.getAccountConfig (Sample.account 2)).collaterals.getLsbD 0))
      = some (some 0, true) := by decide +kernel
  obtain ⟨w, hw, hv⟩ := Option.map_eq_some_iff.mp hrun
  obtain ⟨hk, hbit⟩ := Prod.mk.inj hv
  refine ⟨w, hw, ?_⟩
  rw [run_append, Option.bind_eq_some_iff] at hw
  obtain ⟨w₀, hbefore, hafter⟩ := hw
  obtain ⟨w₁, hregister, hafter⟩ := run_cons_eq_some.mp hafter
  have hstart : Reachable NoTransfer 0 Sample.world := .start Sample.world_isInitial
  have hreach := run_reachable hstart (by decide) hbefore
  have hstart' : TimedRun.Reach (· = w₁) (Step (KeepsRestrictionsOf (Sample.account 100))) 0 w₁ :=
    .start rfl
  have hadm : Admissible (KeepsRestrictionsOf (Sample.account 100)) 0 collateralized :=
    ⟨by decide, ⟨rfl, fun _ => nofun⟩, by decide, ⟨rfl, fun _ => nofun⟩, trivial⟩
  obtain ⟨k, hk', -, -, hcollateral⟩ :=
    minimal_amounts hreach hregister (run_reach hstart' hadm hafter) (.inl fun _ hkind => hkind)
  cases hk.symm.trans hk'
  exact hcollateral hbit

end World

end AbaxLending
