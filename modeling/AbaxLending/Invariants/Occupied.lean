import AbaxLending.Spec.Visits

/-!
The reserves there are.

Ids are given out in order, so the reserves are those of the ids below the number of
registered assets (`Occupied`), and the utilization ring of an id that was not given out yet
is empty.
-/

namespace AbaxLending

open Outcome

namespace LendingPoolStorage

/-- The reserves there are, are those with the ids that were given out. -/
structure Occupied (s : LendingPoolStorage) : Prop where
  reserveData : ∀ k, (s.reserveDatas.get k).isSome = true ↔ k < s.assetCount
  indexes : ∀ k, (s.reserveIndexesAndFees.get k).isSome = true ↔ k < s.assetCount
  entry : ∀ k, s.assetCount ≤ k → ∀ i, s.getTwUrEntry k i = none

variable {s s' : LendingPoolStorage} {k t : ℕ}

lemma Occupied.new : Occupied LendingPoolStorage.new := by
  have hnone : ∀ k, false = true ↔ k < 0 := fun k => by simp
  exact ⟨hnone, hnone, fun k _ i => rfl⟩

/-- There is no reserve with the next id. -/
lemma Occupied.next (h : Occupied s) :
    s.reserveDatas.get s.assetCount = none ∧ s.reserveIndexesAndFees.get s.assetCount = none := by
  refine ⟨Option.not_isSome_iff_eq_none.mp ?_, Option.not_isSome_iff_eq_none.mp ?_⟩
  · rw [h.reserveData]
    exact lt_irrefl _
  · rw [h.indexes]
    exact lt_irrefl _

/-- A reserve of a registered asset is there. -/
lemma Occupied.reserve (h : Occupied s) (hids : s.IdsUnique) {asset : AccountId}
    (hk : s.assetToId.get asset = some k) :
    ∃ rd r, s.reserveDatas.get k = some rd ∧ s.reserveIndexesAndFees.get k = some r := by
  have hlt := hids.below asset k hk
  obtain ⟨rd, hrd⟩ := Option.isSome_iff_exists.mp ((h.reserveData k).mpr hlt)
  obtain ⟨r, hr⟩ := Option.isSome_iff_exists.mp ((h.indexes k).mpr hlt)
  exact ⟨rd, r, hrd, hr⟩

lemma KeepsReserve.isSome (h : KeepsReserve k s s') :
    (s'.reserveDatas.get k).isSome = (s.reserveDatas.get k).isSome
      ∧ (s'.reserveIndexesAndFees.get k).isSome = (s.reserveIndexesAndFees.get k).isSome := by
  have hrd := congrArg Option.isSome h.steady
  have hr := congrArg Option.isSome h.indexes
  rw [Option.isSome_map, Option.isSome_map] at hrd hr
  exact ⟨hrd, hr⟩

variable [Pendzl] {message : Message}

/-- A change of a reserve neither opens nor closes it, and leaves a ring that belongs to no
reserve alone. -/
lemma ReserveChange.isSome (h : ReserveChange message k t s s') :
    (s'.reserveDatas.get k).isSome = (s.reserveDatas.get k).isSome
      ∧ (s'.reserveIndexesAndFees.get k).isSome = (s.reserveIndexesAndFees.get k).isSome
      ∧ (s.reserveDatas.get k = none → ∀ i, s'.getTwUrEntry k i = s.getTwUrEntry k i) := by
  cases h with
  | keep hk => exact ⟨hk.isSome.1, hk.isSome.2, fun _ => hk.entry⟩
  | visit hv =>
      refine ⟨?_, ?_, fun hnone => ?_⟩
      · rw [hv.reserveData, hv.reserveData']
        rfl
      · rw [hv.indexesAndFees, hv.indexesAndFees']
        rfl
      · rw [hv.reserveData] at hnone
        cases hnone
  | switch _ _ hrd _ hs =>
      subst hs
      refine ⟨?_, rfl, fun _ _ => rfl⟩
      rw [putReserveData_reserveDatas, Mapping.get_insert_self, hrd]
      rfl
  | freeze _ _ hrd _ hs =>
      subst hs
      refine ⟨?_, rfl, fun _ _ => rfl⟩
      rw [putReserveData_reserveDatas, Mapping.get_insert_self, hrd]
      rfl

/-- The same along a chain. -/
lemma ReserveChanges.isSome (h : ReserveChanges message k t s s') :
    (s'.reserveDatas.get k).isSome = (s.reserveDatas.get k).isSome
      ∧ (s'.reserveIndexesAndFees.get k).isSome = (s.reserveIndexesAndFees.get k).isSome
      ∧ (s.reserveDatas.get k = none → ∀ i, s'.getTwUrEntry k i = s.getTwUrEntry k i) := by
  induction h with
  | refl => exact ⟨rfl, rfl, fun _ _ => rfl⟩
  | tail _ hlast ih =>
      obtain ⟨hrd, hr, hentry⟩ := ih
      obtain ⟨hrd', hr', hentry'⟩ := hlast.isSome
      refine ⟨hrd'.trans hrd, hr'.trans hr, fun hnone i => ?_⟩
      have hnone' : (s.reserveDatas.get k).isSome = false := by rw [hnone]; rfl
      rw [← hrd, Option.isSome_eq_false_iff, Option.isNone_iff_eq_none] at hnone'
      rw [hentry' hnone', hentry hnone]

omit [Pendzl] in
/-- A registration occupies the next id. -/
lemma Occupied.opens {asset : AccountId} (h : Occupied s) (hr : Registers s s' asset)
    (ho : OpensReserve t s s') : Occupied s' := by
  have hcount := hr.assetCount
  obtain ⟨fees, hfees⟩ := ho.indexes
  refine ⟨fun k => ?_, fun k => ?_, fun k hk i => ?_⟩
  · by_cases hkc : k = s.assetCount
    · rw [hr.reserveDatas, hkc, Mapping.get_insert_self, hcount]
      simp
    · rw [(ho.others k hkc).isSome.1, h.reserveData, hcount]
      omega
  · by_cases hkc : k = s.assetCount
    · rw [hkc, hfees, hcount]
      simp
    · rw [(ho.others k hkc).isSome.2, h.indexes, hcount]
      omega
  · rw [ho.entry]
    exact h.entry k (by omega) i

end LendingPoolStorage

namespace World

variable [Pendzl] {w w' : World} {env : Env} {message : Message}

/-- The step lemma of the occupied ids. -/
lemma execute_occupied (h : w.pool.Occupied) (hex : w.execute env message = .ok w') :
    w'.pool.Occupied := by
  cases hm : message.registers with
  | some asset =>
      obtain ⟨hr, ho⟩ := execute_registers hex hm
      exact h.opens hr ho
  | none =>
      have hcount := (execute_keepsRegistry hex hm).assetCount
      refine ⟨fun k => ?_, fun k => ?_, fun k hk i => ?_⟩
      · rw [(execute_changes hex hm k).isSome.1, hcount]
        exact h.reserveData k
      · rw [(execute_changes hex hm k).isSome.2.1, hcount]
        exact h.indexes k
      · rw [hcount] at hk
        have hnone : w.pool.reserveDatas.get k = none := by
          rw [← Option.not_isSome_iff_eq_none, h.reserveData]
          omega
        rw [(execute_changes hex hm k).isSome.2.2 hnone]
        exact h.entry k hk i

/-- **In every reachable world the reserves are those of the registered assets.** -/
theorem reachable_occupied {kind : Message → Prop} {t : ℕ} (h : Reachable kind t w) :
    w.pool.Occupied := by
  refine TimedRun.Reach.invariant (P := fun w => w.pool.Occupied) (fun w hw => ?_)
    (fun t w w' hP hstep => ?_) h
  · rw [hw.1]
    exact .new
  · obtain ⟨env, message, -, -, hex⟩ := hstep
    exact execute_occupied hP hex

end World

end AbaxLending
