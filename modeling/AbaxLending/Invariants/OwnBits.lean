import AbaxLending.Invariants.Listing
import AbaxLending.Spec.Actions

/-!
The bitmap position of an asset.

The three bitmaps of an account have 128 bits, and the bit of an asset is its id.  Ids are
given out one after the other, and the registration checks the counter for nothing but its
own overflow, so from the 129th asset on the masks and tests of an asset shift by 128 or more.

* `ShiftsInRange`: no function that shifts a bitmap by an id traps on it;
* `OwnBits`: this of every registered asset, and that no two of them share a bit;
* `run_assetCount`: the number of assets after a run is the number of its registrations;
* `own_bits_iff`: the assets have bits of their own exactly after at most 128 registrations.
-/

namespace AbaxLending

open Outcome

/-- The shifts by the id of an asset do not trap: in the four postings to an entry, in the
test that decides whether an action of an account is checked, in the masks of
`set_as_collateral` and of the transfer of a deposit, and in the tests of the loop of the
collateral check and of a liquidation. -/
structure ShiftsInRange (k : ℕ) : Prop where
  increaseDeposit : ∀ (data : AccountReserveData) config reserveData amount,
    NoTrap (data.increaseAccountDeposit k config reserveData amount)
  decreaseDeposit : ∀ (data : AccountReserveData) config reserveData restrictions amount,
    NoTrap (data.decreaseAccountDeposit k config reserveData restrictions amount)
  increaseDebt : ∀ (data : AccountReserveData) config reserveData amount,
    NoTrap (data.increaseAccountDebt k config reserveData amount)
  decreaseDebt : ∀ (data : AccountReserveData) config reserveData amount,
    NoTrap (data.decreaseAccountDebt k config reserveData amount)
  demand : ∀ (st : AccountActionsState) action, NoTrap (st.mustCheckAfter k action)
  mask : NoTrap (bitMask k)
  test : ∀ bitmap, NoTrap (shiftRight bitmap k)

lemma noTrap_bitMask {k : ℕ} : NoTrap (bitMask k) ↔ k < 128 := by
  constructor
  · intro h
    by_contra hk
    refine h ?_
    rw [bitMask, trapIf, if_pos (not_lt.mp hk)]
    rfl
  · intro hk
    rw [bitMask_eq_ok.mpr ⟨hk, rfl⟩]
    exact noTrap_ok _

lemma noTrap_shiftRight {bitmap : Bitmap128} {k : ℕ} (hk : k < 128) :
    NoTrap (shiftRight bitmap k) := by
  rw [shiftRight_eq_ok.mpr ⟨hk, rfl⟩]
  exact noTrap_ok _

namespace AccountConfig

variable {self : AccountConfig} {c : Prop} [Decidable c] {k : ℕ}

lemma noTrap_clearDepositIf (hk : k < 128) : NoTrap (self.clearDepositIf c k) := by
  rw [clearDepositIf_eq_ok.mpr ⟨fun _ => hk, rfl⟩]
  exact noTrap_ok _

lemma noTrap_clearCollateralIf (hk : k < 128) : NoTrap (self.clearCollateralIf c k) := by
  rw [clearCollateralIf_eq_ok.mpr ⟨fun _ => hk, rfl⟩]
  exact noTrap_ok _

lemma noTrap_clearBorrowIf (hk : k < 128) : NoTrap (self.clearBorrowIf c k) := by
  rw [clearBorrowIf_eq_ok.mpr ⟨fun _ => hk, rfl⟩]
  exact noTrap_ok _

end AccountConfig

/-- **The shifts by an id are in range exactly when the bitmaps have a bit for it.** -/
theorem shiftsInRange_iff {k : ℕ} : ShiftsInRange k ↔ k < 128 := by
  constructor
  · intro h
    exact noTrap_bitMask.mp h.mask
  · intro hk
    have hmask : NoTrap (bitMask k) := noTrap_bitMask.mpr hk
    refine ⟨fun data config rd amount => ?_, fun data config rd restrictions amount => ?_,
      fun data config rd amount => ?_, fun data config rd amount => ?_, fun st action => ?_, hmask,
      fun bitmap => noTrap_shiftRight hk⟩
    · refine hmask.bind fun _ _ => (noTrap_okOr _ _).bind fun _ _ => ?_
      exact ((noTrap_okOr _ _).bind fun _ _ => noTrap_ok _).bind fun _ _ => noTrap_ok _
    · refine (AccountConfig.noTrap_clearDepositIf hk).bind fun _ _ =>
        (noTrap_okOr _ _).bind fun _ _ => ?_
      refine ((noTrap_okOr _ _).bind fun _ _ => noTrap_ok _).bind fun _ _ => ?_
      exact (AccountConfig.noTrap_clearCollateralIf hk).bind fun _ _ => noTrap_ok _
    · refine hmask.bind fun _ _ => (noTrap_okOr _ _).bind fun _ _ => ?_
      exact ((noTrap_okOr _ _).bind fun _ _ => noTrap_ok _).bind fun _ _ => noTrap_ok _
    · refine (AccountConfig.noTrap_clearBorrowIf hk).bind fun _ _ =>
        (noTrap_okOr _ _).bind fun _ _ => ?_
      exact ((noTrap_okOr _ _).bind fun _ _ => noTrap_ok _).bind fun _ _ => noTrap_ok _
    · unfold AccountActionsState.mustCheckAfter
      cases action.op with
      | deposit | borrow | repay => exact noTrap_ok _
      | withdraw => exact (noTrap_shiftRight hk).bind fun _ _ => noTrap_ok _

/-- The masks of two ids below 128 differ; also where a shift wraps, as it does without
overflow checks. -/
lemma mask_injective {j k : ℕ} (hj : j < 128) (hk : k < 128)
    (h : 1#128 <<< (j % 128) = 1#128 <<< (k % 128)) : j = k := by
  rw [Nat.mod_eq_of_lt hj, Nat.mod_eq_of_lt hk] at h
  have hbit : (1#128 <<< j).getLsbD j = (1#128 <<< k).getLsbD j := by rw [h]
  rw [Bitmap.getLsbD_mask, Bitmap.getLsbD_mask, decide_eq_true ⟨hj, rfl⟩] at hbit
  exact (of_decide_eq_true hbit.symm).2

namespace LendingPoolStorage

/-- Every registered asset has a bitmap position of its own: no shift by its id traps, and
with shifts that wrap no other asset has its mask. -/
structure OwnBits (s : LendingPoolStorage) : Prop where
  inRange : ∀ asset k, s.assetToId.get asset = some k → ShiftsInRange k
  apart : ∀ asset asset' k k', s.assetToId.get asset = some k →
    s.assetToId.get asset' = some k' → 1#128 <<< (k % 128) = 1#128 <<< (k' % 128) →
    asset = asset'

/-- The bits reach as far as the ids. -/
lemma ownBits_iff_assetCount {s : LendingPoolStorage} (hids : s.IdsUnique) (hl : s.Listed) :
    s.OwnBits ↔ s.assetCount ≤ 128 := by
  constructor
  · intro h
    by_contra hmany
    -- the 129th asset has the id 128
    have hsome := (hl.ids 128).mpr (not_le.mp hmany)
    obtain ⟨asset, hasset⟩ := Option.isSome_iff_exists.mp hsome
    have hk := h.inRange asset 128 ((hl.inverse asset 128).mpr hasset)
    exact absurd (shiftsInRange_iff.mp hk) (lt_irrefl 128)
  · intro hle
    have hbelow : ∀ asset k, s.assetToId.get asset = some k → k < 128 :=
      fun asset k hk => (hids.below asset k hk).trans_le hle
    refine ⟨fun asset k hk => shiftsInRange_iff.mpr (hbelow asset k hk),
      fun asset asset' k k' hk hk' hmask => ?_⟩
    cases mask_injective (hbelow asset k hk) (hbelow asset' k' hk') hmask
    exact hids.inj asset asset' k hk hk'

end LendingPoolStorage

namespace World

/-- The number of `register_asset` messages of a list. -/
def registrations (messages : List (Env × Message)) : ℕ :=
  messages.countP fun m => m.2.registers.isSome

section

variable [Pendzl] {w w' : World} {env : Env} {message : Message}

/-- A message gives out an id exactly when it registers an asset. -/
lemma execute_assetCount_eq (hex : w.execute env message = .ok w') :
    w'.pool.assetCount = w.pool.assetCount + if message.registers.isSome then 1 else 0 := by
  cases hm : message.registers with
  | some asset => exact (execute_registers hex hm).1.assetCount
  | none => exact (execute_keepsRegistry hex hm).assetCount

/-- **Ids count the registrations of a run.** -/
theorem run_assetCount {messages : List (Env × Message)} (h : w.run messages = some w') :
    w'.pool.assetCount = w.pool.assetCount + registrations messages := by
  induction messages generalizing w with
  | nil =>
      simp only [run_nil, Option.some.injEq] at h
      rw [h]
      rfl
  | cons head rest ih =>
      obtain ⟨env, message⟩ := head
      obtain ⟨w₁, hex, h⟩ := run_cons_eq_some.mp h
      have hstep := execute_assetCount_eq hex
      have hrest := ih h
      have hcount : registrations ((env, message) :: rest)
          = registrations rest + if message.registers.isSome then 1 else 0 :=
        List.countP_cons
      omega

/-- **Every registered asset has its own bitmap position, up to 128 of them.**  After a run
from an initial world no shift by the id of a registered asset is out of range, and no two
registered assets share a bit, exactly when at most 128 of its messages registered an asset. -/
theorem own_bits_iff {w₀ : World} {messages : List (Env × Message)} (hinit : w₀.IsInitial)
    (hadm : Admissible (fun _ => True) 0 messages) (hrun : w₀.run messages = some w) :
    w.pool.OwnBits ↔ registrations messages ≤ 128 := by
  have hreach : Reachable (fun _ => True) (lastTime 0 messages) w :=
    run_reachable (.start hinit) hadm hrun
  have hcount := run_assetCount hrun
  have hzero : w₀.pool.assetCount = 0 := by
    rw [hinit.1]
    rfl
  rw [hzero, Nat.zero_add] at hcount
  rw [← hcount]
  exact LendingPoolStorage.ownBits_iff_assetCount (reachable_linked hreach).ids
    (reachable_listing hreach).1

end

end World

namespace Sample

/-- The registrations of 129 assets, the last one `account 228`. -/
def crowded : List (Env × Message) :=
  (env admin 0, .addMarketRule []) :: (List.range 129).map fun i => register (100 + i)

end Sample

namespace World

attribute [local instance] Pendzl.exact in
/-- The two assets of the sample pool have their own bits. -/
theorem own_bits_iff_setup : ∃ w, Sample.world.run Sample.setup = some w ∧ w.pool.OwnBits := by
  have hrun : (Sample.world.run Sample.setup).isSome = true := by decide +kernel
  obtain ⟨w, hw⟩ := Option.isSome_iff_exists.mp hrun
  exact ⟨w, hw, (own_bits_iff Sample.world_isInitial (by decide) hw).mpr (by decide)⟩

attribute [local instance] Pendzl.exact in
/-- **The 129th asset has no bit.**  It is registered like the others, and a deposit of it
traps. -/
theorem crowded_no_bit :
    ∃ w, Sample.world.run Sample.crowded = some w
      ∧ w.pool.assetToId.get (Sample.account 228) = some 128
      ∧ w.execute (Sample.env (Sample.account 2) 1)
        (.deposit (Sample.account 228) (Sample.account 2) 1000) = .error .trap
      ∧ ¬ w.pool.OwnBits := by
  have hrun : (Sample.world.run Sample.crowded).map (fun w =>
        (w.pool.assetToId.get (Sample.account 228),
          failsWith .trap (w.execute (Sample.env (Sample.account 2) 1)
            (.deposit (Sample.account 228) (Sample.account 2) 1000))))
      = some (some 128, true) := by decide +kernel
  obtain ⟨w, hw, hv⟩ := Option.map_eq_some_iff.mp hrun
  obtain ⟨hk, htrap⟩ := Prod.mk.inj hv
  refine ⟨w, hw, hk, failsWith_eq_true.mp htrap, fun h => ?_⟩
  exact absurd (shiftsInRange_iff.mp (h.inRange _ 128 hk)) (lt_irrefl 128)

end World

end AbaxLending
