import AbaxLending.Contract.Run
import AbaxLending.Spec.Transfers

/-!
Which entries a transfer touches.

A transfer of a deposit or of a debt is meant to touch the entries of its two accounts
in its asset only (`TransferFrame`).  One of the two accounts is written through
`insert_account_data`, which inserts an element where it should replace one: the entries
behind the asset move by one place, and the vector becomes longer than the number of
registered assets.

* `putPair_entries_iff`: the other entries survive exactly when the inserted account
  has no entry from the asset on;
* `transfer_frame_never`: no transfer between distinct accounts keeps the frame, as the
  vector always becomes too long.
-/

namespace AbaxLending

open Outcome

namespace LendingPoolStorage

/-- The frame of a transfer in an asset: the other entries stay, and no vector becomes
longer than the number of registered assets. -/
structure TransferFrame (s s' : LendingPoolStorage) (k : ℕ) (fromAccount toAccount : AccountId) :
    Prop where
  entries : ∀ a j, (a, j) ≠ (fromAccount, k) → (a, j) ≠ (toAccount, k) →
    s'.entry a j = s.entry a j
  lengths : ∀ a w, s'.accountReserveDatas.get a = some w → w.length ≤ s.assetCount
    ∨ ∃ v, s.accountReserveDatas.get a = some v ∧ w.length ≤ v.length

section

variable {s : LendingPoolStorage} {a inserted replaced : AccountId} {j k : ℕ}
  {v : List (Option AccountReserveData)} {insertedData replacedData : AccountReserveData}
  {insertedConfig replacedConfig : AccountConfig}

/-- Resizing does not make a vector shorter. -/
lemma length_le_getAccountDatas (h : s.accountReserveDatas.get a = some v) :
    v.length ≤ (s.getAccountDatas a).length := by
  simp only [getAccountDatas, h, Option.getD_some]
  split_ifs
  · rw [List.length_append]
    omega
  · exact le_rfl

/-- Behind the vector there is no entry. -/
lemma entry_eq_none_of_length_le (h : (s.getAccountDatas a).length ≤ j) : s.entry a j = none := by
  rw [← getAccountDatas_join, List.getElem?_eq_none h]
  rfl

/-- **When an insertion keeps the other entries**: the account that is inserted to has
no entry from the asset on. -/
theorem putPair_entries_iff (hne : inserted ≠ replaced)
    (hv : s.accountReserveDatas.get replaced = some v) (hkv : k < v.length)
    (hk : k ≤ (s.getAccountDatas inserted).length) :
    (∀ a j, (a, j) ≠ (inserted, k) → (a, j) ≠ (replaced, k) →
      (s.putPair k inserted replaced insertedData replacedData insertedConfig replacedConfig
        v).entry a j = s.entry a j)
    ↔ ∀ j, k ≤ j → s.entry inserted j = none := by
  constructor
  · intro h
    -- every entry from the asset on equals the next one, and far enough there is none
    have hnext : ∀ j, k ≤ j → s.entry inserted j = s.entry inserted (j + 1) := by
      intro j hj
      have hkeep := h inserted (j + 1) (by simp; omega) (by simp [hne])
      rw [entry_putPair_inserted hne hk, if_neg (by omega), if_neg (by omega),
        Nat.add_sub_cancel] at hkeep
      exact hkeep
    have hfar : ∀ n j, k ≤ j → s.entry inserted j = s.entry inserted (j + n) := by
      intro n
      induction n with
      | zero => exact fun j _ => rfl
      | succ n ih =>
          intro j hj
          rw [ih j hj, hnext (j + n) (by omega)]
          rfl
    intro j hj
    rw [hfar (s.getAccountDatas inserted).length j hj]
    exact entry_eq_none_of_length_le (by omega)
  · intro h a j hi hr
    by_cases hai : a = inserted
    · subst hai
      have hjk : j ≠ k := fun heq => hi (by rw [heq])
      rw [entry_putPair_inserted hne hk]
      split_ifs with hlt
      · rfl
      · rw [h (j - 1) (by omega), h j (by omega)]
    · by_cases har : a = replaced
      · subst har
        have hjk : j ≠ k := fun heq => hr (by rw [heq])
        rw [entry_putPair_replaced hv hkv, if_neg hjk]
      · exact entry_putPair_of_ne hai har

/-- An insertion makes the vector longer than the number of assets, and longer than it
was before. -/
lemma putPair_too_long (hne : inserted ≠ replaced) (hk : k ≤ (s.getAccountDatas inserted).length)
    (insertedData replacedData : AccountReserveData)
    (insertedConfig replacedConfig : AccountConfig) (v : List (Option AccountReserveData)) :
    ∃ w, (s.putPair k inserted replaced insertedData replacedData insertedConfig replacedConfig
        v).accountReserveDatas.get inserted = some w
      ∧ s.assetCount < w.length
      ∧ ∀ v₀, s.accountReserveDatas.get inserted = some v₀ → v₀.length < w.length := by
  obtain ⟨w, hw, hlen⟩ := length_putPair_inserted hne hk insertedData replacedData insertedConfig
    replacedConfig v
  have hcount : s.assetCount ≤ (s.getAccountDatas inserted).length :=
    assetCount_le_length_getAccountDatas
  refine ⟨w, hw, by omega, fun v₀ hv₀ => ?_⟩
  have hle := length_le_getAccountDatas hv₀
  omega

end

section

variable [Pendzl] {s : LendingPoolStorage} {env : Env}
  {asset fromAccount toAccount : AccountId} {amount t : ℕ}

/-- A deposit transfer leaves the vector of the receiver too long. -/
lemma DepositTransfer.not_frame (r : DepositTransfer s env asset fromAccount toAccount amount t)
    (hne : fromAccount ≠ toAccount) : ¬TransferFrame s r.written r.k fromAccount toAccount := by
  intro h
  have hin : r.k ≤ ((r.reserveWritten s).getAccountDatas toAccount).length := r.inRange
  obtain ⟨w, hw, hcount, hold⟩ := putPair_too_long hne.symm hin r.second.data r.first.data
    r.second.config r.first.config r.fromDatas
  rcases h.lengths toAccount w hw with hle | ⟨v, hv, hle⟩
  · exact absurd hle (not_le.mpr hcount)
  · exact absurd hle (not_le.mpr (hold v hv))

/-- A debt transfer leaves the vector of the giver too long. -/
lemma DebtTransfer.not_frame (r : DebtTransfer s env asset fromAccount toAccount amount t)
    (hne : fromAccount ≠ toAccount) : ¬TransferFrame s r.written r.k fromAccount toAccount := by
  intro h
  have hin : r.k ≤ ((r.reserveWritten s).getAccountDatas fromAccount).length := r.inRange
  obtain ⟨w, hw, hcount, hold⟩ := putPair_too_long hne hin r.first.data r.second.data
    r.first.config r.second.config r.toDatas
  rcases h.lengths fromAccount w hw with hle | ⟨v, hv, hle⟩
  · exact absurd hle (not_le.mpr hcount)
  · exact absurd hle (not_le.mpr (hold v hv))

/-- **When a deposit transfer keeps the other entries**: the receiver has no entry from
the asset on. -/
theorem DepositTransfer.entries_iff
    (r : DepositTransfer s env asset fromAccount toAccount amount t)
    (hne : fromAccount ≠ toAccount) :
    (∀ a j, (a, j) ≠ (toAccount, r.k) → (a, j) ≠ (fromAccount, r.k) →
      r.written.entry a j = s.entry a j) ↔ ∀ j, r.k ≤ j → s.entry toAccount j = none := by
  obtain ⟨hk, -⟩ := List.getElem?_eq_some_iff.mp r.fromData_eq
  exact putPair_entries_iff (s := r.reserveWritten s) hne.symm r.fromDatas_eq hk r.inRange

/-- **When a debt transfer keeps the other entries**: the giver has no entry from the
asset on. -/
theorem DebtTransfer.entries_iff
    (r : DebtTransfer s env asset fromAccount toAccount amount t)
    (hne : fromAccount ≠ toAccount) :
    (∀ a j, (a, j) ≠ (fromAccount, r.k) → (a, j) ≠ (toAccount, r.k) →
      r.written.entry a j = s.entry a j) ↔ ∀ j, r.k ≤ j → s.entry fromAccount j = none :=
  putPair_entries_iff (s := r.reserveWritten s) hne r.toDatas_eq r.toInRange r.inRange

/-- **No transfer between distinct accounts keeps the frame.** -/
theorem transfer_frame_never {res : TransferResult} {k : ℕ}
    (hk : s.assetToId.get asset = some k) (hne : fromAccount ≠ toAccount)
    (h : s.accountForDepositTransferFromTo env asset fromAccount toAccount amount t = .ok res
      ∨ s.accountForDebtTransferFromTo env asset fromAccount toAccount amount t = .ok res) :
    ¬TransferFrame s res.storage k fromAccount toAccount := by
  rcases h with h | h
  · obtain ⟨r, rfl⟩ := accountForDepositTransferFromTo_ok h
    cases hk.symm.trans r.registered
    exact r.not_frame hne
  · obtain ⟨r, rfl⟩ := accountForDebtTransferFromTo_ok h
    cases hk.symm.trans r.registered
    exact r.not_frame hne

end

attribute [local instance] Pendzl.exact in
/-- `account 3` transfers `10` of its deposit in the first asset to `account 4`: the deposit
of `account 4` in the second asset was `700` and reads as `500` afterwards. -/
lemma depositors_transfer :
    ∃ w res, Sample.world.run Sample.depositors = some w ∧ World.Reachable (fun _ => True) 1 w
      ∧ w.pool.accountForDepositTransferFromTo (Sample.env (Sample.account 1100) 2)
          (Sample.account 100) (Sample.account 3) (Sample.account 4) 10 2 = .ok res
      ∧ w.pool.assetToId.get (Sample.account 100) = some 0
      ∧ (w.pool.position (Sample.account 4) 1).deposit = 700
      ∧ (res.storage.position (Sample.account 4) 1).deposit = 500 := by
  have hrun : (Sample.world.run Sample.depositors).map (fun w =>
        ((w.pool.accountForDepositTransferFromTo (Sample.env (Sample.account 1100) 2)
            (Sample.account 100) (Sample.account 3) (Sample.account 4) 10 2).toOption.map
          fun res => (res.storage.position (Sample.account 4) 1).deposit,
        w.pool.assetToId.get (Sample.account 100),
        (w.pool.position (Sample.account 4) 1).deposit))
      = some (some 500, some 0, 700) := by
    decide +kernel
  obtain ⟨w, hw, hreach, hv⟩ :=
    World.run_reaches (fun _ => True) Sample.world_isInitial (by decide) hrun
  simp only [Prod.mk.injEq] at hv
  obtain ⟨hres, hk, hbefore⟩ := hv
  obtain ⟨res, hok, hafter⟩ := Option.map_eq_some_iff.mp hres
  exact ⟨w, res, hw, hreach, toOption_eq_some.mp hok, hk, hbefore, hafter⟩

attribute [local instance] Pendzl.exact in
/-- The transfer of the sample run does not keep the frame. -/
theorem transfer_frame_never_sample :
    ∃ w res, Sample.world.run Sample.depositors = some w
      ∧ w.pool.accountForDepositTransferFromTo (Sample.env (Sample.account 1100) 2)
          (Sample.account 100) (Sample.account 3) (Sample.account 4) 10 2 = .ok res
      ∧ ¬TransferFrame w.pool res.storage 0 (Sample.account 3) (Sample.account 4) := by
  obtain ⟨w, res, hw, -, hres, hk, -, -⟩ := depositors_transfer
  exact ⟨w, res, hw, hres, transfer_frame_never hk (by decide) (.inl hres)⟩

attribute [local instance] Pendzl.exact in
/-- **A transfer changes an entry in another asset**: in a reachable state the deposit of
the receiver in the second asset changes when it receives some of the first one. -/
theorem depositTransfer_shifts :
    ∃ w res, World.Reachable (fun _ => True) 1 w
      ∧ w.pool.accountForDepositTransferFromTo (Sample.env (Sample.account 1100) 2)
          (Sample.account 100) (Sample.account 3) (Sample.account 4) 10 2 = .ok res
      ∧ w.pool.assetToId.get (Sample.account 100) = some 0
      ∧ ¬TransferFrame w.pool res.storage 0 (Sample.account 3) (Sample.account 4) := by
  obtain ⟨w, res, -, hreach, hres, hk, hbefore, hafter⟩ := depositors_transfer
  refine ⟨w, res, hreach, hres, hk, fun hframe => ?_⟩
  have hentry := hframe.entries (Sample.account 4) 1 (by decide) (by decide)
  rw [position, hentry] at hafter
  rw [position] at hbefore
  omega

end LendingPoolStorage

end AbaxLending
