import AbaxLending.Contract.Run
import AbaxLending.Invariants.Registry
import AbaxLending.Spec.Power
import AbaxLending.Spec.Visits

/-!
The check inside a transfer of a deposit.

`account_for_deposit_transfer_from_to` checks the sender itself, if `collaterals & (1 << id)`
of the config after the withdrawal is `1`.  That comparison tests bit `0` whatever the id is,
and the withdrawal has already cleared the bit where too little of the deposit stays; the
actions of an account read their bit with a shift, before the withdrawal.

* `depositTransferSteps`: the transfer up to the test, with `accountForDepositTransferFromTo_eq`;
* `enforce_eq`: the check of the sender as a check on the state before the transfer;
* `depositTransfer_enforces_iff`: when a transfer of a collateral enforces the check by itself.
-/

namespace AbaxLending

open Outcome

/-- What a transfer of a deposit has at hand when it decides about the check. -/
structure TransferSteps where
  assetId : ℕ
  storage : LendingPoolStorage
  fromDatas : List (Option AccountReserveData)
  fromConfig : AccountConfig
  toDatas : List (Option AccountReserveData)
  toData : AccountReserveData
  toConfig : AccountConfig
  interests : List (ℕ × ℕ)

namespace LendingPoolStorage

section

variable [Pendzl] (self : LendingPoolStorage)

/-- `account_for_deposit_transfer_from_to` up to the test. -/
def depositTransferSteps (env : Env) (asset fromAccount toAccount : AccountId)
    (amount : ℕ) (timestamp : ℕ) : Res TransferSteps := do
  let assetId ← self.assetId asset
  let fromConfig ← okOr (self.accountConfigs.get fromAccount) .insufficientDeposit
  let fromDatas ← okOr (self.accountReserveDatas.get fromAccount) .insufficientDeposit
  let toConfig := self.getAccountConfig toAccount
  let (toData, toDatas) := self.getAccountReserveData assetId toAccount
  let fromFeeReductions := self.getFeeReductionsOfAccount env fromAccount
  let toFeeReductions := self.getFeeReductionsOfAccount env toAccount
  let fromData ← okOr (← unwrap fromDatas[assetId]?) .insufficientDeposit
  let res ← self.accountForReserveAction assetId [fromData, toData] [fromConfig, toConfig]
    [fromFeeReductions, toFeeReductions] [.depositTransfer 0 1 amount false] timestamp
  let fromData ← unwrap res.accountsData[0]?
  let toData ← unwrap res.accountsData[1]?
  let fromConfig ← unwrap res.accountsConfig[0]?
  let toConfig ← unwrap res.accountsConfig[1]?
  return {
    assetId
    storage := res.storage
    fromDatas := fromDatas.set assetId (some fromData)
    fromConfig
    toDatas
    toData
    toConfig
    interests := res.interests }

end

end LendingPoolStorage

namespace TransferSteps

section

variable [Pendzl] (r : TransferSteps)

/-- The check of the sender, `ensure_collateralized_from_raw` on its new vector and config. -/
def enforce (env : Env) (fromAccount : AccountId) : Res Unit :=
  r.storage.ensureCollateralizedFromRaw env r.fromDatas r.fromConfig
    (r.storage.getFeeReductionsOfAccount env fromAccount)

omit [Pendzl] in
/-- What the transfer does after the check: both accounts are written. -/
def write (fromAccount toAccount : AccountId) : Res LendingPoolStorage.TransferResult := do
  let self ← r.storage.insertAccountData r.toDatas r.assetId r.toData toAccount
  return {
    storage := ((self.putDatas fromAccount r.fromDatas).putConfig fromAccount
      r.fromConfig).putConfig toAccount r.toConfig
    fromInterests := ← unwrap r.interests[0]?
    toInterests := ← unwrap r.interests[1]? }

end

end TransferSteps

namespace LendingPoolStorage

section

variable [Pendzl] {s : LendingPoolStorage} {env : Env} {asset fromAccount toAccount : AccountId}
  {amount t k : ℕ}

/-- **A transfer of a deposit**: its steps, the check where the test of the source says so, and
the writes. -/
theorem accountForDepositTransferFromTo_eq :
    s.accountForDepositTransferFromTo env asset fromAccount toAccount amount t = (do
      let r ← s.depositTransferSteps env asset fromAccount toAccount amount t
      if r.fromConfig.collaterals &&& (← bitMask r.assetId) = 1#128 then
        r.enforce env fromAccount
      r.write fromAccount toAccount) := by
  simp only [accountForDepositTransferFromTo, depositTransferSteps, TransferSteps.enforce,
    TransferSteps.write, bind_assoc, pure_eq, ok_bind]

/-- What the steps before the test do. -/
lemma depositTransferSteps_ok {r : TransferSteps}
    (h : s.depositTransferSteps env asset fromAccount toAccount amount t = .ok r) :
    ∃ k fromDatas fromData ctx first second reserveData i e,
      s.assetToId.get asset = some k
      ∧ s.accountReserveDatas.get fromAccount = some fromDatas
      ∧ fromDatas[k]? = some (some fromData) ∧ s.Opened k t ctx
      ∧ ctx.accountForWithdraw fromData (s.getAccountConfig fromAccount)
        (s.getFeeReductionsOfAccount env fromAccount) amount false = .ok first
      ∧ first.ctx.accountForDeposit (s.position toAccount k) (s.getAccountConfig toAccount)
        (s.getFeeReductionsOfAccount env toAccount) first.amount = .ok second
      ∧ r = {
          assetId := k
          storage := (s.withRing i e).putReserve k reserveData second.ctx.reserveIndexesAndFees
          fromDatas := fromDatas.set k (some first.data)
          fromConfig := first.config
          toDatas := s.getAccountDatas toAccount
          toData := second.data
          toConfig := second.config
          interests := [first.interests, second.interests] } := by
  simp only [depositTransferSteps, assetId, getAccountReserveData_eq, bind_eq_ok, okOr_eq_ok,
    unwrap_eq_ok, pure_eq, Except.ok.injEq] at h
  obtain ⟨k, hk, fc, hfc, fds, hfds, o, ho, fd, rfl, res, hres, h⟩ := h
  obtain ⟨ctx, first, second, rd, i, e, hctx, h₁, h₂, -, rfl⟩ :=
    accountForReserveAction_depositTransfer hres
  simp only [List.getElem?_cons_zero, List.getElem?_cons_succ, Option.some.injEq,
    exists_eq_left'] at h
  have hconfig : s.getAccountConfig fromAccount = fc := by simp [getAccountConfig, hfc]
  exact ⟨k, fds, fd, ctx, first, second, rd, i, e, hk, hfds, ho, hctx, hconfig ▸ h₁, h₂, h.symm⟩

/-- The writes after the check do not fail where the receiver's vector reaches to the asset. -/
lemma depositTransferSteps_writes (hids : s.IdsUnique) {r : TransferSteps}
    (h : s.depositTransferSteps env asset fromAccount toAccount amount t = .ok r) :
    ∃ res, r.write fromAccount toAccount = .ok res := by
  obtain ⟨k, fds, fd, ctx, first, second, rd, i, e, hk, -, -, -, -, -, rfl⟩ :=
    depositTransferSteps_ok h
  have hlen : ¬(s.getAccountDatas toAccount).length < k :=
    not_lt.mpr ((hids.below asset k hk).le.trans assetCount_le_length_getAccountDatas)
  simp only [TransferSteps.write, insertAccountData, trapIf, if_neg hlen, ok_bind, pure_eq]
  exact ⟨_, rfl⟩

/-- The check passes or fails for the sender before the transfer, with its accrued deposit of
asset `k` less the amount and the bits that this leaves it: its stored vector with that entry,
under the indexes at the time of the transfer. -/
def checkWithout (s : LendingPoolStorage) (env : Env) (account : AccountId) (k amount : ℕ)
    (indexes : ReserveIndexes) (fees : ReserveFees) (minimalCollateral : ℕ)
    (accrued : AccountReserveData) : Res Unit :=
  (s.putIndexesAndFees k ⟨indexes, fees⟩).ensureCollateralizedFromRaw env
    (((s.accountReserveDatas.get account).getD []).set k
      (some { accrued with deposit := accrued.deposit - amount }))
    ((s.getAccountConfig account).afterWithdraw k (amount = accrued.deposit)
      (accrued.deposit - amount < minimalCollateral))
    (s.getFeeReductionsOfAccount env account)

/-- **The check of the sender is a check on the state before**: what the transfer writes to
the reserve besides the indexes does not count. -/
theorem enforce_eq {r : TransferSteps}
    (h : s.depositTransferSteps env asset fromAccount toAccount amount t = .ok r) :
    ∃ rd i restrictions indexes a, s.assetToId.get asset = some r.assetId
      ∧ s.reserveDatas.get r.assetId = some rd
      ∧ s.reserveIndexesAndFees.get r.assetId = some i
      ∧ s.reserveRestrictions.get r.assetId = some restrictions
      ∧ i.indexes.update rd t = .ok indexes
      ∧ (s.position fromAccount r.assetId).accumulateAccountInterest indexes i.fees
        (s.getFeeReductionsOfAccount env fromAccount) = .ok a
      ∧ r.fromConfig = (s.getAccountConfig fromAccount).afterWithdraw r.assetId
        (amount = a.data.deposit) (a.data.deposit - amount < restrictions.minimalCollateral)
      ∧ r.enforce env fromAccount = s.checkWithout env fromAccount r.assetId amount indexes i.fees
        restrictions.minimalCollateral a.data := by
  obtain ⟨k, fds, fd, ctx, first, second, rd, ring, entries, hk, hfds, hfd, hctx, h₁, h₂, rfl⟩ :=
    depositTransferSteps_ok h
  obtain ⟨i, hi, hindexes, hfees⟩ := hctx.indexes
  obtain ⟨a, n, ha, hn, -, -, -, -, -, hfirst⟩ := ReserveDataContext.accountForWithdraw_ok h₁
  have hamount : n = amount := by
    rw [hn, if_neg (by simp)]
  have hposition : s.position fromAccount k = fd := by simp [position, entry, hfds, hfd]
  have hdata : first.data = { a.data with deposit := a.data.deposit - amount } := by
    rw [hfirst, hamount]
  have hconfig : first.config = (s.getAccountConfig fromAccount).afterWithdraw k
      (amount = a.data.deposit)
      (a.data.deposit - amount < ctx.reserveRestrictions.minimalCollateral) := by
    rw [hfirst, hamount, hctx.assetId]
  have hsecond : second.ctx.reserveIndexesAndFees.indexes = ctx.reserveIndexesAndFees.indexes :=
    ((ReserveDataContext.accountForWithdraw_continues h₁).trans
      (ReserveDataContext.accountForDeposit_continues h₂)).indexes
  obtain ⟨hd, hb⟩ := AccountReserveData.accumulateAccountInterest_caughtUp ha
  have hd' : ctx.reserveIndexesAndFees.indexes.depositIndexE18
      ≤ first.data.appliedDepositIndexE18 := by
    rw [hdata]
    exact hd
  have hb' : ctx.reserveIndexesAndFees.indexes.debtIndexE18
      ≤ first.data.appliedDebtIndexE18 := by
    rw [hdata]
    exact hb
  refine ⟨ctx.reserveData, i, ctx.reserveRestrictions, ctx.reserveIndexesAndFees.indexes, a, hk,
    hctx.reserveData, hi, hctx.restrictions, hindexes, ?_, hconfig, ?_⟩
  · rw [hposition, ← hfees]
    exact ha
  · have hpricing : SamePricing (s.putIndexesAndFees k ⟨ctx.reserveIndexesAndFees.indexes, i.fees⟩)
        ((s.withRing ring entries).putReserve k rd second.ctx.reserveIndexesAndFees) :=
      ⟨rfl, rfl, rfl, rfl, rfl⟩
    show ((s.withRing ring entries).putReserve k rd
        second.ctx.reserveIndexesAndFees).ensureCollateralizedFromRaw env
        (fds.set k (some first.data)) first.config (s.getFeeReductionsOfAccount env fromAccount) = _
    rw [checkWithout, hfds, Option.getD_some, hconfig, ← hdata]
    refine ensureCollateralizedFromRaw_congr_assets hpricing (fun _ _ => rfl)
      fun rule prices j data powers _ hentry => ?_
    by_cases hj : j = k
    · -- the sender's entry is caught up, so the fees do not matter
      have hlt : k < fds.length := (List.getElem?_eq_some_iff.mp hfd).1
      rw [getElem?_set_join fds hlt, if_pos hj, Option.some.injEq] at hentry
      rw [hj, ← hentry]
      exact addAssetPower_caughtUp hpricing (Mapping.get_insert_self ..)
        (Mapping.get_insert_self ..) hsecond hd' hb' ..
    · refine addAssetPower_congr hpricing ?_ ..
      show (((s.reserveIndexesAndFees.insert k _).get j).map _) = (((s.reserveIndexesAndFees.insert
        k _).get j).map _)
      rw [Mapping.get_insert_of_ne _ hj, Mapping.get_insert_of_ne _ hj]

/-! ### When the check is enforced -/

/-- The transfer enforces the check of the sender by itself: where its steps succeed, it
returns only if the new vector and config of the sender pass the check, and returns
`InsufficientCollateral`, with nothing written, if they do not. -/
def EnforcesCollateral (s : LendingPoolStorage) (env : Env)
    (asset fromAccount toAccount : AccountId) (amount t : ℕ) : Prop :=
  ∀ r, s.depositTransferSteps env asset fromAccount toAccount amount t = .ok r →
    ((∃ res, s.accountForDepositTransferFromTo env asset fromAccount toAccount amount t = .ok res) →
      r.enforce env fromAccount = .ok ())
    ∧ (r.enforce env fromAccount = .error (.err .insufficientCollateral) →
      s.accountForDepositTransferFromTo env asset fromAccount toAccount amount t
        = .error (.err .insufficientCollateral))

/-- The test of the source is taken, or does not matter: the asset has the id `0` and the
deposit that stays is not below the minimal collateral, or the sender passes the check with its
accrued deposit less the amount. -/
def CheckedOrCovered (s : LendingPoolStorage) (env : Env) (account : AccountId)
    (k amount t : ℕ) : Prop :=
  ∀ rd r restrictions indexes a, s.reserveDatas.get k = some rd →
    s.reserveIndexesAndFees.get k = some r → s.reserveRestrictions.get k = some restrictions →
    r.indexes.update rd t = .ok indexes →
    (s.position account k).accumulateAccountInterest indexes r.fees
      (s.getFeeReductionsOfAccount env account) = .ok a →
    (k = 0 ∧ restrictions.minimalCollateral ≤ a.data.deposit - amount)
      ∨ s.checkWithout env account k amount indexes r.fees restrictions.minimalCollateral a.data
        = .ok ()

/-- **When a transfer of a collateral enforces the check by itself**: exactly when its test
is taken or does not matter. -/
theorem enforcesCollateral_iff (hids : s.IdsUnique) (hk : s.assetToId.get asset = some k)
    (hmark : (s.getAccountConfig fromAccount).collaterals.getLsbD k = true) :
    s.EnforcesCollateral env asset fromAccount toAccount amount t
      ↔ ∀ r, s.depositTransferSteps env asset fromAccount toAccount amount t = .ok r →
        s.CheckedOrCovered env fromAccount k amount t := by
  have hword : k < 128 := by
    by_contra hge
    rw [BitVec.getLsbD_of_ge _ _ (not_lt.mp hge)] at hmark
    cases hmark
  refine forall_congr' fun r => forall_congr' fun hsteps => ?_
  obtain ⟨rd, i, restrictions, indexes, a, hid, hrd, hi, hrestrictions, hup, ha, hconfig,
    hcheck⟩ := enforce_eq hsteps
  obtain ⟨res, hwrite⟩ := depositTransferSteps_writes hids hsteps
  cases hk.symm.trans hid
  have hcondition : s.CheckedOrCovered env fromAccount r.assetId amount t
      ↔ (r.assetId = 0 ∧ restrictions.minimalCollateral ≤ a.data.deposit - amount)
        ∨ r.enforce env fromAccount = .ok () := by
    rw [hcheck]
    constructor
    · exact fun h => h rd i restrictions indexes a hrd hi hrestrictions hup ha
    · intro h rd' i' restrictions' indexes' a' hrd' hi' hrestrictions' hup' ha'
      cases hrd.symm.trans hrd'
      cases hi.symm.trans hi'
      cases hrestrictions.symm.trans hrestrictions'
      cases hup.symm.trans hup'
      cases ha.symm.trans ha'
      exact h
  have htest : r.fromConfig.collaterals &&& 1#128 <<< r.assetId = 1#128
      ↔ r.assetId = 0 ∧ restrictions.minimalCollateral ≤ a.data.deposit - amount := by
    rw [Bitmap.and_mask_eq_one _ (by norm_num), hconfig]
    refine and_congr_right fun hzero => ?_
    rw [AccountConfig.afterWithdraw_collaterals_bit, ← hzero, hmark]
    simp
  have hrun : s.accountForDepositTransferFromTo env asset fromAccount toAccount amount t
      = (if r.fromConfig.collaterals &&& 1#128 <<< r.assetId = 1#128 then
          r.enforce env fromAccount else .ok ()) >>= fun _ => .ok res := by
    rw [accountForDepositTransferFromTo_eq, hsteps, ok_bind, bitMask_eq_ok.mpr ⟨hword, rfl⟩,
      ok_bind]
    split_ifs
    · simp only [hwrite]
    · simp only [hwrite, ok_bind]
  rw [hcondition, hrun]
  by_cases ht : r.fromConfig.collaterals &&& 1#128 <<< r.assetId = 1#128
  · rw [if_pos ht]
    refine iff_of_true ⟨?_, fun herr => by rw [herr]; rfl⟩ (.inl (htest.mp ht))
    rintro ⟨res', hres'⟩
    obtain ⟨_, hok, -⟩ := bind_eq_ok.mp hres'
    exact hok
  · rw [if_neg ht, ok_bind]
    constructor
    · exact fun h => .inr (h.1 ⟨res, rfl⟩)
    · rintro (h | h)
      · exact absurd (htest.mpr h) ht
      · refine ⟨fun _ => h, fun herr => ?_⟩
        rw [h] at herr
        cases herr

end

end LendingPoolStorage

namespace World

/-- **When the accounting of a transfer enforces the collateralization of the sender.**  In
every reachable state a transfer of an asset that the sender marked as a collateral checks the
sender by itself exactly when the asset has the id `0` and keeps its bit, or the sender passes
the check anyway. -/
theorem depositTransfer_enforces_iff [Pendzl] {kind : Message → Prop} {w : World} {env : Env}
    {asset fromAccount toAccount : AccountId} {amount t t₀ k : ℕ} (h : Reachable kind t₀ w)
    (hk : w.pool.assetToId.get asset = some k)
    (hmark : (w.pool.getAccountConfig fromAccount).collaterals.getLsbD k = true) :
    w.pool.EnforcesCollateral env asset fromAccount toAccount amount t
      ↔ ∀ r, w.pool.depositTransferSteps env asset fromAccount toAccount amount t = .ok r →
        w.pool.CheckedOrCovered env fromAccount k amount t :=
  LendingPoolStorage.enforcesCollateral_iff (reachable_linked h).ids hk hmark

attribute [local instance] Pendzl.exact in
/-- `account 4` has no debt, so the accounting enforces its check also for the collateral with
the id `1`. -/
theorem depositTransfer_enforces_iff_covered :
    ∃ w, Sample.world.run Sample.depositors = some w
      ∧ w.pool.EnforcesCollateral (Sample.env (Sample.account 4) 1) (Sample.account 101)
        (Sample.account 4) (Sample.account 3) 700 1 := by
  have hrun : (Sample.world.run Sample.depositors).map (fun w =>
        (w.pool.assetToId.get (Sample.account 101),
          (w.pool.getAccountConfig (Sample.account 4)).collaterals.getLsbD 1,
          (w.pool.depositTransferSteps (Sample.env (Sample.account 4) 1) (Sample.account 101)
            (Sample.account 4) (Sample.account 3) 700 1).toOption.map fun r =>
              (r.assetId, (r.enforce (Sample.env (Sample.account 4) 1) (Sample.account 4)).isOk)))
      = some (some 1, true, some (1, true)) := by decide +kernel
  obtain ⟨w, hw, hreach, hv⟩ :=
    run_reaches (fun _ => True) Sample.world_isInitial (by decide) hrun
  obtain ⟨hk, hv⟩ := Prod.mk.inj hv
  obtain ⟨hmark, hv⟩ := Prod.mk.inj hv
  obtain ⟨r, hr, hv⟩ := Option.map_eq_some_iff.mp hv
  obtain ⟨hid, hok⟩ := Prod.mk.inj hv
  have hsteps := toOption_eq_some.mp hr
  obtain ⟨u, hcheck⟩ := isOk_eq_true.mp hok
  refine ⟨w, hw, (depositTransfer_enforces_iff hreach hk hmark).mpr fun _ _ => ?_⟩
  obtain ⟨rd, i, restrictions, indexes, a, -, hrd, hi, hrestrictions, hup, ha, -, heq⟩ :=
    LendingPoolStorage.enforce_eq hsteps
  rw [hid] at hrd hi hrestrictions ha heq
  intro rd' i' restrictions' indexes' a' hrd' hi' hrestrictions' hup' ha'
  cases hrd.symm.trans hrd'
  cases hi.symm.trans hi'
  cases hrestrictions.symm.trans hrestrictions'
  cases hup.symm.trans hup'
  cases ha.symm.trans ha'
  exact .inr (heq ▸ hcheck)

attribute [local instance] Pendzl.exact in
/-- **A transfer of the collateral with the id `1` is not checked.**  `account 3` owes `50` of
the first asset against a deposit of the second one.  The accounting of a transfer of that
whole deposit returns, and what it leaves `account 3` does not pass the check. -/
theorem transfer_of_collateral_unchecked :
    ∃ w r res, Sample.world.run Sample.depositors = some w
      ∧ w.pool.assetToId.get (Sample.account 101) = some 1
      ∧ (w.pool.getAccountConfig (Sample.account 3)).collaterals.getLsbD 1 = true
      ∧ w.pool.depositTransferSteps (Sample.env (Sample.account 3) 1) (Sample.account 101)
        (Sample.account 3) (Sample.account 4) 1000 1 = .ok r
      ∧ w.pool.accountForDepositTransferFromTo (Sample.env (Sample.account 3) 1)
        (Sample.account 101) (Sample.account 3) (Sample.account 4) 1000 1 = .ok res
      ∧ r.enforce (Sample.env (Sample.account 3) 1) (Sample.account 3)
        = .error (.err .insufficientCollateral)
      ∧ ¬ w.pool.EnforcesCollateral (Sample.env (Sample.account 3) 1) (Sample.account 101)
        (Sample.account 3) (Sample.account 4) 1000 1 := by
  have hrun : (Sample.world.run Sample.depositors).map (fun w =>
        (w.pool.assetToId.get (Sample.account 101),
          (w.pool.getAccountConfig (Sample.account 3)).collaterals.getLsbD 1,
          (w.pool.accountForDepositTransferFromTo (Sample.env (Sample.account 3) 1)
            (Sample.account 101) (Sample.account 3) (Sample.account 4) 1000 1).isOk,
          (w.pool.depositTransferSteps (Sample.env (Sample.account 3) 1) (Sample.account 101)
            (Sample.account 3) (Sample.account 4) 1000 1).toOption.map fun r =>
              failsWith (.err .insufficientCollateral)
                (r.enforce (Sample.env (Sample.account 3) 1) (Sample.account 3))))
      = some (some 1, true, true, some true) := by decide +kernel
  obtain ⟨w, hw, hv⟩ := Option.map_eq_some_iff.mp hrun
  obtain ⟨hk, hv⟩ := Prod.mk.inj hv
  obtain ⟨hmark, hv⟩ := Prod.mk.inj hv
  obtain ⟨hok, hv⟩ := Prod.mk.inj hv
  obtain ⟨r, hr, hv⟩ := Option.map_eq_some_iff.mp hv
  obtain ⟨res, hres⟩ := isOk_eq_true.mp hok
  have hsteps := toOption_eq_some.mp hr
  have hfails : r.enforce (Sample.env (Sample.account 3) 1) (Sample.account 3)
      = .error (.err .insufficientCollateral) := failsWith_eq_true.mp hv
  refine ⟨w, r, res, hw, hk, hmark, hsteps, hres, hfails, fun h => ?_⟩
  have hpass := (h r hsteps).1 ⟨res, hres⟩
  rw [hfails] at hpass
  cases hpass

end World

end AbaxLending
