import AbaxLending.Contract.Run
import AbaxLending.Spec.Interest
import AbaxLending.Spec.Manage
import AbaxLending.Spec.Messages
import AbaxLending.Spec.Views

/-!
The interest of the time before a change of the rate.

The current rate is charged for all the time since the last update of the indexes, when they
are updated next.  `set_interest_rate_model` updates the indexes before it changes the rates,
so the balances of its block time stay.  `set_stablecoin_debt_rate_e18` changes the rate
without an update: the new rate is charged for the time that already passed, which changes
the debt of an account unless the difference is lost in the rounding.

* `accountForInterestRateModelChange_views`: a new model keeps all balances;
* `rate_change_keeps_views_iff`: when a change of the rate keeps the balances of an account.
-/

namespace AbaxLending

open Outcome

/-- The asset whose rate a message sets. -/
def Message.setsRate : Message → Option AccountId
  | .setInterestRateModel asset _ => some asset
  | .setStablecoinDebtRateE18 asset _ => some asset
  | _ => none

/-- The debt index that a rate gives at a time. -/
def ReserveIndexes.debtIndexAt [Pendzl] (self : ReserveIndexes) (rate totalDebt timestamp : ℕ) :
    Res ℕ :=
  nextIndex e18MulE18ToE18Rup self.debtIndexE18 rate totalDebt (timestamp - self.updateTimestamp)

namespace LendingPoolStorage

variable [Pendzl]

/-- For the time since the last update a new rate gives the account the same debt as the rate in
force. -/
def SameDebtAtRate (s : LendingPoolStorage) (asset account : AccountId) (timestamp rate : ℕ) :
    Prop :=
  ∃ k rd r old new, s.assetToId.get asset = some k ∧ s.reserveDatas.get k = some rd
    ∧ s.reserveIndexesAndFees.get k = some r
    ∧ r.indexes.debtIndexAt rd.currentDebtRateE18 rd.totalDebt timestamp = .ok old
    ∧ r.indexes.debtIndexAt rate rd.totalDebt timestamp = .ok new
    ∧ (s.position account k).debtBeforeFee new = (s.position account k).debtBeforeFee old

variable {s s' : LendingPoolStorage} {asset account : AccountId} {view : Env} {t : ℕ}

/-- The accrued position, given the reserve. -/
lemma accruedDataOf_of_get {k : ℕ} {rd : ReserveData} {r : ReserveIndexesAndFees}
    (hk : s.assetToId.get asset = some k) (hrd : s.reserveDatas.get k = some rd)
    (hr : s.reserveIndexesAndFees.get k = some r) :
    s.accruedDataOf view asset account t = (do
      let indexes ← r.indexes.update rd t
      let accrual ← (s.position account k).accumulateAccountInterest indexes r.fees
        (s.getFeeReductionsOfAccount view account)
      return accrual.data) := by
  simp only [accruedDataOf, assetId, getReserveData, getReserveIndexesAndFees,
    getAccountReserveData_eq, hk, hrd, hr, okOr, unwrap, ok_bind]

/-- **A new model keeps the balances** of its block time, of every account. -/
theorem accountForInterestRateModelChange_views {model : InterestRateModel}
    (h : s.accountForInterestRateModelChange asset model t = .ok s') :
    s'.accruedDataOf view asset account t = s.accruedDataOf view asset account t := by
  obtain ⟨k, rd, r, indexes, rd', hk, hrd, hr, hup, -, hs⟩ :=
    accountForInterestRateModelChange_ok h
  have hk' : s'.assetToId.get asset = some k := by
    rw [hs]
    exact hk
  have hrd' : s'.reserveDatas.get k = some rd' := by
    rw [hs]
    exact Mapping.get_insert_self ..
  have hr' : s'.reserveIndexesAndFees.get k = some { r with indexes } := by
    rw [hs]
    exact Mapping.get_insert_self ..
  -- the indexes were brought to this time with the old rates, and are not updated again
  rw [accruedDataOf_of_get hk' hrd' hr', accruedDataOf_of_get hk hrd hr, hup,
    ReserveIndexes.update_again hup, hs]
  rfl

/-- A new rate makes no difference when no time has passed, when nothing is owed, and when it
is the rate in force. -/
lemma SameDebtAtRate.of_eq {k rate old : ℕ} {rd : ReserveData} {r : ReserveIndexesAndFees}
    (hk : s.assetToId.get asset = some k) (hrd : s.reserveDatas.get k = some rd)
    (hr : s.reserveIndexesAndFees.get k = some r)
    (hold : r.indexes.debtIndexAt rd.currentDebtRateE18 rd.totalDebt t = .ok old)
    (h : t = r.indexes.updateTimestamp ∨ rd.totalDebt = 0 ∨ rate = rd.currentDebtRateE18) :
    s.SameDebtAtRate asset account t rate := by
  refine ⟨k, rd, r, old, old, hk, hrd, hr, hold, ?_, rfl⟩
  rw [← hold, ReserveIndexes.debtIndexAt, ReserveIndexes.debtIndexAt]
  rcases h with rfl | hzero | rfl
  · rw [Nat.sub_self, ReserveIndexes.nextIndex_zero ReserveIndexes.e18MulE18ToE18Rup_one,
      ReserveIndexes.nextIndex_zero ReserveIndexes.e18MulE18ToE18Rup_one]
  · rw [ReserveIndexes.nextIndex, ReserveIndexes.nextIndex, if_neg (fun hc => hc.2 hzero),
      if_neg (fun hc => hc.2 hzero)]
  · rfl

/-- What is accrued after new data was written to the reserve. -/
lemma putReserveData_accruedDataOf {k : ℕ} {rd : ReserveData} {r : ReserveIndexesAndFees}
    {data : AccountReserveData} (hk : s.assetToId.get asset = some k)
    (hr : s.reserveIndexesAndFees.get k = some r) :
    (s.putReserveData k rd).accruedDataOf view asset account t = .ok data
      ↔ ∃ indexes a, r.indexes.update rd t = .ok indexes
        ∧ (s.position account k).accumulateAccountInterest indexes r.fees
          (s.getFeeReductionsOfAccount view account) = .ok a ∧ a.data = data := by
  have hrd : (s.putReserveData k rd).reserveDatas.get k = some rd := Mapping.get_insert_self ..
  have hdata : (s.putReserveData k rd).accruedDataOf view asset account t = _ :=
    accruedDataOf_of_get hk hrd hr
  rw [hdata]
  simp only [bind_eq_ok, pure_eq, Except.ok.injEq]
  constructor
  · rintro ⟨indexes, hup, a, ha, hd⟩
    exact ⟨indexes, a, hup, ha, hd⟩
  · rintro ⟨indexes, a, hup, ha, hd⟩
    exact ⟨indexes, hup, a, ha, hd⟩

/-- An accrual against another debt index that gives the same debt before the fee gives the same
amounts. -/
lemma accumulateAccountInterest_sameDebt {self : AccountReserveData} {indexes : ReserveIndexes}
    {fees : ReserveFees} {reductions : FeeReductions} {a : Accrual} {new : ℕ}
    (ha : self.accumulateAccountInterest indexes fees reductions = .ok a)
    (hdebts : self.debtBeforeFee new = self.debtBeforeFee indexes.debtIndexE18) :
    ∃ a', self.accumulateAccountInterest ⟨indexes.depositIndexE18, new, t⟩ fees reductions = .ok a'
      ∧ ∀ side : Side, side.amount a'.data = side.amount a.data := by
  obtain ⟨p, q, hp, hq, hpd, hqd⟩ :=
    AccountReserveData.accumulateAccountInterest_iff.mp ⟨a, ha, rfl, rfl⟩
  have hp' : self.accumulateDeposit ⟨indexes.depositIndexE18, new, t⟩ fees reductions.1 = .ok p :=
    hp
  have hq' : self.accumulateDebt ⟨indexes.depositIndexE18, new, t⟩ p.fees reductions.2 = .ok q := by
    rw [← hq]
    exact AccountReserveData.accumulateDebt_congr hdebts
  obtain ⟨a', ha', hdeposit, hdebt⟩ :=
    AccountReserveData.accumulateAccountInterest_iff.mpr ⟨p, q, hp', hq', hpd, hqd⟩
  refine ⟨a', ha', fun side => ?_⟩
  cases side with
  | deposit => exact hdeposit
  | debt => exact hdebt

/-- **When a new stablecoin rate keeps the balances of an account.** -/
theorem accountForStablecoinDebtRateE18Change_views_iff {rate : ℕ} {data : AccountReserveData}
    (h : s.accountForStablecoinDebtRateE18Change asset rate = .ok s')
    (hbefore : s.accruedDataOf view asset account t = .ok data) :
    (∀ side : Side, side.view s' view asset account t = side.view s view asset account t)
      ↔ s.SameDebtAtRate asset account t rate := by
  obtain ⟨k, rd, hk, hrd, rfl⟩ := accountForStablecoinDebtRateE18Change_ok h
  obtain ⟨k₀, rd₀, r, indexes, a, hk₀, hrd₀, hr, hup, ha, rfl⟩ := accruedDataOf_eq_ok.mp hbefore
  cases hk₀.symm.trans hk
  cases hrd₀.symm.trans hrd
  obtain ⟨hle, hdeposit, hdebt, htime⟩ := ReserveIndexes.update_eq_ok.mp hup
  constructor
  · intro hviews
    have hdebt_view : Side.debt.view s view asset account t = .ok a.data.debt :=
      Side.view_eq_ok.mpr ⟨a.data, hbefore, rfl⟩
    rw [← hviews, Side.view_eq_ok] at hdebt_view
    obtain ⟨data', hafter, hsame⟩ := hdebt_view
    obtain ⟨indexes', a', hup', ha', rfl⟩ := (putReserveData_accruedDataOf hk hr).mp hafter
    obtain ⟨-, -, hdebt', -⟩ := ReserveIndexes.update_eq_ok.mp hup'
    refine ⟨k, rd, r, _, _, hk, hrd, hr, hdebt, hdebt', ?_⟩
    obtain ⟨-, hamount, -⟩ := AccountReserveData.accumulateAccountInterest_amounts ha
    obtain ⟨-, hamount', -⟩ := AccountReserveData.accumulateAccountInterest_amounts ha'
    have heq : a'.data.debt = a.data.debt := hsame
    rw [hamount, hamount'] at heq
    exact eq_of_add_feeCharge heq
  · rintro ⟨k', rd', r', old, new, hk', hrd', hr', hold, hnew, hdebts⟩
    cases hk'.symm.trans hk
    cases hrd'.symm.trans hrd
    cases hr'.symm.trans hr
    have holdIndex : old = indexes.debtIndexE18 := Except.ok.inj (hold.symm.trans hdebt)
    rw [holdIndex] at hdebts
    obtain ⟨a', ha', hamounts⟩ := accumulateAccountInterest_sameDebt (t := t) ha hdebts
    have hup' : r.indexes.update { rd with currentDebtRateE18 := rate } t
        = .ok ⟨indexes.depositIndexE18, new, t⟩ :=
      ReserveIndexes.update_eq_ok.mpr ⟨hle, hdeposit, hnew, rfl⟩
    have hafter := (putReserveData_accruedDataOf hk hr).mpr ⟨_, a', hup', ha', rfl⟩
    intro side
    rw [Side.view_eq_ok.mpr ⟨_, hafter, hamounts side⟩, Side.view_eq_ok.mpr ⟨_, hbefore, rfl⟩]

end LendingPoolStorage

namespace World

variable [Pendzl]

/-- The time before the message is charged at the rate that was in force: a new model does
this, and a new stablecoin rate when it makes no difference for the account. -/
def ChargesOldRate (w : World) (asset account : AccountId) (timestamp : ℕ) : Message → Prop
  | .setStablecoinDebtRateE18 _ rate => w.pool.SameDebtAtRate asset account timestamp rate
  | _ => True

/-- **When a change of the rate is not retroactive.**  Both balances of an account at the time
of the message are unchanged exactly when the message sets a model, or the rate that it sets
gives the account the same debt for the time since the last update of the indexes. -/
theorem rate_change_keeps_views_iff {w w' : World} {env view : Env} {message : Message}
    {asset account : AccountId} {data : AccountReserveData}
    (hex : w.execute env message = .ok w') (hm : message.setsRate = some asset)
    (hbefore : w.pool.accruedDataOf view asset account env.blockTimestamp = .ok data) :
    (∀ side : Side, side.view w'.pool view asset account env.blockTimestamp
        = side.view w.pool view asset account env.blockTimestamp)
      ↔ w.ChargesOldRate asset account env.blockTimestamp message := by
  have hstep := (execute_frame hex).1
  cases message with
  | setInterestRateModel a params =>
      cases hm
      have hsame : w'.pool.accruedDataOf view asset account env.blockTimestamp
          = w.pool.accruedDataOf view asset account env.blockTimestamp :=
        LendingPoolStorage.accountForInterestRateModelChange_views hstep
      refine iff_of_true (fun side => ?_) trivial
      cases side <;> simp only [Side.view, LendingPoolStorage.accountDepositOf,
        LendingPoolStorage.accountDebtOf, hsame]
  | setStablecoinDebtRateE18 a rate =>
      cases hm
      exact LendingPoolStorage.accountForStablecoinDebtRateE18Change_views_iff hstep hbefore
  | _ => cases hm

end World

/-! ### Samples -/

namespace Sample

/-- The messages after which `account 3` owes a stablecoin, `account 102`, whose rate makes the
debt grow by a thousandth for each unit of time. -/
def stablecoinDebt : List (Env × Message) := setup ++ [
  (env admin 0, .registerAsset (account 102) 6 rules restrictions 0 0 none),
  (env admin 0, .setStablecoinDebtRateE18 (account 102) (10 ^ 15)),
  send 3 1 fun a => .deposit (account 101) a 1000,
  send 3 1 fun _ => .setAsCollateral (account 101) true,
  send 3 1 fun a => .borrow (account 102) a 200]

end Sample

namespace World

attribute [local instance] Pendzl.exact in
/-- A new rate of the stablecoin keeps the debt of `account 3` at the time of the borrow. -/
theorem rate_change_keeps_views_iff_borrow :
    ∃ w w', Sample.world.run Sample.stablecoinDebt = some w
      ∧ w.execute (Sample.env Sample.admin 1)
        (.setStablecoinDebtRateE18 (Sample.account 102) 0) = .ok w'
      ∧ ∀ side : Side, side.view w'.pool (Sample.env Sample.admin 1) (Sample.account 102)
          (Sample.account 3) 1
        = side.view w.pool (Sample.env Sample.admin 1) (Sample.account 102)
          (Sample.account 3) 1 := by
  have hrun : (Sample.world.run Sample.stablecoinDebt).map (fun w =>
        ((w.execute (Sample.env Sample.admin 1)
            (.setStablecoinDebtRateE18 (Sample.account 102) 0)).isOk,
          (w.pool.accruedDataOf (Sample.env Sample.admin 1) (Sample.account 102)
            (Sample.account 3) 1).isOk,
          (w.pool.assetToId.get (Sample.account 102),
            (w.pool.reserveIndexesAndFees.get 2).map fun r => r.indexes.updateTimestamp)))
      = some (true, true, (some 2, some 1)) := by decide +kernel
  obtain ⟨w, hw, hv⟩ := Option.map_eq_some_iff.mp hrun
  obtain ⟨hok, hv⟩ := Prod.mk.inj hv
  obtain ⟨hview, hv⟩ := Prod.mk.inj hv
  obtain ⟨hk, htime⟩ := Prod.mk.inj hv
  obtain ⟨w', hw'⟩ := isOk_eq_true.mp hok
  obtain ⟨data, hdata⟩ := isOk_eq_true.mp hview
  refine ⟨w, w', hw, hw', (rate_change_keeps_views_iff hw' rfl hdata).mpr ?_⟩
  obtain ⟨k, rd, r, indexes, a, hk', hrd, hr, hup, -, -⟩ :=
    LendingPoolStorage.accruedDataOf_eq_ok.mp hdata
  cases hk.symm.trans hk'
  rw [hr, Option.map_some, Option.some.injEq] at htime
  obtain ⟨-, -, hold, -⟩ := ReserveIndexes.update_eq_ok.mp hup
  exact LendingPoolStorage.SameDebtAtRate.of_eq hk hrd hr hold (.inl htime.symm)

attribute [local instance] Pendzl.exact in
/-- **A new stablecoin rate is retroactive.**  `account 3` owes `202` after ten units of time;
setting the rate to `0` at that time makes it owe `200`. -/
theorem stablecoin_rate_retroactive :
    ∃ w w', Sample.world.run Sample.stablecoinDebt = some w
      ∧ w.execute (Sample.env Sample.admin 11)
        (.setStablecoinDebtRateE18 (Sample.account 102) 0) = .ok w'
      ∧ w.pool.accountDebtOf (Sample.env Sample.admin 11) (Sample.account 102)
        (Sample.account 3) 11 = .ok 202
      ∧ w'.pool.accountDebtOf (Sample.env Sample.admin 11) (Sample.account 102)
        (Sample.account 3) 11 = .ok 200 := by
  have hrun : (Sample.world.run Sample.stablecoinDebt).map (fun w =>
        ((w.execute (Sample.env Sample.admin 11)
            (.setStablecoinDebtRateE18 (Sample.account 102) 0)).toOption.map fun w' =>
          (w'.pool.accountDebtOf (Sample.env Sample.admin 11) (Sample.account 102)
            (Sample.account 3) 11).toOption,
          (w.pool.accountDebtOf (Sample.env Sample.admin 11) (Sample.account 102)
            (Sample.account 3) 11).toOption))
      = some (some (some 200), some 202) := by decide +kernel
  obtain ⟨w, hw, hv⟩ := Option.map_eq_some_iff.mp hrun
  obtain ⟨hafter, hbefore⟩ := Prod.mk.inj hv
  obtain ⟨w', hw', hafter⟩ := Option.map_eq_some_iff.mp hafter
  exact ⟨w, w', hw, toOption_eq_some.mp hw', toOption_eq_some.mp hbefore,
    toOption_eq_some.mp hafter⟩

end World

end AbaxLending
