import AbaxLending.Invariants.Slots
import AbaxLending.Spec.Positions

/-!
The stored vectors reach to the bits.

A vector is stored with the length that the registry had then, or one more, and nothing
shortens it.  The config is stored with it, and a message that sets a bit has read or written
the entry of that asset.  So in every reachable world, whatever transfers shift, an account
with a bit has a vector that reaches to the asset, and an account with a vector has a config.
-/

namespace AbaxLending

open Outcome

namespace AccountConfig

/-- The deposit and the borrow bits are below `n`. -/
def Within (self : AccountConfig) (n : ℕ) : Prop :=
  ∀ k, self.deposits.getLsbD k = true ∨ self.borrows.getLsbD k = true → k < n

variable {config : AccountConfig} {m n : ℕ}

lemma Within.mono (h : config.Within m) (hmn : m ≤ n) : config.Within n :=
  fun k hk => (h k hk).trans_le hmn

lemma Within.congr {config' : AccountConfig} (h : config.Within n)
    (hdeposits : config'.deposits = config.deposits) (hborrows : config'.borrows = config.borrows) :
    config'.Within n := by
  intro k hk
  rw [hdeposits, hborrows] at hk
  exact h k hk

end AccountConfig

/-- A basic step sets no bit but those of its asset. -/
lemma Step.OnSlot.within {st : Step} {op : Operation} {ctx : ReserveDataContext}
    {data : AccountReserveData} {config : AccountConfig} {n : ℕ} (h : st.OnSlot op ctx data config)
    (hconfig : config.Within n) (hid : ctx.assetId < n) : st.config.Within n := by
  intro j hj
  by_cases hown : j = ctx.assetId
  · omega
  · have hslot := h.others j hown data
    have hdeposits : st.config.deposits.getLsbD j = config.deposits.getLsbD j :=
      congrArg Slot.deposits hslot
    have hborrows : st.config.borrows.getLsbD j = config.borrows.getLsbD j :=
      congrArg Slot.borrows hslot
    rw [hdeposits, hborrows] at hj
    exact hconfig j hj

namespace LendingPoolStorage

/-- The vector as it is stored, empty if there is none. -/
def storedDatas (s : LendingPoolStorage) (account : AccountId) : List (Option AccountReserveData) :=
  (s.accountReserveDatas.get account).getD []

/-- The stored vector of every account reaches to its bits, and has a config with it. -/
structure VectorsReach (s : LendingPoolStorage) : Prop where
  within : ∀ a, (s.getAccountConfig a).Within (s.storedDatas a).length
  stored : ∀ a, (s.accountReserveDatas.get a).isSome = true → (s.accountConfigs.get a).isSome = true

/-- The accounts that have a config keep one. -/
def KeepsConfigs (s s' : LendingPoolStorage) : Prop :=
  ∀ a, (s.accountConfigs.get a).isSome = true → (s'.accountConfigs.get a).isSome = true

variable {s s' : LendingPoolStorage} {a account : AccountId} {k t : ℕ}

lemma KeepsConfigs.of_eq (h : s'.accountConfigs = s.accountConfigs) : KeepsConfigs s s' :=
  fun _ hsome => h ▸ hsome

lemma KeepsConfigs.insert {config : AccountConfig} (h : KeepsConfigs s s')
    {s'' : LendingPoolStorage} (hs : s''.accountConfigs = s'.accountConfigs.insert account config) :
    KeepsConfigs s s'' := by
  intro a hsome
  rw [hs, Mapping.get_insert]
  split_ifs
  · rfl
  · exact h a hsome

lemma length_storedDatas_le : (s.storedDatas a).length ≤ (s.getAccountDatas a).length := by
  rw [storedDatas, getAccountDatas]
  cases s.accountReserveDatas.get a with
  | none => exact Nat.zero_le _
  | some v =>
      simp only [Option.getD_some]
      split_ifs
      · rw [List.length_append]
        omega
      · exact le_rfl

namespace VectorsReach

lemma new : VectorsReach LendingPoolStorage.new where
  within a k hk := by
    have hconfig : LendingPoolStorage.new.getAccountConfig a = default := rfl
    rw [hconfig] at hk
    rcases hk with hbit | hbit <;> exact absurd hbit (by simp [default])
  stored a h := by cases h

/-- A stored vector reaches to the bits of the config. -/
lemma within_of_get (h : VectorsReach s) {v : List (Option AccountReserveData)}
    (hv : s.accountReserveDatas.get account = some v) :
    (s.getAccountConfig account).Within v.length := by
  have hstored := h.within account
  rw [storedDatas, hv, Option.getD_some] at hstored
  exact hstored

/-- A stored vector reaches to the bits of the stored config. -/
lemma within_stored (h : VectorsReach s) {v : List (Option AccountReserveData)}
    {config : AccountConfig} (hconfig : s.accountConfigs.get account = some config)
    (hv : s.accountReserveDatas.get account = some v) : config.Within v.length := by
  have hstored := h.within_of_get hv
  rw [getAccountConfig, hconfig] at hstored
  exact hstored

/-- A change that keeps the vectors and the bits. -/
lemma of_same (h : VectorsReach s) (hdatas : s'.accountReserveDatas = s.accountReserveDatas)
    (hdeposits : ∀ a, (s'.getAccountConfig a).deposits = (s.getAccountConfig a).deposits)
    (hborrows : ∀ a, (s'.getAccountConfig a).borrows = (s.getAccountConfig a).borrows)
    (hconfigs : KeepsConfigs s s') : VectorsReach s' := by
  refine ⟨fun a => ?_, fun a hsome => ?_⟩
  · rw [storedDatas, hdatas]
    exact (h.within a).congr (hdeposits a) (hborrows a)
  · rw [hdatas] at hsome
    exact hconfigs a (h.stored a hsome)

/-- An account written with a vector that reaches to the bits of its config. -/
lemma putAccount (h : VectorsReach s) {v : List (Option AccountReserveData)}
    {config : AccountConfig} (hv : config.Within v.length) :
    VectorsReach (s.putAccount account v config) := by
  refine ⟨fun a => ?_, fun a hsome => ?_⟩ <;> by_cases ha : a = account
  · rw [ha, getAccountConfig_putAccount_self, storedDatas, putAccount_accountReserveDatas,
      Mapping.get_insert_self]
    exact hv
  · rw [getAccountConfig_putAccount_of_ne ha, storedDatas, putAccount_accountReserveDatas,
      Mapping.get_insert_of_ne _ ha]
    exact h.within a
  · rw [ha, putAccount_accountConfigs, Mapping.get_insert_self]
    rfl
  · rw [putAccount_accountReserveDatas, Mapping.get_insert_of_ne _ ha] at hsome
    rw [putAccount_accountConfigs, Mapping.get_insert_of_ne _ ha]
    exact h.stored a hsome

/-- The vector that the getter returns reaches as far as the stored one. -/
lemma within_getAccountDatas (h : VectorsReach s) (a : AccountId) :
    (s.getAccountConfig a).Within (s.getAccountDatas a).length :=
  (h.within a).mono length_storedDatas_le

/-- The pair of accounts that a transfer writes, where each vector reaches to the bits of its
config. -/
lemma putPair (h : VectorsReach s) {inserted replaced : AccountId}
    {insertedData replacedData : AccountReserveData}
    {insertedConfig replacedConfig : AccountConfig} {v : List (Option AccountReserveData)}
    (hk : k ≤ (s.getAccountDatas inserted).length)
    (hinserted : ∀ n, (s.getAccountConfig inserted).Within n → k < n → insertedConfig.Within n)
    (hreplaced : replacedConfig.Within v.length) (hv : s.accountReserveDatas.get replaced = some v)
    (hlt : k < v.length) :
    VectorsReach (s.putPair k inserted replaced insertedData replacedData insertedConfig
      replacedConfig v) := by
  have hself : (s.getAccountConfig replaced).Within v.length := h.within_of_get hv
  refine ⟨fun a => ?_, fun a hsome => ?_⟩
  · rw [getAccountConfig_putPair, storedDatas, LendingPoolStorage.putPair]
    simp only [putConfig_accountReserveDatas, putDatas_accountReserveDatas, Mapping.get_insert]
    by_cases hr : a = replaced
    · rw [if_pos hr, if_pos hr, Option.getD_some, List.length_set]
      split_ifs with hi
      · -- a transfer to the account itself
        subst hr
        exact hinserted _ (hi ▸ hself) hlt
      · exact hreplaced
    · rw [if_neg hr, if_neg hr]
      split_ifs with hi
      · rw [Option.getD_some, List.length_insertIdx_of_le_length hk]
        refine hinserted _ ?_ (by omega)
        exact (h.within_getAccountDatas inserted).mono (Nat.le_succ _)
      · exact h.within a
  · simp only [LendingPoolStorage.putPair, putConfig_accountReserveDatas,
      putDatas_accountReserveDatas, putConfig_accountConfigs, putDatas_accountConfigs,
      Mapping.get_insert] at hsome ⊢
    by_cases hi : a = inserted
    · rw [if_pos hi]
      rfl
    · by_cases hr : a = replaced
      · rw [if_neg hi, if_pos hr]
        rfl
      · rw [if_neg hr, if_neg hi] at hsome
        rw [if_neg hi, if_neg hr]
        exact h.stored a hsome

variable [Pendzl] {env : Env}

/-- The loop keeps the length of the copy, and sets bits below it. -/
lemma accountForAccountActions {actions : List Action} {res : AccountActionsResult}
    (h : VectorsReach s) (hres : s.accountForAccountActions env account actions = .ok res) :
    VectorsReach res.storage := by
  obtain ⟨st, hst, -, hs⟩ := accountForAccountActions_ok hres
  obtain ⟨hdatas, hconfigs⟩ := AccountActionsState.applyActions_keepsAccounts hst
  have hcopies : st.accountConfig.Within st.accountDatas.length := by
    refine AccountActionsState.applyActions_induct
      (P := fun st => st.accountConfig.Within st.accountDatas.length)
      (fun st action st' _ _ hst hact => ?_) hst (h.within_getAccountDatas account)
    obtain ⟨k, ctx, step, rd, i, e, -, hlen, hopen, hstep, -, -, -, rfl⟩ :=
      AccountActionsState.applyAction_ok hact
    rw [List.length_set]
    refine (Action.step_slot hstep).within hst ?_
    rw [hopen.assetId]
    exact hlen
  have hloop : VectorsReach st.storage := by
    refine h.of_same hdatas (fun a => ?_) (fun a => ?_) (.of_eq hconfigs) <;>
      rw [getAccountConfig_congr hconfigs] <;> rfl
  rw [hs, AccountActionsState.flush]
  exact hloop.putAccount hcopies

lemma liquidate {caller liquidated assetToRepay assetToTake : AccountId} {amount : ℕ}
    (h : VectorsReach s)
    (r : Liquidation s env caller liquidated assetToRepay assetToTake amount t) :
    VectorsReach r.written := by
  obtain ⟨rd, i, e, -, hmid⟩ := r.mid_eq
  have hrepay : r.repayId < (s.getAccountDatas liquidated).length :=
    (List.getElem?_eq_some_iff.mp r.dataToRepay_eq).1
  have htake : r.k < (s.getAccountDatas liquidated).length := by
    have hlt := (List.getElem?_eq_some_iff.mp r.dataToTake_eq).1
    rwa [List.length_set] at hlt
  have hpaid : r.paid.config.Within (s.getAccountDatas liquidated).length := by
    refine (ReserveDataContext.accountForRepay_slot r.paid_ok).within
      (h.within_getAccountDatas liquidated) ?_
    rw [r.repayOpened.assetId]
    exact hrepay
  have hfirst : r.first.config.Within (s.getAccountDatas liquidated).length := by
    refine (ReserveDataContext.accountForWithdraw_slot r.first_ok).within hpaid ?_
    rw [r.opened.assetId]
    exact htake
  have hsecond : r.second.config.Within (s.getAccountDatas caller).length := by
    refine (ReserveDataContext.accountForDeposit_slot r.second_ok).within
      (h.within_getAccountDatas caller) ?_
    rw [r.first_ctx.1]
    exact r.callerInRange
  have hstart : VectorsReach (r.reserveWritten r.mid) := by
    rw [TwoSteps.reserveWritten, hmid]
    exact h.of_same rfl (fun _ => rfl) (fun _ => rfl) (.of_eq rfl)
  rw [Liquidation.written]
  refine (hstart.putAccount ?_).putAccount ?_
  · rw [List.length_set, List.length_set]
    exact hfirst
  · rw [List.length_set]
    exact hsecond

lemma depositTransfer {asset fromAccount toAccount : AccountId} {amount : ℕ}
    (h : VectorsReach s) (r : DepositTransfer s env asset fromAccount toAccount amount t) :
    VectorsReach r.written := by
  have hlt : r.k < r.fromDatas.length := (List.getElem?_eq_some_iff.mp r.fromData_eq).1
  have hstart : VectorsReach (r.reserveWritten s) :=
    h.of_same rfl (fun _ => rfl) (fun _ => rfl) (.of_eq rfl)
  have hfrom : (s.getAccountConfig fromAccount).Within r.fromDatas.length :=
    h.within_of_get r.fromDatas_eq
  have hid : r.first.ctx.assetId = r.k := by
    rw [ReserveDataContext.accountForWithdraw_assetId r.first_ok]
    exact r.opened.assetId
  rw [DepositTransfer.written]
  refine hstart.putPair r.inRange (fun n hn hkn => ?_) ?_ r.fromDatas_eq hlt
  · refine (ReserveDataContext.accountForDeposit_slot r.second_ok).within hn ?_
    rw [hid]
    exact hkn
  · refine (ReserveDataContext.accountForWithdraw_slot r.first_ok).within hfrom ?_
    rw [r.opened.assetId]
    exact hlt

lemma debtTransfer {asset fromAccount toAccount : AccountId} {amount : ℕ}
    (h : VectorsReach s) (r : DebtTransfer s env asset fromAccount toAccount amount t) :
    VectorsReach r.written := by
  have hstart : VectorsReach (r.reserveWritten s) :=
    h.of_same rfl (fun _ => rfl) (fun _ => rfl) (.of_eq rfl)
  have hto : (s.getAccountConfig toAccount).Within r.toDatas.length :=
    h.within_of_get r.toDatas_eq
  have hid : r.first.ctx.assetId = r.k := by
    rw [ReserveDataContext.accountForRepay_assetId r.first_ok]
    exact r.opened.assetId
  rw [DebtTransfer.written]
  refine hstart.putPair r.inRange (fun n hn hkn => ?_) ?_ r.toDatas_eq r.toInRange
  · refine (ReserveDataContext.accountForRepay_slot r.first_ok).within hn ?_
    rw [r.opened.assetId]
    exact hkn
  · refine (ReserveDataContext.accountForBorrow_slot r.second_ok).within hto ?_
    rw [hid]
    exact r.toInRange

end VectorsReach

end LendingPoolStorage

namespace World

open LendingPoolStorage

variable [Pendzl] {w w' : World} {env : Env} {message : Message}

/-- A message that is none of the actions, and no liquidation or transfer, removes no config. -/
lemma execute_keepsConfigs (hex : w.execute env message = .ok w')
    (hactions : message.userActions = none) (hliquidate : message.isLiquidate = false)
    (htransfer : message.isTransfer = false) : w.pool.KeepsConfigs w'.pool := by
  have hstep := (execute_frame hex).1
  have hrefl : w.pool.KeepsConfigs w.pool := .of_eq rfl
  cases message with
  | deposit | withdraw | borrow | repay | multiOp => cases hactions
  | liquidate => cases hliquidate
  | transfer | transferFrom => cases htransfer
  | setAsCollateral asset use =>
      obtain ⟨_, hs⟩ := accountForSetAsCollateral_ok hstep.1
      exact hs ▸ hrefl.insert rfl
  | chooseMarketRule id => exact accountForMarketRuleChange_ok hstep.1 ▸ hrefl.insert rfl
  | _ => exact .of_eq (execute_keeps (·.accountConfigs) (fun _ => rfl) hex)

/-- What a transfer runs on the pool. -/
lemma TokenMove.vectorsReach {tokenAddress fromAccount toAccount : AccountId} {token : AbacusToken}
    {amount : ℕ} {s s' : LendingPoolStorage} (h : s.VectorsReach)
    (hmove : TokenMove env tokenAddress token fromAccount toAccount amount s s') :
    s'.VectorsReach := by
  refine hmove.rule (P := VectorsReach) (fun res hres => ?_) fun res hres => ?_
  · obtain ⟨r, rfl⟩ := accountForDepositTransferFromTo_ok hres
    exact h.depositTransfer r
  · obtain ⟨r, rfl⟩ := accountForDebtTransferFromTo_ok hres
    exact h.debtTransfer r

/-- **The step lemma**, for every message. -/
lemma execute_vectorsReach (h : w.pool.VectorsReach) (hex : w.execute env message = .ok w') :
    w'.pool.VectorsReach := by
  have hstep := (execute_frame hex).1
  cases hactions : message.userActions with
  | some p =>
      obtain ⟨account, actions⟩ := p
      obtain ⟨res, hres, hs⟩ := execute_userActions hex hactions
      exact hs ▸ h.accountForAccountActions hres
  | none =>
  cases hliquidate : message.isLiquidate with
  | true =>
      cases message with
      | liquidate liquidated toRepay toTake amount minimum =>
          obtain ⟨res, hres, hs⟩ := hstep
          obtain ⟨r, rfl⟩ := accountForLiquidate_ok hres
          exact hs ▸ h.liquidate r
      | _ => cases hliquidate
  | false =>
  cases htransfer : message.isTransfer with
  | true =>
      cases message with
      | transfer token toAccount amount =>
          obtain ⟨_, -, hmove⟩ := hstep
          exact hmove.vectorsReach h
      | transferFrom token fromAccount toAccount amount =>
          obtain ⟨_, -, hmove⟩ := hstep
          exact hmove.vectorsReach h
      | _ => cases htransfer
  | false =>
      have hconfigs := execute_keepsConfigs hex hactions hliquidate htransfer
      rcases execute_change hex with ⟨account, actions, res, hm, -, -⟩ | hquiet | ⟨asset, -, hr⟩
        | ⟨_, _, _, _, _, hm, -, -⟩ | ⟨_, _, _, _, _, hm, -⟩
      · exact absurd (hactions.symm.trans hm) (by simp)
      · exact h.of_same hquiet.accountReserveDatas hquiet.deposits hquiet.borrows hconfigs
      · exact h.of_same hr.accountReserveDatas
          (fun a => by rw [getAccountConfig_congr hr.accountConfigs])
          (fun a => by rw [getAccountConfig_congr hr.accountConfigs]) hconfigs
      · exact absurd (hliquidate.symm.trans hm) (by simp)
      · exact absurd (htransfer.symm.trans hm) (by simp)

/-- **The vectors reach to the bits in every reachable world**, transfers included. -/
theorem reachable_vectorsReach {kind : Message → Prop} {t : ℕ} (h : Reachable kind t w) :
    w.pool.VectorsReach := by
  refine TimedRun.Reach.invariant (P := fun w => w.pool.VectorsReach)
    (fun w hw => ?_) (fun t w w' hP hstep => ?_) h
  · rw [hw.1]
    exact .new
  · obtain ⟨env, message, -, -, hex⟩ := hstep
    exact execute_vectorsReach hP hex

end World

end AbaxLending
