import AbaxLending.Contract.Run
import AbaxLending.Lib.Book
import AbaxLending.Spec.Changes
import AbaxLending.Spec.Views

/-!
The totals of a reserve are the sums of the positions.

`TotalsAgree` is the invariant: for every reserve, `total_deposit` and `total_debt`
are the sums over all accounts of the stored deposits and debts.  It needs that
only assets with a reserve have entries, so that a newly registered asset starts
empty.

* `TotalsAgree.of_same`: messages that touch no position keep it;
* `TotalsAgree.applyAction`: one action of an account keeps it, as a posting;
* `totals_agree`: it holds in every state that runs without transfers and
  liquidations reach, and there the totals never underflow.
-/

namespace AbaxLending

open Outcome

namespace LendingPoolStorage

/-- Both totals of every reserve are the sums of the stored positions. -/
structure TotalsAgree (s : LendingPoolStorage) : Prop where
  inCount : ∀ k rd, s.reserveDatas.get k = some rd → k < s.assetCount
  registered : ∀ asset k, s.assetToId.get asset = some k → ∃ rd, s.reserveDatas.get k = some rd
  vacant : ∀ k, s.reserveDatas.get k = none → ∀ a, s.entry a k = none
  deposit : ∀ k rd, s.reserveDatas.get k = some rd →
    Book.Balanced rd.totalDeposit fun a => (s.position a k).deposit
  debt : ∀ k rd, s.reserveDatas.get k = some rd →
    Book.Balanced rd.totalDebt fun a => (s.position a k).debt

namespace TotalsAgree

variable {s s' : LendingPoolStorage}

/-- The stored positions of a reserve sum to its totals. -/
lemma balanced (h : TotalsAgree s) (side : Side) {k : ℕ} {rd : ReserveData}
    (hk : s.reserveDatas.get k = some rd) :
    Book.Balanced (side.total rd) fun a => side.amount (s.position a k) := by
  cases side with
  | deposit => exact h.deposit k rd hk
  | debt => exact h.debt k rd hk

/-- The books of both sides, with the same argument for each. -/
lemma of_balanced (hcount : ∀ k rd, s.reserveDatas.get k = some rd → k < s.assetCount)
    (hregistered : ∀ asset k, s.assetToId.get asset = some k →
      ∃ rd, s.reserveDatas.get k = some rd)
    (hvacant : ∀ k, s.reserveDatas.get k = none → ∀ a, s.entry a k = none)
    (hbooks : ∀ (side : Side) k rd, s.reserveDatas.get k = some rd →
      Book.Balanced (side.total rd) fun a => side.amount (s.position a k)) : TotalsAgree s where
  inCount := hcount
  registered := hregistered
  vacant := hvacant
  deposit := hbooks .deposit
  debt := hbooks .debt

/-- A new pool has no reserves. -/
lemma new : TotalsAgree LendingPoolStorage.new where
  inCount k rd h := by cases h
  registered asset k h := by cases h
  vacant k _ a := rfl
  deposit k rd h := by cases h
  debt k rd h := by cases h

/-- Only the registry, the entries and the totals matter. -/
lemma of_same (h : TotalsAgree s) (hcount : s'.nextAssetId = s.nextAssetId)
    (hassets : s'.assetToId = s.assetToId) (hentry : s'.entry = s.entry)
    (htotals : ∀ k, (s'.reserveDatas.get k).map ReserveData.totals
      = (s.reserveDatas.get k).map ReserveData.totals) : TotalsAgree s' := by
  have hposition : s'.position = s.position := by
    funext a k
    rw [position, position, hentry]
  have hback : ∀ k rd', s'.reserveDatas.get k = some rd' →
      ∃ rd, s.reserveDatas.get k = some rd ∧ rd.totals = rd'.totals := by
    intro k rd' hrd'
    have hk := htotals k
    rw [hrd', Option.map_some, eq_comm, Option.map_eq_some_iff] at hk
    exact hk
  have hcount' : s'.assetCount = s.assetCount := by rw [assetCount, assetCount, hcount]
  refine .of_balanced (fun k rd' hrd' => ?_) (fun asset k hk => ?_) (fun k hk a => ?_)
    fun side k rd' hrd' => ?_
  · obtain ⟨rd, hrd, -⟩ := hback k rd' hrd'
    exact hcount' ▸ h.inCount k rd hrd
  · obtain ⟨rd, hrd⟩ := h.registered asset k (hassets ▸ hk)
    have hk' := htotals k
    rw [hrd, Option.map_some, Option.map_eq_some_iff] at hk'
    obtain ⟨rd', hrd', -⟩ := hk'
    exact ⟨rd', hrd'⟩
  · have hk' := htotals k
    rw [hk, Option.map_none, eq_comm, Option.map_eq_none_iff] at hk'
    rw [hentry]
    exact h.vacant k hk' a
  · obtain ⟨rd, hrd, heq⟩ := hback k rd' hrd'
    have htotal : side.total rd = side.total rd' := by
      cases side with
      | deposit => exact (Prod.mk.inj heq).1
      | debt => exact (Prod.mk.inj heq).2
    rw [hposition, ← htotal]
    exact h.balanced side hrd

/-- The stored positions of a registered asset sum to the totals on both sides. -/
lemma balancedIn {asset : AccountId} {k : ℕ} (h : TotalsAgree s)
    (hk : s.assetToId.get asset = some k) (side : Side) : side.BalancedIn s k := by
  obtain ⟨rd, hrd⟩ := h.registered asset k hk
  exact ⟨rd, hrd, h.balanced side hrd⟩

/-- The id of the next asset is free. -/
lemma next_free (h : TotalsAgree s) : s.reserveDatas.get s.assetCount = none := by
  cases hg : s.reserveDatas.get s.assetCount with
  | none => rfl
  | some rd => exact absurd (h.inCount _ _ hg) (lt_irrefl _)

/-- Messages that keep the books keep the invariant. -/
lemma keepsBooks (h : TotalsAgree s) (hk : KeepsBooks s s') : TotalsAgree s' :=
  h.of_same hk.nextAssetId hk.assetToId (entry_congr hk.accountReserveDatas) hk.totals

/-- A registered asset starts with empty books. -/
lemma registers {asset : AccountId} (h : TotalsAgree s) (hr : Registers s s' asset) :
    TotalsAgree s' := by
  have hentry : s'.entry = s.entry := entry_congr hr.accountReserveDatas
  have hposition : s'.position = s.position := position_congr hr.accountReserveDatas
  have hzero : ∀ a, s.position a s.assetCount = default := by
    intro a
    rw [position, h.vacant _ h.next_free a, Option.getD_none]
  have hcount := hr.assetCount
  refine .of_balanced (fun k rd hk => ?_) (fun b k hk => ?_) (fun k hk a => ?_)
    fun side k rd hk => ?_ <;> simp only [hr.reserveDatas, hr.assetToId, Mapping.get_insert] at hk ⊢
  · split_ifs at hk with hkc
    · omega
    · have := h.inCount k rd hk
      omega
  · split_ifs at hk with hb
    · simp only [Option.some.injEq] at hk
      exact ⟨ReserveData.initial, by simp [hk]⟩
    · obtain ⟨rd, hrd⟩ := h.registered b k hk
      split_ifs
      · exact ⟨_, rfl⟩
      · exact ⟨rd, hrd⟩
  · split_ifs at hk with hkc
    rw [hentry]
    exact h.vacant k hk a
  · split_ifs at hk with hkc
    · simp only [Option.some.injEq] at hk
      subst hk hkc
      have hempty : side.total ReserveData.initial = 0 := by cases side <;> rfl
      rw [hempty]
      exact Book.balanced_zero fun a => by rw [hposition, hzero a, side.amount_default]
    · rw [hposition]
      exact h.balanced side hk

variable [Pendzl] {st st' : AccountActionsState} {account : AccountId}

/-- **One action of an account is a posting to the books of its reserve.** -/
theorem applyAction {feeReductions : FeeReductions} {t : ℕ} {action action' : Action}
    {interests : ℕ × ℕ} (h : TotalsAgree (st.flush account))
    (hstep : st.applyAction feeReductions t action = .ok (st', action', interests)) :
    TotalsAgree (st'.flush account) := by
  obtain ⟨k, ctx, res, rd, i, e, -, hlen, hctx, hact, hrates, -, -, rfl⟩ :=
    AccountActionsState.applyAction_ok hstep
  have hposts := Action.step_posts hact
  have hk : (st.flush account).reserveDatas.get k = some ctx.reserveData := hctx.reserveData
  -- the positions after the action: one entry of the account has changed
  set st₁ : AccountActionsState :=
    ⟨(st.storage.withRing i e).putReserve k rd res.ctx.reserveIndexesAndFees,
      st.accountDatas.set k (some res.data), res.config,
      st.mustCheckCollateralization || action.demandsCheck st.accountConfig k⟩ with hst₁
  have hentry : ∀ a j, (st₁.flush account).entry a j
      = if a = account ∧ j = k then some res.data else (st.flush account).entry a j :=
    AccountActionsState.flush_entry_set hlen rfl rfl
  have hposition : ∀ a j, (st₁.flush account).position a j
      = if a = account ∧ j = k then res.data else (st.flush account).position a j :=
    AccountActionsState.flush_position_set hlen rfl rfl
  have hget : ∀ j, (st₁.flush account).reserveDatas.get j
      = if j = k then some rd else (st.flush account).reserveDatas.get j :=
    fun j => Mapping.get_insert ..
  have hself' : (st.flush account).position account k = st.position k :=
    AccountActionsState.flush_position_self ..
  refine .of_balanced (fun j rd' hj => ?_) (fun asset j hj => ?_) (fun j hj a => ?_)
    fun side j rd' hj => ?_
  · rw [hget] at hj
    split_ifs at hj with hjk
    · exact hjk ▸ h.inCount k _ hk
    · exact h.inCount j rd' hj
  · obtain ⟨rd', hrd'⟩ := h.registered asset j hj
    rw [hget]
    split_ifs
    · exact ⟨_, rfl⟩
    · exact ⟨rd', hrd'⟩
  · rw [hget] at hj
    split_ifs at hj with hjk
    rw [hentry, if_neg fun hc => hjk hc.2]
    exact h.vacant j hj a
  · rw [hget] at hj
    split_ifs at hj with hjk
    · simp only [Option.some.injEq] at hj
      subst hj hjk
      refine (h.balanced side hk).post (a := account)
        (fun b hb => by rw [hposition, if_neg fun hc => hb hc.1]) ?_
      rw [hposition, if_pos ⟨rfl, rfl⟩, hself', side.total_recalculateRates hrates]
      exact side.total_of_posts hposts
    · refine (h.balanced side hj).congr fun a => ?_
      rw [hposition, if_neg fun hc => hjk hc.2]

omit [Pendzl] in
/-- The loop over the actions of an account starts from the stored books. -/
lemma startActions (h : TotalsAgree s) (account : AccountId) :
    TotalsAgree ((s.startActions account).flush account) := by
  refine h.of_same rfl rfl ?_ fun _ => rfl
  funext a k
  exact startActions_entry account a k

/-- The invariant holds at every point of the loop over the actions of an account. -/
lemma applyActions {feeReductions : FeeReductions} {t : ℕ} {actions actions' : List Action}
    {results : List (ℕ × ℕ)} (h : TotalsAgree s)
    (hrun : (s.startActions account).applyActions feeReductions t actions
      = .ok (st, actions', results)) : TotalsAgree (st.flush account) :=
  AccountActionsState.applyActions_induct (P := fun st => TotalsAgree (st.flush account))
    (fun _ _ _ _ _ hst hact => hst.applyAction hact) hrun (h.startActions account)

/-- The actions of an account keep the invariant. -/
lemma accountForAccountActions {env : Env} {actions : List Action} {res : AccountActionsResult}
    (h : TotalsAgree s) (hres : s.accountForAccountActions env account actions = .ok res) :
    TotalsAgree res.storage := by
  obtain ⟨st, hst, -, hs⟩ := accountForAccountActions_ok hres
  exact hs ▸ h.applyActions hst

/-- Once an accrued position covers an amount, so does the total that contains it. -/
lemma covers (h : TotalsAgree (st.flush account)) {t k : ℕ} {data data' : AccountReserveData}
    {ctx ctx' : ReserveDataContext} {feeReductions : FeeReductions} {interests : ℕ × ℕ}
    (hdata : getAccountDataEntryMut st.accountDatas k = .ok data)
    (hopen : st.storage.openReserve k t = .ok (s, ctx))
    (hsettle : ctx.settle data feeReductions = .ok (ctx', data', interests)) :
    data'.deposit ≤ ctx'.reserveData.totalDeposit ∧ data'.debt ≤ ctx'.reserveData.totalDebt := by
  obtain ⟨hctx, -⟩ := openReserve_ok hopen
  obtain ⟨a, ha, heq⟩ := ReserveDataContext.settle_ok hsettle
  simp only [Prod.mk.injEq] at heq
  obtain ⟨rfl, rfl, rfl⟩ := heq
  have hk : (st.flush account).reserveDatas.get k = some ctx.reserveData := hctx.reserveData
  have hpos : (st.flush account).position account k = data := by
    rw [AccountActionsState.flush_position_self, AccountActionsState.position]
    exact (getAccountDataEntryMut_eq_ok.mp hdata).2.symm
  have hd := (h.deposit k _ hk).le_total account
  have hb := (h.debt k _ hk).le_total account
  rw [hpos] at hd hb
  rw [ReserveDataContext.accrual_deposit ha, ReserveDataContext.accrual_debt ha]
  exact ⟨Nat.add_le_add_right hd _, Nat.add_le_add_right hb _⟩

end TotalsAgree

end LendingPoolStorage

namespace World

section

variable [Pendzl]

/-- The messages that move a position between two accounts neither by a transfer nor
by a liquidation. -/
def OneSided (message : Message) : Prop :=
  message.isTransfer = false ∧ message.isLiquidate = false

instance : DecidablePred OneSided := fun _ => inferInstanceAs (Decidable (_ ∧ _))

/-- The step lemma of the totals. -/
lemma execute_totalsAgree {w w' : World} {env : Env} {message : Message}
    (h : w.pool.TotalsAgree) (hkind : OneSided message) (hex : w.execute env message = .ok w') :
    w'.pool.TotalsAgree := by
  cases execute_change hex with
  | actions account actions res _ hres hs => exact hs ▸ h.accountForAccountActions hres
  | quiet hk => exact h.keepsBooks hk
  | register asset _ hr => exact h.registers hr
  | liquidate _ _ _ _ _ hl => exact absurd hl (by simp [hkind.2])
  | move _ _ _ _ _ hm => exact absurd hm (by simp [hkind.1])

/-- The run lemma of the totals. -/
lemma reachable_totalsAgree {t : ℕ} {w : World} (h : Reachable OneSided t w) :
    w.pool.TotalsAgree := by
  refine TimedRun.Reach.invariant (P := fun w => w.pool.TotalsAgree) (fun w hw => ?_)
    (fun t w w' hP hstep => ?_) h
  · rw [hw.1]
    exact .new
  · obtain ⟨env, message, -, hkind, hex⟩ := hstep
    exact execute_totalsAgree hP hkind hex

/-- **Totals are the sums.**  In every reachable state both totals of a registered asset
are the sums of the stored positions; and wherever an action of an account settled a
position, the totals cover every amount that the position covers, so that
`decrease_total_deposit` and `decrease_total_debt` do not underflow. -/
theorem totals_agree {t : ℕ} {w : World} (h : Reachable OneSided t w) :
    (∀ asset k, w.pool.assetToId.get asset = some k →
      ∃ rd, w.pool.reserveDatas.get k = some rd
        ∧ rd.totalDeposit = ∑ a, (w.pool.position a k).deposit
        ∧ rd.totalDebt = ∑ a, (w.pool.position a k).debt)
    ∧ ∀ account feeReductions time actions st actions' results,
        (w.pool.startActions account).applyActions feeReductions time actions
          = .ok (st, actions', results) →
        ∀ k data s ctx reductions ctx' data' interests,
          getAccountDataEntryMut st.accountDatas k = .ok data →
          st.storage.openReserve k time = .ok (s, ctx) →
          ctx.settle data reductions = .ok (ctx', data', interests) →
          (∀ amount rest, checkedSub data'.deposit amount = some rest →
            ∃ rd, ctx'.reserveData.decreaseTotalDeposit amount = .ok rd)
          ∧ (∀ amount rest, checkedSub data'.debt amount = some rest →
            ∃ rd, ctx'.reserveData.decreaseTotalDebt amount = .ok rd) := by
  have hagree := reachable_totalsAgree h
  refine ⟨fun asset k hk => ?_, ?_⟩
  · obtain ⟨rd, hrd⟩ := hagree.registered asset k hk
    exact ⟨rd, hrd, hagree.deposit k rd hrd, hagree.debt k rd hrd⟩
  · intro account feeReductions time actions st actions' results hrun k data s ctx reductions ctx'
      data' interests hdata hopen hsettle
    obtain ⟨hd, hb⟩ := (hagree.applyActions hrun).covers hdata hopen hsettle
    refine ⟨fun amount rest hrest => ?_, fun amount rest hrest => ?_⟩ <;>
      rw [checkedSub_eq_some] at hrest
    · exact ⟨{ ctx'.reserveData with totalDeposit := ctx'.reserveData.totalDeposit - amount }, by
        simp [ReserveData.decreaseTotalDeposit]
        omega⟩
    · exact ⟨{ ctx'.reserveData with totalDebt := ctx'.reserveData.totalDebt - amount }, by
        simp [ReserveData.decreaseTotalDebt]
        omega⟩

end

attribute [local instance] Pendzl.exact in
/-- After a deposit into the sample pool its total is the sum of the deposits. -/
theorem totals_agree_deposit :
    ∃ w, Sample.world.run (Sample.setup ++
        [Sample.send 2 1 fun a => .deposit (Sample.account 100) a 500]) = some w
      ∧ ∃ rd, w.pool.reserveDatas.get 0 = some rd
        ∧ rd.totalDeposit = ∑ a, (w.pool.position a 0).deposit := by
  have hrun : (Sample.world.run (Sample.setup ++
        [Sample.send 2 1 fun a => .deposit (Sample.account 100) a 500])).map
      (fun w => w.pool.assetToId.get (Sample.account 100)) = some (some 0) := by decide +kernel
  obtain ⟨w, hw, hreach, hk⟩ :=
    run_reaches OneSided Sample.world_isInitial (by decide) hrun
  obtain ⟨rd, hrd, hd, -⟩ := (totals_agree hreach).1 _ 0 hk
  exact ⟨w, hw, rd, hrd, hd⟩

end World

end AbaxLending
