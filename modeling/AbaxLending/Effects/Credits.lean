import AbaxLending.Effects.Pokes
import AbaxLending.Invariants.Listing
import AbaxLending.Invariants.Slots
import AbaxLending.Spec.Ledger

/-!
Lists of deposits and repayments.

Such a list only credits its account.  In an asset that it touches it leaves an entry that is
accrued to its timestamp; it sets the deposit bits of the assets it deposits, it may clear
borrow bits, and the other assets keep their entries, bits and reserves.

* `applyAction_credits`: what one deposit or repayment does to the copies;
* `applyActions_credits`: what the loop does, by induction on the list;
* `pokes_reserves`: the reserves after every asset of the list was poked;
* `settle_credits`: the amounts, in the ledger of the account.
-/

namespace AbaxLending

open Outcome

/-- A deposit or a repayment. -/
def Action.IsCredit (self : Action) : Prop := self.op = .deposit ∨ self.op = .repay

instance : DecidablePred Action.IsCredit := fun _ => inferInstanceAs (Decidable (_ ∨ _))

/-- The ids under which assets are registered. -/
abbrev AssetIds := Mapping AccountId ℕ

namespace AssetIds

variable (ids : AssetIds)

/-- An action of the list is about the asset with the id `k`. -/
def Touches (actions : List Action) (k : ℕ) : Prop :=
  ∃ action ∈ actions, ids.get action.asset = some k

/-- An action of the list is a deposit of the asset with the id `k`. -/
def Deposits (actions : List Action) (k : ℕ) : Prop :=
  ∃ action ∈ actions, action.op = .deposit ∧ ids.get action.asset = some k

instance (actions : List Action) (k : ℕ) : Decidable (ids.Touches actions k) :=
  inferInstanceAs (Decidable (∃ action ∈ actions, _))

instance (actions : List Action) (k : ℕ) : Decidable (ids.Deposits actions k) :=
  inferInstanceAs (Decidable (∃ action ∈ actions, _))

/-- The amounts that the list deposits of the asset with the id `k`. -/
def deposited (actions : List Action) (k : ℕ) : ℕ :=
  (actions.map fun action =>
    if action.op = .deposit ∧ ids.get action.asset = some k then action.amount else 0).sum

variable {ids} {action : Action} {actions : List Action} {k : ℕ}

lemma touches_cons : ids.Touches (action :: actions) k
    ↔ ids.get action.asset = some k ∨ ids.Touches actions k := by
  simp [Touches]

lemma deposits_cons : ids.Deposits (action :: actions) k
    ↔ (action.op = .deposit ∧ ids.get action.asset = some k) ∨ ids.Deposits actions k := by
  simp [Deposits]

lemma Deposits.touches (h : ids.Deposits actions k) : ids.Touches actions k := by
  obtain ⟨action, haction, -, hk⟩ := h
  exact ⟨action, haction, hk⟩

/-- What is not deposited adds nothing. -/
lemma deposited_eq_zero (h : ¬ids.Deposits actions k) : ids.deposited actions k = 0 := by
  refine List.sum_eq_zero fun n hn => ?_
  obtain ⟨action, haction, rfl⟩ := List.mem_map.mp hn
  exact if_neg fun hc => h ⟨action, haction, hc.1, hc.2⟩

end AssetIds

/-- What a deposit or a repayment does to the bits and the debt of its slot; a repayment needs a
debt. -/
lemma Slot.Step.credits {r : ReserveRestrictions} {slot slot' : Slot} {op : Operation} {n : ℕ}
    (hcredit : op = .deposit ∨ op = .repay) (h : slot.Step r op n slot') :
    slot'.deposits = (slot.deposits || decide (op = .deposit))
      ∧ slot'.collaterals = slot.collaterals
      ∧ (slot'.borrows = true → slot.borrows = true)
      ∧ (slot.data.debt = 0 →
        op = .deposit ∧ slot'.data.debt = 0 ∧ slot'.borrows = slot.borrows) := by
  cases h with
  | deposit data n ha => exact ⟨by simp, rfl, id, fun hdebt => ⟨rfl, ha.debt_zero hdebt, rfl⟩⟩
  | repay data n ha hpos =>
      refine ⟨by simp, rfl, fun hb => ?_, fun hdebt => absurd hdebt hpos⟩
      exact (Bool.and_eq_true_iff.mp hb).1
  | withdraw => rcases hcredit with h | h <;> cases h
  | borrow => rcases hcredit with h | h <;> cases h

namespace AccountActionsState

/-- The copies have an entry of the asset that is accrued to the time `t`. -/
def SettledAt (st : AccountActionsState) (k t : ℕ) : Prop :=
  ∃ rd r data, st.storage.reserveDatas.get k = some rd
    ∧ st.storage.reserveIndexesAndFees.get k = some r ∧ r.indexes.updateTimestamp = t
    ∧ st.accountDatas[k]?.join = some data
    ∧ r.indexes.depositIndexE18 ≤ data.appliedDepositIndexE18
    ∧ r.indexes.debtIndexE18 ≤ data.appliedDebtIndexE18

/-- The copies agree in an asset: its reserve, its entry and its bits. -/
structure SameAt (st st' : AccountActionsState) (k : ℕ) : Prop where
  reserveData : st'.storage.reserveDatas.get k = st.storage.reserveDatas.get k
  reserve : st'.storage.reserveIndexesAndFees.get k = st.storage.reserveIndexesAndFees.get k
  entry : st'.accountDatas[k]?.join = st.accountDatas[k]?.join
  deposits : st'.accountConfig.deposits.getLsbD k = st.accountConfig.deposits.getLsbD k
  collaterals : st'.accountConfig.collaterals.getLsbD k = st.accountConfig.collaterals.getLsbD k
  borrows : st'.accountConfig.borrows.getLsbD k = st.accountConfig.borrows.getLsbD k

variable {st st' st'' : AccountActionsState} {k t : ℕ}

lemma SameAt.refl (st : AccountActionsState) (k : ℕ) : st.SameAt st k :=
  ⟨rfl, rfl, rfl, rfl, rfl, rfl⟩

lemma SameAt.trans (h : st.SameAt st' k) (h' : st'.SameAt st'' k) : st.SameAt st'' k :=
  ⟨h'.reserveData.trans h.reserveData, h'.reserve.trans h.reserve, h'.entry.trans h.entry,
    h'.deposits.trans h.deposits, h'.collaterals.trans h.collaterals,
    h'.borrows.trans h.borrows⟩

lemma SameAt.settledAt (h : st.SameAt st' k) (hs : st.SettledAt k t) : st'.SettledAt k t := by
  obtain ⟨rd, r, data, hrd, hr, htime, hdata, hd, hb⟩ := hs
  exact ⟨rd, r, data, h.reserveData.trans hrd, h.reserve.trans hr, htime, h.entry.trans hdata, hd,
    hb⟩

variable [Pendzl] {feeReductions : FeeReductions} {action action' : Action} {interests : ℕ × ℕ}

/-- **What one deposit or repayment does to the copies.** -/
lemma applyAction_credits (hcredit : action.IsCredit)
    (h : st.applyAction feeReductions t action = .ok (st', action', interests)) :
    ∃ k, st.storage.assetToId.get action.asset = some k ∧ st'.SettledAt k t
      ∧ (∀ j, j ≠ k → st.SameAt st' j)
      ∧ st'.accountConfig.deposits.getLsbD k
        = (st.accountConfig.deposits.getLsbD k || decide (action.op = .deposit))
      ∧ st'.accountConfig.collaterals.getLsbD k = st.accountConfig.collaterals.getLsbD k
      ∧ (st'.accountConfig.borrows.getLsbD k = true → st.accountConfig.borrows.getLsbD k = true)
      ∧ ((st.position k).debt = 0 → action.op = .deposit ∧ (st'.position k).debt = 0
        ∧ st'.accountConfig.borrows.getLsbD k = st.accountConfig.borrows.getLsbD k) := by
  obtain ⟨k, ctx, res, rd, i, e, hk, hlen, hopen, hstep, -, -, -, rfl⟩ := applyAction_ok h
  obtain ⟨hown, hothers⟩ := Action.step_slot hstep
  rw [hopen.assetId] at hown hothers
  obtain ⟨hdeposits, hcollaterals, hborrows, hnone⟩ := hown.credits hcredit
  obtain ⟨a, ha, -, -, hd, hb, hreserve⟩ := Action.step_settles hstep
  obtain ⟨hcd, hcb⟩ := AccountReserveData.accumulateAccountInterest_caughtUp ha
  obtain ⟨r, hr, hupdate, -⟩ := hopen.indexes
  refine ⟨k, hk, ⟨rd, res.ctx.reserveIndexesAndFees, res.data, Mapping.get_insert_self ..,
    Mapping.get_insert_self .., ?_, ?_, ?_, ?_⟩, fun j hj => ⟨?_, ?_, ?_, ?_, ?_, ?_⟩, ?_⟩
  · rw [hreserve]
    exact ReserveIndexes.update_timestamp hupdate
  · rw [getElem?_set_join _ hlen, if_pos rfl]
  · rw [hreserve, hd]
    exact hcd
  · rw [hreserve, hb]
    exact hcb
  · exact Mapping.get_insert_of_ne _ hj _
  · exact Mapping.get_insert_of_ne _ hj _
  · rw [getElem?_set_join _ hlen, if_neg hj]
  · exact congrArg Slot.deposits (hothers j hj default)
  · exact congrArg Slot.collaterals (hothers j hj default)
  · exact congrArg Slot.borrows (hothers j hj default)
  · refine ⟨hdeposits, hcollaterals, hborrows, fun hdebt => ?_⟩
    obtain ⟨hop, hdebt', hsame⟩ := hnone hdebt
    refine ⟨hop, ?_, hsame⟩
    rw [position_set hlen, if_pos rfl]
    exact hdebt'

/-- What a list of deposits and repayments does to the copies. -/
structure Credits (ids : AssetIds) (actions : List Action) (t : ℕ)
    (st st' : AccountActionsState) : Prop where
  same : ∀ k, ¬ids.Touches actions k → st.SameAt st' k
  settled : ∀ k, ids.Touches actions k → st'.SettledAt k t
  deposits : ∀ k, st'.accountConfig.deposits.getLsbD k
    = (st.accountConfig.deposits.getLsbD k || decide (ids.Deposits actions k))
  collaterals : ∀ k,
    st'.accountConfig.collaterals.getLsbD k = st.accountConfig.collaterals.getLsbD k
  borrows : ∀ k, st'.accountConfig.borrows.getLsbD k = true →
    st.accountConfig.borrows.getLsbD k = true
  noDebt : ∀ k, (st.position k).debt = 0 → (ids.Touches actions k → ids.Deposits actions k)
    ∧ (st'.position k).debt = 0
    ∧ st'.accountConfig.borrows.getLsbD k = st.accountConfig.borrows.getLsbD k

/-- **The loop over deposits and repayments**, by induction on the list. -/
theorem applyActions_credits {actions actions' : List Action} {results : List (ℕ × ℕ)}
    (hcredits : ∀ action ∈ actions, action.IsCredit)
    (h : st.applyActions feeReductions t actions = .ok (st', actions', results)) :
    Credits st.storage.assetToId actions t st st' := by
  induction actions generalizing st actions' results with
  | nil =>
      obtain ⟨rfl, -, -⟩ := applyActions_nil_ok h
      refine ⟨fun k _ => .refl st k, fun k hk => ?_, fun k => ?_, fun _ => rfl, fun _ => id,
        fun k hdebt => ⟨fun hk => ?_, hdebt, rfl⟩⟩
      · obtain ⟨action, haction, -⟩ := hk
        cases haction
      · simp [AssetIds.Deposits]
      · obtain ⟨action, haction, -⟩ := hk
        cases haction
  | cons action rest ih =>
      obtain ⟨st₁, action₁, ints, rest₂, results₂, h₁, h₂, -, -⟩ := applyActions_cons_ok h
      obtain ⟨k, hk, hsettled, hothers, hdeposits, hcollaterals, hborrows, hnone⟩ :=
        applyAction_credits (hcredits action List.mem_cons_self) h₁
      have hids : st₁.storage.assetToId = st.storage.assetToId :=
        (LendingPoolStorage.applyAction_keepsRegistry h₁).assetToId
      have hrest := ih (fun x hx => hcredits x (List.mem_cons_of_mem _ hx)) h₂
      rw [hids] at hrest
      have hid : ∀ j, st.storage.assetToId.get action.asset = some j ↔ j = k := fun j => by
        rw [hk, Option.some.injEq, eq_comm]
      constructor
      case same =>
        intro j hj
        rw [AssetIds.touches_cons, hid, not_or] at hj
        exact (hothers j hj.1).trans (hrest.same j hj.2)
      case settled =>
        intro j hj
        by_cases hlater : AssetIds.Touches st.storage.assetToId rest j
        · exact hrest.settled j hlater
        · rw [AssetIds.touches_cons, hid] at hj
          obtain rfl := hj.resolve_right hlater
          exact (hrest.same j hlater).settledAt hsettled
      case deposits =>
        intro j
        rw [hrest.deposits j]
        by_cases hj : j = k
        · simp only [hj, hdeposits, AssetIds.deposits_cons, hk, and_true, Bool.or_assoc,
            Bool.decide_or]
        · simp only [(hothers j hj).deposits, AssetIds.deposits_cons, hid, hj, and_false, false_or]
      case collaterals =>
        intro j
        rw [hrest.collaterals j]
        by_cases hj : j = k
        · rw [hj, hcollaterals]
        · exact (hothers j hj).collaterals
      case borrows =>
        intro j hj
        have hbit := hrest.borrows j hj
        by_cases hjk : j = k
        · rw [hjk] at hbit ⊢
          exact hborrows hbit
        · rw [← (hothers j hjk).borrows]
          exact hbit
      case noDebt =>
        intro j hdebt
        by_cases hj : j = k
        · subst hj
          obtain ⟨hop, hdebt', hbit⟩ := hnone hdebt
          obtain ⟨-, hdebt'', hbit'⟩ := hrest.noDebt j hdebt'
          exact ⟨fun _ => AssetIds.deposits_cons.mpr (.inl ⟨hop, hk⟩), hdebt'', hbit'.trans hbit⟩
        · have hposition : st₁.position j = st.position j :=
            congrArg (Option.getD · default) (hothers j hj).entry
          obtain ⟨htouch, hdebt'', hbit'⟩ := hrest.noDebt j (hposition ▸ hdebt)
          refine ⟨fun hj' => ?_, hdebt'', hbit'.trans (hothers j hj).borrows⟩
          rw [AssetIds.touches_cons, hid] at hj'
          exact AssetIds.deposits_cons.mpr (.inr (htouch (hj'.resolve_left hj)))

end AccountActionsState

namespace LendingPoolStorage

/-! ### The assets poked before -/

/-- The storage after pokes differs from the storage before in reserves and rings only. -/
structure Poked (s s' : LendingPoolStorage) : Prop where
  pricing : SamePricing s s'
  assetToId : s'.assetToId = s.assetToId
  feeReductionProvider : s'.feeReductionProvider = s.feeReductionProvider
  accountReserveDatas : s'.accountReserveDatas = s.accountReserveDatas
  accountConfigs : s'.accountConfigs = s.accountConfigs

variable [Pendzl] {s s' : LendingPoolStorage} {assets : List AccountId} {k t : ℕ}

omit [Pendzl] in
lemma Poked.trans {s₁ : LendingPoolStorage} (h : Poked s s₁) (h' : Poked s₁ s') : Poked s s' where
  pricing := h.pricing.trans h'.pricing
  assetToId := h'.assetToId.trans h.assetToId
  feeReductionProvider := h'.feeReductionProvider.trans h.feeReductionProvider
  accountReserveDatas := h'.accountReserveDatas.trans h.accountReserveDatas
  accountConfigs := h'.accountConfigs.trans h.accountConfigs

/-- One poke brings the indexes of its asset to the time, and keeps the other reserves. -/
lemma poke_reserves {asset : AccountId} (h : s.accountForAccumulateInterest asset t = .ok s') :
    Poked s s' ∧ ∃ j rd r indexes, s.assetToId.get asset = some j
      ∧ s.reserveDatas.get j = some rd ∧ s.reserveIndexesAndFees.get j = some r
      ∧ r.indexes.update rd t = .ok indexes
      ∧ s'.reserveIndexesAndFees.get j = some { r with indexes }
      ∧ ∀ k, k ≠ j → s'.reserveDatas.get k = s.reserveDatas.get k
        ∧ s'.reserveIndexesAndFees.get k = s.reserveIndexesAndFees.get k := by
  obtain ⟨j, rd, r, indexes, rd', i, e, hj, hrd, hr, -, hindexes, -, rfl⟩ :=
    accountForAccumulateInterest_ok h
  refine ⟨⟨⟨rfl, rfl, rfl, rfl, rfl⟩, rfl, rfl, rfl, rfl⟩, j, rd, r, indexes, hj, hrd, hr, hindexes,
    Mapping.get_insert_self .., fun k hk => ?_⟩
  exact ⟨Mapping.get_insert_of_ne _ hk _, Mapping.get_insert_of_ne _ hk _⟩

/-- **Pokes bring the indexes of their assets to the time, and keep the other ones.** -/
theorem pokes_reserves (h : s.pokes assets t = .ok s') :
    Poked s s' ∧ ∀ k,
      ((∃ asset ∈ assets, s.assetToId.get asset = some k) →
        ∃ rd r indexes, s.reserveDatas.get k = some rd ∧ s.reserveIndexesAndFees.get k = some r
          ∧ r.indexes.update rd t = .ok indexes
          ∧ s'.reserveIndexesAndFees.get k = some { r with indexes })
      ∧ ((∀ asset ∈ assets, s.assetToId.get asset ≠ some k) →
        s'.reserveIndexesAndFees.get k = s.reserveIndexesAndFees.get k) := by
  induction assets generalizing s with
  | nil =>
      simp only [pokes, List.foldlM_nil, pure_eq, Except.ok.injEq] at h
      subst h
      refine ⟨⟨.refl, rfl, rfl, rfl, rfl⟩, fun k => ⟨fun hk => ?_, fun _ => rfl⟩⟩
      obtain ⟨asset, hmem, -⟩ := hk
      cases hmem
  | cons asset rest ih =>
      simp only [pokes, List.foldlM_cons, bind_eq_ok] at h
      obtain ⟨s₁, hpoke, hrest⟩ := h
      obtain ⟨hfirst, j, rd, r, indexes, hj, hrd, hr, hindexes, hown, hother⟩ := poke_reserves hpoke
      have hids : s₁.assetToId = s.assetToId := hfirst.assetToId
      obtain ⟨hpoked, hreserves⟩ := ih hrest
      refine ⟨hfirst.trans hpoked, fun k => ⟨fun hk => ?_, fun hk => ?_⟩⟩
      · by_cases hkj : k = j
        · subst hkj
          refine ⟨rd, r, indexes, hrd, hr, hindexes, ?_⟩
          by_cases hlater : ∃ x ∈ rest, s₁.assetToId.get x = some k
          · -- a second poke at the same time changes nothing
            obtain ⟨rd₁, r₁, indexes₁, hrd₁, hr₁, hindexes₁, hget⟩ := (hreserves k).1 hlater
            cases hown.symm.trans hr₁
            cases Except.ok.inj ((ReserveIndexes.update_again hindexes rd₁).symm.trans hindexes₁)
            exact hget
          · have hnone : ∀ x ∈ rest, s₁.assetToId.get x ≠ some k :=
              fun x hx hget => hlater ⟨x, hx, hget⟩
            rw [(hreserves k).2 hnone, hown]
        · obtain ⟨x, hx, hget⟩ := hk
          have hmem : x ∈ rest := by
            refine (List.mem_cons.mp hx).resolve_left fun heq => hkj ?_
            rw [heq, hj, Option.some.injEq] at hget
            exact hget.symm
          obtain ⟨rd₁, r₁, indexes₁, hrd₁, hr₁, hindexes₁, hget'⟩ :=
            (hreserves k).1 ⟨x, hmem, hids ▸ hget⟩
          rw [(hother k hkj).1] at hrd₁
          rw [(hother k hkj).2] at hr₁
          exact ⟨rd₁, r₁, indexes₁, hrd₁, hr₁, hindexes₁, hget'⟩
      · have hkj : k ≠ j := fun heq => hk asset List.mem_cons_self (heq ▸ hj)
        have hnone : ∀ x ∈ rest, s₁.assetToId.get x ≠ some k :=
          fun x hx => hids ▸ hk x (List.mem_cons_of_mem _ hx)
        rw [(hreserves k).2 hnone, (hother k hkj).2]

end LendingPoolStorage

/-! ### The amounts -/

/-- The deposit of an asset grows by what the list deposits of it, and the debt does not grow. -/
lemma Ledger.settle_credits {ids : AssetIds} {actions : List Action} {x : AccountId} {k : ℕ}
    (hcredits : ∀ action ∈ actions, action.IsCredit)
    (hx : ∀ action ∈ actions, ids.get action.asset = some k ↔ action.asset = x) (ledger : Ledger) :
    ((ledger.settle actions).1 x).deposit = (ledger x).deposit + ids.deposited actions k
      ∧ ((ledger.settle actions).1 x).debt ≤ (ledger x).debt := by
  induction actions generalizing ledger with
  | nil => exact ⟨rfl, le_rfl⟩
  | cons action rest ih =>
      obtain ⟨hdeposit, hdebt⟩ := ih (fun a ha => hcredits a (List.mem_cons_of_mem _ ha))
        (fun a ha => hx a (List.mem_cons_of_mem _ ha)) (ledger.enter action)
      have hdeposited : ids.deposited (action :: rest) k
          = (if action.op = .deposit ∧ ids.get action.asset = some k then action.amount else 0)
            + ids.deposited rest k := by
        rw [AssetIds.deposited, List.map_cons, List.sum_cons, AssetIds.deposited]
      have hentered : (ledger.enter action x).deposit
            = (ledger x).deposit + (if action.op = .deposit ∧ ids.get action.asset = some k then
              action.amount else 0)
          ∧ (ledger.enter action x).debt ≤ (ledger x).debt := by
        simp only [Ledger.enter, hx action List.mem_cons_self]
        by_cases hasset : action.asset = x
        · rw [hasset, Function.update_self]
          rcases hcredits action List.mem_cons_self with hop | hop
          · simp [hop, Holding.enter, Action.settled]
          · simp [hop, Holding.enter]
        · rw [Function.update_of_ne (Ne.symm hasset)]
          simp [hasset]
      have hsettled : (ledger.settle (action :: rest)).1
        = ((ledger.enter action).settle rest).1 := rfl
      rw [hsettled, hdeposited]
      exact ⟨by omega, hdebt.trans hentered.2⟩

end AbaxLending
