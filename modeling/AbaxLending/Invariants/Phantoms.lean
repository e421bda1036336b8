import AbaxLending.Contract.Run
import AbaxLending.Invariants.Registry
import AbaxLending.Invariants.Slots
import AbaxLending.Spec.Ledger

/-!
No phantom positions.

An increase of an amount sets its bit, also when it adds nothing.  So the bit of an amount of
zero is set exactly where something enters nothing and finds nothing.

* `Slot.Step.backed_iff`: which basic steps leave a bit without an amount;
* `Ledger.FillsAt`: no action of a list enters nothing where there is nothing, unless a later
  one fills the place; `applyActions_backed_iff`: the run lemma of the loop;
* `World.execute_backed_iff`: the messages that leave no bit without an amount;
* `World.no_phantom_positions`: the invariant of all runs of these messages.
-/

namespace AbaxLending

open Outcome

/-! ### One slot -/

/-- The operation that raises the amount of a side. -/
def Side.raise : Side → Operation
  | .deposit => .deposit
  | .debt => .borrow

/-- The bit of a side. -/
def Slot.bit (self : Slot) : Side → Bool
  | .deposit => self.deposits
  | .debt => self.borrows

/-- Where the bit of a side is set, there is an amount. -/
def Slot.Backed (self : Slot) (side : Side) : Prop :=
  self.bit side = true → side.amount self.data ≠ 0

/-- An accrual keeps which amounts are zero. -/
lemma AccountReserveData.Accrues.amount_eq_zero {before data : AccountReserveData}
    (h : before.Accrues data) (side : Side) : side.amount data = 0 ↔ side.amount before = 0 := by
  have hdeposit := h.deposit
  have hdebt := h.debt
  cases side with
  | deposit => exact ⟨fun hz => Nat.eq_zero_of_le_zero (hz ▸ hdeposit), h.deposit_zero⟩
  | debt => exact ⟨fun hz => Nat.eq_zero_of_le_zero (hz ▸ hdebt), h.debt_zero⟩

/-- **Which basic steps leave a bit with an amount**: a step that raises the side by something,
and a step on a slot that had an amount where it had the bit, unless it raises nothing by
nothing. -/
lemma Slot.Step.backed_iff {r : ReserveRestrictions} {slot slot' : Slot} {op : Operation} {n : ℕ}
    (hs : slot.Step r op n slot') (side : Side) :
    slot'.Backed side ↔ (slot.Backed side ∨ op = side.raise ∧ n ≠ 0)
      ∧ ¬(op = side.raise ∧ n = 0 ∧ side.amount slot.data = 0) := by
  cases hs with
  | deposit data n ha =>
      have hdeposit := ha.amount_eq_zero .deposit
      have hdebt := ha.amount_eq_zero .debt
      simp only [Side.amount] at hdeposit hdebt
      cases side <;> simp [Backed, bit, Side.amount, Side.raise, hdebt]
      grind
  | withdraw data n ha hpos hn =>
      -- a bit that stays was not cleared with the whole deposit
      have hdebt := ha.amount_eq_zero .debt
      simp only [Side.amount] at hdebt
      cases side <;> simp [Backed, bit, Side.amount, Side.raise, hdebt, hpos]
      omega
  | borrow data n ha hmin =>
      have hdeposit := ha.amount_eq_zero .deposit
      have hdebt := ha.amount_eq_zero .debt
      simp only [Side.amount] at hdeposit hdebt
      cases side <;> simp [Backed, bit, Side.amount, Side.raise, hdeposit]
      grind
  | repay data n ha hpos hn hmin =>
      have hdeposit := ha.amount_eq_zero .deposit
      simp only [Side.amount] at hdeposit
      cases side <;> simp [Backed, bit, Side.amount, Side.raise, hdeposit, hpos]
      omega

/-! ### The actions of an account -/

/-- The action raises a side of its asset by something. -/
def Action.Raises (self : Action) (side : Side) (x : AccountId) : Prop :=
  self.op = side.raise ∧ self.asset = x ∧ self.amount ≠ 0

/-- The action raises a side of its asset by nothing, and finds nothing there. -/
def Action.RaisesNothing (self : Action) (side : Side) (x : AccountId) (ledger : Ledger) : Prop :=
  self.op = side.raise ∧ self.asset = x ∧ self.amount = 0 ∧ side.held (ledger x) = 0

/-- Whenever an action of the list raises nothing by nothing, a later one fills the place. -/
def Ledger.FillsAt (side : Side) (x : AccountId) : Ledger → List Action → Prop
  | _, [] => True
  | ledger, action :: rest =>
      (action.RaisesNothing side x ledger → ∃ later ∈ rest, later.Raises side x)
        ∧ FillsAt side x (ledger.enter action) rest

/-- The same for both sides of every asset. -/
def Ledger.Fills (self : Ledger) (actions : List Action) : Prop :=
  ∀ side x, self.FillsAt side x actions

namespace LendingPoolStorage

variable [Pendzl] {s : LendingPoolStorage} {env : Env} {account x : AccountId} {k t : ℕ}
  {st st' : AccountActionsState} {side : Side}

/-- The ledger shows nothing where nothing is stored. -/
lemma applyAction_held {action action' : Action} {interests : ℕ × ℕ}
    (h : st.applyAction (st.storage.getFeeReductionsOfAccount env account) t action
      = .ok (st', action', interests)) (hk : st.storage.assetToId.get action.asset = some k) :
    side.held ((st.flush account).ledgerOf env account t action.asset) = 0
      ↔ side.amount (st.slot k).data = 0 := by
  obtain ⟨k', ctx, res, rd, i, e, hk', -, hopen, hstep, -⟩ := AccountActionsState.applyAction_ok h
  cases hk.symm.trans hk'
  obtain ⟨a, ha, -⟩ := Action.step_settles hstep
  rw [flush_ledgerOf hk hopen ha, Side.held_holding]
  exact (ReserveDataContext.accrual_accrues ha).amount_eq_zero side

/-- The step lemma of the loop. -/
lemma applyAction_backed_iff {action action' : Action} {interests : ℕ × ℕ}
    (hids : st.storage.IdsUnique) (hx : st.storage.assetToId.get x = some k)
    (h : st.applyAction (st.storage.getFeeReductionsOfAccount env account) t action
      = .ok (st', action', interests)) :
    (st'.slot k).Backed side ↔ ((st.slot k).Backed side ∨ action.Raises side x)
      ∧ ¬action.RaisesNothing side x ((st.flush account).ledgerOf env account t) := by
  obtain ⟨k', r, hk', -, hslot, hothers⟩ := applyAction_slot h
  by_cases hasset : action.asset = x
  · subst hasset
    cases hx.symm.trans hk'
    have hamount : action.op = side.raise → action'.amount = action.amount := by
      intro hop
      rw [(applyAction_ledger hids h).1]
      cases side <;> simp only [Action.settled, hop, Side.raise]
    rw [hslot.backed_iff side, Action.Raises, Action.RaisesNothing, applyAction_held h hx]
    by_cases hop : action.op = side.raise
    · simp only [hop, hamount hop, true_and]
    · simp only [hop, false_and]
  · have hne : k ≠ k' := by
      rintro rfl
      exact hasset (hids.inj action.asset x k hk' hx)
    rw [hothers k hne]
    simp only [Action.Raises, Action.RaisesNothing, hasset, false_and, and_false, or_false,
      not_false_eq_true, and_true]

/-- **Which lists of actions leave a bit with an amount.** -/
lemma applyActions_backed_iff {actions actions' : List Action} {results : List (ℕ × ℕ)}
    {feeReductions : FeeReductions} (hids : st.storage.IdsUnique)
    (hreductions : feeReductions = st.storage.getFeeReductionsOfAccount env account)
    (hx : st.storage.assetToId.get x = some k)
    (h : st.applyActions feeReductions t actions = .ok (st', actions', results)) :
    (st'.slot k).Backed side
      ↔ ((st.slot k).Backed side ∨ ∃ action ∈ actions, action.Raises side x)
        ∧ ((st.flush account).ledgerOf env account t).FillsAt side x actions := by
  induction actions generalizing st actions' results with
  | nil =>
      obtain ⟨rfl, -, -⟩ := AccountActionsState.applyActions_nil_ok h
      simp [Ledger.FillsAt]
  | cons action rest ih =>
      obtain ⟨st₁, action₁, ints, rest₂, results₂, h₁, h₂, rfl, -⟩ :=
        AccountActionsState.applyActions_cons_ok h
      have hkeeps := applyAction_keepsRegistry h₁
      subst hreductions
      have hreductions : st.storage.getFeeReductionsOfAccount env account
          = st₁.storage.getFeeReductionsOfAccount env account := by
        obtain ⟨_, _, _, _, _, _, -, -, -, -, -, -, -, rfl⟩ :=
          AccountActionsState.applyAction_ok h₁
        rfl
      have hrest := ih (hids.keepsRegistry hkeeps) hreductions (hkeeps.assetToId ▸ hx) h₂
      have hfirst : (st₁.slot k).Backed side ↔ _ := applyAction_backed_iff hids hx h₁
      rw [(applyAction_ledger hids h₁).2] at hrest
      rw [hrest, hfirst, Ledger.FillsAt, List.exists_mem_cons_iff]
      -- a slot that the first action empties must be filled by a later one
      rw [and_or_right, or_assoc, ← imp_iff_not_or, and_assoc]

/-- A list of actions that runs is about registered assets. -/
lemma applyActions_registered {actions actions' : List Action} {results : List (ℕ × ℕ)}
    {feeReductions : FeeReductions}
    (h : st.applyActions feeReductions t actions = .ok (st', actions', results)) :
    ∀ action ∈ actions, ∃ k, st.storage.assetToId.get action.asset = some k := by
  induction actions generalizing st actions' results with
  | nil =>
      intro action hmem
      cases hmem
  | cons action rest ih =>
      obtain ⟨st₁, action₁, ints, rest₂, results₂, h₁, h₂, -, -⟩ :=
        AccountActionsState.applyActions_cons_ok h
      have hids := (applyAction_keepsRegistry h₁).assetToId
      intro action' hmem
      rcases List.mem_cons.mp hmem with rfl | hmem
      · obtain ⟨k, -, hk, -⟩ := applyAction_slot h₁
        exact ⟨k, hk⟩
      · exact hids ▸ ih h₂ action' hmem

omit [Pendzl] in
/-- Actions on other assets raise nothing of an asset. -/
lemma fillsAt_of_ne {actions : List Action} {ledger : Ledger}
    (h : ∀ action ∈ actions, action.asset ≠ x) : ledger.FillsAt side x actions := by
  induction actions generalizing ledger with
  | nil => trivial
  | cons action rest ih =>
      refine ⟨fun hraises => ?_, ih fun a ha => h a (List.mem_cons_of_mem _ ha)⟩
      exact absurd hraises.2.1 (h action List.mem_cons_self)

/-- Every bit has its amount. -/
def Backed (s : LendingPoolStorage) : Prop := ∀ a k side, (s.slot a k).Backed side

/-- **Which actions of an account leave every bit with its amount.** -/
theorem accountForAccountActions_backed_iff {actions : List Action} {res : AccountActionsResult}
    (hids : s.IdsUnique) (h : s.Backed)
    (hres : s.accountForAccountActions env account actions = .ok res) :
    res.storage.Backed ↔ (s.ledgerOf env account env.blockTimestamp).Fills actions := by
  obtain ⟨st, hst, -, hs⟩ := accountForAccountActions_ok hres
  have hslot : ∀ side k, ((s.startActions account).slot k).Backed side := by
    intro side k
    rw [AccountActionsState.slot, startActions_position]
    exact h account k side
  have hloop : ∀ side x k, s.assetToId.get x = some k →
      ((st.slot k).Backed side
        ↔ (s.ledgerOf env account env.blockTimestamp).FillsAt side x actions) := by
    intro side x k hx
    have hrun : (st.slot k).Backed side ↔ _ := applyActions_backed_iff hids rfl hx hst
    rw [hrun, startActions_ledgerOf]
    exact and_iff_right (.inl (hslot side k))
  constructor
  · intro hbacked side x
    cases hx : s.assetToId.get x with
    | none =>
        refine fillsAt_of_ne fun action hmem heq => ?_
        obtain ⟨k, hk⟩ := applyActions_registered hst action hmem
        cases hx.symm.trans (heq ▸ hk)
    | some k =>
        have hk := hbacked account k side
        rw [hs, slot_flush, if_pos rfl] at hk
        exact (hloop side x k hx).mp hk
  · intro hfills a k side
    by_cases hregistered : ∃ x, s.assetToId.get x = some k
    · obtain ⟨x, hx⟩ := hregistered
      by_cases ha : a = account
      · rw [hs, slot_flush, if_pos ha]
        exact (hloop side x k hx).mpr (hfills side x)
      · have hother := accountForAccountActions_slots (a := a) (k := k)
          (R := fun b j slot => b ≠ account → slot.Backed side)
          (fun _ _ _ _ _ _ _ _ _ _ _ hne => absurd rfl hne) hres (fun b j _ => h b j side)
        exact hother ha
    · -- no action is about an asset that is not registered
      have hkeep := accountForAccountActions_slots (a := a) (k := k)
        (R := fun b j slot => (¬∃ x, s.assetToId.get x = some j) → slot.Backed side)
        (fun x j _ _ _ _ _ hj _ _ _ hnone => absurd ⟨x, hj⟩ hnone) hres (fun b j _ => h b j side)
      exact hkeep hregistered

/-- **Which liquidations leave every bit with its amount**: those that take something, and
those of a caller who has a deposit in the asset to take. -/
theorem Liquidation.backed_iff {caller liquidated assetToRepay assetToTake : AccountId}
    {amount : ℕ} (r : Liquidation s env caller liquidated assetToRepay assetToTake amount t)
    (h : s.Backed) :
    r.written.Backed ↔ s.quotedTake env liquidated assetToRepay r.repayId r.k amount t ≠ .ok 0
      ∨ (s.position caller r.k).deposit ≠ 0 := by
  obtain ⟨d, b, -, -, hfirst, hpos, -⟩ := r.taken
  obtain ⟨_, _, -, -, hsecond, -⟩ := r.given
  have hzero : r.second.amount = 0 ↔ r.amountToTake = 0 := by omega
  have hquote : s.quotedTake env liquidated assetToRepay r.repayId r.k amount t ≠ .ok 0
      ↔ r.amountToTake ≠ 0 := by
    rw [r.quotedTake_eq, ne_eq, Except.ok.injEq]
  rw [hquote, ← not_and_or, ← hzero]
  constructor
  · intro hbacked
    have hcaller := hbacked caller r.k .deposit
    rw [r.slot_caller, if_pos rfl, r.second_slot.1.backed_iff] at hcaller
    exact fun hboth => hcaller.2 ⟨rfl, hboth⟩
  · intro hsome
    refine fun a k side => r.slots (R := fun _ _ slot => ∀ side, slot.Backed side)
      (fun _ _ _ _ op _ _ hdeposit hborrow _ _ hR hslot side => ?_)
      (fun _ _ _ hR hslot side => ?_) h a k side
    · have hop : op ≠ side.raise := by cases side <;> assumption
      rw [hslot.backed_iff]
      exact ⟨.inl (hR side), fun hraises => hop hraises.1⟩
    · rw [hslot.backed_iff]
      refine ⟨.inl (hR side), fun hraises => ?_⟩
      cases side with
      | deposit => exact hsome hraises.2
      | debt => cases hraises.1

end LendingPoolStorage

/-! ### Runs -/

namespace World

/-- The message raises nothing by nothing: no list of actions does so without a later action
that fills the place, and a liquidation takes something, or its caller has a deposit in the
asset to take. -/
def Harmless [Pendzl] (w : World) (env : Env) : Message → Prop
  | .multiOp op onBehalfOf => (w.pool.ledgerOf env onBehalfOf env.blockTimestamp).Fills op
  | .liquidate liquidatedAccount assetToRepay assetToTake amountToRepay _ =>
      ∀ repayId takeId, w.pool.assetToId.get assetToRepay = some repayId →
        w.pool.assetToId.get assetToTake = some takeId →
        w.pool.quotedTake env liquidatedAccount assetToRepay repayId takeId amountToRepay
            env.blockTimestamp ≠ .ok 0
          ∨ (w.pool.position env.caller takeId).deposit ≠ 0
  | _ => True

section

variable [Pendzl] {w w' : World} {env : Env} {message : Message}

omit [Pendzl] in
/-- One action that moves something fills its place. -/
lemma fills_single {ledger : Ledger} {action : Action} (hamount : action.amount ≠ 0) :
    ledger.Fills [action] := by
  intro side x
  exact ⟨fun hraises => absurd hraises.2.2.1 hamount, trivial⟩

/-- The messages with one action move something, so they fill their place. -/
lemma execute_fills {account : AccountId} {actions : List Action} {ledger : Ledger}
    (hex : w.execute env message = .ok w') (hm : message.userActions = some (account, actions))
    (hmulti : ∀ op, message ≠ .multiOp op account) : ledger.Fills actions := by
  cases message with
  | deposit asset onBehalfOf amount =>
      cases hm
      simp only [execute, mapErr_eq_ok, deposit, checkAmountNotZero, bind_eq_ok,
        failIf_eq_ok] at hex
      obtain ⟨_, hne, -⟩ := hex
      exact fills_single hne
  | withdraw asset onBehalfOf amount =>
      cases hm
      simp only [execute, mapErr_eq_ok, withdraw, checkAmountNotZero, bind_eq_ok,
        failIf_eq_ok] at hex
      obtain ⟨_, ⟨_, hne, -⟩, -⟩ := hex
      exact fills_single hne
  | borrow asset onBehalfOf amount =>
      cases hm
      simp only [execute, mapErr_eq_ok, borrow, checkAmountNotZero, bind_eq_ok,
        failIf_eq_ok] at hex
      obtain ⟨_, hne, -⟩ := hex
      exact fills_single hne
  | repay asset onBehalfOf amount =>
      cases hm
      simp only [execute, mapErr_eq_ok, repay, checkAmountNotZero, bind_eq_ok,
        failIf_eq_ok] at hex
      obtain ⟨_, ⟨_, hne, -⟩, -⟩ := hex
      exact fills_single hne
  | multiOp op onBehalfOf =>
      cases hm
      exact absurd rfl (hmulti actions)
  | _ => cases hm

/-- The messages without actions and liquidations leave the amounts and their bits. -/
lemma execute_backed_quiet (h : w.pool.Backed) (hkind : NoTransfer message)
    (hactions : message.userActions = none) (hliquidate : message.isLiquidate = false)
    (hex : w.execute env message = .ok w') : w'.pool.Backed := by
  cases execute_slotChange hkind hex with
  | actions _ _ _ hm => cases hactions.symm.trans hm
  | liquidate _ _ _ _ _ _ hm =>
      rw [hm] at hliquidate
      cases hliquidate
  | collateral account _ k use _ _ hsets =>
      intro a j side
      rw [hsets.slot]
      split_ifs with hown
      · -- the collateral bit is the bit of no side
        have hside := h account k side
        cases side <;> exact hside
      · exact h a j side
  | keep hsame =>
      intro a j side
      rw [hsame]
      exact h a j side

/-- **Which messages leave every bit with its amount.** -/
theorem execute_backed_iff (hids : w.pool.IdsUnique) (h : w.pool.Backed)
    (hkind : NoTransfer message) (hex : w.execute env message = .ok w') :
    w'.pool.Backed ↔ w.Harmless env message := by
  have hactions : ∀ account actions, message.userActions = some (account, actions) →
      (w'.pool.Backed ↔ (w.pool.ledgerOf env account env.blockTimestamp).Fills actions) := by
    intro account actions hm
    obtain ⟨res, hres, hs⟩ := execute_userActions hex hm
    rw [hs]
    exact LendingPoolStorage.accountForAccountActions_backed_iff hids h hres
  cases message with
  | multiOp op onBehalfOf => exact hactions onBehalfOf op rfl
  | deposit asset onBehalfOf amount =>
      exact iff_of_true ((hactions _ _ rfl).mpr (execute_fills hex rfl fun _ => nofun)) trivial
  | withdraw asset onBehalfOf amount =>
      exact iff_of_true ((hactions _ _ rfl).mpr (execute_fills hex rfl fun _ => nofun)) trivial
  | borrow asset onBehalfOf amount =>
      exact iff_of_true ((hactions _ _ rfl).mpr (execute_fills hex rfl fun _ => nofun)) trivial
  | repay asset onBehalfOf amount =>
      exact iff_of_true ((hactions _ _ rfl).mpr (execute_fills hex rfl fun _ => nofun)) trivial
  | liquidate liquidated toRepay toTake amount minimum =>
      obtain ⟨res, hres, hs⟩ := (execute_frame hex).1
      obtain ⟨r, rfl⟩ := LendingPoolStorage.accountForLiquidate_ok hres
      rw [hs, r.backed_iff h, Harmless]
      constructor
      · intro hor repayId takeId hr ht
        cases r.registeredRepay.symm.trans hr
        cases r.registeredTake.symm.trans ht
        exact hor
      · exact fun hall => hall _ _ r.registeredRepay r.registeredTake
  | _ => exact iff_of_true (execute_backed_quiet h hkind rfl rfl hex) trivial

/-- One message that is not a transfer and raises nothing by nothing. -/
def HarmlessStep (t : ℕ) (w w' : World) : Prop :=
  ∃ env message, env.blockTimestamp = t ∧ NoTransfer message ∧ w.Harmless env message
    ∧ w.execute env message = .ok w'

/-- The run lemma of the bits and their amounts. -/
lemma reach_backed {t : ℕ} (h : TimedRun.Reach IsInitial HarmlessStep t w) :
    w.Linked ∧ w.pool.Backed := by
  refine TimedRun.Reach.invariant (P := fun w => w.Linked ∧ w.pool.Backed) (fun w hw => ?_)
    (fun t w w' hP hstep => ?_) h
  · refine ⟨reachable_linked (.start hw : Reachable NoTransfer 0 _), fun a k side hbit => ?_⟩
    rw [hw.1] at hbit
    have hzero : (0#128).getLsbD k = false := BitVec.getLsbD_zero
    cases side <;> exact absurd (hzero.symm.trans hbit) (by decide)
  · obtain ⟨env, message, -, hkind, hharmless, hex⟩ := hstep
    exact ⟨execute_linked hP.1 hex,
      (execute_backed_iff hP.1.ids hP.2 hkind hex).mpr hharmless⟩

/-- **No phantom positions.**  In every state that is reached from a new pool by messages other
than the transfers that raise nothing by nothing, an account with the bit of a deposit has the
deposit, and an account with the bit of a debt has the debt. -/
theorem no_phantom_positions {t : ℕ} (h : TimedRun.Reach IsInitial HarmlessStep t w)
    (a : AccountId) (k : ℕ) :
    ((w.pool.getAccountConfig a).deposits.getLsbD k = true → (w.pool.position a k).deposit ≠ 0)
      ∧ ((w.pool.getAccountConfig a).borrows.getLsbD k = true →
        (w.pool.position a k).debt ≠ 0) := by
  obtain ⟨-, hbacked⟩ := reach_backed h
  exact ⟨hbacked a k .deposit, hbacked a k .debt⟩

/-- The messages that run no actions of an account. -/
def Quiet (message : Message) : Prop :=
  message.userActions = none ∧ message.isLiquidate = false ∧ message.isTransfer = false

instance : DecidablePred Quiet := fun _ => inferInstanceAs (Decidable (_ ∧ _ ∧ _))

/-- They raise nothing. -/
lemma Quiet.harmless (h : Quiet message) : w.Harmless env message := by
  obtain ⟨hactions, hliquidate, -⟩ := h
  cases message with
  | multiOp => cases hactions
  | liquidate => cases hliquidate
  | _ => trivial

end

attribute [local instance] Pendzl.exact in
/-- A deposit of nothing that is followed by a deposit of something leaves no phantom. -/
theorem no_phantom_positions_filled :
    ∃ w w', Sample.world.run Sample.setup = some w
      ∧ w.execute (Sample.env (Sample.account 2) 1) (.multiOp
        [⟨.deposit, Sample.account 100, 0⟩, ⟨.deposit, Sample.account 100, 5⟩]
        (Sample.account 2)) = .ok w'
      ∧ (w'.pool.position (Sample.account 2) 0).deposit ≠ 0 := by
  have hrun : (Sample.world.run Sample.setup).map (fun w =>
        (w.execute (Sample.env (Sample.account 2) 1) (.multiOp
          [⟨.deposit, Sample.account 100, 0⟩, ⟨.deposit, Sample.account 100, 5⟩]
          (Sample.account 2))).toOption.map fun w' =>
            (w'.pool.getAccountConfig (Sample.account 2)).deposits.getLsbD 0)
      = some (some true) := by decide +kernel
  obtain ⟨w, hw, hreach, hv⟩ := run_reaches Quiet Sample.world_isInitial (by decide) hrun
  obtain ⟨w', hw', hbit⟩ := Option.map_eq_some_iff.mp hv
  have hex := toOption_eq_some.mp hw'
  refine ⟨w, w', hw, hex, ?_⟩
  have hsetup : TimedRun.Reach IsInitial HarmlessStep 0 w := by
    refine hreach.mono fun t w w' hstep => ?_
    obtain ⟨env, message, htime, hquiet, hstep⟩ := hstep
    exact ⟨env, message, htime, hquiet.2.2, hquiet.harmless, hstep⟩
  have hfills : (w.pool.ledgerOf (Sample.env (Sample.account 2) 1) (Sample.account 2) 1).Fills
      [⟨.deposit, Sample.account 100, 0⟩, ⟨.deposit, Sample.account 100, 5⟩] := by
    refine fun side x => ⟨fun hraises => ?_, fun hraises => ?_, trivial⟩
    · exact ⟨_, List.mem_singleton_self _, hraises.1, hraises.2.1, by decide⟩
    · exact absurd hraises.2.2.1 (by decide)
  have hstep : HarmlessStep 1 w w' := ⟨Sample.env (Sample.account 2) 1, .multiOp
    [⟨.deposit, Sample.account 100, 0⟩, ⟨.deposit, Sample.account 100, 5⟩] (Sample.account 2),
    rfl, rfl, hfills, hex⟩
  exact (no_phantom_positions (.next hsetup (Nat.zero_le 1) hstep) (Sample.account 2) 0).1 hbit

attribute [local instance] Pendzl.exact in
/-- **A phantom position.**  A list with a deposit of nothing sets the bit of the deposit. -/
theorem empty_deposit_sets_bit :
    ∃ w, Reachable NoTransfer 1 w
      ∧ (w.pool.getAccountConfig (Sample.account 2)).deposits.getLsbD 0 = true
      ∧ (w.pool.position (Sample.account 2) 0).deposit = 0 := by
  have hrun : (Sample.world.run (Sample.setup ++ [Sample.send 2 1 fun a =>
        .multiOp [⟨.deposit, Sample.account 100, 0⟩] a])).map (fun w =>
          ((w.pool.getAccountConfig (Sample.account 2)).deposits.getLsbD 0,
            (w.pool.position (Sample.account 2) 0).deposit))
      = some (true, 0) := by decide +kernel
  obtain ⟨w, -, hreach, hv⟩ :=
    run_reaches NoTransfer Sample.world_isInitial (by decide) hrun
  obtain ⟨hbit, hdeposit⟩ := Prod.mk.inj hv
  exact ⟨w, hreach, hbit, hdeposit⟩

end World

end AbaxLending
