import AbaxLending.Contract.Run
import AbaxLending.Invariants.Occupied

/-!
The two switches of a reserve.

A reserve that is not activated takes no action at all, and a frozen one takes none that
raises a deposit or a debt (`execute_activated`, `execute_notFrozen`).  Only the two switch
messages change the flags (`execute_flags`), but `set_reserve_is_frozen` writes its argument
to `activated`: it never freezes anything, and it lifts a pause.

* `run_paused`: a pause holds along a run without a freeze;
* `setReserveIsFrozen_activates`: after a freeze the reserve is active and not frozen;
* `switches_hold`: what both switches promise, in every run without a freeze, and what a
  freeze does in the others.
-/

namespace AbaxLending

open Outcome

/-- The flags of a reserve: activated, frozen. -/
def ReserveData.flags (self : ReserveData) : Bool × Bool := (self.activated, self.frozen)

/-- The actions that raise a deposit or a debt. -/
def Action.raises (action : Action) : Prop := action.op = .deposit ∨ action.op = .borrow

/-- The messages that switch a flag. -/
def Message.isSwitch : Message → Bool
  | .setReserveIsActive _ _ | .setReserveIsFrozen _ _ => true
  | _ => false

/-- The message deposits, withdraws, borrows, repays, liquidates or transfers in an asset. -/
def World.Uses (w : World) (asset : AccountId) : Message → Prop
  | .deposit a _ _ | .withdraw a _ _ | .borrow a _ _ | .repay a _ _ => a = asset
  | .multiOp op _ => ∃ action ∈ op, action.asset = asset
  | .liquidate _ toRepay toTake _ _ => toRepay = asset ∨ toTake = asset
  | .transfer token _ _ | .transferFrom token _ _ _ =>
      ∃ t, w.tokens.get token = some t ∧ t.underlyingAsset = asset
  | _ => False

/-- The message raises a deposit or a debt in an asset beyond the interest. -/
def World.Raises (w : World) (asset : AccountId) : Message → Prop
  | .deposit a _ _ | .borrow a _ _ => a = asset
  | .multiOp op _ => ∃ action ∈ op, action.asset = asset ∧ action.raises
  | .liquidate _ _ toTake _ _ => toTake = asset
  | .transfer token _ _ | .transferFrom token _ _ _ =>
      ∃ t, w.tokens.get token = some t ∧ t.underlyingAsset = asset
  | _ => False

namespace LendingPoolStorage

/-- The flags of the reserve with an id. -/
def flags (s : LendingPoolStorage) (k : ℕ) : Option (Bool × Bool) :=
  (s.reserveDatas.get k).map ReserveData.flags

variable {s s' : LendingPoolStorage} {k j t : ℕ} {asset : AccountId}

lemma flags_of_get {rd : ReserveData} (h : s.reserveDatas.get k = some rd) :
    s.flags k = some (rd.activated, rd.frozen) := by
  rw [flags, h]
  rfl

lemma KeepsReserve.flags (h : KeepsReserve k s s') : s'.flags k = s.flags k := by
  have hsteady := congrArg (Option.map fun x : Bool × Bool × ℕ × ℕ => (x.1, x.2.1)) h.steady
  rw [Option.map_map, Option.map_map] at hsteady
  exact hsteady

lemma flags_putReserveData (rd : ReserveData) :
    (s.putReserveData j rd).flags k = if k = j then some rd.flags else s.flags k := by
  rw [flags, putReserveData_reserveDatas, Mapping.get_insert]
  split_ifs <;> rfl

variable [Pendzl] {message : Message}

/-- Without a switch a reserve keeps its flags. -/
lemma ReserveChange.flags (h : ReserveChange message k t s s') (hm : message.isSwitch = false) :
    s'.flags k = s.flags k := by
  cases h with
  | keep hk => exact hk.flags
  | visit hv =>
      rw [flags_of_get hv.reserveData, flags_of_get hv.reserveData', hv.activated, hv.frozen]
  | switch hmessage => rw [hmessage] at hm; cases hm
  | freeze hmessage => rw [hmessage] at hm; cases hm

lemma ReserveChanges.flags (h : ReserveChanges message k t s s')
    (hm : message.isSwitch = false) : s'.flags k = s.flags k := by
  induction h with
  | refl => rfl
  | tail _ hlast ih => exact (hlast.flags hm).trans ih

end LendingPoolStorage

/-! ### Guards -/

section

variable [Pendzl]

/-- An action runs in an activated reserve, and one that raises an amount in one that is not
frozen. -/
lemma Action.step_flags {action : Action} {ctx : ReserveDataContext} {data : AccountReserveData}
    {config : AccountConfig} {feeReductions : FeeReductions} {st : Step}
    (h : action.step ctx data config feeReductions = .ok st) :
    ctx.reserveData.activated = true ∧ (action.raises → ctx.reserveData.frozen = false) := by
  obtain ⟨op, asset, amount⟩ := action
  cases op with
  | deposit =>
      obtain ⟨_, -, hact, hfr, -⟩ := ReserveDataContext.accountForDeposit_ok h
      exact ⟨hact, fun _ => hfr⟩
  | withdraw =>
      obtain ⟨_, _, -, -, hact, -⟩ := ReserveDataContext.accountForWithdraw_ok h
      exact ⟨hact, by simp [Action.raises]⟩
  | borrow =>
      obtain ⟨_, -, hact, hfr, -⟩ := ReserveDataContext.accountForBorrow_ok h
      exact ⟨hact, fun _ => hfr⟩
  | repay =>
      obtain ⟨_, _, -, -, hact, -⟩ := ReserveDataContext.accountForRepay_ok h
      exact ⟨hact, by simp [Action.raises]⟩

namespace LendingPoolStorage

variable {s s' : LendingPoolStorage} {k t : ℕ} {asset : AccountId}

/-- The guards of the actions of an account, on the flags at the start. -/
lemma applyActions_flags {st st' : AccountActionsState} {feeReductions : FeeReductions}
    {actions actions' : List Action} {results : List (ℕ × ℕ)}
    (h : st.applyActions feeReductions t actions = .ok (st', actions', results))
    {action : Action} (hmem : action ∈ actions)
    (hk : st.storage.assetToId.get action.asset = some k) :
    ∃ frozen, st.storage.flags k = some (true, frozen) ∧ (action.raises → frozen = false) := by
  induction actions generalizing st actions' results with
  | nil => cases hmem
  | cons first rest ih =>
      obtain ⟨st₁, a₁, i₁, a₂, i₂, h₁, h₂, -, -⟩ := AccountActionsState.applyActions_cons_ok h
      rcases List.mem_cons.mp hmem with rfl | hrest
      · obtain ⟨j, ctx, res, rd, i, e, hj, -, hopen, hstep, -⟩ :=
          AccountActionsState.applyAction_ok h₁
        cases hj.symm.trans hk
        obtain ⟨hact, hfr⟩ := Action.step_flags hstep
        exact ⟨ctx.reserveData.frozen, by rw [flags_of_get hopen.reserveData, hact], hfr⟩
      · have hflags := (applyAction_visit h₁ (.addMarketRule []) k).flags rfl
        rw [← hflags]
        have hk₁ : st₁.storage.assetToId.get action.asset = some k := by
          rw [(applyAction_keepsRegistry h₁).assetToId]
          exact hk
        exact ih h₂ hrest hk₁

/-- The guards of the messages that run actions of an account. -/
lemma accountForAccountActions_flags {env : Env} {account : AccountId} {actions : List Action}
    {res : AccountActionsResult} (h : s.accountForAccountActions env account actions = .ok res)
    {action : Action} (hmem : action ∈ actions) (hk : s.assetToId.get action.asset = some k) :
    ∃ frozen, s.flags k = some (true, frozen) ∧ (action.raises → frozen = false) := by
  obtain ⟨st, hst, -, -⟩ := accountForAccountActions_ok h
  exact applyActions_flags hst hmem hk

/-- The repayment of a liquidation keeps the flags. -/
lemma Liquidation.mid_flags {env : Env} {caller liquidated toRepay toTake : AccountId}
    {amount : ℕ} (r : s.Liquidation env caller liquidated toRepay toTake amount t) (k : ℕ) :
    r.mid.flags k = s.flags k := by
  obtain ⟨rd, i, e, hrd, hmid⟩ := r.mid_eq
  obtain ⟨hactivated, hfrozen⟩ := recalculateRates_flags hrd
  have hpaid := ReserveDataContext.accountForRepay_continues r.paid_ok
  have hget : r.mid.reserveDatas.get k
      = if k = r.repayId then some rd else s.reserveDatas.get k := by
    rw [hmid]
    exact Mapping.get_insert ..
  by_cases hkr : k = r.repayId
  · rw [if_pos hkr] at hget
    have hs : s.flags k
        = some (r.repayCtx.reserveData.activated, r.repayCtx.reserveData.frozen) := by
      rw [hkr]
      exact flags_of_get r.repayOpened.reserveData
    rw [flags_of_get hget, hs, hactivated, hfrozen, hpaid.activated, hpaid.frozen]
  · rw [if_neg hkr] at hget
    rw [flags, flags, hget]

/-- The guards of a liquidation. -/
lemma accountForLiquidate_flags {env : Env} {caller liquidated toRepay toTake : AccountId}
    {amount : ℕ} {res : LiquidateResult}
    (h : s.accountForLiquidate env caller liquidated toRepay toTake amount t = .ok res) :
    (s.assetToId.get toRepay = some k → ∃ frozen, s.flags k = some (true, frozen))
      ∧ (s.assetToId.get toTake = some k → s.flags k = some (true, false)) := by
  obtain ⟨r, -⟩ := accountForLiquidate_ok h
  refine ⟨fun hk => ?_, fun hk => ?_⟩
  · cases r.registeredRepay.symm.trans hk
    obtain ⟨_, _, -, -, hact, -⟩ := ReserveDataContext.accountForRepay_ok r.paid_ok
    exact ⟨_, by rw [flags_of_get r.repayOpened.reserveData, hact]⟩
  · cases r.registeredTake.symm.trans hk
    obtain ⟨_, -, hact, hfr, -⟩ := ReserveDataContext.accountForDeposit_ok r.second_ok
    have hfirst := ReserveDataContext.accountForWithdraw_continues r.first_ok
    rw [← r.mid_flags, flags_of_get r.opened.reserveData, ← hfirst.activated, ← hfirst.frozen, hact,
      hfr]

/-- The guards of a transfer of a deposit. -/
lemma accountForDepositTransferFromTo_flags {env : Env} {fromAccount toAccount : AccountId}
    {amount : ℕ} {res : TransferResult}
    (h : s.accountForDepositTransferFromTo env asset fromAccount toAccount amount t = .ok res)
    (hk : s.assetToId.get asset = some k) : s.flags k = some (true, false) := by
  obtain ⟨r, -⟩ := accountForDepositTransferFromTo_ok h
  cases r.registered.symm.trans hk
  obtain ⟨_, -, hact, hfr, -⟩ := ReserveDataContext.accountForDeposit_ok r.second_ok
  have hfirst := ReserveDataContext.accountForWithdraw_continues r.first_ok
  rw [flags_of_get r.opened.reserveData, ← hfirst.activated, ← hfirst.frozen, hact, hfr]

/-- The guards of a transfer of a debt. -/
lemma accountForDebtTransferFromTo_flags {env : Env} {fromAccount toAccount : AccountId}
    {amount : ℕ} {res : TransferResult}
    (h : s.accountForDebtTransferFromTo env asset fromAccount toAccount amount t = .ok res)
    (hk : s.assetToId.get asset = some k) : s.flags k = some (true, false) := by
  obtain ⟨r, -⟩ := accountForDebtTransferFromTo_ok h
  cases r.registered.symm.trans hk
  obtain ⟨_, -, hact, hfr, -⟩ := ReserveDataContext.accountForBorrow_ok r.second_ok
  have hfirst := ReserveDataContext.accountForRepay_continues r.first_ok
  rw [flags_of_get r.opened.reserveData, ← hfirst.activated, ← hfirst.frozen, hact, hfr]

end LendingPoolStorage

namespace World

variable {w w' : World} {env : Env} {message : Message} {asset : AccountId} {k : ℕ}

/-- The guards of the moves of a position. -/
lemma TokenMove.flags {tokenAddress : AccountId} {token : AbacusToken}
    {fromAccount toAccount : AccountId} {amount : ℕ} {s s' : LendingPoolStorage}
    (h : TokenMove env tokenAddress token fromAccount toAccount amount s s')
    (hk : s.assetToId.get token.underlyingAsset = some k) : s.flags k = some (true, false) := by
  refine h.rule (P := fun _ => s.flags k = some (true, false)) (fun res hres => ?_)
    fun res hres => ?_
  · exact LendingPoolStorage.accountForDepositTransferFromTo_flags hres hk
  · exact LendingPoolStorage.accountForDebtTransferFromTo_flags hres hk

/-- **A message that uses an asset succeeds only when its reserve is activated.** -/
theorem execute_activated (hex : w.execute env message = .ok w') (huse : w.Uses asset message)
    (hk : w.pool.assetToId.get asset = some k) :
    ∃ frozen, w.pool.flags k = some (true, frozen) := by
  have hstep := (execute_frame hex).1
  have haction : ∀ {account : AccountId} {actions : List Action} {res : AccountActionsResult}
      {action : Action}, w.pool.accountForAccountActions env account actions = .ok res →
      action ∈ actions → action.asset = asset → ∃ frozen, w.pool.flags k = some (true, frozen) := by
    intro account actions res action hres hmem ha
    obtain ⟨frozen, hflags, -⟩ :=
      LendingPoolStorage.accountForAccountActions_flags hres hmem (ha ▸ hk)
    exact ⟨frozen, hflags⟩
  cases message with
  | deposit a onBehalfOf amount | withdraw a onBehalfOf amount | borrow a onBehalfOf amount
  | repay a onBehalfOf amount =>
      obtain ⟨res, hres, -⟩ := hstep
      exact haction hres List.mem_cons_self huse
  | multiOp op onBehalfOf =>
      obtain ⟨res, hres, -⟩ := hstep
      obtain ⟨action, hmem, ha⟩ := huse
      exact haction hres hmem ha
  | liquidate liquidated toRepay toTake amount minimum =>
      obtain ⟨res, hres, -⟩ := hstep
      obtain ⟨hrepay, htake⟩ := LendingPoolStorage.accountForLiquidate_flags (k := k) hres
      rcases huse with rfl | rfl
      · exact hrepay hk
      · exact ⟨false, htake hk⟩
  | transfer token toAccount value =>
      obtain ⟨t, ht, hmove⟩ := hstep
      obtain ⟨t', ht', hasset⟩ := huse
      cases ht.symm.trans ht'
      exact ⟨false, hmove.flags (hasset ▸ hk)⟩
  | transferFrom token fromAccount toAccount value =>
      obtain ⟨t, ht, hmove⟩ := hstep
      obtain ⟨t', ht', hasset⟩ := huse
      cases ht.symm.trans ht'
      exact ⟨false, hmove.flags (hasset ▸ hk)⟩
  | _ => exact huse.elim

/-- **A message that raises an amount in an asset succeeds only when its reserve is not
frozen.** -/
theorem execute_notFrozen (hex : w.execute env message = .ok w') (hraise : w.Raises asset message)
    (hk : w.pool.assetToId.get asset = some k) : w.pool.flags k = some (true, false) := by
  have hstep := (execute_frame hex).1
  have haction : ∀ {account : AccountId} {actions : List Action} {res : AccountActionsResult}
      {action : Action}, w.pool.accountForAccountActions env account actions = .ok res →
      action ∈ actions → action.asset = asset → action.raises →
      w.pool.flags k = some (true, false) := by
    intro account actions res action hres hmem ha hraises
    obtain ⟨frozen, hflags, hfrozen⟩ :=
      LendingPoolStorage.accountForAccountActions_flags hres hmem (ha ▸ hk)
    rw [hflags, hfrozen hraises]
  cases message with
  | deposit a onBehalfOf amount =>
      obtain ⟨res, hres, -⟩ := hstep
      exact haction hres List.mem_cons_self hraise (.inl rfl)
  | borrow a onBehalfOf amount =>
      obtain ⟨res, hres, -⟩ := hstep
      exact haction hres List.mem_cons_self hraise (.inr rfl)
  | multiOp op onBehalfOf =>
      obtain ⟨res, hres, -⟩ := hstep
      obtain ⟨action, hmem, ha, hraises⟩ := hraise
      exact haction hres hmem ha hraises
  | liquidate liquidated toRepay toTake amount minimum =>
      obtain ⟨res, hres, -⟩ := hstep
      have hasset : toTake = asset := hraise
      exact (LendingPoolStorage.accountForLiquidate_flags hres).2 (hasset ▸ hk)
  | transfer token toAccount value =>
      obtain ⟨t, ht, hmove⟩ := hstep
      obtain ⟨t', ht', hasset⟩ := hraise
      cases ht.symm.trans ht'
      exact hmove.flags (hasset ▸ hk)
  | transferFrom token fromAccount toAccount value =>
      obtain ⟨t, ht, hmove⟩ := hstep
      obtain ⟨t', ht', hasset⟩ := hraise
      cases ht.symm.trans ht'
      exact hmove.flags (hasset ▸ hk)
  | _ => exact hraise.elim

/-! ### Flags along a run -/

/-- **Only the switches change the flags of a reserve**, and both write to `activated`. -/
theorem execute_flags (hk : message.registers = none ∨ k ≠ w.pool.assetCount)
    (hex : w.execute env message = .ok w') :
    w'.pool.flags k = w.pool.flags k
      ∨ (∃ asset active frozen, message = .setReserveIsActive asset active
          ∧ w.pool.assetToId.get asset = some k ∧ w.pool.flags k = some (!active, frozen)
          ∧ w'.pool.flags k = some (active, frozen))
      ∨ (∃ asset active frozen, message = .setReserveIsFrozen asset frozen
          ∧ w.pool.assetToId.get asset = some k ∧ w.pool.flags k = some (active, !frozen)
          ∧ w'.pool.flags k = some (frozen, !frozen)) := by
  have hstep := (execute_frame hex).1
  cases message with
  | setReserveIsActive asset active =>
      obtain ⟨j, rd, hj, hrd, hflag, hs⟩ :=
        LendingPoolStorage.accountForChangingActivity_ok hstep
      have hflags := LendingPoolStorage.flags_putReserveData (s := w.pool) (k := k) (j := j)
        { rd with activated := active }
      rw [← hs] at hflags
      split_ifs at hflags with hkj
      · subst hkj
        refine .inr (.inl ⟨asset, active, rd.frozen, rfl, hj, ?_, hflags⟩)
        rw [LendingPoolStorage.flags_of_get hrd, hflag]
      · exact .inl hflags
  | setReserveIsFrozen asset frozen =>
      obtain ⟨j, rd, hj, hrd, hflag, hs⟩ :=
        LendingPoolStorage.accountForChangingIsFrozen_ok hstep
      have hflags := LendingPoolStorage.flags_putReserveData (s := w.pool) (k := k) (j := j)
        { rd with activated := frozen }
      rw [← hs] at hflags
      split_ifs at hflags with hkj
      · subst hkj
        rw [ReserveData.flags, hflag] at hflags
        refine .inr (.inr ⟨asset, rd.activated, frozen, rfl, hj, ?_, hflags⟩)
        rw [LendingPoolStorage.flags_of_get hrd, hflag]
      · exact .inl hflags
  | registerAsset asset decimals rules restrictions depositFeeE6 debtFeeE6 params =>
      obtain ⟨-, ho⟩ := execute_registers hex rfl
      rcases hk with hnone | hne
      · cases hnone
      · exact .inl (ho.others k hne).flags
  | _ => exact .inl ((execute_changes hex rfl k).flags rfl)

/-- No reserve is frozen. -/
def NotFrozen (w : World) : Prop := ∀ k active, w.pool.flags k ≠ some (active, true)

/-- The step lemma of the frozen flag: the freeze switch needs a frozen reserve to lift a
freeze, and does not freeze one. -/
lemma execute_neverFrozen (h : w.NotFrozen) (hex : w.execute env message = .ok w') :
    w'.NotFrozen := by
  intro k active hfrozen
  by_cases hk : message.registers = none ∨ k ≠ w.pool.assetCount
  · rcases execute_flags hk hex with hsame | ⟨asset, b, frozen, -, -, hfl, hfl'⟩
      | ⟨asset, b, frozen, -, -, hfl, hfl'⟩
    · exact h k active (hsame ▸ hfrozen)
    · cases hfl'.symm.trans hfrozen
      exact h k _ hfl
    · rw [hfl', Option.some.injEq, Prod.mk.injEq] at hfrozen
      exact h k b (by rw [hfl, hfrozen.2])
  · rw [not_or, not_not] at hk
    obtain ⟨asset, hm⟩ := Option.ne_none_iff_exists'.mp hk.1
    obtain ⟨hr, -⟩ := execute_registers hex hm
    rw [LendingPoolStorage.flags, hr.reserveDatas, hk.2, Mapping.get_insert_self] at hfrozen
    cases hfrozen

/-- **No reserve is ever frozen**, whatever messages are sent. -/
theorem run_notFrozen {messages : List (Env × Message)} (h₀ : w.IsInitial)
    (hrun : w.run messages = some w') : w'.NotFrozen := by
  refine run_invariant (P := NotFrozen) (fun _ _ _ _ _ h hex => execute_neverFrozen h hex) hrun
    fun k active hfrozen => ?_
  rw [h₀.1] at hfrozen
  cases hfrozen

/-- **A freeze lifts a pause**: after it the reserve is active, and it is not frozen. -/
theorem setReserveIsFrozen_activates
    (hex : w.execute env (.setReserveIsFrozen asset true) = .ok w')
    (hk : w.pool.assetToId.get asset = some k) : w'.pool.flags k = some (true, false) := by
  obtain ⟨j, rd, hj, -, hflag, hs⟩ :=
    LendingPoolStorage.accountForChangingIsFrozen_ok (execute_frame hex).1
  cases hj.symm.trans hk
  rw [hs, LendingPoolStorage.flags_putReserveData, if_pos rfl, ReserveData.flags, hflag]
  rfl

/-- A reserve that is paused stays paused unless it is activated, or frozen. -/
lemma execute_paused (hl : w.Linked) (hk : w.pool.assetToId.get asset = some k)
    (hpaused : ∃ frozen, w.pool.flags k = some (false, frozen))
    (hactive : message ≠ .setReserveIsActive asset true)
    (hfreeze : message ≠ .setReserveIsFrozen asset true) (hex : w.execute env message = .ok w') :
    ∃ frozen, w'.pool.flags k = some (false, frozen) := by
  rcases execute_flags (.inr (hl.ids.below asset k hk).ne) hex with
    hsame | ⟨other, active, frozen, hm, hother, -, hflags⟩
    | ⟨other, active, frozen, hm, hother, -, hflags⟩
  · rw [hsame]
    exact hpaused
  · cases hl.ids.inj other asset k hother hk
    have hfalse : active = false := by simpa [hm] using hactive
    exact ⟨frozen, by rw [hflags, hfalse]⟩
  · cases hl.ids.inj other asset k hother hk
    have hfalse : frozen = false := by simpa [hm] using hfreeze
    exact ⟨!frozen, by rw [hflags, hfalse]⟩

/-- Runs keep the links between the pool and the tokens. -/
lemma run_linked {messages : List (Env × Message)} (h₀ : w.IsInitial)
    (hrun : w.run messages = some w') : w'.Linked := by
  have hl : w.Linked := reachable_linked (.start h₀ : Reachable (fun _ => True) 0 w)
  exact run_invariant (P := Linked) (fun _ _ _ _ _ h hex => execute_linked h hex) hrun hl

/-- **A pause holds until it is lifted**, along a run in which the asset is not frozen. -/
lemma run_paused {messages : List (Env × Message)} (h₀ : w.IsInitial)
    (hrun : w.run messages = some w')
    (hfreeze : ∀ m ∈ messages, m.2 ≠ .setReserveIsFrozen asset true)
    (hpause : Since (.setReserveIsActive asset false) (· = .setReserveIsActive asset true)
      messages) :
    ∃ k frozen, w'.pool.assetToId.get asset = some k
      ∧ w'.pool.flags k = some (false, frozen) := by
  obtain ⟨before, env₀, after, rfl, hafter⟩ := hpause
  rw [run_append, Option.bind_eq_some_iff] at hrun
  obtain ⟨w₁, hbefore, hrun⟩ := hrun
  obtain ⟨w₂, hex, hrun⟩ := run_cons_eq_some.mp hrun
  have hl₁ := run_linked h₀ hbefore
  obtain ⟨k, rd, hk, -, -, hs⟩ :=
    LendingPoolStorage.accountForChangingActivity_ok (execute_frame hex).1
  have hpaused : w₂.pool.flags k = some (false, rd.frozen) := by
    rw [hs, LendingPoolStorage.flags_putReserveData, if_pos rfl]
    rfl
  have hfollow : w'.Linked ∧ w'.pool.assetToId.get asset = some k
      ∧ ∃ frozen, w'.pool.flags k = some (false, frozen) := by
    refine run_invariant (P := fun w => w.Linked ∧ w.pool.assetToId.get asset = some k
      ∧ ∃ frozen, w.pool.flags k = some (false, frozen)) (fun env message w w' hm hP hex => ?_) hrun
      ⟨execute_linked hl₁ hex, execute_assetToId hex hk, rd.frozen, hpaused⟩
    obtain ⟨hl, hk, hflags⟩ := hP
    have hmem : (env, message) ∈ before ++ (env₀, .setReserveIsActive asset false) :: after :=
      List.mem_append_right _ (List.mem_cons_of_mem _ hm)
    exact ⟨execute_linked hl hex, execute_assetToId hex hk,
      execute_paused hl hk hflags (hafter _ hm) (hfreeze _ hmem) hex⟩
  obtain ⟨-, hk', frozen, hflags⟩ := hfollow
  exact ⟨k, frozen, hk', hflags⟩

/-- Without a freeze only `set_reserve_is_active` changes the activation flag of an asset. -/
lemma activation_changed {before after : List (Env × Message)} {w₁ w₂ : World}
    (h₀ : w.IsInitial) (hbefore : w.run before = some w₁)
    (hfreeze : ∀ m ∈ before ++ (env, message) :: after, m.2 ≠ .setReserveIsFrozen asset true)
    (hex : w₁.execute env message = .ok w₂) (hk : w₁.pool.assetToId.get asset = some k)
    (hne : (w₂.pool.flags k).map Prod.fst ≠ (w₁.pool.flags k).map Prod.fst) :
    ∃ active, message = .setReserveIsActive asset active := by
  have hl := run_linked h₀ hbefore
  rcases execute_flags (.inr (hl.ids.below asset k hk).ne) hex with
    hsame | ⟨other, active, -, hm, hother, -⟩ | ⟨other, active, frozen, hm, hother, hflags, -⟩
  · rw [hsame] at hne
    exact absurd rfl hne
  · cases hl.ids.inj other asset k hother hk
    exact ⟨active, hm⟩
  · -- the freeze switch needs a reserve that was frozen before, which there is not
    cases hl.ids.inj other asset k hother hk
    have hmem : (env, message) ∈ before ++ (env, message) :: after :=
      List.mem_append_right _ List.mem_cons_self
    have hfalse : frozen = false := by simpa [hm] using hfreeze _ hmem
    rw [hfalse] at hflags
    exact absurd hflags (run_notFrozen h₀ hbefore k active)

/-- **What the switches promise holds in every run without a freeze.**  While a pause is not
lifted no message that uses the asset succeeds; while a freeze is not lifted no message that
raises an amount in the asset succeeds; and only `set_reserve_is_active` changes the
activation flag of the asset.  In every run, with freezes or without, no reserve is frozen;
a message that raises an amount in an asset finds its reserve active and not frozen; and a
freeze leaves the reserve that way, open to the next such message. -/
theorem switches_hold {messages : List (Env × Message)} (h₀ : w.IsInitial)
    (hrun : w.run messages = some w') :
    ((∀ m ∈ messages, m.2 ≠ .setReserveIsFrozen asset true) →
      (Since (.setReserveIsActive asset false) (· = .setReserveIsActive asset true) messages →
          ∀ env message, w'.Uses asset message → ∀ w'', w'.execute env message ≠ .ok w'')
        ∧ (Since (.setReserveIsFrozen asset true) (· = .setReserveIsFrozen asset false) messages →
          ∀ env message, w'.Raises asset message → ∀ w'', w'.execute env message ≠ .ok w'')
        ∧ ∀ before env message after w₁ w₂ k, messages = before ++ (env, message) :: after →
          w.run before = some w₁ → w₁.execute env message = .ok w₂ →
          w₁.pool.assetToId.get asset = some k →
          (w₂.pool.flags k).map Prod.fst ≠ (w₁.pool.flags k).map Prod.fst →
          ∃ active, message = .setReserveIsActive asset active)
      ∧ w'.NotFrozen
      ∧ ∀ env message w'' k, w'.execute env message = .ok w'' →
        w'.pool.assetToId.get asset = some k →
        (w'.Raises asset message → w'.pool.flags k = some (true, false))
          ∧ (message = .setReserveIsFrozen asset true → w''.pool.flags k = some (true, false)) := by
  refine ⟨fun hfreeze => ⟨fun hpause env message huse w'' hex => ?_,
    fun hfrozen env message _ w'' _ => ?_, ?_⟩, run_notFrozen h₀ hrun,
    fun env message w'' k hex hk => ⟨fun hraise => execute_notFrozen hex hraise hk, ?_⟩⟩
  · obtain ⟨k, frozen, hk, hflags⟩ := run_paused h₀ hrun hfreeze hpause
    obtain ⟨_, hactivated⟩ := execute_activated hex huse hk
    cases hflags.symm.trans hactivated
  · -- no freeze of the asset was sent
    obtain ⟨before, env, after, rfl, -⟩ := hfrozen
    exact hfreeze (env, .setReserveIsFrozen asset true) (by simp) rfl
  · rintro before env message after w₁ w₂ k rfl hbefore hex hk hne
    exact activation_changed h₀ hbefore hfreeze hex hk hne
  · rintro rfl
    exact setReserveIsFrozen_activates hex hk

end World

end

namespace World

attribute [local instance] Pendzl.exact in
/-- In the sample pool a pause of the first asset stops the deposits of `account 3`, until a
freeze leaves the reserve active and not frozen. -/
theorem switches_hold_paused :
    ∃ w w', Sample.world.run (Sample.depositors
        ++ [(Sample.env Sample.admin 2, .setReserveIsActive (Sample.account 100) false)]) = some w
      ∧ (∀ w', w.execute (Sample.env (Sample.account 3) 3)
        (.deposit (Sample.account 100) (Sample.account 3) 10) ≠ .ok w')
      ∧ w.execute (Sample.env Sample.admin 3) (.setReserveIsFrozen (Sample.account 100) true)
        = .ok w'
      ∧ w'.pool.flags 0 = some (true, false) := by
  have hrun : ((Sample.world.run (Sample.depositors
      ++ [(Sample.env Sample.admin 2, .setReserveIsActive (Sample.account 100) false)])).map
      fun w => (w.pool.assetToId.get (Sample.account 100), (w.execute (Sample.env Sample.admin 3)
        (.setReserveIsFrozen (Sample.account 100) true)).isOk)) = some (some 0, true) := by
    decide +kernel
  obtain ⟨w, hw, hv⟩ := Option.map_eq_some_iff.mp hrun
  obtain ⟨hk, hok⟩ := Prod.mk.inj hv
  obtain ⟨w', hw'⟩ := isOk_eq_true.mp hok
  obtain ⟨hpause, -, hfreeze⟩ := switches_hold Sample.world_isInitial hw
  refine ⟨w, w', hw, (hpause ?_).1 ?_ _ _ rfl, hw', (hfreeze _ _ _ _ hw' hk).2 rfl⟩
  · simp [Sample.depositors, Sample.setup, Sample.send, Sample.register]
  · exact ⟨Sample.depositors, _, [], rfl, by simp⟩

/-- The messages that pause the first asset of the sample pool and then freeze it. -/
def pausedAndFrozen : List (Env × Message) := Sample.depositors ++ [
  (Sample.env Sample.admin 2, .setReserveIsActive (Sample.account 100) false),
  (Sample.env Sample.admin 2, .setReserveIsFrozen (Sample.account 100) true)]

attribute [local instance] Pendzl.exact in
/-- **A freeze reopens a paused reserve.**  In the sample pool the first asset is paused and
then frozen, and neither is lifted: the freeze has changed the activation flag, and the next
deposit of `account 3` succeeds. -/
theorem freeze_lifts_pause :
    ∃ w w', Sample.world.run pausedAndFrozen = some w
      ∧ Since (.setReserveIsActive (Sample.account 100) false)
        (· = .setReserveIsActive (Sample.account 100) true) pausedAndFrozen
      ∧ Since (.setReserveIsFrozen (Sample.account 100) true)
        (· = .setReserveIsFrozen (Sample.account 100) false) pausedAndFrozen
      ∧ w.pool.flags 0 = some (true, false)
      ∧ w.execute (Sample.env (Sample.account 3) 3)
        (.deposit (Sample.account 100) (Sample.account 3) 10) = .ok w' := by
  have hrun : ((Sample.world.run pausedAndFrozen).map fun w => (w.pool.flags 0,
      (w.execute (Sample.env (Sample.account 3) 3)
        (.deposit (Sample.account 100) (Sample.account 3) 10)).isOk))
      = some (some (true, false), true) := by decide +kernel
  obtain ⟨w, hw, hv⟩ := Option.map_eq_some_iff.mp hrun
  obtain ⟨hflags, hok⟩ := Prod.mk.inj hv
  obtain ⟨w', hw'⟩ := isOk_eq_true.mp hok
  refine ⟨w, w', hw, ?_, ?_, hflags, hw'⟩
  · exact ⟨Sample.depositors, _, [_], rfl, by simp⟩
  · exact ⟨Sample.depositors ++ [_], _, [], rfl, by simp⟩

end World

end AbaxLending
