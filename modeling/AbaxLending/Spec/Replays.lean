import AbaxLending.Spec.Messages

/-!
The books of the pool do not depend on who holds the underlying tokens.

A message asks the underlying tokens only to move amounts, and they do it or the message
fails.  So a message that succeeds can be replayed on other funds, if these are large
enough: it leaves the same books.

* `Funds`, `withFunds`: what the books do not depend on, and a world with other funds;
* `Overlooks`: a step neither looks at the funds nor changes them;
* `Replays`: a step can be replayed on all funds above some bound, and as much as wanted is
  left; the rules `Replays.bind` and `Replays.read` follow the code of a message;
* `execute_withFunds`: every message can be replayed.
-/

namespace AbaxLending

open Outcome

/-- What the books do not depend on: the balances of the underlying tokens, the calls to
them, and the registrar. -/
structure Funds where
  balanceOf : AccountId → AccountId → ℕ
  calls : List (AccountId × PSP22Call)
  registrar : AccountRegistrar

/-- Every account has at least an amount of every asset. -/
def Funds.AtLeast (F : Funds) (n : ℕ) : Prop := ∀ asset account, n ≤ F.balanceOf asset account

/-- Whether a message may have underlying tokens moved or write to the registrar. -/
def Message.usesFunds : Message → Bool
  | .deposit .. | .withdraw .. | .borrow .. | .repay .. | .multiOp .. | .liquidate .. => true
  | .takeProtocolIncome .. | .setAsCollateral .. => true
  | _ => false

namespace World

variable {w w₁ w' : World} {ε α : Type}

/-- The world with other funds. -/
@[simps] def withFunds (w : World) (F : Funds) : World :=
  { w with balanceOf := F.balanceOf, calls := F.calls, registrar := F.registrar }

/-- The funds of the world. -/
@[simps] def funds (w : World) : Funds := ⟨w.balanceOf, w.calls, w.registrar⟩

lemma withFunds_withPool (w : World) (F : Funds) (pool : LendingPoolStorage) :
    (w.withFunds F).withPool pool = (w.withPool pool).withFunds F := rfl

/-- A step from one world to another can be replayed on all funds above some bound, and as
much as wanted is left. -/
def Replays (f : World → Comp ε World) (w w' : World) : Prop :=
  ∀ n, ∃ m, ∀ F : Funds, F.AtLeast m → ∃ F' : Funds, F'.AtLeast n ∧ F'.registrar = F.registrar
    ∧ f (w.withFunds F) = .ok (w'.withFunds F')

/-- A step from one world to another neither looks at the funds nor changes them. -/
def Overlooks (f : World → Comp ε World) (w w' : World) : Prop :=
  ∀ F, f (w.withFunds F) = .ok (w'.withFunds F)

/-! ### Rules -/

/-- A step that overlooks the funds leaves as much as there was. -/
lemma Overlooks.replays {f : World → Comp ε World} (h : Overlooks f w w') : Replays f w w' :=
  fun n => ⟨n, fun F hF => ⟨F, hF, rfl, h F⟩⟩

/-- A step that overlooks the funds keeps them. -/
lemma Overlooks.funds {f : World → Comp ε World} (h : Overlooks f w w') (hf : f w = .ok w') :
    w'.funds = w.funds := by
  have hself : f w = .ok (w'.withFunds w.funds) := h w.funds
  rw [hf, Except.ok.injEq] at hself
  rw [hself]
  rfl

/-- A step that overlooks the funds, and then another one. -/
lemma Overlooks.bind {f g : World → Comp ε World} (hf : Overlooks f w w₁)
    (hg : Overlooks g w₁ w') : Overlooks (fun w => f w >>= g) w w' :=
  fun F => bind_eq_ok.mpr ⟨_, hf F, hg F⟩

/-- A value that is read off the books, and then a step that overlooks the funds. -/
lemma Overlooks.read {x : World → Comp ε α} {a : α} {g : α → World → Comp ε World}
    (hx : ∀ F, x (w.withFunds F) = .ok a) (hg : Overlooks (g a) w w') :
    Overlooks (fun w => x w >>= fun a => g a w) w w' :=
  fun F => bind_eq_ok.mpr ⟨a, hx F, hg F⟩

lemma Overlooks.mapErr {ε' : Type} {f : World → Comp ε World} (e : ε → ε')
    (h : Overlooks f w w') : Overlooks (fun w => Outcome.mapErr e (f w)) w w' :=
  fun F => mapErr_eq_ok.mpr (h F)

/-- A step and then another one. -/
lemma Replays.bind {f g : World → Comp ε World} (hf : Replays f w w₁) (hg : Replays g w₁ w') :
    Replays (fun w => f w >>= g) w w' := by
  intro n
  obtain ⟨m₁, hg⟩ := hg n
  obtain ⟨m, hf⟩ := hf m₁
  refine ⟨m, fun F hF => ?_⟩
  obtain ⟨F₁, hF₁, hr₁, hrun₁⟩ := hf F hF
  obtain ⟨F', hF', hr', hrun'⟩ := hg F₁ hF₁
  exact ⟨F', hF', hr'.trans hr₁, bind_eq_ok.mpr ⟨_, hrun₁, hrun'⟩⟩

/-- A value that is read off the books, and then a step. -/
lemma Replays.read {x : World → Comp ε α} {a : α} {g : α → World → Comp ε World}
    (hx : ∀ F, x (w.withFunds F) = .ok a) (hg : Replays (g a) w w') :
    Replays (fun w => x w >>= fun a => g a w) w w' := by
  intro n
  obtain ⟨m, hg⟩ := hg n
  refine ⟨m, fun F hF => ?_⟩
  obtain ⟨F', hF', hr', hrun'⟩ := hg F hF
  exact ⟨F', hF', hr', bind_eq_ok.mpr ⟨a, hx F, hrun'⟩⟩

/-- A step that starts by changing the books. -/
lemma Replays.start {f g : World → Comp ε World} {v : World} (hg : Replays g v w')
    (h : ∀ F, f (w.withFunds F) = g (v.withFunds F)) : Replays f w w' := by
  intro n
  obtain ⟨m, hg⟩ := hg n
  refine ⟨m, fun F hF => ?_⟩
  obtain ⟨F', hF', hr', hrun'⟩ := hg F hF
  exact ⟨F', hF', hr', (h F).trans hrun'⟩

lemma Replays.mapErr {ε' : Type} {f : World → Comp ε World} (e : ε → ε') (h : Replays f w w') :
    Replays (fun w => Outcome.mapErr e (f w)) w w' := by
  intro n
  obtain ⟨m, h⟩ := h n
  refine ⟨m, fun F hF => ?_⟩
  obtain ⟨F', hF', hr', hrun'⟩ := h F hF
  exact ⟨F', hF', hr', mapErr_eq_ok.mpr hrun'⟩

/-! ### Calls to the tokens -/

section

variable {env : Env} {asset account spender abacusToken : AccountId} {amount : ℕ} {net : ℤ}

/-- The amount of a call to an underlying token. -/
def callAmount : PSP22Call → ℕ
  | .transferFrom _ _ amount | .transfer _ amount | .mint _ amount | .burn _ amount => amount

/-- A credit takes nothing from anybody. -/
lemma le_credit {balances : AccountId → ℕ} {n : ℕ} (h : ∀ a, n ≤ balances a) (a : AccountId) :
    n ≤ credit balances account amount a := by
  by_cases ha : a = account
  · rw [ha, credit, Function.update_self]
    exact (h account).trans (Nat.le_add_right _ _)
  · rw [credit, Function.update_of_ne ha]
    exact h a

/-- A debit takes the amount from one account. -/
lemma debit_ok_of_le {balances : AccountId → ℕ} {n : ℕ} (account : AccountId)
    (h : ∀ a, n + amount ≤ balances a) :
    ∃ balances', debit balances account amount = .ok balances' ∧ ∀ a, n ≤ balances' a := by
  have hle : amount ≤ balances account := (Nat.le_add_left _ _).trans (h account)
  refine ⟨Function.update balances account (balances account - amount), ?_, fun a => ?_⟩
  · simp only [debit, checkedSub, if_pos hle]
    rfl
  · have := h a
    by_cases ha : a = account
    · subst ha
      rw [Function.update_self]
      omega
    · rw [Function.update_of_ne ha]
      omega

/-- A call to an underlying token takes no more than its amount from anybody. -/
lemma settleCall_of_le {poolAddress : AccountId} {balances : AccountId → ℕ} {call : PSP22Call}
    {n : ℕ} (h : ∀ a, n + callAmount call ≤ balances a) :
    ∃ balances', settleCall poolAddress balances call = .ok balances' ∧ ∀ a, n ≤ balances' a := by
  cases call with
  | transferFrom fromAccount toAccount amount =>
      obtain ⟨rest, hrest, hle⟩ := debit_ok_of_le fromAccount h
      exact ⟨credit rest toAccount amount, bind_eq_ok.mpr ⟨rest, hrest, rfl⟩, le_credit hle⟩
  | transfer toAccount amount =>
      obtain ⟨rest, hrest, hle⟩ := debit_ok_of_le poolAddress h
      exact ⟨credit rest toAccount amount, bind_eq_ok.mpr ⟨rest, hrest, rfl⟩, le_credit hle⟩
  | mint toAccount amount =>
      exact ⟨credit balances toAccount amount, rfl,
        le_credit fun a => (Nat.le_add_right _ _).trans (h a)⟩
  | burn fromAccount amount => exact debit_ok_of_le fromAccount h

/-- A call to an underlying token can be replayed, and leaves the books alone. -/
lemma invoke_replays {call : PSP22Call} (h : w.invoke env asset call = .ok w') :
    Replays (fun w => w.invoke env asset call) w w' := by
  simp only [invoke, bind_eq_ok, pure_eq, Except.ok.injEq, mapErr_eq_ok] at h
  obtain ⟨u, hadmits, balances, -, rfl⟩ := h
  intro n
  refine ⟨n + callAmount call, fun F hF => ?_⟩
  have hcall : ∃ balances', settleCall w.poolAddress (F.balanceOf asset) call = .ok balances'
      ∧ ∀ a, n ≤ balances' a := settleCall_of_le (hF asset)
  obtain ⟨balances', hb, hle⟩ := hcall
  refine ⟨⟨Function.update F.balanceOf asset balances', F.calls ++ [(asset, call)], F.registrar⟩,
    fun asset' a => ?_, rfl, ?_⟩
  · by_cases ha : asset' = asset
    · subst ha
      simpa only [Function.update_self] using hle a
    · simpa only [Function.update_of_ne ha] using (Nat.le_add_right _ _).trans (hF asset' a)
  · simp only [invoke, bind_eq_ok, mapErr_eq_ok]
    exact ⟨u, hadmits, balances', hb, rfl⟩

lemma transferIn_replays (h : w.transferIn env asset account amount = .ok w') :
    Replays (fun w => w.transferIn env asset account amount) w w' := by
  simp only [transferIn, bind_eq_ok] at h
  obtain ⟨k, hk, h⟩ := h
  refine .read (fun _ => hk) ?_
  by_cases hmodel : w.pool.interestRateModel.contains k = true
  · rw [if_pos hmodel] at h
    exact (invoke_replays h).start fun F => if_pos hmodel
  · rw [if_neg hmodel] at h
    exact (invoke_replays h).start fun F => if_neg hmodel

lemma transferOut_replays (h : w.transferOut env asset account amount = .ok w') :
    Replays (fun w => w.transferOut env asset account amount) w w' := by
  simp only [transferOut, bind_eq_ok] at h
  obtain ⟨k, hk, h⟩ := h
  refine .read (fun _ => hk) ?_
  by_cases hmodel : w.pool.interestRateModel.contains k = true
  · rw [if_pos hmodel] at h
    exact (invoke_replays h).start fun F => if_pos hmodel
  · rw [if_neg hmodel] at h
    exact (invoke_replays h).start fun F => if_neg hmodel

/-! ### Events of the abacus tokens -/

/-- A step that overlooks the funds, wherever it leads. -/
def FundFree (f : World → Comp ε World) : Prop :=
  ∀ w F, f (w.withFunds F) = (f w).map fun w => w.withFunds F

lemma FundFree.overlooks {f : World → Comp ε World} (hf : FundFree f) (h : f w = .ok w') :
    Overlooks f w w' := fun F => by rw [hf, h, map_ok]

lemma FundFree.replays {f : World → Comp ε World} (hf : FundFree f) (h : f w = .ok w') :
    Replays f w w' := (hf.overlooks h).replays

lemma FundFree.read {x : Comp ε α} {g : α → World → Comp ε World} (hg : ∀ a, FundFree (g a)) :
    FundFree fun w => x >>= fun a => g a w := by
  intro w F
  cases x with
  | ok a => exact hg a w F
  | error e => rfl

lemma FundFree.bind {f g : World → Comp ε World} (hf : FundFree f) (hg : FundFree g) :
    FundFree fun w => f w >>= g := by
  intro w F
  simp only [hf w F, bind_map, map_bind]
  exact congrArg _ (funext fun w' => hg w' F)

lemma FundFree.ite {f g : World → Comp ε World} {c : Prop} [Decidable c] (hf : FundFree f)
    (hg : FundFree g) : FundFree fun w => if c then f w else g w := by
  by_cases hc : c
  · simpa only [if_pos hc] using hf
  · simpa only [if_neg hc] using hg

lemma FundFree.mapErr {ε' : Type} {f : World → Comp ε World} (e : ε → ε') (h : FundFree f) :
    FundFree fun w => Outcome.mapErr e (f w) := by
  intro w F
  simp only [h w F]
  rcases f w with (e | _) | w' <;> rfl

lemma fundFree_ok : FundFree fun w => (.ok w : Comp ε World) := fun _ _ => rfl

lemma fundFree_emitTransferEvents (data : List TransferEventData) :
    FundFree fun w => w.emitTransferEvents abacusToken data := by
  intro w F
  simp only [emitTransferEvents, map_bind]
  rfl

lemma fundFree_emitAbacusTokenTransferEvent :
    FundFree fun w => w.emitAbacusTokenTransferEvent abacusToken account net := by
  unfold emitAbacusTokenTransferEvent
  refine .mapErr _ (.ite (fundFree_emitTransferEvents _) (.ite (.read fun _ => ?_) fundFree_ok))
  exact fundFree_emitTransferEvents _

lemma fundFree_emitAbacusTokenTransferEvents (data : List (AccountId × ℤ)) :
    FundFree fun w => w.emitAbacusTokenTransferEvents abacusToken data := by
  unfold emitAbacusTokenTransferEvents
  exact .mapErr _ (.read fun _ => fundFree_emitTransferEvents _)

lemma fundFree_emitTransferEventAndDecreaseAllowance (event : TransferEventData) :
    FundFree fun w => w.emitTransferEventAndDecreaseAllowance abacusToken event account spender
      amount := by
  intro w F
  simp only [emitTransferEventAndDecreaseAllowance, decreaseAllowanceFromTo, map_bind]
  rfl

lemma fundFree_emitAbacusTokenTransferEventAndDecreaseAllowance :
    FundFree fun w => w.emitAbacusTokenTransferEventAndDecreaseAllowance abacusToken account net
      spender amount := by
  unfold emitAbacusTokenTransferEventAndDecreaseAllowance
  refine .ite fundFree_emitAbacusTokenTransferEvent (.mapErr _ ?_)
  exact fundFree_emitTransferEventAndDecreaseAllowance _

end

/-! ### Messages that move underlying tokens -/

variable [Pendzl] {env : Env} {asset onBehalfOf : AccountId} {amount : ℕ}

lemma deposit_replays (h : w.deposit env asset onBehalfOf amount = .ok w') :
    Replays (fun w => w.deposit env asset onBehalfOf amount) w w' := by
  simp only [deposit, bind_eq_ok] at h
  obtain ⟨_, hcheck, res, hres, interests, hint, action, hact, w₁, hin, tokens, htok, minted, hmint,
    w₂, hemit, hlast⟩ := h
  unfold deposit
  refine .read (fun _ => hcheck) (.read (fun _ => hres) ?_)
  refine .start (g := ?_) (v := w.withPool res.storage) ?books fun F => ?funds
  case funds =>
    rw [withFunds_withPool]
    generalize (w.withPool res.storage).withFunds F = v
    exact rfl
  refine .read (fun _ => hint) (.read (fun _ => hact) (.bind (transferIn_replays hin) ?_))
  refine .read (fun _ => htok) (.read (fun _ => hmint) ?_)
  exact .bind (fundFree_emitAbacusTokenTransferEvent.replays hemit)
    (fundFree_emitAbacusTokenTransferEvent.replays hlast)

lemma withdraw_replays {taken : ℕ}
    (h : w.withdraw env asset onBehalfOf amount = .ok (w', taken)) :
    Replays (fun w => do return (← w.withdraw env asset onBehalfOf amount).1) w w' := by
  simp only [withdraw, bind_eq_ok, pure_eq, Except.ok.injEq, Prod.mk.injEq] at h
  obtain ⟨_, hcheck, res, hres, interests, hint, action, hact, w₁, hout, tokens, htok, w₂, hcharge,
    w₃, hemit, rfl, -⟩ := h
  simp only [withdraw, bind_assoc, pure_bind]
  refine .read (fun _ => hcheck) (.read (fun _ => hres) ?_)
  refine .start (g := ?_) (v := w.withPool res.storage) ?books fun F => ?funds
  case funds =>
    rw [withFunds_withPool]
    generalize (w.withPool res.storage).withFunds F = v
    exact rfl
  refine .read (fun _ => hint) (.read (fun _ => hact) (.bind (transferOut_replays hout) ?_))
  refine .read (fun _ => htok) ?_
  exact .bind (fundFree_emitAbacusTokenTransferEventAndDecreaseAllowance.replays hcharge)
    ((fundFree_emitAbacusTokenTransferEvent.bind fundFree_ok).replays
      (bind_eq_ok.mpr ⟨_, hemit, rfl⟩))

lemma borrow_replays (h : w.borrow env asset onBehalfOf amount = .ok w') :
    Replays (fun w => w.borrow env asset onBehalfOf amount) w w' := by
  simp only [borrow, bind_eq_ok] at h
  obtain ⟨_, hcheck, res, hres, interests, hint, w₁, hout, tokens, htok, w₂, hemit, minted, hmint,
    hcharge⟩ := h
  unfold borrow
  refine .read (fun _ => hcheck) (.read (fun _ => hres) ?_)
  refine .start (g := ?_) (v := w.withPool res.storage) ?books fun F => ?funds
  case funds =>
    rw [withFunds_withPool]
    generalize (w.withPool res.storage).withFunds F = v
    exact rfl
  refine .read (fun _ => hint) (.bind (transferOut_replays hout) (.read (fun _ => htok) ?_))
  refine .bind (fundFree_emitAbacusTokenTransferEvent.replays hemit) (.read (fun _ => hmint) ?_)
  exact fundFree_emitAbacusTokenTransferEventAndDecreaseAllowance.replays hcharge

lemma repay_replays {repaid : ℕ} (h : w.repay env asset onBehalfOf amount = .ok (w', repaid)) :
    Replays (fun w => do return (← w.repay env asset onBehalfOf amount).1) w w' := by
  simp only [repay, bind_eq_ok, pure_eq, Except.ok.injEq, Prod.mk.injEq] at h
  obtain ⟨_, hcheck, res, hres, interests, hint, action, hact, w₁, hin, tokens, htok, w₂, hemit,
    w₃, hlast, rfl, -⟩ := h
  simp only [repay, bind_assoc, pure_bind]
  refine .read (fun _ => hcheck) (.read (fun _ => hres) ?_)
  refine .start (g := ?_) (v := w.withPool res.storage) ?books fun F => ?funds
  case funds =>
    rw [withFunds_withPool]
    generalize (w.withPool res.storage).withFunds F = v
    exact rfl
  refine .read (fun _ => hint) (.read (fun _ => hact) (.bind (transferIn_replays hin) ?_))
  refine .read (fun _ => htok) (.bind (fundFree_emitAbacusTokenTransferEvent.replays hemit) ?_)
  exact (fundFree_emitAbacusTokenTransferEvent.bind fundFree_ok).replays
    (bind_eq_ok.mpr ⟨_, hlast, rfl⟩)

omit [Pendzl] in
lemma settleAction_replays {first : ℕ} {action : Action} {interests : ℕ × ℕ}
    (h : w.settleAction env onBehalfOf first action interests = .ok w') :
    Replays (fun w => w.settleAction env onBehalfOf first action interests) w w' := by
  obtain ⟨op, asset, amount⟩ := action
  simp only [settleAction, bind_eq_ok] at h
  obtain ⟨tokens, htok, h⟩ := h
  unfold settleAction
  refine .read (fun _ => htok) ?_
  cases op with
  | deposit =>
      simp only [bind_eq_ok] at h
      obtain ⟨w₁, hin, minted, hmint, w₂, hemit, hlast⟩ := h
      refine .bind (transferIn_replays hin) (.read (fun _ => hmint) ?_)
      exact .bind (fundFree_emitAbacusTokenTransferEvent.replays hemit)
        (fundFree_emitAbacusTokenTransferEvent.replays hlast)
  | withdraw =>
      simp only [bind_eq_ok] at h
      obtain ⟨w₁, hout, w₂, hcharge, hemit⟩ := h
      refine .bind (transferOut_replays hout) ?_
      exact .bind (fundFree_emitAbacusTokenTransferEventAndDecreaseAllowance.replays hcharge)
        (fundFree_emitAbacusTokenTransferEvent.replays hemit)
  | borrow =>
      simp only [bind_eq_ok] at h
      obtain ⟨w₁, hout, w₂, hemit, minted, hmint, hcharge⟩ := h
      refine .bind (transferOut_replays hout) ?_
      refine .bind (fundFree_emitAbacusTokenTransferEvent.replays hemit) (.read (fun _ => hmint) ?_)
      exact fundFree_emitAbacusTokenTransferEventAndDecreaseAllowance.replays hcharge
  | repay =>
      simp only [bind_eq_ok] at h
      obtain ⟨w₁, hin, w₂, hemit, hlast⟩ := h
      refine .bind (transferIn_replays hin) ?_
      exact .bind (fundFree_emitAbacusTokenTransferEvent.replays hemit)
        (fundFree_emitAbacusTokenTransferEvent.replays hlast)

omit [Pendzl] in
lemma settleActions_replays {first : ℕ} {l : List (Action × (ℕ × ℕ))}
    (h : w.settleActions env onBehalfOf first l = .ok w') :
    Replays (fun w => w.settleActions env onBehalfOf first l) w w' := by
  induction l generalizing w with
  | nil => exact fundFree_ok.replays h
  | cons head rest ih =>
      obtain ⟨action, interests⟩ := head
      simp only [settleActions, bind_eq_ok] at h
      obtain ⟨w₁, hfirst, hrest⟩ := h
      exact .bind (settleAction_replays hfirst) (ih hrest)

lemma multiOp_replays {op : List Action} (h : w.multiOp env op onBehalfOf = .ok w') :
    Replays (fun w => w.multiOp env op onBehalfOf) w w' := by
  simp only [multiOp, bind_eq_ok] at h
  obtain ⟨res, hres, hsettle⟩ := h
  unfold multiOp
  exact .read (fun _ => hres) ((settleActions_replays hsettle).start fun F => rfl)

lemma liquidate_replays {x toRepay toTake : AccountId} {minimum : ℕ} {amounts : ℕ × ℕ}
    (h : w.liquidate env x toRepay toTake amount minimum = .ok (w', amounts)) :
    Replays (fun w => do return (← w.liquidate env x toRepay toTake amount minimum).1) w w' := by
  simp only [liquidate, bind_eq_ok, pure_eq, Except.ok.injEq, Prod.mk.injEq] at h
  obtain ⟨_, hguard, res, hres, received, hreceived, _, hmin, w₁, hin, tokensR, htokR, w₂, hemit₂,
    w₃, hemit₃, tokensT, htokT, sum, hsum, w₄, hemit₄, w₅, hemit₅, rfl, -⟩ := h
  simp only [liquidate, bind_assoc, pure_bind]
  refine .read (fun _ => hguard) (.read (fun _ => hres) ?_)
  refine .start (g := ?_) (v := w.withPool res.storage) ?books fun F => ?funds
  case funds =>
    rw [withFunds_withPool]
    generalize (w.withPool res.storage).withFunds F = v
    exact rfl
  refine .read (fun _ => hreceived) (.read (fun _ => hmin) (.bind (transferIn_replays hin) ?_))
  refine .read (fun _ => htokR) (.bind (fundFree_emitAbacusTokenTransferEvent.replays hemit₂) ?_)
  refine .bind (fundFree_emitAbacusTokenTransferEvent.replays hemit₃) (.read (fun _ => htokT) ?_)
  refine .read (fun _ => hsum) ?_
  refine .bind ((fundFree_emitAbacusTokenTransferEvents _).replays hemit₄) ?_
  exact ((fundFree_emitAbacusTokenTransferEvents _).bind fundFree_ok).replays
    (bind_eq_ok.mpr ⟨_, hemit₅, rfl⟩)

omit [Pendzl] in
lemma payIncome_replays {toAccount : AccountId} {l : List (AccountId × ℕ)}
    (h : w.payIncome env toAccount l = .ok w') :
    Replays (fun w => w.payIncome env toAccount l) w w' := by
  induction l generalizing w with
  | nil => exact fundFree_ok.replays h
  | cons head rest ih =>
      obtain ⟨asset, amount⟩ := head
      simp only [payIncome, bind_eq_ok] at h
      obtain ⟨w₁, hout, hrest⟩ := h
      exact .bind (transferOut_replays hout) (ih hrest)

omit [Pendzl] in
lemma takeProtocolIncome_replays {assets : Option (List AccountId)} {toAccount : AccountId}
    {incomes : List (AccountId × ℕ)}
    (h : w.takeProtocolIncome env assets toAccount = .ok (w', incomes)) :
    Replays (fun w => do return (← w.takeProtocolIncome env assets toAccount).1) w w' := by
  simp only [takeProtocolIncome, bind_eq_ok, pure_eq, Except.ok.injEq, Prod.mk.injEq] at h
  obtain ⟨_, hrole, list, hlist, ⟨pool, l⟩, htake, w₁, hpay, rfl, -⟩ := h
  simp only [takeProtocolIncome, bind_assoc, pure_bind]
  refine .read (fun _ => hrole) (.read (fun _ => hlist) (.read (fun _ => htake) ?_))
  refine .start (v := w.withPool pool) (payIncome_replays hpay) fun F => ?_
  exact bind_pure _

/-! ### Messages that leave the underlying tokens alone -/

omit [Pendzl] in
lemma manage_overlooks {role : Role} {f : LendingPoolStorage → Res LendingPoolStorage}
    (h : w.manage env role (f w.pool) = .ok w') :
    Overlooks (fun w => w.manage env role (f w.pool)) w w' := by
  simp only [manage, bind_eq_ok, pure_eq, Except.ok.injEq] at h
  obtain ⟨_, hrole, pool, hpool, rfl⟩ := h
  unfold manage
  exact .read (fun _ => hrole) (.read (fun _ => hpool) fun F => rfl)

lemma transferDepositFromTo_withFunds {toAccount : AccountId} {minted : ℕ × ℕ} (F : Funds)
    (h : w.transferDepositFromTo env asset onBehalfOf toAccount amount = .ok (w', minted)) :
    (w.withFunds F).transferDepositFromTo env asset onBehalfOf toAccount amount
      = .ok (w'.withFunds F, minted) := by
  simp only [transferDepositFromTo, bind_eq_ok] at h ⊢
  obtain ⟨_, hcheck, tokens, htok, _, hcaller, res, hres, _, hens, h⟩ := h
  refine ⟨_, hcheck, tokens, htok, _, hcaller, res, hres, _, hens, ?_⟩
  split_ifs at h ⊢ with hevents
  · simp only [bind_eq_ok, mapErr_eq_ok, pure_eq, Except.ok.injEq, Prod.mk.injEq] at h ⊢
    obtain ⟨w₁, hemit, rfl, rfl⟩ := h
    refine ⟨w₁.withFunds F, ?_, rfl, rfl⟩
    exact (fundFree_emitTransferEvents _).overlooks hemit F
  · simp only [ok_bind, pure_eq, Except.ok.injEq, Prod.mk.injEq] at h ⊢
    exact ⟨h.1 ▸ rfl, h.2⟩

lemma transferDebtFromTo_withFunds {toAccount : AccountId} {minted : ℕ × ℕ} (F : Funds)
    (h : w.transferDebtFromTo env asset onBehalfOf toAccount amount = .ok (w', minted)) :
    (w.withFunds F).transferDebtFromTo env asset onBehalfOf toAccount amount
      = .ok (w'.withFunds F, minted) := by
  simp only [transferDebtFromTo, bind_eq_ok] at h ⊢
  obtain ⟨_, hcheck, tokens, htok, _, hcaller, res, hres, _, hens, h⟩ := h
  refine ⟨_, hcheck, tokens, htok, _, hcaller, res, hres, _, hens, ?_⟩
  split_ifs at h ⊢ with hevents
  · simp only [bind_eq_ok, mapErr_eq_ok, pure_eq, Except.ok.injEq, Prod.mk.injEq] at h ⊢
    obtain ⟨w₁, hemit, rfl, rfl⟩ := h
    refine ⟨w₁.withFunds F, ?_, rfl, rfl⟩
    exact (fundFree_emitTransferEvents _).overlooks hemit F
  · simp only [ok_bind, pure_eq, Except.ok.injEq, Prod.mk.injEq] at h ⊢
    exact ⟨h.1 ▸ rfl, h.2⟩

lemma update_overlooks {tokenAddress fromAccount toAccount : AccountId} {token : AbacusToken}
    (h : w.update env tokenAddress token fromAccount toAccount amount = .ok w') :
    Overlooks (fun w => w.update env tokenAddress token fromAccount toAccount amount) w w' := by
  intro F
  simp only [update, bind_eq_ok, mapErr_eq_ok, pure_eq, Except.ok.injEq] at h ⊢
  obtain ⟨_, htrap, ⟨w₁, minted⟩, hmove, rfl⟩ := h
  refine ⟨_, htrap, ⟨w₁.withFunds F, minted⟩, ?_, rfl⟩
  cases hkind : token.kind with
  | aToken =>
      rw [hkind] at hmove
      exact transferDepositFromTo_withFunds F hmove
  | vToken =>
      rw [hkind] at hmove
      exact transferDebtFromTo_withFunds F hmove

omit [Pendzl] in
lemma decreaseAllowanceFromTo_overlooks {tokenAddress owner spender : AccountId}
    {token : AbacusToken}
    (h : w.decreaseAllowanceFromTo tokenAddress token owner spender amount = .ok w') :
    Overlooks (fun w => w.decreaseAllowanceFromTo tokenAddress token owner spender amount)
      w w' := by
  simp only [decreaseAllowanceFromTo, bind_eq_ok, pure_eq, Except.ok.injEq] at h
  obtain ⟨rest, hrest, rfl⟩ := h
  exact .read (fun _ => hrest) fun F => rfl

lemma transfer_overlooks {tokenAddress toAccount : AccountId}
    (h : w.transfer env tokenAddress toAccount amount = .ok w') :
    Overlooks (fun w => w.transfer env tokenAddress toAccount amount) w w' := by
  simp only [transfer, bind_eq_ok] at h
  obtain ⟨token, htoken, h⟩ := h
  unfold transfer
  refine .read (fun _ => htoken) ?_
  cases hkind : token.kind with
  | aToken =>
      simp only [hkind] at h
      exact update_overlooks h
  | vToken =>
      simp only [hkind, bind_eq_ok] at h
      obtain ⟨_, hallow, w₁, hcharge, hupdate⟩ := h
      exact .read (fun _ => hallow)
        (.bind (decreaseAllowanceFromTo_overlooks hcharge) (update_overlooks hupdate))

lemma transferFrom_overlooks {tokenAddress fromAccount toAccount : AccountId}
    (h : w.transferFrom env tokenAddress fromAccount toAccount amount = .ok w') :
    Overlooks (fun w => w.transferFrom env tokenAddress fromAccount toAccount amount) w w' := by
  simp only [transferFrom, bind_eq_ok] at h
  obtain ⟨token, htoken, _, hallow, w₁, hcharge, hupdate⟩ := h
  unfold transferFrom
  refine .read (fun _ => htoken) (.read (fun _ => hallow) ?_)
  exact .bind (decreaseAllowanceFromTo_overlooks hcharge) (update_overlooks hupdate)

omit [Pendzl] in
lemma instantiateAbacusToken_withFunds {kind : TokenKind} {address : AccountId} (F : Funds)
    (h : w.instantiateAbacusToken env kind asset = .ok (w', address)) :
    (w.withFunds F).instantiateAbacusToken env kind asset = .ok (w'.withFunds F, address) := by
  simp only [instantiateAbacusToken, bind_eq_ok, pure_eq, Except.ok.injEq, Prod.mk.injEq] at h ⊢
  obtain ⟨a, ha, _, hfree, rfl, rfl⟩ := h
  exact ⟨a, ha, _, hfree, rfl, rfl⟩

omit [Pendzl] in
lemma registerAsset_overlooks {decimals depositFeeE6 debtFeeE6 : ℕ} {assetRules : AssetRules}
    {restrictions : ReserveRestrictions} {params : Option InterestRateModelParams}
    (h : w.registerAsset env asset decimals assetRules restrictions depositFeeE6 debtFeeE6 params
      = .ok w') :
    Overlooks (fun w => w.registerAsset env asset decimals assetRules restrictions depositFeeE6
      debtFeeE6 params) w w' := by
  intro F
  simp only [registerAsset, bind_eq_ok, pure_eq, Except.ok.injEq] at h ⊢
  obtain ⟨_, hrole, _, hfee, multiplier, hmultiplier, pool, hpool, ⟨w₁, aToken⟩, ha,
    ⟨w₂, vToken⟩, hv, pool₁, htokens, pool₂, hrule, rfl⟩ := h
  exact ⟨_, hrole, _, hfee, multiplier, hmultiplier, pool, hpool, ⟨w₁.withFunds F, aToken⟩,
    instantiateAbacusToken_withFunds F ha, ⟨w₂.withFunds F, vToken⟩,
    instantiateAbacusToken_withFunds F hv, pool₁, htokens, pool₂, hrule, rfl⟩

lemma adjustRateAtTarget_overlooks {guessedIndex rate : ℕ}
    (h : w.adjustRateAtTarget env asset guessedIndex = .ok (w', rate)) :
    Overlooks (fun w => do return (← w.adjustRateAtTarget env asset guessedIndex).1) w w' := by
  simp only [adjustRateAtTarget, bind_eq_ok, pure_eq, Except.ok.injEq, Prod.mk.injEq] at h
  obtain ⟨k, hk, model, hmodel, earliest, hearliest, _, hearly, twa, htwa, model', hmodel',
    rfl, -⟩ := h
  simp only [adjustRateAtTarget, bind_assoc, pure_bind]
  refine .read (fun _ => hk) (.read (fun _ => hmodel) (.read (fun _ => hearliest) ?_))
  refine .read (fun _ => hearly) (.read (fun _ => htwa) (.read (fun _ => hmodel') ?_))
  exact fun F => rfl

omit [Pendzl] in
/-- A message that drops its return value. -/
lemma exists_of_fst_eq_ok {x : Comp ε (World × α)}
    (h : (do return (← x).1 : Comp ε World) = .ok w') : ∃ a, x = .ok (w', a) := by
  obtain ⟨⟨w₁, a⟩, hx, heq⟩ := bind_eq_ok.mp h
  simp only [pure_eq, Except.ok.injEq] at heq
  exact ⟨a, heq ▸ hx⟩

/-- The messages that neither have underlying tokens moved nor write to the registrar
overlook the funds. -/
lemma execute_overlooks {message : Message} (h : w.execute env message = .ok w')
    (hmessage : message.usesFunds = false) : Overlooks (fun w => w.execute env message) w w' := by
  cases message <;> simp only [Message.usesFunds, reduceCtorEq] at hmessage
  all_goals simp only [execute, mapErr_eq_ok] at h ⊢
  case chooseMarketRule =>
    simp only [chooseMarketRule, bind_eq_ok, pure_eq, Except.ok.injEq] at h
    obtain ⟨pool, hpool, _, hens, rfl⟩ := h
    exact .mapErr _ (.read (fun _ => hpool) (.read (fun _ => hens) fun F => rfl))
  case accumulateInterest =>
    simp only [accumulateInterest, bind_eq_ok, pure_eq, Except.ok.injEq] at h
    obtain ⟨pool, hpool, rfl⟩ := h
    exact .mapErr _ (.read (fun _ => hpool) fun F => rfl)
  case adjustRateAtTarget =>
    obtain ⟨_, h⟩ := exists_of_fst_eq_ok h
    exact (adjustRateAtTarget_overlooks h).mapErr _
  case setPriceFeedProvider provider =>
    exact (manage_overlooks (f := fun s => .ok (s.accountForPriceFeedProviderChange provider))
      h).mapErr _
  case setFeeReductionProvider provider =>
    exact (manage_overlooks (f := fun s => .ok (s.accountForFeeReductionProviderChange provider))
      h).mapErr _
  case setFlashLoanFeeE6 fee =>
    exact (manage_overlooks (f := fun s => .ok { s with flashLoanFeeE6 := some fee }) h).mapErr _
  case registerAsset => exact (registerAsset_overlooks h).mapErr _
  case setReserveIsActive asset active =>
    exact (manage_overlooks (f := fun s => s.accountForChangingActivity asset active) h).mapErr _
  case setReserveIsFrozen asset frozen =>
    exact (manage_overlooks (f := fun s => s.accountForChangingIsFrozen asset frozen) h).mapErr _
  case setReserveRestrictions asset restrictions =>
    exact (manage_overlooks
      (f := fun s => s.accountForReserveRestricitionsChange asset restrictions) h).mapErr _
  case setInterestRateModel asset params =>
    exact (manage_overlooks (f := fun s => s.accountForInterestRateModelChange asset
      (InterestRateModel.new params env.blockTimestamp) env.blockTimestamp) h).mapErr _
  case setReserveFees =>
    simp only [setReserveFees, bind_eq_ok, pure_eq, Except.ok.injEq] at h
    obtain ⟨_, hrole, _, hfee, pool, hpool, rfl⟩ := h
    exact .mapErr _ (.read (fun _ => hrole) (.read (fun _ => hfee)
      (.read (fun _ => hpool) fun F => rfl)))
  case setStablecoinDebtRateE18 asset rate =>
    exact (manage_overlooks (f := fun s => s.accountForStablecoinDebtRateE18Change asset rate)
      h).mapErr _
  case addMarketRule =>
    simp only [addMarketRule, bind_eq_ok, pure_eq, Except.ok.injEq] at h
    obtain ⟨_, hrole, _, hvalid, ⟨pool, id⟩, hpool, list, hlist, _, htrap, rfl⟩ := h
    exact .mapErr _ (.read (fun _ => hrole) (.read (fun _ => hvalid) (.read (fun _ => hpool)
      (.read (fun _ => hlist) (.read (fun _ => htrap) fun F => rfl)))))
  case modifyAssetRule id asset rules =>
    exact (manage_overlooks (f := fun s => s.accountForAssetRuleChange id asset rules) h).mapErr _
  case transfer => exact (transfer_overlooks h).mapErr _
  case transferFrom => exact (transferFrom_overlooks h).mapErr _
  case approve =>
    simp only [approve, bind_eq_ok, pure_eq, Except.ok.injEq] at h
    obtain ⟨token, htoken, rfl⟩ := h
    exact .mapErr _ (.read (fun _ => htoken) fun F => rfl)
  case increaseAllowance =>
    simp only [increaseAllowance, increaseAllowanceFromTo, bind_eq_ok, pure_eq,
      Except.ok.injEq] at h
    obtain ⟨token, htoken, sum, hsum, rfl⟩ := h
    exact .mapErr _ (.read (fun _ => htoken) (.read (fun _ => hsum) fun F => rfl))
  case decreaseAllowance =>
    obtain ⟨token, htoken, hcharge⟩ := bind_eq_ok.mp h
    exact .mapErr _ (.read (fun _ => htoken) (decreaseAllowanceFromTo_overlooks hcharge))

/-- Every message but `set_as_collateral` can be replayed on other funds. -/
lemma execute_replays {message : Message} (h : w.execute env message = .ok w')
    (hmessage : ∀ asset use, message ≠ .setAsCollateral asset use) :
    Replays (fun w => w.execute env message) w w' := by
  by_cases hquiet : message.usesFunds = false
  · exact (execute_overlooks h hquiet).replays
  cases message <;> simp only [Message.usesFunds, not_true_eq_false] at hquiet
  all_goals simp only [execute, mapErr_eq_ok] at h ⊢
  case deposit => exact (deposit_replays h).mapErr _
  case withdraw =>
    obtain ⟨_, h⟩ := exists_of_fst_eq_ok h
    exact (withdraw_replays h).mapErr _
  case borrow => exact (borrow_replays h).mapErr _
  case repay =>
    obtain ⟨_, h⟩ := exists_of_fst_eq_ok h
    exact (repay_replays h).mapErr _
  case multiOp => exact (multiOp_replays h).mapErr _
  case liquidate =>
    obtain ⟨_, h⟩ := exists_of_fst_eq_ok h
    exact (liquidate_replays h).mapErr _
  case takeProtocolIncome =>
    obtain ⟨_, h⟩ := exists_of_fst_eq_ok h
    exact (takeProtocolIncome_replays h).mapErr _
  case setAsCollateral asset use => exact absurd rfl (hmessage asset use)

/-- `set_as_collateral` can be replayed unless the registrar has run out of numbers. -/
lemma setAsCollateral_withFunds {use : Bool} (h : w.setAsCollateral env asset use = .ok w')
    (F : Funds) (hcount : F.registrar.nextCounter + 1 < 2 ^ 128) :
    ∃ r : AccountRegistrar, r.nextCounter ≤ F.registrar.nextCounter + 1
      ∧ (w.withFunds F).setAsCollateral env asset use
        = .ok (w'.withFunds { F with registrar := r }) := by
  have hregister : ∃ r, F.registrar.ensureRegistered env.caller = .ok r
      ∧ r.nextCounter ≤ F.registrar.nextCounter + 1 := by
    rw [AccountRegistrar.ensureRegistered]
    by_cases hcontains : F.registrar.accountToCounter.contains env.caller = true
    · exact ⟨_, if_pos hcontains, Nat.le_succ _⟩
    · rw [if_neg hcontains]
      simp only [bind_eq_ok, unwrap_eq_ok, checkedAdd_eq_some, pure_eq, Except.ok.injEq]
      exact ⟨_, ⟨_, ⟨rfl, hcount⟩, rfl⟩, le_refl _⟩
  obtain ⟨r, hr, hle⟩ := hregister
  refine ⟨r, hle, ?_⟩
  simp only [setAsCollateral, bind_eq_ok, pure_eq] at h ⊢
  obtain ⟨registrar, -, pool, hpool, h⟩ := h
  refine ⟨r, hr, pool, hpool, ?_⟩
  split_ifs at h ⊢ with huse
  · simp only [bind_eq_ok, Except.ok.injEq] at h ⊢
    obtain ⟨u, hens, rfl⟩ := h
    exact ⟨u, hens, rfl⟩
  · simp only [Except.ok.injEq] at h ⊢
    exact h ▸ rfl

/-- Every message can be replayed on other funds, if the registrar has a number left. -/
theorem execute_withFunds {message : Message} (h : w.execute env message = .ok w') (n : ℕ) :
    ∃ m, ∀ F : Funds, F.AtLeast m → F.registrar.nextCounter + 1 < 2 ^ 128 →
      ∃ F' : Funds, F'.AtLeast n ∧ F'.registrar.nextCounter ≤ F.registrar.nextCounter + 1
        ∧ (w.withFunds F).execute env message = .ok (w'.withFunds F') := by
  by_cases hmessage : ∀ asset use, message ≠ .setAsCollateral asset use
  · obtain ⟨m, hm⟩ := execute_replays h hmessage n
    refine ⟨m, fun F hF _ => ?_⟩
    obtain ⟨F', hF', hr, hrun⟩ := hm F hF
    exact ⟨F', hF', hr ▸ Nat.le_succ _, hrun⟩
  · push Not at hmessage
    obtain ⟨asset, use, rfl⟩ := hmessage
    refine ⟨n, fun F hF hcount => ?_⟩
    obtain ⟨r, hr, hrun⟩ := setAsCollateral_withFunds (mapErr_eq_ok.mp h) F hcount
    exact ⟨{ F with registrar := r }, hF, hr, mapErr_eq_ok.mpr hrun⟩

end World

end AbaxLending
