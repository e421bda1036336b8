import AbaxLending.Effects.Seizure
import AbaxLending.Effects.Settlements
import AbaxLending.Invariants.Supply

/-!
The `Transfer` events against the positions.

The `Transfer` events of a message should add up, token by token and account by account, to
the change of the stored positions (`Reconciled`).

* `Liquidation.moved`: what a liquidation shows; between distinct accounts this is how the
  positions change, and an account that liquidates itself only sees the last part of it;
* `liquidate_shows`: these are the events of `liquidate`;
* `events_reconcile_iff`: when the events of a message reconcile with the positions.
-/

namespace AbaxLending

open Outcome

/-! ### Liquidations -/

namespace LendingPoolStorage

/-- The parts of a liquidation, as the actions they amount to. -/
def LiquidateResult.settlements (self : LiquidateResult) (assetToRepay assetToTake : AccountId) :
    List (Action × (ℕ × ℕ)) :=
  [(⟨.repay, assetToRepay, self.amountToRepay⟩, self.interestsToRepay),
    (⟨.withdraw, assetToTake, self.amountToTake⟩, self.interestsToTake),
    (⟨.deposit, assetToTake, self.amountToTake⟩, self.callerInterestsToTake)]

section

variable [Pendzl] {s : LendingPoolStorage} {env : Env}
  {caller liquidated assetToRepay assetToTake : AccountId} {amount t : ℕ}

namespace Liquidation

variable (r : Liquidation s env caller liquidated assetToRepay assetToTake amount t)

/-- The repayment, with its amount. -/
def repayment : Action := ⟨.repay, assetToRepay, r.paid.amount⟩

/-- What is taken from the liquidated account. -/
def seizure : Action := ⟨.withdraw, assetToTake, r.second.amount⟩

/-- What the caller is given. -/
def award : Action := ⟨.deposit, assetToTake, r.second.amount⟩

lemma paid_change (side : Side) : (side.amount r.paid.data : ℤ)
    = side.amount (s.position liquidated r.repayId)
      + side.change r.repayment r.paid.interests := by
  have hstep : Action.step ⟨.repay, assetToRepay, amount⟩ r.repayCtx r.dataToRepay
      (s.getAccountConfig liquidated) (s.getFeeReductionsOfAccount env liquidated)
      = .ok r.paid := r.paid_ok
  rw [Action.step_change hstep side, r.dataToRepay_position]
  rfl

lemma first_change (side : Side) : (side.amount r.first.data : ℤ)
    = (if r.k = r.repayId then side.amount r.paid.data
        else side.amount (s.position liquidated r.k))
      + side.change r.seizure r.first.interests := by
  have hstep : Action.step ⟨.withdraw, assetToTake, r.amountToTake⟩ r.ctx r.dataToTake
      r.paid.config (s.getFeeReductionsOfAccount env liquidated) = .ok r.first := r.first_ok
  obtain ⟨_, _, -, -, hamount, -, -⟩ := r.given
  rw [Action.step_change hstep side, r.dataToTake_position, seizure, hamount]
  split_ifs <;> rfl

lemma second_change (side : Side) : (side.amount r.second.data : ℤ)
    = side.amount (s.position caller r.k) + side.change r.award r.second.interests := by
  have hstep : Action.step ⟨.deposit, assetToTake, r.first.amount⟩ r.first.ctx
      (s.position caller r.k) (s.getAccountConfig caller)
      (s.getFeeReductionsOfAccount env caller) = .ok r.second := r.second_ok
  exact Action.step_change hstep side

/-- What a liquidation shows of a position. -/
def moved (side : Side) (holder : AccountId) (j : ℕ) : ℤ :=
  (if j = r.repayId ∧ liquidated = holder then side.change r.repayment r.paid.interests else 0)
    + (if j = r.k ∧ liquidated = holder then side.change r.seizure r.first.interests else 0)
    + if j = r.k ∧ caller = holder then side.change r.award r.second.interests else 0

/-- Between distinct accounts the positions change by what is shown. -/
lemma change_of_ne (hne : caller ≠ liquidated) (side : Side) (holder : AccountId) (j : ℕ) :
    (side.amount (r.written.position holder j) : ℤ)
      = side.amount (s.position holder j) + r.moved side holder j := by
  have hpaid := r.paid_change side
  have hfirst := r.first_change side
  have hsecond := r.second_change side
  rw [moved]
  by_cases hc : caller = holder
  · subst hc
    rw [position, r.entry_caller]
    by_cases hj : j = r.k
    · subst hj
      simp only [if_true, Option.getD_some, hne.symm, and_false, if_false, true_and]
      omega
    · simp only [hj, if_false, false_and, hne.symm, and_false, add_zero]
      rfl
  · by_cases hh : liquidated = holder
    · subst hh
      rw [position, r.entry_liquidated hne.symm]
      by_cases hj : j = r.k
      · subst hj
        simp only [if_true, Option.getD_some, hc, and_false, if_false, and_true]
        split_ifs at hfirst ⊢ with hk
        · rw [← hk] at hpaid
          omega
        · omega
      · by_cases hj' : j = r.repayId
        · subst hj'
          simp only [hj, if_false, if_true, Option.getD_some, hc, and_false, and_true]
          omega
        · simp only [hj, hj', if_false, false_and, add_zero]
          rfl
    · rw [position, r.entry_of_ne (Ne.symm hc) (Ne.symm hh)]
      simp only [hc, hh, and_false, if_false, add_zero]
      rfl

/-! ### One account -/

/-- An account that liquidates itself keeps its copy as a caller, which only knows the award. -/
lemma change_self {x : AccountId}
    (r : Liquidation s env x x assetToRepay assetToTake amount t) (side : Side)
    (holder : AccountId) (j : ℕ) :
    (side.amount (r.written.position holder j) : ℤ) = side.amount (s.position holder j)
      + if j = r.k ∧ x = holder then side.change r.award r.second.interests else 0 := by
  by_cases hx : x = holder
  · subst hx
    by_cases hj : j = r.k
    · subst hj
      rw [r.position_self, r.second_change, if_pos ⟨rfl, rfl⟩]
    · rw [r.position_self_of_ne hj, if_neg fun h => hj h.1, add_zero]
  · rw [r.position_other (Ne.symm hx), if_neg fun h => hx h.2, add_zero]

/-- What is shown of an account that liquidates itself is what it gets when both of its copies
as a liquidated account are what was stored before. -/
lemma moved_self_iff {x : AccountId}
    (r : Liquidation s env x x assetToRepay assetToTake amount t) :
    (∀ (side : Side) holder j, r.moved side holder j
        = if j = r.k ∧ x = holder then side.change r.award r.second.interests else 0)
    ↔ ∀ side : Side, side.amount r.first.data = side.amount (s.position x r.k)
      ∧ (r.k ≠ r.repayId → side.amount r.paid.data = side.amount (s.position x r.repayId)) := by
  constructor
  · intro h side
    have hpaid := r.paid_change side
    have hfirst := r.first_change side
    have htake := h side x r.k
    have hrepay := h side x r.repayId
    simp only [moved, and_true, if_true] at htake hrepay
    by_cases hk : r.k = r.repayId
    · simp only [hk, if_true] at htake hfirst ⊢
      exact ⟨by omega, fun hne => absurd rfl hne⟩
    · simp only [hk, Ne.symm hk, if_false] at htake hrepay hfirst
      exact ⟨by omega, fun _ => by omega⟩
  · intro h side holder j
    obtain ⟨hkept, hother⟩ := h side
    have hpaid := r.paid_change side
    have hfirst := r.first_change side
    rw [moved]
    by_cases hx : x = holder
    · simp only [hx, and_true]
      by_cases hk : r.k = r.repayId
      · simp only [hk, if_true] at hfirst hkept ⊢
        split_ifs <;> omega
      · have hother' := hother hk
        rw [if_neg hk] at hfirst
        have hrepay : side.change r.repayment r.paid.interests = 0 := by omega
        have htake : side.change r.seizure r.first.interests = 0 := by omega
        rw [hrepay, htake, ite_self, ite_self, zero_add, zero_add]
    · simp only [hx, and_false, if_false, add_zero]

end Liquidation

/-- The coincidences under which the events of an account that liquidates itself are right: the
interest on the debt is what is repaid, the interest on the deposit is what is taken, and there
is no other interest. -/
structure LiquidatesSelfTrue (s : LendingPoolStorage) (env : Env)
    (account assetToRepay assetToTake : AccountId) (amount t : ℕ) : Prop where
  repaid : (s.ledgerOf env account t assetToRepay).debt
    = (s.storedOf account assetToRepay).debt
      + min amount (s.ledgerOf env account t assetToRepay).debt
  taken : ∃ repayId takeId quote, s.assetToId.get assetToRepay = some repayId
    ∧ s.assetToId.get assetToTake = some takeId
    ∧ s.quotedTake env account assetToRepay repayId takeId amount t = .ok quote
    ∧ (s.ledgerOf env account t assetToTake).deposit
      = (s.storedOf account assetToTake).deposit
        + min quote (s.ledgerOf env account t assetToTake).deposit
  others : assetToRepay ≠ assetToTake →
    (s.ledgerOf env account t assetToRepay).deposit = (s.storedOf account assetToRepay).deposit
    ∧ (s.ledgerOf env account t assetToTake).debt = (s.storedOf account assetToTake).debt

/-- The ledger shows the views. -/
lemma ledgerOf_deposit {account asset : AccountId} {n : ℕ}
    (h : Side.deposit.view s env asset account t = .ok n) :
    (s.ledgerOf env account t asset).deposit = n := by
  obtain ⟨data, hdata, rfl⟩ := Side.view_eq_ok.mp h
  rw [ledgerOf_of_ok hdata]
  rfl

lemma ledgerOf_debt {account asset : AccountId} {n : ℕ}
    (h : Side.debt.view s env asset account t = .ok n) :
    (s.ledgerOf env account t asset).debt = n := by
  obtain ⟨data, hdata, rfl⟩ := Side.view_eq_ok.mp h
  rw [ledgerOf_of_ok hdata]
  rfl

/-- The copies are what was stored before in these cases. -/
lemma Liquidation.kept_iff {x : AccountId} (hids : s.IdsUnique)
    (r : Liquidation s env x x assetToRepay assetToTake amount t) :
    (∀ side : Side, side.amount r.first.data = side.amount (s.position x r.k)
      ∧ (r.k ≠ r.repayId → side.amount r.paid.data = side.amount (s.position x r.repayId)))
    ↔ s.LiquidatesSelfTrue env x assetToRepay assetToTake amount t := by
  obtain ⟨b, hb, hamount, hpaid, -, hdeposit⟩ := r.repaid
  obtain ⟨d, b', hd, hb', hfirst, -, hleft, hdebt⟩ := r.taken
  have hrepay := r.registeredRepay
  have htake := r.registeredTake
  have hquote := r.quotedTake_eq
  have hassets : r.k = r.repayId ↔ assetToRepay = assetToTake := by
    constructor
    · intro hk
      exact hids.inj _ _ _ (hk ▸ hrepay) htake
    · intro heq
      exact Option.some.inj (htake.symm.trans ((congrArg s.assetToId.get heq).symm.trans hrepay))
  have hrepayDebt := ledgerOf_debt hb
  have hrepayDeposit := ledgerOf_deposit hdeposit
  have htakeDeposit := ledgerOf_deposit hd
  have htakeDebt := ledgerOf_debt hb'
  have hsame : r.k = r.repayId → b' = b := by
    intro hk
    rw [← htakeDebt, ← hassets.mp hk, hrepayDebt]
  have hstoredRepay : s.storedOf x assetToRepay = (s.position x r.repayId).holding :=
    storedOf_of_get hrepay
  have hstoredTake : s.storedOf x assetToTake = (s.position x r.k).holding :=
    storedOf_of_get htake
  constructor
  · intro h
    have hkeptDeposit : r.first.data.deposit = (s.position x r.k).deposit := (h .deposit).1
    have hkeptDebt : r.first.data.debt = (s.position x r.k).debt := (h .debt).1
    refine ⟨?_, ⟨r.repayId, r.k, r.amountToTake, hrepay, htake, hquote, ?_⟩, fun hne => ?_⟩
    · rw [hrepayDebt, hstoredRepay]
      simp only [AccountReserveData.holding]
      by_cases hk : r.k = r.repayId
      · rw [if_pos hk, hsame hk] at hdebt
        rw [← hk]
        omega
      · have hother : r.paid.data.debt = (s.position x r.repayId).debt := (h .debt).2 hk
        omega
    · rw [htakeDeposit, hstoredTake]
      simp only [AccountReserveData.holding]
      omega
    · have hk : r.k ≠ r.repayId := fun hk => hne (hassets.mp hk)
      have hother : r.paid.data.deposit = (s.position x r.repayId).deposit := (h .deposit).2 hk
      rw [if_neg hk] at hdebt
      rw [hrepayDeposit, htakeDebt, hstoredRepay, hstoredTake]
      simp only [AccountReserveData.holding]
      exact ⟨hother, by omega⟩
  · rintro ⟨hrepaid, ⟨repayId, takeId, quote, hrepay', htake', hquote', htaken⟩, hothers⟩ side
    cases hrepay.symm.trans hrepay'
    cases htake.symm.trans htake'
    cases hquote.symm.trans hquote'
    rw [hrepayDebt, hstoredRepay] at hrepaid
    rw [htakeDeposit, hstoredTake] at htaken
    rw [hrepayDeposit, htakeDebt, hstoredRepay, hstoredTake] at hothers
    simp only [AccountReserveData.holding] at hrepaid htaken hothers
    have hother : r.k ≠ r.repayId → r.paid.data.deposit = (s.position x r.repayId).deposit
        ∧ b' = (s.position x r.k).debt := fun hk => hothers fun heq => hk (hassets.mpr heq)
    cases side with
    | deposit =>
        simp only [Side.amount]
        exact ⟨by omega, fun hk => (hother hk).1⟩
    | debt =>
        simp only [Side.amount]
        refine ⟨?_, fun hk => by omega⟩
        by_cases hk : r.k = r.repayId
        · rw [if_pos hk, hsame hk] at hdebt
          rw [← hk] at hrepaid
          omega
        · rw [if_neg hk] at hdebt
          have hdebt' := (hother hk).2
          omega

end

end LendingPoolStorage

/-! ### The messages -/

namespace World

/-- The `Transfer` events of every token add up, for every account, to the change of its stored
deposit or debt. -/
def Reconciled (w w' : World) (events : List Event) : Prop :=
  ∀ asset k tokens, w.pool.assetToId.get asset = some k →
    w.pool.reserveAbacusTokens.get asset = some tokens → ∀ (side : Side) account,
      netTransfers events (tokens.address side.kind) account
        = (side.amount (w'.pool.position account k) : ℤ)
          - side.amount (w.pool.position account k)

section

variable [Pendzl] {w w' : World} {env : Env}

/-- What the actions of an account are settled with. -/
def settlementsOf (w : World) (env : Env) (account : AccountId) (actions : List Action) :
    List (Action × (ℕ × ℕ)) :=
  (w.pool.storedOf account).settlements (w.pool.ledgerOf env account env.blockTimestamp) actions

/-- All amounts that a message involves are below `2 ^ 127`. -/
def AmountsFit (w : World) (env : Env) : Message → Prop
  | .liquidate liquidatedAccount assetToRepay assetToTake amountToRepay _ =>
      ∀ res, w.pool.accountForLiquidate env env.caller liquidatedAccount assetToRepay assetToTake
          amountToRepay env.blockTimestamp = .ok res →
        ∀ p ∈ res.settlements assetToRepay assetToTake, p.1.Fits p.2
  | message => ∀ account actions, message.userActions = some (account, actions) →
      ∀ p ∈ w.settlementsOf env account actions, p.1.Fits p.2

/-- The condition under which the events of a message are right. -/
def EventsTrue (w : World) (env : Env) : Message → Prop
  | .liquidate liquidatedAccount assetToRepay assetToTake amountToRepay _ =>
      env.caller = liquidatedAccount →
        w.pool.LiquidatesSelfTrue env liquidatedAccount assetToRepay assetToTake amountToRepay
          env.blockTimestamp
  | message => ∀ account actions, message.userActions = some (account, actions) →
      NetsTrue env.caller account (w.settlementsOf env account actions)

/-- What a message with actions shows, and what it changes. -/
lemma userActions_shows {message : Message} {account : AccountId} {actions : List Action}
    (hl : w.Linked) (hm : message.userActions = some (account, actions))
    (hfits : ∀ p ∈ w.settlementsOf env account actions, p.1.Fits p.2)
    (h : w.execute env message = .ok w') :
    (∃ events, w'.events = w.events ++ events ∧ ∀ asset tokens,
      w.pool.reserveAbacusTokens.get asset = some tokens → ∀ (side : Side) holder,
        netTransfers events (tokens.address side.kind) holder
          = if account = holder then sumOn asset
              (side.shown env.caller account
                (firstAmount ((w.settlementsOf env account actions).map Prod.fst)))
              (w.settlementsOf env account actions) else 0)
    ∧ (∀ asset k (side : Side) holder, w.pool.assetToId.get asset = some k →
      (side.amount (w'.pool.position holder k) : ℤ) - side.amount (w.pool.position holder k)
        = if account = holder then sumOn asset side.change (w.settlementsOf env account actions)
          else 0)
    ∧ ∀ p ∈ w.settlementsOf env account actions, ∃ k tokens,
      w.pool.assetToId.get p.1.asset = some k
      ∧ w.pool.reserveAbacusTokens.get p.1.asset = some tokens := by
  obtain ⟨res, l, hres, hzip, hactions, hloop⟩ := execute_settles hl.ids hm h
  obtain ⟨hsettled, hchange, hregistered⟩ :=
    LendingPoolStorage.accountForAccountActions_settlements hl.ids hres
  have hregistry : w.pool.KeepsRegistry res.storage :=
    .of_positions (LendingPoolStorage.accountForAccountActions_writes hres)
  have hl' : (w.withPool res.storage).Linked := hl.keeps hregistry (.of_eq rfl rfl)
  have hlist : l = w.settlementsOf env account actions := hzip.trans hsettled
  have hpool : w'.pool = res.storage := (settleActions_keeps hloop).pool
  rw [← hlist] at hfits ⊢
  rw [← hactions] at hloop
  have hfirst : Small (firstAmount (l.map Prod.fst)) := by
    cases hcases : l with
    | nil => exact Nat.two_pow_pos 127
    | cons p rest => exact (hfits p (hcases ▸ List.mem_cons_self ..)).amount
  obtain ⟨shown, ⟨events, hevents, hnet⟩, hshown⟩ := settleActions_shows hl' hfirst hfits hloop
  refine ⟨⟨events, hevents, fun asset tokens ht side holder => ?_⟩,
    fun asset k side holder hk => ?_, fun p hp => ?_⟩
  · rw [hnet]
    exact hshown asset tokens (hregistry.reserveAbacusTokens.symm ▸ ht) side holder
  · rw [hpool, hchange asset k side holder hk, ← hzip, add_sub_cancel_left]
  · have hmem : p.1 ∈ l.map Prod.fst := List.mem_map_of_mem hp
    obtain ⟨tokens, ht⟩ := settleActions_tokens hloop p.1 hmem
    obtain ⟨k, hk⟩ := hregistered p (hzip ▸ hp)
    exact ⟨k, tokens, hk, hregistry.reserveAbacusTokens ▸ ht⟩

/-- Two sums that belong to one account agree when the sums do. -/
lemma userActions_reconciled_iff {message : Message} {account : AccountId} {actions : List Action}
    (hl : w.Linked) (hm : message.userActions = some (account, actions))
    (hfits : ∀ p ∈ w.settlementsOf env account actions, p.1.Fits p.2)
    (h : w.execute env message = .ok w') :
    ∃ events, w'.events = w.events ++ events
      ∧ (Reconciled w w' events
        ↔ NetsTrue env.caller account (w.settlementsOf env account actions)) := by
  obtain ⟨⟨events, hevents, hshown⟩, hchange, hassets⟩ := userActions_shows hl hm hfits h
  refine ⟨events, hevents, Iff.trans ?_ (sum_shown_iff rfl hfits)⟩
  constructor
  · intro hrec asset hmem side
    obtain ⟨p, hp, rfl⟩ := hmem
    obtain ⟨k, tokens, hk, ht⟩ := hassets p hp
    have heq := hrec p.1.asset k tokens hk ht side account
    rw [hshown _ _ ht, hchange _ _ _ _ hk, if_pos rfl, if_pos rfl] at heq
    exact heq
  · intro hsums asset k tokens hk ht side holder
    rw [hshown _ _ ht, hchange _ _ _ _ hk]
    by_cases hmem : ∃ p ∈ w.settlementsOf env account actions, p.1.asset = asset
    · rw [hsums asset hmem side]
    · have hnone : ∀ p ∈ w.settlementsOf env account actions, p.1.asset ≠ asset :=
        fun p hp hasset => hmem ⟨p, hp, hasset⟩
      rw [sumOn_of_not_mem hnone, sumOn_of_not_mem hnone]

/-- What a liquidation shows. -/
lemma liquidate_shows {x toRepay toTake : AccountId} {amount minimum repaid taken : ℕ}
    {res : LendingPoolStorage.LiquidateResult}
    (hres : w.pool.accountForLiquidate env env.caller x toRepay toTake amount env.blockTimestamp
      = .ok res)
    (hfits : ∀ p ∈ res.settlements toRepay toTake, p.1.Fits p.2)
    (h : w.liquidate env x toRepay toTake amount minimum = .ok (w', repaid, taken)) :
    ∃ tokensToRepay tokensToTake, w.pool.reserveAbacusTokens.get toRepay = some tokensToRepay
      ∧ w.pool.reserveAbacusTokens.get toTake = some tokensToTake
      ∧ Shows w w' (both tokensToRepay x (fun side =>
          side.change ⟨.repay, toRepay, res.amountToRepay⟩ res.interestsToRepay)
        + both tokensToTake x (fun side =>
          side.change ⟨.withdraw, toTake, res.amountToTake⟩ res.interestsToTake)
        + both tokensToTake env.caller fun side =>
          side.change ⟨.deposit, toTake, res.amountToTake⟩ res.callerInterestsToTake) := by
  have hregistry : w.pool.KeepsRegistry res.storage :=
    .of_positions (LendingPoolStorage.accountForLiquidate_writes hres)
  have hrepay := hfits (⟨.repay, toRepay, res.amountToRepay⟩, res.interestsToRepay)
    (by simp [LendingPoolStorage.LiquidateResult.settlements])
  have htake := hfits (⟨.withdraw, toTake, res.amountToTake⟩, res.interestsToTake)
    (by simp [LendingPoolStorage.LiquidateResult.settlements])
  have haward := hfits (⟨.deposit, toTake, res.amountToTake⟩, res.callerInterestsToTake)
    (by simp [LendingPoolStorage.LiquidateResult.settlements])
  simp only [liquidate, hres, bind_eq_ok, Except.ok.injEq, exists_eq_left', unwrap_eq_ok,
    okOr_eq_ok, checkedAdd_eq_some, pure_eq, Prod.mk.injEq] at h
  obtain ⟨_, -, _, -, _, -, w₁, h₁, tokensToRepay, ht₁, w₂, h₂, w₃, h₃, tokensToTake, ht₂, received,
    ⟨hreceived, -⟩, w₄, h₄, w₅, h₅, rfl, -, -⟩ := h
  have hpool₁ : w₁.pool = res.storage := (transferIn_frame h₁).1.pool
  have hpool₃ : w₃.pool = res.storage :=
    (emitAbacusTokenTransferEvent_emits h₃).pool.trans
      ((emitAbacusTokenTransferEvent_emits h₂).pool.trans hpool₁)
  rw [hpool₁, hregistry.reserveAbacusTokens] at ht₁
  rw [hpool₃, hregistry.reserveAbacusTokens] at ht₂
  refine ⟨tokensToRepay, tokensToTake, ht₁, ht₂, ?_⟩
  have hsum : (res.callerInterestsToTake.1 : ℤ) + res.amountToTake < 2 ^ 127 :=
    haward.minted .deposit
  have hsmall : Small received := by
    rw [Small]
    omega
  have hnet : toI128 received = (res.callerInterestsToTake.1 : ℤ) + res.amountToTake := by
    rw [toI128_of_small hsmall, ← hreceived, Nat.cast_add]
  have hr₁ : Small res.interestsToRepay.1 := hrepay.interest .deposit
  have hr₂ : Small res.interestsToRepay.2 := hrepay.interest .debt
  have ht₃ : Small res.interestsToTake.1 := htake.interest .deposit
  have ht₄ : Small res.interestsToTake.2 := htake.interest .debt
  have ha₂ : Small res.callerInterestsToTake.2 := haward.interest .debt
  rw [toI128_of_small hr₁] at h₂
  rw [overflowingSub_of_small hr₂ hrepay.amount] at h₃
  rw [overflowingSub_of_small ht₃ htake.amount, hnet] at h₄
  rw [toI128_of_small ht₄, toI128_of_small ha₂] at h₅
  rw [Small] at ht₃ ht₄ ha₂
  have hs₄ := emitAbacusTokenTransferEvents_shows (by omega) hsum h₄
  have hs₅ := emitAbacusTokenTransferEvents_shows (by omega) (by omega) h₅
  refine (((((Shows.of_events_eq (transferIn_events h₁)).trans
    (emitAbacusTokenTransferEvent_shows h₂)).trans
    (emitAbacusTokenTransferEvent_shows h₃)).trans hs₄).trans_shown hs₅ ?_)
  simp only [both, Side.change, Side.pick, Side.move, add_zero, zero_add, sub_eq_add_neg]
  abel

/-- When the events of a liquidation are right. -/
lemma liquidate_reconciled_iff {x toRepay toTake : AccountId}
    {amount minimum repaid taken : ℕ} (hl : w.Linked)
    (hfits : w.AmountsFit env (.liquidate x toRepay toTake amount minimum))
    (h : w.liquidate env x toRepay toTake amount minimum = .ok (w', repaid, taken)) :
    ∃ events, w'.events = w.events ++ events
      ∧ (Reconciled w w' events ↔ (env.caller = x →
        w.pool.LiquidatesSelfTrue env x toRepay toTake amount env.blockTimestamp)) := by
  obtain ⟨res, w₁, _, hres, -, -, -, -, h₁, hw'⟩ := liquidate_eq_ok h
  have hpool : w'.pool = res.storage := by
    rw [hw', emit_pool, (transferIn_frame h₁).1.pool]
    rfl
  obtain ⟨tokensToRepay, tokensToTake, hr, ht, events, hevents, hnet⟩ :=
    liquidate_shows hres (hfits res hres) h
  obtain ⟨r, rfl⟩ := LendingPoolStorage.accountForLiquidate_ok hres
  refine ⟨events, hevents, ?_⟩
  have hrepay := r.registeredRepay
  have htake := r.registeredTake
  -- what is shown at the tokens of an asset
  have hshown : ∀ asset k tokens, w.pool.assetToId.get asset = some k →
      w.pool.reserveAbacusTokens.get asset = some tokens → ∀ (side : Side) holder,
      netTransfers events (tokens.address side.kind) holder = r.moved side holder k := by
    intro asset k tokens hk hasset side holder
    have hrepaid : toRepay = asset ↔ k = r.repayId :=
      ⟨fun heq => Option.some.inj (hk.symm.trans (heq ▸ hrepay)),
        fun heq => hl.ids.inj _ _ _ hrepay (heq ▸ hk)⟩
    have htaken : toTake = asset ↔ k = r.k :=
      ⟨fun heq => Option.some.inj (hk.symm.trans (heq ▸ htake)),
        fun heq => hl.ids.inj _ _ _ htake (heq ▸ hk)⟩
    rw [hnet, Pi.add_apply, Pi.add_apply, Pi.add_apply, Pi.add_apply, both_address hl hr hasset,
      both_address hl ht hasset, both_address hl ht hasset, LendingPoolStorage.Liquidation.moved]
    simp only [hrepaid, htaken]
    rfl
  by_cases hself : env.caller = x
  · subst hself
    have hids := hl.ids
    simp only [forall_const]
    rw [← r.kept_iff hids, ← r.moved_self_iff]
    constructor
    · intro hrec side holder k
      have hat : ∀ asset tokens, w.pool.assetToId.get asset = some k →
          w.pool.reserveAbacusTokens.get asset = some tokens → r.moved side holder k
            = if k = r.k ∧ env.caller = holder then side.change r.award r.second.interests
              else 0 := by
        intro asset tokens hk hasset
        have heq := hrec asset k tokens hk hasset side holder
        rw [hshown asset k tokens hk hasset, hpool, r.change_self, add_sub_cancel_left] at heq
        exact heq
      by_cases hk : k = r.k
      · exact hat toTake tokensToTake (hk ▸ htake) ht
      · by_cases hk' : k = r.repayId
        · exact hat toRepay tokensToRepay (hk' ▸ hrepay) hr
        · simp only [LendingPoolStorage.Liquidation.moved, hk, hk', false_and, if_false, add_zero]
    · intro hmoved asset k tokens hk hasset side holder
      rw [hshown asset k tokens hk hasset, hmoved, hpool, r.change_self, add_sub_cancel_left]
  · refine iff_of_true (fun asset k tokens hk hasset side holder => ?_) fun heq => absurd heq hself
    rw [hshown asset k tokens hk hasset, hpool, r.change_of_ne hself, add_sub_cancel_left]

/-- **When the events reconcile with the positions.**  In every reachable state, a deposit,
withdrawal, borrow, repayment, list of actions or liquidation with amounts below `2 ^ 127` that
succeeds appends events which add up, for every token and account, to the change of the stored
position, if and only if

* of its actions the withdrawals, and the repayments, move on every asset as much as if each
  moved the amount of the first action of the list, and no withdrawal on behalf of another
  account goes beyond the interest accrued for it;
* as a liquidation, it is one of another account, or the amounts happen to be the interest. -/
theorem events_reconcile_iff {t : ℕ} {message : Message} (hreach : Reachable (fun _ => True) t w)
    (hm : message.userActions.isSome = true ∨ message.liquidates.isSome = true)
    (hfits : w.AmountsFit env message) (h : w.execute env message = .ok w') :
    ∃ events, w'.events = w.events ++ events
      ∧ (Reconciled w w' events ↔ w.EventsTrue env message) := by
  have hl := reachable_linked hreach
  cases hactions : message.userActions with
  | some p =>
      obtain ⟨account, actions⟩ := p
      have hne : ∀ x toRepay toTake amount minimum,
          message = .liquidate x toRepay toTake amount minimum → False := by
        rintro _ _ _ _ _ rfl
        cases hactions
      rw [AmountsFit.eq_2 w env message hne] at hfits
      rw [EventsTrue.eq_2 w env message hne]
      obtain ⟨events, hevents, hiff⟩ :=
        userActions_reconciled_iff hl hactions (hfits account actions hactions) h
      refine ⟨events, hevents, hiff.trans ⟨fun htrue account' actions' hm' => ?_, fun htrue =>
        htrue account actions hactions⟩⟩
      cases hactions.symm.trans hm'
      exact htrue
  | none =>
      cases message with
      | liquidate x toRepay toTake amount minimum =>
          simp only [execute, mapErr_eq_ok, bind_eq_ok, pure_eq, Except.ok.injEq] at h
          obtain ⟨⟨w₁, repaid, taken⟩, h, rfl⟩ := h
          exact liquidate_reconciled_iff hl hfits h
      | _ => simp [Message.userActions, Message.liquidates] at hm hactions

end

/-! ### Samples -/

attribute [local instance] Pendzl.exact in
/-- A list of a withdrawal of `100` and a deposit of `70` in another asset. -/
theorem events_reconcile_iff_list :
    ∃ (w w' : World) (events : List Event), Sample.world.run depositor = some w
      ∧ w.execute (Sample.env (Sample.account 3) 2)
          (.multiOp [⟨.withdraw, Sample.account 100, 100⟩, ⟨.deposit, Sample.account 101, 70⟩]
            (Sample.account 3)) = .ok w'
      ∧ w'.events = w.events ++ events ∧ Reconciled w w' events := by
  have hrun : (Sample.world.run depositor).map (fun w =>
        ((w.execute (Sample.env (Sample.account 3) 2)
          (.multiOp [⟨.withdraw, Sample.account 100, 100⟩, ⟨.deposit, Sample.account 101, 70⟩]
            (Sample.account 3))).isOk,
          w.settlementsOf (Sample.env (Sample.account 3) 2) (Sample.account 3)
            [⟨.withdraw, Sample.account 100, 100⟩, ⟨.deposit, Sample.account 101, 70⟩]))
      = some (true, [(⟨.withdraw, Sample.account 100, 100⟩, (0, 0)),
          (⟨.deposit, Sample.account 101, 70⟩, (0, 0))]) := by decide +kernel
  obtain ⟨w, hw, hreach, hv⟩ :=
    run_reaches (fun _ => True) Sample.world_isInitial (by decide) hrun
  obtain ⟨hok, hsettled⟩ := Prod.mk.inj hv
  obtain ⟨w', hw'⟩ := isOk_eq_true.mp hok
  have hfits : w.AmountsFit (Sample.env (Sample.account 3) 2)
      (.multiOp [⟨.withdraw, Sample.account 100, 100⟩, ⟨.deposit, Sample.account 101, 70⟩]
        (Sample.account 3)) := by
    intro account actions hm p hp
    cases hm
    rw [hsettled] at hp
    simp only [List.mem_cons, List.not_mem_nil, or_false] at hp
    rcases hp with rfl | rfl <;>
      refine ⟨by norm_num [Small], fun side => ?_, fun side => ?_⟩ <;>
        cases side <;> norm_num [Small, Side.pick, Side.change, Side.move]
  have htrue : w.EventsTrue (Sample.env (Sample.account 3) 2)
      (.multiOp [⟨.withdraw, Sample.account 100, 100⟩, ⟨.deposit, Sample.account 101, 70⟩]
        (Sample.account 3)) := by
    intro account actions hm
    cases hm
    rw [hsettled]
    exact ⟨fun asset => by simp [beyondFirst, firstAmount],
      fun asset => by simp [beyondFirst, firstAmount], fun hne => absurd rfl hne⟩
  obtain ⟨events, hevents, hiff⟩ := events_reconcile_iff hreach (.inl rfl) hfits hw'
  exact ⟨w, w', events, hw, hw', hevents, hiff.mpr htrue⟩

attribute [local instance] Pendzl.exact in
/-- **A withdrawal on behalf of another account is shown as `2 ^ 128 - 300`** when it is one of
`300`: the account keeps `100` of its `400`. -/
theorem withdraw_event_wraps :
    ∃ w w', Reachable (fun _ => True) 1 w
      ∧ w.AmountsFit (Sample.env (Sample.account 5) 2)
          (.withdraw (Sample.account 100) (Sample.account 3) 300)
      ∧ w.execute (Sample.env (Sample.account 5) 2)
          (.withdraw (Sample.account 100) (Sample.account 3) 300) = .ok w'
      ∧ ∀ events, w'.events = w.events ++ events → ¬Reconciled w w' events := by
  have hrun : (Sample.world.run (depositor ++ [
        Sample.send 3 1 fun _ => .approve (Sample.account 1100) (Sample.account 5) 500])).map
      (fun w => (w.settlementsOf (Sample.env (Sample.account 5) 2) (Sample.account 3)
            [⟨.withdraw, Sample.account 100, 300⟩],
          w.pool.assetToId.get (Sample.account 100),
          (w.pool.reserveAbacusTokens.get (Sample.account 100)).map fun tokens =>
            tokens.address .aToken))
      = some ([(⟨.withdraw, Sample.account 100, 300⟩, (0, 0))], some 0,
          some (Sample.account 1100)) := by decide +kernel
  have hmoves : (Sample.world.run (depositor ++ [
        Sample.send 3 1 fun _ => .approve (Sample.account 1100) (Sample.account 5) 500])).map
      (fun w => (w.execute (Sample.env (Sample.account 5) 2)
          (.withdraw (Sample.account 100) (Sample.account 3) 300)).toOption.map fun w' =>
        (netTransfers (w'.events.drop w.events.length) (Sample.account 1100) (Sample.account 3),
          (w.pool.position (Sample.account 3) 0).deposit,
          (w'.pool.position (Sample.account 3) 0).deposit))
      = some (some (300 - 2 ^ 128, 400, 100)) := by decide +kernel
  obtain ⟨w, hw, hreach, hv⟩ :=
    run_reaches (fun _ => True) Sample.world_isInitial (by decide) hrun
  rw [hw, Option.map_some, Option.some.injEq] at hmoves
  simp only [Prod.mk.injEq] at hv
  obtain ⟨hsettled, hk, htokens⟩ := hv
  obtain ⟨w', hw', hv⟩ := Option.map_eq_some_iff.mp hmoves
  obtain ⟨tokens, ht, haddress⟩ := Option.map_eq_some_iff.mp htokens
  simp only [Prod.mk.injEq] at hv
  obtain ⟨hnet, hbefore, hleft⟩ := hv
  refine ⟨w, w', hreach, fun account actions hm p hp => ?_, toOption_eq_some.mp hw',
    fun events hevents hrec => ?_⟩
  · cases hm
    rw [hsettled, List.mem_singleton] at hp
    subst hp
    refine ⟨by norm_num [Small], fun side => ?_, fun side => ?_⟩ <;>
      cases side <;> norm_num [Small, Side.pick, Side.change, Side.move]
  · -- the deposit falls by `300`
    have heq := hrec _ _ tokens hk ht .deposit (Sample.account 3)
    have hshown : netTransfers events (tokens.address .aToken) (Sample.account 3)
        = 300 - 2 ^ 128 := by
      rw [haddress, ← hnet, hevents, List.drop_left]
    have hmoved : (Side.deposit.amount (w'.pool.position (Sample.account 3) 0) : ℤ)
        - Side.deposit.amount (w.pool.position (Sample.account 3) 0) = -300 := by
      simp only [Side.amount, hbefore, hleft]
      norm_num
    rw [hmoved] at heq
    have hwrong : (300 - 2 ^ 128 : ℤ) = -300 := hshown.symm.trans heq
    norm_num at hwrong

end World

end AbaxLending
