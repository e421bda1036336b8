import AbaxLending.Effects.Allowances

/-!
What the `Transfer` events of the abacus tokens show.

The pool shows an account the interest and the amount of a message as one event: the net
amount, computed as an `i128` and split by its sign.

* `sumTo`, `sumFrom`: the values of the events to and from an account;
* `Shows`: the events between two worlds, token by token and account by account;
* `emitAbacusTokenTransferEvent_shows` and its two siblings: as long as the amounts are
  below `2 ^ 127` the events show the net amount, except that the helper that charges an
  allowance casts a negative net amount to `u128` as it stands (`chargedNet`);
* `settleActions_shows`: what the loop of `multi_op` shows for a list of actions.
-/

namespace AbaxLending

open Outcome

/-! ### `i128` amounts -/

/-- The amounts that an `i128` holds. -/
def Small (n : ℕ) : Prop := n < 2 ^ 127

section

variable {m n : ℕ} {x : ℤ}

lemma toI128_of_small (h : Small n) : toI128 n = n := by
  rw [Small] at h
  have hfits : (n : ℤ).bmod (2 ^ 128) = n := by
    rw [Int.bmod_def]
    push_cast
    split_ifs <;> omega
  exact hfits

/-- The difference of two small amounts does not wrap. -/
lemma overflowingSub_of_small (hm : Small m) (hn : Small n) :
    overflowingSub (toI128 m) (toI128 n) = (m : ℤ) - n := by
  rw [toI128_of_small hm, toI128_of_small hn]
  rw [Small] at hm hn
  have hfits : ((m : ℤ) - n).bmod (2 ^ 128) = m - n := by
    rw [Int.bmod_def]
    push_cast
    split_ifs <;> omega
  exact hfits

lemma toU128_of_nonneg (h : 0 ≤ x) (hx : x < 2 ^ 127) : (toU128 x : ℤ) = x := by
  rw [toU128]
  omega

/-- A negative amount cast to `u128` wraps. -/
lemma toU128_of_neg (h : x < 0) (hx : -2 ^ 127 < x) : (toU128 x : ℤ) = 2 ^ 128 + x := by
  rw [toU128]
  omega

lemma negToU128_eq_ok {ε : Type} (h : (negToU128 x : Comp ε ℕ) = .ok n) : (n : ℤ) = -x := by
  simp only [negToU128, bind_eq_ok, trapIf_eq_ok, pure_eq, Except.ok.injEq] at h
  obtain ⟨_, hx, rfl⟩ := h
  omega

end

/-! ### Sums of events -/

/-- The value that an event moves to an account at a token. -/
def Event.valueTo (token account : AccountId) : Event → ℕ
  | .transfer token' _ toAccount value =>
      if token' = token ∧ toAccount = some account then value else 0
  | .approval .. => 0

/-- The value that an event moves from an account at a token. -/
def Event.valueFrom (token account : AccountId) : Event → ℕ
  | .transfer token' fromAccount _ value =>
      if token' = token ∧ fromAccount = some account then value else 0
  | .approval .. => 0

/-- The values of the `Transfer` events of a token to an account. -/
def sumTo (events : List Event) (token account : AccountId) : ℕ :=
  (events.map (Event.valueTo token account)).sum

/-- The values of the `Transfer` events of a token from an account. -/
def sumFrom (events : List Event) (token account : AccountId) : ℕ :=
  (events.map (Event.valueFrom token account)).sum

/-- What the events of a token show to have come to an account on balance. -/
def netTransfers (events : List Event) (token account : AccountId) : ℤ :=
  (sumTo events token account : ℤ) - sumFrom events token account

section

variable {event : Event} {events events' : List Event} {token account : AccountId}

@[simp] lemma netTransfers_nil : netTransfers [] token account = 0 := rfl

@[simp] lemma netTransfers_cons : netTransfers (event :: events) token account
    = (event.valueTo token account - event.valueFrom token account)
      + netTransfers events token account := by
  simp only [netTransfers, sumTo, sumFrom, List.map_cons, List.sum_cons]
  push_cast
  ring

@[simp] lemma netTransfers_append : netTransfers (events ++ events') token account
    = netTransfers events token account + netTransfers events' token account := by
  simp only [netTransfers, sumTo, sumFrom, List.map_append, List.sum_append]
  push_cast
  ring

/-- What event data shows of one account. -/
def TransferEventData.netAt (account : AccountId) (data : TransferEventData) : ℤ :=
  (if data.toAccount = some account then data.amount else 0 : ℤ)
    - if data.fromAccount = some account then data.amount else 0

lemma netAt_minted (account holder : AccountId) (n : ℕ) :
    TransferEventData.netAt holder ⟨none, some account, n⟩
      = if account = holder then (n : ℤ) else 0 := by
  simp [TransferEventData.netAt]

lemma netAt_burnt (account holder : AccountId) (n : ℕ) :
    TransferEventData.netAt holder ⟨some account, none, n⟩
      = if account = holder then -(n : ℤ) else 0 := by
  simp only [TransferEventData.netAt, reduceCtorEq, if_false, Option.some.injEq]
  split_ifs <;> ring

/-- The events of a token show the data they were made of; what was dropped was zero. -/
lemma netTransfers_transferEvents (address token account : AccountId)
    (data : List TransferEventData) :
    netTransfers (transferEvents address data) token account
      = if address = token then (data.map (TransferEventData.netAt account)).sum else 0 := by
  induction data with
  | nil => simp [transferEvents]
  | cons head rest ih =>
      have hcons : netTransfers (transferEvents address (head :: rest)) token account
          = (if address = token then head.netAt account else 0)
            + netTransfers (transferEvents address rest) token account := by
        rw [transferEvents, List.filter_cons]
        by_cases hzero : head.amount = 0
        · have hat : head.netAt account = 0 := by simp [TransferEventData.netAt, hzero]
          rw [if_neg (by simpa using hzero), hat, ite_self, zero_add, transferEvents]
        · rw [if_pos (by simpa using hzero), List.map_cons, netTransfers_cons, transferEvents]
          by_cases ht : address = token <;>
            simp [Event.valueTo, Event.valueFrom, TransferEventData.netAt, ht]
      rw [hcons, ih, List.map_cons, List.sum_cons]
      split_ifs <;> simp

end

/-! ### What is shown between two worlds -/

/-- An amount at one account of one token, and nothing elsewhere. -/
def only (address account : AccountId) (n : ℤ) (token holder : AccountId) : ℤ :=
  if address = token ∧ account = holder then n else 0

/-- What the helper that charges an allowance shows: to a spender other than the account it
shows a negative amount as the `u128` of the same bits. -/
def chargedNet (spender account : AccountId) (n : ℤ) : ℤ :=
  if spender = account ∨ 0 ≤ n then n else -(2 ^ 128 + n)

lemma chargedNet_of_sign {spender account : AccountId} {n : ℤ} (h : spender = account ∨ 0 ≤ n) :
    chargedNet spender account n = n := if_pos h

lemma chargedNet_of_neg {spender account : AccountId} {n : ℤ} (hs : spender ≠ account) (h : n < 0) :
    chargedNet spender account n = -(2 ^ 128 + n) :=
  if_neg (not_or.mpr ⟨hs, not_le.mpr h⟩)

namespace World

/-- The events between two worlds show, on balance, these amounts. -/
def Shows (w w' : World) (shown : AccountId → AccountId → ℤ) : Prop :=
  ∃ events, w'.events = w.events ++ events
    ∧ ∀ token holder, netTransfers events token holder = shown token holder

section

variable {w w₁ w' : World} {env : Env} {shown shown' : AccountId → AccountId → ℤ}
  {address account spender : AccountId} {n : ℤ} {amount : ℕ}

/-- Nothing is shown when no events were emitted. -/
lemma Shows.of_events_eq (h : w'.events = w.events) : Shows w w' 0 :=
  ⟨[], by rw [h, List.append_nil], fun _ _ => rfl⟩

lemma Shows.trans (h : Shows w w₁ shown) (h' : Shows w₁ w' shown') :
    Shows w w' (shown + shown') := by
  obtain ⟨events, hevents, hnet⟩ := h
  obtain ⟨events', hevents', hnet'⟩ := h'
  refine ⟨events ++ events', by rw [hevents', hevents, List.append_assoc], fun token holder => ?_⟩
  rw [netTransfers_append, hnet, hnet']
  rfl

/-- What is shown in two steps, added up. -/
lemma Shows.trans_shown {total : AccountId → AccountId → ℤ} (h : Shows w w₁ shown)
    (h' : Shows w₁ w' shown') (heq : shown + shown' = total) : Shows w w' total :=
  heq ▸ h.trans h'

/-- A call to an underlying token emits no event of an abacus token. -/
lemma invoke_events {asset : AccountId} {call : PSP22Call}
    (h : w.invoke env asset call = .ok w') : w'.events = w.events := by
  obtain ⟨_, _, rfl⟩ := invoke_ok h
  rfl

lemma transferIn_events {asset : AccountId} (h : w.transferIn env asset account amount = .ok w') :
    w'.events = w.events := by
  obtain ⟨_, _, h⟩ := transferIn_ok h
  exact invoke_events h

lemma transferOut_events {asset : AccountId}
    (h : w.transferOut env asset account amount = .ok w') : w'.events = w.events := by
  obtain ⟨_, _, h⟩ := transferOut_ok h
  exact invoke_events h

/-- Event data of one account shows its amount at the account. -/
lemma emit_shows {data : TransferEventData}
    (h : ∀ holder, data.netAt holder = if account = holder then n else 0) :
    Shows w (w.emit (transferEvents address [data])) (only address account n) := by
  refine ⟨_, rfl, fun token holder => ?_⟩
  rw [netTransfers_transferEvents, List.map_singleton, List.sum_singleton, h, only]
  by_cases ht : address = token <;> simp [ht]

/-- The pool shows one account an amount, whatever its sign. -/
lemma emitAbacusTokenTransferEvent_shows
    (h : w.emitAbacusTokenTransferEvent address account n = .ok w') :
    Shows w w' (only address account n) := by
  simp only [emitAbacusTokenTransferEvent, mapErr_eq_ok] at h
  split_ifs at h with hpos hneg
  · rw [emitTransferEvents_ok h]
    refine emit_shows fun holder => ?_
    rw [netAt_minted, Int.toNat_of_nonneg hpos.le]
  · simp only [bind_eq_ok] at h
    obtain ⟨m, hm, h⟩ := h
    rw [emitTransferEvents_ok h]
    refine emit_shows fun holder => ?_
    rw [netAt_burnt, negToU128_eq_ok hm, neg_neg]
  · simp only [Except.ok.injEq] at h
    have hzero : n = 0 := by omega
    refine ⟨[], by rw [h, List.append_nil], fun token holder => ?_⟩
    rw [hzero, only, ite_self, netTransfers_nil]

/-- The approval that follows an event shows nothing. -/
lemma approveFromTo_shows {token : AbacusToken} {owner : AccountId} :
    Shows w (w.approveFromTo address token owner spender amount) 0 :=
  ⟨_, rfl, fun _ _ => rfl⟩

/-- The pool shows one account an amount, and charges an allowance. -/
lemma emitAbacusTokenTransferEventAndDecreaseAllowance_shows (hn : n < 2 ^ 127)
    (hn' : -2 ^ 127 < n)
    (h : w.emitAbacusTokenTransferEventAndDecreaseAllowance address account n spender amount
      = .ok w') :
    Shows w w' (only address account (chargedNet spender account n)) := by
  rw [emitAbacusTokenTransferEventAndDecreaseAllowance] at h
  by_cases hs : spender = account
  · rw [if_pos hs] at h
    rw [chargedNet_of_sign (.inl hs)]
    exact emitAbacusTokenTransferEvent_shows h
  · simp only [if_neg hs, mapErr_eq_ok] at h
    obtain ⟨token, -, -, rfl⟩ := emitTransferEventAndDecreaseAllowance_ok h
    rw [← add_zero (only _ _ _)]
    refine Shows.trans (emit_shows fun holder => ?_) approveFromTo_shows
    by_cases hpos : 0 < n
    · rw [if_pos hpos, netAt_minted, toU128_of_nonneg hpos.le hn, chargedNet_of_sign (.inr hpos.le)]
    · rw [if_neg hpos, netAt_burnt]
      by_cases hzero : n = 0
      · rw [chargedNet_of_sign (.inr hzero.ge), toU128_of_nonneg hzero.ge hn, hzero, neg_zero]
      · have hneg : n < 0 := by omega
        rw [chargedNet_of_neg hs hneg, toU128_of_neg hneg hn']

/-- One event of a list that the pool shows. -/
lemma simplifiedEvent_netAt {data : TransferEventData} (hn : n < 2 ^ 127)
    (h : simplifiedEvent account n = .ok data) (holder : AccountId) :
    data.netAt holder = if account = holder then n else 0 := by
  rw [simplifiedEvent] at h
  split_ifs at h with hpos
  · simp only [Except.ok.injEq] at h
    rw [← h, netAt_minted, toU128_of_nonneg hpos.le hn]
  · simp only [bind_eq_ok, pure_eq, Except.ok.injEq] at h
    obtain ⟨m, hm, rfl⟩ := h
    rw [netAt_burnt, negToU128_eq_ok hm, neg_neg]

/-- The pool shows two accounts an amount each. -/
lemma emitAbacusTokenTransferEvents_shows {account' : AccountId} {n' : ℤ} (hn : n < 2 ^ 127)
    (hn' : n' < 2 ^ 127)
    (h : w.emitAbacusTokenTransferEvents address [(account, n), (account', n')] = .ok w') :
    Shows w w' (only address account n + only address account' n') := by
  simp only [emitAbacusTokenTransferEvents, mapErr_eq_ok, List.mapM_cons, List.mapM_nil,
    bind_eq_ok, pure_eq, Except.ok.injEq] at h
  obtain ⟨_, ⟨data, hdata, _, ⟨data', hdata', _, rfl, rfl⟩, rfl⟩, h⟩ := h
  rw [emitTransferEvents_ok h]
  refine ⟨_, rfl, fun token holder => ?_⟩
  have hfirst := simplifiedEvent_netAt hn hdata holder
  have hsecond := simplifiedEvent_netAt hn' hdata' holder
  simp only [netTransfers_transferEvents, List.map_cons, List.map_nil, List.sum_cons,
    List.sum_nil, add_zero, hfirst, hsecond, Pi.add_apply, only]
  by_cases ht : address = token <;> simp [ht]

end

end World

/-! ### Actions with their interests -/

namespace Side

/-- The token that shows a side. -/
def kind : Side → TokenKind
  | .deposit => .aToken
  | .debt => .vToken

/-- The interest of a pair that belongs to a side. -/
def pick : Side → ℕ × ℕ → ℕ
  | .deposit => Prod.fst
  | .debt => Prod.snd

/-- By how much an operation moves a side. -/
def move : Side → Operation → ℕ → ℤ
  | .deposit, .deposit, amount => amount
  | .deposit, .withdraw, amount => -amount
  | .debt, .borrow, amount => amount
  | .debt, .repay, amount => -amount
  | _, _, _ => 0

/-- By how much an action moves a side, together with the interest accrued for it. -/
def change (side : Side) (action : Action) (interests : ℕ × ℕ) : ℤ :=
  side.pick interests + side.move action.op action.amount

/-- What the loop of `multi_op` shows for an action: a withdrawal or a repayment counts with
the amount of the first action, and a withdrawal goes through the helper that charges an
allowance. -/
def shown (side : Side) (spender account : AccountId) (firstAmount : ℕ) (action : Action)
    (interests : ℕ × ℕ) : ℤ :=
  let net := side.pick interests + side.move action.op (action.charge firstAmount)
  match side, action.op with
  | .deposit, .withdraw => chargedNet spender account net
  | _, _ => net

end Side

/-- The amounts of an action and of its interests are below `2 ^ 127`, and so is what is
minted for both of them. -/
structure Action.Fits (action : Action) (interests : ℕ × ℕ) : Prop where
  amount : Small action.amount
  interest : ∀ side : Side, Small (side.pick interests)
  minted : ∀ side : Side, side.change action interests < 2 ^ 127

/-- The sum of a value over the actions on an asset. -/
def sumOn (asset : AccountId) (f : Action → ℕ × ℕ → ℤ) (l : List (Action × (ℕ × ℕ))) : ℤ :=
  (l.map fun p => if p.1.asset = asset then f p.1 p.2 else 0).sum

@[simp] lemma sumOn_nil (asset : AccountId) (f : Action → ℕ × ℕ → ℤ) : sumOn asset f [] = 0 := rfl

@[simp] lemma sumOn_cons (asset : AccountId) (f : Action → ℕ × ℕ → ℤ)
    (p : Action × (ℕ × ℕ)) (l : List (Action × (ℕ × ℕ))) :
    sumOn asset f (p :: l) = (if p.1.asset = asset then f p.1 p.2 else 0) + sumOn asset f l := rfl

namespace World

variable {w w' : World} {env : Env} {onBehalfOf : AccountId} {first : ℕ}

/-- An amount for each side of an asset, at its two tokens. -/
def both (tokens : ReserveAbacusTokens) (account : AccountId) (f : Side → ℤ) :
    AccountId → AccountId → ℤ :=
  only tokens.aTokenAddress account (f .deposit) + only tokens.vTokenAddress account (f .debt)

/-- The tokens of an asset show what is shown of it. -/
lemma both_address {asset asset' account holder : AccountId} {tokens tokens' : ReserveAbacusTokens}
    {f : Side → ℤ} (hl : w.Linked) (ht' : w.pool.reserveAbacusTokens.get asset' = some tokens')
    (ht : w.pool.reserveAbacusTokens.get asset = some tokens) (side : Side) :
    both tokens' account f (tokens.address side.kind) holder
      = if asset' = asset ∧ account = holder then f side else 0 := by
  have haddress : ∀ kind, tokens'.address kind = tokens.address side.kind
      ↔ kind = side.kind ∧ asset' = asset := by
    intro kind
    constructor
    · exact fun heq => hl.address_inj ht' ht heq
    · rintro ⟨rfl, rfl⟩
      cases ht.symm.trans ht'
      rfl
  have ha : tokens'.aTokenAddress = tokens.address side.kind
      ↔ TokenKind.aToken = side.kind ∧ asset' = asset := haddress .aToken
  have hv : tokens'.vTokenAddress = tokens.address side.kind
      ↔ TokenKind.vToken = side.kind ∧ asset' = asset := haddress .vToken
  simp only [both, Pi.add_apply, only, ha, hv]
  cases side <;> simp [Side.kind]

/-- **The step lemma of the events**: the loop shows the account one amount at each of the
two tokens of the asset. -/
lemma settleAction_shows {action : Action} {interests : ℕ × ℕ} {tokens : ReserveAbacusTokens}
    (hfirst : Small first) (hfits : action.Fits interests)
    (ht : w.pool.reserveAbacusTokens.get action.asset = some tokens)
    (h : w.settleAction env onBehalfOf first action interests = .ok w') :
    Shows w w' (both tokens onBehalfOf fun side =>
      side.shown env.caller onBehalfOf first action interests) := by
  obtain ⟨op, asset, amount⟩ := action
  have hd : Small interests.1 := hfits.interest .deposit
  have hb : Small interests.2 := hfits.interest .debt
  simp only [settleAction, bind_eq_ok, unwrap_eq_ok] at h
  obtain ⟨tokens', ht', h⟩ := h
  cases ht.symm.trans ht'
  cases op with
  | deposit =>
      simp only [bind_eq_ok, okOr_eq_ok, checkedAdd_eq_some] at h
      obtain ⟨w₁, h₁, minted, ⟨hminted, -⟩, w₂, h₂, h₃⟩ := h
      have hsum : (interests.1 : ℤ) + amount < 2 ^ 127 := hfits.minted .deposit
      have hsmall : Small minted := by
        rw [Small]
        omega
      have hnet : toI128 minted = (interests.1 : ℤ) + amount := by
        rw [toI128_of_small hsmall, ← hminted, Nat.cast_add]
      have hd' := emitAbacusTokenTransferEvent_shows h₂
      have hb' := emitAbacusTokenTransferEvent_shows h₃
      rw [hnet] at hd'
      rw [toI128_of_small hb] at hb'
      exact (Shows.of_events_eq (transferIn_events h₁)).trans_shown (hd'.trans hb') (by
        simp only [both, zero_add, Side.shown, Side.pick, Side.move, Action.charge, add_zero])
  | withdraw =>
      simp only [bind_eq_ok] at h
      obtain ⟨w₁, h₁, w₂, h₂, h₃⟩ := h
      rw [overflowingSub_of_small hd hfirst] at h₂
      rw [Small] at hd hfirst
      have hd' := emitAbacusTokenTransferEventAndDecreaseAllowance_shows (by omega) (by omega) h₂
      have hb' := emitAbacusTokenTransferEvent_shows h₃
      rw [toI128_of_small hb] at hb'
      exact (Shows.of_events_eq (transferOut_events h₁)).trans_shown (hd'.trans hb') (by
        simp only [both, zero_add, Side.shown, Side.pick, Side.move, Action.charge, add_zero,
          sub_eq_add_neg])
  | borrow =>
      simp only [bind_eq_ok, okOr_eq_ok, checkedAdd_eq_some] at h
      obtain ⟨w₁, h₁, w₂, h₂, minted, ⟨hminted, -⟩, h₃⟩ := h
      have hsum : (interests.2 : ℤ) + amount < 2 ^ 127 := hfits.minted .debt
      have hsmall : Small minted := by
        rw [Small]
        omega
      have hnet : toI128 minted = (interests.2 : ℤ) + amount := by
        rw [toI128_of_small hsmall, ← hminted, Nat.cast_add]
      rw [hnet] at h₃
      have hd' := emitAbacusTokenTransferEvent_shows h₂
      have hb' := emitAbacusTokenTransferEventAndDecreaseAllowance_shows hsum (by omega) h₃
      rw [chargedNet_of_sign (.inr (by omega))] at hb'
      rw [toI128_of_small hd] at hd'
      exact (Shows.of_events_eq (transferOut_events h₁)).trans_shown (hd'.trans hb') (by
        simp only [both, zero_add, Side.shown, Side.pick, Side.move, Action.charge, add_zero])
  | repay =>
      simp only [bind_eq_ok] at h
      obtain ⟨w₁, h₁, w₂, h₂, h₃⟩ := h
      have hd' := emitAbacusTokenTransferEvent_shows h₂
      have hb' := emitAbacusTokenTransferEvent_shows h₃
      rw [toI128_of_small hd] at hd'
      rw [overflowingSub_of_small hb hfirst] at hb'
      exact (Shows.of_events_eq (transferIn_events h₁)).trans_shown (hd'.trans hb') (by
        simp only [both, zero_add, Side.shown, Side.pick, Side.move, Action.charge, add_zero,
          sub_eq_add_neg])

/-- **The run lemma of the events**: at the token of a side of an asset the loop shows the
account the sum over the actions on that asset, and it shows nobody else anything. -/
lemma settleActions_shows {l : List (Action × (ℕ × ℕ))} (hl : w.Linked) (hfirst : Small first)
    (hfits : ∀ p ∈ l, p.1.Fits p.2)
    (h : w.settleActions env onBehalfOf first l = .ok w') :
    ∃ shown, Shows w w' shown ∧ ∀ asset tokens, w.pool.reserveAbacusTokens.get asset = some tokens →
      ∀ (side : Side) holder, shown (tokens.address side.kind) holder
        = if onBehalfOf = holder then
            sumOn asset (side.shown env.caller onBehalfOf first) l else 0 := by
  induction l generalizing w with
  | nil =>
      simp only [settleActions, Except.ok.injEq] at h
      exact ⟨0, .of_events_eq (by rw [h]), fun _ _ _ _ _ => by simp⟩
  | cons head rest ih =>
      obtain ⟨action, interests⟩ := head
      obtain ⟨tokens', ht'⟩ := settleActions_tokens h action (by simp)
      simp only [settleActions, bind_eq_ok] at h
      obtain ⟨w₁, h₁, h₂⟩ := h
      have hkeep := settleAction_keeps h₁
      have hl₁ : w₁.Linked := hl.keeps (hkeep.pool ▸ ⟨rfl, rfl, rfl⟩) (hkeep.stays rfl rfl)
      have hhead := settleAction_shows hfirst (hfits _ (List.mem_cons_self ..)) ht' h₁
      obtain ⟨shown, hshows, hshown⟩ := ih hl₁ (fun p hp => hfits p (List.mem_cons_of_mem _ hp)) h₂
      refine ⟨_, hhead.trans hshows, fun asset tokens ht side holder => ?_⟩
      have hrest := hshown asset tokens (hkeep.pool.symm ▸ ht) side holder
      rw [Pi.add_apply, Pi.add_apply, both_address hl ht' ht, hrest, sumOn_cons]
      by_cases hholder : onBehalfOf = holder <;> simp [hholder]

end World

end AbaxLending
