import AbaxLending.Effects.Consent
import AbaxLending.Lib.LastWrite
import AbaxLending.Spec.Replays

/-!
The allowances of the abacus tokens and the events that announce them.

Allowances are spent by messages to the pool and by transfers, and given by the messages of
the tokens.  Somebody who follows the `Approval` events knows every allowance.

* `Spends`: a part of a message that gives no allowance, and takes back only what it announces;
* `execute_allowance`: what one message can do to an allowance;
* `allowances_announced`: after every run each allowance is the value of its last `Approval`
  event, and one that is not zero was given by its owner.
-/

namespace AbaxLending

open Outcome

/-- The allowance that an event announces. -/
def Event.approves (token owner spender : AccountId) : Event → Option ℕ
  | .approval token' owner' spender' value =>
      if token' = token ∧ owner' = owner ∧ spender' = spender then some value else none
  | .transfer .. => none

/-- The token and the spender of a message that sets an allowance of its caller. -/
def Message.approval : Message → Option (AccountId × AccountId)
  | .approve token spender _ | .increaseAllowance token spender _
  | .decreaseAllowance token spender _ => some (token, spender)
  | _ => none

namespace World

variable {w w₁ w' : World} {env : Env} {spender account token asset : AccountId} {amount : ℕ}
  {net : ℤ}

/-- What happens to the allowances is announced. -/
def Announces (w w' : World) : Prop :=
  ∃ events, w'.events = w.events ++ events ∧ ∀ t o s,
    w'.allowance t o s = lastWrite (Event.approves t o s) (w.allowance t o s) events

/-- Every abacus token belongs to the pool. -/
def OwnTokens (w : World) : Prop :=
  ∀ address token, w.tokens.get address = some token → token.lendingPool = w.poolAddress

/-- Allowances are only spent, and only those given to one spender, and this is announced.  No
token of another pool turns up. -/
structure Spends (spender : AccountId) (w w' : World) : Prop where
  announces : Announces w w'
  le : ∀ t o s, w'.allowance t o s ≤ w.allowance t o s
  others : ∀ t o s, s ≠ spender → w'.allowance t o s = w.allowance t o s
  own : w.OwnTokens → w'.OwnTokens

lemma Announces.trans (h : Announces w w₁) (h' : Announces w₁ w') : Announces w w' := by
  obtain ⟨events, hevents, hallowance⟩ := h
  obtain ⟨events', hevents', hallowance'⟩ := h'
  refine ⟨events ++ events', by rw [hevents', hevents, List.append_assoc], fun t o s => ?_⟩
  rw [hallowance', hallowance, lastWrite_append]

/-- No allowance changes, and no approval is announced. -/
lemma Spends.of_silent (events : List Event) (hevents : w'.events = w.events ++ events)
    (hsilent : ∀ t o s, ∀ e ∈ events, e.approves t o s = none)
    (hallowance : ∀ t o s, w'.allowance t o s = w.allowance t o s)
    (hown : w.OwnTokens → w'.OwnTokens) : Spends spender w w' := by
  refine ⟨⟨events, hevents, fun t o s => ?_⟩, fun t o s => (hallowance t o s).le,
    fun t o s _ => hallowance t o s, hown⟩
  rw [hallowance, lastWrite_of_silent (hsilent t o s)]

/-- The tokens stay with their pools when only one of them is written, and its pool is kept. -/
lemma OwnTokens.insert {t : AbacusToken} (h : w.OwnTokens) (hpool : w'.poolAddress = w.poolAddress)
    (htokens : w'.tokens = w.tokens.insert token t) (ht : t.lendingPool = w.poolAddress) :
    w'.OwnTokens := by
  intro address t' ht'
  rw [htokens, Mapping.get_insert] at ht'
  rw [hpool]
  split_ifs at ht' with ha
  · rw [← Option.some.inj ht', ht]
  · exact h address t' ht'

/-- Only the address of the pool, the tokens and the events matter. -/
lemma Spends.of_eq (hpool : w'.poolAddress = w.poolAddress) (htokens : w'.tokens = w.tokens)
    (hevents : w'.events = w.events) : Spends spender w w' := by
  refine .of_silent [] (by rw [hevents, List.append_nil]) (fun _ _ _ => nofun) ?_ ?_
  · intro t o s
    rw [allowance, htokens, allowance]
  · intro h
    rw [OwnTokens, htokens, hpool]
    exact h

lemma Spends.refl (w : World) : Spends spender w w := .of_eq rfl rfl rfl

lemma Spends.trans (h : Spends spender w w₁) (h' : Spends spender w₁ w') :
    Spends spender w w' where
  announces := h.announces.trans h'.announces
  le t o s := (h'.le t o s).trans (h.le t o s)
  others t o s hs := (h'.others t o s hs).trans (h.others t o s hs)
  own hw := h'.own (h.own hw)

/-! ### Parts of the messages -/

/-- Setting an allowance announces it. -/
lemma approveFromTo_announces {t : AbacusToken} {owner : AccountId}
    (ht : w.tokens.get token = some t) :
    Announces w (w.approveFromTo token t owner spender amount) := by
  refine ⟨[.approval token owner spender amount], rfl, fun a o s => ?_⟩
  rw [approveFromTo_allowance ht]
  change _ = (if token = a ∧ owner = o ∧ spender = s then some amount else none).getD _
  by_cases h : token = a ∧ owner = o ∧ spender = s
  · obtain ⟨rfl, rfl, rfl⟩ := h
    simp
  · rw [if_neg h, if_neg fun h' => h ⟨h'.1.symm, h'.2.1.symm, h'.2.2.symm⟩]
    rfl

/-- Setting an allowance leaves the token with its pool. -/
lemma approveFromTo_ownTokens {t : AbacusToken} {owner : AccountId}
    (ht : w.tokens.get token = some t) (h : w.OwnTokens) :
    (w.approveFromTo token t owner spender amount).OwnTokens :=
  h.insert rfl rfl (h token t ht)

/-- Lowering an allowance spends it. -/
lemma approveFromTo_spends {t : AbacusToken} {owner : AccountId}
    (ht : w.tokens.get token = some t) (hle : amount ≤ t.allowance owner spender) :
    Spends spender w (w.approveFromTo token t owner spender amount) := by
  refine ⟨approveFromTo_announces ht, fun a o s => ?_, fun a o s hs => ?_,
    approveFromTo_ownTokens ht⟩
  · rw [approveFromTo_allowance ht]
    split_ifs with h
    · obtain ⟨rfl, rfl, rfl⟩ := h
      rw [allowance_of_get ht]
      exact hle
    · exact le_refl _
  · rw [approveFromTo_allowance ht, if_neg fun h => hs h.2.2]

/-- `Transfer` events announce no allowance. -/
lemma emit_spends (w : World) (token : AccountId) (data : List TransferEventData) :
    Spends spender w (w.emit (transferEvents token data)) := by
  refine .of_silent _ rfl (fun t o s e he => ?_) (fun t o s => rfl) fun h => h
  obtain ⟨x, -, rfl⟩ := List.mem_map.mp he
  rfl

lemma emitTransferEvents_spends {data : List TransferEventData}
    (h : w.emitTransferEvents token data = .ok w') : Spends spender w w' := by
  rw [emitTransferEvents_ok h]
  exact emit_spends w token data

lemma emitAbacusTokenTransferEvent_spends
    (h : w.emitAbacusTokenTransferEvent token account net = .ok w') : Spends spender w w' := by
  simp only [emitAbacusTokenTransferEvent, mapErr_eq_ok] at h
  split_ifs at h
  · exact emitTransferEvents_spends h
  · simp only [bind_eq_ok] at h
    obtain ⟨_, _, h⟩ := h
    exact emitTransferEvents_spends h
  · simp only [Except.ok.injEq] at h
    exact h ▸ .refl w

lemma emitAbacusTokenTransferEvents_spends {data : List (AccountId × ℤ)}
    (h : w.emitAbacusTokenTransferEvents token data = .ok w') : Spends spender w w' := by
  simp only [emitAbacusTokenTransferEvents, mapErr_eq_ok, bind_eq_ok] at h
  obtain ⟨_, _, h⟩ := h
  exact emitTransferEvents_spends h

lemma decreaseAllowanceFromTo_spends {t : AbacusToken} {owner : AccountId}
    (ht : w.tokens.get token = some t)
    (h : w.decreaseAllowanceFromTo token t owner spender amount = .ok w') :
    Spends spender w w' := by
  simp only [decreaseAllowanceFromTo, bind_eq_ok, okOr_eq_ok, checkedSub_eq_some, pure_eq,
    Except.ok.injEq] at h
  obtain ⟨rest, hrest, rfl⟩ := h
  exact approveFromTo_spends ht (by omega)

lemma emitAbacusTokenTransferEventAndDecreaseAllowance_spends
    (h : w.emitAbacusTokenTransferEventAndDecreaseAllowance token account net spender amount
      = .ok w') : Spends spender w w' := by
  rw [emitAbacusTokenTransferEventAndDecreaseAllowance] at h
  by_cases hs : spender = account
  · rw [if_pos hs] at h
    exact emitAbacusTokenTransferEvent_spends h
  · rw [if_neg hs, mapErr_eq_ok] at h
    simp only [emitTransferEventAndDecreaseAllowance, bind_eq_ok, unwrap_eq_ok] at h
    obtain ⟨t, ht, -, -, -, -, h⟩ := h
    exact (emit_spends w token _).trans (decreaseAllowanceFromTo_spends ht h)

lemma transferIn_spends (h : w.transferIn env asset account amount = .ok w') :
    Spends spender w w' := by
  obtain ⟨k, -, hcall⟩ := transferIn_ok h
  obtain ⟨balances, -, rfl⟩ := invoke_ok hcall
  exact .of_eq rfl rfl rfl

lemma transferOut_spends (h : w.transferOut env asset account amount = .ok w') :
    Spends spender w w' := by
  obtain ⟨k, -, hcall⟩ := transferOut_ok h
  obtain ⟨balances, -, rfl⟩ := invoke_ok hcall
  exact .of_eq rfl rfl rfl

/-- Settling an action spends allowances of the caller only. -/
lemma settleAction_spends {onBehalfOf : AccountId} {first : ℕ} {action : Action}
    {interests : ℕ × ℕ} (h : w.settleAction env onBehalfOf first action interests = .ok w') :
    Spends env.caller w w' := by
  obtain ⟨op, asset, amount⟩ := action
  simp only [settleAction, bind_eq_ok] at h
  obtain ⟨tokens, -, h⟩ := h
  cases op with
  | deposit =>
      simp only [bind_eq_ok] at h
      obtain ⟨w₁, hin, minted, -, w₂, hemit, hlast⟩ := h
      exact ((transferIn_spends hin).trans (emitAbacusTokenTransferEvent_spends hemit)).trans
        (emitAbacusTokenTransferEvent_spends hlast)
  | withdraw =>
      simp only [bind_eq_ok] at h
      obtain ⟨w₁, hout, w₂, hcharge, hemit⟩ := h
      exact ((transferOut_spends hout).trans
        (emitAbacusTokenTransferEventAndDecreaseAllowance_spends hcharge)).trans
        (emitAbacusTokenTransferEvent_spends hemit)
  | borrow =>
      simp only [bind_eq_ok] at h
      obtain ⟨w₁, hout, w₂, hemit, minted, -, hcharge⟩ := h
      exact ((transferOut_spends hout).trans (emitAbacusTokenTransferEvent_spends hemit)).trans
        (emitAbacusTokenTransferEventAndDecreaseAllowance_spends hcharge)
  | repay =>
      simp only [bind_eq_ok] at h
      obtain ⟨w₁, hin, w₂, hemit, hlast⟩ := h
      exact ((transferIn_spends hin).trans (emitAbacusTokenTransferEvent_spends hemit)).trans
        (emitAbacusTokenTransferEvent_spends hlast)

lemma settleActions_spends {onBehalfOf : AccountId} {first : ℕ} {l : List (Action × (ℕ × ℕ))}
    (h : w.settleActions env onBehalfOf first l = .ok w') : Spends env.caller w w' := by
  induction l generalizing w with
  | nil =>
      simp only [settleActions, Except.ok.injEq] at h
      exact h ▸ .refl w
  | cons head rest ih =>
      obtain ⟨action, interests⟩ := head
      simp only [settleActions, bind_eq_ok] at h
      obtain ⟨w₁, hfirst, hrest⟩ := h
      exact (settleAction_spends hfirst).trans (ih hrest)

lemma payIncome_spends {toAccount : AccountId} {l : List (AccountId × ℕ)}
    (h : w.payIncome env toAccount l = .ok w') : Spends spender w w' := by
  induction l generalizing w with
  | nil =>
      simp only [payIncome, Except.ok.injEq] at h
      exact h ▸ .refl w
  | cons entry rest ih =>
      obtain ⟨asset, amount⟩ := entry
      simp only [payIncome, bind_eq_ok] at h
      obtain ⟨w₁, hout, hrest⟩ := h
      exact (transferOut_spends hout).trans (ih hrest)

/-- A token that is instantiated has no allowances, at an address that had none. -/
lemma instantiateAbacusToken_spends {kind : TokenKind} {address : AccountId}
    (h : w.instantiateAbacusToken env kind asset = .ok (w', address)) : Spends spender w w' := by
  obtain ⟨hfresh, rfl⟩ := instantiateAbacusToken_ok h
  refine .of_silent [] (by rw [List.append_nil]) (fun _ _ _ => nofun) (fun t o s => ?_)
    fun h => h.insert rfl rfl rfl
  rw [allowance, allowance, Mapping.get_insert]
  split_ifs with ht
  · rw [ht, hfresh]
    rfl
  · rfl

/-! ### Messages -/

section

variable [Pendzl]

lemma liquidate_spends {x toRepay toTake : AccountId} {minimum : ℕ} {amounts : ℕ × ℕ}
    (h : w.liquidate env x toRepay toTake amount minimum = .ok (w', amounts)) :
    Spends spender w w' := by
  simp only [liquidate, bind_eq_ok, pure_eq, Except.ok.injEq, Prod.mk.injEq] at h
  obtain ⟨-, -, res, -, received, -, -, -, w₁, hin, tokensToRepay, -, w₂, hemit₂, w₃, hemit₃,
    tokensToTake, -, sum, -, w₄, hemit₄, w₅, hemit₅, rfl, -⟩ := h
  have hstart : Spends spender w (w.withPool res.storage) := .of_eq rfl rfl rfl
  have hpaid := ((hstart.trans (transferIn_spends hin)).trans
    (emitAbacusTokenTransferEvent_spends hemit₂)).trans
    (emitAbacusTokenTransferEvent_spends hemit₃)
  exact (hpaid.trans (emitAbacusTokenTransferEvents_spends hemit₄)).trans
    (emitAbacusTokenTransferEvents_spends hemit₅)

lemma transferDepositFromTo_spends {fromAccount toAccount : AccountId} {x : World × ℕ × ℕ}
    (h : w.transferDepositFromTo env asset fromAccount toAccount amount = .ok x) :
    Spends spender w x.1 := by
  simp only [transferDepositFromTo, bind_eq_ok] at h
  obtain ⟨_, -, tokens, -, _, -, res, -, _, -, h⟩ := h
  have hstart : Spends spender w (w.withPool res.storage) := .of_eq rfl rfl rfl
  split_ifs at h
  · simp only [bind_eq_ok, mapErr_eq_ok, pure_eq, Except.ok.injEq] at h
    obtain ⟨w₁, hw₁, rfl⟩ := h
    exact hstart.trans (emitTransferEvents_spends hw₁)
  · simp only [bind_eq_ok, pure_eq, Except.ok.injEq] at h
    obtain ⟨w₁, rfl, rfl⟩ := h
    exact hstart

lemma transferDebtFromTo_spends {fromAccount toAccount : AccountId} {x : World × ℕ × ℕ}
    (h : w.transferDebtFromTo env asset fromAccount toAccount amount = .ok x) :
    Spends spender w x.1 := by
  simp only [transferDebtFromTo, bind_eq_ok] at h
  obtain ⟨_, -, tokens, -, _, -, res, -, _, -, h⟩ := h
  have hstart : Spends spender w (w.withPool res.storage) := .of_eq rfl rfl rfl
  split_ifs at h
  · simp only [bind_eq_ok, mapErr_eq_ok, pure_eq, Except.ok.injEq] at h
    obtain ⟨w₁, hw₁, rfl⟩ := h
    exact hstart.trans (emitTransferEvents_spends hw₁)
  · simp only [bind_eq_ok, pure_eq, Except.ok.injEq] at h
    obtain ⟨w₁, rfl, rfl⟩ := h
    exact hstart

/-- The pool's part of a transfer spends nothing. -/
lemma update_spends {t : AbacusToken} {fromAccount toAccount : AccountId}
    (h : w.update env token t fromAccount toAccount amount = .ok w') : Spends spender w w' := by
  simp only [update, bind_eq_ok, mapErr_eq_ok, pure_eq, Except.ok.injEq] at h
  obtain ⟨_, -, ⟨w₁, i, j⟩, hmove, rfl⟩ := h
  have hpool : Spends spender w w₁ := by
    cases hkind : t.kind with
    | aToken =>
        simp only [hkind] at hmove
        exact transferDepositFromTo_spends hmove
    | vToken =>
        simp only [hkind] at hmove
        exact transferDebtFromTo_spends hmove
  refine hpool.trans (.of_silent _ rfl (fun a o s e he => ?_) (fun _ _ _ => rfl) fun h => h)
  rcases List.mem_append.mp he with he | he
  · obtain ⟨x, -, rfl⟩ := List.mem_map.mp he
    rfl
  · rw [List.mem_singleton.mp he]
    rfl

omit [Pendzl] in
/-- A setter leaves the tokens alone. -/
lemma manage_spends {role : Role} {f : Res LendingPoolStorage}
    (h : w.manage env role f = .ok w') : Spends spender w w' := by
  simp only [manage, bind_eq_ok, pure_eq, Except.ok.injEq] at h
  obtain ⟨_, _, s, _, rfl⟩ := h
  exact .of_eq rfl rfl rfl

omit [Pendzl] in
lemma registerAsset_spends {decimals depositFeeE6 debtFeeE6 : ℕ} {rules : AssetRules}
    {restrictions : ReserveRestrictions} {params : Option InterestRateModelParams}
    (h : w.registerAsset env asset decimals rules restrictions depositFeeE6 debtFeeE6 params
      = .ok w') : Spends spender w w' := by
  simp only [registerAsset, bind_eq_ok, pure_eq, Except.ok.injEq] at h
  obtain ⟨_, _, _, _, _, _, s₁, _, ⟨w₁, aToken⟩, h₁, ⟨w₂, vToken⟩, h₂, s₂, _, s₃, _, rfl⟩ := h
  have hstart : Spends spender w (w.withPool s₁) := .of_eq rfl rfl rfl
  have htokens := (hstart.trans (instantiateAbacusToken_spends h₁)).trans
    (instantiateAbacusToken_spends h₂)
  exact htokens.trans (.of_eq rfl rfl rfl)

/-- **A message that sets no allowance of its caller only spends** those given to its
caller. -/
theorem execute_spends {message : Message} (hl : w.Linked)
    (hex : w.execute env message = .ok w') (hm : message.approval = none) :
    Spends env.caller w w' := by
  cases hactions : message.userActions with
  | some p =>
      obtain ⟨account, actions⟩ := p
      obtain ⟨res, l, -, -, -, hloop⟩ := execute_settles hl.ids hactions hex
      have hstart : Spends env.caller w (w.withPool res.storage) := .of_eq rfl rfl rfl
      exact hstart.trans (settleActions_spends hloop)
  | none =>
      cases message <;> simp only [execute, mapErr_eq_ok] at hex
      case deposit | withdraw | borrow | repay | multiOp => cases hactions
      case approve | increaseAllowance | decreaseAllowance => cases hm
      case liquidate =>
        obtain ⟨amounts, h⟩ := exists_of_fst_eq_ok hex
        exact liquidate_spends h
      case chooseMarketRule =>
        simp only [chooseMarketRule, bind_eq_ok, pure_eq, Except.ok.injEq] at hex
        obtain ⟨_, _, _, _, rfl⟩ := hex
        exact .of_eq rfl rfl rfl
      case setAsCollateral =>
        simp only [setAsCollateral, bind_eq_ok] at hex
        obtain ⟨registrar, _, s, _, hex⟩ := hex
        split_ifs at hex
        · simp only [bind_eq_ok, pure_eq, Except.ok.injEq] at hex
          obtain ⟨_, _, rfl⟩ := hex
          exact .of_eq rfl rfl rfl
        · simp only [pure_eq, Except.ok.injEq] at hex
          exact hex ▸ .of_eq rfl rfl rfl
      case accumulateInterest =>
        simp only [accumulateInterest, bind_eq_ok, pure_eq, Except.ok.injEq] at hex
        obtain ⟨_, _, rfl⟩ := hex
        exact .of_eq rfl rfl rfl
      case adjustRateAtTarget =>
        obtain ⟨rate, h⟩ := exists_of_fst_eq_ok hex
        simp only [adjustRateAtTarget, bind_eq_ok, pure_eq, Except.ok.injEq, Prod.mk.injEq] at h
        obtain ⟨_, _, _, _, _, _, _, _, _, _, _, _, rfl, -⟩ := h
        exact .of_eq rfl rfl rfl
      case setReserveFees =>
        simp only [setReserveFees, bind_eq_ok, pure_eq, Except.ok.injEq] at hex
        obtain ⟨_, _, _, _, _, _, rfl⟩ := hex
        exact .of_eq rfl rfl rfl
      case addMarketRule =>
        simp only [addMarketRule, bind_eq_ok, pure_eq, Except.ok.injEq] at hex
        obtain ⟨_, _, _, _, _, _, _, _, _, _, rfl⟩ := hex
        exact .of_eq rfl rfl rfl
      case registerAsset => exact registerAsset_spends hex
      case takeProtocolIncome =>
        obtain ⟨incomes, h⟩ := exists_of_fst_eq_ok hex
        simp only [takeProtocolIncome, bind_eq_ok, pure_eq, Except.ok.injEq, Prod.mk.injEq] at h
        obtain ⟨_, _, list, _, ⟨pool, l⟩, _, w₁, hpay, rfl, -⟩ := h
        have hstart : Spends env.caller w (w.withPool pool) := .of_eq rfl rfl rfl
        exact hstart.trans (payIncome_spends hpay)
      case transfer =>
        simp only [transfer, bind_eq_ok, unwrap_eq_ok] at hex
        obtain ⟨t, ht, hex⟩ := hex
        cases hkind : t.kind with
        | aToken =>
            simp only [hkind] at hex
            exact update_spends hex
        | vToken =>
            simp only [hkind, bind_eq_ok] at hex
            obtain ⟨_, _, w₁, hcharge, hupdate⟩ := hex
            exact (decreaseAllowanceFromTo_spends ht hcharge).trans (update_spends hupdate)
      case transferFrom =>
        simp only [transferFrom, bind_eq_ok, unwrap_eq_ok] at hex
        obtain ⟨t, ht, _, _, w₁, hcharge, hupdate⟩ := hex
        exact (decreaseAllowanceFromTo_spends ht hcharge).trans (update_spends hupdate)
      all_goals exact manage_spends hex

/-- The messages that set an allowance: it is one of the caller's, and this is announced. -/
lemma execute_approval {message : Message} {t s : AccountId}
    (hex : w.execute env message = .ok w') (hm : message.approval = some (t, s)) :
    ∃ token n, w.tokens.get t = some token
      ∧ w' = w.approveFromTo t token env.caller s n := by
  cases message <;> simp only [Message.approval, reduceCtorEq, Option.some.injEq,
    Prod.mk.injEq] at hm
  case approve token spender value =>
    obtain ⟨rfl, rfl⟩ := hm
    simp only [execute, mapErr_eq_ok, approve, bind_eq_ok, unwrap_eq_ok, pure_eq,
      Except.ok.injEq] at hex
    obtain ⟨t, ht, rfl⟩ := hex
    exact ⟨t, value, ht, rfl⟩
  case increaseAllowance token spender delta =>
    obtain ⟨rfl, rfl⟩ := hm
    simp only [execute, mapErr_eq_ok, increaseAllowance, increaseAllowanceFromTo, bind_eq_ok,
      unwrap_eq_ok, pure_eq, Except.ok.injEq] at hex
    obtain ⟨t, ht, n, _, rfl⟩ := hex
    exact ⟨t, n, ht, rfl⟩
  case decreaseAllowance token spender delta =>
    obtain ⟨rfl, rfl⟩ := hm
    simp only [execute, mapErr_eq_ok, decreaseAllowance, decreaseAllowanceFromTo, bind_eq_ok,
      unwrap_eq_ok, pure_eq, Except.ok.injEq] at hex
    obtain ⟨t, ht, n, _, rfl⟩ := hex
    exact ⟨t, n, ht, rfl⟩

/-- **What a message does to the allowances**: it announces what it does, and unless its caller
is the owner it only takes back what was given to its caller. -/
theorem execute_allowance {message : Message} (hl : w.Linked)
    (hex : w.execute env message = .ok w') :
    Announces w w' ∧ ∀ t o s, w'.allowance t o s = w.allowance t o s
      ∨ message.approval = some (t, s) ∧ env.caller = o
      ∨ w'.allowance t o s < w.allowance t o s ∧ env.caller = s := by
  cases hm : message.approval with
  | none =>
      have hspends := execute_spends hl hex hm
      refine ⟨hspends.announces, fun t o s => ?_⟩
      by_cases hs : s = env.caller
      · rcases Nat.eq_or_lt_of_le (hspends.le t o s) with hsame | hlt
        · exact .inl hsame
        · exact .inr (.inr ⟨hlt, hs.symm⟩)
      · exact .inl (hspends.others t o s hs)
  | some p =>
      obtain ⟨t, s⟩ := p
      obtain ⟨token, n, ht, rfl⟩ := execute_approval hex hm
      refine ⟨approveFromTo_announces ht, fun t' o s' => ?_⟩
      rw [approveFromTo_allowance ht]
      by_cases h : t' = t ∧ o = env.caller ∧ s' = s
      · obtain ⟨rfl, rfl, rfl⟩ := h
        exact .inr (.inl ⟨rfl, rfl⟩)
      · exact .inl (if_neg h)

/-- **The tokens of a new pool stay its own.** -/
theorem reachable_ownTokens {kind : Message → Prop} {t : ℕ} (h : Reachable kind t w) :
    w.OwnTokens := by
  refine (TimedRun.Reach.invariant (P := fun w => w.Linked ∧ w.OwnTokens) (fun w hw => ?_)
    (fun t w w' hP hstep => ?_) h).2
  · refine ⟨reachable_linked (.start hw : Reachable kind 0 w), fun address token ht => ?_⟩
    rw [hw.2.2.1] at ht
    cases ht
  · obtain ⟨env, message, -, -, hex⟩ := hstep
    refine ⟨execute_linked hP.1 hex, ?_⟩
    cases hm : message.approval with
    | none => exact (execute_spends hP.1 hex hm).own hP.2
    | some p =>
        obtain ⟨token, n, ht, rfl⟩ := execute_approval hex hm
        exact approveFromTo_ownTokens ht hP.2

/-- **Every allowance is announced, and given by its owner.**  After every run from a new pool
an allowance of an abacus token is the value of the last `Approval` event about it, or zero
without one; and one that is not zero was set by a message of its owner. -/
theorem allowances_announced {messages : List (Env × Message)} (hw : w.IsInitial)
    (h : w.run messages = some w') (t o s : AccountId) :
    w'.allowance t o s = lastWrite (Event.approves t o s) 0 w'.events
      ∧ (w'.allowance t o s ≠ 0 →
        ∃ m ∈ messages, m.1.caller = o ∧ m.2.approval = some (t, s)) := by
  refine (run_history (P := fun before w' => w'.Linked ∧
    w'.allowance t o s = lastWrite (Event.approves t o s) 0 w'.events
      ∧ (w'.allowance t o s ≠ 0 →
        ∃ m ∈ before, m.1.caller = o ∧ m.2.approval = some (t, s))) ⟨?_, ?_⟩ ?_ h).2
  · exact reachable_linked (.start hw : Reachable (fun _ => True) 0 w)
  · have hzero : w.allowance t o s = 0 := by
      rw [allowance, hw.2.2.1]
      rfl
    rw [hzero, hw.2.2.2.2]
    exact ⟨rfl, fun hne => absurd rfl hne⟩
  · rintro before env message w₁ w₂ ⟨hl, hvalue, hgiven⟩ hex
    obtain ⟨⟨events, hevents, hannounced⟩, hcases⟩ := execute_allowance hl hex
    refine ⟨execute_linked hl hex, ?_, fun hne => ?_⟩
    · rw [hannounced, hvalue, hevents, lastWrite_append]
    · rcases hcases t o s with hsame | ⟨happroval, hcaller⟩ | ⟨hlt, -⟩
      · obtain ⟨m, hm, hby⟩ := hgiven (hsame ▸ hne)
        exact ⟨m, List.mem_append_left _ hm, hby⟩
      · exact ⟨(env, message), by simp, hcaller, happroval⟩
      · obtain ⟨m, hm, hby⟩ := hgiven (Nat.ne_zero_of_lt hlt)
        exact ⟨m, List.mem_append_left _ hm, hby⟩

end

attribute [local instance] Pendzl.exact in
/-- The allowance that `account 4` gives to `account 5` is the last one announced, and its
own message is in the run. -/
theorem allowances_announced_sample :
    ∃ w, Sample.world.run consented = some w
      ∧ w.allowance (Sample.account 2100) (Sample.account 4) (Sample.account 5) = 10
      ∧ lastWrite (Event.approves (Sample.account 2100) (Sample.account 4) (Sample.account 5)) 0
          w.events = 10
      ∧ ∃ m ∈ consented, m.1.caller = Sample.account 4
        ∧ m.2.approval = some (Sample.account 2100, Sample.account 5) := by
  have hrun : (Sample.world.run consented).map (fun w =>
      w.allowance (Sample.account 2100) (Sample.account 4) (Sample.account 5)) = some 10 := by
    decide +kernel
  obtain ⟨w, hw, hten⟩ := Option.map_eq_some_iff.mp hrun
  obtain ⟨hlast, hgiven⟩ := allowances_announced Sample.world_isInitial hw
    (Sample.account 2100) (Sample.account 4) (Sample.account 5)
  exact ⟨w, hw, hten, hlast ▸ hten, hgiven (by rw [hten]; decide)⟩

end World

end AbaxLending
