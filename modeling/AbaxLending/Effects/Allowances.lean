import AbaxLending.Contract.Run
import AbaxLending.Spec.Settlement

/-!
The allowances that are spent on behalf of another account.

A withdrawal spends an allowance of the aToken and a borrow one of the vToken.  The loop
of `multi_op` charges every withdrawal with the amount of the first action of the list
(`Action.charge`), not with its own, so the allowances decrease by what was moved exactly
when that makes no difference.

* `settleActions_allowance`: what the loop charges, token by token;
* `allowances_exact_iff`: when the allowances decrease by the amounts moved.
-/

namespace AbaxLending

open Outcome

/-! ### Spending -/

/-- Whether an action spends an allowance of the token of a kind for an asset. -/
def Action.spends (kind : TokenKind) (asset : AccountId) (action : Action) : Bool :=
  match action.op, kind with
  | .withdraw, .aToken | .borrow, .vToken => action.asset = asset
  | _, _ => false

/-- The amount with which the loop of `multi_op` charges an action. -/
def Action.charge (firstAmount : ℕ) (action : Action) : ℕ :=
  match action.op with
  | .withdraw | .repay => firstAmount
  | .deposit | .borrow => action.amount

/-- What the actions of a list spend of one token, when an action counts with a given
amount. -/
def spent (amountOf : Action → ℕ) (kind : TokenKind) (asset : AccountId)
    (actions : List Action) : ℕ :=
  ((actions.filter (Action.spends kind asset)).map amountOf).sum

section

variable {amountOf : Action → ℕ} {kind : TokenKind} {asset : AccountId} {action : Action}
  {rest : List Action}

lemma Action.spends_withdraw {n : ℕ} {b : AccountId} :
    (⟨.withdraw, b, n⟩ : Action).spends kind asset = true ↔ kind = .aToken ∧ b = asset := by
  cases kind <;> simp [Action.spends]

lemma Action.spends_borrow {n : ℕ} {b : AccountId} :
    (⟨.borrow, b, n⟩ : Action).spends kind asset = true ↔ kind = .vToken ∧ b = asset := by
  cases kind <;> simp [Action.spends]

lemma spent_nil : spent amountOf kind asset [] = 0 := rfl

lemma spent_cons : spent amountOf kind asset (action :: rest)
    = (if action.spends kind asset then amountOf action else 0)
      + spent amountOf kind asset rest := by
  rw [spent, List.filter_cons]
  split_ifs with h
  · rw [List.map_cons, List.sum_cons, spent]
  · rw [spent, zero_add]

/-- Borrows are charged with their own amount. -/
lemma spent_charge_vToken (first : ℕ) (asset : AccountId) (actions : List Action) :
    spent (Action.charge first) .vToken asset actions
      = spent Action.amount .vToken asset actions := by
  induction actions with
  | nil => rfl
  | cons action rest ih =>
      rw [spent_cons, spent_cons, ih]
      obtain ⟨op, a, n⟩ := action
      cases op <;> rfl

/-- Every withdrawal is charged with the same amount. -/
lemma spent_charge_aToken (first : ℕ) (asset : AccountId) (actions : List Action) :
    spent (Action.charge first) .aToken asset actions
      = (actions.filter (Action.spends .aToken asset)).length * first := by
  induction actions with
  | nil => simp [spent]
  | cons action rest ih =>
      rw [spent_cons, ih, List.filter_cons]
      obtain ⟨op, a, n⟩ := action
      by_cases h : (⟨op, a, n⟩ : Action).spends .aToken asset = true
      · have hop : op = .withdraw := by
          cases op <;> simp [Action.spends] at h ⊢
        subst hop
        rw [if_pos h, if_pos h, List.length_cons, Action.charge]
        ring
      · rw [if_neg h, if_neg h, zero_add]

end

namespace World

/-! ### The loop -/

section

variable {w w' : World} {env : Env} {onBehalfOf asset account spender address : AccountId}
  {first amount : ℕ} {net : ℤ} {tokens : ReserveAbacusTokens} {kind : TokenKind}

/-- Only the tokens matter. -/
lemma allowance_congr (h : w'.tokens = w.tokens) : w'.allowance = w.allowance := by
  funext token owner spender
  rw [allowance, allowance, h]

/-- Emitting events keeps the allowances. -/
lemma emitAbacusTokenTransferEvent_allowance
    (h : w.emitAbacusTokenTransferEvent asset account net = .ok w') :
    w'.allowance = w.allowance := by
  obtain ⟨events, rfl⟩ := emitAbacusTokenTransferEvent_ok h
  exact allowance_congr rfl

/-- A charge decreases one allowance of one token. -/
lemma emitAbacusTokenTransferEventAndDecreaseAllowance_allowance (hs : spender ≠ account)
    (h : w.emitAbacusTokenTransferEventAndDecreaseAllowance asset account net spender amount
      = .ok w') (address : AccountId) :
    w'.allowance address account spender + (if address = asset then amount else 0)
      = w.allowance address account spender := by
  obtain ⟨hself, -⟩ | ⟨-, token, events, ht, hle, rfl⟩ :=
    emitAbacusTokenTransferEventAndDecreaseAllowance_ok h
  · exact absurd hself hs
  · rw [allowance, allowance, approveFromTo_tokens, Mapping.get_insert]
    split_ifs with ha
    · subst ha
      simp only [ht, Option.map_some, Option.getD_some, AbacusToken.setAllowance,
        AbacusToken.allowance, Mapping.get_insert_self] at hle ⊢
      omega
    · rfl

/-- The step lemma of the charges: an action is charged at the token it spends from. -/
lemma settleAction_allowance {action : Action} {interests : ℕ × ℕ} (hl : w.Linked)
    (hs : env.caller ≠ onBehalfOf)
    (h : w.settleAction env onBehalfOf first action interests = .ok w')
    (ht : w.pool.reserveAbacusTokens.get asset = some tokens) :
    w'.allowance (tokens.address kind) onBehalfOf env.caller
        + (if action.spends kind asset then action.charge first else 0)
      = w.allowance (tokens.address kind) onBehalfOf env.caller := by
  obtain ⟨op, b, n⟩ := action
  simp only [settleAction, bind_eq_ok, unwrap_eq_ok] at h
  obtain ⟨charged, hcharged, h⟩ := h
  have haddress : ∀ kind', tokens.address kind = charged.address kind'
      ↔ kind = kind' ∧ b = asset := by
    intro kind'
    constructor
    · intro heq
      obtain ⟨hk, hb⟩ := hl.address_inj ht hcharged heq
      exact ⟨hk, hb.symm⟩
    · rintro ⟨rfl, rfl⟩
      cases ht.symm.trans hcharged
      rfl
  cases op with
  | deposit =>
      simp only [bind_eq_ok] at h
      obtain ⟨w₁, h₁, minted, -, w₂, h₂, h₃⟩ := h
      rw [emitAbacusTokenTransferEvent_allowance h₃, emitAbacusTokenTransferEvent_allowance h₂,
        allowance_congr (transferIn_frame h₁).2]
      rfl
  | withdraw =>
      simp only [bind_eq_ok] at h
      obtain ⟨w₁, h₁, w₂, h₂, h₃⟩ := h
      have hcharge := emitAbacusTokenTransferEventAndDecreaseAllowance_allowance hs h₂
        (tokens.address kind)
      rw [allowance_congr (transferOut_frame h₁).2] at hcharge
      rw [emitAbacusTokenTransferEvent_allowance h₃, ← hcharge]
      exact congrArg _ (if_congr (Action.spends_withdraw.trans (haddress .aToken).symm) rfl rfl)
  | borrow =>
      simp only [bind_eq_ok] at h
      obtain ⟨w₁, h₁, w₂, h₂, minted, -, h₃⟩ := h
      have hcharge := emitAbacusTokenTransferEventAndDecreaseAllowance_allowance hs h₃
        (tokens.address kind)
      rw [emitAbacusTokenTransferEvent_allowance h₂,
        allowance_congr (transferOut_frame h₁).2] at hcharge
      rw [← hcharge]
      exact congrArg _ (if_congr (Action.spends_borrow.trans (haddress .vToken).symm) rfl rfl)
  | repay =>
      simp only [bind_eq_ok] at h
      obtain ⟨w₁, h₁, w₂, h₂, h₃⟩ := h
      rw [emitAbacusTokenTransferEvent_allowance h₃, emitAbacusTokenTransferEvent_allowance h₂,
        allowance_congr (transferIn_frame h₁).2]
      rfl

/-- The run lemma of the charges. -/
lemma settleActions_allowance {l : List (Action × (ℕ × ℕ))} (hl : w.Linked)
    (hs : env.caller ≠ onBehalfOf)
    (h : w.settleActions env onBehalfOf first l = .ok w')
    (ht : w.pool.reserveAbacusTokens.get asset = some tokens) :
    w'.allowance (tokens.address kind) onBehalfOf env.caller
        + spent (Action.charge first) kind asset (l.map Prod.fst)
      = w.allowance (tokens.address kind) onBehalfOf env.caller := by
  induction l generalizing w with
  | nil =>
      simp only [settleActions, Except.ok.injEq] at h
      rw [h, List.map_nil, spent_nil, add_zero]
  | cons head rest ih =>
      obtain ⟨action, interests⟩ := head
      simp only [settleActions, bind_eq_ok] at h
      obtain ⟨w₁, h₁, h₂⟩ := h
      have hkeep := settleAction_keeps h₁
      have hstep : w₁.allowance (tokens.address kind) onBehalfOf env.caller
          + (if action.spends kind asset then action.charge first else 0)
          = w.allowance (tokens.address kind) onBehalfOf env.caller :=
        settleAction_allowance hl hs h₁ ht
      have hl₁ : w₁.Linked := hl.keeps (hkeep.pool ▸ ⟨rfl, rfl, rfl⟩) (hkeep.stays rfl rfl)
      have hrest := ih hl₁ h₂ (hkeep.pool.symm ▸ ht)
      simp only [List.map_cons, spent_cons]
      omega

end

/-! ### The allowances after a message -/

section

variable [Pendzl] {w w' : World} {env : Env} {onBehalfOf : AccountId} {actions : List Action}

omit [Pendzl] in
/-- Every allowance of the owner for the spender decreased by what the actions moved. -/
def AllowancesExact (w w' : World) (owner spender : AccountId) (settled : List Action) : Prop :=
  ∀ asset tokens, w.pool.reserveAbacusTokens.get asset = some tokens → ∀ kind,
    w'.allowance (tokens.address kind) owner spender + spent Action.amount kind asset settled
      = w.allowance (tokens.address kind) owner spender

omit [Pendzl] in
/-- On every asset the withdrawals move as much as if each of them moved the amount of the
first action of the list. -/
def WithdrawsLikeFirst (settled : List Action) : Prop :=
  ∀ asset, spent Action.amount .aToken asset settled
    = (settled.filter (Action.spends .aToken asset)).length * firstAmount settled

omit [Pendzl] in
/-- One action is the first of its list. -/
lemma withdrawsLikeFirst_single (action : Action) : WithdrawsLikeFirst [action] := by
  intro asset
  rw [spent, List.filter_singleton]
  cases action.spends .aToken asset with
  | true => simp [firstAmount]
  | false => simp

/-- What a message on behalf of another account charges. -/
lemma execute_charges {message : Message} (hl : w.Linked) (hs : env.caller ≠ onBehalfOf)
    (hm : message.userActions = some (onBehalfOf, actions)) (h : w.execute env message = .ok w') :
    ∃ res, w.pool.accountForAccountActions env onBehalfOf actions = .ok res
      ∧ w'.pool = res.storage
      ∧ (∀ asset tokens, w.pool.reserveAbacusTokens.get asset = some tokens → ∀ kind,
        w'.allowance (tokens.address kind) onBehalfOf env.caller
            + spent (Action.charge (firstAmount res.actions)) kind asset res.actions
          = w.allowance (tokens.address kind) onBehalfOf env.caller)
      ∧ ∀ action ∈ res.actions, ∃ tokens,
        w.pool.reserveAbacusTokens.get action.asset = some tokens := by
  obtain ⟨res, l, hres, -, hactions, hloop⟩ := execute_settles hl.ids hm h
  have hkeep := settleActions_keeps hloop
  have hregistry : w.pool.KeepsRegistry res.storage :=
    .of_positions (LendingPoolStorage.accountForAccountActions_writes hres)
  have hlinked : (w.withPool res.storage).Linked := hl.keeps hregistry (.of_eq rfl rfl)
  refine ⟨res, hres, hkeep.pool, fun asset tokens htokens kind => ?_, fun action hmem => ?_⟩
  · have hcharges : w'.allowance (tokens.address kind) onBehalfOf env.caller
        + spent (Action.charge (firstAmount res.actions)) kind asset (l.map Prod.fst)
        = (w.withPool res.storage).allowance (tokens.address kind) onBehalfOf env.caller :=
      settleActions_allowance hlinked hs hloop (hregistry.reserveAbacusTokens.symm ▸ htokens)
    rw [hactions] at hcharges
    exact hcharges
  · rw [← hactions] at hmem
    rw [← hregistry.reserveAbacusTokens]
    exact settleActions_tokens hloop action hmem

/-- **When the allowances pay for what is taken.**  In a world whose registry is linked, as
in every reachable one, a message that acts on behalf of another account and succeeds leaves
the ledger of the account settled; every allowance of the account for the caller decreases by
exactly what the actions moved if and only if, on every asset, the withdrawals move as much
as if each moved the amount of the first action. -/
theorem allowances_exact_iff {message : Message} (hl : w.Linked) (hs : env.caller ≠ onBehalfOf)
    (hm : message.userActions = some (onBehalfOf, actions)) (hex : w.execute env message = .ok w') :
    w'.pool.ledgerOf env onBehalfOf env.blockTimestamp
        = ((w.pool.ledgerOf env onBehalfOf env.blockTimestamp).settle actions).1
    ∧ (AllowancesExact w w' onBehalfOf env.caller
          ((w.pool.ledgerOf env onBehalfOf env.blockTimestamp).settle actions).2
        ↔ WithdrawsLikeFirst
          ((w.pool.ledgerOf env onBehalfOf env.blockTimestamp).settle actions).2) := by
  obtain ⟨res, hres, hpool, hcharges, htokens⟩ := execute_charges hl hs hm hex
  have hledger := LendingPoolStorage.accountForAccountActions_ledger hl.ids hres
  have hafter : res.storage.ledgerOf env onBehalfOf env.blockTimestamp
      = ((w.pool.ledgerOf env onBehalfOf env.blockTimestamp).settle actions).1 :=
    congrArg Prod.fst hledger
  have hsettled : res.actions
      = ((w.pool.ledgerOf env onBehalfOf env.blockTimestamp).settle actions).2 :=
    congrArg Prod.snd hledger
  rw [hpool, ← hsettled]
  refine ⟨hafter, fun hexact asset => ?_, fun hlike asset tokens ht kind => ?_⟩
  · by_cases hnone : res.actions.filter (Action.spends .aToken asset) = []
    · rw [spent, hnone]
      simp
    · -- a withdrawal from the asset read its tokens, so the charge is the one at its aToken
      obtain ⟨action, hmem⟩ := List.exists_mem_of_ne_nil _ hnone
      obtain ⟨hin, hspends⟩ := List.mem_filter.mp hmem
      obtain ⟨op, b, n⟩ := action
      have hop : op = .withdraw := by
        cases op <;> simp [Action.spends] at hspends ⊢
      subst hop
      obtain ⟨-, rfl⟩ := Action.spends_withdraw.mp hspends
      obtain ⟨tokens, ht⟩ := htokens _ hin
      have hmoved := hexact b tokens ht .aToken
      have hcharged := hcharges b tokens ht .aToken
      rw [spent_charge_aToken] at hcharged
      omega
  · have hcharged := hcharges asset tokens ht kind
    cases kind with
    | aToken =>
        rw [spent_charge_aToken, ← hlike asset] at hcharged
        exact hcharged
    | vToken =>
        rw [spent_charge_vToken] at hcharged
        exact hcharged

end

/-! ### Samples -/

/-- The messages before the samples: `account 3` deposits `400`. -/
def depositor : List (Env × Message) :=
  Sample.setup ++ [Sample.send 3 1 fun a => .deposit (Sample.account 100) a 400]

attribute [local instance] Pendzl.exact in
/-- A withdrawal of `300` on behalf of an account that approved `500` of its aToken. -/
theorem allowances_exact_iff_withdraw :
    ∃ w w', Sample.world.run (depositor ++ [
          Sample.send 3 1 fun _ => .approve (Sample.account 1100) (Sample.account 5) 500]) = some w
      ∧ w.execute (Sample.env (Sample.account 5) 2)
          (.withdraw (Sample.account 100) (Sample.account 3) 300) = .ok w'
      ∧ AllowancesExact w w' (Sample.account 3) (Sample.account 5)
          [⟨.withdraw, Sample.account 100, 300⟩] := by
  have hrun : (Sample.world.run (depositor ++ [
        Sample.send 3 1 fun _ => .approve (Sample.account 1100) (Sample.account 5) 500])).map
      (fun w => ((w.execute (Sample.env (Sample.account 5) 2)
          (.withdraw (Sample.account 100) (Sample.account 3) 300)).isOk,
        ((w.pool.ledgerOf (Sample.env (Sample.account 5) 2) (Sample.account 3) 2).settle
          [⟨.withdraw, Sample.account 100, 300⟩]).2))
      = some (true, [⟨.withdraw, Sample.account 100, 300⟩]) := by decide +kernel
  obtain ⟨w, hw, hreach, hv⟩ :=
    run_reaches (fun _ => True) Sample.world_isInitial (by decide) hrun
  obtain ⟨hok, hsettled⟩ := Prod.mk.inj hv
  obtain ⟨w', hw'⟩ := isOk_eq_true.mp hok
  refine ⟨w, w', hw, hw', ?_⟩
  have hcaller : (Sample.env (Sample.account 5) 2).caller ≠ Sample.account 3 := by decide
  have hexact := (allowances_exact_iff (reachable_linked hreach) hcaller rfl hw').2.mpr
  rw [show (Sample.env (Sample.account 5) 2).blockTimestamp = 2 from rfl, hsettled] at hexact
  exact hexact (withdrawsLikeFirst_single _)

attribute [local instance] Pendzl.exact in
/-- **A list that starts with a deposit of zero withdraws without an allowance**: the whole
deposit of an account that approved nobody goes to the caller. -/
theorem multiOp_withdraws_unapproved :
    ∃ w w', Reachable (fun _ => True) 1 w
      ∧ w.execute (Sample.env (Sample.account 5) 2)
          (.multiOp [⟨.deposit, Sample.account 100, 0⟩, ⟨.withdraw, Sample.account 100, 400⟩]
            (Sample.account 3)) = .ok w'
      ∧ ¬AllowancesExact w w' (Sample.account 3) (Sample.account 5)
          ((w.pool.ledgerOf (Sample.env (Sample.account 5) 2) (Sample.account 3) 2).settle
            [⟨.deposit, Sample.account 100, 0⟩, ⟨.withdraw, Sample.account 100, 400⟩]).2 := by
  have hrun : (Sample.world.run depositor).map (fun w =>
        (w.execute (Sample.env (Sample.account 5) 2)
          (.multiOp [⟨.deposit, Sample.account 100, 0⟩, ⟨.withdraw, Sample.account 100, 400⟩]
            (Sample.account 3))).toOption.bind fun w' =>
          (w.pool.reserveAbacusTokens.get (Sample.account 100)).map fun tokens =>
            (w.allowance (tokens.address .aToken) (Sample.account 3) (Sample.account 5),
              spent Action.amount .aToken (Sample.account 100)
                ((w.pool.ledgerOf (Sample.env (Sample.account 5) 2) (Sample.account 3) 2).settle
                  [⟨.deposit, Sample.account 100, 0⟩, ⟨.withdraw, Sample.account 100, 400⟩]).2))
      = some (some (0, 400)) := by decide +kernel
  obtain ⟨w, hw, hreach, hv⟩ :=
    run_reaches (fun _ => True) Sample.world_isInitial (by decide) hrun
  obtain ⟨w', hw', hv⟩ := Option.bind_eq_some_iff.mp hv
  obtain ⟨tokens, htokens, hv⟩ := Option.map_eq_some_iff.mp hv
  obtain ⟨hbefore, hmoved⟩ := Prod.mk.inj hv
  refine ⟨w, w', hreach, toOption_eq_some.mp hw', fun hexact => ?_⟩
  -- an allowance of zero cannot decrease by `400`
  have hcharge := hexact (Sample.account 100) tokens htokens .aToken
  rw [hbefore, hmoved] at hcharge
  omega

end World

end AbaxLending
