import AbaxLending.Effects.TransferEvents

/-!
What the actions of a message settle, against what the loop of `multi_op` shows.

* `Ledger.settlements`: the actions of a message with the amounts and the interests with
  which they are settled, read off the ledger before the message;
* `accountForAccountActions_settlements`: these are what the pool returns, and they are the
  changes of the positions;
* `sum_shown_iff`: when what the loop shows for a list is what was settled (`NetsTrue`).
-/

namespace AbaxLending

open Outcome

/-! ### What is settled -/

/-- The actions of a list with the amounts with which they are settled and the interests
accrued for them: what the ledger shows when an action comes, less what is stored then. -/
def Ledger.settlements (stored shown : Ledger) : List Action → List (Action × (ℕ × ℕ))
  | [] => []
  | action :: rest =>
      ({ action with amount := action.settled (shown action.asset) },
        ((shown action.asset).deposit - (stored action.asset).deposit,
          (shown action.asset).debt - (stored action.asset).debt))
      :: settlements
          (Function.update stored action.asset (shown.enter action action.asset))
          (shown.enter action) rest

/-- An asset that is stored as it is shown has no interest to settle. -/
lemma Ledger.settlements_settled {stored shown : Ledger} {actions : List Action} {asset : AccountId}
    (h : stored asset = shown asset) :
    ∀ p ∈ stored.settlements shown actions, p.1.asset = asset → p.2 = (0, 0) := by
  induction actions generalizing stored shown with
  | nil =>
      intro p hp
      cases hp
  | cons action rest ih =>
      intro p hp hasset
      rw [settlements] at hp
      rcases List.mem_cons.mp hp with rfl | hp
      · have haction : action.asset = asset := hasset
        simp only [haction, h, Nat.sub_self]
      · refine ih ?_ p hp hasset
        by_cases haction : asset = action.asset
        · rw [haction, Function.update_self]
        · rw [Function.update_of_ne haction, h, Ledger.enter, Function.update_of_ne haction]

namespace LendingPoolStorage

/-- The ledger of an account as it is stored. -/
def storedOf (s : LendingPoolStorage) (account : AccountId) : Ledger := fun asset =>
  match s.assetToId.get asset with
  | some k => (s.position account k).holding
  | none => ⟨0, 0⟩

lemma storedOf_of_get {s : LendingPoolStorage} {account asset : AccountId} {k : ℕ}
    (h : s.assetToId.get asset = some k) :
    s.storedOf account asset = (s.position account k).holding := by
  rw [storedOf, h]

end LendingPoolStorage

section

variable [Pendzl]

/-- **A basic step changes a side by the interest and the amount.** -/
lemma Action.step_change {action : Action} {ctx : ReserveDataContext} {data : AccountReserveData}
    {config : AccountConfig} {feeReductions : FeeReductions} {st : Step}
    (h : action.step ctx data config feeReductions = .ok st) (side : Side) :
    (side.amount st.data : ℤ)
      = side.amount data + side.change { action with amount := st.amount } st.interests := by
  obtain ⟨op, asset, amount⟩ := action
  cases op with
  | deposit =>
      obtain ⟨a, ha, -, -, -, -, rfl⟩ := ReserveDataContext.accountForDeposit_ok h
      have hd := ReserveDataContext.accrual_deposit ha
      have hb := ReserveDataContext.accrual_debt ha
      cases side <;> simp only [Side.amount, Side.change, Side.pick, Side.move] <;> omega
  | withdraw =>
      obtain ⟨a, n, ha, -, -, -, hn, -, -, rfl⟩ := ReserveDataContext.accountForWithdraw_ok h
      have hd := ReserveDataContext.accrual_deposit ha
      have hb := ReserveDataContext.accrual_debt ha
      cases side <;> simp only [Side.amount, Side.change, Side.pick, Side.move] <;> omega
  | borrow =>
      obtain ⟨a, ha, -, -, -, -, -, rfl⟩ := ReserveDataContext.accountForBorrow_ok h
      have hd := ReserveDataContext.accrual_deposit ha
      have hb := ReserveDataContext.accrual_debt ha
      cases side <;> simp only [Side.amount, Side.change, Side.pick, Side.move] <;> omega
  | repay =>
      obtain ⟨a, n, ha, -, -, -, hn, -, -, -, rfl⟩ := ReserveDataContext.accountForRepay_ok h
      have hd := ReserveDataContext.accrual_deposit ha
      have hb := ReserveDataContext.accrual_debt ha
      cases side <;> simp only [Side.amount, Side.change, Side.pick, Side.move] <;> omega

/-- The interests of a basic step are those of its accrual. -/
lemma Action.step_interests {action : Action} {ctx : ReserveDataContext}
    {data : AccountReserveData} {config : AccountConfig} {feeReductions : FeeReductions} {st : Step}
    {a : Accrual} (ha : ctx.accrual data feeReductions = .ok a)
    (h : action.step ctx data config feeReductions = .ok st) :
    st.interests = (a.data.deposit - data.deposit, a.data.debt - data.debt) := by
  have hd := ReserveDataContext.accrual_deposit ha
  have hb := ReserveDataContext.accrual_debt ha
  have hdiff : (a.data.deposit - data.deposit, a.data.debt - data.debt)
      = (a.depositInterest, a.debtInterest) := by
    rw [hd, hb, Nat.add_sub_cancel_left, Nat.add_sub_cancel_left]
  rw [hdiff]
  obtain ⟨op, asset, amount⟩ := action
  cases op with
  | deposit =>
      obtain ⟨a', ha', -, -, -, -, rfl⟩ := ReserveDataContext.accountForDeposit_ok h
      cases ha.symm.trans ha'
      rfl
  | withdraw =>
      obtain ⟨a', n, ha', -, -, -, -, -, -, rfl⟩ := ReserveDataContext.accountForWithdraw_ok h
      cases ha.symm.trans ha'
      rfl
  | borrow =>
      obtain ⟨a', ha', -, -, -, -, -, rfl⟩ := ReserveDataContext.accountForBorrow_ok h
      cases ha.symm.trans ha'
      rfl
  | repay =>
      obtain ⟨a', n, ha', -, -, -, -, -, -, -, rfl⟩ := ReserveDataContext.accountForRepay_ok h
      cases ha.symm.trans ha'
      rfl

namespace LendingPoolStorage

variable {s s' : LendingPoolStorage} {env : Env} {account : AccountId} {t : ℕ}

/-- The step lemma of the settlements. -/
lemma applyAction_settlement {st st' : AccountActionsState} {action action' : Action}
    {interests : ℕ × ℕ} (hids : st.storage.IdsUnique)
    (h : st.applyAction (st.storage.getFeeReductionsOfAccount env account) t action
      = .ok (st', action', interests)) :
    interests
        = (((st.flush account).ledgerOf env account t action.asset).deposit
            - ((st.flush account).storedOf account action.asset).deposit,
          ((st.flush account).ledgerOf env account t action.asset).debt
            - ((st.flush account).storedOf account action.asset).debt)
      ∧ (st'.flush account).storedOf account
        = Function.update ((st.flush account).storedOf account) action.asset
          (((st.flush account).ledgerOf env account t).enter action action.asset)
      ∧ (∀ asset j (side : Side), st.storage.assetToId.get asset = some j →
        (side.amount ((st'.flush account).position account j) : ℤ)
          = side.amount ((st.flush account).position account j)
            + if action'.asset = asset then side.change action' interests else 0)
      ∧ ∃ k, st.storage.assetToId.get action'.asset = some k := by
  obtain ⟨-, hledger⟩ := applyAction_ledger hids h
  obtain ⟨k, ctx, res, rd, i, e, hk, hlen, hopen, hstep, -, hact, hinterests, hst'⟩ :=
    AccountActionsState.applyAction_ok h
  obtain ⟨a, ha, hamount, hholding, -, -, -⟩ := Action.step_settles hstep
  have hshown := flush_ledgerOf hk hopen ha
  have hids' : ∀ asset, (st.flush account).assetToId.get asset = st.storage.assetToId.get asset :=
    fun _ => rfl
  have hstored : (st.flush account).storedOf account action.asset = (st.position k).holding := by
    rw [storedOf_of_get (hids' _ ▸ hk), AccountActionsState.flush_position_self]
  have hmoved : ∀ a j, (st'.flush account).position a j
      = if a = account ∧ j = k then res.data else (st.flush account).position a j :=
    AccountActionsState.flush_position_set hlen (hst' ▸ rfl) (hst' ▸ rfl)
  have hposition : ∀ j, (st'.flush account).position account j
      = if j = k then res.data else (st.flush account).position account j := by
    intro j
    rw [hmoved]
    simp only [true_and]
  refine ⟨?_, ?_, fun asset j side hj => ?_, k, by rw [hact, hk]⟩
  · rw [hinterests, Action.step_interests ha hstep, hshown, hstored]
    rfl
  · have hassets : ∀ asset, (st'.flush account).assetToId.get asset
        = st.storage.assetToId.get asset := by
      intro asset
      rw [hst']
      rfl
    funext asset
    by_cases hasset : asset = action.asset
    · rw [hasset, Function.update_self, storedOf_of_get ((hassets _).trans hk), hposition,
        if_pos rfl, hholding, Ledger.enter, Function.update_self, hshown, hamount]
    · rw [Function.update_of_ne hasset, storedOf, storedOf, hassets, hids']
      cases hj : st.storage.assetToId.get asset with
      | none => rfl
      | some j =>
          have hjk : j ≠ k := by
            rintro rfl
            exact hasset (hids.inj asset action.asset j hj hk)
          simp only [hposition, if_neg hjk]
  · have hiff : action'.asset = asset ↔ j = k := by
      rw [hact]
      constructor
      · rintro rfl
        exact Option.some.inj (hj.symm.trans hk)
      · rintro rfl
        exact hids.inj action.asset asset j hk hj
    rw [hposition, if_congr hiff rfl rfl]
    split_ifs with hjk
    · have hchange := Action.step_change hstep side
      rw [hchange, hjk, AccountActionsState.flush_position_self, hact, hinterests]
    · rw [add_zero]

/-- **The run lemma of the settlements**: the loop returns what the ledger says, and this is
how the positions of the account change. -/
lemma applyActions_settlements {st st' : AccountActionsState} {actions actions' : List Action}
    {results : List (ℕ × ℕ)} {feeReductions : FeeReductions} (hids : st.storage.IdsUnique)
    (hreductions : feeReductions = st.storage.getFeeReductionsOfAccount env account)
    (h : st.applyActions feeReductions t actions = .ok (st', actions', results)) :
    actions'.zip results
        = ((st.flush account).storedOf account).settlements
          ((st.flush account).ledgerOf env account t) actions
      ∧ (∀ asset j (side : Side), st.storage.assetToId.get asset = some j →
        (side.amount ((st'.flush account).position account j) : ℤ)
          = side.amount ((st.flush account).position account j)
            + sumOn asset side.change (actions'.zip results))
      ∧ ∀ p ∈ actions'.zip results, ∃ k, st.storage.assetToId.get p.1.asset = some k := by
  induction actions generalizing st actions' results with
  | nil =>
      obtain ⟨rfl, rfl, rfl⟩ := AccountActionsState.applyActions_nil_ok h
      refine ⟨rfl, fun _ _ _ _ => (add_zero _).symm, fun p hp => ?_⟩
      cases hp
  | cons action rest ih =>
      obtain ⟨st₁, action₁, interests₁, rest₂, results₂, h₁, h₂, rfl, rfl⟩ :=
        AccountActionsState.applyActions_cons_ok h
      have hkeeps := applyAction_keepsRegistry h₁
      subst hreductions
      obtain ⟨hamount, hledger⟩ := applyAction_ledger hids h₁
      obtain ⟨hinterests, hstored, hchange, hregistered⟩ := applyAction_settlement hids h₁
      have hreductions : st.storage.getFeeReductionsOfAccount env account
          = st₁.storage.getFeeReductionsOfAccount env account := by
        obtain ⟨_, _, _, _, _, _, -, -, -, -, -, -, -, rfl⟩ :=
          AccountActionsState.applyAction_ok h₁
        rfl
      obtain ⟨hrest, hchanges, hids₂⟩ := ih (hids.keepsRegistry hkeeps) hreductions h₂
      refine ⟨?_, fun asset j side hj => ?_, fun p hp => ?_⟩
      · rw [List.zip_cons_cons, hrest, hstored, hledger, Ledger.settlements, hamount, hinterests]
      · have hj₁ : st₁.storage.assetToId.get asset = some j := hkeeps.assetToId.symm ▸ hj
        rw [hchanges asset j side hj₁, hchange asset j side hj, List.zip_cons_cons, sumOn_cons,
          add_assoc]
      · rw [List.zip_cons_cons] at hp
        rcases List.mem_cons.mp hp with rfl | hp
        · exact hregistered
        · exact hkeeps.assetToId ▸ hids₂ p hp

/-- What a list of actions returns, and what it changes. -/
lemma accountForAccountActions_settlements {actions : List Action} {res : AccountActionsResult}
    (hids : s.IdsUnique) (h : s.accountForAccountActions env account actions = .ok res) :
    res.actions.zip res.interests
        = (s.storedOf account).settlements (s.ledgerOf env account env.blockTimestamp) actions
      ∧ (∀ asset j (side : Side) holder, s.assetToId.get asset = some j →
        (side.amount (res.storage.position holder j) : ℤ) = side.amount (s.position holder j)
          + if account = holder then sumOn asset side.change (res.actions.zip res.interests)
            else 0)
      ∧ ∀ p ∈ res.actions.zip res.interests, ∃ k, s.assetToId.get p.1.asset = some k := by
  obtain ⟨st, hst, -, hs⟩ := accountForAccountActions_ok h
  obtain ⟨hsettled, hchange, hregistered⟩ := applyActions_settlements hids rfl hst
  have hposition : ∀ j, ((s.startActions account).flush account).position account j
      = s.position account j := startActions_flush_position account account
  have hstored : ((s.startActions account).flush account).storedOf account
      = s.storedOf account := by
    funext asset
    have hassets : ((s.startActions account).flush account).assetToId = s.assetToId := rfl
    rw [storedOf, storedOf, hassets]
    simp only [hposition]
  refine ⟨by rw [hsettled, hstored, startActions_ledgerOf], fun asset j side holder hj => ?_,
    hregistered⟩
  split_ifs with hholder
  · subst hholder
    rw [hs, hchange asset j side hj, hposition]
  · have hother : ∀ st₂ : AccountActionsState, st₂.storage.position holder j
        = s.position holder j → (st₂.flush account).position holder j = s.position holder j := by
      intro st₂ h₂
      rw [AccountActionsState.flush_position_of_ne _ (Ne.symm hholder), h₂]
    have hkeep : st.storage.position holder j = s.position holder j := by
      refine AccountActionsState.applyActions_induct
        (P := fun st₂ => st₂.storage.position holder j = s.position holder j)
        (fun st₁ action st₂ action' interests h₁ h₂ => ?_) hst rfl
      obtain ⟨_, _, _, _, _, _, -, -, -, -, -, -, -, rfl⟩ := AccountActionsState.applyAction_ok h₂
      exact h₁
    rw [hs, hother st hkeep, add_zero]

end LendingPoolStorage

end

/-! ### What the loop shows -/

section

variable {f g : Action → ℕ × ℕ → ℤ} {l : List (Action × (ℕ × ℕ))} {asset : AccountId}

lemma sumOn_congr (h : ∀ p ∈ l, p.1.asset = asset → f p.1 p.2 = g p.1 p.2) :
    sumOn asset f l = sumOn asset g l := by
  induction l with
  | nil => rfl
  | cons p rest ih =>
      have hrest := ih fun q hq => h q (List.mem_cons_of_mem _ hq)
      rw [sumOn_cons, sumOn_cons, hrest]
      congr 1
      split_ifs with hp
      · exact h p (List.mem_cons_self ..) hp
      · rfl

/-- Nothing is summed over an asset without actions. -/
lemma sumOn_of_not_mem (h : ∀ p ∈ l, p.1.asset ≠ asset) : sumOn asset f l = 0 := by
  induction l with
  | nil => rfl
  | cons p rest ih =>
      rw [sumOn_cons, if_neg (h p (List.mem_cons_self ..)), zero_add]
      exact ih fun q hq => h q (List.mem_cons_of_mem _ hq)

lemma sumOn_sub : sumOn asset (fun action interests => f action interests - g action interests) l
    = sumOn asset f l - sumOn asset g l := by
  induction l with
  | nil => rfl
  | cons p rest ih =>
      simp only [sumOn_cons, ih]
      split_ifs <;> ring

end

/-- What the loop shows of a side beyond what was settled. -/
def Side.excess (side : Side) (spender account : AccountId) (first : ℕ) (action : Action)
    (interests : ℕ × ℕ) : ℤ :=
  side.shown spender account first action interests - side.change action interests

/-- By how much the amount of an action of an operation exceeds the one of the first action. -/
def beyondFirst (op : Operation) (first : ℕ) (action : Action) (_ : ℕ × ℕ) : ℤ :=
  if action.op = op then action.amount - first else 0

/-- The condition under which what the loop shows of a list is what was settled: on every asset
the withdrawals, and the repayments, move in sum as much as if each moved the amount of the
first action, and a spender other than the account shows no withdrawal beyond the interest. -/
structure NetsTrue (spender account : AccountId) (l : List (Action × (ℕ × ℕ))) : Prop where
  withdrawn : ∀ asset, sumOn asset (beyondFirst .withdraw (firstAmount (l.map Prod.fst))) l = 0
  repaid : ∀ asset, sumOn asset (beyondFirst .repay (firstAmount (l.map Prod.fst))) l = 0
  minted : spender ≠ account → ∀ p ∈ l, p.1.op = .withdraw →
    firstAmount (l.map Prod.fst) ≤ p.2.1

section

variable {spender account asset : AccountId} {first : ℕ} {l : List (Action × (ℕ × ℕ))}

/-- On the side of the debt the loop is off by the repayments. -/
lemma excess_debt (action : Action) (interests : ℕ × ℕ) :
    Side.debt.excess spender account first action interests
      = beyondFirst .repay first action interests := by
  obtain ⟨op, b, n⟩ := action
  cases op <;> simp [Side.excess, Side.shown, Side.change, Side.move, Action.charge, beyondFirst]
  ring

/-- What the loop shows of a withdrawal beyond what was settled. -/
lemma excess_withdraw {action : Action} {interests : ℕ × ℕ} (hop : action.op = .withdraw) :
    Side.deposit.excess spender account first action interests
      = chargedNet spender account ((interests.1 : ℤ) - first)
        - ((interests.1 : ℤ) - action.amount) := by
  obtain ⟨op, b, n⟩ := action
  cases hop
  rfl

/-- On the side of the deposit it is off by the withdrawals, as long as these are shown with
their sign. -/
lemma excess_deposit {action : Action} {interests : ℕ × ℕ}
    (h : action.op = .withdraw → spender = account ∨ first ≤ interests.1) :
    Side.deposit.excess spender account first action interests
      = beyondFirst .withdraw first action interests := by
  by_cases hop : action.op = .withdraw
  · have hsign : spender = account ∨ (0 : ℤ) ≤ interests.1 - first := by
      rcases h hop with heq | hle
      · exact .inl heq
      · exact .inr (by omega)
    rw [excess_withdraw hop, chargedNet_of_sign hsign, beyondFirst, if_pos hop]
    ring
  · rw [beyondFirst, if_neg hop]
    obtain ⟨op, b, n⟩ := action
    cases op with
    | withdraw => exact absurd rfl hop
    | _ => exact sub_self _

/-- A withdrawal beyond the interest that another spender shows is off by almost `2 ^ 128`. -/
lemma excess_charged {action : Action} {interests : ℕ × ℕ} (hs : spender ≠ account)
    (hop : action.op = .withdraw) (hlt : interests.1 < first) :
    Side.deposit.excess spender account first action interests
      = first + action.amount - 2 ^ 128 - 2 * interests.1 := by
  rw [excess_withdraw hop, chargedNet_of_neg hs (by omega)]
  ring

lemma excess_other {action : Action} {interests : ℕ × ℕ} (hop : action.op ≠ .withdraw) :
    Side.deposit.excess spender account first action interests = 0 := by
  rw [excess_deposit fun h => absurd h hop, beyondFirst, if_neg hop]

/-- What is shown of one action exceeds what was settled by less than `2 ^ 127`. -/
lemma excess_lt {action : Action} {interests : ℕ × ℕ} (hs : spender ≠ account)
    (hfirst : Small first) (hamount : Small action.amount) :
    Side.deposit.excess spender account first action interests < 2 ^ 127 - first := by
  rw [Small] at hfirst hamount
  by_cases hop : action.op = .withdraw
  · by_cases hle : first ≤ interests.1
    · rw [excess_deposit fun _ => .inr hle, beyondFirst, if_pos hop]
      omega
    · rw [excess_charged hs hop (by omega)]
      omega
  · rw [excess_other hop]
    omega

/-- Once the interest of an asset is settled, its withdrawals only add to what is missing. -/
lemma excess_settled (hs : spender ≠ account) (hpos : 0 < first) (hfirst : Small first)
    (hfits : ∀ p ∈ l, Small p.1.amount) (hzero : ∀ p ∈ l, p.1.asset = asset → p.2 = (0, 0)) :
    sumOn asset (Side.deposit.excess spender account first) l ≤ 0
      ∧ ((∃ p ∈ l, p.1.asset = asset ∧ p.1.op = .withdraw) →
        sumOn asset (Side.deposit.excess spender account first) l < first - 2 ^ 127) := by
  induction l with
  | nil =>
      refine ⟨le_rfl, ?_⟩
      rintro ⟨p, hp, -⟩
      cases hp
  | cons p rest ih =>
      obtain ⟨hle, hlt⟩ := ih (fun q hq => hfits q (List.mem_cons_of_mem _ hq))
        fun q hq => hzero q (List.mem_cons_of_mem _ hq)
      have hamount := hfits p (List.mem_cons_self ..)
      rw [Small] at hfirst hamount
      rw [sumOn_cons]
      by_cases hp : p.1.asset = asset ∧ p.1.op = .withdraw
      · have hinterest : p.2 = (0, 0) := hzero p (List.mem_cons_self ..) hp.1
        have hlt' : p.2.1 < first := by
          rw [hinterest]
          exact hpos
        rw [if_pos hp.1, excess_charged hs hp.2 hlt', hinterest]
        simp only [Nat.cast_zero, mul_zero, sub_zero]
        exact ⟨by omega, fun _ => by omega⟩
      · have hexcess : (if p.1.asset = asset
            then Side.deposit.excess spender account first p.1 p.2 else 0) = 0 := by
          split_ifs with hasset
          · exact excess_other fun hop => hp ⟨hasset, hop⟩
          · rfl
        rw [hexcess, zero_add]
        refine ⟨hle, ?_⟩
        rintro ⟨q, hq, hqp⟩
        rcases List.mem_cons.mp hq with rfl | hq
        · exact absurd hqp hp
        · exact hlt ⟨q, hq, hqp⟩

/-- The first action on an asset settles its interest, and the later ones do not make up for
what it misses, or it for what they miss. -/
lemma excess_cons_neg {p : Action × (ℕ × ℕ)} (hs : spender ≠ account) (hfirst : Small first)
    (hfits : ∀ q ∈ p :: l, Small q.1.amount) (hp : p.1.asset = asset)
    (hzero : ∀ q ∈ l, q.1.asset = asset → q.2 = (0, 0))
    (hbad : ∃ q ∈ p :: l, q.1.asset = asset ∧ q.1.op = .withdraw ∧ q.2.1 < first) :
    sumOn asset (Side.deposit.excess spender account first) (p :: l) < 0 := by
  obtain ⟨q, hq, hasset, hop, hlt⟩ := hbad
  have hhead := hfits p (List.mem_cons_self ..)
  obtain ⟨hle, hwithdraw⟩ := excess_settled hs (by omega) hfirst
    (fun q hq => hfits q (List.mem_cons_of_mem _ hq)) hzero
  rw [sumOn_cons, if_pos hp]
  rcases List.mem_cons.mp hq with rfl | hq
  · rw [Small] at hfirst hhead
    rw [excess_charged hs hop hlt]
    omega
  · have htail := hwithdraw ⟨q, hq, hasset, hop⟩
    have hmore : Side.deposit.excess spender account first p.1 p.2 < 2 ^ 127 - first :=
      excess_lt hs hfirst hhead
    omega

/-- A withdrawal beyond the interest that another spender shows cannot be made up for. -/
lemma excess_neg (hs : spender ≠ account) (hfirst : Small first) {stored shown : Ledger}
    {actions : List Action}
    (hfits : ∀ p ∈ stored.settlements shown actions, Small p.1.amount)
    (hbad : ∃ p ∈ stored.settlements shown actions, p.1.asset = asset ∧ p.1.op = .withdraw
      ∧ p.2.1 < first) :
    sumOn asset (Side.deposit.excess spender account first) (stored.settlements shown actions)
      < 0 := by
  induction actions generalizing stored shown with
  | nil =>
      obtain ⟨p, hp, -⟩ := hbad
      cases hp
  | cons action rest ih =>
      rw [Ledger.settlements] at hbad hfits ⊢
      by_cases haction : action.asset = asset
      · refine excess_cons_neg hs hfirst hfits haction ?_ hbad
        refine Ledger.settlements_settled ?_
        rw [← haction, Function.update_self]
      · obtain ⟨p, hp, hasset, hop, hlt⟩ := hbad
        rw [sumOn_cons, if_neg haction, zero_add]
        rcases List.mem_cons.mp hp with rfl | hp
        · exact absurd hasset haction
        · exact ih (fun q hq => hfits q (List.mem_cons_of_mem _ hq)) ⟨p, hp, hasset, hop, hlt⟩

/-- **When the loop shows what was settled.** -/
theorem sum_shown_iff {stored shown : Ledger} {actions : List Action}
    (hl : l = stored.settlements shown actions) (hfits : ∀ p ∈ l, p.1.Fits p.2) :
    (∀ asset, (∃ p ∈ l, p.1.asset = asset) → ∀ side : Side,
      sumOn asset (side.shown spender account (firstAmount (l.map Prod.fst))) l
        = sumOn asset side.change l)
    ↔ NetsTrue spender account l := by
  have hsmall : ∀ p ∈ l, Small p.1.amount := fun p hp => (hfits p hp).amount
  have hfirst : Small (firstAmount (l.map Prod.fst)) := by
    cases l with
    | nil => exact Nat.two_pow_pos 127
    | cons p rest => exact hsmall p (List.mem_cons_self ..)
  -- an asset without actions is not off
  have hexcess : ∀ side : Side, (∀ asset, (∃ p ∈ l, p.1.asset = asset) →
        sumOn asset (side.shown spender account (firstAmount (l.map Prod.fst))) l
          = sumOn asset side.change l)
      ↔ ∀ asset, sumOn asset (side.excess spender account (firstAmount (l.map Prod.fst))) l
        = 0 := by
    intro side
    have hsub : ∀ asset, sumOn asset (side.excess spender account (firstAmount (l.map Prod.fst))) l
        = sumOn asset (side.shown spender account (firstAmount (l.map Prod.fst))) l
          - sumOn asset side.change l := fun asset => sumOn_sub
    constructor
    · intro h asset
      by_cases hmem : ∃ p ∈ l, p.1.asset = asset
      · rw [hsub, h asset hmem, sub_self]
      · exact sumOn_of_not_mem fun p hp hasset => hmem ⟨p, hp, hasset⟩
    · intro h asset _
      exact sub_eq_zero.mp ((hsub asset).symm.trans (h asset))
  have hdebt : ∀ asset, sumOn asset
        (Side.debt.excess spender account (firstAmount (l.map Prod.fst))) l
      = sumOn asset (beyondFirst .repay (firstAmount (l.map Prod.fst))) l :=
    fun asset => sumOn_congr fun p _ _ => excess_debt p.1 p.2
  have hdeposit : (spender ≠ account → ∀ p ∈ l, p.1.op = .withdraw →
        firstAmount (l.map Prod.fst) ≤ p.2.1) → ∀ asset, sumOn asset
        (Side.deposit.excess spender account (firstAmount (l.map Prod.fst))) l
      = sumOn asset (beyondFirst .withdraw (firstAmount (l.map Prod.fst))) l :=
    fun hminted asset => sumOn_congr fun p hp _ => excess_deposit fun hop =>
      or_iff_not_imp_left.mpr fun hs => hminted hs p hp hop
  constructor
  · intro h
    have hb := (hexcess .debt).mp fun asset hmem => h asset hmem .debt
    have hd := (hexcess .deposit).mp fun asset hmem => h asset hmem .deposit
    have hminted : spender ≠ account → ∀ p ∈ l, p.1.op = .withdraw →
        firstAmount (l.map Prod.fst) ≤ p.2.1 := by
      intro hs p hp hop
      by_contra hlt
      have hneg : sumOn p.1.asset
          (Side.deposit.excess spender account (firstAmount (l.map Prod.fst))) l < 0 := by
        have hbad : ∃ q ∈ l, q.1.asset = p.1.asset ∧ q.1.op = .withdraw
            ∧ q.2.1 < firstAmount (l.map Prod.fst) := ⟨p, hp, rfl, hop, not_le.mp hlt⟩
        generalize firstAmount (l.map Prod.fst) = first at hfirst hbad ⊢
        subst hl
        exact excess_neg hs hfirst hsmall hbad
      exact hneg.ne (hd p.1.asset)
    exact ⟨fun asset => hdeposit hminted asset ▸ hd asset, fun asset => hdebt asset ▸ hb asset,
      hminted⟩
  · intro h asset hmem side
    cases side with
    | deposit =>
        exact (hexcess .deposit).mpr (fun asset => (hdeposit h.minted asset).trans
          (h.withdrawn asset)) asset hmem
    | debt =>
        exact (hexcess .debt).mpr (fun asset => (hdebt asset).trans (h.repaid asset)) asset hmem

end

end AbaxLending
