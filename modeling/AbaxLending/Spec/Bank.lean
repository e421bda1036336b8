import AbaxLending.Spec.Interest
import AbaxLending.Spec.Ledger
import AbaxLending.Lib.Rounding

/-!
The pool as a bank.

Who looks at balances only sees a bank: an account has a deposit and a debt in each asset, both
grow with time, and a message moves them by its own amounts.  The pool stores other things,
amounts of some time in the past with the indexes of that time.

* `Bank`, `Bank.Serves`, `Bank.Run`: the bank, what a message does to it, and its runs;
* `Holding.Follows`: what can become of a holding when some operations were done on it, with
  the lemma about a run of the bank;
* `indexesAt`, `holdingAt`, `bankAt`: the bank that a storage stands for at a time, in exact
  arithmetic without bounds.
-/

namespace AbaxLending

open Outcome

/-! ### Banks -/

/-- Interest: no amount gets smaller, and nothing comes out of nothing. -/
structure Holding.Grows (holding holding' : Holding) : Prop where
  deposit : holding.deposit ≤ holding'.deposit
  debt : holding.debt ≤ holding'.debt
  deposit_zero : holding.deposit = 0 → holding'.deposit = 0
  debt_zero : holding.debt = 0 → holding'.debt = 0

lemma Holding.Grows.refl (self : Holding) : self.Grows self := ⟨le_rfl, le_rfl, id, id⟩

/-- What becomes of a holding when some operations were done on it: a deposit gets smaller by
withdrawals only, a debt by repayments only, and neither comes out of nothing. -/
structure Holding.Follows (done : Operation → Prop) (holding holding' : Holding) : Prop where
  withdraw : ¬ done .withdraw → holding.deposit ≤ holding'.deposit
  repay : ¬ done .repay → holding.debt ≤ holding'.debt
  deposit : ¬ done .deposit → holding.deposit = 0 → holding'.deposit = 0
  borrow : ¬ done .borrow → holding.debt = 0 → holding'.debt = 0

namespace Holding

variable {self mid holding : Holding} {done done' : Operation → Prop}

lemma Follows.refl (done : Operation → Prop) (self : Holding) : Follows done self self :=
  ⟨fun _ => le_rfl, fun _ => le_rfl, fun _ => id, fun _ => id⟩

lemma Follows.trans (h : Follows done self mid) (h' : Follows done mid holding) :
    Follows done self holding where
  withdraw hd := (h.withdraw hd).trans (h'.withdraw hd)
  repay hd := (h.repay hd).trans (h'.repay hd)
  deposit hd hzero := h'.deposit hd (h.deposit hd hzero)
  borrow hd hzero := h'.borrow hd (h.borrow hd hzero)

lemma Follows.mono (h : Follows done self holding) (hsub : ∀ op, done op → done' op) :
    Follows done' self holding where
  withdraw hd := h.withdraw fun hop => hd (hsub _ hop)
  repay hd := h.repay fun hop => hd (hsub _ hop)
  deposit hd := h.deposit fun hop => hd (hsub _ hop)
  borrow hd := h.borrow fun hop => hd (hsub _ hop)

/-- Interest is no operation. -/
lemma Grows.follows (h : self.Grows holding) (done : Operation → Prop) :
    Follows done self holding :=
  ⟨fun _ => h.deposit, fun _ => h.debt, fun _ => h.deposit_zero, fun _ => h.debt_zero⟩

/-- An amount that is entered is an operation of its kind. -/
lemma enter_follows (self : Holding) (op : Operation) (amount : ℕ) :
    Follows (op = ·) self (self.enter op amount) := by
  cases op with
  | deposit =>
      exact ⟨fun _ => Nat.le_add_right .., fun _ => le_rfl, fun h => absurd rfl h, fun _ => id⟩
  | withdraw =>
      refine ⟨fun h => absurd rfl h, fun _ => le_rfl, fun _ hzero => ?_, fun _ => id⟩
      show self.deposit - amount = 0
      omega
  | borrow =>
      exact ⟨fun _ => le_rfl, fun _ => Nat.le_add_right .., fun _ => id, fun h => absurd rfl h⟩
  | repay =>
      refine ⟨fun _ => le_rfl, fun h => absurd rfl h, fun _ => id, fun _ hzero => ?_⟩
      show self.debt - amount = 0
      omega

end Holding

/-- What an action does to the ledger in its asset. -/
lemma Ledger.enter_of_settled (self : Ledger) {action : Action} {asset : AccountId} {amount : ℕ}
    (hasset : action.asset = asset) (hsettled : action.settled (self asset) = amount) :
    self.enter action asset = (self asset).enter action.op amount := by
  subst hasset hsettled
  exact Function.update_self ..

/-- An action keeps the ledger in the other assets. -/
lemma Ledger.enter_of_ne (self : Ledger) {action : Action} {asset : AccountId}
    (h : asset ≠ action.asset) : self.enter action asset = self asset :=
  Function.update_of_ne h ..

/-- Actions that are settled are operations on their assets. -/
lemma Ledger.settle_follows (self : Ledger) (actions : List Action) (asset : AccountId) :
    Holding.Follows (fun op => ∃ action ∈ actions, action.op = op ∧ action.asset = asset)
      (self asset) ((self.settle actions).1 asset) := by
  induction actions generalizing self with
  | nil => exact .refl _ _
  | cons action rest ih =>
      have hfirst : Holding.Follows
          (fun op => ∃ a ∈ action :: rest, a.op = op ∧ a.asset = asset) (self asset)
          (self.enter action asset) := by
        by_cases hasset : asset = action.asset
        · rw [self.enter_of_settled hasset.symm rfl]
          exact (Holding.enter_follows _ _ _).mono fun op hop =>
            ⟨action, List.mem_cons_self, hop, hasset.symm⟩
        · rw [self.enter_of_ne hasset]
          exact .refl _ _
      refine hfirst.trans ((ih (self.enter action)).mono fun op hop => ?_)
      obtain ⟨a, ha, hop⟩ := hop
      exact ⟨a, List.mem_cons_of_mem action ha, hop⟩

/-- Assets without actions keep their holdings. -/
lemma Ledger.settle_of_ne (self : Ledger) {actions : List Action} {asset : AccountId}
    (h : ∀ action ∈ actions, action.asset ≠ asset) :
    (self.settle actions).1 asset = self asset := by
  induction actions generalizing self with
  | nil => rfl
  | cons action rest ih =>
      have hfirst : self.enter action asset = self asset :=
        self.enter_of_ne (h action List.mem_cons_self).symm
      rw [← hfirst]
      exact ih (self.enter action) fun a ha => h a (List.mem_cons_of_mem action ha)

/-- The operations of a message of a caller, each with its account and its asset. -/
def Message.operations (caller : AccountId) (message : Message) :
    List (AccountId × Operation × AccountId) :=
  match message with
  | .liquidate liquidated assetToRepay assetToTake _ _ =>
      [(liquidated, .repay, assetToRepay), (liquidated, .withdraw, assetToTake),
        (caller, .deposit, assetToTake)]
  | message =>
      match message.userActions with
      | some (account, actions) => actions.map fun action => (account, action.op, action.asset)
      | none => []

lemma Message.operations_of_userActions {message : Message} {account : AccountId}
    {actions : List Action} (h : message.userActions = some (account, actions))
    (caller : AccountId) : message.operations caller
      = actions.map fun action => (account, action.op, action.asset) := by
  cases message <;> simp_all [operations, userActions]

/-- What all accounts have and owe. -/
abbrev Bank := AccountId → Ledger

namespace Bank

/-- The bank without customers. -/
def empty : Bank := fun _ _ => ⟨0, 0⟩

/-- The actions of an account entered in its ledger. -/
def act (self : Bank) (account : AccountId) (actions : List Action) : Bank :=
  Function.update self account ((self account).settle actions).1

/-- Time passes. -/
def Grows (self bank : Bank) : Prop :=
  ∀ account asset, (self account asset).Grows (bank account asset)

/-- What a message of a caller does: actions are entered in one ledger, a liquidation moves
amounts that are there, and nothing else has an effect. -/
inductive Serves (caller : AccountId) : Message → Bank → Bank → Prop
  | actions (self : Bank) {message : Message} {account : AccountId} {actions : List Action} :
      message.userActions = some (account, actions) →
      Serves caller message self (self.act account actions)
  | liquidate (self : Bank) {liquidated assetToRepay assetToTake : AccountId}
      {amount minimum repaid taken : ℕ} :
      repaid ≤ amount → repaid ≤ (self liquidated assetToRepay).debt →
      taken ≤ (self liquidated assetToTake).deposit →
      Serves caller (.liquidate liquidated assetToRepay assetToTake amount minimum) self
        ((self.act liquidated [⟨.repay, assetToRepay, repaid⟩, ⟨.withdraw, assetToTake, taken⟩]).act
          caller [⟨.deposit, assetToTake, taken⟩])
  | quiet (self : Bank) {message : Message} :
      message.userActions = none → message.isLiquidate = false → Serves caller message self self

/-- The runs of a bank: before each message some time passes. -/
inductive Run (start : Bank) : List (Env × Message) → Bank → Prop
  | start : Run start [] start
  | message {before : List (Env × Message)} {env : Env} {message : Message}
      {bank grown served : Bank} : Run start before bank → bank.Grows grown →
      Serves env.caller message grown served → Run start (before ++ [(env, message)]) served

variable {start self bank : Bank} {message : Message} {caller account asset : AccountId}

/-- Actions of an account are operations on its holdings. -/
lemma act_follows (self : Bank) (customer : AccountId) (actions : List Action)
    (account asset : AccountId) :
    Holding.Follows (fun op => customer = account ∧ ∃ a ∈ actions, a.op = op ∧ a.asset = asset)
      (self account asset) (self.act customer actions account asset) := by
  rw [act]
  by_cases hcustomer : account = customer
  · subst hcustomer
    rw [Function.update_self]
    exact (Ledger.settle_follows _ _ _).mono fun op hop => ⟨rfl, hop⟩
  · rw [Function.update_of_ne hcustomer]
    exact .refl _ _

/-- A message does its operations. -/
lemma Serves.follows (h : Serves caller message self bank) (account asset : AccountId) :
    Holding.Follows (fun op => (account, op, asset) ∈ message.operations caller)
      (self account asset) (bank account asset) := by
  cases h with
  | actions _ hactions =>
      refine (act_follows ..).mono fun op hop => ?_
      obtain ⟨rfl, action, haction, rfl, rfl⟩ := hop
      rw [Message.operations_of_userActions hactions]
      exact List.mem_map_of_mem haction
  | liquidate _ _ _ =>
      refine ((act_follows ..).mono fun op hop => ?_).trans
        ((act_follows ..).mono fun op hop => ?_)
      · obtain ⟨rfl, action, haction, rfl, rfl⟩ := hop
        simp only [List.mem_cons, List.not_mem_nil, or_false] at haction
        rcases haction with rfl | rfl <;> simp [Message.operations]
      · obtain ⟨rfl, action, haction, rfl, rfl⟩ := hop
        simp only [List.mem_cons, List.not_mem_nil, or_false] at haction
        subst haction
        simp [Message.operations]
  | quiet _ _ => exact .refl _ _

/-- Actions of others, or on other assets, keep a holding. -/
lemma act_of_ne (self : Bank) {customer : AccountId} {actions : List Action}
    (h : customer = account → ∀ action ∈ actions, action.asset ≠ asset) :
    self.act customer actions account asset = self account asset := by
  rw [act]
  by_cases hcustomer : account = customer
  · subst hcustomer
    rw [Function.update_self, Ledger.settle_of_ne _ (h rfl)]
  · rw [Function.update_of_ne hcustomer]

/-- **The frame of a message**: a holding without an operation stays. -/
lemma Serves.frame (h : Serves caller message self bank)
    (hframe : ∀ op, (account, op, asset) ∉ message.operations caller) :
    bank account asset = self account asset := by
  cases h with
  | actions _ hactions =>
      refine act_of_ne self fun hcustomer action haction hasset => hframe action.op ?_
      rw [Message.operations_of_userActions hactions, ← hcustomer, ← hasset]
      exact List.mem_map_of_mem haction
  | liquidate _ _ _ =>
      refine (act_of_ne _ fun hcustomer action haction hasset => ?_).trans
        (act_of_ne _ fun hcustomer action haction hasset => ?_)
      · refine hframe action.op ?_
        simp only [List.mem_cons, List.not_mem_nil, or_false] at haction
        subst haction
        simp [Message.operations, ← hcustomer, ← hasset]
      · refine hframe action.op ?_
        simp only [List.mem_cons, List.not_mem_nil, or_false] at haction
        rcases haction with rfl | rfl <;> simp [Message.operations, ← hcustomer, ← hasset]
  | quiet _ _ => rfl

/-- **What was not asked for did not happen**: along a run a holding changes by interest and
by the operations on it. -/
lemma Run.follows {messages : List (Env × Message)} (h : Run start messages bank)
    (account asset : AccountId) :
    Holding.Follows (fun op => ∃ m ∈ messages, (account, op, asset) ∈ m.2.operations m.1.caller)
      (start account asset) (bank account asset) := by
  induction h with
  | start => exact .refl _ _
  | message hbefore hgrows hserves ih =>
      refine ((ih.mono fun op hop => ?_).trans ((hgrows account asset).follows _)).trans
        ((hserves.follows account asset).mono fun op hop => ?_)
      · obtain ⟨m, hm, hop⟩ := hop
        exact ⟨m, List.mem_append_left _ hm, hop⟩
      · exact ⟨_, List.mem_append_right _ List.mem_cons_self, hop⟩

end Bank

/-! ### Exact interest -/

namespace ReserveIndexes

/-- An index after some time. -/
def grownIndex (rounding : Rounding) (index rate total deltaTimestamp : ℕ) : ℕ :=
  if rate ≠ 0 ∧ total ≠ 0 then exactDiv index (E18 + rate * deltaTimestamp) E18 rounding else index

/-- The indexes at a time. -/
def indexesAt (self : ReserveIndexes) (reserveData : ReserveData) (timestamp : ℕ) :
    ReserveIndexes where
  depositIndexE18 := grownIndex .down self.depositIndexE18 reserveData.currentDepositRateE18
    reserveData.totalDeposit (timestamp - self.updateTimestamp)
  debtIndexE18 := grownIndex .up self.debtIndexE18 reserveData.currentDebtRateE18
    reserveData.totalDebt (timestamp - self.updateTimestamp)
  updateTimestamp := timestamp

lemma exactDiv_mono (rounding : Rounding) (index : ℕ) {m m' : ℕ} (h : m ≤ m') :
    exactDiv index m E18 rounding ≤ exactDiv index m' E18 rounding := by
  cases rounding with
  | down => exact Nat.div_le_div_right (Nat.mul_le_mul_left index h)
  | up => exact Rounded.ceilDiv_mono E18 (Nat.mul_le_mul_left index h)

lemma exactDiv_one (rounding : Rounding) (index : ℕ) :
    exactDiv index E18 E18 rounding = index := by
  cases rounding with
  | down => exact Nat.mul_div_cancel index (by norm_num)
  | up =>
      show (index * E18) ⌈/⌉ E18 = index
      rw [Nat.mul_comm]
      exact smul_ceilDiv (by norm_num) index

lemma grownIndex_zero (rounding : Rounding) (index rate total : ℕ) :
    grownIndex rounding index rate total 0 = index := by
  rw [grownIndex, Nat.mul_zero, Nat.add_zero, exactDiv_one, ite_self]

lemma grownIndex_mono (rounding : Rounding) (index rate total : ℕ) {delta delta' : ℕ}
    (h : delta ≤ delta') :
    grownIndex rounding index rate total delta ≤ grownIndex rounding index rate total delta' := by
  rw [grownIndex, grownIndex]
  split_ifs
  · exact exactDiv_mono rounding index (Nat.add_le_add_left (Nat.mul_le_mul_left rate h) E18)
  · exact le_rfl

/-- At their own time the indexes are what they are, whatever the rates are. -/
lemma indexesAt_self (self : ReserveIndexes) (reserveData : ReserveData) :
    self.indexesAt reserveData self.updateTimestamp = self := by
  rw [indexesAt, Nat.sub_self, grownIndex_zero, grownIndex_zero]

/-- An index that is computed is the exact one. -/
lemma nextIndex_eq_grownIndex {mul : ℕ → ℕ → Res ℕ} {rounding : Rounding}
    {index rate total delta index' : ℕ}
    (hmul : ∀ m v, mul index m = .ok v → v = exactDiv index m E18 rounding)
    (h : nextIndex mul index rate total delta = .ok index') :
    index' = grownIndex rounding index rate total delta := by
  rw [nextIndex] at h
  rw [grownIndex]
  split_ifs at h ⊢ with hc
  · simp only [bind_eq_ok, okOr_eq_ok, checkedAdd_eq_some, e18MulE0ToE18, unwrap_eq_ok,
      checkedMul_eq_some] at h
    obtain ⟨interest, ⟨rfl, -⟩, multiplier, ⟨rfl, -⟩, hv⟩ := h
    exact hmul _ _ hv
  · exact (Except.ok.inj h).symm

/-- **Indexes that are updated are the exact ones.** -/
theorem update_indexesAt [Pendzl] {self indexes : ReserveIndexes} {rd : ReserveData} {t : ℕ}
    (h : self.update rd t = .ok indexes) : indexes = self.indexesAt rd t := by
  rw [update, bind_eq_ok] at h
  obtain ⟨delta, hdelta, h⟩ := h
  rw [okOr_eq_ok, checkedSub_eq_some] at hdelta
  split_ifs at h with hzero
  · have ht : t = self.updateTimestamp := by omega
    rw [ht, indexesAt_self]
    exact (Except.ok.inj h).symm
  · simp only [bind_eq_ok, pure_eq, Except.ok.injEq] at h
    obtain ⟨d, hd, b, hb, rfl⟩ := h
    have hdown : ∀ m v, e18MulE18ToE18Rdown self.depositIndexE18 m = .ok v →
        v = exactDiv self.depositIndexE18 m E18 .down := by
      intro m v hv
      rw [e18MulE18ToE18Rdown] at hv
      split_ifs at hv with hone hone'
      · rw [hone, exactDiv, Nat.mul_div_cancel_left m (by norm_num)]
        exact (Except.ok.inj hv).symm
      · rw [hone', exactDiv_one]
        exact (Except.ok.inj hv).symm
      · exact (mulDiv_eq_ok.mp hv).2.1
    have hup : ∀ m v, e18MulE18ToE18Rup self.debtIndexE18 m = .ok v →
        v = exactDiv self.debtIndexE18 m E18 .up := by
      intro m v hv
      rw [e18MulE18ToE18Rup] at hv
      split_ifs at hv with hone hone'
      · rw [hone]
        show v = (E18 * m) ⌈/⌉ E18
        rw [← smul_eq_mul, smul_ceilDiv (by norm_num)]
        exact (Except.ok.inj hv).symm
      · rw [hone', exactDiv_one]
        exact (Except.ok.inj hv).symm
      · exact (mulDiv_eq_ok.mp hv).2.1
    have helapsed : delta = t - self.updateTimestamp := by omega
    rw [indexesAt, ← nextIndex_eq_grownIndex hdown (helapsed ▸ hd),
      ← nextIndex_eq_grownIndex hup (helapsed ▸ hb)]

end ReserveIndexes

/-- The terms of a reserve at a time: its exact indexes, and the fees that it charges. -/
structure Terms where
  indexes : ReserveIndexes
  depositFeeE6 : ℕ
  debtFeeE6 : ℕ

/-- The terms at a time. -/
def ReserveIndexesAndFees.termsAt (self : ReserveIndexesAndFees) (reserveData : ReserveData)
    (timestamp : ℕ) : Terms where
  indexes := self.indexes.indexesAt reserveData timestamp
  depositFeeE6 := self.fees.depositFeeE6
  debtFeeE6 := self.fees.debtFeeE6

/-- The terms of an opened reserve. -/
def ReserveDataContext.terms (self : ReserveDataContext) : Terms where
  indexes := self.reserveIndexesAndFees.indexes
  depositFeeE6 := self.reserveIndexesAndFees.fees.depositFeeE6
  debtFeeE6 := self.reserveIndexesAndFees.fees.debtFeeE6

namespace AccountReserveData

/-- What a position holds under some terms. -/
def holdingAt (self : AccountReserveData) (terms : Terms) (reductions : FeeReductions) :
    Holding where
  deposit := self.depositBeforeFee terms.indexes.depositIndexE18
    - self.depositCharge terms.indexes terms.depositFeeE6 reductions.1
  debt := self.debtBeforeFee terms.indexes.debtIndexE18
    + self.debtCharge terms.indexes terms.debtFeeE6 reductions.2

variable {self : AccountReserveData} {terms terms' : Terms} {reductions : FeeReductions}

/-- What an accrual leaves is what the position holds. -/
lemma holdingAt_of_accrual [Pendzl] {fees : ReserveFees} {a : Accrual}
    (hdeposit : terms.depositFeeE6 = fees.depositFeeE6) (hdebt : terms.debtFeeE6 = fees.debtFeeE6)
    (h : self.accumulateAccountInterest terms.indexes fees reductions = .ok a) :
    self.holdingAt terms reductions = a.data.holding := by
  obtain ⟨hd, hb, -⟩ := accumulateAccountInterest_amounts h
  rw [holdingAt, hdeposit, hdebt, ← hb, ← hd, Nat.add_sub_cancel]
  rfl

/-- A position whose applied indexes have caught up holds its amounts. -/
lemma holdingAt_of_le (hd : terms.indexes.depositIndexE18 ≤ self.appliedDepositIndexE18)
    (hb : terms.indexes.debtIndexE18 ≤ self.appliedDebtIndexE18) :
    self.holdingAt terms reductions = self.holding := by
  have hgross : self.depositBeforeFee terms.indexes.depositIndexE18 = self.deposit :=
    if_neg fun hc => absurd hc.2.2 (not_lt.mpr hd)
  have hgross' : self.debtBeforeFee terms.indexes.debtIndexE18 = self.debt :=
    if_neg fun hc => absurd hc.2.2 (not_lt.mpr hb)
  rw [holdingAt, depositCharge, debtCharge, hgross, hgross', Nat.sub_self, Nat.sub_self,
    feeCharge_zero, feeCharge_zero]
  rfl

/-- A position that was never written holds nothing. -/
lemma holdingAt_default (terms : Terms) (reductions : FeeReductions) :
    holdingAt default terms reductions = ⟨0, 0⟩ := by
  have hgross : depositBeforeFee default terms.indexes.depositIndexE18 = 0 :=
    if_neg fun hc => hc.1 rfl
  have hgross' : debtBeforeFee default terms.indexes.debtIndexE18 = 0 :=
    if_neg fun hc => hc.1 rfl
  have hdeposit : (default : AccountReserveData).deposit = 0 := rfl
  have hdebt : (default : AccountReserveData).debt = 0 := rfl
  rw [holdingAt, depositCharge, debtCharge, hgross, hgross', hdeposit, hdebt, Nat.sub_self,
    feeCharge_zero, feeCharge_zero]

end AccountReserveData

/-! ### The bank of a storage -/

namespace LendingPoolStorage

/-- The terms of a reserve at a time. -/
def termsAt (s : LendingPoolStorage) (t k : ℕ) : Option Terms :=
  (s.reserveIndexesAndFees.get k).bind fun r =>
    (s.reserveDatas.get k).map fun rd => r.termsAt rd t

/-- What an account holds in an asset. -/
def holdingOf (s : LendingPoolStorage) (view : Env) (t : ℕ) (account asset : AccountId) :
    Option Holding :=
  (s.assetToId.get asset).bind fun k => (s.termsAt t k).map fun terms =>
    (s.position account k).holdingAt terms (s.getFeeReductionsOfAccount view account)

/-- The bank that the storage stands for at a time, under the fee reductions of `view`. -/
def bankAt (s : LendingPoolStorage) (view : Env) (t : ℕ) : Bank :=
  fun account asset => (s.holdingOf view t account asset).getD ⟨0, 0⟩

variable {s s' : LendingPoolStorage} {view : Env} {t k : ℕ} {account asset : AccountId}

lemma termsAt_of_get {rd : ReserveData} {r : ReserveIndexesAndFees}
    (hrd : s.reserveDatas.get k = some rd) (hr : s.reserveIndexesAndFees.get k = some r) :
    s.termsAt t k = some (r.termsAt rd t) := by
  rw [termsAt, hr, Option.bind_some, hrd, Option.map_some]

/-- What is held in an asset with known terms. -/
lemma bankAt_of_terms {terms : Terms} (hk : s.assetToId.get asset = some k)
    (hterms : s.termsAt t k = some terms) : s.bankAt view t account asset
      = (s.position account k).holdingAt terms (s.getFeeReductionsOfAccount view account) := by
  rw [bankAt, holdingOf, hk, Option.bind_some, hterms, Option.map_some, Option.getD_some]

/-- Nothing is held in an asset that is not registered. -/
lemma bankAt_of_unregistered (h : s.assetToId.get asset = none) :
    s.bankAt view t account asset = ⟨0, 0⟩ := by
  rw [bankAt, holdingOf, h, Option.bind_none, Option.getD_none]

/-- What is held depends on the terms of the asset, the position, and the fee reductions. -/
lemma bankAt_congr (hids : s'.assetToId.get asset = s.assetToId.get asset)
    (hprovider : s'.feeReductionProvider = s.feeReductionProvider)
    (hk : ∀ k, s.assetToId.get asset = some k →
      s'.termsAt t k = s.termsAt t k ∧ s'.position account k = s.position account k) :
    s'.bankAt view t account asset = s.bankAt view t account asset := by
  have hreductions : s'.getFeeReductionsOfAccount view account
      = s.getFeeReductionsOfAccount view account := by
    rw [getFeeReductionsOfAccount, getFeeReductionsOfAccount, hprovider]
  have hholding : s'.holdingOf view t account asset = s.holdingOf view t account asset := by
    rw [holdingOf, holdingOf, hids, hreductions]
    refine Option.bind_congr fun k hasset => ?_
    obtain ⟨hterms, hposition⟩ := hk k hasset
    rw [hterms, hposition]
  rw [bankAt, bankAt, hholding]

/-- **The bank shows what the balance views show**, whenever they return. -/
theorem bankAt_of_ok [Pendzl] {data : AccountReserveData}
    (h : s.accruedDataOf view asset account t = .ok data) :
    s.bankAt view t account asset = data.holding := by
  obtain ⟨k, rd, r, indexes, a, hk, hrd, hr, hup, ha, rfl⟩ := accruedDataOf_eq_ok.mp h
  have hindexes : (r.termsAt rd t).indexes = indexes := (ReserveIndexes.update_indexesAt hup).symm
  rw [bankAt_of_terms hk (termsAt_of_get hrd hr)]
  exact AccountReserveData.holdingAt_of_accrual rfl rfl (hindexes.symm ▸ ha)

/-- The terms of an opened reserve. -/
lemma Opened.termsAt [Pendzl] {ctx : ReserveDataContext} (hopen : s.Opened k t ctx) :
    s.termsAt t k = some ctx.terms := by
  obtain ⟨r, hr, hup, hfees⟩ := hopen.indexes
  rw [termsAt_of_get hopen.reserveData hr, ReserveIndexesAndFees.termsAt,
    ← ReserveIndexes.update_indexesAt hup, ReserveDataContext.terms, hfees]

/-- A reserve that was opened and written keeps its terms of that time. -/
lemma Opened.keepsTerms [Pendzl] {ctx ctx' : ReserveDataContext} {rd : ReserveData}
    (hopen : s.Opened k t ctx) (hrd : s'.reserveDatas.get k = some rd)
    (hr : s'.reserveIndexesAndFees.get k = some ctx'.reserveIndexesAndFees)
    (hterms : ctx'.terms = ctx.terms) : s'.termsAt t k = s.termsAt t k := by
  obtain ⟨r, -, hup, -⟩ := hopen.indexes
  have hindexes : ctx'.reserveIndexesAndFees.indexes = ctx.reserveIndexesAndFees.indexes :=
    congrArg Terms.indexes hterms
  have htime : ctx'.reserveIndexesAndFees.indexes.updateTimestamp = t := by
    rw [hindexes, ReserveIndexes.update_timestamp hup]
  rw [hopen.termsAt, termsAt_of_get hrd hr, ReserveIndexesAndFees.termsAt, ← hterms, ← htime,
    ReserveIndexes.indexesAt_self, ReserveDataContext.terms]

end LendingPoolStorage

end AbaxLending
