import AbaxLending.Contract.Flash
import AbaxLending.Invariants.Registry
import AbaxLending.Spec.Replays

/-!
The two loops of a flash loan.

Both loops change the underlying tokens only: `lendAll_ok` says what is lent and with which
fees, `collectAll_ok` which events name it.  `step_cases` lists what a step of a session can
do, and what it keeps: the steps that lend and collect are the two halves of the message
`flash_loan`, and what happens in between is what its receiver does.
-/

namespace AbaxLending

open Outcome

/-- The event about one asset of a flash loan. -/
def Lent.event (self : Lent) (receiver poolAddress : AccountId) : FlashLoan :=
  ⟨receiver, poolAddress, self.asset, self.amount, self.fee⟩

namespace World

variable {w w' : World} {env : Env} {asset account receiver : AccountId} {amount : ℕ}

/-- The worlds have the same books. -/
def SameBooks (w w' : World) : Prop := ∀ F, w'.withFunds F = w.withFunds F

lemma SameBooks.trans {w₁ : World} (h : SameBooks w w₁) (h' : SameBooks w₁ w') : SameBooks w w' :=
  fun F => (h' F).trans (h F)

lemma SameBooks.pool (h : SameBooks w w') : w'.pool = w.pool := by
  simpa using congrArg World.pool (h w.funds)

lemma SameBooks.tokens (h : SameBooks w w') : w'.tokens = w.tokens := by
  simpa using congrArg World.tokens (h w.funds)

lemma SameBooks.poolAddress (h : SameBooks w w') : w'.poolAddress = w.poolAddress := by
  simpa using congrArg World.poolAddress (h w.funds)

lemma SameBooks.linked (h : SameBooks w w') (hl : w.Linked) : w'.Linked := by
  refine ⟨h.pool ▸ hl.ids, fun asset tokens htokens kind => ?_⟩
  rw [h.pool] at htokens
  rw [h.tokens]
  exact hl.tokens asset tokens htokens kind

lemma transferOut_sameBooks (h : w.transferOut env asset account amount = .ok w') :
    SameBooks w w' := by
  obtain ⟨k, -, hcall⟩ := transferOut_ok h
  obtain ⟨balances, -, rfl⟩ := invoke_ok hcall
  exact fun F => rfl

lemma transferIn_sameBooks (h : w.transferIn env asset account amount = .ok w') :
    SameBooks w w' := by
  obtain ⟨k, -, hcall⟩ := transferIn_ok h
  obtain ⟨balances, -, rfl⟩ := invoke_ok hcall
  exact fun F => rfl

lemma transferOut_registrar (h : w.transferOut env asset account amount = .ok w') :
    w'.registrar = w.registrar := by
  obtain ⟨k, -, hcall⟩ := transferOut_ok h
  obtain ⟨balances, -, rfl⟩ := invoke_ok hcall
  rfl

lemma transferIn_registrar (h : w.transferIn env asset account amount = .ok w') :
    w'.registrar = w.registrar := by
  obtain ⟨k, -, hcall⟩ := transferIn_ok h
  obtain ⟨balances, -, rfl⟩ := invoke_ok hcall
  rfl

/-- The first round of the loop that collects. -/
lemma collectAll_cons_ok {x : Lent} {rest : List Lent} {events : List FlashLoan}
    (h : w.collectAll env receiver (x :: rest) = .ok (w', events)) :
    ∃ w₁ later, x.amount + x.fee < 2 ^ 128
      ∧ w.transferIn env x.asset receiver (x.amount + x.fee) = .ok w₁
      ∧ w₁.collectAll env receiver rest = .ok (w', later)
      ∧ events = x.event receiver w'.poolAddress :: later := by
  obtain ⟨asset, amount, fee⟩ := x
  simp only [collectAll, bind_eq_ok, unwrap_eq_ok, checkedAdd_eq_some, pure_eq, Except.ok.injEq,
    Prod.mk.injEq, Prod.exists] at h
  obtain ⟨owed, ⟨rfl, hfits⟩, w₁, hin, w₂, later, hrest, rfl, rfl⟩ := h
  exact ⟨w₁, later, hfits, hin, hrest, rfl⟩

/-- What the loop that collects does: it changes the underlying tokens only, and an event
names everything that is collected. -/
lemma collectAll_ok {lent : List Lent} {events : List FlashLoan}
    (h : w.collectAll env receiver lent = .ok (w', events)) :
    SameBooks w w' ∧ events = lent.map fun x => x.event receiver w.poolAddress := by
  induction lent generalizing w events with
  | nil =>
      simp only [collectAll, Except.ok.injEq, Prod.mk.injEq] at h
      obtain ⟨rfl, rfl⟩ := h
      exact ⟨fun F => rfl, rfl⟩
  | cons x rest ih =>
      obtain ⟨w₁, later, -, hin, hrest, rfl⟩ := collectAll_cons_ok h
      obtain ⟨hbooks, rfl⟩ := ih hrest
      have hfirst := transferIn_sameBooks hin
      have hall := hfirst.trans hbooks
      exact ⟨hall, by rw [List.map_cons, hfirst.poolAddress, hall.poolAddress]⟩

/-- The loop that collects does not register anybody. -/
lemma collectAll_registrar {lent : List Lent} {events : List FlashLoan}
    (h : w.collectAll env receiver lent = .ok (w', events)) : w'.registrar = w.registrar := by
  induction lent generalizing w events with
  | nil =>
      simp only [collectAll, Except.ok.injEq, Prod.mk.injEq] at h
      rw [h.1]
  | cons x rest ih =>
      obtain ⟨w₁, later, -, hin, hrest, -⟩ := collectAll_cons_ok h
      rw [ih hrest, transferIn_registrar hin]

variable [Pendzl]

/-- The first round of the loop that lends. -/
lemma lendAll_cons_ok {flashFeeE6 feePartE6 : ℕ} {rest : List (AccountId × ℕ)} {lent : List Lent}
    (h : w.lendAll env receiver flashFeeE6 feePartE6 ((asset, amount) :: rest) = .ok (w', lent)) :
    ∃ fee w₁ later, amount ≠ 0 ∧ flashFee flashFeeE6 feePartE6 amount = .ok fee
      ∧ w.transferOut env asset receiver amount = .ok w₁
      ∧ w₁.lendAll env receiver flashFeeE6 feePartE6 rest = .ok (w', later)
      ∧ lent = ⟨asset, amount, fee⟩ :: later := by
  simp only [lendAll, bind_eq_ok, checkAmountNotZero, failIf_eq_ok, pure_eq, Except.ok.injEq,
    Prod.mk.injEq, Prod.exists] at h
  obtain ⟨-, hzero, fee, hfee, w₁, hout, w₂, later, hrest, rfl, rfl⟩ := h
  exact ⟨fee, w₁, later, hzero, hfee, hout, hrest, rfl⟩

/-- What the loop that lends does: it changes the underlying tokens only, and computes a fee
for everything that is lent. -/
lemma lendAll_ok {flashFeeE6 feePartE6 : ℕ} {l : List (AccountId × ℕ)} {lent : List Lent}
    (h : w.lendAll env receiver flashFeeE6 feePartE6 l = .ok (w', lent)) :
    SameBooks w w' ∧ lent.map (fun x => (x.asset, x.amount)) = l
      ∧ ∀ x ∈ lent, x.amount ≠ 0 ∧ flashFee flashFeeE6 feePartE6 x.amount = .ok x.fee := by
  induction l generalizing w lent with
  | nil =>
      simp only [lendAll, Except.ok.injEq, Prod.mk.injEq] at h
      obtain ⟨rfl, rfl⟩ := h
      exact ⟨fun F => rfl, rfl, nofun⟩
  | cons head rest ih =>
      obtain ⟨asset, amount⟩ := head
      obtain ⟨fee, w₁, later, hzero, hfee, hout, hrest, rfl⟩ := lendAll_cons_ok h
      obtain ⟨hbooks, hlist, hfees⟩ := ih hrest
      refine ⟨(transferOut_sameBooks hout).trans hbooks, by rw [List.map_cons, hlist], ?_⟩
      exact List.forall_mem_cons.mpr ⟨⟨hzero, hfee⟩, hfees⟩

/-- The loop that lends does not register anybody. -/
lemma lendAll_registrar {flashFeeE6 feePartE6 : ℕ} {l : List (AccountId × ℕ)} {lent : List Lent}
    (h : w.lendAll env receiver flashFeeE6 feePartE6 l = .ok (w', lent)) :
    w'.registrar = w.registrar := by
  induction l generalizing w lent with
  | nil =>
      simp only [lendAll, Except.ok.injEq, Prod.mk.injEq] at h
      rw [h.1]
  | cons head rest ih =>
      obtain ⟨fee, w₁, later, -, -, hout, hrest, -⟩ := lendAll_cons_ok h
      rw [ih hrest, transferOut_registrar hout]

/-- `flash_loan` up to the call of the receiver. -/
lemma lend_ok {env : FlashEnv} {assets : List AccountId} {amounts : List ℕ} {lent : List Lent}
    (h : w.lend env receiver assets amounts = .ok (w', lent)) :
    assets.length = amounts.length ∧ ∃ flashFeeE6, w.pool.flashLoanFeeE6 = some flashFeeE6
      ∧ w.lendAll env.toEnv receiver flashFeeE6 (w.pool.feePartE6 env) (assets.zip amounts)
        = .ok (w', lent) := by
  simp only [lend, bind_eq_ok, failIf_eq_ok, unwrap_eq_ok, not_not] at h
  obtain ⟨-, hlength, fee, hfee, h⟩ := h
  exact ⟨hlength, fee, hfee, h⟩

end World

namespace Session

variable [Pendzl] {σ σ' : Session}

omit [Pendzl] in
lemma messages_message (env : Env) (message : Message) (rest : List Act) :
    messages (.message env message :: rest) = (env, message) :: messages rest := rfl

omit [Pendzl] in
lemma messages_of_ne {act : Act} (h : ∀ env message, act ≠ .message env message)
    (rest : List Act) : messages (act :: rest) = messages rest := by
  cases act with
  | message env message => exact absurd rfl (h env message)
  | tokens | lend | collect => rfl

/-- A message in a session. -/
lemma step_message_ok {env : Env} {message : Message}
    (h : σ.step (.message env message) = some σ') :
    σ.InBlock env.blockTimestamp ∧ ∃ w, σ.world.execute env message = .ok w
      ∧ σ' = { σ with world := w } := by
  rw [step] at h
  split_ifs at h with hblock
  obtain ⟨w, hw, rfl⟩ := Option.map_eq_some_iff.mp h
  exact ⟨hblock, w, toOption_eq_some.mp hw, rfl⟩

/-- A flash loan begins. -/
lemma step_lend_ok {env : FlashEnv} {receiver : AccountId} {assets : List AccountId}
    {amounts : List ℕ} (h : σ.step (.lend env receiver assets amounts) = some σ') :
    σ.InBlock env.blockTimestamp ∧ ∃ w lent,
      σ.world.lend env receiver assets amounts = .ok (w, lent)
      ∧ σ' = { σ with
          world := w
          loans := ⟨receiver, lent, σ.world.registrar.nextCounter, env.blockTimestamp⟩
            :: σ.loans } := by
  rw [step] at h
  split_ifs at h with hblock
  obtain ⟨⟨w, lent⟩, hw, rfl⟩ := Option.map_eq_some_iff.mp h
  exact ⟨hblock, w, lent, toOption_eq_some.mp hw, rfl⟩

/-- A flash loan ends. -/
lemma step_collect_ok {env : FlashEnv} (h : σ.step (.collect env) = some σ') :
    σ.InBlock env.blockTimestamp ∧ ∃ loan rest w events, σ.loans = loan :: rest
      ∧ σ.world.collectAll env.toEnv loan.receiver loan.lent = .ok (w, events)
      ∧ σ' = ⟨w.writeBack loan.nextCounter, rest, σ.flashLoans ++ events⟩ := by
  rw [step] at h
  cases hloans : σ.loans with
  | nil =>
      rw [hloans] at h
      cases h
  | cons loan rest =>
      simp only [hloans] at h
      split_ifs at h with hblock
      obtain ⟨⟨w, events⟩, hw, rfl⟩ := Option.map_eq_some_iff.mp h
      exact ⟨hblock, loan, rest, w, events, rfl, toOption_eq_some.mp hw, rfl⟩

/-- **What a step of a session does to the books**: a message runs, or they stay. -/
theorem step_cases {act : Act} (h : σ.step act = some σ') :
    (∃ env message, act = .message env message ∧ σ.world.execute env message = .ok σ'.world)
      ∨ ((∀ env message, act ≠ .message env message) ∧ σ.world.SameBooks σ'.world) := by
  cases act with
  | message env message =>
      obtain ⟨-, w, hw, rfl⟩ := step_message_ok h
      exact .inl ⟨env, message, rfl, hw⟩
  | tokens balanceOf =>
      simp only [step, Option.some.injEq] at h
      exact .inr ⟨nofun, fun F => h ▸ rfl⟩
  | lend env receiver assets amounts =>
      obtain ⟨-, w, lent, hw, rfl⟩ := step_lend_ok h
      obtain ⟨-, fee, -, hall⟩ := World.lend_ok hw
      exact .inr ⟨nofun, (World.lendAll_ok hall).1⟩
  | collect env =>
      obtain ⟨-, loan, rest, w, events, -, hw, rfl⟩ := step_collect_ok h
      exact .inr ⟨nofun, fun F => (World.collectAll_ok hw).1 F⟩

end Session

end AbaxLending
