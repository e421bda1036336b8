import AbaxLending.Effects.Erasure
import AbaxLending.Invariants.Choices
import AbaxLending.Lib.Numbering
import AbaxLending.Spec.Settlement

/-!
The numbers of the accounts.

The registrar numbers the accounts that ever called `set_as_collateral`, so that they can be
listed from outside, for example to find accounts to liquidate.

* `registrants`: who called `set_as_collateral`, in order;
* `execute_registrar`: no other message touches the registrar;
* `registrar_enumerates`: after every run of messages the registrar numbers these accounts in
  the order of their first calls, and all accounts with a collateral are among them;
* `registrar_enumerates_iff`: with flash loans it does so exactly when no account is
  registered during a flash loan that ends, which turns the counter back.
-/

namespace AbaxLending

open Outcome

/-- The account that a message registers. -/
def registrant : Env × Message → Option AccountId
  | (env, .setAsCollateral _ _) => some env.caller
  | _ => none

/-- The accounts that called `set_as_collateral`, in order. -/
def registrants (messages : List (Env × Message)) : List AccountId := messages.filterMap registrant

/-- The registrar numbers the accounts of a list, each one once and in the order of their first
occurrences. -/
def AccountRegistrar.Enumerates (self : AccountRegistrar) (accounts : List AccountId) : Prop :=
  Numbers accounts.eraseDups self.counterToAccount self.accountToCounter self.nextCounter

/-- The registrar gave an account a number that belongs to another one, or that it will give
again. -/
def AccountRegistrar.Spoilt (self : AccountRegistrar) : Prop :=
  SpoiltNumbers self.counterToAccount self.accountToCounter self.nextCounter

/-! ### Steps -/

section

variable {r r' : AccountRegistrar} {account : AccountId} {accounts : List AccountId}

/-- What `ensure_registered` does: nothing, or it gives out the next number. -/
lemma AccountRegistrar.ensureRegistered_ok (h : r.ensureRegistered account = .ok r') :
    r.accountToCounter.contains account = true ∧ r' = r
      ∨ r.accountToCounter.contains account = false
        ∧ r' = ⟨r.counterToAccount.insert r.nextCounter account,
          r.accountToCounter.insert account r.nextCounter, r.nextCounter + 1⟩ := by
  rw [ensureRegistered] at h
  split_ifs at h with hcontains
  · exact .inl ⟨hcontains, (Except.ok.inj h).symm⟩
  · simp only [bind_eq_ok, unwrap_eq_ok, checkedAdd_eq_some, pure_eq, Except.ok.injEq] at h
    obtain ⟨next, ⟨rfl, -⟩, rfl⟩ := h
    exact .inr ⟨Bool.eq_false_iff.mpr hcontains, rfl⟩

/-- An account of a list adds nothing to its distinct elements. -/
lemma eraseDups_concat_of_mem (h : account ∈ accounts) :
    (accounts ++ [account]).eraseDups = accounts.eraseDups := by
  rw [List.eraseDups_append]
  simp [List.removeAll, h]

lemma eraseDups_concat_of_not_mem (h : account ∉ accounts) :
    (accounts ++ [account]).eraseDups = accounts.eraseDups ++ [account] := by
  rw [List.eraseDups_append]
  simp [List.removeAll, h, List.eraseDups_cons]

/-- The step lemma of the numbers. -/
lemma AccountRegistrar.Enumerates.ensureRegistered (h : r.Enumerates accounts)
    (hr : r.ensureRegistered account = .ok r') : r'.Enumerates (accounts ++ [account]) := by
  have hmem : r.accountToCounter.contains account = true ↔ account ∈ accounts := by
    rw [h.contains_iff, List.mem_eraseDups]
  rcases ensureRegistered_ok hr with ⟨hcontains, rfl⟩ | ⟨hcontains, rfl⟩
  · rw [Enumerates, eraseDups_concat_of_mem (hmem.mp hcontains)]
    exact h
  · have hnew : account ∉ accounts := fun h => absurd (hmem.mpr h) (by simp [hcontains])
    rw [Enumerates, eraseDups_concat_of_not_mem hnew]
    exact h.append fun h => hnew (List.mem_eraseDups.mp h)

/-- A registration does not mend a spoilt numbering. -/
lemma AccountRegistrar.Spoilt.ensureRegistered (h : r.Spoilt)
    (hr : r.ensureRegistered account = .ok r') : r'.Spoilt := by
  rcases ensureRegistered_ok hr with ⟨-, rfl⟩ | ⟨hcontains, rfl⟩
  · exact h
  · exact h.insert hcontains

/-- Who has a number after a registration. -/
lemma AccountRegistrar.contains_ensureRegistered (hr : r.ensureRegistered account = .ok r')
    (a : AccountId) : r'.accountToCounter.contains a = true
      ↔ r.accountToCounter.contains a = true ∨ a = account := by
  rcases ensureRegistered_ok hr with ⟨hcontains, rfl⟩ | ⟨hcontains, rfl⟩
  · exact ⟨.inl, fun h => h.elim id fun ha => ha ▸ hcontains⟩
  · simp only [Mapping.contains, Mapping.get_insert]
    split_ifs with ha <;> simp [ha]

end

namespace World

variable {w w' : World} {env : Env}

/-- Settling an action registers nobody. -/
lemma settleAction_registrar {onBehalfOf : AccountId} {first : ℕ} {action : Action}
    {interests : ℕ × ℕ} (h : w.settleAction env onBehalfOf first action interests = .ok w') :
    w'.registrar = w.registrar := by
  obtain ⟨op, asset, amount⟩ := action
  simp only [settleAction, bind_eq_ok] at h
  obtain ⟨tokens, -, h⟩ := h
  cases op with
  | deposit =>
      simp only [bind_eq_ok] at h
      obtain ⟨w₁, hin, minted, -, w₂, hemit, hlast⟩ := h
      rw [(emitAbacusTokenTransferEvent_emits hlast).registrar,
        (emitAbacusTokenTransferEvent_emits hemit).registrar, transferIn_registrar hin]
  | withdraw =>
      simp only [bind_eq_ok] at h
      obtain ⟨w₁, hout, w₂, hcharge, hemit⟩ := h
      rw [(emitAbacusTokenTransferEvent_emits hemit).registrar,
        (emitAbacusTokenTransferEventAndDecreaseAllowance_emits hcharge).registrar,
        transferOut_registrar hout]
  | borrow =>
      simp only [bind_eq_ok] at h
      obtain ⟨w₁, hout, w₂, hemit, minted, -, hcharge⟩ := h
      rw [(emitAbacusTokenTransferEventAndDecreaseAllowance_emits hcharge).registrar,
        (emitAbacusTokenTransferEvent_emits hemit).registrar, transferOut_registrar hout]
  | repay =>
      simp only [bind_eq_ok] at h
      obtain ⟨w₁, hin, w₂, hemit, hlast⟩ := h
      rw [(emitAbacusTokenTransferEvent_emits hlast).registrar,
        (emitAbacusTokenTransferEvent_emits hemit).registrar, transferIn_registrar hin]

lemma settleActions_registrar {onBehalfOf : AccountId} {first : ℕ} {l : List (Action × (ℕ × ℕ))}
    (h : w.settleActions env onBehalfOf first l = .ok w') : w'.registrar = w.registrar := by
  induction l generalizing w with
  | nil =>
      simp only [settleActions, Except.ok.injEq] at h
      rw [h]
  | cons head rest ih =>
      obtain ⟨action, interests⟩ := head
      simp only [settleActions, bind_eq_ok] at h
      obtain ⟨w₁, hfirst, hrest⟩ := h
      rw [ih hrest, settleAction_registrar hfirst]

lemma payIncome_registrar {toAccount : AccountId} {l : List (AccountId × ℕ)}
    (h : w.payIncome env toAccount l = .ok w') : w'.registrar = w.registrar := by
  induction l generalizing w with
  | nil =>
      simp only [payIncome, Except.ok.injEq] at h
      rw [h]
  | cons entry rest ih =>
      obtain ⟨asset, amount⟩ := entry
      simp only [payIncome, bind_eq_ok] at h
      obtain ⟨w₁, hout, hrest⟩ := h
      rw [ih hrest, transferOut_registrar hout]

variable [Pendzl]

lemma liquidate_registrar {x toRepay toTake : AccountId} {amount minimum : ℕ} {amounts : ℕ × ℕ}
    (h : w.liquidate env x toRepay toTake amount minimum = .ok (w', amounts)) :
    w'.registrar = w.registrar := by
  simp only [liquidate, bind_eq_ok, pure_eq, Except.ok.injEq, Prod.mk.injEq] at h
  obtain ⟨-, -, res, hres, received, -, -, -, w₁, hin, tokensToRepay, -, w₂, hemit₂, w₃, hemit₃,
    tokensToTake, -, sum, -, w₄, hemit₄, w₅, hemit₅, rfl, -⟩ := h
  rw [(emitAbacusTokenTransferEvents_emits hemit₅).registrar,
    (emitAbacusTokenTransferEvents_emits hemit₄).registrar,
    (emitAbacusTokenTransferEvent_emits hemit₃).registrar,
    (emitAbacusTokenTransferEvent_emits hemit₂).registrar, transferIn_registrar hin]
  rfl

/-- **Only `set_as_collateral` touches the registrar**: it registers its caller. -/
theorem execute_registrar {message : Message} (hl : w.Linked)
    (hex : w.execute env message = .ok w') :
    (∀ a, registrant (env, message) = some a → w.registrar.ensureRegistered a = .ok w'.registrar)
      ∧ (registrant (env, message) = none → w'.registrar = w.registrar) := by
  by_cases hquiet : message.usesFunds = false
  · have hsame : w'.registrar = w.registrar :=
      congrArg Funds.registrar ((execute_overlooks hex hquiet).funds hex)
    refine ⟨fun a ha => ?_, fun _ => hsame⟩
    cases message <;> cases ha
    cases hquiet
  cases hm : message.userActions with
  | some p =>
      obtain ⟨account, actions⟩ := p
      obtain ⟨res, l, -, -, -, hloop⟩ := execute_settles hl.ids hm hex
      refine ⟨fun a ha => ?_, fun _ => (settleActions_registrar hloop :)⟩
      cases message <;> cases ha
      cases hm
  | none =>
      cases message <;>
        simp only [Message.usesFunds, Message.userActions, not_true_eq_false, reduceCtorEq]
          at hquiet hm
      case liquidate =>
        obtain ⟨amounts, h⟩ := exists_of_fst_eq_ok (mapErr_eq_ok.mp hex)
        refine ⟨fun a ha => ?_, fun _ => liquidate_registrar h⟩
        cases ha
      case setAsCollateral asset use =>
        simp only [execute, mapErr_eq_ok, setAsCollateral, bind_eq_ok] at hex
        obtain ⟨registrar, hregistrar, pool, -, hex⟩ := hex
        refine ⟨fun a ha => ?_, fun hnone => ?_⟩
        · cases ha
          split_ifs at hex
          · simp only [bind_eq_ok, pure_eq, Except.ok.injEq] at hex
            obtain ⟨_, _, rfl⟩ := hex
            exact hregistrar
          · simp only [pure_eq, Except.ok.injEq] at hex
            exact hex ▸ hregistrar
        · cases hnone
      case takeProtocolIncome assets toAccount =>
        obtain ⟨incomes, h⟩ := exists_of_fst_eq_ok (mapErr_eq_ok.mp hex)
        simp only [takeProtocolIncome, bind_eq_ok, pure_eq, Except.ok.injEq, Prod.mk.injEq,
          Prod.exists] at h
        obtain ⟨-, -, list, -, pool, l, -, w₁, hpay, rfl, -⟩ := h
        refine ⟨fun a ha => ?_, fun _ => (payIncome_registrar hpay :)⟩
        cases ha

/-- **The registrar lists the accounts that chose collaterals.**  After every run from a new
pool the accounts that called `set_as_collateral` are numbered from `0` in the order of their
first calls, and every account with a collateral has a number. -/
theorem registrar_enumerates {messages : List (Env × Message)} (hw : w.IsInitial)
    (h : w.run messages = some w') :
    w'.registrar.Enumerates (registrants messages)
      ∧ ∀ a k, (w'.pool.getAccountConfig a).collaterals.getLsbD k = true →
        ∃ n, w'.registrar.accountToCounter.get a = some n
          ∧ w'.registrar.counterToAccount.get n = some a := by
  have hnumbers : w'.Linked ∧ w'.registrar.Enumerates (registrants messages) := by
    refine run_history (P := fun before w' => w'.Linked
      ∧ w'.registrar.Enumerates (registrants before)) ⟨?_, ?_⟩
      (fun before env message w₁ w₂ hbefore hex => ?_) h
    · exact reachable_linked (.start hw : Reachable (fun _ => True) 0 w)
    · rw [hw.2.1]
      exact .nil
    · obtain ⟨hl, hnumbers⟩ := hbefore
      obtain ⟨hregisters, hsilent⟩ := execute_registrar hl hex
      refine ⟨execute_linked hl hex, ?_⟩
      rw [registrants, List.filterMap_append, List.filterMap_cons]
      cases hm : registrant (env, message) with
      | none =>
          rw [hsilent hm, List.filterMap_nil, List.append_nil]
          exact hnumbers
      | some a => exact hnumbers.ensureRegistered (hregisters a hm)
  refine ⟨hnumbers.2, fun a k hbit => ?_⟩
  have hmem : a ∈ (registrants messages).eraseDups := by
    obtain ⟨asset, -, hon⟩ := run_collateral hw h hbit
    rcases lastWrite_cases (switchesCollateral a asset) false messages with hoff | ⟨m, hm, hwrite⟩
    · rw [hon] at hoff
      cases hoff
    · rw [List.mem_eraseDups]
      refine List.mem_filterMap.mpr ⟨m, hm, ?_⟩
      obtain ⟨env, message⟩ := m
      cases message with
      | setAsCollateral other use =>
          rw [switchesCollateral] at hwrite
          split_ifs at hwrite with hown
          exact congrArg some hown.1
      | _ => cases hwrite
  obtain ⟨n, hn⟩ := List.mem_iff_getElem?.mp hmem
  have hnumber := (hnumbers.2.number a n).mpr hn
  exact ⟨n, hnumber, hnumbers.2.inverse.mpr hnumber⟩

end World

/-! ### Sessions -/

namespace Session

section

variable [Pendzl] {σ σ' : Session} {w : World} {acts : List Act} {act : Act}

/-- An act does not turn the counter of the registrar back: a flash loan that ends finds it as
it read it at its start. -/
def KeepsCount (σ : Session) : Act → Prop
  | .collect _ => ∀ loan ∈ σ.loans.head?, loan.nextCounter = σ.world.registrar.nextCounter
  | _ => True

omit [Pendzl] in
/-- The counters that the open flash loans read, the latest first, after the current one. -/
def counters (σ : Session) : List ℕ :=
  σ.world.registrar.nextCounter :: σ.loans.map OpenLoan.nextCounter

/-- What a step does to the registrar. -/
inductive RegistrarStep (σ σ' : Session) (act : Act) : Prop
  | registers (env : Env) (message : Message) (a : AccountId) : act = .message env message →
      registrant (env, message) = some a →
      σ.world.registrar.ensureRegistered a = .ok σ'.world.registrar → σ'.loans = σ.loans →
      RegistrarStep σ σ' act
  | keeps : (messages [act]).filterMap registrant = [] → σ.KeepsCount act →
      σ'.world.registrar = σ.world.registrar →
      (σ'.loans = σ.loans ∨ ∃ loan : OpenLoan, loan.nextCounter = σ.world.registrar.nextCounter
        ∧ σ'.loans = loan :: σ.loans) → RegistrarStep σ σ' act
  | collects (env : FlashEnv) (loan : OpenLoan) : act = .collect env →
      σ.loans = loan :: σ'.loans →
      σ'.world.registrar = { σ.world.registrar with nextCounter := loan.nextCounter } →
      RegistrarStep σ σ' act

/-- **What a step of a session does to the registrar.** -/
theorem step_registrar (hl : σ.world.Linked) (h : σ.step act = some σ') :
    σ.RegistrarStep σ' act := by
  cases act with
  | message env message =>
      obtain ⟨-, w, hw, rfl⟩ := step_message_ok h
      obtain ⟨hregisters, hsilent⟩ := World.execute_registrar hl hw
      cases hm : registrant (env, message) with
      | some a => exact .registers env message a rfl hm (hregisters a hm) rfl
      | none =>
          refine .keeps ?_ trivial (hsilent hm) (.inl rfl)
          simp [messages, hm]
  | tokens balanceOf =>
      simp only [step, Option.some.injEq] at h
      subst h
      exact .keeps rfl trivial rfl (.inl rfl)
  | lend env receiver assets amounts =>
      obtain ⟨-, w, lent, hlend, rfl⟩ := step_lend_ok h
      obtain ⟨-, fee, -, hall⟩ := World.lend_ok hlend
      exact .keeps rfl trivial (World.lendAll_registrar hall) (.inr ⟨_, rfl, rfl⟩)
  | collect env =>
      obtain ⟨-, loan, rest, w, events, hloans, hcollect, rfl⟩ := step_collect_ok h
      refine .collects env loan rfl hloans ?_
      rw [World.writeBack, World.collectAll_registrar hcollect]

omit [Pendzl] in
/-- What a step adds to the accounts that called `set_as_collateral`. -/
lemma registrants_concat (acts : List Act) (act : Act) :
    registrants (messages (acts ++ [act]))
      = registrants (messages acts) ++ registrants (messages [act]) := by
  rw [registrants, messages, List.filterMap_append, List.filterMap_append]
  rfl

/-- The registrar of a session after some acts: who has a number, and whether the numbering
is right. -/
structure Numbered (w : World) (acts : List Act) (σ : Session) : Prop where
  linked : σ.world.Linked
  sorted : σ.counters.Pairwise (· ≥ ·)
  contains : ∀ a, σ.world.registrar.accountToCounter.contains a = true
    ↔ a ∈ registrants (messages acts)
  enumerates : LabelledRun.Along step KeepsCount (start w) acts →
    σ.world.registrar.Enumerates (registrants (messages acts))
  spoilt : ¬ LabelledRun.Along step KeepsCount (start w) acts → σ.world.registrar.Spoilt

/-- The step lemma of the registrar of a session. -/
lemma Numbered.step (hrun : (start w).run acts = some σ) (h : Numbered w acts σ)
    (hact : σ.step act = some σ') : Numbered w (acts ++ [act]) σ' := by
  have hlinked : σ'.world.Linked := by
    rcases step_cases hact with ⟨env, message, -, hex⟩ | ⟨-, hbooks⟩
    · exact World.execute_linked h.linked hex
    · exact hbooks.linked h.linked
  have halong := LabelledRun.along_concat (Q := KeepsCount) (a := act) hrun
  have hsorted := h.sorted
  cases step_registrar h.linked hact with
  | registers env message a hmessage ha hregistrar hloans =>
      subst hmessage
      have hadd : registrants (messages (acts ++ [.message env message]))
          = registrants (messages acts) ++ [a] := by
        rw [registrants_concat, messages_message, registrants, registrants, List.filterMap_cons, ha]
        rfl
      have hsame : LabelledRun.Along Session.step KeepsCount (start w)
            (acts ++ [.message env message])
          ↔ LabelledRun.Along Session.step KeepsCount (start w) acts := by
        rw [halong]
        exact and_iff_left trivial
      refine ⟨hlinked, ?_, fun b => ?_, fun hkeeps => ?_, fun hkeeps => ?_⟩
      · have hgrows : σ.world.registrar.nextCounter ≤ σ'.world.registrar.nextCounter := by
          rcases AccountRegistrar.ensureRegistered_ok hregistrar with ⟨-, hr⟩ | ⟨-, hr⟩ <;> rw [hr]
          exact Nat.le_succ _
        rw [counters, hloans, List.pairwise_cons]
        rw [counters, List.pairwise_cons] at hsorted
        exact ⟨fun n hn => (hsorted.1 n hn).trans hgrows, hsorted.2⟩
      · rw [AccountRegistrar.contains_ensureRegistered hregistrar, h.contains, hadd,
          List.mem_append, List.mem_singleton]
      · rw [hadd]
        exact (h.enumerates (hsame.mp hkeeps)).ensureRegistered hregistrar
      · exact (h.spoilt fun hkept => hkeeps (hsame.mpr hkept)).ensureRegistered hregistrar
  | keeps hsilent hcount hregistrar hloans =>
      have hadd : registrants (messages (acts ++ [act])) = registrants (messages acts) := by
        rw [registrants_concat, registrants, registrants, hsilent, List.append_nil]
      have hsame : LabelledRun.Along Session.step KeepsCount (start w) (acts ++ [act])
          ↔ LabelledRun.Along Session.step KeepsCount (start w) acts := by
        rw [halong]
        exact and_iff_left hcount
      refine ⟨hlinked, ?_, fun b => ?_, fun hkeeps => ?_, fun hkeeps => ?_⟩
      · rcases hloans with hloans | ⟨loan, hloan, hloans⟩
        · rw [counters, hregistrar, hloans]
          exact hsorted
        · rw [counters, hregistrar, hloans, List.map_cons, hloan]
          rw [counters] at hsorted
          refine List.pairwise_cons.mpr ⟨fun n hn => ?_, hsorted⟩
          rcases List.mem_cons.mp hn with rfl | hn
          · exact le_refl _
          · exact (List.pairwise_cons.mp hsorted).1 n hn
      · rw [hregistrar, h.contains, hadd]
      · rw [hregistrar, hadd]
        exact h.enumerates (hsame.mp hkeeps)
      · rw [hregistrar]
        exact h.spoilt fun hkept => hkeeps (hsame.mpr hkept)
  | collects env loan hcollect hloans hregistrar =>
      subst hcollect
      have hadd : registrants (messages (acts ++ [.collect env]))
          = registrants (messages acts) := by
        rw [registrants_concat]
        exact List.append_nil _
      have hcount : σ.KeepsCount (.collect env)
          ↔ loan.nextCounter = σ.world.registrar.nextCounter := by
        simp [KeepsCount, hloans]
      rw [counters, hloans, List.map_cons, List.pairwise_cons] at hsorted
      have hle : loan.nextCounter ≤ σ.world.registrar.nextCounter :=
        hsorted.1 _ List.mem_cons_self
      refine ⟨hlinked, ?_, fun b => ?_, fun hkeeps => ?_, fun hkeeps => ?_⟩
      · rw [counters, hregistrar]
        exact hsorted.2
      · rw [hregistrar, hadd]
        exact h.contains b
      · obtain ⟨hbefore, hkept⟩ := halong.mp hkeeps
        rw [hregistrar, hadd, hcount.mp hkept]
        exact h.enumerates hbefore
      · rw [hregistrar]
        by_cases hbefore : LabelledRun.Along Session.step KeepsCount (start w) acts
        · have hlt : loan.nextCounter < σ.world.registrar.nextCounter :=
            lt_of_le_of_ne hle fun heq => hkeeps (halong.mpr ⟨hbefore, hcount.mpr heq⟩)
          exact SpoiltNumbers.of_turn_back (h.enumerates hbefore) hlt
        · exact SpoiltNumbers.turn_back (h.spoilt hbefore) hle

/-- **What flash loans do to the registrar.**  In every session around a new pool the accounts
with a number are those that called `set_as_collateral`.  They are numbered in the order of
their first calls exactly when every flash loan that ended found the counter that it had read
at its start; otherwise some account has a number that belongs to another one, or that will
be given again. -/
theorem registrar_enumerates_iff (hw : w.IsInitial) (h : (start w).run acts = some σ) :
    (∀ a, σ.world.registrar.accountToCounter.contains a = true
        ↔ a ∈ registrants (messages acts))
      ∧ (σ.world.registrar.Enumerates (registrants (messages acts))
        ↔ LabelledRun.Along step KeepsCount (start w) acts)
      ∧ (¬ LabelledRun.Along step KeepsCount (start w) acts → σ.world.registrar.Spoilt) := by
  have hnumbered : Numbered w acts σ := by
    refine LabelledRun.run_history (P := Numbered w) ⟨?_, ?_, ?_, fun _ => ?_, ?_⟩
      (fun before act σ₁ σ₂ hbefore hP hact => hP.step hbefore hact) h
    · exact World.reachable_linked (.start hw : World.Reachable (fun _ => True) 0 w)
    · exact List.pairwise_singleton _ _
    · intro a
      rw [start, hw.2.1]
      simp [Mapping.contains, Mapping.get, Mapping.empty, messages, registrants]
    · rw [start, hw.2.1]
      exact .nil
    · exact fun hkeeps => absurd trivial hkeeps
  refine ⟨hnumbered.contains, ⟨fun hright => ?_, hnumbered.enumerates⟩, hnumbered.spoilt⟩
  by_contra hkeeps
  exact hright.not_spoilt (hnumbered.spoilt hkeeps)

end

end Session

namespace Sample

/-- Acts in which an account chooses its first collateral during a flash loan, and another
account after it. -/
def turnedBack : List Act := depositors.map (fun m => .message m.1 m.2) ++ [
  .lend (flashEnv 5 1) (account 5) [account 100] [200],
  .message (env (account 6) 1) (.deposit (account 101) (account 6) 40),
  .message (env (account 6) 1) (.setAsCollateral (account 101) true),
  .collect (flashEnv 5 1),
  .message (env (account 7) 1) (.deposit (account 101) (account 7) 40),
  .message (env (account 7) 1) (.setAsCollateral (account 101) true)]

end Sample

attribute [local instance] Pendzl.exact in
/-- The sample depositors are numbered in the order in which they chose collaterals. -/
theorem World.registrar_enumerates_sample :
    ∃ w, Sample.world.run Sample.depositors = some w
      ∧ w.registrar.Enumerates [Sample.account 3, Sample.account 4] := by
  have hrun : (Sample.world.run Sample.depositors).isSome = true := by decide +kernel
  obtain ⟨w, hw⟩ := Option.isSome_iff_exists.mp hrun
  exact ⟨w, hw, (World.registrar_enumerates Sample.world_isInitial hw).1⟩

attribute [local instance] Pendzl.exact in
/-- **Two accounts with one number.**  The account that chose its first collateral during the
flash loan and the next one have the same number, which names the later one only. -/
theorem Session.registrar_enumerates_iff_turnedBack :
    ∃ σ, (Session.start Sample.world).run Sample.turnedBack = some σ
      ∧ σ.world.registrar.accountToCounter.get (Sample.account 6) = some 2
      ∧ σ.world.registrar.accountToCounter.get (Sample.account 7) = some 2
      ∧ σ.world.registrar.counterToAccount.get 2 = some (Sample.account 7)
      ∧ ¬ LabelledRun.Along Session.step Session.KeepsCount (Session.start Sample.world)
        Sample.turnedBack := by
  have hrun : ((Session.start Sample.world).run Sample.turnedBack).map (fun σ =>
      (σ.world.registrar.accountToCounter.get (Sample.account 6),
        σ.world.registrar.accountToCounter.get (Sample.account 7),
        σ.world.registrar.counterToAccount.get 2))
      = some (some 2, some 2, some (Sample.account 7)) := by decide +kernel
  obtain ⟨σ, hσ, hvalue⟩ := Option.map_eq_some_iff.mp hrun
  obtain ⟨h6, hvalue⟩ := Prod.mk.inj hvalue
  obtain ⟨h7, h2⟩ := Prod.mk.inj hvalue
  refine ⟨σ, hσ, h6, h7, h2, fun hkeeps => ?_⟩
  have hright := (Session.registrar_enumerates_iff Sample.world_isInitial hσ).2.1.mpr hkeeps
  have hother := hright.inverse.mpr h6
  rw [h2] at hother
  exact absurd (Option.some.inj hother) (by decide)

end AbaxLending
