import AbaxLending.Effects.Cash
import AbaxLending.Effects.Erasure
import AbaxLending.Lib.Rounding
import AbaxLending.Spec.Flash

/-!
The underlying tokens in the presence of flash loans.

* `flashFee_bounds`: the fee on an amount, which is rounded up twice;
* `flashLoan_pays`: a flash loan that succeeds brings back what it lent and the fees, and
  changes the books only through what its receiver did;
* `tokens_accounted`: in every session the tokens that the pool has brought in, with what is
  lent out, are accounted for by the books, the interest posted, the income paid and the
  fees of the flash loans.
-/

namespace AbaxLending

open Outcome Book

/-! ### The fee -/

namespace World

variable [Pendzl] {w w' : World} {env : Env} {asset receiver : AccountId}
  {flashFeeE6 feePartE6 amount fee : ℕ}

/-- A fee is at least the exact one and less than two units above it. -/
lemma flashFee_bounds (h : flashFee flashFeeE6 feePartE6 amount = .ok fee)
    (hpart : feePartE6 ≤ E6) :
    amount * flashFeeE6 * feePartE6 ≤ fee * 10 ^ 12
      ∧ fee * 10 ^ 12 < amount * flashFeeE6 * feePartE6 + 2 * 10 ^ 12 := by
  simp only [flashFee, bind_eq_ok, mulDiv_eq_ok, exactDiv] at h
  obtain ⟨preFee, ⟨hE, rfl, -⟩, -, rfl, -⟩ := h
  have hpre : amount * flashFeeE6 ≤ E6 * ((amount * flashFeeE6) ⌈/⌉ E6) := le_smul_ceilDiv hE
  have hpre' := Rounded.mul_ceilDiv_lt (amount * flashFeeE6) hE
  generalize (amount * flashFeeE6) ⌈/⌉ E6 = preFee at hpre hpre' ⊢
  have hfee : preFee * feePartE6 ≤ E6 * ((preFee * feePartE6) ⌈/⌉ E6) := le_smul_ceilDiv hE
  have hfee' := Rounded.mul_ceilDiv_lt (preFee * feePartE6) hE
  generalize (preFee * feePartE6) ⌈/⌉ E6 = fee at hfee hfee' ⊢
  constructor
  · calc amount * flashFeeE6 * feePartE6 ≤ E6 * preFee * feePartE6 :=
          Nat.mul_le_mul_right feePartE6 hpre
      _ = E6 * (preFee * feePartE6) := Nat.mul_assoc ..
      _ ≤ E6 * (E6 * fee) := Nat.mul_le_mul_left E6 hfee
      _ = fee * 10 ^ 12 := by ring
  · calc fee * 10 ^ 12 = E6 * (E6 * fee) := by ring
      _ < E6 * (preFee * feePartE6 + E6) := Nat.mul_lt_mul_of_pos_left hfee' hE
      _ = E6 * preFee * feePartE6 + E6 * E6 := by ring
      _ ≤ (amount * flashFeeE6 + E6) * feePartE6 + E6 * E6 :=
          Nat.add_le_add_right (Nat.mul_le_mul_right feePartE6 hpre'.le) _
      _ = amount * flashFeeE6 * feePartE6 + E6 * feePartE6 + E6 * E6 := by ring
      _ ≤ amount * flashFeeE6 * feePartE6 + E6 * E6 + E6 * E6 :=
          Nat.add_le_add_right (Nat.add_le_add_left (Nat.mul_le_mul_left E6 hpart) _) _
      _ = amount * flashFeeE6 * feePartE6 + 2 * 10 ^ 12 := by ring

omit [Pendzl] in
/-- A fee reduction leaves at most the whole fee. -/
lemma feePartE6_le (s : LendingPoolStorage) (env : FlashEnv) : s.feePartE6 env ≤ E6 := by
  rw [LendingPoolStorage.feePartE6]
  split
  · exact Nat.sub_le _ _
  · exact le_refl _

omit [Pendzl] in
lemma SameBooks.total (h : w.SameBooks w') (side : Side) (asset : AccountId) :
    w'.total side asset = w.total side asset := by
  rw [World.total, World.total, h.pool]

/-! ### The two loops -/

/-- What is lent of an asset. -/
def lentOf (asset : AccountId) (lent : List Lent) : ℕ :=
  sumFor asset (lent.map fun x => (x.asset, x.amount))

/-- What a list of events says about the fees in an asset. -/
def feesOf (asset : AccountId) (events : List FlashLoan) : ℕ :=
  sumFor asset (events.map fun event => (event.asset, event.fee))

omit [Pendzl] in
lemma lentOf_cons (asset : AccountId) (x : Lent) (rest : List Lent) :
    lentOf asset (x :: rest) = (if x.asset = asset then x.amount else 0) + lentOf asset rest := rfl

omit [Pendzl] in
lemma feesOf_cons (asset : AccountId) (event : FlashLoan) (rest : List FlashLoan) :
    feesOf asset (event :: rest)
      = (if event.asset = asset then event.fee else 0) + feesOf asset rest := rfl

omit [Pendzl] in
lemma feesOf_append (asset : AccountId) (before after : List FlashLoan) :
    feesOf asset (before ++ after) = feesOf asset before + feesOf asset after := by
  rw [feesOf, List.map_append, sumFor_append]
  rfl

/-- The first loop takes out what is lent. -/
lemma lendAll_netInflow {l : List (AccountId × ℕ)} {lent : List Lent}
    (h : w.lendAll env receiver flashFeeE6 feePartE6 l = .ok (w', lent)) (asset : AccountId) :
    w'.netInflow asset = w.netInflow asset - lentOf asset lent := by
  induction l generalizing w lent with
  | nil =>
      simp only [lendAll, Except.ok.injEq, Prod.mk.injEq] at h
      obtain ⟨rfl, rfl⟩ := h
      exact (sub_zero _).symm
  | cons head rest ih =>
      obtain ⟨other, amount⟩ := head
      obtain ⟨fee, w₁, later, -, -, hout, hrest, rfl⟩ := lendAll_cons_ok h
      rw [ih hrest, transferOut_netInflow hout, lentOf_cons]
      split_ifs <;> push_cast <;> ring

omit [Pendzl] in
/-- The second loop brings in what was lent and the fees. -/
lemma collectAll_netInflow {lent : List Lent} {events : List FlashLoan}
    (h : w.collectAll env receiver lent = .ok (w', events)) (asset : AccountId) :
    w'.netInflow asset = w.netInflow asset + lentOf asset lent + feesOf asset events := by
  induction lent generalizing w events with
  | nil =>
      simp only [collectAll, Except.ok.injEq, Prod.mk.injEq] at h
      obtain ⟨rfl, rfl⟩ := h
      simp only [lentOf, feesOf, List.map_nil, sumFor, Nat.cast_zero, add_zero]
  | cons x rest ih =>
      obtain ⟨w₁, later, -, hin, hrest, rfl⟩ := collectAll_cons_ok h
      rw [ih hrest, transferIn_netInflow hin, lentOf_cons, feesOf_cons, Lent.event]
      split_ifs <;> push_cast <;> ring

/-- The event of something lent names it, with a fee that is right up to the rounding. -/
def FlashLoan.Charges (event : FlashLoan) (flashFeeE6 feePartE6 : ℕ) : Prop :=
  event.amount ≠ 0 ∧ event.amount * flashFeeE6 * feePartE6 ≤ event.fee * 10 ^ 12
    ∧ event.fee * 10 ^ 12 < event.amount * flashFeeE6 * feePartE6 + 2 * 10 ^ 12

/-- **A flash loan pays.**  Whatever the receiver does, if the flash loan succeeds then it has
brought in of every asset what the receiver's calls to the pool brought in, and the fees of
its events; these name the lent amounts, each with a fee at least the exact one and less
than two units above it; the books are those that the receiver left, and the counter of the
registrar is what it was before the flash loan. -/
theorem flashLoan_pays {env later : FlashEnv} {operation : ExecuteOperation}
    {assets : List AccountId} {amounts : List ℕ} {receiverParams : List UInt8}
    {events : List FlashLoan}
    (h : w.flashLoan env later operation receiver assets amounts receiverParams
      = .ok (w', events)) :
    ∃ flashFeeE6 given left, w.pool.flashLoanFeeE6 = some flashFeeE6
      ∧ operation given assets amounts (events.map FlashLoan.fee) receiverParams = .ok left
      ∧ SameBooks w given ∧ w'.pool = left.pool ∧ w'.tokens = left.tokens
      ∧ w'.registrar = { left.registrar with nextCounter := w.registrar.nextCounter }
      ∧ (∀ asset, w'.netInflow asset - w.netInflow asset
        = left.netInflow asset - given.netInflow asset + feesOf asset events)
      ∧ assets.length = amounts.length
      ∧ (events.map fun event => (event.asset, event.amount)) = assets.zip amounts
      ∧ ∀ event ∈ events, FlashLoan.Charges event flashFeeE6 (w.pool.feePartE6 env) := by
  simp only [flashLoan, bind_eq_ok, mapErr_eq_ok, pure_eq, Except.ok.injEq, Prod.mk.injEq,
    Prod.exists] at h
  obtain ⟨given, lent, hlend, left, hreceiver, back, events', hcollect, rfl, rfl⟩ := h
  obtain ⟨hlength, flashFeeE6, hfee, hall⟩ := lend_ok hlend
  obtain ⟨hgiven, hlent, hfees⟩ := lendAll_ok hall
  obtain ⟨hback, hevents⟩ := collectAll_ok hcollect
  have hmap : events'.map FlashLoan.fee = lent.map Lent.fee := by
    rw [hevents, List.map_map]
    rfl
  refine ⟨flashFeeE6, given, left, hfee, hmap ▸ hreceiver, hgiven, hback.pool, hback.tokens,
    ?_, fun asset => ?_, hlength, ?_, fun event hevent => ?_⟩
  · rw [writeBack, collectAll_registrar hcollect]
  · have hout : given.netInflow asset = w.netInflow asset - lentOf asset lent :=
      lendAll_netInflow hall asset
    have hin : back.netInflow asset
        = left.netInflow asset + lentOf asset lent + feesOf asset events' :=
      collectAll_netInflow hcollect asset
    change back.netInflow asset - w.netInflow asset = _
    omega
  · rw [hevents, List.map_map]
    exact hlent
  · rw [hevents] at hevent
    obtain ⟨x, hx, rfl⟩ := List.mem_map.mp hevent
    obtain ⟨hzero, hx⟩ := hfees x hx
    exact ⟨hzero, flashFee_bounds hx (feePartE6_le w.pool env)⟩

end World

namespace Sample

/-- A receiver that deposits `40` of what it was lent. -/
def depositing [Pendzl] : ExecuteOperation := fun w _ _ _ _ =>
  mapErr (fun _ => .custom "deposit")
    (w.execute (env (account 6) 1) (.deposit (account 100) (account 6) 40))

end Sample

attribute [local instance] Pendzl.exact in
/-- A flash loan of two assets whose receiver deposits one of them. -/
theorem World.flashLoan_pays_sample :
    ∃ (w w' given left : World) (events : List FlashLoan),
      Sample.world.run Sample.depositors = some w
      ∧ w.flashLoan (Sample.flashEnv 5 1) (Sample.flashEnv 5 1) Sample.depositing
        (Sample.account 6) [Sample.account 101, Sample.account 100] [30, 40] [] = .ok (w', events)
      ∧ w'.netInflow (Sample.account 100) - w.netInflow (Sample.account 100)
        = left.netInflow (Sample.account 100) - given.netInflow (Sample.account 100)
          + World.feesOf (Sample.account 100) events := by
  have hrun : ((Sample.world.run Sample.depositors).bind fun w => (w.flashLoan
      (Sample.flashEnv 5 1) (Sample.flashEnv 5 1) Sample.depositing (Sample.account 6)
      [Sample.account 101, Sample.account 100] [30, 40] []).toOption).isSome = true := by
    decide +kernel
  obtain ⟨⟨w', events⟩, hloan⟩ := Option.isSome_iff_exists.mp hrun
  obtain ⟨w, hw, hloan⟩ := Option.bind_eq_some_iff.mp hloan
  have hok := toOption_eq_some.mp hloan
  obtain ⟨fee, given, left, -, -, -, -, -, -, hmoved, -⟩ := World.flashLoan_pays hok
  exact ⟨w, w', given, left, events, hw, hok, hmoved _⟩

/-! ### Sessions -/

namespace Session

/-- What the open flash loans of a session have lent of an asset. -/
def lentOut (σ : Session) (asset : AccountId) : ℕ :=
  (σ.loans.map fun loan => World.lentOf asset loan.lent).sum

section

variable [Pendzl] {σ σ' : Session} {w : World} {acts : List Act}

/-- What a step adds to the tokens of the pool without a deposit, a withdrawal, a borrowing
or a repayment: the interest that it posts to the debts, less the interest that it posts to
the deposits and the income that it pays out. -/
def unposted (asset : AccountId) (σ : Session) : Act → ℤ
  | .message env message =>
      σ.world.interestPosted env .debt asset message
        - σ.world.interestPosted env .deposit asset message - σ.world.incomePaid asset message
  | _ => 0

/-- What the pool should hold of an asset, less what the books say that it holds and the fees
of the flash loans that ended. -/
def surplus (asset : AccountId) (σ : Session) : ℤ :=
  σ.world.netInflow asset + σ.lentOut asset
    - (σ.world.total .deposit asset - σ.world.total .debt asset)
    - World.feesOf asset σ.flashLoans

/-- The step lemma of the surplus. -/
lemma step_surplus {act : Act} (asset : AccountId)
    (hP : σ.world.Linked ∧ σ.world.pool.Occupied) (h : σ.step act = some σ') :
    (σ'.world.Linked ∧ σ'.world.pool.Occupied)
      ∧ σ'.surplus asset = σ.surplus asset + unposted asset σ act := by
  obtain ⟨hl, hocc⟩ := hP
  rcases step_cases h with ⟨env, message, rfl, hex⟩ | ⟨hact, hbooks⟩
  · refine ⟨⟨World.execute_linked hl hex, World.execute_occupied hocc hex⟩, ?_⟩
    obtain ⟨-, w, hw, rfl⟩ := step_message_ok h
    have hcash := World.execute_cash asset hl hex
    have hdeposit := World.execute_total hl hocc hex .deposit asset
    have hdebt := World.execute_total hl hocc hex .debt asset
    simp only [surplus, lentOut, unposted] at hcash hdeposit hdebt ⊢
    omega
  · refine ⟨⟨hbooks.linked hl, hbooks.pool ▸ hocc⟩, ?_⟩
    have hdeposit := hbooks.total .deposit asset
    have hdebt := hbooks.total .debt asset
    cases act with
    | message env message => exact absurd rfl (hact env message)
    | tokens balanceOf =>
        simp only [step, Option.some.injEq] at h
        subst h
        exact (add_zero _).symm
    | lend env receiver assets amounts =>
        obtain ⟨-, w, lent, hlend, rfl⟩ := step_lend_ok h
        obtain ⟨-, fee, -, hall⟩ := World.lend_ok hlend
        have hout := World.lendAll_netInflow hall asset
        simp only [surplus, lentOut, List.map_cons, List.sum_cons, unposted]
          at hout hdeposit hdebt ⊢
        omega
    | collect env =>
        obtain ⟨-, loan, rest, w, events, hloans, hcollect, rfl⟩ := step_collect_ok h
        have hin := World.collectAll_netInflow hcollect asset
        have hcalls : (w.writeBack loan.nextCounter).netInflow asset = w.netInflow asset := rfl
        simp only [surplus, lentOut, hloans, List.map_cons, List.sum_cons, unposted,
          World.feesOf_append, hcalls] at hin hdeposit hdebt ⊢
        omega

/-- **Every token is accounted for.**  In every session around a new pool, at any time and
with any flash loans open: what the calls of the pool have brought in of an asset, with what
is lent out, is the total of the deposits less the total of the debts, with the fees of the
flash loans that ended and the interest posted to the debts, less the interest posted to the
deposits and the protocol income that was paid out. -/
theorem tokens_accounted (hw : w.IsInitial) (h : (start w).run acts = some σ)
    (asset : AccountId) :
    σ.world.netInflow asset + σ.lentOut asset
      = (σ.world.total .deposit asset - σ.world.total .debt asset)
        + World.feesOf asset σ.flashLoans
        + LabelledRun.sumAlong step (unposted asset) (start w) acts := by
  have hreach : World.Reachable (fun _ => True) 0 w := .start hw
  have hmoved := LabelledRun.run_measure (fun a s s' hP hstep => step_surplus asset hP hstep) h
    ⟨World.reachable_linked hreach, World.reachable_occupied hreach⟩
  have hempty : w.pool.assetToId.get asset = none := by
    rw [hw.1]
    rfl
  have hstart : (start w).surplus asset = 0 := by
    simp [surplus, start, lentOut, World.netInflow, World.total, hempty, hw.2.2.2.1,
      World.feesOf, Book.sumFor]
  rw [hstart, zero_add] at hmoved
  rw [← hmoved, surplus]
  ring

end

attribute [local instance] Pendzl.exact in
/-- The tokens of the sample session after its inner flash loan. -/
theorem tokens_accounted_sample :
    ∃ σ, (start Sample.world).run (Sample.openLoans ++ [.collect (Sample.flashEnv 5 1)]) = some σ
      ∧ σ.lentOut (Sample.account 100) = 200 ∧ World.feesOf (Sample.account 100) σ.flashLoans = 1
      ∧ σ.world.netInflow (Sample.account 100) + 200
        = (σ.world.total .deposit (Sample.account 100) - σ.world.total .debt (Sample.account 100))
          + 1 + LabelledRun.sumAlong step (unposted (Sample.account 100)) (start Sample.world)
            (Sample.openLoans ++ [.collect (Sample.flashEnv 5 1)]) := by
  have hrun : ((start Sample.world).run
      (Sample.openLoans ++ [.collect (Sample.flashEnv 5 1)])).map (fun σ =>
        (σ.lentOut (Sample.account 100), World.feesOf (Sample.account 100) σ.flashLoans))
      = some (200, 1) := by decide +kernel
  obtain ⟨σ, hσ, hvalue⟩ := Option.map_eq_some_iff.mp hrun
  obtain ⟨hlent, hfees⟩ := Prod.mk.inj hvalue
  have hall := tokens_accounted Sample.world_isInitial hσ (Sample.account 100)
  rw [hlent, hfees] at hall
  exact ⟨σ, hσ, hlent, hfees, hall⟩

end Session

end AbaxLending
