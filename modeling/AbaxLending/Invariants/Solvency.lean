import AbaxLending.Contract.Run
import AbaxLending.Invariants.Covers
import AbaxLending.Invariants.Totals
import AbaxLending.Spec.Settlement

/-!
Solvency of a reserve over runs.

The cash of a reserve is the balance of the pool in its underlying token.  An action moves
exactly its inflow (`settleAction_balance`), and raises what the reserve owes by at most
that, so runs keep the reserve solvent as long as time passes only while the stored total
of the deposits is no staler than the one of the debts.

* `execute_solvent`, `reach_solvent`: the step lemma and the run lemma;
* `solvent_of_noStaler`: the balance views of such a run never show more deposits and
  income than cash and debts;
* `registerAsset_empty`: runs start where an asset was just registered;
* `insolvent_when_staler`: a run in which only the borrower is touched ends insolvent.
-/

namespace AbaxLending

open Outcome

/-- The asset of which a message accumulates the interest. -/
def Message.accumulates : Message → Option AccountId
  | .accumulateInterest asset => some asset
  | _ => none

/-- The messages that deposit, withdraw, borrow, repay, combine these, or accumulate
interest. -/
def Message.isLending (message : Message) : Bool :=
  message.userActions.isSome || message.accumulates.isSome

lemma Message.accumulates_eq_some {message : Message} {asset : AccountId} :
    message.accumulates = some asset ↔ message = .accumulateInterest asset := by
  cases message <;> simp [accumulates]

namespace World

variable {w w' : World} {env : Env} {asset b account onBehalfOf : AccountId} {k amount first : ℕ}
  {net : ℤ}

/-! ### Cash -/

/-- A payment to the pool raises its balance. -/
lemma transferIn_balance (hcaller : account ≠ w.poolAddress)
    (hasset : w.pool.assetToId.get asset = some k)
    (hmodel : w.pool.interestRateModel.contains k = true)
    (h : w.transferIn env b account amount = .ok w') :
    (w'.balanceOf asset w.poolAddress : ℤ)
      = w.balanceOf asset w.poolAddress + (if b = asset then amount else 0 : ℤ) := by
  obtain ⟨j, hj, h⟩ := transferIn_ok h
  obtain ⟨balances, hbalances, rfl⟩ := invoke_ok h
  by_cases hb : b = asset
  · subst hb
    cases hasset.symm.trans hj
    simp only [hmodel, if_true, settleCall, debit, bind_eq_ok, okOr_eq_ok, checkedSub_eq_some,
      pure_eq, Except.ok.injEq] at hbalances
    obtain ⟨_, ⟨rest, hrest, rfl⟩, rfl⟩ := hbalances
    simp only [Function.update_self, credit, Function.update_of_ne hcaller.symm, if_true]
    push_cast
    rfl
  · rw [if_neg hb, add_zero]
    simp only [Function.update_of_ne (Ne.symm hb)]

/-- A payment of the pool lowers its balance. -/
lemma transferOut_balance (hcaller : account ≠ w.poolAddress)
    (hasset : w.pool.assetToId.get asset = some k)
    (hmodel : w.pool.interestRateModel.contains k = true)
    (h : w.transferOut env b account amount = .ok w') :
    (w'.balanceOf asset w.poolAddress : ℤ)
      = w.balanceOf asset w.poolAddress + (if b = asset then -amount else 0 : ℤ) := by
  obtain ⟨j, hj, h⟩ := transferOut_ok h
  obtain ⟨balances, hbalances, rfl⟩ := invoke_ok h
  by_cases hb : b = asset
  · subst hb
    cases hasset.symm.trans hj
    simp only [hmodel, if_true, settleCall, debit, bind_eq_ok, okOr_eq_ok, checkedSub_eq_some,
      pure_eq, Except.ok.injEq] at hbalances
    obtain ⟨_, ⟨rest, hrest, rfl⟩, rfl⟩ := hbalances
    simp only [Function.update_self, credit, Function.update_of_ne hcaller.symm, if_true, hrest]
    push_cast
    ring
  · rw [if_neg hb, add_zero]
    simp only [Function.update_of_ne (Ne.symm hb)]

/-- The step lemma of the cash: an action moves its inflow. -/
lemma settleAction_balance {action : Action} {interests : ℕ × ℕ}
    (hcaller : env.caller ≠ w.poolAddress) (hasset : w.pool.assetToId.get asset = some k)
    (hmodel : w.pool.interestRateModel.contains k = true)
    (h : w.settleAction env onBehalfOf first action interests = .ok w') :
    (w'.balanceOf asset w.poolAddress : ℤ)
      = w.balanceOf asset w.poolAddress
        + (if action.asset = asset then action.inflow else 0) := by
  obtain ⟨op, b, n⟩ := action
  simp only [settleAction, bind_eq_ok] at h
  obtain ⟨tokens, -, h⟩ := h
  cases op with
  | deposit =>
      simp only [bind_eq_ok] at h
      obtain ⟨w₁, h₁, minted, -, w₂, h₂, h₃⟩ := h
      rw [(emitAbacusTokenTransferEvent_emits h₃).balanceOf,
        (emitAbacusTokenTransferEvent_emits h₂).balanceOf]
      exact transferIn_balance hcaller hasset hmodel h₁
  | withdraw =>
      simp only [bind_eq_ok] at h
      obtain ⟨w₁, h₁, w₂, h₂, h₃⟩ := h
      rw [(emitAbacusTokenTransferEvent_emits h₃).balanceOf,
        (emitAbacusTokenTransferEventAndDecreaseAllowance_emits h₂).balanceOf]
      exact transferOut_balance hcaller hasset hmodel h₁
  | borrow =>
      simp only [bind_eq_ok] at h
      obtain ⟨w₁, h₁, w₂, h₂, minted, -, h₃⟩ := h
      rw [(emitAbacusTokenTransferEventAndDecreaseAllowance_emits h₃).balanceOf,
        (emitAbacusTokenTransferEvent_emits h₂).balanceOf]
      exact transferOut_balance hcaller hasset hmodel h₁
  | repay =>
      simp only [bind_eq_ok] at h
      obtain ⟨w₁, h₁, w₂, h₂, h₃⟩ := h
      rw [(emitAbacusTokenTransferEvent_emits h₃).balanceOf,
        (emitAbacusTokenTransferEvent_emits h₂).balanceOf]
      exact transferIn_balance hcaller hasset hmodel h₁

/-- The run lemma of the cash. -/
lemma settleActions_balance {l : List (Action × (ℕ × ℕ))}
    (hcaller : env.caller ≠ w.poolAddress) (hasset : w.pool.assetToId.get asset = some k)
    (hmodel : w.pool.interestRateModel.contains k = true)
    (h : w.settleActions env onBehalfOf first l = .ok w') :
    (w'.balanceOf asset w.poolAddress : ℤ)
      = w.balanceOf asset w.poolAddress + inflows asset (l.map Prod.fst) := by
  induction l generalizing w with
  | nil =>
      simp only [settleActions, Except.ok.injEq] at h
      rw [h, List.map_nil, show inflows asset [] = 0 from rfl, add_zero]
  | cons head rest ih =>
      obtain ⟨action, interests⟩ := head
      simp only [settleActions, bind_eq_ok] at h
      obtain ⟨w₁, h₁, h₂⟩ := h
      have hkeep := settleAction_keeps h₁
      have hstep := settleAction_balance hcaller hasset hmodel h₁
      have hrest := ih (hkeep.poolAddress ▸ hcaller) (hkeep.pool ▸ hasset) (hkeep.pool ▸ hmodel) h₂
      rw [hkeep.poolAddress] at hrest
      simp only [List.map_cons, inflows_cons]
      omega

/-! ### Messages -/

section

variable [Pendzl] {t : ℕ}

omit [Pendzl] in
/-- The messages that lend. -/
def Lending (message : Message) : Prop := message.isLending = true

instance : DecidablePred Lending := fun _ => inferInstanceAs (Decidable (_ = true))

/-- One step of lending at a block time.  The pool does not send messages to itself. -/
def LendingStep (t : ℕ) (w w' : World) : Prop :=
  ∃ env message, env.blockTimestamp = t ∧ env.caller ≠ w.poolAddress ∧ Lending message
    ∧ w.execute env message = .ok w'

/-- A step before which the deposits of a reserve are no staler than its debts. -/
def FreshStep (k t : ℕ) (w w' : World) : Prop :=
  w.pool.DepositsNoStaler k t ∧ LendingStep t w w'

omit [Pendzl] in
/-- The cash of the pool covers what the reserve of an asset owes. -/
def SolventIn (asset : AccountId) (k : ℕ) (w : World) : Prop :=
  w.pool.Solvent k (w.balanceOf asset w.poolAddress)

/-- The step lemma of solvency. -/
theorem execute_solvent (hl : w.Linked) (hasset : w.pool.assetToId.get asset = some k)
    (h : w.SolventIn asset k) (hstep : FreshStep k t w w') :
    w'.Linked ∧ w'.pool.assetToId.get asset = some k ∧ w'.SolventIn asset k := by
  obtain ⟨hstale, env, message, rfl, hcaller, hkind, hex⟩ := hstep
  obtain ⟨rd, r, hc⟩ := h
  rcases (Bool.or_eq_true ..).mp hkind with hactions | haccumulates
  · obtain ⟨⟨onBehalfOf, actions⟩, hm⟩ := Option.isSome_iff_exists.mp hactions
    obtain ⟨res, l, hres, -, hactions, hloop⟩ := execute_settles hl.ids hm hex
    have hkeep := settleActions_keeps hloop
    have hregistry : w.pool.KeepsRegistry res.storage :=
      .of_positions (LendingPoolStorage.accountForAccountActions_writes hres)
    have hasset' : res.storage.assetToId.get asset = some k := hregistry.assetToId.symm ▸ hasset
    have hsolvent := LendingPoolStorage.accountForAccountActions_solvent hl.ids hasset
      ⟨rd, r, hc⟩ hstale hres
    have hmodel : res.storage.interestRateModel.contains k = true := by
      obtain ⟨_, _, hc'⟩ := hsolvent
      exact hc'.model
    have hcash : (w'.balanceOf asset w.poolAddress : ℤ)
        = w.balanceOf asset w.poolAddress + inflows asset (l.map Prod.fst) :=
      settleActions_balance (w := w.withPool res.storage) hcaller hasset' hmodel hloop
    rw [hactions] at hcash
    have hcash' : ((w'.balanceOf asset w.poolAddress : ℕ) : ℚ)
        = (w.balanceOf asset w.poolAddress : ℕ) + ((inflows asset res.actions : ℤ) : ℚ) := by
      exact_mod_cast congrArg (Int.cast : ℤ → ℚ) hcash
    refine ⟨execute_linked hl hex, hkeep.pool.symm ▸ hasset', ?_⟩
    rw [SolventIn, hkeep.pool, hkeep.poolAddress]
    exact hcash' ▸ hsolvent
  · obtain ⟨b, hb⟩ := Option.isSome_iff_exists.mp haccumulates
    obtain rfl := Message.accumulates_eq_some.mp hb
    have hlinked := execute_linked hl hex
    simp only [execute, mapErr_eq_ok, accumulateInterest, bind_eq_ok, pure_eq,
      Except.ok.injEq] at hex
    obtain ⟨s, hs, rfl⟩ := hex
    have hkeeps := LendingPoolStorage.accountForAccumulateInterest_keepsBooks hs
    exact ⟨hlinked, hkeeps.assetToId.symm ▸ hasset,
      LendingPoolStorage.accountForAccumulateInterest_solvent ⟨rd, r, hc⟩ hstale hs⟩

/-- The run lemma of solvency. -/
lemma reach_solvent {w₀ : World} (hl : w₀.Linked)
    (hasset : w₀.pool.assetToId.get asset = some k) (hempty : w₀.pool.EmptyReserve k)
    (h : TimedRun.Reach (fun w => w = w₀) (FreshStep k) t w) :
    w.Linked ∧ w.pool.assetToId.get asset = some k ∧ w.SolventIn asset k := by
  refine TimedRun.Reach.invariant
    (P := fun w => w.Linked ∧ w.pool.assetToId.get asset = some k ∧ w.SolventIn asset k)
    (fun w hw => ?_) (fun t w w' hP hstep => ?_) h
  · subst hw
    exact ⟨hl, hasset, hempty.solvent (Nat.cast_nonneg _)⟩
  · exact execute_solvent hP.1 hP.2.1 hP.2.2 hstep

/-! ### The views -/

/-- At a time, the balance of the pool and the debts that the views show cover the deposits
that the views show and the income of the reserve. -/
def SolventAt (w : World) (env : Env) (asset : AccountId) (t : ℕ) : Prop :=
  ∀ k r (deposits debts : AccountId → ℕ), w.pool.assetToId.get asset = some k →
    w.pool.reserveIndexesAndFees.get k = some r →
    (∀ a, w.pool.accountDepositOf env asset a t = .ok (deposits a)) →
    (∀ a, w.pool.accountDebtOf env asset a t = .ok (debts a)) →
    ∑ a, deposits a + r.fees.earnedFee ≤ w.balanceOf asset w.poolAddress + ∑ a, debts a

/-- What the views show of an account is covered by its claim. -/
lemma views_claim {s : LendingPoolStorage} {rd : ReserveData} {r : ReserveIndexesAndFees}
    {indexes : ReserveIndexes} {a : AccountId} {d b : ℕ}
    (hasset : s.assetToId.get asset = some k) (hrd : s.reserveDatas.get k = some rd)
    (hr : s.reserveIndexesAndFees.get k = some r) (hup : r.indexes.update rd t = .ok indexes)
    (hpos : ∀ side : Side, 0 < side.index indexes) (hupTo : (s.position a k).UpTo indexes)
    (hd : s.accountDepositOf env asset a t = .ok d)
    (hb : s.accountDebtOf env asset a t = .ok b) :
    (d : ℚ) - b ≤ (s.position a k).claim indexes := by
  obtain ⟨data, hdata, rfl⟩ := Side.deposit.view_eq_ok.mp hd
  obtain ⟨data', hdata', rfl⟩ := Side.debt.view_eq_ok.mp hb
  cases hdata.symm.trans hdata'
  obtain ⟨k', rd', r', indexes', accrual, hk', hrd', hr', hup', haccrual, rfl⟩ :=
    LendingPoolStorage.accruedDataOf_eq_ok.mp hdata
  cases hasset.symm.trans hk'
  cases hrd.symm.trans hrd'
  cases hr.symm.trans hr'
  cases hup.symm.trans hup'
  have hclaim := AccountReserveData.accumulateAccountInterest_claim hupTo hpos haccrual
  obtain ⟨-, -, -, -, hearned⟩ := AccountReserveData.accumulateAccountInterest_spec haccrual
  have hearned' : (r.fees.earnedFee : ℚ) ≤ accrual.fees.earnedFee := by exact_mod_cast hearned
  simp only [Side.amount]
  linarith

/-- **A reserve whose deposits are never staler than its debts is solvent.**  Take a run of
lending messages by any accounts from a reachable world in which the reserve of an asset is
empty.  If before every message, and before the time of the views, the stored total of the
deposits understates them no more than the stored total of the debts understates the debts,
then in the world reached, at that time, the interest promised to the depositors and the
protocol does not exceed the interest owed by the borrowers. -/
theorem solvent_of_noStaler {kind : Message → Prop} {t₀ t' : ℕ} {w₀ : World}
    (hreach : Reachable kind t₀ w₀) (hasset : w₀.pool.assetToId.get asset = some k)
    (hempty : w₀.pool.EmptyReserve k)
    (hrun : TimedRun.Reach (fun w => w = w₀) (FreshStep k) t w)
    (hstale : w.pool.DepositsNoStaler k t') : w.SolventAt env asset t' := by
  obtain ⟨-, hk, rd, r, hc⟩ := reach_solvent (reachable_linked hreach) hasset hempty hrun
  intro k' r' deposits debts hk' hr' hdeposits hdebts
  cases hk.symm.trans hk'
  cases hc.indexesAndFees.symm.trans hr'
  -- all views bring the indexes to the same time
  obtain ⟨data, hdata, -⟩ := Side.deposit.view_eq_ok.mp (hdeposits w.poolAddress)
  obtain ⟨k', rd', r', indexes, -, hk', hrd', hr', hup, -, -⟩ :=
    LendingPoolStorage.accruedDataOf_eq_ok.mp hdata
  cases hk.symm.trans hk'
  cases hc.reserveData.symm.trans hrd'
  cases hc.indexesAndFees.symm.trans hr'
  obtain ⟨hpos, hupTo, hclaims⟩ := hc.update hstale hup
  have hsum : ∑ a, ((deposits a : ℚ) - debts a) ≤ ∑ a, (w.pool.position a k).claim indexes :=
    Finset.sum_le_sum fun a _ =>
      views_claim hk hc.reserveData hc.indexesAndFees hup hpos (hupTo a) (hdeposits a) (hdebts a)
  rw [Finset.sum_sub_distrib] at hsum
  rw [LendingPoolStorage.claims] at hclaims
  have hcover : (∑ a, (deposits a : ℚ)) + r.fees.earnedFee
      ≤ w.balanceOf asset w.poolAddress + ∑ a, (debts a : ℚ) := by linarith
  exact_mod_cast hcover

/-! ### Where runs start -/

/-- **A registration leaves an empty reserve**, if it comes with an interest rate model. -/
theorem registerAsset_empty {decimals depositFeeE6 debtFeeE6 : ℕ} {rules : AssetRules}
    {restrictions : ReserveRestrictions} {params : InterestRateModelParams}
    (htotals : w.pool.TotalsAgree)
    (h : w.execute env (.registerAsset asset decimals rules restrictions depositFeeE6 debtFeeE6
      (some params)) = .ok w') :
    w'.pool.assetToId.get asset = some w.pool.assetCount
      ∧ w'.pool.EmptyReserve w.pool.assetCount := by
  obtain ⟨s₁, s₂, multiplier, tokens, h₁, h₂, h₃⟩ := (execute_frame h).1
  obtain ⟨hr, hindexes, hmodel⟩ := LendingPoolStorage.register_ok h₁ h₂ h₃
  refine ⟨hr.assetToId ▸ Mapping.get_insert_self .., ⟨ReserveData.initial, ?_, rfl, rfl⟩,
    ⟨_, hindexes, rfl, ?_⟩, hmodel rfl, fun a => ?_⟩
  · rw [hr.reserveDatas]
    exact Mapping.get_insert_self ..
  · exact fun side => side.index_new_pos _
  · rw [LendingPoolStorage.entry_congr hr.accountReserveDatas]
    exact htotals.vacant _ htotals.next_free a

/-- A computed run that ends with a registration ends with an empty reserve. -/
lemma run_registers_empty {decimals depositFeeE6 debtFeeE6 : ℕ} {rules : AssetRules}
    {restrictions : ReserveRestrictions} {params : InterestRateModelParams}
    {before : List (Env × Message)} (hw : w.IsInitial) (hadm : Admissible OneSided 0 before)
    (h : w.run (before ++ [(env, .registerAsset asset decimals rules restrictions depositFeeE6
      debtFeeE6 (some params))]) = some w') :
    ∃ k, w'.pool.assetToId.get asset = some k ∧ w'.pool.EmptyReserve k := by
  rw [run_append, Option.bind_eq_some_iff] at h
  obtain ⟨w₁, hbefore, h⟩ := h
  obtain ⟨w₂, hex, h⟩ := run_cons_eq_some.mp h
  simp only [run_nil, Option.some.injEq] at h
  subst h
  exact ⟨_, registerAsset_empty (reachable_totalsAgree (run_reachable (.start hw) hadm hbefore))
    hex⟩

/-- A computed run of messages that lend. -/
lemma run_lends {w₀ : World} {messages : List (Env × Message)}
    (hw : TimedRun.Reach (fun w => w = w₀) LendingStep t w)
    (hadm : Admissible Lending t messages)
    (hcallers : ∀ message ∈ messages, message.1.caller ≠ w.poolAddress)
    (h : w.run messages = some w') :
    TimedRun.Reach (fun w => w = w₀) LendingStep (lastTime t messages) w' := by
  induction messages generalizing t w with
  | nil =>
      simp only [run_nil, Option.some.injEq] at h
      exact h ▸ hw
  | cons head rest ih =>
      obtain ⟨env, message⟩ := head
      obtain ⟨hle, hlending, hrest⟩ := hadm
      obtain ⟨w₁, hex, h⟩ := run_cons_eq_some.mp h
      have hpool := (execute_frame hex).2.poolAddress
      refine ih (.next hw hle ⟨env, message, rfl, ?_, hlending, hex⟩) hrest ?_ h
      · exact hcallers (env, message) (List.mem_cons_self ..)
      · intro m hm
        rw [hpool]
        exact hcallers m (List.mem_cons_of_mem _ hm)

end

end World

/-! ### A lender and a borrower -/

namespace Sample

/-- The sample world with a pool that owns nothing. -/
def pennilessWorld : World :=
  { world with balanceOf := fun _ a => if a = account 9 then 0 else 10 ^ 30 }

/-- The messages before the registration of the first asset: `account 3` has a deposit of
the second one as its collateral. -/
def collateral : List (Env × Message) := [
  (env admin 0, .addMarketRule []), (env admin 0, .setPriceFeedProvider (account 8)), register 101,
  send 3 0 fun a => .deposit (account 101) a (10 ^ 13),
  send 3 0 fun _ => .setAsCollateral (account 101) true]

/-- `account 2` deposits the first asset. -/
def lends : Env × Message := send 2 1 fun a => .deposit (account 100) a (10 ^ 12)

/-- `account 3` borrows half of it. -/
def borrows : Env × Message := send 3 1 fun a => .borrow (account 100) a (5 * 10 ^ 11)

/-- Much later, `account 3` repays one unit. -/
def repays : Env × Message := send 3 (10 ^ 11) fun a => .repay (account 100) a 1

lemma pennilessWorld_isInitial : pennilessWorld.IsInitial := ⟨rfl, rfl, rfl, rfl, rfl⟩

end Sample

namespace World

attribute [local instance] Pendzl.exact in
/-- The registration of the first asset. -/
lemma sample_registered :
    ∃ w₀, Sample.pennilessWorld.run (Sample.collateral ++ [Sample.register 100]) = some w₀
      ∧ Reachable OneSided 0 w₀ ∧ w₀.poolAddress = Sample.account 9
      ∧ w₀.pool.assetToId.get (Sample.account 100) = some 1 ∧ w₀.pool.EmptyReserve 1 := by
  have hrun : (Sample.pennilessWorld.run (Sample.collateral ++ [Sample.register 100])).map
      (fun w => (w.poolAddress, w.pool.assetToId.get (Sample.account 100)))
      = some (Sample.account 9, some 1) := by decide +kernel
  obtain ⟨w₀, h₀, hreach, hv⟩ :=
    run_reaches OneSided Sample.pennilessWorld_isInitial (by decide) hrun
  obtain ⟨hpool, hk⟩ := Prod.mk.inj hv
  obtain ⟨k, hk', hempty⟩ :=
    run_registers_empty Sample.pennilessWorld_isInitial (by decide) h₀
  cases hk.symm.trans hk'
  exact ⟨w₀, h₀, hreach, hpool, hk, hempty⟩

attribute [local instance] Pendzl.exact in
/-- The sample reserve is solvent `10^11` milliseconds after the loan. -/
theorem solvent_of_noStaler_lending :
    ∃ w, Sample.pennilessWorld.run (Sample.collateral ++ [Sample.register 100]
        ++ [Sample.lends, Sample.borrows]) = some w
      ∧ w.SolventAt (Sample.env (Sample.account 5) (10 ^ 11)) (Sample.account 100) (10 ^ 11) := by
  obtain ⟨w₀, h₀, hreach, hpool, hk, hempty⟩ := sample_registered
  have hlent : (Sample.pennilessWorld.run (Sample.collateral ++ [Sample.register 100]
        ++ [Sample.lends])).map (fun w => w.pool.reserveIndexesAndFees.get 1)
      = some (some ⟨⟨E18, E18, 1⟩, ⟨0, 0, 0⟩⟩) := by decide +kernel
  have hborrowed : (Sample.pennilessWorld.run (Sample.collateral ++ [Sample.register 100]
        ++ [Sample.lends, Sample.borrows])).map (fun w =>
        (w.pool.position (Sample.account 2) 1, w.pool.position (Sample.account 3) 1,
          w.pool.reserveIndexesAndFees.get 1, (w.pool.reserveDatas.get 1).map ReserveData.totals))
      = some (⟨10 ^ 12, 0, E18, E18⟩, ⟨0, 5 * 10 ^ 11, E18, E18⟩,
          some ⟨⟨E18, E18, 1⟩, ⟨0, 0, 0⟩⟩, some (10 ^ 12, 5 * 10 ^ 11)) := by decide +kernel
  obtain ⟨w, hw, hv⟩ := Option.map_eq_some_iff.mp hborrowed
  obtain ⟨w₁, hw₁, hr₁⟩ := Option.map_eq_some_iff.mp hlent
  refine ⟨w, hw, ?_⟩
  simp only [Prod.mk.injEq] at hv
  obtain ⟨hlender, hborrower, hr, htotals⟩ := hv
  obtain ⟨rd, hrd, htotals⟩ := Option.map_eq_some_iff.mp htotals
  obtain ⟨hd, hb⟩ := Prod.mk.inj htotals
  rw [run_append, h₀, Option.bind_some] at hw hw₁
  have hagree : w.pool.TotalsAgree :=
    reachable_totalsAgree (run_reachable hreach (t := 0) (by decide) hw)
  obtain ⟨w₁', hlends, hw⟩ := run_cons_eq_some.mp hw
  obtain ⟨w₂', hborrows, hw⟩ := run_cons_eq_some.mp hw
  obtain ⟨w₃', hlends', hw₁⟩ := run_cons_eq_some.mp hw₁
  obtain rfl : w₁' = w₃' := Except.ok.inj (hlends.symm.trans hlends')
  obtain rfl : w₁' = w₁ := Option.some.inj hw₁
  obtain rfl : w₂' = w := Option.some.inj hw
  have hpool₁ : w₁'.poolAddress = Sample.account 9 :=
    (execute_frame hlends).2.poolAddress.trans hpool
  have hlending : LendingStep 1 w₀ w₁' :=
    ⟨Sample.lends.1, Sample.lends.2, rfl, by rw [hpool]; decide, rfl, hlends⟩
  have hborrowing : LendingStep 1 w₁' w₂' :=
    ⟨Sample.borrows.1, Sample.borrows.2, rfl, by rw [hpool₁]; decide, rfl, hborrows⟩
  -- nobody else holds anything in the reserve, and both positions are up to date
  have hworth : ∀ side : Side, w₂'.pool.worth side 1 ⟨E18, E18, 1⟩ = side.total rd := by
    intro side
    cases side with
    | deposit =>
        refine LendingPoolStorage.worth_eq_total (a := Sample.account 2) (hagree.deposit 1 rd hrd)
          ?_ ?_ ?_ <;> simp only [Side.amount, Side.total, Side.applied, Side.index, hlender, hd]
        norm_num
    | debt =>
        refine LendingPoolStorage.worth_eq_total (a := Sample.account 3) (hagree.debt 1 rd hrd)
          ?_ ?_ ?_ <;> simp only [Side.amount, Side.total, Side.applied, Side.index, hborrower, hb]
        norm_num
  have hfresh : w₁'.pool.DepositsNoStaler 1 1 :=
    LendingPoolStorage.noStaler_of_updated hr₁ (by simp only [le_refl])
  have hrun : TimedRun.Reach (fun v => v = w₀) (FreshStep 1) 1 w₂' :=
    .next (.next (t := 0) (.start rfl) (Nat.zero_le 1) ⟨hempty.noStaler 1, hlending⟩) le_rfl
      ⟨hfresh, hborrowing⟩
  exact solvent_of_noStaler hreach hk hempty hrun
    (LendingPoolStorage.noStaler_of_worth hrd hr hworth _)

attribute [local instance] Pendzl.exact in
/-- **A run in which only the borrower is touched ends insolvent**: `account 3` repays one
unit of its debt, which raises the stored total of the debts by the interest of a long
time, while the interest of the depositor stays out of the stored total of the deposits.
From then on the deposit rate is too high. -/
theorem insolvent_when_staler :
    ∃ w₀ w, Reachable (fun _ => True) 0 w₀
      ∧ w₀.pool.assetToId.get (Sample.account 100) = some 1 ∧ w₀.pool.EmptyReserve 1
      ∧ TimedRun.Reach (fun v => v = w₀) LendingStep (10 ^ 11) w
      ∧ ¬w.SolventAt (Sample.env (Sample.account 5) (2 * 10 ^ 11)) (Sample.account 100)
          (2 * 10 ^ 11) := by
  obtain ⟨w₀, h₀, hreach, hpool, hk₀, hempty⟩ := sample_registered
  have hbooks : (Sample.pennilessWorld.run (Sample.collateral ++ [Sample.register 100]
        ++ [Sample.lends, Sample.borrows, Sample.repays])).map (fun w =>
        ((w.pool.position (Sample.account 2) 1).deposit,
          (w.pool.position (Sample.account 3) 1).debt,
          (w.pool.reserveDatas.get 1).map ReserveData.totals,
          (w.pool.reserveIndexesAndFees.get 1).map fun r => r.fees.earnedFee))
      = some (10 ^ 12, 549999999999, some (10 ^ 12, 549999999999), some 0) := by decide +kernel
  have hviews : (Sample.pennilessWorld.run (Sample.collateral ++ [Sample.register 100]
        ++ [Sample.lends, Sample.borrows, Sample.repays])).map (fun w =>
        (w.balanceOf (Sample.account 100) w.poolAddress, w.pool.assetToId.get (Sample.account 100),
          [2, 3].map fun n => ([Side.deposit, Side.debt].map fun side =>
            (side.view w.pool (Sample.env (Sample.account 5) (2 * 10 ^ 11)) (Sample.account 100)
              (Sample.account n) (2 * 10 ^ 11)).toOption)))
      = some (500000000001, some 1,
          [[some 1113524789999, some 0], [some 0, some 610499889999]]) := by
    decide +kernel
  obtain ⟨w, hw, hv⟩ := Option.map_eq_some_iff.mp hbooks
  obtain ⟨w', hw', hview⟩ := Option.map_eq_some_iff.mp hviews
  obtain rfl : w = w' := Option.some.inj (hw.symm.trans hw')
  simp only [Prod.mk.injEq, List.map_cons, List.map_nil, List.cons.injEq, and_true,
    toOption_eq_some] at hv hview
  obtain ⟨hlender, hborrower, htotals, hfees⟩ := hv
  obtain ⟨hcash, hk, ⟨hdeposit₂, hdebt₂⟩, hdeposit₃, hdebt₃⟩ := hview
  obtain ⟨rd, hrd, htotals⟩ := Option.map_eq_some_iff.mp htotals
  obtain ⟨hd, hb⟩ := Prod.mk.inj htotals
  obtain ⟨r, hr, hfee⟩ := Option.map_eq_some_iff.mp hfees
  rw [run_append, h₀, Option.bind_some] at hw
  have hagree : w.pool.TotalsAgree :=
    reachable_totalsAgree (run_reachable hreach (t := 0) (by decide) hw)
  have hlends : TimedRun.Reach (fun v => v = w₀) LendingStep (10 ^ 11) w :=
    run_lends (t := 0) (.start rfl) (by decide) (by rw [hpool]; decide) hw
  refine ⟨w₀, w,
    hreach.mono fun _ _ _ ⟨env, message, ht, _, hex⟩ => ⟨env, message, ht, trivial, hex⟩,
    hk₀, hempty, hlends, fun hsolvent => ?_⟩
  -- the views show something of these two accounts only
  obtain ⟨data, hdata, -⟩ := Side.deposit.view_eq_ok.mp hdeposit₂
  obtain ⟨k, rd', r', indexes, -, hk', hrd', hr', hup, -, -⟩ :=
    LendingPoolStorage.accruedDataOf_eq_ok.mp hdata
  cases hk.symm.trans hk'
  have hothers : ∀ a, a ≠ Sample.account 2 → a ≠ Sample.account 3 → ∀ side : Side,
      side.view w.pool (Sample.env (Sample.account 5) (2 * 10 ^ 11)) (Sample.account 100) a
        (2 * 10 ^ 11) = .ok 0 := by
    intro a h2 h3
    refine LendingPoolStorage.view_of_zero hk hrd' hr' hup fun side => ?_
    cases side with
    | deposit => exact (hagree.deposit 1 rd hrd).eq_zero_of_total (hlender.trans hd.symm) h2
    | debt => exact (hagree.debt 1 rd hrd).eq_zero_of_total (hborrower.trans hb.symm) h3
  have hcover := hsolvent 1 r (fun a => if a = Sample.account 2 then 1113524789999 else 0)
    (fun a => if a = Sample.account 3 then 610499889999 else 0) hk hr (fun a => ?_) (fun a => ?_)
  · rw [Finset.sum_ite_eq', Finset.sum_ite_eq', if_pos (Finset.mem_univ _),
      if_pos (Finset.mem_univ _), hfee, hcash] at hcover
    omega
  · by_cases h2 : a = Sample.account 2
    · rw [if_pos h2, h2]
      exact hdeposit₂
    · rw [if_neg h2]
      by_cases h3 : a = Sample.account 3
      · rw [h3]
        exact hdeposit₃
      · exact hothers a h2 h3 .deposit
  · by_cases h3 : a = Sample.account 3
    · rw [if_pos h3, h3]
      exact hdebt₃
    · rw [if_neg h3]
      by_cases h2 : a = Sample.account 2
      · rw [h2]
        exact hdebt₂
      · exact hothers a h2 h3 .debt

end World

end AbaxLending
