import AbaxLending.Lib.Book
import AbaxLending.Invariants.Income

/-!
What `take_protocol_income` clears and what it pays.

The first loop clears the income of every asset of the list, in order; an asset that comes
again has nothing left (`incomesOf`).  The second loop pays the incomes of the same list, but
ends at the first income of zero, so an income behind it is cleared and stays in the pool.

* `takeProtocolIncome_incomes`: what the first loop returns and leaves;
* `payIncome_paid`: what the second loop pays, asset by asset;
* `income_paid_iff`: everything that is cleared is paid exactly when no asset with income
  comes behind an asset without income or a repeated one (`PaidInOrder`).
-/

namespace AbaxLending

open Outcome Book

/-- The incomes that the first loop returns: each asset is cleared when it is met. -/
def incomesOf (earned : AccountId → ℕ) : List AccountId → List (AccountId × ℕ)
  | [] => []
  | asset :: rest => (asset, earned asset) :: incomesOf (Function.update earned asset 0) rest

/-- No asset with income comes for the first time behind an asset that has nothing to pay: one
without income, or one that came before. -/
def PaidInOrder (earned : AccountId → ℕ) (assets : List AccountId) : Prop :=
  ∀ before asset after, assets = before ++ asset :: after →
    earned asset = 0 ∨ asset ∈ before → ∀ later ∈ after, earned later = 0 ∨ later ∈ before

section

variable {earned : AccountId → ℕ} {assets : List AccountId}

/-- The incomes of an asset come to what it earned, once. -/
lemma sumFor_incomesOf (earned : AccountId → ℕ) (assets : List AccountId) (asset : AccountId) :
    sumFor asset (incomesOf earned assets) = if asset ∈ assets then earned asset else 0 := by
  induction assets generalizing earned with
  | nil => rfl
  | cons head rest ih =>
      rw [incomesOf, sumFor, ih]
      by_cases hhead : head = asset
      · subst hhead
        simp
      · rw [if_neg hhead, Nat.zero_add, Function.update_of_ne (Ne.symm hhead)]
        simp [Ne.symm hhead]

/-- The incomes are all zero exactly when the assets have none. -/
lemma incomesOf_eq_zero_iff :
    (∀ income ∈ incomesOf earned assets, income.2 = 0) ↔ ∀ asset ∈ assets, earned asset = 0 := by
  rw [← sumFor_eq_zero_iff]
  simp only [sumFor_incomesOf, ite_eq_right_iff]

/-- Behind an asset with income the order is the one of the rest, where it has none left. -/
lemma paidInOrder_cons {asset : AccountId} (hasset : earned asset ≠ 0) :
    PaidInOrder earned (asset :: assets) ↔ PaidInOrder (Function.update earned asset 0) assets := by
  have hupdate : ∀ other before, Function.update earned asset 0 other = 0 ∨ other ∈ before
      ↔ earned other = 0 ∨ other ∈ asset :: before := by
    intro other before
    by_cases h : other = asset
    · simp [h]
    · simp [h]
  constructor
  · intro h before other after heq hnone later hlater
    rw [hupdate] at hnone ⊢
    exact h (asset :: before) other after (by rw [heq]; rfl) hnone later hlater
  · intro h before other after heq hnone later hlater
    cases before with
    | nil =>
        rw [List.nil_append, List.cons.injEq] at heq
        obtain ⟨rfl, -⟩ := heq
        exact absurd hnone (by simpa using hasset)
    | cons head before =>
        rw [List.cons_append, List.cons.injEq] at heq
        obtain ⟨rfl, heq⟩ := heq
        rw [← hupdate] at hnone ⊢
        exact h before other after heq hnone later hlater

/-- An asset without income stops everything behind it. -/
lemma paidInOrder_cons_of_zero {asset : AccountId} (hasset : earned asset = 0) :
    PaidInOrder earned (asset :: assets) ↔ ∀ other ∈ assets, earned other = 0 := by
  constructor
  · intro h other hother
    simpa using h [] asset assets rfl (.inl hasset) other hother
  · intro h before other after heq _ later hlater
    have hmem : later ∈ asset :: assets := by
      rw [heq]
      exact List.mem_append_right _ (List.mem_cons_of_mem _ hlater)
    rcases List.mem_cons.mp hmem with rfl | hmem
    · exact .inl hasset
    · exact .inl (h later hmem)

/-- What the second loop leaves unpaid is zero exactly when the assets are in order. -/
theorem unpaid_eq_zero_iff :
    (∀ income ∈ (incomesOf earned assets).dropWhile fun income => 0 < income.2, income.2 = 0)
      ↔ PaidInOrder earned assets := by
  induction assets generalizing earned with
  | nil =>
      refine iff_of_true (fun _ h => absurd h List.not_mem_nil) ?_
      intro before asset after heq
      exact absurd heq.symm (by simp)
  | cons asset rest ih =>
      rw [incomesOf, List.dropWhile_cons]
      by_cases hasset : earned asset = 0
      · rw [if_neg (by simpa using hasset), paidInOrder_cons_of_zero hasset, List.forall_mem_cons,
          incomesOf_eq_zero_iff]
        refine ⟨fun h other hother => ?_, fun h => ⟨hasset, fun other hother => ?_⟩⟩
        · by_cases hne : other = asset
          · rw [hne, hasset]
          · simpa [Function.update_of_ne hne] using h.2 other hother
        · by_cases hne : other = asset
          · rw [hne, Function.update_self]
          · rw [Function.update_of_ne hne, h other hother]
      · rw [if_pos (by simpa using Nat.pos_of_ne_zero hasset), ih, paidInOrder_cons hasset]

end

/-! ### The first loop -/

namespace LendingPoolStorage

variable {s s' : LendingPoolStorage} {asset : AccountId} {assets : List AccountId}
  {incomes : List (AccountId × ℕ)}

/-- The income of an asset; one that is not registered has none. -/
def earnedOf (s : LendingPoolStorage) (asset : AccountId) : ℕ :=
  ((s.assetToId.get asset).map s.earnedFee).getD 0

lemma earnedOf_of_get {k : ℕ} (hk : s.assetToId.get asset = some k) :
    s.earnedOf asset = s.earnedFee k := by
  rw [earnedOf, hk]
  rfl

/-- Clearing the income of an asset clears no other one. -/
lemma earnedOf_clear {k : ℕ} {r : ReserveIndexesAndFees} (hids : s.IdsUnique)
    (hk : s.assetToId.get asset = some k) :
    (s.putIndexesAndFees k { r with fees := r.fees.takeEarnedFee.1 }).earnedOf
      = Function.update s.earnedOf asset 0 := by
  funext other
  by_cases h : other = asset
  · rw [h, Function.update_self, earnedOf, putIndexesAndFees_assetToId, hk]
    simp [earnedFee, ReserveFees.takeEarnedFee]
  · rw [Function.update_of_ne h, earnedOf, earnedOf, putIndexesAndFees_assetToId]
    cases hother : s.assetToId.get other with
    | none => rfl
    | some j =>
        have hj : j ≠ k := fun hjk => h (hids.inj other asset k (hjk ▸ hother) hk)
        simp [earnedFee, Mapping.get_insert_of_ne _ hj]

/-- **What the first loop returns and leaves.** -/
lemma takeProtocolIncome_incomes (hids : s.IdsUnique)
    (h : s.takeProtocolIncome assets = .ok (s', incomes)) :
    incomes = incomesOf s.earnedOf assets
      ∧ ∀ asset, s'.earnedOf asset = if asset ∈ assets then 0 else s.earnedOf asset := by
  induction assets generalizing s incomes with
  | nil =>
      simp only [takeProtocolIncome, Except.ok.injEq, Prod.mk.injEq] at h
      obtain ⟨rfl, rfl⟩ := h
      exact ⟨rfl, fun asset => by simp⟩
  | cons head rest ih =>
      simp only [takeProtocolIncome, assetId, bind_eq_ok, okOr_eq_ok, pure_eq, Except.ok.injEq,
        Prod.mk.injEq, Prod.exists] at h
      obtain ⟨k, hk, r, hr, s₁, rest', hrest, rfl, rfl⟩ := h
      have hclear := earnedOf_clear (r := r) hids hk
      have hids₁ : (s.putIndexesAndFees k { r with fees := r.fees.takeEarnedFee.1 }).IdsUnique :=
        ⟨hids.below, hids.inj⟩
      obtain ⟨hincomes, hleft⟩ := ih hids₁ hrest
      rw [hclear] at hincomes hleft
      refine ⟨?_, fun asset => ?_⟩
      · rw [incomesOf, earnedOf_of_get hk, earnedFee_of_get hr, hincomes]
        rfl
      · rw [hleft]
        by_cases hasset : asset = head
        · simp [hasset]
        · simp [hasset]

end LendingPoolStorage

/-! ### The second loop -/

/-- What a call to an underlying token pays out to an account. -/
def PSP22Call.paidTo (account : AccountId) : PSP22Call → ℕ
  | .transfer toAccount amount | .mint toAccount amount => if toAccount = account then amount else 0
  | .transferFrom _ _ _ | .burn _ _ => 0

namespace World

/-- What the calls of the pool so far have paid out of an asset to an account. -/
def paidTo (w : World) (account asset : AccountId) : ℕ :=
  sumFor asset (w.calls.map fun call => (call.1, call.2.paidTo account))

variable {w w' : World} {env : Env} {toAccount : AccountId}

/-- A transfer out pays its amount. -/
lemma transferOut_paid {asset : AccountId} {amount : ℕ}
    (h : w.transferOut env asset toAccount amount = .ok w') (other : AccountId) :
    w'.paidTo toAccount other
      = w.paidTo toAccount other + if asset = other then amount else 0 := by
  obtain ⟨k, -, h⟩ := transferOut_ok h
  obtain ⟨balances, -, rfl⟩ := invoke_ok h
  rw [paidTo, paidTo, List.map_append, sumFor_append]
  split_ifs <;> simp [sumFor, PSP22Call.paidTo, *]

/-- **What the second loop pays**: its entries. -/
lemma payIncome_paid {l : List (AccountId × ℕ)} (h : w.payIncome env toAccount l = .ok w')
    (asset : AccountId) :
    w'.paidTo toAccount asset = w.paidTo toAccount asset + sumFor asset l := by
  induction l generalizing w with
  | nil =>
      simp only [payIncome, Except.ok.injEq] at h
      rw [h, sumFor, Nat.add_zero]
  | cons entry l ih =>
      obtain ⟨head, amount⟩ := entry
      simp only [payIncome, bind_eq_ok] at h
      obtain ⟨w₁, hout, hrest⟩ := h
      rw [ih hrest, transferOut_paid hout, sumFor, Nat.add_assoc]

section

variable [Pendzl] {t : ℕ} {kind : Message → Prop} {assets : Option (List AccountId)}
  {incomes : List (AccountId × ℕ)} {list : List AccountId}

omit [Pendzl] in
/-- What a message that takes income clears, returns and pays, asset by asset. -/
lemma takeProtocolIncome_paid (hids : w.pool.IdsUnique) (hlist : w.incomeAssets assets = .ok list)
    (hex : w.takeProtocolIncome env assets toAccount = .ok (w', incomes)) (asset : AccountId) :
    incomes = incomesOf w.pool.earnedOf list
      ∧ w'.pool.earnedOf asset + sumFor asset incomes = w.pool.earnedOf asset
      ∧ w'.paidTo toAccount asset = w.paidTo toAccount asset
        + sumFor asset (incomes.takeWhile fun income => 0 < income.2) := by
  simp only [takeProtocolIncome, hlist, ok_bind, bind_eq_ok, pure_eq, Except.ok.injEq,
    Prod.mk.injEq, Prod.exists] at hex
  obtain ⟨-, -, pool, incomes', hclear, w₁, hpay, rfl, rfl⟩ := hex
  obtain ⟨hincomes, hleft⟩ := LendingPoolStorage.takeProtocolIncome_incomes hids hclear
  refine ⟨hincomes, ?_, payIncome_paid hpay asset⟩
  rw [(payIncome_keeps hpay).pool, withPool_pool, hleft, hincomes, sumFor_incomesOf]
  split_ifs
  · rw [Nat.zero_add]
  · rw [Nat.add_zero]

/-- **When taking income pays out what it clears.**  In every state of a run and for every
message that takes income and succeeds: for every asset the message pays the receiver what
the income of the asset decreases by, which is the sum of what it returns for the asset,
exactly when no asset with income comes behind an asset that has nothing to pay. -/
theorem income_paid_iff (h : Reachable kind t w) (hlist : w.incomeAssets assets = .ok list)
    (hex : w.takeProtocolIncome env assets toAccount = .ok (w', incomes)) :
    (∀ asset, w'.paidTo toAccount asset + w'.pool.earnedOf asset
          = w.paidTo toAccount asset + w.pool.earnedOf asset
        ∧ w'.paidTo toAccount asset = w.paidTo toAccount asset + sumFor asset incomes)
      ↔ PaidInOrder w.pool.earnedOf list := by
  have hids := (reachable_linked h).ids
  have hpaid := takeProtocolIncome_paid hids hlist hex
  have hincomes := (hpaid toAccount).1
  rw [← unpaid_eq_zero_iff, ← hincomes, ← sumFor_takeWhile_iff]
  refine forall_congr' fun asset => ?_
  obtain ⟨-, hclear, hout⟩ := hpaid asset
  constructor
  · rintro ⟨-, hreturned⟩
    omega
  · intro hsum
    omega

end

/-- The administrator takes the income of some assets for `account 7`. -/
def takeSample (w : World) (assets : List ℕ) : Res (World × List (AccountId × ℕ)) :=
  w.takeProtocolIncome (Sample.env Sample.admin 3) (some (assets.map Sample.account))
    (Sample.account 7)

attribute [local instance] Pendzl.exact in
/-- In a pool in which the first asset earned `1` and the second one nothing, both are paid
in this order. -/
theorem income_paid_iff_sample :
    ∃ w w' incomes, Sample.world.run (Sample.feesSet ++ Sample.interestPaid) = some w
      ∧ w.takeSample [100, 101] = .ok (w', incomes)
      ∧ ∀ asset, w'.paidTo (Sample.account 7) asset
        = w.paidTo (Sample.account 7) asset + sumFor asset incomes := by
  have hrun : (Sample.world.run (Sample.feesSet ++ Sample.interestPaid)).map
        (fun w => (w.pool.earnedOf (Sample.account 100), w.pool.earnedOf (Sample.account 101),
          (w.takeSample [100, 101]).isOk))
      = some (1, 0, true) := by decide +kernel
  obtain ⟨w, hw, hreach, hv⟩ :=
    run_reaches (fun _ => True) Sample.world_isInitial (by decide) hrun
  simp only [Prod.mk.injEq] at hv
  obtain ⟨hfirst, hsecond, hok⟩ := hv
  obtain ⟨⟨w', incomes⟩, htake⟩ := isOk_eq_true.mp hok
  have horder : PaidInOrder w.pool.earnedOf [Sample.account 100, Sample.account 101] := by
    rw [paidInOrder_cons (by rw [hfirst]; norm_num), paidInOrder_cons_of_zero]
    · simp
    · rw [Function.update_of_ne (by decide), hsecond]
  have hpaid := (income_paid_iff hreach rfl htake).mpr horder
  exact ⟨w, w', incomes, hw, htake, fun asset => (hpaid asset).2⟩

attribute [local instance] Pendzl.exact in
/-- In the other order nothing is paid: the income of the first asset is cleared, and stays
in the pool. -/
theorem take_income_keeps :
    ∃ w w' incomes, Sample.world.run (Sample.feesSet ++ Sample.interestPaid) = some w
      ∧ w.takeSample [101, 100] = .ok (w', incomes)
      ∧ w.pool.earnedOf (Sample.account 100) = 1 ∧ w'.pool.earnedOf (Sample.account 100) = 0
      ∧ sumFor (Sample.account 100) incomes = 1
      ∧ w'.paidTo (Sample.account 7) (Sample.account 100)
        = w.paidTo (Sample.account 7) (Sample.account 100) := by
  have hrun : ((Sample.world.run (Sample.feesSet ++ Sample.interestPaid)).bind fun w =>
        (w.takeSample [101, 100]).toOption.map fun x =>
          (w.pool.earnedOf (Sample.account 100), x.1.pool.earnedOf (Sample.account 100),
            sumFor (Sample.account 100) x.2, w.paidTo (Sample.account 7) (Sample.account 100),
            x.1.paidTo (Sample.account 7) (Sample.account 100)))
      = some (1, 0, 1, 0, 0) := by decide +kernel
  obtain ⟨w, hw, hv⟩ := Option.bind_eq_some_iff.mp hrun
  obtain ⟨⟨w', incomes⟩, htake, hv⟩ := Option.map_eq_some_iff.mp hv
  simp only [Prod.mk.injEq] at hv
  obtain ⟨hbefore, hafter, hreturned, hpaid, hpaid'⟩ := hv
  exact ⟨w, w', incomes, hw, toOption_eq_some.mp htake, hbefore, hafter, hreturned,
    hpaid'.trans hpaid.symm⟩

end World

end AbaxLending
