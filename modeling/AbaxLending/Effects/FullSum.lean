import AbaxLending.Contract.Run
import AbaxLending.Spec.PowerSum

/-!
The collateral loop against the plain sum.

`calculate_lending_power_e6` skips the ids without an active bit, tests them on shifted bitmaps,
and stops where no higher bit is left.  The plain sum looks at every registered id.

* `plainPowers`, `plainLendingPowerE6`: the plain sum, with `lendingPowerLoop_eq_plain`;
* `SumsFit`: what the sum reads is there, and nothing overflows; `SumsFit.addActive` is the step
  lemma and `SumsFit.foldlM_addActive` the run lemma of the sum;
* `Lacks`: an active asset without the coefficient it needs;
* `AnswersFullSum`: the answer of a check that does not give up;
* `calculateLendingPowerE6_fullSum`: the check is the one with the plain sums.
-/

namespace AbaxLending

open Outcome

/-- The error of the check for a side without a coefficient. -/
def Side.disabled : Side → LendingPoolError
  | .deposit => .ruleCollateralDisable
  | .debt => .ruleBorrowDisable

namespace LendingPoolStorage

section

variable [Pendzl] (s : LendingPoolStorage) (c : Appraisal)

/-! ### The plain sum -/

/-- The powers with an id added: an entry with an active bit adds what it is worth, any other id
adds nothing. -/
def addActive (powers : ℕ × ℕ) (k : ℕ) : Res (ℕ × ℕ) :=
  match c.datas[k]?.join with
  | none => .ok powers
  | some data =>
      if c.active.getLsbD k = true then
        s.addAssetPower c.rule c.collaterals c.debts c.reductions c.prices k data powers
      else .ok powers

/-- The powers of all ids below the next one. -/
def plainPowers : Res (ℕ × ℕ) := (List.range s.assetCount).foldlM (s.addActive c) (0, 0)

/-- The check with the plain sums. -/
def plainLendingPowerE6 (datas : List (Option AccountReserveData)) (config : AccountConfig)
    (reductions : FeeReductions) (prices : List ℕ) : Res (Bool × ℕ) := do
  let rule ← s.getMarketRule config
  let powers ← s.plainPowers (appraisal rule datas config reductions prices)
  return (decide (powers.2 ≤ powers.1), ((powers.1 : ℤ) - powers.2).natAbs)

variable {s c} {k left : ℕ} {powers : ℕ × ℕ}

lemma addActive_of_inactive (hbit : c.active.getLsbD k = false) :
    s.addActive c powers k = .ok powers := by
  rw [addActive]
  cases c.datas[k]?.join with
  | none => rfl
  | some data => exact if_neg (by simp [hbit])

lemma addActive_of_none (h : c.datas[k]?.join = none) : s.addActive c powers k = .ok powers := by
  rw [addActive, h]

lemma addActive_of_some {data : AccountReserveData} (hbit : c.active.getLsbD k = true)
    (h : c.datas[k]?.join = some data) :
    s.addActive c powers k
      = s.addAssetPower c.rule c.collaterals c.debts c.reductions c.prices k data powers := by
  rw [addActive, h]
  exact if_pos hbit

/-- **The loop is the plain sum**: the ids that it skips and the ones behind its end add nothing. -/
lemma lendingPowerLoop_eq_plain (hword : k + left ≤ 128)
    (hreach : ∀ j, j < k + left → c.active.getLsbD j = true → j < c.datas.length) :
    s.lendingPowerLoop c.rule c.collaterals c.debts c.datas c.reductions c.prices left k powers
      = (List.range' k left).foldlM (s.addActive c) powers := by
  induction left generalizing k powers with
  | zero => rfl
  | succ left ih =>
      have hk : k < 128 := by omega
      have hrest : ∀ powers, s.lendingPowerLoop c.rule c.collaterals c.debts c.datas c.reductions
          c.prices left (k + 1) powers = (List.range' (k + 1) left).foldlM (s.addActive c) powers :=
        fun powers => ih (by omega) fun j hj => hreach j (by omega)
      by_cases hzero : c.active >>> k = 0#128
      · -- no id from here on has a bit
        have hclear := (Bitmap.shift_eq_zero_iff _ k).mp hzero
        rw [lendingPowerLoop_stop hk hzero]
        refine (foldlM_of_stays fun j hj => addActive_of_inactive (hclear j ?_)).symm
        exact (List.mem_range'_1.mp hj).1
      · rw [List.range'_succ, List.foldlM_cons]
        cases hbit : c.active.getLsbD k with
        | false =>
            -- an id without its bit
            rw [lendingPowerLoop_skip hk hzero hbit, addActive_of_inactive hbit, ok_bind, hrest]
        | true =>
            have hlen : k < c.datas.length := hreach k (by omega) hbit
            have hget : c.datas[k]? = some c.datas[k] := List.getElem?_eq_getElem hlen
            cases hentry : c.datas[k] with
            | none =>
                rw [hentry] at hget
                rw [lendingPowerLoop_empty hk hbit hget, addActive_of_none (by rw [hget]; rfl),
                  ok_bind, hrest]
            | some data =>
                rw [hentry] at hget
                have hjoin : c.datas[k]?.join = some data := by rw [hget]; rfl
                rw [lendingPowerLoop_add hk hbit hget,
                  addActive_of_some hbit hjoin]
                exact bind_congr hrest

/-! ### Without an overflow -/

variable (s c) in
/-- What the plain sum reads of the active assets is there, and no accrual, no value and no sum
overflows.  A missing coefficient counts as zero. -/
structure SumsFit : Prop where
  accrues : ∀ k < s.assetCount, c.active.getLsbD k = true → ∀ data, c.datas[k]?.join = some data →
    ∃ r a, s.reserveIndexesAndFees.get k = some r
      ∧ data.accumulateAccountInterest r.indexes r.fees c.reductions = .ok a
  price : ∀ k < s.assetCount, c.active.getLsbD k = true → c.prices[k]?.isSome = true
  multiplier : ∀ k < s.assetCount, c.active.getLsbD k = true →
    (s.reserveDecimalMultiplier.get k).isSome = true
  weighable : ∀ side, ∀ k < s.assetCount, (c.bits side).getLsbD k = true →
    Weighable (side.amount (s.accruedEntry c k)) (c.prices[k]?.getD 0)
      ((s.reserveDecimalMultiplier.get k).getD 0) ((c.coefficient side k).getD 0)
  powers : ∀ side, s.power c side < 2 ^ 128

/-- An asset without a coefficient is refused once its value is computed. -/
lemma addLendingPower_of_none {power amount priceE18 multiplier : ℕ} {disabled : LendingPoolError}
    (h : Weighable amount priceE18 multiplier 0) :
    addLendingPower power amount priceE18 multiplier none disabled = .error (.err disabled) := by
  have hvalue : calculateAssetAmountValueE8 amount priceE18 multiplier
      = .ok (amount * priceE18 / (multiplier * E10)) :=
    calculateAssetAmountValueE8_eq_ok.mpr ⟨h.positive, h.denominator, rfl, h.value⟩
  rw [addLendingPower, hvalue, ok_bind]
  rfl

/-- One side of an asset adds its part, or fails because it has no coefficient. -/
lemma SumsFit.addSidePower (h : s.SumsFit c) (hcount : s.assetCount ≤ 128) (hk : k < s.assetCount)
    (side : Side) {power : ℕ} (hlt : power + s.part c side k < 2 ^ 128) :
    s.addSidePower (c.bits side) c.prices k (side.amount (s.accruedEntry c k))
        (c.coefficient side k) side.disabled power = .ok (power + s.part c side k)
      ∨ s.addSidePower (c.bits side) c.prices k (side.amount (s.accruedEntry c k))
        (c.coefficient side k) side.disabled power = .error (.err side.disabled) := by
  have hk' : k < 128 := by omega
  by_cases hlacks : (c.bits side).getLsbD k = true ∧ c.coefficient side k = none
  · right
    obtain ⟨hbit, hnone⟩ := hlacks
    have hactive : c.active.getLsbD k = true := Appraisal.active_bit.mpr ⟨side, hbit⟩
    obtain ⟨price, hprice⟩ := Option.isSome_iff_exists.mp (h.price k hk hactive)
    obtain ⟨multiplier, hmultiplier⟩ := Option.isSome_iff_exists.mp (h.multiplier k hk hactive)
    have hweighable := h.weighable side k hk hbit
    rw [hprice, hmultiplier, hnone] at hweighable
    have hshift : shiftRight (c.bits side) k = .ok (c.bits side >>> k) :=
      shiftRight_eq_ok.mpr ⟨hk', rfl⟩
    rw [LendingPoolStorage.addSidePower, hshift, ok_bind,
      if_pos ((shiftRight_test hshift).mpr hbit), hprice, getDecimalMultiplier, hmultiplier, hnone,
      unwrap, ok_bind, unwrap, ok_bind]
    exact addLendingPower_of_none hweighable
  · left
    refine (addSidePower_eq_ok side hk').mpr ⟨fun hbit => ⟨?_, hlt⟩, rfl⟩
    have hactive : c.active.getLsbD k = true := Appraisal.active_bit.mpr ⟨side, hbit⟩
    have hsome : (c.coefficient side k).isSome = true :=
      Option.isSome_iff_ne_none.mpr fun hnone => hlacks ⟨hbit, hnone⟩
    exact ⟨h.price k hk hactive, h.multiplier k hk hactive, hsome, h.weighable side k hk hbit⟩

/-- What an active entry adds, side by side. -/
lemma addActive_of_accrual (hbit : c.active.getLsbD k = true) {data : AccountReserveData}
    (hjoin : c.datas[k]?.join = some data) {r : ReserveIndexesAndFees} {a : Accrual}
    (hr : s.reserveIndexesAndFees.get k = some r)
    (ha : data.accumulateAccountInterest r.indexes r.fees c.reductions = .ok a) :
    s.addActive c powers k
      = s.addSidePower (c.bits .deposit) c.prices k (Side.deposit.amount (s.accruedEntry c k))
          (c.coefficient .deposit k) Side.deposit.disabled powers.1 >>= fun collateralPower =>
        s.addSidePower (c.bits .debt) c.prices k (Side.debt.amount (s.accruedEntry c k))
          (c.coefficient .debt k) Side.debt.disabled powers.2 >>= fun debtPower =>
            .ok (collateralPower, debtPower) := by
  rw [addActive_of_some hbit hjoin, addAssetPower, getReserveIndexesAndFees, hr, unwrap, ok_bind,
    ha, ok_bind, accruedEntry_of_ok hjoin hr ha]
  rfl

/-- The step lemma: an id adds its parts, or fails because an active asset has no
coefficient. -/
lemma SumsFit.addActive (h : s.SumsFit c) (hcount : s.assetCount ≤ 128) (hk : k < s.assetCount)
    (powers : ℕ × ℕ) (h₁ : powers.1 + s.part c .deposit k < 2 ^ 128)
    (h₂ : powers.2 + s.part c .debt k < 2 ^ 128) :
    s.addActive c powers k = .ok (powers.1 + s.part c .deposit k, powers.2 + s.part c .debt k)
      ∨ ∃ side : Side, s.addActive c powers k = .error (.err side.disabled) := by
  cases hbit : c.active.getLsbD k with
  | false =>
      left
      rw [addActive_of_inactive hbit, part_of_inactive hbit, part_of_inactive hbit]
      rfl
  | true =>
      cases hjoin : c.datas[k]?.join with
      | none =>
          left
          rw [addActive_of_none hjoin, part_of_none hjoin, part_of_none hjoin]
          rfl
      | some data =>
          obtain ⟨r, a, hr, ha⟩ := h.accrues k hk hbit data hjoin
          rw [addActive_of_accrual hbit hjoin hr ha]
          rcases h.addSidePower hcount hk .deposit h₁ with hdeposit | hdeposit
          · rw [hdeposit, ok_bind]
            rcases h.addSidePower hcount hk .debt h₂ with hdebt | hdebt
            · left
              rw [hdebt, ok_bind]
            · right
              exact ⟨.debt, by rw [hdebt, error_bind]⟩
          · right
            exact ⟨.deposit, by rw [hdeposit, error_bind]⟩

/-- The run lemma: the ids below `n` add their parts, or one of them has no coefficient. -/
lemma SumsFit.foldlM_addActive (h : s.SumsFit c) (hcount : s.assetCount ≤ 128) {n : ℕ}
    (hn : n ≤ s.assetCount) :
    (List.range n).foldlM (s.addActive c) (0, 0)
        = .ok (∑ k ∈ Finset.range n, s.part c .deposit k, ∑ k ∈ Finset.range n, s.part c .debt k)
      ∨ ∃ side : Side, (List.range n).foldlM (s.addActive c) (0, 0)
        = .error (.err side.disabled) := by
  induction n with
  | zero =>
      left
      rfl
  | succ n ih =>
      -- the sums up to here are below the powers, which fit
      have hfits : ∀ side, ∑ k ∈ Finset.range n, s.part c side k + s.part c side n < 2 ^ 128 := by
        intro side
        rw [← Finset.sum_range_succ]
        calc ∑ k ∈ Finset.range (n + 1), s.part c side k
            ≤ s.power c side := Finset.sum_le_sum_of_subset (Finset.range_mono hn)
          _ < 2 ^ 128 := h.powers side
      rw [List.range_succ, List.foldlM_append, Finset.sum_range_succ, Finset.sum_range_succ]
      rcases ih (by omega) with hsum | ⟨side, herror⟩
      · rw [hsum, ok_bind, List.foldlM_cons]
        rcases h.addActive hcount hn (∑ k ∈ Finset.range n, s.part c .deposit k,
          ∑ k ∈ Finset.range n, s.part c .debt k) (hfits .deposit) (hfits .debt)
          with hstep | ⟨side, hstep⟩
        · left
          rw [hstep, ok_bind]
          rfl
        · right
          exact ⟨side, by rw [hstep, error_bind]⟩
      · right
        exact ⟨side, by rw [herror, error_bind]⟩

/-! ### The check -/

/-- An active asset has no coefficient on a side. -/
def Lacks (s : LendingPoolStorage) (c : Appraisal) (side : Side) : Prop :=
  ∃ k < s.assetCount, (c.bits side).getLsbD k = true ∧ c.coefficient side k = none

variable {rule : MarketRule} {datas : List (Option AccountReserveData)} {config : AccountConfig}
  {reductions : FeeReductions} {prices : List ℕ}

/-- The check is the check with the plain sums. -/
lemma calculateLendingPowerE6_eq_plain (hcount : s.assetCount ≤ 128)
    (hreach : ∀ k < s.assetCount,
      ((config.deposits &&& config.collaterals) ||| config.borrows).getLsbD k = true →
      k < datas.length) :
    s.calculateLendingPowerE6 datas config reductions prices
      = s.plainLendingPowerE6 datas config reductions prices := by
  rw [calculateLendingPowerE6, plainLendingPowerE6]
  refine bind_congr fun rule => ?_
  set c := appraisal rule datas config reductions prices
  have hloop : s.lendingPowerLoop c.rule c.collaterals c.debts c.datas c.reductions c.prices
      s.assetCount 0 (0, 0) = s.plainPowers c := by
    rw [plainPowers, List.range_eq_range']
    exact lendingPowerLoop_eq_plain (by omega) fun k hk hbit => hreach k (by omega) hbit
  show s.lendingPowerLoop c.rule c.collaterals c.debts c.datas c.reductions c.prices
      s.assetCount 0 (0, 0) >>= _ = s.plainPowers c >>= _
  rw [hloop]
  refine bind_congr fun powers => ?_
  by_cases hle : powers.2 ≤ powers.1
  · rw [if_pos hle, decide_eq_true hle]
    exact congrArg (fun n => pure (true, n)) (by omega)
  · rw [if_neg hle, decide_eq_false hle]
    exact congrArg (fun n => pure (false, n)) (by omega)

/-- A check that returns compares the two sums. -/
lemma eq_of_calculateLendingPowerE6 {result : Bool × ℕ}
    (hrule : s.getMarketRule config = .ok rule)
    (h : s.calculateLendingPowerE6 datas config reductions prices = .ok result) :
    s.Returns (appraisal rule datas config reductions prices)
      ∧ result = (decide (s.power (appraisal rule datas config reductions prices) .debt
          ≤ s.power (appraisal rule datas config reductions prices) .deposit),
        ((s.power (appraisal rule datas config reductions prices) .deposit : ℤ)
          - s.power (appraisal rule datas config reductions prices) .debt).natAbs) := by
  obtain ⟨rule', hrule', hreturns, hcovered, hdifference⟩ := calculateLendingPowerE6_eq_ok.mp h
  rw [hrule, Except.ok.injEq] at hrule'
  subst hrule'
  refine ⟨hreturns, Prod.ext hcovered ?_⟩
  rw [hdifference, hcovered]
  simp only [decide_eq_true_eq]
  split_ifs with hle
  · omega
  · omega

/-- A check that ends with an error value says which side lacks a coefficient, or fails in its
arithmetic. -/
lemma calculateLendingPowerE6_lacks (hrule : s.getMarketRule config = .ok rule) :
    Raises (fun e => (∃ side : Side, s.Lacks (appraisal rule datas config reductions prices) side
        ∧ e = side.disabled) ∨ IsMathError e)
      (s.calculateLendingPowerE6 datas config reductions prices) := by
  rw [calculateLendingPowerE6, hrule, ok_bind]
  refine Raises.bind ?_ fun powers _ => ?_
  · refine lendingPowerLoop_raises.mono fun e he => he.imp_left ?_
    rintro ⟨k, -, hk, -, ⟨⟨hbit, hnone⟩, rfl⟩ | ⟨⟨hbit, hnone⟩, rfl⟩⟩
    · exact ⟨.deposit, ⟨k, by omega, hbit, hnone⟩, rfl⟩
    · exact ⟨.debt, ⟨k, by omega, hbit, hnone⟩, rfl⟩
  · split_ifs
    · exact raises_ok _
    · exact raises_ok _

/-- An appraisal that returns could appraise every active entry. -/
lemma Returns.appraisable (h : s.Returns c) (hentries : ∀ k < s.assetCount,
    c.active.getLsbD k = true → ∃ data, c.datas[k]? = some (some data)) (hk : k < s.assetCount)
    (hactive : c.active.getLsbD k = true) : ∃ data, s.Appraisable c k data := by
  obtain ⟨data, hdata⟩ := hentries k hk hactive
  exact ⟨data, (h.appraises k hk hactive).2 data (by rw [hdata]; rfl)⟩

/-- An appraisal that returns found all coefficients of the active entries. -/
lemma Returns.not_lacks (h : s.Returns c) (hentries : ∀ k < s.assetCount,
    c.active.getLsbD k = true → ∃ data, c.datas[k]? = some (some data)) (side : Side) :
    ¬s.Lacks c side := by
  rintro ⟨k, hk, hbit, hnone⟩
  obtain ⟨data, hdata⟩ := hentries k hk (Appraisal.active_bit.mpr ⟨side, hbit⟩)
  have hentry : c.datas[k]?.join ≠ none := by simp [hdata]
  exact h.coefficient hk hentry side hbit hnone

/-- Where an appraisal returns everything fits. -/
lemma Returns.sumsFit (h : s.Returns c) (hentries : ∀ k < s.assetCount,
    c.active.getLsbD k = true → ∃ data, c.datas[k]? = some (some data)) : s.SumsFit c := by
  have hweighs : ∀ k < s.assetCount, c.active.getLsbD k = true →
      ∃ side, s.CanWeigh c side k (side.amount (s.accruedEntry c k)) := by
    intro k hk hactive
    obtain ⟨data, hdata⟩ := h.appraisable hentries hk hactive
    obtain ⟨side, hbit⟩ := Appraisal.active_bit.mp hactive
    exact ⟨side, hdata.weighs side hbit⟩
  constructor
  case accrues =>
    intro k hk hactive data hdata
    exact ((h.appraises k hk hactive).2 data hdata).accrues
  case price =>
    intro k hk hactive
    obtain ⟨side, hside⟩ := hweighs k hk hactive
    exact hside.price
  case multiplier =>
    intro k hk hactive
    obtain ⟨side, hside⟩ := hweighs k hk hactive
    exact hside.multiplier
  case weighable =>
    intro side k hk hbit
    obtain ⟨data, hdata⟩ := h.appraisable hentries hk (Appraisal.active_bit.mpr ⟨side, hbit⟩)
    exact (hdata.weighs side hbit).weighable
  case powers => exact h.fits

/-- The check gives up: it traps, or its arithmetic returns an error. -/
def Overflows (check : Res (Bool × ℕ)) : Prop :=
  check = .error .trap ∨ ∃ e, IsMathError e ∧ check = .error (.err e)

/-- A check that fails without giving up fails for a side that lacks a coefficient. -/
lemma lacks_of_error (hrule : s.getMarketRule config = .ok rule) {fault : Fault LendingPoolError}
    (h : s.calculateLendingPowerE6 datas config reductions prices = .error fault)
    (hfits : ¬Overflows (s.calculateLendingPowerE6 datas config reductions prices)) :
    ∃ side : Side, s.Lacks (appraisal rule datas config reductions prices) side
      ∧ fault = .err side.disabled := by
  rw [Overflows, h] at hfits
  cases fault with
  | trap => exact absurd (.inl rfl) hfits
  | err e =>
      rcases calculateLendingPowerE6_lacks hrule e h with ⟨side, hlacks, rfl⟩ | hmath
      · exact ⟨side, hlacks, rfl⟩
      · exact absurd (.inr ⟨e, hmath, rfl⟩) hfits

/-- The plain sum does not give up where everything fits. -/
lemma SumsFit.not_overflows (h : s.SumsFit (appraisal rule datas config reductions prices))
    (hcount : s.assetCount ≤ 128) (hrule : s.getMarketRule config = .ok rule) :
    ¬Overflows (s.plainLendingPowerE6 datas config reductions prices) := by
  rw [plainLendingPowerE6, hrule, ok_bind]
  rcases h.foldlM_addActive hcount le_rfl with hsum | ⟨side, herror⟩
  · rw [plainPowers, hsum, ok_bind]
    rintro (htrap | ⟨_, -, herr⟩)
    · cases htrap
    · cases herr
  · rw [plainPowers, herror, error_bind]
    rintro (htrap | ⟨_, ⟨m, rfl⟩, herr⟩)
    · cases htrap
    · cases side with
      | deposit => cases herr
      | debt => cases herr

/-- What the check answers when it does not give up: the comparison of the two sums over all ids,
or the error of a side that lacks a coefficient. -/
structure AnswersFullSum (s : LendingPoolStorage) (c : Appraisal) (check : Res (Bool × ℕ)) :
    Prop where
  disabled : (check = .error (.err .ruleCollateralDisable)
    ∨ check = .error (.err .ruleBorrowDisable)) ↔ ∃ side, s.Lacks c side
  compares : (∀ side, ¬s.Lacks c side) →
    check = .ok (decide (s.power c .debt ≤ s.power c .deposit),
      ((s.power c .deposit : ℤ) - s.power c .debt).natAbs)

/-- A check that does not give up answers the full sum. -/
lemma answersFullSum_of_not_overflows (hrule : s.getMarketRule config = .ok rule)
    (hentries : ∀ k < s.assetCount,
      ((config.deposits &&& config.collaterals) ||| config.borrows).getLsbD k = true →
      ∃ data, datas[k]? = some (some data))
    (hfits : ¬Overflows (s.calculateLendingPowerE6 datas config reductions prices)) :
    s.AnswersFullSum (appraisal rule datas config reductions prices)
      (s.calculateLendingPowerE6 datas config reductions prices) := by
  cases hcheck : s.calculateLendingPowerE6 datas config reductions prices with
  | ok result =>
      obtain ⟨hreturns, hresult⟩ := eq_of_calculateLendingPowerE6 hrule hcheck
      have hnone := hreturns.not_lacks hentries
      refine ⟨iff_of_false ?_ fun ⟨side, hlacks⟩ => hnone side hlacks, fun _ => ?_⟩
      · rintro (h | h) <;> cases h
      · rw [hresult]
  | error fault =>
      obtain ⟨side, hlacks, rfl⟩ := lacks_of_error hrule hcheck hfits
      refine ⟨iff_of_true ?_ ⟨side, hlacks⟩, fun hnone => absurd hlacks (hnone side)⟩
      cases side with
      | deposit => exact .inl rfl
      | debt => exact .inr rfl

/-- **The check computes the full sum.**  With an entry for every active bit, the loop that skips
and stops returns what the plain sum over all ids returns.  Unless it gives up, that is the
comparison of the two powers, or the error of a side that lacks a coefficient, exactly when one
does.  It does not give up where everything fits, and where no side lacks a coefficient only
there. -/
theorem calculateLendingPowerE6_fullSum (hcount : s.assetCount ≤ 128)
    (hrule : s.getMarketRule config = .ok rule)
    (hentries : ∀ k < s.assetCount,
      ((config.deposits &&& config.collaterals) ||| config.borrows).getLsbD k = true →
      ∃ data, datas[k]? = some (some data)) :
    s.calculateLendingPowerE6 datas config reductions prices
        = s.plainLendingPowerE6 datas config reductions prices
      ∧ (¬Overflows (s.calculateLendingPowerE6 datas config reductions prices) →
        s.AnswersFullSum (appraisal rule datas config reductions prices)
          (s.calculateLendingPowerE6 datas config reductions prices))
      ∧ (s.SumsFit (appraisal rule datas config reductions prices) →
        ¬Overflows (s.calculateLendingPowerE6 datas config reductions prices))
      ∧ ((∀ side, ¬s.Lacks (appraisal rule datas config reductions prices) side) →
        ¬Overflows (s.calculateLendingPowerE6 datas config reductions prices) →
        s.SumsFit (appraisal rule datas config reductions prices)) := by
  have hplain : s.calculateLendingPowerE6 datas config reductions prices
      = s.plainLendingPowerE6 datas config reductions prices := by
    refine calculateLendingPowerE6_eq_plain hcount fun k hk hbit => ?_
    obtain ⟨data, hdata⟩ := hentries k hk hbit
    exact (List.getElem?_eq_some_iff.mp hdata).1
  refine ⟨hplain, answersFullSum_of_not_overflows hrule hentries, fun hsums => ?_,
    fun hnone hfits => ?_⟩
  · rw [hplain]
    exact hsums.not_overflows hcount hrule
  · have hok := (answersFullSum_of_not_overflows hrule hentries hfits).compares hnone
    exact (eq_of_calculateLendingPowerE6 hrule hok).1.sumsFit hentries

end

attribute [local instance] Pendzl.exact in
/-- The check of `account 3`, which borrowed the first asset against a deposit of the second one:
everything fits, and the answer is the one of the full sum. -/
theorem calculateLendingPowerE6_fullSum_borrower :
    ∃ w rule, Sample.world.run Sample.borrower = some w
      ∧ w.pool.SumsFit (appraisal rule (w.pool.getAccountDatas (Sample.account 3))
        (w.pool.getAccountConfig (Sample.account 3)) (0, 0) [E18, E18])
      ∧ w.pool.plainLendingPowerE6 (w.pool.getAccountDatas (Sample.account 3))
        (w.pool.getAccountConfig (Sample.account 3)) (0, 0) [E18, E18] = .ok (true, 0)
      ∧ w.pool.AnswersFullSum (appraisal rule (w.pool.getAccountDatas (Sample.account 3))
          (w.pool.getAccountConfig (Sample.account 3)) (0, 0) [E18, E18])
        (w.pool.calculateLendingPowerE6 (w.pool.getAccountDatas (Sample.account 3))
          (w.pool.getAccountConfig (Sample.account 3)) (0, 0) [E18, E18]) := by
  have hrun : (Sample.world.run Sample.borrower).bind (fun w =>
        (w.pool.getMarketRule (w.pool.getAccountConfig (Sample.account 3))).toOption.map fun rule =>
          ((w.pool.calculateLendingPowerE6 (w.pool.getAccountDatas (Sample.account 3))
              (w.pool.getAccountConfig (Sample.account 3)) (0, 0) [E18, E18]).toOption,
            decide (w.pool.assetCount ≤ 128 ∧ ∀ k < w.pool.assetCount,
              ((w.pool.getAccountDatas (Sample.account 3))[k]?.join).isSome = true)))
      = some (some (true, 0), true) := by decide +kernel
  obtain ⟨w, hw, hv⟩ := Option.bind_eq_some_iff.mp hrun
  obtain ⟨rule, hrule, hv⟩ := Option.map_eq_some_iff.mp hv
  obtain ⟨hcheck, hdecide⟩ := Prod.mk.inj hv
  obtain ⟨hcount, hsome⟩ := of_decide_eq_true hdecide
  have hrule' := toOption_eq_some.mp hrule
  have hok := toOption_eq_some.mp hcheck
  have hentries : ∀ k < w.pool.assetCount, ∃ data,
      (w.pool.getAccountDatas (Sample.account 3))[k]? = some (some data) := by
    intro k hk
    obtain ⟨data, hdata⟩ := Option.isSome_iff_exists.mp (hsome k hk)
    exact ⟨data, Option.join_eq_some_iff.mp hdata⟩
  have hsums := (eq_of_calculateLendingPowerE6 hrule' hok).1.sumsFit fun k hk _ => hentries k hk
  obtain ⟨hplain, hanswers, hfits, -⟩ :=
    calculateLendingPowerE6_fullSum hcount hrule' fun k hk _ => hentries k hk
  exact ⟨w, rule, hw, hsums, hplain.symm.trans hok, hanswers (hfits hsums)⟩

end LendingPoolStorage

end AbaxLending
