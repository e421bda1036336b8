import AbaxLending.Contract.Run
import AbaxLending.Spec.Changes
import AbaxLending.Spec.RateCurve

/-!
When the recalculation of the rates returns.

Both pieces of the interest curve pass a quotient through 32 bits, although every rate has
64.  With debt within the deposits the utilization is at most one, so the quotient is the
only thing that can fail: `InterestRateModel.FitsAt` says that it fits, and
`recalculateCurrentRates_iff` that the rates are recalculated, within their bounds, exactly
then.

* `CurveFits`, `RatesFit`: what the curve and the rates need for every model and every reserve,
  with `utilizationRateToInterestRateE18_returns_iff` and `recalculateCurrentRates_eq_ok`;
* `utilized_iff`: when the utilization itself can be computed;
* `ratesFit_iff`: with debt within the deposits this is the quotient;
* `World.steepModel_overflows`: an accepted model under which it fails.
-/

namespace AbaxLending

open Outcome

/-- A quotient that is rounded up is below `2 ^ 32` exactly when `2 ^ 32 - 1` denominators
cover the numerator. -/
lemma ceilDiv_lt_two_pow_iff {a c : ℕ} (hc : 0 < c) :
    a ⌈/⌉ c < 2 ^ 32 ↔ a ≤ c * (2 ^ 32 - 1) := by
  rw [← ceilDiv_le_iff_le_mul hc]
  omega

namespace InterestRateModel

/-- The quotient of the piece of the curve at a utilization fits in 32 bits. -/
def FitsAt (model : InterestRateModel) (utilizationRateE6 : ℕ) : Prop :=
  if utilizationRateE6 ≤ model.targetUrE6 then
    utilizationRateE6 * model.rateAtTargetUrE18 ≤ model.targetUrE6 * (2 ^ 32 - 1)
  else
    (utilizationRateE6 - model.targetUrE6) * (model.rateAtMaxUrE18 - model.rateAtTargetUrE18)
      ≤ (10 ^ 6 - model.targetUrE6) * (2 ^ 32 - 1)

/-- The curve returns a rate at a utilization: the quotient of the piece fits, and beyond a target
below one the rate fits in 64 bits. -/
def CurveFits (model : InterestRateModel) (utilizationRateE6 : ℕ) : Prop :=
  model.FitsAt utilizationRateE6 ∧ (model.targetUrE6 < utilizationRateE6 →
    model.targetUrE6 < E6 ∧ model.curve utilizationRateE6 < 2 ^ 64)

variable [Pendzl] {model : InterestRateModel} {u rate : ℕ}

/-- **When the curve returns a rate**, for every model and every utilization. -/
lemma utilizationRateToInterestRateE18_returns_iff :
    (∃ rate, model.utilizationRateToInterestRateE18 u = .ok rate) ↔ model.CurveFits u := by
  rw [utilizationRateToInterestRateE18, CurveFits, FitsAt, curve]
  by_cases hpiece : u ≤ model.targetUrE6
  · rw [if_pos hpiece, if_pos hpiece, and_iff_left fun h => absurd h (not_lt.mpr hpiece)]
    by_cases h0 : u = 0
    · rw [if_pos h0, h0, Nat.zero_mul]
      exact iff_of_true ⟨0, rfl⟩ (Nat.zero_le _)
    · have htarget : 0 < model.targetUrE6 := by omega
      rw [if_neg h0, ← ceilDiv_lt_two_pow_iff htarget]
      simp only [bind_eq_ok, mulDiv_eq_ok, okOr_eq_ok, tryFrom_eq_some, exactDiv]
      constructor
      · rintro ⟨_, v, ⟨-, hv, -⟩, -, hlt⟩
        exact hv ▸ hlt
      · exact fun hlt => ⟨_, _, ⟨htarget, rfl, hlt.trans (by norm_num)⟩, rfl, hlt⟩
  · have h0 : u ≠ 0 := by omega
    rw [if_neg h0, if_neg hpiece, if_neg hpiece, if_neg hpiece]
    simp only [bind_eq_ok, mulDiv_eq_ok, okOr_eq_ok, tryFrom_eq_some, checkedAdd_eq_some, exactDiv]
    constructor
    · rintro ⟨_, v, ⟨hpos, hv, -⟩, _, ⟨rfl, hlt⟩, -, hsum⟩
      rw [hv] at hlt hsum
      exact ⟨(ceilDiv_lt_two_pow_iff hpos).mp hlt, fun _ => ⟨Nat.lt_of_sub_pos hpos, hsum⟩⟩
    · rintro ⟨hfits, hrest⟩
      obtain ⟨htarget, hsum⟩ := hrest (not_le.mp hpiece)
      have hpos : 0 < E6 - model.targetUrE6 := Nat.sub_pos_of_lt htarget
      have hlt := (ceilDiv_lt_two_pow_iff hpos).mpr hfits
      exact ⟨_, _, ⟨hpos, rfl, hlt.trans (by norm_num)⟩, _, ⟨rfl, hlt⟩, rfl, hsum⟩

omit [Pendzl] in
/-- With 64-bit rates and up to full utilization the quotient is all that can fail. -/
lemma curveFits_iff (htarget : model.targetUrE6 < E6) (hrate : model.rateAtTargetUrE18 < 2 ^ 64)
    (hrate' : model.rateAtMaxUrE18 < 2 ^ 64) (hu : u ≤ E6) :
    model.CurveFits u ↔ model.FitsAt u :=
  and_iff_left fun _ => ⟨htarget, (curve_le_max hu).trans_lt (max_lt hrate hrate')⟩

end InterestRateModel

namespace ReserveData

section

/-- The utilization of a reserve, without a width. -/
def utilizationE6 (self : ReserveData) : ℕ :=
  if self.totalDeposit = 0 then E6 else self.totalDebt * E6 / self.totalDeposit

/-- The rates of a reserve under a model can be computed: the utilization fits in 32 bits, the
curve returns a rate at it, and the deposit rate fits in 64 bits. -/
def RatesFit (self : ReserveData) (model : InterestRateModel) : Prop :=
  self.totalDebt ≠ 0 →
    (self.totalDeposit = 0 ∨ self.totalDebt * 10 ^ 6 < 2 ^ 32 * self.totalDeposit)
      ∧ model.CurveFits self.utilizationE6
      ∧ (self.totalDeposit ≠ 0 →
        self.totalDebt * model.curve self.utilizationE6 / self.totalDeposit < 2 ^ 64)

variable [Pendzl] {self rd : ReserveData} {model : InterestRateModel}

/-- The utilization of the reserve can be computed. -/
def Utilized (self : ReserveData) : Prop := ∃ u, self.currentUtilizationRateE6 = .ok u

/-- The utilization, exactly. -/
lemma currentUtilizationRateE6_eq_ok {u : ℕ} : self.currentUtilizationRateE6 = .ok u
    ↔ (self.totalDeposit = 0 ∨ self.totalDebt * 10 ^ 6 < 2 ^ 32 * self.totalDeposit)
      ∧ self.utilizationE6 = u := by
  rw [currentUtilizationRateE6, utilizationE6]
  by_cases hzero : self.totalDeposit = 0
  · rw [if_pos hzero, if_pos hzero, Except.ok.injEq, and_iff_right (.inl hzero)]
  · have hpos : 0 < self.totalDeposit := Nat.pos_of_ne_zero hzero
    have hlt : self.totalDebt * E6 / self.totalDeposit < 2 ^ 32
        ↔ self.totalDebt * 10 ^ 6 < 2 ^ 32 * self.totalDeposit := Nat.div_lt_iff_lt_mul hpos
    rw [if_neg hzero, if_neg hzero, or_iff_right hzero, ← hlt]
    simp only [bind_eq_ok, mulDiv_eq_ok, exactDiv, okOr_eq_ok, tryFrom_eq_some]
    constructor
    · rintro ⟨v, ⟨-, rfl, -⟩, rfl, hv⟩
      exact ⟨hv, rfl⟩
    · rintro ⟨hv, rfl⟩
      exact ⟨_, ⟨hpos, rfl, hv.trans (by norm_num)⟩, rfl, hv⟩

/-- **When the utilization can be computed**: without a deposit, or when the debt is less than
`2 ^ 32 / 10 ^ 6` times the deposit. -/
lemma utilized_iff :
    rd.Utilized ↔ rd.totalDeposit = 0 ∨ rd.totalDebt * 10 ^ 6 < 2 ^ 32 * rd.totalDeposit := by
  simp only [Utilized, currentUtilizationRateE6_eq_ok, exists_and_left, exists_eq', and_true]

/-- The share of a rate, exactly. -/
lemma e18MulE18DivE18ToE18Rdown_eq_ok {part rate whole share : ℕ} (hwhole : 0 < whole) :
    e18MulE18DivE18ToE18Rdown part rate whole = .ok share
      ↔ part * rate / whole = share ∧ share < 2 ^ 64 := by
  simp only [e18MulE18DivE18ToE18Rdown, bind_eq_ok, mulDiv_eq_ok, okOr_eq_ok, tryFrom_eq_some,
    exactDiv]
  constructor
  · rintro ⟨v, ⟨-, rfl, -⟩, rfl, hlt⟩
    exact ⟨rfl, hlt⟩
  · rintro ⟨rfl, hlt⟩
    exact ⟨_, ⟨hwhole, rfl, hlt.trans (by norm_num)⟩, rfl, hlt⟩

/-- **The rates, exactly**: they are recalculated when they fit, and the deposit rate hands out
what the debt rate takes in.  Without a deposit the quotient is zero, as the code has it. -/
lemma recalculateCurrentRates_eq_ok : self.recalculateCurrentRates model = .ok rd
    ↔ self.RatesFit model ∧ rd = { self with
        currentDebtRateE18 := if self.totalDebt = 0 then 0 else model.curve self.utilizationE6
        currentDepositRateE18 :=
          self.totalDebt * model.curve self.utilizationE6 / self.totalDeposit } := by
  rw [recalculateCurrentRates, RatesFit]
  by_cases hdebt : self.totalDebt = 0
  · rw [if_pos hdebt, if_pos hdebt, and_iff_right fun h => absurd hdebt h, Except.ok.injEq, hdebt,
      Nat.zero_mul, Nat.zero_div]
    exact eq_comm
  · have hnone : self.totalDeposit = 0 →
        self.totalDebt * model.curve self.utilizationE6 / self.totalDeposit = 0 := by
      intro hzero
      rw [hzero, Nat.div_zero]
    rw [if_neg hdebt, if_neg hdebt, imp_iff_right hdebt]
    constructor
    · intro h
      obtain ⟨u, hu, h⟩ := bind_eq_ok.mp h
      obtain ⟨rate, hrate, h⟩ := bind_eq_ok.mp h
      obtain ⟨hfits, rfl⟩ := currentUtilizationRateE6_eq_ok.mp hu
      obtain rfl := InterestRateModel.utilizationRateToInterestRateE18_curve hrate
      have hcurve := InterestRateModel.utilizationRateToInterestRateE18_returns_iff.mp ⟨_, hrate⟩
      by_cases hzero : self.totalDeposit = 0
      · rw [if_neg (not_not.mpr hzero)] at h
        refine ⟨⟨hfits, hcurve, fun hne => absurd hzero hne⟩, ?_⟩
        rw [hnone hzero]
        exact (Except.ok.inj h).symm
      · rw [if_pos hzero] at h
        obtain ⟨depositRate, hdeposit, h⟩ := bind_eq_ok.mp h
        obtain ⟨rfl, hlt⟩ :=
          (e18MulE18DivE18ToE18Rdown_eq_ok (Nat.pos_of_ne_zero hzero)).mp hdeposit
        exact ⟨⟨hfits, hcurve, fun _ => hlt⟩, (Except.ok.inj h).symm⟩
    · rintro ⟨⟨hfits, hcurve, hdeposit⟩, rfl⟩
      obtain ⟨rate, hrate⟩ :=
        InterestRateModel.utilizationRateToInterestRateE18_returns_iff.mpr hcurve
      obtain rfl := InterestRateModel.utilizationRateToInterestRateE18_curve hrate
      rw [currentUtilizationRateE6_eq_ok.mpr ⟨hfits, rfl⟩, ok_bind, hrate, ok_bind]
      by_cases hzero : self.totalDeposit = 0
      · rw [if_neg (not_not.mpr hzero), hnone hzero]
        rfl
      · rw [if_pos hzero, (e18MulE18DivE18ToE18Rdown_eq_ok (Nat.pos_of_ne_zero hzero)).mpr
          ⟨rfl, hdeposit hzero⟩]
        rfl

omit [Pendzl] in
/-- Debt within the deposits uses at most all of them. -/
lemma utilization_le (hle : self.totalDebt ≤ self.totalDeposit) :
    self.totalDebt * E6 / self.totalDeposit ≤ E6 :=
  Nat.div_le_of_le_mul (Nat.mul_le_mul_right E6 hle)

omit [Pendzl] in
/-- With debt within the deposits, a target below one and 64-bit rates the quotient of the curve
is all that can fail. -/
lemma ratesFit_iff (hdebt : self.totalDebt ≠ 0) (hle : self.totalDebt ≤ self.totalDeposit)
    (htarget : model.targetUrE6 < E6) (hrate : model.rateAtTargetUrE18 < 2 ^ 64)
    (hrate' : model.rateAtMaxUrE18 < 2 ^ 64) :
    self.RatesFit model ↔ model.FitsAt (self.totalDebt * 10 ^ 6 / self.totalDeposit) := by
  have hzero : self.totalDeposit ≠ 0 := by omega
  have hu : self.utilizationE6 = self.totalDebt * 10 ^ 6 / self.totalDeposit := if_neg hzero
  have hle' : self.utilizationE6 ≤ E6 := hu.trans_le (utilization_le hle)
  have hcurve := InterestRateModel.curveFits_iff htarget hrate hrate' hle'
  rw [RatesFit, imp_iff_right hdebt, ← hu, ← hcurve]
  constructor
  · exact fun h => h.2.1
  · refine fun h => ⟨.inr (by omega), h, fun _ => ?_⟩
    calc self.totalDebt * model.curve self.utilizationE6 / self.totalDeposit
        ≤ model.curve self.utilizationE6 :=
          Nat.div_le_of_le_mul (Nat.mul_le_mul_right _ hle)
      _ ≤ max model.rateAtTargetUrE18 model.rateAtMaxUrE18 :=
          InterestRateModel.curve_le_max hle'
      _ < 2 ^ 64 := max_lt hrate hrate'

/-- **When the rates of a reserve are recalculated.**  For every model with a target below one
and with 64-bit rates, and every reserve with its debt within its deposits: the recalculation
returns, with a debt rate of at most the larger rate of the model and a deposit rate that hands
out at most what the debt rate takes in, exactly when the quotient of the curve at the utilization
fits in 32 bits. -/
theorem recalculateCurrentRates_iff (htarget : model.targetUrE6 < 10 ^ 6)
    (hrate : model.rateAtTargetUrE18 < 2 ^ 64) (hrate' : model.rateAtMaxUrE18 < 2 ^ 64)
    (hle : self.totalDebt ≤ self.totalDeposit) :
    (∃ rd, self.recalculateCurrentRates model = .ok rd
        ∧ rd.currentDebtRateE18 ≤ max model.rateAtTargetUrE18 model.rateAtMaxUrE18
        ∧ rd.currentDepositRateE18 * self.totalDeposit
          ≤ rd.currentDebtRateE18 * self.totalDebt)
      ↔ model.FitsAt (self.totalDebt * 10 ^ 6 / self.totalDeposit) := by
  by_cases hdebt : self.totalDebt = 0
  · -- without debt both rates are zero, and so is the quotient
    rw [recalculateCurrentRates, if_pos hdebt, hdebt, Nat.zero_mul, Nat.zero_div]
    refine iff_of_true ⟨_, rfl, Nat.zero_le _, by simp⟩ ?_
    rw [InterestRateModel.FitsAt, if_pos (Nat.zero_le _), Nat.zero_mul]
    exact Nat.zero_le _
  · have hdeposit : self.totalDeposit ≠ 0 := by omega
    rw [← ratesFit_iff hdebt hle htarget hrate hrate']
    constructor
    · rintro ⟨rd, h, -, -⟩
      exact (recalculateCurrentRates_eq_ok.mp h).1
    · intro hfits
      have hle' : self.utilizationE6 ≤ E6 := (if_neg hdeposit).trans_le (utilization_le hle)
      refine ⟨_, recalculateCurrentRates_eq_ok.mpr ⟨hfits, rfl⟩, ?_, ?_⟩
      · rw [if_neg hdebt]
        exact InterestRateModel.curve_le_max hle'
      · rw [if_neg hdebt, Nat.mul_comm (model.curve _)]
        exact Nat.div_mul_le_self _ _

end

/-- A reserve of which half is borrowed. -/
def halfBorrowed : ReserveData := { initial with totalDeposit := 1000, totalDebt := 500 }

attribute [local instance] Pendzl.exact in
/-- The sample model at half utilization. -/
theorem recalculateCurrentRates_iff_sample :
    ∃ rd, halfBorrowed.recalculateCurrentRates (InterestRateModel.new Sample.rateModel 0) = .ok rd
      ∧ rd.currentDebtRateE18 ≤ 2 * 10 ^ 6 := by
  have hfits : (InterestRateModel.new Sample.rateModel 0).FitsAt
      (halfBorrowed.totalDebt * 10 ^ 6 / halfBorrowed.totalDeposit) := by
    rw [InterestRateModel.FitsAt]
    decide +kernel
  obtain ⟨rd, hrd, hrate, -⟩ := (recalculateCurrentRates_iff (by decide) (by decide)
    (by decide) (by decide)).mpr hfits
  exact ⟨rd, hrd, hrate⟩

end ReserveData

namespace World

/-- An interest rate model with a rate of `10^10` at half utilization. -/
def steepModel : InterestRateModelParams := ⟨5 * 10 ^ 5, 10 ^ 10, 10 ^ 10, 2 * 10 ^ 10, 100⟩

attribute [local instance] Pendzl.exact in
/-- The administrator sets a model whose rate at the target does not fit in 32 bits.  Then
half of the deposits cannot be borrowed: the recalculation of the rates overflows. -/
theorem steepModel_overflows :
    ∃ (w : World) (model : InterestRateModel) (rd : ReserveData),
      Sample.world.run (Sample.setup
        ++ [Sample.send 2 1 fun a => .deposit (Sample.account 100) a 1000,
          (Sample.env Sample.admin 1,
            .setInterestRateModel (Sample.account 100) steepModel)]) = some w
      ∧ w.pool.interestRateModel.get 0 = some model
      ∧ 0 < model.targetUrE6 ∧ model.targetUrE6 < 10 ^ 6
      ∧ model.rateAtTargetUrE18 < 2 ^ 64 ∧ model.rateAtMaxUrE18 < 2 ^ 64
      ∧ rd.totalDebt ≤ rd.totalDeposit
      ∧ rd.recalculateCurrentRates model = .error (.err (.mathError .overflow)) := by
  have hrun : (Sample.world.run (Sample.setup
        ++ [Sample.send 2 1 fun a => .deposit (Sample.account 100) a 1000,
          (Sample.env Sample.admin 1,
            .setInterestRateModel (Sample.account 100) steepModel)])).map
        (fun w => w.pool.interestRateModel.get 0)
      = some (some (InterestRateModel.new steepModel 1)) := by decide +kernel
  obtain ⟨w, hw, hmodel⟩ := Option.map_eq_some_iff.mp hrun
  refine ⟨w, _, ReserveData.halfBorrowed, hw, hmodel,
    by decide, by decide, by decide, by decide, by decide, ?_⟩
  decide +kernel

end World

end AbaxLending
