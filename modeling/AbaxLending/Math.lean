import Mathlib.Algebra.Order.Floor.Div
import AbaxLending.Lib.Outcome

/-!
`library/math` and the error types: the checked integer arithmetic everything
else is computed with.

* `LendingPoolError` and the library errors it wraps; `Res` is the result type
  of the pool.  The library functions return a `MathError` that the `?` of their
  callers wraps; here they raise the wrapped error at once.
* `checkedAdd`, `checkedSub`, `checkedMul`: unsigned integers are natural
  numbers, and every operation of the source names its width.
* `Pendzl`: the one arithmetic function that is not in the repository,
  `pendzl::math::operations::mul_div`, with what the repository relies on: exact
  division rounded down or up, `DivByZero` for a zero denominator and `Overflow`
  for a quotient beyond 128 bits.
* `operations.rs`, function by function.
-/

namespace AbaxLending

open Outcome

/-! ### Errors -/

/-- `pendzl::math::errors::MathError`. -/
inductive MathError where
  | overflow
  | underflow
  | divByZero
  deriving DecidableEq, Repr

/-- `AssetRulesError`. -/
inductive AssetRulesError where
  | invalidAssetRule
  deriving DecidableEq, Repr

/-- `ReserveDataError`. -/
inductive ReserveDataError where
  | alreadySet
  | inactive
  | frozen
  deriving DecidableEq, Repr

/-- `ReserveRestrictionsError`. -/
inductive ReserveRestrictionsError where
  | maxDebtReached
  | maxDepositReached
  | minimalDebt
  | minimalCollateral
  deriving DecidableEq, Repr

/-- `PriceFeedError`. -/
inductive PriceFeedError where
  | noSuchAsset
  | noPriceFeed
  deriving DecidableEq, Repr

/-- The variants of `pendzl`'s `PSP22Error` that the repository names. -/
inductive PSP22Error where
  | custom (text : String)
  | insufficientBalance
  | insufficientAllowance
  deriving DecidableEq, Repr

/-- The variant of `pendzl`'s `AccessControlError` that the repository names. -/
inductive AccessControlError where
  | missingRole
  deriving DecidableEq, Repr

/-- `LendingPoolError`, without the errors of the flash loan receiver. -/
inductive LendingPoolError where
  | psp22Error (e : PSP22Error)
  | accessControlError (e : AccessControlError)
  | mathError (e : MathError)
  | assetRulesError (e : AssetRulesError)
  | reserveDataError (e : ReserveDataError)
  | reserveRestrictionsError (e : ReserveRestrictionsError)
  | priceFeedError (e : PriceFeedError)
  | amountNotGreaterThanZero
  | alreadyRegistered
  | assetNotRegistered
  | assetIsProtocolStablecoin
  | assetIsNotProtocolStablecoin
  | ruleBorrowDisable
  | ruleCollateralDisable
  | insufficientCollateral
  | insufficientDebt
  | collaterized
  | insufficientDeposit
  | minimumRecieved
  | nothingToRepay
  | nothingToCompensateWith
  | takingNotACollateral
  | vectorsInconsistentLengths
  | marketRuleInvalidId
  | depositFeeTooHigh
  | twEntryInvalidIndex (n : ℕ)
  | tooEarlyToAdjustRate
  deriving DecidableEq, Repr

/-- `Result<α, LendingPoolError>`, with traps. -/
abbrev Res (α : Type) := Comp LendingPoolError α

/-- `Result<α, PSP22Error>`, with traps. -/
abbrev TokenRes (α : Type) := Comp PSP22Error α

/-- `Err(MathError::..)` as the pool sees it. -/
abbrev mathErr (e : MathError) : LendingPoolError := .mathError e

/-! ### Checked arithmetic -/

/-- `a.checked_add(b)` at width `w`. -/
def checkedAdd (w a b : ℕ) : Option ℕ := if a + b < 2 ^ w then some (a + b) else none

/-- `a.checked_sub(b)` of an unsigned type. -/
def checkedSub (a b : ℕ) : Option ℕ := if b ≤ a then some (a - b) else none

/-- `a.checked_mul(b)` at width `w`. -/
def checkedMul (w a b : ℕ) : Option ℕ := if a * b < 2 ^ w then some (a * b) else none

/-- `uN::try_from(a)`. -/
def tryFrom (w a : ℕ) : Option ℕ := if a < 2 ^ w then some a else none

@[simp] lemma checkedAdd_eq_some {w a b c : ℕ} :
    checkedAdd w a b = some c ↔ a + b = c ∧ a + b < 2 ^ w := by
  rw [checkedAdd]
  split_ifs with h <;> simp [h]

@[simp] lemma checkedSub_eq_some {a b c : ℕ} :
    checkedSub a b = some c ↔ a = c + b := by
  rw [checkedSub]
  split_ifs with h <;> simp <;> omega

@[simp] lemma checkedMul_eq_some {w a b c : ℕ} :
    checkedMul w a b = some c ↔ a * b = c ∧ a * b < 2 ^ w := by
  rw [checkedMul]
  split_ifs with h <;> simp [h]

@[simp] lemma tryFrom_eq_some {w a c : ℕ} : tryFrom w a = some c ↔ a = c ∧ a < 2 ^ w := by
  rw [tryFrom]
  split_ifs with h <;> simp [h]

/-! ### `mul_div` -/

/-- `pendzl::math::operations::Rounding`. -/
inductive Rounding where
  | down
  | up
  deriving DecidableEq, Repr

/-- The exact value of `a * b / c` under a rounding. -/
def exactDiv (a b c : ℕ) : Rounding → ℕ
  | .down => a * b / c
  | .up => (a * b) ⌈/⌉ c

/-- `pendzl::math::operations::mul_div`, which is not part of the repository:
an exact division with an overflow error. -/
class Pendzl where
  mulDiv : ℕ → ℕ → ℕ → Rounding → Except MathError ℕ
  mulDiv_zero : ∀ a b r, mulDiv a b 0 r = .error .divByZero
  mulDiv_pos : ∀ a b c r, 0 < c → mulDiv a b c r =
    if exactDiv a b c r < 2 ^ 128 then .ok (exactDiv a b c r) else .error .overflow

/-- The function that `mul_div` is documented to be. -/
@[reducible] def Pendzl.exact : Pendzl where
  mulDiv a b c r :=
    if c = 0 then .error .divByZero
    else if exactDiv a b c r < 2 ^ 128 then .ok (exactDiv a b c r) else .error .overflow
  mulDiv_zero a b r := by simp
  mulDiv_pos a b c r hc := by simp [Nat.pos_iff_ne_zero.mp hc]

section

variable [Pendzl]

/-- `mul_div(a, b, c, r)?`. -/
def mulDiv (a b c : ℕ) (r : Rounding) : Res ℕ :=
  match Pendzl.mulDiv a b c r with
  | .ok v => .ok v
  | .error e => .error (.err (mathErr e))

/-- A quotient is returned exactly when it exists and fits in 128 bits. -/
@[simp] lemma mulDiv_eq_ok {a b c : ℕ} {r : Rounding} {v : ℕ} :
    mulDiv a b c r = .ok v ↔ 0 < c ∧ v = exactDiv a b c r ∧ v < 2 ^ 128 := by
  rcases Nat.eq_zero_or_pos c with rfl | hc
  · simp [mulDiv, Pendzl.mulDiv_zero]
  · rw [mulDiv, Pendzl.mulDiv_pos a b c r hc]
    by_cases h : exactDiv a b c r < 2 ^ 128
    · simp only [h, if_true, Except.ok.injEq, hc, true_and]
      constructor
      · rintro rfl
        exact ⟨rfl, h⟩
      · exact fun hv => hv.1.symm
    · simp only [h, if_false, reduceCtorEq, hc, true_and, false_iff, not_and]
      rintro rfl
      exact h

/-- A quotient with a positive denominator fails by overflow only. -/
lemma mulDiv_of_pos {a b c : ℕ} (r : Rounding) (hc : 0 < c) :
    mulDiv a b c r = okOr (tryFrom 128 (exactDiv a b c r)) (mathErr .overflow) := by
  rw [mulDiv, Pendzl.mulDiv_pos a b c r hc, tryFrom]
  by_cases h : exactDiv a b c r < 2 ^ 128
  · rw [if_pos h, if_pos h]
    rfl
  · rw [if_neg h, if_neg h]
    rfl

/-! ### `constants.rs` and `operations.rs` -/

/-- `E6_U32`, `E6_U128`. -/
abbrev E6 : ℕ := 10 ^ 6

/-- `E8_U128`. -/
abbrev E8 : ℕ := 10 ^ 8

/-- `E10_U128`. -/
abbrev E10 : ℕ := 10 ^ 10

/-- `E18_U128`. -/
abbrev E18 : ℕ := 10 ^ 18

/-- `e18_mul_e18_to_e18_rdown`. -/
def e18MulE18ToE18Rdown (a b : ℕ) : Res ℕ :=
  if a = E18 then .ok b else if b = E18 then .ok a else mulDiv a b E18 .down

/-- `e18_mul_e18_to_e18_rup`. -/
def e18MulE18ToE18Rup (a b : ℕ) : Res ℕ :=
  if a = E18 then .ok b else if b = E18 then .ok a else mulDiv a b E18 .up

/-- `e18_mul_e0_to_e18`. -/
def e18MulE0ToE18 (a b : ℕ) : Res ℕ := unwrap (checkedMul 128 a b)

/-- `e18_mul_e18_div_e18_to_e18_rdown`. -/
def e18MulE18DivE18ToE18Rdown (a b c : ℕ) : Res ℕ := do
  okOr (tryFrom 64 (← mulDiv a b c .down)) (mathErr .overflow)

/-- `e0_mul_e18_div_e18_to_e0_rdown`. -/
def e0MulE18DivE18ToE0Rdown (a b c : ℕ) : Res ℕ := mulDiv a b c .down

/-- `e0_mul_e18_div_e18_to_e0_rup`. -/
def e0MulE18DivE18ToE0Rup (a b c : ℕ) : Res ℕ := mulDiv a b c .up

/-- `e0_mul_e6_to_e0_rup`. -/
def e0MulE6ToE0Rup (a b : ℕ) : Res ℕ := mulDiv a b E6 .up

/-- `e8_mul_e6_to_e6_rdown`. -/
def e8MulE6ToE6Rdown (a b : ℕ) : Res ℕ := mulDiv a b E8 .down

/-- `calculate_asset_amount_value_e8`: every failure in it is a trap. -/
def calculateAssetAmountValueE8 (amount priceE18 decimalMultiplier : ℕ) : Res ℕ := do
  let denominator ← unwrap (checkedMul 128 decimalMultiplier E10)
  match mulDiv amount priceE18 denominator .down with
  | .ok v => .ok v
  | .error _ => .error .trap

end

/-- `calculate_amount_to_take`, in 256 bits: only the conversion back to 128
bits is an error value, the rest traps. -/
def calculateAmountToTake (amountToRepay assetToRepayPriceE18 assetToTakePriceE18
    reserveToRepayDecimalMultiplier reserveToTakeDecimalMultiplier
    penaltyToRepayE6 penaltyToTakeE6 : ℕ) : Res ℕ := do
  let ab ← unwrap (checkedMul 256 amountToRepay assetToRepayPriceE18)
  let abc ← unwrap (checkedMul 256 ab reserveToTakeDecimalMultiplier)
  let lm ← unwrap (checkedAdd 256 penaltyToRepayE6 penaltyToTakeE6)
  let lm1 ← unwrap (checkedAdd 256 lm E6)
  let numerator ← unwrap (checkedMul 256 abc lm1)
  let xy ← unwrap (checkedMul 256 assetToTakePriceE18 reserveToRepayDecimalMultiplier)
  let denominator ← unwrap (checkedMul 256 xy E6)
  trapIf (denominator = 0)
  okOr (tryFrom 128 (numerator / denominator)) (mathErr .overflow)

end AbaxLending
