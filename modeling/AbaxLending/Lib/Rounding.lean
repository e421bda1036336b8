import Mathlib.Algebra.Order.Floor.Div
import Mathlib.Tactic

/-!
Amounts that are scaled from one index to the next, with a rounding and a charge at each step.

What is owned is rounded down and pays a charge on its growth; what is owed is rounded up and
bears a charge on top.  A charge that is monotone and subadditive (`Levy`) is cheapest when the
growth comes in one piece.  So a stop in between is never an advantage: `owned_stop`,
`owed_stop`.

* `floorScale_stop`, `ceilScale_stop`: a stop in between loses, or adds, a rounding;
* `floorScale_growth`, `ceilScale_growth`: a larger amount grows by more;
* `Levy.share`, `Levy.comp`: a share rounded up is a levy, and so is a levy on a levy.
-/

namespace Rounded

variable {a b x y i i' i₁ i₂ : ℕ}

lemma ceilDiv_mono (c : ℕ) (h : a ≤ b) : a ⌈/⌉ c ≤ b ⌈/⌉ c := by
  rcases Nat.eq_zero_or_pos c with rfl | hc
  · simp
  · exact (gc_mul_ceilDiv hc).monotone_l h

lemma ceilDiv_add_le (a b c : ℕ) : (a + b) ⌈/⌉ c ≤ a ⌈/⌉ c + b ⌈/⌉ c := by
  rcases Nat.eq_zero_or_pos c with rfl | hc
  · simp
  · rw [ceilDiv_le_iff_le_mul hc]
    calc a + b ≤ c * (a ⌈/⌉ c) + c * (b ⌈/⌉ c) :=
          Nat.add_le_add (le_smul_ceilDiv hc) (le_smul_ceilDiv hc)
      _ = c * (a ⌈/⌉ c + b ⌈/⌉ c) := (Nat.mul_add ..).symm

/-- Rounding up adds less than the divisor. -/
lemma mul_ceilDiv_lt (a : ℕ) {c : ℕ} (hc : 0 < c) : c * (a ⌈/⌉ c) < a + c := by
  have hle : c * (a ⌈/⌉ c) ≤ a + c - 1 := by
    rw [Nat.ceilDiv_eq_add_pred_div]
    exact Nat.mul_div_le _ _
  omega

/-! ### Scaling -/

/-- An amount scaled from an index to another one, rounded down. -/
def floorScale (x i i' : ℕ) : ℕ := x * i' / i

/-- An amount scaled from an index to another one, rounded up. -/
def ceilScale (x i i' : ℕ) : ℕ := (x * i') ⌈/⌉ i

lemma ceilScale_self (hi : 0 < i) : ceilScale x i i = x := by
  rw [ceilScale, Nat.mul_comm]
  exact smul_ceilDiv hi x

lemma le_floorScale (hi : 0 < i) (hle : i ≤ i') : x ≤ floorScale x i i' := by
  rw [floorScale, Nat.le_div_iff_mul_le hi]
  exact Nat.mul_le_mul_left x hle

lemma le_ceilScale (hi : 0 < i) (hle : i ≤ i') : x ≤ ceilScale x i i' := by
  calc x = ceilScale x i i := (ceilScale_self hi).symm
    _ ≤ ceilScale x i i' := ceilDiv_mono i (Nat.mul_le_mul_left x hle)

/-- A stop in between loses a rounding. -/
lemma floorScale_stop (hi : 0 < i) (hi₁ : 0 < i₁) :
    floorScale (floorScale x i i₁) i₁ i₂ ≤ floorScale x i i₂ := by
  have hfirst : floorScale x i i₁ * i ≤ x * i₁ := Nat.div_mul_le_self ..
  have hsecond : floorScale (floorScale x i i₁) i₁ i₂ * i₁ ≤ floorScale x i i₁ * i₂ :=
    Nat.div_mul_le_self ..
  generalize floorScale (floorScale x i i₁) i₁ i₂ = r at hsecond ⊢
  generalize floorScale x i i₁ = q at hfirst hsecond
  rw [floorScale, Nat.le_div_iff_mul_le hi]
  refine Nat.le_of_mul_le_mul_right ?_ hi₁
  calc r * i * i₁ = r * i₁ * i := by ring
    _ ≤ q * i₂ * i := Nat.mul_le_mul_right i hsecond
    _ = q * i * i₂ := by ring
    _ ≤ x * i₁ * i₂ := Nat.mul_le_mul_right i₂ hfirst
    _ = x * i₂ * i₁ := by ring

/-- A stop in between adds a rounding. -/
lemma ceilScale_stop (hi : 0 < i) (hi₁ : 0 < i₁) :
    ceilScale x i i₂ ≤ ceilScale (ceilScale x i i₁) i₁ i₂ := by
  have hfirst : x * i₁ ≤ i * ceilScale x i i₁ := le_smul_ceilDiv hi
  have hsecond : ceilScale x i i₁ * i₂ ≤ i₁ * ceilScale (ceilScale x i i₁) i₁ i₂ :=
    le_smul_ceilDiv hi₁
  generalize ceilScale (ceilScale x i i₁) i₁ i₂ = r at hsecond ⊢
  generalize ceilScale x i i₁ = q at hfirst hsecond
  rw [ceilScale, ceilDiv_le_iff_le_mul hi]
  refine Nat.le_of_mul_le_mul_right ?_ hi₁
  calc x * i₂ * i₁ = x * i₁ * i₂ := by ring
    _ ≤ i * q * i₂ := Nat.mul_le_mul_right i₂ hfirst
    _ = i * (q * i₂) := by ring
    _ ≤ i * (i₁ * r) := Nat.mul_le_mul_left i hsecond
    _ = i * r * i₁ := by ring

/-- A larger amount grows by more. -/
lemma floorScale_growth (hi : 0 < i) (hle : i ≤ i') (hxy : x ≤ y) :
    floorScale x i i' + y ≤ floorScale y i i' + x := by
  obtain ⟨d, rfl⟩ := Nat.exists_eq_add_of_le hxy
  have hscaled : floorScale x i i' + d ≤ floorScale (x + d) i i' := by
    calc floorScale x i i' + d = (x * i' + d * i) / i := (Nat.add_mul_div_right _ d hi).symm
      _ ≤ (x * i' + d * i') / i :=
          Nat.div_le_div_right (Nat.add_le_add_left (Nat.mul_le_mul_left d hle) _)
      _ = floorScale (x + d) i i' := by rw [floorScale, Nat.add_mul]
  omega

/-- A larger amount grows by more. -/
lemma ceilScale_growth (hi : 0 < i) (hle : i ≤ i') (hxy : x ≤ y) :
    ceilScale x i i' + y ≤ ceilScale y i i' + x := by
  obtain ⟨d, rfl⟩ := Nat.exists_eq_add_of_le hxy
  have hrest : ceilScale (x + d) i i' = (x * i' + d * i') ⌈/⌉ i := by rw [ceilScale, Nat.add_mul]
  have hscaled : ceilScale x i i' + d ≤ ceilScale (x + d) i i' := by
    have hshift : (x * i' + i * d) ⌈/⌉ i = ceilScale x i i' + d := by
      rw [ceilScale, Nat.ceilDiv_eq_add_pred_div, Nat.ceilDiv_eq_add_pred_div,
        ← Nat.add_mul_div_left _ d hi]
      congr 1
      omega
    rw [← hshift, hrest]
    exact ceilDiv_mono i (Nat.add_le_add_left (Nat.mul_comm i d ▸ Nat.mul_le_mul_left d hle) _)
  omega

/-! ### Charges -/

/-- A charge that is no smaller for more, and no larger for a whole than for its parts. -/
structure Levy (charge : ℕ → ℕ) : Prop where
  mono : Monotone charge
  add_le : ∀ a b, charge (a + b) ≤ charge a + charge b

/-- A share that is rounded up is a levy. -/
lemma Levy.share (s c : ℕ) : Levy fun a => (a * s) ⌈/⌉ c where
  mono _ _ h := ceilDiv_mono c (Nat.mul_le_mul_right s h)
  add_le a b := by
    show ((a + b) * s) ⌈/⌉ c ≤ (a * s) ⌈/⌉ c + (b * s) ⌈/⌉ c
    rw [Nat.add_mul]
    exact ceilDiv_add_le ..

variable {charge charge' : ℕ → ℕ}

/-- A levy on a levy is one. -/
lemma Levy.comp (h : Levy charge) (h' : Levy charge') : Levy fun a => charge' (charge a) where
  mono := h'.mono.comp h.mono
  add_le a b :=
    calc charge' (charge (a + b)) ≤ charge' (charge a + charge b) := h'.mono (h.add_le a b)
      _ ≤ charge' (charge a) + charge' (charge b) := h'.add_le ..

/-- Of a larger interest no less is left, when a levy takes at most everything. -/
lemma Levy.left_mono (h : Levy charge) (hle : ∀ a, charge a ≤ a) (hab : a ≤ b) :
    a + charge b ≤ b + charge a := by
  obtain ⟨d, rfl⟩ := Nat.exists_eq_add_of_le hab
  have hsum := h.add_le a d
  have hd := hle d
  omega

/-! ### Stops -/

/-- What is owned at a later index, after the charge on its growth. -/
def owned (charge : ℕ → ℕ) (x i i' : ℕ) : ℕ :=
  floorScale x i i' - charge (floorScale x i i' - x)

/-- What is owed at a later index, with the charge on its growth. -/
def owed (charge : ℕ → ℕ) (x i i' : ℕ) : ℕ :=
  ceilScale x i i' + charge (ceilScale x i i' - x)

/-- **A stop in between never raises what is owned.** -/
theorem owned_stop (h : Levy charge) (hle : ∀ a, charge a ≤ a) (hi : 0 < i) (h₁ : i ≤ i₁)
    (h₂ : i₁ ≤ i₂) : owned charge (owned charge x i i₁) i₁ i₂ ≤ owned charge x i i₂ := by
  have hi₁ : 0 < i₁ := by omega
  have hgross := le_floorScale (x := x) hi h₁
  have hstop : floorScale (floorScale x i i₁) i₁ i₂ ≤ floorScale x i i₂ :=
    floorScale_stop hi hi₁
  have hkept : owned charge x i i₁ ≤ floorScale x i i₁ := Nat.sub_le ..
  have hgrowth := floorScale_growth hi₁ h₂ hkept
  have hagain := le_floorScale (x := owned charge x i i₁) hi₁ h₂
  have hcharge := hle (floorScale x i i₁ - x)
  -- the two interests together are at most the interest of the whole time
  have hsum := h.add_le (floorScale x i i₁ - x)
    (floorScale (owned charge x i i₁) i₁ i₂ - owned charge x i i₁)
  have hparts : floorScale x i i₁ - x
      + (floorScale (owned charge x i i₁) i₁ i₂ - owned charge x i i₁)
      ≤ floorScale x i i₂ - x := by omega
  have hleft := h.left_mono hle hparts
  have hfirst : owned charge x i i₁
      = floorScale x i i₁ - charge (floorScale x i i₁ - x) := rfl
  have hwhole := hle (floorScale x i i₂ - x)
  show floorScale (owned charge x i i₁) i₁ i₂
      - charge (floorScale (owned charge x i i₁) i₁ i₂ - owned charge x i i₁)
    ≤ floorScale x i i₂ - charge (floorScale x i i₂ - x)
  omega

/-- **A stop in between never lowers what is owed.** -/
theorem owed_stop (h : Levy charge) (hi : 0 < i) (h₁ : i ≤ i₁) (h₂ : i₁ ≤ i₂) :
    owed charge x i i₂ ≤ owed charge (owed charge x i i₁) i₁ i₂ := by
  have hi₁ : 0 < i₁ := by omega
  have hgross := le_ceilScale (x := x) hi h₁
  have hstop : ceilScale x i i₂ ≤ ceilScale (ceilScale x i i₁) i₁ i₂ := ceilScale_stop hi hi₁
  have hkept : ceilScale x i i₁ ≤ owed charge x i i₁ := Nat.le_add_right ..
  have hgrowth := ceilScale_growth hi₁ h₂ hkept
  have hagain := le_ceilScale (x := owed charge x i i₁) hi₁ h₂
  -- the two interests together are at least the interest of the whole time
  have hsum := h.add_le (ceilScale x i i₁ - x)
    (ceilScale (owed charge x i i₁) i₁ i₂ - owed charge x i i₁)
  have hparts : ceilScale x i i₂ - x ≤ ceilScale x i i₁ - x
      + (ceilScale (owed charge x i i₁) i₁ i₂ - owed charge x i i₁) := by omega
  have hmono := h.mono hparts
  have hfirst : owed charge x i i₁ = ceilScale x i i₁ + charge (ceilScale x i i₁ - x) := rfl
  show ceilScale x i i₂ + charge (ceilScale x i i₂ - x)
    ≤ ceilScale (owed charge x i i₁) i₁ i₂
      + charge (ceilScale (owed charge x i i₁) i₁ i₂ - owed charge x i i₁)
  omega

end Rounded
