import Mathlib.Tactic

/-!
Books: a running total kept beside the balances it is the sum of.

A book over a finite type of keys is balanced when its total is the sum of all
balances (`Balanced`).  A posting changes one balance and the total by the same
amount and keeps the book balanced (`Balanced.post`); a balanced total is never
smaller than one balance, so a debit that the balance covers cannot underflow
the total (`Balanced.le_total`).

A list of entries comes to a sum for each key (`sumFor`); a prefix of it comes to the same
sums exactly when what is left out is all zero (`sumFor_takeWhile_iff`).
-/

namespace Book

/-! ### Entries -/

section

variable {K : Type} [DecidableEq K]

/-- What the entries with a key come to. -/
def sumFor (key : K) : List (K × ℕ) → ℕ
  | [] => 0
  | entry :: rest => (if entry.1 = key then entry.2 else 0) + sumFor key rest

lemma sumFor_append (key : K) (l l' : List (K × ℕ)) :
    sumFor key (l ++ l') = sumFor key l + sumFor key l' := by
  induction l with
  | nil => rw [List.nil_append, sumFor, Nat.zero_add]
  | cons entry l ih => rw [List.cons_append, sumFor, sumFor, ih, Nat.add_assoc]

/-- Entries that come to nothing for every key are all zero. -/
lemma sumFor_eq_zero_iff {l : List (K × ℕ)} :
    (∀ key, sumFor key l = 0) ↔ ∀ entry ∈ l, entry.2 = 0 := by
  induction l with
  | nil => simp [sumFor]
  | cons entry l ih =>
      simp only [sumFor, Nat.add_eq_zero_iff, List.forall_mem_cons, forall_and, ih]
      refine and_congr_left fun _ => ⟨fun h => ?_, fun h key => ?_⟩
      · have hself := h entry.1
        rwa [if_pos (Eq.refl entry.1)] at hself
      · rw [h, ite_self]

/-- **A prefix comes to the same sums** exactly when the entries behind it are zero. -/
theorem sumFor_takeWhile_iff {p : K × ℕ → Bool} {l : List (K × ℕ)} :
    (∀ key, sumFor key (l.takeWhile p) = sumFor key l) ↔ ∀ entry ∈ l.dropWhile p, entry.2 = 0 := by
  have hsplit : ∀ key, sumFor key l
      = sumFor key (l.takeWhile p) + sumFor key (l.dropWhile p) := by
    intro key
    rw [← sumFor_append, List.takeWhile_append_dropWhile]
  rw [← sumFor_eq_zero_iff]
  refine forall_congr' fun key => ?_
  have := hsplit key
  omega

end

/-! ### Books -/

variable {K : Type} [Fintype K]

/-- The total of a book is the sum of its balances. -/
def Balanced (total : ℕ) (bal : K → ℕ) : Prop := total = ∑ a, bal a

/-- A book without balances is balanced at `0`. -/
lemma balanced_zero {bal : K → ℕ} (h : ∀ a, bal a = 0) : Balanced 0 bal := by
  simp [Balanced, h]

/-- Only the balances matter. -/
lemma Balanced.congr {total : ℕ} {bal bal' : K → ℕ} (h : Balanced total bal)
    (hb : ∀ a, bal' a = bal a) : Balanced total bal' := by
  rw [Balanced, h]
  exact Finset.sum_congr rfl fun a _ => (hb a).symm

/-- One balance is at most the total. -/
lemma Balanced.le_total {total : ℕ} {bal : K → ℕ} (h : Balanced total bal) (a : K) :
    bal a ≤ total := by
  rw [h]
  exact Finset.single_le_sum (fun b _ => Nat.zero_le (bal b)) (Finset.mem_univ a)

/-- A balance that is the whole total leaves nothing to the others. -/
lemma Balanced.eq_zero_of_total [DecidableEq K] {total : ℕ} {bal : K → ℕ} {a b : K}
    (h : Balanced total bal) (ha : bal a = total) (hb : b ≠ a) : bal b = 0 := by
  have hsplit := Finset.add_sum_erase Finset.univ bal (Finset.mem_univ a)
  have hrest : ∑ c ∈ Finset.univ.erase a, bal c = 0 := by
    rw [Balanced] at h
    omega
  exact Finset.sum_eq_zero_iff.mp hrest b (Finset.mem_erase.mpr ⟨hb, Finset.mem_univ b⟩)

/-- Sums of two families that agree away from `a` differ by their values at `a`. -/
lemma sum_add_of_eq_off [DecidableEq K] {M : Type} [AddCommMonoid M] {f g : K → M} {a : K}
    (h : ∀ b, b ≠ a → g b = f b) : (∑ b, g b) + f a = (∑ b, f b) + g a := by
  have hrest : ∑ b ∈ Finset.univ.erase a, g b = ∑ b ∈ Finset.univ.erase a, f b :=
    Finset.sum_congr rfl fun b hb => h b (Finset.ne_of_mem_erase hb)
  rw [← Finset.add_sum_erase _ g (Finset.mem_univ a),
    ← Finset.add_sum_erase _ f (Finset.mem_univ a), hrest]
  abel

/-- **A posting keeps the book balanced**: one balance changes, and the total
changes with it. -/
lemma Balanced.post [DecidableEq K] {total total' : ℕ} {bal bal' : K → ℕ} {a : K}
    (h : Balanced total bal) (hoff : ∀ b, b ≠ a → bal' b = bal b)
    (htotal : total' + bal a = total + bal' a) : Balanced total' bal' := by
  have hsum := sum_add_of_eq_off hoff
  rw [Balanced] at h ⊢
  omega

/-- A posting of which only the balances are known: the book was balanced
before exactly when it is afterwards. -/
lemma balanced_iff_of_post [DecidableEq K] {total total' : ℕ} {bal bal' : K → ℕ} {a : K}
    (hoff : ∀ b, b ≠ a → bal' b = bal b) (htotal : total' + bal a = total + bal' a) :
    Balanced total' bal' ↔ Balanced total bal :=
  ⟨fun h => h.post (fun b hb => (hoff b hb).symm) htotal.symm, fun h => h.post hoff htotal⟩

/-- Two postings of which only the balances are known. -/
lemma balanced_iff_of_two_posts [DecidableEq K] {total total' : ℕ} {bal bal' : K → ℕ} {a b : K}
    (hab : a ≠ b) (hoff : ∀ c, c ≠ a → c ≠ b → bal' c = bal c)
    (htotal : total' + bal a + bal b = total + bal' a + bal' b) :
    Balanced total' bal' ↔ Balanced total bal := by
  have h₁ := sum_add_of_eq_off (f := bal) (g := Function.update bal a (bal' a)) (a := a)
    fun c hc => Function.update_of_ne hc _ _
  have h₂ := sum_add_of_eq_off (f := Function.update bal a (bal' a)) (g := bal') (a := b) ?_
  · rw [Function.update_self] at h₁
    rw [Function.update_of_ne hab.symm] at h₂
    rw [Balanced, Balanced]
    omega
  · intro c hc
    by_cases hca : c = a
    · rw [hca, Function.update_self]
    · rw [Function.update_of_ne hca, hoff c hca hc]

end Book
