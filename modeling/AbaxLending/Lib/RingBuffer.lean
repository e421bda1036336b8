import Mathlib.Tactic

/-!
A ring of slots that keeps the newest entries of a log.

A log is a list with its newest entry first.  A ring of `n` slots with head `i` holds a log
when the slots, read backwards from the head, are the first `n` entries of the log
(`Holds`).  Writing an entry to the slot after the head and moving the head there appends
it to the log (`Holds.push`).  A walk ahead, slot by slot, meets every slot
(`next_behind`, `exists_behind`).
-/

namespace RingBuffer

variable {α : Type}

/-- The slot that is `j` places behind the head `i`, in a ring of `n` slots. -/
def behind (n i j : ℕ) : ℕ := (i + n - j) % n

/-- The ring with head `i` holds the newest `n` entries of a log. -/
structure Holds (n : ℕ) (slots : ℕ → Option α) (i : ℕ) (log : List α) : Prop where
  lt : i < n
  slots : ∀ j < n, slots (behind n i j) = log[j]?

variable {n i : ℕ} {slots slots' : ℕ → Option α} {log : List α}

/-- An empty ring holds the empty log. -/
lemma holds_nil (hi : i < n) (h : ∀ m, slots m = none) : Holds n slots i [] :=
  ⟨hi, fun j _ => by rw [h, List.getElem?_nil]⟩

/-- A ring with the same slots holds the same log. -/
lemma Holds.congr (h : Holds n slots i log) (hs : ∀ m, slots' m = slots m) :
    Holds n slots' i log := ⟨h.lt, fun j hj => by rw [hs, h.slots j hj]⟩

/-- The head is no place behind itself. -/
lemma behind_zero (hi : i < n) : behind n i 0 = i := by
  rw [behind, Nat.sub_zero, Nat.add_mod_right, Nat.mod_eq_of_lt hi]

/-- The newest entry is at the head. -/
lemma Holds.head (h : Holds n slots i log) : slots i = log.head? := by
  have h0 := h.slots 0 (by have := h.lt; omega)
  rw [behind_zero h.lt] at h0
  rw [h0, List.head?_eq_getElem?]

/-- The next head is one place ahead of the old one. -/
lemma behind_succ (hi : i < n) {j : ℕ} (hj : j + 1 < n) :
    behind n ((i + 1) % n) (j + 1) = behind n i j := by
  rw [behind, behind]
  rcases Nat.lt_or_ge (i + 1) n with hlt | hge
  · rw [Nat.mod_eq_of_lt hlt]
    congr 1
    omega
  · obtain rfl : n = i + 1 := by omega
    rw [Nat.mod_self, Nat.mod_eq_of_lt (by omega), Nat.mod_eq_sub_mod (by omega),
      Nat.mod_eq_of_lt (by omega)]
    omega

/-- The slot after the head is not among the `n - 1` newest ones. -/
lemma behind_ne_next (hi : i < n) {j : ℕ} (hj : j + 1 < n) : behind n i j ≠ (i + 1) % n := by
  rw [behind]
  rcases Nat.lt_or_ge i j with hlt | hge
  · rw [Nat.mod_eq_of_lt (by omega), Nat.mod_eq_of_lt (by omega)]
    omega
  · rw [Nat.mod_eq_sub_mod (by omega), Nat.mod_eq_of_lt (by omega)]
    rcases Nat.lt_or_ge (i + 1) n with hlt | hge'
    · rw [Nat.mod_eq_of_lt hlt]
      omega
    · obtain rfl : n = i + 1 := by omega
      rw [Nat.mod_self]
      omega

/-! ### Walking around the ring -/

lemma behind_lt (hi : i < n) (j : ℕ) : behind n i j < n := Nat.mod_lt _ (by omega)

/-- One place ahead of the slot `j + 1` places behind the head is the one `j` places
behind it. -/
lemma next_behind {j : ℕ} (hj : j < n) : (behind n i (j + 1) + 1) % n = behind n i j := by
  rw [behind, behind, Nat.mod_add_mod]
  congr 1
  omega

/-- Every slot is some places behind the head. -/
lemma exists_behind {m : ℕ} (hi : i < n) (hm : m < n) : ∃ j < n, behind n i j = m := by
  rcases Nat.lt_or_ge i m with hlt | hge
  · refine ⟨i + n - m, by omega, ?_⟩
    rw [behind, Nat.sub_sub_self (by omega), Nat.mod_eq_of_lt hm]
  · refine ⟨i - m, by omega, ?_⟩
    rw [behind, show i + n - (i - m) = m + n by omega, Nat.add_mod_right, Nat.mod_eq_of_lt hm]

/-- **Writing to the slot after the head appends to the log.** -/
theorem Holds.push {a : α} (h : Holds n slots i log) (hself : slots' ((i + 1) % n) = some a)
    (hother : ∀ m, m ≠ (i + 1) % n → slots' m = slots m) :
    Holds n slots' ((i + 1) % n) (a :: log) := by
  have hn : 0 < n := by have := h.lt; omega
  have hlt := Nat.mod_lt (i + 1) hn
  refine ⟨hlt, fun j hj => ?_⟩
  cases j with
  | zero => rw [behind_zero hlt, hself, List.getElem?_cons_zero]
  | succ j =>
      rw [behind_succ h.lt hj, hother _ (behind_ne_next h.lt hj), h.slots j (by omega),
        List.getElem?_cons_succ]

end RingBuffer
