import AbaxLending.Structs.Account

/-!
What accruing a position does.

* `ReserveIndexes.update_timestamp`, `ReserveIndexes.update_again`: updated
  indexes carry the time they were updated to, and a second update to that time
  changes nothing;
* `SideAccrual` facts (`accumulateDeposit_spec`, `accumulateDebt_spec`): an
  amount grows by its interest, the earned fee grows by the fee, and the gross
  amount is the exact quotient rounded against the account;
* `accumulateAccountInterest_spec`: both sides together;
* `accumulateAccountInterest_again`: a position that was just accrued does not
  change when it is accrued again;
* `accumulateAccountInterest_below`: the income so far only decides whether the
  new income fits.
-/

namespace AbaxLending

open Outcome

variable [Pendzl]

/-! ### Indexes -/

namespace ReserveIndexes

/-- Updated indexes carry the time they were updated to. -/
lemma update_timestamp {self indexes : ReserveIndexes} {reserveData : ReserveData}
    {timestamp : ℕ} (h : self.update reserveData timestamp = .ok indexes) :
    indexes.updateTimestamp = timestamp := by
  rw [update, bind_eq_ok] at h
  obtain ⟨delta, hdelta, h⟩ := h
  simp only [okOr_eq_ok, checkedSub_eq_some] at hdelta
  split_ifs at h with h0
  · simp only [pure_eq, Except.ok.injEq] at h
    rw [← h]
    omega
  · simp only [bind_eq_ok, pure_eq, Except.ok.injEq] at h
    obtain ⟨_, _, _, _, rfl⟩ := h
    rfl

/-- At their own time the indexes are up to date. -/
lemma update_self {self : ReserveIndexes} {timestamp : ℕ}
    (h : self.updateTimestamp = timestamp) (reserveData : ReserveData) :
    self.update reserveData timestamp = .ok self := by
  simp [update, okOr, checkedSub, h]

/-- A second update to the same time changes nothing, whatever the rates are. -/
lemma update_again {self indexes : ReserveIndexes} {reserveData : ReserveData}
    {timestamp : ℕ} (h : self.update reserveData timestamp = .ok indexes)
    (reserveData' : ReserveData) : indexes.update reserveData' timestamp = .ok indexes :=
  update_self (update_timestamp h) reserveData'

omit [Pendzl] in
/-- An index never decreases when the multiplication by a number from `10^18` on
does not decrease it. -/
lemma nextIndex_ge {mul : ℕ → ℕ → Res ℕ} {index rate total delta index' : ℕ}
    (hmul : ∀ m v, E18 ≤ m → mul index m = .ok v → index ≤ v)
    (h : nextIndex mul index rate total delta = .ok index') : index ≤ index' := by
  rw [nextIndex] at h
  split_ifs at h with h0
  · simp only [bind_eq_ok, okOr_eq_ok, checkedAdd_eq_some] at h
    obtain ⟨interest, _, multiplier, ⟨hm, _⟩, h⟩ := h
    exact hmul multiplier index' (by omega) h
  · simp only [Except.ok.injEq] at h
    exact h.le

end ReserveIndexes

/-- Multiplying by at least `10^18`, rounded down, does not decrease. -/
lemma le_of_e18MulE18ToE18Rdown {a m v : ℕ} (hm : E18 ≤ m)
    (h : e18MulE18ToE18Rdown a m = .ok v) : a ≤ v := by
  rw [e18MulE18ToE18Rdown] at h
  split_ifs at h with h1 h2
  · simp only [Except.ok.injEq] at h
    omega
  · simp only [Except.ok.injEq] at h
    omega
  · rw [mulDiv_eq_ok] at h
    obtain ⟨_, rfl, _⟩ := h
    rw [exactDiv, Nat.le_div_iff_mul_le (by norm_num)]
    exact Nat.mul_le_mul_left a hm

/-- Multiplying by at least `10^18`, rounded up, does not decrease. -/
lemma le_of_e18MulE18ToE18Rup {a m v : ℕ} (hm : E18 ≤ m)
    (h : e18MulE18ToE18Rup a m = .ok v) : a ≤ v := by
  rw [e18MulE18ToE18Rup] at h
  split_ifs at h with h1 h2
  · simp only [Except.ok.injEq] at h
    omega
  · simp only [Except.ok.injEq] at h
    omega
  · rw [mulDiv_eq_ok] at h
    obtain ⟨_, rfl, _⟩ := h
    have hmul : a * E18 ≤ a * m := Nat.mul_le_mul_left a hm
    rw [exactDiv, Nat.ceilDiv_eq_add_pred_div, Nat.le_div_iff_mul_le (by norm_num)]
    omega

namespace ReserveIndexes

/-- **Indexes only grow.** -/
theorem update_mono {self indexes : ReserveIndexes} {reserveData : ReserveData}
    {timestamp : ℕ} (h : self.update reserveData timestamp = .ok indexes) :
    self.depositIndexE18 ≤ indexes.depositIndexE18
      ∧ self.debtIndexE18 ≤ indexes.debtIndexE18 := by
  rw [update, bind_eq_ok] at h
  obtain ⟨delta, _, h⟩ := h
  split_ifs at h with h0
  · simp only [pure_eq, Except.ok.injEq] at h
    simp [h]
  · simp only [bind_eq_ok, pure_eq, Except.ok.injEq] at h
    obtain ⟨di, hdi, bi, hbi, rfl⟩ := h
    exact ⟨nextIndex_ge (fun m v hm => le_of_e18MulE18ToE18Rdown hm) hdi,
      nextIndex_ge (fun m v hm => le_of_e18MulE18ToE18Rup hm) hbi⟩

end ReserveIndexes

/-! ### One side -/

namespace AccountReserveData

/-- What the accrual of the deposit does: either nothing, or the deposit grows by
the interest, which together with the fee is the gross interest rounded down. -/
lemma accumulateDeposit_spec {self : AccountReserveData} {indexes : ReserveIndexes}
    {fees : ReserveFees} {reduction : ℕ} {r : SideAccrual}
    (h : self.accumulateDeposit indexes fees reduction = .ok r) :
    ∃ fee, r.amount = self.deposit + r.interest
      ∧ r.fees = { fees with earnedFee := fees.earnedFee + fee }
      ∧ (self.deposit = 0 ∨ self.appliedDepositIndexE18 = 0
            ∨ indexes.depositIndexE18 ≤ self.appliedDepositIndexE18 → r.interest = 0 ∧ fee = 0)
      ∧ (self.deposit ≠ 0 ∧ self.appliedDepositIndexE18 ≠ 0
            ∧ self.appliedDepositIndexE18 < indexes.depositIndexE18 →
          self.deposit + r.interest + fee
            = self.deposit * indexes.depositIndexE18 / self.appliedDepositIndexE18) := by
  rw [accumulateDeposit] at h
  split_ifs at h with hc
  · simp only [bind_eq_ok, e0MulE18DivE18ToE0Rdown, mulDiv_eq_ok, okOr_eq_ok,
      checkedSub_eq_some, ReserveFees.increaseEarnedFee, checkedAdd_eq_some, pure_eq,
      Except.ok.injEq] at h
    obtain ⟨gross, ⟨_, hgross, _⟩, grossInterest, h1, fee, _, updated, h2, interest, h3, fees',
      ⟨earned, ⟨rfl, _⟩, rfl⟩, rfl⟩ := h
    refine ⟨fee, by rw [h3, add_comm], rfl, fun hz => by omega, fun _ => ?_⟩
    rw [exactDiv] at hgross
    simp only
    omega
  · simp only [Except.ok.injEq] at h
    subst h
    exact ⟨0, rfl, rfl, fun _ => ⟨rfl, rfl⟩, fun hc' => absurd hc' hc⟩

/-- What the accrual of the debt does: either nothing, or the debt grows by the
interest, which is the fee on top of the gross interest rounded up. -/
lemma accumulateDebt_spec {self : AccountReserveData} {indexes : ReserveIndexes}
    {fees : ReserveFees} {reduction : ℕ} {r : SideAccrual}
    (h : self.accumulateDebt indexes fees reduction = .ok r) :
    ∃ fee, r.amount = self.debt + r.interest
      ∧ r.fees = { fees with earnedFee := fees.earnedFee + fee }
      ∧ (self.debt = 0 ∨ self.appliedDebtIndexE18 = 0
            ∨ indexes.debtIndexE18 ≤ self.appliedDebtIndexE18 → r.interest = 0 ∧ fee = 0)
      ∧ (self.debt ≠ 0 ∧ self.appliedDebtIndexE18 ≠ 0
            ∧ self.appliedDebtIndexE18 < indexes.debtIndexE18 →
          self.debt + r.interest
            = (self.debt * indexes.debtIndexE18) ⌈/⌉ self.appliedDebtIndexE18 + fee) := by
  rw [accumulateDebt] at h
  split_ifs at h with hc
  · simp only [bind_eq_ok, e0MulE18DivE18ToE0Rup, mulDiv_eq_ok, okOr_eq_ok,
      checkedSub_eq_some, ReserveFees.increaseEarnedFee, checkedAdd_eq_some, pure_eq,
      Except.ok.injEq] at h
    obtain ⟨gross, ⟨_, hgross, _⟩, grossInterest, h1, fee, _, updated, ⟨h2, _⟩, interest, h3,
      fees', ⟨earned, ⟨rfl, _⟩, rfl⟩, rfl⟩ := h
    refine ⟨fee, by rw [h3, add_comm], rfl, fun hz => by omega, fun _ => ?_⟩
    rw [exactDiv] at hgross
    simp only
    omega
  · simp only [Except.ok.injEq] at h
    subst h
    exact ⟨0, rfl, rfl, fun _ => ⟨rfl, rfl⟩, fun hc' => absurd hc' hc⟩

/-! ### Both sides -/

/-- **An accrual adds the interests to the position**, keeps the fee parameters,
and never lowers the earned fee. -/
theorem accumulateAccountInterest_spec {self : AccountReserveData} {indexes : ReserveIndexes}
    {fees : ReserveFees} {reductions : FeeReductions} {r : Accrual}
    (h : self.accumulateAccountInterest indexes fees reductions = .ok r) :
    r.data.deposit = self.deposit + r.depositInterest
      ∧ r.data.debt = self.debt + r.debtInterest
      ∧ r.fees.depositFeeE6 = fees.depositFeeE6 ∧ r.fees.debtFeeE6 = fees.debtFeeE6
      ∧ fees.earnedFee ≤ r.fees.earnedFee := by
  rw [accumulateAccountInterest] at h
  split_ifs at h with hc
  · simp only [Except.ok.injEq] at h
    subst h
    simp
  · simp only [bind_eq_ok, pure_eq, Except.ok.injEq] at h
    obtain ⟨onDeposit, hd, onDebt, hb, rfl⟩ := h
    obtain ⟨fee, hd1, hd2, -⟩ := accumulateDeposit_spec hd
    obtain ⟨fee', hb1, hb2, -⟩ := accumulateDebt_spec hb
    refine ⟨hd1, hb1, ?_, ?_, ?_⟩ <;> simp only [hb2, hd2]
    omega

/-- An amount of zero earns and owes nothing. -/
lemma accumulateAccountInterest_zero {self : AccountReserveData} {indexes : ReserveIndexes}
    {fees : ReserveFees} {reductions : FeeReductions} {r : Accrual}
    (h : self.accumulateAccountInterest indexes fees reductions = .ok r) :
    (self.deposit = 0 → r.data.deposit = 0) ∧ (self.debt = 0 → r.data.debt = 0) := by
  rw [accumulateAccountInterest] at h
  split_ifs at h with hc
  · simp only [Except.ok.injEq] at h
    subst h
    exact ⟨id, id⟩
  · simp only [bind_eq_ok, pure_eq, Except.ok.injEq] at h
    obtain ⟨onDeposit, hd, onDebt, hb, rfl⟩ := h
    obtain ⟨_, hd1, -, hd2, -⟩ := accumulateDeposit_spec hd
    obtain ⟨_, hb1, -, hb2, -⟩ := accumulateDebt_spec hb
    refine ⟨fun hz => ?_, fun hz => ?_⟩
    · rw [hd1, hz, (hd2 (.inl hz)).1]
    · rw [hb1, hz, (hb2 (.inl hz)).1]

/-- A position without amounts can always be accrued. -/
lemma accumulateAccountInterest_of_zero {self : AccountReserveData} (hd : self.deposit = 0)
    (hb : self.debt = 0) (indexes : ReserveIndexes) (fees : ReserveFees)
    (reductions : FeeReductions) :
    ∃ r, self.accumulateAccountInterest indexes fees reductions = .ok r
      ∧ r.data.deposit = 0 ∧ r.data.debt = 0 := by
  rw [accumulateAccountInterest]
  split_ifs with hc
  · exact ⟨_, rfl, hd, hb⟩
  · simp only [accumulateDeposit, accumulateDebt, hd, hb, ne_eq, not_true_eq_false, false_and,
      if_false, ok_bind, pure_eq]
    exact ⟨_, rfl, rfl, rfl⟩

/-- A position whose applied indexes have caught up does not change. -/
lemma accumulateAccountInterest_of_le {self : AccountReserveData} {indexes : ReserveIndexes}
    (hd : indexes.depositIndexE18 ≤ self.appliedDepositIndexE18)
    (hb : indexes.debtIndexE18 ≤ self.appliedDebtIndexE18) (fees : ReserveFees)
    (reductions : FeeReductions) :
    self.accumulateAccountInterest indexes fees reductions
      = .ok { data := self, fees, depositInterest := 0, debtInterest := 0 } := by
  rw [accumulateAccountInterest, if_pos ⟨hd, hb⟩]

/-- An accrued position has caught up with the indexes. -/
lemma accumulateAccountInterest_caughtUp {self : AccountReserveData} {indexes : ReserveIndexes}
    {fees : ReserveFees} {reductions : FeeReductions} {r : Accrual}
    (h : self.accumulateAccountInterest indexes fees reductions = .ok r) :
    indexes.depositIndexE18 ≤ r.data.appliedDepositIndexE18
      ∧ indexes.debtIndexE18 ≤ r.data.appliedDebtIndexE18 := by
  rw [accumulateAccountInterest] at h
  split_ifs at h with hc
  · simp only [Except.ok.injEq] at h
    subst h
    exact hc
  · simp only [bind_eq_ok, pure_eq, Except.ok.injEq] at h
    obtain ⟨_, _, _, _, rfl⟩ := h
    exact ⟨le_rfl, le_rfl⟩

/-- **An accrued position does not change when it is accrued again**, whatever was
added to or taken from its amounts in between. -/
theorem accumulateAccountInterest_again {self data : AccountReserveData}
    {indexes : ReserveIndexes} {fees : ReserveFees} {reductions : FeeReductions} {r : Accrual}
    (h : self.accumulateAccountInterest indexes fees reductions = .ok r)
    (hd : data.appliedDepositIndexE18 = r.data.appliedDepositIndexE18)
    (hb : data.appliedDebtIndexE18 = r.data.appliedDebtIndexE18) (fees' : ReserveFees)
    (reductions' : FeeReductions) :
    data.accumulateAccountInterest indexes fees' reductions'
      = .ok { data, fees := fees', depositInterest := 0, debtInterest := 0 } :=
  accumulateAccountInterest_of_le (hd ▸ (accumulateAccountInterest_caughtUp h).1)
    (hb ▸ (accumulateAccountInterest_caughtUp h).2) fees' reductions'

/-! ### The income so far -/

end AccountReserveData

/-- Fees with the same parameters and at most the same income. -/
structure ReserveFees.Below (low fees : ReserveFees) : Prop where
  depositFeeE6 : low.depositFeeE6 = fees.depositFeeE6
  debtFeeE6 : low.debtFeeE6 = fees.debtFeeE6
  earnedFee : low.earnedFee ≤ fees.earnedFee

omit [Pendzl] in
lemma ReserveFees.Below.refl (fees : ReserveFees) : fees.Below fees := ⟨rfl, rfl, le_rfl⟩

omit [Pendzl] in
lemma ReserveFees.Below.trans {low mid fees : ReserveFees} (h : low.Below mid)
    (h' : mid.Below fees) : low.Below fees :=
  ⟨h.depositFeeE6.trans h'.depositFeeE6, h.debtFeeE6.trans h'.debtFeeE6,
    h.earnedFee.trans h'.earnedFee⟩

omit [Pendzl] in
/-- A fee that fits a larger income fits a smaller one. -/
lemma ReserveFees.Below.increase {low fees fees' : ReserveFees} {amount : ℕ} (h : low.Below fees)
    (hinc : fees.increaseEarnedFee amount = .ok fees') :
    ∃ low', low.increaseEarnedFee amount = .ok low' ∧ low'.Below fees' := by
  simp only [increaseEarnedFee, bind_eq_ok, okOr_eq_ok, checkedAdd_eq_some, pure_eq,
    Except.ok.injEq] at hinc ⊢
  obtain ⟨_, ⟨rfl, hfits⟩, rfl⟩ := hinc
  have hle := h.earnedFee
  exact ⟨_, ⟨_, ⟨rfl, by omega⟩, rfl⟩, h.depositFeeE6, h.debtFeeE6, Nat.add_le_add_right hle _⟩

namespace AccountReserveData

variable {self : AccountReserveData} {indexes : ReserveIndexes} {low fees : ReserveFees}

lemma accumulateDeposit_below {reduction : ℕ} {r : SideAccrual} (hlow : low.Below fees)
    (h : self.accumulateDeposit indexes fees reduction = .ok r) :
    ∃ low', self.accumulateDeposit indexes low reduction = .ok { r with fees := low' }
      ∧ low'.Below r.fees := by
  rw [accumulateDeposit] at h ⊢
  split_ifs at h ⊢ with hc
  · simp only [bind_eq_ok, pure_eq, Except.ok.injEq] at h
    obtain ⟨gross, h₁, interest, h₂, fee, h₃, updated, h₄, net, h₅, fees', h₆, rfl⟩ := h
    obtain ⟨low', h₆', hlow'⟩ := hlow.increase h₆
    refine ⟨low', ?_, hlow'⟩
    simp only [hlow.depositFeeE6, h₁, h₂, h₃, h₄, h₅, h₆', ok_bind, pure_eq]
  · simp only [Except.ok.injEq] at h
    subst h
    exact ⟨low, rfl, hlow⟩

lemma accumulateDebt_below {reduction : ℕ} {r : SideAccrual} (hlow : low.Below fees)
    (h : self.accumulateDebt indexes fees reduction = .ok r) :
    ∃ low', self.accumulateDebt indexes low reduction = .ok { r with fees := low' }
      ∧ low'.Below r.fees := by
  rw [accumulateDebt] at h ⊢
  split_ifs at h ⊢ with hc
  · simp only [bind_eq_ok, pure_eq, Except.ok.injEq] at h
    obtain ⟨gross, h₁, interest, h₂, fee, h₃, updated, h₄, net, h₅, fees', h₆, rfl⟩ := h
    obtain ⟨low', h₆', hlow'⟩ := hlow.increase h₆
    refine ⟨low', ?_, hlow'⟩
    simp only [hlow.debtFeeE6, h₁, h₂, h₃, h₄, h₅, h₆', ok_bind, pure_eq]
  · simp only [Except.ok.injEq] at h
    subst h
    exact ⟨low, rfl, hlow⟩

/-- **What an accrual computes does not depend on the income so far.** -/
theorem accumulateAccountInterest_below {reductions : FeeReductions} {r : Accrual}
    (hlow : low.Below fees) (h : self.accumulateAccountInterest indexes fees reductions = .ok r) :
    ∃ low', self.accumulateAccountInterest indexes low reductions = .ok { r with fees := low' }
      ∧ low'.Below r.fees := by
  rw [accumulateAccountInterest] at h ⊢
  split_ifs at h ⊢ with hc
  · simp only [Except.ok.injEq] at h
    subst h
    exact ⟨low, rfl, hlow⟩
  · simp only [bind_eq_ok, pure_eq, Except.ok.injEq] at h
    obtain ⟨onDeposit, hd, onDebt, hb, rfl⟩ := h
    obtain ⟨mid, hd', hmid⟩ := accumulateDeposit_below hlow hd
    obtain ⟨low', hb', hlow'⟩ := accumulateDebt_below hmid hb
    refine ⟨low', ?_, hlow'⟩
    simp only [hd', hb', ok_bind, pure_eq]

/-- An accrual leaves at least the fees it found. -/
lemma accumulateAccountInterest_fees {reductions : FeeReductions} {r : Accrual}
    (h : self.accumulateAccountInterest indexes fees reductions = .ok r) : fees.Below r.fees := by
  obtain ⟨-, -, hd, hb, he⟩ := accumulateAccountInterest_spec h
  exact ⟨hd.symm, hb.symm, he⟩

end AccountReserveData

end AbaxLending
