import AbaxLending.Effects.Entries
import AbaxLending.Effects.Compounding
import AbaxLending.Effects.Governance
import AbaxLending.Effects.Postings
import AbaxLending.Invariants.Indexes

/-!
The pool serves its callers like a bank.

What the balance views show is the state of a bank: it starts without customers, time adds
interest, and the messages move what their callers ask for.  This is so as long as nobody
transfers a position, nobody liquidates itself, and the prices of the past stay: new fees, a
new stablecoin rate and a new provider of fee reductions change the interest of the time
before them.

* `bankAt_grows`: time only adds interest;
* `execute_termsAt`: a message that touches no position keeps the terms of all reserves;
* `execute_serves`: what a message does to the bank;
* `run_serves`: every run is a run of a bank, and the views show that bank.
-/

namespace AbaxLending

open Outcome

/-! ### Growth -/

namespace AccountReserveData

lemma depositBeforeFee_mono (self : AccountReserveData) {index index' : ℕ} (h : index ≤ index') :
    self.depositBeforeFee index ≤ self.depositBeforeFee index' := by
  by_cases hc : self.deposit ≠ 0 ∧ self.appliedDepositIndexE18 ≠ 0
      ∧ self.appliedDepositIndexE18 < index
  · have hc' : self.deposit ≠ 0 ∧ self.appliedDepositIndexE18 ≠ 0
        ∧ self.appliedDepositIndexE18 < index' := ⟨hc.1, hc.2.1, hc.2.2.trans_le h⟩
    rw [depositBeforeFee, depositBeforeFee, if_pos hc, if_pos hc']
    exact Nat.div_le_div_right (Nat.mul_le_mul_left self.deposit h)
  · rw [depositBeforeFee, if_neg hc]
    exact deposit_le_depositBeforeFee self index'

lemma debtBeforeFee_mono (self : AccountReserveData) {index index' : ℕ} (h : index ≤ index') :
    self.debtBeforeFee index ≤ self.debtBeforeFee index' := by
  by_cases hc : self.debt ≠ 0 ∧ self.appliedDebtIndexE18 ≠ 0 ∧ self.appliedDebtIndexE18 < index
  · have hc' : self.debt ≠ 0 ∧ self.appliedDebtIndexE18 ≠ 0
        ∧ self.appliedDebtIndexE18 < index' := ⟨hc.1, hc.2.1, hc.2.2.trans_le h⟩
    rw [debtBeforeFee, debtBeforeFee, if_pos hc, if_pos hc']
    exact Rounded.ceilDiv_mono _ (Nat.mul_le_mul_left self.debt h)
  · rw [debtBeforeFee, if_neg hc]
    exact debt_le_debtBeforeFee self index'

variable {self : AccountReserveData} {terms terms' : Terms} {reductions : FeeReductions}

/-- Nothing grows out of nothing. -/
lemma holdingAt_deposit_eq_zero (hfee : terms.depositFeeE6 ≤ E6)
    (h : (self.holdingAt terms reductions).deposit = 0) : self.deposit = 0 := by
  have hgross := deposit_le_depositBeforeFee self terms.indexes.depositIndexE18
  have hcharge : self.depositCharge terms.indexes terms.depositFeeE6 reductions.1
      ≤ self.depositBeforeFee terms.indexes.depositIndexE18 - self.deposit :=
    feeCharge_le _ _ hfee
  have hzero : self.depositBeforeFee terms.indexes.depositIndexE18
      - self.depositCharge terms.indexes terms.depositFeeE6 reductions.1 = 0 := h
  omega

/-- Without a deposit nothing grows. -/
lemma holdingAt_deposit_of_zero (h : self.deposit = 0) :
    (self.holdingAt terms reductions).deposit = 0 := by
  have hgross : self.depositBeforeFee terms.indexes.depositIndexE18 = 0 := by
    rw [depositBeforeFee, if_neg fun hc => hc.1 h, h]
  show self.depositBeforeFee _ - _ = 0
  rw [hgross, Nat.zero_sub]

/-- Without a debt nothing grows. -/
lemma holdingAt_debt_eq_zero_iff : (self.holdingAt terms reductions).debt = 0 ↔ self.debt = 0 := by
  have hgross := debt_le_debtBeforeFee self terms.indexes.debtIndexE18
  constructor
  · intro h
    have hzero : self.debtBeforeFee terms.indexes.debtIndexE18
        + self.debtCharge terms.indexes terms.debtFeeE6 reductions.2 = 0 := h
    omega
  · intro h
    have hgross' : self.debtBeforeFee terms.indexes.debtIndexE18 = 0 := by
      rw [debtBeforeFee, if_neg fun hc => hc.1 h, h]
    show self.debtBeforeFee _ + self.debtCharge _ _ _ = 0
    rw [debtCharge, hgross', Nat.zero_sub, feeCharge_zero]

/-- **What is held grows with the indexes**, under the same fees. -/
lemma holdingAt_grows (hfee : terms.depositFeeE6 ≤ E6)
    (hdepositFee : terms'.depositFeeE6 = terms.depositFeeE6)
    (hdebtFee : terms'.debtFeeE6 = terms.debtFeeE6)
    (hdeposit : terms.indexes.depositIndexE18 ≤ terms'.indexes.depositIndexE18)
    (hdebt : terms.indexes.debtIndexE18 ≤ terms'.indexes.debtIndexE18) :
    (self.holdingAt terms reductions).Grows (self.holdingAt terms' reductions) := by
  constructor
  case deposit =>
    have hfloor := deposit_le_depositBeforeFee self terms.indexes.depositIndexE18
    have hgross := depositBeforeFee_mono self hdeposit
    have hleft := (feeCharge_levy terms.depositFeeE6 reductions.1).left_mono
      (fun i => feeCharge_le i _ hfee) (Nat.sub_le_sub_right hgross self.deposit)
    have hcharge : self.depositCharge terms'.indexes terms.depositFeeE6 reductions.1
        ≤ self.depositBeforeFee terms'.indexes.depositIndexE18 - self.deposit :=
      feeCharge_le _ _ hfee
    show self.depositBeforeFee _ - self.depositCharge _ _ _
      ≤ self.depositBeforeFee _ - self.depositCharge _ _ _
    rw [hdepositFee]
    simp only [depositCharge] at hleft hcharge ⊢
    omega
  case debt =>
    have hgross := debtBeforeFee_mono self hdebt
    have hcharge : self.debtCharge terms.indexes terms.debtFeeE6 reductions.2
        ≤ self.debtCharge terms'.indexes terms.debtFeeE6 reductions.2 :=
      feeCharge_mono (Nat.sub_le_sub_right hgross self.debt) _ _
    show self.debtBeforeFee _ + self.debtCharge _ _ _
      ≤ self.debtBeforeFee _ + self.debtCharge _ _ _
    rw [hdebtFee]
    exact Nat.add_le_add hgross hcharge
  case deposit_zero =>
    intro hzero
    exact holdingAt_deposit_of_zero (holdingAt_deposit_eq_zero hfee hzero)
  case debt_zero =>
    intro hzero
    exact holdingAt_debt_eq_zero_iff.mpr (holdingAt_debt_eq_zero_iff.mp hzero)

end AccountReserveData

namespace LendingPoolStorage

variable {s s' : LendingPoolStorage} {view : Env} {t k : ℕ}

/-- Every fee on deposits is at most everything. -/
def FeesBounded (s : LendingPoolStorage) : Prop :=
  ∀ k r, s.reserveIndexesAndFees.get k = some r → r.fees.depositFeeE6 ≤ E6

/-- **Time only adds interest.** -/
theorem bankAt_grows (h : s.FeesBounded) (view : Env) {t t' : ℕ} (hle : t ≤ t') :
    (s.bankAt view t).Grows (s.bankAt view t') := by
  intro account asset
  rw [bankAt, bankAt, holdingOf, holdingOf]
  cases hk : s.assetToId.get asset with
  | none => exact .refl _
  | some k =>
      rw [Option.bind_some, Option.bind_some, termsAt, termsAt]
      cases hr : s.reserveIndexesAndFees.get k with
      | none => exact .refl _
      | some r =>
          cases hrd : s.reserveDatas.get k with
          | none => exact .refl _
          | some rd =>
              have hdelta := Nat.sub_le_sub_right hle r.indexes.updateTimestamp
              exact AccountReserveData.holdingAt_grows (h k r hr) rfl rfl
                (ReserveIndexes.grownIndex_mono _ _ _ _ hdelta)
                (ReserveIndexes.grownIndex_mono _ _ _ _ hdelta)

/-! ### Terms that stay -/

/-- Terms depend on the reserve, its indexes and its fees. -/
lemma termsAt_congr (hrd : s'.reserveDatas.get k = s.reserveDatas.get k)
    (hindexes : (s'.reserveIndexesAndFees.get k).map ReserveIndexesAndFees.indexes
      = (s.reserveIndexesAndFees.get k).map ReserveIndexesAndFees.indexes)
    (hfees : s'.feesE6At k = s.feesE6At k) : s'.termsAt t k = s.termsAt t k := by
  rw [feesE6At, feesE6At] at hfees
  rw [termsAt, termsAt, hrd]
  cases hr : s.reserveIndexesAndFees.get k with
  | none =>
      rw [hr, Option.map_none, Option.map_eq_none_iff] at hindexes
      rw [hindexes]
  | some r =>
      rw [hr, Option.map_some, Option.map_eq_some_iff] at hindexes
      obtain ⟨r', hr', heq⟩ := hindexes
      rw [hr, hr', Option.map_some, Option.map_some, Option.some.injEq, Prod.mk.injEq] at hfees
      obtain ⟨hdeposit, hdebt⟩ := hfees
      have hsame : ∀ rd, r'.termsAt rd t = r.termsAt rd t := by
        intro rd
        rw [ReserveIndexesAndFees.termsAt, heq, hdeposit, hdebt, ReserveIndexesAndFees.termsAt]
      rw [hr', Option.bind_some, Option.bind_some]
      simp only [hsame]

/-- Bringing the indexes of a reserve to a time keeps the terms at that time, whatever the new
rates are. -/
lemma termsAt_of_update [Pendzl] {rd rd' : ReserveData} {r : ReserveIndexesAndFees}
    {indexes : ReserveIndexes} (hrd : s.reserveDatas.get k = some rd)
    (hr : s.reserveIndexesAndFees.get k = some r) (hup : r.indexes.update rd t = .ok indexes)
    (hrds : s'.reserveDatas = s.reserveDatas.insert k rd')
    (hrs : s'.reserveIndexesAndFees = s.reserveIndexesAndFees.insert k { r with indexes })
    (j : ℕ) : s'.termsAt t j = s.termsAt t j := by
  by_cases hj : j = k
  · subst hj
    have hrd' : s'.reserveDatas.get j = some rd' := by rw [hrds, Mapping.get_insert_self]
    have hr' : s'.reserveIndexesAndFees.get j = some { r with indexes } := by
      rw [hrs, Mapping.get_insert_self]
    have htime := ReserveIndexes.update_timestamp hup
    have hnew : indexes.indexesAt rd' t = indexes := by
      rw [← htime, ReserveIndexes.indexesAt_self]
    rw [termsAt_of_get hrd hr, termsAt_of_get hrd' hr', ReserveIndexesAndFees.termsAt,
      ReserveIndexesAndFees.termsAt, hnew, ReserveIndexes.update_indexesAt hup]
  · rw [termsAt, termsAt, hrds, hrs, Mapping.get_insert_of_ne _ hj, Mapping.get_insert_of_ne _ hj]

/-- A flag of a reserve is no part of its terms. -/
lemma putFlag_termsAt {rd : ReserveData} (hrd : s.reserveDatas.get k = some rd) (active : Bool)
    (t j : ℕ) :
    (s.putReserveData k { rd with activated := active }).termsAt t j = s.termsAt t j := by
  rw [termsAt, termsAt, putReserveData_reserveDatas, Mapping.get_insert]
  split_ifs with hj
  · rw [hj, hrd]
    rfl
  · rfl

/-- Taking the income keeps the terms. -/
lemma takeProtocolIncome_termsAt [Pendzl] {assets : List AccountId}
    {incomes : List (AccountId × ℕ)} (h : s.takeProtocolIncome assets = .ok (s', incomes))
    (t k : ℕ) : s'.termsAt t k = s.termsAt t k := by
  have hfees : s'.feesE6At = s.feesE6At := (takeProtocolIncome_keepsSettings h).feesE6
  have hrds : s'.reserveDatas = s.reserveDatas := by
    obtain ⟨reserves, rfl⟩ := takeProtocolIncome_ok h
    rfl
  exact termsAt_congr (by rw [hrds]) (takeProtocolIncome_keepsReserve h k).indexes (by rw [hfees])

/-- Where the terms stay and the books too, nobody's holdings change. -/
lemma KeepsBooks.bankAt (h : KeepsBooks s s')
    (hprovider : s'.feeReductionProvider = s.feeReductionProvider)
    (hterms : ∀ k, s'.termsAt t k = s.termsAt t k) : s'.bankAt view t = s.bankAt view t := by
  funext account asset
  refine bankAt_congr (by rw [h.assetToId]) hprovider fun k _ => ⟨hterms k, ?_⟩
  rw [position_congr h.accountReserveDatas]

/-- A registration opens an account with nothing in the new asset for everybody. -/
lemma Registers.bankAt {asset : AccountId} (h : Registers s s' asset) (hids : s.IdsUnique)
    (hvacant : ∀ a, s.entry a s.assetCount = none)
    (hprovider : s'.feeReductionProvider = s.feeReductionProvider)
    (hterms : ∀ k, k ≠ s.assetCount → s'.termsAt t k = s.termsAt t k) :
    s'.bankAt view t = s.bankAt view t := by
  have hposition : s'.position = s.position := position_congr h.accountReserveDatas
  funext account other
  by_cases hother : other = asset
  · subst hother
    have hk : s'.assetToId.get other = some s.assetCount := by
      rw [h.assetToId, Mapping.get_insert_self]
    have hdefault : s'.position account s.assetCount = default := by
      rw [hposition, LendingPoolStorage.position, hvacant, Option.getD_none]
    rw [bankAt_of_unregistered h.fresh]
    cases hnew : s'.termsAt t s.assetCount with
    | none =>
        rw [LendingPoolStorage.bankAt, holdingOf, hk, Option.bind_some, hnew, Option.map_none,
          Option.getD_none]
    | some terms => rw [bankAt_of_terms hk hnew, hdefault, AccountReserveData.holdingAt_default]
  · have hget : s'.assetToId.get other = s.assetToId.get other := by
      rw [h.assetToId, Mapping.get_insert_of_ne _ hother]
    refine bankAt_congr hget hprovider fun k hk => ⟨hterms k ?_, by rw [hposition]⟩
    exact (hids.below other k hk).ne

end LendingPoolStorage

/-! ### Messages -/

/-- The messages that change the interest of the time before them. -/
def Message.reprices : Message → Bool
  | .setReserveFees _ _ _ | .setFeeReductionProvider _ | .setStablecoinDebtRateE18 _ _ => true
  | _ => false

/-- A message with its environment, as a bank can serve it: it transfers no position, does not
liquidate its caller and does not change the interest of the past, and the fee reductions are
those of `view`. -/
structure Banking (view : Env) (m : Env × Message) : Prop where
  isTransfer : m.2.isTransfer = false
  reprices : m.2.reprices = false
  liquidates : m.2.liquidates ≠ some m.1.caller
  feeReductions : m.1.getFeeReductions = view.getFeeReductions

namespace World

section

variable [Pendzl] {w w' : World} {env view : Env} {message : Message} {t : ℕ}

/-- **A message that touches no position keeps the terms** of all reserves, at its time, and
opens at most one more. -/
lemma execute_termsAt (hactions : message.userActions = none)
    (hliquidate : message.isLiquidate = false) (htransfer : message.isTransfer = false)
    (hreprices : message.reprices = false) (hex : w.execute env message = .ok w') :
    w'.pool.feeReductionProvider = w.pool.feeReductionProvider
      ∧ ∀ k, message.registers = none ∨ k ≠ w.pool.assetCount →
        w'.pool.termsAt env.blockTimestamp k = w.pool.termsAt env.blockTimestamp k := by
  have hstep := (execute_frame hex).1
  cases message with
  | deposit | withdraw | borrow | repay | multiOp => cases hactions
  | liquidate => cases hliquidate
  | transfer | transferFrom => cases htransfer
  | setReserveFees | setFeeReductionProvider | setStablecoinDebtRateE18 => cases hreprices
  | accumulateInterest asset =>
      obtain ⟨k, rd, r, indexes, rd', i, e, -, hrd, hr, -, hup, -, hs⟩ :=
        LendingPoolStorage.accountForAccumulateInterest_ok hstep
      rw [hs]
      exact ⟨rfl, fun j _ => LendingPoolStorage.termsAt_of_update hrd hr hup rfl rfl j⟩
  | setInterestRateModel asset params =>
      obtain ⟨k, rd, r, indexes, rd', -, hrd, hr, hup, -, hs⟩ :=
        LendingPoolStorage.accountForInterestRateModelChange_ok hstep
      rw [hs]
      exact ⟨rfl, fun j _ => LendingPoolStorage.termsAt_of_update hrd hr hup rfl rfl j⟩
  | registerAsset asset decimals rules restrictions depositFeeE6 debtFeeE6 params =>
      obtain ⟨s₁, s₂, multiplier, tokens, h₁, h₂, h₃⟩ := hstep
      obtain ⟨-, rule, hs⟩ := LendingPoolStorage.register_storage h₁ h₂ h₃
      refine ⟨by rw [hs], fun k hk => ?_⟩
      have hne : k ≠ w.pool.assetCount := hk.resolve_left nofun
      rw [hs, LendingPoolStorage.termsAt, LendingPoolStorage.termsAt]
      simp only [Mapping.get_insert_of_ne _ hne]
  | setReserveIsActive asset active =>
      obtain ⟨k, rd, -, hrd, -, hs⟩ := LendingPoolStorage.accountForChangingActivity_ok hstep
      rw [hs]
      exact ⟨rfl, fun j _ => LendingPoolStorage.putFlag_termsAt hrd active _ j⟩
  | setReserveIsFrozen asset frozen =>
      obtain ⟨k, rd, -, hrd, -, hs⟩ := LendingPoolStorage.accountForChangingIsFrozen_ok hstep
      rw [hs]
      exact ⟨rfl, fun j _ => LendingPoolStorage.putFlag_termsAt hrd frozen _ j⟩
  | takeProtocolIncome assets toAccount =>
      obtain ⟨list, incomes, hs⟩ := hstep
      refine ⟨?_, fun j _ => LendingPoolStorage.takeProtocolIncome_termsAt hs _ j⟩
      obtain ⟨reserves, heq⟩ := LendingPoolStorage.takeProtocolIncome_ok hs
      rw [heq]
  | _ =>
      exact ⟨execute_keeps (·.feeReductionProvider) (fun _ => rfl) hex,
        fun k _ => execute_keeps (·.termsAt env.blockTimestamp k) (fun _ => rfl) hex⟩

/-- No message sets a fee on deposits of more than everything. -/
lemma execute_feesBounded (h : w.pool.FeesBounded) (hex : w.execute env message = .ok w') :
    w'.pool.FeesBounded := by
  have hkeep : w'.pool.feesE6At = w.pool.feesE6At → w'.pool.FeesBounded := by
    intro hfees k r' hr'
    have hk := congrFun hfees k
    rw [LendingPoolStorage.feesE6At, LendingPoolStorage.feesE6At, hr', Option.map_some, eq_comm,
      Option.map_eq_some_iff] at hk
    obtain ⟨r, hr, heq⟩ := hk
    rw [← (Prod.mk.inj heq).1]
    exact h k r hr
  have hstep := (execute_frame hex).1
  cases message with
  | registerAsset asset decimals rules restrictions depositFeeE6 debtFeeE6 params =>
      have hfee : depositFeeE6 ≤ E6 := by
        simp only [execute, mapErr_eq_ok, registerAsset, bind_eq_ok, failIf_eq_ok] at hex
        obtain ⟨-, -, -, hle, -⟩ := hex
        exact not_lt.mp hle
      obtain ⟨s₁, s₂, multiplier, tokens, h₁, h₂, h₃⟩ := hstep
      obtain ⟨-, rule, hs⟩ := LendingPoolStorage.register_storage h₁ h₂ h₃
      intro k r' hr'
      rw [hs, Mapping.get_insert] at hr'
      split_ifs at hr' with hk
      · rw [← Option.some.inj hr']
        exact hfee
      · exact h k r' hr'
  | setInterestRateModel asset params =>
      obtain ⟨k, rd, r, indexes, rd', -, hrd, hr, hup, -, hs⟩ :=
        LendingPoolStorage.accountForInterestRateModelChange_ok hstep
      intro j r' hr'
      rw [hs, LendingPoolStorage.putReserve_reserveIndexesAndFees, Mapping.get_insert] at hr'
      split_ifs at hr' with hj
      · rw [← Option.some.inj hr']
        exact h k r hr
      · exact h j r' hr'
  | setReserveFees asset depositFeeE6 debtFeeE6 =>
      have hfee : depositFeeE6 ≤ E6 := by
        simp only [execute, mapErr_eq_ok, setReserveFees, bind_eq_ok, failIf_eq_ok] at hex
        obtain ⟨-, -, -, hle, -⟩ := hex
        exact not_lt.mp hle
      obtain ⟨k, r, -, hr, hs⟩ := LendingPoolStorage.accountForReserveFeesChange_ok hstep
      intro j r' hr'
      rw [hs, LendingPoolStorage.putIndexesAndFees_reserveIndexesAndFees,
        Mapping.get_insert] at hr'
      split_ifs at hr' with hj
      · rw [← Option.some.inj hr']
        exact hfee
      · exact h j r' hr'
  | setPriceFeedProvider | setFeeReductionProvider | setFlashLoanFeeE6 | setReserveRestrictions
  | setStablecoinDebtRateE18 | addMarketRule | modifyAssetRule =>
      exact hkeep (execute_keeps (·.feesE6At) (fun _ => rfl) hex)
  | _ => exact hkeep (execute_keepsSettings hex rfl).feesE6

/-- What the proofs of a run need of a state: the ids, the fees, and nothing at ids that were
not given out. -/
structure Banked (t : ℕ) (w : World) : Prop where
  linked : w.Linked
  occupied : w.pool.Occupied
  grounded : w.pool.Grounded t
  feesBounded : w.pool.FeesBounded

lemma Banked.initial (hw : w.IsInitial) (t : ℕ) : w.Banked t where
  linked := reachable_linked (.start hw : Reachable (fun _ => True) 0 w)
  occupied := by
    rw [hw.1]
    exact .new
  grounded := by
    rw [hw.1]
    exact .new t
  feesBounded := by
    rw [hw.1]
    intro k r hr
    cases hr

omit [Pendzl] in
lemma Banked.later (h : w.Banked t) {t' : ℕ} (hle : t ≤ t') : w.Banked t' where
  linked := h.linked
  occupied := h.occupied
  grounded := h.grounded.step hle (fun _ => .of_indexes rfl) (fun _ _ _ _ => .inl rfl)
    h.grounded.vacant
  feesBounded := h.feesBounded

lemma Banked.execute (h : w.Banked t) (hle : t ≤ env.blockTimestamp)
    (hm : message.isTransfer = false) (hex : w.execute env message = .ok w') :
    w'.Banked env.blockTimestamp where
  linked := execute_linked h.linked hex
  occupied := execute_occupied h.occupied hex
  grounded := execute_grounded h.occupied h.grounded hle hm hex
  feesBounded := execute_feesBounded h.feesBounded hex

omit [Pendzl] in
/-- Only the fee reductions of the surroundings matter. -/
lemma bankAt_view {s : LendingPoolStorage} (h : env.getFeeReductions = view.getFeeReductions) :
    s.bankAt env t = s.bankAt view t := by
  have hreductions : s.getFeeReductionsOfAccount env = s.getFeeReductionsOfAccount view := by
    funext account
    rw [LendingPoolStorage.getFeeReductionsOfAccount,
      LendingPoolStorage.getFeeReductionsOfAccount, h]
  funext account asset
  rw [LendingPoolStorage.bankAt, LendingPoolStorage.bankAt, LendingPoolStorage.holdingOf,
    LendingPoolStorage.holdingOf, hreductions]

/-- **The step lemma of the bank.** -/
lemma execute_serves (h : w.Banked t) (hm : Banking view (env, message))
    (hex : w.execute env message = .ok w') :
    Bank.Serves env.caller message (w.pool.bankAt view env.blockTimestamp)
      (w'.pool.bankAt view env.blockTimestamp) := by
  obtain ⟨htransfer, hreprices, hself, hreductions⟩ := hm
  have hids := h.linked.ids
  cases hactions : message.userActions with
  | some p =>
      obtain ⟨account, actions⟩ := p
      obtain ⟨res, hres, hs⟩ := execute_userActions hex hactions
      rw [hs, LendingPoolStorage.accountForAccountActions_bankAt hids hreductions hres]
      exact .actions _ hactions
  | none =>
      cases hliquidate : message.isLiquidate with
      | true =>
          have hstep := (execute_frame hex).1
          cases message with
          | liquidate liquidated assetToRepay assetToTake amount minimum =>
              have hne : env.caller ≠ liquidated := fun heq => hself (congrArg some heq.symm)
              obtain ⟨res, hres, hs⟩ := hstep
              obtain ⟨r, rfl⟩ := LendingPoolStorage.accountForLiquidate_ok hres
              obtain ⟨hrepaid, hdebt, htaken⟩ := r.amounts_covered hids
              rw [hs, ← bankAt_view hreductions, ← bankAt_view hreductions,
                r.written_bankAt hids hne]
              exact .liquidate _ hrepaid hdebt htaken
          | _ => cases hliquidate
      | false =>
          obtain ⟨hprovider, hterms⟩ :=
            execute_termsAt hactions hliquidate htransfer hreprices hex
          have hsame : w'.pool.bankAt view env.blockTimestamp
              = w.pool.bankAt view env.blockTimestamp := by
            cases hregisters : message.registers with
            | none =>
                have hkeep := execute_quiet hactions hregisters hliquidate htransfer hex
                exact hkeep.bankAt hprovider fun k => hterms k (.inl hregisters)
            | some asset =>
                have hvacant := h.grounded.vacant _ h.occupied.next.2
                exact (execute_registers hex hregisters).1.bankAt hids hvacant hprovider
                  fun k hk => hterms k (.inr hk)
          rw [hsame]
          exact .quiet _ hactions hliquidate

/-- The run lemma of the bank. -/
lemma run_banked {start : Bank} {messages before : List (Env × Message)} (h : w.Banked t)
    (hbank : Bank.Run start before (w.pool.bankAt view t))
    (hclock : Admissible (fun _ => True) t messages)
    (hmessages : ∀ m ∈ messages, Banking view m) (hrun : w.run messages = some w') :
    w'.Banked (lastTime t messages)
      ∧ Bank.Run start (before ++ messages) (w'.pool.bankAt view (lastTime t messages)) := by
  induction messages generalizing w t before with
  | nil =>
      simp only [run_nil, Option.some.injEq] at hrun
      rw [List.append_nil, ← hrun]
      exact ⟨h, hbank⟩
  | cons head rest ih =>
      obtain ⟨env, message⟩ := head
      obtain ⟨hle, -, hrest⟩ := hclock
      obtain ⟨w₁, hex, hrun⟩ := run_cons_eq_some.mp hrun
      have hm := hmessages (env, message) List.mem_cons_self
      have hserved := hbank.message (LendingPoolStorage.bankAt_grows h.feesBounded view hle)
        (execute_serves h hm hex)
      rw [← List.singleton_append, ← List.append_assoc]
      exact ih (h.execute hle hm.isTransfer hex) hserved hrest
        (fun m hmem => hmessages m (List.mem_cons_of_mem _ hmem)) hrun

/-- **The pool is a bank.**  In every run from a new pool in which nobody transfers a position
or liquidates itself, and in which the interest of the past is not changed, the balance views
show a bank: it started without customers, each message did to it what it asks for, and in
between, and afterwards, time only adds interest. -/
theorem run_serves {messages : List (Env × Message)} (hw : w.IsInitial)
    (hrun : w.run messages = some w') (hclock : Admissible (fun _ => True) 0 messages)
    (hmessages : ∀ m ∈ messages, Banking view m) :
    ∃ shown : ℕ → Bank, Bank.Run .empty messages (shown (lastTime 0 messages))
      ∧ (∀ t t', t ≤ t' → (shown t).Grows (shown t'))
      ∧ ∀ t account asset data, w'.pool.accruedDataOf view asset account t = .ok data →
        shown t account asset = data.holding := by
  have hempty : w.pool.bankAt view 0 = .empty := by
    rw [hw.1]
    rfl
  obtain ⟨hbanked, hbank⟩ := run_banked (.initial hw 0) .start hclock hmessages hrun
  rw [hempty, List.nil_append] at hbank
  refine ⟨w'.pool.bankAt view, hbank, fun t t' hle => ?_, fun t account asset data hdata => ?_⟩
  · exact LendingPoolStorage.bankAt_grows hbanked.feesBounded view hle
  · exact LendingPoolStorage.bankAt_of_ok hdata

/-- **What was not asked for did not happen.**  In such a run, between two views of an account:
without a withdrawal of an asset on its behalf, and without a liquidation that takes it, its
deposit does not get smaller; without a repayment its debt does not; and it gets no deposit and
no debt that nobody made. -/
theorem holdings_follow {before after : List (Env × Message)} {w₁ : World} {t' : ℕ}
    {account asset : AccountId} {data data' : AccountReserveData} (hw : w.IsInitial)
    (hbefore : w.run before = some w₁) (hafter : w₁.run after = some w')
    (hclock : Admissible (fun _ => True) 0 before) (ht : lastTime 0 before ≤ t)
    (hclock' : Admissible (fun _ => True) t after) (ht' : lastTime t after ≤ t')
    (hmessages : ∀ m ∈ before ++ after, Banking view m)
    (hdata : w₁.pool.accruedDataOf view asset account t = .ok data)
    (hdata' : w'.pool.accruedDataOf view asset account t' = .ok data') :
    Holding.Follows (fun op => ∃ m ∈ after, (account, op, asset) ∈ m.2.operations m.1.caller)
      data.holding data'.holding := by
  obtain ⟨hbanked, -⟩ := run_banked (.initial hw 0) Bank.Run.start hclock
    (fun m hm => hmessages m (List.mem_append_left _ hm)) hbefore
  obtain ⟨hbanked', hbank⟩ := run_banked (hbanked.later ht) .start hclock'
    (fun m hm => hmessages m (List.mem_append_right _ hm)) hafter
  have hgrows := LendingPoolStorage.bankAt_grows hbanked'.feesBounded view ht'
  rw [← LendingPoolStorage.bankAt_of_ok hdata, ← LendingPoolStorage.bankAt_of_ok hdata']
  exact (hbank.follows account asset).trans ((hgrows account asset).follows _)

/-- **Inside a block only its own messages move an account.**  In such a run, after a time, let
messages at this one time follow that do no operation on an asset of an account: deposits,
borrows, liquidations of others, pokes, payouts of the income, new models, and whatever else a
bank can serve.  What the account is shown in the asset is the same before and after them. -/
theorem block_keeps_others {before after : List (Env × Message)} {w₁ : World}
    {account asset : AccountId} {data data' : AccountReserveData} (hw : w.IsInitial)
    (hbefore : w.run before = some w₁) (hafter : w₁.run after = some w')
    (hclock : Admissible (fun _ => True) 0 before) (ht : lastTime 0 before ≤ t)
    (hblock : ∀ m ∈ after, m.1.blockTimestamp = t)
    (hmessages : ∀ m ∈ before ++ after, Banking view m)
    (hframe : ∀ m ∈ after, ∀ op, (account, op, asset) ∉ m.2.operations m.1.caller)
    (hdata : w₁.pool.accruedDataOf view asset account t = .ok data)
    (hdata' : w'.pool.accruedDataOf view asset account t = .ok data') :
    data'.holding = data.holding := by
  obtain ⟨hbanked, -⟩ := run_banked (.initial hw 0) Bank.Run.start hclock
    (fun m hm => hmessages m (List.mem_append_left _ hm)) hbefore
  have hkept : w'.Banked t
      ∧ w'.pool.bankAt view t account asset = w₁.pool.bankAt view t account asset := by
    refine run_invariant (P := fun w₂ => w₂.Banked t
      ∧ w₂.pool.bankAt view t account asset = w₁.pool.bankAt view t account asset)
      (fun env message w₂ w₃ hm hP hex => ?_) hafter ⟨hbanked.later ht, rfl⟩
    obtain ⟨hbanked₂, hsame⟩ := hP
    have htime : env.blockTimestamp = t := hblock (env, message) hm
    have hbanking := hmessages (env, message) (List.mem_append_right _ hm)
    subst htime
    refine ⟨hbanked₂.execute le_rfl hbanking.isTransfer hex, ?_⟩
    rw [(execute_serves hbanked₂ hbanking hex).frame (hframe (env, message) hm), hsame]
  rw [← LendingPoolStorage.bankAt_of_ok hdata, ← LendingPoolStorage.bankAt_of_ok hdata', hkept.2]

end

/-- The sample borrower repays a part of its debt. -/
def partRepayment : List (Env × Message) :=
  [Sample.send 3 (3 * 10 ^ 10) fun a => .repay (Sample.account 100) a 100]

/-- The messages of the sample borrower with the repayment. -/
def repaidInPart : List (Env × Message) := Sample.borrower ++ partRepayment

/-- The sample messages are those of a bank without fee reductions. -/
lemma repaidInPart_banking (caller : AccountId) :
    ∀ m ∈ repaidInPart, Banking (Sample.env caller 0) m := by
  intro m hm
  fin_cases hm <;> exact ⟨rfl, rfl, nofun, rfl⟩

attribute [local instance] Pendzl.exact in
/-- The sample borrower borrows `250` and repays `100`, and owes `156` later. -/
theorem run_serves_sample :
    ∃ shown : ℕ → Bank, Bank.Run .empty repaidInPart (shown (lastTime 0 repaidInPart))
      ∧ shown (6 * 10 ^ 10) (Sample.account 3) (Sample.account 100) = ⟨0, 156⟩ := by
  have hview : (Sample.world.run repaidInPart).bind (fun w =>
      ((w.pool.accruedDataOf (Sample.env (Sample.account 3) 0) (Sample.account 100)
        (Sample.account 3) (6 * 10 ^ 10)).toOption).map fun data => (data.deposit, data.debt))
      = some (0, 156) := by decide +kernel
  obtain ⟨w, hw, hdata⟩ := Option.bind_eq_some_iff.mp hview
  obtain ⟨data, hdata, hamounts⟩ := Option.map_eq_some_iff.mp hdata
  obtain ⟨shown, hrun, -, hshown⟩ := run_serves Sample.world_isInitial hw (by decide +kernel)
    (repaidInPart_banking (Sample.account 3))
  refine ⟨shown, hrun, ?_⟩
  rw [hshown _ _ _ _ (toOption_eq_some.mp hdata)]
  exact congrArg (fun p => (⟨p.1, p.2⟩ : Holding)) hamounts

attribute [local instance] Pendzl.exact in
/-- While the sample borrower repays, the deposit of the lender stays or grows. -/
theorem holdings_follow_sample :
    ∃ w₁ w' data data', Sample.world.run Sample.borrower = some w₁
      ∧ w₁.run partRepayment = some w'
      ∧ w₁.pool.accruedDataOf (Sample.env (Sample.account 2) 0) (Sample.account 100)
          (Sample.account 2) 1 = .ok data
      ∧ w'.pool.accruedDataOf (Sample.env (Sample.account 2) 0) (Sample.account 100)
          (Sample.account 2) (6 * 10 ^ 10) = .ok data'
      ∧ data.deposit = 1000 ∧ 1000 ≤ data'.deposit := by
  have hviews : (Sample.world.run Sample.borrower).bind (fun w₁ =>
      (w₁.run partRepayment).bind fun w' =>
        ((w₁.pool.accruedDataOf (Sample.env (Sample.account 2) 0) (Sample.account 100)
          (Sample.account 2) 1).toOption).bind fun data =>
        ((w'.pool.accruedDataOf (Sample.env (Sample.account 2) 0) (Sample.account 100)
          (Sample.account 2) (6 * 10 ^ 10)).toOption).map fun _ => data.deposit)
      = some 1000 := by decide +kernel
  obtain ⟨w₁, hbefore, hviews⟩ := Option.bind_eq_some_iff.mp hviews
  obtain ⟨w', hafter, hviews⟩ := Option.bind_eq_some_iff.mp hviews
  obtain ⟨data, hdata, hviews⟩ := Option.bind_eq_some_iff.mp hviews
  obtain ⟨data', hdata', hdeposit⟩ := Option.map_eq_some_iff.mp hviews
  rw [toOption_eq_some] at hdata hdata'
  have hfollows := holdings_follow Sample.world_isInitial hbefore hafter (by decide +kernel)
    (by decide +kernel) (by decide +kernel) (by decide +kernel)
    (repaidInPart_banking (Sample.account 2)) hdata hdata'
  refine ⟨w₁, w', data, data', hbefore, hafter, hdata, hdata', hdeposit, ?_⟩
  rw [← hdeposit]
  refine hfollows.withdraw fun hdone => ?_
  obtain ⟨m, hm, hop⟩ := hdone
  fin_cases hm
  revert hop
  decide

/-- In one block the sample borrower repays, the lender withdraws, and somebody pokes. -/
def repaymentBlock : List (Env × Message) := [
  Sample.send 3 (3 * 10 ^ 10) fun a => .repay (Sample.account 100) a 100,
  Sample.send 2 (3 * 10 ^ 10) fun a => .withdraw (Sample.account 100) a 300,
  Sample.send 5 (3 * 10 ^ 10) fun _ => .accumulateInterest (Sample.account 100)]

attribute [local instance] Pendzl.exact in
/-- The deposit of the sample borrower in the other asset is not moved by the block. -/
theorem block_keeps_others_sample :
    ∃ w₁ w' data data', Sample.world.run Sample.borrower = some w₁
      ∧ w₁.run repaymentBlock = some w'
      ∧ w₁.pool.accruedDataOf (Sample.env (Sample.account 3) 0) (Sample.account 101)
          (Sample.account 3) (3 * 10 ^ 10) = .ok data
      ∧ w'.pool.accruedDataOf (Sample.env (Sample.account 3) 0) (Sample.account 101)
          (Sample.account 3) (3 * 10 ^ 10) = .ok data'
      ∧ data.deposit = 1000 ∧ data'.holding = data.holding := by
  have hviews : (Sample.world.run Sample.borrower).bind (fun w₁ =>
      (w₁.run repaymentBlock).bind fun w' =>
        ((w₁.pool.accruedDataOf (Sample.env (Sample.account 3) 0) (Sample.account 101)
          (Sample.account 3) (3 * 10 ^ 10)).toOption).bind fun data =>
        ((w'.pool.accruedDataOf (Sample.env (Sample.account 3) 0) (Sample.account 101)
          (Sample.account 3) (3 * 10 ^ 10)).toOption).map fun _ => data.deposit)
      = some 1000 := by decide +kernel
  obtain ⟨w₁, hbefore, hviews⟩ := Option.bind_eq_some_iff.mp hviews
  obtain ⟨w', hafter, hviews⟩ := Option.bind_eq_some_iff.mp hviews
  obtain ⟨data, hdata, hviews⟩ := Option.bind_eq_some_iff.mp hviews
  obtain ⟨data', hdata', hdeposit⟩ := Option.map_eq_some_iff.mp hviews
  rw [toOption_eq_some] at hdata hdata'
  have hmessages : ∀ m ∈ Sample.borrower ++ repaymentBlock,
      Banking (Sample.env (Sample.account 3) 0) m := by
    intro m hm
    fin_cases hm <;> exact ⟨rfl, rfl, nofun, rfl⟩
  have hframe : ∀ m ∈ repaymentBlock, ∀ op,
      (Sample.account 3, op, Sample.account 101) ∉ m.2.operations m.1.caller := by
    intro m hm op
    fin_cases hm <;> cases op <;> decide
  have hblock : ∀ m ∈ repaymentBlock, m.1.blockTimestamp = 3 * 10 ^ 10 := by decide +kernel
  exact ⟨w₁, w', data, data', hbefore, hafter, hdata, hdata', hdeposit,
    block_keeps_others Sample.world_isInitial hbefore hafter (by decide +kernel)
      (by decide +kernel) hblock hmessages hframe hdata hdata'⟩

end World

end AbaxLending
