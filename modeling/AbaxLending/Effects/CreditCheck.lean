import AbaxLending.Effects.Credits
import AbaxLending.Spec.PowerSum

/-!
The collateral check after deposits and repayments.

`account_for_account_actions` makes no check for a list of deposits and repayments.  Such a
list raises the collateral power and lowers the debt power, but a deposit also makes an asset
count: the first deposit of an asset whose collateral bit was left set is weighed, and the check
fails where the market rule has no coefficient for it.

* `Credited`: the appraisal of an account before and after such a list;
* `Credited.part_deposit`, `Credited.part_debt_le`: what an asset adds, before and after;
* `BearsCredit`: what the check needs for the assets that the list deposits;
* `Credited.returns_iff`, `Credited.power_le`: when the check returns again, and that no power
  gets worse;
* `credits_keep_check_iff`: deposits and repayments keep a check that passes, exactly then.
-/

namespace AbaxLending

open Outcome

namespace LendingPoolStorage

section

variable [Pendzl]

/-- The appraisals `c` and `c'` of an account before and after a list of deposits and
repayments, in storages `s` and `s'`, with the collateral bits `marks`. -/
structure Credited (s s' : LendingPoolStorage) (c c' : Appraisal) (marks : Bitmap128)
    (ids : AssetIds) (actions : List Action) : Prop where
  pricing : SamePricing s s'
  rule : c'.rule = c.rule
  reductions : c'.reductions = c.reductions
  prices : c'.prices = c.prices
  registered : ∀ k, ids.Touches actions k → k < s.assetCount
  marked : ∀ k, c.collaterals.getLsbD k = true → marks.getLsbD k = true
  collaterals : ∀ k, c'.collaterals.getLsbD k
    = (c.collaterals.getLsbD k || (decide (ids.Deposits actions k) && marks.getLsbD k))
  debts : ∀ k, c'.debts.getLsbD k = true → c.debts.getLsbD k = true
  length : c'.datas.length = c.datas.length
  other : ∀ k, ¬ids.Touches actions k → c'.debts.getLsbD k = c.debts.getLsbD k
    ∧ c'.datas[k]?.join = c.datas[k]?.join
    ∧ s'.reserveIndexesAndFees.get k = s.reserveIndexesAndFees.get k
  touched : ∀ k, ids.Touches actions k → ∃ data r, c'.datas[k]?.join = some data
    ∧ s'.reserveIndexesAndFees.get k = some r
    ∧ r.indexes.depositIndexE18 ≤ data.appliedDepositIndexE18
    ∧ r.indexes.debtIndexE18 ≤ data.appliedDebtIndexE18
    ∧ data.deposit = (s.accruedEntry c k).deposit + ids.deposited actions k
    ∧ data.debt ≤ (s.accruedEntry c k).debt
  noEntry : ∀ k, ids.Touches actions k → c.datas[k]?.join = none →
    ids.Deposits actions k ∧ c'.debts.getLsbD k = c.debts.getLsbD k

/-- The collateral power of an asset with the deposits of the list. -/
def creditedPart (s : LendingPoolStorage) (c : Appraisal) (marks : Bitmap128) (ids : AssetIds)
    (actions : List Action) (k : ℕ) : ℕ :=
  if c.collaterals.getLsbD k || (decide (ids.Deposits actions k) && marks.getLsbD k) then
    s.weigh c .deposit k ((s.accruedEntry c k).deposit + ids.deposited actions k)
  else 0

/-- What the check needs for the deposits of a list: each deposited asset with a collateral bit
can be weighed with its new deposit, each without an entry but with a borrow bit can be weighed
as a debt of zero, the collateral power fits with the deposits, and the last bit is not set
where more than 128 assets are registered. -/
structure BearsCredit (s : LendingPoolStorage) (c : Appraisal) (marks : Bitmap128)
    (ids : AssetIds) (actions : List Action) : Prop where
  collateral : ∀ k, ids.Deposits actions k → marks.getLsbD k = true →
    s.CanWeigh c .deposit k ((s.accruedEntry c k).deposit + ids.deposited actions k)
  debt : ∀ k, ids.Deposits actions k → c.datas[k]?.join = none → c.debts.getLsbD k = true →
    s.CanWeigh c .debt k 0
  fits : ∑ k ∈ Finset.range s.assetCount, s.creditedPart c marks ids actions k < 2 ^ 128
  inWord : s.assetCount ≤ 128 ∨ ¬(ids.Deposits actions 127 ∧ marks.getLsbD 127 = true)

omit [Pendzl] in
/-- A smaller amount can be weighed as well. -/
lemma CanWeigh.anti {s : LendingPoolStorage} {c : Appraisal} {side : Side} {k n m : ℕ}
    (h : s.CanWeigh c side k n) (hle : m ≤ n) : s.CanWeigh c side k m :=
  ⟨h.price, h.multiplier, h.coefficient, h.weighable.anti hle⟩

namespace Credited

variable {s s' : LendingPoolStorage} {c c' : Appraisal} {marks : Bitmap128} {ids : AssetIds}
  {actions : List Action} {k : ℕ} (h : Credited s s' c c' marks ids actions)

include h

lemma assetCount : s'.assetCount = s.assetCount := by
  rw [LendingPoolStorage.assetCount, LendingPoolStorage.assetCount, h.pricing.nextAssetId]

lemma coefficient (side : Side) : c'.coefficient side k = c.coefficient side k := by
  rw [Appraisal.coefficient, Appraisal.coefficient, h.rule]

lemma weigh (side : Side) (n : ℕ) : s'.weigh c' side k n = s.weigh c side k n := by
  rw [LendingPoolStorage.weigh, LendingPoolStorage.weigh, h.coefficient, h.prices,
    h.pricing.reserveDecimalMultiplier]

lemma canWeigh_iff (side : Side) (n : ℕ) : s'.CanWeigh c' side k n ↔ s.CanWeigh c side k n := by
  have hmultiplier := h.pricing.reserveDecimalMultiplier
  constructor
  · rintro ⟨hprice, hmult, hcoefficient, hweighable⟩
    rw [h.coefficient] at hcoefficient hweighable
    rw [hmultiplier] at hmult hweighable
    rw [h.prices] at hprice hweighable
    exact ⟨hprice, hmult, hcoefficient, hweighable⟩
  · rintro ⟨hprice, hmult, hcoefficient, hweighable⟩
    rw [← h.coefficient] at hcoefficient hweighable
    rw [← hmultiplier] at hmult hweighable
    rw [← h.prices] at hprice hweighable
    exact ⟨hprice, hmult, hcoefficient, hweighable⟩

/-- A touched entry is accrued as it is. -/
lemma accrues (hk : ids.Touches actions k) : ∃ data r a, c'.datas[k]?.join = some data
    ∧ s'.reserveIndexesAndFees.get k = some r
    ∧ data.accumulateAccountInterest r.indexes r.fees c'.reductions = .ok a
    ∧ s'.accruedEntry c' k = data := by
  obtain ⟨data, r, hdata, hr, hd, hb, -, -⟩ := h.touched k hk
  have ha := AccountReserveData.accumulateAccountInterest_of_le hd hb r.fees c'.reductions
  exact ⟨data, r, _, hdata, hr, ha, accruedEntry_of_ok hdata hr ha⟩

lemma accruedEntry_other (hk : ¬ids.Touches actions k) :
    s'.accruedEntry c' k = s.accruedEntry c k := by
  obtain ⟨-, hdata, hr⟩ := h.other k hk
  rw [accruedEntry, accruedEntry, hdata, hr, h.reductions]

/-- The accrued deposit grows by the deposits of the list. -/
lemma accrued_deposit : (s'.accruedEntry c' k).deposit
    = (s.accruedEntry c k).deposit + ids.deposited actions k := by
  by_cases hk : ids.Touches actions k
  · obtain ⟨data, r, hdata, -, -, -, hdeposit, -⟩ := h.touched k hk
    obtain ⟨data', r', a, hdata', -, -, haccrued⟩ := h.accrues hk
    rw [hdata, Option.some.injEq] at hdata'
    rw [haccrued, ← hdata', hdeposit]
  · rw [h.accruedEntry_other hk, AssetIds.deposited_eq_zero fun hd => hk hd.touches, Nat.add_zero]

/-- The accrued debt does not grow. -/
lemma accrued_debt_le : (s'.accruedEntry c' k).debt ≤ (s.accruedEntry c k).debt := by
  by_cases hk : ids.Touches actions k
  · obtain ⟨data, r, hdata, -, -, -, -, hdebt⟩ := h.touched k hk
    obtain ⟨data', r', a, hdata', -, -, haccrued⟩ := h.accrues hk
    rw [hdata, Option.some.injEq] at hdata'
    rw [haccrued, ← hdata']
    exact hdebt
  · rw [h.accruedEntry_other hk]

/-! ### The powers -/

lemma part_deposit : s'.part c' .deposit k = s.creditedPart c marks ids actions k := by
  rw [part, creditedPart, h.weigh]
  show (if c'.collaterals.getLsbD k = true then
    s.weigh c .deposit k (s'.accruedEntry c' k).deposit else 0) = _
  rw [h.collaterals, h.accrued_deposit]

/-- No asset adds less collateral power. -/
lemma part_deposit_le : s.part c .deposit k ≤ s'.part c' .deposit k := by
  rw [h.part_deposit, creditedPart, part]
  by_cases hbit : c.collaterals.getLsbD k = true
  · have hle : s.weigh c .deposit k (s.accruedEntry c k).deposit
        ≤ s.weigh c .deposit k ((s.accruedEntry c k).deposit + ids.deposited actions k) :=
      weighedE6_mono (Nat.le_add_right _ _) _ _ _
    simpa [Appraisal.bits, hbit, Side.amount] using hle
  · simp [Appraisal.bits, hbit]

/-- No asset adds more debt power. -/
lemma part_debt_le : s'.part c' .debt k ≤ s.part c .debt k := by
  rw [part, part, h.weigh]
  by_cases hbit : c'.debts.getLsbD k = true
  · have hle : s.weigh c .debt k (s'.accruedEntry c' k).debt
        ≤ s.weigh c .debt k (s.accruedEntry c k).debt :=
      weighedE6_mono h.accrued_debt_le _ _ _
    simpa [Appraisal.bits, hbit, h.debts k hbit, Side.amount] using hle
  · simp [Appraisal.bits, hbit]

/-- **No power gets worse.** -/
lemma power_le : s.power c .deposit ≤ s'.power c' .deposit
    ∧ s'.power c' .debt ≤ s.power c .debt := by
  rw [power, power, power, power, h.assetCount]
  exact ⟨Finset.sum_le_sum fun k _ => h.part_deposit_le,
    Finset.sum_le_sum fun k _ => h.part_debt_le⟩

/-! ### When the check returns -/

lemma bit_debt (hbit : (c'.bits .debt).getLsbD k = true) : (c.bits .debt).getLsbD k = true :=
  h.debts k hbit

/-- The last id is in the word as before, unless the list makes it a collateral. -/
lemma inWord_iff (hword : c.InWord s.assetCount 0) : c'.InWord s'.assetCount 0
    ↔ s.assetCount ≤ 128 ∨ ¬(ids.Deposits actions 127 ∧ marks.getLsbD 127 = true) := by
  rw [h.assetCount]
  have hactive : c'.active.getLsbD 127
      = (c'.collaterals.getLsbD 127 || c'.debts.getLsbD 127) := BitVec.getLsbD_or
  simp only [Appraisal.InWord] at hword ⊢
  constructor
  · rintro (hzero | hle | ⟨-, hlast⟩)
    · exact .inl (by omega)
    · exact .inl (by omega)
    · refine .inr fun hset => ?_
      rw [hactive, h.collaterals, decide_eq_true hset.1, hset.2] at hlast
      simp at hlast
  · rintro (hle | hclear)
    · exact .inr (.inl (by omega))
    · rcases hword with hzero | hle | ⟨-, hlast⟩
      · exact .inl hzero
      · exact .inr (.inl hle)
      · refine .inr (.inr ⟨by norm_num, ?_⟩)
        have hbits : c.active.getLsbD 127
            = (c.collaterals.getLsbD 127 || c.debts.getLsbD 127) := BitVec.getLsbD_or
        rw [hbits, Bool.or_eq_false_iff] at hlast
        have hdebt : c'.debts.getLsbD 127 = false := by
          refine Bool.eq_false_iff.mpr fun hbit => ?_
          rw [h.debts 127 hbit] at hlast
          cases hlast.2
        rw [hactive, h.collaterals, hlast.1, hdebt, Bool.or_false, Bool.false_or,
          Bool.and_eq_false_iff]
        by_cases hd : ids.Deposits actions 127
        · exact .inr (Bool.eq_false_iff.mpr fun hm => hclear ⟨hd, hm⟩)
        · exact .inl (decide_eq_false hd)

/-- A touched entry is appraised where the list can be borne. -/
lemma appraises_touched (happraises : s.Appraises c k) (hbears : s.BearsCredit c marks ids actions)
    (hk : ids.Touches actions k) : s'.Appraises c' k := by
  intro _
  obtain ⟨data, r, a, hdata, hr, ha, haccrued⟩ := h.accrues hk
  refine ⟨?_, fun data' hdata' => ⟨?_, fun side hbit => ?_⟩⟩
  · by_contra hlen
    rw [List.getElem?_eq_none (not_lt.mp hlen)] at hdata
    cases hdata
  · rw [hdata, Option.some.injEq] at hdata'
    exact hdata' ▸ ⟨r, a, hr, ha⟩
  rw [h.canWeigh_iff]
  cases side with
  | deposit =>
      show s.CanWeigh c .deposit k (s'.accruedEntry c' k).deposit
      rw [h.accrued_deposit]
      by_cases hnew : ids.Deposits actions k ∧ marks.getLsbD k = true
      · exact hbears.collateral k hnew.1 hnew.2
      · -- the asset was a collateral before, so the list does not deposit it
        have hold : c.collaterals.getLsbD k = true := by
          have hor : c'.collaterals.getLsbD k = true := hbit
          rw [h.collaterals, Bool.or_eq_true, Bool.and_eq_true, decide_eq_true_eq] at hor
          exact hor.resolve_right hnew
        have hnone : ¬ids.Deposits actions k := fun hd => hnew ⟨hd, h.marked k hold⟩
        rw [AssetIds.deposited_eq_zero hnone, Nat.add_zero]
        cases hentry : c.datas[k]?.join with
        | none => exact absurd (h.noEntry k hk hentry).1 hnone
        | some old =>
            have hactive := Appraisal.active_bit.mpr ⟨.deposit, hold⟩
            exact ((happraises hactive).2 old hentry).weighs .deposit hold
  | debt =>
      have hold : (c.bits .debt).getLsbD k = true := h.bit_debt hbit
      have hle : (s'.accruedEntry c' k).debt ≤ (s.accruedEntry c k).debt := h.accrued_debt_le
      cases hentry : c.datas[k]?.join with
      | none =>
          refine (hbears.debt k (h.noEntry k hk hentry).1 hentry hold).anti ?_
          rw [accruedEntry_of_none hentry] at hle
          exact hle
      | some old =>
          have hactive := Appraisal.active_bit.mpr ⟨.debt, hold⟩
          exact (((happraises hactive).2 old hentry).weighs .debt hold).anti hle

/-- Another entry is appraised as before. -/
lemma appraises_other (happraises : s.Appraises c k) (hk : ¬ids.Touches actions k) :
    s'.Appraises c' k := by
  intro hactive'
  obtain ⟨hdebts, hdata, hr⟩ := h.other k hk
  have hcollaterals : c'.collaterals.getLsbD k = c.collaterals.getLsbD k := by
    rw [h.collaterals, decide_eq_false fun hd => hk hd.touches, Bool.false_and, Bool.or_false]
  have hbits : ∀ side, (c'.bits side).getLsbD k = (c.bits side).getLsbD k := by
    intro side
    cases side with
    | deposit => exact hcollaterals
    | debt => exact hdebts
  obtain ⟨side, hside⟩ := Appraisal.active_bit.mp hactive'
  have hactive := Appraisal.active_bit.mpr ⟨side, hbits side ▸ hside⟩
  obtain ⟨hlen, happraisable⟩ := happraises hactive
  refine ⟨h.length ▸ hlen, fun data hentry => ?_⟩
  rw [hdata] at hentry
  obtain ⟨haccrues, hweighs⟩ := happraisable data hentry
  refine ⟨?_, fun side hbit => ?_⟩
  · rw [hr, h.reductions]
    exact haccrues
  · rw [h.canWeigh_iff, h.accruedEntry_other hk]
    exact hweighs side (hbits side ▸ hbit)

/-- **When the check returns again**: exactly when the deposits can be borne. -/
theorem returns_iff (hreturns : s.Returns c) :
    s'.Returns c' ↔ s.BearsCredit c marks ids actions := by
  have hpower : s'.power c' .deposit
      = ∑ k ∈ Finset.range s.assetCount, s.creditedPart c marks ids actions k := by
    rw [power, h.assetCount]
    exact Finset.sum_congr rfl fun k _ => h.part_deposit
  constructor
  · intro hafter
    have hentry : ∀ k, ids.Deposits actions k → ∃ data, c'.datas[k]?.join = some data := by
      intro k hd
      obtain ⟨data, _, hdata, -⟩ := h.touched k hd.touches
      exact ⟨data, hdata⟩
    have hweighs : ∀ k side, ids.Deposits actions k → (c'.bits side).getLsbD k = true →
        s.CanWeigh c side k (side.amount (s'.accruedEntry c' k)) := by
      intro k side hd hbit
      obtain ⟨data, hdata⟩ := hentry k hd
      have hlt : k < s'.assetCount := h.assetCount.symm ▸ h.registered k hd.touches
      have happraises := hafter.appraises k hlt (Appraisal.active_bit.mpr ⟨side, hbit⟩)
      exact (h.canWeigh_iff side _).mp ((happraises.2 data hdata).weighs side hbit)
    refine ⟨fun k hd hm => ?_, fun k hd hnone hdebt => ?_, ?_, ?_⟩
    · have hbit : (c'.bits .deposit).getLsbD k = true := by
        show c'.collaterals.getLsbD k = true
        rw [h.collaterals, decide_eq_true hd, hm, Bool.and_true, Bool.or_true]
      rw [← h.accrued_deposit]
      exact hweighs k .deposit hd hbit
    · have hbit : (c'.bits .debt).getLsbD k = true :=
        (h.noEntry k hd.touches hnone).2.trans hdebt
      exact (hweighs k .debt hd hbit).anti (Nat.zero_le _)
    · rw [← hpower]
      exact hafter.fits .deposit
    · exact (h.inWord_iff hreturns.inWord).mp hafter.inWord
  · intro hbears
    refine ⟨(h.inWord_iff hreturns.inWord).mpr hbears.inWord, fun k hk => ?_, fun side => ?_⟩
    · have happraises := hreturns.appraises k (h.assetCount ▸ hk)
      by_cases htouch : ids.Touches actions k
      · exact h.appraises_touched happraises hbears htouch
      · exact h.appraises_other happraises htouch
    · cases side with
      | deposit => exact hpower ▸ hbears.fits
      | debt => exact h.power_le.2.trans_lt (hreturns.fits .debt)

end Credited

/-! ### The actions of the account -/

/-- The appraisal that the check of an account makes under a rule, with given prices. -/
def appraisalOf (s : LendingPoolStorage) (env : Env) (account : AccountId) (rule : MarketRule)
    (prices : List ℕ) : Appraisal :=
  appraisal rule (s.getAccountDatas account) (s.getAccountConfig account)
    (s.getFeeReductionsOfAccount env account) prices

variable {s s₁ : LendingPoolStorage} {env : Env} {account x : AccountId} {k t : ℕ}
  {actions : List Action} {res : AccountActionsResult}

omit [Pendzl] in
/-- Pokes keep what an account is appraised with. -/
lemma Poked.appraisalOf_eq (h : s.Poked s₁) (rule : MarketRule) (prices : List ℕ) :
    s₁.appraisalOf env account rule prices = s.appraisalOf env account rule prices := by
  rw [appraisalOf, appraisalOf, getAccountDatas_congr h.accountReserveDatas h.pricing.nextAssetId,
    getAccountConfig_congr h.accountConfigs, getFeeReductionsOfAccount, getFeeReductionsOfAccount,
    h.feeReductionProvider]

omit [Pendzl] in
/-- After the loop the account is appraised with the copies. -/
lemma flush_appraisalOf {st : AccountActionsState} (hkeeps : (s.startActions account).Keeps st)
    (rule : MarketRule) (prices : List ℕ) :
    (st.flush account).appraisalOf env account rule prices
      = appraisal rule st.accountDatas st.accountConfig (s.getFeeReductionsOfAccount env account)
        prices := by
  have hconfig : (st.flush account).getAccountConfig account = st.accountConfig :=
    getAccountConfig_putAccount_self
  have hreductions : (st.flush account).getFeeReductionsOfAccount env account
      = s.getFeeReductionsOfAccount env account := hkeeps.reductions
  rw [appraisalOf, hconfig, hreductions, AccountActionsState.flush_getAccountDatas
    (hkeeps.fits assetCount_le_length_getAccountDatas)]

/-- In a poked asset the check accrues what the ledger of the account shows. -/
lemma accruedEntry_ledgerOf {c : Appraisal} {rd : ReserveData} {r : ReserveIndexesAndFees}
    {indexes : ReserveIndexes} (hk : s.assetToId.get x = some k)
    (hrd : s.reserveDatas.get k = some rd) (hr : s.reserveIndexesAndFees.get k = some r)
    (hindexes : r.indexes.update rd t = .ok indexes)
    (hpoked : s₁.reserveIndexesAndFees.get k = some { r with indexes })
    (hdata : c.datas[k]?.join = s.entry account k)
    (hreductions : c.reductions = s.getFeeReductionsOfAccount env account) :
    (s₁.accruedEntry c k).holding = s.ledgerOf env account t x := by
  have hview : s.accruedDataOf env x account t
      = ((s.position account k).accumulateAccountInterest indexes r.fees
        (s.getFeeReductionsOfAccount env account)).map Accrual.data := by
    simp only [accruedDataOf, assetId, getReserveData, getReserveIndexesAndFees, hk, hrd, hr,
      hindexes, getAccountReserveData_eq, okOr, unwrap, ok_bind, pure_eq]
    cases (s.position account k).accumulateAccountInterest indexes r.fees
      (s.getFeeReductionsOfAccount env account) <;> rfl
  rw [ledgerOf, hview, accruedEntry, hdata, hpoked, hreductions, position]
  cases hentry : s.entry account k with
  | none =>
      have hempty : (default : AccountReserveData).deposit = 0 := rfl
      obtain ⟨a, ha, hdeposit, hdebt⟩ := AccountReserveData.accumulateAccountInterest_of_zero
        hempty rfl indexes r.fees (s.getFeeReductionsOfAccount env account)
      rw [Option.getD_none, ha, map_ok]
      exact Holding.ext hdeposit.symm hdebt.symm
  | some data =>
      rw [Option.getD_some, Option.bind_some, Option.bind_some]
      cases data.accumulateAccountInterest indexes r.fees
        (s.getFeeReductionsOfAccount env account) <;> rfl

/-- A settled entry is what the ledger of the account shows. -/
lemma settled_ledgerOf {st : AccountActionsState} {rd : ReserveData} {r : ReserveIndexesAndFees}
    {data : AccountReserveData} (hk : st.storage.assetToId.get x = some k)
    (hrd : st.storage.reserveDatas.get k = some rd)
    (hr : st.storage.reserveIndexesAndFees.get k = some r) (htime : r.indexes.updateTimestamp = t)
    (hdata : st.accountDatas[k]?.join = some data)
    (hd : r.indexes.depositIndexE18 ≤ data.appliedDepositIndexE18)
    (hb : r.indexes.debtIndexE18 ≤ data.appliedDebtIndexE18) :
    (st.flush account).ledgerOf env account t x = data.holding := by
  have hposition : (st.flush account).position account k = data := by
    rw [AccountActionsState.flush_position_self, AccountActionsState.position, hdata,
      Option.getD_some]
  refine ledgerOf_of_ok (accruedDataOf_eq_ok.mpr ⟨k, rd, r, r.indexes, ⟨data, r.fees, 0, 0⟩,
    hk, hrd, hr, ReserveIndexes.update_self htime rd, ?_, rfl⟩)
  rw [hposition]
  exact AccountReserveData.accumulateAccountInterest_of_le hd hb _ _

/-- The shared parts, and the provider of the fee reductions, stay in the loop. -/
lemma applyActions_samePricing {st st' : AccountActionsState} {feeReductions : FeeReductions}
    {actions' : List Action} {results : List (ℕ × ℕ)}
    (h : st.applyActions feeReductions t actions = .ok (st', actions', results)) :
    SamePricing st.storage st'.storage := by
  refine AccountActionsState.applyActions_induct
    (P := fun st' => SamePricing st.storage st'.storage)
    (fun st₁ action st₂ _ _ hst hact => ?_) h .refl
  obtain ⟨k, ctx, step, rd, i, e, -, -, -, -, -, -, -, rfl⟩ :=
    AccountActionsState.applyAction_ok hact
  exact hst.trans ⟨rfl, rfl, rfl, rfl, rfl⟩

/-- **A touched asset after the list**: the entry is settled in the reserve, and holds the accrued
entry with what the list deposits, and no more debt. -/
lemma applyActions_touched {st : AccountActionsState} {actions' : List Action}
    {results : List (ℕ × ℕ)} (hids : s.IdsUnique) (hcredits : ∀ action ∈ actions, action.IsCredit)
    (hpokes : s.pokes (actions.map Action.asset) t = .ok s₁)
    (hst : (s.startActions account).applyActions (s.getFeeReductionsOfAccount env account) t actions
      = .ok (st, actions', results))
    (rule : MarketRule) (prices : List ℕ) (hk : AssetIds.Touches s.assetToId actions k) :
    ∃ data r, st.accountDatas[k]?.join = some data
      ∧ st.storage.reserveIndexesAndFees.get k = some r
      ∧ r.indexes.depositIndexE18 ≤ data.appliedDepositIndexE18
      ∧ r.indexes.debtIndexE18 ≤ data.appliedDebtIndexE18
      ∧ data.deposit = (s₁.accruedEntry (s.appraisalOf env account rule prices) k).deposit
        + AssetIds.deposited s.assetToId actions k
      ∧ data.debt ≤ (s₁.accruedEntry (s.appraisalOf env account rule prices) k).debt := by
  have hrun := AccountActionsState.applyActions_credits hcredits hst
  obtain ⟨rd', r', data, hrd', hr', htime, hdata, hd, hb⟩ := hrun.settled k hk
  obtain ⟨action, haction, hget⟩ := hk
  obtain ⟨rd, r, indexes, hrd, hr, hindexes, hpoked⟩ :=
    ((pokes_reserves hpokes).2 k).1 ⟨action.asset, List.mem_map_of_mem haction, hget⟩
  have hkeeps : s.KeepsRegistry st.storage := .of_positions (applyActions_writes hst)
  have hget' : st.storage.assetToId.get action.asset = some k := hkeeps.assetToId ▸ hget
  -- before the list the check accrues what the ledger shows
  have hbefore : (s₁.accruedEntry (s.appraisalOf env account rule prices) k).holding
      = s.ledgerOf env account t action.asset :=
    accruedEntry_ledgerOf hget hrd hr hindexes hpoked (getAccountDatas_join s account k) rfl
  -- after it the ledger shows the entry
  have hafter : (st.flush account).ledgerOf env account t action.asset = data.holding :=
    settled_ledgerOf hget' hrd' hr' htime hdata hd hb
  have hledger : (st.flush account).ledgerOf env account t
      = ((s.ledgerOf env account t).settle actions).1 := by
    rw [← startActions_ledgerOf s env account t]
    exact congrArg Prod.fst (applyActions_ledger hids rfl hst)
  have hsame : ∀ a ∈ actions, s.assetToId.get a.asset = some k ↔ a.asset = action.asset :=
    fun a _ => ⟨fun h => hids.inj _ _ k h hget, fun h => h ▸ hget⟩
  obtain ⟨hdeposit, hdebt⟩ := Ledger.settle_credits hcredits hsame (s.ledgerOf env account t)
  rw [← hledger, hafter, ← hbefore] at hdeposit hdebt
  exact ⟨data, r', hdata, hr', hd, hb, hdeposit, hdebt⟩

/-- **A list of deposits and repayments credits its account.** -/
theorem accountForAccountActions_credited (hids : s.IdsUnique)
    (hcredits : ∀ action ∈ actions, action.IsCredit)
    (hpokes : s.pokes (actions.map Action.asset) env.blockTimestamp = .ok s₁)
    (hres : s.accountForAccountActions env account actions = .ok res) (rule : MarketRule)
    (prices : List ℕ) :
    Credited s₁ res.storage (s₁.appraisalOf env account rule prices)
      (res.storage.appraisalOf env account rule prices) (s₁.getAccountConfig account).collaterals
      s₁.assetToId actions := by
  obtain ⟨hpoked, hreserves⟩ := pokes_reserves hpokes
  obtain ⟨st, hst, -, hs⟩ := accountForAccountActions_ok hres
  have hrun : AccountActionsState.Credits s.assetToId actions env.blockTimestamp
      (s.startActions account) st := AccountActionsState.applyActions_credits hcredits hst
  have hkeeps := AccountActionsState.applyActions_keeps hst
  have hconfig : s₁.getAccountConfig account = s.getAccountConfig account := by
    rw [getAccountConfig_congr hpoked.accountConfigs]
  have hcount : s₁.assetCount = s.assetCount := by
    rw [assetCount, assetCount, hpoked.pricing.nextAssetId]
  rw [hs, hpoked.appraisalOf_eq, hconfig, flush_appraisalOf hkeeps, hpoked.assetToId]
  constructor
  case pricing =>
    have hloop : SamePricing s st.storage := applyActions_samePricing hst
    exact hpoked.pricing.symm.trans (hloop.trans (.putAccount ..))
  case rule => rfl
  case reductions => rfl
  case prices => rfl
  case registered =>
    rintro k ⟨action, -, hk⟩
    rw [hcount]
    exact hids.below _ _ hk
  case marked =>
    intro k hk
    have hand := BitVec.getLsbD_and.symm.trans hk
    exact (Bool.and_eq_true_iff.mp hand).2
  case collaterals =>
    intro k
    show (st.accountConfig.deposits &&& st.accountConfig.collaterals).getLsbD k
      = (((s.getAccountConfig account).deposits
        &&& (s.getAccountConfig account).collaterals).getLsbD k || _)
    have hdeposits : st.accountConfig.deposits.getLsbD k = _ := hrun.deposits k
    have hcollaterals : st.accountConfig.collaterals.getLsbD k
      = (s.getAccountConfig account).collaterals.getLsbD k := hrun.collaterals k
    rw [BitVec.getLsbD_and, BitVec.getLsbD_and, hdeposits, hcollaterals, Bool.and_or_distrib_right]
    rfl
  case debts => exact hrun.borrows
  case length => exact hkeeps.length
  case other =>
    intro k hk
    have hsame := hrun.same k hk
    have hnone : ∀ asset ∈ actions.map Action.asset, s.assetToId.get asset ≠ some k := by
      intro asset hmem hget
      obtain ⟨action, haction, rfl⟩ := List.mem_map.mp hmem
      exact hk ⟨action, haction, hget⟩
    refine ⟨hsame.borrows, hsame.entry, ?_⟩
    rw [(hreserves k).2 hnone]
    exact hsame.reserve
  case touched => exact fun k hk => applyActions_touched hids hcredits hpokes hst rule prices hk
  case noEntry =>
    intro k hk hnone
    have hentry : (s.getAccountDatas account)[k]?.join = none := hnone
    have hdebt : ((s.startActions account).position k).debt = 0 := by
      rw [startActions_position, position, ← getAccountDatas_join, hentry]
      rfl
    obtain ⟨hdeposits, -, hbit⟩ := hrun.noDebt k hdebt
    exact ⟨hdeposits hk, hbit⟩

/-- The deposits of a list can be borne by an account, under its market rule and the prices. -/
def BearsCreditOf (s : LendingPoolStorage) (env : Env) (account : AccountId)
    (actions : List Action) : Prop :=
  ∀ rule prices, s.getMarketRule (s.getAccountConfig account) = .ok rule →
    s.getAssetsPricesE18 env = .ok prices →
    s.BearsCredit (s.appraisalOf env account rule prices) (s.getAccountConfig account).collaterals
      s.assetToId actions

/-- The check of an account passes with a difference. -/
lemma calculateLendingPowerOfAnAccountE6_eq_ok_true {p : ℕ} :
    s.calculateLendingPowerOfAnAccountE6 env account = .ok (true, p)
      ↔ ∃ prices rule, s.getAssetsPricesE18 env = .ok prices
        ∧ s.getMarketRule (s.getAccountConfig account) = .ok rule
        ∧ s.Returns (s.appraisalOf env account rule prices)
        ∧ s.power (s.appraisalOf env account rule prices) .debt
          ≤ s.power (s.appraisalOf env account rule prices) .deposit
        ∧ p = s.power (s.appraisalOf env account rule prices) .deposit
          - s.power (s.appraisalOf env account rule prices) .debt := by
  simp only [calculateLendingPowerOfAnAccountE6, bind_eq_ok, calculateLendingPowerE6_eq_ok]
  refine exists_congr fun prices => ?_
  constructor
  · rintro ⟨hprices, rule, hrule, hreturns, hcovered, hp⟩
    exact ⟨rule, hprices, hrule, hreturns, of_decide_eq_true hcovered.symm, hp⟩
  · rintro ⟨rule, hprices, hrule, hreturns, hle, hp⟩
    exact ⟨hprices, rule, hrule, hreturns, (decide_eq_true hle).symm, hp⟩

/-- **Deposits and repayments keep a check that passes**, and do not lower its difference,
exactly when the deposits can be borne. -/
theorem accountForAccountActions_keeps_check_iff {p : ℕ} (hids : s.IdsUnique)
    (hcredits : ∀ action ∈ actions, action.IsCredit)
    (hpokes : s.pokes (actions.map Action.asset) env.blockTimestamp = .ok s₁)
    (hcheck : s₁.calculateLendingPowerOfAnAccountE6 env account = .ok (true, p))
    (hres : s.accountForAccountActions env account actions = .ok res) :
    (∃ p', p ≤ p' ∧ res.storage.calculateLendingPowerOfAnAccountE6 env account = .ok (true, p'))
      ↔ s₁.BearsCreditOf env account actions := by
  obtain ⟨prices, rule, hprices, hrule, hreturns, hle, rfl⟩ :=
    calculateLendingPowerOfAnAccountE6_eq_ok_true.mp hcheck
  have hcredited : Credited s₁ res.storage (s₁.appraisalOf env account rule prices)
      (res.storage.appraisalOf env account rule prices) (s₁.getAccountConfig account).collaterals
      s₁.assetToId actions :=
    accountForAccountActions_credited hids hcredits hpokes hres rule prices
  have hprices' : res.storage.getAssetsPricesE18 env = .ok prices :=
    (getAssetsPricesE18_congr hcredited.pricing rfl).trans hprices
  have hrule' : res.storage.getMarketRule (res.storage.getAccountConfig account) = .ok rule := by
    obtain ⟨hpoked, -⟩ := pokes_reserves hpokes
    rw [getMarketRule, hcredited.pricing.marketRules,
      (accountForAccountActions_keepsListing hres).marketRuleId,
      ← getAccountConfig_congr hpoked.accountConfigs]
    exact hrule
  obtain ⟨hdeposit, hdebt⟩ := hcredited.power_le
  constructor
  · rintro ⟨p', -, hafter⟩ rule₁ prices₁ hrule₁ hprices₁
    cases Except.ok.inj (hrule.symm.trans hrule₁)
    cases Except.ok.inj (hprices.symm.trans hprices₁)
    obtain ⟨prices₂, rule₂, hprices₂, hrule₂, hreturns', -, -⟩ :=
      calculateLendingPowerOfAnAccountE6_eq_ok_true.mp hafter
    cases Except.ok.inj (hrule'.symm.trans hrule₂)
    cases Except.ok.inj (hprices'.symm.trans hprices₂)
    exact (hcredited.returns_iff hreturns).mp hreturns'
  · intro hbears
    have hreturns' := (hcredited.returns_iff hreturns).mpr (hbears rule prices hrule hprices)
    refine ⟨_, ?_, calculateLendingPowerOfAnAccountE6_eq_ok_true.mpr
      ⟨prices, rule, hprices', hrule', hreturns', by omega, rfl⟩⟩
    omega

end

end LendingPoolStorage

namespace World

/-- **When deposits and repayments do not hurt.**  In every reachable world, a list of deposits
and repayments made on behalf of an account, after which the account is no worse, is one whose
deposits can be borne: if the check of the account passes once the assets of the list are
accrued, it passes after the list, with no smaller difference, exactly then. -/
theorem credits_keep_check_iff [Pendzl] {kind : Message → Prop} {t : ℕ} {w : World}
    (h : Reachable kind t w) {env : Env} {account : AccountId} {actions : List Action}
    {s₁ : LendingPoolStorage} {p : ℕ} {res : AccountActionsResult}
    (hcredits : ∀ action ∈ actions, action.IsCredit)
    (hpokes : w.pool.pokes (actions.map Action.asset) env.blockTimestamp = .ok s₁)
    (hcheck : s₁.calculateLendingPowerOfAnAccountE6 env account = .ok (true, p))
    (hres : w.pool.accountForAccountActions env account actions = .ok res) :
    (∃ p', p ≤ p' ∧ res.storage.calculateLendingPowerOfAnAccountE6 env account = .ok (true, p'))
      ↔ s₁.BearsCreditOf env account actions :=
  LendingPoolStorage.accountForAccountActions_keeps_check_iff (reachable_linked h).ids hcredits
    hpokes hcheck hres

end World

namespace Sample

/-- The messages after which `account 2` has the collateral bit of the first asset, but no
deposit of it, and follows a market rule that has no coefficients for this asset. -/
def staleBit : List (Env × Message) := setup ++ [
  send 2 1 fun a => .deposit (account 100) a 1000,
  send 2 1 fun _ => .setAsCollateral (account 100) true,
  send 2 1 fun a => .withdraw (account 100) a 1000,
  send 2 1 fun a => .deposit (account 101) a 1000,
  send 2 1 fun _ => .setAsCollateral (account 101) true,
  (env admin 1, .addMarketRule [none, some rules]),
  send 2 1 fun _ => .chooseMarketRule 1]

/-- The first deposit that another account makes for `account 2`. -/
def gift : List Action := [⟨.deposit, account 100, 5⟩]

/-- A deposit and a repayment for `account 3`. -/
def support : List Action := [⟨.deposit, account 101, 10⟩, ⟨.repay, account 100, 20⟩]

end Sample

namespace World

attribute [local instance] Pendzl.exact in
/-- A deposit and a repayment that `account 4` makes for `account 3` can be borne. -/
theorem credits_keep_check_iff_support :
    ∃ w s₁, Sample.world.run Sample.depositors = some w
      ∧ w.pool.pokes (Sample.support.map Action.asset) 2 = .ok s₁
      ∧ s₁.BearsCreditOf (Sample.env (Sample.account 4) 2) (Sample.account 3) Sample.support := by
  have hrun : (Sample.world.run Sample.depositors).map (fun w =>
        ((w.pool.pokes (Sample.support.map Action.asset) 2).toOption.map fun s =>
            (s.calculateLendingPowerOfAnAccountE6 (Sample.env (Sample.account 4) 2)
              (Sample.account 3)).toOption,
          (w.pool.accountForAccountActions (Sample.env (Sample.account 4) 2) (Sample.account 3)
            Sample.support).toOption.map fun res =>
              (res.storage.calculateLendingPowerOfAnAccountE6 (Sample.env (Sample.account 4) 2)
                (Sample.account 3)).toOption))
      = some (some (some (true, 398)), some (some (true, 443))) := by decide +kernel
  obtain ⟨w, hw, hreach, hval⟩ :=
    run_reaches (fun _ => True) Sample.world_isInitial (by decide) hrun
  obtain ⟨hpokes, hafter⟩ := Prod.mk.inj hval
  obtain ⟨s₁, hpokes, hcheck⟩ := Option.map_eq_some_iff.mp hpokes
  obtain ⟨res, hres, hafter⟩ := Option.map_eq_some_iff.mp hafter
  -- the time is that of the surroundings in which the actions run
  have hpokes : w.pool.pokes (Sample.support.map Action.asset)
      (Sample.env (Sample.account 4) 2).blockTimestamp = .ok s₁ := toOption_eq_some.mp hpokes
  have hcredits : ∀ action ∈ Sample.support, action.IsCredit := by decide
  have hiff := credits_keep_check_iff hreach hcredits hpokes (toOption_eq_some.mp hcheck)
    (toOption_eq_some.mp hres)
  exact ⟨w, s₁, hw, hpokes, hiff.mp ⟨443, by norm_num, toOption_eq_some.mp hafter⟩⟩

attribute [local instance] Pendzl.exact in
/-- **A deposit that hurts.**  `account 2` passes the check.  It kept the collateral bit of the
first asset when it withdrew its whole deposit, and its market rule has no coefficient for that
asset; after `account 4` deposits `5` of it for `account 2`, the check fails with
`RuleCollateralDisable`. -/
theorem deposit_disables_check :
    ∃ w s₁ p res, Reachable (fun _ => True) 1 w
      ∧ w.pool.pokes (Sample.gift.map Action.asset) 2 = .ok s₁
      ∧ s₁.calculateLendingPowerOfAnAccountE6 (Sample.env (Sample.account 4) 2)
        (Sample.account 2) = .ok (true, p)
      ∧ w.pool.accountForAccountActions (Sample.env (Sample.account 4) 2) (Sample.account 2)
        Sample.gift = .ok res
      ∧ res.storage.calculateLendingPowerOfAnAccountE6 (Sample.env (Sample.account 4) 2)
        (Sample.account 2) = .error (.err .ruleCollateralDisable) := by
  have hrun : (Sample.world.run Sample.staleBit).map (fun w =>
        ((w.pool.pokes (Sample.gift.map Action.asset) 2).toOption.map fun s =>
            (s.calculateLendingPowerOfAnAccountE6 (Sample.env (Sample.account 4) 2)
              (Sample.account 2)).toOption,
          (w.pool.accountForAccountActions (Sample.env (Sample.account 4) 2) (Sample.account 2)
            Sample.gift).toOption.map fun res =>
              failsWith (.err .ruleCollateralDisable)
                (res.storage.calculateLendingPowerOfAnAccountE6
                  (Sample.env (Sample.account 4) 2) (Sample.account 2))))
      = some (some (some (true, 500)), some true) := by decide +kernel
  obtain ⟨w, hw, hreach, hval⟩ :=
    run_reaches (fun _ => True) Sample.world_isInitial (by decide) hrun
  obtain ⟨hpokes, hafter⟩ := Prod.mk.inj hval
  obtain ⟨s₁, hpokes, hcheck⟩ := Option.map_eq_some_iff.mp hpokes
  obtain ⟨res, hres, hafter⟩ := Option.map_eq_some_iff.mp hafter
  refine ⟨w, s₁, 500, res, hreach, toOption_eq_some.mp hpokes, toOption_eq_some.mp hcheck,
    toOption_eq_some.mp hres, failsWith_eq_true.mp hafter⟩

end World

end AbaxLending
