import AbaxLending.Effects.Approvals
import AbaxLending.Effects.TransferEvents
import AbaxLending.Invariants.Listing
import AbaxLending.Invariants.Supply

/-!
Withdrawals and repayments that return.

The steps of the pool are partial: a checked subtraction, a token that belongs to another pool or
a wrapped net amount would refuse a payment.  Here the reasons are counted out.  The total of a
reserve covers every position in it, and the tokens of the pool are its own, so what can still
refuse is what the hypotheses name.

* `Settleable`: what an account is shown can be stored, with the checks of the accounting as
  fields, and `closing`, the reserve that is left;
* `Settling.returns`: from an opened reserve and a step that returns, the accounting returns;
* `Deployed`: the two tokens that the pool emits events of;
* `withdraw_pays`, `repay_settles`: the messages return, with the amount that was clipped.
-/

namespace AbaxLending

open Outcome

/-! ### Steps that return -/

namespace ReserveDataContext

variable [Pendzl] {ctx : ReserveDataContext} {data : AccountReserveData} {config : AccountConfig}
  {feeReductions : FeeReductions} {amount : ℕ} {a : Accrual}

omit [Pendzl] in
/-- The context after the interests of an accrual were posted. -/
def posted (ctx : ReserveDataContext) (a : Accrual) : ReserveDataContext :=
  ctx.after a (ctx.reserveData.totalDeposit + a.depositInterest)
    (ctx.reserveData.totalDebt + a.debtInterest)

/-- The interests of an entry that can be accrued are posted when the totals have room. -/
lemma settle_returns (ha : ctx.accrual data feeReductions = .ok a)
    (hdeposit : ctx.reserveData.totalDeposit + a.depositInterest < 2 ^ 128)
    (hdebt : ctx.reserveData.totalDebt + a.debtInterest < 2 ^ 128) :
    ctx.settle data feeReductions
      = .ok (ctx.posted a, a.data, (a.depositInterest, a.debtInterest)) := by
  rw [accrual] at ha
  simp only [settle, ha, ok_bind, ReserveData.addInterests, ReserveData.increaseTotalDeposit,
    ReserveData.increaseTotalDebt, checkedAdd, if_pos hdeposit, if_pos hdebt, okOr, pure_eq]
  rfl

omit [Pendzl] in
/-- What an entry and the total cover can be taken from both. -/
lemma decreaseAccountDeposit_returns {k n : ℕ} {reserveData : ReserveData}
    (config : AccountConfig) (restrictions : ReserveRestrictions) (hk : k < 128)
    (hn : n ≤ data.deposit) (hn' : n ≤ reserveData.totalDeposit) :
    ∃ posting, data.decreaseAccountDeposit k config reserveData restrictions n = .ok posting
      ∧ posting.data = { data with deposit := data.deposit - n }
      ∧ posting.reserveData
        = { reserveData with totalDeposit := reserveData.totalDeposit - n } := by
  simp only [AccountReserveData.decreaseAccountDeposit, ReserveData.decreaseTotalDeposit,
    bind_eq_ok, AccountConfig.clearDepositIf_eq_ok, AccountConfig.clearCollateralIf_eq_ok,
    okOr_eq_ok, checkedSub_eq_some, pure_eq, Except.ok.injEq]
  exact ⟨_, ⟨_, ⟨fun _ => hk, rfl⟩, data.deposit - n, by omega, _,
    ⟨reserveData.totalDeposit - n, by omega, rfl⟩, _, ⟨fun _ => hk, rfl⟩, rfl⟩, rfl, rfl⟩

/-- A deposit that can be accrued can be withdrawn, if the total covers what leaves. -/
lemma accountForWithdraw_returns (config : AccountConfig) (amount : ℕ)
    (ha : ctx.accrual data feeReductions = .ok a)
    (hdeposit : ctx.reserveData.totalDeposit + a.depositInterest < 2 ^ 128)
    (hdebt : ctx.reserveData.totalDebt + a.debtInterest < 2 ^ 128)
    (hactive : ctx.reserveData.activated = true) (hsome : data.deposit ≠ 0)
    (hk : ctx.assetId < 128)
    (hcovers : a.data.deposit ≤ ctx.reserveData.totalDeposit + a.depositInterest) :
    ∃ st, ctx.accountForWithdraw data config feeReductions amount true = .ok st
      ∧ st.ctx.reserveData = { ctx.reserveData with
          totalDeposit := ctx.reserveData.totalDeposit + a.depositInterest
            - min amount a.data.deposit
          totalDebt := ctx.reserveData.totalDebt + a.debtInterest }
      ∧ st.data = { a.data with deposit := a.data.deposit - min amount a.data.deposit }
      ∧ st.amount = min amount a.data.deposit
      ∧ st.interests = (a.depositInterest, a.debtInterest) := by
  have hactivated : ctx.reserveData.ensureActivated = .ok () := by
    rw [ReserveData.ensureActivated, failIf_eq_ok, hactive]
    decide
  have hheld : failIf (data.deposit = 0) LendingPoolError.insufficientDeposit = .ok () :=
    failIf_eq_ok.mpr hsome
  have hleaves := Nat.min_le_right amount a.data.deposit
  have hcovered : min amount a.data.deposit ≤ (ctx.posted a).reserveData.totalDeposit :=
    hleaves.trans hcovers
  obtain ⟨posting, hposting, hdata, hreserve⟩ :=
    decreaseAccountDeposit_returns config ctx.reserveRestrictions hk hleaves hcovered
  have hclip : (if a.data.deposit < amount ∧ true = true then a.data.deposit else amount)
      = min amount a.data.deposit := clip_eq_min ..
  refine ⟨⟨(ctx.posted a).withReserveData posting.reserveData, posting.data, posting.config,
    min amount a.data.deposit, (a.depositInterest, a.debtInterest)⟩, ?_, hreserve, hdata, rfl, rfl⟩
  rw [accountForWithdraw, hactivated, ok_bind, hheld, ok_bind, settle_returns ha hdeposit hdebt,
    ok_bind]
  dsimp only
  rw [hclip]
  exact bind_eq_ok.mpr ⟨posting, hposting, rfl⟩

omit [Pendzl] in
/-- What a debt and the total cover can be taken from both. -/
lemma decreaseAccountDebt_returns {k n : ℕ} {reserveData : ReserveData}
    (config : AccountConfig) (hk : k < 128) (hn : n ≤ data.debt) (hn' : n ≤ reserveData.totalDebt) :
    ∃ posting, data.decreaseAccountDebt k config reserveData n = .ok posting
      ∧ posting.data = { data with debt := data.debt - n }
      ∧ posting.reserveData = { reserveData with totalDebt := reserveData.totalDebt - n } := by
  simp only [AccountReserveData.decreaseAccountDebt, ReserveData.decreaseTotalDebt,
    bind_eq_ok, AccountConfig.clearBorrowIf_eq_ok, okOr_eq_ok, checkedSub_eq_some, pure_eq,
    Except.ok.injEq]
  exact ⟨_, ⟨_, ⟨fun _ => hk, rfl⟩, data.debt - n, by omega, _,
    ⟨reserveData.totalDebt - n, by omega, rfl⟩, rfl⟩, rfl, rfl⟩

/-- A debt that can be accrued can be repaid, if the total covers the payment and no debt below
the minimum is left. -/
lemma accountForRepay_returns (config : AccountConfig) (amount : ℕ)
    (ha : ctx.accrual data feeReductions = .ok a)
    (hdeposit : ctx.reserveData.totalDeposit + a.depositInterest < 2 ^ 128)
    (hdebt : ctx.reserveData.totalDebt + a.debtInterest < 2 ^ 128)
    (hactive : ctx.reserveData.activated = true) (hsome : a.data.debt ≠ 0)
    (hk : ctx.assetId < 128)
    (hcovers : min amount a.data.debt ≤ ctx.reserveData.totalDebt + a.debtInterest)
    (hminimum : a.data.debt ≤ amount
      ∨ ctx.reserveRestrictions.minimalDebt ≤ a.data.debt - amount) :
    ∃ st, ctx.accountForRepay data config feeReductions amount true = .ok st
      ∧ st.ctx.reserveData = { ctx.reserveData with
          totalDeposit := ctx.reserveData.totalDeposit + a.depositInterest
          totalDebt := ctx.reserveData.totalDebt + a.debtInterest - min amount a.data.debt }
      ∧ st.data = { a.data with debt := a.data.debt - min amount a.data.debt }
      ∧ st.amount = min amount a.data.debt
      ∧ st.interests = (a.depositInterest, a.debtInterest) := by
  have hactivated : ctx.reserveData.ensureActivated = .ok () := by
    rw [ReserveData.ensureActivated, failIf_eq_ok, hactive]
    decide
  have howed : failIf (a.data.debt = 0) LendingPoolError.nothingToRepay = .ok () :=
    failIf_eq_ok.mpr hsome
  have hleaves := Nat.min_le_right amount a.data.debt
  have hcovered : min amount a.data.debt ≤ (ctx.posted a).reserveData.totalDebt := hcovers
  obtain ⟨posting, hposting, hdata, hreserve⟩ :=
    decreaseAccountDebt_returns config hk hleaves hcovered
  have hclip : (if a.data.debt < amount ∧ true = true then a.data.debt else amount)
      = min amount a.data.debt := clip_eq_min ..
  have hleft : ctx.reserveRestrictions.ensureDebtExceedsMinimum posting.data = .ok () := by
    rw [ReserveRestrictions.ensureDebtExceedsMinimum, failIf_eq_ok, hdata]
    change ¬(a.data.debt - min amount a.data.debt ≠ 0
      ∧ a.data.debt - min amount a.data.debt < ctx.reserveRestrictions.minimalDebt)
    omega
  refine ⟨⟨(ctx.posted a).withReserveData posting.reserveData, posting.data, posting.config,
    min amount a.data.debt, (a.depositInterest, a.debtInterest)⟩, ?_, hreserve, hdata, rfl, rfl⟩
  rw [accountForRepay, hactivated, ok_bind, settle_returns ha hdeposit hdebt, ok_bind]
  dsimp only
  rw [howed, ok_bind, hclip]
  exact bind_eq_ok.mpr ⟨posting, hposting, bind_eq_ok.mpr ⟨(), hleft, rfl⟩⟩

end ReserveDataContext

/-! ### An action that returns -/

namespace LendingPoolStorage

variable [Pendzl] {self s₁ : LendingPoolStorage} {k t : ℕ} {ctx : ReserveDataContext}
  {rd : ReserveData}

/-- One action returns when its reserve opens, its step returns and the rates are found. -/
lemma accountForReserveAction_returns {data : AccountReserveData} {config : AccountConfig}
    {reductions : FeeReductions} {action : Action} {st : Step}
    (hopen : self.openReserve k t = .ok (s₁, ctx))
    (hstep : action.step ctx data config reductions = .ok st)
    (hdeposit : st.interests.1 < 2 ^ 128) (hdebt : st.interests.2 < 2 ^ 128)
    (hrates : s₁.recalculateRates k st.ctx.reserveData = .ok rd) :
    self.accountForReserveAction k [data] [config] [reductions] [action.toReserveAction] t
      = .ok {
          storage := s₁.putReserve k rd st.ctx.reserveIndexesAndFees
          accountsData := [st.data]
          accountsConfig := [st.config]
          actions := [{ action with amount := st.amount }.toReserveAction]
          interests := [st.interests] } := by
  have hinterests : ReserveActionState.updateAt [(0, 0)] 0 st.interests = .ok [st.interests] := by
    simp only [ReserveActionState.updateAt, bind_eq_ok, unwrap_eq_ok, okOr_eq_ok,
      checkedAdd_eq_some, pure_eq, Except.ok.injEq]
    exact ⟨(0, 0), rfl, st.interests.1, ⟨Nat.zero_add _, by omega⟩, st.interests.2,
      ⟨Nat.zero_add _, by omega⟩, rfl⟩
  obtain ⟨op, asset, amount⟩ := action
  cases op <;>
  · simp only [Action.step] at hstep
    simp [accountForReserveAction, failIf, hopen, Action.toReserveAction,
      ReserveActionState.applyActions, ReserveActionState.applyAction,
      ReserveActionState.onAccount, hstep, unwrap, hinterests, hrates]

omit [Pendzl] in
/-- The flag of the check can be computed for an id within the bitmaps. -/
lemma mustCheckAfter_returns (st : AccountActionsState) (action : Action) (hk : k < 128) :
    st.mustCheckAfter k action
      = .ok (st.mustCheckCollateralization || action.demandsCheck st.accountConfig k) := by
  obtain ⟨op, asset, amount⟩ := action
  have hshift : shiftRight st.accountConfig.collaterals k
      = .ok (st.accountConfig.collaterals >>> k) := shiftRight_eq_ok.mpr ⟨hk, rfl⟩
  cases op with
  | withdraw =>
      simp only [AccountActionsState.mustCheckAfter, hshift, ok_bind, pure_eq,
        Action.demandsCheck, Bitmap.shift_and_one_eq _ (by norm_num : 0 < 128)]
      cases st.accountConfig.collaterals.getLsbD k <;> simp
  | borrow => simp [AccountActionsState.mustCheckAfter, Action.demandsCheck]
  | deposit => simp [AccountActionsState.mustCheckAfter, Action.demandsCheck]
  | repay => simp [AccountActionsState.mustCheckAfter, Action.demandsCheck]

/-- An action of an account that demands no check returns when its reserve opens, its step
returns and the rates are found. -/
lemma accountForAccountActions_returns {env : Env} {account : AccountId} {action : Action}
    {st : Step} (hk : self.assetToId.get action.asset = some k) (hcount : k < self.assetCount)
    (hword : k < 128) (hcheck : action.demandsCheck (self.getAccountConfig account) k = false)
    (hopen : self.openReserve k env.blockTimestamp = .ok (s₁, ctx))
    (hstep : action.step ctx (self.position account k) (self.getAccountConfig account)
      (self.getFeeReductionsOfAccount env account) = .ok st)
    (hdeposit : st.interests.1 < 2 ^ 128) (hdebt : st.interests.2 < 2 ^ 128)
    (hrates : s₁.recalculateRates k st.ctx.reserveData = .ok rd) :
    ∃ res, self.accountForAccountActions env account [action] = .ok res
      ∧ res.storage = (s₁.putReserve k rd st.ctx.reserveIndexesAndFees).putAccount account
          ((self.getAccountDatas account).set k (some st.data)) st.config
      ∧ res.actions = [{ action with amount := st.amount }] ∧ res.interests = [st.interests] := by
  have hentry : getAccountDataEntryMut (self.getAccountDatas account) k
      = .ok (self.position account k) := by
    refine getAccountDataEntryMut_eq_ok.mpr
      ⟨hcount.trans_le assetCount_le_length_getAccountDatas, ?_⟩
    rw [getAccountDatas_join, position]
  have hamount : ({ action with amount := st.amount } : Action).toReserveAction.amount
      = st.amount := by
    obtain ⟨op, asset, amount⟩ := action
    cases op <;> rfl
  have hreserve := accountForReserveAction_returns hopen hstep hdeposit hdebt hrates
  simp [accountForAccountActions, AccountActionsState.applyActions,
    AccountActionsState.applyAction, assetId, hk, okOr, hentry,
    mustCheckAfter_returns _ action hword, hreserve, unwrap, hcheck, hamount]

/-- What an account is shown in an asset can be stored at the time of the environment: the
reserve is active, its utilization can be recorded, and its totals have room for the interests
of the account. -/
structure Settleable (s : LendingPoolStorage) (env : Env) (asset account : AccountId) (k : ℕ)
    (rd : ReserveData) (shown owed : ℕ) : Prop where
  id : s.assetToId.get asset = some k
  inWord : k < 128
  reserve : s.reserveDatas.get k = some rd
  active : rd.activated = true
  snapshot : ∃ s₁, s.storeUtilizationRateSnapshot k rd env.blockTimestamp = .ok s₁
  deposit : Side.deposit.view s env asset account env.blockTimestamp = .ok shown
  debt : Side.debt.view s env asset account env.blockTimestamp = .ok owed
  depositRoom : rd.totalDeposit + (shown - (s.position account k).deposit) < 2 ^ 128
  debtRoom : rd.totalDebt + (owed - (s.position account k).debt) < 2 ^ 128

omit [Pendzl] in
/-- The reserve after an account was brought to what it is shown, took a part of its deposit and
paid a part of its debt. -/
def closing (s : LendingPoolStorage) (account : AccountId) (k : ℕ) (rd : ReserveData)
    (shown owed taken paid : ℕ) : ReserveData :=
  { rd with
    totalDeposit := rd.totalDeposit + (shown - (s.position account k).deposit) - taken
    totalDebt := rd.totalDebt + (owed - (s.position account k).debt) - paid }

lemma Settleable.lt_assetCount {env : Env} {asset account : AccountId} {shown owed : ℕ}
    (h : self.Settleable env asset account k rd shown owed) (hlisted : self.Listed) :
    k < self.assetCount :=
  (hlisted.ids k).mp (Option.isSome_iff_exists.mpr ⟨asset, (hlisted.inverse asset k).mp h.id⟩)

/-- The opened reserve of an account that can be settled, with its accrual. -/
structure Settling (s s₁ : LendingPoolStorage) (env : Env) (account : AccountId) (k : ℕ)
    (rd : ReserveData) (shown owed : ℕ) (ctx : ReserveDataContext) (a : Accrual) : Prop where
  opened : s.openReserve k env.blockTimestamp = .ok (s₁, ctx)
  assetId : ctx.assetId = k
  reserveData : ctx.reserveData = rd
  accrual : ctx.accrual (s.position account k) (s.getFeeReductionsOfAccount env account) = .ok a
  deposit : a.data.deposit = shown
  debt : a.data.debt = owed

/-- A reserve in which an account can be settled opens, and shows what the views show. -/
lemma Settleable.opens {env : Env} {asset account : AccountId} {shown owed : ℕ}
    (h : self.Settleable env asset account k rd shown owed) (hlisted : self.Listed) :
    ∃ s₁ ctx a, self.Settling s₁ env account k rd shown owed ctx a := by
  obtain ⟨data, hdata, hshown⟩ := Side.view_eq_ok.mp h.deposit
  obtain ⟨data', hdata', howed⟩ := Side.view_eq_ok.mp h.debt
  cases hdata.symm.trans hdata'
  obtain ⟨k', rd', r, indexes, a, hk, hrd, hr, hup, ha, rfl⟩ := accruedDataOf_eq_ok.mp hdata
  cases hk.symm.trans h.id
  cases hrd.symm.trans h.reserve
  have hcount := h.lt_assetCount hlisted
  obtain ⟨restrictions, hrestrictions⟩ :=
    Option.isSome_iff_exists.mp (hlisted.reserveRestrictions k hcount)
  obtain ⟨s₁, hs₁⟩ := h.snapshot
  refine ⟨s₁, ⟨k, rd, { r with indexes }, restrictions⟩, a, ?_, rfl, rfl, ha, hshown, howed⟩
  simp only [openReserve, getReserveData, getReserveIndexesAndFees, getReserveRestrictions,
    bind_eq_ok, unwrap_eq_ok, pure_eq, Except.ok.injEq, Prod.mk.injEq]
  exact ⟨rd, h.reserve, r, hr, restrictions, hrestrictions, s₁, hs₁, indexes, hup, rfl, rfl⟩

/-- The interests are what the account is shown beyond what is stored. -/
lemma Settling.interests {env : Env} {account : AccountId} {shown owed : ℕ} {a : Accrual}
    (h : self.Settling s₁ env account k rd shown owed ctx a) :
    a.depositInterest = shown - (self.position account k).deposit
      ∧ a.debtInterest = owed - (self.position account k).debt := by
  have hd := ReserveDataContext.accrual_deposit h.accrual
  have hb := ReserveDataContext.accrual_debt h.accrual
  rw [h.deposit] at hd
  rw [h.debt] at hb
  omega

/-- The totals have room for the interests. -/
lemma Settling.room {env : Env} {asset account : AccountId} {shown owed : ℕ} {a : Accrual}
    (hs : self.Settling s₁ env account k rd shown owed ctx a)
    (h : self.Settleable env asset account k rd shown owed) :
    ctx.reserveData.totalDeposit + a.depositInterest < 2 ^ 128
      ∧ ctx.reserveData.totalDebt + a.debtInterest < 2 ^ 128 := by
  rw [hs.reserveData, hs.interests.1, hs.interests.2]
  exact ⟨h.depositRoom, h.debtRoom⟩

/-- What a payment needs of the storage that the accounting left. -/
structure SameOutside (s s' : LendingPoolStorage) : Prop where
  assetToId : s'.assetToId = s.assetToId
  interestRateModel : s'.interestRateModel = s.interestRateModel
  reserveAbacusTokens : s'.reserveAbacusTokens = s.reserveAbacusTokens

/-- The pool accounts for an action that demands no check, in an opened reserve. -/
lemma Settling.returns {env : Env} {account : AccountId} {st : Step} {a : Accrual}
    {shown owed taken paid : ℕ} (action : Action)
    (hs : self.Settling s₁ env account k rd shown owed ctx a)
    (h : self.Settleable env action.asset account k rd shown owed) (hlisted : self.Listed)
    (hcheck : action.demandsCheck (self.getAccountConfig account) k = false)
    (hst : action.step ctx (self.position account k) (self.getAccountConfig account)
      (self.getFeeReductionsOfAccount env account) = .ok st)
    (hreserve : st.ctx.reserveData = self.closing account k rd shown owed taken paid)
    (hints : st.interests = (a.depositInterest, a.debtInterest))
    (hrates : ∃ rd', self.recalculateRates k
      (self.closing account k rd shown owed taken paid) = .ok rd') :
    ∃ res, self.accountForAccountActions env account [action] = .ok res
      ∧ res.actions = [{ action with amount := st.amount }]
      ∧ res.interests
        = [(shown - (self.position account k).deposit, owed - (self.position account k).debt)]
      ∧ res.storage.position account k = st.data ∧ self.SameOutside res.storage := by
  have hcount := h.lt_assetCount hlisted
  obtain ⟨hinterest, hinterest'⟩ := hs.interests
  obtain ⟨-, indexes, entries, hring⟩ := openReserve_ok hs.opened
  obtain ⟨rd', hrd'⟩ := hrates
  obtain ⟨hroom, hroom'⟩ := hs.room h
  have hdeposit : st.interests.1 < 2 ^ 128 := by
    rw [hints]
    change a.depositInterest < _
    omega
  have hdebt : st.interests.2 < 2 ^ 128 := by
    rw [hints]
    change a.debtInterest < _
    omega
  have hfound : s₁.recalculateRates k st.ctx.reserveData = .ok rd' := by
    rw [hreserve, hring]
    exact hrd'
  obtain ⟨res, hres, hstorage, hactions, hinterests⟩ := accountForAccountActions_returns h.id
    hcount h.inWord hcheck hs.opened hst hdeposit hdebt hfound
  refine ⟨res, hres, hactions, ?_, ?_, ?_⟩
  · rw [hinterests, hints, hinterest, hinterest']
  · have hlen : k < (self.getAccountDatas account).length :=
      hcount.trans_le assetCount_le_length_getAccountDatas
    rw [hstorage, position_putAccount_self, List.getElem?_set_self hlen]
    rfl
  · rw [hstorage, hring]
    exact ⟨rfl, rfl, rfl⟩

variable {env : Env} {asset account : AccountId} {shown owed amount : ℕ}

/-- The pool accounts for the withdrawal of an account that can be settled, of an asset that is
not its collateral. -/
lemma Settleable.withdraws (h : self.Settleable env asset account k rd shown owed)
    (hlisted : self.Listed) (hagree : self.TotalsAgree)
    (hsome : (self.position account k).deposit ≠ 0)
    (hfree : (self.getAccountConfig account).collaterals.getLsbD k = false)
    (hrates : ∃ rd', self.recalculateRates k
      (self.closing account k rd shown owed (min amount shown) 0) = .ok rd') :
    ∃ res, self.accountForAccountActions env account [⟨.withdraw, asset, amount⟩] = .ok res
      ∧ res.actions = [⟨.withdraw, asset, min amount shown⟩]
      ∧ res.interests
        = [(shown - (self.position account k).deposit, owed - (self.position account k).debt)]
      ∧ (res.storage.position account k).deposit = shown - min amount shown
      ∧ self.SameOutside res.storage := by
  obtain ⟨s₁, ctx, a, hs⟩ := h.opens hlisted
  obtain ⟨hinterest, hinterest'⟩ := hs.interests
  obtain ⟨hroom, hroom'⟩ := hs.room h
  -- the total covers the position, so it covers what the position becomes
  have htotal : (self.position account k).deposit ≤ rd.totalDeposit :=
    (hagree.deposit k rd h.reserve).le_total account
  obtain ⟨st, hst, hreserve, hdata, hamount, hints⟩ :=
    ReserveDataContext.accountForWithdraw_returns (self.getAccountConfig account) amount hs.accrual
      hroom hroom' (hs.reserveData.symm ▸ h.active) hsome (hs.assetId.symm ▸ h.inWord)
      (by rw [hs.reserveData, hs.deposit]; omega)
  rw [hs.reserveData, hs.deposit, hinterest, hinterest'] at hreserve
  rw [hs.deposit] at hamount hdata
  have hclosing : st.ctx.reserveData
      = self.closing account k rd shown owed (min amount shown) 0 := hreserve
  obtain ⟨res, hres, hactions, hinterests, hposition, hsame⟩ :=
    hs.returns ⟨.withdraw, asset, amount⟩ h hlisted hfree hst hclosing hints hrates
  refine ⟨res, hres, ?_, hinterests, ?_, hsame⟩
  · rw [hactions, hamount]
  · rw [hposition, hdata]

/-- The step of a repayment of an account that can be settled, if the total covers it and no debt
below the minimum is left. -/
lemma Settling.repays {a : Accrual} (hs : self.Settling s₁ env account k rd shown owed ctx a)
    (h : self.Settleable env asset account k rd shown owed) (hsome : owed ≠ 0)
    (hcovers : min amount owed ≤ rd.totalDebt + (owed - (self.position account k).debt))
    (hminimum : ∀ r, self.reserveRestrictions.get k = some r →
      owed ≤ amount ∨ r.minimalDebt ≤ owed - amount) :
    ∃ st, Action.step ⟨.repay, asset, amount⟩ ctx (self.position account k)
        (self.getAccountConfig account) (self.getFeeReductionsOfAccount env account) = .ok st
      ∧ st.ctx.reserveData = self.closing account k rd shown owed 0 (min amount owed)
      ∧ st.data.debt = owed - min amount owed ∧ st.amount = min amount owed
      ∧ st.interests = (a.depositInterest, a.debtInterest) := by
  obtain ⟨hinterest, hinterest'⟩ := hs.interests
  obtain ⟨hroom, hroom'⟩ := hs.room h
  obtain ⟨st, hst, hreserve, hdata, hamount, hints⟩ :=
    ReserveDataContext.accountForRepay_returns (self.getAccountConfig account) amount hs.accrual
      hroom hroom' (hs.reserveData.symm ▸ h.active) (hs.debt.symm ▸ hsome)
      (hs.assetId.symm ▸ h.inWord) (by rwa [hs.reserveData, hs.debt, hinterest'])
      (hs.debt.symm ▸ hminimum _ (openReserve_ok hs.opened).1.restrictions)
  rw [hs.reserveData, hs.debt, hinterest, hinterest'] at hreserve
  rw [hs.debt] at hamount hdata
  exact ⟨st, hst, hreserve, by rw [hdata], hamount, hints⟩

/-- The pool accounts for the repayment of an account that can be settled, if the rates of the
reserve that remains are found. -/
lemma Settleable.repays (h : self.Settleable env asset account k rd shown owed)
    (hlisted : self.Listed) (hsome : owed ≠ 0)
    (hcovers : min amount owed ≤ rd.totalDebt + (owed - (self.position account k).debt))
    (hminimum : ∀ r, self.reserveRestrictions.get k = some r →
      owed ≤ amount ∨ r.minimalDebt ≤ owed - amount)
    (hrates : ∃ rd', self.recalculateRates k
      (self.closing account k rd shown owed 0 (min amount owed)) = .ok rd') :
    ∃ res, self.accountForAccountActions env account [⟨.repay, asset, amount⟩] = .ok res
      ∧ res.actions = [⟨.repay, asset, min amount owed⟩]
      ∧ res.interests
        = [(shown - (self.position account k).deposit, owed - (self.position account k).debt)]
      ∧ (res.storage.position account k).debt = owed - min amount owed
      ∧ self.SameOutside res.storage := by
  obtain ⟨s₁, ctx, a, hs⟩ := h.opens hlisted
  obtain ⟨st, hst, hclosing, hdebt, hamount, hints⟩ := hs.repays h hsome hcovers hminimum
  obtain ⟨res, hres, hactions, hinterests, hposition, hsame⟩ :=
    hs.returns ⟨.repay, asset, amount⟩ h hlisted rfl hst hclosing hints hrates
  refine ⟨res, hres, ?_, hinterests, ?_, hsame⟩
  · rw [hactions, hamount]
  · rw [hposition, hdebt]

end LendingPoolStorage

/-! ### Payments that return -/

namespace World

variable {w w₁ : World} {env : Env} {asset account token spender : AccountId} {amount : ℕ}
  {net : ℤ}

/-- A call to an underlying token does not depend on the pool. -/
lemma invoke_withPool {s : LendingPoolStorage} {call : PSP22Call}
    (h : w.invoke env asset call = .ok w₁) :
    (w.withPool s).invoke env asset call = .ok (w₁.withPool s) := by
  simp only [invoke, bind_eq_ok, pure_eq, Except.ok.injEq] at h ⊢
  obtain ⟨u, hu, balances, hbalances, rfl⟩ := h
  exact ⟨u, hu, balances, hbalances, rfl⟩

/-- A payment depends on the ids and on the models of the pool only. -/
lemma transferOut_withPool {s : LendingPoolStorage} (hs : w.pool.SameOutside s)
    (h : w.transferOut env asset account amount = .ok w₁) :
    (w.withPool s).transferOut env asset account amount = .ok (w₁.withPool s) := by
  simp only [transferOut, LendingPoolStorage.assetId, withPool_pool, hs.assetToId,
    hs.interestRateModel, bind_eq_ok] at h ⊢
  obtain ⟨k, hk, h⟩ := h
  refine ⟨k, hk, ?_⟩
  split_ifs at h ⊢ with hmodel
  · exact invoke_withPool h
  · exact invoke_withPool h

lemma transferIn_withPool {s : LendingPoolStorage} (hs : w.pool.SameOutside s)
    (h : w.transferIn env asset account amount = .ok w₁) :
    (w.withPool s).transferIn env asset account amount = .ok (w₁.withPool s) := by
  simp only [transferIn, LendingPoolStorage.assetId, withPool_pool, hs.assetToId,
    hs.interestRateModel, bind_eq_ok] at h ⊢
  obtain ⟨k, hk, h⟩ := h
  refine ⟨k, hk, ?_⟩
  split_ifs at h ⊢ with hmodel
  · exact invoke_withPool h
  · exact invoke_withPool h

/-- The net amount of an interest can be negated. -/
lemma toI128_negatable {n : ℕ} (hn : Small n) : -2 ^ 127 < toI128 n := by
  rw [toI128_of_small hn]
  omega

/-- The net amount of an interest and a part of an amount that is taken can be negated. -/
lemma overflowingSub_negatable {m n : ℕ} (hm : Small m) (hn : Small n) :
    -2 ^ 127 < overflowingSub (toI128 m) (toI128 n) := by
  rw [overflowingSub_of_small hm hn]
  rw [Small] at hn
  omega

/-- The pool emits the events of its own tokens, if the net amount can be negated. -/
lemma emitAbacusTokenTransferEvent_returns {t : AbacusToken} (account : AccountId)
    (hown : w.OwnTokens) (ht : w.tokens.get token = some t) (hnet : -2 ^ 127 < net) :
    ∃ w', w.emitAbacusTokenTransferEvent token account net = .ok w' := by
  have hemit : ∀ data, ∃ w', w.emitTransferEvents token data = .ok w' := by
    intro data
    simp only [emitTransferEvents, bind_eq_ok, unwrap_eq_ok, failIf_eq_ok, pure_eq,
      Except.ok.injEq]
    exact ⟨_, t, ht, (), fun hne => hne (hown token t ht), rfl⟩
  simp only [emitAbacusTokenTransferEvent, mapErr_eq_ok]
  split_ifs with hpos hneg
  · exact hemit _
  · have hnegated : (negToU128 net : TokenRes ℕ) = .ok (-net).toNat := by
      simp only [negToU128, bind_eq_ok, trapIf_eq_ok, pure_eq]
      exact ⟨(), by omega, trivial⟩
    rw [hnegated, ok_bind]
    exact hemit _
  · exact ⟨w, rfl⟩

/-- The pool charges an allowance that covers the amount. -/
lemma emitAbacusTokenTransferEventAndDecreaseAllowance_returns {t : AbacusToken}
    (account : AccountId) (hown : w.OwnTokens) (ht : w.tokens.get token = some t)
    (hnet : -2 ^ 127 < net)
    (hallowed : spender ≠ account → amount ≤ t.allowance account spender) :
    ∃ w', w.emitAbacusTokenTransferEventAndDecreaseAllowance token account net spender amount
      = .ok w' := by
  rw [emitAbacusTokenTransferEventAndDecreaseAllowance]
  by_cases hs : spender = account
  · rw [if_pos hs]
    exact emitAbacusTokenTransferEvent_returns account hown ht hnet
  · rw [if_neg hs]
    have hcovers := hallowed hs
    simp only [mapErr_eq_ok, emitTransferEventAndDecreaseAllowance, decreaseAllowanceFromTo,
      bind_eq_ok, unwrap_eq_ok, failIf_eq_ok, okOr_eq_ok, checkedSub_eq_some, pure_eq,
      Except.ok.injEq]
    exact ⟨_, t, ht, (), fun hne => hne (hown token t ht), (), not_lt.mpr hcovers,
      t.allowance account spender - amount, by omega, rfl⟩

/-- The pool knows the two tokens of an asset, and they are its own. -/
structure Deployed (w : World) (asset : AccountId) (tokens : ReserveAbacusTokens)
    (aToken vToken : AbacusToken) : Prop where
  known : w.pool.reserveAbacusTokens.get asset = some tokens
  own : w.OwnTokens
  aToken : w.tokens.get tokens.aTokenAddress = some aToken
  vToken : w.tokens.get tokens.vTokenAddress = some vToken

/-- Storing the pool that the accounting left, and paying, keeps them. -/
lemma Deployed.paid {tokens : ReserveAbacusTokens} {aToken vToken : AbacusToken}
    {s : LendingPoolStorage} (h : w.Deployed asset tokens aToken vToken)
    (hsame : w.pool.SameOutside s) (hframe : Keeps w w₁ ∧ w₁.tokens = w.tokens) :
    (w₁.withPool s).Deployed asset tokens aToken vToken where
  known := hsame.reserveAbacusTokens ▸ h.known
  own := by
    intro address t ht
    have ht' : w.tokens.get address = some t := hframe.2 ▸ ht
    exact (h.own address t ht').trans hframe.1.poolAddress.symm
  aToken := hframe.2.symm ▸ h.aToken
  vToken := hframe.2.symm ▸ h.vToken

/-- Tokens stay deployed. -/
lemma Keeps.token_get {w' : World} {t : AbacusToken} (h : Keeps w w')
    (ht : w.tokens.get token = some t) : ∃ t', w'.tokens.get token = some t' := by
  have hid := h.tokens token
  rw [ht, Option.map_some] at hid
  obtain ⟨t', ht', -⟩ := Option.map_eq_some_iff.mp hid
  exact ⟨t', ht'⟩

section

variable [Pendzl]

/-- In every reachable world the pool knows the tokens of a registered asset. -/
lemma reachable_deployed {kind : Message → Prop} {t k : ℕ} (h : Reachable kind t w)
    (hk : w.pool.assetToId.get asset = some k) :
    ∃ tokens aToken vToken, w.Deployed asset tokens aToken vToken := by
  obtain ⟨tokens, htokens⟩ := Option.isSome_iff_exists.mp
    ((reachable_listing h).1.reserveAbacusTokens asset k hk)
  have hlinked := (reachable_linked h).tokens asset tokens htokens
  obtain ⟨aToken, ha, -⟩ := Option.map_eq_some_iff.mp (hlinked .aToken)
  obtain ⟨vToken, hv, -⟩ := Option.map_eq_some_iff.mp (hlinked .vToken)
  exact ⟨tokens, aToken, vToken, htokens, reachable_ownTokens h, ha, hv⟩

/-- **A withdrawal pays what is shown.**  In every state that runs reach in which nobody transfers
a position or liquidates itself, an account whose positions in an asset can be stored as they are
shown, and that does not use the asset as collateral, gets the requested amount or its whole
deposit and keeps the rest, if the rates of the reserve that remains are found, the underlying
token pays and a caller other than the account has the allowance.  The deposits of others, the
restrictions of the reserve and a freeze do not stand in the way. -/
theorem withdraw_pays {t k : ℕ} {rd : ReserveData} {shown owed : ℕ}
    (h : TimedRun.Reach IsInitial DistinctStep t w)
    (hsettle : w.pool.Settleable env asset account k rd shown owed)
    (hsome : (w.pool.position account k).deposit ≠ 0) (hamount : amount ≠ 0)
    (hfree : (w.pool.getAccountConfig account).collaterals.getLsbD k = false)
    (hshown : Small shown) (howed : Small owed)
    (hrates : ∃ rd', w.pool.recalculateRates k
      (w.pool.closing account k rd shown owed (min amount shown) 0) = .ok rd')
    (hpays : ∃ w₁, w.transferOut env asset env.caller (min amount shown) = .ok w₁)
    (hallowed : env.caller ≠ account → ∀ tokens,
      w.pool.reserveAbacusTokens.get asset = some tokens →
        min amount shown ≤ w.allowance tokens.aTokenAddress account env.caller) :
    ∃ w', w.withdraw env asset account amount = .ok (w', min amount shown)
      ∧ (w'.pool.position account k).deposit = shown - min amount shown := by
  have hreach : Reachable (fun _ => True) t w :=
    h.mono fun _ _ _ ⟨env, message, ht, _, _, hex⟩ => ⟨env, message, ht, trivial, hex⟩
  obtain ⟨res, hres, hactions, hinterests, hleft, hsame⟩ := hsettle.withdraws
    (reachable_listing hreach).1 (reach_totalsAgree h) hsome hfree hrates
  obtain ⟨tokens, aToken, vToken, hdeployed⟩ := reachable_deployed hreach hsettle.id
  obtain ⟨w₁, hw₁⟩ := hpays
  have hout := transferOut_withPool hsame hw₁
  have hpaid := hdeployed.paid hsame (transferOut_frame hw₁)
  have htaken : Small (min amount shown) := (Nat.min_le_right amount shown).trans_lt hshown
  have hinterest : Small (shown - (w.pool.position account k).deposit) :=
    (Nat.sub_le _ _).trans_lt hshown
  have hinterest' : Small (owed - (w.pool.position account k).debt) :=
    (Nat.sub_le _ _).trans_lt howed
  -- the aToken charges the allowance of another caller
  obtain ⟨w₂, hw₂⟩ := emitAbacusTokenTransferEventAndDecreaseAllowance_returns account hpaid.own
    hpaid.aToken (overflowingSub_negatable hinterest htaken) fun hs =>
      (hallowed hs tokens hdeployed.known).trans_eq (allowance_of_get hdeployed.aToken _ _)
  have hown := (emitAbacusTokenTransferEventAndDecreaseAllowance_spends hw₂).own hpaid.own
  have hkeeps := (emitAbacusTokenTransferEventAndDecreaseAllowance_emits hw₂).toKeeps
  obtain ⟨_, hv⟩ := hkeeps.token_get hpaid.vToken
  obtain ⟨w₃, hw₃⟩ :=
    emitAbacusTokenTransferEvent_returns account hown hv (toI128_negatable hinterest')
  have hpool : w₃.pool = res.storage :=
    (emitAbacusTokenTransferEvent_emits hw₃).pool.trans hkeeps.pool
  refine ⟨w₃, ?_, by rw [hpool]; exact hleft⟩
  have hnonzero : checkAmountNotZero amount = .ok () := failIf_eq_ok.mpr hamount
  rw [withdraw, hnonzero, ok_bind, hres, ok_bind, hinterests, hactions]
  simp only [bind_eq_ok, unwrap_eq_ok, pure_eq, Except.ok.injEq]
  exact ⟨_, rfl, _, rfl, _, hout, tokens, hpaid.known, w₂, hw₂, w₃, hw₃, rfl⟩

/-- A repayment that the pool accounts for returns, if the underlying token pays. -/
lemma repay_returns {kind : Message → Prop} {t k : ℕ} {rd : ReserveData} {shown owed : ℕ}
    (h : Reachable kind t w) (hsettle : w.pool.Settleable env asset account k rd shown owed)
    (hsome : owed ≠ 0) (hamount : amount ≠ 0)
    (hcovers : min amount owed ≤ rd.totalDebt + (owed - (w.pool.position account k).debt))
    (hminimum : ∀ r, w.pool.reserveRestrictions.get k = some r →
      owed ≤ amount ∨ r.minimalDebt ≤ owed - amount)
    (hshown : Small shown) (howed : Small owed)
    (hrates : ∃ rd', w.pool.recalculateRates k
      (w.pool.closing account k rd shown owed 0 (min amount owed)) = .ok rd')
    (hpays : ∃ w₁, w.transferIn env asset env.caller (min amount owed) = .ok w₁) :
    ∃ w', w.repay env asset account amount = .ok (w', min amount owed)
      ∧ (w'.pool.position account k).debt = owed - min amount owed := by
  obtain ⟨res, hres, hactions, hinterests, hleft, hsame⟩ := hsettle.repays
    (reachable_listing h).1 hsome hcovers hminimum hrates
  obtain ⟨tokens, aToken, vToken, hdeployed⟩ := reachable_deployed h hsettle.id
  obtain ⟨w₁, hw₁⟩ := hpays
  have hin := transferIn_withPool hsame hw₁
  have hpaid := hdeployed.paid hsame (transferIn_frame hw₁)
  have hrepaid : Small (min amount owed) := (Nat.min_le_right amount owed).trans_lt howed
  have hinterest : Small (shown - (w.pool.position account k).deposit) :=
    (Nat.sub_le _ _).trans_lt hshown
  have hinterest' : Small (owed - (w.pool.position account k).debt) :=
    (Nat.sub_le _ _).trans_lt howed
  obtain ⟨w₂, hw₂⟩ := emitAbacusTokenTransferEvent_returns account hpaid.own hpaid.aToken
    (toI128_negatable hinterest)
  have hown := (emitAbacusTokenTransferEvent_spends hw₂ : Spends env.caller _ _).own hpaid.own
  have hkeeps := (emitAbacusTokenTransferEvent_emits hw₂).toKeeps
  obtain ⟨_, hv⟩ := hkeeps.token_get hpaid.vToken
  obtain ⟨w₃, hw₃⟩ := emitAbacusTokenTransferEvent_returns account hown hv
    (overflowingSub_negatable hinterest' hrepaid)
  have hpool : w₃.pool = res.storage :=
    (emitAbacusTokenTransferEvent_emits hw₃).pool.trans hkeeps.pool
  refine ⟨w₃, ?_, by rw [hpool]; exact hleft⟩
  have hnonzero : checkAmountNotZero amount = .ok () := failIf_eq_ok.mpr hamount
  rw [repay, hnonzero, ok_bind, hres, ok_bind, hinterests, hactions]
  simp only [bind_eq_ok, unwrap_eq_ok, pure_eq, Except.ok.injEq]
  exact ⟨_, rfl, _, rfl, _, hin, tokens, hpaid.known, w₂, hw₂, w₃, hw₃, rfl⟩

/-- **A debt can be repaid.**  In every state that runs reach in which nobody transfers a position
or liquidates itself, the debt of an account whose positions in an asset can be stored as they are
shown is settled by the requested amount or as a whole, by any caller, if no debt below the minimum
is left, the rates of the reserve that remains are found and the underlying token pays. -/
theorem repay_settles {t k : ℕ} {rd : ReserveData} {shown owed : ℕ}
    (h : TimedRun.Reach IsInitial DistinctStep t w)
    (hsettle : w.pool.Settleable env asset account k rd shown owed)
    (hsome : owed ≠ 0) (hamount : amount ≠ 0)
    (hminimum : ∀ r, w.pool.reserveRestrictions.get k = some r →
      owed ≤ amount ∨ r.minimalDebt ≤ owed - amount)
    (hshown : Small shown) (howed : Small owed)
    (hrates : ∃ rd', w.pool.recalculateRates k
      (w.pool.closing account k rd shown owed 0 (min amount owed)) = .ok rd')
    (hpays : ∃ w₁, w.transferIn env asset env.caller (min amount owed) = .ok w₁) :
    ∃ w', w.repay env asset account amount = .ok (w', min amount owed)
      ∧ (w'.pool.position account k).debt = owed - min amount owed := by
  have hreach : Reachable (fun _ => True) t w :=
    h.mono fun _ _ _ ⟨env, message, ht, _, _, hex⟩ => ⟨env, message, ht, trivial, hex⟩
  -- the total covers the position, so it covers what the position becomes
  have htotal : (w.pool.position account k).debt ≤ rd.totalDebt :=
    ((reach_totalsAgree h).debt k rd hsettle.reserve).le_total account
  exact repay_returns hreach hsettle hsome hamount (by omega) hminimum hshown howed hrates hpays

end

attribute [local instance] Pendzl.exact in
/-- `account 3` of the sample pool at a later time, at which one unit of interest is shown.  It
can ask for more than its deposit, and offer more than its debt. -/
lemma depositors_settleable :
    ∃ w rd, Sample.world.run Sample.depositors = some w
      ∧ TimedRun.Reach IsInitial DistinctStep 1 w
      ∧ w.pool.Settleable (Sample.env (Sample.account 3) 1000) (Sample.account 100)
          (Sample.account 3) 0 rd 400 51
      ∧ (w.pool.position (Sample.account 3) 0).deposit ≠ 0
      ∧ (w.pool.getAccountConfig (Sample.account 3)).collaterals.getLsbD 0 = false
      ∧ (∃ rd', w.pool.recalculateRates 0
          (w.pool.closing (Sample.account 3) 0 rd 400 51 (min 1000 400) 0) = .ok rd')
      ∧ (∃ rd', w.pool.recalculateRates 0
          (w.pool.closing (Sample.account 3) 0 rd 400 51 0 (min 60 51)) = .ok rd')
      ∧ (∃ w₁, w.transferOut (Sample.env (Sample.account 3) 1000) (Sample.account 100)
          (Sample.account 3) (min 1000 400) = .ok w₁)
      ∧ ∃ w₁, w.transferIn (Sample.env (Sample.account 3) 1000) (Sample.account 100)
          (Sample.account 3) (min 60 51) = .ok w₁ := by
  have hrun : (Sample.world.run Sample.depositors).map (fun w =>
        (w.pool.assetToId.get (Sample.account 100),
          ((w.pool.position (Sample.account 3) 0).deposit,
            (w.pool.position (Sample.account 3) 0).debt),
          (Side.deposit.view w.pool (Sample.env (Sample.account 3) 1000) (Sample.account 100)
            (Sample.account 3) 1000).toOption,
          (Side.debt.view w.pool (Sample.env (Sample.account 3) 1000) (Sample.account 100)
            (Sample.account 3) 1000).toOption))
      = some (some 0, (400, 50), some 400, some 51) := by decide +kernel
  have hreserve : (Sample.world.run Sample.depositors).map (fun w =>
        (w.pool.reserveDatas.get 0).map fun rd => (rd.activated, rd.totals,
          (w.pool.storeUtilizationRateSnapshot 0 rd 1000).isOk
            && (w.pool.recalculateRates 0
              (w.pool.closing (Sample.account 3) 0 rd 400 51 (min 1000 400) 0)).isOk
            && (w.pool.recalculateRates 0
              (w.pool.closing (Sample.account 3) 0 rd 400 51 0 (min 60 51))).isOk))
      = some (some (true, (900, 50), true)) := by decide +kernel
  have hcalls : (Sample.world.run Sample.depositors).map (fun w =>
        ((w.pool.getAccountConfig (Sample.account 3)).collaterals.getLsbD 0,
          (w.transferOut (Sample.env (Sample.account 3) 1000) (Sample.account 100)
            (Sample.account 3) (min 1000 400)).isOk
          && (w.transferIn (Sample.env (Sample.account 3) 1000) (Sample.account 100)
            (Sample.account 3) (min 60 51)).isOk))
      = some (false, true) := by decide +kernel
  obtain ⟨w, hw, hreach, hv⟩ :=
    run_reaches OneSided Sample.world_isInitial (by decide) hrun
  rw [hw, Option.map_some, Option.some.injEq] at hreserve hcalls
  simp only [Prod.mk.injEq, toOption_eq_some] at hv
  simp only [Prod.mk.injEq, Option.map_eq_some_iff, Bool.and_eq_true, isOk_eq_true] at hreserve
  simp only [Prod.mk.injEq, Bool.and_eq_true, isOk_eq_true] at hcalls
  obtain ⟨hk, ⟨hd, hb⟩, hshown, howed⟩ := hv
  obtain ⟨rd, hrd, hactive, htotals, ⟨hsnapshot, hrates⟩, hrates'⟩ := hreserve
  obtain ⟨hfree, hout, hin⟩ := hcalls
  obtain ⟨htotal, htotal'⟩ := Prod.mk.inj htotals
  refine ⟨w, rd, hw, reachable_distinct hreach,
    ⟨hk, by decide, hrd, hactive, hsnapshot, hshown, howed, ?_, ?_⟩, ?_, hfree, hrates, hrates',
    hout, hin⟩
  · rw [hd, htotal]
    decide
  · rw [hb, htotal']
    decide
  · rw [hd]
    decide

attribute [local instance] Pendzl.exact in
/-- The account asks for more than it has, and gets its deposit. -/
theorem withdraw_pays_sample :
    ∃ w w', Sample.world.run Sample.depositors = some w
      ∧ w.withdraw (Sample.env (Sample.account 3) 1000) (Sample.account 100) (Sample.account 3) 1000
        = .ok (w', min 1000 400)
      ∧ (w'.pool.position (Sample.account 3) 0).deposit = 400 - min 1000 400 := by
  obtain ⟨w, rd, hw, hreach, hsettle, hsome, hfree, hrates, -, hout, -⟩ := depositors_settleable
  have hsmall : Small 400 ∧ Small 51 := by
    rw [Small, Small]
    decide
  obtain ⟨w', hpaid⟩ := withdraw_pays hreach hsettle hsome (by decide : 1000 ≠ 0) hfree hsmall.1
    hsmall.2 hrates hout fun hne => absurd rfl hne
  exact ⟨w, w', hw, hpaid⟩

attribute [local instance] Pendzl.exact in
/-- The account offers more than it owes, and pays its debt with the interest. -/
theorem repay_settles_sample :
    ∃ w w', Sample.world.run Sample.depositors = some w
      ∧ w.repay (Sample.env (Sample.account 3) 1000) (Sample.account 100) (Sample.account 3) 60
        = .ok (w', min 60 51)
      ∧ (w'.pool.position (Sample.account 3) 0).debt = 51 - min 60 51 := by
  obtain ⟨w, rd, hw, hreach, hsettle, -, -, -, hrates, -, hin⟩ := depositors_settleable
  have hsmall : Small 400 ∧ Small 51 := by
    rw [Small, Small]
    decide
  obtain ⟨w', hpaid⟩ := repay_settles hreach hsettle (by decide) (by decide : 60 ≠ 0)
    (fun r _ => .inl (by decide)) hsmall.1 hsmall.2 hrates hin
  exact ⟨w, w', hw, hpaid⟩

end World

end AbaxLending
