import AbaxLending.Spec.Actions

/-!
What the actions between two accounts do.

The two transfers and the liquidation load the vectors and configs of two
accounts, run two basic steps in one reserve (a liquidation runs a repayment
before), and write the copies back one after the other.  `DepositTransfer`,
`DebtTransfer` and `Liquidation` collect everything such a run computed; each
inversion lemma produces one of them together with the storage that was written.
Both transfers write their accounts in the same way (`putPair`).
-/

namespace AbaxLending

open Outcome

namespace LendingPoolStorage

variable [Pendzl]

/-- Two steps in one reserve: `first` on a giver, `second` on a receiver. -/
structure TwoSteps where
  k : ℕ
  ctx : ReserveDataContext
  first : Step
  second : Step
  reserveData : ReserveData
  twUrIndexes : Mapping ℕ TwIndex
  twUrEntries : Mapping (ℕ × ℕ) TwEntry

omit [Pendzl] in
/-- The storage with the reserve of the two steps written, and no account yet. -/
def TwoSteps.reserveWritten (r : TwoSteps) (s : LendingPoolStorage) : LendingPoolStorage :=
  (s.withRing r.twUrIndexes r.twUrEntries).putReserve r.k r.reserveData
    r.second.ctx.reserveIndexesAndFees

/-! ### Writing a pair of accounts -/

omit [Pendzl] in
/-- The storage after a transfer wrote its accounts: the vector of `inserted` by
`insert_account_data`, then the vector of `replaced`, then both configs. -/
def putPair (s : LendingPoolStorage) (k : ℕ) (inserted replaced : AccountId)
    (insertedData replacedData : AccountReserveData)
    (insertedConfig replacedConfig : AccountConfig)
    (replacedDatas : List (Option AccountReserveData)) : LendingPoolStorage :=
  (((s.putDatas inserted ((s.getAccountDatas inserted).insertIdx k (some insertedData))).putDatas
    replaced (replacedDatas.set k (some replacedData))).putConfig replaced
    replacedConfig).putConfig inserted insertedConfig

section

variable {s : LendingPoolStorage} {k j : ℕ} {inserted replaced a : AccountId}
  {insertedData replacedData : AccountReserveData} {insertedConfig replacedConfig : AccountConfig}
  {v : List (Option AccountReserveData)}

omit [Pendzl] in
lemma entry_putPair_of_ne (hi : a ≠ inserted) (hr : a ≠ replaced) :
    (s.putPair k inserted replaced insertedData replacedData insertedConfig replacedConfig v).entry
      a j = s.entry a j := by
  simp [entry, putPair, hi, hr]

omit [Pendzl] in
/-- The account that is written last keeps its other entries. -/
lemma entry_putPair_replaced (hv : s.accountReserveDatas.get replaced = some v)
    (hk : k < v.length) :
    (s.putPair k inserted replaced insertedData replacedData insertedConfig replacedConfig v).entry
      replaced j = if j = k then some replacedData else s.entry replaced j := by
  have hset := getElem?_set_join v (j := j) hk replacedData
  simp only [entry, putPair, putConfig_accountReserveDatas, putDatas_accountReserveDatas,
    Mapping.get_insert_self, Option.bind_some, hset, hv]

omit [Pendzl] in
/-- An insertion writes one entry and shifts the ones behind it. -/
lemma entry_putPair_inserted (hne : inserted ≠ replaced)
    (hk : k ≤ (s.getAccountDatas inserted).length) :
    (s.putPair k inserted replaced insertedData replacedData insertedConfig replacedConfig v).entry
      inserted j
      = if j < k then s.entry inserted j
        else if j = k then some insertedData else s.entry inserted (j - 1) := by
  simp only [entry, putPair, putConfig_accountReserveDatas, putDatas_accountReserveDatas,
    Mapping.get_insert_of_ne _ hne, Mapping.get_insert_self, Option.bind_some]
  rw [List.getElem?_insertIdx]
  rcases lt_trichotomy j k with hjk | rfl | hjk
  · rw [if_pos hjk, if_pos hjk, getAccountDatas_join]
    rfl
  · simp [hk]
  · rw [if_neg (by omega), if_neg (by omega), if_neg (by omega), if_neg (by omega),
      getAccountDatas_join]
    rfl

omit [Pendzl] in
/-- An insertion makes the vector longer. -/
lemma length_putPair_inserted (hne : inserted ≠ replaced)
    (hk : k ≤ (s.getAccountDatas inserted).length)
    (insertedData replacedData : AccountReserveData)
    (insertedConfig replacedConfig : AccountConfig) (v : List (Option AccountReserveData)) :
    ∃ w, (s.putPair k inserted replaced insertedData replacedData insertedConfig replacedConfig
        v).accountReserveDatas.get inserted = some w
      ∧ w.length = (s.getAccountDatas inserted).length + 1 := by
  refine ⟨(s.getAccountDatas inserted).insertIdx k (some insertedData), ?_,
    List.length_insertIdx_of_le_length hk _⟩
  simp [putPair, hne]

omit [Pendzl] in
lemma getAccountConfig_putPair :
    (s.putPair k inserted replaced insertedData replacedData insertedConfig replacedConfig
      v).getAccountConfig a
      = if a = inserted then insertedConfig
        else if a = replaced then replacedConfig else s.getAccountConfig a := by
  simp only [getAccountConfig, putPair, putConfig_accountConfigs, putDatas_accountConfigs,
    Mapping.get_insert]
  split_ifs <;> rfl

end

/-! ### Transfers -/

/-- A run of `account_for_deposit_transfer_from_to`. -/
structure DepositTransfer (s : LendingPoolStorage) (env : Env)
    (asset fromAccount toAccount : AccountId) (amount t : ℕ) extends TwoSteps where
  fromDatas : List (Option AccountReserveData)
  fromData : AccountReserveData
  registered : s.assetToId.get asset = some k
  fromDatas_eq : s.accountReserveDatas.get fromAccount = some fromDatas
  fromData_eq : fromDatas[k]? = some (some fromData)
  opened : s.Opened k t ctx
  first_ok : ctx.accountForWithdraw fromData (s.getAccountConfig fromAccount)
    (s.getFeeReductionsOfAccount env fromAccount) amount false = .ok first
  second_ok : first.ctx.accountForDeposit (s.position toAccount k) (s.getAccountConfig toAccount)
    (s.getFeeReductionsOfAccount env toAccount) first.amount = .ok second
  rates : s.recalculateRates k second.ctx.reserveData = .ok reserveData
  inRange : k ≤ (s.getAccountDatas toAccount).length

/-- The storage that a deposit transfer leaves: the receiver, then the sender. -/
def DepositTransfer.written {s : LendingPoolStorage} {env : Env}
    {asset fromAccount toAccount : AccountId} {amount t : ℕ}
    (r : DepositTransfer s env asset fromAccount toAccount amount t) : LendingPoolStorage :=
  (r.reserveWritten s).putPair r.k toAccount fromAccount r.second.data r.first.data
    r.second.config r.first.config r.fromDatas

/-- **What a transfer of a deposit does.** -/
theorem accountForDepositTransferFromTo_ok {s : LendingPoolStorage} {env : Env}
    {asset fromAccount toAccount : AccountId} {amount t : ℕ} {res : TransferResult}
    (h : s.accountForDepositTransferFromTo env asset fromAccount toAccount amount t = .ok res) :
    ∃ r : DepositTransfer s env asset fromAccount toAccount amount t,
      res = ⟨r.written, r.first.interests, r.second.interests⟩ := by
  simp only [accountForDepositTransferFromTo, assetId, getAccountReserveData_eq, bind_eq_ok,
    okOr_eq_ok, unwrap_eq_ok, bitMask_eq_ok] at h
  obtain ⟨k, hk, fc, hfc, fds, hfds, o, ho, fd, rfl, r, hr, h⟩ := h
  obtain ⟨ctx, st₁, st₂, rd, i, e, hctx, h₁, h₂, hrd, rfl⟩ :=
    accountForReserveAction_depositTransfer hr
  simp only [List.getElem?_cons_zero, List.getElem?_cons_succ, Option.some.injEq,
    exists_eq_left'] at h
  obtain ⟨_, _, h⟩ := h
  have hconfig : s.getAccountConfig fromAccount = fc := by simp [getAccountConfig, hfc]
  split_ifs at h with hcoll
  all_goals
    simp only [insertAccountData, bind_eq_ok, trapIf_eq_ok, not_lt, unwrap_eq_ok, pure_eq,
      Option.some.injEq, exists_eq_left', Except.ok.injEq] at h
  · obtain ⟨_, _, _, ⟨_, hlen, rfl⟩, rfl⟩ := h
    exact ⟨{ k, ctx, first := st₁, second := st₂, reserveData := rd, twUrIndexes := i,
             twUrEntries := e, fromDatas := fds, fromData := fd, registered := hk,
             fromDatas_eq := hfds, fromData_eq := ho, opened := hctx,
             first_ok := hconfig ▸ h₁, second_ok := h₂, rates := hrd, inRange := hlen }, rfl⟩
  · obtain ⟨_, ⟨_, hlen, rfl⟩, rfl⟩ := h
    exact ⟨{ k, ctx, first := st₁, second := st₂, reserveData := rd, twUrIndexes := i,
             twUrEntries := e, fromDatas := fds, fromData := fd, registered := hk,
             fromDatas_eq := hfds, fromData_eq := ho, opened := hctx,
             first_ok := hconfig ▸ h₁, second_ok := h₂, rates := hrd, inRange := hlen }, rfl⟩

/-- A run of `account_for_debt_transfer_from_to`. -/
structure DebtTransfer (s : LendingPoolStorage) (env : Env)
    (asset fromAccount toAccount : AccountId) (amount t : ℕ) extends TwoSteps where
  toDatas : List (Option AccountReserveData)
  registered : s.assetToId.get asset = some k
  toDatas_eq : s.accountReserveDatas.get toAccount = some toDatas
  toInRange : k < toDatas.length
  opened : s.Opened k t ctx
  first_ok : ctx.accountForRepay (s.position fromAccount k) (s.getAccountConfig fromAccount)
    (s.getFeeReductionsOfAccount env fromAccount) amount false = .ok first
  second_ok : first.ctx.accountForBorrow (s.position toAccount k) (s.getAccountConfig toAccount)
    (s.getFeeReductionsOfAccount env toAccount) first.amount = .ok second
  rates : s.recalculateRates k second.ctx.reserveData = .ok reserveData
  inRange : k ≤ (s.getAccountDatas fromAccount).length

/-- The storage that a debt transfer leaves: the giver, then the receiver. -/
def DebtTransfer.written {s : LendingPoolStorage} {env : Env}
    {asset fromAccount toAccount : AccountId} {amount t : ℕ}
    (r : DebtTransfer s env asset fromAccount toAccount amount t) : LendingPoolStorage :=
  (r.reserveWritten s).putPair r.k fromAccount toAccount r.first.data r.second.data
    r.first.config r.second.config r.toDatas

/-- **What a transfer of a debt does.** -/
theorem accountForDebtTransferFromTo_ok {s : LendingPoolStorage} {env : Env}
    {asset fromAccount toAccount : AccountId} {amount t : ℕ} {res : TransferResult}
    (h : s.accountForDebtTransferFromTo env asset fromAccount toAccount amount t = .ok res) :
    ∃ r : DebtTransfer s env asset fromAccount toAccount amount t,
      res = ⟨r.written, r.first.interests, r.second.interests⟩ := by
  simp only [accountForDebtTransferFromTo, assetId, getAccountReserveData_eq, bind_eq_ok,
    okOr_eq_ok, getAccountDataEntryMut_eq_ok] at h
  obtain ⟨k, hk, tc, htc, tds, htds, td, ⟨hlen, rfl⟩, r, hr, h⟩ := h
  obtain ⟨ctx, st₁, st₂, rd, i, e, hctx, h₁, h₂, hrd, rfl⟩ :=
    accountForReserveAction_debtTransfer hr
  simp only [List.getElem?_cons_zero, List.getElem?_cons_succ, unwrap_eq_ok, Option.some.injEq,
    exists_eq_left', insertAccountData, bind_eq_ok, trapIf_eq_ok, not_lt, pure_eq,
    Except.ok.injEq] at h
  obtain ⟨_, _, _, ⟨_, hin, rfl⟩, rfl⟩ := h
  have hconfig : s.getAccountConfig toAccount = tc := by simp [getAccountConfig, htc]
  have hposition : s.position toAccount k = tds[k]?.join.getD default := by
    simp [position, entry, htds]
  exact ⟨{ k, ctx, first := st₁, second := st₂, reserveData := rd, twUrIndexes := i,
           twUrEntries := e, toDatas := tds, registered := hk, toDatas_eq := htds,
           toInRange := hlen, opened := hctx, first_ok := h₁,
           second_ok := hposition ▸ hconfig ▸ h₂, rates := hrd, inRange := hin }, rfl⟩

/-! ### Liquidation -/

/-- A run of `account_for_liquidate`: a repayment in one reserve (`paid`), then two
steps in the reserve of the asset to take, on the storage `mid` in between. -/
structure Liquidation (s : LendingPoolStorage) (env : Env)
    (caller liquidated assetToRepay assetToTake : AccountId) (amount t : ℕ)
    extends TwoSteps where
  repayId : ℕ
  repayCtx : ReserveDataContext
  dataToRepay : AccountReserveData
  paid : Step
  mid : LendingPoolStorage
  amountToTake : ℕ
  registeredRepay : s.assetToId.get assetToRepay = some repayId
  registeredTake : s.assetToId.get assetToTake = some k
  dataToRepay_eq : (s.getAccountDatas liquidated)[repayId]? = some (some dataToRepay)
  repayOpened : s.Opened repayId t repayCtx
  paid_ok : repayCtx.accountForRepay dataToRepay (s.getAccountConfig liquidated)
    (s.getFeeReductionsOfAccount env liquidated) amount true = .ok paid
  mid_eq : ∃ rd i e, s.recalculateRates repayId paid.ctx.reserveData = .ok rd
    ∧ mid = (s.withRing i e).putReserve repayId rd paid.ctx.reserveIndexesAndFees
  amountToTake_eq : ∃ pricesE18 priceToRepay priceToTake, mid.getAssetsPricesE18 env = .ok pricesE18
    ∧ pricesE18[repayId]? = some priceToRepay ∧ pricesE18[k]? = some priceToTake
    ∧ mid.calculateLiquidatedAmountAndEnsureCollateralized liquidated repayId k priceToRepay
      priceToTake paid.amount = .ok amountToTake
  dataToTake : AccountReserveData
  dataToTake_eq : ((s.getAccountDatas liquidated).set repayId (some paid.data))[k]?
    = some (some dataToTake)
  callerInRange : k < (s.getAccountDatas caller).length
  opened : mid.Opened k t ctx
  first_ok : ctx.accountForWithdraw dataToTake paid.config
    (s.getFeeReductionsOfAccount env liquidated) amountToTake true = .ok first
  second_ok : first.ctx.accountForDeposit (s.position caller k) (s.getAccountConfig caller)
    (s.getFeeReductionsOfAccount env caller) first.amount = .ok second
  rates : s.recalculateRates k second.ctx.reserveData = .ok reserveData

/-- The storage that a liquidation leaves: the liquidated account, then the caller. -/
def Liquidation.written {s : LendingPoolStorage} {env : Env}
    {caller liquidated assetToRepay assetToTake : AccountId} {amount t : ℕ}
    (r : Liquidation s env caller liquidated assetToRepay assetToTake amount t) :
    LendingPoolStorage :=
  ((r.reserveWritten r.mid).putAccount liquidated
      (((s.getAccountDatas liquidated).set r.repayId (some r.paid.data)).set r.k
        (some r.first.data))
      r.first.config).putAccount caller
    ((s.getAccountDatas caller).set r.k (some r.second.data)) r.second.config

/-- **What a liquidation does.** -/
theorem accountForLiquidate_ok {s : LendingPoolStorage} {env : Env}
    {caller liquidated assetToRepay assetToTake : AccountId} {amount t : ℕ}
    {res : LiquidateResult}
    (h : s.accountForLiquidate env caller liquidated assetToRepay assetToTake amount t = .ok res) :
    ∃ r : Liquidation s env caller liquidated assetToRepay assetToTake amount t,
      res = ⟨r.written, r.paid.amount, r.second.amount, r.paid.interests, r.first.interests,
        r.second.interests⟩ := by
  simp only [accountForLiquidate, assetId, bind_eq_ok, okOr_eq_ok, unwrap_eq_ok] at h
  obtain ⟨kr, hkr, kt, hkt, o, ho, dr, rfl, _, _, p, hp, h⟩ := h
  have hp' : s.accountForReserveAction kr [dr] [s.getAccountConfig liquidated]
      [s.getFeeReductionsOfAccount env liquidated]
      [Action.toReserveAction ⟨.repay, assetToRepay, amount⟩] t = .ok p := hp
  obtain ⟨rctx, _, paid, rd, hopen, hpaid, hrd, rfl⟩ := accountForReserveAction_single hp'
  obtain ⟨hrctx, i, e, rfl⟩ := openReserve_ok hopen
  simp only [List.head?_cons, Option.some.injEq, exists_eq_left', Action.toReserveAction,
    ReserveAction.amount, getAccountDataEntryMut_eq_ok, getAccountDatas_join] at h
  obtain ⟨prices, hprices, pr, hpr, pt, hpt, take, htake, o', ho', dt, rfl, cd, ⟨hlen, rfl⟩,
    q, hq, h⟩ := h
  obtain ⟨ctx, st₁, st₂, rd₂, i₂, e₂, hctx, h₁, h₂, hrd₂, rfl⟩ :=
    accountForReserveAction_depositTransfer hq
  simp only [List.getElem?_cons_zero, List.getElem?_cons_succ, List.head?_cons,
    Option.some.injEq, exists_eq_left', pure_eq, Except.ok.injEq] at h
  subst h
  exact ⟨{ k := kt, ctx, first := st₁, second := st₂, reserveData := rd₂, twUrIndexes := i₂,
           twUrEntries := e₂, repayId := kr, repayCtx := rctx, dataToRepay := dr, paid,
           mid := _, amountToTake := take, registeredRepay := hkr, registeredTake := hkt,
           dataToRepay_eq := ho, repayOpened := hrctx, paid_ok := hpaid,
           mid_eq := ⟨rd, i, e, hrd, rfl⟩,
           amountToTake_eq := ⟨prices, pr, pt, hprices, hpr, hpt, htake⟩,
           dataToTake := dt, dataToTake_eq := ho', callerInRange := hlen, opened := hctx,
           first_ok := h₁, second_ok := h₂, rates := hrd₂ }, rfl⟩

/-- A liquidation keeps the ids and the models. -/
lemma accountForLiquidate_keeps {s : LendingPoolStorage} {env : Env}
    {caller liquidated assetToRepay assetToTake : AccountId} {amount t : ℕ}
    {res : LiquidateResult}
    (h : s.accountForLiquidate env caller liquidated assetToRepay assetToTake amount t = .ok res) :
    res.storage.assetToId = s.assetToId ∧ res.storage.interestRateModel = s.interestRateModel := by
  obtain ⟨r, rfl⟩ := accountForLiquidate_ok h
  obtain ⟨rd, i, e, -, hmid⟩ := r.mid_eq
  have hassets : r.mid.assetToId = s.assetToId := by rw [hmid]; rfl
  have hmodels : r.mid.interestRateModel = s.interestRateModel := by rw [hmid]; rfl
  exact ⟨hassets, hmodels⟩

end LendingPoolStorage

end AbaxLending
