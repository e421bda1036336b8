import AbaxLending.Invariants.Registry

/-!
What a message does to one reserve.

A message works on several reserves and several accounts.  What the invariants of a single
reserve need of it is a chain of changes of that reserve (`ReserveChange`): a visit, which
snapshots the utilization before it changes a total and brings the indexes to the block time
or leaves them (`Visit`), or a switch of its flags.  Rates and fees may change at any time
(`KeepsReserve`).  A registration opens one reserve (`OpensReserve`).

* `accountForReserveAction_updateAccounts`: a visit commutes with writing the data of accounts;
* `accountForReserveAction_visit`: every list of reserve actions is one visit;
* `execute_changes`: every message that succeeds opens a reserve, or is for each reserve a
  chain of changes at its block time.
-/

namespace AbaxLending

open Outcome

/-- The flags and the totals of a reserve, without its rates. -/
def ReserveData.steady (self : ReserveData) : Bool × Bool × ℕ × ℕ :=
  (self.activated, self.frozen, self.totals)

namespace LendingPoolStorage

/-! ### Visits -/

/-- The change keeps the utilization ring of a reserve. -/
structure KeepsRing (k : ℕ) (s s' : LendingPoolStorage) : Prop where
  index : s'.twUrIndexes.get k = s.twUrIndexes.get k
  entry : ∀ i, s'.getTwUrEntry k i = s.getTwUrEntry k i

/-- The change keeps the flags, the totals, the indexes and the ring of a reserve. -/
structure KeepsReserve (k : ℕ) (s s' : LendingPoolStorage) : Prop extends KeepsRing k s s' where
  steady : (s'.reserveDatas.get k).map ReserveData.steady
    = (s.reserveDatas.get k).map ReserveData.steady
  indexes : (s'.reserveIndexesAndFees.get k).map ReserveIndexesAndFees.indexes
    = (s.reserveIndexesAndFees.get k).map ReserveIndexesAndFees.indexes

lemma KeepsRing.of_eq {k : ℕ} {s s' : LendingPoolStorage} (hi : s'.twUrIndexes = s.twUrIndexes)
    (he : s'.twUrEntries = s.twUrEntries) : KeepsRing k s s' := by
  refine ⟨by rw [hi], fun i => ?_⟩
  rw [getTwUrEntry, getTwUrEntry, he]

lemma KeepsRing.refl (k : ℕ) (s : LendingPoolStorage) : KeepsRing k s s := .of_eq rfl rfl

lemma KeepsReserve.of_eq {k : ℕ} {s s' : LendingPoolStorage}
    (hrd : s'.reserveDatas.get k = s.reserveDatas.get k)
    (hr : s'.reserveIndexesAndFees.get k = s.reserveIndexesAndFees.get k)
    (hi : s'.twUrIndexes = s.twUrIndexes) (he : s'.twUrEntries = s.twUrEntries) :
    KeepsReserve k s s' := ⟨.of_eq hi he, by rw [hrd], by rw [hr]⟩

lemma KeepsReserve.refl (k : ℕ) (s : LendingPoolStorage) : KeepsReserve k s s :=
  .of_eq rfl rfl rfl rfl

/-- Writing the vector of an account keeps the reserves. -/
lemma KeepsReserve.putDatas {k : ℕ} {s s' : LendingPoolStorage} (h : KeepsReserve k s s')
    (account : AccountId) (datas : List (Option AccountReserveData)) :
    KeepsReserve k s (s'.putDatas account datas) :=
  ⟨⟨h.index, h.entry⟩, h.steady, h.indexes⟩

/-- Writing the config of an account keeps the reserves. -/
lemma KeepsReserve.putConfig {k : ℕ} {s s' : LendingPoolStorage} (h : KeepsReserve k s s')
    (account : AccountId) (config : AccountConfig) :
    KeepsReserve k s (s'.putConfig account config) :=
  ⟨⟨h.index, h.entry⟩, h.steady, h.indexes⟩

/-- Writing an account keeps the reserves. -/
lemma KeepsReserve.putAccount {k : ℕ} {s s' : LendingPoolStorage} (h : KeepsReserve k s s')
    (account : AccountId) (datas : List (Option AccountReserveData)) (config : AccountConfig) :
    KeepsReserve k s (s'.putAccount account datas config) :=
  ⟨⟨h.index, h.entry⟩, h.steady, h.indexes⟩

/-- A visit of a reserve at a time: the flags stay, the indexes stay or are brought to the
time, and no total changes without a snapshot of the utilization before the change. -/
structure Visit [Pendzl] (k t : ℕ) (s s' : LendingPoolStorage) (rd rd' : ReserveData)
    (r r' : ReserveIndexesAndFees) : Prop where
  reserveData : s.reserveDatas.get k = some rd
  indexesAndFees : s.reserveIndexesAndFees.get k = some r
  reserveData' : s'.reserveDatas.get k = some rd'
  indexesAndFees' : s'.reserveIndexesAndFees.get k = some r'
  activated : rd'.activated = rd.activated
  frozen : rd'.frozen = rd.frozen
  indexes : r'.indexes = r.indexes ∨ r.indexes.update rd t = .ok r'.indexes
  ring : (KeepsRing k s s' ∧ rd'.totals = rd.totals)
    ∨ ∃ s₁, s.storeUtilizationRateSnapshot k rd t = .ok s₁ ∧ KeepsRing k s₁ s'

/-- What a message that registers nothing may do to the reserve with an id. -/
inductive ReserveChange [Pendzl] (message : Message) (k t : ℕ) (s s' : LendingPoolStorage) :
    Prop where
  | keep : KeepsReserve k s s' → ReserveChange message k t s s'
  | visit {rd rd' : ReserveData} {r r' : ReserveIndexesAndFees} : Visit k t s s' rd rd' r r' →
      ReserveChange message k t s s'
  | switch {asset : AccountId} {active : Bool} {rd : ReserveData} :
      message = .setReserveIsActive asset active → s.assetToId.get asset = some k →
      s.reserveDatas.get k = some rd → rd.activated = !active →
      s' = s.putReserveData k { rd with activated := active } → ReserveChange message k t s s'
  | freeze {asset : AccountId} {frozen : Bool} {rd : ReserveData} :
      message = .setReserveIsFrozen asset frozen → s.assetToId.get asset = some k →
      s.reserveDatas.get k = some rd → rd.frozen = !frozen →
      s' = s.putReserveData k { rd with activated := frozen } → ReserveChange message k t s s'

/-- What the registration of an asset at a time does to the reserves. -/
structure OpensReserve (t : ℕ) (s s' : LendingPoolStorage) : Prop where
  indexes : ∃ fees, s'.reserveIndexesAndFees.get s.assetCount = some (.new t fees)
  index : s'.twUrIndexes.get s.assetCount = some .new
  entry : ∀ k i, s'.getTwUrEntry k i = s.getTwUrEntry k i
  others : ∀ k, k ≠ s.assetCount → KeepsReserve k s s'

/-- A chain of changes of one reserve, all at the same time. -/
abbrev ReserveChanges [Pendzl] (message : Message) (k t : ℕ) :
    LendingPoolStorage → LendingPoolStorage → Prop :=
  Relation.ReflTransGen (ReserveChange message k t)

variable {s s' s₁ : LendingPoolStorage} {k j t : ℕ}

lemma ReserveChange.one [Pendzl] {message : Message} (h : ReserveChange message k t s s') :
    ReserveChanges message k t s s' := .single h

lemma KeepsReserve.changes [Pendzl] {message : Message} (h : KeepsReserve k s s') :
    ReserveChanges message k t s s' := .single (.keep h)

lemma ReserveChanges.of_eq [Pendzl] {message : Message}
    (hrd : s'.reserveDatas = s.reserveDatas)
    (hr : s'.reserveIndexesAndFees = s.reserveIndexesAndFees)
    (hi : s'.twUrIndexes = s.twUrIndexes) (he : s'.twUrEntries = s.twUrEntries) :
    ReserveChanges message k t s s' :=
  (KeepsReserve.of_eq (congrArg (·.get k) hrd) (congrArg (·.get k) hr) hi he).changes

end LendingPoolStorage

/-! ### Reserve actions -/

/-- What the steps of a reserve action keep of their context. -/
structure ReserveDataContext.Continues (ctx ctx' : ReserveDataContext) : Prop where
  activated : ctx'.reserveData.activated = ctx.reserveData.activated
  frozen : ctx'.reserveData.frozen = ctx.reserveData.frozen
  indexes : ctx'.reserveIndexesAndFees.indexes = ctx.reserveIndexesAndFees.indexes

namespace ReserveDataContext

variable [Pendzl] {ctx ctx' ctx'' : ReserveDataContext} {data : AccountReserveData}
  {config : AccountConfig} {feeReductions : FeeReductions} {amount : ℕ} {canMutateAmount : Bool}
  {st : Step}

omit [Pendzl] in
lemma Continues.refl (ctx : ReserveDataContext) : ctx.Continues ctx := ⟨rfl, rfl, rfl⟩

omit [Pendzl] in
lemma Continues.trans (h : ctx.Continues ctx') (h' : ctx'.Continues ctx'') :
    ctx.Continues ctx'' :=
  ⟨h'.activated.trans h.activated, h'.frozen.trans h.frozen, h'.indexes.trans h.indexes⟩

lemma accountForDeposit_continues
    (h : ctx.accountForDeposit data config feeReductions amount = .ok st) :
    ctx.Continues st.ctx := by
  obtain ⟨a, -, -, -, -, -, rfl⟩ := accountForDeposit_ok h
  exact ⟨rfl, rfl, rfl⟩

lemma accountForWithdraw_continues
    (h : ctx.accountForWithdraw data config feeReductions amount canMutateAmount = .ok st) :
    ctx.Continues st.ctx := by
  obtain ⟨a, n, -, -, -, -, -, -, -, rfl⟩ := accountForWithdraw_ok h
  exact ⟨rfl, rfl, rfl⟩

lemma accountForBorrow_continues
    (h : ctx.accountForBorrow data config feeReductions amount = .ok st) :
    ctx.Continues st.ctx := by
  obtain ⟨a, -, -, -, -, -, -, rfl⟩ := accountForBorrow_ok h
  exact ⟨rfl, rfl, rfl⟩

lemma accountForRepay_continues
    (h : ctx.accountForRepay data config feeReductions amount canMutateAmount = .ok st) :
    ctx.Continues st.ctx := by
  obtain ⟨a, n, -, -, -, -, -, -, -, -, rfl⟩ := accountForRepay_ok h
  exact ⟨rfl, rfl, rfl⟩

end ReserveDataContext

namespace ReserveActionState

variable [Pendzl] {st st' : ReserveActionState} {reductions : List FeeReductions}

omit [Pendzl] in
/-- A step on one account moves the context by that step. -/
lemma onAccount_ctx {i n : ℕ}
    {step : ReserveDataContext → AccountReserveData → AccountConfig → FeeReductions → Res Step}
    (h : st.onAccount reductions i step = .ok (st', n)) :
    ∃ data config fee res, step st.ctx data config fee = .ok res ∧ st'.ctx = res.ctx := by
  simp only [onAccount, bind_eq_ok, pure_eq, Except.ok.injEq, Prod.mk.injEq] at h
  obtain ⟨data, -, config, -, fee, -, res, hres, _, -, rfl, -⟩ := h
  exact ⟨data, config, fee, res, hres, rfl⟩

lemma applyAction_continues {action action' : ReserveAction}
    (h : st.applyAction reductions action = .ok (st', action')) : st.ctx.Continues st'.ctx := by
  cases action with
  | deposit i n =>
      simp only [applyAction, bind_eq_ok, pure_eq, Except.ok.injEq, Prod.mk.injEq] at h
      obtain ⟨⟨st₁, n₁⟩, h₁, rfl, -⟩ := h
      obtain ⟨_, _, _, res, hres, hctx⟩ := onAccount_ctx h₁
      exact hctx ▸ ReserveDataContext.accountForDeposit_continues hres
  | withdraw i n can =>
      simp only [applyAction, bind_eq_ok, pure_eq, Except.ok.injEq, Prod.mk.injEq] at h
      obtain ⟨⟨st₁, n₁⟩, h₁, rfl, -⟩ := h
      obtain ⟨_, _, _, res, hres, hctx⟩ := onAccount_ctx h₁
      exact hctx ▸ ReserveDataContext.accountForWithdraw_continues hres
  | borrow i n =>
      simp only [applyAction, bind_eq_ok, pure_eq, Except.ok.injEq, Prod.mk.injEq] at h
      obtain ⟨⟨st₁, n₁⟩, h₁, rfl, -⟩ := h
      obtain ⟨_, _, _, res, hres, hctx⟩ := onAccount_ctx h₁
      exact hctx ▸ ReserveDataContext.accountForBorrow_continues hres
  | repay i n =>
      simp only [applyAction, bind_eq_ok, pure_eq, Except.ok.injEq, Prod.mk.injEq] at h
      obtain ⟨⟨st₁, n₁⟩, h₁, rfl, -⟩ := h
      obtain ⟨_, _, _, res, hres, hctx⟩ := onAccount_ctx h₁
      exact hctx ▸ ReserveDataContext.accountForRepay_continues hres
  | depositTransfer i j n can =>
      simp only [applyAction, bind_eq_ok, pure_eq, Except.ok.injEq, Prod.mk.injEq] at h
      obtain ⟨⟨st₁, n₁⟩, h₁, ⟨st₂, n₂⟩, h₂, rfl, -⟩ := h
      obtain ⟨_, _, _, res, hres, hctx⟩ := onAccount_ctx h₁
      obtain ⟨_, _, _, res', hres', hctx'⟩ := onAccount_ctx h₂
      have hfirst := ReserveDataContext.accountForWithdraw_continues hres
      exact (hctx ▸ hfirst).trans (hctx' ▸ ReserveDataContext.accountForDeposit_continues hres')
  | debtTransfer i j n can =>
      simp only [applyAction, bind_eq_ok, pure_eq, Except.ok.injEq, Prod.mk.injEq] at h
      obtain ⟨⟨st₁, n₁⟩, h₁, ⟨st₂, n₂⟩, h₂, rfl, -⟩ := h
      obtain ⟨_, _, _, res, hres, hctx⟩ := onAccount_ctx h₁
      obtain ⟨_, _, _, res', hres', hctx'⟩ := onAccount_ctx h₂
      have hfirst := ReserveDataContext.accountForRepay_continues hres
      exact (hctx ▸ hfirst).trans (hctx' ▸ ReserveDataContext.accountForBorrow_continues hres')

lemma applyActions_continues {actions actions' : List ReserveAction}
    (h : st.applyActions reductions actions = .ok (st', actions')) :
    st.ctx.Continues st'.ctx := by
  induction actions generalizing st actions' with
  | nil =>
      simp only [applyActions, Except.ok.injEq, Prod.mk.injEq] at h
      exact h.1 ▸ .refl _
  | cons action rest ih =>
      simp only [applyActions, bind_eq_ok, pure_eq, Except.ok.injEq, Prod.mk.injEq] at h
      obtain ⟨⟨st₁, a₁⟩, h₁, ⟨st₂, rest₂⟩, h₂, rfl, -⟩ := h
      exact (applyAction_continues h₁).trans (ih h₂)

end ReserveActionState

namespace LendingPoolStorage

variable [Pendzl] {s s' s₁ : LendingPoolStorage} {k j t : ℕ}

/-- A snapshot of a reserve keeps every other ring. -/
lemma storeUtilizationRateSnapshot_keepsRing {rd : ReserveData} (hjk : k ≠ j)
    (h : s.storeUtilizationRateSnapshot j rd t = .ok s') : KeepsRing k s s' := by
  simp only [storeUtilizationRateSnapshot, bind_eq_ok] at h
  obtain ⟨_, -, h⟩ := h
  split_ifs at h with ht
  · simp only [pure_eq, Except.ok.injEq] at h
    exact h ▸ .refl k s
  · simp only [bind_eq_ok, pure_eq, Except.ok.injEq] at h
    obtain ⟨_, -, _, -, rfl⟩ := h
    refine ⟨Mapping.get_insert_of_ne _ hjk _, fun i => Mapping.get_insert_of_ne _ ?_ _⟩
    intro heq
    exact hjk (Prod.mk.inj heq).1

/-- What a utilization snapshot does to the ring of its reserve: nothing if the newest one is
not older, and one more snapshot otherwise. -/
lemma storeUtilizationRateSnapshot_ring {rd : ReserveData} {index : TwIndex}
    (h : s.storeUtilizationRateSnapshot k rd t = .ok s') (hi : s.twUrIndexes.get k = some index) :
    (t ≤ ((s.getTwUrEntry k index.value).getD default).timestamp ∧ s' = s)
      ∨ ∃ last u, (s.getTwUrEntry k index.value).getD default = last
        ∧ last.timestamp < t ∧ rd.currentUtilizationRateE6 = .ok u
        ∧ s'.twUrIndexes.get k = some index.next
        ∧ s'.getTwUrEntry k index.next.value
          = some ⟨t, (last.accumulator + u * (t - last.timestamp)) % 2 ^ 64⟩
        ∧ ∀ m, m ≠ index.next.value → s'.getTwUrEntry k m = s.getTwUrEntry k m := by
  simp only [storeUtilizationRateSnapshot, bind_eq_ok, unwrap_eq_ok] at h
  obtain ⟨index', hi', h⟩ := h
  cases hi.symm.trans hi'
  split_ifs at h with ht
  · simp only [pure_eq, Except.ok.injEq] at h
    exact .inl ⟨ht, h.symm⟩
  · simp only [bind_eq_ok, okOr_eq_ok, checkedMul_eq_some, pure_eq, Except.ok.injEq] at h
    obtain ⟨u, hu, _, ⟨rfl, -⟩, rfl⟩ := h
    refine .inr ⟨_, u, rfl, not_le.mp ht, hu, Mapping.get_insert_self .., ?_, fun m hm => ?_⟩
    · exact Mapping.get_insert_self ..
    · refine Mapping.get_insert_of_ne _ (fun heq => hm ?_) _
      exact (Prod.mk.inj heq).2

/-- The ring of a reserve has a snapshot of a time, or of a later one. -/
def HasSnapshot (s : LendingPoolStorage) (k t : ℕ) : Prop :=
  ∃ index, s.twUrIndexes.get k = some index
    ∧ t ≤ ((s.getTwUrEntry k index.value).getD default).timestamp

omit [Pendzl] in
lemma HasSnapshot.congr (h : s.HasSnapshot k t) (hring : KeepsRing k s s') :
    s'.HasSnapshot k t := by
  obtain ⟨index, hindex, ht⟩ := h
  exact ⟨index, hring.index.trans hindex, by rwa [hring.entry]⟩

/-- A snapshot brings the ring up to date. -/
lemma storeUtilizationRateSnapshot_hasSnapshot {rd : ReserveData}
    (h : s.storeUtilizationRateSnapshot k rd t = .ok s') : s'.HasSnapshot k t := by
  obtain ⟨index, hindex⟩ : ∃ index, s.twUrIndexes.get k = some index := by
    have hopened := h
    simp only [storeUtilizationRateSnapshot, bind_eq_ok, unwrap_eq_ok] at hopened
    obtain ⟨index, hindex, -⟩ := hopened
    exact ⟨index, hindex⟩
  rcases storeUtilizationRateSnapshot_ring h hindex with ⟨ht, rfl⟩ |
    ⟨last, u, -, -, -, hnext, hself, -⟩
  · exact ⟨index, hindex, ht⟩
  · refine ⟨index.next, hnext, ?_⟩
    rw [hself, Option.getD_some]

/-- A ring that is up to date stays as it is. -/
lemma HasSnapshot.storeUtilizationRateSnapshot (h : s.HasSnapshot k t) (rd : ReserveData) :
    s.storeUtilizationRateSnapshot k rd t = .ok s := by
  obtain ⟨index, hindex, ht⟩ := h
  simp only [LendingPoolStorage.storeUtilizationRateSnapshot, bind_eq_ok, unwrap_eq_ok]
  exact ⟨index, hindex, if_pos ht⟩

/-- What a snapshot leaves in the ring depends on the ring. -/
lemma storeUtilizationRateSnapshot_congr {rd : ReserveData} {s₂ : LendingPoolStorage}
    (hring : KeepsRing k s s₂) (h : s₂.storeUtilizationRateSnapshot k rd t = .ok s') :
    ∃ s₁, s.storeUtilizationRateSnapshot k rd t = .ok s₁ ∧ KeepsRing k s₁ s' := by
  simp only [storeUtilizationRateSnapshot, bind_eq_ok, unwrap_eq_ok] at h ⊢
  obtain ⟨index, hindex, h⟩ := h
  have hentry : s₂.twUrEntries.get (k, index.value) = s.twUrEntries.get (k, index.value) :=
    hring.entry index.value
  rw [hring.index] at hindex
  rw [hentry] at h
  split_ifs at h with ht
  · simp only [pure_eq, Except.ok.injEq] at h
    exact ⟨s, ⟨index, hindex, if_pos ht⟩, h ▸ hring⟩
  · simp only [bind_eq_ok, pure_eq, Except.ok.injEq] at h
    obtain ⟨u, hu, delta, hdelta, rfl⟩ := h
    refine ⟨s.withRing (s.twUrIndexes.insert k index.next) (s.twUrEntries.insert
      (k, index.next.value) ⟨t, (((s.twUrEntries.get (k, index.value)).getD default).accumulator
        + delta) % 2 ^ 64⟩), ⟨index, hindex, ?_⟩, ?_, fun i => ?_⟩
    · rw [if_neg ht, hu, ok_bind, hdelta]
      rfl
    · exact (Mapping.get_insert_self ..).trans (Mapping.get_insert_self ..).symm
    · simp only [getTwUrEntry, withRing_twUrEntries, Mapping.get_insert]
      split_ifs with hi
      · rfl
      · exact hring.entry i

/-- Recalculating the rates keeps the flags. -/
lemma recalculateRates_flags {rd rd' : ReserveData} (h : s.recalculateRates k rd = .ok rd') :
    rd'.activated = rd.activated ∧ rd'.frozen = rd.frozen := by
  obtain ⟨_, _, rfl⟩ := recalculateRates_ok h
  exact ⟨rfl, rfl⟩

omit [Pendzl] in
/-- The storage with other data of the accounts, whatever they are made of. -/
def updateAccounts (s : LendingPoolStorage)
    (datas : Mapping AccountId (List (Option AccountReserveData))
      → Mapping AccountId (List (Option AccountReserveData)))
    (configs : Mapping AccountId AccountConfig → Mapping AccountId AccountConfig) :
    LendingPoolStorage :=
  { s with
    accountReserveDatas := datas s.accountReserveDatas
    accountConfigs := configs s.accountConfigs }

section

variable (datas : Mapping AccountId (List (Option AccountReserveData))
    → Mapping AccountId (List (Option AccountReserveData)))
  (configs : Mapping AccountId AccountConfig → Mapping AccountId AccountConfig)

/-- A snapshot reads and writes nothing of the accounts. -/
lemma storeUtilizationRateSnapshot_updateAccounts (rd : ReserveData) :
    (s.updateAccounts datas configs).storeUtilizationRateSnapshot k rd t
      = (s.storeUtilizationRateSnapshot k rd t).map fun s₁ => s₁.updateAccounts datas configs := by
  simp only [storeUtilizationRateSnapshot, map_bind, apply_ite (Except.map _), pure_eq, map_ok]
  rfl

/-- Neither does the opening of a reserve. -/
lemma openReserve_updateAccounts :
    (s.updateAccounts datas configs).openReserve k t
      = (s.openReserve k t).map fun r => (r.1.updateAccounts datas configs, r.2) := by
  simp only [openReserve, storeUtilizationRateSnapshot_updateAccounts, map_bind, bind_map, pure_eq,
    map_ok]
  rfl

/-- **A visit of a reserve commutes with writing the data of accounts.** -/
theorem accountForReserveAction_updateAccounts {accountsData : List AccountReserveData}
    {accountsConfig : List AccountConfig} {reductions : List FeeReductions}
    {actions : List ReserveAction} :
    (s.updateAccounts datas configs).accountForReserveAction k accountsData accountsConfig
        reductions actions t
      = (s.accountForReserveAction k accountsData accountsConfig reductions actions t).map
        fun res => { res with storage := res.storage.updateAccounts datas configs } := by
  simp only [accountForReserveAction, openReserve_updateAccounts, map_bind, bind_map, pure_eq,
    map_ok]
  rfl

end

/-- **A list of reserve actions is a visit of its reserve**, and keeps the other ones. -/
theorem accountForReserveAction_visit {datas : List AccountReserveData}
    {configs : List AccountConfig} {reductions : List FeeReductions} {actions : List ReserveAction}
    {res : ReserveActionResult}
    (h : s.accountForReserveAction j datas configs reductions actions t = .ok res)
    (message : Message) (k : ℕ) : ReserveChange message k t s res.storage := by
  simp only [accountForReserveAction, openReserve, getReserveData, getReserveIndexesAndFees,
    getReserveRestrictions, bind_eq_ok, unwrap_eq_ok, pure_eq, Except.ok.injEq] at h
  obtain ⟨_, -, _, ⟨rd, hrd, r, hr, rr, hrr, s₁, hs₁, indexes, hup, rfl⟩, ⟨st, acts⟩, hrun, rd',
    hrates, rfl⟩ := h
  have hcont := ReserveActionState.applyActions_continues hrun
  obtain ⟨hactivated, hfrozen⟩ := recalculateRates_flags hrates
  obtain ⟨i, e, hs⟩ := storeUtilizationRateSnapshot_ok hs₁
  by_cases hkj : k = j
  · subst hkj
    have hvisit : Visit k t s (s₁.putReserve k rd' st.ctx.reserveIndexesAndFees) rd rd' r
        st.ctx.reserveIndexesAndFees := by
      refine ⟨hrd, hr, ?_, ?_, hactivated.trans hcont.activated, hfrozen.trans hcont.frozen,
        .inr ?_, .inr ⟨s₁, hs₁, .of_eq rfl rfl⟩⟩
      · exact Mapping.get_insert_self ..
      · exact Mapping.get_insert_self ..
      · rw [hcont.indexes]
        exact hup
    exact .visit hvisit
  · have hring := storeUtilizationRateSnapshot_keepsRing hkj hs₁
    refine .keep ⟨⟨hring.index, hring.entry⟩, ?_, ?_⟩ <;> subst hs
    · rw [putReserve_reserveDatas, Mapping.get_insert_of_ne _ hkj, withRing_reserveDatas]
    · rw [putReserve_reserveIndexesAndFees, Mapping.get_insert_of_ne _ hkj,
        withRing_reserveIndexesAndFees]

/-- An action of an account is a visit. -/
lemma applyAction_visit {st st' : AccountActionsState} {feeReductions : FeeReductions}
    {action action' : Action} {interests : ℕ × ℕ}
    (h : st.applyAction feeReductions t action = .ok (st', action', interests))
    (message : Message) (k : ℕ) : ReserveChange message k t st.storage st'.storage := by
  simp only [AccountActionsState.applyAction, bind_eq_ok, pure_eq, Except.ok.injEq,
    Prod.mk.injEq] at h
  obtain ⟨_, -, _, -, _, -, res, hres, _, -, _, -, _, -, _, -, rfl, -⟩ := h
  exact accountForReserveAction_visit hres message k

/-- The actions of an account are a chain of visits. -/
lemma accountForAccountActions_changes {env : Env} {account : AccountId} {actions : List Action}
    {res : AccountActionsResult}
    (h : s.accountForAccountActions env account actions = .ok res) (message : Message) (k : ℕ) :
    ReserveChanges message k env.blockTimestamp s res.storage := by
  obtain ⟨st, hst, -, hs⟩ := accountForAccountActions_ok h
  have hloop : ReserveChanges message k env.blockTimestamp s st.storage :=
    AccountActionsState.applyActions_induct
      (P := fun st => ReserveChanges message k env.blockTimestamp s st.storage)
      (fun _ _ _ _ _ hst hact => hst.tail (applyAction_visit hact message k)) hst .refl
  rw [hs]
  exact hloop.tail (.keep ((KeepsReserve.refl k _).putAccount ..))

/-- A liquidation is a chain of two visits. -/
lemma accountForLiquidate_changes {env : Env} {caller liquidated toRepay toTake : AccountId}
    {amount : ℕ} {res : LiquidateResult}
    (h : s.accountForLiquidate env caller liquidated toRepay toTake amount t = .ok res)
    (message : Message) (k : ℕ) : ReserveChanges message k t s res.storage := by
  simp only [accountForLiquidate, bind_eq_ok, pure_eq, Except.ok.injEq] at h
  obtain ⟨_, -, _, -, _, -, _, -, _, -, p, hp, _, -, _, -, _, -, _, -, h⟩ := h
  obtain ⟨_, -, _, -, _, -, _, -, _, -, _, -, _, -, q, hq, h⟩ := h
  obtain ⟨_, -, _, -, _, -, _, -, _, -, _, -, _, -, rfl⟩ := h
  have hpaid := (accountForReserveAction_visit hp message k).one
  have htaken := hpaid.tail (accountForReserveAction_visit hq message k)
  exact htaken.tail (.keep (((KeepsReserve.refl k _).putAccount ..).putAccount ..))

omit [Pendzl] in
/-- Writing the accounts of a transfer keeps the reserves. -/
lemma KeepsReserve.written (k : ℕ) (s : LendingPoolStorage) (a b : AccountId)
    (v w : List (Option AccountReserveData)) (c d : AccountConfig) :
    KeepsReserve k s ((((s.putDatas a v).putDatas b w).putConfig b c).putConfig a d) :=
  ((((KeepsReserve.refl k s).putDatas a v).putDatas b w).putConfig b c).putConfig a d

/-- A transfer of a deposit is a visit. -/
lemma accountForDepositTransferFromTo_changes {env : Env} {asset fromAccount toAccount : AccountId}
    {amount : ℕ} {res : TransferResult}
    (h : s.accountForDepositTransferFromTo env asset fromAccount toAccount amount t = .ok res)
    (message : Message) (k : ℕ) : ReserveChanges message k t s res.storage := by
  simp only [accountForDepositTransferFromTo, insertAccountData, bind_eq_ok] at h
  obtain ⟨_, -, _, -, _, -, _, -, _, -, q, hq, _, -, _, -, _, -, _, -, _, -, h⟩ := h
  have hvisit := (accountForReserveAction_visit hq message k).one
  split_ifs at h with hc
  · simp only [bind_eq_ok, pure_eq, Except.ok.injEq] at h
    obtain ⟨_, -, _, ⟨_, -, rfl⟩, _, -, _, -, rfl⟩ := h
    exact hvisit.tail (.keep (.written ..))
  · simp only [bind_eq_ok, pure_eq, Except.ok.injEq] at h
    obtain ⟨_, ⟨_, -, rfl⟩, _, -, _, -, rfl⟩ := h
    exact hvisit.tail (.keep (.written ..))

/-- A transfer of a debt is a visit. -/
lemma accountForDebtTransferFromTo_changes {env : Env} {asset fromAccount toAccount : AccountId}
    {amount : ℕ} {res : TransferResult}
    (h : s.accountForDebtTransferFromTo env asset fromAccount toAccount amount t = .ok res)
    (message : Message) (k : ℕ) : ReserveChanges message k t s res.storage := by
  simp only [accountForDebtTransferFromTo, insertAccountData, bind_eq_ok, pure_eq,
    Except.ok.injEq] at h
  obtain ⟨_, -, _, -, _, -, _, -, q, hq, _, -, _, -, _, -, _, -, _, -, _, ⟨_, -, rfl⟩, _, -, _, -,
    rfl⟩ := h
  have hvisit := (accountForReserveAction_visit hq message k).one
  exact hvisit.tail (.keep (.written ..))

/-! ### Setters -/

/-- A poke is a visit. -/
lemma accountForAccumulateInterest_change {asset : AccountId}
    (h : s.accountForAccumulateInterest asset t = .ok s') (message : Message) (k : ℕ) :
    ReserveChange message k t s s' := by
  obtain ⟨j, rd, r, indexes, rd', i, e, -, hrd, hr, hs₁, hup, hrates, rfl⟩ :=
    accountForAccumulateInterest_ok h
  obtain ⟨hactivated, hfrozen⟩ := recalculateRates_flags hrates
  by_cases hkj : k = j
  · subst hkj
    exact .visit ⟨hrd, hr, Mapping.get_insert_self .., Mapping.get_insert_self .., hactivated,
      hfrozen, .inr hup, .inr ⟨_, hs₁, .of_eq rfl rfl⟩⟩
  · have hring := storeUtilizationRateSnapshot_keepsRing hkj hs₁
    refine .keep ⟨⟨hring.index, hring.entry⟩, ?_, ?_⟩
    · rw [putReserve_reserveDatas, Mapping.get_insert_of_ne _ hkj, withRing_reserveDatas]
    · rw [putReserve_reserveIndexesAndFees, Mapping.get_insert_of_ne _ hkj,
        withRing_reserveIndexesAndFees]

/-- A new model is a visit without a snapshot, which changes no total. -/
lemma accountForInterestRateModelChange_change {asset : AccountId} {model : InterestRateModel}
    (h : s.accountForInterestRateModelChange asset model t = .ok s') (message : Message) (k : ℕ) :
    ReserveChange message k t s s' := by
  obtain ⟨j, rd, r, indexes, rd', -, hrd, hr, hup, hrates, rfl⟩ :=
    accountForInterestRateModelChange_ok h
  obtain ⟨_, _, rfl⟩ := recalculateCurrentRates_ok hrates
  by_cases hkj : k = j
  · subst hkj
    exact .visit ⟨hrd, hr, Mapping.get_insert_self .., Mapping.get_insert_self .., rfl, rfl,
      .inr hup, .inl ⟨.of_eq rfl rfl, rfl⟩⟩
  · refine .keep (.of_eq ?_ ?_ rfl rfl)
    · exact Mapping.get_insert_of_ne _ hkj _
    · exact Mapping.get_insert_of_ne _ hkj _

omit [Pendzl] in
/-- New reserve data with the same flags and totals. -/
lemma KeepsReserve.putReserveData {rd rd' : ReserveData} (hrd : s.reserveDatas.get j = some rd)
    (hsteady : rd'.steady = rd.steady) (k : ℕ) : KeepsReserve k s (s.putReserveData j rd') := by
  refine ⟨.of_eq rfl rfl, ?_, rfl⟩
  rw [putReserveData_reserveDatas, Mapping.get_insert]
  split_ifs with hkj
  · rw [hkj, hrd, Option.map_some, Option.map_some, hsteady]
  · rfl

omit [Pendzl] in
/-- New fees. -/
lemma KeepsReserve.putFees {r : ReserveIndexesAndFees}
    (hr : s.reserveIndexesAndFees.get j = some r) (fees : ReserveFees) (k : ℕ) :
    KeepsReserve k s (s.putIndexesAndFees j { r with fees }) := by
  refine ⟨.of_eq rfl rfl, rfl, ?_⟩
  rw [putIndexesAndFees_reserveIndexesAndFees, Mapping.get_insert]
  split_ifs with hkj
  · rw [hkj, hr, Option.map_some, Option.map_some]
  · rfl

omit [Pendzl] in
lemma KeepsReserve.trans {s'' : LendingPoolStorage} (h : KeepsReserve k s s')
    (h' : KeepsReserve k s' s'') : KeepsReserve k s s'' :=
  ⟨⟨h'.index.trans h.index, fun i => (h'.entry i).trans (h.entry i)⟩, h'.steady.trans h.steady,
    h'.indexes.trans h.indexes⟩

omit [Pendzl] in
/-- Taking the income changes fees only. -/
lemma takeProtocolIncome_keepsReserve {assets : List AccountId} {incomes : List (AccountId × ℕ)}
    (h : s.takeProtocolIncome assets = .ok (s', incomes)) (k : ℕ) : KeepsReserve k s s' := by
  induction assets generalizing s incomes with
  | nil =>
      simp only [takeProtocolIncome, Except.ok.injEq, Prod.mk.injEq] at h
      exact h.1 ▸ .refl k s
  | cons asset rest ih =>
      simp only [takeProtocolIncome, bind_eq_ok, okOr_eq_ok, pure_eq, Except.ok.injEq,
        Prod.mk.injEq] at h
      obtain ⟨j, -, r, hr, ⟨s₁, _⟩, h₁, rfl, -⟩ := h
      exact (KeepsReserve.putFees hr _ k).trans (ih h₁)

omit [Pendzl] in
/-- The registration of an asset opens its reserve, and keeps the others. -/
lemma register_opens {asset : AccountId} {restrictions : ReserveRestrictions} {multiplier : ℕ}
    {fees : ReserveFees} {model : Option InterestRateModel} {tokens : ReserveAbacusTokens}
    {rules : AssetRules} {s₁ s₂ : LendingPoolStorage}
    (h₁ : s.accountForRegisterAsset asset ReserveData.initial restrictions multiplier fees model t
      = .ok s₁)
    (h₂ : s₁.accountForSetAbacusTokens asset tokens = .ok s₂)
    (h₃ : s₂.accountForAssetRuleChange 0 asset rules = .ok s') : OpensReserve t s s' := by
  have hindexes := (register_ok h₁ h₂ h₃).2.1
  obtain ⟨-, _, rfl⟩ := register_storage h₁ h₂ h₃
  refine ⟨⟨fees, hindexes⟩, Mapping.get_insert_self .., fun _ _ => rfl, fun k hk => ?_⟩
  refine ⟨⟨Mapping.get_insert_of_ne _ hk _, fun _ => rfl⟩, ?_, ?_⟩
  · exact congrArg (Option.map ReserveData.steady) (Mapping.get_insert_of_ne _ hk _)
  · exact congrArg (Option.map ReserveIndexesAndFees.indexes) (Mapping.get_insert_of_ne _ hk _)

end LendingPoolStorage

/-! ### Messages -/

namespace World

variable [Pendzl] {w w' : World} {env : Env} {message : Message}

/-- A move of a position is a visit. -/
lemma TokenMove.changes {tokenAddress : AccountId} {token : AbacusToken}
    {fromAccount toAccount : AccountId} {amount : ℕ} {s s' : LendingPoolStorage}
    (h : TokenMove env tokenAddress token fromAccount toAccount amount s s') (message : Message)
    (k : ℕ) : LendingPoolStorage.ReserveChanges message k env.blockTimestamp s s' := by
  refine h.rule (fun res hres => ?_) fun res hres => ?_
  · exact LendingPoolStorage.accountForDepositTransferFromTo_changes hres message k
  · exact LendingPoolStorage.accountForDebtTransferFromTo_changes hres message k

/-- A registration that succeeds registers its asset and opens its reserve. -/
lemma execute_registers {asset : AccountId} (h : w.execute env message = .ok w')
    (hm : message.registers = some asset) :
    w.pool.Registers w'.pool asset ∧ w.pool.OpensReserve env.blockTimestamp w'.pool := by
  have hstep := (execute_frame h).1
  cases message with
  | registerAsset _ decimals rules restrictions depositFeeE6 debtFeeE6 params =>
      cases hm
      obtain ⟨s₁, s₂, multiplier, tokens, h₁, h₂, h₃⟩ := hstep
      exact ⟨(LendingPoolStorage.register_ok h₁ h₂ h₃).1,
        LendingPoolStorage.register_opens h₁ h₂ h₃⟩
  | _ => cases hm

/-- Assets stay registered with their id. -/
lemma execute_assetToId {asset : AccountId} {k : ℕ} (hex : w.execute env message = .ok w')
    (hk : w.pool.assetToId.get asset = some k) : w'.pool.assetToId.get asset = some k := by
  cases hm : message.registers with
  | some other =>
      obtain ⟨hr, -⟩ := execute_registers hex hm
      have hne : asset ≠ other := by
        rintro rfl
        rw [hr.fresh] at hk
        cases hk
      rw [hr.assetToId, Mapping.get_insert_of_ne _ hne, hk]
  | none =>
      rw [(execute_keepsRegistry hex hm).assetToId, hk]

/-- **A message that registers nothing changes a reserve by visits and switches.** -/
theorem execute_changes (h : w.execute env message = .ok w') (hm : message.registers = none)
    (k : ℕ) : LendingPoolStorage.ReserveChanges message k env.blockTimestamp w.pool w'.pool := by
  have hstep := (execute_frame h).1
  cases hactions : message.userActions with
  | some p =>
      obtain ⟨res, hres, hs⟩ := execute_userActions h hactions
      exact hs ▸ LendingPoolStorage.accountForAccountActions_changes hres _ k
  | none =>
      cases message with
      | deposit | withdraw | borrow | repay | multiOp => cases hactions
      | liquidate liquidatedAccount assetToRepay assetToTake amountToRepay minimumRecieved =>
          obtain ⟨res, hres, hs⟩ := hstep
          exact hs ▸ LendingPoolStorage.accountForLiquidate_changes hres _ k
      | accumulateInterest asset =>
          exact (LendingPoolStorage.accountForAccumulateInterest_change hstep _ k).one
      | registerAsset asset decimals rules restrictions depositFeeE6 debtFeeE6 params =>
          cases hm
      | setReserveIsActive asset active =>
          obtain ⟨j, rd, hj, hrd, hflag, hs⟩ :=
            LendingPoolStorage.accountForChangingActivity_ok hstep
          by_cases hkj : k = j
          · subst hkj
            exact (LendingPoolStorage.ReserveChange.switch rfl hj hrd hflag hs).one
          · have hkeep : w.pool.KeepsReserve k w'.pool := by
              rw [hs]
              exact .of_eq (Mapping.get_insert_of_ne _ hkj _) rfl rfl rfl
            exact hkeep.changes
      | setReserveIsFrozen asset newIsFrozen =>
          obtain ⟨j, rd, hj, hrd, hflag, hs⟩ :=
            LendingPoolStorage.accountForChangingIsFrozen_ok hstep
          by_cases hkj : k = j
          · subst hkj
            exact (LendingPoolStorage.ReserveChange.freeze rfl hj hrd hflag hs).one
          · have hkeep : w.pool.KeepsReserve k w'.pool := by
              rw [hs]
              exact .of_eq (Mapping.get_insert_of_ne _ hkj _) rfl rfl rfl
            exact hkeep.changes
      | setInterestRateModel asset params =>
          exact (LendingPoolStorage.accountForInterestRateModelChange_change hstep _ k).one
      | setReserveFees asset depositFeeE6 debtFeeE6 =>
          obtain ⟨j, r, -, hr, hs⟩ := LendingPoolStorage.accountForReserveFeesChange_ok hstep
          rw [hs]
          exact (LendingPoolStorage.KeepsReserve.putFees hr _ k).changes
      | setStablecoinDebtRateE18 asset rate =>
          obtain ⟨j, rd, -, hrd, hs⟩ :=
            LendingPoolStorage.accountForStablecoinDebtRateE18Change_ok hstep
          have hkeep : w.pool.KeepsReserve k w'.pool := by
            rw [hs]
            refine .putReserveData hrd ?_ k
            rfl
          exact hkeep.changes
      | takeProtocolIncome assets toAccount =>
          obtain ⟨list, incomes, hs⟩ := hstep
          exact (LendingPoolStorage.takeProtocolIncome_keepsReserve hs k).changes
      | transfer token toAccount value =>
          obtain ⟨t, -, hmove⟩ := hstep
          exact hmove.changes _ k
      | transferFrom token fromAccount toAccount value =>
          obtain ⟨t, -, hmove⟩ := hstep
          exact hmove.changes _ k
      | _ =>
          -- the others write no reserve
          exact .of_eq (execute_keeps (·.reserveDatas) (fun _ => rfl) h)
            (execute_keeps (·.reserveIndexesAndFees) (fun _ => rfl) h)
            (execute_keeps (·.twUrIndexes) (fun _ => rfl) h)
            (execute_keeps (·.twUrEntries) (fun _ => rfl) h)

end World

end AbaxLending
