import AbaxLending.Effects.Payout
import AbaxLending.Effects.Views
import AbaxLending.Effects.WindowSearch
import AbaxLending.Invariants.Choices
import AbaxLending.Invariants.FreeCollateral

/-!
The other views, and what they stand for.

* `stored_views_show_settings`: the views of what is stored show what the administrators
  decided and the accounts chose;
* `account_rows_grow`: the entries that are brought to the time of the call are at least the
  stored ones;
* `income_view_iff`: the view of the incomes shows what taking them returns, unless an asset
  with income is repeated;
* `ring_views_show_log`, `adjustment_by_view`: the views of the ring of utilization snapshots;
* `free_collateral_refuses_liquidation`: an account that the view of the free collateral shows
  as collateralized cannot be liquidated.
-/

namespace AbaxLending

open Outcome LendingPoolView

/-! ### Settings and choices -/

namespace World

section

variable [Pendzl] {w w' : World} {env : Env}

/-- The ids of every run have their reserves, without a clock. -/
lemma run_occupied {messages : List (Env × Message)} (hw : w.IsInitial)
    (h : w.run messages = some w') : w'.pool.Occupied := by
  refine run_invariant (P := fun w => w.pool.Occupied)
    (fun env message w w' _ hP hex => execute_occupied hP hex) h ?_
  rw [hw.1]
  exact .new

omit [Pendzl] in
/-- The data of a reserve are shown for the registered assets. -/
lemma viewReserveData_isSome_iff {σ : Settings} (hσ : σ.Describes w.pool) (hl : w.Linked)
    (hocc : w.pool.Occupied) (asset : AccountId) :
    (viewReserveData w.pool asset).isSome = true ↔ asset ∈ σ.assets := by
  rw [viewReserveData, ← hσ.assets.contains_iff, Mapping.contains]
  cases hk : w.pool.assetToId.get asset with
  | none => rfl
  | some k =>
      obtain ⟨rd, r, hrd, -⟩ := hocc.reserve hl.ids hk
      rw [Option.bind_some, hrd]
      rfl

/-- **The stored views show what was decided and chosen.**  After every run from a new pool the
view of the fee of flash loans and the views of the market rules show what the administrators
decided last, the id of an asset is its place in the list of the registered assets, and the
config of an account has the market rule that the account chose last.  The bulk views of the
reserve data return for every list, with one row for each asset in their order and data for the
registered ones; both read the stored data. -/
theorem stored_views_show_settings {messages : List (Env × Message)} (hw : w.IsInitial)
    (h : w.run messages = some w') :
    viewFlashLoanFeeE6 w'.pool = unwrap (settingsOf messages).flashLoanFeeE6
      ∧ (∀ asset, viewAssetId w'.pool asset = (settingsOf messages).assets.idxOf? asset)
      ∧ (∀ id rule, (settingsOf messages).rules[id]? = some rule →
        ∀ asset k, viewAssetId w'.pool asset = some k →
          ((viewMarketRule w'.pool id).bind fun stored => stored[k]?.join) = rule asset)
      ∧ (∀ account, (viewAccountConfig w'.pool account).marketRuleId
        = lastWrite (choosesRule account) 0 messages)
      ∧ ∀ assets, ∃ rows, BalanceViewer.viewUnupdatedReserveDatas w'.pool assets = .ok rows
        ∧ BalanceViewer.viewReserveDatas w'.pool assets = .ok rows
        ∧ List.Forall₂ (fun asset row => row.1 = asset
            ∧ (row.2.isSome = true ↔ asset ∈ (settingsOf messages).assets))
          (assets.getD (settingsOf messages).assets) rows := by
  have hσ := run_describes hw h
  obtain ⟨hl, -⟩ := run_listed hw h
  have hocc := run_occupied hw h
  refine ⟨congrArg unwrap hσ.flashLoanFeeE6, fun asset => hσ.assets.number_eq asset, ?_,
    fun account => (choices_are_own hw h account).1, fun assets => ?_⟩
  · intro id rule hrule asset k hk
    rw [← hσ.rules id rule hrule, Numbers.lookup, show w'.pool.assetToId.get asset = some k from hk]
    rfl
  · have hlisted := BalanceViewer.assetsToView_eq hσ assets
    obtain ⟨rows, hrows⟩ : ∃ rows, BalanceViewer.viewReserveDatas w'.pool assets = .ok rows :=
      (BalanceViewer.viewEach_returns_iff hlisted).mpr fun asset _ => ⟨_, rfl⟩
    obtain ⟨listed, hlisted', hforall⟩ := BalanceViewer.viewEach_eq_ok.mp hrows
    cases hlisted.symm.trans hlisted'
    refine ⟨rows, hrows, hrows, hforall.imp fun asset row hrow => ⟨hrow.1, ?_⟩⟩
    rw [← Except.ok.inj hrow.2]
    exact viewReserveData_isSome_iff hσ hl hocc asset

end

end World

/-! ### The entries of an account -/

namespace BalanceViewer

variable [Pendzl] {s : LendingPoolStorage} {env : Env} {account : AccountId}

/-- The entry of an account at the time of the call is at least the stored one. -/
lemma viewAccountReserveData_grows {asset : AccountId} {data : AccountReserveData}
    (h : viewAccountReserveData s env asset account = .ok data) :
    (viewUnupdatedAccountReserveData s asset account).deposit ≤ data.deposit
      ∧ (viewUnupdatedAccountReserveData s asset account).debt ≤ data.debt := by
  cases hk : s.assetToId.get asset with
  | none =>
      simp only [viewAccountReserveData, hk, Except.ok.injEq] at h
      rw [viewUnupdatedAccountReserveData, hk, ← h]
      exact ⟨le_rfl, le_rfl⟩
  | some k =>
      simp only [viewAccountReserveData, hk, bind_eq_ok, unwrapOk_eq_ok, pure_eq,
        Except.ok.injEq] at h
      obtain ⟨_, -, r, -, indexes, -, accrual, haccrual, rfl⟩ := h
      obtain ⟨hdeposit, hdebt, -⟩ :=
        AccountReserveData.accumulateAccountInterest_spec haccrual
      rw [viewUnupdatedAccountReserveData, hk, hdeposit, hdebt]
      exact ⟨Nat.le_add_right _ _, Nat.le_add_right _ _⟩

/-- **Accruing only adds to what an account sees.**  When the bulk view of the entries of an
account returns, so does the one of the stored entries, for the same assets, with amounts that
are not larger. -/
theorem account_rows_grow {assets : Option (List AccountId)}
    {rows : List (AccountId × AccountReserveData)}
    (h : viewAccountReserveDatas s env assets account = .ok rows) :
    ∃ stored, viewUnupdatedAccountReserveDatas s assets account = .ok stored
      ∧ List.Forall₂ (fun old row => row.1 = old.1 ∧ old.2.deposit ≤ row.2.deposit
        ∧ old.2.debt ≤ row.2.debt) stored rows := by
  obtain ⟨listed, hlisted, hforall⟩ := viewEach_eq_ok.mp h
  refine ⟨listed.map fun asset => (asset, viewUnupdatedAccountReserveData s asset account),
    viewEach_eq_ok.mpr ⟨listed, hlisted, ?_⟩, ?_⟩
  · rw [List.forall₂_map_right_iff, List.forall₂_same]
    exact fun asset _ => ⟨rfl, rfl⟩
  · rw [List.forall₂_map_left_iff]
    exact hforall.imp fun asset row hrow => ⟨hrow.1, viewAccountReserveData_grows hrow.2⟩

end BalanceViewer

/-! ### Incomes -/

namespace LendingPoolStorage

variable {s s' : LendingPoolStorage} {assets : List AccountId} {incomes : List (AccountId × ℕ)}

/-- The view of the incomes shows what each asset earned. -/
lemma viewProtocolIncome_eq_ok :
    s.viewProtocolIncome assets = .ok incomes
      ↔ (∀ asset ∈ assets, ∃ k r, s.assetToId.get asset = some k
          ∧ s.reserveIndexesAndFees.get k = some r)
        ∧ incomes = assets.map fun asset => (asset, s.earnedOf asset) := by
  induction assets generalizing incomes with
  | nil => simp [viewProtocolIncome, eq_comm]
  | cons asset rest ih =>
      simp only [viewProtocolIncome, assetId, bind_eq_ok, okOr_eq_ok, pure_eq, Except.ok.injEq, ih,
        List.forall_mem_cons, List.map_cons]
      constructor
      · rintro ⟨k, hk, r, hr, _, ⟨hrest, rfl⟩, rfl⟩
        exact ⟨⟨⟨k, r, hk, hr⟩, hrest⟩, by rw [earnedOf_of_get hk, earnedFee_of_get hr]; rfl⟩
      · rintro ⟨⟨⟨k, r, hk, hr⟩, hrest⟩, rfl⟩
        exact ⟨k, hk, r, hr, _, ⟨hrest, rfl⟩, by rw [earnedOf_of_get hk, earnedFee_of_get hr]; rfl⟩

/-- The incomes that are taken are those of registered assets. -/
lemma takeProtocolIncome_registered (h : s.takeProtocolIncome assets = .ok (s', incomes)) :
    ∀ asset ∈ assets, ∃ k r, s.assetToId.get asset = some k
      ∧ s.reserveIndexesAndFees.get k = some r := by
  induction assets generalizing s s' incomes with
  | nil => exact fun _ hmem => absurd hmem List.not_mem_nil
  | cons head rest ih =>
      simp only [takeProtocolIncome, assetId, bind_eq_ok, okOr_eq_ok, pure_eq, Except.ok.injEq,
        Prod.mk.injEq, Prod.exists] at h
      obtain ⟨k, hk, r, hr, s₁, rest', hrest, -⟩ := h
      refine List.forall_mem_cons.mpr ⟨⟨k, r, hk, hr⟩, fun asset hmem => ?_⟩
      obtain ⟨j, r', hj, hr'⟩ := ih hrest asset hmem
      rw [putIndexesAndFees_reserveIndexesAndFees, Mapping.get_insert] at hr'
      split_ifs at hr' with hjk
      · exact ⟨k, r, hjk ▸ hj, hr⟩
      · exact ⟨j, r', hj, hr'⟩

end LendingPoolStorage

/-- The incomes of a list, place by place. -/
lemma getElem?_incomesOf (earned : AccountId → ℕ) (assets : List AccountId) (n : ℕ) :
    (incomesOf earned assets)[n]?
      = assets[n]?.map fun asset => (asset, if asset ∈ assets.take n then 0 else earned asset) := by
  induction assets generalizing earned n with
  | nil => rfl
  | cons head rest ih =>
      cases n with
      | zero => simp [incomesOf]
      | succ n =>
          rw [incomesOf, List.getElem?_cons_succ, List.getElem?_cons_succ, ih]
          refine congrArg (fun f => rest[n]?.map f) (funext fun asset => ?_)
          by_cases hhead : asset = head
          · simp [hhead]
          · simp [hhead]

/-- The incomes of a list are what each asset earned when no asset with income is repeated. -/
lemma incomesOf_eq_map_iff {earned : AccountId → ℕ} {assets : List AccountId} :
    incomesOf earned assets = assets.map (fun asset => (asset, earned asset))
      ↔ ∀ n asset, assets[n]? = some asset → asset ∈ assets.take n → earned asset = 0 := by
  rw [List.ext_getElem?_iff]
  refine forall_congr' fun n => ?_
  rw [getElem?_incomesOf, List.getElem?_map]
  cases assets[n]? with
  | none => simp
  | some asset =>
      simp only [Option.map_some, Option.some.injEq, Prod.mk.injEq, true_and, forall_eq']
      split_ifs with hmem
      · exact ⟨fun h _ => h.symm, fun h => (h hmem).symm⟩
      · exact iff_of_true rfl fun h => absurd h hmem

namespace World

variable {w w' : World} {env : Env}

/-- **The view of the incomes and taking them.**  When a message takes the incomes of a list, or
of all registered assets, the view showed what it returns if and only if no asset with income is
repeated in the list: it is taken once, and shown at every place. -/
theorem income_view_iff {assets : Option (List AccountId)} {list : List AccountId}
    {toAccount : AccountId} {incomes : List (AccountId × ℕ)} (hids : w.pool.IdsUnique)
    (hlist : w.incomeAssets assets = .ok list)
    (hex : w.takeProtocolIncome env assets toAccount = .ok (w', incomes)) :
    LendingPoolView.viewProtocolIncome w.pool assets = .ok incomes
      ↔ ∀ n asset, list[n]? = some asset → asset ∈ list.take n → w.pool.earnedOf asset = 0 := by
  have hview : LendingPoolView.viewProtocolIncome w.pool assets
      = unwrapOk (w.pool.viewProtocolIncome list) := by
    cases assets with
    | some assets =>
        cases hlist
        rfl
    | none =>
        have hall : w.pool.getAllRegisteredAssets = .ok list := hlist
        rw [LendingPoolView.viewProtocolIncome, hall]
        rfl
  simp only [takeProtocolIncome, hlist, ok_bind, bind_eq_ok, pure_eq, Except.ok.injEq,
    Prod.mk.injEq, Prod.exists] at hex
  obtain ⟨-, -, pool, incomes', hclear, w₁, -, rfl, rfl⟩ := hex
  have hregistered := LendingPoolStorage.takeProtocolIncome_registered hclear
  rw [hview, unwrapOk_eq_ok, LendingPoolStorage.viewProtocolIncome_eq_ok, and_iff_right hregistered,
    (LendingPoolStorage.takeProtocolIncome_incomes hids hclear).1, incomesOf_eq_map_iff]

/-! ### The ring of utilization snapshots -/

variable [Pendzl] {t k : ℕ} {kind : Message → Prop} {asset : AccountId}

/-- **The views of the ring show a log.**  In every reachable world the views of a registered
asset show its index and the slots of its ring, and read backwards from the index the slots are
a log of snapshots that get strictly older, followed by empty slots. -/
theorem ring_views_show_log (h : Reachable kind t w) (hk : viewAssetId w.pool asset = some k) :
    ∃ (i : ℕ) (log : List TwEntry), viewAssetTwIndex w.pool asset = some ⟨i⟩
      ∧ (log.Pairwise fun newer older => older.timestamp < newer.timestamp)
      ∧ ∀ j < TW_INDEX_SIZE, (viewAssetTwEntries w.pool asset 0 TW_INDEX_SIZE)[
          RingBuffer.behind TW_INDEX_SIZE i j]? = some log[j]? := by
  have hid : w.pool.assetToId.get asset = some k := hk
  obtain ⟨i, log, hring⟩ := reachable_orderedRing h hid
  refine ⟨i, log, ?_, hring.ordered, fun j hj => ?_⟩
  · rw [viewAssetTwIndex, hid, Option.bind_some, hring.index]
  · have hslot : RingBuffer.behind TW_INDEX_SIZE i j < TW_INDEX_SIZE :=
      Nat.mod_lt _ (Nat.zero_lt_of_lt hj)
    have hentry := hring.ring.slots j hj
    rw [viewAssetTwEntries, hid]
    simp only [Nat.sub_zero, List.getElem?_map, List.getElem?_range' hslot, Option.map_some]
    rw [← hentry, LendingPoolStorage.getTwUrEntry]
    simp

/-- **A rate is adjusted by what the view shows**, for the period of its model. -/
theorem adjustment_by_view {guessedIndex : ℕ}
    (hex : w.execute env (.adjustRateAtTarget asset guessedIndex) = .ok w') :
    ∃ model u model', viewInterestRateModel w.pool asset = some model
      ∧ viewTwUrFromPeriodLongerThan w.pool env model.minimalTimeBetweenAdjustments asset
        guessedIndex = .ok u
      ∧ model.adjustRateAtTarget u env.blockTimestamp = .ok model'
      ∧ viewInterestRateModel w'.pool asset = some model' := by
  have hassets := (execute_keepsRegistry hex rfl).assetToId
  simp only [execute, mapErr_eq_ok, bind_eq_ok, pure_eq, Except.ok.injEq] at hex
  obtain ⟨⟨w₁, rate⟩, hadjust, rfl⟩ := hex
  obtain ⟨k, model, u, model', hk, hmodel, hu, hmodel', hmodels⟩ := adjustRateAtTarget_ok hadjust
  refine ⟨model, u, model', ?_, ?_, hmodel', ?_⟩
  · rw [viewInterestRateModel, hk, Option.bind_some, hmodel]
  · rw [viewTwUrFromPeriodLongerThan, LendingPoolStorage.assetId, hk]
    exact hu
  · rw [viewInterestRateModel, hassets, hk, Option.bind_some, hmodels, Mapping.get_insert_self]

/-! ### Free collateral -/

/-- The view of the free collateral shows a collateralized account when its check passes. -/
lemma free_collateral_iff {x : AccountId} :
    (∃ free, getAccountFreeCollateralCoefficient w.pool env x = .ok (true, free))
      ↔ w.pool.ensureCollateralizedByAccount env x = .ok () := by
  rw [LendingPoolStorage.ensureCollateralizedByAccount_eq]
  simp only [getAccountFreeCollateralCoefficient, unwrapOk_eq_ok, bind_eq_ok, failIf_eq_ok,
    Prod.exists, Bool.not_eq_false]
  constructor
  · rintro ⟨free, h⟩
    exact ⟨true, free, h, rfl⟩
  · rintro ⟨_, free, h, rfl⟩
    exact ⟨free, h⟩

/-- **An account that the view shows as collateralized cannot be liquidated**, for any pair of
assets, amount and minimum. -/
theorem free_collateral_refuses_liquidation {x : AccountId} {free : ℕ}
    (h : getAccountFreeCollateralCoefficient w.pool env x = .ok (true, free))
    (toRepay toTake : AccountId) (amount minimum : ℕ) :
    w.execute env (.liquidate x toRepay toTake amount minimum)
      = .error (.err (.pool .collaterized)) :=
  liquidate_refused (free_collateral_iff.mp ⟨free, h⟩)

end World

end AbaxLending
