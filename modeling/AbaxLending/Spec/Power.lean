import AbaxLending.Spec.Positions

/-!
What the collateral check reads, and when it can be evaluated.

The check reads the prices, the market rules, the decimals (`SamePricing`), the stored
indexes of the active assets (`accrualPart`, `ActiveIn`) and the vector, config and fee
reductions of one account (`calculateLendingPowerE6_congr`).

The loop over the active assets of an account ends with an error value for two
reasons only: some amount does not fit its type (`IsMathError`), or an active asset
has no coefficient in the market rule of the account (`MissingCoefficient`).  A check
that returns no value is explained by `calculateLendingPowerOfAnAccountE6_raises`.
-/

namespace AbaxLending

open Outcome

/-! ### What the check reads -/

namespace LendingPoolStorage

/-- Two storages with the same assets, prices, rules and decimals. -/
structure SamePricing (s s' : LendingPoolStorage) : Prop where
  nextAssetId : s'.nextAssetId = s.nextAssetId
  idToAsset : s'.idToAsset = s.idToAsset
  priceFeedProvider : s'.priceFeedProvider = s.priceFeedProvider
  marketRules : s'.marketRules = s.marketRules
  reserveDecimalMultiplier : s'.reserveDecimalMultiplier = s.reserveDecimalMultiplier

/-- What an accrual reads of a stored reserve. -/
def accrualPart (s : LendingPoolStorage) (k : ℕ) : Option (ℕ × ℕ × ReserveFees) :=
  (s.reserveIndexesAndFees.get k).map fun r =>
    (r.indexes.depositIndexE18, r.indexes.debtIndexE18, r.fees)

/-- An asset that the loop of the check works on: its bit is set, as a deposit that is a
collateral or as a borrow, and it has an entry. -/
def ActiveIn (config : AccountConfig) (datas : List (Option AccountReserveData)) (k : ℕ) : Prop :=
  ((config.deposits &&& config.collaterals) ||| config.borrows).getLsbD k = true
    ∧ datas[k]?.join ≠ none

section

variable [Pendzl] {s s' : LendingPoolStorage}

/-- One side of an asset depends on the shared parts only. -/
lemma addSidePower_congr (h : SamePricing s s') : s'.addSidePower = s.addSidePower := by
  funext bitmap prices k amount coefficient disabled power
  simp only [addSidePower, getDecimalMultiplier, h.reserveDecimalMultiplier]

/-- An accrual reads the two indexes only. -/
lemma accumulateAccountInterest_congr {indexes indexes' : ReserveIndexes}
    (hd : indexes'.depositIndexE18 = indexes.depositIndexE18)
    (hb : indexes'.debtIndexE18 = indexes.debtIndexE18) (data : AccountReserveData) :
    data.accumulateAccountInterest indexes' = data.accumulateAccountInterest indexes := by
  funext fees reductions
  simp only [AccountReserveData.accumulateAccountInterest, AccountReserveData.accumulateDeposit,
    AccountReserveData.accumulateDebt, hd, hb]

/-- One asset of the lending power depends on the shared parts and its own reserve. -/
lemma addAssetPower_congr {k : ℕ} (h : SamePricing s s') (hk : s'.accrualPart k = s.accrualPart k)
    (rule : MarketRule) (collaterals debts : Bitmap128) (reductions : FeeReductions)
    (prices : List ℕ) (data : AccountReserveData) (powers : ℕ × ℕ) :
    s'.addAssetPower rule collaterals debts reductions prices k data powers
      = s.addAssetPower rule collaterals debts reductions prices k data powers := by
  simp only [addAssetPower, getReserveIndexesAndFees, addSidePower_congr h]
  cases hr : s.reserveIndexesAndFees.get k with
  | none =>
      simp only [accrualPart, hr, Option.map_none, Option.map_eq_none_iff] at hk
      rw [hk]
  | some r =>
      simp only [accrualPart, hr, Option.map_some, Option.map_eq_some_iff, Prod.mk.injEq] at hk
      obtain ⟨r', hr', hd, hb, hf⟩ := hk
      simp only [hr', unwrap, ok_bind, accumulateAccountInterest_congr hd hb, hf]

/-- One asset whose entry is caught up does not depend on the fees of its reserve. -/
lemma addAssetPower_caughtUp {k : ℕ} {r r' : ReserveIndexesAndFees} {data : AccountReserveData}
    (h : SamePricing s s') (hr : s.reserveIndexesAndFees.get k = some r)
    (hr' : s'.reserveIndexesAndFees.get k = some r') (hindexes : r'.indexes = r.indexes)
    (hd : r.indexes.depositIndexE18 ≤ data.appliedDepositIndexE18)
    (hb : r.indexes.debtIndexE18 ≤ data.appliedDebtIndexE18)
    (rule : MarketRule) (collaterals debts : Bitmap128) (reductions : FeeReductions)
    (prices : List ℕ) (powers : ℕ × ℕ) :
    s'.addAssetPower rule collaterals debts reductions prices k data powers
      = s.addAssetPower rule collaterals debts reductions prices k data powers := by
  have haccrual := AccountReserveData.accumulateAccountInterest_of_le hd hb r.fees reductions
  have haccrual' := AccountReserveData.accumulateAccountInterest_of_le hd hb r'.fees reductions
  simp only [addAssetPower, getReserveIndexesAndFees, addSidePower_congr h, hr, hr', unwrap,
    ok_bind, hindexes, haccrual, haccrual']

/-- The loop depends on the entries of the assets with an active bit, and on what these add. -/
lemma lendingPowerLoop_congr_assets {collaterals debts : Bitmap128}
    {datas datas' : List (Option AccountReserveData)} {rule : MarketRule}
    {reductions : FeeReductions} {prices : List ℕ}
    (hdatas : ∀ j, (collaterals ||| debts).getLsbD j = true → datas'[j]? = datas[j]?)
    (hassets : ∀ j data powers, (collaterals ||| debts).getLsbD j = true →
      datas[j]?.join = some data →
      s'.addAssetPower rule collaterals debts reductions prices j data powers
        = s.addAssetPower rule collaterals debts reductions prices j data powers)
    (left k : ℕ) (powers : ℕ × ℕ) :
    s'.lendingPowerLoop rule collaterals debts datas' reductions prices left k powers
      = s.lendingPowerLoop rule collaterals debts datas reductions prices left k powers := by
  induction left generalizing k powers with
  | zero => rfl
  | succ left ih =>
      simp only [lendingPowerLoop, ih]
      cases hshift : shiftRight (collaterals ||| debts) k with
      | error _ => rfl
      | ok shifted =>
          simp only [ok_bind]
          by_cases hbit : (collaterals ||| debts).getLsbD k = true
          · rw [hdatas k hbit]
            cases hentry : datas[k]? with
            | none => rfl
            | some entry =>
                cases entry with
                | none => rfl
                | some data =>
                    have hk := hassets k data powers hbit (by simp [hentry])
                    simp only [unwrap, ok_bind, hk]
          · -- without the bit the entry is not looked at
            have htest : shifted &&& 1#128 = 0#128 := by
              rw [shiftRight_eq_ok] at hshift
              rw [hshift.2]
              exact Bitmap.shift_and_one_eq_zero _ (by norm_num) k (by simpa using hbit)
            simp only [htest, if_true]

/-- The check depends on the shared parts, on the entries of the active assets and on what these
add. -/
lemma calculateLendingPowerE6_congr_assets {datas datas' : List (Option AccountReserveData)}
    {config : AccountConfig} {reductions : FeeReductions} {prices : List ℕ} (h : SamePricing s s')
    (hdatas : ∀ j, ((config.deposits &&& config.collaterals) ||| config.borrows).getLsbD j = true →
      datas'[j]? = datas[j]?)
    (hassets : ∀ rule j data powers,
      ((config.deposits &&& config.collaterals) ||| config.borrows).getLsbD j = true →
      datas[j]?.join = some data →
      s'.addAssetPower rule (config.deposits &&& config.collaterals) config.borrows reductions
          prices j data powers
        = s.addAssetPower rule (config.deposits &&& config.collaterals) config.borrows reductions
          prices j data powers) :
    s'.calculateLendingPowerE6 datas' config reductions prices
      = s.calculateLendingPowerE6 datas config reductions prices := by
  have hcount : s'.assetCount = s.assetCount := by rw [assetCount, assetCount, h.nextAssetId]
  simp only [calculateLendingPowerE6, getMarketRule, h.marketRules, hcount,
    lendingPowerLoop_congr_assets hdatas (hassets _)]

/-- The check depends on the shared parts, its arguments, and the reserves of the active
assets. -/
lemma calculateLendingPowerE6_congr {datas : List (Option AccountReserveData)}
    {config : AccountConfig} (h : SamePricing s s')
    (hactive : ∀ j, ActiveIn config datas j → s'.accrualPart j = s.accrualPart j)
    (reductions : FeeReductions) (prices : List ℕ) :
    s'.calculateLendingPowerE6 datas config reductions prices
      = s.calculateLendingPowerE6 datas config reductions prices := by
  refine calculateLendingPowerE6_congr_assets h (fun _ _ => rfl)
    fun rule j data powers hbit hentry => ?_
  have hj : ActiveIn config datas j := ⟨hbit, by rw [hentry]; exact Option.some_ne_none data⟩
  exact addAssetPower_congr h (hactive j hj) rule _ _ reductions prices data powers

omit [Pendzl] in
/-- The prices depend on the shared parts and the oracle only. -/
lemma getAssetsPricesE18_congr {env env' : Env} (h : SamePricing s s')
    (henv : env'.getLatestPrices = env.getLatestPrices) :
    s'.getAssetsPricesE18 env' = s.getAssetsPricesE18 env := by
  have hcount : s'.assetCount = s.assetCount := by rw [assetCount, assetCount, h.nextAssetId]
  simp only [getAssetsPricesE18, getAllRegisteredAssets, h.idToAsset, h.priceFeedProvider, hcount,
    henv]

/-- The check on given copies depends on the shared parts, on the entries of the active assets
and on what these add. -/
lemma ensureCollateralizedFromRaw_congr_assets {env : Env}
    {datas datas' : List (Option AccountReserveData)} {config : AccountConfig}
    {reductions : FeeReductions} (h : SamePricing s s')
    (hdatas : ∀ j, ((config.deposits &&& config.collaterals) ||| config.borrows).getLsbD j = true →
      datas'[j]? = datas[j]?)
    (hassets : ∀ rule prices j data powers,
      ((config.deposits &&& config.collaterals) ||| config.borrows).getLsbD j = true →
      datas[j]?.join = some data →
      s'.addAssetPower rule (config.deposits &&& config.collaterals) config.borrows reductions
          prices j data powers
        = s.addAssetPower rule (config.deposits &&& config.collaterals) config.borrows reductions
          prices j data powers) :
    s'.ensureCollateralizedFromRaw env datas' config reductions
      = s.ensureCollateralizedFromRaw env datas config reductions := by
  have hcheck : ∀ prices, s'.calculateLendingPowerE6 datas' config reductions prices
      = s.calculateLendingPowerE6 datas config reductions prices := fun prices =>
    calculateLendingPowerE6_congr_assets h hdatas fun rule => hassets rule prices
  simp only [ensureCollateralizedFromRaw, ensureCollateralized, hcheck,
    getAssetsPricesE18_congr h rfl]

/-- The check on given copies depends on the shared parts, the reserves and the oracle. -/
lemma ensureCollateralizedFromRaw_congr {env env' : Env} (h : SamePricing s s')
    (hreserves : s'.reserveIndexesAndFees = s.reserveIndexesAndFees)
    (henv : env'.getLatestPrices = env.getLatestPrices) :
    s'.ensureCollateralizedFromRaw env' = s.ensureCollateralizedFromRaw env := by
  funext datas config reductions
  have hpart : ∀ j, ActiveIn config datas j → s'.accrualPart j = s.accrualPart j :=
    fun j _ => by rw [accrualPart, accrualPart, hreserves]
  simp only [ensureCollateralizedFromRaw, ensureCollateralized, getAssetsPricesE18_congr h henv,
    calculateLendingPowerE6_congr h hpart]

omit [Pendzl] in
/-- Storing an account changes nothing that is shared. -/
lemma SamePricing.putAccount (account : AccountId) (v : List (Option AccountReserveData))
    (config : AccountConfig) : SamePricing s (s.putAccount account v config) :=
  ⟨rfl, rfl, rfl, rfl, rfl⟩

omit [Pendzl] in
lemma SamePricing.refl : SamePricing s s := ⟨rfl, rfl, rfl, rfl, rfl⟩

omit [Pendzl] in
lemma SamePricing.symm (h : SamePricing s s') : SamePricing s' s :=
  ⟨h.nextAssetId.symm, h.idToAsset.symm, h.priceFeedProvider.symm, h.marketRules.symm,
    h.reserveDecimalMultiplier.symm⟩

omit [Pendzl] in
lemma SamePricing.trans {s'' : LendingPoolStorage} (h : SamePricing s s')
    (h' : SamePricing s' s'') : SamePricing s s'' :=
  ⟨h'.nextAssetId.trans h.nextAssetId, h'.idToAsset.trans h.idToAsset,
    h'.priceFeedProvider.trans h.priceFeedProvider, h'.marketRules.trans h.marketRules,
    h'.reserveDecimalMultiplier.trans h.reserveDecimalMultiplier⟩

/-- The check of a stored account does not depend on who asks for it. -/
lemma ensureCollateralizedByAccount_env {env env' : Env} {account : AccountId}
    (hprices : env'.getLatestPrices = env.getLatestPrices)
    (hfees : env'.getFeeReductions = env.getFeeReductions) :
    s.ensureCollateralizedByAccount env' account = s.ensureCollateralizedByAccount env account := by
  have hred : s.getFeeReductionsOfAccount env' account
      = s.getFeeReductionsOfAccount env account := by
    rw [getFeeReductionsOfAccount, getFeeReductionsOfAccount, hfees]
  rw [ensureCollateralizedByAccount, ensureCollateralizedByAccount,
    ensureCollateralizedFromRaw_congr .refl rfl hprices, hred]

end

end LendingPoolStorage

/-! ### Error values of the check -/

/-- The error values of the arithmetic. -/
def IsMathError (e : LendingPoolError) : Prop := ∃ m, e = mathErr m

/-- An asset is an active collateral without a collateral coefficient in the rule, or
borrowed without a borrow coefficient. -/
def MissingCoefficient (rule : MarketRule) (collaterals debts : Bitmap128) (k : ℕ) : Prop :=
  collaterals.getLsbD k = true ∧ rule[k]?.join.bind AssetRules.collateralCoefficientE6 = none
  ∨ debts.getLsbD k = true ∧ rule[k]?.join.bind AssetRules.borrowCoefficientE6 = none

/-- The error value says for which side an asset has no coefficient. -/
def DisabledBy (rule : MarketRule) (collaterals debts : Bitmap128) (k : ℕ)
    (e : LendingPoolError) : Prop :=
  (collaterals.getLsbD k = true ∧ rule[k]?.join.bind AssetRules.collateralCoefficientE6 = none)
      ∧ e = .ruleCollateralDisable
  ∨ (debts.getLsbD k = true ∧ rule[k]?.join.bind AssetRules.borrowCoefficientE6 = none)
      ∧ e = .ruleBorrowDisable

lemma DisabledBy.missing {rule : MarketRule} {collaterals debts : Bitmap128} {k : ℕ}
    {e : LendingPoolError} (h : DisabledBy rule collaterals debts k e) :
    MissingCoefficient rule collaterals debts k := h.imp And.left And.left

section

variable [Pendzl]

/-! ### Errors of the arithmetic -/

lemma mulDiv_raises {a b c : ℕ} {r : Rounding} : Raises IsMathError (mulDiv a b c r) := by
  intro e he
  rw [mulDiv] at he
  split at he
  · cases he
  · simp only [Except.error.injEq, Fault.err.injEq] at he
    exact ⟨_, he.symm⟩

omit [Pendzl] in
/-- A checked operation raises the error it is given. -/
lemma okOr_raises {α : Type} {o : Option α} {m : MathError} :
    Raises IsMathError (okOr o (mathErr m)) := raises_okOr fun _ => ⟨m, rfl⟩

lemma feeOn_raises {interest feeE6 reduction : ℕ} :
    Raises IsMathError (AccountReserveData.feeOn interest feeE6 reduction) :=
  mulDiv_raises.bind fun _ _ => (raises_unwrap _).bind fun _ _ => mulDiv_raises

omit [Pendzl] in
lemma increaseEarnedFee_raises {fees : ReserveFees} {amount : ℕ} :
    Raises IsMathError (fees.increaseEarnedFee amount) :=
  okOr_raises.bind fun _ _ => raises_ok _

/-- Accruing a position fails in its arithmetic only. -/
lemma accumulateAccountInterest_raises {data : AccountReserveData} {indexes : ReserveIndexes}
    {fees : ReserveFees} {reductions : FeeReductions} :
    Raises IsMathError (data.accumulateAccountInterest indexes fees reductions) := by
  rw [AccountReserveData.accumulateAccountInterest]
  split_ifs
  · exact raises_ok _
  · refine Raises.bind ?_ fun _ _ => Raises.bind ?_ fun _ _ => raises_ok _
    · rw [AccountReserveData.accumulateDeposit]
      split_ifs
      · exact mulDiv_raises.bind fun _ _ => okOr_raises.bind fun _ _ =>
          feeOn_raises.bind fun _ _ => okOr_raises.bind fun _ _ =>
          okOr_raises.bind fun _ _ => increaseEarnedFee_raises.bind fun _ _ =>
          raises_ok _
      · exact raises_ok _
    · rw [AccountReserveData.accumulateDebt]
      split_ifs
      · exact mulDiv_raises.bind fun _ _ => okOr_raises.bind fun _ _ =>
          feeOn_raises.bind fun _ _ => okOr_raises.bind fun _ _ =>
          okOr_raises.bind fun _ _ => increaseEarnedFee_raises.bind fun _ _ =>
          raises_ok _
      · exact raises_ok _

/-- The value of an amount is computed or traps. -/
lemma calculateAssetAmountValueE8_raises {P : LendingPoolError → Prop}
    {amount price multiplier : ℕ} :
    Raises P (calculateAssetAmountValueE8 amount price multiplier) := by
  refine (raises_unwrap _).bind fun denominator _ => ?_
  split
  · exact raises_ok _
  · exact raises_trap

/-! ### One asset -/

/-- One side of an asset fails for a missing coefficient or in its arithmetic. -/
lemma addLendingPower_raises {power amount price multiplier : ℕ} {coefficient : Option ℕ}
    {disabled : LendingPoolError} :
    Raises (fun e => coefficient = none ∧ e = disabled ∨ IsMathError e)
      (addLendingPower power amount price multiplier coefficient disabled) := by
  refine calculateAssetAmountValueE8_raises.bind fun _ _ => ?_
  refine (raises_okOr fun h => .inl ⟨h, rfl⟩).bind fun _ _ => ?_
  refine Raises.bind (mulDiv_raises.mono fun _ he => .inr he) fun _ _ => ?_
  exact okOr_raises.mono fun _ he => .inr he

omit [Pendzl] in
/-- The test of a bit, as the loop makes it. -/
lemma shiftRight_test {bitmap shifted : Bitmap128} {k : ℕ} (h : shiftRight bitmap k = .ok shifted) :
    shifted &&& 1#128 = 1#128 ↔ bitmap.getLsbD k = true := by
  rw [shiftRight_eq_ok] at h
  rw [h.2]
  exact Bitmap.shift_and_one_eq bitmap (by norm_num) k

omit [Pendzl] in
lemma shiftRight_raises {P : LendingPoolError → Prop} {bitmap : Bitmap128} {k : ℕ} :
    Raises P (shiftRight bitmap k) := (raises_trapIf _).bind fun _ _ => raises_ok _

namespace LendingPoolStorage

variable {s : LendingPoolStorage} {rule : MarketRule} {collaterals debts : Bitmap128}
  {datas : List (Option AccountReserveData)} {reductions : FeeReductions} {prices : List ℕ}
  {left k : ℕ} {powers powers' : ℕ × ℕ} {data : AccountReserveData}

/-- One side fails for a missing coefficient of a set bit or in its arithmetic. -/
lemma addSidePower_raises {bitmap : Bitmap128} {amount power : ℕ} {coefficient : Option ℕ}
    {disabled : LendingPoolError} :
    Raises (fun e => (bitmap.getLsbD k = true ∧ coefficient = none) ∧ e = disabled
        ∨ IsMathError e)
      (s.addSidePower bitmap prices k amount coefficient disabled power) := by
  refine shiftRight_raises.bind fun shifted hshift => ?_
  split_ifs with hbit
  · refine (raises_unwrap _).bind fun _ _ => (raises_unwrap _).bind fun _ _ => ?_
    refine addLendingPower_raises.mono fun e he => he.imp_left fun ⟨hnone, hdisabled⟩ => ?_
    exact ⟨⟨(shiftRight_test hshift).mp hbit, hnone⟩, hdisabled⟩
  · exact raises_ok _

/-- One asset fails for a missing coefficient or in its arithmetic. -/
lemma addAssetPower_raises :
    Raises (fun e => DisabledBy rule collaterals debts k e ∨ IsMathError e)
      (s.addAssetPower rule collaterals debts reductions prices k data powers) := by
  refine (raises_unwrap _).bind fun reserve _ => ?_
  refine Raises.bind (accumulateAccountInterest_raises.mono fun _ he => .inr he) fun accrual _ => ?_
  refine Raises.bind (addSidePower_raises.mono fun _ he => he.imp_left .inl) fun power _ => ?_
  refine Raises.bind (addSidePower_raises.mono fun _ he => he.imp_left .inr) fun power' _ => ?_
  exact raises_ok _

/-! ### The loop -/

/-- The loop fails for a missing coefficient of an asset it visits, or in its
arithmetic. -/
lemma lendingPowerLoop_raises :
    Raises (fun e => (∃ j, k ≤ j ∧ j < k + left ∧ datas[j]?.join ≠ none
        ∧ DisabledBy rule collaterals debts j e) ∨ IsMathError e)
      (s.lendingPowerLoop rule collaterals debts datas reductions prices left k powers) := by
  induction left generalizing k powers with
  | zero => exact raises_ok _
  | succ left ih =>
      have hrest : ∀ powers, Raises (fun e => (∃ j, k ≤ j ∧ j < k + (left + 1)
            ∧ datas[j]?.join ≠ none ∧ DisabledBy rule collaterals debts j e) ∨ IsMathError e)
          (s.lendingPowerLoop rule collaterals debts datas reductions prices left (k + 1)
            powers) := by
        intro powers
        refine ih.mono fun e he => he.imp_left ?_
        rintro ⟨j, hkj, hj, hmissing⟩
        exact ⟨j, by omega, by omega, hmissing⟩
      rw [lendingPowerLoop]
      refine shiftRight_raises.bind fun shifted _ => ?_
      split_ifs
      · exact raises_ok _
      · exact hrest _
      · refine (raises_unwrap _).bind fun entry hentry => ?_
        cases entry with
        | none => exact hrest _
        | some data =>
            refine Raises.bind (addAssetPower_raises.mono fun e he => he.imp_left fun hm => ?_)
              fun powers _ => hrest powers
            rw [unwrap_eq_ok] at hentry
            exact ⟨k, le_rfl, by omega, by simp [hentry], hm⟩

/-! ### The check -/

omit [Pendzl] in
/-- The market rule that an account chose has a coefficient for every asset that is
active for the account. -/
def RulesCover (s : LendingPoolStorage) (account : AccountId) : Prop :=
  ∀ rule, s.marketRules.get (s.getAccountConfig account).marketRuleId = some rule →
    ∀ k < s.assetCount, s.entry account k ≠ none →
      ¬MissingCoefficient rule
        ((s.getAccountConfig account).deposits &&& (s.getAccountConfig account).collaterals)
        (s.getAccountConfig account).borrows k

variable {env : Env} {account : AccountId}

omit [Pendzl] in
lemma getAllRegisteredAssets_raises {P : LendingPoolError → Prop} :
    Raises P s.getAllRegisteredAssets := by
  rw [getAllRegisteredAssets]
  induction List.range s.assetCount with
  | nil => exact raises_ok _
  | cons u rest ih =>
      rw [List.mapM_cons]
      exact (raises_unwrap _).bind fun _ _ => ih.bind fun _ _ => raises_ok _

omit [Pendzl] in
/-- Asking for the prices fails with an error of the oracle only. -/
lemma getAssetsPricesE18_raises :
    Raises (fun e => ∃ pe, e = .priceFeedError pe) (s.getAssetsPricesE18 env) := by
  refine getAllRegisteredAssets_raises.bind fun assets _ => ?_
  refine (raises_unwrap _).bind fun feeder _ => ?_
  intro e he
  rcases hx : env.getLatestPrices feeder assets with (pe | _) | prices <;> rw [hx] at he
  · simp only [mapErr, Except.error.injEq, Fault.err.injEq] at he
    exact ⟨pe, he.symm⟩
  · cases he
  · cases he

/-- With the prices at hand the check fails for a missing coefficient of an active
asset, or in its arithmetic. -/
lemma calculateLendingPowerE6_raises {prices : List ℕ} :
    Raises (fun e => ¬s.RulesCover account ∨ IsMathError e)
      (s.calculateLendingPowerE6 (s.getAccountDatas account) (s.getAccountConfig account)
        reductions prices) := by
  refine (raises_unwrap _).bind fun rule hrule => Raises.bind ?_ fun powers _ => ?_
  · refine lendingPowerLoop_raises.mono fun e he => he.imp_left ?_
    rintro ⟨k, -, hk, hentry, hmissing⟩ hcover
    rw [getAccountDatas_join] at hentry
    exact hcover rule (unwrap_eq_ok.mp hrule) k (by omega) hentry hmissing.missing
  · split_ifs <;> exact raises_ok _

/-- **Why a check returns an error value**: the oracle, a missing coefficient of an
active asset, or the arithmetic. -/
theorem calculateLendingPowerOfAnAccountE6_raises :
    Raises (fun e => (∃ pe, e = .priceFeedError pe) ∨ ¬s.RulesCover account ∨ IsMathError e)
      (s.calculateLendingPowerOfAnAccountE6 env account) :=
  Raises.bind (getAssetsPricesE18_raises.mono fun _ he => .inl he) fun _ _ =>
    calculateLendingPowerE6_raises.mono fun _ he => .inr he

/-- The check that an operation makes is the sign of the lending power. -/
lemma ensureCollateralizedByAccount_eq :
    s.ensureCollateralizedByAccount env account
      = s.calculateLendingPowerOfAnAccountE6 env account >>= fun power =>
          failIf (power.1 = false) .insufficientCollateral := by
  rw [ensureCollateralizedByAccount, ensureCollateralizedFromRaw,
    calculateLendingPowerOfAnAccountE6]
  cases s.getAssetsPricesE18 env <;> rfl

end LendingPoolStorage

end

end AbaxLending
