import AbaxLending.Spec.Positions

/-!
The loop over the actions of one account.

`account_for_account_actions` works on a local vector and a local config and
stores them at the end.  `flush` is the storage with the local copies stored, so
that what holds of stored positions can be stated in the middle of the loop.

* `AccountActionsState.applyAction_ok`: what one action does;
* `AccountActionsState.applyActions_nil_ok`, `applyActions_cons_ok`: the loop, by the list;
* `AccountActionsState.applyActions_induct`: what one action preserves, a list of
  actions preserves;
* `accountForAccountActions_ok`: the loop, the collateral check and the storing.
-/

namespace AbaxLending

open Outcome

/-- Whether the collateral must be checked because of an action on asset `k`. -/
def Action.demandsCheck (action : Action) (config : AccountConfig) (k : ℕ) : Bool :=
  match action.op with
  | .withdraw => config.collaterals.getLsbD k
  | .borrow => true
  | .deposit | .repay => false

namespace AccountActionsState

/-- The storage with the local copies of an account stored. -/
def flush (st : AccountActionsState) (account : AccountId) : LendingPoolStorage :=
  st.storage.putAccount account st.accountDatas st.accountConfig

/-- The local position in an asset. -/
def position (st : AccountActionsState) (k : ℕ) : AccountReserveData :=
  st.accountDatas[k]?.join.getD default

variable [Pendzl] {st st' : AccountActionsState} {feeReductions : FeeReductions} {t : ℕ}
  {action action' : Action} {interests : ℕ × ℕ}

omit [Pendzl] in
/-- An action adds its demand to the flag. -/
lemma mustCheckAfter_ok {k : ℕ} {must : Bool} (h : st.mustCheckAfter k action = .ok must) :
    must = (st.mustCheckCollateralization || action.demandsCheck st.accountConfig k) := by
  obtain ⟨op, asset, amount⟩ := action
  cases op with
  | withdraw =>
      simp only [mustCheckAfter, bind_eq_ok, shiftRight_eq_ok, pure_eq, Except.ok.injEq] at h
      obtain ⟨_, ⟨_, rfl⟩, rfl⟩ := h
      simp only [Action.demandsCheck, Bitmap.shift_and_one_eq _ (by norm_num : 0 < 128)]
      cases st.accountConfig.collaterals.getLsbD k <;> simp
  | borrow => simpa [mustCheckAfter, Action.demandsCheck, eq_comm] using h
  | deposit => simpa [mustCheckAfter, Action.demandsCheck, eq_comm] using h
  | repay => simpa [mustCheckAfter, Action.demandsCheck, eq_comm] using h

/-- **What one action does**: a basic step on the local position, in the reserve of its asset,
which is opened before it. -/
theorem applyAction_opens
    (h : st.applyAction feeReductions t action = .ok (st', action', interests)) :
    ∃ k ctx s₁ res reserveData,
      st.storage.assetToId.get action.asset = some k ∧ k < st.accountDatas.length
      ∧ st.storage.openReserve k t = .ok (s₁, ctx)
      ∧ action.step ctx (st.position k) st.accountConfig feeReductions = .ok res
      ∧ st.storage.recalculateRates k res.ctx.reserveData = .ok reserveData
      ∧ action' = { action with amount := res.amount } ∧ interests = res.interests
      ∧ st' = {
          storage := s₁.putReserve k reserveData res.ctx.reserveIndexesAndFees
          accountDatas := st.accountDatas.set k (some res.data)
          accountConfig := res.config
          mustCheckCollateralization :=
            st.mustCheckCollateralization || action.demandsCheck st.accountConfig k } := by
  simp only [applyAction, LendingPoolStorage.assetId, bind_eq_ok, okOr_eq_ok,
    getAccountDataEntryMut_eq_ok, unwrap_eq_ok, pure_eq, Except.ok.injEq, Prod.mk.injEq] at h
  obtain ⟨k, hk, _, ⟨hlen, rfl⟩, must, hmust, res, hres, data, hdata, config, hconfig, act, hact,
    ints, hints, rfl, rfl, rfl⟩ := h
  obtain ⟨ctx, s₁, step, rd, hopen, hstep, hrd, rfl⟩ :=
    LendingPoolStorage.accountForReserveAction_single hres
  simp only [List.head?_cons, Option.some.injEq] at hdata hconfig hact hints
  subst hdata hconfig hact hints
  have hamount : ({ action with amount := step.amount } : Action).toReserveAction.amount
      = step.amount := by
    obtain ⟨op, asset, amount⟩ := action
    cases op <;> rfl
  refine ⟨k, ctx, s₁, step, rd, hk, hlen, hopen, hstep, hrd, ?_, rfl, ?_⟩
  · rw [hamount]
  · rw [mustCheckAfter_ok hmust]

/-- The same in terms of the opened context. -/
theorem applyAction_ok
    (h : st.applyAction feeReductions t action = .ok (st', action', interests)) :
    ∃ k ctx res reserveData indexes entries,
      st.storage.assetToId.get action.asset = some k ∧ k < st.accountDatas.length
      ∧ st.storage.Opened k t ctx
      ∧ action.step ctx (st.position k) st.accountConfig feeReductions = .ok res
      ∧ st.storage.recalculateRates k res.ctx.reserveData = .ok reserveData
      ∧ action' = { action with amount := res.amount } ∧ interests = res.interests
      ∧ st' = {
          storage := (st.storage.withRing indexes entries).putReserve k reserveData
            res.ctx.reserveIndexesAndFees
          accountDatas := st.accountDatas.set k (some res.data)
          accountConfig := res.config
          mustCheckCollateralization :=
            st.mustCheckCollateralization || action.demandsCheck st.accountConfig k } := by
  obtain ⟨k, ctx, _, step, rd, hk, hlen, hopen, hstep, hrd, hact, hints, rfl⟩ :=
    applyAction_opens h
  obtain ⟨hctx, indexes, entries, rfl⟩ := LendingPoolStorage.openReserve_ok hopen
  exact ⟨k, ctx, step, rd, indexes, entries, hk, hlen, hctx, hstep, hrd, hact, hints, rfl⟩

/-- Without actions nothing happens. -/
lemma applyActions_nil_ok {actions : List Action} {results : List (ℕ × ℕ)}
    (h : st.applyActions feeReductions t [] = .ok (st', actions, results)) :
    st = st' ∧ actions = [] ∧ results = [] := by
  simp only [applyActions, Except.ok.injEq, Prod.mk.injEq] at h
  obtain ⟨hst, hactions, hresults⟩ := h
  exact ⟨hst, hactions.symm, hresults.symm⟩

/-- A list of actions is its first action and then the rest. -/
lemma applyActions_cons_ok {rest actions : List Action} {results : List (ℕ × ℕ)}
    (h : st.applyActions feeReductions t (action :: rest) = .ok (st', actions, results)) :
    ∃ st₁ action₁ interests₁ rest₁ results₁,
      st.applyAction feeReductions t action = .ok (st₁, action₁, interests₁)
      ∧ st₁.applyActions feeReductions t rest = .ok (st', rest₁, results₁)
      ∧ actions = action₁ :: rest₁ ∧ results = interests₁ :: results₁ := by
  simp only [applyActions, bind_eq_ok, pure_eq, Except.ok.injEq, Prod.mk.injEq] at h
  obtain ⟨⟨st₁, action₁, interests₁⟩, h₁, ⟨_, rest₁, results₁⟩, hrest, rfl, hactions, hresults⟩ := h
  exact ⟨st₁, action₁, interests₁, rest₁, results₁, h₁, hrest, hactions.symm, hresults.symm⟩

/-- A list of one action is one pass of the loop. -/
lemma applyActions_single {actions : List Action} {results : List (ℕ × ℕ)}
    (h : st.applyActions feeReductions t [action] = .ok (st', actions, results)) :
    ∃ action' interests, st.applyAction feeReductions t action = .ok (st', action', interests)
      ∧ actions = [action'] ∧ results = [interests] := by
  obtain ⟨st₁, action', interests, _, _, hstep, hrest, rfl, rfl⟩ := applyActions_cons_ok h
  obtain ⟨rfl, rfl, rfl⟩ := applyActions_nil_ok hrest
  exact ⟨action', interests, hstep, rfl, rfl⟩

/-- **The loop rule**: what every action preserves, a list of actions preserves. -/
theorem applyActions_induct {P : AccountActionsState → Prop} {actions actions' : List Action}
    {results : List (ℕ × ℕ)}
    (hstep : ∀ st action st' action' interests, P st →
      st.applyAction feeReductions t action = .ok (st', action', interests) → P st')
    (h : st.applyActions feeReductions t actions = .ok (st', actions', results)) (hP : P st) :
    P st' := by
  induction actions generalizing st actions' results with
  | nil =>
      exact (applyActions_nil_ok h).1 ▸ hP
  | cons action rest ih =>
      obtain ⟨st₁, action₁, ints, rest₁, results₁, h₁, hrest, -, -⟩ := applyActions_cons_ok h
      exact ih hrest (hstep _ _ _ _ _ hP h₁)

/-- Each action yields one pair of interests. -/
lemma applyActions_length {actions actions' : List Action} {results : List (ℕ × ℕ)}
    (h : st.applyActions feeReductions t actions = .ok (st', actions', results)) :
    actions'.length = results.length := by
  induction actions generalizing st st' actions' results with
  | nil =>
      obtain ⟨-, rfl, rfl⟩ := applyActions_nil_ok h
      rfl
  | cons action rest ih =>
      obtain ⟨st₁, action₁, ints, rest₁, results₁, -, hrest, rfl, rfl⟩ := applyActions_cons_ok h
      rw [List.length_cons, List.length_cons, ih hrest]

/-- What the loop keeps: the number of assets, the length of the vector, and the contract that
grants the fee reductions. -/
structure Keeps (st st' : AccountActionsState) : Prop where
  nextAssetId : st'.storage.nextAssetId = st.storage.nextAssetId
  length : st'.accountDatas.length = st.accountDatas.length
  provider : st'.storage.feeReductionProvider = st.storage.feeReductionProvider

lemma applyActions_keeps {actions actions' : List Action} {results : List (ℕ × ℕ)}
    (h : st.applyActions feeReductions t actions = .ok (st', actions', results)) :
    st.Keeps st' := by
  refine applyActions_induct (P := st.Keeps) (fun st₁ action st₂ _ _ hst hact => ?_) h
    ⟨rfl, rfl, rfl⟩
  obtain ⟨k, ctx, step, rd, i, e, -, -, -, -, -, -, -, rfl⟩ := applyAction_ok hact
  refine ⟨hst.nextAssetId, ?_, hst.provider⟩
  rw [List.length_set, hst.length]

/-- The loop works on copies: it keeps what is stored for the accounts. -/
lemma applyActions_keepsAccounts {actions actions' : List Action} {results : List (ℕ × ℕ)}
    (h : st.applyActions feeReductions t actions = .ok (st', actions', results)) :
    st'.storage.accountReserveDatas = st.storage.accountReserveDatas
      ∧ st'.storage.accountConfigs = st.storage.accountConfigs := by
  refine applyActions_induct (P := fun st' =>
    st'.storage.accountReserveDatas = st.storage.accountReserveDatas
      ∧ st'.storage.accountConfigs = st.storage.accountConfigs)
    (fun st₁ action st₂ _ _ hst hact => ?_) h ⟨rfl, rfl⟩
  obtain ⟨k, ctx, step, rd, i, e, -, -, -, -, -, -, -, rfl⟩ := applyAction_ok hact
  exact hst

omit [Pendzl] in
/-- A vector that is long enough stays so. -/
lemma Keeps.fits (h : st.Keeps st') (hlen : st.storage.assetCount ≤ st.accountDatas.length) :
    st'.storage.assetCount ≤ st'.accountDatas.length := by
  rw [LendingPoolStorage.assetCount, h.nextAssetId, h.length]
  exact hlen

omit [Pendzl] in
lemma Keeps.reductions {env : Env} {account : AccountId} (h : st.Keeps st') :
    st'.storage.getFeeReductionsOfAccount env account
      = st.storage.getFeeReductionsOfAccount env account := by
  rw [LendingPoolStorage.getFeeReductionsOfAccount,
    LendingPoolStorage.getFeeReductionsOfAccount, h.provider]

omit [Pendzl] in
/-- Reading the account back gives the local copy of its vector. -/
lemma flush_getAccountDatas {account : AccountId}
    (hlen : st.storage.assetCount ≤ st.accountDatas.length) :
    (st.flush account).getAccountDatas account = st.accountDatas := by
  have hcount : (st.storage.putAccount account st.accountDatas st.accountConfig).assetCount
      = st.storage.assetCount := rfl
  simp only [LendingPoolStorage.getAccountDatas, flush,
    LendingPoolStorage.putAccount_accountReserveDatas, Mapping.get_insert_self, Option.getD_some]
  rw [hcount, if_neg (by omega)]

omit [Pendzl] in
/-- The position of the account after an action: the step's at the asset of the
action, and unchanged elsewhere. -/
lemma position_set {k j : ℕ} (hk : k < st.accountDatas.length) (data : AccountReserveData)
    {s : LendingPoolStorage} {c : AccountConfig} {must : Bool} :
    (⟨s, st.accountDatas.set k (some data), c, must⟩ : AccountActionsState).position j
      = if j = k then data else st.position j := by
  rw [position, getElem?_set_join _ hk]
  split_ifs <;> rfl

omit [Pendzl] in
@[simp] lemma flush_position_self (st : AccountActionsState) (a : AccountId) (k : ℕ) :
    (st.flush a).position a k = st.position k := by
  simp [flush, position]

omit [Pendzl] in
@[simp] lemma flush_position_of_ne (st : AccountActionsState) {a b : AccountId} (h : b ≠ a)
    (k : ℕ) : (st.flush a).position b k = st.storage.position b k := by
  simp [flush, h]

omit [Pendzl] in
/-- Of the stored entries an action changes one: that of its account in its asset. -/
lemma flush_entry_set {account : AccountId} {k : ℕ} {data : AccountReserveData}
    (hk : k < st.accountDatas.length)
    (hdatas : st'.accountDatas = st.accountDatas.set k (some data))
    (hkeep : st'.storage.accountReserveDatas = st.storage.accountReserveDatas) (a : AccountId)
    (j : ℕ) :
    (st'.flush account).entry a j
      = if a = account ∧ j = k then some data else (st.flush account).entry a j := by
  by_cases ha : a = account
  · subst ha
    rw [flush, flush, LendingPoolStorage.entry_putAccount_self,
      LendingPoolStorage.entry_putAccount_self, hdatas, getElem?_set_join _ hk]
    simp only [true_and]
  · rw [if_neg fun hc => ha hc.1, flush, flush, LendingPoolStorage.entry_putAccount_of_ne ha,
      LendingPoolStorage.entry_putAccount_of_ne ha, LendingPoolStorage.entry_congr hkeep]

omit [Pendzl] in
/-- Of the stored positions an action changes one. -/
lemma flush_position_set {account : AccountId} {k : ℕ} {data : AccountReserveData}
    (hk : k < st.accountDatas.length)
    (hdatas : st'.accountDatas = st.accountDatas.set k (some data))
    (hkeep : st'.storage.accountReserveDatas = st.storage.accountReserveDatas) (a : AccountId)
    (j : ℕ) :
    (st'.flush account).position a j
      = if a = account ∧ j = k then data else (st.flush account).position a j := by
  rw [LendingPoolStorage.position, flush_entry_set hk hdatas hkeep]
  split_ifs <;> rfl

end AccountActionsState

namespace LendingPoolStorage

variable [Pendzl] {self : LendingPoolStorage} {env : Env} {account : AccountId}
  {actions : List Action}

/-- The state in which the loop of `account_for_account_actions` starts. -/
def startActions (self : LendingPoolStorage) (account : AccountId) : AccountActionsState where
  storage := self
  accountDatas := self.getAccountDatas account
  accountConfig := self.getAccountConfig account
  mustCheckCollateralization := false

omit [Pendzl] in
@[simp] lemma startActions_position (k : ℕ) :
    (self.startActions account).position k = self.position account k := by
  simp [startActions, AccountActionsState.position, position]

omit [Pendzl] in
/-- The loop starts from the stored entries. -/
lemma startActions_entry (a b : AccountId) (k : ℕ) :
    ((self.startActions a).flush a).entry b k = self.entry b k := by
  by_cases hb : b = a
  · subst hb
    rw [AccountActionsState.flush, entry_putAccount_self]
    exact getAccountDatas_join self b k
  · rw [AccountActionsState.flush, entry_putAccount_of_ne hb]
    rfl

omit [Pendzl] in
/-- The loop starts from the stored positions. -/
lemma startActions_flush_position (a b : AccountId) (k : ℕ) :
    ((self.startActions a).flush a).position b k = self.position b k := by
  rw [position, position, startActions_entry]

/-- **What the actions of an account do**: the loop, the collateral check on the
local copies if some action demands it, and the storing of the copies. -/
theorem accountForAccountActions_ok {res : AccountActionsResult}
    (h : self.accountForAccountActions env account actions = .ok res) :
    ∃ st, (self.startActions account).applyActions (self.getFeeReductionsOfAccount env account)
          env.blockTimestamp actions = .ok (st, res.actions, res.interests)
      ∧ (st.mustCheckCollateralization = true →
          st.storage.ensureCollateralizedFromRaw env st.accountDatas st.accountConfig
            (self.getFeeReductionsOfAccount env account) = .ok ())
      ∧ res.storage = st.flush account := by
  simp only [accountForAccountActions, bind_eq_ok] at h
  obtain ⟨⟨st, acts, ints⟩, hst, h⟩ := h
  refine ⟨st, ?_⟩
  split_ifs at h with hmust
  · simp only [bind_eq_ok, pure_eq, Except.ok.injEq] at h
    obtain ⟨_, hcheck, rfl⟩ := h
    exact ⟨hst, fun _ => hcheck, rfl⟩
  · simp only [pure_eq, Except.ok.injEq] at h
    subst h
    exact ⟨hst, fun h => absurd h hmust, rfl⟩

end LendingPoolStorage

end AbaxLending
