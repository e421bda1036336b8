import AbaxLending.Contract.Run
import AbaxLending.Invariants.FreeCollateral
import AbaxLending.Spec.Visits

/-!
A batch of actions is the sequence of its parts.

Between two parts the vector and the config of the account go through the storage, which
the loop over a batch never reads.  So both runs see the same reserves, and the loop over
the second part starts from the same local copies.

* `accountForReserveAction_putAccount`: a visit of a reserve commutes with writing an account;
* `AccountActionsState.Alike`: states that differ in what is stored for the account;
  `applyActions_alike`: the run lemma of the loop;
* `Posts`: a list of actions goes through, apart from the check of the collateral;
  `posts_append`: a batch goes through when its parts do, one after the other;
* `batch_is_sequence`: the same for the messages, with their checks.
-/

namespace AbaxLending

open Outcome

/-! ### Writing an account below a visit -/

namespace LendingPoolStorage

variable [Pendzl] {self s s' : LendingPoolStorage} {account : AccountId}
  {v : List (Option AccountReserveData)} {c : AccountConfig} {k t : ℕ}

/-- **A visit of a reserve commutes with writing an account.** -/
theorem accountForReserveAction_putAccount {datas : List AccountReserveData}
    {configs : List AccountConfig} {reductions : List FeeReductions}
    {actions : List ReserveAction} :
    (self.putAccount account v c).accountForReserveAction k datas configs reductions actions t
      = (self.accountForReserveAction k datas configs reductions actions t).map fun res =>
          { res with storage := res.storage.putAccount account v c } :=
  accountForReserveAction_updateAccounts (fun m => m.insert account v) fun m => m.insert account c

end LendingPoolStorage

/-! ### The loop over the actions -/

namespace AccountActionsState

/-- States of the loop that differ in what is stored for the account, and in whether a check
is due. -/
structure Alike (account : AccountId) (st₁ st₂ : AccountActionsState) : Prop where
  storage : st₁.storage.putAccount account [] default = st₂.storage.putAccount account [] default
  accountDatas : st₁.accountDatas = st₂.accountDatas
  accountConfig : st₁.accountConfig = st₂.accountConfig

variable {st st' st₁ st₂ : AccountActionsState} {account : AccountId}

lemma Alike.symm (h : Alike account st₁ st₂) : Alike account st₂ st₁ :=
  ⟨h.storage.symm, h.accountDatas.symm, h.accountConfig.symm⟩

/-- What they leave once the account is stored is the same. -/
lemma Alike.flush (h : Alike account st₁ st₂) : st₁.flush account = st₂.flush account := by
  have hput : ∀ st : AccountActionsState, st.flush account
      = (st.storage.putAccount account [] default).putAccount account st.accountDatas
        st.accountConfig := by
    intro st
    simp only [AccountActionsState.flush, LendingPoolStorage.putAccount, Mapping.insert_insert]
  rw [hput st₁, hput st₂, h.storage, h.accountDatas, h.accountConfig]

/-- After an account is stored, the loop starts where the last one stopped. -/
lemma startActions_flush_alike (hlen : st.storage.assetCount ≤ st.accountDatas.length) :
    Alike account st ((st.flush account).startActions account) where
  storage := by
    simp only [LendingPoolStorage.startActions, AccountActionsState.flush,
      LendingPoolStorage.putAccount, Mapping.insert_insert]
  accountDatas := (flush_getAccountDatas hlen).symm
  accountConfig := LendingPoolStorage.getAccountConfig_putAccount_self.symm

/-- Two runs demand the check alike: each when it did before, or when its actions do. -/
def DemandsAlike (st₁ st₂ st₁' st₂' : AccountActionsState) : Prop :=
  ∃ due : Bool, st₁'.mustCheckCollateralization = (st₁.mustCheckCollateralization || due)
    ∧ st₂'.mustCheckCollateralization = (st₂.mustCheckCollateralization || due)

lemma DemandsAlike.trans {st₁'' st₂'' : AccountActionsState} (h : DemandsAlike st₁ st₂ st st')
    (h' : DemandsAlike st st' st₁'' st₂'') : DemandsAlike st₁ st₂ st₁'' st₂'' := by
  obtain ⟨due, h₁, h₂⟩ := h
  obtain ⟨due', h₁', h₂'⟩ := h'
  exact ⟨due || due', by rw [h₁', h₁, Bool.or_assoc], by rw [h₂', h₂, Bool.or_assoc]⟩

/-- The test before an action reads the config only. -/
lemma mustCheckAfter_alike {k : ℕ} {action : Action} {must : Bool}
    (hconfig : st₁.accountConfig = st₂.accountConfig)
    (h : st₁.mustCheckAfter k action = .ok must) :
    ∃ must', st₂.mustCheckAfter k action = .ok must'
      ∧ must = (st₁.mustCheckCollateralization || action.demandsCheck st₁.accountConfig k)
      ∧ must' = (st₂.mustCheckCollateralization || action.demandsCheck st₁.accountConfig k) := by
  have hok : ∃ must', st₂.mustCheckAfter k action = .ok must' := by
    rw [mustCheckAfter] at h ⊢
    cases hop : action.op with
    | deposit => exact ⟨_, rfl⟩
    | borrow => exact ⟨_, rfl⟩
    | repay => exact ⟨_, rfl⟩
    | withdraw =>
        simp only [hop, bind_eq_ok] at h ⊢
        obtain ⟨shifted, hshifted, -⟩ := h
        exact ⟨_, shifted, hconfig ▸ hshifted, rfl⟩
  obtain ⟨must', h'⟩ := hok
  refine ⟨must', h', mustCheckAfter_ok h, ?_⟩
  rw [hconfig]
  exact mustCheckAfter_ok h'

variable [Pendzl] {feeReductions : FeeReductions} {t : ℕ}

/-- A visit of a reserve has the same outcome in both of two such states. -/
lemma accountForReserveAction_alike {s₁ s₂ : LendingPoolStorage} {k : ℕ}
    {datas : List AccountReserveData} {configs : List AccountConfig}
    {reductions : List FeeReductions} {actions : List ReserveAction} {res : ReserveActionResult}
    (hs : s₁.putAccount account [] default = s₂.putAccount account [] default)
    (h : s₁.accountForReserveAction k datas configs reductions actions t = .ok res) :
    ∃ s, s₂.accountForReserveAction k datas configs reductions actions t
        = .ok { res with storage := s }
      ∧ res.storage.putAccount account [] default = s.putAccount account [] default := by
  have hmap : (s₂.accountForReserveAction k datas configs reductions actions t).map
        (fun res => { res with storage := res.storage.putAccount account [] default })
      = .ok { res with storage := res.storage.putAccount account [] default } := by
    rw [← LendingPoolStorage.accountForReserveAction_putAccount, ← hs,
      LendingPoolStorage.accountForReserveAction_putAccount, h]
    rfl
  cases hres : s₂.accountForReserveAction k datas configs reductions actions t with
  | error e =>
      rw [hres] at hmap
      cases hmap
  | ok res' =>
      rw [hres] at hmap
      have heq := Except.ok.inj hmap
      obtain ⟨s, d, c, acts, ints⟩ := res
      obtain ⟨s', d', c', acts', ints'⟩ := res'
      simp only [ReserveActionResult.mk.injEq] at heq
      obtain ⟨hstorage, rfl, rfl, rfl, rfl⟩ := heq
      exact ⟨s', rfl, hstorage.symm⟩

/-- An action goes through on both of two such states, with the same outcome. -/
lemma applyAction_alike {action action' : Action} {interests : ℕ × ℕ}
    (ha : Alike account st₁ st₂)
    (h : st₁.applyAction feeReductions t action = .ok (st, action', interests)) :
    ∃ st', st₂.applyAction feeReductions t action = .ok (st', action', interests)
      ∧ Alike account st st' ∧ DemandsAlike st₁ st₂ st st' := by
  simp only [applyAction, bind_eq_ok, pure_eq, Except.ok.injEq, Prod.mk.injEq] at h
  obtain ⟨k, hk, data, hdata, must, hmust, res, hres, d, hd, c, hc, act, hact, ints, hints,
    rfl, rfl, rfl⟩ := h
  have hid : st₂.storage.assetId action.asset = .ok k := by
    have hids := congrArg LendingPoolStorage.assetToId ha.storage
    simp only [LendingPoolStorage.putAccount] at hids
    rw [← hk, LendingPoolStorage.assetId, LendingPoolStorage.assetId, hids]
  obtain ⟨must', hmust', hdue, hdue'⟩ := mustCheckAfter_alike ha.accountConfig hmust
  obtain ⟨s, hres', hs⟩ := accountForReserveAction_alike ha.storage hres
  refine ⟨⟨s, st₂.accountDatas.set k (some d), c, must'⟩, ?_, ⟨hs, ?_, rfl⟩, ⟨_, hdue, hdue'⟩⟩
  · rw [ha.accountDatas] at hdata
    rw [ha.accountConfig] at hres'
    simp only [applyAction, hid, hdata, hmust', hres', hd, hc, hact, hints, ok_bind, pure_eq]
  · rw [ha.accountDatas]

/-- **The run lemma**: a list goes through on both, with the same outcome. -/
theorem applyActions_alike {actions actions' : List Action} {results : List (ℕ × ℕ)}
    (ha : Alike account st₁ st₂)
    (h : st₁.applyActions feeReductions t actions = .ok (st, actions', results)) :
    ∃ st', st₂.applyActions feeReductions t actions = .ok (st', actions', results)
      ∧ Alike account st st' ∧ DemandsAlike st₁ st₂ st st' := by
  induction actions generalizing st₁ st₂ actions' results with
  | nil =>
      obtain ⟨rfl, rfl, rfl⟩ := applyActions_nil_ok h
      exact ⟨st₂, rfl, ha, false, (Bool.or_false _).symm, (Bool.or_false _).symm⟩
  | cons action rest ih =>
      obtain ⟨mid, act, ints, acts, results, hhead, hrest, rfl, rfl⟩ := applyActions_cons_ok h
      obtain ⟨mid', hhead', hmid, hdue⟩ := applyAction_alike ha hhead
      obtain ⟨last', hrest', hlast, hdue'⟩ := ih hmid hrest
      refine ⟨last', ?_, hlast, hdue.trans hdue'⟩
      simp only [applyActions, hhead', hrest', ok_bind, pure_eq]

/-- The loop over a batch is the loop over its parts. -/
lemma applyActions_append (st : AccountActionsState) (xs ys : List Action) :
    st.applyActions feeReductions t (xs ++ ys)
      = st.applyActions feeReductions t xs >>= fun first =>
        first.1.applyActions feeReductions t ys >>= fun second =>
          .ok (second.1, first.2.1 ++ second.2.1, first.2.2 ++ second.2.2) := by
  induction xs generalizing st with
  | nil =>
      simp only [List.nil_append, applyActions, ok_bind]
      cases st.applyActions feeReductions t ys <;> rfl
  | cons action rest ih =>
      simp only [List.cons_append, applyActions, ih, bind_assoc, ok_bind, pure_eq]

end AccountActionsState

/-! ### Lists of actions -/

/-- The results of two parts put together. -/
def AccountActionsResult.append (first second : AccountActionsResult) : AccountActionsResult where
  storage := second.storage
  actions := first.actions ++ second.actions
  interests := first.interests ++ second.interests

namespace LendingPoolStorage

section

variable [Pendzl] {self : LendingPoolStorage} {env env₁ env₂ : Env} {account : AccountId}
  {actions xs ys : List Action} {res res₁ res₂ : AccountActionsResult}
  {feeReductions : FeeReductions} {t : ℕ} {due due₁ due₂ : Bool}

/-- A list of actions goes through, apart from the check of the collateral: what it leaves,
and whether the check is due. -/
def Performs (self : LendingPoolStorage) (feeReductions : FeeReductions) (t : ℕ)
    (account : AccountId) (actions : List Action) (due : Bool) (res : AccountActionsResult) :
    Prop :=
  ∃ st, (self.startActions account).applyActions feeReductions t actions
      = .ok (st, res.actions, res.interests)
    ∧ res.storage = st.flush account ∧ due = st.mustCheckCollateralization

lemma Performs.unique (h : self.Performs feeReductions t account actions due res)
    (h₁ : self.Performs feeReductions t account actions due₁ res₁) : due = due₁ ∧ res = res₁ := by
  obtain ⟨st, hst, hs, rfl⟩ := h
  obtain ⟨st₁, hst₁, hs₁, rfl⟩ := h₁
  obtain ⟨s, acts, ints⟩ := res
  obtain ⟨s₁, acts₁, ints₁⟩ := res₁
  simp only at hst hst₁ hs hs₁
  have heq := Except.ok.inj (hst.symm.trans hst₁)
  simp only [Prod.mk.injEq] at heq
  obtain ⟨rfl, rfl, rfl⟩ := heq
  exact ⟨rfl, by rw [hs, hs₁]⟩

lemma Performs.reductions (h : self.Performs feeReductions t account actions due res) :
    res.storage.getFeeReductionsOfAccount env account
      = self.getFeeReductionsOfAccount env account := by
  obtain ⟨st, hst, hs, -⟩ := h
  rw [hs]
  exact (AccountActionsState.applyActions_keeps hst).reductions

/-- **A batch goes through exactly when its parts do**, one after the other. -/
theorem performs_append :
    self.Performs feeReductions t account (xs ++ ys) due res ↔ ∃ due₁ res₁ due₂ res₂,
      self.Performs feeReductions t account xs due₁ res₁
        ∧ res₁.storage.Performs feeReductions t account ys due₂ res₂
        ∧ due = (due₁ || due₂) ∧ res = res₁.append res₂ := by
  -- where the first part stops, and where the loop over the second part starts
  have hmid : ∀ {mid acts ints}, (self.startActions account).applyActions feeReductions t xs
      = .ok (mid, acts, ints) →
      AccountActionsState.Alike account mid ((mid.flush account).startActions account) := by
    intro mid acts ints h
    exact AccountActionsState.startActions_flush_alike
      ((AccountActionsState.applyActions_keeps h).fits assetCount_le_length_getAccountDatas)
  constructor
  · rintro ⟨last, hrun, hs, rfl⟩
    simp only [AccountActionsState.applyActions_append, bind_eq_ok, Except.ok.injEq,
      Prod.mk.injEq] at hrun
    obtain ⟨⟨mid, acts, ints⟩, hfirst, ⟨last', acts', ints'⟩, hsecond, rfl, hacts, hints⟩ := hrun
    obtain ⟨last₂, hsecond', halike, d, hd, hd₂⟩ :=
      AccountActionsState.applyActions_alike (hmid hfirst) hsecond
    refine ⟨_, ⟨mid.flush account, acts, ints⟩, _, ⟨last₂.flush account, acts', ints'⟩,
      ⟨mid, hfirst, rfl, rfl⟩, ⟨last₂, hsecond', rfl, rfl⟩, ?_, ?_⟩
    · rw [hd, hd₂]
      rfl
    · obtain ⟨s, as, is⟩ := res
      simp only at hs hacts hints
      rw [hs, ← hacts, ← hints, AccountActionsResult.append, halike.flush]
  · rintro ⟨_, res₁, _, res₂, ⟨mid, hfirst, hs₁, rfl⟩, ⟨last₂, hsecond, hs₂, rfl⟩, rfl, rfl⟩
    rw [hs₁] at hsecond
    obtain ⟨last, hsecond', halike, d, hd, hd₂⟩ :=
      AccountActionsState.applyActions_alike (hmid hfirst).symm hsecond
    refine ⟨last, ?_, ?_, ?_⟩
    · simp only [AccountActionsState.applyActions_append, hfirst, hsecond', ok_bind]
      rfl
    · rw [AccountActionsResult.append, hs₂, halike.flush]
    · rw [hd, hd₂]
      rfl

/-- The actions of an account are accepted exactly when they go through and the account
passes the check, if one is due. -/
theorem accountForAccountActions_eq_ok :
    self.accountForAccountActions env account actions = .ok res ↔ ∃ due,
      self.Performs (self.getFeeReductionsOfAccount env account) env.blockTimestamp account
        actions due res
      ∧ (due = true → res.storage.ensureCollateralizedByAccount env account = .ok ()) := by
  have hflush : ∀ {st acts ints}, (self.startActions account).applyActions
      (self.getFeeReductionsOfAccount env account) env.blockTimestamp actions
        = .ok (st, acts, ints) →
      (st.flush account).ensureCollateralizedByAccount env account
        = st.storage.ensureCollateralizedFromRaw env st.accountDatas st.accountConfig
          (self.getFeeReductionsOfAccount env account) := by
    intro st acts ints h
    have hkeeps := AccountActionsState.applyActions_keeps h
    exact ensureCollateralizedByAccount_flush
      (hkeeps.fits assetCount_le_length_getAccountDatas) hkeeps.reductions
  constructor
  · intro h
    obtain ⟨st, hrun, hcheck, hs⟩ := accountForAccountActions_ok h
    refine ⟨_, ⟨st, hrun, hs, rfl⟩, fun hdue => ?_⟩
    rw [hs, hflush hrun]
    exact hcheck hdue
  · rintro ⟨_, ⟨st, hrun, hs, rfl⟩, hcheck⟩
    have hloop : (⟨self, self.getAccountDatas account, self.getAccountConfig account, false⟩ :
        AccountActionsState).applyActions (self.getFeeReductionsOfAccount env account)
          env.blockTimestamp actions = .ok (st, res.actions, res.interests) := hrun
    rw [hs, hflush hrun] at hcheck
    simp only [accountForAccountActions, hloop, ok_bind]
    split_ifs with hdue
    · rw [hcheck hdue]
      exact congrArg Except.ok (by rw [← AccountActionsState.flush, ← hs])
    · exact congrArg Except.ok (by rw [← AccountActionsState.flush, ← hs])

/-- **A batch is the sequence of its parts.**  It leaves the same storage, amounts and
interests.  And the batch is accepted when its actions go through and the account passes the
check at the end; the parts, when they pass their own checks after each of them. -/
theorem batch_is_sequence (htime₁ : env₁.blockTimestamp = env.blockTimestamp)
    (htime₂ : env₂.blockTimestamp = env.blockTimestamp)
    (hfees₁ : self.getFeeReductionsOfAccount env₁ account
      = self.getFeeReductionsOfAccount env account)
    (hfees₂ : self.getFeeReductionsOfAccount env₂ account
      = self.getFeeReductionsOfAccount env account) :
    (∀ res res₁ res₂, self.accountForAccountActions env account (xs ++ ys) = .ok res →
        self.accountForAccountActions env₁ account xs = .ok res₁ →
        res₁.storage.accountForAccountActions env₂ account ys = .ok res₂ →
        res.storage = res₂.storage ∧ res.interests = res₁.interests ++ res₂.interests
          ∧ res.actions = res₁.actions ++ res₂.actions)
      ∧ ((∃ res, self.accountForAccountActions env account (xs ++ ys) = .ok res) ↔
        ∃ due₁ res₁ due₂ res₂,
          self.Performs (self.getFeeReductionsOfAccount env account) env.blockTimestamp account
            xs due₁ res₁
          ∧ res₁.storage.Performs (self.getFeeReductionsOfAccount env account)
            env.blockTimestamp account ys due₂ res₂
          ∧ (due₁ = true ∨ due₂ = true →
            res₂.storage.ensureCollateralizedByAccount env account = .ok ()))
      ∧ ((∃ res₁ res₂, self.accountForAccountActions env₁ account xs = .ok res₁
          ∧ res₁.storage.accountForAccountActions env₂ account ys = .ok res₂) ↔
        ∃ due₁ res₁ due₂ res₂,
          self.Performs (self.getFeeReductionsOfAccount env account) env.blockTimestamp account
            xs due₁ res₁
          ∧ res₁.storage.Performs (self.getFeeReductionsOfAccount env account)
            env.blockTimestamp account ys due₂ res₂
          ∧ (due₁ = true → res₁.storage.ensureCollateralizedByAccount env₁ account = .ok ())
          ∧ (due₂ = true → res₂.storage.ensureCollateralizedByAccount env₂ account = .ok ())) := by
  have hfirst : ∀ {res₁}, self.accountForAccountActions env₁ account xs = .ok res₁ ↔ ∃ due₁,
      self.Performs (self.getFeeReductionsOfAccount env account) env.blockTimestamp account xs
        due₁ res₁
      ∧ (due₁ = true → res₁.storage.ensureCollateralizedByAccount env₁ account = .ok ()) := by
    intro res₁
    rw [accountForAccountActions_eq_ok, hfees₁, htime₁]
  -- the first part keeps the contract that grants the reductions
  have hsecond : ∀ {due₁ res₁ res₂}, self.Performs (self.getFeeReductionsOfAccount env account)
        env.blockTimestamp account xs due₁ res₁ →
      (res₁.storage.accountForAccountActions env₂ account ys = .ok res₂ ↔ ∃ due₂,
        res₁.storage.Performs (self.getFeeReductionsOfAccount env account) env.blockTimestamp
          account ys due₂ res₂
        ∧ (due₂ = true → res₂.storage.ensureCollateralizedByAccount env₂ account = .ok ())) := by
    intro due₁ res₁ res₂ h
    rw [accountForAccountActions_eq_ok, h.reductions, hfees₂, htime₂]
  refine ⟨fun res res₁ res₂ hbatch h₁ h₂ => ?_, ⟨?_, ?_⟩, ⟨?_, ?_⟩⟩
  · obtain ⟨due, hperforms, -⟩ := accountForAccountActions_eq_ok.mp hbatch
    obtain ⟨due₁, hfirst₁, -⟩ := hfirst.mp h₁
    obtain ⟨due₂, hsecond₂, -⟩ := (hsecond hfirst₁).mp h₂
    have hparts : self.Performs (self.getFeeReductionsOfAccount env account) env.blockTimestamp
        account (xs ++ ys) (due₁ || due₂) (res₁.append res₂) :=
      performs_append.mpr ⟨due₁, res₁, due₂, res₂, hfirst₁, hsecond₂, rfl, rfl⟩
    rw [(hperforms.unique hparts).2]
    exact ⟨rfl, rfl, rfl⟩
  · rintro ⟨res, hbatch⟩
    obtain ⟨due, hperforms, hcheck⟩ := accountForAccountActions_eq_ok.mp hbatch
    obtain ⟨due₁, res₁, due₂, res₂, h₁, h₂, rfl, rfl⟩ := performs_append.mp hperforms
    exact ⟨due₁, res₁, due₂, res₂, h₁, h₂, fun hdue => hcheck (by simpa using hdue)⟩
  · rintro ⟨due₁, res₁, due₂, res₂, h₁, h₂, hcheck⟩
    refine ⟨res₁.append res₂, accountForAccountActions_eq_ok.mpr ⟨due₁ || due₂,
      performs_append.mpr ⟨due₁, res₁, due₂, res₂, h₁, h₂, rfl, rfl⟩, fun hdue => ?_⟩⟩
    exact hcheck (by simpa using hdue)
  · rintro ⟨res₁, res₂, h₁, h₂⟩
    obtain ⟨due₁, hfirst₁, hcheck₁⟩ := hfirst.mp h₁
    obtain ⟨due₂, hsecond₂, hcheck₂⟩ := (hsecond hfirst₁).mp h₂
    exact ⟨due₁, res₁, due₂, res₂, hfirst₁, hsecond₂, hcheck₁, hcheck₂⟩
  · rintro ⟨due₁, res₁, due₂, res₂, h₁, h₂, hcheck₁, hcheck₂⟩
    exact ⟨res₁, res₂, hfirst.mpr ⟨due₁, h₁, hcheck₁⟩, (hsecond h₁).mpr ⟨due₂, h₂, hcheck₂⟩⟩

end

attribute [local instance] Pendzl.exact in
/-- A batch with all four operations and its two halves, at different prices. -/
theorem batch_is_sequence_sample :
    ∃ w res res₁ res₂, Sample.world.run Sample.depositors = some w
      ∧ w.pool.accountForAccountActions (Sample.env (Sample.account 3) 20) (Sample.account 3)
        ([⟨.repay, Sample.account 100, 20⟩, ⟨.borrow, Sample.account 100, 30⟩]
          ++ [⟨.withdraw, Sample.account 100, 70⟩, ⟨.deposit, Sample.account 101, 5⟩]) = .ok res
      ∧ w.pool.accountForAccountActions (Sample.doubledEnv (Sample.account 3) 20)
        (Sample.account 3) [⟨.repay, Sample.account 100, 20⟩, ⟨.borrow, Sample.account 100, 30⟩]
        = .ok res₁
      ∧ res₁.storage.accountForAccountActions (Sample.env (Sample.account 3) 20)
        (Sample.account 3) [⟨.withdraw, Sample.account 100, 70⟩, ⟨.deposit, Sample.account 101, 5⟩]
        = .ok res₂
      ∧ res.storage = res₂.storage ∧ res.interests = res₁.interests ++ res₂.interests
      ∧ res.actions = res₁.actions ++ res₂.actions := by
  have hrun : (Sample.world.run Sample.depositors).map (fun w =>
        ((w.pool.accountForAccountActions (Sample.env (Sample.account 3) 20) (Sample.account 3)
            ([⟨.repay, Sample.account 100, 20⟩, ⟨.borrow, Sample.account 100, 30⟩]
              ++ [⟨.withdraw, Sample.account 100, 70⟩, ⟨.deposit, Sample.account 101, 5⟩])).isOk,
          (do
            let res ← w.pool.accountForAccountActions (Sample.doubledEnv (Sample.account 3) 20)
              (Sample.account 3)
              [⟨.repay, Sample.account 100, 20⟩, ⟨.borrow, Sample.account 100, 30⟩]
            res.storage.accountForAccountActions (Sample.env (Sample.account 3) 20)
              (Sample.account 3)
              [⟨.withdraw, Sample.account 100, 70⟩, ⟨.deposit, Sample.account 101, 5⟩]).isOk))
      = some (true, true) := by decide +kernel
  obtain ⟨w, hw, hv⟩ := Option.map_eq_some_iff.mp hrun
  obtain ⟨hbatch, hparts⟩ := Prod.mk.inj hv
  obtain ⟨res, hres⟩ := isOk_eq_true.mp hbatch
  obtain ⟨res₂, hres₂⟩ := isOk_eq_true.mp hparts
  obtain ⟨res₁, hfirst, hsecond⟩ := bind_eq_ok.mp hres₂
  have htime : (Sample.doubledEnv (Sample.account 3) 20).blockTimestamp
      = (Sample.env (Sample.account 3) 20).blockTimestamp := rfl
  exact ⟨w, res, res₁, res₂, hw, hres, hfirst, hsecond,
    (batch_is_sequence htime rfl rfl rfl).1 res res₁ res₂ hres hfirst hsecond⟩

end LendingPoolStorage

end AbaxLending
