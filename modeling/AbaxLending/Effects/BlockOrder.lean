import AbaxLending.Contract.Run
import AbaxLending.Lib.Commuting
import AbaxLending.Spec.Blocks

/-!
The order of two calls in a block does not matter.

What a call does to the reserves is a multiset of touches, and the touches, like the amounts
and the interests that the call gives, do not depend on what other accounts did before in
the same block.  Different accounts are stored under different keys.

* `BlockCall`: the actions of an account, or an accumulation of interest on an asset;
* `BlockCall.Runs`: a call from given copies of its account; `BlockCall.runs_accumulates`:
  it accumulates touches;
* `BlockCall.run_comm`: two calls of a block commute.
-/

namespace AbaxLending

open Outcome Commuting

/-! ### The loop over the actions -/

/-- The local copies of the loop of `account_for_account_actions`. -/
structure AccountCopies where
  accountDatas : List (Option AccountReserveData)
  accountConfig : AccountConfig
  mustCheckCollateralization : Bool

/-- The state of the loop with copies over a storage. -/
def AccountCopies.on (self : AccountCopies) (s : LendingPoolStorage) : AccountActionsState where
  storage := s
  accountDatas := self.accountDatas
  accountConfig := self.accountConfig
  mustCheckCollateralization := self.mustCheckCollateralization

section

variable [Pendzl] {base : LendingPoolStorage} {t : ℕ} (feeReductions : FeeReductions)

/-- An action adds the touch of its step. -/
lemma applyAction_accumulates (copies : AccountCopies) (action : Action) :
    Accumulates (LendingPoolStorage.InBlock base t)
      fun s (out : AccountCopies × Action × (ℕ × ℕ)) s' =>
        (copies.on s).applyAction feeReductions t action = .ok (out.1.on s', out.2) := by
  rintro m s s' ⟨copies', action', interests⟩ hs hrun
  obtain ⟨k, ctx, s₁, st, rd, hk, -, hopen, hstep, hrates, rfl, rfl, hst⟩ :=
    AccountActionsState.applyAction_opens hrun
  refine ⟨{st.touch ctx ((copies.on s).position k) feeReductions}, ?_⟩
  rintro n r r' ⟨copies'', action'', interests'⟩ hr hrun'
  obtain ⟨k', ctx', r₁, st', rd', hk', -, hopen', hstep', hrates', rfl, rfl, hst'⟩ :=
    AccountActionsState.applyAction_opens hrun'
  have hids : r.assetToId = s.assetToId :=
    LendingPoolStorage.assetToId_of_setup (hr.setup.trans hs.setup.symm)
  have hkk : k' = k := by
    simp only [AccountCopies.on] at hk hk'
    rw [hids] at hk'
    exact Option.some.inj (hk'.symm.trans hk)
  subst hkk
  have hterms := hs.sameTerms hr hopen hopen'
  obtain ⟨hdata, hconfig, hamount, hinterests⟩ := Action.step_sameTerms hterms hstep hstep'
  have htouch := Action.step_touch hterms hstep hstep'
  simp only [AccountCopies.on, AccountActionsState.mk.injEq] at hst hst'
  obtain ⟨hstorage, hdatas, hcfg, hmust⟩ := hst
  obtain ⟨hstorage', hdatas', hcfg', hmust'⟩ := hst'
  refine ⟨?_, ?_⟩
  · obtain ⟨v, c, b⟩ := copies'
    obtain ⟨v', c', b'⟩ := copies''
    simp only at hdatas hcfg hmust hdatas' hcfg' hmust'
    rw [hdatas', hcfg', hmust', hdatas, hcfg, hmust, hdata, hconfig, hamount, hinterests]
  · rw [hstorage', ← htouch]
    exact hr.touch (LendingPoolStorage.openReserve_starts hopen') (Action.step_touches hstep')
      hrates'

/-- **A list of actions adds the touches of its steps.** -/
theorem applyActions_accumulates (copies : AccountCopies) (actions : List Action) :
    Accumulates (LendingPoolStorage.InBlock base t)
      fun s (out : AccountCopies × List Action × List (ℕ × ℕ)) s' =>
        (copies.on s).applyActions feeReductions t actions = .ok (out.1.on s', out.2) := by
  induction actions generalizing copies with
  | nil =>
      refine (Accumulates.pure (copies, [], [])).mono ?_
      rintro s ⟨copies', actions', results⟩ s' h
      simp only [AccountActionsState.applyActions, AccountCopies.on, Except.ok.injEq,
        Prod.mk.injEq, AccountActionsState.mk.injEq] at h
      obtain ⟨⟨hs, hdatas, hconfig, hmust⟩, rfl, rfl⟩ := h
      obtain ⟨v, c, b⟩ := copies'
      simp only at hdatas hconfig hmust
      rw [← hdatas, ← hconfig, ← hmust]
      exact ⟨rfl, hs.symm⟩
  | cons action rest ih =>
      refine ((applyAction_accumulates feeReductions copies action).bind fun head =>
        (ih head.1).bind fun tail => Accumulates.pure
          (tail.1, head.2.1 :: tail.2.1, head.2.2 :: tail.2.2)).mono ?_
      rintro s ⟨copies', actions', results⟩ s' h
      simp only [AccountActionsState.applyActions, bind_eq_ok, pure_eq, Except.ok.injEq,
        Prod.mk.injEq] at h
      obtain ⟨⟨mid, act, ints⟩, hhead, ⟨last, acts, res⟩, hrest, rfl, rfl, rfl⟩ := h
      exact ⟨(⟨mid.accountDatas, mid.accountConfig, mid.mustCheckCollateralization⟩, act, ints),
        mid.storage, hhead, (copies', acts, res), s', hrest, rfl, rfl⟩

end

/-! ### Calls -/

/-- A call of a block: the actions of an account, or an accumulation of interest. -/
inductive BlockCall where
  | accountActions (account : AccountId) (actions : List Action)
  | accumulateInterest (asset : AccountId)
  deriving DecidableEq, Repr

namespace BlockCall

/-- The account whose entries a call reads and writes. -/
def account : BlockCall → Option AccountId
  | .accountActions account _ => some account
  | .accumulateInterest _ => none

/-- A call of the pool: the storage it leaves, and the clipped actions and the interests. -/
def run [Pendzl] (env : Env) (s : LendingPoolStorage) :
    BlockCall → Res (LendingPoolStorage × List Action × List (ℕ × ℕ))
  | .accountActions account actions => do
      let res ← s.accountForAccountActions env account actions
      return (res.storage, res.actions, res.interests)
  | .accumulateInterest asset => do
      let s ← s.accountForAccumulateInterest asset env.blockTimestamp
      return (s, [], [])

/-- The map of a kind of entry with the one of the account of a call written. -/
def write {V : Type} (self : BlockCall) (v : V) (entries : Mapping AccountId V) :
    Mapping AccountId V :=
  match self.account with
  | some account => entries.insert account v
  | none => entries

/-- The copies that a call starts with. -/
def copies (self : BlockCall) (s : LendingPoolStorage) : AccountCopies :=
  match self.account with
  | some account => ⟨s.getAccountDatas account, s.getAccountConfig account, false⟩
  | none => ⟨[], default, false⟩

/-- The fee reductions of the account of a call. -/
def feeReductions (self : BlockCall) (s : LendingPoolStorage) (env : Env) : FeeReductions :=
  match self.account with
  | some account => s.getFeeReductionsOfAccount env account
  | none => (0, 0)

section

variable [Pendzl]

/-- A call from given copies of its account: what it gives and leaves. -/
inductive Runs (start : AccountCopies) (fees : FeeReductions) (t : ℕ) :
    BlockCall → LendingPoolStorage → AccountCopies × List Action × List (ℕ × ℕ) →
      LendingPoolStorage → Prop
  | accountActions {account : AccountId} {actions : List Action} {s mid : LendingPoolStorage}
      {copies : AccountCopies} {out : List Action × List (ℕ × ℕ)} :
      (start.on s).applyActions fees t actions = .ok (copies.on mid, out) →
      Runs start fees t (.accountActions account actions) s (copies, out)
        (mid.putAccount account copies.accountDatas copies.accountConfig)
  | accumulateInterest {asset : AccountId} {s s' : LendingPoolStorage} :
      s.accountForAccumulateInterest asset t = .ok s' →
      Runs start fees t (.accumulateInterest asset) s (start, [], []) s'

variable {base s s' s₁ s₂ s₁₂ s₂₁ : LendingPoolStorage} {env : Env} {t : ℕ}
  {start : AccountCopies} {fees : FeeReductions} {call first second : BlockCall}

/-- Accumulating interest adds an idle touch. -/
lemma accumulateInterest_touch {asset : AccountId} {m : Multiset Touch}
    (hs : LendingPoolStorage.InBlock base t m s)
    (h : s.accountForAccumulateInterest asset t = .ok s') :
    ∃ k, base.assetToId.get asset = some k
      ∧ LendingPoolStorage.InBlock base t (m + {Touch.idle k}) s' := by
  simp only [LendingPoolStorage.accountForAccumulateInterest, LendingPoolStorage.assetId,
    LendingPoolStorage.getReserveData, LendingPoolStorage.getReserveIndexesAndFees, bind_eq_ok,
    okOr_eq_ok, unwrap_eq_ok, pure_eq, Except.ok.injEq] at h
  obtain ⟨k, hk, rd, hrd, r, hr, s₁, hs₁, indexes, hindexes, rd', hrd', rfl⟩ := h
  rw [LendingPoolStorage.assetToId_of_setup hs.setup] at hk
  -- the context of a visit that runs no action, whose restrictions nothing reads
  have hstart : s.Starts k t s₁ ⟨k, rd, { r with indexes }, ⟨none, none, 0, 0⟩⟩ :=
    ⟨rfl, hrd, ⟨r, hr, hindexes, rfl⟩, hs₁⟩
  have hrates : s.recalculateRates k rd = .ok rd' := by
    obtain ⟨i, e, rfl⟩ := LendingPoolStorage.storeUtilizationRateSnapshot_ok hs₁
    exact hrd'
  exact ⟨k, hk, hs.touch hstart (.idle _) hrates⟩

/-- **A call adds its touches.** -/
theorem runs_accumulates (start : AccountCopies) (fees : FeeReductions) (call : BlockCall) :
    Accumulates (LendingPoolStorage.InBlock base t) (Runs start fees t call) := by
  rintro m s s' out hs hrun
  cases hrun with
  | @accountActions account actions _ mid copies out hloop =>
      obtain ⟨d, hd⟩ := applyActions_accumulates fees start actions (o := (copies, out)) hs hloop
      refine ⟨d, ?_⟩
      rintro n r r' p hr hrun'
      cases hrun' with
      | @accountActions _ _ _ mid' copies' out' hloop' =>
          obtain ⟨heq, hblock⟩ := hd (p := (copies', out')) hr hloop'
          exact ⟨heq, hblock.putAccount _ _ _⟩
  | accumulateInterest h =>
      obtain ⟨k, hk, -⟩ := accumulateInterest_touch hs h
      refine ⟨{Touch.idle k}, ?_⟩
      rintro n r r' p hr hrun'
      cases hrun' with
      | accumulateInterest h' =>
          obtain ⟨k', hk', hblock⟩ := accumulateInterest_touch hr h'
          cases hk.symm.trans hk'
          exact ⟨rfl, hblock⟩

/-- A call runs from the copies of its account. -/
lemma runs_of_run {out : List Action × List (ℕ × ℕ)} (h : call.run env s = .ok (s', out)) :
    ∃ copies, Runs (call.copies s) (call.feeReductions s env) env.blockTimestamp call s
      (copies, out) s' := by
  cases call with
  | accountActions account actions =>
      simp only [run, bind_eq_ok, pure_eq, Except.ok.injEq, Prod.mk.injEq] at h
      obtain ⟨res, hres, rfl, rfl⟩ := h
      obtain ⟨st, hloop, -, hs⟩ := LendingPoolStorage.accountForAccountActions_ok hres
      rw [hs]
      exact ⟨⟨st.accountDatas, st.accountConfig, st.mustCheckCollateralization⟩,
        .accountActions hloop⟩
  | accumulateInterest asset =>
      simp only [run, bind_eq_ok, pure_eq, Except.ok.injEq, Prod.mk.injEq] at h
      obtain ⟨s₁, hs₁, rfl, rfl⟩ := h
      exact ⟨_, .accumulateInterest hs₁⟩

/-- A call writes the entries of its account only. -/
lemma Runs.writes {out : List Action × List (ℕ × ℕ)} {copies : AccountCopies}
    (h : Runs start fees t call s (copies, out) s') :
    s'.accountReserveDatas = call.write copies.accountDatas s.accountReserveDatas
      ∧ s'.accountConfigs = call.write copies.accountConfig s.accountConfigs := by
  cases h with
  | accountActions hloop =>
      obtain ⟨hdatas, hconfigs⟩ := AccountActionsState.applyActions_keepsAccounts hloop
      simp only [AccountCopies.on] at hdatas hconfigs
      rw [LendingPoolStorage.putAccount_accountReserveDatas,
        LendingPoolStorage.putAccount_accountConfigs, hdatas, hconfigs]
      exact ⟨rfl, rfl⟩
  | accumulateInterest h =>
      simp only [LendingPoolStorage.accountForAccumulateInterest, bind_eq_ok, pure_eq,
        Except.ok.injEq] at h
      obtain ⟨k, -, rd, -, r, -, s₁, hs₁, indexes, -, rd', -, rfl⟩ := h
      obtain ⟨i, e, rfl⟩ := LendingPoolStorage.storeUtilizationRateSnapshot_ok hs₁
      exact ⟨rfl, rfl⟩

/-- Calls of different accounts. -/
def Apart (first second : BlockCall) : Prop :=
  ∀ account, first.account = some account → second.account ≠ some account

omit [Pendzl] in
lemma Apart.symm (h : first.Apart second) : second.Apart first :=
  fun account hsecond hfirst => h account hfirst hsecond

omit [Pendzl] in
/-- The entries of different accounts are written in any order. -/
lemma Apart.write_comm {V : Type} (h : first.Apart second) (v w : V) (m : Mapping AccountId V) :
    second.write w (first.write v m) = first.write v (second.write w m) := by
  cases hfirst : first.account with
  | none => simp only [write, hfirst]
  | some a =>
      cases hsecond : second.account with
      | none => simp only [write, hsecond]
      | some b =>
          have hne : a ≠ b := fun hab => h a hfirst (hab ▸ hsecond)
          simp only [write, hfirst, hsecond]
          exact Mapping.insert_comm m hne v w

/-- After a call of another account, a call starts with the same copies. -/
lemma Apart.copies_eq {out : List Action × List (ℕ × ℕ)} {copies : AccountCopies}
    (h : first.Apart second) (hrun : Runs start fees t first s (copies, out) s')
    (hsetup : s'.setup = s.setup) (env : Env) :
    second.copies s' = second.copies s
      ∧ second.feeReductions s' env = second.feeReductions s env := by
  obtain ⟨hdatas, hconfigs⟩ := hrun.writes
  have hcount : s'.nextAssetId = s.nextAssetId := by
    show s'.setup.nextAssetId = s.setup.nextAssetId
    rw [hsetup]
  have hprovider : s'.feeReductionProvider = s.feeReductionProvider := by
    show s'.setup.feeReductionProvider = s.setup.feeReductionProvider
    rw [hsetup]
  cases hsecond : second.account with
  | none => simp only [BlockCall.copies, BlockCall.feeReductions, hsecond, and_self]
  | some b =>
      have hget : ∀ {V : Type} (v : V) (m : Mapping AccountId V),
          (first.write v m).get b = m.get b := by
        intro V v m
        cases hfirst : first.account with
        | none => simp only [write, hfirst]
        | some a =>
            have hne : b ≠ a := fun hba => h a hfirst (hba ▸ hsecond)
            simp only [write, hfirst]
            exact Mapping.get_insert_of_ne m hne v
      simp only [BlockCall.copies, BlockCall.feeReductions, hsecond,
        LendingPoolStorage.getAccountDatas, LendingPoolStorage.getAccountConfig,
        LendingPoolStorage.getAccountReserveDatasDefaults, LendingPoolStorage.assetCount,
        LendingPoolStorage.getFeeReductionsOfAccount, hdatas, hconfigs, hget, hcount, hprovider]
      exact ⟨rfl, trivial⟩

/-- **Two calls of a block commute.**  Both orders leave the same storage, and each call gives
the same clipped actions and the same interests in both. -/
theorem run_comm {out₁ out₁' out₂ out₂' : List Action × List (ℕ × ℕ)}
    (hapart : first.Apart second) (h₁ : first.run env s = .ok (s₁, out₁))
    (h₁₂ : second.run env s₁ = .ok (s₁₂, out₂)) (h₂ : second.run env s = .ok (s₂, out₂'))
    (h₂₁ : first.run env s₂ = .ok (s₂₁, out₁')) :
    s₁₂ = s₂₁ ∧ out₁ = out₁' ∧ out₂ = out₂' := by
  have hstart := LendingPoolStorage.InBlock.start s env.blockTimestamp
  obtain ⟨c₁, hrun₁⟩ := runs_of_run h₁
  obtain ⟨c₂, hrun₂⟩ := runs_of_run h₂
  obtain ⟨c₁₂, hrun₁₂⟩ := runs_of_run h₁₂
  obtain ⟨c₂₁, hrun₂₁⟩ := runs_of_run h₂₁
  have hfirst : Accumulates (LendingPoolStorage.InBlock s env.blockTimestamp)
      (Runs (first.copies s) (first.feeReductions s env) env.blockTimestamp first) :=
    runs_accumulates _ _ first
  have hsecond : Accumulates (LendingPoolStorage.InBlock s env.blockTimestamp)
      (Runs (second.copies s) (second.feeReductions s env) env.blockTimestamp second) :=
    runs_accumulates _ _ second
  -- the second call of each order starts with the copies it has at the start of the block
  obtain ⟨d, hd⟩ := hfirst hstart hrun₁
  obtain ⟨e, he⟩ := hsecond hstart hrun₂
  obtain ⟨hcopies, hfees⟩ := hapart.copies_eq hrun₁ (hd hstart hrun₁).2.setup env
  obtain ⟨hcopies', hfees'⟩ := hapart.symm.copies_eq hrun₂ (he hstart hrun₂).2.setup env
  rw [hcopies, hfees] at hrun₁₂
  rw [hcopies', hfees'] at hrun₂₁
  obtain ⟨hout₁, hout₂, m, hblock, hblock'⟩ :=
    hfirst.swap hsecond hstart hrun₁ hrun₁₂ hrun₂ hrun₂₁
  simp only [Prod.mk.injEq] at hout₁ hout₂
  obtain ⟨rfl, rfl⟩ := hout₁
  obtain ⟨rfl, rfl⟩ := hout₂
  obtain ⟨hdatas₁, hconfigs₁⟩ := hrun₁.writes
  obtain ⟨hdatas₂, hconfigs₂⟩ := hrun₂.writes
  obtain ⟨hdatas₁₂, hconfigs₁₂⟩ := hrun₁₂.writes
  obtain ⟨hdatas₂₁, hconfigs₂₁⟩ := hrun₂₁.writes
  have hdatas : s₁₂.accountReserveDatas = s₂₁.accountReserveDatas := by
    rw [hdatas₁₂, hdatas₁, hdatas₂₁, hdatas₂]
    exact hapart.write_comm ..
  have hconfigs : s₁₂.accountConfigs = s₂₁.accountConfigs := by
    rw [hconfigs₁₂, hconfigs₁, hconfigs₂₁, hconfigs₂]
    exact hapart.write_comm ..
  exact ⟨hblock'.unique hblock hdatas hconfigs, rfl, rfl⟩

end

attribute [local instance] Pendzl.exact in
/-- Both orders of two lists on the same assets. -/
theorem run_comm_sample :
    ∃ w s₁ s₂ s₁₂ s₂₁ out₁ out₁' out₂ out₂', Sample.world.run Sample.depositors = some w
      ∧ run (Sample.env (Sample.account 5) 20) w.pool (.accountActions (Sample.account 3)
        [⟨.repay, Sample.account 100, 20⟩, ⟨.withdraw, Sample.account 100, 70⟩]) = .ok (s₁, out₁)
      ∧ run (Sample.env (Sample.account 5) 20) s₁ (.accountActions (Sample.account 4)
        [⟨.deposit, Sample.account 100, 9⟩, ⟨.borrow, Sample.account 101, 3⟩]) = .ok (s₁₂, out₂)
      ∧ run (Sample.env (Sample.account 5) 20) w.pool (.accountActions (Sample.account 4)
        [⟨.deposit, Sample.account 100, 9⟩, ⟨.borrow, Sample.account 101, 3⟩]) = .ok (s₂, out₂')
      ∧ run (Sample.env (Sample.account 5) 20) s₂ (.accountActions (Sample.account 3)
        [⟨.repay, Sample.account 100, 20⟩, ⟨.withdraw, Sample.account 100, 70⟩])
        = .ok (s₂₁, out₁')
      ∧ s₁₂ = s₂₁ ∧ out₁ = out₁' ∧ out₂ = out₂' := by
  have hrun : (Sample.world.run Sample.depositors).map (fun w =>
        ((do
            let (s, _) ← run (Sample.env (Sample.account 5) 20) w.pool
              (.accountActions (Sample.account 3)
                [⟨.repay, Sample.account 100, 20⟩, ⟨.withdraw, Sample.account 100, 70⟩])
            run (Sample.env (Sample.account 5) 20) s (.accountActions (Sample.account 4)
              [⟨.deposit, Sample.account 100, 9⟩, ⟨.borrow, Sample.account 101, 3⟩])).isOk,
          (do
            let (s, _) ← run (Sample.env (Sample.account 5) 20) w.pool
              (.accountActions (Sample.account 4)
                [⟨.deposit, Sample.account 100, 9⟩, ⟨.borrow, Sample.account 101, 3⟩])
            run (Sample.env (Sample.account 5) 20) s (.accountActions (Sample.account 3)
              [⟨.repay, Sample.account 100, 20⟩, ⟨.withdraw, Sample.account 100, 70⟩])).isOk))
      = some (true, true) := by decide +kernel
  obtain ⟨w, hw, hv⟩ := Option.map_eq_some_iff.mp hrun
  obtain ⟨horder, horder'⟩ := Prod.mk.inj hv
  obtain ⟨⟨s₁₂, out₂⟩, h⟩ := isOk_eq_true.mp horder
  obtain ⟨⟨s₁, out₁⟩, h₁, h₁₂⟩ := bind_eq_ok.mp h
  obtain ⟨⟨s₂₁, out₁'⟩, h'⟩ := isOk_eq_true.mp horder'
  obtain ⟨⟨s₂, out₂'⟩, h₂, h₂₁⟩ := bind_eq_ok.mp h'
  have hapart : Apart
      (.accountActions (Sample.account 3)
        [⟨.repay, Sample.account 100, 20⟩, ⟨.withdraw, Sample.account 100, 70⟩])
      (.accountActions (Sample.account 4)
        [⟨.deposit, Sample.account 100, 9⟩, ⟨.borrow, Sample.account 101, 3⟩]) := by
    intro a ha hb
    simp only [account, Option.some.injEq] at ha hb
    exact absurd (ha.trans hb.symm) (by decide)
  exact ⟨w, s₁, s₂, s₁₂, s₂₁, out₁, out₁', out₂, out₂', hw, h₁, h₁₂, h₂, h₂₁,
    run_comm hapart h₁ h₁₂ h₂ h₂₁⟩

end BlockCall

end AbaxLending
