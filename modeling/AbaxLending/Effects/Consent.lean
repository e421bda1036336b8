import AbaxLending.Effects.Allowances

/-!
Whose consent a transfer of debt needs.

A vToken moves a debt to the receiver, so the allowance that matters is the one that the receiver
gives to the caller.  `transfer_from` decreases that allowance, but before it checks the one
of the sender, which is not changed: a transfer to which the receiver consented is refused
when the sender gave no allowance.

* `NeedsReceiverConsent`: the transfer succeeds exactly with the consent of the receiver, and
  uses up no other allowance;
* `transferDebtFromTo_isOk`: the pool decides about the debt without the allowances;
* `transferFrom_vToken_ok`: what a transfer of debt checks and changes;
* `transferFrom_needsReceiverConsent_iff`: when the consent of the receiver is all it takes.
-/

namespace AbaxLending

open Outcome

namespace World

section

variable {w : World} {address owner spender : AccountId} {token : AbacusToken} {n : ℕ}

/-- The allowance that a token shows, when the token is known. -/
lemma allowance_of_get (ht : w.tokens.get address = some token) (owner spender : AccountId) :
    w.allowance address owner spender = token.allowance owner spender := by
  rw [World.allowance, ht, Option.map_some, Option.getD_some]

/-- The allowances after one of them was set. -/
lemma approveFromTo_allowance (ht : w.tokens.get address = some token)
    (a o s : AccountId) :
    (w.approveFromTo address token owner spender n).allowance a o s
      = if a = address ∧ o = owner ∧ s = spender then n else w.allowance a o s := by
  rw [World.allowance, approveFromTo_tokens, Mapping.get_insert]
  by_cases ha : a = address
  · subst ha
    rw [if_pos rfl, Option.map_some, Option.getD_some, AbacusToken.allowance,
      AbacusToken.setAllowance, Mapping.get_insert]
    by_cases hpair : o = owner ∧ s = spender
    · obtain ⟨rfl, rfl⟩ := hpair
      rw [if_pos rfl, if_pos ⟨rfl, rfl, rfl⟩, Option.getD_some]
    · rw [if_neg fun h => hpair (Prod.mk.inj h), if_neg fun h => hpair h.2, allowance_of_get ht,
        AbacusToken.allowance]
  · rw [if_neg ha, if_neg fun h => ha h.1, World.allowance]

/-- The events of a token are accepted when it belongs to the pool. -/
lemma emitTransferEvents_isOk (w : World) (address : AccountId) (events : List TransferEventData) :
    (∃ w', w.emitTransferEvents address events = .ok w')
      ↔ ∃ token, w.tokens.get address = some token ∧ token.lendingPool = w.poolAddress := by
  simp only [emitTransferEvents, bind_eq_ok, unwrap_eq_ok, failIf_eq_ok, not_not, pure_eq,
    Except.ok.injEq]
  constructor
  · rintro ⟨_, token, ht, _, hpool, -⟩
    exact ⟨token, ht, hpool⟩
  · rintro ⟨token, ht, hpool⟩
    exact ⟨_, token, ht, (), hpool, rfl⟩

/-- Setting an allowance keeps the tokens that belong to the pool. -/
lemma approveFromTo_belongs (ht : w.tokens.get address = some token) (a : AccountId) :
    (∃ t, (w.approveFromTo address token owner spender n).tokens.get a = some t
        ∧ t.lendingPool = w.poolAddress)
      ↔ ∃ t, w.tokens.get a = some t ∧ t.lendingPool = w.poolAddress := by
  rw [approveFromTo_tokens, Mapping.get_insert]
  split_ifs with ha
  · subst ha
    rw [ht]
    simp only [Option.some.injEq, exists_eq_left', AbacusToken.setAllowance]
  · exact Iff.rfl

end

section

variable [Pendzl] {w w' : World} {env : Env} {address fromAccount toAccount asset : AccountId}
  {token : AbacusToken} {value : ℕ}

/-- **When the pool moves a debt**: it asks its own storage, and the token whose events it has
to emit. -/
lemma transferDebtFromTo_isOk :
    (∃ x, w.transferDebtFromTo env asset fromAccount toAccount value = .ok x)
      ↔ value ≠ 0 ∧ ∃ tokens res, w.pool.reserveAbacusTokens.get asset = some tokens
        ∧ env.caller = tokens.vTokenAddress
        ∧ w.pool.accountForDebtTransferFromTo env asset fromAccount toAccount value
            env.blockTimestamp = .ok res
        ∧ res.storage.ensureCollateralizedByAccount env toAccount = .ok ()
        ∧ (res.fromInterests.1 ≠ 0 ∨ res.toInterests.1 ≠ 0 →
          ∃ t, w.tokens.get tokens.aTokenAddress = some t ∧ t.lendingPool = w.poolAddress) := by
  simp only [transferDebtFromTo, checkAmountNotZero, bind_eq_ok, failIf_eq_ok, okOr_eq_ok, not_not,
    withPool_pool]
  constructor
  · rintro ⟨x, _, hne, tokens, htokens, _, hcaller, res, hres, _, hcheck, h⟩
    refine ⟨hne, tokens, res, htokens, hcaller, hres, hcheck, fun hinterests => ?_⟩
    rw [if_pos hinterests] at h
    simp only [bind_eq_ok, mapErr_eq_ok] at h
    obtain ⟨w₁, hw₁, -⟩ := h
    exact (emitTransferEvents_isOk (w.withPool res.storage) _ _).mp ⟨w₁, hw₁⟩
  · rintro ⟨hne, tokens, res, htokens, hcaller, hres, hcheck, hevents⟩
    by_cases hinterests : res.fromInterests.1 ≠ 0 ∨ res.toInterests.1 ≠ 0
    · obtain ⟨w₁, hw₁⟩ := (emitTransferEvents_isOk (w.withPool res.storage) tokens.aTokenAddress
        [⟨none, some fromAccount, res.fromInterests.1⟩,
          ⟨none, some toAccount, res.toInterests.1⟩]).mpr (hevents hinterests)
      refine ⟨(w₁, res.fromInterests.2, res.toInterests.2), (), hne, tokens, htokens, (), hcaller,
        res, hres, (), hcheck, ?_⟩
      rw [if_pos hinterests, hw₁]
      rfl
    · refine ⟨(w.withPool res.storage, res.fromInterests.2, res.toInterests.2), (), hne, tokens,
        htokens, (), hcaller, res, hres, (), hcheck, ?_⟩
      rw [if_neg hinterests]
      rfl

/-- The pool moves a debt whatever the allowances are. -/
lemma approveFromTo_transferDebtFromTo {owner spender : AccountId} {n : ℕ}
    (ht : w.tokens.get address = some token) :
    (∃ x, (w.approveFromTo address token owner spender n).transferDebtFromTo env asset fromAccount
        toAccount value = .ok x)
      ↔ ∃ x, w.transferDebtFromTo env asset fromAccount toAccount value = .ok x := by
  rw [transferDebtFromTo_isOk, transferDebtFromTo_isOk]
  simp only [approveFromTo_pool, approveFromTo_poolAddress, approveFromTo_belongs ht]

omit [Pendzl] in
/-- A vToken of the pool. -/
structure IsVToken (w : World) (address : AccountId) (token : AbacusToken) : Prop where
  get : w.tokens.get address = some token
  kind : token.kind = .vToken
  lendingPool : token.lendingPool = w.poolAddress

/-- The pool agrees to move the debt behind a token. -/
def PoolMovesDebt (w : World) (env : Env) (address : AccountId) (token : AbacusToken)
    (fromAccount toAccount : AccountId) (value : ℕ) : Prop :=
  ∃ x, w.transferDebtFromTo { env with caller := address } token.underlyingAsset fromAccount
    toAccount value = .ok x

/-- The transfer succeeds exactly with an allowance of the receiver for the caller and the
agreement of the pool, and uses up that allowance and no other. -/
structure NeedsReceiverConsent (w : World) (env : Env) (address : AccountId) (token : AbacusToken)
    (fromAccount toAccount : AccountId) (value : ℕ) : Prop where
  succeeds_iff : (∃ w', w.transferFrom env address fromAccount toAccount value = .ok w')
    ↔ value ≤ w.allowance address toAccount env.caller
      ∧ w.PoolMovesDebt env address token fromAccount toAccount value
  lowers : ∀ w', w.transferFrom env address fromAccount toAccount value = .ok w' →
    w'.allowance address toAccount env.caller + value = w.allowance address toAccount env.caller
  keeps : ∀ w', w.transferFrom env address fromAccount toAccount value = .ok w' →
    ∀ a owner spender, ¬(a = address ∧ owner = toAccount ∧ spender = env.caller) →
      w'.allowance a owner spender = w.allowance a owner spender

omit [Pendzl] in
/-- An allowance that covers the value is lowered by it. -/
lemma decreaseAllowanceFromTo_eq_ok {owner spender : AccountId}
    (ht : w.tokens.get address = some token) :
    w.decreaseAllowanceFromTo address token owner spender value = .ok w'
      ↔ value ≤ w.allowance address owner spender
        ∧ w' = w.approveFromTo address token owner spender
          (w.allowance address owner spender - value) := by
  rw [decreaseAllowanceFromTo, ← allowance_of_get ht, checkedSub]
  by_cases hle : value ≤ w.allowance address owner spender
  · rw [if_pos hle, okOr, ok_bind, pure_eq, Except.ok.injEq, @eq_comm _ _ w']
    exact (and_iff_right hle).symm
  · rw [if_neg hle, okOr, error_bind]
    simp [hle]

/-- The token updates when the pool moves the debt. -/
lemma update_vToken_isOk (hkind : token.kind = .vToken)
    (hpool : token.lendingPool = w.poolAddress) :
    (∃ w', w.update env address token fromAccount toAccount value = .ok w')
      ↔ w.PoolMovesDebt env address token fromAccount toAccount value := by
  simp only [update, hkind, bind_eq_ok, trapIf_eq_ok, not_not, mapErr_eq_ok, pure_eq,
    Except.ok.injEq, PoolMovesDebt]
  constructor
  · rintro ⟨w', _, -, x, hx, -⟩
    exact ⟨x, hx⟩
  · rintro ⟨x, hx⟩
    exact ⟨_, (), hpool, x, hx, rfl⟩

/-- **What `transfer_from` of a vToken does**: it checks two allowances, and lowers the second. -/
theorem transferFrom_vToken_ok (h : w.IsVToken address token) :
    w.transferFrom env address fromAccount toAccount value = .ok w'
      ↔ value ≤ w.allowance address fromAccount env.caller
        ∧ value ≤ w.allowance address toAccount env.caller
        ∧ (w.approveFromTo address token toAccount env.caller
            (w.allowance address toAccount env.caller - value)).update env address token
          fromAccount toAccount value = .ok w' := by
  simp only [transferFrom, h.get, h.kind, bind_eq_ok, unwrap_eq_ok, failIf_eq_ok, not_lt,
    Option.some.injEq, exists_eq_left', decreaseAllowanceFromTo_eq_ok h.get,
    ← allowance_of_get h.get]
  constructor
  · rintro ⟨_, hfrom, w₁, ⟨hto, rfl⟩, hupdate⟩
    exact ⟨hfrom, hto, hupdate⟩
  · rintro ⟨hfrom, hto, hupdate⟩
    exact ⟨(), hfrom, _, ⟨hto, rfl⟩, hupdate⟩

/-- When `transfer_from` of a vToken succeeds. -/
lemma transferFrom_vToken_isOk (h : w.IsVToken address token) :
    (∃ w', w.transferFrom env address fromAccount toAccount value = .ok w')
      ↔ value ≤ w.allowance address fromAccount env.caller
        ∧ value ≤ w.allowance address toAccount env.caller
        ∧ w.PoolMovesDebt env address token fromAccount toAccount value := by
  simp only [transferFrom_vToken_ok h, exists_and_left]
  generalize hlowered : w.approveFromTo address token toAccount env.caller
    (w.allowance address toAccount env.caller - value) = lowered
  have hpool : token.lendingPool = lowered.poolAddress := by
    rw [← hlowered, approveFromTo_poolAddress]
    exact h.lendingPool
  -- the pool does not see the allowance that was lowered
  have hmoves : lowered.PoolMovesDebt env address token fromAccount toAccount value
      ↔ w.PoolMovesDebt env address token fromAccount toAccount value := by
    rw [PoolMovesDebt, PoolMovesDebt, ← hlowered]
    exact approveFromTo_transferDebtFromTo h.get
  rw [update_vToken_isOk h.kind hpool, hmoves]

/-- A transfer of a vToken leaves the allowances as it set them. -/
lemma transferFrom_vToken_allowance (h : w.IsVToken address token)
    (hex : w.transferFrom env address fromAccount toAccount value = .ok w') (a o s : AccountId) :
    w'.allowance a o s
      = if a = address ∧ o = toAccount ∧ s = env.caller then
          w.allowance address toAccount env.caller - value
        else w.allowance a o s := by
  obtain ⟨-, -, hupdate⟩ := (transferFrom_vToken_ok h).mp hex
  obtain ⟨-, -, htokens⟩ := update_ok hupdate
  calc w'.allowance a o s
      = (w.approveFromTo address token toAccount env.caller
          (w.allowance address toAccount env.caller - value)).allowance a o s := by
        rw [allowance_congr htokens]
    _ = _ := approveFromTo_allowance h.get a o s

/-- **When the consent of the receiver is all that a transfer of debt needs**: unless the
sender's allowance for the caller is short of a value that the receiver's covers, and the pool
agrees. -/
theorem transferFrom_needsReceiverConsent_iff (h : w.IsVToken address token) :
    w.NeedsReceiverConsent env address token fromAccount toAccount value
      ↔ value ≤ w.allowance address fromAccount env.caller
        ∨ w.allowance address toAccount env.caller < value
        ∨ ¬w.PoolMovesDebt env address token fromAccount toAccount value := by
  constructor
  · intro hconsent
    by_contra hno
    simp only [not_or, not_le, not_lt, not_not] at hno
    obtain ⟨hshort, hto, hpool⟩ := hno
    have hsucceeds := hconsent.succeeds_iff.mpr ⟨hto, hpool⟩
    have hfrom := ((transferFrom_vToken_isOk h).mp hsucceeds).1
    omega
  · intro hcases
    refine ⟨?_, fun w' hex => ?_, fun w' hex a owner spender hother => ?_⟩
    · rw [transferFrom_vToken_isOk h]
      constructor
      · rintro ⟨-, hto, hpool⟩
        exact ⟨hto, hpool⟩
      · rintro ⟨hto, hpool⟩
        rcases hcases with hfrom | hshort | hrefused
        · exact ⟨hfrom, hto, hpool⟩
        · omega
        · exact absurd hpool hrefused
    · obtain ⟨-, hto, -⟩ := (transferFrom_vToken_ok h).mp hex
      rw [transferFrom_vToken_allowance h hex, if_pos ⟨rfl, rfl, rfl⟩]
      omega
    · rw [transferFrom_vToken_allowance h hex, if_neg hother]

end

/-- `account 3` owes the first asset, and `account 4` lets `account 5` transfer debt to it. -/
def consented : List (Env × Message) := Sample.depositors ++ [
  Sample.send 4 2 fun _ => .approve (Sample.account 2100) (Sample.account 5) 10]

/-- The same, and `account 3` also gave an allowance to `account 5`. -/
def consentedByBoth : List (Env × Message) := consented ++ [
  Sample.send 3 2 fun _ => .approve (Sample.account 2100) (Sample.account 5) 10]

attribute [local instance] Pendzl.exact in
/-- With both allowances the debt moves, and the one of the receiver is used up. -/
theorem transferFrom_needsReceiverConsent_both :
    ∃ w token, Sample.world.run consentedByBoth = some w
      ∧ w.IsVToken (Sample.account 2100) token
      ∧ w.NeedsReceiverConsent (Sample.env (Sample.account 5) 3) (Sample.account 2100) token
          (Sample.account 3) (Sample.account 4) 10 := by
  have hrun : (Sample.world.run consentedByBoth).map (fun w => (w.poolAddress,
      (w.tokens.get (Sample.account 2100)).map fun t => (t.kind, t.lendingPool),
      w.allowance (Sample.account 2100) (Sample.account 3) (Sample.account 5)))
      = some (Sample.account 9, some (.vToken, Sample.account 9), 10) := by decide +kernel
  obtain ⟨w, hw, hv⟩ := Option.map_eq_some_iff.mp hrun
  simp only [Prod.mk.injEq, Option.map_eq_some_iff] at hv
  obtain ⟨haddress, ⟨token, htoken, hkind, hpool⟩, hallowance⟩ := hv
  have hvToken : w.IsVToken (Sample.account 2100) token :=
    ⟨htoken, hkind, hpool.trans haddress.symm⟩
  exact ⟨w, token, hw, hvToken,
    (transferFrom_needsReceiverConsent_iff hvToken).mpr (.inl hallowance.ge)⟩

attribute [local instance] Pendzl.exact in
/-- **A transfer to which the receiver consented is refused**, because the sender gave no
allowance. -/
theorem transferFrom_refuses_consented :
    ∃ w token, Reachable (fun _ => True) 2 w ∧ w.IsVToken (Sample.account 2100) token
      ∧ w.allowance (Sample.account 2100) (Sample.account 4) (Sample.account 5) = 10
      ∧ w.PoolMovesDebt (Sample.env (Sample.account 5) 3) (Sample.account 2100) token
          (Sample.account 3) (Sample.account 4) 10
      ∧ w.transferFrom (Sample.env (Sample.account 5) 3) (Sample.account 2100) (Sample.account 3)
          (Sample.account 4) 10 = .error (.err .insufficientAllowance)
      ∧ ¬w.NeedsReceiverConsent (Sample.env (Sample.account 5) 3) (Sample.account 2100) token
          (Sample.account 3) (Sample.account 4) 10 := by
  have hrun : (Sample.world.run consented).map (fun w => (w.poolAddress,
      (w.tokens.get (Sample.account 2100)).map fun t => (t.kind, t.lendingPool, t.underlyingAsset),
      w.allowance (Sample.account 2100) (Sample.account 3) (Sample.account 5),
      w.allowance (Sample.account 2100) (Sample.account 4) (Sample.account 5),
      (w.transferDebtFromTo (Sample.env (Sample.account 2100) 3) (Sample.account 100)
        (Sample.account 3) (Sample.account 4) 10).isOk))
      = some (Sample.account 9, some (.vToken, Sample.account 9, Sample.account 100), 0, 10,
        true) := by
    decide +kernel
  obtain ⟨w, hw, hreach, hv⟩ :=
    run_reaches (fun _ => True) Sample.world_isInitial (by decide) hrun
  simp only [Prod.mk.injEq, Option.map_eq_some_iff] at hv
  obtain ⟨haddress, ⟨token, htoken, hkind, hpool, hasset⟩, hfrom, hto, hmoves⟩ := hv
  have hvToken : w.IsVToken (Sample.account 2100) token :=
    ⟨htoken, hkind, hpool.trans haddress.symm⟩
  have hmoves' : w.PoolMovesDebt (Sample.env (Sample.account 5) 3) (Sample.account 2100) token
      (Sample.account 3) (Sample.account 4) 10 := by
    rw [PoolMovesDebt, hasset]
    exact isOk_eq_true.mp hmoves
  have hrefused : w.transferFrom (Sample.env (Sample.account 5) 3) (Sample.account 2100)
      (Sample.account 3) (Sample.account 4) 10 = .error (.err .insufficientAllowance) := by
    have hshort : token.allowance (Sample.account 3) (Sample.account 5) < 10 := by
      rw [← allowance_of_get htoken, hfrom]
      decide
    have hshort' : failIf (token.allowance (Sample.account 3)
        (Sample.env (Sample.account 5) 3).caller < 10) PSP22Error.insufficientAllowance
        = .error (.err .insufficientAllowance) := if_pos hshort
    rw [transferFrom, htoken, unwrap, ok_bind, hshort', error_bind]
  refine ⟨w, token, hreach, hvToken, hto, hmoves', hrefused, fun hconsent => ?_⟩
  obtain ⟨w', hex⟩ := hconsent.succeeds_iff.mpr ⟨hto.ge, hmoves'⟩
  rw [hrefused] at hex
  cases hex

end World

end AbaxLending
