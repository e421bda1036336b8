import AbaxLending.Effects.Liquidation
import AbaxLending.Invariants.Switches
import AbaxLending.Spec.Charges

/-!
The protocol income of a reserve.

The earned fee of a reserve is what the accruals charged, until it is taken out
(`feesCharged`).  `set_reserve_fees` stores new fee parameters together with an earned fee of
`0`, and so drops the income that was not taken (`feesDropped`).

* `Liquidation.earnedFee`: the charges of a liquidation;
* `execute_earnedFee`: the earned fee after one message;
* `run_earnedFee`: after a run without `take_protocol_income`;
* `income_kept_iff`: no income is lost in a run exactly when every `set_reserve_fees` of the
  asset finds none.
-/

namespace AbaxLending

open Outcome

namespace LendingPoolStorage

section

variable [Pendzl] {s : LendingPoolStorage} {env : Env}
  {caller liquidated assetToRepay assetToTake : AccountId} {amount t : ℕ}

/-- The fees that a liquidation charges in a reserve: on the position of the liquidated account in
the asset to repay and in the asset to take, and on the one of the caller in the asset to take.
When both assets are the same, the second call for the liquidated account charges nothing. -/
def liquidationCharge (s : LendingPoolStorage) (env : Env)
    (caller liquidated assetToRepay assetToTake : AccountId) (k t : ℕ) : ℕ :=
  (if s.assetToId.get assetToRepay = some k ∨ s.assetToId.get assetToTake = some k then
      s.chargeOf env liquidated k t else 0)
    + if s.assetToId.get assetToTake = some k then s.chargeOf env caller k t else 0

namespace Liquidation

variable (r : Liquidation s env caller liquidated assetToRepay assetToTake amount t)

/-- The repayment charges the liquidated account. -/
lemma mid_earnedFee (k : ℕ) :
    r.mid.earnedFee k = s.earnedFee k
      + if k = r.repayId then s.chargeOf env liquidated k t else 0 := by
  obtain ⟨rd, i, e, -, hmid⟩ := r.mid_eq
  have hpaid := ReserveDataContext.accountForRepay_charges r.paid_ok
  have hinsert : r.mid.reserveIndexesAndFees
      = s.reserveIndexesAndFees.insert r.repayId r.paid.ctx.reserveIndexesAndFees := by
    rw [hmid]
    rfl
  rw [earnedFee_of_insert hinsert]
  by_cases hk : k = r.repayId
  · rw [if_pos hk, if_pos hk, hk, r.repayOpened.earnedFee, chargeOf, r.repayOpened.chargeAt,
      r.dataToRepay_position, show r.paid.ctx.reserveIndexesAndFees = _ from hpaid]
  · rw [if_neg hk, if_neg hk, Nat.add_zero]

/-- The withdrawal of the collateral charges the liquidated account unless the repayment did. -/
lemma take_charge :
    r.ctx.charge r.dataToTake (s.getFeeReductionsOfAccount env liquidated)
      = if r.k = r.repayId then 0 else s.chargeOf env liquidated r.k t := by
  obtain ⟨ctx₀, hopen, hsame, hindexes, hfees, -⟩ := r.opens
  have hdata := r.dataToTake_position
  split_ifs at hdata ⊢ with hkk
  · obtain ⟨a, n, ha, -, -, -, -, -, -, -, hpaid⟩ :=
      ReserveDataContext.accountForRepay_ok r.paid_ok
    refine ReserveDataContext.charge_again ha ?_ ?_ (hindexes.trans ?_) _
    · rw [hdata, hpaid]
    · rw [hdata, hpaid]
    · rw [hsame hkk]
  · rw [ReserveDataContext.charge_congr hindexes hfees, chargeOf, hopen.chargeAt, hdata]

/-- **A liquidation adds its charges to the earned fees.** -/
theorem earnedFee (k : ℕ) :
    r.written.earnedFee k = s.earnedFee k
      + s.liquidationCharge env caller liquidated assetToRepay assetToTake k t := by
  have hfirst := ReserveDataContext.accountForWithdraw_charges r.first_ok
  have hsecond := ReserveDataContext.accountForDeposit_charges r.second_ok
  rw [ReserveDataContext.charge_after hfirst] at hsecond
  rw [r.take_charge] at hfirst
  have hcaller : r.ctx.charge (s.position caller r.k) (s.getFeeReductionsOfAccount env caller)
      = s.chargeOf env caller r.k t := by
    obtain ⟨ctx₀, hopen, -, hindexes, hfees, -⟩ := r.opens
    rw [ReserveDataContext.charge_congr hindexes hfees, chargeOf, hopen.chargeAt]
  rw [hcaller] at hsecond
  have hwritten : r.written.earnedFee k = (r.reserveWritten r.mid).earnedFee k :=
    congrFun (earnedFee_congr rfl) k
  rw [hwritten, TwoSteps.earnedFee r.opened hfirst hsecond, r.mid_earnedFee, liquidationCharge,
    r.registeredRepay, r.registeredTake]
  simp only [Option.some.injEq]
  by_cases hkt : r.k = k
  · subst hkt
    by_cases hkk : r.k = r.repayId
    · simp [hkk.symm]
      omega
    · simp [hkk]
  · by_cases hkr : r.repayId = k
    · simp [hkt, hkr, Ne.symm hkt]
    · simp [hkt, hkr, Ne.symm hkt, Ne.symm hkr]

end Liquidation

end

end LendingPoolStorage

/-! ### Messages -/

/-- The messages that take income out. -/
def Message.takesIncome : Message → Bool
  | .takeProtocolIncome _ _ => true
  | _ => false

namespace World

section

variable [Pendzl]

/-- The fees that the actions of an account charge in a reserve. -/
def actionsCharge (w : World) (env : Env) (k : ℕ) (account : AccountId) (actions : List Action) :
    ℕ :=
  (w.pool.startActions account).charges (w.pool.getFeeReductionsOfAccount env account)
    env.blockTimestamp k actions

/-- The fees that a transfer of a token charges in a reserve. -/
def transferCharge (w : World) (env : Env) (k : ℕ) (token fromAccount toAccount : AccountId) : ℕ :=
  match w.tokens.get token with
  | some t =>
      if w.pool.assetToId.get t.underlyingAsset = some k then
        w.pool.chargeOf env fromAccount k env.blockTimestamp
          + w.pool.chargeOf env toAccount k env.blockTimestamp
      else 0
  | none => 0

/-- The fees that the calls of `accumulate_account_interest` of a message charge to accounts in
a reserve, and that are stored. -/
def feesCharged (w : World) (env : Env) (k : ℕ) : Message → ℕ
  | .deposit asset onBehalfOf amount => w.actionsCharge env k onBehalfOf [⟨.deposit, asset, amount⟩]
  | .withdraw asset onBehalfOf amount =>
      w.actionsCharge env k onBehalfOf [⟨.withdraw, asset, amount⟩]
  | .borrow asset onBehalfOf amount => w.actionsCharge env k onBehalfOf [⟨.borrow, asset, amount⟩]
  | .repay asset onBehalfOf amount => w.actionsCharge env k onBehalfOf [⟨.repay, asset, amount⟩]
  | .multiOp op onBehalfOf => w.actionsCharge env k onBehalfOf op
  | .liquidate liquidatedAccount assetToRepay assetToTake _ _ =>
      w.pool.liquidationCharge env env.caller liquidatedAccount assetToRepay assetToTake k
        env.blockTimestamp
  | .transfer token toAccount _ => w.transferCharge env k token env.caller toAccount
  | .transferFrom token fromAccount toAccount _ =>
      w.transferCharge env k token fromAccount toAccount
  | _ => 0

/-- The income that a message drops: what `set_reserve_fees` finds in the reserve. -/
def feesDropped (w : World) (k : ℕ) : Message → ℕ
  | .setReserveFees asset _ _ =>
      if w.pool.assetToId.get asset = some k then w.pool.earnedFee k else 0
  | _ => 0

variable {w w' : World} {env : Env} {message : Message} {k : ℕ}

/-- The actions of an account add their charges. -/
lemma accountForAccountActions_earnedFee {account : AccountId} {actions : List Action}
    {res : AccountActionsResult}
    (h : w.pool.accountForAccountActions env account actions = .ok res) (k : ℕ) :
    res.storage.earnedFee k = w.pool.earnedFee k + w.actionsCharge env k account actions := by
  obtain ⟨st, hst, -, hs⟩ := LendingPoolStorage.accountForAccountActions_ok h
  have hflush : res.storage.earnedFee k = st.storage.earnedFee k := by
    rw [hs]
    exact congrFun (LendingPoolStorage.earnedFee_congr rfl) k
  rw [hflush, AccountActionsState.applyActions_earnedFee hst]
  rfl

/-- The charges of a transfer, in the reserve of the token. -/
lemma transferCharge_of {tokenAddress fromAccount toAccount : AccountId} {token : AbacusToken}
    {j : ℕ} (htoken : w.tokens.get tokenAddress = some token)
    (hj : w.pool.assetToId.get token.underlyingAsset = some j) (k : ℕ) :
    w.transferCharge env k tokenAddress fromAccount toAccount
      = if k = j then w.pool.chargeOf env fromAccount k env.blockTimestamp
          + w.pool.chargeOf env toAccount k env.blockTimestamp else 0 := by
  simp only [transferCharge, htoken, hj, Option.some.injEq, eq_comm (a := j)]

/-- A move of a position charges both accounts. -/
lemma TokenMove.earnedFee {tokenAddress : AccountId} {token : AbacusToken}
    {fromAccount toAccount : AccountId} {amount : ℕ} {s' : LendingPoolStorage}
    (h : TokenMove env tokenAddress token fromAccount toAccount amount w.pool s')
    (htoken : w.tokens.get tokenAddress = some token) (k : ℕ) :
    s'.earnedFee k = w.pool.earnedFee k
      + w.transferCharge env k tokenAddress fromAccount toAccount := by
  refine h.rule (P := fun s' => s'.earnedFee k = w.pool.earnedFee k
    + w.transferCharge env k tokenAddress fromAccount toAccount)
    (fun res hres => ?_) fun res hres => ?_
  · obtain ⟨r, rfl⟩ := LendingPoolStorage.accountForDepositTransferFromTo_ok hres
    rw [r.earnedFee, transferCharge_of htoken r.registered]
    rfl
  · obtain ⟨r, rfl⟩ := LendingPoolStorage.accountForDebtTransferFromTo_ok hres
    rw [r.earnedFee, transferCharge_of htoken r.registered]
    rfl

omit [Pendzl] in
/-- An update of the indexes of a reserve keeps its earned fee. -/
lemma earnedFee_of_indexes {s s' : LendingPoolStorage} {j : ℕ} {r : ReserveIndexesAndFees}
    {indexes : ReserveIndexes} (hr : s.reserveIndexesAndFees.get j = some r)
    (h : s'.reserveIndexesAndFees = s.reserveIndexesAndFees.insert j { r with indexes }) (k : ℕ) :
    s'.earnedFee k = s.earnedFee k := by
  rw [LendingPoolStorage.earnedFee_of_insert h]
  split_ifs with hk
  · rw [hk, LendingPoolStorage.earnedFee_of_get hr]
  · rfl

omit [Pendzl] in
/-- A registration stores the indexes and fees of the new asset. -/
lemma register_indexesAndFees {s s₁ s₂ s' : LendingPoolStorage} {asset : AccountId}
    {restrictions : ReserveRestrictions} {multiplier t : ℕ} {fees : ReserveFees}
    {model : Option InterestRateModel} {tokens : ReserveAbacusTokens} {rules : AssetRules}
    (h₁ : s.accountForRegisterAsset asset ReserveData.initial restrictions multiplier fees model t
      = .ok s₁)
    (h₂ : s₁.accountForSetAbacusTokens asset tokens = .ok s₂)
    (h₃ : s₂.accountForAssetRuleChange 0 asset rules = .ok s') :
    s'.reserveIndexesAndFees = s.reserveIndexesAndFees.insert s.assetCount (.new t fees) := by
  obtain ⟨-, _, rfl⟩ := LendingPoolStorage.register_storage h₁ h₂ h₃
  rfl

/-- **The earned fee after a message**: the fees charged are added, and what `set_reserve_fees`
finds is dropped. -/
theorem execute_earnedFee (hk : k < w.pool.assetCount) (hm : message.takesIncome = false)
    (hex : w.execute env message = .ok w') :
    w'.pool.earnedFee k + w.feesDropped k message
      = w.pool.earnedFee k + w.feesCharged env k message := by
  have hstep := (execute_frame hex).1
  cases message with
  | deposit asset onBehalfOf amount =>
      obtain ⟨res, hres, hs⟩ := hstep
      exact hs ▸ accountForAccountActions_earnedFee hres k
  | withdraw asset onBehalfOf amount =>
      obtain ⟨res, hres, hs⟩ := hstep
      exact hs ▸ accountForAccountActions_earnedFee hres k
  | borrow asset onBehalfOf amount =>
      obtain ⟨res, hres, hs⟩ := hstep
      exact hs ▸ accountForAccountActions_earnedFee hres k
  | repay asset onBehalfOf amount =>
      obtain ⟨res, hres, hs⟩ := hstep
      exact hs ▸ accountForAccountActions_earnedFee hres k
  | multiOp op onBehalfOf =>
      obtain ⟨res, hres, hs⟩ := hstep
      exact hs ▸ accountForAccountActions_earnedFee hres k
  | liquidate liquidatedAccount assetToRepay assetToTake amountToRepay minimumRecieved =>
      obtain ⟨res, hres, hs⟩ := hstep
      obtain ⟨r, rfl⟩ := LendingPoolStorage.accountForLiquidate_ok hres
      exact hs ▸ r.earnedFee k
  | transfer token toAccount value =>
      obtain ⟨t, ht, hmove⟩ := hstep
      exact hmove.earnedFee ht k
  | transferFrom token fromAccount toAccount value =>
      obtain ⟨t, ht, hmove⟩ := hstep
      exact hmove.earnedFee ht k
  | accumulateInterest asset =>
      obtain ⟨j, rd, r, indexes, rd', i, e, -, -, hr, -, -, -, hs⟩ :=
        LendingPoolStorage.accountForAccumulateInterest_ok hstep
      have hinsert : w'.pool.reserveIndexesAndFees
          = w.pool.reserveIndexesAndFees.insert j { r with indexes } := by
        rw [hs]
        rfl
      exact congrArg (· + 0) (earnedFee_of_indexes hr hinsert k)
  | setInterestRateModel asset params =>
      obtain ⟨j, rd, r, indexes, rd', -, -, hr, -, -, hs⟩ :=
        LendingPoolStorage.accountForInterestRateModelChange_ok hstep
      have hinsert : w'.pool.reserveIndexesAndFees
          = w.pool.reserveIndexesAndFees.insert j { r with indexes } := by
        rw [hs]
        rfl
      exact congrArg (· + 0) (earnedFee_of_indexes hr hinsert k)
  | setReserveFees asset depositFeeE6 debtFeeE6 =>
      obtain ⟨j, r, hj, hr, hs⟩ := LendingPoolStorage.accountForReserveFeesChange_ok hstep
      have hinsert : w'.pool.reserveIndexesAndFees = w.pool.reserveIndexesAndFees.insert j
          { r with fees := ReserveFees.new depositFeeE6 debtFeeE6 } := by
        rw [hs]
        rfl
      rw [LendingPoolStorage.earnedFee_of_insert hinsert, feesDropped, hj]
      by_cases hkj : k = j
      · rw [if_pos hkj, if_pos (congrArg some hkj.symm)]
        exact Nat.add_comm 0 _
      · rw [if_neg hkj, if_neg fun heq => hkj (Option.some.inj heq).symm]
        rfl
  | registerAsset asset decimals rules restrictions depositFeeE6 debtFeeE6 params =>
      obtain ⟨s₁, s₂, multiplier, tokens, h₁, h₂, h₃⟩ := hstep
      rw [LendingPoolStorage.earnedFee_of_insert (register_indexesAndFees h₁ h₂ h₃),
        if_neg hk.ne]
      rfl
  | takeProtocolIncome assets toAccount => cases hm
  | _ =>
      -- the others write neither the indexes nor the fees
      have hsame := execute_keeps (·.reserveIndexesAndFees) (fun _ => rfl) hex
      exact congrArg (· k + 0) (LendingPoolStorage.earnedFee_congr hsame)

/-! ### Runs -/

/-- No asset is ever removed. -/
lemma execute_assetCount (hex : w.execute env message = .ok w') :
    w.pool.assetCount ≤ w'.pool.assetCount := by
  cases hm : message.registers with
  | some asset =>
      have hcount := (execute_registers hex hm).1.assetCount
      omega
  | none => exact (execute_keepsRegistry hex hm).assetCount.ge

/-- **The earned fee after a run** in which no income is taken out. -/
theorem run_earnedFee {messages : List (Env × Message)} (hrun : w.run messages = some w')
    (hk : k < w.pool.assetCount) (hno : ∀ m ∈ messages, m.2.takesIncome = false) :
    w'.pool.earnedFee k + w.sumAlong (fun w _ => w.feesDropped k) messages
      = w.pool.earnedFee k + w.sumAlong (fun w env => w.feesCharged env k) messages := by
  induction messages generalizing w with
  | nil =>
      simp only [run_nil, Option.some.injEq] at hrun
      rw [hrun]
      rfl
  | cons head rest ih =>
      obtain ⟨env, message⟩ := head
      obtain ⟨w₁, hex, hrest⟩ := run_cons_eq_some.mp hrun
      have hkind : message.takesIncome = false := hno _ List.mem_cons_self
      have hfirst := execute_earnedFee hk hkind hex
      have hlast := ih hrest (hk.trans_le (execute_assetCount hex))
        fun m hm => hno m (List.mem_cons_of_mem _ hm)
      rw [sumAlong_cons hex, sumAlong_cons hex]
      omega

/-- The asset keeps its id along a run, and nobody else gets it. -/
lemma run_assetToId {messages : List (Env × Message)} {asset : AccountId} (hl : w.Linked)
    (hrun : w.run messages = some w') (hk : w.pool.assetToId.get asset = some k) :
    ∀ other, w'.pool.assetToId.get other = some k ↔ other = asset := by
  have hfollow : w'.Linked ∧ w'.pool.assetToId.get asset = some k :=
    run_invariant (P := fun w => w.Linked ∧ w.pool.assetToId.get asset = some k)
      (fun env message w w' _ hP hex => ⟨execute_linked hP.1 hex, execute_assetToId hex hP.2⟩)
      hrun ⟨hl, hk⟩
  intro other
  constructor
  · intro hother
    exact hfollow.1.ids.inj other asset k hother hfollow.2
  · rintro rfl
    exact hfollow.2

/-- **When no income is lost.**  In a run without `take_protocol_income`, from any reachable world,
the earned fee of a reserve grows by exactly the fees that were charged to accounts, and so never
falls, if and only if every `set_reserve_fees` of the asset found an earned fee of `0`. -/
theorem income_kept_iff {messages : List (Env × Message)} {asset : AccountId} {t : ℕ}
    (h : Reachable (fun _ => True) t w) (hk : w.pool.assetToId.get asset = some k)
    (hrun : w.run messages = some w') (hno : ∀ m ∈ messages, m.2.takesIncome = false) :
    (w'.pool.earnedFee k
          = w.pool.earnedFee k + w.sumAlong (fun w env => w.feesCharged env k) messages
        ∧ w.pool.earnedFee k ≤ w'.pool.earnedFee k)
      ↔ ∀ before env depositFeeE6 debtFeeE6 after w₁,
        messages = before ++ (env, .setReserveFees asset depositFeeE6 debtFeeE6) :: after →
        w.run before = some w₁ → w₁.pool.earnedFee k = 0 := by
  have hl := reachable_linked h
  have htotal := run_earnedFee hrun (hl.ids.below asset k hk) hno
  have hdropped : w.sumAlong (fun w _ => w.feesDropped k) messages = 0
      ↔ ∀ before env depositFeeE6 debtFeeE6 after w₁,
        messages = before ++ (env, .setReserveFees asset depositFeeE6 debtFeeE6) :: after →
        w.run before = some w₁ → w₁.pool.earnedFee k = 0 := by
    rw [sumAlong_eq_zero_iff hrun]
    constructor
    · intro hall before env depositFeeE6 debtFeeE6 after w₁ heq hbefore
      have hzero := hall before env _ after w₁ heq hbefore
      rwa [feesDropped, if_pos ((run_assetToId hl hbefore hk asset).mpr rfl)] at hzero
    · intro hall before env message after w₁ heq hbefore
      cases message with
      | setReserveFees other depositFeeE6 debtFeeE6 =>
          rw [feesDropped]
          split_ifs with hother
          · cases (run_assetToId hl hbefore hk other).mp hother
            exact hall before env depositFeeE6 debtFeeE6 after w₁ heq hbefore
          · rfl
      | _ => rfl
  rw [← hdropped]
  omega

end

end World

/-! ### Samples -/

namespace Sample

/-- The messages that set a fee of a tenth on the interest on debts in the first asset. -/
def feesSet : List (Env × Message) := setup ++ [
  (env admin 0, .setReserveFees (account 100) 0 (10 ^ 5))]

/-- Messages after which `account 3` has paid interest on a debt in the first asset. -/
def interestPaid : List (Env × Message) := [
  send 2 1 fun a => .deposit (account 100) a 1000,
  send 3 1 fun a => .deposit (account 101) a 1000,
  send 3 1 fun _ => .setAsCollateral (account 101) true,
  send 3 1 fun a => .borrow (account 100) a 250,
  send 3 2 fun a => .repay (account 100) a 10]

end Sample

namespace World

attribute [local instance] Pendzl.exact in
/-- In the sample pool the fee on the interest of `account 3` becomes income. -/
theorem income_kept_iff_paid :
    ∃ w w', Sample.world.run Sample.feesSet = some w ∧ w.run Sample.interestPaid = some w'
      ∧ w'.pool.earnedFee 0 = 1
      ∧ w'.pool.earnedFee 0 = w.pool.earnedFee 0
        + w.sumAlong (fun w env => w.feesCharged env 0) Sample.interestPaid := by
  have hrun : (Sample.world.run Sample.feesSet).map (fun w =>
        (w.pool.assetToId.get (Sample.account 100),
          (w.run Sample.interestPaid).map fun w' => w'.pool.earnedFee 0))
      = some (some 0, some 1) := by decide +kernel
  obtain ⟨w, hw, hreach, hv⟩ :=
    run_reaches (fun _ => True) Sample.world_isInitial (by decide) hrun
  obtain ⟨hk, hpaid⟩ := Prod.mk.inj hv
  obtain ⟨w', hw', hfee⟩ := Option.map_eq_some_iff.mp hpaid
  refine ⟨w, w', hw, hw', hfee, ((income_kept_iff hreach hk hw' ?_).mpr ?_).1⟩
  · decide
  · -- the fees are not set again
    intro before env depositFeeE6 debtFeeE6 after w₁ heq _
    have hmem : (env, Message.setReserveFees (Sample.account 100) depositFeeE6 debtFeeE6)
        ∈ Sample.interestPaid := by
      rw [heq]
      exact List.mem_append_right _ List.mem_cons_self
    simp [Sample.interestPaid, Sample.send] at hmem

attribute [local instance] Pendzl.exact in
/-- **New fees drop the income.**  In a reachable state the first asset has an earned fee of `1`;
setting its fees leaves an earned fee of `0`, and nobody took the income out. -/
theorem set_reserve_fees_drops_income :
    ∃ w w', Reachable (fun _ => True) 2 w ∧ w.pool.assetToId.get (Sample.account 100) = some 0
      ∧ w.run [(Sample.env Sample.admin 3, .setReserveFees (Sample.account 100) 0 (2 * 10 ^ 5))]
        = some w'
      ∧ w.pool.earnedFee 0 = 1 ∧ w'.pool.earnedFee 0 = 0 := by
  have hrun : (Sample.world.run (Sample.feesSet ++ Sample.interestPaid)).map (fun w =>
        (w.pool.assetToId.get (Sample.account 100), w.pool.earnedFee 0,
          (w.run [(Sample.env Sample.admin 3,
            .setReserveFees (Sample.account 100) 0 (2 * 10 ^ 5))]).map fun w' =>
              w'.pool.earnedFee 0)) = some (some 0, 1, some 0) := by decide +kernel
  obtain ⟨w, -, hreach, hv⟩ :=
    run_reaches (fun _ => True) Sample.world_isInitial (by decide) hrun
  simp only [Prod.mk.injEq] at hv
  obtain ⟨hk, hbefore, hafter⟩ := hv
  obtain ⟨w', hw', hafter⟩ := Option.map_eq_some_iff.mp hafter
  exact ⟨w, w', hreach, hk, hw', hbefore, hafter⟩

end World

end AbaxLending
