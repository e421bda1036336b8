import AbaxLending.Spec.Writes

/-!
The kinds of messages, by what they do to the positions.

Most messages touch no position at all: they keep every entry, both totals of
every reserve and the deposit and borrow bits of every config (`KeepsBooks`).
The others run the actions of one account, register an asset, liquidate, or move
a position between two accounts.  `PoolChange` is this distinction, and
`execute_change` places every successful message in it; invariants of the
positions are proved by its five cases.
-/

namespace AbaxLending

open Outcome

/-- Both totals of a reserve. -/
def ReserveData.totals (self : ReserveData) : ℕ × ℕ := (self.totalDeposit, self.totalDebt)

namespace LendingPoolStorage

/-- The change keeps the registry: the ids of the assets and their tokens. -/
structure KeepsRegistry (s s' : LendingPoolStorage) : Prop where
  nextAssetId : s'.nextAssetId = s.nextAssetId
  assetToId : s'.assetToId = s.assetToId
  reserveAbacusTokens : s'.reserveAbacusTokens = s.reserveAbacusTokens

/-- The change keeps the registry, every entry, every total, and the deposit and
borrow bits. -/
structure KeepsBooks (s s' : LendingPoolStorage) : Prop extends KeepsRegistry s s' where
  accountReserveDatas : s'.accountReserveDatas = s.accountReserveDatas
  totals : ∀ k, (s'.reserveDatas.get k).map ReserveData.totals
    = (s.reserveDatas.get k).map ReserveData.totals
  deposits : ∀ a, (s'.getAccountConfig a).deposits = (s.getAccountConfig a).deposits
  borrows : ∀ a, (s'.getAccountConfig a).borrows = (s.getAccountConfig a).borrows

/-- What the registration of an asset does to the registry, the reserves and the accounts. -/
structure Registers (s s' : LendingPoolStorage) (asset : AccountId) : Prop where
  fresh : s.assetToId.get asset = none
  nextAssetId : s'.nextAssetId = some (s.assetCount + 1)
  assetToId : s'.assetToId = s.assetToId.insert asset s.assetCount
  reserveDatas : s'.reserveDatas = s.reserveDatas.insert s.assetCount ReserveData.initial
  accountReserveDatas : s'.accountReserveDatas = s.accountReserveDatas
  accountConfigs : s'.accountConfigs = s.accountConfigs

variable {s s' : LendingPoolStorage} {k : ℕ}

lemma KeepsRegistry.assetCount (h : KeepsRegistry s s') : s'.assetCount = s.assetCount := by
  rw [LendingPoolStorage.assetCount, LendingPoolStorage.assetCount, h.nextAssetId]

/-- Moves of positions keep the registry. -/
lemma KeepsRegistry.of_positions (h : s'.without positionFields = s.without positionFields) :
    KeepsRegistry s s' :=
  ⟨read_eq_of_without (·.nextAssetId) (fun _ => rfl) h,
    read_eq_of_without (·.assetToId) (fun _ => rfl) h,
    read_eq_of_without (·.reserveAbacusTokens) (fun _ => rfl) h⟩

lemma Registers.assetCount {asset : AccountId} (h : Registers s s' asset) :
    s'.assetCount = s.assetCount + 1 := by
  rw [LendingPoolStorage.assetCount, h.nextAssetId, Option.getD_some]

/-- A change of the other fields keeps the books. -/
lemma KeepsBooks.of_eq (hr : KeepsRegistry s s')
    (h₃ : s'.accountReserveDatas = s.accountReserveDatas) (h₄ : s'.reserveDatas = s.reserveDatas)
    (h₅ : s'.accountConfigs = s.accountConfigs) : KeepsBooks s s' := by
  refine ⟨hr, h₃, fun k => by rw [h₄], fun a => ?_, fun a => ?_⟩ <;>
    rw [getAccountConfig_congr h₅]

/-- A change of one reserve that keeps its totals keeps the books. -/
lemma KeepsBooks.of_reserve {rd rd' : ReserveData} (hrd : s.reserveDatas.get k = some rd)
    (h₄ : s'.reserveDatas = s.reserveDatas.insert k rd') (htotals : rd'.totals = rd.totals)
    (hr : KeepsRegistry s s') (h₃ : s'.accountReserveDatas = s.accountReserveDatas)
    (h₅ : s'.accountConfigs = s.accountConfigs) : KeepsBooks s s' := by
  refine ⟨hr, h₃, fun j => ?_, fun a => ?_, fun a => ?_⟩
  · rw [h₄, Mapping.get_insert]
    split_ifs with hj
    · subst hj
      rw [hrd, Option.map_some, Option.map_some, htotals]
    · rfl
  · rw [getAccountConfig_congr h₅]
  · rw [getAccountConfig_congr h₅]

/-- A config that keeps its deposit and borrow bits keeps the books. -/
lemma KeepsBooks.putConfig {account : AccountId} {config : AccountConfig}
    (hd : config.deposits = (s.getAccountConfig account).deposits)
    (hb : config.borrows = (s.getAccountConfig account).borrows) :
    KeepsBooks s (s.putConfig account config) := by
  refine ⟨⟨rfl, rfl, rfl⟩, rfl, fun _ => rfl, fun a => ?_, fun a => ?_⟩ <;>
    rw [getAccountConfig_putConfig] <;> split_ifs with ha
  · rw [hd, ha]
  · rfl
  · rw [hb, ha]
  · rfl

/-! ### The functions that keep the books -/

lemma accountForMarketRuleChange_keepsBooks {account : AccountId} {id : ℕ}
    (h : s.accountForMarketRuleChange account id = .ok s') : KeepsBooks s s' := by
  rw [accountForMarketRuleChange_ok h]
  exact .putConfig rfl rfl

lemma accountForSetAsCollateral_keepsBooks {account asset : AccountId} {use : Bool}
    (h : s.accountForSetAsCollateral account asset use = .ok s') : KeepsBooks s s' := by
  obtain ⟨_, rfl⟩ := accountForSetAsCollateral_ok h
  exact .putConfig rfl rfl

lemma accountForAccumulateInterest_keepsBooks [Pendzl] {asset : AccountId} {t : ℕ}
    (h : s.accountForAccumulateInterest asset t = .ok s') : KeepsBooks s s' := by
  obtain ⟨k, rd, r, indexes, rd', i, e, -, hrd, -, -, -, hrates, rfl⟩ :=
    accountForAccumulateInterest_ok h
  obtain ⟨_, _, rfl⟩ := recalculateRates_ok hrates
  exact .of_reserve hrd rfl rfl ⟨rfl, rfl, rfl⟩ rfl rfl

lemma accountForChangingActivity_keepsBooks {asset : AccountId} {active : Bool}
    (h : s.accountForChangingActivity asset active = .ok s') : KeepsBooks s s' := by
  obtain ⟨k, rd, -, hrd, -, rfl⟩ := accountForChangingActivity_ok h
  exact .of_reserve hrd rfl rfl ⟨rfl, rfl, rfl⟩ rfl rfl

lemma accountForChangingIsFrozen_keepsBooks {asset : AccountId} {frozen : Bool}
    (h : s.accountForChangingIsFrozen asset frozen = .ok s') : KeepsBooks s s' := by
  obtain ⟨k, rd, -, hrd, -, rfl⟩ := accountForChangingIsFrozen_ok h
  exact .of_reserve hrd rfl rfl ⟨rfl, rfl, rfl⟩ rfl rfl

lemma accountForInterestRateModelChange_keepsBooks [Pendzl] {asset : AccountId}
    {model : InterestRateModel} {t : ℕ}
    (h : s.accountForInterestRateModelChange asset model t = .ok s') : KeepsBooks s s' := by
  obtain ⟨k, rd, r, indexes, rd', -, hrd, -, -, hrates, rfl⟩ :=
    accountForInterestRateModelChange_ok h
  obtain ⟨_, _, rfl⟩ := recalculateCurrentRates_ok hrates
  exact .of_reserve hrd rfl rfl ⟨rfl, rfl, rfl⟩ rfl rfl

lemma accountForStablecoinDebtRateE18Change_keepsBooks {asset : AccountId} {rate : ℕ}
    (h : s.accountForStablecoinDebtRateE18Change asset rate = .ok s') : KeepsBooks s s' := by
  obtain ⟨k, rd, -, hrd, rfl⟩ := accountForStablecoinDebtRateE18Change_ok h
  exact .of_reserve hrd rfl rfl ⟨rfl, rfl, rfl⟩ rfl rfl

/-- What registering an asset does, and what its reserve starts with. -/
lemma register_ok {asset : AccountId} {restrictions : ReserveRestrictions} {multiplier t : ℕ}
    {fees : ReserveFees} {model : Option InterestRateModel} {tokens : ReserveAbacusTokens}
    {rules : AssetRules} {s₁ s₂ : LendingPoolStorage}
    (h₁ : s.accountForRegisterAsset asset ReserveData.initial restrictions multiplier fees model t
      = .ok s₁)
    (h₂ : s₁.accountForSetAbacusTokens asset tokens = .ok s₂)
    (h₃ : s₂.accountForAssetRuleChange 0 asset rules = .ok s') :
    Registers s s' asset
      ∧ s'.reserveIndexesAndFees.get s.assetCount = some (ReserveIndexesAndFees.new t fees)
      ∧ (model.isSome = true → s'.interestRateModel.contains s.assetCount = true) := by
  obtain ⟨hfresh, _, rfl⟩ := register_storage h₁ h₂ h₃
  refine ⟨⟨by simpa [Mapping.contains] using hfresh, rfl, rfl, rfl, rfl, rfl⟩,
    Mapping.get_insert_self .., fun hmodel => ?_⟩
  obtain ⟨_, rfl⟩ := Option.isSome_iff_exists.mp hmodel
  simp [Mapping.contains]

end LendingPoolStorage

/-! ### The kinds of messages -/

/-- The account and the actions of the messages that run actions of an account. -/
def Message.userActions : Message → Option (AccountId × List Action)
  | .deposit asset onBehalfOf amount => some (onBehalfOf, [⟨.deposit, asset, amount⟩])
  | .withdraw asset onBehalfOf amount => some (onBehalfOf, [⟨.withdraw, asset, amount⟩])
  | .borrow asset onBehalfOf amount => some (onBehalfOf, [⟨.borrow, asset, amount⟩])
  | .repay asset onBehalfOf amount => some (onBehalfOf, [⟨.repay, asset, amount⟩])
  | .multiOp op onBehalfOf => some (onBehalfOf, op)
  | _ => none

/-- The messages that transfer a position. -/
def Message.isTransfer : Message → Bool
  | .transfer _ _ _ | .transferFrom _ _ _ _ => true
  | _ => false

/-- The asset that a message registers. -/
def Message.registers : Message → Option AccountId
  | .registerAsset asset _ _ _ _ _ _ => some asset
  | _ => none

/-- The messages that liquidate. -/
def Message.isLiquidate : Message → Bool
  | .liquidate _ _ _ _ _ => true
  | _ => false

namespace World

variable [Pendzl]

/-- What a message does to the positions. -/
inductive PoolChange (env : Env) (w : World) (s' : LendingPoolStorage) (message : Message) :
    Prop where
  | actions (account : AccountId) (actions : List Action) (res : AccountActionsResult) :
      message.userActions = some (account, actions) →
      w.pool.accountForAccountActions env account actions = .ok res → s' = res.storage →
      PoolChange env w s' message
  | quiet : w.pool.KeepsBooks s' → PoolChange env w s' message
  | register (asset : AccountId) : message.registers = some asset → w.pool.Registers s' asset →
      PoolChange env w s' message
  | liquidate (liquidated assetToRepay assetToTake : AccountId) (amount : ℕ)
      (res : LendingPoolStorage.LiquidateResult) : message.isLiquidate = true →
      w.pool.accountForLiquidate env env.caller liquidated assetToRepay assetToTake amount
        env.blockTimestamp = .ok res → s' = res.storage → PoolChange env w s' message
  | move (tokenAddress : AccountId) (token : AbacusToken) (fromAccount toAccount : AccountId)
      (amount : ℕ) : message.isTransfer = true →
      TokenMove env tokenAddress token fromAccount toAccount amount w.pool s' →
      PoolChange env w s' message

/-- A message that runs actions of an account leaves the storage that they leave. -/
lemma execute_userActions {w w' : World} {env : Env} {message : Message} {account : AccountId}
    {actions : List Action} (h : w.execute env message = .ok w')
    (hm : message.userActions = some (account, actions)) :
    ∃ res, w.pool.accountForAccountActions env account actions = .ok res
      ∧ w'.pool = res.storage := by
  have hstep := (execute_frame h).1
  cases message with
  | deposit | withdraw | borrow | repay | multiOp =>
      cases hm
      exact hstep
  | _ => cases hm

/-- Only a registration changes the registry. -/
lemma execute_keepsRegistry {w w' : World} {env : Env} {message : Message}
    (h : w.execute env message = .ok w') (hm : message.registers = none) :
    w.pool.KeepsRegistry w'.pool := by
  cases message with
  | registerAsset => cases hm
  | _ =>
      exact ⟨execute_keeps (·.nextAssetId) (fun _ => rfl) h,
        execute_keeps (·.assetToId) (fun _ => rfl) h,
        execute_keeps (·.reserveAbacusTokens) (fun _ => rfl) h⟩

/-- **Every message that succeeds is of one of the five kinds.** -/
theorem execute_change {w w' : World} {env : Env} {message : Message}
    (h : w.execute env message = .ok w') : PoolChange env w w'.pool message := by
  have hstep := (execute_frame h).1
  cases hm : message.userActions with
  | some p =>
      obtain ⟨account, actions⟩ := p
      obtain ⟨res, hres, hs⟩ := execute_userActions h hm
      exact .actions account actions res hm hres hs
  | none =>
      cases message with
      | deposit | withdraw | borrow | repay | multiOp => cases hm
      | liquidate liquidatedAccount assetToRepay assetToTake amountToRepay minimumRecieved =>
          obtain ⟨res, hres, hs⟩ := hstep
          exact .liquidate _ _ _ _ res rfl hres hs
      | chooseMarketRule id =>
          exact .quiet (LendingPoolStorage.accountForMarketRuleChange_keepsBooks hstep.1)
      | setAsCollateral asset use =>
          exact .quiet (LendingPoolStorage.accountForSetAsCollateral_keepsBooks hstep.1)
      | accumulateInterest asset =>
          exact .quiet (LendingPoolStorage.accountForAccumulateInterest_keepsBooks hstep)
      | registerAsset asset decimals rules restrictions depositFeeE6 debtFeeE6 params =>
          obtain ⟨s₁, s₂, multiplier, tokens, h₁, h₂, h₃⟩ := hstep
          exact .register asset rfl (LendingPoolStorage.register_ok h₁ h₂ h₃).1
      | setReserveIsActive asset active =>
          exact .quiet (LendingPoolStorage.accountForChangingActivity_keepsBooks hstep)
      | setReserveIsFrozen asset newIsFrozen =>
          exact .quiet (LendingPoolStorage.accountForChangingIsFrozen_keepsBooks hstep)
      | setInterestRateModel asset params =>
          exact .quiet (LendingPoolStorage.accountForInterestRateModelChange_keepsBooks hstep)
      | setStablecoinDebtRateE18 asset rate =>
          exact .quiet (LendingPoolStorage.accountForStablecoinDebtRateE18Change_keepsBooks hstep)
      | transfer token toAccount value =>
          obtain ⟨t, -, hmove⟩ := hstep
          exact .move token t _ _ _ rfl hmove
      | transferFrom token fromAccount toAccount value =>
          obtain ⟨t, -, hmove⟩ := hstep
          exact .move token t _ _ _ rfl hmove
      | _ =>
          -- the others write no position and no reserve
          exact .quiet (.of_eq (execute_keepsRegistry h rfl)
            (execute_keeps (·.accountReserveDatas) (fun _ => rfl) h)
            (execute_keeps (·.reserveDatas) (fun _ => rfl) h)
            (execute_keeps (·.accountConfigs) (fun _ => rfl) h))

end World

end AbaxLending
