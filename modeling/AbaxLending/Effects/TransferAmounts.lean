import AbaxLending.Invariants.Totals
import AbaxLending.Spec.Transfers
import AbaxLending.Spec.Views

/-!
What a transfer does to the amounts in its asset.

A transfer is meant to take the amount from the giver and add it to the receiver, on top
of what both have after interest, to keep the total the sum of the positions and the
bits true to the amounts (`Moves`).  Both transfers run their two steps on separate
copies of the two accounts (`TwoSteps.Passes`).

* Between distinct accounts that is what happens, provided that the total was the sum
  before and that the bit of the giver was set (`TwoSteps.Passes.moves_iff`);
* when giver and receiver are the same account, the copy that is written last wins: a
  deposit shrinks and a debt grows by the amount (`DepositTransfer.not_moves_self`,
  `DebtTransfer.not_moves_self`).
-/

namespace AbaxLending

open Outcome

namespace LendingPoolStorage

section

variable [Pendzl] {s : LendingPoolStorage} {env : Env} {asset fromAccount toAccount : AccountId}
  {amount t : ℕ}

/-- The exact effect of a transfer on one side of the positions in its asset. -/
structure Moves (side : Side) (s s' : LendingPoolStorage) (env : Env) (asset : AccountId) (k : ℕ)
    (fromAccount toAccount : AccountId) (amount t : ℕ) : Prop where
  amounts : ∃ dFrom dTo, side.view s env asset fromAccount t = .ok dFrom
    ∧ side.view s env asset toAccount t = .ok dTo
    ∧ if fromAccount = toAccount then side.amount (s'.position fromAccount k) = dFrom
      else side.amount (s'.position fromAccount k) + amount = dFrom
        ∧ side.amount (s'.position toAccount k) = dTo + amount
  balanced : side.BalancedIn s' k
  bits : ∀ a, a = fromAccount ∨ a = toAccount →
    ((side.bits (s'.getAccountConfig a)).getLsbD k = true
      ↔ side.amount (s'.position a k) ≠ 0)

/-! ### The two steps -/

/-- What two steps pass from a giver to a receiver on one side, read from the views. -/
structure TwoSteps.Passes (r : TwoSteps) (side : Side) (s : LendingPoolStorage) (env : Env)
    (asset fromAccount toAccount : AccountId) (amount t : ℕ) : Prop where
  giver : ∃ d, side.view s env asset fromAccount t = .ok d
    ∧ side.amount r.first.data + amount = d
    ∧ (side.bits r.first.config).getLsbD r.k
      = ((side.bits (s.getAccountConfig fromAccount)).getLsbD r.k && !decide (amount = d))
  receiver : ∃ d, side.view s env asset toAccount t = .ok d
    ∧ side.amount r.second.data = d + amount
    ∧ (side.bits r.second.config).getLsbD r.k = true
  reserve : ∃ rd, s.reserveDatas.get r.k = some rd
    ∧ side.total r.reserveData + side.amount (s.position fromAccount r.k)
        + side.amount (s.position toAccount r.k)
      = side.total rd + side.amount r.first.data + side.amount r.second.data

/-- The sender of a deposit transfer works on its stored position. -/
lemma DepositTransfer.position_from
    (r : DepositTransfer s env asset fromAccount toAccount amount t) :
    s.position fromAccount r.k = r.fromData := by
  simp [position, entry, r.fromDatas_eq, r.fromData_eq]

/-- The receiver of a deposit accrues, after the step of the sender, what the views show. -/
lemma DepositTransfer.receiver_accrued
    (r : DepositTransfer s env asset fromAccount toAccount amount t) {a' : Accrual}
    (ha' : r.first.ctx.accrual (s.position toAccount r.k)
      (s.getFeeReductionsOfAccount env toAccount) = .ok a') :
    s.accruedDataOf env asset toAccount t = .ok a'.data := by
  obtain ⟨a, n, ha, -, -, -, -, -, -, hfirst⟩ := ReserveDataContext.accountForWithdraw_ok r.first_ok
  refine r.opened.accruedDataOf r.registered ?_ ?_ ha'
  · rw [hfirst]
    rfl
  · rw [hfirst]
    exact AccountReserveData.accumulateAccountInterest_fees ha

/-- A deposit transfer passes the amount from the deposit of the sender to the one of the
receiver. -/
lemma DepositTransfer.passes (r : DepositTransfer s env asset fromAccount toAccount amount t) :
    r.toTwoSteps.Passes .deposit s env asset fromAccount toAccount amount t := by
  have hposts := ReserveDataContext.accountForWithdraw_posts r.first_ok
  have hposts' := ReserveDataContext.accountForDeposit_posts r.second_ok
  obtain ⟨a, n, ha, hn, -, -, hle, -, -, hfirst⟩ :=
    ReserveDataContext.accountForWithdraw_ok r.first_ok
  obtain ⟨a', ha', -, -, hk, -, hsecond⟩ := ReserveDataContext.accountForDeposit_ok r.second_ok
  have hn : n = amount := by simpa using hn
  have hkid : r.ctx.assetId = r.k := r.opened.assetId
  have hview : Side.deposit.view s env asset fromAccount t = .ok a.data.deposit :=
    Side.view_eq_ok.mpr ⟨a.data, r.opened.accruedDataOf r.registered rfl (.refl _)
      (r.position_from.symm ▸ ha), rfl⟩
  have hview' : Side.deposit.view s env asset toAccount t = .ok a'.data.deposit :=
    Side.view_eq_ok.mpr ⟨a'.data, r.receiver_accrued ha', rfl⟩
  refine ⟨⟨_, hview, ?_, ?_⟩, ⟨_, hview', ?_, ?_⟩, ⟨_, r.opened.reserveData, ?_⟩⟩
  · rw [hfirst]
    simp only [Side.amount]
    omega
  · rw [hfirst]
    simp [Side.bits, hkid, hn]
  · rw [hsecond, hfirst]
    simp only [Side.amount]
    omega
  · rw [hsecond]
    rw [hfirst] at hk ⊢
    simp only [ReserveDataContext.after, hkid] at hk
    simp [Side.bits, ReserveDataContext.after, hkid, hk]
  · have h₁ := Side.deposit.total_of_posts hposts
    have h₂ := Side.deposit.total_of_posts hposts'
    rw [r.position_from, Side.deposit.total_recalculateRates r.rates]
    omega

/-- The receiver of a debt accrues, after the step of the giver, what the views show. -/
lemma DebtTransfer.receiver_accrued
    (r : DebtTransfer s env asset fromAccount toAccount amount t) {a' : Accrual}
    (ha' : r.first.ctx.accrual (s.position toAccount r.k)
      (s.getFeeReductionsOfAccount env toAccount) = .ok a') :
    s.accruedDataOf env asset toAccount t = .ok a'.data := by
  obtain ⟨a, n, ha, -, -, -, -, -, -, -, hfirst⟩ := ReserveDataContext.accountForRepay_ok r.first_ok
  refine r.opened.accruedDataOf r.registered ?_ ?_ ha'
  · rw [hfirst]
    rfl
  · rw [hfirst]
    exact AccountReserveData.accumulateAccountInterest_fees ha

/-- A debt transfer passes the amount from the debt of the giver to the one of the
receiver. -/
lemma DebtTransfer.passes (r : DebtTransfer s env asset fromAccount toAccount amount t) :
    r.toTwoSteps.Passes .debt s env asset fromAccount toAccount amount t := by
  have hposts := ReserveDataContext.accountForRepay_posts r.first_ok
  have hposts' := ReserveDataContext.accountForBorrow_posts r.second_ok
  obtain ⟨a, n, ha, hn, -, -, hle, -, -, -, hfirst⟩ :=
    ReserveDataContext.accountForRepay_ok r.first_ok
  obtain ⟨a', ha', -, -, hk, -, -, hsecond⟩ := ReserveDataContext.accountForBorrow_ok r.second_ok
  have hn : n = amount := by simpa using hn
  have hkid : r.ctx.assetId = r.k := r.opened.assetId
  have hview : Side.debt.view s env asset fromAccount t = .ok a.data.debt :=
    Side.view_eq_ok.mpr ⟨a.data, r.opened.accruedDataOf r.registered rfl (.refl _) ha, rfl⟩
  have hview' : Side.debt.view s env asset toAccount t = .ok a'.data.debt :=
    Side.view_eq_ok.mpr ⟨a'.data, r.receiver_accrued ha', rfl⟩
  refine ⟨⟨_, hview, ?_, ?_⟩, ⟨_, hview', ?_, ?_⟩, ⟨_, r.opened.reserveData, ?_⟩⟩
  · rw [hfirst]
    simp only [Side.amount]
    omega
  · rw [hfirst]
    simp [Side.bits, hkid, hn]
  · rw [hsecond, hfirst]
    simp only [Side.amount]
    omega
  · rw [hsecond]
    rw [hfirst] at hk ⊢
    simp only [ReserveDataContext.after, hkid] at hk
    simp [Side.bits, ReserveDataContext.after, hkid, hk]
  · have h₁ := Side.debt.total_of_posts hposts
    have h₂ := Side.debt.total_of_posts hposts'
    rw [Side.debt.total_recalculateRates r.rates]
    omega

/-! ### Distinct accounts -/

/-- Both copies of two steps are stored, in the asset and in the configs. -/
structure TwoSteps.Lands (r : TwoSteps) (s s' : LendingPoolStorage)
    (fromAccount toAccount : AccountId) : Prop where
  reserve : s'.reserveDatas.get r.k = some r.reserveData
  giver : s'.position fromAccount r.k = r.first.data
  receiver : s'.position toAccount r.k = r.second.data
  others : ∀ a, a ≠ fromAccount → a ≠ toAccount → s'.position a r.k = s.position a r.k
  giverConfig : s'.getAccountConfig fromAccount = r.first.config
  receiverConfig : s'.getAccountConfig toAccount = r.second.config

omit [Pendzl] in
lemma TwoSteps.written_reserve (r : TwoSteps) {inserted replaced : AccountId}
    {insertedData replacedData : AccountReserveData} {insertedConfig replacedConfig : AccountConfig}
    {v : List (Option AccountReserveData)} :
    ((r.reserveWritten s).putPair r.k inserted replaced insertedData replacedData insertedConfig
      replacedConfig v).reserveDatas.get r.k = some r.reserveData :=
  Mapping.get_insert_self ..

/-- A deposit transfer between distinct accounts stores both copies. -/
lemma DepositTransfer.lands (r : DepositTransfer s env asset fromAccount toAccount amount t)
    (hne : fromAccount ≠ toAccount) :
    r.toTwoSteps.Lands s r.written fromAccount toAccount := by
  have hvec : (r.reserveWritten s).accountReserveDatas.get fromAccount = some r.fromDatas :=
    r.fromDatas_eq
  have hin : r.k ≤ ((r.reserveWritten s).getAccountDatas toAccount).length := r.inRange
  obtain ⟨hk, -⟩ := List.getElem?_eq_some_iff.mp r.fromData_eq
  refine ⟨r.written_reserve, ?_, ?_, fun a hf ht => ?_, ?_, ?_⟩
  · rw [position, written, entry_putPair_replaced hvec hk, if_pos rfl, Option.getD_some]
  · rw [position, written, entry_putPair_inserted hne.symm hin, if_neg (lt_irrefl _), if_pos rfl,
      Option.getD_some]
  · rw [position, written, entry_putPair_of_ne ht hf]
    rfl
  · rw [written, getAccountConfig_putPair, if_neg hne, if_pos rfl]
  · rw [written, getAccountConfig_putPair, if_pos rfl]

/-- A debt transfer between distinct accounts stores both copies. -/
lemma DebtTransfer.lands (r : DebtTransfer s env asset fromAccount toAccount amount t)
    (hne : fromAccount ≠ toAccount) :
    r.toTwoSteps.Lands s r.written fromAccount toAccount := by
  have hvec : (r.reserveWritten s).accountReserveDatas.get toAccount = some r.toDatas :=
    r.toDatas_eq
  have hin : r.k ≤ ((r.reserveWritten s).getAccountDatas fromAccount).length := r.inRange
  refine ⟨r.written_reserve, ?_, ?_, fun a hf ht => ?_, ?_, ?_⟩
  · rw [position, written, entry_putPair_inserted hne hin, if_neg (lt_irrefl _), if_pos rfl,
      Option.getD_some]
  · rw [position, written, entry_putPair_replaced hvec r.toInRange, if_pos rfl, Option.getD_some]
  · rw [position, written, entry_putPair_of_ne hf ht]
    rfl
  · rw [written, getAccountConfig_putPair, if_pos rfl]
  · rw [written, getAccountConfig_putPair, if_neg hne.symm, if_pos rfl]

/-- **When two steps between distinct accounts have the exact effect**: the total was the
sum of the positions before, and the giver had its bit set unless it gives everything. -/
theorem TwoSteps.Passes.moves_iff {r : TwoSteps} {side : Side} {s' : LendingPoolStorage}
    (hp : r.Passes side s env asset fromAccount toAccount amount t)
    (hl : r.Lands s s' fromAccount toAccount) (hne : fromAccount ≠ toAccount)
    (hamount : amount ≠ 0) :
    Moves side s s' env asset r.k fromAccount toAccount amount t
    ↔ side.BalancedIn s r.k
      ∧ ((side.bits (s.getAccountConfig fromAccount)).getLsbD r.k = true
        ∨ side.view s env asset fromAccount t = .ok amount) := by
  obtain ⟨dFrom, hFrom, hgive, hbit⟩ := hp.giver
  obtain ⟨dTo, hTo, hreceive, hbitTo⟩ := hp.receiver
  obtain ⟨rd, hrd, htotal⟩ := hp.reserve
  -- two postings: the books are balanced afterwards exactly when they were before
  have hbooks : side.BalancedIn s' r.k ↔ side.BalancedIn s r.k := by
    have hpost : Book.Balanced (side.total r.reserveData) (fun a => side.amount (s'.position a r.k))
        ↔ Book.Balanced (side.total rd) (fun a => side.amount (s.position a r.k)) :=
      Book.balanced_iff_of_two_posts hne (fun c hcf hct => by rw [hl.others c hcf hct])
        (by rw [hl.giver, hl.receiver]; exact htotal)
    simp only [Side.BalancedIn, hl.reserve, hrd, Option.some.injEq, exists_eq_left']
    exact hpost
  have hgiver : ((side.bits (s'.getAccountConfig fromAccount)).getLsbD r.k = true
        ↔ side.amount (s'.position fromAccount r.k) ≠ 0)
      ↔ ((side.bits (s.getAccountConfig fromAccount)).getLsbD r.k = true
        ∨ side.view s env asset fromAccount t = .ok amount) := by
    rw [hl.giverConfig, hl.giver, hbit, hFrom]
    by_cases hall : amount = dFrom
    · have hzero : side.amount r.first.data = 0 := by omega
      simp [hall, hzero]
    · have hnonzero : side.amount r.first.data ≠ 0 := by omega
      have hall' : dFrom ≠ amount := Ne.symm hall
      simp [hall, hall', hnonzero]
  have hreceiver : (side.bits (s'.getAccountConfig toAccount)).getLsbD r.k = true
      ↔ side.amount (s'.position toAccount r.k) ≠ 0 := by
    rw [hl.receiverConfig, hl.receiver, hbitTo]
    simp only [true_iff]
    omega
  constructor
  · intro h
    exact ⟨hbooks.mp h.balanced, hgiver.mp (h.bits fromAccount (.inl rfl))⟩
  · rintro ⟨hbalanced, hbits⟩
    refine ⟨⟨dFrom, dTo, hFrom, hTo, ?_⟩, hbooks.mpr hbalanced, ?_⟩
    · rw [if_neg hne, hl.giver, hl.receiver]
      exact ⟨hgive, hreceive⟩
    · rintro a (rfl | rfl)
      · exact hgiver.mpr hbits
      · exact hreceiver

/-! ### One account -/

/-- A deposit transfer to oneself lowers the deposit: the copy of the sender is stored
last. -/
lemma DepositTransfer.not_moves_self (r : DepositTransfer s env asset toAccount toAccount amount t)
    (hamount : amount ≠ 0) :
    ¬Moves .deposit s r.written env asset r.k toAccount toAccount amount t := by
  intro h
  obtain ⟨d, dTo, hd, -, hstay⟩ := h.amounts
  obtain ⟨d', hd', hgive, -⟩ := r.passes.giver
  cases hd.symm.trans hd'
  obtain ⟨hk, -⟩ := List.getElem?_eq_some_iff.mp r.fromData_eq
  have hvec : (r.reserveWritten s).accountReserveDatas.get toAccount = some r.fromDatas :=
    r.fromDatas_eq
  have hlast : r.written.position toAccount r.k = r.first.data := by
    rw [position, written, entry_putPair_replaced hvec hk, if_pos rfl, Option.getD_some]
  rw [if_pos rfl, hlast] at hstay
  omega

/-- A debt transfer to oneself raises the debt: the copy of the receiver is stored last. -/
lemma DebtTransfer.not_moves_self (r : DebtTransfer s env asset toAccount toAccount amount t)
    (hamount : amount ≠ 0) :
    ¬Moves .debt s r.written env asset r.k toAccount toAccount amount t := by
  intro h
  obtain ⟨d, dTo', hd, -, hstay⟩ := h.amounts
  obtain ⟨dTo, hTo, hreceive, -⟩ := r.passes.receiver
  obtain ⟨dFrom, hFrom, hgive, -⟩ := r.passes.giver
  have hvec : (r.reserveWritten s).accountReserveDatas.get toAccount = some r.toDatas :=
    r.toDatas_eq
  have hlast : r.written.position toAccount r.k = r.second.data := by
    rw [position, written, entry_putPair_replaced hvec r.toInRange, if_pos rfl, Option.getD_some]
  rw [if_pos rfl, hlast, hreceive] at hstay
  cases hd.symm.trans hTo
  cases hFrom.symm.trans hTo
  omega

/-- **When a transfer has its exact effect**: it is between distinct accounts, the total was
the sum of the positions before, and the giver had its bit set unless it gives
everything. -/
theorem transfer_exact_iff {res : TransferResult} {k : ℕ} (side : Side)
    (hk : s.assetToId.get asset = some k) (hamount : amount ≠ 0)
    (h : match side with
      | .deposit =>
          s.accountForDepositTransferFromTo env asset fromAccount toAccount amount t = .ok res
      | .debt =>
          s.accountForDebtTransferFromTo env asset fromAccount toAccount amount t = .ok res) :
    Moves side s res.storage env asset k fromAccount toAccount amount t
    ↔ fromAccount ≠ toAccount ∧ side.BalancedIn s k
      ∧ ((side.bits (s.getAccountConfig fromAccount)).getLsbD k = true
        ∨ side.view s env asset fromAccount t = .ok amount) := by
  cases side with
  | deposit =>
      obtain ⟨r, rfl⟩ := accountForDepositTransferFromTo_ok h
      cases hk.symm.trans r.registered
      by_cases hne : fromAccount = toAccount
      · subst hne
        simp only [r.not_moves_self hamount, ne_eq, not_true_eq_false, false_and]
      · rw [r.passes.moves_iff (r.lands hne) hne hamount]
        exact ⟨fun h => ⟨hne, h⟩, And.right⟩
  | debt =>
      obtain ⟨r, rfl⟩ := accountForDebtTransferFromTo_ok h
      cases hk.symm.trans r.registered
      by_cases hne : fromAccount = toAccount
      · subst hne
        simp only [r.not_moves_self hamount, ne_eq, not_true_eq_false, false_and]
      · rw [r.passes.moves_iff (r.lands hne) hne hamount]
        exact ⟨fun h => ⟨hne, h⟩, And.right⟩

end

attribute [local instance] Pendzl.exact in
/-- The exact effect of a transfer in the sample pool, from `account 3` to `account 4`. -/
theorem transfer_exact_sample :
    ∃ w res, Sample.world.run Sample.depositors = some w
      ∧ w.pool.accountForDepositTransferFromTo (Sample.env (Sample.account 1100) 2)
          (Sample.account 100) (Sample.account 3) (Sample.account 4) 10 2 = .ok res
      ∧ Moves .deposit w.pool res.storage (Sample.env (Sample.account 1100) 2)
          (Sample.account 100) 0 (Sample.account 3) (Sample.account 4) 10 2 := by
  have hrun : (Sample.world.run Sample.depositors).map (fun w =>
        ((w.pool.accountForDepositTransferFromTo (Sample.env (Sample.account 1100) 2)
            (Sample.account 100) (Sample.account 3) (Sample.account 4) 10 2).isOk,
        w.pool.assetToId.get (Sample.account 100),
        (w.pool.getAccountConfig (Sample.account 3)).deposits.getLsbD 0))
      = some (true, some 0, true) := by
    decide +kernel
  obtain ⟨w, hw, hreach, hv⟩ :=
    World.run_reaches World.OneSided Sample.world_isInitial (by decide) hrun
  simp only [Prod.mk.injEq] at hv
  obtain ⟨hok, hk, hbit⟩ := hv
  obtain ⟨res, hres⟩ := isOk_eq_true.mp hok
  have hagree := World.reachable_totalsAgree hreach
  exact ⟨w, res, hw, hres, (transfer_exact_iff .deposit hk (by decide) hres).mpr
    ⟨by decide, hagree.balancedIn hk .deposit, .inl hbit⟩⟩

attribute [local instance] Pendzl.exact in
/-- **A deposit transfer to oneself burns the amount**: in a reachable state `account 4` has
a deposit of `500`, and of `490` after it transferred `10` to itself. -/
theorem depositTransfer_self_burns :
    ∃ w res, World.Reachable (fun _ => True) 1 w
      ∧ w.pool.accountForDepositTransferFromTo (Sample.env (Sample.account 1100) 2)
          (Sample.account 100) (Sample.account 4) (Sample.account 4) 10 2 = .ok res
      ∧ w.pool.assetToId.get (Sample.account 100) = some 0
      ∧ ¬Moves .deposit w.pool res.storage (Sample.env (Sample.account 1100) 2)
          (Sample.account 100) 0 (Sample.account 4) (Sample.account 4) 10 2 := by
  have hrun : (Sample.world.run Sample.depositors).map (fun w =>
        ((w.pool.accountForDepositTransferFromTo (Sample.env (Sample.account 1100) 2)
            (Sample.account 100) (Sample.account 4) (Sample.account 4) 10 2).toOption.map
          fun res => (res.storage.position (Sample.account 4) 0).deposit,
        w.pool.assetToId.get (Sample.account 100),
        w.pool.accountDepositOf (Sample.env (Sample.account 1100) 2) (Sample.account 100)
          (Sample.account 4) 2))
      = some (some 490, some 0, .ok 500) := by
    decide +kernel
  obtain ⟨w, hw, hreach, hv⟩ :=
    World.run_reaches (fun _ => True) Sample.world_isInitial (by decide) hrun
  simp only [Prod.mk.injEq] at hv
  obtain ⟨hres, hk, hview⟩ := hv
  obtain ⟨res, hok, hafter⟩ := Option.map_eq_some_iff.mp hres
  refine ⟨w, res, hreach, toOption_eq_some.mp hok, hk, fun hmoves => ?_⟩
  obtain ⟨d, dTo, hd, -, hstay⟩ := hmoves.amounts
  have h500 : d = 500 := by
    have heq := hd.symm.trans hview
    simpa using heq
  rw [if_pos rfl] at hstay
  simp only [Side.amount] at hstay
  omega

end LendingPoolStorage

end AbaxLending
