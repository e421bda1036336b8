import AbaxLending.Contract.Run
import AbaxLending.Invariants.Registry
import AbaxLending.Invariants.Vectors
import AbaxLending.Spec.Power
import AbaxLending.Spec.Visits

/-!
Transfers and the length of the stored vectors.

A vector has the length that the registry had when it was stored.  The getter
`getAccountDatas` pads it with missing entries; a transfer reads the receiver of a deposit and
the giver of a debt with it, and the two other accounts without.

* `ensureCollateralizedFromRaw_append_none`: missing entries behind the active assets do not
  count in the check;
* `accountForReserveAction_putDatas`: a visit of a reserve does not look at the vectors;
* `depositTransfer_padded`, `debtTransfer_padded`: where an account that is read without the
  getter has a vector that reaches to the asset, padding it changes no outcome;
* `stored_length_hidden_iff`: when the stored length does not matter.
-/

namespace AbaxLending

open Outcome

namespace LendingPoolStorage

section

variable [Pendzl] {s : LendingPoolStorage} {env : Env} {asset a b fromAccount toAccount : AccountId}
  {amount t k n : ℕ} {u v : List (Option AccountReserveData)}

/-! ### The check -/

/-- Entries that are missing behind the active assets do not count. -/
lemma ensureCollateralizedFromRaw_append_none {config : AccountConfig} {reductions : FeeReductions}
    (hconfig : config.Within u.length) (n : ℕ) :
    s.ensureCollateralizedFromRaw env (u ++ List.replicate n none) config reductions
      = s.ensureCollateralizedFromRaw env u config reductions := by
  have hactive : ∀ j,
      ((config.deposits &&& config.collaterals) ||| config.borrows).getLsbD j = true →
        j < u.length := by
    intro j hj
    rw [BitVec.getLsbD_or, BitVec.getLsbD_and, Bool.or_eq_true, Bool.and_eq_true] at hj
    exact hconfig j (hj.imp_left And.left)
  exact ensureCollateralizedFromRaw_congr_assets .refl
    (fun j hj => List.getElem?_append_left (hactive j hj)) fun _ _ _ _ _ _ _ => rfl

/-! ### The reserve action -/

/-- A visit of a reserve does not look at the vectors. -/
lemma accountForReserveAction_putDatas {accountsData : List AccountReserveData}
    {accountsConfig : List AccountConfig} {reductions : List FeeReductions}
    {actions : List ReserveAction} :
    (s.putDatas a v).accountForReserveAction k accountsData accountsConfig reductions actions t
      = (s.accountForReserveAction k accountsData accountsConfig reductions actions t).map
        fun res => { res with storage := res.storage.putDatas a v } :=
  accountForReserveAction_updateAccounts (fun m => m.insert a v) id

/-! ### Padding -/

omit [Pendzl] in
/-- The storage with the vector of one account as the getter returns it: the stored vector,
padded with missing entries up to the number of registered assets. -/
def padded (s : LendingPoolStorage) (account : AccountId) : LendingPoolStorage :=
  s.putDatas account (s.getAccountDatas account)

omit [Pendzl] in
/-- A stored vector is padded at its end, and only that of the account. -/
lemma padded_get (hu : s.accountReserveDatas.get b = some u) :
    ∃ n, (s.padded a).accountReserveDatas.get b = some (u ++ List.replicate n none)
      ∧ (b ≠ a → n = 0) := by
  rw [padded, putDatas_accountReserveDatas, Mapping.get_insert]
  split_ifs with hb
  · rw [← hb, getAccountDatas, hu, Option.getD_some]
    split_ifs
    · exact ⟨s.assetCount - u.length, rfl, fun h => absurd rfl h⟩
    · exact ⟨0, by simp, fun _ => rfl⟩
  · exact ⟨0, by simp [hu], fun _ => rfl⟩

omit [Pendzl] in
/-- Padding again changes nothing. -/
lemma padded_getAccountDatas : (s.padded a).getAccountDatas b = s.getAccountDatas b := by
  by_cases hb : b = a
  · have hlen : ¬(s.getAccountDatas a).length < (s.padded a).assetCount :=
      not_lt.mpr (assetCount_le_length_getAccountDatas (s := s))
    have hget : (s.padded a).accountReserveDatas.get a = some (s.getAccountDatas a) :=
      Mapping.get_insert_self ..
    rw [hb, getAccountDatas, hget, Option.getD_some, if_neg hlen]
  · have hget : (s.padded a).accountReserveDatas.get b = s.accountReserveDatas.get b :=
      Mapping.get_insert_of_ne _ hb _
    rw [getAccountDatas, getAccountDatas, hget]
    rfl

omit [Pendzl] in
/-- Padding adds no entry. -/
lemma padded_entry : (s.padded a).entry = s.entry := by
  funext b k
  rw [← getAccountDatas_join, padded_getAccountDatas, getAccountDatas_join]

omit [Pendzl] in
lemma padded_position : (s.padded a).position = s.position := by
  funext b k
  rw [position, position, padded_entry]

omit [Pendzl] in
/-- What a transfer returns and the entries of all accounts that it leaves, or how it failed. -/
def shown (x : Res TransferResult) :
    Res (((ℕ × ℕ) × (ℕ × ℕ)) × (AccountId → ℕ → Option AccountReserveData)) :=
  x.map fun res => ((res.fromInterests, res.toInterests), res.storage.entry)

/-- The end of a transfer: the account that is written last is checked, if this is asked, and
both accounts are written. -/
def closeTransfer (s : LendingPoolStorage) (env : Env) (checks : Bool) (k : ℕ)
    (inserted replaced : AccountId) (insertedDatas replacedDatas : List (Option AccountReserveData))
    (insertedData : AccountReserveData) (insertedConfig replacedConfig : AccountConfig) :
    Res LendingPoolStorage := do
  if checks then
    s.ensureCollateralizedFromRaw env replacedDatas replacedConfig
      (s.getFeeReductionsOfAccount env replaced)
  let self ← s.insertAccountData insertedDatas k insertedData inserted
  return ((self.putDatas replaced replacedDatas).putConfig replaced replacedConfig).putConfig
    inserted insertedConfig

/-- The end of a transfer leaves the same entries when the vector that it replaces is padded. -/
lemma closeTransfer_append_none {checks : Bool} {inserted replaced : AccountId}
    {insertedDatas : List (Option AccountReserveData)} {insertedData : AccountReserveData}
    {insertedConfig replacedConfig : AccountConfig} (hconfig : replacedConfig.Within u.length)
    (hv : ∀ j, v[j]?.join = s.entry a j) :
    ((s.putDatas a v).closeTransfer env checks k inserted replaced insertedDatas
        (u ++ List.replicate n none) insertedData insertedConfig replacedConfig).map entry
      = (s.closeTransfer env checks k inserted replaced insertedDatas u insertedData insertedConfig
        replacedConfig).map entry := by
  have hcheck : (s.putDatas a v).ensureCollateralizedFromRaw env
      = s.ensureCollateralizedFromRaw env :=
    ensureCollateralizedFromRaw_congr ⟨rfl, rfl, rfl, rfl, rfl⟩ rfl rfl
  have hentries : ∀ x : List (Option AccountReserveData),
      ((((((s.putDatas a v).putDatas inserted x).putDatas replaced
          (u ++ List.replicate n none)).putConfig replaced replacedConfig).putConfig inserted
          insertedConfig).entry)
        = (((((s.putDatas inserted x).putDatas replaced u).putConfig replaced
          replacedConfig).putConfig inserted insertedConfig).entry) := by
    intro x
    funext b j
    simp only [entry, putConfig_accountReserveDatas, putDatas_accountReserveDatas,
      Mapping.get_insert]
    by_cases hr : b = replaced
    · simp only [if_pos hr, Option.bind_some]
      exact getElem?_append_none_join u n j
    · simp only [if_neg hr]
      by_cases hi : b = inserted
      · simp only [if_pos hi]
      · simp only [if_neg hi]
        by_cases ha : b = a
        · simp only [if_pos ha, Option.bind_some]
          rw [hv, ha, entry]
        · simp only [if_neg ha]
  have hreductions : (s.putDatas a v).getFeeReductionsOfAccount env
    = s.getFeeReductionsOfAccount env := rfl
  cases checks <;>
    simp only [closeTransfer, hcheck, hreductions, ensureCollateralizedFromRaw_append_none hconfig,
      insertAccountData, Bool.false_eq_true, if_true, if_false, map_bind, bind_assoc, pure_eq,
      ok_bind, map_ok, hentries]

/-! ### The transfers -/

section

variable {st : LendingPoolStorage} {data data₁ data₂ : AccountReserveData}
  {config config₁ config₂ : AccountConfig} {interests₁ interests₂ : ℕ × ℕ}
  {acts : List ReserveAction}

/-- A transfer of a deposit whose reserve action succeeds. -/
lemma shown_depositTransfer (hk : s.assetToId.get asset = some k)
    (hconfig : s.accountConfigs.get fromAccount = some config)
    (hu : s.accountReserveDatas.get fromAccount = some u) (hdata : u[k]? = some (some data))
    (hres : s.accountForReserveAction k [data, s.position toAccount k]
      [config, s.getAccountConfig toAccount]
      [s.getFeeReductionsOfAccount env fromAccount, s.getFeeReductionsOfAccount env toAccount]
      [.depositTransfer 0 1 amount false] t
      = .ok ⟨st, [data₁, data₂], [config₁, config₂], acts, [interests₁, interests₂]⟩) :
    shown (s.accountForDepositTransferFromTo env asset fromAccount toAccount amount t)
      = bitMask k >>= fun mask => ((st.closeTransfer env (config₁.collaterals &&& mask = 1#128) k
          toAccount fromAccount (s.getAccountDatas toAccount) (u.set k (some data₁)) data₂ config₂
          config₁).map entry).map (Prod.mk (interests₁, interests₂)) := by
  simp only [shown, accountForDepositTransferFromTo, assetId, hk, hconfig, hu, hdata, hres, okOr,
    unwrap, getAccountReserveData_eq, ok_bind, List.getElem?_cons_zero, List.getElem?_cons_succ,
    closeTransfer, map_bind, pure_eq, decide_eq_true_eq]
  refine congrArg (bitMask k >>= ·) (funext fun mask => ?_)
  split_ifs <;> simp only [map_bind, map_ok]

omit [Pendzl] in
/-- The entry of a stored vector that reaches to the asset. -/
lemma getAccountDataEntryMut_of_get (hu : s.accountReserveDatas.get b = some u)
    (hlt : k < u.length) : getAccountDataEntryMut u k = .ok (s.position b k) := by
  rw [getAccountDataEntryMut_eq_ok, position, entry, hu]
  exact ⟨hlt, rfl⟩

/-- A transfer of a debt whose reserve action succeeds. -/
lemma shown_debtTransfer (hk : s.assetToId.get asset = some k)
    (hconfig : s.accountConfigs.get toAccount = some config)
    (hu : s.accountReserveDatas.get toAccount = some u) (hlt : k < u.length)
    (hres : s.accountForReserveAction k [s.position fromAccount k, s.position toAccount k]
      [s.getAccountConfig fromAccount, config]
      [s.getFeeReductionsOfAccount env fromAccount, s.getFeeReductionsOfAccount env toAccount]
      [.debtTransfer 0 1 amount false] t
      = .ok ⟨st, [data₁, data₂], [config₁, config₂], acts, [interests₁, interests₂]⟩) :
    shown (s.accountForDebtTransferFromTo env asset fromAccount toAccount amount t)
      = ((st.closeTransfer env true k fromAccount toAccount (s.getAccountDatas fromAccount)
          (u.set k (some data₂)) data₁ config₁ config₂).map entry).map
          (Prod.mk (interests₁, interests₂)) := by
  have hdata := getAccountDataEntryMut_of_get hu hlt
  simp only [shown, accountForDebtTransferFromTo, assetId, hk, hconfig, hu, hdata, hres, okOr,
    unwrap, getAccountReserveData_eq, ok_bind, List.getElem?_cons_zero, List.getElem?_cons_succ,
    closeTransfer, map_bind, pure_eq, map_ok, if_true]

end

omit [Pendzl] in
/-- An account without a vector is not the padded one. -/
lemma padded_get_of_none (hu : s.accountReserveDatas.get b = none)
    (hb : b = a → k < (s.storedDatas a).length) :
    (s.padded a).accountReserveDatas.get b = none := by
  have hne : b ≠ a := by
    intro heq
    have hlt := hb heq
    rw [storedDatas, ← heq, hu] at hlt
    exact absurd hlt (Nat.not_lt_zero k)
  exact (Mapping.get_insert_of_ne _ hne _).trans hu

omit [Pendzl] in
/-- The stored vector of an account and its padding have the same entry of an asset, if the
vector of a padded account reaches to it. -/
lemma padded_getElem? (hu : s.accountReserveDatas.get b = some u)
    (hb : b = a → k < (s.storedDatas a).length) :
    ∃ n, (s.padded a).accountReserveDatas.get b = some (u ++ List.replicate n none)
      ∧ (u ++ List.replicate n none)[k]? = u[k]?
      ∧ ∀ x, k < u.length →
        (u ++ List.replicate n none).set k x = u.set k x ++ List.replicate n none := by
  obtain ⟨n, hget, hn⟩ := padded_get (a := a) hu
  refine ⟨n, hget, ?_, fun x hlt => List.set_append_left _ _ hlt⟩
  by_cases hba : b = a
  · have hlt := hb hba
    rw [storedDatas, ← hba, hu, Option.getD_some] at hlt
    exact List.getElem?_append_left hlt
  · rw [hn hba]
    simp

/-! ### Transfers without an entry -/

section

variable {config : AccountConfig}

/-- A sender whose vector does not reach to the asset: the transfer of a deposit traps. -/
lemma depositTransfer_short (hk : s.assetToId.get asset = some k)
    (hconfig : s.accountConfigs.get fromAccount = some config)
    (hv : s.accountReserveDatas.get fromAccount = some v) (hlen : v.length ≤ k) :
    s.accountForDepositTransferFromTo env asset fromAccount toAccount amount t = .error .trap := by
  have hnone : v[k]? = none := List.getElem?_eq_none hlen
  simp only [accountForDepositTransferFromTo, assetId, hk, hconfig, hv, hnone, okOr, unwrap,
    ok_bind, error_bind]

/-- A sender without an entry in a vector that reaches to the asset has no deposit. -/
lemma depositTransfer_missing (hk : s.assetToId.get asset = some k)
    (hconfig : s.accountConfigs.get fromAccount = some config)
    (hv : s.accountReserveDatas.get fromAccount = some v) (hnone : v[k]? = some none) :
    s.accountForDepositTransferFromTo env asset fromAccount toAccount amount t
      = .error (.err .insufficientDeposit) := by
  simp only [accountForDepositTransferFromTo, assetId, hk, hconfig, hv, hnone, okOr, unwrap,
    ok_bind, error_bind]

/-- A receiver whose vector does not reach to the asset: the transfer of a debt traps. -/
lemma debtTransfer_short (hk : s.assetToId.get asset = some k)
    (hconfig : s.accountConfigs.get toAccount = some config)
    (hv : s.accountReserveDatas.get toAccount = some v) (hlen : v.length ≤ k) :
    s.accountForDebtTransferFromTo env asset fromAccount toAccount amount t = .error .trap := by
  have htrap : getAccountDataEntryMut v k = .error .trap := by
    rw [getAccountDataEntryMut, List.getElem?_eq_none hlen]
    rfl
  simp only [accountForDebtTransferFromTo, assetId, hk, hconfig, hv, htrap, okOr,
    getAccountReserveData_eq, ok_bind, error_bind]

end

/-! ### Transfers and the padding -/

/-- **A transfer of a deposit does not see the padding**, if the vector of a padded sender
reaches to the asset. -/
theorem depositTransfer_padded (hreach : s.VectorsReach) (hk : s.assetToId.get asset = some k)
    (hfrom : fromAccount = a → k < (s.storedDatas a).length) :
    shown ((s.padded a).accountForDepositTransferFromTo env asset fromAccount toAccount amount t)
      = shown (s.accountForDepositTransferFromTo env asset fromAccount toAccount amount t) := by
  have hk' : (s.padded a).assetToId.get asset = some k := hk
  cases hconfig : s.accountConfigs.get fromAccount with
  | none =>
      have hconfig' : (s.padded a).accountConfigs.get fromAccount = none := hconfig
      simp only [shown, accountForDepositTransferFromTo, assetId, hk, hk', hconfig, hconfig', okOr,
        ok_bind, error_bind, map_error]
  | some config =>
  have hconfig' : (s.padded a).accountConfigs.get fromAccount = some config := hconfig
  cases hu : s.accountReserveDatas.get fromAccount with
  | none =>
      have hu' := padded_get_of_none hu hfrom
      simp only [shown, accountForDepositTransferFromTo, assetId, hk, hk', hconfig, hconfig', hu,
        hu', okOr, ok_bind, error_bind, map_error]
  | some u =>
  obtain ⟨n, hu', hentry, hset⟩ := padded_getElem? hu hfrom
  cases hdata : u[k]? with
  | none =>
      -- the vector of an account that is not padded is too short
      have hlen := List.getElem?_eq_none_iff.mp hdata
      have hlen' := List.getElem?_eq_none_iff.mp (hentry.trans hdata)
      rw [shown, shown, depositTransfer_short hk hconfig hu hlen,
        depositTransfer_short hk' hconfig' hu' hlen']
  | some o =>
  have hlt : k < u.length := (List.getElem?_eq_some_iff.mp hdata).1
  have hdata' := hentry.trans hdata
  cases o with
  | none =>
      rw [shown, shown, depositTransfer_missing hk hconfig hu hdata,
        depositTransfer_missing hk' hconfig' hu' hdata']
  | some data =>
  have haction : (s.padded a).accountForReserveAction k [data, (s.padded a).position toAccount k]
      [config, (s.padded a).getAccountConfig toAccount]
      [(s.padded a).getFeeReductionsOfAccount env fromAccount,
        (s.padded a).getFeeReductionsOfAccount env toAccount]
      [.depositTransfer 0 1 amount false] t
      = Except.map (fun res => { res with storage := res.storage.putDatas a (s.getAccountDatas a) })
        (s.accountForReserveAction k [data, s.position toAccount k]
          [config, s.getAccountConfig toAccount]
          [s.getFeeReductionsOfAccount env fromAccount, s.getFeeReductionsOfAccount env toAccount]
          [.depositTransfer 0 1 amount false] t) := by
    rw [padded_position]
    exact accountForReserveAction_putDatas
  cases hres : s.accountForReserveAction k [data, s.position toAccount k]
      [config, s.getAccountConfig toAccount]
      [s.getFeeReductionsOfAccount env fromAccount, s.getFeeReductionsOfAccount env toAccount]
      [.depositTransfer 0 1 amount false] t with
  | error e =>
      rw [hres, map_error] at haction
      simp only [shown, accountForDepositTransferFromTo, assetId, hk, hk', hconfig, hconfig', hu,
        hu', hdata, hdata', okOr, unwrap, getAccountReserveData_eq, haction, hres, ok_bind,
        error_bind, map_error]
  | ok res =>
      obtain ⟨ctx, first, second, rd, i, e, hctx, h₁, h₂, -, rfl⟩ :=
        accountForReserveAction_depositTransfer hres
      rw [hres, map_ok] at haction
      have hwithin : first.config.Within (u.set k (some first.data)).length := by
        rw [List.length_set]
        exact (ReserveDataContext.accountForWithdraw_slot h₁).within
          (hreach.within_stored hconfig hu) (hctx.assetId ▸ hlt)
      rw [shown_depositTransfer hk hconfig hu hdata hres,
        shown_depositTransfer hk' hconfig' hu' hdata' haction, padded_getAccountDatas, hset _ hlt]
      refine congrArg (bitMask k >>= ·) (funext fun mask => congrArg (Except.map _) ?_)
      exact closeTransfer_append_none hwithin (getAccountDatas_join s a)

/-- **A transfer of a debt does not see the padding**, if the vector of a padded receiver
reaches to the asset. -/
theorem debtTransfer_padded (hreach : s.VectorsReach) (hk : s.assetToId.get asset = some k)
    (hto : toAccount = a → k < (s.storedDatas a).length) :
    shown ((s.padded a).accountForDebtTransferFromTo env asset fromAccount toAccount amount t)
      = shown (s.accountForDebtTransferFromTo env asset fromAccount toAccount amount t) := by
  have hk' : (s.padded a).assetToId.get asset = some k := hk
  cases hconfig : s.accountConfigs.get toAccount with
  | none =>
      have hconfig' : (s.padded a).accountConfigs.get toAccount = none := hconfig
      simp only [shown, accountForDebtTransferFromTo, assetId, hk, hk', hconfig, hconfig', okOr,
        getAccountReserveData_eq, ok_bind, error_bind, map_error]
  | some config =>
  have hconfig' : (s.padded a).accountConfigs.get toAccount = some config := hconfig
  cases hu : s.accountReserveDatas.get toAccount with
  | none =>
      have hu' := padded_get_of_none hu hto
      simp only [shown, accountForDebtTransferFromTo, assetId, hk, hk', hconfig, hconfig', hu,
        hu', okOr, getAccountReserveData_eq, ok_bind, error_bind, map_error]
  | some u =>
  obtain ⟨n, hu', hentry, hset⟩ := padded_getElem? hu hto
  by_cases hlt : k < u.length
  swap
  · -- the vector of an account that is not padded is too short
    have hlen := not_lt.mp hlt
    have hlen' := List.getElem?_eq_none_iff.mp (hentry.trans (List.getElem?_eq_none hlen))
    rw [shown, shown, debtTransfer_short hk hconfig hu hlen,
      debtTransfer_short hk' hconfig' hu' hlen']
  have haction : (s.padded a).accountForReserveAction k
      [(s.padded a).position fromAccount k, (s.padded a).position toAccount k]
      [(s.padded a).getAccountConfig fromAccount, config]
      [(s.padded a).getFeeReductionsOfAccount env fromAccount,
        (s.padded a).getFeeReductionsOfAccount env toAccount]
      [.debtTransfer 0 1 amount false] t
      = Except.map (fun res => { res with storage := res.storage.putDatas a (s.getAccountDatas a) })
        (s.accountForReserveAction k [s.position fromAccount k, s.position toAccount k]
          [s.getAccountConfig fromAccount, config]
          [s.getFeeReductionsOfAccount env fromAccount, s.getFeeReductionsOfAccount env toAccount]
          [.debtTransfer 0 1 amount false] t) := by
    rw [padded_position]
    exact accountForReserveAction_putDatas
  have hlt' : k < (u ++ List.replicate n none).length := by
    rw [List.length_append]
    omega
  cases hres : s.accountForReserveAction k [s.position fromAccount k, s.position toAccount k]
      [s.getAccountConfig fromAccount, config]
      [s.getFeeReductionsOfAccount env fromAccount, s.getFeeReductionsOfAccount env toAccount]
      [.debtTransfer 0 1 amount false] t with
  | error e =>
      rw [hres, map_error] at haction
      have hdata := getAccountDataEntryMut_of_get hu hlt
      have hdata' := getAccountDataEntryMut_of_get hu' hlt'
      simp only [shown, accountForDebtTransferFromTo, assetId, hk, hk', hconfig, hconfig', hu,
        hu', hdata, hdata', okOr, getAccountReserveData_eq, haction, hres, ok_bind, error_bind,
        map_error]
  | ok res =>
      obtain ⟨ctx, first, second, rd, i, e, hctx, h₁, h₂, -, rfl⟩ :=
        accountForReserveAction_debtTransfer hres
      rw [hres, map_ok] at haction
      have hid : first.ctx.assetId = k := by
        rw [ReserveDataContext.accountForRepay_assetId h₁]
        exact hctx.assetId
      have hwithin : second.config.Within (u.set k (some second.data)).length := by
        rw [List.length_set]
        exact (ReserveDataContext.accountForBorrow_slot h₂).within
          (hreach.within_stored hconfig hu) (hid ▸ hlt)
      rw [shown_debtTransfer hk hconfig hu hlt hres,
        shown_debtTransfer hk' hconfig' hu' hlt' haction, padded_getAccountDatas, hset _ hlt]
      exact congrArg (Except.map _)
        (closeTransfer_append_none hwithin (getAccountDatas_join s a))

/-! ### The account in every role -/

/-- The length of the stored vector of an account does not matter for the transfers of an
asset between it and another account: in each of the four roles the padded storage gives the
same outcome. -/
structure LengthHidden (s : LendingPoolStorage) (env : Env) (asset a other : AccountId)
    (amount t : ℕ) : Prop where
  depositSender : shown ((s.padded a).accountForDepositTransferFromTo env asset a other amount t)
    = shown (s.accountForDepositTransferFromTo env asset a other amount t)
  depositReceiver :
    shown ((s.padded a).accountForDepositTransferFromTo env asset other a amount t)
      = shown (s.accountForDepositTransferFromTo env asset other a amount t)
  debtGiver : shown ((s.padded a).accountForDebtTransferFromTo env asset a other amount t)
    = shown (s.accountForDebtTransferFromTo env asset a other amount t)
  debtReceiver : shown ((s.padded a).accountForDebtTransferFromTo env asset other a amount t)
    = shown (s.accountForDebtTransferFromTo env asset other a amount t)

/-- **When the stored length does not matter**: exactly when the stored vector reaches to the
asset. -/
theorem lengthHidden_iff (hreach : s.VectorsReach) (hids : s.IdsUnique)
    (hv : s.accountReserveDatas.get a = some v) (hk : s.assetToId.get asset = some k)
    (other : AccountId) : s.LengthHidden env asset a other amount t ↔ k < v.length := by
  have hstored : s.storedDatas a = v := by rw [storedDatas, hv, Option.getD_some]
  constructor
  · intro h
    by_contra hlen
    rw [not_lt] at hlen
    obtain ⟨config, hconfig⟩ :=
      Option.isSome_iff_exists.mp (hreach.stored a (by rw [hv, Option.isSome_some]))
    have hraw : shown (s.accountForDepositTransferFromTo env asset a other amount t)
        = .error .trap := by
      rw [depositTransfer_short hk hconfig hv hlen]
      rfl
    -- the padded vector reaches to the asset, and has no entry of it
    have hget : (s.padded a).accountReserveDatas.get a = some (s.getAccountDatas a) :=
      Mapping.get_insert_self ..
    have hlt : k < (s.getAccountDatas a).length :=
      (hids.below asset k hk).trans_le assetCount_le_length_getAccountDatas
    have hmissing : (s.getAccountDatas a)[k]? = some none := by
      have hjoin : (s.getAccountDatas a)[k]?.join = none := by
        rw [getAccountDatas_join, entry, hv, Option.bind_some, List.getElem?_eq_none hlen]
        rfl
      rw [List.getElem?_eq_getElem hlt] at hjoin ⊢
      exact congrArg some hjoin
    have hpadded : shown ((s.padded a).accountForDepositTransferFromTo env asset a other amount t)
        = .error (.err .insufficientDeposit) := by
      rw [depositTransfer_missing (s := s.padded a) hk hconfig hget hmissing]
      rfl
    have hsame := h.depositSender
    rw [hraw, hpadded] at hsame
    cases hsame
  · intro hlt
    have hreaches : ∀ b, b = a → k < (s.storedDatas a).length := fun _ _ => hstored ▸ hlt
    exact ⟨depositTransfer_padded hreach hk (hreaches a), depositTransfer_padded hreach hk
      (hreaches other), debtTransfer_padded hreach hk (hreaches other),
      debtTransfer_padded hreach hk (hreaches a)⟩

end

end LendingPoolStorage

namespace World

/-- **When the stored length of a vector does not matter.**  In every reachable world, for an
account with a stored vector and a registered asset, the account is in each of the four roles of
a transfer treated as if its vector were padded up to the registered assets, if and only if the
vector reaches to the asset.  The receiver of a deposit and the giver of a debt never notice. -/
theorem stored_length_hidden_iff [Pendzl] {kind : Message → Prop} {t₀ : ℕ} {w : World}
    (h : Reachable kind t₀ w) {a asset : AccountId} {v : List (Option AccountReserveData)} {k : ℕ}
    (hv : w.pool.accountReserveDatas.get a = some v) (hk : w.pool.assetToId.get asset = some k)
    (env : Env) (other : AccountId) (amount t : ℕ) :
    (w.pool.LengthHidden env asset a other amount t ↔ k < v.length)
      ∧ (other ≠ a →
        LendingPoolStorage.shown
            ((w.pool.padded a).accountForDepositTransferFromTo env asset other a amount t)
          = LendingPoolStorage.shown
            (w.pool.accountForDepositTransferFromTo env asset other a amount t)
        ∧ LendingPoolStorage.shown
            ((w.pool.padded a).accountForDebtTransferFromTo env asset a other amount t)
          = LendingPoolStorage.shown
            (w.pool.accountForDebtTransferFromTo env asset a other amount t)) := by
  have hreach := reachable_vectorsReach h
  refine ⟨LendingPoolStorage.lengthHidden_iff hreach (reachable_linked h).ids hv hk other,
    fun hne => ⟨?_, ?_⟩⟩
  · exact LendingPoolStorage.depositTransfer_padded hreach hk fun heq => absurd heq hne
  · exact LendingPoolStorage.debtTransfer_padded hreach hk fun heq => absurd heq hne

end World

namespace Sample

/-- The messages that register a third asset after `account 2` was written: it has a collateral
in the first asset, and `account 3` owes `50` of the third one. -/
def lateAsset : List (Env × Message) := setup ++ [
  send 2 1 fun a => .deposit (account 100) a 1000,
  send 2 1 fun _ => .setAsCollateral (account 100) true,
  (env admin 1, .registerAsset (account 102) 6 rules restrictions 0 0 (some rateModel)),
  send 4 1 fun a => .deposit (account 102) a 1000,
  send 3 1 fun a => .deposit (account 101) a 1000,
  send 3 1 fun _ => .setAsCollateral (account 101) true,
  send 3 1 fun a => .borrow (account 102) a 50]

end Sample

namespace World

attribute [local instance] Pendzl.exact in
/-- The vector of `account 2` is shorter than the registry, and reaches to the first asset. -/
theorem stored_length_hidden_iff_first :
    ∃ w v, Sample.world.run Sample.lateAsset = some w
      ∧ w.pool.accountReserveDatas.get (Sample.account 2) = some v
      ∧ v.length < w.pool.assetCount
      ∧ w.pool.LengthHidden (Sample.env (Sample.account 2) 2) (Sample.account 100)
        (Sample.account 2) (Sample.account 3) 10 2 := by
  have hrun : (Sample.world.run Sample.lateAsset).map (fun w =>
        (w.pool.assetCount, w.pool.assetToId.get (Sample.account 100),
          (w.pool.accountReserveDatas.get (Sample.account 2)).map List.length))
      = some (3, some 0, some 2) := by decide +kernel
  obtain ⟨w, hw, hreach, hval⟩ :=
    run_reaches (fun _ => True) Sample.world_isInitial (by decide) hrun
  obtain ⟨hcount, hval⟩ := Prod.mk.inj hval
  obtain ⟨hk, hlen⟩ := Prod.mk.inj hval
  obtain ⟨v, hv, hlen⟩ := Option.map_eq_some_iff.mp hlen
  refine ⟨w, v, hw, hv, by omega, ?_⟩
  exact ((stored_length_hidden_iff hreach hv hk _ _ _ _).1).mpr (by omega)

attribute [local instance] Pendzl.exact in
/-- **A transfer to a vector that is too short traps.**  `account 3` gives its debt in the third
asset to `account 2`: with the vector as it is stored the transfer traps, with the padded one it
succeeds.  A deposit sent by `account 2` traps, where the padded vector gives
`InsufficientDeposit`. -/
theorem short_vector_traps :
    ∃ w v, Sample.world.run Sample.lateAsset = some w
      ∧ w.pool.accountReserveDatas.get (Sample.account 2) = some v
      ∧ v.length < w.pool.assetCount
      ∧ w.pool.accountForDebtTransferFromTo (Sample.env (Sample.account 2) 1) (Sample.account 102)
        (Sample.account 3) (Sample.account 2) 50 1 = .error .trap
      ∧ (∃ res, (w.pool.padded (Sample.account 2)).accountForDebtTransferFromTo
        (Sample.env (Sample.account 2) 1) (Sample.account 102) (Sample.account 3)
        (Sample.account 2) 50 1 = .ok res)
      ∧ w.pool.accountForDepositTransferFromTo (Sample.env (Sample.account 2) 1)
        (Sample.account 102) (Sample.account 2) (Sample.account 3) 50 1 = .error .trap
      ∧ (w.pool.padded (Sample.account 2)).accountForDepositTransferFromTo
        (Sample.env (Sample.account 2) 1) (Sample.account 102) (Sample.account 2)
        (Sample.account 3) 50 1 = .error (.err .insufficientDeposit)
      ∧ ¬ w.pool.LengthHidden (Sample.env (Sample.account 2) 1) (Sample.account 102)
        (Sample.account 2) (Sample.account 3) 50 1 := by
  have hrun : (Sample.world.run Sample.lateAsset).map (fun w =>
        (w.pool.assetCount, (w.pool.accountReserveDatas.get (Sample.account 2)).map List.length,
          failsWith .trap (w.pool.accountForDebtTransferFromTo (Sample.env (Sample.account 2) 1)
            (Sample.account 102) (Sample.account 3) (Sample.account 2) 50 1),
          ((w.pool.padded (Sample.account 2)).accountForDebtTransferFromTo
            (Sample.env (Sample.account 2) 1) (Sample.account 102) (Sample.account 3)
            (Sample.account 2) 50 1).isOk,
          failsWith .trap (w.pool.accountForDepositTransferFromTo (Sample.env (Sample.account 2) 1)
            (Sample.account 102) (Sample.account 2) (Sample.account 3) 50 1),
          failsWith (.err .insufficientDeposit)
            ((w.pool.padded (Sample.account 2)).accountForDepositTransferFromTo
              (Sample.env (Sample.account 2) 1) (Sample.account 102) (Sample.account 2)
              (Sample.account 3) 50 1)))
      = some (3, some 2, true, true, true, true) := by decide +kernel
  obtain ⟨w, hw, hval⟩ := Option.map_eq_some_iff.mp hrun
  obtain ⟨hcount, hval⟩ := Prod.mk.inj hval
  obtain ⟨hlen, hval⟩ := Prod.mk.inj hval
  obtain ⟨hraw, hval⟩ := Prod.mk.inj hval
  obtain ⟨hpadded, hval⟩ := Prod.mk.inj hval
  obtain ⟨hsend, hsendPadded⟩ := Prod.mk.inj hval
  obtain ⟨v, hv, hlen⟩ := Option.map_eq_some_iff.mp hlen
  have hraw := failsWith_eq_true.mp hraw
  have hpadded := isOk_eq_true.mp hpadded
  refine ⟨w, v, hw, hv, by omega, hraw, hpadded, failsWith_eq_true.mp hsend,
    failsWith_eq_true.mp hsendPadded, fun h => ?_⟩
  obtain ⟨res, hres⟩ := hpadded
  have hsame := h.debtReceiver
  rw [hraw, hres] at hsame
  cases hsame

end World

end AbaxLending
