import AbaxLending.Contract.Views
import AbaxLending.Effects.Credits
import AbaxLending.Effects.Governance
import AbaxLending.Invariants.Listing

/-!
The views show what is there.

* `viewEach_eq_ok`: a bulk view returns when every single one does, with their results;
* `complete_views_show_settings`: after every run the complete view of an asset shows what was
  decided for it, and it traps for an asset that was not registered;
* `pokes_keep_views`: pokes do not change what is brought to the time of the call.
-/

namespace AbaxLending

open Outcome LendingPoolView

namespace BalanceViewer

variable {s : LendingPoolStorage} {env : Env} {assets : Option (List AccountId)} {α : Type}
  {view : AccountId → Res α}

/-- **What a bulk view returns**: for every asset the result of its view. -/
lemma viewEach_eq_ok {rows : List (AccountId × α)} :
    viewEach s view assets = .ok rows ↔ ∃ listed, assetsToView s assets = .ok listed
      ∧ List.Forall₂ (fun asset row => row.1 = asset ∧ view asset = .ok row.2) listed rows := by
  have hrow : ∀ asset row, (do let result ← view asset; return (asset, result) : Res _) = .ok row
      ↔ row.1 = asset ∧ view asset = .ok row.2 := by
    intro asset row
    simp only [bind_eq_ok, pure_eq, Except.ok.injEq]
    constructor
    · rintro ⟨result, hresult, rfl⟩
      exact ⟨rfl, hresult⟩
    · rintro ⟨rfl, hresult⟩
      exact ⟨row.2, hresult, rfl⟩
  simp only [viewEach, bind_eq_ok, mapM_eq_ok_iff, hrow]

/-- When a bulk view returns. -/
lemma viewEach_returns_iff {listed : List AccountId}
    (hlisted : assetsToView s assets = .ok listed) :
    (∃ rows, viewEach s view assets = .ok rows) ↔ ∀ asset ∈ listed, ∃ a, view asset = .ok a := by
  constructor
  · rintro ⟨rows, hrows⟩ asset hasset
    obtain ⟨listed', hlisted', hforall⟩ := viewEach_eq_ok.mp hrows
    cases hlisted.symm.trans hlisted'
    obtain ⟨n, hn, rfl⟩ := List.mem_iff_getElem.mp hasset
    obtain ⟨hlength, hget⟩ := List.forall₂_iff_get.mp hforall
    exact ⟨_, (hget n hn (hlength ▸ hn)).2⟩
  · intro hall
    have hrows : ∀ asset ∈ listed,
        ∃ row, (do let result ← view asset; return (asset, result) : Res _) = .ok row := by
      intro asset hasset
      obtain ⟨a, ha⟩ := hall asset hasset
      exact ⟨(asset, a), by rw [ha]; rfl⟩
    obtain ⟨rows, hrows⟩ := exists_mapM_eq_ok hrows
    exact ⟨rows, by rw [viewEach, hlisted]; exact hrows⟩

/-- The assets that were decided on are those that a bulk view goes through on its own. -/
lemma assetsToView_eq {σ : Settings} (h : σ.Describes s) (assets : Option (List AccountId)) :
    assetsToView s assets = .ok (assets.getD σ.assets) := by
  cases assets with
  | some assets => rfl
  | none =>
      show (List.range s.assetCount).mapM (fun u => unwrap (s.idToAsset.get u)) = .ok σ.assets
      rw [mapM_eq_ok_iff, List.forall₂_iff_get]
      refine ⟨by rw [List.length_range, h.assets.next], fun n hn hn' => ?_⟩
      rw [unwrap_eq_ok, List.get_eq_getElem, List.getElem_range, h.assets.element,
        List.getElem?_eq_getElem hn']
      rfl

variable [Pendzl]

/-- **What the complete view of an asset returns**: an asset that is not registered traps, and
so do indexes that cannot be brought to the time of the call. -/
lemma viewCompleteReserveData_eq_ok {asset : AccountId} {c : CompleteReserveData} :
    viewCompleteReserveData s env asset = .ok c
      ↔ ∃ k rd r indexes, s.assetToId.get asset = some k ∧ s.reserveDatas.get k = some rd
        ∧ s.reserveIndexesAndFees.get k = some r
        ∧ r.indexes.update rd env.blockTimestamp = .ok indexes
        ∧ c = {
          data := some rd
          indexes := some indexes
          interestRateModel := s.interestRateModel.get k
          fees := some r.fees
          restriction := s.reserveRestrictions.get k
          decimalMultiplier := s.reserveDecimalMultiplier.get k
          tokens := s.reserveAbacusTokens.get asset } := by
  cases hk : s.assetToId.get asset with
  | none =>
      simp [viewCompleteReserveData, viewReserveIndexes, viewReserveFees,
        viewReserveDecimalMultiplier, hk]
  | some k =>
      simp only [viewCompleteReserveData, viewReserveData, viewReserveIndexes,
        viewInterestRateModel, viewReserveFees, viewReserveRestrictions,
        viewReserveDecimalMultiplier, viewReserveTokens, hk, LendingPoolStorage.getReserveData,
        LendingPoolStorage.getReserveIndexesAndFees, Option.bind_some, bind_eq_ok, unwrap_eq_ok,
        unwrapOk_eq_ok, pure_eq, Except.ok.injEq, Option.some.injEq]
      constructor
      · rintro ⟨_, ⟨rd, hrd, r, hr, indexes, hup, rfl⟩, _, ⟨r', hr', rfl⟩, _, ⟨_, rfl, rfl⟩, rfl⟩
        cases hr.symm.trans hr'
        exact ⟨k, rd, r, indexes, rfl, hrd, hr, hup, by rw [hrd]⟩
      · rintro ⟨k', rd, r, indexes, rfl, hrd, hr, hup, rfl⟩
        exact ⟨_, ⟨rd, hrd, r, hr, indexes, hup, rfl⟩, _, ⟨r, hr, rfl⟩, _, ⟨k, rfl, rfl⟩,
          by rw [hrd]⟩

/-- The indexes of an asset can be brought to the time of the call. -/
lemma viewReserveIndexes_eq_some {asset : AccountId} {indexes : ReserveIndexes} :
    viewReserveIndexes s env asset = .ok (some indexes)
      ↔ ∃ k rd r, s.assetToId.get asset = some k ∧ s.reserveDatas.get k = some rd
        ∧ s.reserveIndexesAndFees.get k = some r
        ∧ r.indexes.update rd env.blockTimestamp = .ok indexes := by
  cases hk : s.assetToId.get asset with
  | none => simp [viewReserveIndexes, hk]
  | some k =>
      simp only [viewReserveIndexes, hk, LendingPoolStorage.getReserveData,
        LendingPoolStorage.getReserveIndexesAndFees, bind_eq_ok, unwrap_eq_ok, unwrapOk_eq_ok,
        pure_eq, Except.ok.injEq, Option.some.injEq]
      constructor
      · rintro ⟨rd, hrd, r, hr, _, hup, rfl⟩
        exact ⟨k, rd, r, rfl, hrd, hr, hup⟩
      · rintro ⟨_, rd, r, rfl, hrd, hr, hup⟩
        exact ⟨rd, hrd, r, hr, indexes, hup, rfl⟩

end BalanceViewer

/-! ### Pokes -/

namespace LendingPoolStorage

variable [Pendzl] {s s' : LendingPoolStorage} {env : Env} {asset account : AccountId} {t : ℕ}

/-- What the views read of a reserve: its indexes brought to a time, and its fees. -/
def broughtTo (s : LendingPoolStorage) (t k : ℕ) : Res (ReserveIndexes × ReserveFees) := do
  let reserveData ← s.getReserveData k
  let reserve ← s.getReserveIndexesAndFees k
  let indexes ← unwrapOk (reserve.indexes.update reserveData t)
  return (indexes, reserve.fees)

lemma broughtTo_of_get {k : ℕ} {rd : ReserveData} {r : ReserveIndexesAndFees}
    {indexes : ReserveIndexes} (hrd : s.reserveDatas.get k = some rd)
    (hr : s.reserveIndexesAndFees.get k = some r) (hup : r.indexes.update rd t = .ok indexes) :
    s.broughtTo t k = .ok (indexes, r.fees) := by
  rw [broughtTo, getReserveData, getReserveIndexesAndFees, hrd, hr]
  simp only [unwrap, ok_bind, hup, unwrapOk, pure_eq]

lemma viewReserveIndexes_eq {k : ℕ} (hk : s.assetToId.get asset = some k) :
    viewReserveIndexes s env asset
      = (s.broughtTo env.blockTimestamp k >>= fun reserve => .ok (some reserve.1)) := by
  simp only [viewReserveIndexes, hk, broughtTo, bind_assoc, pure_eq, ok_bind]

lemma viewAccountReserveData_eq {k : ℕ} (hk : s.assetToId.get asset = some k) :
    viewAccountReserveData s env asset account
      = (s.broughtTo env.blockTimestamp k >>= fun reserve =>
        unwrapOk ((s.position account k).accumulateAccountInterest reserve.1 reserve.2
          (s.getFeeReductionsOfAccount env account)) >>= fun accrual => .ok accrual.data) := by
  simp only [viewAccountReserveData, hk, broughtTo, bind_assoc, pure_eq, ok_bind,
    getAccountReserveData_eq]

/-- The indexes that are stored are those of the time. -/
def Settled (s : LendingPoolStorage) (t k : ℕ) : Prop :=
  ∃ r, s.reserveIndexesAndFees.get k = some r ∧ s.broughtTo t k = .ok (r.indexes, r.fees)

/-- A poke changes nothing of what the views read at its time, and it settles its reserve. -/
lemma poke_broughtTo (h : s.accountForAccumulateInterest asset t = .ok s') (k : ℕ) :
    s'.broughtTo t k = s.broughtTo t k
      ∧ (s.assetToId.get asset = some k ∨ s.Settled t k → s'.Settled t k) := by
  obtain ⟨j, rd, r, indexes, rd', i, e, hj, hrd, hr, -, hup, -, hs⟩ :=
    accountForAccumulateInterest_ok h
  by_cases hk : k = j
  · subst hk
    have hrd' : s'.reserveDatas.get k = some rd' := by
      rw [hs]
      exact Mapping.get_insert_self ..
    have hr' : s'.reserveIndexesAndFees.get k = some { r with indexes } := by
      rw [hs]
      exact Mapping.get_insert_self ..
    have hown := broughtTo_of_get hrd' hr' (ReserveIndexes.update_again hup rd')
    exact ⟨hown.trans (broughtTo_of_get hrd hr hup).symm, fun _ => ⟨_, hr', hown⟩⟩
  · have hrd' : s'.reserveDatas.get k = s.reserveDatas.get k := by
      rw [hs]
      exact Mapping.get_insert_of_ne _ hk _
    have hr' : s'.reserveIndexesAndFees.get k = s.reserveIndexesAndFees.get k := by
      rw [hs]
      exact Mapping.get_insert_of_ne _ hk _
    have hsame : s'.broughtTo t k = s.broughtTo t k := by
      rw [broughtTo, broughtTo, getReserveData, getReserveIndexesAndFees, hrd', hr']
      rfl
    refine ⟨hsame, fun hcases => ?_⟩
    obtain ⟨r', hget, hbrought⟩ :=
      hcases.resolve_left fun hk' => hk (Option.some.inj (hk'.symm.trans hj))
    exact ⟨r', hr'.trans hget, hsame.trans hbrought⟩

end LendingPoolStorage

/-! ### Complete views -/

open BalanceViewer

/-- How the debt rate of an asset comes about, as the complete view shows it. -/
def CompleteReserveData.policy (self : CompleteReserveData) : Option RatePolicy :=
  match self.interestRateModel with
  | some model => some (.model model.params)
  | none => self.data.map fun rd => .fixed rd.currentDebtRateE18

namespace World

/-- The complete view of an asset shows its settings and its deployed tokens, and nothing is
missing. -/
structure ShowsReserve (w : World) (σ : Settings) (asset : AccountId) (c : CompleteReserveData) :
    Prop where
  data : c.data.isSome = true
  indexes : c.indexes.isSome = true
  fees : ∃ fees, c.fees = some fees ∧ σ.feesE6 asset = some (fees.depositFeeE6, fees.debtFeeE6)
  restriction : ∃ restriction, c.restriction = some restriction
    ∧ σ.restrictions asset = some restriction
  decimalMultiplier : ∃ multiplier, c.decimalMultiplier = some multiplier
    ∧ σ.decimalMultiplier asset = some multiplier
  policy : c.policy = σ.policy asset
  tokens : ∃ tokens, c.tokens = some tokens ∧ ∀ kind,
    (w.tokens.get (tokens.address kind)).map AbacusToken.identity = some (kind, asset)

section

variable [Pendzl] {w w' : World} {env : Env} {σ : Settings}

/-- The registry of every run, without a clock. -/
lemma run_listed {messages : List (Env × Message)} (hw : w.IsInitial)
    (h : w.run messages = some w') : w'.Linked ∧ w'.pool.Listed := by
  refine run_invariant (P := fun w => w.Linked ∧ w.pool.Listed)
    (fun env message w w' _ hP hex => ?_) h ⟨?_, ?_⟩
  · exact ⟨execute_linked hP.1 hex, execute_listed hP.2 hex⟩
  · exact reachable_linked (.start hw : Reachable (fun _ => True) 0 w)
  · rw [hw.1]
    exact .new

/-- A complete view that returns shows the settings. -/
lemma showsReserve_of_view {asset : AccountId} {c : CompleteReserveData} (hσ : σ.Describes w.pool)
    (hlinked : w.Linked) (hlisted : w.pool.Listed)
    (h : viewCompleteReserveData w.pool env asset = .ok c) : w.ShowsReserve σ asset c := by
  obtain ⟨k, rd, r, indexes, hk, hrd, hr, hup, rfl⟩ := viewCompleteReserveData_eq_ok.mp h
  have hlt : k < w.pool.assetCount := hlinked.ids.below asset k hk
  have hlookup : ∀ {β : Type} (table : ℕ → Option β),
      Numbers.lookup w.pool.assetToId table asset = table k := by
    intro β table
    rw [Numbers.lookup, hk, Option.bind_some]
  constructor
  case data => rfl
  case indexes => rfl
  case fees =>
    refine ⟨r.fees, rfl, ?_⟩
    rw [← hσ.feesE6, hlookup, LendingPoolStorage.feesE6At, hr, Option.map_some]
  case restriction =>
    obtain ⟨x, hx⟩ := Option.isSome_iff_exists.mp (hlisted.reserveRestrictions k hlt)
    refine ⟨x, hx, ?_⟩
    rw [← hσ.restrictions, hlookup, hx]
  case decimalMultiplier =>
    obtain ⟨x, hx⟩ := Option.isSome_iff_exists.mp (hlisted.reserveDecimalMultiplier k hlt)
    refine ⟨x, hx, ?_⟩
    rw [← hσ.decimalMultiplier, hlookup, hx]
  case policy =>
    rw [← hσ.policy, hlookup, LendingPoolStorage.policyAt, hrd]
    rfl
  case tokens =>
    obtain ⟨tokens, htokens⟩ := Option.isSome_iff_exists.mp (hlisted.reserveAbacusTokens asset k hk)
    exact ⟨tokens, htokens, hlinked.tokens asset tokens htokens⟩

/-- **The complete views show what was decided.**  After every run from a new pool, a bulk view
of complete reserve data, of some assets or of all registered ones, returns exactly when the
indexes of each of them can be brought to the time of the call, which traps for an asset that
is not registered.  Then it has one entry for each asset, in their order, with the restrictions,
the decimals, the fees and the rate policy that the administrators decided last, and with the
two tokens that are deployed for the asset. -/
theorem complete_views_show_settings {messages : List (Env × Message)} (hw : w.IsInitial)
    (h : w.run messages = some w') (env : Env) (assets : Option (List AccountId)) :
    ((∃ rows, viewCompleteReserveDatas w'.pool env assets = .ok rows)
        ↔ ∀ asset ∈ assets.getD (settingsOf messages).assets,
          ∃ indexes, viewReserveIndexes w'.pool env asset = .ok (some indexes))
      ∧ ∀ rows, viewCompleteReserveDatas w'.pool env assets = .ok rows →
        List.Forall₂ (fun asset row => row.1 = asset
            ∧ w'.ShowsReserve (settingsOf messages) asset row.2)
          (assets.getD (settingsOf messages).assets) rows := by
  have hσ := run_describes hw h
  obtain ⟨hlinked, hlisted⟩ := run_listed hw h
  have hassets := assetsToView_eq hσ assets
  constructor
  · rw [viewCompleteReserveDatas, viewEach_returns_iff hassets]
    refine forall₂_congr fun asset _ => ?_
    constructor
    · rintro ⟨c, hc⟩
      obtain ⟨k, rd, r, indexes, hk, hrd, hr, hup, -⟩ := viewCompleteReserveData_eq_ok.mp hc
      exact ⟨indexes, viewReserveIndexes_eq_some.mpr ⟨k, rd, r, hk, hrd, hr, hup⟩⟩
    · rintro ⟨indexes, hindexes⟩
      obtain ⟨k, rd, r, hk, hrd, hr, hup⟩ := viewReserveIndexes_eq_some.mp hindexes
      exact ⟨_, viewCompleteReserveData_eq_ok.mpr ⟨k, rd, r, indexes, hk, hrd, hr, hup, rfl⟩⟩
  · intro rows hrows
    obtain ⟨listed, hlisted', hforall⟩ := viewEach_eq_ok.mp hrows
    cases hassets.symm.trans hlisted'
    refine hforall.imp fun asset row hrow => ⟨hrow.1, ?_⟩
    exact showsReserve_of_view hσ hlinked hlisted hrow.2

/-- The messages are pokes at a time. -/
def PokesAt (t : ℕ) (messages : List (Env × Message)) : Prop :=
  ∀ m ∈ messages, m.1.blockTimestamp = t ∧ ∃ asset, m.2 = .accumulateInterest asset

/-- The run lemma of pokes. -/
lemma run_pokes {messages : List (Env × Message)} {t : ℕ} (h : w.run messages = some w')
    (hpokes : PokesAt t messages) :
    w.pool.Poked w'.pool ∧ ∀ k, w'.pool.broughtTo t k = w.pool.broughtTo t k
      ∧ ((∃ m ∈ messages, ∃ asset, m.2 = .accumulateInterest asset
        ∧ w.pool.assetToId.get asset = some k) ∨ w.pool.Settled t k → w'.pool.Settled t k) := by
  induction messages generalizing w with
  | nil =>
      simp only [run_nil, Option.some.injEq] at h
      rw [h]
      refine ⟨⟨.refl, rfl, rfl, rfl, rfl⟩, fun k => ⟨rfl, fun hk => hk.resolve_left ?_⟩⟩
      rintro ⟨m, hm, -⟩
      cases hm
  | cons head rest ih =>
      obtain ⟨env, message⟩ := head
      obtain ⟨htime, asset, hmessage⟩ := hpokes (env, message) List.mem_cons_self
      simp only at htime hmessage
      subst htime hmessage
      obtain ⟨w₁, hex, hrest⟩ := run_cons_eq_some.mp h
      have hpoke : w.pool.accountForAccumulateInterest asset env.blockTimestamp = .ok w₁.pool :=
        (execute_frame hex).1
      obtain ⟨hfirst, -⟩ := LendingPoolStorage.poke_reserves hpoke
      obtain ⟨hpoked, hlater⟩ := ih hrest fun m hm => hpokes m (List.mem_cons_of_mem _ hm)
      refine ⟨hfirst.trans hpoked, fun k => ?_⟩
      obtain ⟨hbrought, hsettled⟩ := LendingPoolStorage.poke_broughtTo hpoke k
      refine ⟨(hlater k).1.trans hbrought, fun hk => (hlater k).2 ?_⟩
      rcases hk with ⟨m, hm, asset', hasset', hid⟩ | hbefore
      · rcases List.mem_cons.mp hm with rfl | hmem
        · cases hasset'
          exact .inr (hsettled (.inl hid))
        · exact .inl ⟨m, hmem, asset', hasset', by rw [hfirst.assetToId, hid]⟩
      · exact .inr (hsettled (.inr hbefore))

/-- **Pokes do not change the views.**  After any pokes at one time, of any assets by any
callers, what the views bring to this time is what it was before: the indexes of every asset,
and every position of every account.  A view that trapped still traps.  And for each asset that
was poked, what is stored now is what the view showed before. -/
theorem pokes_keep_views {messages : List (Env × Message)} (h : w.run messages = some w')
    (hpokes : PokesAt env.blockTimestamp messages) :
    (∀ asset, viewReserveIndexes w'.pool env asset = viewReserveIndexes w.pool env asset)
      ∧ (∀ asset account, viewAccountReserveData w'.pool env asset account
        = viewAccountReserveData w.pool env asset account)
      ∧ ∀ m ∈ messages, ∀ asset, m.2 = .accumulateInterest asset →
        viewUnupdatedReserveIndexes w'.pool asset = viewReserveIndexes w.pool env asset := by
  obtain ⟨hpoked, hreserves⟩ := run_pokes h hpokes
  have hindexes : ∀ asset,
      viewReserveIndexes w'.pool env asset = viewReserveIndexes w.pool env asset := by
    intro asset
    cases hk : w.pool.assetToId.get asset with
    | none =>
        have hk' : w'.pool.assetToId.get asset = none := by rw [hpoked.assetToId, hk]
        simp only [viewReserveIndexes, hk, hk']
    | some k =>
        have hk' : w'.pool.assetToId.get asset = some k := by rw [hpoked.assetToId, hk]
        rw [LendingPoolStorage.viewReserveIndexes_eq hk,
          LendingPoolStorage.viewReserveIndexes_eq hk', (hreserves k).1]
  refine ⟨hindexes, fun asset account => ?_, fun m hm asset hasset => ?_⟩
  · cases hk : w.pool.assetToId.get asset with
    | none =>
        have hk' : w'.pool.assetToId.get asset = none := by rw [hpoked.assetToId, hk]
        simp only [viewAccountReserveData, hk, hk']
    | some k =>
        have hk' : w'.pool.assetToId.get asset = some k := by rw [hpoked.assetToId, hk]
        have hreductions : w'.pool.getFeeReductionsOfAccount env account
            = w.pool.getFeeReductionsOfAccount env account := by
          rw [LendingPoolStorage.getFeeReductionsOfAccount,
            LendingPoolStorage.getFeeReductionsOfAccount, hpoked.feeReductionProvider]
        rw [LendingPoolStorage.viewAccountReserveData_eq hk,
          LendingPoolStorage.viewAccountReserveData_eq hk', (hreserves k).1, hreductions,
          LendingPoolStorage.position_congr hpoked.accountReserveDatas]
  · rw [← hindexes]
    cases hk : w.pool.assetToId.get asset with
    | none =>
        have hk' : w'.pool.assetToId.get asset = none := by rw [hpoked.assetToId, hk]
        simp only [viewReserveIndexes, viewUnupdatedReserveIndexes, hk']
    | some k =>
        have hk' : w'.pool.assetToId.get asset = some k := by rw [hpoked.assetToId, hk]
        obtain ⟨r, hr, hbrought⟩ := (hreserves k).2 (.inl ⟨m, hm, asset, hasset, hk⟩)
        rw [LendingPoolStorage.viewReserveIndexes_eq hk', hbrought]
        simp only [viewUnupdatedReserveIndexes, hk', LendingPoolStorage.getReserveIndexesAndFees,
          hr, unwrap, ok_bind, pure_eq]

end

attribute [local instance] Pendzl.exact in
/-- The complete view of all assets of the sample pool returns, with its two assets. -/
theorem complete_views_show_settings_sample :
    ∃ w rows, Sample.world.run Sample.borrower = some w
      ∧ viewCompleteReserveDatas w.pool (Sample.env (Sample.account 5) (10 ^ 6)) none = .ok rows
      ∧ rows.length = 2
      ∧ List.Forall₂ (fun asset row => row.1 = asset
          ∧ w.ShowsReserve (settingsOf Sample.borrower) asset row.2)
        (settingsOf Sample.borrower).assets rows := by
  have hrun : (Sample.world.run Sample.borrower).bind (fun w =>
      (viewCompleteReserveDatas w.pool (Sample.env (Sample.account 5) (10 ^ 6)) none).toOption.map
        List.length) = some 2 := by decide +kernel
  obtain ⟨w, hw, hrows⟩ := Option.bind_eq_some_iff.mp hrun
  obtain ⟨rows, hrows, hlength⟩ := Option.map_eq_some_iff.mp hrows
  rw [toOption_eq_some] at hrows
  exact ⟨w, rows, hw, hrows, hlength, (complete_views_show_settings Sample.world_isInitial hw
    (Sample.env (Sample.account 5) (10 ^ 6)) none).2 rows hrows⟩

/-- Both assets of the sample pool are poked, one of them twice. -/
def threePokes : List (Env × Message) := [
  Sample.send 5 (3 * 10 ^ 10) fun _ => .accumulateInterest (Sample.account 100),
  Sample.send 6 (3 * 10 ^ 10) fun _ => .accumulateInterest (Sample.account 101),
  Sample.send 7 (3 * 10 ^ 10) fun _ => .accumulateInterest (Sample.account 100)]

attribute [local instance] Pendzl.exact in
/-- The debt of the sample borrower is shown with its interest before and after the pokes. -/
theorem pokes_keep_views_sample :
    ∃ w w', Sample.world.run Sample.borrower = some w ∧ w.run threePokes = some w'
      ∧ (viewAccountReserveData w.pool (Sample.env (Sample.account 5) (3 * 10 ^ 10))
          (Sample.account 100) (Sample.account 3)).toOption.map (·.debt) = some 254
      ∧ viewAccountReserveData w'.pool (Sample.env (Sample.account 5) (3 * 10 ^ 10))
          (Sample.account 100) (Sample.account 3)
        = viewAccountReserveData w.pool (Sample.env (Sample.account 5) (3 * 10 ^ 10))
          (Sample.account 100) (Sample.account 3) := by
  have hrun : (Sample.world.run Sample.borrower).bind (fun w => (w.run threePokes).map fun _ =>
      (viewAccountReserveData w.pool (Sample.env (Sample.account 5) (3 * 10 ^ 10))
        (Sample.account 100) (Sample.account 3)).toOption.map (·.debt)) = some (some 254) := by
    decide +kernel
  obtain ⟨w, hw, hrest⟩ := Option.bind_eq_some_iff.mp hrun
  obtain ⟨w', hw', hdebt⟩ := Option.map_eq_some_iff.mp hrest
  have hpokes : PokesAt (3 * 10 ^ 10) threePokes := by
    intro m hm
    fin_cases hm <;> exact ⟨rfl, _, rfl⟩
  exact ⟨w, w', hw, hw', hdebt, (pokes_keep_views hw' hpokes).2.1 _ _⟩

end World

end AbaxLending
