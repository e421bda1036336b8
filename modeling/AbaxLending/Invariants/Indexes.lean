import AbaxLending.Contract.Run
import AbaxLending.Effects.Liquidation
import AbaxLending.Invariants.Bits
import AbaxLending.Invariants.Occupied
import AbaxLending.Spec.Worth

/-!
Indexes only grow, and no account gets ahead of them.

`Grounded` is the invariant of runs without transfers: both indexes of a reserve are at least
`10^18`, they were updated at most at the current time, and the applied index of every
position is either unset, on a side without amount, or between `10^18` and the index.

* `ReserveChanges.grows`: a chain of changes of a reserve never lowers its indexes;
* `Grounded.step`: what a step has to show, once for all messages;
* `indexes_grounded`: the invariant in every state of every run without transfers.
-/

namespace AbaxLending

open Outcome

/-! ### Growing indexes -/

/-- Both indexes are at least those before. -/
def ReserveIndexes.Grows (self indexes : ReserveIndexes) : Prop :=
  ∀ side : Side, side.index self ≤ side.index indexes

lemma ReserveIndexes.Grows.refl (self : ReserveIndexes) : self.Grows self := fun _ => le_rfl

lemma ReserveIndexes.Grows.trans {self mid indexes : ReserveIndexes} (h : self.Grows mid)
    (h' : mid.Grows indexes) : self.Grows indexes := fun side => (h side).trans (h' side)

lemma ReserveIndexes.update_grows [Pendzl] {self indexes : ReserveIndexes} {rd : ReserveData}
    {t : ℕ} (h : self.update rd t = .ok indexes) : self.Grows indexes := by
  intro side
  cases side with
  | deposit => exact (update_mono h).1
  | debt => exact (update_mono h).2

/-- New indexes are `10^18`. -/
lemma Side.index_new (side : Side) (t : ℕ) : E18 ≤ side.index (ReserveIndexes.new t) := by
  cases side with
  | deposit => rw [Side.index_deposit, ReserveIndexes.new]
  | debt => rw [Side.index_debt, ReserveIndexes.new]

/-- The applied indexes of a position were taken from indexes up to the given ones. -/
structure AccountReserveData.Grounded (indexes : ReserveIndexes) (data : AccountReserveData) :
    Prop extends data.UpTo indexes where
  floor : ∀ side : Side, side.applied data = 0 ∨ E18 ≤ side.applied data

namespace AccountReserveData

variable {self : AccountReserveData} {indexes indexes' : ReserveIndexes}

lemma grounded_default (indexes : ReserveIndexes) : Grounded indexes default :=
  ⟨upTo_default indexes, fun side => .inl (by cases side <;> rfl)⟩

lemma UpTo.grows (h : self.UpTo indexes) (hg : indexes.Grows indexes') : self.UpTo indexes' :=
  ⟨fun side => (h.le side).trans (hg side), h.zero⟩

lemma Grounded.grows (h : self.Grounded indexes) (hg : indexes.Grows indexes') :
    self.Grounded indexes' := ⟨h.toUpTo.grows hg, h.floor⟩

/-- A position that has caught up with grounded indexes is grounded. -/
lemma CaughtUp.grounded (h : self.CaughtUp indexes)
    (hfloor : ∀ side : Side, E18 ≤ side.index indexes) : self.Grounded indexes := by
  refine ⟨h.upTo fun side => ?_, fun side => .inr ?_⟩
  · exact lt_of_lt_of_le (by norm_num) (hfloor side)
  · rw [h side]
    exact hfloor side

/-- Writing amounts only keeps a position caught up. -/
lemma CaughtUp.congr {data : AccountReserveData} (h : self.CaughtUp indexes)
    (hd : data.appliedDepositIndexE18 = self.appliedDepositIndexE18)
    (hb : data.appliedDebtIndexE18 = self.appliedDebtIndexE18) : data.CaughtUp indexes := by
  intro side
  rw [← h side]
  cases side with
  | deposit => exact hd
  | debt => exact hb

end AccountReserveData

namespace ReserveDataContext

variable [Pendzl] {ctx : ReserveDataContext} {data : AccountReserveData} {config : AccountConfig}
  {feeReductions : FeeReductions} {amount : ℕ} {canMutateAmount : Bool} {st : Step}

lemma accountForDeposit_caughtUp (hdata : data.UpTo ctx.reserveIndexesAndFees.indexes)
    (h : ctx.accountForDeposit data config feeReductions amount = .ok st) :
    st.data.CaughtUp ctx.reserveIndexesAndFees.indexes := by
  obtain ⟨a, ha, -, -, -, -, rfl⟩ := accountForDeposit_ok h
  exact (AccountReserveData.accumulateAccountInterest_applied hdata ha).congr rfl rfl

lemma accountForWithdraw_caughtUp (hdata : data.UpTo ctx.reserveIndexesAndFees.indexes)
    (h : ctx.accountForWithdraw data config feeReductions amount canMutateAmount = .ok st) :
    st.data.CaughtUp ctx.reserveIndexesAndFees.indexes := by
  obtain ⟨a, n, ha, -, -, -, -, -, -, rfl⟩ := accountForWithdraw_ok h
  exact (AccountReserveData.accumulateAccountInterest_applied hdata ha).congr rfl rfl

lemma accountForRepay_caughtUp (hdata : data.UpTo ctx.reserveIndexesAndFees.indexes)
    (h : ctx.accountForRepay data config feeReductions amount canMutateAmount = .ok st) :
    st.data.CaughtUp ctx.reserveIndexesAndFees.indexes := by
  obtain ⟨a, n, ha, -, -, -, -, -, -, -, rfl⟩ := accountForRepay_ok h
  exact (AccountReserveData.accumulateAccountInterest_applied hdata ha).congr rfl rfl

end ReserveDataContext

/-- A basic step leaves a position that has caught up. -/
lemma Action.step_caughtUp [Pendzl] {action : Action} {ctx : ReserveDataContext}
    {data : AccountReserveData} {config : AccountConfig} {feeReductions : FeeReductions} {st : Step}
    (hdata : data.UpTo ctx.reserveIndexesAndFees.indexes)
    (h : action.step ctx data config feeReductions = .ok st) :
    st.data.CaughtUp ctx.reserveIndexesAndFees.indexes
      ∧ st.ctx.reserveIndexesAndFees.indexes = ctx.reserveIndexesAndFees.indexes := by
  obtain ⟨a, ha, -, -, hd, hb, hreserve⟩ := Action.step_settles h
  refine ⟨(AccountReserveData.accumulateAccountInterest_applied hdata ha).congr hd hb, ?_⟩
  rw [hreserve]

namespace LendingPoolStorage

variable {s s' : LendingPoolStorage} {k t t' : ℕ}

/-! ### The invariant -/

/-- Every index is grounded at a time, and so is every position. -/
structure Grounded (s : LendingPoolStorage) (t : ℕ) : Prop where
  floor : ∀ k r, s.reserveIndexesAndFees.get k = some r → ∀ side : Side, E18 ≤ side.index r.indexes
  time : ∀ k r, s.reserveIndexesAndFees.get k = some r → r.indexes.updateTimestamp ≤ t
  positions : ∀ k r, s.reserveIndexesAndFees.get k = some r →
    ∀ a, (s.position a k).Grounded r.indexes
  vacant : ∀ k, s.reserveIndexesAndFees.get k = none → ∀ a, s.entry a k = none

lemma Grounded.new (t : ℕ) : Grounded LendingPoolStorage.new t where
  floor k r h := by cases h
  time k r h := by cases h
  positions k r h := by cases h
  vacant k _ a := rfl

/-- What happens to the indexes of a reserve at a time. -/
def GrowsAt (k t : ℕ) (s s' : LendingPoolStorage) : Prop :=
  ∀ r', s'.reserveIndexesAndFees.get k = some r' → ∃ r, s.reserveIndexesAndFees.get k = some r
    ∧ r.indexes.Grows r'.indexes
    ∧ (r'.indexes.updateTimestamp = r.indexes.updateTimestamp ∨ r'.indexes.updateTimestamp = t)

lemma GrowsAt.trans {s'' : LendingPoolStorage} (h : GrowsAt k t s s') (h' : GrowsAt k t s' s'') :
    GrowsAt k t s s'' := by
  intro r'' hr''
  obtain ⟨r', hr', hgrow', htime'⟩ := h' r'' hr''
  obtain ⟨r, hr, hgrow, htime⟩ := h r' hr'
  refine ⟨r, hr, hgrow.trans hgrow', ?_⟩
  rcases htime' with heq | heq
  · rw [heq]
    exact htime
  · exact .inr heq

/-- Indexes that are kept grow. -/
lemma GrowsAt.of_indexes
    (h : (s'.reserveIndexesAndFees.get k).map ReserveIndexesAndFees.indexes
      = (s.reserveIndexesAndFees.get k).map ReserveIndexesAndFees.indexes) : GrowsAt k t s s' := by
  intro r' hr'
  rw [hr', Option.map_some, eq_comm, Option.map_eq_some_iff] at h
  obtain ⟨r, hr, heq⟩ := h
  exact ⟨r, hr, heq ▸ .refl _, .inl (by rw [heq])⟩

/-- **What a step has to show**: the indexes grow, and each position stays or has caught up. -/
lemma Grounded.step (h : s.Grounded t) (hle : t ≤ t') (hgrow : ∀ k, GrowsAt k t' s s')
    (hposition : ∀ k r', s'.reserveIndexesAndFees.get k = some r' → ∀ a,
      s'.position a k = s.position a k ∨ (s'.position a k).CaughtUp r'.indexes)
    (hvacant : ∀ k, s'.reserveIndexesAndFees.get k = none → ∀ a, s'.entry a k = none) :
    s'.Grounded t' := by
  have hfloor : ∀ k r', s'.reserveIndexesAndFees.get k = some r' →
      ∀ side : Side, E18 ≤ side.index r'.indexes := by
    intro k r' hr' side
    obtain ⟨r, hr, hg, -⟩ := hgrow k r' hr'
    exact (h.floor k r hr side).trans (hg side)
  refine ⟨hfloor, fun k r' hr' => ?_, fun k r' hr' a => ?_, hvacant⟩
  · obtain ⟨r, hr, -, htime⟩ := hgrow k r' hr'
    have := h.time k r hr
    omega
  · rcases hposition k r' hr' a with heq | hcaught
    · obtain ⟨r, hr, hg, -⟩ := hgrow k r' hr'
      rw [heq]
      exact (h.positions k r hr a).grows hg
    · exact hcaught.grounded (hfloor k r' hr')

/-- A position is grounded in the context in which its reserve is opened. -/
lemma Grounded.opened [Pendzl] {ctx : ReserveDataContext} (h : s.Grounded t)
    (hopen : s.Opened k t' ctx) (a : AccountId) :
    (s.position a k).Grounded ctx.reserveIndexesAndFees.indexes := by
  obtain ⟨r, hr, hup, -⟩ := hopen.indexes
  exact (h.positions k r hr a).grows (ReserveIndexes.update_grows hup)

section

variable [Pendzl] {message : Message}

/-- A change of a reserve never lowers its indexes. -/
lemma ReserveChange.grows (h : ReserveChange message k t s s') : GrowsAt k t s s' := by
  cases h with
  | keep hk => exact .of_indexes hk.indexes
  | visit hv =>
      intro r' hr'
      cases hv.indexesAndFees'.symm.trans hr'
      refine ⟨_, hv.indexesAndFees, ?_⟩
      rcases hv.indexes with heq | hup
      · exact ⟨heq ▸ .refl _, .inl (by rw [heq])⟩
      · exact ⟨ReserveIndexes.update_grows hup, .inr (ReserveIndexes.update_timestamp hup)⟩
  | switch _ _ _ _ hs => exact .of_indexes (by rw [hs]; rfl)
  | freeze _ _ _ _ hs => exact .of_indexes (by rw [hs]; rfl)

/-- **A chain of changes of a reserve never lowers its indexes.** -/
lemma ReserveChanges.grows (h : ReserveChanges message k t s s') : GrowsAt k t s s' := by
  induction h with
  | refl => exact .of_indexes rfl
  | tail _ hlast ih => exact ih.trans hlast.grows

end

/-! ### The messages -/

variable [Pendzl]

/-- One action of an account. -/
lemma Grounded.applyAction {st st' : AccountActionsState} {account : AccountId}
    {feeReductions : FeeReductions} {action action' : Action} {interests : ℕ × ℕ}
    (h : (st.flush account).Grounded t)
    (hact : st.applyAction feeReductions t action = .ok (st', action', interests)) :
    (st'.flush account).Grounded t := by
  obtain ⟨k, ctx, res, rd, i, e, hk, hlen, hopen, hstep, -, -, -, hst'⟩ :=
    AccountActionsState.applyAction_ok hact
  have hopen' : (st.flush account).Opened k t ctx :=
    ⟨hopen.assetId, hopen.reserveData, hopen.restrictions, hopen.indexes⟩
  have hself : (st.flush account).position account k = st.position k :=
    AccountActionsState.flush_position_self ..
  obtain ⟨hcaught, hindexes⟩ :=
    Action.step_caughtUp (hself ▸ (h.opened hopen' account).toUpTo) hstep
  have hposition : ∀ j a, (st'.flush account).position a j
      = if a = account ∧ j = k then res.data else (st.flush account).position a j :=
    fun j a => AccountActionsState.flush_position_set hlen (hst' ▸ rfl) (hst' ▸ rfl) a j
  have hentry : ∀ a j, (st'.flush account).entry a j
      = if a = account ∧ j = k then some res.data else (st.flush account).entry a j :=
    AccountActionsState.flush_entry_set hlen (hst' ▸ rfl) (hst' ▸ rfl)
  have hget : ∀ j, (st'.flush account).reserveIndexesAndFees.get j
      = if j = k then some res.ctx.reserveIndexesAndFees
        else (st.flush account).reserveIndexesAndFees.get j := by
    intro j
    rw [hst']
    exact Mapping.get_insert ..
  refine h.step le_rfl (fun j => ?_) (fun j r' hr' a => ?_) (fun j hnone a => ?_)
  · have hchange := (applyAction_visit hact (.approve account account 0) j).grows
    exact hchange
  · rw [hposition]
    rw [hget] at hr'
    by_cases hc : a = account ∧ j = k
    · rw [if_pos hc.2, Option.some.injEq] at hr'
      rw [if_pos hc, ← hr', hindexes]
      exact .inr hcaught
    · rw [if_neg hc]
      exact .inl rfl
  · rw [hget] at hnone
    split_ifs at hnone with hjk
    rw [hentry, if_neg fun hc => hjk hc.2]
    exact h.vacant j hnone a

/-- The actions of an account. -/
lemma Grounded.accountForAccountActions {env : Env} {account : AccountId} {actions : List Action}
    {res : AccountActionsResult} (h : s.Grounded t) (hle : t ≤ env.blockTimestamp)
    (hres : s.accountForAccountActions env account actions = .ok res) :
    res.storage.Grounded env.blockTimestamp := by
  obtain ⟨st, hst, -, hs⟩ := accountForAccountActions_ok hres
  have hstart : ((s.startActions account).flush account).Grounded env.blockTimestamp := by
    refine h.step hle (fun j => .of_indexes rfl) (fun j r' _ a => .inl ?_) (fun j hnone a => ?_)
    · exact startActions_flush_position account a j
    · rw [startActions_entry]
      exact h.vacant j hnone a
  rw [hs]
  exact AccountActionsState.applyActions_induct
    (P := fun st => (st.flush account).Grounded env.blockTimestamp)
    (fun _ _ _ _ _ hst hact => hst.applyAction hact) hst hstart

/-- A liquidation, also of an account by itself. -/
lemma Grounded.accountForLiquidate {env : Env} {caller liquidated toRepay toTake : AccountId}
    {amount : ℕ} {res : LiquidateResult} (h : s.Grounded t) (hle : t ≤ t')
    (hres : s.accountForLiquidate env caller liquidated toRepay toTake amount t' = .ok res) :
    res.storage.Grounded t' := by
  have hgrow : ∀ j, GrowsAt j t' s res.storage := fun j =>
    (accountForLiquidate_changes hres (.approve caller caller 0) j).grows
  obtain ⟨r, rfl⟩ := accountForLiquidate_ok hres
  obtain ⟨ctx₀, hopen, hsame, hindexes, -, -⟩ := r.opens
  obtain ⟨rd, i, e, -, hmid⟩ := r.mid_eq
  have hget : ∀ j, r.written.reserveIndexesAndFees.get j
      = if j = r.k then some r.second.ctx.reserveIndexesAndFees
        else if j = r.repayId then some r.paid.ctx.reserveIndexesAndFees
        else s.reserveIndexesAndFees.get j := by
    intro j
    have hwritten : r.written.reserveIndexesAndFees
        = r.mid.reserveIndexesAndFees.insert r.k r.second.ctx.reserveIndexesAndFees := rfl
    rw [hwritten, hmid, Mapping.get_insert, putReserve_reserveIndexesAndFees, Mapping.get_insert]
    rfl
  -- the copies have caught up with the indexes of their reserves
  have hpaid : r.paid.data.CaughtUp r.repayCtx.reserveIndexesAndFees.indexes := by
    refine ReserveDataContext.accountForRepay_caughtUp ?_ r.paid_ok
    rw [← r.dataToRepay_position]
    exact (h.opened r.repayOpened liquidated).toUpTo
  have hfloor : ∀ side : Side, E18 ≤ side.index ctx₀.reserveIndexesAndFees.indexes := by
    intro side
    obtain ⟨x, hx, hup, -⟩ := hopen.indexes
    exact (h.floor _ _ hx side).trans (ReserveIndexes.update_grows hup side)
  have htake : r.dataToTake.UpTo r.ctx.reserveIndexesAndFees.indexes := by
    rw [hindexes, r.dataToTake_position]
    split_ifs with hkk
    · rw [hsame hkk] at hfloor ⊢
      exact (hpaid.grounded hfloor).toUpTo
    · exact (h.opened hopen liquidated).toUpTo
  have hfirst := ReserveDataContext.accountForWithdraw_caughtUp htake r.first_ok
  have hcont := ReserveDataContext.accountForWithdraw_continues r.first_ok
  have hcont' := ReserveDataContext.accountForDeposit_continues r.second_ok
  have hsecond : r.second.data.CaughtUp r.first.ctx.reserveIndexesAndFees.indexes := by
    refine ReserveDataContext.accountForDeposit_caughtUp ?_ r.second_ok
    rw [hcont.indexes, hindexes]
    exact (h.opened hopen caller).toUpTo
  have hrepay := (ReserveDataContext.accountForRepay_continues r.paid_ok).indexes
  refine h.step hle hgrow (fun j r' hr' a => ?_) (fun j hnone a => ?_)
  · rw [hget] at hr'
    by_cases hac : a = caller
    · rw [hac, position, position, r.entry_caller]
      split_ifs at hr' ⊢ with hjk
      · simp only [Option.some.injEq] at hr'
        rw [← hr', hcont'.indexes]
        exact .inr hsecond
      · exact .inl rfl
      · exact .inl rfl
    · by_cases hal : a = liquidated
      · subst hal
        rw [position, position, r.entry_liquidated hac]
        split_ifs at hr' ⊢ with hjk hjr
        · simp only [Option.some.injEq] at hr'
          rw [← hr', hcont'.indexes, hcont.indexes]
          exact .inr hfirst
        · simp only [Option.some.injEq] at hr'
          rw [← hr', hrepay]
          exact .inr hpaid
        · exact .inl rfl
      · rw [position, position, r.entry_of_ne hac hal]
        exact .inl rfl
  · rw [hget] at hnone
    split_ifs at hnone with hjk hjr
    have hentry := h.vacant j hnone a
    by_cases hac : a = caller
    · rw [hac, r.entry_caller, if_neg hjk, ← hac, hentry]
    · by_cases hal : a = liquidated
      · subst hal
        rw [r.entry_liquidated hac, if_neg hjk, if_neg hjr, hentry]
      · rw [r.entry_of_ne hac hal, hentry]

omit [Pendzl] in
/-- The registration of an asset. -/
lemma Grounded.opens {asset : AccountId} (h : s.Grounded t) (hle : t ≤ t') (hocc : s.Occupied)
    (hr : Registers s s' asset) (ho : OpensReserve t' s s') : s'.Grounded t' := by
  obtain ⟨fees, hfees⟩ := ho.indexes
  have hposition : s'.position = s.position := position_congr hr.accountReserveDatas
  have hentry : s'.entry = s.entry := entry_congr hr.accountReserveDatas
  -- the new reserve has indexes of `10^18` and no positions; the others stay
  have hcases : ∀ k r', s'.reserveIndexesAndFees.get k = some r' →
      (k = s.assetCount ∧ r'.indexes = .new t')
        ∨ ∃ r, s.reserveIndexesAndFees.get k = some r ∧ r'.indexes = r.indexes := by
    intro k r' hr'
    by_cases hk : k = s.assetCount
    · subst hk
      cases hfees.symm.trans hr'
      exact .inl ⟨rfl, rfl⟩
    · have hkeep := (ho.others k hk).indexes
      rw [hr', Option.map_some, eq_comm, Option.map_eq_some_iff] at hkeep
      obtain ⟨r, hrk, heq⟩ := hkeep
      exact .inr ⟨r, hrk, heq.symm⟩
  refine ⟨fun k r' hr' side => ?_, fun k r' hr' => ?_, fun k r' hr' a => ?_, fun k hnone a => ?_⟩
  · rcases hcases k r' hr' with ⟨-, hnew⟩ | ⟨r, hrk, heq⟩
    · rw [hnew]
      exact side.index_new t'
    · rw [heq]
      exact h.floor k r hrk side
  · rcases hcases k r' hr' with ⟨-, hnew⟩ | ⟨r, hrk, heq⟩
    · rw [hnew]
      exact le_rfl
    · rw [heq]
      exact (h.time k r hrk).trans hle
  · rw [hposition]
    rcases hcases k r' hr' with ⟨hk, -⟩ | ⟨r, hrk, heq⟩
    · rw [position, hk, h.vacant _ hocc.next.2 a]
      exact AccountReserveData.grounded_default _
    · rw [heq]
      exact h.positions k r hrk a
  · rw [hentry]
    by_cases hk : k = s.assetCount
    · rw [hk, hfees] at hnone
      cases hnone
    · have hkeep := (ho.others k hk).isSome.2
      rw [hnone] at hkeep
      exact h.vacant k (Option.not_isSome_iff_eq_none.mp (by rw [← hkeep]; simp)) a

end LendingPoolStorage

namespace World

section

variable [Pendzl] {w w' : World} {env : Env} {message : Message} {t : ℕ}

/-- A message does not lower the indexes of a reserve. -/
lemma execute_growsAt {k : ℕ} {r : ReserveIndexesAndFees} (hocc : w.pool.Occupied)
    (hex : w.execute env message = .ok w') (hr : w.pool.reserveIndexesAndFees.get k = some r) :
    ∃ r', w'.pool.reserveIndexesAndFees.get k = some r'
      ∧ ∀ side : Side, side.index r.indexes ≤ side.index r'.indexes := by
  cases hm : message.registers with
  | some asset =>
      obtain ⟨-, ho⟩ := execute_registers hex hm
      have hk : k ≠ w.pool.assetCount := by
        rintro rfl
        rw [hocc.next.2] at hr
        cases hr
      have hkeep := (ho.others k hk).indexes
      rw [hr, Option.map_some, Option.map_eq_some_iff] at hkeep
      obtain ⟨r', hr', heq⟩ := hkeep
      exact ⟨r', hr', fun side => by rw [heq]⟩
  | none =>
      have hchanges := execute_changes hex hm k
      have hsome := hchanges.isSome.2.1
      rw [hr, Option.isSome_some, Option.isSome_iff_exists] at hsome
      obtain ⟨r', hr'⟩ := hsome
      obtain ⟨r₀, hr₀, hgrow, -⟩ := hchanges.grows r' hr'
      cases hr.symm.trans hr₀
      exact ⟨r', hr', hgrow⟩

/-- The step lemma of the indexes. -/
lemma execute_grounded (hocc : w.pool.Occupied) (h : w.pool.Grounded t)
    (hle : t ≤ env.blockTimestamp) (hkind : NoTransfer message)
    (hex : w.execute env message = .ok w') : w'.pool.Grounded env.blockTimestamp := by
  cases execute_change hex with
  | actions account actions res _ hres hs => exact hs ▸ h.accountForAccountActions hle hres
  | liquidate liquidated assetToRepay assetToTake amount res _ hres hs =>
      exact hs ▸ h.accountForLiquidate hle hres
  | register asset hm _ =>
      obtain ⟨hr, ho⟩ := execute_registers hex hm
      exact h.opens hle hocc hr ho
  | quiet hk =>
      cases hm : message.registers with
      | some asset =>
          obtain ⟨hr, ho⟩ := execute_registers hex hm
          exact h.opens hle hocc hr ho
      | none =>
          have hchanges := execute_changes hex hm
          refine h.step hle (fun k => (hchanges k).grows) (fun k r' _ a => .inl ?_)
            (fun k hnone a => ?_)
          · rw [LendingPoolStorage.position_congr hk.accountReserveDatas]
          · rw [LendingPoolStorage.entry_congr hk.accountReserveDatas]
            have hsome := (hchanges k).isSome.2.1
            rw [hnone] at hsome
            exact h.vacant k (Option.not_isSome_iff_eq_none.mp (by rw [← hsome]; simp)) a
  | move _ _ _ _ _ hm => exact absurd hm (by simp [show message.isTransfer = false from hkind])

/-- The run lemma of the indexes. -/
lemma reachable_grounded (h : Reachable NoTransfer t w) : w.pool.Grounded t := by
  have hboth : w.pool.Occupied ∧ w.pool.Grounded t := by
    refine TimedRun.Reach.invariant_timed (P := fun t w => w.pool.Occupied ∧ w.pool.Grounded t)
      (fun t w hw => ?_) (fun t t' w w' hP hle hstep => ?_) h
    · rw [hw.1]
      exact ⟨.new, .new t⟩
    · obtain ⟨env, message, rfl, hkind, hex⟩ := hstep
      exact ⟨execute_occupied hP.1 hex, execute_grounded hP.1 hP.2 hle hkind hex⟩
  exact hboth.2

/-- **Indexes only grow and accounts never get ahead of them.**  In every state of a run
without transfers both indexes of a registered asset are at least `10^18`, they were updated
at most at the current time, the next message does not lower them, and an amount that is not
zero has an applied index between `10^18` and the index. -/
theorem indexes_grounded {asset : AccountId} {k : ℕ} (h : Reachable NoTransfer t w)
    (hk : w.pool.assetToId.get asset = some k) :
    ∃ r, w.pool.reserveIndexesAndFees.get k = some r
      ∧ (∀ side : Side, 10 ^ 18 ≤ side.index r.indexes)
      ∧ r.indexes.updateTimestamp ≤ t
      ∧ (∀ t' w', t ≤ t' → Step NoTransfer t' w w' →
          ∃ r', w'.pool.reserveIndexesAndFees.get k = some r'
            ∧ ∀ side : Side, side.index r.indexes ≤ side.index r'.indexes)
      ∧ ∀ a, ∀ side : Side, side.amount (w.pool.position a k) ≠ 0 →
          10 ^ 18 ≤ side.applied (w.pool.position a k)
          ∧ side.applied (w.pool.position a k) ≤ side.index r.indexes := by
  have hocc := reachable_occupied h
  have hgrounded := reachable_grounded h
  obtain ⟨rd, r, hrd, hr⟩ := hocc.reserve (reachable_linked h).ids hk
  refine ⟨r, hr, hgrounded.floor k r hr, hgrounded.time k r hr, fun t' w' hle hstep => ?_,
    fun a side hne => ?_⟩
  · obtain ⟨env, message, rfl, hkind, hex⟩ := hstep
    exact execute_growsAt hocc hex hr
  · have hposition := hgrounded.positions k r hr a
    rcases hposition.floor side with hzero | hfloor
    · exact absurd (hposition.zero side hzero) hne
    · exact ⟨hfloor, hposition.le side⟩

end

attribute [local instance] Pendzl.exact in
/-- The debt of `account 3` in the sample pool has an applied index. -/
theorem indexes_grounded_borrower :
    ∃ w r, Sample.world.run Sample.borrower = some w
      ∧ w.pool.reserveIndexesAndFees.get 0 = some r
      ∧ (w.pool.position (Sample.account 3) 0).debt = 250
      ∧ 10 ^ 18 ≤ (w.pool.position (Sample.account 3) 0).appliedDebtIndexE18
      ∧ (w.pool.position (Sample.account 3) 0).appliedDebtIndexE18 ≤ r.indexes.debtIndexE18 := by
  have hrun : (Sample.world.run Sample.borrower).map (fun w =>
        (w.pool.assetToId.get (Sample.account 100), (w.pool.position (Sample.account 3) 0).debt))
      = some (some 0, 250) := by decide +kernel
  obtain ⟨w, hw, hreach, hv⟩ :=
    run_reaches NoTransfer Sample.world_isInitial (by decide) hrun
  obtain ⟨hk, hdebt⟩ := Prod.mk.inj hv
  obtain ⟨r, hr, -, -, -, hpositions⟩ := indexes_grounded hreach hk
  have hne : Side.debt.amount (w.pool.position (Sample.account 3) 0) ≠ 0 := by
    rw [Side.amount, hdebt]
    norm_num
  obtain ⟨hfloor, hle⟩ := hpositions (Sample.account 3) .debt hne
  exact ⟨w, r, hw, hr, hdebt, hfloor, hle⟩

end World

end AbaxLending
