import AbaxLending.Invariants.Utilization

/-!
The search for the averaging window.

`get_tw_ur_from_shortest_period_longer_than` starts at an index that its caller guesses and
walks ahead in the ring of snapshots.

* `OrderedRing`: a ring whose snapshots get strictly older backwards from its head, which is
  what every ring of a reachable world is (`World.reachable_orderedRing`);
* `IsWindow`: the snapshot is at least the period older than the newest one, and the next one
  is not;
* `search_selects_window`: a search that returns has found the only window, whatever its
  guess was;
* `World.search_ends_iff`: the search ends after one round, unless the period is zero and the
  ring is full.
-/

namespace AbaxLending

open Outcome

/-- The average of the accumulated quantity between two snapshots: the accumulators differ
modulo `2^64`, and the quotient is rounded down. -/
def TwEntry.averageSince (newest e : TwEntry) : ℤ :=
  ((newest.accumulator : ℤ) - e.accumulator) % 2 ^ 64
    / ((newest.timestamp : ℤ) - e.timestamp)

namespace LendingPoolStorage

/-- The ring of a reserve is cyclically ordered: read backwards from its head it holds a log
whose timestamps strictly decrease. -/
structure OrderedRing (k i : ℕ) (log : List TwEntry) (s : LendingPoolStorage) : Prop where
  index : s.twUrIndexes.get k = some ⟨i⟩
  ring : RingBuffer.Holds TW_INDEX_SIZE (s.getTwUrEntry k) i log
  outside : ∀ m, TW_INDEX_SIZE ≤ m → s.getTwUrEntry k m = none
  ordered : log.Pairwise fun newer older => older.timestamp < newer.timestamp
  accumulator : ∀ e ∈ log, e.accumulator < 2 ^ 64

/-- The snapshot in a slot is at least the period older than the newest one, and the snapshot
after it is not. -/
structure IsWindow (s : LendingPoolStorage) (k period : ℕ) (newest : TwEntry) (m : ℕ)
    (e : TwEntry) : Prop where
  entry : s.getTwUrEntry k m = some e
  distance : period ≤ newest.timestamp - e.timestamp
  successor : ∃ after, s.getTwUrEntry k (TwIndex.next ⟨m⟩).value = some after
    ∧ newest.timestamp - after.timestamp < period

variable {s : LendingPoolStorage} {k i m period gas guess v : ℕ} {log : List TwEntry}
  {newest last e : TwEntry}

/-! ### The ring -/

/-- The index stays inside the ring. -/
lemma next_value_lt (index : TwIndex) : index.next.value < TW_INDEX_SIZE :=
  Nat.mod_lt _ (by norm_num)

/-- Inside the ring the next index is the next slot. -/
lemma next_value (hm : m < TW_INDEX_SIZE) : (TwIndex.next ⟨m⟩).value = (m + 1) % TW_INDEX_SIZE := by
  have hlt : m < 60 := hm
  rw [TwIndex.next, Nat.mod_eq_of_lt (a := m + 1) (b := 2 ^ 32) (by omega)]

/-- Later places of the log are not younger. -/
lemma timestamp_anti {j j' : ℕ} {newer older : TwEntry}
    (h : log.Pairwise fun newer older => older.timestamp < newer.timestamp) (hle : j ≤ j')
    (hnewer : log[j]? = some newer) (holder : log[j']? = some older) :
    older.timestamp ≤ newer.timestamp := by
  rcases hle.eq_or_lt with rfl | hlt
  · rw [Option.some.inj (hnewer.symm.trans holder)]
  · obtain ⟨hlen, rfl⟩ := List.getElem?_eq_some_iff.mp hnewer
    obtain ⟨hlen', rfl⟩ := List.getElem?_eq_some_iff.mp holder
    exact (List.pairwise_iff_getElem.mp h j j' hlen hlen' hlt).le

/-- A window is a place of the log, not the newest one, and the place before it is younger
than the period. -/
lemma OrderedRing.window (h : s.OrderedRing k i log) (hnewest : log.head? = some newest)
    (hperiod : 1 ≤ period) (hw : s.IsWindow k period newest m e) :
    ∃ j after, j + 1 < TW_INDEX_SIZE ∧ m = RingBuffer.behind TW_INDEX_SIZE i (j + 1)
      ∧ log[j + 1]? = some e ∧ log[j]? = some after
      ∧ newest.timestamp - after.timestamp < period := by
  have hm : m < TW_INDEX_SIZE := by
    by_contra hge
    have hnone := h.outside m (not_lt.mp hge)
    rw [hw.entry] at hnone
    cases hnone
  obtain ⟨j, hj, rfl⟩ := RingBuffer.exists_behind h.ring.lt hm
  have he : log[j]? = some e := (h.ring.slots j hj).symm.trans hw.entry
  obtain ⟨after, hafter, hlt⟩ := hw.successor
  cases j with
  | zero =>
      -- the newest snapshot is at no distance from itself
      have heq : newest = e := by
        rw [← List.head?_eq_getElem?, hnewest] at he
        exact Option.some.inj he
      have hdistance := hw.distance
      rw [heq, Nat.sub_self] at hdistance
      omega
  | succ j =>
      refine ⟨j, after, hj, rfl, he, ?_, hlt⟩
      rw [next_value (RingBuffer.behind_lt h.ring.lt _), RingBuffer.next_behind (by omega),
        h.ring.slots j (by omega)] at hafter
      exact hafter

/-- **There is at most one window.** -/
lemma OrderedRing.window_unique (h : s.OrderedRing k i log) (hnewest : log.head? = some newest)
    (hperiod : 1 ≤ period) {m' : ℕ} {e' : TwEntry} (hw : s.IsWindow k period newest m e)
    (hw' : s.IsWindow k period newest m' e') : m' = m ∧ e' = e := by
  obtain ⟨j, after, hj, hm, he, hafter, hlt⟩ := h.window hnewest hperiod hw
  obtain ⟨j', after', hj', hm', he', hafter', hlt'⟩ := h.window hnewest hperiod hw'
  have hdistance := hw.distance
  have hdistance' := hw'.distance
  -- a window further back would have the other one as a place before it
  have hge : j ≤ j' := by
    by_contra hlt''
    have hanti := timestamp_anti h.ordered (show j' + 1 ≤ j by omega) he' hafter
    omega
  have hle : j' ≤ j := by
    by_contra hlt''
    have hanti := timestamp_anti h.ordered (show j + 1 ≤ j' by omega) he hafter'
    omega
  have heq : j' = j := le_antisymm hle hge
  subst heq
  exact ⟨hm'.trans hm.symm, Option.some.inj (he'.symm.trans he)⟩

/-! ### What the search returns -/

/-- The loop stops before a snapshot that is younger than the period. -/
lemma searchTwIndex_ok {current current' : TwIndex} {after : TwEntry}
    (hafter : s.getTwUrEntry k current.next.value = some after)
    (h : s.searchTwIndex period k last gas current after = .ok current') :
    ∃ after', s.getTwUrEntry k current'.next.value = some after'
      ∧ last.timestamp - after'.timestamp < period := by
  induction gas generalizing current after with
  | zero => cases h
  | succ gas ih =>
      rw [searchTwIndex] at h
      split_ifs at h with hfar
      · simp only [bind_eq_ok, okOr_eq_ok] at h
        obtain ⟨after', hafter', h⟩ := h
        exact ih hafter' h
      · cases h
        exact ⟨after, hafter, not_le.mp hfar⟩

/-- The average over a window, as the code divides it. -/
lemma averageSince_eq (he : e.accumulator < 2 ^ 64) (hle : e.timestamp ≤ newest.timestamp) :
    newest.averageSince e = (((newest.accumulator + 2 ^ 64 - e.accumulator) % 2 ^ 64
      / (newest.timestamp - e.timestamp) : ℕ) : ℤ) := by
  have hnum : (((newest.accumulator + 2 ^ 64 - e.accumulator) % 2 ^ 64 : ℕ) : ℤ)
      = ((newest.accumulator : ℤ) - e.accumulator) % 2 ^ 64 := by omega
  have hden : ((newest.timestamp - e.timestamp : ℕ) : ℤ)
      = (newest.timestamp : ℤ) - e.timestamp := by omega
  rw [TwEntry.averageSince, Int.natCast_ediv, hnum, hden]

/-- A search that returns has found a window. -/
lemma OrderedRing.search_ok (h : s.OrderedRing k i log)
    (hv : s.getTwUrFromShortestPeriodLongerThan gas period k guess = .ok v) :
    ∃ newest m e, log.head? = some newest ∧ s.IsWindow k period newest m e
      ∧ v = (newest.accumulator + 2 ^ 64 - e.accumulator) % 2 ^ 64
        / (newest.timestamp - e.timestamp) := by
  simp only [getTwUrFromShortestPeriodLongerThan, bind_eq_ok, unwrap_eq_ok, okOr_eq_ok,
    failIf_eq_ok, exists_const] at hv
  obtain ⟨index, hindex, newest, hnewest, after, hafter, current, hloop, e, he, hdistance,
    -, hv⟩ := hv
  cases hindex.symm.trans h.index
  rw [h.ring.head] at hnewest
  have hw : s.IsWindow k period newest current.value e :=
    ⟨he, not_lt.mp hdistance, searchTwIndex_ok hafter hloop⟩
  exact ⟨newest, current.value, e, hnewest, hw, (tryFrom_eq_some.mp hv).1.symm⟩

/-- A search that is started at a window returns. -/
lemma OrderedRing.search_of_window (h : s.OrderedRing k i log)
    (hnewest : log.head? = some newest) (hperiod : 1 ≤ period)
    (hw : s.IsWindow k period newest m e)
    (hv : v = (newest.accumulator + 2 ^ 64 - e.accumulator) % 2 ^ 64
        / (newest.timestamp - e.timestamp)) (hfits : v < 2 ^ 32) (hgas : 0 < gas) :
    s.getTwUrFromShortestPeriodLongerThan gas period k m = .ok v := by
  obtain ⟨after, hafter, hlt⟩ := hw.successor
  have hdistance := hw.distance
  have hloop : s.searchTwIndex period k newest gas ⟨m⟩ after = .ok ⟨m⟩ := by
    cases gas with
    | zero => exact absurd hgas (lt_irrefl 0)
    | succ gas => rw [searchTwIndex, if_neg (not_le.mpr hlt)]
  simp only [getTwUrFromShortestPeriodLongerThan, bind_eq_ok, unwrap_eq_ok, okOr_eq_ok,
    failIf_eq_ok, exists_const]
  exact ⟨⟨i⟩, h.index, newest, h.ring.head.trans hnewest, after, hafter, ⟨m⟩, hloop, e,
    hw.entry, not_lt.mpr hdistance, by omega, tryFrom_eq_some.mpr ⟨hv.symm, hv ▸ hfits⟩⟩

/-- The average over the window of an ordered ring. -/
lemma OrderedRing.averageSince (h : s.OrderedRing k i log)
    (hnewest : log.head? = some newest) (hperiod : 1 ≤ period)
    (hw : s.IsWindow k period newest m e) :
    newest.averageSince e = (((newest.accumulator + 2 ^ 64 - e.accumulator) % 2 ^ 64
      / (newest.timestamp - e.timestamp) : ℕ) : ℤ) := by
  obtain ⟨j, -, -, -, he, -, -⟩ := h.window hnewest hperiod hw
  have hdistance := hw.distance
  exact averageSince_eq (h.accumulator e (List.mem_of_getElem? he)) (by omega)

/-- **The search selects the window.**  In an ordered ring and for a positive period, a
search that returns has found the only snapshot that is at least the period older than the
newest one while its successor is not, and returns the average since it.  So the guess has
no influence on the value, and the index of that snapshot is a guess that succeeds. -/
theorem search_selects_window (h : s.OrderedRing k i log) (hperiod : 1 ≤ period) :
    (∀ gas guess v, s.getTwUrFromShortestPeriodLongerThan gas period k guess = .ok v →
      ∃ newest m e, log.head? = some newest ∧ s.IsWindow k period newest m e
        ∧ (∀ m' e', s.IsWindow k period newest m' e' → m' = m ∧ e' = e)
        ∧ (v : ℤ) = newest.averageSince e)
    ∧ (∀ gas gas' guess guess' v v',
      s.getTwUrFromShortestPeriodLongerThan gas period k guess = .ok v →
      s.getTwUrFromShortestPeriodLongerThan gas' period k guess' = .ok v' → v = v')
    ∧ ∀ newest m e (v : ℕ) gas, log.head? = some newest → s.IsWindow k period newest m e →
      (v : ℤ) = newest.averageSince e → v < 2 ^ 32 → 0 < gas →
      s.getTwUrFromShortestPeriodLongerThan gas period k m = .ok v := by
  refine ⟨fun gas guess v hv => ?_, fun gas gas' guess guess' v v' hv hv' => ?_,
    fun newest m e v gas hnewest hw hv hfits hgas => ?_⟩
  · obtain ⟨newest, m, e, hnewest, hw, hv⟩ := h.search_ok hv
    refine ⟨newest, m, e, hnewest, hw, fun m' e' hw' => ?_, ?_⟩
    · exact h.window_unique hnewest hperiod hw hw'
    · rw [h.averageSince hnewest hperiod hw, hv]
  · obtain ⟨newest, m, e, hnewest, hw, hv⟩ := h.search_ok hv
    obtain ⟨newest', m', e', hnewest', hw', hv'⟩ := h.search_ok hv'
    cases hnewest.symm.trans hnewest'
    obtain ⟨-, rfl⟩ := h.window_unique hnewest hperiod hw hw'
    rw [hv, hv']
  · rw [h.averageSince hnewest hperiod hw, Nat.cast_inj] at hv
    exact h.search_of_window hnewest hperiod hw hv hfits hgas

/-! ### How long the search takes -/

/-- The search leaves its loop after at most `n` rounds: it does not run out of the gas for
them. -/
def SearchLeaves (s : LendingPoolStorage) (k period guess n : ℕ) : Prop :=
  ∀ index last after, s.twUrIndexes.get k = some index →
    s.getTwUrEntry k index.value = some last →
    s.getTwUrEntry k (TwIndex.next ⟨guess⟩).value = some after →
    s.searchTwIndex period k last (n + 1) ⟨guess⟩ after ≠ .error .trap

/-- A walk stops at the latest where there is no snapshot, or a snapshot younger than the
period. -/
lemma searchTwIndex_ne_trap {current : TwIndex} {after : TwEntry} {d : ℕ}
    (hm : m < TW_INDEX_SIZE) (hd : d < TW_INDEX_SIZE)
    (hstop : ∀ e, s.getTwUrEntry k m = some e → last.timestamp - e.timestamp < period)
    (hnext : current.next.value = RingBuffer.behind TW_INDEX_SIZE m d)
    (hafter : s.getTwUrEntry k current.next.value = some after) (hgas : d < gas) :
    s.searchTwIndex period k last gas current after ≠ .error .trap := by
  induction d generalizing gas current after with
  | zero =>
      cases gas with
      | zero => exact absurd hgas (lt_irrefl 0)
      | succ gas =>
          rw [RingBuffer.behind_zero hm] at hnext
          rw [hnext] at hafter
          rw [searchTwIndex, if_neg (not_le.mpr (hstop after hafter))]
          exact fun h => by cases h
  | succ d ih =>
      cases gas with
      | zero => exact absurd hgas (Nat.not_lt_zero _)
      | succ gas =>
          rw [searchTwIndex]
          split_ifs with hfar
          · have hstep : current.next.next.value = RingBuffer.behind TW_INDEX_SIZE m d := by
              rw [show current.next.next = TwIndex.next ⟨current.next.value⟩ from rfl,
                next_value (next_value_lt current), hnext, RingBuffer.next_behind (by omega)]
            show (okOr (s.getTwUrEntry k current.next.next.value) (.twEntryInvalidIndex 1)
              >>= s.searchTwIndex period k last gas current.next) ≠ .error .trap
            rcases hentry : s.getTwUrEntry k current.next.next.value with _ | after'
            · exact fun h => by cases h
            · show s.searchTwIndex period k last gas current.next after' ≠ .error .trap
              exact ih (by omega) hstep hentry (Nat.lt_of_succ_lt_succ hgas)
          · exact fun h => by cases h

/-- In a full ring and with no period the walk never stops. -/
lemma searchTwIndex_trap {current : TwIndex} {after : TwEntry}
    (hfull : ∀ m < TW_INDEX_SIZE, s.getTwUrEntry k m ≠ none) :
    s.searchTwIndex 0 k last gas current after = .error .trap := by
  induction gas generalizing current after with
  | zero => rfl
  | succ gas ih =>
      obtain ⟨after', hafter'⟩ :=
        Option.ne_none_iff_exists'.mp (hfull _ (next_value_lt current.next))
      rw [searchTwIndex, if_pos (Nat.zero_le _)]
      simp only [hafter', okOr]
      exact ih

/-- There the search leaves after no number of rounds, whatever its guess was. -/
lemma not_searchLeaves (hi : s.twUrIndexes.get k = some ⟨i⟩) (hlt : i < TW_INDEX_SIZE)
    (hfull : ∀ m < TW_INDEX_SIZE, s.getTwUrEntry k m ≠ none) (n : ℕ) :
    ¬ s.SearchLeaves k 0 guess n := by
  obtain ⟨last, hlast⟩ := Option.ne_none_iff_exists'.mp (hfull i hlt)
  obtain ⟨after, hafter⟩ := Option.ne_none_iff_exists'.mp (hfull _ (next_value_lt ⟨guess⟩))
  exact fun hleaves => hleaves ⟨i⟩ last after hi hlast hafter (searchTwIndex_trap hfull)

/-- **When the search ends.** -/
lemma searchLeaves_iff (hi : s.twUrIndexes.get k = some ⟨i⟩) (hlt : i < TW_INDEX_SIZE) :
    (∀ guess, s.SearchLeaves k period guess (TW_INDEX_SIZE + 1))
      ↔ period ≠ 0 ∨ ∃ m < TW_INDEX_SIZE, s.getTwUrEntry k m = none := by
  constructor
  · intro hleaves
    by_contra hnot
    push Not at hnot
    obtain ⟨rfl, hfull⟩ := hnot
    exact not_searchLeaves hi hlt hfull _ (hleaves i)
  · intro hcond guess index last after hindex hlast hafter
    cases hi.symm.trans hindex
    -- the walk stops at the newest snapshot, or at the empty slot
    obtain ⟨m, hm, hstop⟩ : ∃ m < TW_INDEX_SIZE, ∀ e, s.getTwUrEntry k m = some e →
        last.timestamp - e.timestamp < period := by
      rcases hcond with hperiod | ⟨m, hm, hnone⟩
      · refine ⟨i, hlt, fun e he => ?_⟩
        cases hlast.symm.trans he
        omega
      · refine ⟨m, hm, fun e he => ?_⟩
        rw [hnone] at he
        cases he
    obtain ⟨d, hd, hbehind⟩ := RingBuffer.exists_behind hm (next_value_lt ⟨guess⟩)
    exact searchTwIndex_ne_trap hm hd hstop hbehind.symm hafter (by omega)

/-! ### Reachable rings -/

variable [Pendzl] {s' : LendingPoolStorage} {message : Message} {t : ℕ}

/-- A snapshot is written inside the ring. -/
lemma storeUtilizationRateSnapshot_outside {rd : ReserveData} (hm : TW_INDEX_SIZE ≤ m)
    (h : s.storeUtilizationRateSnapshot k rd t = .ok s') :
    s'.getTwUrEntry k m = s.getTwUrEntry k m := by
  have hrun := h
  simp only [storeUtilizationRateSnapshot, bind_eq_ok, unwrap_eq_ok] at hrun
  obtain ⟨index, hindex, -⟩ := hrun
  rcases storeUtilizationRateSnapshot_ring h hindex with ⟨-, rfl⟩ | ⟨_, _, -, -, -, -, -, hother⟩
  · rfl
  · have hlt := next_value_lt index
    exact hother m (by omega)

/-- A change of a reserve writes inside its ring. -/
lemma ReserveChange.outside (h : ReserveChange message k t s s') (hm : TW_INDEX_SIZE ≤ m) :
    s'.getTwUrEntry k m = s.getTwUrEntry k m := by
  cases h with
  | keep hk => exact hk.entry m
  | visit hv =>
      rcases hv.ring with ⟨hring, -⟩ | ⟨s₁, hs₁, hring⟩
      · exact hring.entry m
      · rw [hring.entry m, storeUtilizationRateSnapshot_outside hm hs₁]
  | switch _ _ _ _ hs => rw [hs]; rfl
  | freeze _ _ _ _ hs => rw [hs]; rfl

/-- The same along a chain. -/
lemma ReserveChanges.outside (h : ReserveChanges message k t s s') (hm : TW_INDEX_SIZE ≤ m) :
    s'.getTwUrEntry k m = s.getTwUrEntry k m := by
  induction h with
  | refl => rfl
  | tail _ hlast ih => rw [hlast.outside hm, ih]

end LendingPoolStorage

namespace World

variable {w : World} {kind : Message → Prop} {t k : ℕ} {asset : AccountId}

/-- In every reachable world the snapshots are inside their rings. -/
lemma reachable_outside [Pendzl] (h : Reachable kind t w) :
    ∀ k m, TW_INDEX_SIZE ≤ m → w.pool.getTwUrEntry k m = none := by
  refine TimedRun.Reach.invariant
    (P := fun w => ∀ k m, TW_INDEX_SIZE ≤ m → w.pool.getTwUrEntry k m = none)
    (fun w hw k m hm => ?_) (fun t w w' ih hstep k m hm => ?_) h
  · rw [hw.1]
    rfl
  · obtain ⟨env, message, -, -, hex⟩ := hstep
    cases hregisters : message.registers with
    | some asset =>
        obtain ⟨-, ho⟩ := execute_registers hex hregisters
        rw [ho.entry, ih k m hm]
    | none => rw [(execute_changes hex hregisters k).outside hm, ih k m hm]

/-- **Every ring of a reachable world is ordered.** -/
theorem reachable_orderedRing [Pendzl] (h : Reachable kind t w)
    (hk : w.pool.assetToId.get asset = some k) :
    ∃ i log, w.pool.OrderedRing k i log := by
  obtain ⟨hist, htraced⟩ := TimedRun.Traced.exists_of_reach h
  have hlt := (reachable_linked h).ids.below asset k hk
  obtain ⟨i, log, hrec⟩ := traced_records htraced hlt
  have hpairs := (hrec.chain.imp fun _ _ hrec => hrec.integrates).pairwise
  exact ⟨i, log, hrec.index, hrec.ring, reachable_outside h k, hpairs.imp fun hint => hint.lt,
    hrec.accumulator⟩

attribute [local instance] Pendzl.exact in
/-- Over a window of five units of time a quarter of the deposits was borrowed. -/
theorem search_selects_window_poked :
    ∃ w, Sample.world.run poked = some w
      ∧ ∀ gas guess v, w.pool.getTwUrFromShortestPeriodLongerThan gas 4 0 guess = .ok v →
        v = 250000 := by
  have hrun : (Sample.world.run poked).map (fun w => (w.pool.assetToId.get (Sample.account 100),
      w.pool.getTwUrFromShortestPeriodLongerThan 1 4 0 2)) = some (some 0, .ok 250000) := by
    decide +kernel
  obtain ⟨w, hw, hreach, hv⟩ :=
    run_reaches (fun _ => True) Sample.world_isInitial (by decide) hrun
  obtain ⟨hk, hsearch⟩ := Prod.mk.inj hv
  obtain ⟨i, log, hring⟩ := reachable_orderedRing hreach hk
  have hselects := LendingPoolStorage.search_selects_window hring (show 1 ≤ 4 by norm_num)
  exact ⟨w, hw, fun gas guess v hv => hselects.2.1 gas 1 guess 2 v _ hv hsearch⟩

/-- **The search ends.**  In every reachable world, for every registered asset and every
period, the search leaves its loop after one round of the ring, from every guess, if and only
if the period is positive or a slot of the ring is still empty. -/
theorem search_ends_iff [Pendzl] (h : Reachable kind t w)
    (hk : w.pool.assetToId.get asset = some k) (period : ℕ) :
    (∀ guess, w.pool.SearchLeaves k period guess (TW_INDEX_SIZE + 1))
      ↔ period ≠ 0 ∨ ∃ m < TW_INDEX_SIZE, w.pool.getTwUrEntry k m = none := by
  obtain ⟨i, log, hring⟩ := reachable_orderedRing h hk
  exact LendingPoolStorage.searchLeaves_iff hring.index hring.ring.lt

attribute [local instance] Pendzl.exact in
/-- With three snapshots the search ends, also for the period zero. -/
theorem search_ends_iff_poked :
    ∃ w, Sample.world.run poked = some w
      ∧ ∀ guess, w.pool.SearchLeaves 0 0 guess (TW_INDEX_SIZE + 1) := by
  have hrun : (Sample.world.run poked).map (fun w => (w.pool.assetToId.get (Sample.account 100),
      w.pool.getTwUrEntry 0 4)) = some (some 0, none) := by decide +kernel
  obtain ⟨w, hw, hreach, hv⟩ :=
    run_reaches (fun _ => True) Sample.world_isInitial (by decide) hrun
  obtain ⟨hk, hempty⟩ := Prod.mk.inj hv
  exact ⟨w, hw, (search_ends_iff hreach hk 0).mpr (.inr ⟨4, by norm_num, hempty⟩)⟩

/-- The messages that fill the ring of the first asset: its interest is accumulated once in
each unit of time. -/
def pokedFull : List (Env × Message) :=
  Sample.borrower ++ (List.range TW_INDEX_SIZE).map fun n =>
    Sample.send 5 (n + 2) fun _ => .accumulateInterest (Sample.account 100)

attribute [local instance] Pendzl.exact in
/-- **A search that does not end.**  The ring is full and the period is zero: no number of
rounds is enough, from any guess. -/
theorem search_with_full_ring :
    ∃ w k, Reachable (fun _ => True) 61 w ∧ w.pool.assetToId.get (Sample.account 100) = some k
      ∧ ∀ n guess, ¬ w.pool.SearchLeaves k 0 guess n := by
  have hrun : (Sample.world.run pokedFull).map (fun w =>
      (w.pool.assetToId.get (Sample.account 100),
        decide (∀ m < TW_INDEX_SIZE, w.pool.getTwUrEntry 0 m ≠ none))) = some (some 0, true) := by
    decide +kernel
  obtain ⟨w, -, hreach, hv⟩ :=
    run_reaches (fun _ => True) Sample.world_isInitial (by decide +kernel) hrun
  obtain ⟨hk, hfull⟩ := Prod.mk.inj hv
  obtain ⟨i, log, hring⟩ := reachable_orderedRing hreach hk
  refine ⟨w, 0, hreach, hk, fun n guess => ?_⟩
  exact LendingPoolStorage.not_searchLeaves hring.index hring.ring.lt (of_decide_eq_true hfull) n

end World

end AbaxLending
