import AbaxLending.Contract.Run
import AbaxLending.Invariants.Occupied
import AbaxLending.Lib.RingBuffer

/-!
The ring of utilization snapshots and the history of the pool.

Every visit of a reserve that changes a total stores a snapshot first, unless there is one of
the same time.  So between two snapshots the totals stay, and the accumulator of the later
one is that of the earlier one plus the utilization in force for each unit of time.

* `Recorded`: what a snapshot says about the time since the one before it;
* `Records`: the ring holds a log of snapshots that follow each other in this way, and the
  totals have not changed since the newest one;
* `ReserveChanges.records`: the step lemma, along the changes of one message;
* `ring_records_history`: what the ring says about the history of every run.
-/

namespace AbaxLending

open Outcome

/-- The utilization depends on the totals only. -/
lemma ReserveData.currentUtilizationRateE6_congr [Pendzl] {rd rd' : ReserveData}
    (h : rd'.totals = rd.totals) :
    rd'.currentUtilizationRateE6 = rd.currentUtilizationRateE6 := by
  obtain ⟨hd, hb⟩ := Prod.mk.inj h
  rw [currentUtilizationRateE6, currentUtilizationRateE6, hd, hb]

/-! ### Snapshots and the history of a reserve -/

/-- The history of a reserve: its data at each time. -/
abbrev ReserveHistory : Type := ℕ → Option ReserveData

namespace ReserveHistory

/-- The totals in force at a time. -/
def totals (history : ReserveHistory) (time : ℕ) : Option (ℕ × ℕ) :=
  (history time).map ReserveData.totals

variable [Pendzl] {history history' : ReserveHistory} {newer older oldest : TwEntry}

/-- The utilization rate in force at a time, `0` if there is none. -/
def utilization (history : ReserveHistory) (time : ℕ) : ℕ :=
  ((history time).bind fun rd => rd.currentUtilizationRateE6.toOption).getD 0

/-- The reserve has a utilization rate at a time. -/
def Utilized (history : ReserveHistory) (time : ℕ) : Prop :=
  ∃ rd, history time = some rd
    ∧ rd.currentUtilizationRateE6 = .ok (history.utilization time)

/-- Two snapshots follow each other: the totals stay from the older one on until the newer
one, and the newer one adds their utilization rate for all that time. -/
def Recorded (history : ReserveHistory) (newer older : TwEntry) : Prop :=
  older.timestamp < newer.timestamp
    ∧ ∃ (rd : ReserveData) (u : ℕ), rd.currentUtilizationRateE6 = .ok u
    ∧ (∀ τ, older.timestamp ≤ τ → τ < newer.timestamp → history.totals τ = some rd.totals)
    ∧ newer.accumulator
      = (older.accumulator + u * (newer.timestamp - older.timestamp)) % 2 ^ 64

/-- The accumulators of two snapshots differ by the sum of the utilization rates in force at
the times between them. -/
structure Integrates (history : ReserveHistory) (newer older : TwEntry) : Prop where
  lt : older.timestamp < newer.timestamp
  utilized : ∀ τ, older.timestamp ≤ τ → τ < newer.timestamp → history.Utilized τ
  sum : older.accumulator
      + ∑ τ ∈ Finset.Ico older.timestamp newer.timestamp, history.utilization τ
    ≡ newer.accumulator [MOD 2 ^ 64]

/-- A time with known totals has their utilization rate. -/
lemma utilization_of_totals {τ u : ℕ} {rd : ReserveData}
    (hu : rd.currentUtilizationRateE6 = .ok u) (h : history.totals τ = some rd.totals) :
    history.utilization τ = u ∧ history.Utilized τ := by
  obtain ⟨rd', hrd', htotals⟩ := Option.map_eq_some_iff.mp h
  have hu' : rd'.currentUtilizationRateE6 = .ok u := by
    rw [ReserveData.currentUtilizationRateE6_congr htotals, hu]
  have hvalue : history.utilization τ = u := by
    rw [utilization, hrd', Option.bind_some, hu']
    rfl
  exact ⟨hvalue, rd', hrd', by rw [hvalue, hu']⟩

/-- Between snapshots that follow each other the utilization is constant. -/
lemma Recorded.integrates (h : history.Recorded newer older) :
    history.Integrates newer older := by
  obtain ⟨hlt, rd, u, hu, htotals, hacc⟩ := h
  refine ⟨hlt, fun τ hle hτ => (utilization_of_totals hu (htotals τ hle hτ)).2, ?_⟩
  have hsum : ∑ τ ∈ Finset.Ico older.timestamp newer.timestamp, history.utilization τ
      = u * (newer.timestamp - older.timestamp) := by
    rw [Finset.sum_eq_card_nsmul (b := u), Nat.card_Ico, smul_eq_mul, Nat.mul_comm]
    intro τ hτ
    obtain ⟨hle, hτ⟩ := Finset.mem_Ico.mp hτ
    exact (utilization_of_totals hu (htotals τ hle hτ)).1
  rw [hsum, hacc]
  exact (Nat.mod_modEq _ _).symm

lemma Integrates.trans (h : history.Integrates newer older)
    (h' : history.Integrates older oldest) : history.Integrates newer oldest := by
  refine ⟨h'.lt.trans h.lt, fun τ hle hτ => ?_, ?_⟩
  · rcases Nat.lt_or_ge τ older.timestamp with hlt | hge
    · exact h'.utilized τ hle hlt
    · exact h.utilized τ hge hτ
  · rw [← Finset.sum_Ico_consecutive _ h'.lt.le h.lt.le, ← Nat.add_assoc]
    exact (h'.sum.add_right _).trans h.sum

instance : Trans history.Integrates history.Integrates history.Integrates := ⟨.trans⟩

/-- Only the history before the newer snapshot matters. -/
lemma Recorded.congr (h : history.Recorded newer older)
    (hsame : ∀ τ < newer.timestamp, history'.totals τ = history.totals τ) :
    history'.Recorded newer older := by
  obtain ⟨hlt, rd, u, hu, htotals, hacc⟩ := h
  exact ⟨hlt, rd, u, hu, fun τ hle hτ => (hsame τ hτ).trans (htotals τ hle hτ), hacc⟩

end ReserveHistory

/-! ### The ring -/

namespace LendingPoolStorage

variable [Pendzl] {s s' : LendingPoolStorage} {k t : ℕ}

/-- The ring of a reserve holds a log of its history up to a time. -/
structure Records (history : ReserveHistory) (k t i : ℕ) (log : List TwEntry)
    (s : LendingPoolStorage) : Prop where
  index : s.twUrIndexes.get k = some ⟨i⟩
  ring : RingBuffer.Holds TW_INDEX_SIZE (s.getTwUrEntry k) i log
  chain : log.IsChain history.Recorded
  time : ∀ e ∈ log, e.timestamp ≤ t
  accumulator : ∀ e ∈ log, e.accumulator < 2 ^ 64
  since : ∀ e ∈ log.head?, ∀ τ, e.timestamp ≤ τ → τ < t →
    history.totals τ = (s.reserveDatas.get k).map ReserveData.totals

variable {history history' : ReserveHistory} {i : ℕ} {log : List TwEntry}

/-- Time passes while the reserve keeps its totals. -/
lemma Records.advance {t' : ℕ} (h : Records history k t i log s) (hle : t ≤ t')
    (hpast : ∀ τ < t, history'.totals τ = history.totals τ)
    (hnow : ∀ τ, t ≤ τ → τ < t' →
      history'.totals τ = (s.reserveDatas.get k).map ReserveData.totals) :
    Records history' k t' i log s := by
  refine ⟨h.index, h.ring, ?_, fun e he => (h.time e he).trans hle, h.accumulator,
    fun e he τ hτ hτ' => ?_⟩
  · refine h.chain.imp_of_mem_imp fun newer older hnewer _ hrec => hrec.congr fun τ hτ => ?_
    exact hpast τ (hτ.trans_le (h.time newer hnewer))
  · rcases Nat.lt_or_ge τ t with hlt | hge
    · rw [hpast τ hlt]
      exact h.since e he τ hτ hlt
    · exact hnow τ hge hτ'

omit [Pendzl] in
lemma steady_totals {rd rd' : Option ReserveData}
    (h : rd'.map ReserveData.steady = rd.map ReserveData.steady) :
    rd'.map ReserveData.totals = rd.map ReserveData.totals := by
  have htotals := congrArg (Option.map fun x : Bool × Bool × ℕ × ℕ => x.2.2) h
  rw [Option.map_map, Option.map_map] at htotals
  exact htotals

/-- A change that keeps the ring and the totals. -/
lemma Records.keep (h : Records history k t i log s) (hring : KeepsRing k s s')
    (htotals : (s'.reserveDatas.get k).map ReserveData.totals
      = (s.reserveDatas.get k).map ReserveData.totals) : Records history k t i log s' := by
  refine ⟨hring.index.trans h.index, h.ring.congr hring.entry, h.chain, h.time, h.accumulator, ?_⟩
  rw [htotals]
  exact h.since

/-- A snapshot before a change of the totals. -/
lemma Records.snapshot {rd : ReserveData} {s₁ : LendingPoolStorage}
    (h : Records history k t i log s) (hrd : s.reserveDatas.get k = some rd)
    (hs : s.storeUtilizationRateSnapshot k rd t = .ok s₁) (hring : KeepsRing k s₁ s') :
    ∃ i' log', Records history k t i' log' s' := by
  have hhead : s.getTwUrEntry k i = log.head? := h.ring.head
  have hlt : i < 60 := h.ring.lt
  rcases storeUtilizationRateSnapshot_ring hs h.index with ⟨hle, rfl⟩ | ⟨last, u, hlast, htime, hu,
    hindex, hself, hother⟩
  · -- there is a snapshot of this time already, or it is the time 0
    refine ⟨i, log, hring.index.trans h.index, h.ring.congr hring.entry, h.chain, h.time,
      h.accumulator, fun e he τ hτ hτ' => ?_⟩
    rw [hhead, show log.head? = some e from he] at hle
    exact absurd (hle.trans hτ) (not_le.mpr hτ')
  · have hnext : (TwIndex.next ⟨i⟩).value = (i + 1) % TW_INDEX_SIZE := by
      rw [TwIndex.next, Nat.mod_eq_of_lt (a := i + 1) (b := 2 ^ 32) (by omega)]
    rw [hhead] at hlast
    rw [hnext] at hself hother
    refine ⟨(i + 1) % TW_INDEX_SIZE,
      ⟨t, (last.accumulator + u * (t - last.timestamp)) % 2 ^ 64⟩ :: log, ?_, ?_, ?_, ?_, ?_, ?_⟩
    · rw [hring.index, hindex, ← hnext]
    · exact h.ring.push ((hring.entry _).trans hself)
        fun m hm => (hring.entry m).trans (hother m hm)
    · cases log with
      | nil => exact List.isChain_singleton _
      | cons e rest =>
          simp only [List.head?_cons, Option.getD_some] at hlast
          subst hlast
          refine List.isChain_cons_cons.mpr ⟨⟨htime, rd, u, hu, fun τ hτ hτ' => ?_, rfl⟩, h.chain⟩
          rw [h.since e rfl τ hτ hτ', hrd]
          rfl
    · intro e he
      rcases List.mem_cons.mp he with rfl | he
      · exact le_rfl
      · exact h.time e he
    · intro e he
      rcases List.mem_cons.mp he with rfl | he
      · exact Nat.mod_lt _ (by norm_num)
      · exact h.accumulator e he
    · intro e he τ hτ hτ'
      rw [List.head?_cons, Option.mem_some_iff] at he
      subst he
      exact absurd hτ (not_le.mpr hτ')

variable {message : Message}

/-- A change of a reserve keeps the records. -/
lemma ReserveChange.records (hc : ReserveChange message k t s s')
    (h : Records history k t i log s) : ∃ i' log', Records history k t i' log' s' := by
  cases hc with
  | keep hk => exact ⟨i, log, h.keep hk.toKeepsRing (steady_totals hk.steady)⟩
  | visit hv =>
      rcases hv.ring with ⟨hring, htotals⟩ | ⟨s₁, hs₁, hring⟩
      · refine ⟨i, log, h.keep hring ?_⟩
        rw [hv.reserveData, hv.reserveData', Option.map_some, Option.map_some, htotals]
      · exact h.snapshot hv.reserveData hs₁ hring
  | switch _ _ hrd _ hs =>
      subst hs
      refine ⟨i, log, h.keep (.of_eq rfl rfl) ?_⟩
      rw [putReserveData_reserveDatas, Mapping.get_insert_self, hrd]
      rfl
  | freeze _ _ hrd _ hs =>
      subst hs
      refine ⟨i, log, h.keep (.of_eq rfl rfl) ?_⟩
      rw [putReserveData_reserveDatas, Mapping.get_insert_self, hrd]
      rfl

/-- The changes of a message keep the records. -/
lemma ReserveChanges.records (hc : ReserveChanges message k t s s')
    (h : Records history k t i log s) : ∃ i' log', Records history k t i' log' s' := by
  induction hc with
  | refl => exact ⟨i, log, h⟩
  | tail _ hlast ih =>
      obtain ⟨i', log', h'⟩ := ih
      exact hlast.records h'

/-- The registration of an asset opens an empty ring. -/
lemma OpensReserve.records (ho : OpensReserve t s s') (hocc : s.Occupied) :
    Records history s.assetCount t 0 [] s' := by
  refine ⟨ho.index, RingBuffer.holds_nil (by norm_num) fun m => ?_, List.isChain_nil, ?_, ?_, ?_⟩
  · rw [ho.entry]
    exact hocc.entry _ le_rfl m
  · simp
  · simp
  · simp

end LendingPoolStorage

/-! ### Runs -/

namespace World

/-- The data of the reserve with an id at each time of a history. -/
def reserveHistory (hist : ℕ → World) (k : ℕ) : ReserveHistory :=
  fun τ => (hist τ).pool.reserveDatas.get k

section

variable [Pendzl] {w w' : World} {env : Env} {message : Message} {k t : ℕ} {hist : ℕ → World}

/-- The step lemma of the records. -/
lemma execute_records {history : ReserveHistory} (hocc : w.pool.Occupied)
    (hex : w.execute env message = .ok w') (hk : k < w'.pool.assetCount)
    (h : k < w.pool.assetCount → ∃ i log, w.pool.Records history k env.blockTimestamp i log) :
    ∃ i' log', w'.pool.Records history k env.blockTimestamp i' log' := by
  cases hm : message.registers with
  | some asset =>
      obtain ⟨hr, ho⟩ := execute_registers hex hm
      have hcount := hr.assetCount
      by_cases hnew : k = w.pool.assetCount
      · rw [hnew]
        exact ⟨0, [], ho.records hocc⟩
      · obtain ⟨i, log, hrec⟩ := h (by omega)
        have hkeep := ho.others k hnew
        exact ⟨i, log, hrec.keep hkeep.toKeepsRing
          (LendingPoolStorage.steady_totals hkeep.steady)⟩
  | none =>
      have hcount := (execute_keepsRegistry hex hm).assetCount
      obtain ⟨i, log, hrec⟩ := h (hcount ▸ hk)
      exact (execute_changes hex hm k).records hrec

/-- The run lemma of the records. -/
lemma traced_records {kind : Message → Prop}
    (h : TimedRun.Traced IsInitial (Step kind) t w hist) (hk : k < w.pool.assetCount) :
    ∃ i log, w.pool.Records (reserveHistory hist k) k t i log := by
  induction h with
  | start hw =>
      rw [hw.1] at hk
      exact absurd hk (Nat.not_lt_zero k)
  | @next t t' w w' hist hrun hle hstep ih =>
      obtain ⟨env, message, rfl, -, hex⟩ := hstep
      have hpast : ∀ τ < env.blockTimestamp,
          (reserveHistory (fun τ => if τ < env.blockTimestamp then hist τ else w') k).totals τ
            = (reserveHistory hist k).totals τ := by
        intro τ hτ
        rw [ReserveHistory.totals, reserveHistory, if_pos hτ]
        rfl
      have hnow : ∀ τ, t ≤ τ → (reserveHistory hist k).totals τ
          = (w.pool.reserveDatas.get k).map ReserveData.totals := by
        intro τ hτ
        rw [ReserveHistory.totals, reserveHistory, hrun.last hτ]
      refine execute_records (reachable_occupied hrun.reach) hex hk fun hold => ?_
      obtain ⟨i, log, hrec⟩ := ih hold
      exact ⟨i, log, hrec.advance hle (fun τ hτ => hpast τ (hτ.trans_le hle))
        fun τ hτ hτ' => (hpast τ hτ').trans (hnow τ hτ)⟩

end

end World

/-- What a ring says about the history of its reserve; `entries j` is the snapshot `j` places
behind the newest one. -/
structure RingRecords [Pendzl] (history : ReserveHistory) (entries : ℕ → Option TwEntry) :
    Prop where
  noGap : ∀ j, j + 1 < TW_INDEX_SIZE → (entries (j + 1)).isSome = true →
    (entries j).isSome = true
  ordered : ∀ j j' newer older, j < j' → j' < TW_INDEX_SIZE → entries j = some newer →
    entries j' = some older → older.timestamp < newer.timestamp
  steady : ∀ j newer older, j + 1 < TW_INDEX_SIZE → entries j = some newer →
    entries (j + 1) = some older → ∀ τ, older.timestamp ≤ τ → τ < newer.timestamp →
      history.totals τ = history.totals older.timestamp
  integral : ∀ j j' newer older, j < j' → j' < TW_INDEX_SIZE → entries j = some newer →
    entries j' = some older →
      (∀ τ, older.timestamp ≤ τ → τ < newer.timestamp → history.Utilized τ)
      ∧ (newer.accumulator + 2 ^ 64 - older.accumulator) % 2 ^ 64
        = (∑ τ ∈ Finset.Ico older.timestamp newer.timestamp, history.utilization τ) % 2 ^ 64

section

variable [Pendzl]

/-- What the log says, the ring says. -/
lemma LendingPoolStorage.Records.ringRecords {history : ReserveHistory} {k t i : ℕ}
    {log : List TwEntry} {s : LendingPoolStorage} (h : s.Records history k t i log) :
    RingRecords history fun j => s.getTwUrEntry k (RingBuffer.behind TW_INDEX_SIZE i j) := by
  have hslots : ∀ {j}, j < TW_INDEX_SIZE →
      s.getTwUrEntry k (RingBuffer.behind TW_INDEX_SIZE i j) = log[j]? := fun hj =>
    h.ring.slots _ hj
  have hpairs : log.Pairwise history.Integrates :=
    (h.chain.imp fun _ _ hrec => hrec.integrates).pairwise
  have hintegrates : ∀ {j j' : ℕ} {newer older : TwEntry}, j < j' → log[j]? = some newer →
      log[j']? = some older → history.Integrates newer older := by
    intro j j' newer older hlt hj hj'
    obtain ⟨hlen, rfl⟩ := List.getElem?_eq_some_iff.mp hj
    obtain ⟨hlen', rfl⟩ := List.getElem?_eq_some_iff.mp hj'
    exact List.pairwise_iff_getElem.mp hpairs j j' hlen hlen' hlt
  refine ⟨fun j hj hsome => ?_, fun j j' newer older hlt hj' hnewer holder => ?_,
    fun j newer older hj hnewer holder τ hτ hτ' => ?_,
    fun j j' newer older hlt hj' hnewer holder => ?_⟩
  · rw [hslots hj] at hsome
    have hlen : j + 1 < log.length := by
      by_contra hge
      rw [List.getElem?_eq_none (not_lt.mp hge)] at hsome
      cases hsome
    rw [hslots (by omega), List.getElem?_eq_getElem (by omega)]
    rfl
  · rw [hslots hj'] at holder
    rw [hslots (by omega)] at hnewer
    exact (hintegrates hlt hnewer holder).lt
  · rw [hslots hj] at holder
    rw [hslots (by omega)] at hnewer
    obtain ⟨hlen, rfl⟩ := List.getElem?_eq_some_iff.mp hnewer
    obtain ⟨hlen', rfl⟩ := List.getElem?_eq_some_iff.mp holder
    obtain ⟨hlt, rd, u, -, htotals, -⟩ := h.chain.getElem j hlen'
    rw [htotals τ hτ hτ', htotals _ le_rfl hlt]
  · rw [hslots hj'] at holder
    rw [hslots (by omega)] at hnewer
    have hint := hintegrates hlt hnewer holder
    refine ⟨hint.utilized, ?_⟩
    have hbelow := h.accumulator older (List.mem_of_getElem? holder)
    have hsum := hint.sum
    rw [Nat.ModEq] at hsum
    omega

namespace World

/-- **The ring of utilization snapshots records the true history.**  In every run, for every
registered asset, the snapshots read backwards from the current index have no gap, they get
strictly older, between two neighbours no total changed, and the accumulators of any two of
them differ, modulo `2^64`, by the sum of the utilization rates in force in between. -/
theorem ring_records_history {kind : Message → Prop} {w : World} {t k : ℕ} {hist : ℕ → World}
    {asset : AccountId} (h : TimedRun.Traced IsInitial (Step kind) t w hist)
    (hk : w.pool.assetToId.get asset = some k) :
    ∃ i < TW_INDEX_SIZE, w.pool.twUrIndexes.get k = some ⟨i⟩
      ∧ RingRecords (reserveHistory hist k)
        fun j => w.pool.getTwUrEntry k (RingBuffer.behind TW_INDEX_SIZE i j) := by
  have hlt := (reachable_linked h.reach).ids.below asset k hk
  obtain ⟨i, log, hrec⟩ := traced_records h hlt
  exact ⟨i, hrec.ring.lt, hrec.index, hrec.ringRecords⟩

end World

end

namespace World

/-- The messages that leave three snapshots of the first asset, of the times `1`, `7` and `12`. -/
def poked : List (Env × Message) := Sample.borrower ++ [
  Sample.send 5 7 fun _ => .accumulateInterest (Sample.account 100),
  Sample.send 5 12 fun _ => .accumulateInterest (Sample.account 100)]

attribute [local instance] Pendzl.exact in
/-- A quarter of the deposits is borrowed for eleven units of time. -/
theorem ring_records_history_poked :
    ∃ hist, (∃ w, Sample.world.run poked = some w
        ∧ TimedRun.Traced IsInitial (Step fun _ => True) 12 w hist)
      ∧ (∑ τ ∈ Finset.Ico 1 12, (reserveHistory hist 0).utilization τ) % 2 ^ 64
        = 11 * 250000 := by
  have hrun : (Sample.world.run poked).map (fun w =>
        (w.pool.assetToId.get (Sample.account 100), w.pool.twUrIndexes.get 0,
          (w.pool.getTwUrEntry 0 3, w.pool.getTwUrEntry 0 1)))
      = some (some 0, some ⟨3⟩, (some ⟨12, 3750000⟩, some ⟨1, 1000000⟩)) := by decide +kernel
  obtain ⟨w, hw, hv⟩ := Option.map_eq_some_iff.mp hrun
  obtain ⟨hk, hv⟩ := Prod.mk.inj hv
  obtain ⟨hindex, hv⟩ := Prod.mk.inj hv
  obtain ⟨hnewer, holder⟩ := Prod.mk.inj hv
  have hadm : Admissible (fun _ => True) 0 poked := by decide
  obtain ⟨hist, hhist⟩ := run_traced (.start Sample.world_isInitial) hadm hw
  refine ⟨hist, ⟨w, hw, hhist⟩, ?_⟩
  obtain ⟨i, -, hi, hring⟩ := ring_records_history hhist hk
  cases hindex.symm.trans hi
  obtain ⟨-, hsum⟩ := hring.integral 0 2 ⟨12, 3750000⟩ ⟨1, 1000000⟩ (by norm_num) (by norm_num)
    hnewer holder
  exact hsum.symm

end World

end AbaxLending
