import AbaxLending.Invariants.Indexes
import AbaxLending.Invariants.Totals
import AbaxLending.Spec.Flash

/-!
Flash loans can be erased from a run.

While a flash loan is open its receiver may do anything: send messages to the pool and to
its tokens, have underlying tokens moved elsewhere, take further flash loans.  Nothing of
this reaches books that the messages alone could not reach.

* `run_withFunds`: the messages of a session run by themselves in a world with more of the
  underlying tokens, and leave the same books;
* `flash_loans_erased`: so the books of a session around a new pool are those of a reachable
  world, also while flash loans are open;
* `open_loans_keep_books`: what this means for the totals and the indexes.

The registrar is not part of the books: a flash loan turns its counter back.
-/

namespace AbaxLending

open Outcome

/-! ### A sample session -/

namespace Sample

/-- The sample environment of a flash loan, without fee reductions. -/
def flashEnv (caller time : ℕ) : FlashEnv where
  toEnv := env (account caller) time
  getFlashLoanFeeReduction _ _ := 0

/-- Acts after which two flash loans are open: the receiver of the first one has deposited
what it was lent, and has taken another flash loan for somebody else. -/
def openLoans : List Act := depositors.map (fun m => .message m.1 m.2) ++ [
  .lend (flashEnv 5 1) (account 5) [account 100] [200],
  .message (env (account 5) 1) (.deposit (account 100) (account 5) 200),
  .lend (flashEnv 5 1) (account 6) [account 101, account 100] [30, 40]]

end Sample

/-! ### Sessions -/

namespace Session

section

variable [Pendzl] {σ σ' : Session} {w : World} {acts : List Act}

/-- The messages of a session can be run on funds that are large enough, if the registrar has
a number left for each of them. -/
lemma run_withFunds (h : σ.run acts = some σ') :
    ∃ m, ∀ F : Funds, F.AtLeast m →
      F.registrar.nextCounter + (messages acts).length < 2 ^ 128 →
      ∃ F', (σ.world.withFunds F).run (messages acts) = some (σ'.world.withFunds F') := by
  induction acts generalizing σ with
  | nil =>
      simp only [LabelledRun.run, Option.some.injEq] at h
      exact ⟨0, fun F _ _ => ⟨F, by rw [h]; rfl⟩⟩
  | cons act rest ih =>
      obtain ⟨σ₁, hstep, hrest⟩ := LabelledRun.run_cons_eq_some.mp h
      obtain ⟨m₁, hm₁⟩ := ih hrest
      rcases step_cases hstep with ⟨env, message, rfl, hex⟩ | ⟨hact, hbooks⟩
      · obtain ⟨m, hm⟩ := World.execute_withFunds hex m₁
        refine ⟨m, fun F hF hcount => ?_⟩
        rw [messages_message, List.length_cons] at hcount
        obtain ⟨F₁, hF₁, hcounter, hrun₁⟩ := hm F hF (by omega)
        obtain ⟨F', hrun'⟩ := hm₁ F₁ hF₁ (by omega)
        exact ⟨F', World.run_cons_eq_some.mpr ⟨_, hrun₁, hrun'⟩⟩
      · refine ⟨m₁, fun F hF hcount => ?_⟩
        rw [messages_of_ne hact] at hcount ⊢
        obtain ⟨F', hrun'⟩ := hm₁ F hF hcount
        exact ⟨F', hbooks F ▸ hrun'⟩

/-- A session around a new pool has an ordinary run of its messages. -/
lemma exists_run_of_start (hw : w.IsInitial) (hcount : (messages acts).length < 2 ^ 128)
    (h : (start w).run acts = some σ) :
    ∃ F F', (w.withFunds F).IsInitial
      ∧ (w.withFunds F).run (messages acts) = some (σ.world.withFunds F') := by
  obtain ⟨m, hm⟩ := run_withFunds h
  have hzero : (0 : ℕ) + (messages acts).length < 2 ^ 128 := by omega
  obtain ⟨F', hrun⟩ := hm ⟨fun _ _ => m, [], ⟨.empty, .empty, 0⟩⟩ (fun _ _ => le_refl m) hzero
  exact ⟨_, F', ⟨hw.1, rfl, hw.2.2.1, rfl, hw.2.2.2.2⟩, hrun⟩

/-- The books of a session are the books of a reachable world. -/
lemma exists_reachable {kind : Message → Prop} (hw : w.IsInitial)
    (hcount : (messages acts).length < 2 ^ 128)
    (hadm : World.Admissible kind 0 (messages acts)) (h : (start w).run acts = some σ) :
    ∃ F, World.Reachable kind (World.lastTime 0 (messages acts)) (σ.world.withFunds F) := by
  obtain ⟨F, F', hinit, hrun⟩ := exists_run_of_start hw hcount h
  exact ⟨F', World.run_reachable (.start hinit) hadm hrun⟩

/-- **Flash loans can be erased.**  Whatever happens in a session around a new pool, with
flash loans nested in it and some of them open at its end: its messages run by themselves
in a world with other underlying balances, and leave the same pool, tokens and events; so
these are reachable without any flash loan. -/
theorem flash_loans_erased (hw : w.IsInitial) (hcount : (messages acts).length < 2 ^ 128)
    (h : (start w).run acts = some σ) :
    ∃ F F', (w.withFunds F).IsInitial
      ∧ (w.withFunds F).run (messages acts) = some (σ.world.withFunds F')
      ∧ ∀ kind, World.Admissible kind 0 (messages acts) →
        World.Reachable kind (World.lastTime 0 (messages acts)) (σ.world.withFunds F') := by
  obtain ⟨F, F', hinit, hrun⟩ := exists_run_of_start hw hcount h
  exact ⟨F, F', hinit, hrun, fun kind hadm => World.run_reachable (.start hinit) hadm hrun⟩

/-- **The books are right while flash loans are open.**  In every state of a session whose
messages are neither transfers nor liquidations: the totals of every registered asset are
the sums of the stored positions, and every position that is not empty has been settled at
indexes between `10^18` and the current ones. -/
theorem open_loans_keep_books (hw : w.IsInitial) (hcount : (messages acts).length < 2 ^ 128)
    (hadm : World.Admissible World.OneSided 0 (messages acts)) (h : (start w).run acts = some σ)
    {asset : AccountId} {k : ℕ} (hk : σ.world.pool.assetToId.get asset = some k) :
    ∃ rd r, σ.world.pool.reserveDatas.get k = some rd
      ∧ σ.world.pool.reserveIndexesAndFees.get k = some r
      ∧ ∀ side : Side, Book.Balanced (side.total rd)
          (fun a => side.amount (σ.world.pool.position a k))
        ∧ 10 ^ 18 ≤ side.index r.indexes
        ∧ ∀ a, side.amount (σ.world.pool.position a k) ≠ 0 →
          10 ^ 18 ≤ side.applied (σ.world.pool.position a k)
          ∧ side.applied (σ.world.pool.position a k) ≤ side.index r.indexes := by
  obtain ⟨F, hreach⟩ := exists_reachable hw hcount hadm h
  have hagree := World.reachable_totalsAgree hreach
  have hquiet : World.Reachable World.NoTransfer _ _ :=
    hreach.mono fun t v v' ⟨env, message, ht, hkind, hex⟩ => ⟨env, message, ht, hkind.1, hex⟩
  have hgrounded := World.reachable_grounded hquiet
  rw [World.withFunds_pool] at hagree hgrounded
  obtain ⟨rd, r, hrd, hr⟩ :=
    (World.reachable_occupied hreach).reserve (World.reachable_linked hreach).ids hk
  refine ⟨rd, r, hrd, hr, fun side => ⟨hagree.balanced side hrd, hgrounded.floor k r hr side,
    fun a hne => ?_⟩⟩
  have hposition := hgrounded.positions k r hr a
  rcases hposition.floor side with hzero | hfloor
  · exact absurd (hposition.zero side hzero) hne
  · exact ⟨hfloor, hposition.le side⟩

end

attribute [local instance] Pendzl.exact in
/-- The messages of the sample session run by themselves. -/
theorem flash_loans_erased_sample :
    ∃ σ, (start Sample.world).run Sample.openLoans = some σ ∧ σ.loans.length = 2
      ∧ ∃ F F', (Sample.world.withFunds F).run (messages Sample.openLoans)
        = some (σ.world.withFunds F') := by
  have hrun : ((start Sample.world).run Sample.openLoans).map (fun σ => σ.loans.length)
      = some 2 := by decide +kernel
  obtain ⟨σ, hσ, hloans⟩ := Option.map_eq_some_iff.mp hrun
  obtain ⟨F, F', -, hplain, -⟩ :=
    flash_loans_erased Sample.world_isInitial (by decide) hσ
  exact ⟨σ, hσ, hloans, F, F', hplain⟩

attribute [local instance] Pendzl.exact in
/-- While the flash loans of the sample session are open, the total of the first asset is the
sum of its deposits. -/
theorem open_loans_keep_books_sample :
    ∃ σ rd, (start Sample.world).run Sample.openLoans = some σ ∧ σ.loans.length = 2
      ∧ σ.world.pool.reserveDatas.get 0 = some rd
      ∧ rd.totalDeposit = ∑ a, (σ.world.pool.position a 0).deposit := by
  have hrun : ((start Sample.world).run Sample.openLoans).map
      (fun σ => (σ.loans.length, σ.world.pool.assetToId.get (Sample.account 100)))
      = some (2, some 0) := by decide +kernel
  obtain ⟨σ, hσ, hvalue⟩ := Option.map_eq_some_iff.mp hrun
  obtain ⟨hloans, hk⟩ := Prod.mk.inj hvalue
  obtain ⟨rd, r, hrd, -, hsides⟩ :=
    open_loans_keep_books Sample.world_isInitial (by decide) (by decide) hσ hk
  exact ⟨σ, rd, hσ, hloans, hrd, (hsides .deposit).1⟩

end Session

end AbaxLending
