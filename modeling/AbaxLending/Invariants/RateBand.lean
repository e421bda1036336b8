import AbaxLending.Contract.Run
import AbaxLending.Spec.Changes
import AbaxLending.Spec.RateCurve

/-!
The rate at the target stays in its band and moves toward the target.

An adjustment evaluates the old curve at the observed utilization and clamps the result to the
band of the model.  Every model that the pool stores is a new one, with its rate at the lower
end of the band, after a number of adjustments (`reachable_adjusted`), so the band is an
invariant of all runs; the direction of an adjustment follows from the shape of the curve.

* `InBand`, `Moves`: the band, and the direction of an adjustment;
* `adjustRateAtTarget_inBand`, `adjustRateAtTarget_moves`, `adjustRateAtTarget_mono`: one
  adjustment; `adjustAll_inBand`: a sequence of them;
* `execute_model`: what a message does to the models of the pool;
* `World.rate_adjustment`: both, for every model and every reachable world.
-/

namespace AbaxLending

open Outcome

namespace InterestRateModel

/-- The rate at the target is in the band of the model. -/
def InBand (model : InterestRateModel) : Prop :=
  model.minRateAtTargetE18 ≤ model.rateAtTargetUrE18
    ∧ model.rateAtTargetUrE18 ≤ model.maxRateAtTargetE18

/-- A rate clamped to the band of the model, as an adjustment does it. -/
def clamp (model : InterestRateModel) (rate : ℕ) : ℕ :=
  if rate < model.minRateAtTargetE18 then model.minRateAtTargetE18
  else if rate > model.maxRateAtTargetE18 then model.maxRateAtTargetE18
  else rate

/-- The rate at the target moved toward the utilization. -/
structure Moves (u : ℕ) (model model' : InterestRateModel) : Prop where
  at_target : u = model.targetUrE6 → model'.rateAtTargetUrE18 = model.rateAtTargetUrE18
  below : u < model.targetUrE6 → model'.rateAtTargetUrE18 ≤ model.rateAtTargetUrE18
  above : model.targetUrE6 < u → model.rateAtTargetUrE18 ≤ model'.rateAtTargetUrE18

/-- An adjustment keeps what the model was set up with. -/
structure SameTarget (model model' : InterestRateModel) : Prop where
  targetUrE6 : model'.targetUrE6 = model.targetUrE6
  minRateAtTargetE18 : model'.minRateAtTargetE18 = model.minRateAtTargetE18
  maxRateAtTargetE18 : model'.maxRateAtTargetE18 = model.maxRateAtTargetE18

/-- A sequence of adjustments, each with the utilization that was observed and its time. -/
def adjustAll [Pendzl] (model : InterestRateModel) : List (ℕ × ℕ) → Res InterestRateModel
  | [] => .ok model
  | (u, timestamp) :: rest => do
      let model ← model.adjustRateAtTarget u timestamp
      model.adjustAll rest

section

variable {model model' model'' : InterestRateModel} {u v t t' : ℕ}

lemma clamp_mono {rate rate' : ℕ} (hband : model.minRateAtTargetE18 ≤ model.maxRateAtTargetE18)
    (h : rate ≤ rate') : model.clamp rate ≤ model.clamp rate' := by
  rw [clamp, clamp]
  split_ifs <;> omega

/-- A rate in the band is not clamped. -/
lemma InBand.clamp (h : model.InBand) :
    model.clamp model.rateAtTargetUrE18 = model.rateAtTargetUrE18 := by
  rw [InterestRateModel.clamp, if_neg (not_lt.mpr h.1), if_neg (not_lt.mpr h.2)]

/-- A new model starts at the lower end of its band. -/
lemma new_inBand {params : InterestRateModelParams}
    (hband : params.minRateAtTargetE18 ≤ params.maxRateAtTargetE18) (timestamp : ℕ) :
    (new params timestamp).InBand :=
  ⟨le_rfl, hband⟩

variable [Pendzl]

/-- **What an adjustment does**: the curve at the utilization, clamped. -/
lemma adjustRateAtTarget_ok (h : model.adjustRateAtTarget u t = .ok model') :
    model' = { model with
      rateAtTargetUrE18 := model.clamp (model.curve u)
      lastAdjustmentTimestamp := t } := by
  simp only [adjustRateAtTarget, bind_eq_ok, pure_eq, Except.ok.injEq] at h
  obtain ⟨rate, hrate, hmodel⟩ := h
  rw [utilizationRateToInterestRateE18_curve hrate] at hmodel
  exact hmodel.symm

lemma adjustRateAtTarget_sameTarget (h : model.adjustRateAtTarget u t = .ok model') :
    SameTarget model model' := by
  rw [adjustRateAtTarget_ok h]
  exact ⟨rfl, rfl, rfl⟩

/-- An adjustment leaves the rate in the band. -/
lemma adjustRateAtTarget_inBand (hband : model.minRateAtTargetE18 ≤ model.maxRateAtTargetE18)
    (h : model.adjustRateAtTarget u t = .ok model') : model'.InBand := by
  rw [adjustRateAtTarget_ok h]
  show model.minRateAtTargetE18 ≤ model.clamp (model.curve u)
    ∧ model.clamp (model.curve u) ≤ model.maxRateAtTargetE18
  rw [clamp]
  split_ifs <;> omega

/-- **The direction of an adjustment**: the curve meets the old rate at the target. -/
lemma adjustRateAtTarget_moves (hmodel : model.InBand) (htarget : 0 < model.targetUrE6)
    (h : model.adjustRateAtTarget u t = .ok model') : Moves u model model' := by
  have hband : model.minRateAtTargetE18 ≤ model.maxRateAtTargetE18 := hmodel.1.trans hmodel.2
  have hrate : model'.rateAtTargetUrE18 = model.clamp (model.curve u) := by
    rw [adjustRateAtTarget_ok h]
  constructor
  · intro hat
    rw [hrate, hat, curve_target htarget, hmodel.clamp]
  · intro hlt
    calc model'.rateAtTargetUrE18 = model.clamp (model.curve u) := hrate
      _ ≤ model.clamp model.rateAtTargetUrE18 := clamp_mono hband (curve_le_rateAtTarget hlt.le)
      _ = model.rateAtTargetUrE18 := hmodel.clamp
  · intro hgt
    calc model.rateAtTargetUrE18 = model.clamp model.rateAtTargetUrE18 := hmodel.clamp.symm
      _ ≤ model.clamp (model.curve u) := clamp_mono hband (rateAtTarget_le_curve hgt)
      _ = model'.rateAtTargetUrE18 := hrate.symm

/-- A larger utilization adjusts to no smaller rate. -/
lemma adjustRateAtTarget_mono (hband : model.minRateAtTargetE18 ≤ model.maxRateAtTargetE18)
    (huv : u ≤ v) (h : model.adjustRateAtTarget u t = .ok model')
    (h' : model.adjustRateAtTarget v t' = .ok model'') :
    model'.rateAtTargetUrE18 ≤ model''.rateAtTargetUrE18 := by
  rw [adjustRateAtTarget_ok h, adjustRateAtTarget_ok h']
  exact clamp_mono hband (curve_mono huv)

/-- **The rule of the adjustments**: what each of them preserves, a sequence of them does. -/
lemma adjustAll_induct {P : InterestRateModel → Prop} {observations : List (ℕ × ℕ)}
    (hstep : ∀ model u t model', P model → model.adjustRateAtTarget u t = .ok model' → P model')
    (h : model.adjustAll observations = .ok model') (hP : P model) : P model' := by
  induction observations generalizing model with
  | nil =>
      simp only [adjustAll, Except.ok.injEq] at h
      exact h ▸ hP
  | cons head rest ih =>
      obtain ⟨u, t⟩ := head
      simp only [adjustAll, bind_eq_ok] at h
      obtain ⟨model₁, h₁, hrest⟩ := h
      exact ih hrest (hstep model u t model₁ hP h₁)

lemma adjustAll_inBand {observations : List (ℕ × ℕ)} (hmodel : model.InBand)
    (h : model.adjustAll observations = .ok model') : model'.InBand := by
  refine adjustAll_induct (fun model u t model' hband hadjust => ?_) h hmodel
  exact adjustRateAtTarget_inBand (hband.1.trans hband.2) hadjust

lemma adjustAll_sameTarget {observations : List (ℕ × ℕ)}
    (h : model.adjustAll observations = .ok model') : SameTarget model model' := by
  refine adjustAll_induct (P := SameTarget model) (fun model₁ u t model₂ hsame hadjust => ?_) h
    ⟨rfl, rfl, rfl⟩
  have hnext := adjustRateAtTarget_sameTarget hadjust
  exact ⟨hnext.targetUrE6.trans hsame.targetUrE6,
    hnext.minRateAtTargetE18.trans hsame.minRateAtTargetE18,
    hnext.maxRateAtTargetE18.trans hsame.maxRateAtTargetE18⟩

/-- One more adjustment after a sequence of them. -/
lemma adjustAll_concat {observations : List (ℕ × ℕ)}
    (h : model.adjustAll observations = .ok model')
    (h' : model'.adjustRateAtTarget u t = .ok model'') :
    model.adjustAll (observations ++ [(u, t)]) = .ok model'' := by
  induction observations generalizing model with
  | nil =>
      simp only [adjustAll, Except.ok.injEq] at h
      subst h
      simp only [List.nil_append, adjustAll, h', ok_bind]
  | cons head rest ih =>
      obtain ⟨v, t'⟩ := head
      simp only [adjustAll, bind_eq_ok] at h
      obtain ⟨model₁, h₁, hrest⟩ := h
      simp only [List.cons_append, adjustAll, h₁, ok_bind, ih hrest]

/-- What an adjustment of a model in its band does, whatever utilization is observed. -/
structure StaysInBand (model : InterestRateModel) : Prop where
  inBand : model.InBand
  moves : ∀ u t model', model.adjustRateAtTarget u t = .ok model' → Moves u model model'
  mono : ∀ u v t t' model' model'', u ≤ v → model.adjustRateAtTarget u t = .ok model' →
    model.adjustRateAtTarget v t' = .ok model'' →
    model'.rateAtTargetUrE18 ≤ model''.rateAtTargetUrE18

lemma InBand.stays (h : model.InBand) (htarget : 0 < model.targetUrE6) : model.StaysInBand where
  inBand := h
  moves _ _ _ hadjust := adjustRateAtTarget_moves h htarget hadjust
  mono _ _ _ _ _ _ huv hadjust hadjust' :=
    adjustRateAtTarget_mono (h.1.trans h.2) huv hadjust hadjust'

/-- A new model stays in its band through every sequence of adjustments. -/
lemma adjustAll_staysInBand {params : InterestRateModelParams} {observations : List (ℕ × ℕ)}
    (hband : params.minRateAtTargetE18 ≤ params.maxRateAtTargetE18)
    (htarget : 0 < params.targetUrE6)
    (h : (new params t).adjustAll observations = .ok model) : model.StaysInBand := by
  have hmodel := adjustAll_inBand (new_inBand hband t) h
  have hsame := adjustAll_sameTarget h
  exact hmodel.stays (hsame.targetUrE6.symm ▸ htarget)

end

end InterestRateModel

namespace World

section

variable [Pendzl] {w w' : World} {env : Env}

/-- What the message that adjusts a rate does. -/
lemma adjustRateAtTarget_ok {asset : AccountId} {guessedIndex rate : ℕ}
    (h : w.adjustRateAtTarget env asset guessedIndex = .ok (w', rate)) :
    ∃ k model u model', w.pool.assetToId.get asset = some k
      ∧ w.pool.interestRateModel.get k = some model
      ∧ w.pool.getTwUrFromShortestPeriodLongerThan env.gas model.minimalTimeBetweenAdjustments k
          guessedIndex = .ok u
      ∧ model.adjustRateAtTarget u env.blockTimestamp = .ok model'
      ∧ w'.pool.interestRateModel = w.pool.interestRateModel.insert k model' := by
  simp only [World.adjustRateAtTarget, LendingPoolStorage.assetId, bind_eq_ok, okOr_eq_ok, pure_eq,
    Except.ok.injEq, Prod.mk.injEq] at h
  obtain ⟨k, hk, model, hmodel, _, -, _, -, u, hu, model', hmodel', rfl, -⟩ := h
  exact ⟨k, model, u, model', hk, hmodel, hu, hmodel', rfl⟩

/-- What happened to the model of an asset: it was kept, set, or adjusted. -/
inductive ModelStep (before : Option InterestRateModel) (after : InterestRateModel) : Prop where
  | kept : before = some after → ModelStep before after
  | set (params : InterestRateModelParams) (timestamp : ℕ) :
      after = InterestRateModel.new params timestamp → ModelStep before after
  | adjusted (model : InterestRateModel) (u timestamp : ℕ) : before = some model →
      model.adjustRateAtTarget u timestamp = .ok after → ModelStep before after

/-- A model that is inserted under an id. -/
lemma ModelStep.insert {models : Mapping ℕ InterestRateModel} {j k : ℕ}
    {model after : InterestRateModel} (h : ModelStep (models.get j) model)
    (hget : (models.insert j model).get k = some after) : ModelStep (models.get k) after := by
  rw [Mapping.get_insert] at hget
  split_ifs at hget with hjk
  · cases hget
    exact hjk ▸ h
  · exact .kept hget

/-- **What a message does to the models of the pool.** -/
theorem execute_model {message : Message} {k : ℕ} {after : InterestRateModel}
    (hex : w.execute env message = .ok w')
    (h : w'.pool.interestRateModel.get k = some after) :
    ModelStep (w.pool.interestRateModel.get k) after := by
  have hstep := (execute_frame hex).1
  cases message with
  | adjustRateAtTarget asset guessedIndex =>
      simp only [execute, mapErr_eq_ok, bind_eq_ok, pure_eq, Except.ok.injEq] at hex
      obtain ⟨⟨w₁, rate⟩, hadjust, rfl⟩ := hex
      obtain ⟨j, model, u, model', -, hmodel, -, hmodel', hmodels⟩ := adjustRateAtTarget_ok hadjust
      exact ModelStep.insert (.adjusted model u _ hmodel hmodel') (hmodels ▸ h)
  | registerAsset asset decimals rules restrictions depositFeeE6 debtFeeE6 params =>
      obtain ⟨s₁, s₂, multiplier, tokens, h₁, h₂, h₃⟩ := hstep
      obtain ⟨-, rule, hs⟩ := LendingPoolStorage.register_storage h₁ h₂ h₃
      rw [hs] at h
      cases params with
      | none => exact .kept h
      | some params => exact ModelStep.insert (.set params _ rfl) h
  | setInterestRateModel asset params =>
      obtain ⟨_, _, _, _, _, -, -, -, -, -, hs⟩ :=
        LendingPoolStorage.accountForInterestRateModelChange_ok hstep
      rw [hs] at h
      exact ModelStep.insert (.set params _ rfl) h
  | _ =>
      have hkept := execute_keeps (·.interestRateModel) (fun _ => rfl) hex
      exact .kept (hkept ▸ h)

/-- **Every stored model is a new one after a number of adjustments.** -/
theorem reachable_adjusted {kind : Message → Prop} {t k : ℕ} {model : InterestRateModel}
    (h : Reachable kind t w) (hmodel : w.pool.interestRateModel.get k = some model) :
    ∃ params timestamp observations,
      (InterestRateModel.new params timestamp).adjustAll observations = .ok model := by
  suffices hall : ∀ k model, w.pool.interestRateModel.get k = some model →
      ∃ params timestamp observations,
        (InterestRateModel.new params timestamp).adjustAll observations = .ok model from
    hall k model hmodel
  refine TimedRun.Reach.invariant (P := fun w => ∀ k model,
    w.pool.interestRateModel.get k = some model → ∃ params timestamp observations,
      (InterestRateModel.new params timestamp).adjustAll observations = .ok model)
    (fun w hw k model hk => ?_) (fun t w w' hP hstep k model hk => ?_) h
  · rw [hw.1] at hk
    cases hk
  · obtain ⟨env, message, -, -, hex⟩ := hstep
    cases execute_model hex hk with
    | kept hold => exact hP k model hold
    | set params timestamp hnew => exact ⟨params, timestamp, [], hnew ▸ rfl⟩
    | adjusted old u timestamp hold hadjust =>
        obtain ⟨params, timestamp₀, observations, hrun⟩ := hP k old hold
        exact ⟨params, timestamp₀, observations ++ [(u, timestamp)],
          InterestRateModel.adjustAll_concat hrun hadjust⟩

/-- **Rate adjustment moves toward the target and stays in its band.**  A model whose band is not
empty and whose target is positive stays in the band: after every sequence of adjustments of a new
model, with any observed utilizations, and in every reachable world.  There an adjustment keeps
the rate when the target is observed, does not raise it below and does not lower it above the
target, and is monotone in the utilization.  The message adjusts the stored model by the average
utilization that the pool observed. -/
theorem rate_adjustment :
    (∀ params timestamp observations model,
      params.minRateAtTargetE18 ≤ params.maxRateAtTargetE18 → 0 < params.targetUrE6 →
      (InterestRateModel.new params timestamp).adjustAll observations = .ok model →
      model.StaysInBand)
    ∧ (∀ (kind : Message → Prop) (t k : ℕ) (w : World) model, Reachable kind t w →
      w.pool.interestRateModel.get k = some model →
      model.minRateAtTargetE18 ≤ model.maxRateAtTargetE18 → 0 < model.targetUrE6 →
      model.StaysInBand)
    ∧ ∀ (w w' : World) env asset guessedIndex,
      w.execute env (.adjustRateAtTarget asset guessedIndex) = .ok w' →
      ∃ k model u model', w.pool.assetToId.get asset = some k
        ∧ w.pool.interestRateModel.get k = some model
        ∧ w.pool.getTwUrFromShortestPeriodLongerThan env.gas model.minimalTimeBetweenAdjustments k
            guessedIndex = .ok u
        ∧ model.adjustRateAtTarget u env.blockTimestamp = .ok model'
        ∧ w'.pool.interestRateModel.get k = some model' := by
  refine ⟨fun params timestamp observations model hband htarget h => ?_,
    fun kind t k w model hw hmodel hband htarget => ?_, fun w w' env asset guessedIndex hex => ?_⟩
  · exact InterestRateModel.adjustAll_staysInBand hband htarget h
  · obtain ⟨params, timestamp, observations, hrun⟩ := reachable_adjusted hw hmodel
    -- the band and the target of the stored model are those it was set up with
    have hsetup : InterestRateModel.SameTarget (.new params timestamp) model :=
      InterestRateModel.adjustAll_sameTarget hrun
    refine InterestRateModel.adjustAll_staysInBand ?_ ?_ hrun
    · rw [hsetup.minRateAtTargetE18, hsetup.maxRateAtTargetE18] at hband
      exact hband
    · rw [hsetup.targetUrE6] at htarget
      exact htarget
  · simp only [execute, mapErr_eq_ok, bind_eq_ok, pure_eq, Except.ok.injEq] at hex
    obtain ⟨⟨w₁, rate⟩, hadjust, rfl⟩ := hex
    obtain ⟨k, model, u, model', hk, hmodel, hu, hmodel', hmodels⟩ := adjustRateAtTarget_ok hadjust
    refine ⟨k, model, u, model', hk, hmodel, hu, hmodel', ?_⟩
    rw [hmodels]
    exact Mapping.get_insert_self ..

end

/-- A model with a band from `10 ^ 6` to `3 * 10 ^ 6`. -/
def wideBand : InterestRateModelParams := ⟨5 * 10 ^ 5, 10 ^ 6, 3 * 10 ^ 6, 5 * 10 ^ 6, 10⟩

/-- The messages after which three quarters of the first asset were borrowed for a while. -/
def observed : List (Env × Message) := Sample.setup ++ [
  (Sample.env Sample.admin 0, .setInterestRateModel (Sample.account 100) wideBand),
  Sample.send 3 1 fun a => .deposit (Sample.account 101) a 1000,
  Sample.send 3 1 fun _ => .setAsCollateral (Sample.account 101) true,
  Sample.send 2 1 fun a => .deposit (Sample.account 100) a 200,
  Sample.send 3 1 fun a => .borrow (Sample.account 100) a 150,
  Sample.send 4 20 fun _ => .accumulateInterest (Sample.account 100),
  Sample.send 4 40 fun _ => .accumulateInterest (Sample.account 100),
  Sample.send 4 60 fun _ => .accumulateInterest (Sample.account 100)]

attribute [local instance] Pendzl.exact in
/-- The rate at the target moves up, and stays within the band that was set. -/
theorem rate_adjustment_observed :
    ∃ w w' model model' u, Sample.world.run observed = some w
      ∧ w.execute (Sample.env (Sample.account 4) 70) (.adjustRateAtTarget (Sample.account 100) 1)
        = .ok w'
      ∧ w.pool.interestRateModel.get 0 = some model
      ∧ w'.pool.interestRateModel.get 0 = some model'
      ∧ model.adjustRateAtTarget u 70 = .ok model' ∧ model.StaysInBand
      ∧ (InterestRateModel.new wideBand 0).StaysInBand := by
  have hrun : (Sample.world.run observed).map (fun w => (w.pool.assetToId.get (Sample.account 100),
      w.pool.interestRateModel.get 0,
      (w.execute (Sample.env (Sample.account 4) 70)
        (.adjustRateAtTarget (Sample.account 100) 1)).toBool))
      = some (some 0, some (InterestRateModel.new wideBand 0), true) := by decide +kernel
  obtain ⟨w, hw, hreach, hv⟩ :=
    run_reaches (fun _ => True) Sample.world_isInitial (by decide) hrun
  simp only [Prod.mk.injEq] at hv
  obtain ⟨hk, hmodel, hok⟩ := hv
  cases hex : w.execute (Sample.env (Sample.account 4) 70)
      (.adjustRateAtTarget (Sample.account 100) 1) with
  | error e =>
      rw [hex] at hok
      cases hok
  | ok w' =>
      obtain ⟨k, model, u, model', hk', hget, -, hadjust, hget'⟩ :=
        rate_adjustment.2.2 w w' _ _ _ hex
      cases hk.symm.trans hk'
      cases hmodel.symm.trans hget
      exact ⟨w, w', _, model', u, hw, hex, hmodel, hget', hadjust,
        rate_adjustment.2.1 _ _ 0 w _ hreach hmodel (by decide) (by decide),
        rate_adjustment.1 wideBand 0 [] _ (by decide) (by decide) rfl⟩

end World

end AbaxLending
