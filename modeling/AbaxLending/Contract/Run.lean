import AbaxLending.Contract.Messages
import AbaxLending.Lib.LabelledRun

/-!
Runs of the system that can be computed.

`World.run` sends a list of messages, each with its environment, and stops at the
first one that fails.  `run_reachable` turns a computed run into a reachable world,
so that a statement about reachable worlds can be evaluated on one.  The `Sample`
section fixes the surroundings used wherever such an evaluation is needed: one
administrator, a price of one for every asset, no fee reductions, and token
addresses next to their asset.
-/

namespace AbaxLending

open Outcome

namespace World

variable [Pendzl]

/-- The world after a message with its environment, if it succeeds. -/
def send (w : World) (m : Env × Message) : Option World := (w.execute m.1 m.2).toOption

lemma send_eq_some {w w' : World} {m : Env × Message} :
    w.send m = some w' ↔ w.execute m.1 m.2 = .ok w' := toOption_eq_some

/-- The world after a list of messages, if all of them succeed. -/
def run (w : World) (messages : List (Env × Message)) : Option World :=
  LabelledRun.run send w messages

lemma run_nil (w : World) : w.run [] = some w := rfl

/-- A list of messages after another one is run from where that one ends. -/
lemma run_append (w : World) (before after : List (Env × Message)) :
    w.run (before ++ after) = (w.run before).bind fun w' => w'.run after :=
  LabelledRun.run_append w before after

/-- The first message of a run. -/
lemma run_cons_eq_some {w w' : World} {env : Env} {message : Message}
    {rest : List (Env × Message)} :
    w.run ((env, message) :: rest) = some w'
      ↔ ∃ w₁, w.execute env message = .ok w₁ ∧ w₁.run rest = some w' := by
  simp only [run, LabelledRun.run_cons_eq_some, send_eq_some]

/-- **The run rule**: what every message of a list preserves, a run of the list preserves. -/
theorem run_invariant {P : World → Prop} {messages : List (Env × Message)} {w w' : World}
    (hstep : ∀ env message w w', (env, message) ∈ messages → P w →
      w.execute env message = .ok w' → P w')
    (h : w.run messages = some w') (hP : P w) : P w' :=
  LabelledRun.run_invariant (fun m w w' hm hw hex => hstep m.1 m.2 w w' hm hw (send_eq_some.mp hex))
    h hP

/-- **The history rule** for messages. -/
theorem run_history {P : List (Env × Message) → World → Prop} {messages : List (Env × Message)}
    {w w' : World} (hP : P [] w)
    (hstep : ∀ before env message w₁ w₂, P before w₁ → w₁.execute env message = .ok w₂ →
      P (before ++ [(env, message)]) w₂)
    (h : w.run messages = some w') : P messages w' :=
  LabelledRun.run_history hP (fun before m w₁ w₂ _ hbefore hex =>
    hstep before m.1 m.2 w₁ w₂ hbefore (send_eq_some.mp hex)) h

/-- The sum of a quantity over the messages of a run, each in the world that it finds. -/
def sumAlong (f : World → Env → Message → ℕ) (w : World) (messages : List (Env × Message)) : ℕ :=
  LabelledRun.sumAlong send (fun w m => f w m.1 m.2) w messages

lemma sumAlong_cons {f : World → Env → Message → ℕ} {w w₁ : World} {env : Env} {message : Message}
    {rest : List (Env × Message)} (h : w.execute env message = .ok w₁) :
    w.sumAlong f ((env, message) :: rest) = f w env message + w₁.sumAlong f rest := by
  have hsend : w.send (env, message) = some w₁ := send_eq_some.mpr h
  exact LabelledRun.sumAlong_cons hsend

/-- The sum over a run that succeeds is `0` when every summand is. -/
lemma sumAlong_eq_zero_iff {f : World → Env → Message → ℕ} {messages : List (Env × Message)}
    {w w' : World} (h : w.run messages = some w') :
    w.sumAlong f messages = 0 ↔ ∀ before env message after w₁,
      messages = before ++ (env, message) :: after → w.run before = some w₁ →
      f w₁ env message = 0 := by
  rw [sumAlong, LabelledRun.sumAlong_eq_zero_iff h, LabelledRun.along_iff]
  simp only [Prod.forall, run]

/-- A message was sent in a list, and after it no message of a kind. -/
def Since (sent : Message) (lifted : Message → Prop) (messages : List (Env × Message)) : Prop :=
  ∃ before env after, messages = before ++ (env, sent) :: after ∧ ∀ m ∈ after, ¬ lifted m.2

/-- The messages of a run are of a kind, and the clock never goes back. -/
def Admissible (kind : Message → Prop) : ℕ → List (Env × Message) → Prop
  | _, [] => True
  | t, (env, message) :: rest =>
      t ≤ env.blockTimestamp ∧ kind message ∧ Admissible kind env.blockTimestamp rest

instance Admissible.decidable {kind : Message → Prop} [DecidablePred kind] :
    ∀ t messages, Decidable (Admissible kind t messages)
  | _, [] => .isTrue trivial
  | _, (env, _) :: rest =>
      have : Decidable (Admissible kind env.blockTimestamp rest) := Admissible.decidable _ rest
      inferInstanceAs (Decidable (_ ∧ _ ∧ _))

/-- The time of the last message of a run. -/
def lastTime : ℕ → List (Env × Message) → ℕ
  | t, [] => t
  | _, (env, _) :: rest => lastTime env.blockTimestamp rest

/-- **A computed run reaches its last world**, from whatever its first one was reached. -/
theorem run_reach {init : World → Prop} {kind : Message → Prop}
    {messages : List (Env × Message)} {t : ℕ} {w w' : World}
    (hw : TimedRun.Reach init (Step kind) t w) (hadm : Admissible kind t messages)
    (h : w.run messages = some w') :
    TimedRun.Reach init (Step kind) (lastTime t messages) w' := by
  induction messages generalizing t w with
  | nil =>
      simp only [run_nil, Option.some.injEq] at h
      exact h ▸ hw
  | cons head rest ih =>
      obtain ⟨env, message⟩ := head
      obtain ⟨hle, hkind, hrest⟩ := hadm
      obtain ⟨w₁, hex, h⟩ := run_cons_eq_some.mp h
      exact ih (.next hw hle ⟨env, message, rfl, hkind, hex⟩) hrest h

/-- A computed run from an initial world reaches its last world. -/
theorem run_reachable {kind : Message → Prop} {messages : List (Env × Message)} {t : ℕ}
    {w w' : World} (hw : Reachable kind t w) (hadm : Admissible kind t messages)
    (h : w.run messages = some w') : Reachable kind (lastTime t messages) w' :=
  run_reach hw hadm h

/-- A computed run has a history. -/
theorem run_traced {kind : Message → Prop} {messages : List (Env × Message)} {t : ℕ}
    {w w' : World} {hist : ℕ → World} (hw : TimedRun.Traced IsInitial (Step kind) t w hist)
    (hadm : Admissible kind t messages) (h : w.run messages = some w') :
    ∃ hist', TimedRun.Traced IsInitial (Step kind) (lastTime t messages) w' hist' := by
  induction messages generalizing t w hist with
  | nil =>
      simp only [run_nil, Option.some.injEq] at h
      exact ⟨hist, h ▸ hw⟩
  | cons head rest ih =>
      obtain ⟨env, message⟩ := head
      obtain ⟨hle, hkind, hrest⟩ := hadm
      obtain ⟨w₁, hex, h⟩ := run_cons_eq_some.mp h
      exact ih (.next hw hle ⟨env, message, rfl, hkind, hex⟩) hrest h

/-- A run whose last world shows a computed value reaches such a world. -/
lemma run_reaches (kind : Message → Prop) {messages : List (Env × Message)} {w : World} {α : Type}
    {f : World → α} {v : α} (hw : w.IsInitial) (hadm : Admissible kind 0 messages)
    (h : (w.run messages).map f = some v) :
    ∃ w', w.run messages = some w' ∧ Reachable kind (lastTime 0 messages) w' ∧ f w' = v := by
  obtain ⟨w', hrun, hv⟩ := Option.map_eq_some_iff.mp h
  exact ⟨w', hrun, run_reachable (.start hw) hadm hrun, hv⟩

end World

/-! ### Sample surroundings -/

namespace Sample

/-- The account with a small number. -/
def account (n : ℕ) : AccountId := ⟨Fin.ofNat _ n⟩

/-- The administrator, who has every role. -/
def admin : AccountId := account 1

/-- The environment of a message of a caller at a time, with given prices. -/
def envWith (prices : List AccountId → Comp PriceFeedError (List ℕ)) (caller : AccountId)
    (time : ℕ) : Env where
  caller
  blockTimestamp := time
  gas := 100
  hasRole _ account := account = admin
  getLatestPrices _ assets := prices assets
  getFeeReductions _ _ := (0, 0)
  admitsCall _ _ := .ok ()
  instantiate kind asset :=
    match kind with
    | .aToken => some ⟨asset.raw + 1000⟩
    | .vToken => some ⟨asset.raw + 2000⟩

/-- The environment in which every asset has the price `1`. -/
def env : AccountId → ℕ → Env := envWith fun assets => .ok (assets.map fun _ => E18)

/-- The world around a new pool in which everybody owns `10^30` of every asset. -/
def world : World where
  poolAddress := account 9
  pool := .new
  registrar := ⟨.empty, .empty, 0⟩
  tokens := .empty
  balanceOf _ _ := 10 ^ 30
  calls := []
  events := []

/-- Rules under which an asset counts half as a collateral and twice as a debt. -/
def rules : AssetRules := ⟨some (5 * 10 ^ 5), some (2 * 10 ^ 6), some (5 * 10 ^ 4)⟩

/-- Restrictions that restrict nothing. -/
def restrictions : ReserveRestrictions := ⟨none, none, 0, 0⟩

/-- An interest rate model with a target at half utilization. -/
def rateModel : InterestRateModelParams := ⟨5 * 10 ^ 5, 10 ^ 6, 10 ^ 6, 2 * 10 ^ 6, 100⟩

/-- The registration of an asset with the sample parameters. -/
def register (n : ℕ) : Env × Message :=
  (env admin 0, .registerAsset (account n) 6 rules restrictions 0 0 (some rateModel))

/-- The messages that set up a pool with two assets, `account 100` and `account 101`. -/
def setup : List (Env × Message) :=
  [(env admin 0, .addMarketRule []), (env admin 0, .setPriceFeedProvider (account 8)),
    register 100, register 101]

/-- The message of a caller on its own behalf at a time, in the sample environment. -/
def send (caller : ℕ) (time : ℕ) (message : AccountId → Message) : Env × Message :=
  (env (account caller) time, message (account caller))

/-- The messages before the sample transfers: `account 3` and `account 4` have deposits in
both assets, and `account 3` owes the first one. -/
def depositors : List (Env × Message) := setup ++ [
  send 3 1 fun a => .deposit (account 100) a 400,
  send 3 1 fun a => .deposit (account 101) a 1000,
  send 3 1 fun _ => .setAsCollateral (account 101) true,
  send 3 1 fun a => .borrow (account 100) a 50,
  send 4 1 fun a => .deposit (account 100) a 500,
  send 4 1 fun a => .deposit (account 101) a 700,
  send 4 1 fun _ => .setAsCollateral (account 101) true]

/-- The messages after which `account 3` is short when the first asset doubles its price:
it borrowed the first asset against a deposit of the second one. -/
def borrower : List (Env × Message) := setup ++ [
  send 2 1 fun a => .deposit (account 100) a 1000,
  send 3 1 fun a => .deposit (account 101) a 1000,
  send 3 1 fun _ => .setAsCollateral (account 101) true,
  send 3 1 fun a => .borrow (account 100) a 250]

/-- The environment in which the first asset has the price `2`. -/
def doubledEnv (caller : AccountId) : ℕ → Env :=
  envWith (fun assets => .ok (assets.map fun asset =>
    if asset = account 100 then 2 * E18 else E18)) caller

lemma world_isInitial : world.IsInitial := ⟨rfl, rfl, rfl, rfl, rfl⟩

end Sample

end AbaxLending
