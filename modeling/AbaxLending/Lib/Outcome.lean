import Mathlib.Tactic

/-!
Computations that return a value, return an error value, or trap.

A contract message ends in one of three ways: with a value, with an error of
its own error type, or in a trap, which a caller cannot inspect.  `Comp ε α`
is that type, `Except` over `Fault ε`; the lemmas here say when a computation
built from binds, guards and partial reads returns a given value, so that a
successful run can be taken apart step by step.

* `bind_eq_ok`: a bind returns `b` exactly when its head returns some `a` and
  its continuation at `a` returns `b`;
* `failIf_eq_ok`, `trapIf_eq_ok`, `okOr_eq_ok`, `unwrap_eq_ok`,
  `mapErr_eq_ok`: the same for the basic steps;
* `Raises`: which error values a computation may end with, with its rules;
* `NoTrap`: that it does not trap, with its rules;
* `foldlM_induct`: what every step of a loop preserves, the loop preserves;
* `forM_eq_ok`, `length_of_mapM`, `exists_mapM_eq_ok`, `mapM_eq_ok_iff`: loops that only
  check, or only collect.
-/

namespace Outcome

variable {ε ε' α β σ : Type}

/-- How a computation ends without a value. -/
inductive Fault (ε : Type) where
  /-- an error value handed to the caller -/
  | err (e : ε)
  /-- a trap: the whole message is rolled back and nobody can catch it -/
  | trap
  deriving DecidableEq, Repr

/-- A computation that may end in a `Fault`. -/
abbrev Comp (ε α : Type) := Except (Fault ε) α

/-- `o.ok_or(e)?`: the value of `o`, or the error `e`. -/
def okOr (o : Option α) (e : ε) : Comp ε α :=
  match o with
  | some a => .ok a
  | none => .error (.err e)

/-- `o.unwrap()`: the value of `o`, or a trap. -/
def unwrap (o : Option α) : Comp ε α :=
  match o with
  | some a => .ok a
  | none => .error .trap

/-- `r.unwrap()`: the value of `r`, or a trap. -/
def unwrapOk (x : Comp ε α) : Comp ε' α :=
  match x with
  | .ok a => .ok a
  | .error _ => .error .trap

/-- `if c { return Err(e) }`. -/
def failIf (c : Prop) [Decidable c] (e : ε) : Comp ε Unit :=
  if c then .error (.err e) else .ok ()

/-- `if c { panic!() }`. -/
def trapIf (c : Prop) [Decidable c] : Comp ε Unit :=
  if c then .error .trap else .ok ()

/-- The `From` conversion of the error that `?` applies. -/
def mapErr (f : ε → ε') (x : Comp ε α) : Comp ε' α :=
  match x with
  | .ok a => .ok a
  | .error (.err e) => .error (.err (f e))
  | .error .trap => .error .trap

/-! ### When a computation returns a value -/

@[simp] lemma pure_eq {ε α : Type} (a : α) : (pure a : Except ε α) = .ok a := rfl

@[simp] lemma ok_bind {ε α β : Type} (a : α) (f : α → Except ε β) :
    (Except.ok a >>= f) = f a := rfl

@[simp] lemma error_bind {ε α β : Type} (e : ε) (f : α → Except ε β) :
    ((Except.error e : Except ε α) >>= f) = .error e := rfl

/-- A bind returns a value exactly when both of its halves do. -/
@[simp] lemma bind_eq_ok {ε α β : Type} {x : Except ε α} {f : α → Except ε β} {b : β} :
    (x >>= f) = .ok b ↔ ∃ a, x = .ok a ∧ f a = .ok b := by
  cases x with
  | error e => simp
  | ok a => simp

/-- Two continuations that agree on what the head returns give the same bind. -/
lemma bind_congr_of_ok {ε α β : Type} {x : Except ε α} {f g : α → Except ε β}
    (h : ∀ a, x = .ok a → f a = g a) : x >>= f = x >>= g := by
  cases x with
  | error e => rfl
  | ok a => exact h a rfl

@[simp] lemma okOr_eq_ok {o : Option α} {e : ε} {a : α} : okOr o e = .ok a ↔ o = some a := by
  cases o <;> simp [okOr]

@[simp] lemma unwrap_eq_ok {o : Option α} {a : α} :
    (unwrap o : Comp ε α) = .ok a ↔ o = some a := by
  cases o <;> simp [unwrap]

@[simp] lemma unwrapOk_eq_ok {x : Comp ε α} {a : α} :
    (unwrapOk x : Comp ε' α) = .ok a ↔ x = .ok a := by
  cases x <;> simp [unwrapOk]

@[simp] lemma failIf_eq_ok {c : Prop} [Decidable c] {e : ε} {u : Unit} :
    failIf c e = .ok u ↔ ¬c := by
  by_cases h : c <;> simp [failIf, h]

@[simp] lemma trapIf_eq_ok {c : Prop} [Decidable c] {u : Unit} :
    (trapIf c : Comp ε Unit) = .ok u ↔ ¬c := by
  by_cases h : c <;> simp [trapIf, h]

@[simp] lemma mapErr_eq_ok {f : ε → ε'} {x : Comp ε α} {a : α} :
    mapErr f x = .ok a ↔ x = .ok a := by
  rcases x with (e | _) | a <;> simp [mapErr]

lemma isOk_eq_true {ε α : Type} {x : Except ε α} : x.isOk = true ↔ ∃ a, x = .ok a := by
  cases x <;> simp [Except.isOk, Except.toBool]

lemma toOption_eq_some {ε α : Type} {x : Except ε α} {a : α} :
    x.toOption = some a ↔ x = .ok a := by
  cases x <;> simp [Except.toOption]

/-- Whether a computation fails with `f`. -/
def failsWith [DecidableEq ε] (f : Fault ε) (x : Comp ε α) : Bool :=
  match x with
  | .error g => g = f
  | .ok _ => false

lemma failsWith_eq_true [DecidableEq ε] {f : Fault ε} {x : Comp ε α} :
    failsWith f x = true ↔ x = .error f := by
  cases x <;> simp [failsWith]

/-! ### Mapped results -/

@[simp] lemma map_ok {ε α β : Type} (f : α → β) (a : α) :
    Except.map f (.ok a : Except ε α) = .ok (f a) := rfl

@[simp] lemma map_error {ε α β : Type} (f : α → β) (e : ε) :
    Except.map f (.error e : Except ε α) = .error e := rfl

/-- A map moves into a bind. -/
lemma map_bind {ε α β γ : Type} (f : β → γ) (x : Except ε α) (g : α → Except ε β) :
    (x >>= g).map f = x >>= fun a => (g a).map f := by
  cases x <;> rfl

/-- A bind of a map. -/
lemma bind_map {ε α β γ : Type} (f : α → β) (x : Except ε α) (g : β → Except ε γ) :
    x.map f >>= g = x >>= fun a => g (f a) := by
  cases x <;> rfl

/-! ### Error values -/

/-- Every error value that a computation may end with has a property. -/
def Raises (P : ε → Prop) (x : Comp ε α) : Prop := ∀ e, x = .error (.err e) → P e

section

variable {P Q : ε → Prop} {x : Comp ε α} {f : α → Comp ε β}

lemma Raises.mono (h : Raises P x) (hPQ : ∀ e, P e → Q e) : Raises Q x :=
  fun e he => hPQ e (h e he)

lemma raises_ok (a : α) : Raises P (.ok a : Comp ε α) := fun _ he => by cases he

lemma raises_trap : Raises P (.error .trap : Comp ε α) := fun _ he => by cases he

/-- A bind raises what its halves raise. -/
lemma Raises.bind (hx : Raises P x) (hf : ∀ a, x = .ok a → Raises P (f a)) :
    Raises P (x >>= f) := by
  intro e he
  cases hxa : x with
  | error fault =>
      rw [hxa, error_bind, Except.error.injEq] at he
      exact hx e (by rw [hxa, he])
  | ok a =>
      rw [hxa, ok_bind] at he
      exact hf a hxa e he

lemma raises_okOr {o : Option α} {e : ε} (h : o = none → P e) : Raises P (okOr o e) := by
  intro e' he
  cases o with
  | none =>
      simp only [okOr, Except.error.injEq, Fault.err.injEq] at he
      exact he ▸ h rfl
  | some a => cases he

lemma raises_unwrap (o : Option α) : Raises P (unwrap o) := by
  intro e he
  cases o <;> cases he

lemma raises_trapIf (c : Prop) [Decidable c] : Raises P (trapIf c) := by
  rw [trapIf]
  split_ifs
  · exact raises_trap
  · exact raises_ok ()

end

/-- The computation does not trap. -/
def NoTrap (x : Comp ε α) : Prop := x ≠ .error .trap

section

variable {x : Comp ε α} {f : α → Comp ε β}

lemma noTrap_ok (a : α) : NoTrap (.ok a : Comp ε α) := fun h => by cases h

lemma NoTrap.bind (hx : NoTrap x) (hf : ∀ a, x = .ok a → NoTrap (f a)) : NoTrap (x >>= f) := by
  cases x with
  | ok a => exact hf a rfl
  | error e => exact fun h => hx (congrArg Except.error (Except.error.inj h))

lemma noTrap_okOr (o : Option α) (e : ε) : NoTrap (okOr o e) := by
  intro h
  cases o <;> cases h

end

/-! ### Loops -/

/-- A fold whose steps keep the state keeps it. -/
lemma foldlM_of_stays {ε : Type} {f : σ → α → Except ε σ} {l : List α} {s : σ}
    (h : ∀ a ∈ l, f s a = .ok s) : l.foldlM f s = .ok s := by
  induction l with
  | nil => rfl
  | cons a l ih =>
      rw [List.foldlM_cons, h a List.mem_cons_self, ok_bind]
      exact ih fun b hb => h b (List.mem_cons_of_mem a hb)

/-- **The loop rule**: a property that every step of a fold preserves holds at
its end. -/
theorem foldlM_induct {ε : Type} {f : σ → α → Except ε σ} (P : σ → Prop) {l : List α}
    (hstep : ∀ s a s', a ∈ l → P s → f s a = .ok s' → P s') :
    ∀ {s s' : σ}, P s → l.foldlM f s = .ok s' → P s' := by
  induction l with
  | nil =>
      intro s s' hs h
      simp only [List.foldlM_nil, pure_eq, Except.ok.injEq] at h
      exact h ▸ hs
  | cons a l ih =>
      intro s s' hs h
      rw [List.foldlM_cons, bind_eq_ok] at h
      obtain ⟨s₁, h₁, h₂⟩ := h
      exact ih (fun t b t' hb => hstep t b t' (List.mem_cons_of_mem a hb))
        (hstep s a s₁ List.mem_cons_self hs h₁) h₂

/-- A loop without a result returns exactly when every round does. -/
lemma forM_eq_ok {ε : Type} {f : α → Except ε Unit} {l : List α} {u : Unit} :
    l.forM f = .ok u ↔ ∀ a ∈ l, f a = .ok () := by
  induction l with
  | nil => simp [List.forM]
  | cons a l ih =>
      have hcons : (a :: l).forM f = f a >>= fun _ => l.forM f := rfl
      rw [hcons, bind_eq_ok, List.forall_mem_cons, ← ih]
      exact Unique.exists_iff

/-- A map that returns keeps the length. -/
lemma length_of_mapM {ε : Type} {f : α → Except ε β} {l : List α} {l' : List β}
    (h : l.mapM f = .ok l') : l'.length = l.length := by
  induction l generalizing l' with
  | nil =>
      simp only [List.mapM_nil, pure_eq, Except.ok.injEq] at h
      rw [← h]
      rfl
  | cons a l ih =>
      simp only [List.mapM_cons, bind_eq_ok, pure_eq, Except.ok.injEq] at h
      obtain ⟨_, -, rest, hrest, rfl⟩ := h
      rw [List.length_cons, List.length_cons, ih hrest]

/-- A map returns when every round does. -/
lemma exists_mapM_eq_ok {ε : Type} {f : α → Except ε β} {l : List α}
    (h : ∀ a ∈ l, ∃ b, f a = .ok b) : ∃ l', l.mapM f = .ok l' := by
  induction l with
  | nil => exact ⟨[], rfl⟩
  | cons a l ih =>
      obtain ⟨b, hb⟩ := h a List.mem_cons_self
      obtain ⟨rest, hrest⟩ := ih fun a' ha' => h a' (List.mem_cons_of_mem _ ha')
      refine ⟨b :: rest, ?_⟩
      rw [List.mapM_cons, hb, hrest]
      rfl

/-- A map returns what its rounds return. -/
lemma mapM_eq_ok_iff {ε : Type} {f : α → Except ε β} {l : List α} {l' : List β} :
    l.mapM f = .ok l' ↔ List.Forall₂ (fun a b => f a = .ok b) l l' := by
  induction l generalizing l' with
  | nil =>
      rw [List.mapM_nil, pure_eq, Except.ok.injEq, List.forall₂_nil_left_iff]
      exact eq_comm
  | cons a l ih =>
      simp only [List.mapM_cons, bind_eq_ok, pure_eq, Except.ok.injEq, ih]
      constructor
      · rintro ⟨b, hb, rest, hrest, rfl⟩
        exact .cons hb hrest
      · intro h
        obtain ⟨b, rest, hb, hrest, rfl⟩ := List.forall₂_cons_left_iff.mp h
        exact ⟨b, hb, rest, hrest, rfl⟩

/-- A map of lookups fails when one of them finds nothing. -/
lemma mapM_okOr_eq_err {f : α → Option β} {e : ε} {l : List α} :
    l.mapM (fun a => okOr (f a) e) = .error (.err e) ↔ ∃ a ∈ l, f a = none := by
  induction l with
  | nil => simp
  | cons a l ih =>
      simp only [List.mapM_cons, List.mem_cons, exists_eq_or_imp, ← ih]
      cases ha : f a with
      | none => simp [okOr]
      | some b =>
          cases hrest : l.mapM (fun a => okOr (f a) e) with
          | error e' => simp [okOr]
          | ok rest => simp [okOr]

/-- A map of lookups returns, or fails with its one error. -/
lemma mapM_okOr_cases (f : α → Option β) (e : ε) (l : List α) :
    (∃ l', l.mapM (fun a => okOr (f a) e) = .ok l')
      ∨ l.mapM (fun a => okOr (f a) e) = .error (.err e) := by
  by_cases h : ∃ a ∈ l, f a = none
  · exact .inr (mapM_okOr_eq_err.mpr h)
  · left
    refine exists_mapM_eq_ok fun a ha => ?_
    obtain ⟨b, hb⟩ := Option.ne_none_iff_exists'.mp fun hnone => h ⟨a, ha, hnone⟩
    exact ⟨b, okOr_eq_ok.mpr hb⟩

end Outcome
