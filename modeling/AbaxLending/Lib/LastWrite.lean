import AbaxLending.Lib.LabelledRun

/-!
Registers that hold what was last written to them.

`write a` is what an entry of a log writes to a register, if it does; `lastWrite write b log`
is what a register that started with `b` holds after the log.  A reading of a state
that every label of a run updates by what the label writes is the last write of the run
(`run_lastWrite`).
-/

variable {α β : Type}

/-- What a register holds after a log, from what it started with. -/
def lastWrite (write : α → Option β) (b : β) (log : List α) : β :=
  log.foldl (fun b a => (write a).getD b) b

section

variable {write : α → Option β} {b : β} {log : List α}

/-- A log after another one writes to what that one left. -/
lemma lastWrite_append (before after : List α) :
    lastWrite write b (before ++ after) = lastWrite write (lastWrite write b before) after :=
  List.foldl_append

/-- One more entry of a log. -/
lemma lastWrite_concat (a : α) :
    lastWrite write b (log ++ [a]) = (write a).getD (lastWrite write b log) :=
  lastWrite_append log [a]

/-- A log that does not write leaves the register alone. -/
lemma lastWrite_of_silent (h : ∀ a ∈ log, write a = none) : lastWrite write b log = b := by
  induction log generalizing b with
  | nil => rfl
  | cons a rest ih =>
      obtain ⟨ha, hrest⟩ := List.forall_mem_cons.mp h
      rw [← List.singleton_append, lastWrite_append, ih hrest, lastWrite, List.foldl_cons, ha]
      rfl

/-- A register holds what it started with, or what some entry wrote. -/
lemma lastWrite_cases (write : α → Option β) (b : β) (log : List α) :
    lastWrite write b log = b ∨ ∃ a ∈ log, write a = some (lastWrite write b log) := by
  induction log using List.reverseRecOn with
  | nil => exact .inl rfl
  | append_singleton before a ih =>
      rw [lastWrite_concat]
      cases ha : write a with
      | some v => exact .inr ⟨a, by simp, ha⟩
      | none =>
          rcases ih with hstart | ⟨c, hc, hwrite⟩
          · exact .inl hstart
          · exact .inr ⟨c, List.mem_append_left _ hc, hwrite⟩

end

/-- The last value that an entry of a log has. -/
def lastEntry (value : α → Option β) (log : List α) : Option β := log.reverse.findSome? value

/-- One more entry of a log. -/
lemma lastEntry_concat (value : α → Option β) (log : List α) (a : α) :
    lastEntry value (log ++ [a]) = (value a).or (lastEntry value log) := by
  rw [lastEntry, List.reverse_concat, List.findSome?_cons, lastEntry]
  cases value a <;> rfl

/-- A register that may be empty holds the last value, or what it started with. -/
lemma lastWrite_map_some (value : α → Option β) (b : Option β) (log : List α) :
    lastWrite (fun a => (value a).map some) b log = (lastEntry value log).or b := by
  induction log using List.reverseRecOn with
  | nil => rfl
  | append_singleton before a ih =>
      rw [lastWrite_concat, lastEntry_concat, ih]
      cases value a <;> rfl

/-- **The register rule**: a reading that every label updates by what it writes holds the last
write of a run. -/
theorem LabelledRun.run_lastWrite {σ : Type} {step : σ → α → Option σ} (read : σ → β)
    (write : α → Option β) {labels : List α} {s s' : σ}
    (hstep : ∀ a s s', step s a = some s' → read s' = (write a).getD (read s))
    (h : run step s labels = some s') : read s' = lastWrite write (read s) labels := by
  refine run_history (P := fun before s' => read s' = lastWrite write (read s) before) rfl
    (fun before a s₁ s₂ _ hbefore ha => ?_) h
  rw [hstep a s₁ s₂ ha, hbefore, lastWrite_concat]
