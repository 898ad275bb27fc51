import Mathlib.Data.List.Induction

/-!
# Runs of a machine

A machine makes a step for each move, or rejects the move (`none`). A run is a list of moves
none of which is rejected. What holds in every state of a run is shown for one step:
`invariant_of_run` for properties of the state, `history_of_run` for properties that also
speak of the moves so far. Then what two machines have in common (`run_of_simulation`), and
how long a run can be and where it can be led to (`length_le_of_run`, `exists_run_final`).
-/

set_option autoImplicit false

namespace Runs

variable {σ μ : Type} {step : σ → μ → Option σ} {s t : σ} {move : μ} {moves before after : List μ}

/-- The state behind a list of moves, if none is rejected. -/
def run (step : σ → μ → Option σ) (s : σ) (moves : List μ) : Option σ := moves.foldlM step s

/-- A run without moves ends where it began. -/
@[simp] theorem run_nil : run step s [] = some t ↔ s = t := by
  rw [run, List.foldlM_nil]
  exact Option.some_inj

/-- A run of two lists of moves is one run and then the other. -/
theorem run_append : run step s (before ++ after) = some t ↔
    ∃ u, run step s before = some u ∧ run step u after = some t := by
  rw [run, List.foldlM_append]
  exact Option.bind_eq_some_iff

/-- A run begins with a step. -/
theorem run_cons : run step s (move :: moves) = some t ↔
    ∃ u, step s move = some u ∧ run step u moves = some t := by
  rw [run, List.foldlM_cons]
  exact Option.bind_eq_some_iff

/-- A run ends with a step. -/
theorem run_concat : run step s (moves ++ [move]) = some t ↔
    ∃ u, run step s moves = some u ∧ step u move = some t := by
  rw [run_append]
  simp only [run_cons, run_nil, exists_eq_right]

/-- What every step keeps, every run keeps. -/
theorem invariant_of_run {P : σ → Prop} (hstep : ∀ s move t, P s → step s move = some t → P t)
    (hs : P s) (h : run step s moves = some t) : P t := by
  induction moves generalizing s with
  | nil => exact run_nil.mp h ▸ hs
  | cons move moves ih =>
      obtain ⟨u, hmove, hrest⟩ := run_cons.mp h
      exact ih (hstep s move u hs hmove) hrest

/-- A property of the moves so far and of the state they lead to. -/
theorem history_of_run {P : List μ → σ → Prop} (hs : P [] s)
    (hstep : ∀ moves s move t, P moves s → step s move = some t → P (moves ++ [move]) t)
    (h : run step s moves = some t) : P moves t := by
  induction moves using List.reverseRecOn generalizing t with
  | nil => exact run_nil.mp h ▸ hs
  | append_singleton moves move ih =>
      obtain ⟨u, hmoves, hmove⟩ := run_concat.mp h
      exact hstep moves u move t (ih hmoves) hmove

/-! ## Machines compared -/

section Simulation

variable {τ ν : Type} {step' : τ → ν → Option τ} {moves' : μ → List ν}

/-- **A simulation**: when every step of a machine is a run of another one, on the moves that
the step stands for, every run of the machine is a run of the other one. -/
theorem run_of_simulation (abs : σ → τ)
    (hstep : ∀ s move t, step s move = some t → run step' (abs s) (moves' move) = some (abs t))
    (h : run step s moves = some t) : run step' (abs s) (moves.flatMap moves') = some (abs t) := by
  induction moves generalizing s with
  | nil =>
      rw [run_nil] at h
      rw [h]
      exact run_nil.mpr rfl
  | cons move moves ih =>
      obtain ⟨u, hmove, hrest⟩ := run_cons.mp h
      rw [List.flatMap_cons]
      exact run_append.mpr ⟨abs u, hstep s move u hmove, ih hrest⟩

end Simulation

/-! ## Runs that end -/

section Measure

variable (measure : σ → ℕ)

/-- When every move lowers the measure by one, but for costly ones, which can add up to `k`
before they do, a run is as long as the measure at its beginning and its costly moves allow. -/
theorem length_le_of_run {costly : μ → Bool} {k : ℕ}
    (hstep : ∀ s move t, step s move = some t →
      measure t + 1 ≤ measure s + if costly move then k else 0)
    (h : run step s moves = some t) :
    moves.length + measure t ≤ measure s + k * moves.countP costly := by
  induction moves generalizing s with
  | nil =>
      rw [run_nil.mp h, List.countP_nil, List.length_nil]
      omega
  | cons move moves ih =>
      obtain ⟨u, hmove, hrest⟩ := run_cons.mp h
      have hfirst := hstep s move u hmove
      have hlater := ih hrest
      rw [List.countP_cons, List.length_cons, Nat.mul_add]
      split at hfirst
      · rename_i hcostly
        rw [if_pos hcostly]
        omega
      · rename_i hcostly
        rw [if_neg hcostly]
        omega

/-- When a state that is not final has an allowed move that lowers the measure, a final state
can be reached with allowed moves. -/
theorem exists_run_final (final : σ → Prop) {allowed : μ → Prop}
    (hstep : ∀ s, ¬ final s → ∃ move t, allowed move ∧ step s move = some t ∧
      measure t < measure s) (s : σ) :
    ∃ moves t, (∀ move ∈ moves, allowed move) ∧ run step s moves = some t ∧ final t := by
  induction hmeasure : measure s using Nat.strongRecOn generalizing s with
  | ind m ih =>
      by_cases hfinal : final s
      · exact ⟨[], s, fun _ hin => absurd hin List.not_mem_nil, run_nil.mpr rfl, hfinal⟩
      · obtain ⟨move, u, hallowed, hmove, hlt⟩ := hstep s hfinal
        obtain ⟨moves, t, hmoves, hrun, hend⟩ := ih _ (hmeasure ▸ hlt) u rfl
        refine ⟨move :: moves, t, ?_, run_cons.mpr ⟨u, hmove, hrun⟩, hend⟩
        exact List.forall_mem_cons.mpr ⟨hallowed, hmoves⟩

end Measure

end Runs
