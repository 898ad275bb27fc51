import Mathlib.Algebra.Order.BigOperators.Group.Finset
import Mathlib.Data.Int.CardIntervalMod
import OpenhabConfiguration.Analysis.MeterReadings

/-!
# What the electricity group publishes in total

Which apartment gets which value is up to the order of the threads (`meters_iff`). The values
as a whole are not: each thread takes its counter through the values in turn, over and over,
so that a group that is through has published each value once for every time that one
thread's iterations come round to it, times the number of threads (`meters_total`).
-/

set_option autoImplicit false

namespace OpenhabConfiguration.Analysis

open Model Runs

/-- What the counter of a thread holds after `k` draws. -/
def heldAfter : ℕ → ℕ
  | 0 => 0
  | k + 1 => k % 5001 + 1

/-- How often a thread draws `v` in its first `k` iterations. -/
def timesDrawn (v k : ℕ) : ℕ := Nat.count (fun j => j % 5001 = v) k

/-- The thread has drawn a message that it has not published. -/
def carrying (v : ℕ) (thread : Thread) : ℕ := if thread.drawn.map Prod.snd = some v then 1 else 0

section Totals

variable {N L t random : ℕ} {g g' : RunningGroup}

/-- What a thread draws in an iteration depends only on how many it has begun. -/
theorem draw_heldAfter (k : ℕ) : (publishElectricity N).message.draw random (heldAfter k) =
    some (k % 5001, heldAfter (k + 1)) := by
  show some (Counter.draw ⟨0, 5000, 1⟩ (heldAfter k)) = _
  cases k with
  | zero => rfl
  | succ k =>
      have hnext : (k + 1) % 5001 = if k % 5001 + 1 > 5000 then 0 else k % 5001 + 1 := by
        split <;> omega
      rw [Counter.draw, heldAfter, heldAfter, hnext]

/-- One more iteration draws one more value. -/
theorem timesDrawn_succ (v k : ℕ) :
    timesDrawn v (k + 1) = timesDrawn v k + if k % 5001 = v then 1 else 0 :=
  Nat.count_succ _ k

/-- A round of the counter has every value once. -/
theorem timesDrawn_eq (v k : ℕ) :
    timesDrawn v k = if v ≤ 5000 then k / 5001 + if v < k % 5001 then 1 else 0 else 0 := by
  unfold timesDrawn
  split
  · rename_i hv
    have hmod : v % 5001 = v := Nat.mod_eq_of_lt (by omega)
    have hcount := Nat.count_modEq_card (r := 5001) k (by decide) v
    simp only [Nat.ModEq, hmod] at hcount
    exact hcount
  · rw [Nat.count_iff_forall_not]
    intro j _ heq
    omega

/-- The values that have been published, or are carried, are those that the threads have
drawn. -/
structure Totalled (N L : ℕ) (g : RunningGroup) : Prop where
  held : ∀ t, ∃ k, k + (g.threads t).iterations = L ∧ (g.threads t).held = heldAfter k
  count : ∀ v, (g.published.map Prod.snd).count v +
    ∑ t ∈ Finset.range N, carrying v (g.threads t) =
      ∑ t ∈ Finset.range N, timesDrawn v (L - (g.threads t).iterations)

/-- Before the first iteration nothing has been drawn. -/
theorem totalled_start : Totalled N L (RunningGroup.start (publishElectricity N) L) where
  held _ := ⟨0, Nat.zero_add L, rfl⟩
  count v := by simp [RunningGroup.start, carrying, timesDrawn]

/-- A draw is carried until it is published. -/
theorem Totalled.draw (h : Totalled N L g)
    (hstep : g.step (publishElectricity N) N (.draw t random) = some g') : Totalled N L g' := by
  obtain ⟨iterations, message, own, ht, hiterations, hnone, hmessage, -, hself, hother, -,
    hpublished⟩ := RunningGroup.step_draw hstep
  obtain ⟨k, hk, hheld⟩ := h.held t
  rw [hheld, draw_heldAfter] at hmessage
  cases hmessage
  refine ⟨fun u => ?_, fun v => ?_⟩
  · by_cases hut : u = t
    · subst hut
      rw [hself]
      refine ⟨k + 1, ?_, rfl⟩
      show k + 1 + iterations = L
      omega
    · rw [hother u hut]
      exact h.held u
  · -- the thread has drawn one value more, and carries it
    have hcarried := RoundRobin.sum_step (f := fun u => carrying v (g.threads u)) ht
      fun u hu => congrArg (carrying v) (hother u hu)
    have hdrawn := RoundRobin.sum_step
      (f := fun u => timesDrawn v (L - (g.threads u).iterations)) ht
      fun u hu => congrArg (fun thread => timesDrawn v (L - thread.iterations)) (hother u hu)
    have hbefore : carrying v (g.threads t) = 0 := by simp [carrying, hnone]
    have hafter : carrying v (g'.threads t) = if k % 5001 = v then 1 else 0 := by
      simp [carrying, hself]
    have hcount : timesDrawn v (L - (g'.threads t).iterations) =
        timesDrawn v (L - (g.threads t).iterations) + if k % 5001 = v then 1 else 0 := by
      have hearlier : L - (g.threads t).iterations = k := by omega
      have hlater : L - (g'.threads t).iterations = k + 1 := by
        rw [hself]
        show L - iterations = k + 1
        omega
      rw [hearlier, hlater, timesDrawn_succ]
    have htotal := h.count v
    rw [hbefore, hafter] at hcarried
    rw [hcount] at hdrawn
    rw [hpublished]
    omega

/-- A publication is of a value that has been carried. -/
theorem Totalled.publish (h : Totalled N L g)
    (hstep : g.step (publishElectricity N) N (.publish t) = some g') : Totalled N L g' := by
  obtain ⟨index, message, ht, hdrawn, -, hself, hother, -, hpublished⟩ :=
    RunningGroup.step_publish hstep
  have hiterations : ∀ u, (g'.threads u).iterations = (g.threads u).iterations := by
    intro u
    by_cases hut : u = t
    · rw [hut, hself]
    · rw [hother u hut]
  refine ⟨fun u => ?_, fun v => ?_⟩
  · rw [hiterations]
    by_cases hut : u = t
    · subst hut
      rw [hself]
      exact h.held u
    · rw [hother u hut]
      exact h.held u
  · have hcarried := RoundRobin.sum_step (f := fun u => carrying v (g.threads u)) ht
      fun u hu => congrArg (carrying v) (hother u hu)
    have hafter : carrying v (g'.threads t) = 0 := by simp [carrying, hself]
    have hbefore : carrying v (g.threads t) = [message].count v := by
      rw [List.count_singleton]
      simp [carrying, hdrawn]
    have htotal := h.count v
    rw [hbefore, hafter] at hcarried
    simp only [hiterations]
    rw [hpublished, List.map_append, List.count_append]
    simp only [List.map_cons, List.map_nil]
    omega

/-- The account of the values holds in every run. -/
theorem totalled_of_run {moves : List ThreadMove}
    (hrun : run (RunningGroup.step (publishElectricity N) N)
      (RunningGroup.start (publishElectricity N) L) moves = some g) : Totalled N L g := by
  apply invariant_of_run _ totalled_start hrun
  intro g move g' h hstep
  cases move with
  | draw t random => exact h.draw hstep
  | publish t => exact h.publish hstep

end Totals

/-- **The totals of the meters.** In every state of a run of the electricity group, a value
has been published at most as often as `N` threads of `L` iterations come round to it; when
all threads are through, exactly as often, whatever their order has been. -/
theorem meters_total (N L : ℕ) (moves : List ThreadMove) (g : RunningGroup)
    (hrun : run (RunningGroup.step (publishElectricity N) N)
      (RunningGroup.start (publishElectricity N) L) moves = some g) (v : ℕ) :
    (g.published.map Prod.snd).count v ≤
      N * (if v ≤ 5000 then L / 5001 + if v < L % 5001 then 1 else 0 else 0) ∧
    ((∀ t < N, (g.threads t).Finished) → (g.published.map Prod.snd).count v =
      N * (if v ≤ 5000 then L / 5001 + if v < L % 5001 then 1 else 0 else 0)) := by
  have hcount := (totalled_of_run hrun).count v
  have hall : ∑ t ∈ Finset.range N, timesDrawn v L =
      N * (if v ≤ 5000 then L / 5001 + if v < L % 5001 then 1 else 0 else 0) := by
    rw [Finset.sum_const_nat fun _ _ => timesDrawn_eq v L, Finset.card_range]
  rw [← hall]
  constructor
  · have hle : ∑ t ∈ Finset.range N, timesDrawn v (L - (g.threads t).iterations) ≤
        ∑ t ∈ Finset.range N, timesDrawn v L :=
      Finset.sum_le_sum fun t _ => Nat.count_monotone _ (Nat.sub_le L _)
    omega
  · intro hfinished
    have hcarried : ∑ t ∈ Finset.range N, carrying v (g.threads t) = 0 := by
      apply Finset.sum_eq_zero
      intro t ht
      simp [carrying, (hfinished t (Finset.mem_range.mp ht)).2]
    have hdrawn : ∑ t ∈ Finset.range N, timesDrawn v (L - (g.threads t).iterations) =
        ∑ t ∈ Finset.range N, timesDrawn v L := by
      apply Finset.sum_congr rfl
      intro t ht
      rw [(hfinished t (Finset.mem_range.mp ht)).1, Nat.sub_zero]
    omega

/-- With `7000` iterations the counters start over: three threads publish `1998` six times
and `1999` three times. -/
theorem meters_total_three : ∃ moves g,
    run (RunningGroup.step (publishElectricity 3) 3) (RunningGroup.start (publishElectricity 3) 7000)
      moves = some g ∧
    (g.published.map Prod.snd).count 1998 = 6 ∧ (g.published.map Prod.snd).count 1999 = 3 := by
  obtain ⟨moves, g, hrun, hfinished⟩ := exists_run_finished (N := 3) (exists_draw .electricity 3)
    (RunningGroup.start (publishElectricity 3) 7000)
  exact ⟨moves, g, hrun, (meters_total 3 7000 moves g hrun 1998).2 hfinished,
    (meters_total 3 7000 moves g hrun 1999).2 hfinished⟩

end OpenhabConfiguration.Analysis
