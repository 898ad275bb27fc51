import Mathlib.Algebra.BigOperators.Intervals
import Mathlib.Data.List.Count

/-!
# Drawing from a counter that wraps around

A counter runs through `1, …, N` and starts over. Whoever draws from it, the draws are
spread evenly: `Evenly N draws next` says how often each index has been drawn when the
counter holds `next`, and every draw keeps it (`Evenly.draw`). Two indices are drawn equally
often up to one, and after `N * L` draws each has been drawn `L` times.

Then what a step of one party does to a sum over all parties.
-/

set_option autoImplicit false

namespace RoundRobin

/-- The draws of a counter up to `N` that holds `next`: `rounds` whole rounds and the indices
below `next`. -/
structure Evenly (N : ℕ) (draws : List ℕ) (next rounds : ℕ) : Prop where
  one_le : 1 ≤ next
  le_succ : next ≤ N + 1
  length : draws.length = N * rounds + (next - 1)
  count : ∀ v, 1 ≤ v → v ≤ N → draws.count v = rounds + if v < next then 1 else 0
  range : ∀ v ∈ draws, 1 ≤ v ∧ v ≤ N

variable {N next rounds : ℕ} {draws : List ℕ}

/-- Before the first draw the counter holds the first index. -/
theorem evenly_nil (N : ℕ) : Evenly N [] 1 0 where
  one_le := Nat.le_refl 1
  le_succ := Nat.le_add_left 1 N
  length := by simp
  count v hv _ := by simp [Nat.not_lt.mpr hv]
  range v hv := absurd hv List.not_mem_nil

/-- A draw inside a round. -/
theorem Evenly.draw_next (h : Evenly N draws next rounds) (hle : next ≤ N) :
    Evenly N (draws ++ [next]) (next + 1) rounds where
  one_le := Nat.le_add_left 1 next
  le_succ := Nat.succ_le_succ hle
  length := by
    have hone := h.one_le
    rw [List.length_append, List.length_singleton, h.length]
    omega
  count v hv hvN := by
    rw [List.count_append, h.count v hv hvN, List.count_singleton]
    by_cases heq : next = v
    · subst heq
      simp
    · have hlt : v < next + 1 ↔ v < next := by omega
      simp [hlt, heq]
  range v hv := by
    rcases List.mem_append.mp hv with hv | hv
    · exact h.range v hv
    · rw [List.mem_singleton.mp hv]
      exact ⟨h.one_le, hle⟩

/-- A draw that starts over. -/
theorem Evenly.draw_wrap (hN : 1 ≤ N) (h : Evenly N draws (N + 1) rounds) :
    Evenly N (draws ++ [1]) 2 (rounds + 1) where
  one_le := by decide
  le_succ := Nat.succ_le_succ hN
  length := by
    rw [List.length_append, List.length_singleton, h.length, Nat.mul_succ]
    omega
  count v hv hvN := by
    rw [List.count_append, h.count v hv hvN, List.count_singleton, if_pos (by omega)]
    by_cases heq : v = 1
    · subst heq
      simp
    · have hlt : ¬ v < 2 := by omega
      simp [hlt, Ne.symm heq]
  range v hv := by
    rcases List.mem_append.mp hv with hv | hv
    · exact h.range v hv
    · rw [List.mem_singleton.mp hv]
      exact ⟨Nat.le_refl 1, hN⟩

/-- **Every draw** keeps the draws even. -/
theorem Evenly.draw (hN : 1 ≤ N) (h : Evenly N draws next rounds) :
    ∃ rounds', Evenly N (draws ++ [if next > N then 1 else next])
      ((if next > N then 1 else next) + 1) rounds' := by
  by_cases hwrap : next > N
  · have hnext : next = N + 1 := by
      have hle := h.le_succ
      omega
    rw [if_pos hwrap]
    exact ⟨rounds + 1, (hnext ▸ h).draw_wrap hN⟩
  · rw [if_neg hwrap]
    exact ⟨rounds, h.draw_next (Nat.le_of_not_lt hwrap)⟩

/-- **Two indices** have been drawn equally often, up to one. -/
theorem Evenly.count_le (h : Evenly N draws next rounds) {v w : ℕ} (hv : 1 ≤ v ∧ v ≤ N)
    (hw : 1 ≤ w ∧ w ≤ N) : draws.count v ≤ draws.count w + 1 := by
  rw [h.count v hv.1 hv.2, h.count w hw.1 hw.2]
  split <;> split <;> omega

/-- **After whole rounds** each index has been drawn once for each. -/
theorem Evenly.count_eq (hN : 1 ≤ N) (h : Evenly N draws next rounds) {L : ℕ}
    (hlength : draws.length = N * L) {v : ℕ} (hv : 1 ≤ v ∧ v ≤ N) : draws.count v = L := by
  have hone := h.one_le
  have hle := h.le_succ
  have htotal := h.length
  rw [hlength] at htotal
  rw [h.count v hv.1 hv.2]
  rcases Nat.lt_trichotomy rounds L with hlt | rfl | hgt
  · -- the counter is about to start over
    have hmul : N * (rounds + 1) ≤ N * L := Nat.mul_le_mul_left N hlt
    rw [Nat.mul_succ] at hmul
    have hnext : next = N + 1 := by omega
    have hrounds : N * (rounds + 1) = N * L := by
      rw [Nat.mul_succ]
      omega
    rw [if_pos (by omega)]
    exact Nat.eq_of_mul_eq_mul_left hN hrounds
  · rw [if_neg (by omega), Nat.add_zero]
  · have hmul : N * (L + 1) ≤ N * rounds := Nat.mul_le_mul_left N hgt
    rw [Nat.mul_succ] at hmul
    omega

/-- A sum over parties when one of them makes a step. -/
theorem sum_step {f f' : ℕ → ℕ} {t : ℕ} (ht : t < N) (hother : ∀ u, u ≠ t → f' u = f u) :
    ∑ u ∈ Finset.range N, f' u + f t = ∑ u ∈ Finset.range N, f u + f' t := by
  have hmem : t ∈ Finset.range N := Finset.mem_range.mpr ht
  have herase : ∑ u ∈ (Finset.range N).erase t, f' u = ∑ u ∈ (Finset.range N).erase t, f u :=
    Finset.sum_congr rfl fun u hu => hother u (Finset.ne_of_mem_erase hu)
  rw [← Finset.add_sum_erase _ f hmem, ← Finset.add_sum_erase _ f' hmem, herase]
  omega

/-- A step that lowers the count of one party and keeps the others lowers the sum. -/
theorem sum_lt_of_step {f f' : ℕ → ℕ} {t : ℕ} (ht : t < N) (hother : ∀ u, u ≠ t → f' u = f u)
    (hlt : f' t < f t) : ∑ u ∈ Finset.range N, f' u < ∑ u ∈ Finset.range N, f u := by
  have hsum := sum_step ht hother
  omega

end RoundRobin
