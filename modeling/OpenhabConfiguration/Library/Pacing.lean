import Mathlib.Algebra.BigOperators.Intervals
import Mathlib.Algebra.Order.BigOperators.Group.Finset

/-!
# Times with a least distance

A list of times is paced when each is at least `T` behind those before it. Between two
times there is room for one more than the distance allows (`Paced.length_mul_le`), and so
for `W / T + 1` in a window of length `W` (`Paced.window_le`). Then how many of a list of
events that belong to `N` parties there can be when each party has at most `k`.
-/

set_option autoImplicit false

namespace Pacing

/-- Each time is at least `T` behind all times before it. -/
def Paced (T : ℕ) (times : List ℕ) : Prop := times.Pairwise fun x y => x + T ≤ y

section Paced

variable {T a b W time : ℕ} {times : List ℕ}

/-- The empty list is paced. -/
theorem paced_nil : Paced T [] := List.Pairwise.nil

/-- A time that keeps its distance from all times before it can come next. -/
theorem Paced.concat (h : Paced T times) (hall : ∀ x ∈ times, x + T ≤ time) :
    Paced T (times ++ [time]) := by
  refine List.pairwise_append.mpr ⟨h, List.pairwise_singleton _ _, ?_⟩
  intro x hx y hy
  rw [List.mem_singleton.mp hy]
  exact hall x hx

/-- Some of the times of a paced list are paced. -/
theorem Paced.filter (h : Paced T times) (p : ℕ → Bool) : Paced T (times.filter p) :=
  List.Pairwise.filter p h

/-- Paced times between `a` and `b`. -/
theorem Paced.length_mul_le (h : Paced T times) (hab : a ≤ b + T) (hfrom : ∀ x ∈ times, a ≤ x)
    (hto : ∀ x ∈ times, x ≤ b) : times.length * T + a ≤ b + T := by
  induction times generalizing a with
  | nil => simpa using hab
  | cons time times ih =>
      obtain ⟨hlater, hrest⟩ := List.pairwise_cons.mp h
      have hfirst := hfrom time List.mem_cons_self
      have hlast := hto time List.mem_cons_self
      have hih := ih (a := time + T) hrest (by omega) hlater
        fun x hx => hto x (List.mem_cons_of_mem _ hx)
      rw [List.length_cons, Nat.add_mul, Nat.one_mul]
      omega

/-- **A window** of length `W`. -/
theorem Paced.window_le (hT : 0 < T) (h : Paced T times) (a W : ℕ) :
    (times.filter fun x => a ≤ x ∧ x ≤ a + W).length ≤ W / T + 1 := by
  have hbetween : ∀ x ∈ times.filter fun x => a ≤ x ∧ x ≤ a + W, a ≤ x ∧ x ≤ a + W := by
    intro x hx
    simpa using (List.mem_filter.mp hx).2
  have hmul := (h.filter fun x => a ≤ x ∧ x ≤ a + W).length_mul_le (a := a) (b := a + W)
    (by omega) (fun x hx => (hbetween x hx).1) fun x hx => (hbetween x hx).2
  have hle : (times.filter fun x => a ≤ x ∧ x ≤ a + W).length * T ≤ W + T := by omega
  calc (times.filter fun x => a ≤ x ∧ x ≤ a + W).length ≤ (W + T) / T :=
        (Nat.le_div_iff_mul_le hT).mpr hle
    _ = W / T + 1 := Nat.add_div_right W hT

end Paced

section Parties

variable {α : Type} {party : α → ℕ} {N : ℕ} {events : List α}

/-- Every event is that of one party. -/
theorem sum_countP (h : ∀ e ∈ events, party e < N) (p : α → Bool) :
    ∑ t ∈ Finset.range N, events.countP (fun e => p e && party e == t) = events.countP p := by
  induction events with
  | nil => simp
  | cons e events ih =>
      have hfirst := h e List.mem_cons_self
      have hone : ∑ t ∈ Finset.range N, (if (p e && party e == t) = true then 1 else 0) =
          if p e = true then 1 else 0 := by
        cases hp : p e with
        | false => simp
        | true => simp [hfirst]
      simp only [List.countP_cons, Finset.sum_add_distrib, hone]
      rw [ih fun e he => h e (List.mem_cons_of_mem _ he)]

/-- Events of `N` parties with at most `k` for each are at most `N * k` together. -/
theorem countP_le_mul {k : ℕ} (h : ∀ e ∈ events, party e < N) (p : α → Bool)
    (hk : ∀ t < N, events.countP (fun e => p e && party e == t) ≤ k) :
    events.countP p ≤ N * k := by
  rw [← sum_countP h p]
  calc ∑ t ∈ Finset.range N, events.countP (fun e => p e && party e == t)
      ≤ ∑ _t ∈ Finset.range N, k := Finset.sum_le_sum fun t ht => hk t (Finset.mem_range.mp ht)
    _ = N * k := by rw [Finset.sum_const_nat fun _ _ => rfl, Finset.card_range]

end Parties

end Pacing
