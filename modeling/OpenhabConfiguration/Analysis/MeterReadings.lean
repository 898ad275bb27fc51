import OpenhabConfiguration.Analysis.LoadTest

/-!
# The simulated electricity meters

The value that a thread of the electricity group publishes comes from a counter of its own,
the apartment from the counter that all threads share. An apartment therefore gets the values
of different threads, and a thread that is late takes its meter back. The values of every
apartment are in order, whatever the order of the threads, if and only if there is one thread
or at most one iteration (`meters_iff`).
-/

set_option autoImplicit false

namespace OpenhabConfiguration.Analysis

open Interface Model Runs

/-- The values that have been published to a topic, in order. -/
def valuesOf (g : RunningGroup) (topic : String) : List ℕ :=
  (g.published.filter fun p => p.1 = topic).map Prod.snd

section Meters

variable {N L t random : ℕ} {g g' : RunningGroup}

/-- A counter that does not exceed its maximum. -/
theorem meter_draw {held : ℕ} (h : held ≤ 5000) :
    (publishElectricity N).message.draw random held = some (held, held + 1) := by
  show some (Counter.draw ⟨0, 5000, 1⟩ held) = _
  rw [Counter.draw, if_neg (Nat.not_lt.mpr h)]

/-! ## The counters of the threads -/

/-- The counter of a thread counts its iterations, and what is published is what one of
these counters has been at. -/
structure Metered (L : ℕ) (g : RunningGroup) : Prop where
  held : ∀ t, (g.threads t).held + (g.threads t).iterations = L
  drawn : ∀ t index message, (g.threads t).drawn = some (index, message) →
    message + 1 = (g.threads t).held
  published : ∀ p ∈ g.published, p.2 < L

/-- Before the first iteration all counters are at their start, and nothing is published. -/
theorem metered_start : Metered L (RunningGroup.start (publishElectricity N) L) where
  held _ := Nat.zero_add L
  drawn _ _ _ h := by cases h
  published _ h := absurd h List.not_mem_nil

/-- A draw takes the next value of the thread's own counter, which does not wrap around. -/
theorem Metered.draw (hL : L ≤ 5001) (h : Metered L g)
    (hstep : g.step (publishElectricity N) N (.draw t random) = some g') :
    Metered L g' ∧ ∃ index iterations, (g.threads t).iterations = iterations + 1 ∧
      g'.threads t = ⟨iterations, (g.threads t).held + 1, some (index, (g.threads t).held)⟩ := by
  obtain ⟨iterations, message, own, -, hiterations, -, hmessage, -, hself, hother, -, hpublished⟩ :=
    RunningGroup.step_draw hstep
  have hheld := h.held t
  rw [meter_draw (by omega)] at hmessage
  cases hmessage
  refine ⟨⟨fun u => ?_, fun u index message hu => ?_, ?_⟩, _, iterations, hiterations, hself⟩
  · by_cases hut : u = t
    · subst hut
      rw [hself]
      show (g.threads u).held + 1 + iterations = L
      omega
    · rw [hother u hut]
      exact h.held u
  · by_cases hut : u = t
    · subst hut
      rw [hself] at hu ⊢
      cases hu
      rfl
    · rw [hother u hut] at hu ⊢
      exact h.drawn u index message hu
  · rw [hpublished]
    exact h.published

/-- A publication is of the value that the thread has drawn. -/
theorem Metered.publish (h : Metered L g)
    (hstep : g.step (publishElectricity N) N (.publish t) = some g') : Metered L g' := by
  obtain ⟨index, message, -, hdrawn, -, hself, hother, -, hpublished⟩ :=
    RunningGroup.step_publish hstep
  refine ⟨fun u => ?_, fun u index' message' hu => ?_, fun p hp => ?_⟩
  · by_cases hut : u = t
    · subst hut
      rw [hself]
      exact h.held u
    · rw [hother u hut]
      exact h.held u
  · by_cases hut : u = t
    · subst hut
      rw [hself] at hu
      cases hu
    · rw [hother u hut] at hu ⊢
      exact h.drawn u index' message' hu
  · rw [hpublished] at hp
    rcases List.mem_append.mp hp with hp | hp
    · exact h.published p hp
    · rw [List.mem_singleton.mp hp]
      have hmessage := h.drawn t index message hdrawn
      have hheld := h.held t
      show message < L
      omega

/-- Up to 5001 iterations the values count the iterations, in every run. -/
theorem metered_of_run (hL : L ≤ 5001) {moves : List ThreadMove}
    (hrun : run (RunningGroup.step (publishElectricity N) N)
      (RunningGroup.start (publishElectricity N) L) moves = some g) : Metered L g := by
  apply invariant_of_run _ metered_start hrun
  intro g move g' h hstep
  cases move with
  | draw t random => exact (h.draw hL hstep).1
  | publish t => exact h.publish hstep

/-! ## One thread -/

/-- What a single thread has published is in order, and below what it has drawn. -/
structure Single (g : RunningGroup) : Prop where
  sorted : (g.published.map Prod.snd).Pairwise (· ≤ ·)
  below : ∀ p ∈ g.published, p.2 < (g.threads 0).held
  drawn : ∀ index message, (g.threads 0).drawn = some (index, message) →
    ∀ p ∈ g.published, p.2 ≤ message

/-- Before the first iteration a single thread has published nothing. -/
theorem single_start : Single (RunningGroup.start (publishElectricity 1) L) where
  sorted := List.Pairwise.nil
  below _ h := absurd h List.not_mem_nil
  drawn _ _ h := by cases h

/-- A single thread draws no less than it has published. -/
theorem Single.draw (hL : L ≤ 5001) (hmetered : Metered L g) (h : Single g)
    (hstep : g.step (publishElectricity 1) 1 (.draw t random) = some g') : Single g' := by
  obtain ⟨-, index, iterations, -, hself⟩ := hmetered.draw hL hstep
  obtain ⟨_, _, _, ht, -, -, -, -, -, -, -, hpublished⟩ := RunningGroup.step_draw hstep
  obtain rfl : t = 0 := Nat.lt_one_iff.mp ht
  refine ⟨hpublished ▸ h.sorted, fun p hp => ?_, fun index' message hdrawn p hp => ?_⟩
  · rw [hpublished] at hp
    rw [hself]
    exact Nat.lt_succ_of_lt (h.below p hp)
  · rw [hpublished] at hp
    rw [hself] at hdrawn
    cases hdrawn
    exact Nat.le_of_lt (h.below p hp)

/-- A single thread publishes no less than before. -/
theorem Single.publish (hmetered : Metered L g) (h : Single g)
    (hstep : g.step (publishElectricity 1) 1 (.publish t) = some g') : Single g' := by
  obtain ⟨index, message, ht, hdrawn, -, hself, -, -, hpublished⟩ :=
    RunningGroup.step_publish hstep
  obtain rfl : t = 0 := Nat.lt_one_iff.mp ht
  refine ⟨?_, fun p hp => ?_, fun index' message' hdrawn' => ?_⟩
  · rw [hpublished, List.map_append, List.pairwise_append]
    refine ⟨h.sorted, List.pairwise_singleton _ _, fun v hv w hw => ?_⟩
    obtain ⟨p, hp, rfl⟩ := List.mem_map.mp hv
    rw [List.mem_singleton.mp hw]
    exact h.drawn index message hdrawn p hp
  · rw [hself]
    rw [hpublished] at hp
    rcases List.mem_append.mp hp with hp | hp
    · exact h.below p hp
    · rw [List.mem_singleton.mp hp]
      exact Nat.lt_of_succ_le (Nat.le_of_eq (hmetered.drawn 0 index message hdrawn))
  · rw [hself] at hdrawn'
    cases hdrawn'

/-- A single thread publishes in order, in every run. -/
theorem single_of_run (hL : L ≤ 5001) {moves : List ThreadMove}
    (hrun : run (RunningGroup.step (publishElectricity 1) 1)
      (RunningGroup.start (publishElectricity 1) L) moves = some g) : Single g := by
  have hboth : Metered L g ∧ Single g := by
    apply invariant_of_run (P := fun g => Metered L g ∧ Single g) _ ⟨metered_start, single_start⟩ hrun
    rintro g move g' ⟨hmetered, hsingle⟩ hstep
    cases move with
    | draw t random => exact ⟨(hmetered.draw hL hstep).1, hsingle.draw hL hmetered hstep⟩
    | publish t => exact ⟨hmetered.publish hstep, hsingle.publish hmetered hstep⟩
  exact hboth.2

/-! ## Two threads and two iterations -/

/-- A thread that begins an iteration and publishes at once. -/
theorem exists_iteration (group : ThreadGroup) {iterations message own : ℕ} (ht : t < N)
    (hiterations : (g.threads t).iterations = iterations + 1) (hnone : (g.threads t).drawn = none)
    (hmessage : group.message.draw 0 (g.threads t).held = some (message, own)) :
    ∃ g', run (RunningGroup.step group N) g [.draw t 0, .publish t] = some g' ∧
      g'.held = (group.topicCounter.draw g.held).2 ∧ g'.threads t = ⟨iterations, own, none⟩ ∧
      (∀ u, u ≠ t → g'.threads u = g.threads u) ∧
      g'.published = g.published ++
        [(group.topic (group.topicCounter.draw g.held).1, message)] := by
  obtain ⟨g₁, hdraw⟩ : ∃ g₁, g.step group N (.draw t 0) = some g₁ :=
    ⟨_, RunningGroup.step_draw_eq ht hiterations hnone hmessage⟩
  obtain ⟨iterations', message', own', -, hiterations', -, hmessage', hheld₁, hself₁, hother₁, -,
    hpublished₁⟩ := RunningGroup.step_draw hdraw
  have hsame : iterations' = iterations := by omega
  rw [hmessage] at hmessage'
  cases hmessage'
  obtain ⟨g₂, hpublish⟩ : ∃ g₂, g₁.step group N (.publish t) = some g₂ :=
    ⟨_, RunningGroup.step_publish_eq ht (congrArg Thread.drawn hself₁)⟩
  obtain ⟨index, message', -, hdrawn, hheld₂, hself₂, hother₂, -, hpublished₂⟩ :=
    RunningGroup.step_publish hpublish
  rw [hself₁] at hdrawn hself₂
  cases hdrawn
  refine ⟨g₂, run_cons.mpr ⟨g₁, hdraw, run_cons.mpr ⟨g₂, hpublish, run_nil.mpr rfl⟩⟩, ?_, ?_, ?_, ?_⟩
  · rw [hheld₂, hheld₁]
  · rw [hself₂, hsame]
  · intro u hu
    rw [hother₂ u hu, hother₁ u hu]
  · rw [hpublished₂, hpublished₁]

/-- Thread `0` has drawn for the first apartment and is late; the threads up to `k` have
published once, each for an apartment of its own. -/
structure Late (N L k : ℕ) (g : RunningGroup) : Prop where
  held : g.held = k + 2
  late : (g.threads 0).drawn = some (1, 0)
  ahead : ∀ t, 1 ≤ t → t ≤ k → g.threads t = ⟨L, 1, none⟩
  fresh : ∀ t, k < t → g.threads t = ⟨L + 1, 0, none⟩
  published : ∀ p ∈ g.published, p.1 ≠ (publishElectricity N).topic 1

/-- The counter of the topics up to its maximum. -/
theorem topicCounter_draw {held : ℕ} (h : held ≤ N) :
    (publishElectricity N).topicCounter.draw held = (held, held + 1) := by
  show Counter.draw ⟨1, N, 1⟩ held = _
  rw [Counter.draw, if_neg (Nat.not_lt.mpr h)]

/-- Thread 0 can be late while any number of others publish for other apartments. -/
theorem exists_late (hN : 1 ≤ N) (L : ℕ) {k : ℕ} (hk : k < N) :
    ∃ moves g, run (RunningGroup.step (publishElectricity N) N)
      (RunningGroup.start (publishElectricity N) (L + 1)) moves = some g ∧ Late N L k g := by
  induction k with
  | zero =>
      obtain ⟨g, hstep⟩ : ∃ g, (RunningGroup.start (publishElectricity N) (L + 1)).step
          (publishElectricity N) N (.draw 0 0) = some g :=
        ⟨_, RunningGroup.step_draw_eq hN rfl rfl (meter_draw (Nat.zero_le 5000))⟩
      obtain ⟨_, _, _, -, -, -, hmessage, hheld, hself, hother, -, hpublished⟩ :=
        RunningGroup.step_draw hstep
      cases hmessage
      have hindex : (publishElectricity N).topicCounter.draw
          (RunningGroup.start (publishElectricity N) (L + 1)).held = (1, 2) := topicCounter_draw hN
      rw [hindex] at hheld hself
      refine ⟨_, g, run_cons.mpr ⟨g, hstep, run_nil.mpr rfl⟩, hheld, ?_, fun t ht hle => ?_,
        fun t ht => ?_, ?_⟩
      · rw [hself]
        rfl
      · omega
      · rw [hother t (Nat.ne_of_gt ht)]
        rfl
      · rw [hpublished]
        exact fun p hp => absurd hp List.not_mem_nil
  | succ k ih =>
      obtain ⟨moves, g, hrun, hlate⟩ := ih (Nat.lt_of_succ_lt hk)
      have hnext := hlate.fresh (k + 1) (Nat.lt_succ_self k)
      obtain ⟨g', hround, hheld, hself, hother, hpublished⟩ := exists_iteration
        (publishElectricity N) hk (congrArg Thread.iterations hnext)
        (congrArg Thread.drawn hnext) (by rw [hnext]; exact meter_draw (Nat.zero_le 5000))
      rw [hlate.held, topicCounter_draw (by omega)] at hheld hpublished
      refine ⟨_, g', run_append.mpr ⟨g, hrun, hround⟩, hheld, ?_, fun t ht hle => ?_,
        fun t ht => ?_, fun p hp => ?_⟩
      · rw [hother 0 (Nat.succ_ne_zero k).symm]
        exact hlate.late
      · by_cases heq : t = k + 1
        · rw [heq, hself]
        · rw [hother t heq]
          exact hlate.ahead t ht (by omega)
      · rw [hother t (by omega)]
        exact hlate.fresh t (by omega)
      · rw [hpublished] at hp
        rcases List.mem_append.mp hp with hp | hp
        · exact hlate.published p hp
        · rw [List.mem_singleton.mp hp]
          intro heq
          have hindex : k + 2 = 1 := groupOf_topic_inj (s := .electricity).mp heq
          omega

/-- **A late thread takes a meter back**: with two threads and two iterations, the first
apartment can get the second value of one thread before the first value of another. -/
theorem exists_backwards (hN : 2 ≤ N) (L : ℕ) :
    ∃ moves g, run (RunningGroup.step (publishElectricity N) N)
      (RunningGroup.start (publishElectricity N) (L + 2)) moves = some g ∧
      valuesOf g ((publishElectricity N).topic 1) = [1, 0] := by
  obtain ⟨moves, g, hrun, hlate⟩ := exists_late (N := N) (k := N - 1) (by omega) (L + 1) (by omega)
  have hahead := hlate.ahead 1 (Nat.le_refl 1) (by omega)
  have hmessage : (publishElectricity N).message.draw 0 (g.threads 1).held = some (1, 2) := by
    rw [hahead]
    exact meter_draw (show 1 ≤ 5000 by decide)
  obtain ⟨g', hround, -, -, hother, hpublished⟩ := exists_iteration (publishElectricity N)
    (show 1 < N by omega) (congrArg Thread.iterations hahead) (congrArg Thread.drawn hahead) hmessage
  have hindex : ((publishElectricity N).topicCounter.draw g.held).1 = 1 := by
    show (Counter.draw ⟨1, N, 1⟩ g.held).1 = 1
    rw [Counter.draw, hlate.held, if_pos (show N - 1 + 2 > N by omega)]
  have hdrawn : (g'.threads 0).drawn = some (1, 0) := by
    rw [hother 0 (by decide)]
    exact hlate.late
  obtain ⟨g'', hlast⟩ : ∃ g'', g'.step (publishElectricity N) N (.publish 0) = some g'' :=
    ⟨_, RunningGroup.step_publish_eq (by omega) hdrawn⟩
  obtain ⟨index, message, -, hdrawn', -, -, -, -, hpublished'⟩ := RunningGroup.step_publish hlast
  rw [hdrawn] at hdrawn'
  cases hdrawn'
  have hnone : g.published.filter (fun p => p.1 = (publishElectricity N).topic 1) = [] := by
    rw [List.filter_eq_nil_iff]
    intro p hp heq
    exact hlate.published p hp (of_decide_eq_true heq)
  refine ⟨_, g'', run_append.mpr ⟨g', run_append.mpr ⟨g, hrun, hround⟩,
    run_cons.mpr ⟨g'', hlast, run_nil.mpr rfl⟩⟩, ?_⟩
  rw [valuesOf, hpublished', hpublished, hindex, List.filter_append, List.filter_append, hnone]
  simp

end Meters

/-- **The meters never run backwards**, with up to `5001` iterations, if and only if there is
one thread or at most one iteration: the values that a run publishes to a topic are in
order, whatever the order of the threads. -/
theorem meters_iff (N L : ℕ) (hN : 1 ≤ N) (hL : L ≤ 5001) :
    (∀ moves g, run (RunningGroup.step (publishElectricity N) N)
        (RunningGroup.start (publishElectricity N) L) moves = some g →
      ∀ topic, (valuesOf g topic).Pairwise (· ≤ ·)) ↔ N = 1 ∨ L ≤ 1 := by
  constructor
  · intro hall
    by_contra hboth
    obtain ⟨l, rfl⟩ : ∃ l, L = l + 2 := ⟨L - 2, by omega⟩
    obtain ⟨moves, g, hrun, hvalues⟩ := exists_backwards (N := N) (by omega) l
    have hsorted := hall moves g hrun ((publishElectricity N).topic 1)
    rw [hvalues] at hsorted
    simp at hsorted
  · rintro (rfl | hone) moves g hrun topic
    · exact (single_of_run hL hrun).sorted.sublist (List.filter_sublist.map _)
    · have hzero : ∀ v ∈ valuesOf g topic, v = 0 := by
        intro v hv
        obtain ⟨p, hp, rfl⟩ := List.mem_map.mp hv
        have hlt := (metered_of_run hL hrun).published p (List.mem_of_mem_filter hp)
        omega
      apply List.pairwise_of_forall_mem_list
      intro v hv w hw
      rw [hzero v hv, hzero w hw]

/-- Two iterations of a single thread publish in order. -/
theorem meters_one_thread :
    ∃ g, run (RunningGroup.step (publishElectricity 1) 1)
        (RunningGroup.start (publishElectricity 1) 2)
        [.draw 0 0, .publish 0, .draw 0 0, .publish 0] = some g ∧
      (valuesOf g "apartment/electricity1/").Pairwise (· ≤ ·) := by
  have hexists : ∃ g, run (RunningGroup.step (publishElectricity 1) 1)
      (RunningGroup.start (publishElectricity 1) 2)
      [.draw 0 0, .publish 0, .draw 0 0, .publish 0] = some g := ⟨_, rfl⟩
  obtain ⟨g, hrun⟩ := hexists
  exact ⟨g, hrun, (meters_iff 1 2 (by decide) (by decide)).mpr (.inl rfl) _ g hrun _⟩

/-- Two threads of two iterations: thread `1` is through before thread `0` has published its
first value, and the meter of the first apartment goes from `1` to `0`. -/
theorem meter_runs_backwards :
    ∃ g, run (RunningGroup.step (publishElectricity 2) 2)
        (RunningGroup.start (publishElectricity 2) 2)
        [.draw 0 0, .draw 1 0, .publish 1, .draw 1 0, .publish 1, .publish 0] = some g ∧
      valuesOf g "apartment/electricity1/" = [1, 0] := by
  refine ⟨_, rfl, ?_⟩
  decide

end OpenhabConfiguration.Analysis
