import OpenhabConfiguration.Analysis.LoadTest
import OpenhabConfiguration.Library.Pacing
import OpenhabConfiguration.Model.LoadTiming

/-!
# How hard a test plan drives openHAB

A thread publishes at most once per pause of its timer, whatever the other threads do and
however long the steps take (`OnTime`). So a plan cannot publish more in any window of time
than its timers allow (`plan_rate`), and it does not end before the last thread of each group
has started, has paused to connect and has paused for each loop (`plan_duration`).
-/

set_option autoImplicit false

namespace OpenhabConfiguration.Analysis

open Interface Model Runs Pacing

/-! ## One step, seen from one thread -/

/-- The times at which a thread has published, in order. -/
def times (log : List Stamp) (s : Sensor) (t : ℕ) : List ℕ :=
  (log.filter fun stamp => stamp.sensor = s ∧ stamp.thread = t).map Stamp.time

/-- A publication of the thread is its last one so far. -/
@[simp] theorem times_append_self (log : List Stamp) (time : ℕ) (s : Sensor) (t : ℕ) :
    times (log ++ [⟨time, s, t⟩]) s t = times log s t ++ [time] := by
  simp [times]

/-- A publication of another thread is none of this one. -/
theorem times_append_ne {log : List Stamp} {stamp : Stamp} {s : Sensor} {t : ℕ}
    (h : ¬ (stamp.sensor = s ∧ stamp.thread = t)) :
    times (log ++ [stamp]) s t = times log s t := by
  simp [times, h]

/-- The thread `t` of the group of `s`. -/
def RunningPlan.thread (g : RunningPlan) (s : Sensor) (t : ℕ) : Thread := (g.groups s).threads t

/-- What a step can do to one thread: nothing, or it connects, begins an iteration or
publishes. -/
inductive Moved (plan : TestPlan) (s : Sensor) (t : ℕ) (g g' : RunningPlan) : Prop where
  | other (hthread : RunningPlan.thread g' s t = RunningPlan.thread g s t)
      (hconnected : g'.connected s t = g.connected s t)
      (hready : g'.ready s t = g.ready s t) (htimes : times g'.log s t = times g.log s t)
      (hnow : g.now ≤ g'.now)
  | connect (hthread : RunningPlan.thread g' s t = RunningPlan.thread g s t)
      (hnot : g.connected s t = false) (hconnected : g'.connected s t = true)
      (hready : g.ready s t ≤ g.now) (htimes : times g'.log s t = times g.log s t)
      (hnow : g'.now = g.now)
  | draw (hbefore : g.connected s t = true) (hconnected : g'.connected s t = true)
      (hnone : (RunningPlan.thread g s t).drawn = none)
      (hsome : (RunningPlan.thread g' s t).drawn.isSome)
      (hiterations : (RunningPlan.thread g s t).iterations =
        (RunningPlan.thread g' s t).iterations + 1)
      (hready : g'.ready s t = g.now + plan.Timer s)
      (htimes : times g'.log s t = times g.log s t) (hnow : g'.now = g.now)
  | publish (hsome : (RunningPlan.thread g s t).drawn.isSome)
      (hnone : (RunningPlan.thread g' s t).drawn = none)
      (hiterations : (RunningPlan.thread g' s t).iterations =
        (RunningPlan.thread g s t).iterations)
      (hconnected : g'.connected s t = g.connected s t) (hready : g.ready s t ≤ g.now)
      (htimes : times g'.log s t = times g.log s t ++ [g.now]) (hnow : g'.now = g.now)

section Step

variable {plan : TestPlan} {delay : ℕ} {g g' : RunningPlan} {s : Sensor} {t : ℕ}

/-- A thread connects once, and not before it is ready. -/
theorem RunningPlan.step_connect (h : g.step plan (.connect s t) = some g') :
    t < plan.NumberApartments ∧ g.connected s t = false ∧ g.ready s t ≤ g.now ∧
      g' = { g with
        connected := Function.update g.connected s (Function.update (g.connected s) t true) } := by
  rw [RunningPlan.step] at h
  split at h
  · rename_i hcan
    obtain ⟨ht, hnot, hready⟩ := hcan
    exact ⟨ht, hnot, hready, (Option.some.inj h).symm⟩
  · cases h

/-- A thread begins an iteration when it has connected, and its timer starts. -/
theorem RunningPlan.step_draw {random : ℕ} (h : g.step plan (.draw s t random) = some g') :
    g.connected s t = true ∧
    ∃ group, (g.groups s).step (plan.group s) plan.NumberApartments (.draw t random) = some group ∧
      g' = { g with
        groups := Function.update g.groups s group
        ready := Function.update g.ready s
          (Function.update (g.ready s) t (g.now + plan.Timer s)) } := by
  rw [RunningPlan.step] at h
  split at h
  · rename_i hconnected
    obtain ⟨group, hgroup, heq⟩ := Option.map_eq_some_iff.mp h
    exact ⟨hconnected, group, hgroup, heq.symm⟩
  · cases h

/-- A thread publishes when its timer has run down. -/
theorem RunningPlan.step_publish (h : g.step plan (.publish s t) = some g') :
    g.ready s t ≤ g.now ∧
    ∃ group, (g.groups s).step (plan.group s) plan.NumberApartments (.publish t) = some group ∧
      g' = { g with
        groups := Function.update g.groups s group
        log := g.log ++ [⟨g.now, s, t⟩] } := by
  rw [RunningPlan.step] at h
  split at h
  · rename_i hready
    obtain ⟨group, hgroup, heq⟩ := Option.map_eq_some_iff.mp h
    exact ⟨hready, group, hgroup, heq.symm⟩
  · cases h

/-- **One step**, seen from any thread. -/
theorem Moved.of_step {move : PlanMove} (h : g.step plan move = some g') (s : Sensor) (t : ℕ) :
    Moved plan s t g g' := by
  cases move with
  | wait milliseconds =>
      cases h
      exact .other rfl rfl rfl rfl (Nat.le_add_right _ _)
  | connect s' t' =>
      obtain ⟨-, hnot, hready, rfl⟩ := RunningPlan.step_connect h
      by_cases hs : s = s'
      · subst hs
        by_cases ht : t = t'
        · subst ht
          exact .connect rfl hnot (by simp) hready rfl rfl
        · exact .other rfl (by simp [ht]) rfl rfl (Nat.le_refl _)
      · exact .other rfl (by simp [hs]) rfl rfl (Nat.le_refl _)
  | draw s' t' random =>
      obtain ⟨hconnected, group, hgroup, rfl⟩ := RunningPlan.step_draw h
      obtain ⟨left, message, own, -, hleft, hnone, -, -, hself, hother, -⟩ :=
        RunningGroup.step_draw hgroup
      by_cases hs : s = s'
      · subst hs
        by_cases ht : t = t'
        · subst ht
          refine .draw hconnected hconnected hnone ?_ ?_ ?_ rfl rfl
          · simp [RunningPlan.thread, hself]
          · simpa [RunningPlan.thread, hself] using hleft
          · simp
        · refine .other ?_ rfl ?_ rfl (Nat.le_refl _)
          · simpa [RunningPlan.thread] using hother t ht
          · simp [ht]
      · refine .other ?_ rfl ?_ rfl (Nat.le_refl _)
        · simp [RunningPlan.thread, hs]
        · simp [hs]
  | publish s' t' =>
      obtain ⟨hready, group, hgroup, rfl⟩ := RunningPlan.step_publish h
      obtain ⟨index, message, -, hdrawn, -, hself, hother, -⟩ := RunningGroup.step_publish hgroup
      by_cases hst : s' = s ∧ t' = t
      · obtain ⟨rfl, rfl⟩ := hst
        refine .publish ?_ ?_ ?_ rfl hready (times_append_self _ _ _ _) rfl
        · simp [RunningPlan.thread, hdrawn]
        · simp [RunningPlan.thread, hself]
        · simp [RunningPlan.thread, hself]
      · refine .other ?_ rfl rfl (times_append_ne hst) (Nat.le_refl _)
        by_cases hs : s = s'
        · subst hs
          have ht : t ≠ t' := fun ht => hst ⟨rfl, ht.symm⟩
          simpa [RunningPlan.thread] using hother t ht
        · simp [RunningPlan.thread, hs]

/-- The steps of the threads of one group. -/
def groupMoves (s : Sensor) : PlanMove → List ThreadMove
  | .draw u t random => if u = s then [.draw t random] else []
  | .publish u t => if u = s then [.publish t] else []
  | .connect _ _ | .wait _ => []

/-- **Seen from a group**, a run of the plan is a run of the group. -/
theorem RunningPlan.run_group {moves : List PlanMove} (s : Sensor)
    (h : run (RunningPlan.step plan) g moves = some g') :
    run (RunningGroup.step (plan.group s) plan.NumberApartments) (g.groups s)
      (moves.flatMap (groupMoves s)) = some (g'.groups s) := by
  refine run_of_simulation (fun g : RunningPlan => g.groups s) ?_ h
  intro g move g' hstep
  cases move with
  | wait milliseconds =>
      cases hstep
      exact run_nil.mpr rfl
  | connect u t =>
      obtain ⟨-, -, -, rfl⟩ := RunningPlan.step_connect hstep
      exact run_nil.mpr rfl
  | draw u t random =>
      obtain ⟨-, group, hgroup, rfl⟩ := RunningPlan.step_draw hstep
      by_cases hu : u = s
      · subst hu
        simp only [groupMoves, if_true, Function.update_self]
        exact run_cons.mpr ⟨group, hgroup, run_nil.mpr rfl⟩
      · simp only [groupMoves, if_neg hu, Function.update_of_ne (Ne.symm hu)]
        exact run_nil.mpr rfl
  | publish u t =>
      obtain ⟨-, group, hgroup, rfl⟩ := RunningPlan.step_publish hstep
      by_cases hu : u = s
      · subst hu
        simp only [groupMoves, if_true, Function.update_self]
        exact run_cons.mpr ⟨group, hgroup, run_nil.mpr rfl⟩
      · simp only [groupMoves, if_neg hu, Function.update_of_ne (Ne.symm hu)]
        exact run_nil.mpr rfl

end Step

/-! ## The timer of one thread -/

/-- What the timers of a thread have made of its publications. -/
structure OnTime (plan : TestPlan) (delay : ℕ) (s : Sensor) (t : ℕ) (g : RunningPlan) : Prop where
  /-- Before the thread has connected. -/
  before : g.connected s t = false → (RunningPlan.thread g s t).drawn = none ∧
    times g.log s t = [] ∧ g.ready s t = ConnectTime delay s t
  /-- Since the thread has connected. -/
  since : g.connected s t = true → ConnectTime delay s t ≤ g.now
  paced : Paced (plan.Timer s) (times g.log s t)
  past : ∀ x ∈ times g.log s t, x ≤ g.now
  first : ∀ x ∈ times g.log s t, ConnectTime delay s t + plan.Timer s ≤ x
  ready : (RunningPlan.thread g s t).drawn.isSome →
    ConnectTime delay s t + plan.Timer s ≤ g.ready s t ∧
      ∀ x ∈ times g.log s t, x + plan.Timer s ≤ g.ready s t
  count : (times g.log s t).length + (RunningPlan.thread g s t).iterations +
    (if (RunningPlan.thread g s t).drawn.isSome then 1 else 0) = plan.LoopCount s

section OnTime

variable {plan : TestPlan} {delay : ℕ} {g g' : RunningPlan} {s : Sensor} {t : ℕ}

/-- Before the first step no thread has connected. -/
theorem onTime_start : OnTime plan delay s t (RunningPlan.start plan delay) where
  before _ := ⟨rfl, rfl, rfl⟩
  since h := by cases h
  paced := paced_nil
  past _ hx := absurd hx List.not_mem_nil
  first _ hx := absurd hx List.not_mem_nil
  ready hsome := by simp [RunningPlan.thread, RunningPlan.start, RunningGroup.start] at hsome
  count := by simp [RunningPlan.thread, RunningPlan.start, RunningGroup.start, times]

/-- Whatever a step does to the thread, its timers are obeyed behind it. -/
theorem OnTime.step (h : OnTime plan delay s t g) (hmoved : Moved plan s t g g') :
    OnTime plan delay s t g' := by
  cases hmoved with
  | other hthread hconnected hready htimes hnow =>
      refine ⟨?_, ?_, htimes ▸ h.paced, ?_, htimes ▸ h.first, ?_, ?_⟩
      · rw [hconnected, hthread, htimes, hready]
        exact h.before
      · rw [hconnected]
        exact fun hyes => (h.since hyes).trans hnow
      · rw [htimes]
        exact fun x hx => (h.past x hx).trans hnow
      · rw [hthread, hready, htimes]
        exact h.ready
      · rw [hthread, htimes]
        exact h.count
  | connect hthread hnot hconnected hready htimes hnow =>
      obtain ⟨hnone, hnil, hpause⟩ := h.before hnot
      refine ⟨fun hno => ?_, fun _ => ?_, htimes ▸ h.paced, ?_, htimes ▸ h.first, fun hsome => ?_, ?_⟩
      · rw [hconnected] at hno
        cases hno
      · rw [hnow, ← hpause]
        exact hready
      · rw [htimes, hnow]
        exact h.past
      · rw [hthread, hnone] at hsome
        cases hsome
      · rw [hthread, htimes]
        exact h.count
  | draw hbefore hconnected hnone hsome hiterations hready htimes hnow =>
      refine ⟨fun hno => ?_, fun _ => ?_, htimes ▸ h.paced, ?_, htimes ▸ h.first, fun _ => ?_, ?_⟩
      · rw [hconnected] at hno
        cases hno
      · rw [hnow]
        exact h.since hbefore
      · rw [htimes, hnow]
        exact h.past
      · rw [hready, htimes]
        exact ⟨Nat.add_le_add_right (h.since hbefore) _,
          fun x hx => Nat.add_le_add_right (h.past x hx) _⟩
      · have hcount := h.count
        rw [hnone, hiterations] at hcount
        rw [htimes, if_pos hsome]
        simp only [Option.isSome_none, Bool.false_eq_true, if_false] at hcount
        omega
  | publish hsome hnone hiterations hconnected hready htimes hnow =>
      obtain ⟨hfirst, hgap⟩ := h.ready hsome
      refine ⟨fun hno => ?_, ?_, ?_, ?_, ?_, fun hsome' => ?_, ?_⟩
      · rw [hconnected] at hno
        rw [(h.before hno).1] at hsome
        cases hsome
      · rw [hconnected, hnow]
        exact h.since
      · rw [htimes]
        exact h.paced.concat fun x hx => (hgap x hx).trans hready
      · rw [htimes, hnow]
        intro x hx
        rcases List.mem_append.mp hx with hx | hx
        · exact h.past x hx
        · exact (List.mem_singleton.mp hx).le
      · rw [htimes]
        intro x hx
        rcases List.mem_append.mp hx with hx | hx
        · exact h.first x hx
        · rw [List.mem_singleton.mp hx]
          exact hfirst.trans hready
      · rw [hnone] at hsome'
        cases hsome'
      · have hcount := h.count
        rw [if_pos hsome] at hcount
        rw [htimes, hnone, hiterations, List.length_append, List.length_singleton]
        simp only [Option.isSome_none, Bool.false_eq_true, if_false]
        omega

/-- **Every thread is on time**, in every state of every run of a plan. -/
theorem onTime_of_run {moves : List PlanMove}
    (h : run (RunningPlan.step plan) (RunningPlan.start plan delay) moves = some g) (s : Sensor) (t : ℕ) :
    OnTime plan delay s t g :=
  invariant_of_run (fun _ _ _ hkept hstep => OnTime.step hkept (Moved.of_step hstep s t))
    onTime_start h

/-- A thread that is through has waited to connect and for its timer in every iteration. -/
theorem OnTime.finished (h : OnTime plan delay s t g) (hconnected : g.connected s t = true)
    (hfinished : (RunningPlan.thread g s t).Finished) :
    (times g.log s t).length = plan.LoopCount s ∧
      ConnectTime delay s t + plan.LoopCount s * plan.Timer s ≤ g.now := by
  have hcount := h.count
  rw [hfinished.1, hfinished.2] at hcount
  simp only [Option.isSome_none, Bool.false_eq_true, if_false, Nat.add_zero] at hcount
  refine ⟨hcount, ?_⟩
  rcases Nat.eq_zero_or_pos (times g.log s t).length with hzero | hpos
  · rw [← hcount, hzero, Nat.zero_mul]
    exact h.since hconnected
  · obtain ⟨x, hx⟩ := List.exists_mem_of_length_pos hpos
    have hroom := (h.first x hx).trans (h.past x hx)
    have hmul := h.paced.length_mul_le (b := g.now) (by omega) h.first h.past
    rw [hcount] at hmul
    omega

end OnTime

/-! ## The publications of all threads -/

section Log

variable {plan : TestPlan} {delay : ℕ} {g : RunningPlan} {moves : List PlanMove}

/-- Only the threads of the plan publish. -/
theorem thread_lt_of_run
    (h : run (RunningPlan.step plan) (RunningPlan.start plan delay) moves = some g) :
    ∀ stamp ∈ g.log, stamp.thread < plan.NumberApartments := by
  refine invariant_of_run (P := fun g : RunningPlan => ∀ stamp ∈ g.log,
    stamp.thread < plan.NumberApartments) ?_ (fun _ hin => absurd hin List.not_mem_nil) h
  intro g move g' hkept hstep
  cases move with
  | wait milliseconds =>
      cases hstep
      exact hkept
  | connect s t =>
      obtain ⟨-, -, -, rfl⟩ := RunningPlan.step_connect hstep
      exact hkept
  | draw s t random =>
      obtain ⟨-, group, -, rfl⟩ := RunningPlan.step_draw hstep
      exact hkept
  | publish s t =>
      obtain ⟨-, group, hgroup, rfl⟩ := RunningPlan.step_publish hstep
      obtain ⟨index, message, ht, -⟩ := RunningGroup.step_publish hgroup
      intro stamp hin
      rcases List.mem_append.mp hin with hin | hin
      · exact hkept stamp hin
      · rw [List.mem_singleton.mp hin]
        exact ht

/-- The publications of a group are those of its threads. -/
theorem countP_times (log : List Stamp) (s : Sensor) (t : ℕ) (p : ℕ → Bool) :
    log.countP (fun x => (decide (x.sensor = s) && p x.time) && x.thread == t) =
      ((times log s t).filter p).length := by
  rw [times, List.filter_map, List.length_map, List.filter_filter, ← List.countP_eq_length_filter]
  apply List.countP_congr
  intro x _
  simp only [Bool.and_eq_true, decide_eq_true_eq, beq_iff_eq, Function.comp]
  tauto

/-- The publications of a group in a window of time. -/
def inWindow (s : Sensor) (a W : ℕ) (stamp : Stamp) : Bool :=
  decide (stamp.sensor = s) && decide (a ≤ stamp.time ∧ stamp.time ≤ a + W)

/-- In a window of time a group publishes at most once for each thread and timer, and once more for
each thread. -/
theorem countP_inWindow_le
    (h : run (RunningPlan.step plan) (RunningPlan.start plan delay) moves = some g) {s : Sensor}
    (hT : 0 < plan.Timer s) (a W : ℕ) :
    g.log.countP (inWindow s a W) ≤ plan.NumberApartments * (W / plan.Timer s + 1) := by
  apply countP_le_mul (thread_lt_of_run h)
  intro t _
  unfold inWindow
  rw [countP_times g.log s t fun time => decide (a ≤ time ∧ time ≤ a + W)]
  exact (onTime_of_run h s t).paced.window_le hT a W

/-- The publications of all groups are those of the four kinds. -/
theorem countP_sensors (log : List Stamp) (p : ℕ → Bool) :
    log.countP (fun stamp => p stamp.time) =
      log.countP (fun stamp => decide (stamp.sensor = .temperature) && p stamp.time) +
      log.countP (fun stamp => decide (stamp.sensor = .humidity) && p stamp.time) +
      log.countP (fun stamp => decide (stamp.sensor = .electricity) && p stamp.time) +
      log.countP (fun stamp => decide (stamp.sensor = .co2) && p stamp.time) := by
  induction log with
  | nil => rfl
  | cons stamp log ih =>
      simp only [List.countP_cons, ih]
      cases stamp.sensor <;> simp <;> omega

/-- **A plan keeps to its timers.** In any window of `W` milliseconds of any run, whatever
the order of the threads, a group publishes at most `W / timer + 1` messages for each of its
threads. The bound is one of the group: a single apartment can get messages of several threads
at the same time. -/
theorem plan_rate (plan : TestPlan) (delay : ℕ) (moves : List PlanMove) (g : RunningPlan)
    (h : run (RunningPlan.step plan) (RunningPlan.start plan delay) moves = some g)
    (htimer : ∀ s, 0 < plan.Timer s) (a W : ℕ) :
    (∀ s, g.log.countP (inWindow s a W) ≤ plan.NumberApartments * (W / plan.Timer s + 1)) ∧
    g.log.countP (fun stamp => decide (a ≤ stamp.time ∧ stamp.time ≤ a + W)) ≤
      plan.NumberApartments * (W / plan.Temp_Timer + W / plan.Hum_Timer + W / plan.Elec_Timer +
        W / plan.CO2_Timer + 4) := by
  have hgroup := fun s => countP_inWindow_le h (htimer s) a W
  refine ⟨hgroup, ?_⟩
  rw [countP_sensors g.log fun time => decide (a ≤ time ∧ time ≤ a + W)]
  have hall := Nat.add_le_add (Nat.add_le_add (Nat.add_le_add (hgroup .temperature)
    (hgroup .humidity)) (hgroup .electricity)) (hgroup .co2)
  refine hall.trans (le_of_eq ?_)
  simp only [TestPlan.Timer, Nat.mul_add]
  omega

/-- A run of the plan with fifty threads, of which one publishes twice. -/
theorem plan_rate_HTZ3 : ∃ g, run (RunningPlan.step (HTZ3 50)) (RunningPlan.start (HTZ3 50) 20)
    [.connect .co2 0, .draw .co2 0 5, .wait 1000, .publish .co2 0, .draw .co2 0 7, .wait 1000,
      .publish .co2 0] = some g ∧ g.log.countP (inWindow .co2 0 1000) ≤ 50 * (1000 / 1000 + 1) := by
  obtain ⟨g, h⟩ := Option.isSome_iff_exists.mp (show (run (RunningPlan.step (HTZ3 50))
    (RunningPlan.start (HTZ3 50) 20) [.connect .co2 0, .draw .co2 0 5, .wait 1000, .publish .co2 0,
      .draw .co2 0 7, .wait 1000, .publish .co2 0]).isSome = true by decide +kernel)
  exact ⟨g, h, (plan_rate (HTZ3 50) 20 _ g h (by intro s; cases s <;> decide) 0 1000).1 .co2⟩

end Log

/-! ## Running a plan as fast as its timers allow -/

/-- All threads of all groups are through. -/
def RunningPlan.Finished (plan : TestPlan) (g : RunningPlan) : Prop :=
  ∀ s, ∀ t < plan.NumberApartments,
    g.connected s t = true ∧ (RunningPlan.thread g s t).Finished

/-- The thread waits for the end of a pause. -/
def Pausing (g : RunningPlan) (s : Sensor) (t : ℕ) : Prop :=
  g.connected s t = false ∨ (RunningPlan.thread g s t).drawn.isSome

/-- A thread that does not pause has connected and has nothing to publish. -/
theorem not_pausing {g : RunningPlan} {s : Sensor} {t : ℕ} :
    ¬ Pausing g s t ↔ g.connected s t = true ∧ (RunningPlan.thread g s t).drawn = none := by
  simp [Pausing]

/-- The pauses between publications that a thread has begun. -/
def pauses (g : RunningPlan) (s : Sensor) (t : ℕ) : ℕ :=
  if g.connected s t then (times g.log s t).length + 1 else 0

/-- No thread has lost any time so far. -/
structure Prompt (plan : TestPlan) (delay D : ℕ) (g : RunningPlan) : Prop where
  onTime : ∀ s t, OnTime plan delay s t g
  pausing : ∀ s, ∀ t < plan.NumberApartments, Pausing g s t →
    g.ready s t = ConnectTime delay s t + pauses g s t * plan.Timer s ∧ g.now ≤ g.ready s t
  free : ∀ s, ∀ t < plan.NumberApartments, ¬ Pausing g s t →
    (RunningPlan.thread g s t).iterations ≠ 0 →
      g.now = ConnectTime delay s t + (times g.log s t).length * plan.Timer s
  bound : g.now ≤ D

/-- The moves that a thread has before it. -/
def movesLeft (g : RunningPlan) (s : Sensor) (t : ℕ) : ℕ :=
  stepsLeft (RunningPlan.thread g s t) + if g.connected s t then 0 else 1

/-- The moves of threads that are left. -/
def planWork (plan : TestPlan) (g : RunningPlan) : ℕ :=
  (Sensor.all.map fun s => ∑ t ∈ Finset.range plan.NumberApartments, movesLeft g s t).sum

section Prompt

variable {plan : TestPlan} {delay D : ℕ} {g g' : RunningPlan} {s : Sensor} {t : ℕ}

/-- A thread that moves has less before it. -/
theorem Moved.movesLeft (h : Moved plan s t g g') : movesLeft g' s t < movesLeft g s t ∨
    RunningPlan.thread g' s t = RunningPlan.thread g s t ∧
      g'.connected s t = g.connected s t := by
  unfold Analysis.movesLeft stepsLeft
  cases h with
  | other hthread hconnected => exact .inr ⟨hthread, hconnected⟩
  | connect hthread hnot hconnected =>
      simp [hthread, hnot, hconnected]
  | draw hbefore hconnected hnone hsome hiterations =>
      left
      simp only [hnone, hsome, hiterations, hbefore, hconnected, Option.isSome_none, if_true]
      simp
      omega
  | publish hsome hnone hiterations hconnected =>
      left
      simp only [hnone, hsome, hiterations, hconnected, Option.isSome_none, if_true]
      simp

/-- A sum over the groups becomes smaller with one of its members when no other grows. -/
theorem sum_sensors_lt {f f' : Sensor → ℕ} (hle : ∀ u, f' u ≤ f u) (hlt : f' s < f s) :
    (Sensor.all.map f').sum < (Sensor.all.map f).sum := by
  have hall : ∀ f : Sensor → ℕ, (Sensor.all.map f).sum =
      f .temperature + (f .humidity + (f .electricity + (f .co2 + 0))) := fun _ => rfl
  have htemperature := hle .temperature
  have hhumidity := hle .humidity
  have helectricity := hle .electricity
  have hco2 := hle .co2
  rw [hall, hall]
  cases s <;> omega

/-- A step of a thread leaves less work. -/
theorem planWork_lt {move : PlanMove} (hstep : g.step plan move = some g')
    (ht : t < plan.NumberApartments)
    (hmoved : ¬ (RunningPlan.thread g' s t = RunningPlan.thread g s t ∧
      g'.connected s t = g.connected s t)) : planWork plan g' < planWork plan g := by
  have hle : ∀ u v, movesLeft g' u v ≤ movesLeft g u v := by
    intro u v
    rcases (Moved.of_step hstep u v).movesLeft with hlt | ⟨hthread, hconnected⟩
    · exact hlt.le
    · unfold movesLeft
      rw [hthread, hconnected]
  have hlt : movesLeft g' s t < movesLeft g s t :=
    (Moved.of_step hstep s t).movesLeft.resolve_right hmoved
  apply sum_sensors_lt (s := s)
  · exact fun u => Finset.sum_le_sum fun v _ => hle u v
  · exact Finset.sum_lt_sum (fun v _ => hle s v) ⟨t, Finset.mem_range.mpr ht, hlt⟩

/-- Before the first step no thread has lost any time. -/
theorem prompt_start (plan : TestPlan) (delay D : ℕ) : Prompt plan delay D (RunningPlan.start plan delay) where
  onTime _ _ := onTime_start
  pausing s _ _ _ := by simp [RunningPlan.start, pauses]
  free _ _ _ hfree := absurd (.inl rfl) hfree
  bound := Nat.zero_le D

/-- The groups of a plan are those of its number of apartments. -/
theorem group_eq (plan : TestPlan) (s : Sensor) :
    plan.group s = groupOf s plan.NumberApartments := by
  cases s <;> rfl

/-- A thread that can begin an iteration loses no time when it does so now. -/
theorem Prompt.draw (h : Prompt plan delay D g) {random : ℕ}
    (hstep : g.step plan (.draw s t random) = some g') : Prompt plan delay D g' := by
  obtain ⟨-, group, -, heq⟩ := RunningPlan.step_draw hstep
  have hlog : g'.log = g.log := by rw [heq]
  have hnow : g'.now = g.now := by rw [heq]
  have hsame : g'.connected = g.connected := by rw [heq]
  have hlength : ∀ {u v}, times g'.log u v ≠ times g.log u v ++ [g.now] := by
    intro u v htimes
    have hlonger := congrArg List.length htimes
    rw [hlog, List.length_append, List.length_singleton] at hlonger
    omega
  refine ⟨fun u v => (h.onTime u v).step (Moved.of_step hstep u v), ?_, ?_, hnow ▸ h.bound⟩
  · intro u v hv hpausing
    cases Moved.of_step hstep u v with
    | other hthread _ hready htimes _ =>
        unfold Pausing at hpausing
        rw [hthread, hsame] at hpausing
        rw [hready, pauses, hsame, hlog, hnow]
        exact h.pausing u v hv hpausing
    | connect _ hnot hyes =>
        rw [hsame, hnot] at hyes
        cases hyes
    | draw hbefore hyes hnone hsome hiterations hready htimes _ =>
        have hthen := h.free u v hv (not_pausing.mpr ⟨hbefore, hnone⟩) (by omega)
        rw [hready, pauses, if_pos hyes, htimes, hnow, Nat.add_mul, Nat.one_mul, ← Nat.add_assoc,
          ← hthen]
        exact ⟨rfl, Nat.le_add_right _ _⟩
    | publish _ _ _ _ _ htimes _ => exact absurd htimes hlength
  · intro u v hv hfree hopen
    cases Moved.of_step hstep u v with
    | other hthread _ _ htimes _ =>
        unfold Pausing at hfree
        rw [hthread, hsame] at hfree
        rw [hthread] at hopen
        rw [htimes, hnow]
        exact h.free u v hv hfree hopen
    | connect _ hnot hyes =>
        rw [hsame, hnot] at hyes
        cases hyes
    | draw _ _ _ hsome _ _ _ _ => exact absurd (.inr hsome) hfree
    | publish _ _ _ _ _ htimes _ => exact absurd htimes hlength

/-- A thread that does not pause and has iterations left can begin one. -/
theorem exists_begin (ht : t < plan.NumberApartments) (hfree : ¬ Pausing g s t)
    (hleft : (RunningPlan.thread g s t).iterations ≠ 0) :
    ∃ random g', g.step plan (.draw s t random) = some g' ∧
      planWork plan g' < planWork plan g := by
  obtain ⟨hconnected, hnone⟩ := not_pausing.mp hfree
  obtain ⟨iterations, hiterations⟩ := Nat.exists_eq_succ_of_ne_zero hleft
  obtain ⟨random, ⟨message, own⟩, hdraw⟩ :=
    exists_draw s plan.NumberApartments ((g.groups s).threads t).held
  rw [← group_eq] at hdraw
  have hgroup := RunningGroup.step_draw_eq ht hiterations hnone hdraw
  obtain ⟨g', hstep⟩ : ∃ g', g.step plan (.draw s t random) = some g' := by
    rw [RunningPlan.step, if_pos hconnected, hgroup]
    exact ⟨_, rfl⟩
  obtain ⟨-, group, hgroup', heq⟩ := RunningPlan.step_draw hstep
  obtain ⟨left, message, own, -, -, -, -, -, hself, -⟩ := RunningGroup.step_draw hgroup'
  refine ⟨random, g', hstep, planWork_lt (s := s) hstep ht fun hboth => ?_⟩
  have hthread : RunningPlan.thread g' s t = group.threads t := by
    rw [heq]
    simp [RunningPlan.thread]
  rw [← hboth.1, hthread, hself] at hnone
  cases hnone

/-- A thread that has drawn has connected. -/
theorem OnTime.connected_of_drawn (h : OnTime plan delay s t g)
    (hsome : (RunningPlan.thread g s t).drawn.isSome) : g.connected s t = true := by
  by_contra hno
  rw [(h.before (Bool.eq_false_iff.mpr hno)).1] at hsome
  cases hsome

/-- A thread that pauses has not begun more pauses than it has loops. -/
theorem OnTime.pauses_le (h : OnTime plan delay s t g) (hpausing : Pausing g s t) :
    pauses g s t ≤ plan.LoopCount s := by
  unfold pauses
  split
  · rename_i hconnected
    have hcount := h.count
    rw [if_pos (hpausing.resolve_left (by simp [hconnected]))] at hcount
    omega
  · exact Nat.zero_le _

/-- A thread that goes on when the first pause ends loses no time. -/
theorem Prompt.resume (hD : ∀ s, ∀ t < plan.NumberApartments,
      ConnectTime delay s t + plan.LoopCount s * plan.Timer s ≤ D)
    (h : Prompt plan delay D g) (ht : t < plan.NumberApartments) (hpausing : Pausing g s t)
    (hmin : ∀ u, ∀ v < plan.NumberApartments, Pausing g u v → g.ready s t ≤ g.ready u v)
    (hall : ∀ u, ∀ v < plan.NumberApartments, ¬ Pausing g u v →
      (RunningPlan.thread g u v).iterations = 0) {move : PlanMove}
    (hstep : RunningPlan.step plan { g with now := g.ready s t } move = some g')
    (hnow' : g'.now = g.ready s t) : Prompt plan delay D g' := by
  obtain ⟨hready, hnow⟩ := h.pausing s t ht hpausing
  have honTime : ∀ u v, OnTime plan delay u v { g with now := g.ready s t } :=
    fun u v => (h.onTime u v).step (.other rfl rfl rfl rfl hnow)
  refine ⟨fun u v => (honTime u v).step (Moved.of_step hstep u v), ?_, ?_, ?_⟩
  · intro u v hv hstill
    cases Moved.of_step hstep u v with
    | other hthread hconnected hready' htimes _ =>
        unfold Pausing at hstill
        rw [hthread, hconnected] at hstill
        rw [hready', pauses, hconnected, htimes, hnow']
        exact ⟨(h.pausing u v hv hstill).1, hmin u v hv hstill⟩
    | connect hthread hnot hconnected _ _ _ =>
        have hnone := ((honTime u v).before hnot).1
        exact absurd hstill (not_pausing.mpr ⟨hconnected, by rw [hthread, hnone]⟩)
    | draw hbefore _ hnone _ hiterations _ _ _ =>
        have hzero := hall u v hv (not_pausing.mpr ⟨hbefore, hnone⟩)
        have hone : (RunningPlan.thread g u v).iterations = _ := hiterations
        omega
    | publish hsome hnone _ hconnected _ _ _ =>
        rw [(honTime u v).connected_of_drawn hsome] at hconnected
        exact absurd hstill (not_pausing.mpr ⟨hconnected, hnone⟩)
  · intro u v hv hfree hopen
    cases Moved.of_step hstep u v with
    | other hthread hconnected _ _ _ =>
        unfold Pausing at hfree
        rw [hthread, hconnected] at hfree
        rw [hthread] at hopen
        exact absurd (hall u v hv hfree) hopen
    | connect _ hnot _ hended htimes _ =>
        -- a pause that has ended by now ends now
        obtain ⟨-, hnil, hpause⟩ := (h.onTime u v).before hnot
        have hlater := hmin u v hv (.inl hnot)
        have hsame : g.ready s t = g.ready u v := Nat.le_antisymm hlater hended
        rw [htimes, hnil, hnow', hsame, hpause]
        simp
    | draw _ _ _ hsome _ _ _ _ => exact absurd (.inr hsome) hfree
    | publish hsome _ _ _ hended htimes _ =>
        have hlater := hmin u v hv (.inr hsome)
        have hsame : g.ready s t = g.ready u v := Nat.le_antisymm hlater hended
        have hpaused := (h.pausing u v hv (.inr hsome)).1
        rw [pauses, if_pos ((h.onTime u v).connected_of_drawn hsome)] at hpaused
        rw [htimes, List.length_append, List.length_singleton, hnow', hsame, hpaused]
  · have hpauses := Nat.mul_le_mul_right (plan.Timer s) ((h.onTime s t).pauses_le hpausing)
    rw [hnow', hready]
    exact (Nat.add_le_add_left hpauses _).trans (hD s t ht)

/-- A thread whose pause is over can go on. -/
theorem exists_resume (ht : t < plan.NumberApartments) (hpausing : Pausing g s t)
    (hready : g.ready s t ≤ g.now) : ∃ move g', g.step plan move = some g' ∧ g'.now = g.now ∧
      planWork plan g' < planWork plan g := by
  by_cases hconnected : g.connected s t = true
  · have hsome := hpausing.resolve_left (by simp [hconnected])
    obtain ⟨⟨index, message⟩, hdrawn⟩ := Option.isSome_iff_exists.mp hsome
    have hgroup : (g.groups s).step (plan.group s) plan.NumberApartments (.publish t) = some _ :=
      RunningGroup.step_publish_eq ht hdrawn
    obtain ⟨g', hstep⟩ : ∃ g', g.step plan (.publish s t) = some g' := by
      rw [RunningPlan.step, if_pos hready, hgroup]
      exact ⟨_, rfl⟩
    obtain ⟨-, group, hgroup', heq⟩ := RunningPlan.step_publish hstep
    obtain ⟨_, _, -, -, -, hself, -⟩ := RunningGroup.step_publish hgroup'
    refine ⟨_, g', hstep, by rw [heq], planWork_lt (s := s) hstep ht fun hboth => ?_⟩
    have hthread : RunningPlan.thread g' s t = group.threads t := by
      rw [heq]
      simp [RunningPlan.thread]
    rw [← hboth.1, hthread, hself] at hsome
    cases hsome
  · have hnot := Bool.eq_false_iff.mpr hconnected
    obtain ⟨g', hstep⟩ : ∃ g', g.step plan (.connect s t) = some g' := by
      rw [RunningPlan.step, if_pos ⟨ht, hnot, hready⟩]
      exact ⟨_, rfl⟩
    obtain ⟨-, -, -, heq⟩ := RunningPlan.step_connect hstep
    refine ⟨_, g', hstep, by rw [heq], planWork_lt (s := s) hstep ht fun hboth => ?_⟩
    have hsame := hboth.2
    rw [heq, hnot] at hsame
    simp at hsame

/-- **A plan can be run as fast as its timers allow.** -/
theorem Prompt.exists_finished
    (hD : ∀ s, ∀ t < plan.NumberApartments,
      ConnectTime delay s t + plan.LoopCount s * plan.Timer s ≤ D) (h : Prompt plan delay D g) :
    ∃ moves g', run (RunningPlan.step plan) g moves = some g' ∧
      RunningPlan.Finished plan g' ∧ g'.now ≤ D := by
  induction hwork : planWork plan g using Nat.strong_induction_on generalizing g with
  | _ work ih =>
      by_cases hfree : ∃ s t, t < plan.NumberApartments ∧ ¬ Pausing g s t ∧
          (RunningPlan.thread g s t).iterations ≠ 0
      · obtain ⟨s, t, ht, hnot, hleft⟩ := hfree
        obtain ⟨random, g₁, hstep, hlt⟩ := exists_begin ht hnot hleft
        obtain ⟨moves, g', hrun, hend⟩ := ih _ (hwork ▸ hlt) (h.draw hstep) rfl
        exact ⟨.draw s t random :: moves, g', run_cons.mpr ⟨g₁, hstep, hrun⟩, hend⟩
      have hall : ∀ u, ∀ v < plan.NumberApartments, ¬ Pausing g u v →
          (RunningPlan.thread g u v).iterations = 0 := by
        intro u v hv hnot
        by_contra hleft
        exact hfree ⟨u, v, hv, hnot, hleft⟩
      by_cases hpause : ∃ n s t, t < plan.NumberApartments ∧ Pausing g s t ∧ g.ready s t = n
      · classical
        obtain ⟨s, t, ht, hpausing, hready⟩ := Nat.find_spec hpause
        have hmin : ∀ u, ∀ v < plan.NumberApartments, Pausing g u v →
            g.ready s t ≤ g.ready u v := by
          intro u v hv hpausing'
          rw [hready]
          exact Nat.find_min' hpause ⟨u, v, hv, hpausing', rfl⟩
        have hwait : g.step plan (.wait (g.ready s t - g.now)) =
            some { g with now := g.ready s t } := by
          rw [RunningPlan.step, Nat.add_sub_cancel' (h.pausing s t ht hpausing).2]
        obtain ⟨move, g₁, hstep, hnow, hlt⟩ :=
          exists_resume (g := { g with now := g.ready s t }) ht hpausing (Nat.le_refl _)
        have hprompt := h.resume hD ht hpausing hmin hall hstep hnow
        obtain ⟨moves, g', hrun, hend⟩ := ih _ (hwork ▸ hlt) hprompt rfl
        exact ⟨_ :: move :: moves, g', run_cons.mpr ⟨_, hwait, run_cons.mpr ⟨g₁, hstep, hrun⟩⟩, hend⟩
      · refine ⟨[], g, run_nil.mpr rfl, fun s t ht => ?_, h.bound⟩
        have hnot : ¬ Pausing g s t := fun hpausing => hpause ⟨_, s, t, ht, hpausing, rfl⟩
        obtain ⟨hconnected, hnone⟩ := not_pausing.mp hnot
        exact ⟨hconnected, hall s t ht hnot, hnone⟩

end Prompt

/-! ## How long a plan takes -/

/-- The messages that a plan publishes for each apartment. -/
def TestPlan.messages (plan : TestPlan) : ℕ :=
  plan.LoopCount_Temp + plan.LoopCount_Hum + plan.LoopCount_Elec + plan.LoopCount_CO2

section Finished

variable {plan : TestPlan} {delay : ℕ} {g : RunningPlan} {moves : List PlanMove}

/-- When all threads are through, a group has published once for each iteration of each thread. -/
theorem countP_finished
    (h : run (RunningPlan.step plan) (RunningPlan.start plan delay) moves = some g)
    (hfinished : RunningPlan.Finished plan g) (s : Sensor) :
    g.log.countP (fun stamp => decide (stamp.sensor = s) && true) =
      plan.NumberApartments * plan.LoopCount s := by
  rw [← sum_countP (thread_lt_of_run h)]
  have hthread : ∀ t ∈ Finset.range plan.NumberApartments,
      g.log.countP (fun x => (decide (x.sensor = s) && true) && x.thread == t) =
        plan.LoopCount s := by
    intro t ht
    rw [countP_times g.log s t fun _ => true, List.filter_true]
    obtain ⟨hconnected, hthrough⟩ := hfinished s t (Finset.mem_range.mp ht)
    exact ((onTime_of_run h s t).finished hconnected hthrough).1
  rw [Finset.sum_const_nat hthread, Finset.card_range]

/-- **How long a plan takes.** When all threads are through, every thread has taken its part of the
ramp-up, the time to connect and its loops times its timer, and the groups have published one
message for each apartment and loop. The plan can be through when the last of these times is
over. -/
theorem plan_duration (plan : TestPlan) (delay : ℕ) :
    (∀ moves g, run (RunningPlan.step plan) (RunningPlan.start plan delay) moves = some g →
      RunningPlan.Finished plan g →
        (∀ s, ∀ t < plan.NumberApartments,
          ConnectTime delay s t + plan.LoopCount s * plan.Timer s ≤ g.now) ∧
        g.log.length = plan.NumberApartments * TestPlan.messages plan) ∧
    ∀ D, (∀ s, ∀ t < plan.NumberApartments,
        ConnectTime delay s t + plan.LoopCount s * plan.Timer s ≤ D) →
      ∃ moves g, run (RunningPlan.step plan) (RunningPlan.start plan delay) moves = some g ∧
        RunningPlan.Finished plan g ∧ g.now ≤ D := by
  refine ⟨fun moves g h hfinished => ⟨fun s t ht => ?_, ?_⟩, fun D hD => ?_⟩
  · obtain ⟨hconnected, hthrough⟩ := hfinished s t ht
    exact ((onTime_of_run h s t).finished hconnected hthrough).2
  · have hsum := countP_sensors g.log fun _ => true
    rw [List.countP_true, countP_finished h hfinished, countP_finished h hfinished,
      countP_finished h hfinished, countP_finished h hfinished] at hsum
    rw [hsum]
    simp only [TestPlan.LoopCount, TestPlan.messages, Nat.mul_add]
  · exact (prompt_start plan delay D).exists_finished hD

end Finished

/-- A plan that is through has published to the topic of every apartment once for each
loop. -/
theorem count_finished {plan : TestPlan} {delay : ℕ} {moves : List PlanMove} {g : RunningPlan}
    (hN : 1 ≤ plan.NumberApartments)
    (h : run (RunningPlan.step plan) (RunningPlan.start plan delay) moves = some g)
    (hfinished : RunningPlan.Finished plan g) (s : Sensor) {v : ℕ}
    (hv : 1 ≤ v ∧ v ≤ plan.NumberApartments) :
    ((g.groups s).published.map Prod.fst).count (sensorTopic v s) = plan.LoopCount s := by
  have hgroup := RunningPlan.run_group s h
  rw [group_eq] at hgroup
  have hstart : (RunningPlan.start plan delay).groups s =
      RunningGroup.start (groupOf s plan.NumberApartments) (plan.LoopCount s) := by
    rw [← group_eq]
    rfl
  rw [hstart] at hgroup
  have hspread := spread_of_run hN (groupOf_topicCounter s plan.NumberApartments)
    (fun _ _ => groupOf_topic_inj.mp) hgroup
  rw [← groupOf_topic s plan.NumberApartments v]
  exact hspread.finished hN (fun t ht => (hfinished s t ht).2) hv

/-- In all plans, the pauses of each group add up to ten minutes. -/
theorem testPlans_eq {plan : TestPlan} (h : plan ∈ testPlans) :
    1 ≤ plan.NumberApartments ∧ ∀ s, plan.LoopCount s * plan.Timer s = 600000 := by
  have hall : ∀ plan ∈ testPlans, 1 ≤ plan.NumberApartments ∧
      ∀ s ∈ Sensor.all, plan.LoopCount s * plan.Timer s = 600000 := by
    decide +kernel
  obtain ⟨hN, htime⟩ := hall plan h
  exact ⟨hN, fun s => htime s (by cases s <;> simp [Sensor.all])⟩

/-- The electricity waits longest before it connects. -/
theorem connectTimer_le (s : Sensor) : ConnectTimer s ≤ ConnectTimer .electricity := by
  cases s <;> decide

/-- **The twelve test plans take ten minutes**, and the 900 milliseconds before the threads for
electricity connect, and the ramp-up up to the last thread of a group, with `delay`
milliseconds between two of them. No run of a plan is through earlier, in whatever order the
threads take their steps; a run that is through has published all its messages, to the topic of
every apartment once for each loop; and each plan can be through after that time. -/
theorem testPlans_duration (plan : TestPlan) (delay : ℕ) (hplan : plan ∈ testPlans) :
    (∀ moves g, run (RunningPlan.step plan) (RunningPlan.start plan delay) moves = some g →
      RunningPlan.Finished plan g →
        600900 + (plan.NumberApartments - 1) * delay ≤ g.now ∧
        g.log.length = plan.NumberApartments * TestPlan.messages plan ∧
        ∀ s v, 1 ≤ v → v ≤ plan.NumberApartments →
          ((g.groups s).published.map Prod.fst).count (sensorTopic v s) = plan.LoopCount s) ∧
    ∃ moves g, run (RunningPlan.step plan) (RunningPlan.start plan delay) moves = some g ∧
      RunningPlan.Finished plan g ∧ g.now = 600900 + (plan.NumberApartments - 1) * delay := by
  obtain ⟨hN, htime⟩ := testPlans_eq hplan
  obtain ⟨hall, hends⟩ := plan_duration plan delay
  have hleast : ∀ moves g,
      run (RunningPlan.step plan) (RunningPlan.start plan delay) moves = some g →
      RunningPlan.Finished plan g → 600900 + (plan.NumberApartments - 1) * delay ≤ g.now := by
    intro moves g h hfinished
    have helectricity := (hall moves g h hfinished).1 .electricity (plan.NumberApartments - 1)
      (by omega)
    rw [htime, ConnectTime, ConnectTimer] at helectricity
    omega
  have hmost : ∀ s, ∀ t < plan.NumberApartments,
      ConnectTime delay s t + plan.LoopCount s * plan.Timer s ≤
        600900 + (plan.NumberApartments - 1) * delay := by
    intro s t ht
    have hstarts : t * delay ≤ (plan.NumberApartments - 1) * delay :=
      Nat.mul_le_mul_right delay (by omega)
    have hconnect : ConnectTimer s ≤ 900 := connectTimer_le s
    rw [htime, ConnectTime]
    omega
  refine ⟨fun moves g h hfinished => ⟨hleast moves g h hfinished, ?_, fun s v hv hvN => ?_⟩, ?_⟩
  · exact (hall moves g h hfinished).2
  · exact count_finished hN h hfinished s ⟨hv, hvN⟩
  · obtain ⟨moves, g, h, hfinished, hle⟩ := hends _ hmost
    exact ⟨moves, g, h, hfinished, Nat.le_antisymm hle (hleast moves g h hfinished)⟩

/-- With 50 apartments, the threads of a group start 20 milliseconds apart. -/
theorem testPlans_duration_HTZ3 :
    ∃ moves g, run (RunningPlan.step (HTZ3 50)) (RunningPlan.start (HTZ3 50) 20) moves = some g ∧
      RunningPlan.Finished (HTZ3 50) g ∧ g.now = 601880 :=
  (testPlans_duration (HTZ3 50) 20 (by simp [testPlans, TF])).2

end OpenhabConfiguration.Analysis
