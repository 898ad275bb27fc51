import OpenhabConfiguration.Analysis.SensorRouting
import OpenhabConfiguration.Library.RoundRobin
import OpenhabConfiguration.Model.TestPlan

/-!
# The load test drives every apartment evenly

A thread of the test plan does not keep to one apartment: it publishes to the topic of the
index it has drawn from a counter that all threads of the group share. Whatever the order of
their steps, the draws are spread evenly over the apartments (`Spread`), and when all threads
are through, each apartment has had one message for every iteration (`load_test_even`).
-/

set_option autoImplicit false

namespace OpenhabConfiguration.Analysis

open Interface Model Runs

/-! ## Steps -/

section Steps

variable {group : ThreadGroup} {N t random : ℕ} {g g' : RunningGroup}

/-- What beginning an iteration does. -/
theorem RunningGroup.step_draw (h : g.step group N (.draw t random) = some g') :
    ∃ iterations message own, t < N ∧ (g.threads t).iterations = iterations + 1 ∧
      (g.threads t).drawn = none ∧
      group.message.draw random (g.threads t).held = some (message, own) ∧
      g'.held = (group.topicCounter.draw g.held).2 ∧
      g'.threads t = ⟨iterations, own, some ((group.topicCounter.draw g.held).1, message)⟩ ∧
      (∀ u, u ≠ t → g'.threads u = g.threads u) ∧
      g'.draws = g.draws ++ [(group.topicCounter.draw g.held).1] ∧
      g'.published = g.published := by
  rw [RunningGroup.step] at h
  split at h
  · rename_i iterations hiterations hdrawn
    split at h
    · rename_i ht
      obtain ⟨⟨message, own⟩, hmessage, hg'⟩ := Option.bind_eq_some_iff.mp h
      cases hg'
      exact ⟨iterations, message, own, ht, hiterations, hdrawn, hmessage, rfl,
        Function.update_self .., fun u hu => Function.update_of_ne hu _ _, rfl, rfl⟩
    · cases h
  · cases h

/-- What publishing does. -/
theorem RunningGroup.step_publish (h : g.step group N (.publish t) = some g') :
    ∃ index message, t < N ∧ (g.threads t).drawn = some (index, message) ∧ g'.held = g.held ∧
      g'.threads t = { g.threads t with drawn := none } ∧
      (∀ u, u ≠ t → g'.threads u = g.threads u) ∧ g'.draws = g.draws ∧
      g'.published = g.published ++ [(group.topic index, message)] := by
  rw [RunningGroup.step] at h
  split at h
  · rename_i index message hdrawn
    split at h
    · rename_i ht
      cases h
      exact ⟨index, message, ht, hdrawn, rfl, Function.update_self ..,
        fun u hu => Function.update_of_ne hu _ _, rfl, rfl⟩
    · cases h
  · cases h

/-- A thread with an iteration before it can begin the iteration. -/
theorem RunningGroup.step_draw_eq {iterations message own : ℕ} (ht : t < N)
    (hiterations : (g.threads t).iterations = iterations + 1) (hnone : (g.threads t).drawn = none)
    (hmessage : group.message.draw random (g.threads t).held = some (message, own)) :
    g.step group N (.draw t random) = some {
      held := (group.topicCounter.draw g.held).2
      threads := Function.update g.threads t
        ⟨iterations, own, some ((group.topicCounter.draw g.held).1, message)⟩
      draws := g.draws ++ [(group.topicCounter.draw g.held).1]
      published := g.published } := by
  simp only [RunningGroup.step, hiterations, hnone, if_pos ht, hmessage]
  rfl

/-- A thread that has drawn can publish. -/
theorem RunningGroup.step_publish_eq {index message : ℕ} (ht : t < N)
    (hdrawn : (g.threads t).drawn = some (index, message)) :
    g.step group N (.publish t) = some { g with
      threads := Function.update g.threads t { g.threads t with drawn := none }
      published := g.published ++ [(group.topic index, message)] } := by
  simp only [RunningGroup.step, hdrawn, if_pos ht]

/-- The steps that a thread has before it. -/
def stepsLeft (thread : Thread) : ℕ :=
  2 * thread.iterations + if thread.drawn.isSome then 1 else 0

/-- A thread that is not through can make a step, and has fewer before it then. -/
theorem exists_step (hmessage : ∀ held, ∃ random r, group.message.draw random held = some r)
    (ht : t < N) (hopen : ¬ (g.threads t).Finished) :
    ∃ move g', g.step group N move = some g' ∧
      ∑ u ∈ Finset.range N, stepsLeft (g'.threads u) <
        ∑ u ∈ Finset.range N, stepsLeft (g.threads u) := by
  cases hdrawn : (g.threads t).drawn with
  | some r =>
      obtain ⟨g', hstep⟩ : ∃ g', g.step group N (.publish t) = some g' :=
        ⟨_, RunningGroup.step_publish_eq ht hdrawn⟩
      obtain ⟨-, -, -, -, -, hself, hother, -⟩ := RunningGroup.step_publish hstep
      refine ⟨_, g', hstep, RoundRobin.sum_lt_of_step ht ?_ ?_⟩
      · exact fun u hu => congrArg stepsLeft (hother u hu)
      · rw [hself, stepsLeft, stepsLeft, hdrawn]
        exact Nat.lt_succ_self _
  | none =>
      cases hiterations : (g.threads t).iterations with
      | zero => exact absurd ⟨hiterations, hdrawn⟩ hopen
      | succ iterations =>
          obtain ⟨random, ⟨message, own⟩, hdraw⟩ := hmessage (g.threads t).held
          have hstep := RunningGroup.step_draw_eq ht hiterations hdrawn hdraw
          obtain ⟨left, _, _, -, hleft, -, -, -, hself, hother, -⟩ := RunningGroup.step_draw hstep
          refine ⟨_, _, hstep, RoundRobin.sum_lt_of_step ht ?_ ?_⟩
          · exact fun u hu => congrArg stepsLeft (hother u hu)
          · rw [hself, stepsLeft, stepsLeft, hdrawn, hleft]
            exact Nat.lt_succ_self _

/-- **A group can always finish**, from whatever state its threads have got it to. -/
theorem exists_run_finished
    (hmessage : ∀ held, ∃ random r, group.message.draw random held = some r) (g : RunningGroup) :
    ∃ moves g', run (RunningGroup.step group N) g moves = some g' ∧
      ∀ t < N, (g'.threads t).Finished := by
  induction hleft : ∑ u ∈ Finset.range N, stepsLeft (g.threads u) using Nat.strong_induction_on
    generalizing g with
  | _ left ih =>
      by_cases hall : ∀ t < N, (g.threads t).Finished
      · exact ⟨[], g, run_nil.mpr rfl, hall⟩
      · simp only [not_forall] at hall
        obtain ⟨t, ht, hopen⟩ := hall
        obtain ⟨move, g₁, hstep, hlt⟩ := exists_step hmessage ht hopen
        obtain ⟨moves, g', hrun, hfinished⟩ := ih _ (hleft ▸ hlt) g₁ rfl
        exact ⟨move :: moves, g', run_cons.mpr ⟨g₁, hstep, hrun⟩, hfinished⟩

end Steps

/-! ## The topics of the groups -/

/-- The group that plays the sensors of one kind. -/
def groupOf : Sensor → ℕ → ThreadGroup
  | .temperature => publishTemperature
  | .humidity => publishHumidity
  | .electricity => publishElectricity
  | .co2 => publishCO2

/-- The counter of the topics runs from 1 to the number of apartments in every group. -/
theorem groupOf_topicCounter (s : Sensor) (N : ℕ) : (groupOf s N).topicCounter = ⟨1, N, 1⟩ := by
  cases s <;> rfl

/-- **The topics of the plan** are those of the things file. -/
theorem groupOf_topic (s : Sensor) (N i : ℕ) : (groupOf s N).topic i = sensorTopic i s := by
  have hhead : (groupOf s N).topicHead = "apartment/" ++ s.channelId := by
    cases s with
    | temperature => exact (by decide : "apartment/temperature" = "apartment/" ++ "temperature")
    | humidity => exact (by decide : "apartment/humidity" = "apartment/" ++ "humidity")
    | electricity => exact (by decide : "apartment/electricity" = "apartment/" ++ "electricity")
    | co2 => exact (by decide : "apartment/kohlenstoffdioxid" = "apartment/" ++ "kohlenstoffdioxid")
  rw [ThreadGroup.topic, hhead]
  rfl

/-- The topics of a group are those of different apartments. -/
theorem groupOf_topic_inj {s : Sensor} {N i j : ℕ} :
    (groupOf s N).topic i = (groupOf s N).topic j ↔ i = j := by
  rw [groupOf_topic, groupOf_topic, sensorTopic_inj]
  exact and_iff_left rfl

/-! ## Draws and messages -/

/-- The thread has drawn an index that it has not published to. -/
def waiting (v : ℕ) (thread : Thread) : ℕ := if thread.drawn.map Prod.fst = some v then 1 else 0

/-- How the draws and the messages of a group are spread: every draw is one of an even
sequence, and has been published or is waiting. -/
structure Spread (group : ThreadGroup) (N L : ℕ) (g : RunningGroup) : Prop where
  evenly : ∃ rounds, RoundRobin.Evenly N g.draws g.held rounds
  total : ∑ t ∈ Finset.range N, (g.threads t).iterations + g.draws.length = N * L
  drawn : ∀ t index message, (g.threads t).drawn = some (index, message) → index ∈ g.draws
  count : ∀ v, (g.published.map Prod.fst).count (group.topic v) +
    ∑ t ∈ Finset.range N, waiting v (g.threads t) = g.draws.count v
  topics : ∀ topic ∈ g.published.map Prod.fst, ∃ v ∈ g.draws, topic = group.topic v

section Spread

variable {group : ThreadGroup} {N L t random : ℕ} {g g' : RunningGroup}

/-- Before the first draw nothing has been drawn or published. -/
theorem spread_start (hcounter : group.topicCounter = ⟨1, N, 1⟩) :
    Spread group N L (RunningGroup.start group L) where
  evenly := ⟨0, by rw [RunningGroup.start, hcounter]; exact RoundRobin.evenly_nil N⟩
  total := by
    show ∑ _t ∈ Finset.range N, L + 0 = N * L
    rw [Finset.sum_const_nat fun _ _ => rfl, Finset.card_range, Nat.add_zero]
  drawn _ _ _ h := by cases h
  count v := by simp [RunningGroup.start, waiting]
  topics _ h := absurd h List.not_mem_nil

/-- A draw is the next of an even sequence, and waits to be published. -/
theorem Spread.draw (hN : 1 ≤ N) (hcounter : group.topicCounter = ⟨1, N, 1⟩)
    (h : Spread group N L g) (hstep : g.step group N (.draw t random) = some g') :
    Spread group N L g' := by
  obtain ⟨iterations, message, own, ht, hiterations, hnone, -, hheld, hself, hother, hdraws,
    hpublished⟩ := RunningGroup.step_draw hstep
  rw [hcounter] at hheld hself hdraws
  refine ⟨?_, ?_, fun u index message' hu => ?_, fun v => ?_, fun topic htopic => ?_⟩
  · obtain ⟨rounds, hrounds⟩ := h.evenly
    rw [hheld, hdraws]
    exact hrounds.draw hN
  · have hsum := RoundRobin.sum_step (f := fun u => (g.threads u).iterations) ht
      fun u hu => congrArg Thread.iterations (hother u hu)
    have hafter : (g'.threads t).iterations = iterations := by rw [hself]
    have htotal := h.total
    rw [hiterations, hafter] at hsum
    rw [hdraws, List.length_append, List.length_singleton]
    omega
  · rw [hdraws]
    by_cases hut : u = t
    · subst hut
      rw [hself] at hu
      cases hu
      exact List.mem_append_right _ (List.mem_singleton_self _)
    · rw [hother u hut] at hu
      exact List.mem_append_left _ (h.drawn u index message' hu)
  · have hsum := RoundRobin.sum_step (f := fun u => waiting v (g.threads u)) ht
      fun u hu => congrArg (waiting v) (hother u hu)
    have hbefore : waiting v (g.threads t) = 0 := by simp [waiting, hnone]
    have hafter : waiting v (g'.threads t) = [((⟨1, N, 1⟩ : Counter).draw g.held).1].count v := by
      rw [hself, List.count_singleton]
      simp [waiting]
    rw [hbefore, hafter] at hsum
    rw [hpublished, hdraws, List.count_append, ← h.count v]
    omega
  · rw [hpublished] at htopic
    obtain ⟨v, hv, heq⟩ := h.topics topic htopic
    exact ⟨v, hdraws ▸ List.mem_append_left _ hv, heq⟩

/-- A publication is of a draw that has been waiting. -/
theorem Spread.publish (hinj : ∀ v w, group.topic v = group.topic w → v = w)
    (h : Spread group N L g) (hstep : g.step group N (.publish t) = some g') :
    Spread group N L g' := by
  obtain ⟨index, message, ht, hdrawn, hheld, hself, hother, hdraws, hpublished⟩ :=
    RunningGroup.step_publish hstep
  refine ⟨?_, ?_, fun u index' message' hu => ?_, fun v => ?_, fun topic htopic => ?_⟩
  · rw [hheld, hdraws]
    exact h.evenly
  · have hsum := RoundRobin.sum_step (f := fun u => (g.threads u).iterations) ht
      fun u hu => congrArg Thread.iterations (hother u hu)
    have hafter : (g'.threads t).iterations = (g.threads t).iterations := by rw [hself]
    have htotal := h.total
    rw [hafter] at hsum
    rw [hdraws]
    omega
  · rw [hdraws]
    by_cases hut : u = t
    · subst hut
      rw [hself] at hu
      cases hu
    · rw [hother u hut] at hu
      exact h.drawn u index' message' hu
  · have hsum := RoundRobin.sum_step (f := fun u => waiting v (g.threads u)) ht
      fun u hu => congrArg (waiting v) (hother u hu)
    have hafter : waiting v (g'.threads t) = 0 := by simp [waiting, hself]
    have hbefore : waiting v (g.threads t) = [group.topic index].count (group.topic v) := by
      rw [List.count_singleton]
      by_cases heq : index = v
      · simp [waiting, hdrawn, heq]
      · have hne : group.topic index ≠ group.topic v := fun htopic => heq (hinj _ _ htopic)
        simp [waiting, hdrawn, heq, hne]
    rw [hbefore, hafter] at hsum
    rw [hpublished, hdraws, List.map_append, List.count_append, ← h.count v]
    simp only [List.map_cons, List.map_nil]
    omega
  · rw [hpublished, List.map_append] at htopic
    rw [hdraws]
    rcases List.mem_append.mp htopic with htopic | htopic
    · exact h.topics topic htopic
    · exact ⟨index, h.drawn t index message hdrawn, List.mem_singleton.mp htopic⟩

/-- **Every run of a group** spreads its draws evenly. -/
theorem spread_of_run (hN : 1 ≤ N) (hcounter : group.topicCounter = ⟨1, N, 1⟩)
    (hinj : ∀ v w, group.topic v = group.topic w → v = w) {moves : List ThreadMove}
    (hrun : run (RunningGroup.step group N) (RunningGroup.start group L) moves = some g) :
    Spread group N L g := by
  apply invariant_of_run _ (spread_start hcounter) hrun
  intro g move g' hspread hstep
  cases move with
  | draw t random => exact hspread.draw hN hcounter hstep
  | publish t => exact hspread.publish hinj hstep

/-- When all threads are through, every index has been published once for each iteration. -/
theorem Spread.finished (hN : 1 ≤ N) (h : Spread group N L g)
    (hfinished : ∀ t < N, (g.threads t).Finished) {v : ℕ} (hv : 1 ≤ v ∧ v ≤ N) :
    (g.published.map Prod.fst).count (group.topic v) = L := by
  obtain ⟨rounds, hrounds⟩ := h.evenly
  have hiterations : ∑ t ∈ Finset.range N, (g.threads t).iterations = 0 :=
    Finset.sum_eq_zero fun t ht => (hfinished t (Finset.mem_range.mp ht)).1
  have hwaiting : ∑ t ∈ Finset.range N, waiting v (g.threads t) = 0 := by
    apply Finset.sum_eq_zero
    intro t ht
    simp [waiting, (hfinished t (Finset.mem_range.mp ht)).2]
  have hlength : g.draws.length = N * L := by
    have htotal := h.total
    omega
  have hcount := h.count v
  rw [hrounds.count_eq hN hlength hv] at hcount
  omega

end Spread

/-- A sum over the sensors, when the summand of one of them changes. -/
theorem sum_sensors {f g : Sensor → ℕ} {s : Sensor} {a b : ℕ} (hself : g s + a = f s + b)
    (hother : ∀ t, t ≠ s → g t = f t) :
    (Sensor.all.map g).sum + a = (Sensor.all.map f).sum + b := by
  have hall : ∀ f : Sensor → ℕ, (Sensor.all.map f).sum =
      f .temperature + (f .humidity + (f .electricity + (f .co2 + 0))) := fun _ => rfl
  rw [hall, hall]
  cases s with
  | temperature =>
      rw [hother .humidity nofun, hother .electricity nofun, hother .co2 nofun]
      omega
  | humidity =>
      rw [hother .temperature nofun, hother .electricity nofun, hother .co2 nofun]
      omega
  | electricity =>
      rw [hother .temperature nofun, hother .humidity nofun, hother .co2 nofun]
      omega
  | co2 =>
      rw [hother .temperature nofun, hother .humidity nofun, hother .electricity nofun]
      omega

/-- Every group can draw a message, whatever its counter holds. -/
theorem exists_draw (s : Sensor) (N held : ℕ) :
    ∃ random r, (groupOf s N).message.draw random held = some r := by
  cases s with
  | temperature => exact ⟨19, _, rfl⟩
  | humidity => exact ⟨40, _, rfl⟩
  | electricity => exact ⟨0, _, rfl⟩
  | co2 => exact ⟨1, _, rfl⟩

/-- **The load test is even.** In every state of a run of a group, whatever the order of its
threads, the numbers of draws of two apartments differ by at most one; when all threads are
through, the topic of every apartment has been published to once for each iteration, and no
other topic has. The things file for at least as many apartments, with the sensor switched on,
is generated below the largest `int`, and each topic is the state topic of exactly one channel
in it. -/
theorem load_test_even (s : Sensor) (N L : ℕ) (hN : 1 ≤ N) :
    (∀ moves g, run (RunningGroup.step (groupOf s N) N) (RunningGroup.start (groupOf s N) L) moves =
        some g →
      (∀ v w, 1 ≤ v → v ≤ N → 1 ≤ w → w ≤ N → g.draws.count v ≤ g.draws.count w + 1) ∧
      ((∀ t < N, (g.threads t).Finished) →
        ∀ v, 1 ≤ v → v ≤ N → (g.published.map Prod.fst).count ((groupOf s N).topic v) = L) ∧
      ∀ topic ∈ g.published.map Prod.fst,
        ∃ v, 1 ≤ v ∧ v ≤ N ∧ topic = (groupOf s N).topic v) ∧
    ∀ cfg, ValidQos cfg.qos → (N : ℤ) ≤ cfg.number.toInt → flag cfg s = true →
      (cfg.number ≠ Int32.maxValue → (generated cfg .things).isSome = true) ∧
      ∀ text, generated cfg .things = some text → ∃ bridge, readThings text = some bridge ∧
        ∀ v, 1 ≤ v → v ≤ N → ∃ uid, bridge.listening ((groupOf s N).topic v) = [uid] := by
  constructor
  · intro moves g hrun
    have hspread := spread_of_run hN (groupOf_topicCounter s N)
      (fun _ _ => groupOf_topic_inj.mp) hrun
    obtain ⟨rounds, hrounds⟩ := hspread.evenly
    refine ⟨fun v w hv hvN hw hwN => hrounds.count_le ⟨hv, hvN⟩ ⟨hw, hwN⟩,
      fun hfinished v hv hvN => hspread.finished hN hfinished ⟨hv, hvN⟩, fun topic htopic => ?_⟩
    obtain ⟨v, hv, heq⟩ := hspread.topics topic htopic
    exact ⟨v, (hrounds.range v hv).1, (hrounds.range v hv).2, heq⟩
  · intro cfg hqos hnum hflag
    refine ⟨fun hmax => ?_, fun text htext => ?_⟩
    · rw [generated_eq hmax .things fun _ => hqos]
      rfl
    obtain ⟨-, rfl⟩ := eq_fileText htext fun _ => hqos
    refine ⟨_, readThings_things cfg, fun v hv hvN => ⟨sensorUid v s, ?_⟩⟩
    have hmem : v ∈ apartments cfg.number := by
      rw [mem_apartments, Int32.toNatClampNeg]
      omega
    rw [groupOf_topic]
    exact (listening_sensorTopic (nodup_apartments _) (nodup_sensorsOn cfg) v s).trans
      (if_pos ⟨hmem, mem_sensorsOn.mpr hflag⟩)

/-- Ten threads of ten iterations get through, and have then published ten messages to each
topic, each of which has its channel in the things file of `openHab.ini`. -/
theorem load_test_even_ten :
    (∃ moves g, run (RunningGroup.step (groupOf .co2 10) 10)
        (RunningGroup.start (groupOf .co2 10) 10) moves = some g ∧
      (g.published.map Prod.fst).count ((groupOf .co2 10).topic 7) = 10) ∧
    ∃ text bridge uid, generated openHabIni .things = some text ∧ readThings text = some bridge ∧
      bridge.listening ((groupOf .co2 10).topic 7) = [uid] := by
  obtain ⟨hruns, hfiles⟩ := load_test_even .co2 10 10 (by decide)
  constructor
  · obtain ⟨moves, g, hrun, hfinished⟩ := exists_run_finished (N := 10) (exists_draw .co2 10)
      (RunningGroup.start (groupOf .co2 10) 10)
    exact ⟨moves, g, hrun, (hruns moves g hrun).2.1 hfinished 7 (by decide) (by decide)⟩
  · obtain ⟨hgenerated, hread⟩ := hfiles openHabIni (by decide) (by decide) rfl
    obtain ⟨text, htext⟩ := Option.isSome_iff_exists.mp (hgenerated (by decide))
    obtain ⟨bridge, hbridge, hchannels⟩ := hread text htext
    obtain ⟨uid, huid⟩ := hchannels 7 (by decide) (by decide)
    exact ⟨text, bridge, uid, htext, hbridge, huid⟩

end OpenhabConfiguration.Analysis
