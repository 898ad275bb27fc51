import Mathlib.Logic.Function.Basic
import OpenhabConfiguration.Library.Runs

/-!
# The thread groups of the load test

The four thread groups of the test plan. A group has as many threads as there are
apartments. In each iteration of its loop a thread draws the next index of the group's topic
counter, which all threads share, and a message, and later publishes the message to the
topic of this index (`RunningGroup.step`). Nothing orders the steps of different threads.
-/

set_option autoImplicit false

namespace OpenhabConfiguration.Model

/-! ## Counters and messages -/

/-- The configuration of a counter. -/
structure Counter where
  start : ℕ
  maximum : ℕ
  increment : ℕ

/-- The next value of a counter, and what the counter holds behind it. A counter that
exceeds its maximum starts over.
SOURCE: component_reference.html:10351-10423 -/
def Counter.draw (c : Counter) (held : ℕ) : ℕ × ℕ :=
  let value := if held > c.maximum then c.start else held
  (value, value + c.increment)

/-- Where the message of a sampler comes from. -/
inductive Message where
  /-- A random variable. -/
  | random (minimum maximum : ℕ)
  /-- A counter that is tracked independently for each user. -/
  | perUser (counter : Counter)

/-- A thread group: the topic of the sampler is the head, the index and `/`. -/
structure ThreadGroup where
  topicHead : String
  /-- The counter of the index, which is global. -/
  topicCounter : Counter
  message : Message

/-- The topic of the sampler for an index. -/
def ThreadGroup.topic (group : ThreadGroup) (index : ℕ) : String :=
  group.topicHead ++ (toString index ++ "/")

/-! ## The groups of the plan -/

/-- SOURCE: TestPlanTF4HTZ3.jmx:71-300 -/
def publishTemperature (NumberApartments : ℕ) : ThreadGroup where
  topicHead := "apartment/temperature"
  topicCounter := ⟨1, NumberApartments, 1⟩
  message := .random 19 25

/-- SOURCE: TestPlanTF4HTZ3.jmx:301-530 -/
def publishHumidity (NumberApartments : ℕ) : ThreadGroup where
  topicHead := "apartment/humidity"
  topicCounter := ⟨1, NumberApartments, 1⟩
  message := .random 40 60

/-- SOURCE: TestPlanTF4HTZ3.jmx:531-756 -/
def publishCO2 (NumberApartments : ℕ) : ThreadGroup where
  topicHead := "apartment/kohlenstoffdioxid"
  topicCounter := ⟨1, NumberApartments, 1⟩
  message := .random 1 10

/-- SOURCE: TestPlanTF4HTZ3.jmx:757-985 -/
def publishElectricity (NumberApartments : ℕ) : ThreadGroup where
  topicHead := "apartment/electricity"
  topicCounter := ⟨1, NumberApartments, 1⟩
  message := .perUser ⟨0, 5000, 1⟩

/-! ## Running a group -/

/-- A thread between two of its steps. -/
structure Thread where
  /-- The iterations that have not begun. -/
  iterations : ℕ
  /-- What the thread's own counter holds. -/
  held : ℕ
  /-- The index and the message of an iteration that has not published them. -/
  drawn : Option (ℕ × ℕ)

/-- A thread group that is running. -/
structure RunningGroup where
  /-- What the topic counter holds. -/
  held : ℕ
  threads : ℕ → Thread
  /-- The indices that have been drawn, in order. -/
  draws : List ℕ
  /-- The topics and messages that have been published, in order. -/
  published : List (String × ℕ)

/-- What a counter of its own holds in a new thread. -/
def Message.start : Message → ℕ
  | .random _ _ => 0
  | .perUser counter => counter.start

/-- A group whose threads have `LoopCount` iterations before them. -/
def RunningGroup.start (group : ThreadGroup) (LoopCount : ℕ) : RunningGroup where
  held := group.topicCounter.start
  threads _ := ⟨LoopCount, group.message.start, none⟩
  draws := []
  published := []

/-- A step of one thread. -/
inductive ThreadMove where
  /-- The thread begins an iteration; `random` is what a random variable takes. -/
  | draw (thread : ℕ) (random : ℕ)
  | publish (thread : ℕ)

/-- The message of an iteration, and what the thread's own counter holds then; none when a
random variable cannot take the value. -/
def Message.draw (random held : ℕ) : Message → Option (ℕ × ℕ)
  | .random minimum maximum =>
      if minimum ≤ random ∧ random ≤ maximum then some (random, held) else none
  | .perUser counter => some (counter.draw held)

/-- A step of a group of `threads` threads. -/
def RunningGroup.step (group : ThreadGroup) (threads : ℕ) (g : RunningGroup) : ThreadMove → Option RunningGroup
  | .draw t random =>
      match (g.threads t).iterations, (g.threads t).drawn with
      | iterations + 1, none =>
          if t < threads then do
            let (message, own) ← group.message.draw random (g.threads t).held
            let (index, held) := group.topicCounter.draw g.held
            some { g with
              held := held
              threads := Function.update g.threads t ⟨iterations, own, some (index, message)⟩
              draws := g.draws ++ [index] }
          else none
      | _, _ => none
  | .publish t =>
      match (g.threads t).drawn with
      | some (index, message) =>
          if t < threads then
            some { g with
              threads := Function.update g.threads t { g.threads t with drawn := none }
              published := g.published ++ [(group.topic index, message)] }
          else none
      | none => none

/-- A thread has published in all its iterations. -/
def Thread.Finished (thread : Thread) : Prop := thread.iterations = 0 ∧ thread.drawn = none

end OpenhabConfiguration.Model
