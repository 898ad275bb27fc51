import OpenhabConfiguration.Interface.Declarations
import OpenhabConfiguration.Model.TestPlan

/-!
# The test plans and their timers

The user defined variables of the twelve test plans, and the thread groups of a plan on one
clock. The threads of a group start one after the other during the ramp-up of a second. A
thread connects to the broker, and then publishes in its loop. The timers are children of the
samplers: one pauses a thread before it connects, the other for the same time before each
publication. Everything else, the order of the threads and how long they take, is open.
-/

set_option autoImplicit false

namespace OpenhabConfiguration.Model

open Interface

/-! ## The plans -/

/-- The user defined variables of a test plan that the groups refer to, times in
milliseconds.
SOURCE: TestPlanTF4HTZ3.jmx:9-66 -/
structure TestPlan where
  NumberApartments : ℕ
  LoopCount_Temp : ℕ
  LoopCount_Hum : ℕ
  LoopCount_Elec : ℕ
  LoopCount_CO2 : ℕ
  Temp_Timer : ℕ
  Hum_Timer : ℕ
  Elec_Timer : ℕ
  CO2_Timer : ℕ

/-- SOURCE: HTZ1/TestPlanTF1HTZ1.jmx to HTZ1/TestPlanTF4HTZ1.jmx, lines 11-66 -/
def HTZ1 (NumberApartments : ℕ) : TestPlan :=
  ⟨NumberApartments, 20, 20, 40, 60, 30000, 30000, 15000, 10000⟩

/-- SOURCE: HTZ2/TestPlanTF1HTZ2.jmx to HTZ2/TestPlanTF4HTZ2.jmx, lines 11-66 -/
def HTZ2 (NumberApartments : ℕ) : TestPlan :=
  ⟨NumberApartments, 20, 20, 60, 120, 30000, 30000, 10000, 5000⟩

/-- SOURCE: HTZ3/TestPlanTF1HTZ3.jmx to HTZ3/TestPlanTF4HTZ3.jmx, lines 11-66 -/
def HTZ3 (NumberApartments : ℕ) : TestPlan :=
  ⟨NumberApartments, 40, 40, 120, 600, 15000, 15000, 5000, 1000⟩

/-- The numbers of apartments of the plans `TF1` to `TF4`. -/
def TF : List ℕ := [50, 100, 200, 300]

/-- The twelve test plans. -/
def testPlans : List TestPlan := TF.map HTZ1 ++ TF.map HTZ2 ++ TF.map HTZ3

/-- SOURCE: TestPlanTF4HTZ3.jmx:149, 379, 605, 835 -/
def TestPlan.LoopCount (plan : TestPlan) : Sensor → ℕ
  | .temperature => plan.LoopCount_Temp
  | .humidity => plan.LoopCount_Hum
  | .electricity => plan.LoopCount_Elec
  | .co2 => plan.LoopCount_CO2

/-- SOURCE: TestPlanTF4HTZ3.jmx:163, 393, 619, 849 -/
def TestPlan.Timer (plan : TestPlan) : Sensor → ℕ
  | .temperature => plan.Temp_Timer
  | .humidity => plan.Hum_Timer
  | .electricity => plan.Elec_Timer
  | .co2 => plan.CO2_Timer

/-- The timers of the samplers that connect, the same in all plans. The group for CO2 has
none.
SOURCE: TestPlanTF4HTZ3.jmx:143, 373, 829 -/
def ConnectTimer : Sensor → ℕ
  | .temperature => 300
  | .humidity => 600
  | .electricity => 900
  | .co2 => 0

/-- When the pause of a thread ends before it connects. The threads of a group start one after
the other, `delay` milliseconds apart: the second of the ramp-up over the number of threads, in
whole milliseconds.
SOURCE: TestPlanTF4HTZ3.jmx:78, 308, 538, 764, component_reference.html:15164 -/
def ConnectTime (delay : ℕ) (s : Sensor) (thread : ℕ) : ℕ := thread * delay + ConnectTimer s

/-- The groups of a plan. -/
def TestPlan.group (plan : TestPlan) : Sensor → ThreadGroup
  | .temperature => publishTemperature plan.NumberApartments
  | .humidity => publishHumidity plan.NumberApartments
  | .electricity => publishElectricity plan.NumberApartments
  | .co2 => publishCO2 plan.NumberApartments

/-! ## Running a plan -/

/-- A publication with its time. -/
structure Stamp where
  time : ℕ
  sensor : Sensor
  thread : ℕ

/-- A plan that is running. -/
structure RunningPlan where
  now : ℕ
  groups : Sensor → RunningGroup
  /-- The thread has connected to the broker. -/
  connected : Sensor → ℕ → Bool
  /-- When the pause of a thread ends that has not connected or has begun an iteration. -/
  ready : Sensor → ℕ → ℕ
  /-- The publications so far, in order. -/
  log : List Stamp

/-- All groups start now. -/
def RunningPlan.start (plan : TestPlan) (delay : ℕ) : RunningPlan where
  now := 0
  groups s := RunningGroup.start (plan.group s) (plan.LoopCount s)
  connected _ _ := false
  ready := ConnectTime delay
  log := []

/-- A step of a thread of the group of `s`, or time that passes. -/
inductive PlanMove where
  | connect (s : Sensor) (thread : ℕ)
  | draw (s : Sensor) (thread : ℕ) (random : ℕ)
  | publish (s : Sensor) (thread : ℕ)
  | wait (milliseconds : ℕ)

/-- A step of a thread, or time that passes.
SOURCE: TestPlanTF4HTZ3.jmx:71-985, component_reference.html:12177 -/
def RunningPlan.step (plan : TestPlan) (g : RunningPlan) : PlanMove → Option RunningPlan
  | .connect s t =>
      if t < plan.NumberApartments ∧ g.connected s t = false ∧ g.ready s t ≤ g.now then
        some { g with
          connected := Function.update g.connected s (Function.update (g.connected s) t true) }
      else none
  | .draw s t random =>
      if g.connected s t then
        ((g.groups s).step (plan.group s) plan.NumberApartments (.draw t random)).map fun group =>
          { g with
            groups := Function.update g.groups s group
            ready := Function.update g.ready s
              (Function.update (g.ready s) t (g.now + plan.Timer s)) }
      else none
  | .publish s t =>
      if g.ready s t ≤ g.now then
        ((g.groups s).step (plan.group s) plan.NumberApartments (.publish t)).map fun group =>
          { g with
            groups := Function.update g.groups s group
            log := g.log ++ [⟨g.now, s, t⟩] }
      else none
  | .wait milliseconds => some { g with now := g.now + milliseconds }

end OpenhabConfiguration.Model
