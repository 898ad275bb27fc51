import OpenhabConfiguration.Interface.DelayedRules
import OpenhabConfiguration.Model.SendFiles
import OpenhabConfiguration.Model.TestPlan

/-!
# openHAB under the load of a test plan

The thread groups of a test plan, the messages on their way, and openHAB with the files it
has loaded from the share, as one machine (`LoadedHouse.step`). A message that a thread
publishes is on its way until it is delivered or lost; the groups publish with QoS 1, so that
a message can be delivered more than once. openHAB shows a message in the items it reaches
and runs the rules that these items trigger at any later time.

Seen from a group, a run of the machine is a run of the group (`run_group`); seen from
openHAB, it is a run of the rule engine on the readings among the messages that have been
received (`run_engine`).
-/

set_option autoImplicit false

namespace OpenhabConfiguration.Interface

open Model Runs

/-! ## openHAB and its files -/

/-- What openHAB has loaded. -/
structure Installation where
  bridge : Bridge
  items : List Item
  rules : List Rule

/-- openHAB loads the Things, the items and the rules of the files on the share. -/
def Installation.load (share : Files) : Option Installation := do
  let bridge ← (share ConfigFile.things.destination).bind readThings
  let items ← (share ConfigFile.items.destination).bind readItems
  let rules ← (share ConfigFile.rules.destination).bind readRules
  return { bridge, items, rules }

/-- The connection to the broker that openHAB makes with the files on the share, when the things
file is one Bridge block. -/
def Broker.load (share : Files) : Option Broker := do
  let text ← share ConfigFile.things.destination
  let block ← readBridgeBlock text
  return block.broker

/-- An item takes a number, and the rules it triggers become pending. -/
def Engine.post (rules : List Rule) (engine : Engine) (item : String) (value : ℚ) : Engine where
  states := Function.update engine.states item (.decimal value)
  pending := engine.pending ++ rules.filter fun rule => rule.trigger = item

/-- A message on a topic. -/
abbrev Mail := String × ℕ

/-- Every item that a message reaches takes its number. -/
def Installation.receive (inst : Installation) (engine : Engine) (mail : Mail) : Engine :=
  (delivered inst.bridge inst.items mail.1).foldl
    (fun engine item => engine.post inst.rules item mail.2) engine

/-! ## The machine -/

/-- The thread groups that are running, the broker and openHAB. -/
structure LoadedHouse where
  groups : Sensor → RunningGroup
  /-- The messages that have been published and not yet delivered. -/
  inFlight : List Mail
  engine : Engine

/-- The groups before their first iterations, and openHAB before the first message. -/
def LoadedHouse.start (group : Sensor → ThreadGroup) (LoopCount : Sensor → ℕ) : LoadedHouse where
  groups s := RunningGroup.start (group s) (LoopCount s)
  inFlight := []
  engine := Engine.start fun _ => .undefined

/-- A step of a thread, of the broker or of the rule engine. -/
inductive LoadMove where
  /-- A thread of the group of a sensor makes a step. -/
  | thread (s : Sensor) (move : ThreadMove)
  | deliver (mail : Mail)
  /-- A message is delivered, and will be delivered again. -/
  | redeliver (mail : Mail)
  | lose (mail : Mail)
  /-- A pending rule runs. -/
  | execute (rule : Rule)

/-- A step of the groups, each with `threads` threads, of the broker or of openHAB.
SOURCE: TestPlanTF4HTZ3.jmx:71-985 -/
def LoadedHouse.step (inst : Installation) (group : Sensor → ThreadGroup) (threads : ℕ)
    (house : LoadedHouse) : LoadMove → Option LoadedHouse
  | .thread s move => do
      let g ← (house.groups s).step (group s) threads move
      some { house with
        groups := Function.update house.groups s g
        inFlight := house.inFlight ++ g.published.drop (house.groups s).published.length }
  | .deliver mail =>
      if mail ∈ house.inFlight then some { house with
        inFlight := house.inFlight.erase mail
        engine := inst.receive house.engine mail }
      else none
  | .redeliver mail =>
      if mail ∈ house.inFlight then
        some { house with engine := inst.receive house.engine mail }
      else none
  | .lose mail =>
      if mail ∈ house.inFlight then some { house with inFlight := house.inFlight.erase mail }
      else none
  | .execute rule => do
      let engine ← house.engine.step inst.rules (.execute rule)
      some { house with engine }

/-- The messages that a run delivers, in order. -/
def received (moves : List LoadMove) : List Mail :=
  moves.filterMap fun
    | .deliver mail => some mail
    | .redeliver mail => some mail
    | _ => none

/-- The messages that a run delivers without taking them from those on their way. -/
def redelivered (moves : List LoadMove) : List Mail :=
  moves.filterMap fun
    | .redeliver mail => some mail
    | _ => none

/-- The messages that a run loses. -/
def lost (moves : List LoadMove) : List Mail :=
  moves.filterMap fun
    | .lose mail => some mail
    | _ => none

/-- The messages that two runs deliver, one after the other. -/
theorem received_append (before after : List LoadMove) :
    received (before ++ after) = received before ++ received after :=
  List.filterMap_append

/-- The messages that two runs deliver more than once. -/
theorem redelivered_append (before after : List LoadMove) :
    redelivered (before ++ after) = redelivered before ++ redelivered after :=
  List.filterMap_append

/-- The messages that two runs lose. -/
theorem lost_append (before after : List LoadMove) :
    lost (before ++ after) = lost before ++ lost after :=
  List.filterMap_append

/-! ## What a step does -/

section Step

variable {inst : Installation} {group : Sensor → ThreadGroup} {threads : ℕ}
  {house house' : LoadedHouse} {mail : Mail} {rule : Rule} {s : Sensor} {move : ThreadMove}

/-- A thread's step is one of its group; what it publishes is on its way afterwards, and nothing
else changes. -/
theorem LoadedHouse.step_thread (h : house.step inst group threads (.thread s move) = some house') :
    (house.groups s).step (group s) threads move = some (house'.groups s) ∧
      (∀ t, t ≠ s → house'.groups t = house.groups t) ∧
      house'.inFlight = house.inFlight ++
        (house'.groups s).published.drop (house.groups s).published.length ∧
      house'.engine = house.engine := by
  obtain ⟨g, hg, hhouse⟩ := Option.bind_eq_some_iff.mp h
  cases hhouse
  have hself : Function.update house.groups s g s = g := Function.update_self ..
  refine ⟨hg.trans (congrArg some hself.symm), fun t ht => Function.update_of_ne ht _ _, ?_, rfl⟩
  exact congrArg (fun g : RunningGroup => house.inFlight ++
    g.published.drop (house.groups s).published.length) hself.symm

/-- A delivered message was on its way, is no longer, and has reached openHAB. -/
theorem LoadedHouse.step_deliver (h : house.step inst group threads (.deliver mail) = some house') :
    mail ∈ house.inFlight ∧ house'.groups = house.groups ∧
      house'.inFlight = house.inFlight.erase mail ∧
      house'.engine = inst.receive house.engine mail := by
  rw [LoadedHouse.step] at h
  split at h
  · rename_i hmem
    cases h
    exact ⟨hmem, rfl, rfl, rfl⟩
  · cases h

/-- A message that is delivered once more stays on its way. -/
theorem LoadedHouse.step_redeliver
    (h : house.step inst group threads (.redeliver mail) = some house') :
    mail ∈ house.inFlight ∧ house'.groups = house.groups ∧ house'.inFlight = house.inFlight ∧
      house'.engine = inst.receive house.engine mail := by
  rw [LoadedHouse.step] at h
  split at h
  · rename_i hmem
    cases h
    exact ⟨hmem, rfl, rfl, rfl⟩
  · cases h

/-- A lost message was on its way and reaches nobody. -/
theorem LoadedHouse.step_lose (h : house.step inst group threads (.lose mail) = some house') :
    mail ∈ house.inFlight ∧ house'.groups = house.groups ∧
      house'.inFlight = house.inFlight.erase mail ∧ house'.engine = house.engine := by
  rw [LoadedHouse.step] at h
  split at h
  · rename_i hmem
    cases h
    exact ⟨hmem, rfl, rfl, rfl⟩
  · cases h

/-- An execution is a step of the engine alone. -/
theorem LoadedHouse.step_execute
    (h : house.step inst group threads (.execute rule) = some house') :
    house.engine.step inst.rules (.execute rule) = some house'.engine ∧
      house'.groups = house.groups ∧ house'.inFlight = house.inFlight := by
  obtain ⟨engine, hengine, hhouse⟩ := Option.bind_eq_some_iff.mp h
  cases hhouse
  exact ⟨hengine, rfl, rfl⟩

end Step

/-! ## Seen from a group -/

/-- The steps of the threads of one group. -/
def threadMoves (s : Sensor) : LoadMove → List ThreadMove
  | .thread t move => if t = s then [move] else []
  | _ => []

section Group

variable {inst : Installation} {group : Sensor → ThreadGroup} {threads : ℕ}
  {house house' : LoadedHouse}

/-- A step of the house is a step of a group or none, as the group sees it. -/
theorem step_group (s : Sensor) (move : LoadMove)
    (h : house.step inst group threads move = some house') :
    Runs.run (RunningGroup.step (group s) threads) (house.groups s) (threadMoves s move) =
      some (house'.groups s) := by
  cases move with
  | thread t move =>
      obtain ⟨hstep, hother, -, -⟩ := LoadedHouse.step_thread h
      rw [threadMoves]
      by_cases hts : t = s
      · subst hts
        rw [if_pos rfl]
        exact run_cons.mpr ⟨_, hstep, run_nil.mpr rfl⟩
      · rw [if_neg hts, hother s (Ne.symm hts)]
        exact run_nil.mpr rfl
  | deliver mail => exact run_nil.mpr (by rw [(LoadedHouse.step_deliver h).2.1])
  | redeliver mail => exact run_nil.mpr (by rw [(LoadedHouse.step_redeliver h).2.1])
  | lose mail => exact run_nil.mpr (by rw [(LoadedHouse.step_lose h).2.1])
  | execute rule => exact run_nil.mpr (by rw [(LoadedHouse.step_execute h).2.1])

/-- **Seen from a group**, a run is a run of the group. -/
theorem run_group {moves : List LoadMove} (s : Sensor)
    (h : Runs.run (LoadedHouse.step inst group threads) house moves = some house') :
    Runs.run (RunningGroup.step (group s) threads) (house.groups s)
      (moves.flatMap (threadMoves s)) = some (house'.groups s) :=
  run_of_simulation (fun house => house.groups s) (fun _ move _ => step_group s move) h

end Group

/-! ## Seen from openHAB -/

/-- The installation of a house. -/
def houseInstallation (apartments : List ℕ) (on : List Sensor) : Installation where
  bridge := houseBridge apartments on
  items := houseItems apartments
  rules := houseRules apartments

/-- The sensors of a house. -/
def houseSensors (apartments : List ℕ) (on : List Sensor) : List (ℕ × Sensor) :=
  apartments.product on

/-- What a message is to a house: a reading of the sensor that its topic belongs to, if the
house has this sensor. -/
def readingsIn (apartments : List ℕ) (on : List Sensor) (mail : Mail) : List Reading :=
  ((houseSensors apartments on).filter fun p => sensorTopic p.1 p.2 = mail.1).map
    fun p => ⟨p.1, p.2, mail.2⟩

/-- What a move is to the rule engine. -/
def engineMoves (apartments : List ℕ) (on : List Sensor) : LoadMove → List EngineMove
  | .deliver mail => (readingsIn apartments on mail).map .update
  | .redeliver mail => (readingsIn apartments on mail).map .update
  | .execute rule => [.execute rule]
  | _ => []

/-- Posting readings one by one is a run of updates. -/
theorem run_updates (rules : List Rule) (readings : List Reading) (engine : Engine) :
    Runs.run (Engine.step rules) engine (readings.map .update) =
      some (readings.foldl (fun engine r =>
        engine.post rules (itemName r.apartment (.reading r.sensor)) r.value) engine) := by
  induction readings generalizing engine with
  | nil => rfl
  | cons r readings ih =>
      rw [List.map_cons, run_cons]
      exact ⟨_, rfl, ih _⟩

/-- The readings of two runs of the engine, one after the other. -/
theorem readingsOf_append (before after : List EngineMove) :
    readingsOf (before ++ after) = readingsOf before ++ readingsOf after :=
  List.filterMap_append

/-- The readings of a run of updates. -/
theorem readingsOf_updates (readings : List Reading) :
    readingsOf (readings.map .update) = readings := by
  induction readings with
  | nil => rfl
  | cons r readings ih => exact congrArg (List.cons r) ih

section House

variable {apartments : List ℕ} {on : List Sensor}

/-- The sensors of a house: those that are on, in each of its apartments. -/
theorem mem_houseSensors {i : ℕ} {s : Sensor} :
    (i, s) ∈ houseSensors apartments on ↔ i ∈ apartments ∧ s ∈ on :=
  List.pair_mem_product

/-- No sensor of a house is listed twice. -/
theorem nodup_houseSensors (h : apartments.Nodup) (hon : on.Nodup) :
    (houseSensors apartments on).Nodup :=
  h.product hon

/-- A reading that a message is: the house has the sensor, and the topic is its topic. -/
theorem mem_readingsIn {mail : Mail} {r : Reading} : r ∈ readingsIn apartments on mail ↔
    r.apartment ∈ apartments ∧ r.sensor ∈ on ∧ sensorTopic r.apartment r.sensor = mail.1 ∧
      r.value = mail.2 := by
  obtain ⟨i, s, v⟩ := r
  rw [readingsIn, List.mem_map]
  constructor
  · rintro ⟨⟨j, t⟩, hmem, hreading⟩
    cases hreading
    rw [List.mem_filter, mem_houseSensors, decide_eq_true_iff] at hmem
    exact ⟨hmem.1.1, hmem.1.2, hmem.2, rfl⟩
  · rintro ⟨hi, hs, htopic, hvalue⟩
    refine ⟨(i, s), ?_, by rw [← hvalue]⟩
    rw [List.mem_filter, mem_houseSensors, decide_eq_true_iff]
    exact ⟨⟨hi, hs⟩, htopic⟩

/-- **A message on the topic of a sensor** is a reading of this sensor, if the house has
it. -/
theorem readingsIn_sensorTopic (h : apartments.Nodup) (hon : on.Nodup) (i : ℕ) (s : Sensor)
    (v : ℕ) : readingsIn apartments on (sensorTopic i s, v) =
      if i ∈ apartments ∧ s ∈ on then [⟨i, s, v⟩] else [] := by
  refine (congrArg (List.map _) (filter_eq_ite (nodup_houseSensors h hon) (i, s)
    fun p => ?_)).trans ?_
  · rw [decide_eq_true_iff, sensorTopic_inj, Prod.ext_iff]
  · by_cases hmem : i ∈ apartments ∧ s ∈ on
    · rw [if_pos hmem, if_pos (mem_houseSensors.mpr hmem)]
      rfl
    · rw [if_neg hmem, if_neg fun hpair => hmem (mem_houseSensors.mp hpair)]
      rfl

/-- A message is one reading of a sensor of the house, or it is none and its topic is that of
no sensor of the house. -/
theorem readingsIn_cases (h : apartments.Nodup) (hon : on.Nodup) (mail : Mail) :
    (∃ i ∈ apartments, ∃ s ∈ on, sensorTopic i s = mail.1 ∧
      readingsIn apartments on mail = [⟨i, s, mail.2⟩]) ∨
    (∀ i ∈ apartments, ∀ s ∈ on, sensorTopic i s ≠ mail.1) ∧ readingsIn apartments on mail = [] := by
  by_cases hsensor : ∃ i ∈ apartments, ∃ s ∈ on, sensorTopic i s = mail.1
  · obtain ⟨topic, v⟩ := mail
    obtain ⟨i, hi, s, hs, rfl⟩ := hsensor
    refine .inl ⟨i, hi, s, hs, rfl, ?_⟩
    rw [readingsIn_sensorTopic h hon, if_pos ⟨hi, hs⟩]
  · refine .inr ⟨fun i hi s hs htopic => hsensor ⟨i, hi, s, hs, htopic⟩, ?_⟩
    rw [List.eq_nil_iff_forall_not_mem]
    intro r hr
    obtain ⟨hi, hs, htopic, -⟩ := mem_readingsIn.mp hr
    exact hsensor ⟨_, hi, _, hs, htopic⟩

/-- A message reaches the items of the readings that it is. -/
theorem delivered_eq (h : apartments.Nodup) (hon : on.Nodup) (mail : Mail) :
    delivered (houseBridge apartments on) (houseItems apartments) mail.1 =
      (readingsIn apartments on mail).map fun r => itemName r.apartment (.reading r.sensor) := by
  rcases readingsIn_cases h hon mail with ⟨i, hi, s, hs, htopic, hreadings⟩ | ⟨hnone, hreadings⟩
  · rw [hreadings, ← htopic, delivered_sensorTopic h hon, if_pos ⟨hi, hs⟩]
    rfl
  · have hlistening : (houseBridge apartments on).listening mail.1 = [] := by
      rw [Bridge.listening, List.flatMap_eq_nil_iff]
      intro thing hthing
      obtain ⟨i, hi, rfl⟩ := List.mem_map.mp hthing
      rw [List.map_eq_nil_iff, List.filter_eq_nil_iff]
      intro channel hchannel htopic
      obtain ⟨s, hs, rfl⟩ := List.mem_map.mp hchannel
      exact hnone i hi s hs (of_decide_eq_true htopic)
    rw [delivered, hlistening, hreadings]
    rfl

/-- **What a house does with a message** is what its rule engine does with the readings that
the message is. -/
theorem run_receive_house (h : apartments.Nodup) (hon : on.Nodup) (engine : Engine) (mail : Mail) :
    Runs.run (Engine.step (houseRules apartments)) engine
        ((readingsIn apartments on mail).map .update) =
      some ((houseInstallation apartments on).receive engine mail) := by
  have hvalue : ∀ r ∈ readingsIn apartments on mail, r.value = mail.2 := fun r hr =>
    (mem_readingsIn.mp hr).2.2.2
  rw [run_updates, Installation.receive, houseInstallation, delivered_eq h hon, List.foldl_map]
  apply congrArg some
  apply List.foldl_ext
  intro engine r hr
  rw [hvalue r hr]

/-- A message triggers one rule at most. -/
theorem pending_receive_le (h : apartments.Nodup) (hon : on.Nodup) (engine : Engine)
    (mail : Mail) : ((houseInstallation apartments on).receive engine mail).pending.length ≤
      engine.pending.length + 1 := by
  have hrun := run_receive_house h hon engine mail
  rcases readingsIn_cases h hon mail with ⟨i, hi, s, -, -, hreadings⟩ | ⟨-, hreadings⟩
  · rw [hreadings, List.map_cons, List.map_nil, run_cons] at hrun
    obtain ⟨engine', hstep, hnil⟩ := hrun
    rw [← run_nil.mp hnil, (Engine.step_update hstep).2, filter_trigger_eq h, if_pos hi,
      List.length_append]
    cases s <;> simp [triggered]
  · rw [hreadings] at hrun
    rw [← run_nil.mp hrun]
    exact Nat.le_succ _

section Run

variable {group : Sensor → ThreadGroup} {threads : ℕ} {house house' : LoadedHouse}

/-- A step of the house is a run of its engine: a message is at most one update. -/
theorem step_engine (h : apartments.Nodup) (hon : on.Nodup) (move : LoadMove)
    (hstep : house.step (houseInstallation apartments on) group threads move = some house') :
    Runs.run (Engine.step (houseRules apartments)) house.engine (engineMoves apartments on move) =
      some house'.engine := by
  cases move with
  | thread s move =>
      exact run_nil.mpr (LoadedHouse.step_thread hstep).2.2.2.symm
  | deliver mail =>
      rw [(LoadedHouse.step_deliver hstep).2.2.2]
      exact run_receive_house h hon _ _
  | redeliver mail =>
      rw [(LoadedHouse.step_redeliver hstep).2.2.2]
      exact run_receive_house h hon _ _
  | lose mail => exact run_nil.mpr (LoadedHouse.step_lose hstep).2.2.2.symm
  | execute rule =>
      exact run_cons.mpr ⟨_, (LoadedHouse.step_execute hstep).1, run_nil.mpr rfl⟩

/-- **Seen from openHAB**, a run is a run of the rule engine. -/
theorem run_engine (h : apartments.Nodup) (hon : on.Nodup) {moves : List LoadMove}
    (hrun : Runs.run (LoadedHouse.step (houseInstallation apartments on) group threads) house moves =
      some house') :
    Runs.run (Engine.step (houseRules apartments)) house.engine
      (moves.flatMap (engineMoves apartments on)) = some house'.engine :=
  run_of_simulation LoadedHouse.engine (fun _ move _ => step_engine h hon move) hrun

/-- The readings of that run are those among the messages that have been received. -/
theorem readingsOf_engineMoves (moves : List LoadMove) :
    readingsOf (moves.flatMap (engineMoves apartments on)) =
      (received moves).flatMap (readingsIn apartments on) := by
  induction moves with
  | nil => rfl
  | cons move moves ih =>
      rw [List.flatMap_cons, readingsOf_append, ih]
      cases move with
      | deliver mail => exact congrArg (· ++ _) (readingsOf_updates _)
      | redeliver mail => exact congrArg (· ++ _) (readingsOf_updates _)
      | thread s move => rfl
      | lose mail => rfl
      | execute rule => rfl

end Run

end House

end OpenhabConfiguration.Interface
