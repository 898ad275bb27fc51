import OpenhabConfiguration.Interface.RuleEngine
import OpenhabConfiguration.Library.Runs

/-!
# Rules that run late

A rule engine under load: an update sets the state of its item and adds an execution of
every rule it triggers to the pending ones; a pending execution runs at any later time, in
any order, on the states of that time (`Engine.step`). Executions that are not delayed do
what `receive` does (`run_receive`).

Executions of the rules of a house leave the items of the sensors alone
(`exec_reading`), and each changes one item of its own apartment at most.
-/

set_option autoImplicit false

namespace OpenhabConfiguration.Interface

/-! ## The engine -/

/-- The rule engine between two steps. -/
structure Engine where
  states : States
  /-- The executions that have been triggered and have not run. -/
  pending : List Rule

/-- The engine before the first update. -/
def Engine.start (states : States) : Engine := ⟨states, []⟩

/-- A step of the engine: a sensor is updated, or a pending execution runs. -/
inductive EngineMove where
  | update (reading : Reading)
  | execute (rule : Rule)
deriving DecidableEq

/-- An update sets an item and triggers rules; an execution is one of the pending ones. -/
def Engine.step (rules : List Rule) (engine : Engine) : EngineMove → Option Engine
  | .update r => some {
      states := Function.update engine.states (itemName r.apartment (.reading r.sensor))
        (.decimal r.value)
      pending := engine.pending ++
        rules.filter fun rule => rule.trigger = itemName r.apartment (.reading r.sensor) }
  | .execute rule =>
      if rule ∈ engine.pending then some {
        states := (rule.body.exec engine.states).1
        pending := engine.pending.erase rule }
      else none

/-- The readings among the moves. -/
def readingsOf (moves : List EngineMove) : List Reading :=
  moves.filterMap fun
    | .update r => some r
    | .execute _ => none

section Step

variable {rules : List Rule} {engine engine' : Engine} {rule : Rule}

/-- An update sets the item of the sensor and adds the executions that it triggers. -/
theorem Engine.step_update {r : Reading} (h : engine.step rules (.update r) = some engine') :
    engine'.states = Function.update engine.states (itemName r.apartment (.reading r.sensor))
        (.decimal r.value) ∧
      engine'.pending = engine.pending ++
        rules.filter fun rule => rule.trigger = itemName r.apartment (.reading r.sensor) := by
  cases h
  exact ⟨rfl, rfl⟩

/-- An execution was pending, runs on the current states and is no longer pending. -/
theorem Engine.step_execute (h : engine.step rules (.execute rule) = some engine') :
    rule ∈ engine.pending ∧ engine'.states = (rule.body.exec engine.states).1 ∧
      engine'.pending = engine.pending.erase rule := by
  rw [Engine.step] at h
  split at h
  · rename_i hmem
    cases h
    exact ⟨hmem, rfl, rfl⟩
  · cases h

/-- Every pending execution can run. -/
theorem Engine.step_of_pending (h : rule ∈ engine.pending) :
    engine.step rules (.execute rule) =
      some ⟨(rule.body.exec engine.states).1, engine.pending.erase rule⟩ :=
  if_pos h

/-- Only rules of the engine are pending. -/
theorem Engine.step_pending {move : EngineMove}
    (hpending : ∀ rule ∈ engine.pending, rule ∈ rules)
    (h : engine.step rules move = some engine') : ∀ rule ∈ engine'.pending, rule ∈ rules := by
  intro rule hrule
  cases move with
  | update r =>
      rw [(Engine.step_update h).2] at hrule
      rcases List.mem_append.mp hrule with hold | hnew
      · exact hpending rule hold
      · exact List.mem_of_mem_filter hnew
  | execute other =>
      rw [(Engine.step_execute h).2.2] at hrule
      exact hpending rule (List.mem_of_mem_erase hrule)

/-- An update is one more reading. -/
theorem readingsOf_update (moves : List EngineMove) (r : Reading) :
    readingsOf (moves ++ [.update r]) = readingsOf moves ++ [r] := by
  simp [readingsOf]

/-- An execution is no reading. -/
theorem readingsOf_execute (moves : List EngineMove) (rule : Rule) :
    readingsOf (moves ++ [.execute rule]) = readingsOf moves := by
  simp [readingsOf]

end Step

/-! ## Rules that run at once -/

/-- Pending executions can run in the order in which they were triggered. -/
theorem run_pending (rules pending : List Rule) (σ : States) :
    Runs.run (Engine.step rules) ⟨σ, pending⟩ (pending.map .execute) =
      some (Engine.start (pending.foldl (fun σ r => (r.body.exec σ).1) σ)) := by
  induction pending generalizing σ with
  | nil => rfl
  | cons rule pending ih =>
      rw [List.map_cons, Runs.run_cons]
      refine ⟨_, Engine.step_of_pending List.mem_cons_self, ?_⟩
      rw [List.erase_cons_head]
      exact ih _

/-- **Without delay** the engine does what `receive` does. -/
theorem run_receive (rules : List Rule) (σ : States) (r : Reading) :
    Runs.run (Engine.step rules) (Engine.start σ)
        (.update r :: (rules.filter fun rule =>
          rule.trigger = itemName r.apartment (.reading r.sensor)).map .execute) =
      some (Engine.start (r.receive rules σ)) := by
  rw [Runs.run_cons]
  exact ⟨_, rfl, run_pending _ _ _⟩

/-! ## What an execution can change -/

/-- The items a statement can command. -/
def Stmt.commanded : Stmt → List String
  | .skip => []
  | .seq a b => a.commanded ++ b.commanded
  | .sendCommand item _ => [item]
  | .ifThen _ body => body.commanded

/-- A statement leaves all other items alone. -/
theorem Stmt.exec_of_not_commanded {s : Stmt} {item : String} (h : item ∉ s.commanded)
    (σ : States) : (s.exec σ).1 item = σ item := by
  induction s generalizing σ with
  | skip => rfl
  | seq a b iha ihb =>
      rw [Stmt.commanded, List.mem_append, not_or] at h
      rw [Stmt.exec]
      have ha := iha h.1 σ
      split
      · rename_i σ' heq
        rw [heq] at ha
        exact (ihb h.2 σ').trans ha
      · rename_i σ' heq
        rw [heq] at ha
        exact ha
  | sendCommand other e =>
      have hne : item ≠ other := fun heq => h (heq ▸ List.mem_singleton_self _)
      rw [Stmt.exec]
      split
      · exact Function.update_of_ne hne _ _
      · rfl
  | ifThen cond body ih =>
      rw [Stmt.exec]
      split
      · exact ih h σ
      · rfl
      · rfl

section House

variable {apartments : List ℕ} {rule : Rule} {σ : States} {i : ℕ}

/-- The rules of a house are the two of each apartment. -/
theorem mem_houseRules : rule ∈ houseRules apartments ↔
    ∃ i ∈ apartments, rule = electricityCosts i ∨ rule = burningAlarm i := by
  simp only [houseRules, List.mem_flatMap, List.mem_cons, List.not_mem_nil, or_false]

/-- The rule for the costs commands no item but the one for the costs. -/
theorem electricityCosts_exec_of_ne {item : String} (h : item ≠ itemName i .cost) :
    ((electricityCosts i).body.exec σ).1 item = σ item := by
  apply Stmt.exec_of_not_commanded
  exact fun hmem => h (List.mem_singleton.mp hmem)

/-- The rule for the alarm commands no item but the one for the alarm. -/
theorem burningAlarm_exec_of_ne {item : String} (h : item ≠ itemName i .fire) :
    ((burningAlarm i).body.exec σ).1 item = σ item := by
  apply Stmt.exec_of_not_commanded
  exact fun hmem => h (List.mem_singleton.mp hmem)

/-- **Executions do not touch the sensors.** -/
theorem exec_reading (hrule : rule ∈ houseRules apartments) (s : Sensor) :
    (rule.body.exec σ).1 (itemName i (.reading s)) = σ (itemName i (.reading s)) := by
  obtain ⟨j, -, rfl | rfl⟩ := mem_houseRules.mp hrule
  · exact electricityCosts_exec_of_ne fun h => by cases (itemName_inj.mp h).2
  · exact burningAlarm_exec_of_ne fun h => by cases (itemName_inj.mp h).2

/-- What the update of a sensor triggers. -/
theorem filter_trigger_eq (h : apartments.Nodup) (i : ℕ) (s : Sensor) :
    (houseRules apartments).filter (fun r => r.trigger = itemName i (.reading s)) =
      if i ∈ apartments then triggered i s else [] := by
  by_cases hi : i ∈ apartments
  · rw [if_pos hi, filter_trigger h hi]
  · rw [if_neg hi, List.filter_eq_nil_iff]
    intro r hr htrigger
    obtain ⟨j, hj, rfl | rfl⟩ := mem_houseRules.mp hr
    · exact hi ((itemName_inj.mp (of_decide_eq_true htrigger)).1 ▸ hj)
    · exact hi ((itemName_inj.mp (of_decide_eq_true htrigger)).1 ▸ hj)

/-- The update of a sensor of the house. -/
theorem Engine.step_house (h : apartments.Nodup) (hi : i ∈ apartments) (engine : Engine)
    (s : Sensor) (v : ℚ) : engine.step (houseRules apartments) (.update ⟨i, s, v⟩) =
      some ⟨Function.update engine.states (itemName i (.reading s)) (.decimal v),
        engine.pending ++ triggered i s⟩ := by
  rw [Engine.step, filter_trigger_eq h, if_pos hi]

end House

end OpenhabConfiguration.Interface
