import Mathlib.Data.List.Induction
import OpenhabConfiguration.Interface.Routing

/-!
# Running the rules of a house

The rule engine of openHAB: an update sets the state of an item, and then the rules that
are triggered by this item run one after the other (`receive`). A rule body reads and
commands items (`Stmt.exec`); a cast of a state that is not a number aborts the rule.

For the rules of a house, `receive_house` says what one update of a sensor does, and
`run_house` what a whole run leaves: the readings, the costs as a function of the last
electricity reading, and the alarm, which is raised by a CO2 reading above `9` at a
temperature above `35` and never withdrawn (`Burned`).
-/

set_option autoImplicit false

namespace OpenhabConfiguration.Interface

/-! ## Rule bodies -/

/-- The state of an item: none yet, a number or a text. -/
inductive ItemState where
  | undefined
  | decimal (q : ℚ)
  | text (s : String)
deriving DecidableEq

/-- The states of all items, by name. -/
abbrev States := String → ItemState

/-- The value of an expression: a state, or a truth value. -/
inductive Value where
  | state (x : ItemState)
  | bool (b : Bool)
deriving DecidableEq

/-- The value of an expression; nothing when its evaluation aborts. A conjunction whose
left side is false does not evaluate its right side. -/
def Expr.eval (σ : States) : Expr → Option Value
  | .state item => some (.state (σ item))
  | .asDecimal e =>
      match e.eval σ with
      | some (.state (.decimal q)) => some (.state (.decimal q))
      | _ => none
  | .decimal q => some (.state (.decimal q))
  | .text s => some (.state (.text s))
  | .mul a b =>
      match a.eval σ, b.eval σ with
      | some (.state (.decimal p)), some (.state (.decimal q)) => some (.state (.decimal (p * q)))
      | _, _ => none
  | .gt a b =>
      match a.eval σ, b.eval σ with
      | some (.state (.decimal p)), some (.state (.decimal q)) => some (.bool (decide (p > q)))
      | _, _ => none
  | .and a b =>
      match a.eval σ with
      | some (.bool false) => some (.bool false)
      | some (.bool true) =>
          match b.eval σ with
          | some (.bool c) => some (.bool c)
          | _ => none
      | _ => none

/-- Running a statement: the states it leaves, and whether it ran to its end. -/
def Stmt.exec : Stmt → States → States × Bool
  | .skip, σ => (σ, true)
  | .seq a b, σ =>
      match a.exec σ with
      | (σ', true) => b.exec σ'
      | (σ', false) => (σ', false)
  | .sendCommand item e, σ =>
      match e.eval σ with
      | some (.state x) => (Function.update σ item x, true)
      | _ => (σ, false)
  | .ifThen cond body, σ =>
      match cond.eval σ with
      | some (.bool true) => body.exec σ
      | some (.bool false) => (σ, true)
      | _ => (σ, false)

/-! ## Updates -/

/-- An update of an item: its new state, and then the rules it triggers, in order. -/
def receive (rules : List Rule) (σ : States) (item : String) (x : ItemState) : States :=
  (rules.filter fun r => r.trigger = item).foldl (fun σ r => (r.body.exec σ).1)
    (Function.update σ item x)

/-- A value that a sensor of an apartment sends. -/
structure Reading where
  apartment : ℕ
  sensor : Sensor
  value : ℚ
deriving DecidableEq

/-- The states behind a reading and all rules that it triggers. -/
def Reading.receive (rules : List Rule) (σ : States) (r : Reading) : States :=
  Interface.receive rules σ (itemName r.apartment (.reading r.sensor)) (.decimal r.value)

/-- The states after a sequence of readings, from items that are all undefined. -/
def run (rules : List Rule) (readings : List Reading) : States :=
  readings.foldl (Reading.receive rules) fun _ => .undefined

/-! ## What the rules are for -/

/-- The last value of a sensor in a sequence of readings. -/
def lastValue (i : ℕ) (s : Sensor) (readings : List Reading) : Option ℚ :=
  ((readings.filter fun r => r.apartment = i ∧ r.sensor = s).getLast?).map Reading.value

/-- A CO2 reading of apartment `i` above `9` at which its latest temperature is above
`35`. -/
def Burned (i : ℕ) (readings : List Reading) : Prop :=
  ∃ before v after t, readings = before ++ ⟨i, .co2, v⟩ :: after ∧ 9 < v ∧
    lastValue i .temperature before = some t ∧ 35 < t

/-- The number an item shows for an optional value. -/
def ItemState.ofOption : Option ℚ → ItemState
  | some q => .decimal q
  | none => .undefined

section LastValue

variable (i : ℕ) (s : Sensor) (readings : List Reading) (r : Reading)

/-- The last value of a sensor changes with the readings of this sensor only. -/
theorem lastValue_snoc : lastValue i s (readings ++ [r]) =
    if r.apartment = i ∧ r.sensor = s then some r.value else lastValue i s readings := by
  rw [lastValue, List.filter_append]
  by_cases hr : r.apartment = i ∧ r.sensor = s
  · simp [hr]
  · simp [hr, lastValue]

/-- One more reading raises the alarm when it is a CO2 reading above `9` at a temperature
above `35`. -/
theorem burned_snoc : Burned i (readings ++ [r]) ↔ Burned i readings ∨
    (r.apartment = i ∧ r.sensor = .co2 ∧ 9 < r.value ∧
      ∃ t, lastValue i .temperature readings = some t ∧ 35 < t) := by
  constructor
  · rintro ⟨before, v, after, t, heq, hv, hlast, ht⟩
    rcases List.eq_nil_or_concat after with rfl | ⟨after, r', rfl⟩
    · obtain ⟨rfl, hr⟩ := List.append_inj' heq rfl
      cases hr
      exact .inr ⟨rfl, rfl, hv, t, hlast, ht⟩
    · rw [List.concat_eq_append, ← List.cons_append, ← List.append_assoc] at heq
      obtain ⟨rfl, -⟩ := List.append_inj' heq rfl
      exact .inl ⟨before, v, after, t, rfl, hv, hlast, ht⟩
  · rintro (⟨before, v, after, t, rfl, hv, hlast, ht⟩ | ⟨hi, hs, hv, t, hlast, ht⟩)
    · exact ⟨before, v, after ++ [r], t, by simp, hv, hlast, ht⟩
    · refine ⟨readings, r.value, [], t, ?_, hv, hlast, ht⟩
      rw [← hi, ← hs]

/-- Nothing has burned before the first reading. -/
theorem not_burned_nil : ¬ Burned i [] := by
  rintro ⟨before, v, after, t, heq, -⟩
  cases before <;> cases heq

/-- The last value depends on the readings of the apartment only. -/
theorem lastValue_filter :
    lastValue i s (readings.filter fun r => r.apartment = i) = lastValue i s readings := by
  rw [lastValue, lastValue, List.filter_filter]
  congr 2
  apply List.filter_congr
  intro r _
  simp only [← Bool.decide_and]
  congr 1
  rw [eq_iff_iff]
  tauto

/-- The alarm depends on the readings of the apartment only. -/
theorem burned_filter :
    Burned i (readings.filter fun r => r.apartment = i) ↔ Burned i readings := by
  induction readings using List.reverseRecOn with
  | nil => rfl
  | append_singleton readings r ih =>
      rw [burned_snoc, ← ih, List.filter_append]
      by_cases hr : r.apartment = i
      · rw [List.filter_singleton, decide_eq_true hr, cond_true, burned_snoc, lastValue_filter]
      · rw [List.filter_singleton, decide_eq_false hr]
        simp [hr]

end LastValue

/-! ## The rules of a house -/

/-- The state of one item of an apartment behind an update of another or the same. -/
theorem update_itemName (σ : States) (j : ℕ) (r : Quantity) (x : ItemState) (i : ℕ)
    (q : Quantity) : Function.update σ (itemName j r) x (itemName i q) =
      if j = i ∧ r = q then x else σ (itemName i q) := by
  by_cases h : j = i ∧ r = q
  · obtain ⟨rfl, rfl⟩ := h
    simp
  · rw [if_neg h, Function.update_of_ne]
    intro heq
    exact h ((itemName_inj.mp heq).imp Eq.symm Eq.symm)

/-- The rules of apartment `i` that a reading of sensor `s` triggers. -/
def triggered (i : ℕ) : Sensor → List Rule
  | .electricity => [electricityCosts i]
  | .co2 => [burningAlarm i]
  | _ => []

section House

variable {apartments : List ℕ}

/-- A reading triggers only rules of its own apartment. -/
theorem filter_trigger (h : apartments.Nodup) {i : ℕ} (hi : i ∈ apartments) (s : Sensor) :
    (houseRules apartments).filter (fun r => r.trigger = itemName i (.reading s)) =
      triggered i s := by
  have hcosts : ∀ j, (electricityCosts j).trigger = itemName j (.reading .electricity) :=
    fun _ => rfl
  have halarm : ∀ j, (burningAlarm j).trigger = itemName j (.reading .co2) := fun _ => rfl
  rw [houseRules, List.filter_flatMap, flatMap_eq_ite h i, if_pos hi]
  · cases s <;> simp [hcosts, halarm, itemName_inj, triggered]
  · intro j hj
    simp [hcosts, halarm, itemName_inj, hj]

/-- The rule for the costs sets them to 0.3 times the electricity. -/
theorem electricityCosts_exec {σ : States} {i : ℕ} {v : ℚ}
    (h : σ (itemName i (.reading .electricity)) = .decimal v) :
    ((electricityCosts i).body.exec σ).1 =
      Function.update σ (itemName i .cost) (.decimal (v * (3 / 10))) := by
  unfold electricityCosts
  simp only [Stmt.exec, Expr.eval, h]

/-- The rule for the alarm raises it when both values are above their thresholds. -/
theorem burningAlarm_exec {σ : States} {i : ℕ} {c t : ℚ}
    (hco2 : σ (itemName i (.reading .co2)) = .decimal c)
    (htemp : σ (itemName i (.reading .temperature)) = .decimal t) (hc : 9 < c) (ht : 35 < t) :
    ((burningAlarm i).body.exec σ).1 = Function.update σ (itemName i .fire) (.text "Feuer") := by
  unfold burningAlarm
  simp only [Stmt.exec, Expr.eval, hco2, htemp, gt_iff_lt, hc, ht, decide_true]

/-- Otherwise the alarm rule changes nothing, whether it is aborted or not. -/
theorem burningAlarm_exec_of_not {σ : States} {i : ℕ} {c : ℚ}
    (hco2 : σ (itemName i (.reading .co2)) = .decimal c)
    (h : ¬ (9 < c ∧ ∃ t, σ (itemName i (.reading .temperature)) = .decimal t ∧ 35 < t)) :
    ((burningAlarm i).body.exec σ).1 = σ := by
  unfold burningAlarm
  by_cases hc : 9 < c
  · cases htemp : σ (itemName i (.reading .temperature)) with
    | undefined => simp only [Stmt.exec, Expr.eval, hco2, htemp, gt_iff_lt, hc, decide_true]
    | text w => simp only [Stmt.exec, Expr.eval, hco2, htemp, gt_iff_lt, hc, decide_true]
    | decimal t =>
        have ht : ¬ 35 < t := fun ht => h ⟨hc, t, htemp, ht⟩
        simp only [Stmt.exec, Expr.eval, hco2, htemp, gt_iff_lt, hc, ht, decide_true, decide_false]
  · simp only [Stmt.exec, Expr.eval, hco2, gt_iff_lt, hc, decide_false]

/-- A CO2 reading above `9` while the item of the temperature shows a value above `35`. -/
def Raises (σ : States) (r : Reading) : Prop :=
  r.sensor = .co2 ∧ 9 < r.value ∧
    ∃ t, σ (itemName r.apartment (.reading .temperature)) = .decimal t ∧ 35 < t

section Receive

variable (h : apartments.Nodup) {σ : States} {r : Reading} (hr : r.apartment ∈ apartments)
include h hr

/-- **What one reading does**: it sets its own item, and then the cost rule sets the costs,
the alarm rule raises the alarm, or nothing else happens. -/
theorem receive_cases {σ' : States} (hσ' : σ' = r.receive (houseRules apartments) σ) :
    (r.sensor ≠ .electricity ∧ ¬ Raises σ r ∧
      σ' = Function.update σ (itemName r.apartment (.reading r.sensor)) (.decimal r.value)) ∨
    (r.sensor = .electricity ∧ ¬ Raises σ r ∧
      σ' = Function.update
        (Function.update σ (itemName r.apartment (.reading r.sensor)) (.decimal r.value))
        (itemName r.apartment .cost) (.decimal (r.value * (3 / 10)))) ∨
    (r.sensor ≠ .electricity ∧ Raises σ r ∧
      σ' = Function.update
        (Function.update σ (itemName r.apartment (.reading r.sensor)) (.decimal r.value))
        (itemName r.apartment .fire) (.text "Feuer")) := by
  obtain ⟨j, s, v⟩ := r
  have hrun : σ' = (triggered j s).foldl (fun σ r => (r.body.exec σ).1)
      (Function.update σ (itemName j (.reading s)) (.decimal v)) := by
    rw [hσ', Reading.receive, receive, filter_trigger h hr]
  have hself : Function.update σ (itemName j (.reading s)) (.decimal v)
      (itemName j (.reading s)) = .decimal v := Function.update_self ..
  cases s with
  | temperature => exact .inl ⟨nofun, (fun hraises => by cases hraises.1), hrun⟩
  | humidity => exact .inl ⟨nofun, (fun hraises => by cases hraises.1), hrun⟩
  | electricity =>
      exact .inr (.inl ⟨rfl, (fun hraises => by cases hraises.1),
        hrun.trans (electricityCosts_exec hself)⟩)
  | co2 =>
      have htemp : Function.update σ (itemName j (.reading .co2)) (.decimal v)
          (itemName j (.reading .temperature)) = σ (itemName j (.reading .temperature)) := by
        rw [update_itemName, if_neg (by simp)]
      by_cases hraises : Raises σ ⟨j, .co2, v⟩
      · obtain ⟨-, hv, t, ht, hlimit⟩ := id hraises
        have hraise := burningAlarm_exec hself (htemp.trans ht) hv hlimit
        exact .inr (.inr ⟨nofun, hraises, hrun.trans hraise⟩)
      · have hquiet : ¬ (9 < v ∧ ∃ t, Function.update σ (itemName j (.reading .co2)) (.decimal v)
            (itemName j (.reading .temperature)) = .decimal t ∧ 35 < t) := by
          rw [htemp]
          exact fun hraise => hraises ⟨rfl, hraise⟩
        exact .inl ⟨nofun, hraises, hrun.trans (burningAlarm_exec_of_not hself hquiet)⟩

/-- A reading sets its own item and no other reading's. -/
theorem receive_reading (i : ℕ) (t : Sensor) :
    r.receive (houseRules apartments) σ (itemName i (.reading t)) =
      if r.apartment = i ∧ r.sensor = t then .decimal r.value
      else σ (itemName i (.reading t)) := by
  obtain ⟨-, -, heq⟩ | ⟨-, -, heq⟩ | ⟨-, -, heq⟩ :=
      receive_cases (σ := σ) h hr rfl <;>
    simp [heq, update_itemName]

/-- The costs of an apartment follow its electricity readings. -/
theorem receive_cost (i : ℕ) :
    r.receive (houseRules apartments) σ (itemName i .cost) =
      if r.apartment = i ∧ r.sensor = .electricity then .decimal (r.value * (3 / 10))
      else σ (itemName i .cost) := by
  obtain ⟨hs, -, heq⟩ | ⟨hs, -, heq⟩ | ⟨hs, -, heq⟩ :=
      receive_cases (σ := σ) h hr rfl <;>
    simp [heq, hs, update_itemName]

/-- A reading that raises the alarm raises that of its apartment. -/
theorem receive_fire (hraises : Raises σ r) :
    r.receive (houseRules apartments) σ (itemName r.apartment .fire) = .text "Feuer" := by
  obtain ⟨-, hno, -⟩ | ⟨-, hno, -⟩ | ⟨-, -, heq⟩ :=
    receive_cases (σ := σ) h hr rfl
  · exact absurd hraises hno
  · exact absurd hraises hno
  · simp [heq]

/-- The other alarms stay as they are. -/
theorem receive_fire_of_not {i : ℕ} (hquiet : ¬ (r.apartment = i ∧ Raises σ r)) :
    r.receive (houseRules apartments) σ (itemName i .fire) = σ (itemName i .fire) := by
  obtain ⟨-, -, heq⟩ | ⟨-, -, heq⟩ | ⟨-, hraises, heq⟩ :=
    receive_cases (σ := σ) h hr rfl
  · simp [heq, update_itemName]
  · simp [heq, update_itemName]
  · have hne : r.apartment ≠ i := fun heq => hquiet ⟨heq, hraises⟩
    simp [heq, update_itemName, hne]

end Receive

/-- What the states say about a sequence of readings: the last reading of every sensor,
the costs of the last electricity reading, and the alarm once it has been raised. -/
structure Reflects (apartments : List ℕ) (readings : List Reading) (σ : States) : Prop where
  reading : ∀ i ∈ apartments, ∀ s,
    σ (itemName i (.reading s)) = .ofOption (lastValue i s readings)
  cost : ∀ i ∈ apartments,
    σ (itemName i .cost) = .ofOption ((lastValue i .electricity readings).map (· * (3 / 10)))
  raised : ∀ i ∈ apartments, Burned i readings → σ (itemName i .fire) = .text "Feuer"
  quiet : ∀ i ∈ apartments, ¬ Burned i readings → σ (itemName i .fire) = .undefined

/-- Items that are all undefined reflect that there have been no readings. -/
theorem reflects_nil : Reflects apartments [] fun _ => .undefined where
  reading _ _ _ := rfl
  cost _ _ := rfl
  raised _ _ h := absurd h (not_burned_nil _)
  quiet _ _ _ := rfl

/-- The item of the temperature is above the threshold exactly when its last reading is. -/
theorem Reflects.temperature_iff {readings : List Reading} {σ : States}
    (hσ : Reflects apartments readings σ) {i : ℕ} (hi : i ∈ apartments) :
    (∃ t, σ (itemName i (.reading .temperature)) = .decimal t ∧ 35 < t) ↔
      ∃ t, lastValue i .temperature readings = some t ∧ 35 < t := by
  rw [hσ.reading i hi]
  cases lastValue i .temperature readings <;> simp [ItemState.ofOption]

/-- **One reading** leaves states that reflect it. -/
theorem Reflects.receive {readings : List Reading} {σ : States}
    (hσ : Reflects apartments readings σ) (h : apartments.Nodup) {r : Reading}
    (hr : r.apartment ∈ apartments) :
    Reflects apartments (readings ++ [r]) (r.receive (houseRules apartments) σ) where
  reading i hi t := by
    rw [receive_reading h hr, lastValue_snoc, hσ.reading i hi]
    split <;> rfl
  cost i hi := by
    rw [receive_cost h hr, lastValue_snoc, hσ.cost i hi]
    split <;> rfl
  raised i hi hb := by
    rcases (burned_snoc _ _ _).mp hb with hold | ⟨rfl, hs, hv, hnew⟩
    · by_cases hraises : r.apartment = i ∧ Raises σ r
      · obtain ⟨rfl, hraises⟩ := hraises
        exact receive_fire h hr hraises
      · rw [receive_fire_of_not h hr hraises]
        exact hσ.raised i hi hold
    · exact receive_fire h hr ⟨hs, hv, (hσ.temperature_iff hi).mpr hnew⟩
  quiet i hi hb := by
    have hquiet : ¬ (r.apartment = i ∧ Raises σ r) := by
      rintro ⟨rfl, hs, hv, htemp⟩
      exact hb ((burned_snoc _ _ _).mpr (.inr ⟨rfl, hs, hv, (hσ.temperature_iff hi).mp htemp⟩))
    rw [receive_fire_of_not h hr hquiet]
    exact hσ.quiet i hi fun hold => hb ((burned_snoc _ _ _).mpr (.inl hold))

/-- **A run of readings** leaves states that reflect it. -/
theorem run_house (h : apartments.Nodup) {readings : List Reading}
    (hin : ∀ r ∈ readings, r.apartment ∈ apartments) :
    Reflects apartments readings (run (houseRules apartments) readings) := by
  induction readings using List.reverseRecOn with
  | nil => exact reflects_nil
  | append_singleton readings r ih =>
      have hprev := ih fun r hr => hin r (by simp [hr])
      rw [run, List.foldl_append]
      exact hprev.receive h (hin r (by simp))

end House

end OpenhabConfiguration.Interface
