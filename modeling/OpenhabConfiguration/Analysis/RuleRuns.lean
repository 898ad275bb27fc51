import OpenhabConfiguration.Analysis.SensorRouting
import OpenhabConfiguration.Interface.RuleEngine

/-!
# Runs of the generated rules

The rules of a first call, as they are read from the generated text, on any sequence of
readings of the apartments. The costs and the alarm of an apartment are those of its own
readings (`rules_implement_spec`). The alarm rule is triggered by CO2 readings alone, so
the alarm is missing after a temperature reading above `35` that follows a CO2 reading
above `9` (`MissedAlarm`), and only then (`alarm_raised_iff`).
-/

set_option autoImplicit false

namespace OpenhabConfiguration.Analysis

open Interface Model

/-- The readings of a run come from the apartments of the configuration. -/
def FromApartments (cfg : Config) (readings : List Reading) : Prop :=
  ∀ r ∈ readings, r.apartment ∈ apartments cfg.number

/-- **The generated rules implement their specification.** After every run, the costs of an
apartment are `0.3` times its last electricity reading, and its alarm is raised if and only
if one of its CO2 readings was above `9` while its latest temperature was above `35`. Both
depend on the readings of this apartment only. -/
theorem rules_implement_spec (cfg : Config) :
    (cfg.number ≠ Int32.maxValue → (generated cfg .rules).isSome = true) ∧
    ∀ text, generated cfg .rules = some text → ∃ rules, readRules text = some rules ∧
      ∀ readings, FromApartments cfg readings → ∀ i ∈ apartments cfg.number,
        run rules readings (itemName i .cost) =
          (match lastValue i .electricity readings with
            | some v => .decimal (3 / 10 * v)
            | none => .undefined) ∧
        (run rules readings (itemName i .fire) = .text "Feuer" ↔ Burned i readings) ∧
        (¬ Burned i readings → run rules readings (itemName i .fire) = .undefined) ∧
        ∀ readings', FromApartments cfg readings' →
          (readings'.filter fun r => r.apartment = i) = (readings.filter fun r => r.apartment = i) →
          run rules readings' (itemName i .cost) = run rules readings (itemName i .cost) ∧
          run rules readings' (itemName i .fire) = run rules readings (itemName i .fire) := by
  refine ⟨fun hmax => by rw [generated_eq hmax .rules nofun]; rfl, fun text htext => ?_⟩
  obtain ⟨-, rfl⟩ := eq_fileText htext nofun
  refine ⟨_, readRules_rules cfg, fun readings hin i hi => ?_⟩
  have hrun := run_house (nodup_apartments cfg.number) hin
  refine ⟨?_, ⟨fun hfire => ?_, hrun.raised i hi⟩, hrun.quiet i hi, fun readings' hin' hsame => ?_⟩
  · rw [hrun.cost i hi]
    cases lastValue i .electricity readings with
    | none => rfl
    | some v => exact congrArg ItemState.decimal (mul_comm v (3 / 10))
  · by_contra hnot
    rw [hrun.quiet i hi hnot] at hfire
    cases hfire
  · have hrun' := run_house (nodup_apartments cfg.number) hin'
    have hlast : lastValue i .electricity readings' = lastValue i .electricity readings := by
      rw [← lastValue_filter, hsame, lastValue_filter]
    have hburned : Burned i readings' ↔ Burned i readings := by
      rw [← burned_filter, hsame, burned_filter]
    constructor
    · rw [hrun.cost i hi, hrun'.cost i hi, hlast]
    · by_cases hb : Burned i readings
      · rw [hrun.raised i hi hb, hrun'.raised i hi (hburned.mpr hb)]
      · rw [hrun.quiet i hi hb, hrun'.quiet i hi fun hb' => hb (hburned.mp hb')]

/-! ## The order of the readings -/

/-- The latest CO2 reading of apartment `i` is above `9`. -/
def HighCo2 (i : ℕ) (readings : List Reading) : Prop :=
  ∃ c, lastValue i .co2 readings = some c ∧ 9 < c

/-- The latest temperature reading of apartment `i` is above `35`. -/
def HighTemperature (i : ℕ) (readings : List Reading) : Prop :=
  ∃ t, lastValue i .temperature readings = some t ∧ 35 < t

/-- A temperature reading above `35` arrives while the latest CO2 reading is above `9`,
and no CO2 reading has raised the alarm before. -/
def MissedAlarm (i : ℕ) (readings : List Reading) : Prop :=
  ∃ before t after, readings = before ++ ⟨i, .temperature, t⟩ :: after ∧ 35 < t ∧
    HighCo2 i before ∧ ¬ Burned i before

/-- A run that is continued has missed what it had missed before. -/
theorem MissedAlarm.append {i : ℕ} {readings : List Reading} (h : MissedAlarm i readings)
    (more : List Reading) : MissedAlarm i (readings ++ more) := by
  obtain ⟨before, t, after, rfl, ht, hco2, hnot⟩ := h
  exact ⟨before, t, after ++ more, by simp, ht, hco2, hnot⟩

/-- Both readings are high and nothing has raised the alarm only after a missed one. -/
theorem burned_or_missed {i : ℕ} {readings : List Reading} (hco2 : HighCo2 i readings)
    (htemp : HighTemperature i readings) : Burned i readings ∨ MissedAlarm i readings := by
  induction readings using List.reverseRecOn with
  | nil =>
      obtain ⟨c, hc, -⟩ := hco2
      cases hc
  | append_singleton readings r ih =>
      by_cases hold : Burned i readings
      · exact .inl ((burned_snoc _ _ _).mpr (.inl hold))
      obtain ⟨c, hc, hclimit⟩ := hco2
      obtain ⟨t, ht, htlimit⟩ := htemp
      rw [lastValue_snoc] at hc ht
      obtain ⟨j, s, v⟩ := r
      by_cases hr : j = i ∧ (s = .co2 ∨ s = .temperature)
      · obtain ⟨rfl, rfl | rfl⟩ := hr
        · -- the CO2 reading came last
          rw [if_pos ⟨rfl, rfl⟩] at hc
          rw [if_neg (by simp)] at ht
          cases hc
          exact .inl ((burned_snoc _ _ _).mpr (.inr ⟨rfl, rfl, hclimit, t, ht, htlimit⟩))
        · -- the temperature reading came last
          rw [if_neg (by simp)] at hc
          rw [if_pos ⟨rfl, rfl⟩] at ht
          cases ht
          exact .inr ⟨readings, _, [], rfl, htlimit, ⟨c, hc, hclimit⟩, hold⟩
      · rw [if_neg fun h => hr ⟨h.1, .inl h.2⟩] at hc
        rw [if_neg fun h => hr ⟨h.1, .inr h.2⟩] at ht
        rcases ih ⟨c, hc, hclimit⟩ ⟨t, ht, htlimit⟩ with hburned | hmissed
        · exact absurd hburned hold
        · exact .inr (hmissed.append _)

/-- After a missed alarm both readings are high, and nothing has raised the alarm. -/
theorem not_burned_of_missed {i : ℕ} {before : List Reading} {t : ℚ} (ht : 35 < t)
    (hco2 : HighCo2 i before) (hnot : ¬ Burned i before) :
    HighCo2 i (before ++ [⟨i, .temperature, t⟩]) ∧
      HighTemperature i (before ++ [⟨i, .temperature, t⟩]) ∧
      ¬ Burned i (before ++ [⟨i, .temperature, t⟩]) := by
  refine ⟨?_, ?_, ?_⟩
  · rwa [HighCo2, lastValue_snoc, if_neg (by simp)]
  · rw [HighTemperature, lastValue_snoc, if_pos ⟨rfl, rfl⟩]
    exact ⟨t, rfl, ht⟩
  · rw [burned_snoc]
    simpa using hnot

/-- **The alarm of an apartment** is raised whenever its latest CO2 and temperature
readings are both high, at every point of a run, if and only if the run has no missed
alarm. -/
theorem alarm_raised_iff (cfg : Config) (text : String) (htext : generated cfg .rules = some text) :
    ∃ rules, readRules text = some rules ∧
      ∀ readings, FromApartments cfg readings → ∀ i ∈ apartments cfg.number,
        ((∀ before, before <+: readings → HighCo2 i before → HighTemperature i before →
          run rules before (itemName i .fire) = .text "Feuer") ↔ ¬ MissedAlarm i readings) := by
  obtain ⟨-, rfl⟩ := eq_fileText htext nofun
  refine ⟨_, readRules_rules cfg, fun readings hin i hi => ⟨fun hraised hmissed => ?_, ?_⟩⟩
  · obtain ⟨before, t, after, rfl, ht, hco2, hnot⟩ := hmissed
    have hinitial : before ++ [⟨i, .temperature, t⟩] <+: before ++ ⟨i, .temperature, t⟩ :: after :=
      ⟨after, by simp⟩
    obtain ⟨hco2', htemp', hnot'⟩ := not_burned_of_missed ht hco2 hnot
    have hrun := run_house (nodup_apartments cfg.number) fun r hr => hin r (hinitial.subset hr)
    have hfire := hraised _ hinitial hco2' htemp'
    rw [hrun.quiet i hi hnot'] at hfire
    cases hfire
  · rintro hnone before ⟨after, rfl⟩ hco2 htemp
    have hrun := run_house (nodup_apartments cfg.number) fun r hr => hin r (List.mem_append_left _ hr)
    rcases burned_or_missed hco2 htemp with hburned | hmissed
    · exact hrun.raised i hi hburned
    · exact absurd (hmissed.append after) hnone

/-- A run of one apartment whose CO2 reading comes before its temperature reading. -/
def co2First : List Reading := [⟨1, .co2, 10⟩, ⟨1, .temperature, 40⟩]

/-- The alarm is missing when the temperature reading comes last. -/
theorem alarm_missing_co2First :
    ∃ rules, rulesOf { openHabIni with number := 1 } = some rules ∧
      HighCo2 1 co2First ∧ HighTemperature 1 co2First ∧
      run rules co2First (itemName 1 .fire) ≠ .text "Feuer" := by
  have hmax : (1 : Int32) ≠ Int32.maxValue := by decide
  have hone : 1 ∈ apartments 1 := one_mem_apartments (by decide)
  have hin : ∀ r ∈ co2First, r.apartment ∈ apartments 1 := by
    intro r hr
    simp only [co2First, List.mem_cons, List.not_mem_nil, or_false] at hr
    rcases hr with rfl | rfl <;> exact hone
  have hbefore : ¬ Burned 1 [⟨1, .co2, 10⟩] := by
    rw [show [(⟨1, .co2, 10⟩ : Reading)] = [] ++ [⟨1, .co2, 10⟩] from rfl, burned_snoc]
    rintro (hnil | ⟨-, -, -, t, ht, -⟩)
    · exact not_burned_nil 1 hnil
    · cases ht
  have hhigh : HighCo2 1 [⟨1, .co2, 10⟩] := ⟨10, rfl, by decide⟩
  obtain ⟨hco2, htemp, hnot⟩ := not_burned_of_missed (t := 40) (by decide) hhigh hbefore
  refine ⟨_, rulesOf_eq hmax, hco2, htemp, ?_⟩
  rw [(run_house (nodup_apartments 1) hin).quiet 1 hone hnot]
  exact nofun

/-- The alarm of the other order, by the rules of the same configuration. -/
theorem alarm_raised_temperature_first :
    ∃ rules, rulesOf { openHabIni with number := 1 } = some rules ∧
      run rules [⟨1, .temperature, 40⟩, ⟨1, .co2, 10⟩] (itemName 1 .fire) = .text "Feuer" := by
  have hmax : (1 : Int32) ≠ Int32.maxValue := by decide
  have hone : 1 ∈ apartments 1 := one_mem_apartments (by decide)
  obtain ⟨rules, hrules, hiff⟩ := alarm_raised_iff { openHabIni with number := 1 } _
    (generated_eq hmax .rules nofun)
  have hin : FromApartments { openHabIni with number := 1 } [⟨1, .temperature, 40⟩, ⟨1, .co2, 10⟩] := by
    intro r hr
    simp only [List.mem_cons, List.not_mem_nil, or_false] at hr
    rcases hr with rfl | rfl <;> exact hone
  refine ⟨rules, ?_, ?_⟩
  · rw [rulesOf, generated_eq hmax .rules nofun, Option.bind_some, hrules]
  · refine (hiff _ hin 1 hone).mpr ?_ _ (List.prefix_refl _) ⟨10, rfl, by decide⟩
      ⟨40, rfl, by decide⟩
    -- the only temperature reading comes first
    rintro ⟨before, t, after, heq, -, ⟨c, hc, -⟩, -⟩
    cases before with
    | nil => cases hc
    | cons r before =>
        injection heq with hr heq
        cases before with
        | nil => cases heq
        | cons r' before =>
            injection heq with hr' heq
            cases before <;> cases heq

end OpenhabConfiguration.Analysis
