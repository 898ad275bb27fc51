import OpenhabConfiguration.Analysis.SensorRouting
import OpenhabConfiguration.Interface.DelayedRules

/-!
# The generated rules under load

The rules of a first call, when their executions are delayed and run in any order. The costs
of an apartment are right whenever no execution is pending (`costs_converge`): an apartment
whose costs are stale has an execution of its cost rule pending (`CostsPending`).

The alarm rule reads the sensors when it runs. The alarm is raised exactly by an execution
that meets both sensors above their limits (`alarm_delayed`), so it is lost when a later
reading falls before the execution does (`alarm_lost`).
-/

set_option autoImplicit false

namespace OpenhabConfiguration.Analysis

open Interface Model Runs

/-! ## Costs -/

/-- Costs that are not those of the last reading are going to be calculated. -/
structure CostsPending (apartments : List ℕ) (moves : List EngineMove) (engine : Engine) :
    Prop where
  pending : ∀ rule ∈ engine.pending, rule ∈ houseRules apartments
  reading : ∀ i v, lastValue i .electricity (readingsOf moves) = some v →
    engine.states (itemName i (.reading .electricity)) = .decimal v
  cost : ∀ i ∈ apartments, ∀ v, lastValue i .electricity (readingsOf moves) = some v →
    electricityCosts i ∈ engine.pending ∨
      engine.states (itemName i .cost) = .decimal (v * (3 / 10))

section House

variable {apartments : List ℕ} {moves : List EngineMove} {engine engine' : Engine}

/-- Before the first reading there are no costs to be calculated. -/
theorem costsPending_start (σ : States) : CostsPending apartments [] (Engine.start σ) where
  pending _ h := absurd h List.not_mem_nil
  reading _ _ h := by cases h
  cost _ _ _ h := by cases h

/-- A reading of the electricity makes an execution of the rule pending that will show it. -/
theorem CostsPending.update (h : apartments.Nodup) (hinv : CostsPending apartments moves engine)
    {r : Reading} (hstep : engine.step (houseRules apartments) (.update r) = some engine') :
    CostsPending apartments (moves ++ [.update r]) engine' := by
  obtain ⟨hstates, hpending⟩ := Engine.step_update hstep
  refine ⟨Engine.step_pending hinv.pending hstep, fun i v hv => ?_, fun i hi v hv => ?_⟩
  · rw [readingsOf_update, lastValue_snoc] at hv
    rw [hstates, update_itemName]
    by_cases hr : r.apartment = i ∧ r.sensor = .electricity
    · rw [if_pos hr] at hv
      rw [if_pos ⟨hr.1, congrArg Quantity.reading hr.2⟩, Option.some.inj hv]
    · rw [if_neg hr] at hv
      rw [if_neg fun heq => hr ⟨heq.1, Quantity.reading.inj heq.2⟩]
      exact hinv.reading i v hv
  · rw [readingsOf_update, lastValue_snoc] at hv
    rw [hstates, hpending, update_itemName, if_neg (by simp)]
    by_cases hr : r.apartment = i ∧ r.sensor = .electricity
    · left
      rw [hr.1, hr.2, filter_trigger_eq h, if_pos hi]
      exact List.mem_append_right _ List.mem_cons_self
    · rw [if_neg hr] at hv
      exact (hinv.cost i hi v hv).imp_left (List.mem_append_left _)

/-- An execution of the rule shows the last reading, and one of another rule leaves the costs alone.
-/
theorem CostsPending.execute (hinv : CostsPending apartments moves engine) {rule : Rule}
    (hstep : engine.step (houseRules apartments) (.execute rule) = some engine') :
    CostsPending apartments (moves ++ [.execute rule]) engine' := by
  obtain ⟨hrule, hstates, hpending⟩ := Engine.step_execute hstep
  have hhouse := hinv.pending rule hrule
  refine ⟨Engine.step_pending hinv.pending hstep, fun i v hv => ?_, fun i hi v hv => ?_⟩
  · rw [readingsOf_execute] at hv
    rw [hstates, exec_reading hhouse]
    exact hinv.reading i v hv
  · rw [readingsOf_execute] at hv
    rw [hstates, hpending]
    by_cases heq : rule = electricityCosts i
    · right
      rw [heq, electricityCosts_exec (hinv.reading i v hv), Function.update_self]
    · have hkeep : (rule.body.exec engine.states).1 (itemName i .cost) =
          engine.states (itemName i .cost) := by
        obtain ⟨j, -, rfl | rfl⟩ := mem_houseRules.mp hhouse
        · apply electricityCosts_exec_of_ne
          intro hname
          exact heq (congrArg electricityCosts (itemName_inj.mp hname).1.symm)
        · exact burningAlarm_exec_of_ne fun hname => by cases (itemName_inj.mp hname).2
      rw [hkeep]
      exact (hinv.cost i hi v hv).imp_left (List.mem_erase_of_ne (Ne.symm heq)).mpr

/-- **The costs of a run**: every state of a run has an execution pending for each apartment
whose costs are not those of its last reading. -/
theorem costsPending_of_run (h : apartments.Nodup) {σ : States}
    (hrun : run (Engine.step (houseRules apartments)) (Engine.start σ) moves = some engine) :
    CostsPending apartments moves engine := by
  apply history_of_run (costsPending_start σ) _ hrun
  intro moves engine move engine' hinv hstep
  cases move with
  | update r => exact hinv.update h hstep
  | execute rule => exact hinv.execute hstep

end House

/-- **Costs converge.** In every state that updates and delayed executions of the generated
rules lead to and in which no execution is pending, the costs of every apartment are `0.3`
times its last electricity reading. -/
theorem costs_converge (cfg : Config) :
    (cfg.number ≠ Int32.maxValue → (generated cfg .rules).isSome = true) ∧
    ∀ text, generated cfg .rules = some text → ∃ rules, readRules text = some rules ∧
      ∀ σ moves engine, run (Engine.step rules) (Engine.start σ) moves = some engine →
        engine.pending = [] → ∀ i ∈ apartments cfg.number, ∀ v,
          lastValue i .electricity (readingsOf moves) = some v →
          engine.states (itemName i .cost) = .decimal (3 / 10 * v) := by
  refine ⟨fun hmax => by rw [generated_eq hmax .rules nofun]; rfl, fun text htext => ?_⟩
  obtain ⟨-, rfl⟩ := eq_fileText htext nofun
  refine ⟨_, readRules_rules cfg, fun σ moves engine hrun hquiet i hi v hv => ?_⟩
  have hinv := costsPending_of_run (nodup_apartments cfg.number) hrun
  rcases hinv.cost i hi v hv with hpending | hcost
  · rw [hquiet] at hpending
    exact absurd hpending List.not_mem_nil
  · rw [hcost, mul_comm]

/-- The costs of the first apartment behind one reading and its execution. -/
theorem costs_converge_openHabIni :
    ∃ rules engine, rulesOf openHabIni = some rules ∧
      run (Engine.step rules) (Engine.start fun _ => .undefined)
        [.update ⟨1, .electricity, 10⟩, .execute (electricityCosts 1)] = some engine ∧
      engine.states (itemName 1 .cost) = .decimal (3 / 10 * 10) := by
  have hmax : openHabIni.number ≠ Int32.maxValue := by decide
  have hone : 1 ∈ apartments openHabIni.number := one_mem_apartments (by decide)
  have hnodup := nodup_apartments openHabIni.number
  obtain ⟨-, hall⟩ := costs_converge openHabIni
  obtain ⟨rules, hrules, hcosts⟩ := hall _ (generated_eq hmax .rules nofun)
  obtain rfl : rules = houseRules (apartments openHabIni.number) := by
    rw [readRules_rules] at hrules
    exact (Option.some.inj hrules).symm
  have hrun := run_cons.mpr ⟨_, Engine.step_house hnodup hone (Engine.start fun _ => .undefined)
      .electricity 10, run_cons.mpr ⟨_, Engine.step_of_pending List.mem_cons_self, run_nil.mpr rfl⟩⟩
  refine ⟨_, _, rulesOf_eq hmax, hrun, hcosts _ _ _ hrun ?_ 1 hone 10 rfl⟩
  exact List.erase_cons_head ..

/-! ## The alarm -/

/-- Both sensors of apartment `i` are above their limits. -/
def High (i : ℕ) (σ : States) : Prop :=
  ∃ c t, σ (itemName i (.reading .co2)) = .decimal c ∧ 9 < c ∧
    σ (itemName i (.reading .temperature)) = .decimal t ∧ 35 < t

section House

variable {apartments : List ℕ} {moves : List EngineMove} {engine engine' : Engine} {i : ℕ}
  {σ : States} {rule : Rule}

/-- The rule for the alarm does nothing when a value is not above its limit. -/
theorem burningAlarm_exec_of_not_high (h : ¬ High i σ) :
    ((burningAlarm i).body.exec σ).1 = σ := by
  cases hco2 : σ (itemName i (.reading .co2)) with
  | decimal c =>
      apply burningAlarm_exec_of_not hco2
      rintro ⟨hc, t, ht, hlimit⟩
      exact h ⟨c, t, hco2, hc, ht, hlimit⟩
  | undefined =>
      unfold burningAlarm
      simp only [Stmt.exec, Expr.eval, hco2]
  | text w =>
      unfold burningAlarm
      simp only [Stmt.exec, Expr.eval, hco2]

/-- Each apartment has its own rule for the alarm. -/
theorem burningAlarm_inj {j : ℕ} : burningAlarm j = burningAlarm i ↔ j = i := by
  constructor
  · intro h
    exact numbered_last_inj.mp (congrArg Rule.name h)
  · exact congrArg burningAlarm

/-- **An execution raises the alarm** of apartment `i` when it is one of its alarm rule and
both sensors are high; no execution withdraws it. -/
theorem exec_fire (hrule : rule ∈ houseRules apartments) :
    (rule.body.exec σ).1 (itemName i .fire) = .text "Feuer" ↔
      σ (itemName i .fire) = .text "Feuer" ∨ (rule = burningAlarm i ∧ High i σ) := by
  obtain ⟨j, -, rfl | rfl⟩ := mem_houseRules.mp hrule
  · have hne : electricityCosts j ≠ burningAlarm i := fun heq =>
      electricityCosts_name_ne j i (congrArg Rule.name heq)
    have hname : itemName i .fire ≠ itemName j .cost := fun heq => by
      cases (itemName_inj.mp heq).2
    rw [electricityCosts_exec_of_ne hname]
    simp [hne]
  · rw [burningAlarm_inj]
    by_cases hhigh : High j σ
    · obtain ⟨c, t, hc, hclimit, ht, htlimit⟩ := id hhigh
      rw [burningAlarm_exec hc ht hclimit htlimit, update_itemName]
      by_cases hji : j = i
      · subst hji
        simp [hhigh]
      · simp [hji]
    · rw [burningAlarm_exec_of_not_high hhigh]
      refine (or_iff_left ?_).symm
      rintro ⟨rfl, hhigh'⟩
      exact hhigh hhigh'

/-- An execution of the alarm rule of apartment `i` has met both sensors high. -/
def AlarmRan (rules : List Rule) (σ : States) (i : ℕ) (moves : List EngineMove) : Prop :=
  ∃ before after engine, moves = before ++ .execute (burningAlarm i) :: after ∧
    run (Engine.step rules) (Engine.start σ) before = some engine ∧ High i engine.states

/-- The last move adds an execution to those that have met both sensors high, or it does not. -/
theorem alarmRan_concat {rules : List Rule} {move : EngineMove}
    (hrun : run (Engine.step rules) (Engine.start σ) moves = some engine) :
    AlarmRan rules σ i (moves ++ [move]) ↔ AlarmRan rules σ i moves ∨
      (move = .execute (burningAlarm i) ∧ High i engine.states) := by
  constructor
  · rintro ⟨before, after, engine', heq, hbefore, hhigh⟩
    rcases List.eq_nil_or_concat after with rfl | ⟨after, last, rfl⟩
    · obtain ⟨rfl, hmove⟩ := List.append_inj' heq rfl
      rw [hrun] at hbefore
      cases hbefore
      exact .inr ⟨List.singleton_injective hmove, hhigh⟩
    · rw [List.concat_eq_append, ← List.cons_append, ← List.append_assoc] at heq
      obtain ⟨rfl, -⟩ := List.append_inj' heq rfl
      exact .inl ⟨before, after, engine', rfl, hbefore, hhigh⟩
  · rintro (⟨before, after, engine', rfl, hbefore, hhigh⟩ | ⟨rfl, hhigh⟩)
    · exact ⟨before, after ++ [move], engine', by simp, hbefore, hhigh⟩
    · exact ⟨moves, [], engine, rfl, hrun, hhigh⟩

/-- **The alarm of a run** is raised by such an execution, or it was raised before. -/
theorem fire_of_run
    (hrun : run (Engine.step (houseRules apartments)) (Engine.start σ) moves = some engine) :
    engine.states (itemName i .fire) = .text "Feuer" ↔
      σ (itemName i .fire) = .text "Feuer" ∨ AlarmRan (houseRules apartments) σ i moves := by
  have hinv := history_of_run (P := fun moves engine =>
      run (Engine.step (houseRules apartments)) (Engine.start σ) moves = some engine ∧
      (∀ rule ∈ engine.pending, rule ∈ houseRules apartments) ∧
      (engine.states (itemName i .fire) = .text "Feuer" ↔
        σ (itemName i .fire) = .text "Feuer" ∨ AlarmRan (houseRules apartments) σ i moves))
    ?_ ?_ hrun
  · exact hinv.2.2
  · refine ⟨run_nil.mpr rfl, fun rule h => absurd h List.not_mem_nil, ?_⟩
    have hnone : ¬ AlarmRan (houseRules apartments) σ i [] := by
      rintro ⟨before, after, -, heq, -⟩
      cases before <;> cases heq
    simp [hnone, Engine.start]
  · rintro moves engine move engine' ⟨hrun, hpending, hiff⟩ hstep
    refine ⟨run_concat.mpr ⟨engine, hrun, hstep⟩, Engine.step_pending hpending hstep, ?_⟩
    rw [alarmRan_concat hrun, ← or_assoc, ← hiff]
    cases move with
    | update r =>
        rw [(Engine.step_update hstep).1, update_itemName, if_neg (by simp)]
        simp
    | execute rule =>
        obtain ⟨hrule, hstates, -⟩ := Engine.step_execute hstep
        rw [hstates, exec_fire (hpending rule hrule), EngineMove.execute.injEq]

/-- Up to the next execution of the alarm rule of apartment `i`, no reading of its two
sensors is at the limit or below. -/
def KeepsHigh (i : ℕ) (moves : List EngineMove) : Prop :=
  ∀ r, .update r ∈ moves.takeWhile (fun move => move ≠ .execute (burningAlarm i)) →
    r.apartment = i →
    (r.sensor = .co2 → 9 < r.value) ∧ (r.sensor = .temperature → 35 < r.value)

/-- The readings stay high when the first move is past. -/
theorem KeepsHigh.tail {move : EngineMove} (hne : move ≠ .execute (burningAlarm i))
    (h : KeepsHigh i (move :: moves)) : KeepsHigh i moves := by
  intro r hr
  apply h r
  rw [List.takeWhile_cons_of_pos (by simpa using hne)]
  exact List.mem_cons_of_mem _ hr

/-- A reading that comes first is itself high. -/
theorem KeepsHigh.head {r : Reading} (h : KeepsHigh i (.update r :: moves))
    (hi : r.apartment = i) :
    (r.sensor = .co2 → 9 < r.value) ∧ (r.sensor = .temperature → 35 < r.value) := by
  apply h r _ hi
  rw [List.takeWhile_cons_of_pos (by simp)]
  exact List.mem_cons_self

/-- A high reading, or one of another apartment or sensor, keeps both sensors high. -/
theorem High.update {r : Reading} (h : High i σ)
    (hr : r.apartment = i →
      (r.sensor = .co2 → 9 < r.value) ∧ (r.sensor = .temperature → 35 < r.value)) :
    High i (Function.update σ (itemName r.apartment (.reading r.sensor)) (.decimal r.value)) := by
  obtain ⟨c, t, hc, hclimit, ht, htlimit⟩ := h
  obtain ⟨j, s, v⟩ := r
  by_cases hj : j = i
  · subst hj
    obtain ⟨hco2, htemp⟩ := hr rfl
    cases s with
    | co2 => exact ⟨v, t, by simp, hco2 rfl, by simp [update_itemName, ht], htlimit⟩
    | temperature => exact ⟨c, v, by simp [update_itemName, hc], hclimit, by simp, htemp rfl⟩
    | humidity => exact ⟨c, t, by simp [update_itemName, hc], hclimit,
        by simp [update_itemName, ht], htlimit⟩
    | electricity => exact ⟨c, t, by simp [update_itemName, hc], hclimit,
        by simp [update_itemName, ht], htlimit⟩
  · exact ⟨c, t, by simp [update_itemName, hj, hc], hclimit,
      by simp [update_itemName, hj, ht], htlimit⟩

/-- While both sensors stay high, a pending execution of the alarm rule meets them high when
it runs. -/
theorem exists_execution
    (hpending : ∀ rule ∈ engine.pending, rule ∈ houseRules apartments)
    (hmem : burningAlarm i ∈ engine.pending) (hhigh : High i engine.states)
    (hkeeps : KeepsHigh i moves) (hquiet : engine'.pending = [])
    (hrun : run (Engine.step (houseRules apartments)) engine moves = some engine') :
    ∃ before after engine₁, moves = before ++ .execute (burningAlarm i) :: after ∧
      run (Engine.step (houseRules apartments)) engine before = some engine₁ ∧
      High i engine₁.states := by
  induction moves generalizing engine with
  | nil =>
      obtain rfl := run_nil.mp hrun
      rw [hquiet] at hmem
      exact absurd hmem List.not_mem_nil
  | cons move moves ih =>
      obtain ⟨engine₁, hstep, hrest⟩ := run_cons.mp hrun
      by_cases hmove : move = .execute (burningAlarm i)
      · exact ⟨[], moves, engine, by rw [hmove]; rfl, run_nil.mpr rfl, hhigh⟩
      have hnext : burningAlarm i ∈ engine₁.pending ∧ High i engine₁.states := by
        cases move with
        | update r =>
            obtain ⟨hstates, hpend⟩ := Engine.step_update hstep
            rw [hstates, hpend]
            exact ⟨List.mem_append_left _ hmem, hhigh.update hkeeps.head⟩
        | execute rule =>
            obtain ⟨hrule, hstates, hpend⟩ := Engine.step_execute hstep
            have hne : burningAlarm i ≠ rule := fun heq => hmove (heq ▸ rfl)
            obtain ⟨c, t, hc, hclimit, ht, htlimit⟩ := hhigh
            refine ⟨hpend ▸ (List.mem_erase_of_ne hne).mpr hmem, c, t, ?_, hclimit, ?_, htlimit⟩
            · rw [hstates, exec_reading (hpending rule hrule), hc]
            · rw [hstates, exec_reading (hpending rule hrule), ht]
      obtain ⟨before, after, engine₂, rfl, hbefore, hhigh₂⟩ := ih
        (Engine.step_pending hpending hstep) hnext.1 hnext.2 (hkeeps.tail hmove) hrest
      exact ⟨move :: before, after, engine₂, rfl, run_cons.mpr ⟨engine₁, hstep, hbefore⟩, hhigh₂⟩

/-- A CO2 reading above its limit raises the alarm in the end, at a temperature above its
limit, when the sensors stay high up to the next execution. -/
theorem alarmRan_of_keepsHigh (h : apartments.Nodup) (hi : i ∈ apartments)
    {before after : List EngineMove} {v t : ℚ} {engine₀ : Engine}
    (hbefore : run (Engine.step (houseRules apartments)) (Engine.start σ) before = some engine₀)
    (ht : engine₀.states (itemName i (.reading .temperature)) = .decimal t) (htlimit : 35 < t)
    (hv : 9 < v) (hkeeps : KeepsHigh i after) (hquiet : engine.pending = [])
    (hrun : run (Engine.step (houseRules apartments)) (Engine.start σ)
      (before ++ .update ⟨i, .co2, v⟩ :: after) = some engine) :
    AlarmRan (houseRules apartments) σ i (before ++ .update ⟨i, .co2, v⟩ :: after) := by
  have hrule : ∀ rule ∈ engine₀.pending, rule ∈ houseRules apartments :=
    invariant_of_run (fun _ _ _ hpending hstep => Engine.step_pending hpending hstep)
      (fun _ hmem => absurd hmem List.not_mem_nil) hbefore
  obtain ⟨engine₁, hsame, hrest⟩ := run_append.mp hrun
  rw [hbefore] at hsame
  cases hsame
  obtain ⟨engine₂, hstep, hafter⟩ := run_cons.mp hrest
  have hhigh : High i engine₂.states := by
    rw [(Engine.step_update hstep).1]
    exact ⟨v, t, by simp, hv, by simp [update_itemName, ht], htlimit⟩
  have hmem : burningAlarm i ∈ engine₂.pending := by
    rw [(Engine.step_update hstep).2, filter_trigger_eq h, if_pos hi]
    exact List.mem_append_right _ List.mem_cons_self
  obtain ⟨first, last, engine₃, rfl, hfirst, hhigh₃⟩ := exists_execution
    (Engine.step_pending hrule hstep) hmem hhigh hkeeps hquiet hafter
  refine ⟨before ++ .update ⟨i, .co2, v⟩ :: first, last, engine₃, by simp, ?_, hhigh₃⟩
  exact run_append.mpr ⟨engine₀, hbefore, run_cons.mpr ⟨engine₂, hstep, hfirst⟩⟩

end House

/-- **The alarm under delayed execution.** In every state that updates and delayed
executions of the generated rules lead to, the alarm of an apartment is raised if and only if
it was raised at the beginning or an execution of its alarm rule has met both sensors above
their limits. So it is raised in every later state without pending executions when a CO2
reading above `9` has come at a temperature above `35`, and up to the next execution of the
alarm rule no reading of the two sensors has been at the limit or below. -/
theorem alarm_delayed (cfg : Config) :
    (cfg.number ≠ Int32.maxValue → (generated cfg .rules).isSome = true) ∧
    ∀ text, generated cfg .rules = some text → ∃ rules, readRules text = some rules ∧
      ∀ σ moves engine, run (Engine.step rules) (Engine.start σ) moves = some engine →
        ∀ i ∈ apartments cfg.number,
          (engine.states (itemName i .fire) = .text "Feuer" ↔
            σ (itemName i .fire) = .text "Feuer" ∨ AlarmRan rules σ i moves) ∧
          ∀ before v after engine₀ t, moves = before ++ .update ⟨i, .co2, v⟩ :: after →
            run (Engine.step rules) (Engine.start σ) before = some engine₀ →
            engine₀.states (itemName i (.reading .temperature)) = .decimal t → 35 < t → 9 < v →
            KeepsHigh i after → engine.pending = [] →
            engine.states (itemName i .fire) = .text "Feuer" := by
  refine ⟨fun hmax => by rw [generated_eq hmax .rules nofun]; rfl, fun text htext => ?_⟩
  obtain ⟨-, rfl⟩ := eq_fileText htext nofun
  refine ⟨_, readRules_rules cfg, fun σ moves engine hrun i hi => ⟨fire_of_run hrun, ?_⟩⟩
  rintro before v after engine₀ t rfl hbefore ht htlimit hv hkeeps hquiet
  refine (fire_of_run hrun).mpr (.inr ?_)
  exact alarmRan_of_keepsHigh (nodup_apartments cfg.number) hi hbefore ht htlimit hv hkeeps hquiet
    hrun

/-- The alarm of the first apartment behind two high readings and one execution. -/
theorem alarm_delayed_openHabIni :
    ∃ rules engine, rulesOf openHabIni = some rules ∧
      run (Engine.step rules) (Engine.start fun _ => .undefined)
        [.update ⟨1, .temperature, 40⟩, .update ⟨1, .co2, 10⟩, .execute (burningAlarm 1)] =
        some engine ∧
      engine.states (itemName 1 .fire) = .text "Feuer" := by
  have hmax : openHabIni.number ≠ Int32.maxValue := by decide
  have hone : 1 ∈ apartments openHabIni.number := one_mem_apartments (by decide)
  have hnodup := nodup_apartments openHabIni.number
  obtain ⟨-, hall⟩ := alarm_delayed openHabIni
  obtain ⟨rules, hrules, halarm⟩ := hall _ (generated_eq hmax .rules nofun)
  obtain rfl : rules = houseRules (apartments openHabIni.number) := by
    rw [readRules_rules] at hrules
    exact (Option.some.inj hrules).symm
  have hwarm := Engine.step_house hnodup hone (Engine.start fun _ => .undefined) .temperature 40
  have hrun := run_cons.mpr ⟨_, hwarm, run_cons.mpr ⟨_, Engine.step_house hnodup hone _ .co2 10,
    run_cons.mpr ⟨_, Engine.step_of_pending List.mem_cons_self, run_nil.mpr rfl⟩⟩⟩
  refine ⟨_, _, rulesOf_eq hmax, hrun, ?_⟩
  refine (halarm _ _ _ hrun 1 hone).2 [.update ⟨1, .temperature, 40⟩] 10 [.execute (burningAlarm 1)]
    _ 40 rfl (run_cons.mpr ⟨_, hwarm, run_nil.mpr rfl⟩) (by simp) (by decide) (by decide) ?_ ?_
  · intro r hr
    simp at hr
  · simp [triggered, Engine.start]

/-- The moves of an alarm that is lost: the CO2 reading falls before its first execution. -/
def fallingCo2 : List EngineMove :=
  [.update ⟨1, .temperature, 40⟩, .update ⟨1, .co2, 10⟩, .update ⟨1, .co2, 5⟩,
    .execute (burningAlarm 1), .execute (burningAlarm 1)]

/-- Both executions have run, the first CO2 reading was above its limit at a temperature
above its own, and the alarm is not raised. -/
theorem alarm_lost :
    ∃ rules engine, rulesOf { openHabIni with number := 1 } = some rules ∧
      run (Engine.step rules) (Engine.start fun _ => .undefined) fallingCo2 = some engine ∧
      engine.pending = [] ∧ engine.states (itemName 1 .fire) ≠ .text "Feuer" := by
  have hmax : (1 : Int32) ≠ Int32.maxValue := by decide
  have hone : 1 ∈ apartments 1 := one_mem_apartments (by decide)
  have hnodup := nodup_apartments 1
  refine ⟨_, _, rulesOf_eq hmax, run_cons.mpr ⟨_, Engine.step_house hnodup hone _ _ _,
    run_cons.mpr ⟨_, Engine.step_house hnodup hone _ _ _,
    run_cons.mpr ⟨_, Engine.step_house hnodup hone _ _ _,
    run_cons.mpr ⟨_, Engine.step_of_pending List.mem_cons_self,
    run_cons.mpr ⟨_, Engine.step_of_pending (by simp [triggered, Engine.start]),
      run_nil.mpr rfl⟩⟩⟩⟩⟩, by simp [triggered, Engine.start], ?_⟩
  have hlow : ¬ High 1 (Function.update (Function.update (Function.update
      (Engine.start fun _ => .undefined).states (itemName 1 (.reading .temperature)) (.decimal 40))
      (itemName 1 (.reading .co2)) (.decimal 10)) (itemName 1 (.reading .co2)) (.decimal 5)) := by
    rintro ⟨c, t, hc, hclimit, -⟩
    rw [Function.update_self] at hc
    cases hc
    exact absurd hclimit (by decide)
  simp only [burningAlarm_exec_of_not_high hlow]
  simp [update_itemName, Engine.start]

end OpenhabConfiguration.Analysis
