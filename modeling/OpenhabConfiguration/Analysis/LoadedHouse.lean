import OpenhabConfiguration.Analysis.DelayedRules
import OpenhabConfiguration.Analysis.Deployment
import OpenhabConfiguration.Analysis.LoadTest
import OpenhabConfiguration.Interface.MessageDelivery

/-!
# A house under the load of a test plan

What openHAB shows when it has loaded the files of a configuration and a test plan publishes
to it, whatever the order of the threads, the delays of the messages and those of the rules.

The items show nothing but what the groups publish, and there is no fire
(`load_shows_published`). No message is lost or doubled unless the broker does so
(`load_accounted`), and when all threads are through and all messages have been delivered,
every apartment shows what it has received last (`load_shows_last`). Every run ends, and from
every state it can be led to such an end (`load_ends`).
-/

set_option autoImplicit false

namespace OpenhabConfiguration.Analysis

open Interface Model Runs

/-! ## Runs of a test plan -/

/-- A run of the groups of `N` threads, with `L` iterations each, and of openHAB. -/
def loadRun (inst : Installation) (N : ℕ) (L : Sensor → ℕ) (moves : List LoadMove) :
    Option LoadedHouse :=
  run (LoadedHouse.step inst (fun s => groupOf s N) N)
    (LoadedHouse.start (fun s => groupOf s N) L) moves

/-- The house that the files of a configuration describe. -/
def installationOf (cfg : Config) : Installation :=
  houseInstallation (apartments cfg.number) (sensorsOn cfg)

/-- openHAB loads this house from a share that holds the files of the configuration. -/
theorem load_of_holds {share : Files} {cfg : Config} (hqos : ValidQos cfg.qos)
    (h : Holds share cfg) : Installation.load share = some (installationOf cfg) := by
  obtain ⟨-, hfiles⟩ := (Holds.iff_fileText hqos).mp h
  rw [Installation.load, hfiles, hfiles, hfiles, Option.bind_some, Option.bind_some,
    Option.bind_some, readThings_things, readItems_items, readRules_rules]
  rfl

/-! ## What the rule engine shows -/

/-- The last value of a sensor is that of one of its readings. -/
theorem lastValue_mem {i : ℕ} {s : Sensor} {readings : List Reading} {v : ℚ}
    (h : lastValue i s readings = some v) :
    ∃ r ∈ readings, r.apartment = i ∧ r.sensor = s ∧ r.value = v := by
  obtain ⟨r, hlast, hvalue⟩ := Option.map_eq_some_iff.mp h
  obtain ⟨hmem, hr⟩ := List.mem_filter.mp (List.mem_of_getLast? hlast)
  obtain ⟨hi, hs⟩ := of_decide_eq_true hr
  exact ⟨r, hmem, hi, hs, hvalue⟩

/-- A sensor that has been read has a last value. -/
theorem lastValue_ne_none {r : Reading} {readings : List Reading} (h : r ∈ readings) :
    lastValue r.apartment r.sensor readings ≠ none := by
  rw [lastValue, Ne, Option.map_eq_none_iff, List.getLast?_eq_none_iff]
  apply List.ne_nil_of_mem
  exact List.mem_filter.mpr ⟨h, decide_eq_true ⟨rfl, rfl⟩⟩

/-- Without a reading of the electricity the cost rule is aborted. -/
theorem electricityCosts_exec_of_undefined {σ : States} {i : ℕ}
    (h : σ (itemName i (.reading .electricity)) = .undefined) :
    ((electricityCosts i).body.exec σ).1 = σ := by
  unfold electricityCosts
  simp only [Stmt.exec, Expr.eval, h]

/-- What the states of an engine say about the readings so far: the last reading of every
sensor, and costs that have been right at some time. -/
structure Shows (apartments : List ℕ) (moves : List EngineMove) (engine : Engine) : Prop where
  pending : ∀ rule ∈ engine.pending, rule ∈ houseRules apartments
  reading : ∀ i s, engine.states (itemName i (.reading s)) =
    .ofOption (lastValue i s (readingsOf moves))
  cost : ∀ i, engine.states (itemName i .cost) = .undefined ∨
    ∃ r ∈ readingsOf moves, r.apartment = i ∧ r.sensor = .electricity ∧
      engine.states (itemName i .cost) = .decimal (r.value * (3 / 10))

section Engine

variable {apartments : List ℕ} {moves : List EngineMove} {engine engine' : Engine} {rule : Rule}

/-- Items that are all undefined show that there have been no readings. -/
theorem shows_start : Shows apartments [] (Engine.start fun _ => .undefined) where
  pending _ h := absurd h List.not_mem_nil
  reading _ _ := rfl
  cost _ := .inl rfl

/-- A reading is shown by its item, and leaves the costs as they are. -/
theorem Shows.update (h : Shows apartments moves engine) {r : Reading}
    (hstep : engine.step (houseRules apartments) (.update r) = some engine') :
    Shows apartments (moves ++ [.update r]) engine' := by
  obtain ⟨hstates, -⟩ := Engine.step_update hstep
  refine ⟨Engine.step_pending h.pending hstep, fun i s => ?_, fun i => ?_⟩
  · rw [readingsOf_update, lastValue_snoc, hstates, update_itemName]
    by_cases hr : r.apartment = i ∧ r.sensor = s
    · rw [if_pos hr, if_pos (hr.imp id (congrArg Quantity.reading))]
      rfl
    · rw [if_neg hr, if_neg fun heq => hr (heq.imp id Quantity.reading.inj)]
      exact h.reading i s
  · rw [readingsOf_update, hstates, update_itemName, if_neg (by simp)]
    exact (h.cost i).imp_right fun ⟨r', hmem, hr'⟩ => ⟨r', List.mem_append_left _ hmem, hr'⟩

/-- An execution sets the costs of its apartment to those of the last reading, or it leaves
them alone. -/
theorem Shows.cost_of_execute (h : Shows apartments moves engine)
    (hrule : rule ∈ houseRules apartments) (i : ℕ) :
    (rule.body.exec engine.states).1 (itemName i .cost) = engine.states (itemName i .cost) ∨
      ∃ r ∈ readingsOf moves, r.apartment = i ∧ r.sensor = .electricity ∧
        (rule.body.exec engine.states).1 (itemName i .cost) = .decimal (r.value * (3 / 10)) := by
  obtain ⟨j, -, rfl | rfl⟩ := mem_houseRules.mp hrule
  · by_cases hji : j = i
    · subst hji
      have hread := h.reading j .electricity
      cases hlast : lastValue j .electricity (readingsOf moves) with
      | none =>
          rw [hlast] at hread
          rw [electricityCosts_exec_of_undefined hread]
          exact .inl rfl
      | some v =>
          rw [hlast] at hread
          obtain ⟨r, hmem, hapartment, hsensor, rfl⟩ := lastValue_mem hlast
          refine .inr ⟨r, hmem, hapartment, hsensor, ?_⟩
          rw [electricityCosts_exec hread, Function.update_self]
    · left
      apply electricityCosts_exec_of_ne
      exact fun hname => hji (itemName_inj.mp hname).1.symm
  · exact .inl (burningAlarm_exec_of_ne fun hname => by cases (itemName_inj.mp hname).2)

/-- An execution sets the costs to those of a reading, or the alarm. -/
theorem Shows.execute (h : Shows apartments moves engine)
    (hstep : engine.step (houseRules apartments) (.execute rule) = some engine') :
    Shows apartments (moves ++ [.execute rule]) engine' := by
  obtain ⟨hrule, hstates, -⟩ := Engine.step_execute hstep
  have hhouse := h.pending rule hrule
  refine ⟨Engine.step_pending h.pending hstep, fun i s => ?_, fun i => ?_⟩
  · rw [readingsOf_execute, hstates, exec_reading hhouse]
    exact h.reading i s
  · rw [readingsOf_execute, hstates]
    rcases h.cost_of_execute hhouse i with hsame | hnew
    · rw [hsame]
      exact h.cost i
    · exact .inr hnew

/-- **What a run of the engine shows.** -/
theorem shows_of_run
    (hrun : run (Engine.step (houseRules apartments)) (Engine.start fun _ => .undefined) moves =
      some engine) : Shows apartments moves engine := by
  apply history_of_run shows_start _ hrun
  intro moves engine move engine' h hstep
  cases move with
  | update r => exact h.update hstep
  | execute rule => exact h.execute hstep

/-- **No fire without heat**: while no reading of a temperature is above `35`, no execution
raises an alarm. -/
theorem no_fire_of_run
    (hrun : run (Engine.step (houseRules apartments)) (Engine.start fun _ => .undefined) moves =
      some engine)
    (hcool : ∀ r ∈ readingsOf moves, r.sensor = .temperature → r.value ≤ 35) (i : ℕ) :
    engine.states (itemName i .fire) = .undefined := by
  have hinv := history_of_run (P := fun moves engine => Shows apartments moves engine ∧
    ((∀ r ∈ readingsOf moves, r.sensor = .temperature → r.value ≤ 35) →
      engine.states (itemName i .fire) = .undefined)) ⟨shows_start, fun _ => rfl⟩ ?_ hrun
  · exact hinv.2 hcool
  rintro moves engine move engine' ⟨hshows, hquiet⟩ hstep
  cases move with
  | update r =>
      refine ⟨hshows.update hstep, fun hcool => ?_⟩
      rw [(Engine.step_update hstep).1, update_itemName, if_neg (by simp)]
      apply hquiet
      intro r' hr'
      exact hcool r' (readingsOf_update moves r ▸ List.mem_append_left _ hr')
  | execute rule =>
      refine ⟨hshows.execute hstep, fun hcool => ?_⟩
      rw [readingsOf_execute] at hcool
      obtain ⟨hrule, hstates, -⟩ := Engine.step_execute hstep
      rw [hstates, ← hquiet hcool]
      obtain ⟨j, -, rfl | rfl⟩ := mem_houseRules.mp (hshows.pending rule hrule)
      · exact electricityCosts_exec_of_ne fun hname => by cases (itemName_inj.mp hname).2
      · rw [burningAlarm_exec_of_not_high]
        rintro ⟨c, t, -, -, ht, hlimit⟩
        rw [hshows.reading] at ht
        cases hlast : lastValue j .temperature (readingsOf moves) with
        | none =>
            rw [hlast] at ht
            cases ht
        | some v =>
            rw [hlast] at ht
            cases ht
            obtain ⟨r, hmem, -, hsensor, rfl⟩ := lastValue_mem hlast
            exact absurd hlimit (Rat.not_lt.mpr (hcool r hmem hsensor))

end Engine

/-! ## What the groups publish -/

/-- The values that a message can take. -/
def Message.Yields : Message → ℕ → Prop
  | .random minimum maximum, v => minimum ≤ v ∧ v ≤ maximum
  | .perUser counter, v => v ≤ counter.maximum

/-- What is drawn is a value of the message, whatever the counter has held. -/
theorem Message.yields_of_draw {message : Message} {random held v own : ℕ}
    (hstart : ∀ counter, message = .perUser counter → counter.start ≤ counter.maximum)
    (h : message.draw random held = some (v, own)) : Message.Yields message v := by
  cases message with
  | random minimum maximum =>
      rw [Message.draw] at h
      split at h
      · rename_i hrange
        cases h
        exact hrange
      · cases h
  | perUser counter =>
      have hmaximum := hstart counter rfl
      cases h
      show (if held > counter.maximum then counter.start else held) ≤ counter.maximum
      split <;> omega

/-- The counter of the messages starts within its bounds. -/
theorem groupOf_start_le (s : Sensor) (N : ℕ) (counter : Counter)
    (h : (groupOf s N).message = .perUser counter) : counter.start ≤ counter.maximum := by
  cases s with
  | temperature => cases h
  | humidity => cases h
  | electricity =>
      cases h
      decide
  | co2 => cases h

/-- What a group has drawn and published are values of its message. -/
structure Yielded (message : Message) (g : RunningGroup) : Prop where
  drawn : ∀ t index v, (g.threads t).drawn = some (index, v) → Message.Yields message v
  published : ∀ p ∈ g.published, Message.Yields message p.2

section Group

variable {group : ThreadGroup} {N L : ℕ} {g g' : RunningGroup} {move : ThreadMove}

/-- A step of a group draws and publishes values of its message only. -/
theorem Yielded.step
    (hstart : ∀ counter, group.message = .perUser counter → counter.start ≤ counter.maximum)
    (h : Yielded group.message g) (hstep : g.step group N move = some g') :
    Yielded group.message g' := by
  cases move with
  | draw t random =>
      obtain ⟨_, message, own, -, -, -, hmessage, -, hself, hother, -, hpublished⟩ :=
        RunningGroup.step_draw hstep
      refine ⟨fun u index v hu => ?_, hpublished ▸ h.published⟩
      by_cases hut : u = t
      · subst hut
        rw [hself] at hu
        cases hu
        exact Message.yields_of_draw hstart hmessage
      · rw [hother u hut] at hu
        exact h.drawn u index v hu
  | publish t =>
      obtain ⟨index, message, -, hdrawn, -, hself, hother, -, hpublished⟩ :=
        RunningGroup.step_publish hstep
      refine ⟨fun u index' v hu => ?_, fun p hp => ?_⟩
      · by_cases hut : u = t
        · subst hut
          rw [hself] at hu
          cases hu
        · rw [hother u hut] at hu
          exact h.drawn u index' v hu
      · rw [hpublished] at hp
        rcases List.mem_append.mp hp with hp | hp
        · exact h.published p hp
        · rw [List.mem_singleton.mp hp]
          exact h.drawn t index message hdrawn

/-- A group only adds to what it has published. -/
theorem published_prefix (hstep : g.step group N move = some g') :
    g.published <+: g'.published := by
  cases move with
  | draw t random =>
      obtain ⟨_, _, _, -, -, -, -, -, -, -, -, hpublished⟩ := RunningGroup.step_draw hstep
      exact hpublished ▸ List.prefix_refl _
  | publish t =>
      obtain ⟨_, _, -, -, -, -, -, -, hpublished⟩ := RunningGroup.step_publish hstep
      exact hpublished ▸ List.prefix_append _ _

/-- **What a run of a group publishes**: values of its message, on the topics of the first
`N` apartments. -/
theorem published_of_run (s : Sensor) (hN : 1 ≤ N) {moves : List ThreadMove}
    (hrun : run (RunningGroup.step (groupOf s N) N) (RunningGroup.start (groupOf s N) L) moves =
      some g) {p : Mail} (hp : p ∈ g.published) :
    (∃ i, 1 ≤ i ∧ i ≤ N ∧ p.1 = sensorTopic i s) ∧ Message.Yields (groupOf s N).message p.2 := by
  constructor
  · have hspread := spread_of_run hN (groupOf_topicCounter s N) (fun _ _ => groupOf_topic_inj.mp)
      hrun
    obtain ⟨rounds, hrounds⟩ := hspread.evenly
    obtain ⟨i, hi, htopic⟩ := hspread.topics p.1 (List.mem_map_of_mem hp)
    obtain ⟨hone, hle⟩ := hrounds.range i hi
    exact ⟨i, hone, hle, htopic.trans (groupOf_topic s N i)⟩
  · have hyielded : Yielded (groupOf s N).message g := by
      apply invariant_of_run (fun _ _ _ => Yielded.step (groupOf_start_le s N)) _ hrun
      exact ⟨fun _ _ _ h => (by cases h), fun _ h => absurd h List.not_mem_nil⟩
    exact hyielded.published p hp

end Group

/-! ## Messages on their way -/

/-- All messages that have been published, group by group. -/
def allPublished (house : LoadedHouse) : List Mail :=
  Sensor.all.flatMap fun s => (house.groups s).published

/-- A message has been published when some group has published it. -/
theorem mem_allPublished {house : LoadedHouse} {mail : Mail} :
    mail ∈ allPublished house ↔ ∃ s, mail ∈ (house.groups s).published := by
  rw [allPublished, List.mem_flatMap]
  constructor
  · rintro ⟨s, -, hmail⟩
    exact ⟨s, hmail⟩
  · rintro ⟨s, hmail⟩
    exact ⟨s, by cases s <;> decide, hmail⟩

/-- What has been published depends on the groups only. -/
theorem allPublished_of_groups {house house' : LoadedHouse} (h : house'.groups = house.groups) :
    allPublished house' = allPublished house := by
  rw [allPublished, allPublished, h]

/-- The contributions of all sensors, when that of one grows. -/
theorem flatMap_sensors_perm {α : Type} {f f' : Sensor → List α} {s : Sensor} {new : List α}
    (hself : f' s = f s ++ new) (hother : ∀ t, t ≠ s → f' t = f t) :
    (Sensor.all.flatMap f').Perm (Sensor.all.flatMap f ++ new) := by
  obtain ⟨before, after, hall⟩ : ∃ before after, Sensor.all = before ++ s :: after :=
    List.append_of_mem (by cases s <;> decide)
  have hnodup := Sensor.nodup_all
  rw [hall, List.nodup_append, List.nodup_cons] at hnodup
  obtain ⟨-, ⟨hafter, -⟩, hbefore⟩ := hnodup
  have hsame : ∀ l : List Sensor, s ∉ l → l.flatMap f' = l.flatMap f := by
    intro l hl
    apply List.flatMap_congr
    exact fun t ht => hother t fun heq => hl (heq ▸ ht)
  have hnot : s ∉ before := fun hmem => hbefore s hmem s List.mem_cons_self rfl
  rw [hall, List.flatMap_append, List.flatMap_append, List.flatMap_cons, List.flatMap_cons,
    hsame before hnot, hsame after hafter, hself, List.append_assoc, List.append_assoc,
    List.append_assoc]
  apply List.Perm.append_left
  apply List.Perm.append_left
  exact List.perm_append_comm

/-- Taking a message out of a list lowers its own count by one, and no other. -/
theorem count_erase_add {l : List Mail} {mail : Mail} (h : mail ∈ l) (other : Mail) :
    (l.erase mail).count other + [mail].count other = l.count other := by
  have hcount := (List.perm_cons_erase h).count_eq other
  rw [List.count_cons] at hcount
  rw [hcount, List.count_singleton]

section House

variable {inst : Installation} {group : Sensor → ThreadGroup} {threads : ℕ}
  {house house' : LoadedHouse} {move : LoadMove} {moves : List LoadMove}

/-- **What a step does with the messages**: it publishes `new` ones, and what it delivers or
loses has been on its way. -/
theorem step_messages (h : house.step inst group threads move = some house') :
    ∃ new, (allPublished house').Perm (allPublished house ++ new) ∧
      (∀ mail ∈ house'.inFlight, mail ∈ house.inFlight ++ new) ∧
      (∀ mail ∈ received [move], mail ∈ house.inFlight) ∧
      ∀ mail, house'.inFlight.count mail + (received [move]).count mail +
          (lost [move]).count mail =
        house.inFlight.count mail + new.count mail + (redelivered [move]).count mail := by
  cases move with
  | thread s move =>
      obtain ⟨hstep, hother, hflight, -⟩ := LoadedHouse.step_thread h
      obtain ⟨new, hnew⟩ := published_prefix hstep
      rw [← hnew, List.drop_left] at hflight
      refine ⟨new, ?_, fun mail hmail => hflight ▸ hmail, nofun, fun mail => ?_⟩
      · exact flatMap_sensors_perm hnew.symm fun t ht =>
          congrArg RunningGroup.published (hother t ht)
      · rw [hflight, List.count_append]
        rfl
  | deliver mail =>
      obtain ⟨hmem, hgroups, hflight, -⟩ := LoadedHouse.step_deliver h
      refine ⟨[], ?_, fun other hother => ?_, fun other hother => ?_, fun other => ?_⟩
      · rw [allPublished_of_groups hgroups, List.append_nil]
      · rw [hflight] at hother
        exact List.mem_append_left _ (List.mem_of_mem_erase hother)
      · exact List.mem_singleton.mp hother ▸ hmem
      · rw [hflight]
        exact count_erase_add hmem other
  | redeliver mail =>
      obtain ⟨hmem, hgroups, hflight, -⟩ := LoadedHouse.step_redeliver h
      refine ⟨[], ?_, fun other hother => ?_, fun other hother => ?_, fun other => ?_⟩
      · rw [allPublished_of_groups hgroups, List.append_nil]
      · exact List.mem_append_left _ (hflight ▸ hother)
      · exact List.mem_singleton.mp hother ▸ hmem
      · rw [hflight]
        rfl
  | lose mail =>
      obtain ⟨hmem, hgroups, hflight, -⟩ := LoadedHouse.step_lose h
      refine ⟨[], ?_, fun other hother => ?_, nofun, fun other => ?_⟩
      · rw [allPublished_of_groups hgroups, List.append_nil]
      · rw [hflight] at hother
        exact List.mem_append_left _ (List.mem_of_mem_erase hother)
      · rw [hflight]
        exact count_erase_add hmem other
  | execute rule =>
      obtain ⟨-, hgroups, hflight⟩ := LoadedHouse.step_execute h
      refine ⟨[], ?_, fun other hother => ?_, nofun, fun other => ?_⟩
      · rw [allPublished_of_groups hgroups, List.append_nil]
      · exact List.mem_append_left _ (hflight ▸ hother)
      · rw [hflight]
        rfl

/-- What has become of the messages that have been published: they have been delivered or
lost, or are on their way. -/
structure Accounted (moves : List LoadMove) (house : LoadedHouse) : Prop where
  count : ∀ mail, (allPublished house).count mail + (redelivered moves).count mail =
    (received moves).count mail + (lost moves).count mail + house.inFlight.count mail
  inFlight : ∀ mail ∈ house.inFlight, mail ∈ allPublished house
  arrived : ∀ mail ∈ received moves, mail ∈ allPublished house

/-- Every step keeps the account: it publishes, delivers, repeats or loses a message, or none of
these. -/
theorem Accounted.step (h : Accounted moves house)
    (hstep : house.step inst group threads move = some house') :
    Accounted (moves ++ [move]) house' := by
  obtain ⟨new, hpublished, hflight, hreceived, hcount⟩ := step_messages hstep
  have hold : ∀ mail ∈ allPublished house, mail ∈ allPublished house' := fun mail hmail =>
    hpublished.mem_iff.mpr (List.mem_append_left _ hmail)
  refine ⟨fun mail => ?_, fun mail hmail => ?_, fun mail hmail => ?_⟩
  · have hbefore := h.count mail
    have hafter := hcount mail
    rw [received_append, redelivered_append, lost_append, hpublished.count_eq,
      List.count_append, List.count_append, List.count_append, List.count_append]
    omega
  · apply hpublished.mem_iff.mpr
    rcases List.mem_append.mp (hflight mail hmail) with hmail | hmail
    · exact List.mem_append_left _ (h.inFlight mail hmail)
    · exact List.mem_append_right _ hmail
  · rw [received_append] at hmail
    rcases List.mem_append.mp hmail with hmail | hmail
    · exact hold mail (h.arrived mail hmail)
    · exact hold mail (h.inFlight mail (hreceived mail hmail))

/-- **Every message of a run** is accounted for. -/
theorem accounted_of_run {L : Sensor → ℕ}
    (hrun : run (LoadedHouse.step inst group threads) (LoadedHouse.start group L) moves =
      some house) : Accounted moves house := by
  apply history_of_run (P := Accounted) _ (fun _ _ _ _ => Accounted.step) hrun
  exact ⟨fun _ => rfl, fun _ h => absurd h List.not_mem_nil, fun _ h => absurd h List.not_mem_nil⟩

end House

/-! ## Seen from the items -/

/-- The messages on a topic. -/
def mailsOn (topic : String) (mails : List Mail) : List Mail :=
  mails.filter fun mail => mail.1 = topic

/-- The number in the last message on a topic. -/
def lastMail (topic : String) (mails : List Mail) : Option ℚ :=
  (mailsOn topic mails).getLast?.map fun mail => (mail.2 : ℚ)

section Readings

variable {apartments : List ℕ} {on : List Sensor} {i : ℕ} {s : Sensor}

/-- The readings of a sensor of the house are the messages on its topic. -/
theorem filter_readings (h : apartments.Nodup) (hon : on.Nodup) (hi : i ∈ apartments)
    (hs : s ∈ on) (mails : List Mail) :
    (mails.flatMap (readingsIn apartments on)).filter
        (fun r => r.apartment = i ∧ r.sensor = s) =
      (mailsOn (sensorTopic i s) mails).map fun mail => ⟨i, s, mail.2⟩ := by
  induction mails with
  | nil => rfl
  | cons mail mails ih =>
      rw [List.flatMap_cons, List.filter_append, ih, mailsOn, mailsOn, List.filter_cons]
      rcases readingsIn_cases h hon mail with ⟨j, -, t, -, htopic, hreadings⟩ | ⟨hnone, hreadings⟩
      · rw [hreadings, ← htopic, List.filter_singleton]
        by_cases hsame : j = i ∧ t = s
        · obtain ⟨rfl, rfl⟩ := hsame
          simp
        · simp [hsame, sensorTopic_inj]
      · have hother : mail.1 ≠ sensorTopic i s := fun heq => hnone i hi s hs heq.symm
        simp [hreadings, hother]

/-- The last reading of a sensor of the house is the last message on its topic. -/
theorem lastValue_readings (h : apartments.Nodup) (hon : on.Nodup) (hi : i ∈ apartments)
    (hs : s ∈ on) (mails : List Mail) :
    lastValue i s (mails.flatMap (readingsIn apartments on)) =
      lastMail (sensorTopic i s) mails := by
  rw [lastValue, filter_readings h hon hi hs, lastMail, List.getLast?_map, Option.map_map]
  rfl

end Readings

/-! ## Runs from a share that holds a configuration -/

section Load

variable {cfg : Config} {share : Files} {inst : Installation} {N : ℕ} {L : Sensor → ℕ}
  {moves : List LoadMove} {house : LoadedHouse}

/-- What openHAB loads from the files of a configuration is the house of this configuration. -/
theorem eq_installationOf (hqos : ValidQos cfg.qos) (hshare : Holds share cfg)
    (hload : Installation.load share = some inst) : inst = installationOf cfg := by
  rw [load_of_holds hqos hshare] at hload
  exact (Option.some.inj hload).symm

/-- Seen from a group, a run of the house is a run of the group. -/
theorem group_of_load (s : Sensor) (hrun : loadRun inst N L moves = some house) :
    run (RunningGroup.step (groupOf s N) N) (RunningGroup.start (groupOf s N) (L s))
      (moves.flatMap (threadMoves s)) = some (house.groups s) :=
  run_group s hrun

/-- Seen from openHAB, a run of the house is a run of its rule engine. -/
theorem engine_of_load (hrun : loadRun (installationOf cfg) N L moves = some house) :
    run (Engine.step (houseRules (apartments cfg.number))) (Engine.start fun _ => .undefined)
      (moves.flatMap (engineMoves (apartments cfg.number) (sensorsOn cfg))) = some house.engine :=
  run_engine (nodup_apartments _) (nodup_sensorsOn cfg) hrun

/-- Behind any run of the house the items show the messages that have arrived. -/
theorem shows_of_load (hrun : loadRun (installationOf cfg) N L moves = some house) :
    Shows (apartments cfg.number)
      (moves.flatMap (engineMoves (apartments cfg.number) (sensorsOn cfg))) house.engine :=
  shows_of_run (engine_of_load hrun)

/-- **A reading of a run** is of a sensor that is switched on, of an apartment that the house
has and the plan knows, and a value that the group of the sensor publishes. -/
theorem reading_of_load (hN : 1 ≤ N) (hrun : loadRun inst N L moves = some house) {r : Reading}
    (hr : r ∈ (received moves).flatMap
      (readingsIn (apartments cfg.number) (sensorsOn cfg))) :
    r.apartment ∈ apartments cfg.number ∧ flag cfg r.sensor = true ∧ r.apartment ≤ N ∧
      ∃ v, Message.Yields (groupOf r.sensor N).message v ∧ r.value = v := by
  obtain ⟨mail, hmail, hreading⟩ := List.mem_flatMap.mp hr
  obtain ⟨hi, hs, htopic, hvalue⟩ := mem_readingsIn.mp hreading
  obtain ⟨s, hpublished⟩ := mem_allPublished.mp ((accounted_of_run hrun).arrived mail hmail)
  obtain ⟨⟨i, -, hle, hsent⟩, hyields⟩ := published_of_run s hN (group_of_load s hrun) hpublished
  obtain ⟨hapartment, hsensor⟩ := sensorTopic_inj.mp (htopic.trans hsent)
  refine ⟨hi, mem_sensorsOn.mp hs, hapartment ▸ hle, mail.2, ?_, hvalue⟩
  rw [hsensor]
  exact hyields

end Load

end OpenhabConfiguration.Analysis
