import Mathlib.Tactic.Ring
import OpenhabConfiguration.Analysis.LoadedHouse

/-!
# Runs of a test plan against a house

openHAB has loaded the files of a configuration, and a test plan publishes to it, whatever
the order of the threads, the delays of the messages and those of the rules. Every run ends,
and from every state it can be led to an end (`load_ends`).

The items show nothing but what the groups publish, and there is no fire
(`load_shows_published`). No message is lost or doubled unless the broker does so
(`load_accounted`). The items show the last messages that openHAB has received, and when no
rule is pending the costs are those of the last message (`load_shows_last`).
-/

set_option autoImplicit false

namespace OpenhabConfiguration.Analysis

open Interface Model Runs

/-! ## The work that is left -/

/-- An iteration that has not begun takes four moves: a draw, a publication, a delivery and
the execution of a rule. -/
def threadWork (thread : Thread) : ℕ :=
  4 * thread.iterations + if thread.drawn.isSome then 3 else 0

/-- The moves that the threads of a group have left, and those that their messages will take. -/
def groupWork (N : ℕ) (g : RunningGroup) : ℕ := ∑ t ∈ Finset.range N, threadWork (g.threads t)

/-- The moves that are left, but for messages that are delivered again. -/
def work (N : ℕ) (house : LoadedHouse) : ℕ :=
  (Sensor.all.map fun s => groupWork N (house.groups s)).sum + 2 * house.inFlight.length +
    house.engine.pending.length

/-- A step of a thread is one move less, and a message that it publishes is left to be
delivered. -/
theorem groupWork_step {group : ThreadGroup} {N : ℕ} {g g' : RunningGroup} {move : ThreadMove}
    (hstep : g.step group N move = some g') :
    groupWork N g' + 2 * g'.published.length + 1 = groupWork N g + 2 * g.published.length := by
  cases move with
  | draw t random =>
      obtain ⟨iterations, message, own, ht, hiterations, hnone, -, -, hself, hother, -, hpublished⟩ :=
        RunningGroup.step_draw hstep
      have hsum := RoundRobin.sum_step (f := fun u => threadWork (g.threads u)) ht
        fun u hu => congrArg threadWork (hother u hu)
      have hbefore : threadWork (g.threads t) = 4 * iterations + 4 := by
        rw [threadWork, hiterations, hnone]
        rfl
      have hafter : threadWork (g'.threads t) = 4 * iterations + 3 := by
        rw [hself]
        rfl
      rw [hbefore, hafter] at hsum
      rw [hpublished, groupWork, groupWork]
      omega
  | publish t =>
      obtain ⟨index, message, ht, hdrawn, -, hself, hother, -, hpublished⟩ :=
        RunningGroup.step_publish hstep
      have hsum := RoundRobin.sum_step (f := fun u => threadWork (g.threads u)) ht
        fun u hu => congrArg threadWork (hother u hu)
      have hbefore : threadWork (g.threads t) = 4 * (g.threads t).iterations + 3 := by
        rw [threadWork, hdrawn]
        rfl
      have hafter : threadWork (g'.threads t) = 4 * (g.threads t).iterations := by
        rw [hself]
        rfl
      rw [hbefore, hafter] at hsum
      rw [hpublished, List.length_append, List.length_singleton, groupWork, groupWork]
      omega

/-- A message that is delivered again can make up for two moves. -/
def repeats : LoadMove → Bool
  | .redeliver _ => true
  | _ => false

/-- The moves that repeat a message are the messages delivered more than once. -/
theorem countP_repeats (moves : List LoadMove) :
    moves.countP repeats = (redelivered moves).length := by
  rw [redelivered, List.length_filterMap_eq_countP]
  apply List.countP_congr
  intro move _
  cases move <;> simp [repeats]

section House

variable {apartments : List ℕ} {on : List Sensor} {group : Sensor → ThreadGroup} {N : ℕ}
  {house house' : LoadedHouse} {move : LoadMove}

/-- **Every move** leaves less work, but for messages that are delivered again. -/
theorem work_step (h : apartments.Nodup) (hon : on.Nodup)
    (hstep : house.step (houseInstallation apartments on) group N move = some house') :
    work N house' + 1 ≤ work N house + if repeats move then 2 else 0 := by
  rw [work, work]
  cases move with
  | thread s move =>
      obtain ⟨hthread, hother, hflight, hengine⟩ := LoadedHouse.step_thread hstep
      obtain ⟨new, hnew⟩ := published_prefix hthread
      have hwork := groupWork_step hthread
      rw [← hnew, List.length_append] at hwork
      rw [← hnew, List.drop_left] at hflight
      have hsum := sum_sensors (f := fun s => groupWork N (house.groups s))
        (g := fun s => groupWork N (house'.groups s)) (a := 2 * new.length + 1) (b := 0)
        (by omega) fun t ht => congrArg (groupWork N) (hother t ht)
      rw [hflight, hengine, List.length_append]
      omega
  | deliver mail =>
      obtain ⟨hmem, hgroups, hflight, hengine⟩ := LoadedHouse.step_deliver hstep
      have hpending := pending_receive_le h hon house.engine mail
      have hlength := List.length_erase_add_one hmem
      rw [hgroups, hflight, hengine]
      omega
  | redeliver mail =>
      obtain ⟨-, hgroups, hflight, hengine⟩ := LoadedHouse.step_redeliver hstep
      have hpending := pending_receive_le h hon house.engine mail
      rw [hgroups, hflight, hengine, repeats, if_pos rfl]
      omega
  | lose mail =>
      obtain ⟨hmem, hgroups, hflight, hengine⟩ := LoadedHouse.step_lose hstep
      have hlength := List.length_erase_add_one hmem
      rw [hgroups, hflight, hengine]
      omega
  | execute rule =>
      obtain ⟨hexecute, hgroups, hflight⟩ := LoadedHouse.step_execute hstep
      obtain ⟨hmem, -, hpending⟩ := Engine.step_execute hexecute
      have hlength := List.length_erase_add_one hmem
      rw [hgroups, hflight, hpending]
      omega

/-- All threads are through, and no message and no rule is pending. -/
structure Quiet (N : ℕ) (house : LoadedHouse) : Prop where
  finished : ∀ s, ∀ t < N, ((house.groups s).threads t).Finished
  inFlight : house.inFlight = []
  pending : house.engine.pending = []

/-- The broker delivers every message, and once. -/
def Reliable : LoadMove → Prop
  | .redeliver _ => False
  | .lose _ => False
  | _ => True

/-- A reliable broker repeats no message and loses none. -/
theorem nil_of_reliable {moves : List LoadMove} (h : ∀ move ∈ moves, Reliable move) :
    redelivered moves = [] ∧ lost moves = [] := by
  constructor
  · rw [redelivered, List.filterMap_eq_nil_iff]
    intro move hmove
    cases move with
    | redeliver mail => exact (h _ hmove).elim
    | _ => rfl
  · rw [lost, List.filterMap_eq_nil_iff]
    intro move hmove
    cases move with
    | lose mail => exact (h _ hmove).elim
    | _ => rfl

/-- A reliable move repeats no message. -/
theorem not_repeats (h : Reliable move) : repeats move = false := by
  cases move with
  | redeliver mail => exact h.elim
  | _ => rfl

/-- A house that is not quiet can make a move. -/
theorem exists_move (hmessage : ∀ s held, ∃ random r, (group s).message.draw random held = some r)
    (hopen : ¬ Quiet N house) :
    ∃ move house', Reliable move ∧
      house.step (houseInstallation apartments on) group N move = some house' := by
  by_cases hfinished : ∀ s, ∀ t < N, ((house.groups s).threads t).Finished
  · cases hflight : house.inFlight with
    | cons mail rest =>
        have hmem : mail ∈ house.inFlight := hflight ▸ List.mem_cons_self
        exact ⟨.deliver mail, _, trivial, if_pos hmem⟩
    | nil =>
        cases hpending : house.engine.pending with
        | nil => exact absurd ⟨hfinished, hflight, hpending⟩ hopen
        | cons rule rest =>
            have hmem : rule ∈ house.engine.pending := hpending ▸ List.mem_cons_self
            exact ⟨.execute rule, _, trivial,
              Option.bind_eq_some_iff.mpr ⟨_, Engine.step_of_pending hmem, rfl⟩⟩
  · simp only [not_forall] at hfinished
    obtain ⟨s, t, ht, hthread⟩ := hfinished
    obtain ⟨move, g, hstep, -⟩ := exists_step (hmessage s) ht hthread
    exact ⟨.thread s move, _, trivial, Option.bind_eq_some_iff.mpr ⟨g, hstep, rfl⟩⟩

/-- **A house can always come to rest**, with a reliable broker. -/
theorem exists_quiet (h : apartments.Nodup) (hon : on.Nodup)
    (hmessage : ∀ s held, ∃ random r, (group s).message.draw random held = some r)
    (house : LoadedHouse) :
    ∃ moves house', (∀ move ∈ moves, Reliable move) ∧
      run (LoadedHouse.step (houseInstallation apartments on) group N) house moves =
        some house' ∧ Quiet N house' := by
  apply exists_run_final (work N) (Quiet N)
  intro house hopen
  obtain ⟨move, house', hreliable, hstep⟩ := exists_move hmessage hopen
  have hwork := work_step h hon hstep
  rw [not_repeats hreliable] at hwork
  exact ⟨move, house', hreliable, hstep, hwork⟩

end House

/-! ## Every run ends -/

/-- Before the first iteration, four moves for each iteration of each thread. -/
theorem groupWork_start (group : ThreadGroup) (N L : ℕ) :
    groupWork N (RunningGroup.start group L) = N * (4 * L) := by
  have hthread : ∀ t, threadWork ((RunningGroup.start group L).threads t) = 4 * L := fun _ => rfl
  rw [groupWork, Finset.sum_const_nat fun t _ => hthread t, Finset.card_range]

/-- Before the first iteration, four moves for each iteration of each thread of all groups. -/
theorem work_start (N : ℕ) (L : Sensor → ℕ) :
    work N (LoadedHouse.start (fun s => groupOf s N) L) =
      4 * N * (L .temperature + L .humidity + L .electricity + L .co2) := by
  simp only [work, LoadedHouse.start, Engine.start, groupWork_start, Sensor.all, List.map_cons,
    List.map_nil, List.sum_cons, List.sum_nil, List.length_nil]
  ring

/-- **Every run ends, and can be ended**: but for messages that are delivered again, a run has
at most four moves for each iteration of each thread, and from every state a reliable broker
leads to a state in which all threads are through and nothing is pending. -/
theorem load_ends (cfg : Config) (share : Files) (inst : Installation) (hqos : ValidQos cfg.qos)
    (hshare : Holds share cfg) (hload : Installation.load share = some inst) (N : ℕ)
    (L : Sensor → ℕ) (moves : List LoadMove) (house : LoadedHouse)
    (hrun : loadRun inst N L moves = some house) :
    moves.length ≤ 4 * N * (L .temperature + L .humidity + L .electricity + L .co2) +
        2 * (redelivered moves).length ∧
      ∃ rest house', run (LoadedHouse.step inst (fun s => groupOf s N) N) house rest = some house' ∧
        redelivered rest = [] ∧ lost rest = [] ∧ Quiet N house' := by
  obtain rfl := eq_installationOf hqos hshare hload
  have hnodup := nodup_apartments cfg.number
  have hon := nodup_sensorsOn cfg
  constructor
  · have hstep : ∀ house move house', LoadedHouse.step (installationOf cfg)
        (fun s => groupOf s N) N house move = some house' →
        work N house' + 1 ≤ work N house + if repeats move then 2 else 0 :=
      fun _ _ _ => work_step hnodup hon
    have hlength := length_le_of_run (work N) hstep hrun
    rw [countP_repeats, work_start] at hlength
    omega
  · obtain ⟨rest, house', hreliable, hrest, hquiet⟩ :=
      exists_quiet hnodup hon (fun s held => exists_draw s N held) house
    obtain ⟨hredelivered, hlost⟩ := nil_of_reliable hreliable
    exact ⟨rest, house', hrest, hredelivered, hlost, hquiet⟩

/-- The share holds the configuration of the repository. -/
theorem holds_openHabIni : Holds (shareOf openHabIni) openHabIni :=
  holds_shareOf (by decide) (by decide)

/-- The plan with ten threads and five iterations comes to rest, in a house of ten
apartments. -/
theorem load_ends_openHabIni : ∃ moves house,
    loadRun (installationOf openHabIni) 10 (fun _ => 5) moves = some house ∧ Quiet 10 house := by
  have hqos : ValidQos openHabIni.qos := by decide
  obtain ⟨-, rest, house, hrest, -, -, hquiet⟩ := load_ends openHabIni (shareOf openHabIni) _ hqos
    holds_openHabIni (load_of_holds hqos holds_openHabIni) 10 (fun _ => 5) [] _ (run_nil.mpr rfl)
  exact ⟨rest, house, hrest, hquiet⟩

/-- A run of the plan, with a reliable broker, that leads to rest. -/
theorem exists_load (cfg : Config) (N : ℕ) (L : Sensor → ℕ) : ∃ moves house,
    loadRun (installationOf cfg) N L moves = some house ∧ redelivered moves = [] ∧
      lost moves = [] ∧ Quiet N house := by
  obtain ⟨moves, house, hreliable, hrun, hquiet⟩ := exists_quiet (nodup_apartments cfg.number)
    (nodup_sensorsOn cfg) (fun s held => exists_draw s N held)
    (LoadedHouse.start (fun s => groupOf s N) L)
  obtain ⟨hredelivered, hlost⟩ := nil_of_reliable hreliable
  exact ⟨moves, house, hrun, hredelivered, hlost, hquiet⟩

/-! ## What the items show -/

/-- **The items show what the groups publish, and there is no fire.** In every state of every
run, the item of a sensor is undefined, or the sensor is switched on, the plan knows its
apartment, and the item shows a value that the group of the sensor can publish; the costs are
those of a value of the electricity group; no alarm has been raised. -/
theorem load_shows_published (cfg : Config) (share : Files) (inst : Installation)
    (hqos : ValidQos cfg.qos) (hshare : Holds share cfg)
    (hload : Installation.load share = some inst) (N : ℕ) (hN : 1 ≤ N) (L : Sensor → ℕ)
    (moves : List LoadMove) (house : LoadedHouse)
    (hrun : loadRun inst N L moves = some house) (i : ℕ) :
    (∀ s, house.engine.states (itemName i (.reading s)) = .undefined ∨
      i ∈ apartments cfg.number ∧ i ≤ N ∧ flag cfg s = true ∧
        ∃ v : ℕ, Message.Yields (groupOf s N).message v ∧
          house.engine.states (itemName i (.reading s)) = .decimal v) ∧
    (house.engine.states (itemName i .cost) = .undefined ∨
      ∃ v : ℕ, Message.Yields (groupOf .electricity N).message v ∧
        house.engine.states (itemName i .cost) = .decimal (3 / 10 * v)) ∧
    house.engine.states (itemName i .fire) = .undefined := by
  obtain rfl := eq_installationOf hqos hshare hload
  have hshows := shows_of_load hrun
  have hreadings : readingsOf (moves.flatMap
        (engineMoves (apartments cfg.number) (sensorsOn cfg))) =
      (received moves).flatMap (readingsIn (apartments cfg.number) (sensorsOn cfg)) :=
    readingsOf_engineMoves moves
  refine ⟨fun s => ?_, ?_, ?_⟩
  · rw [hshows.reading, hreadings]
    cases hlast : lastValue i s ((received moves).flatMap
        (readingsIn (apartments cfg.number) (sensorsOn cfg))) with
    | none => exact .inl rfl
    | some q =>
        obtain ⟨r, hmem, rfl, rfl, rfl⟩ := lastValue_mem hlast
        obtain ⟨hi, hflag, hle, v, hyields, hvalue⟩ := reading_of_load hN hrun hmem
        exact .inr ⟨hi, hle, hflag, v, hyields, by rw [hvalue]; rfl⟩
  · apply (hshows.cost i).imp_right
    rw [hreadings]
    rintro ⟨r, hmem, -, hsensor, hcost⟩
    obtain ⟨-, -, -, v, hyields, hvalue⟩ := reading_of_load hN hrun hmem
    rw [hsensor] at hyields
    exact ⟨v, hyields, by rw [hcost, hvalue, mul_comm]⟩
  · apply no_fire_of_run (engine_of_load hrun)
    rw [hreadings]
    intro r hr hsensor
    obtain ⟨-, -, -, v, hyields, hvalue⟩ := reading_of_load hN hrun hr
    rw [hsensor] at hyields
    have hle : v ≤ 25 := hyields.2
    have hcast : (v : ℚ) ≤ 25 := by exact_mod_cast hle
    rw [hvalue]
    exact hcast.trans (by decide)

/-- A whole run for ten apartments raises no alarm in the third. -/
theorem load_shows_published_openHabIni : ∃ moves house,
    loadRun (installationOf openHabIni) 10 (fun _ => 5) moves = some house ∧
      Quiet 10 house ∧ house.engine.states (itemName 3 .fire) = .undefined := by
  have hqos : ValidQos openHabIni.qos := by decide
  obtain ⟨moves, house, hrun, -, -, hquiet⟩ := exists_load openHabIni 10 fun _ => 5
  obtain ⟨-, -, hfire⟩ := load_shows_published openHabIni (shareOf openHabIni) _ hqos
    holds_openHabIni (load_of_holds hqos holds_openHabIni) 10 (by decide) _ moves house hrun 3
  exact ⟨moves, house, hrun, hquiet, hfire⟩

/-! ## What becomes of the messages -/

section Messages

variable {cfg : Config} {inst : Installation} {N i : ℕ} {L : Sensor → ℕ} {moves : List LoadMove}
  {house : LoadedHouse} {s : Sensor}

/-- Only the group of a sensor publishes on its topics. -/
theorem mailsOn_allPublished (hN : 1 ≤ N) (hrun : loadRun inst N L moves = some house) (i : ℕ)
    (s : Sensor) : mailsOn (sensorTopic i s) (allPublished house) =
      mailsOn (sensorTopic i s) (house.groups s).published := by
  rw [mailsOn, allPublished, List.filter_flatMap, flatMap_eq_ite Sensor.nodup_all s,
    if_pos (by cases s <;> decide)]
  · rfl
  · intro t ht
    rw [List.filter_eq_nil_iff]
    intro mail hmail htopic
    obtain ⟨⟨j, -, -, hsent⟩, -⟩ := published_of_run t hN (group_of_load t hrun) hmail
    exact ht (sensorTopic_inj.mp (hsent.symm.trans (of_decide_eq_true htopic))).2

/-- When all threads are through, the topic of every apartment of the plan has had one
message for every iteration, and no other topic has had any. -/
theorem length_mailsOn (hN : 1 ≤ N) (hrun : loadRun inst N L moves = some house)
    (hfinished : ∀ t < N, ((house.groups s).threads t).Finished) :
    (mailsOn (sensorTopic i s) (allPublished house)).length =
      if 1 ≤ i ∧ i ≤ N then L s else 0 := by
  have hgroup := group_of_load s hrun
  rw [mailsOn_allPublished hN hrun]
  split
  · rename_i hi
    have hcount := (spread_of_run hN (groupOf_topicCounter s N) (fun _ _ => groupOf_topic_inj.mp)
      hgroup).finished hN hfinished hi
    rw [groupOf_topic, List.count_eq_countP, List.countP_map] at hcount
    rw [← hcount, mailsOn, List.countP_eq_length_filter]
    congr 1
  · rename_i hi
    rw [List.length_eq_zero_iff, mailsOn, List.filter_eq_nil_iff]
    intro mail hmail htopic
    obtain ⟨⟨j, hone, hle, hsent⟩, -⟩ := published_of_run s hN hgroup hmail
    have hij := (sensorTopic_inj.mp (hsent.symm.trans (of_decide_eq_true htopic))).1
    exact hi (hij ▸ ⟨hone, hle⟩)

/-- The item of a sensor is reached by the messages on the topic of the sensor, if the house
has the sensor. -/
theorem mem_delivered {topic : String} :
    itemName i (.reading s) ∈ delivered (installationOf cfg).bridge (installationOf cfg).items
        topic ↔
      i ∈ apartments cfg.number ∧ flag cfg s = true ∧ topic = sensorTopic i s := by
  have hdelivered := delivered_eq (nodup_apartments cfg.number) (nodup_sensorsOn cfg) (topic, 0)
  show itemName i (.reading s) ∈ delivered (houseBridge _ _) (houseItems _) (topic, 0).1 ↔ _
  rw [hdelivered, List.mem_map, ← mem_sensorsOn]
  constructor
  · rintro ⟨r, hr, hname⟩
    obtain ⟨hi, hs, htopic, -⟩ := mem_readingsIn.mp hr
    obtain ⟨hapartment, hsensor⟩ := itemName_inj.mp hname
    rw [hapartment] at hi htopic
    rw [Quantity.reading.inj hsensor] at hs htopic
    exact ⟨hi, hs, htopic.symm⟩
  · rintro ⟨hi, hs, rfl⟩
    exact ⟨⟨i, s, 0⟩, mem_readingsIn.mpr ⟨hi, hs, rfl, rfl⟩, rfl⟩

end Messages

/-- **No message is lost or doubled** unless the broker does so. In every state of every run,
a message has been published as often as it has been delivered or lost or is on its way, but
for repeated deliveries. When a reliable broker has come to rest, openHAB has received just
what has been published, and the item of a sensor has been reached once for every iteration,
if the sensor is switched on and the plan knows its apartment. -/
theorem load_accounted (cfg : Config) (share : Files) (inst : Installation)
    (hqos : ValidQos cfg.qos) (hshare : Holds share cfg)
    (hload : Installation.load share = some inst) (N : ℕ) (hN : 1 ≤ N) (L : Sensor → ℕ)
    (moves : List LoadMove) (house : LoadedHouse)
    (hrun : loadRun inst N L moves = some house) :
    (∀ mail, (allPublished house).count mail + (redelivered moves).count mail =
      (received moves).count mail + (lost moves).count mail + house.inFlight.count mail) ∧
    (Quiet N house → redelivered moves = [] → lost moves = [] →
      (received moves).Perm (allPublished house) ∧
      ∀ i ∈ apartments cfg.number, ∀ s, (received moves).countP
          (fun mail => itemName i (.reading s) ∈ delivered inst.bridge inst.items mail.1) =
        if i ≤ N ∧ flag cfg s = true then L s else 0) := by
  obtain rfl := eq_installationOf hqos hshare hload
  have haccounted := accounted_of_run hrun
  refine ⟨haccounted.count, fun hquiet hredelivered hlost => ?_⟩
  have hperm : (received moves).Perm (allPublished house) := by
    rw [List.perm_iff_count]
    intro mail
    have hcount := haccounted.count mail
    rw [hredelivered, hlost, hquiet.inFlight, List.count_nil] at hcount
    omega
  refine ⟨hperm, fun i hi s => ?_⟩
  have hone : 1 ≤ i := (mem_apartments.mp hi).1
  rw [hperm.countP_eq]
  by_cases hflag : flag cfg s = true
  · have hsame : (fun mail : Mail => decide (itemName i (.reading s) ∈
        delivered (installationOf cfg).bridge (installationOf cfg).items mail.1)) =
        fun mail => decide (mail.1 = sensorTopic i s) := by
      funext mail
      rw [decide_eq_decide, mem_delivered]
      exact ⟨fun h => h.2.2, fun h => ⟨hi, hflag, h⟩⟩
    have hlength := length_mailsOn (i := i) hN hrun (hquiet.finished s)
    rw [hsame, List.countP_eq_length_filter]
    rw [mailsOn] at hlength
    rw [hlength]
    simp [hone, hflag]
  · rw [if_neg fun h => hflag h.2, List.countP_eq_zero]
    intro mail _ hmem
    exact hflag (mem_delivered.mp (of_decide_eq_true hmem)).2.1

/-- A whole run for ten apartments with a reliable broker delivers what has been published. -/
theorem load_accounted_openHabIni : ∃ moves house,
    loadRun (installationOf openHabIni) 10 (fun _ => 5) moves = some house ∧
      (received moves).Perm (allPublished house) := by
  have hqos : ValidQos openHabIni.qos := by decide
  obtain ⟨moves, house, hrun, hredelivered, hlost, hquiet⟩ := exists_load openHabIni 10 fun _ => 5
  obtain ⟨-, hrest⟩ := load_accounted openHabIni (shareOf openHabIni) _ hqos
    holds_openHabIni (load_of_holds hqos holds_openHabIni) 10 (by decide) _ moves house hrun
  exact ⟨moves, house, hrun, (hrest hquiet hredelivered hlost).1⟩

/-! ## The last messages -/

section Last

variable {cfg : Config} {N i : ℕ} {L : Sensor → ℕ} {moves : List LoadMove} {house : LoadedHouse}
  {s : Sensor}

/-- The last reading of a sensor is the last message on its topic. -/
theorem lastValue_of_load (moves : List LoadMove) (hi : i ∈ apartments cfg.number)
    (hflag : flag cfg s = true) :
    lastValue i s (readingsOf (moves.flatMap
        (engineMoves (apartments cfg.number) (sensorsOn cfg)))) =
      lastMail (sensorTopic i s) (received moves) := by
  rw [readingsOf_engineMoves]
  exact lastValue_readings (nodup_apartments _) (nodup_sensorsOn cfg) hi (mem_sensorsOn.mpr hflag) _

/-- The item of a sensor shows the last message on the topic of the sensor. -/
theorem reading_of_last (hrun : loadRun (installationOf cfg) N L moves = some house)
    (hi : i ∈ apartments cfg.number) (hflag : flag cfg s = true) :
    house.engine.states (itemName i (.reading s)) =
      .ofOption (lastMail (sensorTopic i s) (received moves)) := by
  rw [(shows_of_load hrun).reading, lastValue_of_load moves hi hflag]

/-- When no rule is pending, the costs are those of the last electricity message. -/
theorem cost_of_last (hrun : loadRun (installationOf cfg) N L moves = some house)
    (hpending : house.engine.pending = []) (hi : i ∈ apartments cfg.number)
    (hflag : flag cfg .electricity = true) :
    house.engine.states (itemName i .cost) =
      .ofOption ((lastMail (sensorTopic i .electricity) (received moves)).map (3 / 10 * ·)) := by
  have hcosts := costsPending_of_run (nodup_apartments _) (engine_of_load hrun)
  have hlast := lastValue_of_load moves hi hflag
  cases hmail : lastMail (sensorTopic i .electricity) (received moves) with
  | none =>
      rcases (shows_of_load hrun).cost i with hcost | ⟨r, hmem, rfl, hsensor, -⟩
      · exact hcost
      · rw [hmail, ← hsensor] at hlast
        exact absurd hlast (lastValue_ne_none hmem)
  | some v =>
      rw [hmail] at hlast
      rcases hcosts.cost i hi v hlast with hrule | hcost
      · rw [hpending] at hrule
        exact absurd hrule List.not_mem_nil
      · rw [hcost, mul_comm]
        rfl

/-- A message on a topic that has been published and not been lost has been received. -/
theorem exists_lastMail (hN : 1 ≤ N) (hrun : loadRun (installationOf cfg) N L moves = some house)
    (hquiet : Quiet N house) (hlost : lost moves = []) (hone : 1 ≤ i) (hi : i ≤ N)
    (hL : 1 ≤ L s) : ∃ v : ℕ, Message.Yields (groupOf s N).message v ∧
      lastMail (sensorTopic i s) (received moves) = some (v : ℚ) := by
  have haccounted := accounted_of_run hrun
  have hlength := length_mailsOn (i := i) hN hrun (hquiet.finished s)
  rw [if_pos ⟨hone, hi⟩] at hlength
  obtain ⟨mail, hmail⟩ := List.exists_mem_of_length_pos (hlength ▸ hL)
  obtain ⟨hpublished, htopic⟩ := List.mem_filter.mp hmail
  have hreceived : mail ∈ received moves := by
    have hcount := haccounted.count mail
    rw [hlost, hquiet.inFlight, List.count_nil] at hcount
    have hpos := List.count_pos_iff.mpr hpublished
    exact List.count_pos_iff.mp (by omega)
  have hne : mailsOn (sensorTopic i s) (received moves) ≠ [] :=
    List.ne_nil_of_mem (List.mem_filter.mpr ⟨hreceived, htopic⟩)
  obtain ⟨last, hlast⟩ := Option.ne_none_iff_exists'.mp fun hnone =>
    hne (List.getLast?_eq_none_iff.mp hnone)
  have hin := List.mem_of_getLast? hlast
  refine ⟨last.2, ?_, by rw [lastMail, hlast]; rfl⟩
  obtain ⟨hmem, hlastTopic⟩ := List.mem_filter.mp hin
  have hsent : last ∈ mailsOn (sensorTopic i s) (allPublished house) :=
    List.mem_filter.mpr ⟨haccounted.arrived last hmem, hlastTopic⟩
  rw [mailsOn_allPublished hN hrun] at hsent
  exact (published_of_run s hN (group_of_load s hrun) (List.mem_of_mem_filter hsent)).2

end Last

/-- **The items show the last messages.** In every state of every run, the item of a sensor
that is switched on shows the last message that openHAB has received on its topic, and when
no rule is pending the costs are `0.3` times the last electricity message, whatever has been
lost or repeated. At rest, when nothing has been lost, every such item of an apartment that
the plan knows shows a value of its group. -/
theorem load_shows_last (cfg : Config) (share : Files) (inst : Installation)
    (hqos : ValidQos cfg.qos) (hshare : Holds share cfg)
    (hload : Installation.load share = some inst) (N : ℕ) (hN : 1 ≤ N) (L : Sensor → ℕ)
    (moves : List LoadMove) (house : LoadedHouse)
    (hrun : loadRun inst N L moves = some house) (i : ℕ) (hi : i ∈ apartments cfg.number) :
    (∀ s, flag cfg s = true → house.engine.states (itemName i (.reading s)) =
      .ofOption (lastMail (sensorTopic i s) (received moves))) ∧
    (house.engine.pending = [] → flag cfg .electricity = true →
      house.engine.states (itemName i .cost) =
        .ofOption ((lastMail (sensorTopic i .electricity) (received moves)).map (3 / 10 * ·))) ∧
    (Quiet N house → lost moves = [] → i ≤ N → ∀ s, flag cfg s = true → 1 ≤ L s →
      ∃ v : ℕ, Message.Yields (groupOf s N).message v ∧
        house.engine.states (itemName i (.reading s)) = .decimal v) := by
  obtain rfl := eq_installationOf hqos hshare hload
  refine ⟨fun s hflag => reading_of_last hrun hi hflag,
    fun hpending hflag => cost_of_last hrun hpending hi hflag, ?_⟩
  intro hquiet hlost hle s hflag hL
  have hone : 1 ≤ i := (mem_apartments.mp hi).1
  obtain ⟨v, hyields, hlast⟩ := exists_lastMail hN hrun hquiet hlost hone hle hL
  refine ⟨v, hyields, ?_⟩
  rw [reading_of_last hrun hi hflag, hlast]
  rfl

/-- A whole run for ten apartments leaves a temperature between 19 and 25 in the first. -/
theorem load_shows_last_openHabIni : ∃ moves house v,
    loadRun (installationOf openHabIni) 10 (fun _ => 5) moves = some house ∧
      19 ≤ v ∧ v ≤ 25 ∧
      house.engine.states (itemName 1 (.reading .temperature)) = .decimal (v : ℕ) := by
  have hqos : ValidQos openHabIni.qos := by decide
  obtain ⟨moves, house, hrun, -, hlost, hquiet⟩ := exists_load openHabIni 10 fun _ => 5
  obtain ⟨-, -, hrest⟩ := load_shows_last openHabIni (shareOf openHabIni) _ hqos
    holds_openHabIni (load_of_holds hqos holds_openHabIni) 10 (by decide) _ moves house hrun 1
    (one_mem_apartments (by decide))
  obtain ⟨v, hyields, hshown⟩ := hrest hquiet hlost (by decide) .temperature rfl (by decide)
  exact ⟨moves, house, v, hrun, hyields.1, hyields.2, hshown⟩

end OpenhabConfiguration.Analysis
