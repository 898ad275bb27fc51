import OpenhabConfiguration.Analysis.RulesAndSitemapText
import OpenhabConfiguration.Analysis.ThingsText
import OpenhabConfiguration.Interface.Routing

/-!
# From the sensors to the items, in the files of one configuration

The things file declares a channel for every sensor whose flag is set, but the items file
and the sitemap have an item for every sensor, whatever its flag: `buildItems` and
`buildSitemap` read the flags and never use them. The files of a configuration therefore
agree on the sensors exactly when all flags are set or there is no apartment
(`filesAgree_iff`).

For a sensor that is switched on the way from its topic to its item is right and separate
from that of every other sensor (`routing_isolated`).
-/

set_option autoImplicit false

namespace OpenhabConfiguration.Analysis

open Interface Model

/-! ## What the files of a configuration declare -/

/-- The items the first call of `buildItemsFile` declares. -/
def itemsOf (cfg : Config) : Option (List Item) := (generated cfg .items).bind readItems

/-- The Bridge that the first call of `buildThingsFile` declares. -/
def bridgeOf (cfg : Config) : Option Bridge := (generated cfg .things).bind readThings

/-- The rules that the first call of `buildRulesFile` declares. -/
def rulesOf (cfg : Config) : Option (List Rule) := (generated cfg .rules).bind readRules

/-- The sitemap that the first call of `buildSitemapFile` declares. -/
def sitemapOf (cfg : Config) : Option Sitemap := (generated cfg .sitemap).bind readSitemap

/-- The sitemap of a house, with one Frame for each apartment. -/
def houseSitemap (apartments : List ℕ) : Sitemap :=
  ⟨"apartment", "Wohnräume", apartments.map apartmentFrame⟩

section Files

variable {cfg : Config} (h : cfg.number ≠ Int32.maxValue)
include h

/-- The items file declares the items of the house. -/
theorem itemsOf_eq : itemsOf cfg = some (houseItems (apartments cfg.number)) := by
  rw [itemsOf, generated_eq h .items nofun, Option.bind_some, readItems_items]

/-- The things file declares the Bridge of the house. -/
theorem bridgeOf_eq (hqos : ValidQos cfg.qos) :
    bridgeOf cfg = some (houseBridge (apartments cfg.number) (sensorsOn cfg)) := by
  rw [bridgeOf, generated_eq h .things fun _ => hqos, Option.bind_some, readThings_things]
  rfl

/-- The rules file declares the rules of the house. -/
theorem rulesOf_eq : rulesOf cfg = some (houseRules (apartments cfg.number)) := by
  rw [rulesOf, generated_eq h .rules nofun, Option.bind_some, readRules_rules]

/-- The sitemap file declares the sitemap of the house. -/
theorem sitemapOf_eq : sitemapOf cfg = some (houseSitemap (apartments cfg.number)) := by
  rw [sitemapOf, generated_eq h .sitemap nofun, Option.bind_some, readSitemap_sitemap]
  rfl

end Files

/-- A sensor is on when its flag is set. -/
theorem mem_sensorsOn {cfg : Config} {s : Sensor} : s ∈ sensorsOn cfg ↔ flag cfg s = true := by
  rw [sensorsOn, List.mem_filter]
  exact and_iff_right (by cases s <;> decide)

/-- No sensor is on twice. -/
theorem nodup_sensorsOn (cfg : Config) : (sensorsOn cfg).Nodup := Sensor.nodup_all.filter _

/-! ## Which sensors an apartment has -/

/-- The things file, the items file and the sitemap treat sensor `s` of apartment `i` as
its flag `on` says: there is a channel for it in the apartment's Thing, an item linked to
this channel, and the sitemap shows that item, if and only if the flag is set. -/
structure SensorAgrees (items : List Item) (bridge : Bridge) (sitemap : Sitemap) (on : Bool)
    (i : ℕ) (s : Sensor) : Prop where
  declared : on = true ↔
    ∃ t ∈ bridge.things, t.id = thingId i ∧ ∃ c ∈ t.channels, c.id = s.channelId
  linked : on = true ↔ ∃ it ∈ items, it.channel = some (sensorUid i s)
  shown : on = true ↔
    ∃ it ∈ items, it.channel = some (sensorUid i s) ∧ it.name ∈ sitemap.shown

/-- The files of a configuration agree on the sensors of every apartment. In particular
every link names a declared channel, and every declared channel is linked once. -/
def FilesAgree (cfg : Config) : Prop :=
  ∃ items bridge sitemap, itemsOf cfg = some items ∧ bridgeOf cfg = some bridge ∧
    sitemapOf cfg = some sitemap ∧
    (∀ i ∈ apartments cfg.number, ∀ s, SensorAgrees items bridge sitemap (flag cfg s) i s) ∧
    (∀ it ∈ items, ∀ uid, it.channel = some uid → uid ∈ bridge.uids) ∧
    ∀ uid ∈ bridge.uids, ∃ it, linkedItems items uid = [it]

section House

variable {apartments : List ℕ} {on : List Sensor} {i : ℕ} {s : Sensor}

/-- A house has a channel for the sensors that are switched on. -/
theorem declared_house (hi : i ∈ apartments) :
    (∃ t ∈ (houseBridge apartments on).things, t.id = thingId i ∧
      ∃ c ∈ t.channels, c.id = s.channelId) ↔ s ∈ on := by
  constructor
  · rintro ⟨t, ht, -, c, hc, hid⟩
    obtain ⟨j, -, rfl⟩ := List.mem_map.mp ht
    obtain ⟨r, hr, rfl⟩ := List.mem_map.mp hc
    rwa [← Sensor.channelId_inj.mp hid]
  · intro hs
    exact ⟨_, List.mem_map_of_mem hi, rfl, _, List.mem_map_of_mem hs, rfl⟩

/-- The items with a link are the items of the sensors, switched on or not. -/
theorem mem_houseItems_channel {it : Item} {uid : String} :
    it ∈ houseItems apartments ∧ it.channel = some uid ↔
      ∃ i ∈ apartments, ∃ s, it = quantityItem i (.reading s) ∧ sensorUid i s = uid := by
  constructor
  · rintro ⟨hit, huid⟩
    rcases List.mem_cons.mp hit with rfl | hit
    · simp [houseItem] at huid
    rcases List.mem_append.mp hit with hit | hit
    · obtain ⟨i, -, rfl⟩ := List.mem_map.mp hit
      simp [groupItem] at huid
    · obtain ⟨i, hi, hit⟩ := List.mem_flatMap.mp hit
      obtain ⟨q, -, rfl⟩ := List.mem_map.mp hit
      cases q with
      | reading s => exact ⟨i, hi, s, rfl, Option.some.inj huid⟩
      | cost => cases huid
      | fire => cases huid
  · rintro ⟨i, hi, s, rfl, rfl⟩
    refine ⟨List.mem_cons_of_mem _ (List.mem_append_right _ ?_), rfl⟩
    refine List.mem_flatMap.mpr ⟨i, hi, List.mem_map_of_mem ?_⟩
    cases s <;> decide

/-- The sitemap shows every quantity of every apartment. -/
theorem itemName_mem_shown (hi : i ∈ apartments) (q : Quantity) :
    itemName i q ∈ (houseSitemap apartments).shown := by
  rw [Sitemap.shown, houseSitemap, List.flatMap_map]
  refine List.mem_flatMap.mpr ⟨i, hi, List.mem_map_of_mem ?_⟩
  rcases q with (_ | _ | _ | _) | _ | _ <;> decide

/-- **A sensor of a house** is treated alike by all files exactly when it is switched on:
its item is there and is shown in any case. -/
theorem sensorAgrees_house (hi : i ∈ apartments) {b : Bool} (hb : b = true ↔ s ∈ on) :
    SensorAgrees (houseItems apartments) (houseBridge apartments on) (houseSitemap apartments)
      b i s ↔ b = true := by
  have hitem := mem_houseItems_channel.mpr ⟨i, hi, s, rfl, rfl⟩
  constructor
  · intro h
    exact h.linked.mpr ⟨_, hitem⟩
  · intro htrue
    constructor
    · rw [declared_house hi, hb]
    · exact iff_of_true htrue ⟨_, hitem⟩
    · exact iff_of_true htrue ⟨_, hitem.1, hitem.2, itemName_mem_shown hi _⟩

end House

/-- If the files agree, every flag is set, or there is no apartment. -/
theorem FilesAgree.flags {cfg : Config} (hqos : ValidQos cfg.qos) (h : FilesAgree cfg) {i : ℕ}
    (hi : i ∈ apartments cfg.number) (s : Sensor) : flag cfg s = true := by
  have hmax : cfg.number ≠ Int32.maxValue := by
    intro hmax
    obtain ⟨items, -, -, hitems, -⟩ := h
    rw [itemsOf, generated, buildFile_maxValue hmax .items fun h => absurd h (by decide)] at hitems
    cases hitems
  obtain ⟨items, bridge, sitemap, hitems, hbridge, hsitemap, hagree, -⟩ := h
  rw [itemsOf_eq hmax] at hitems
  rw [bridgeOf_eq hmax hqos] at hbridge
  rw [sitemapOf_eq hmax] at hsitemap
  cases hitems
  cases hbridge
  cases hsitemap
  exact (sensorAgrees_house hi mem_sensorsOn.symm).mp (hagree i hi s)

/-- **The files of a configuration agree** on the sensors exactly when there is no
apartment or all four flags are set. -/
theorem filesAgree_iff (cfg : Config) (hnum : 0 ≤ cfg.number) (hmax : cfg.number ≠ Int32.maxValue)
    (hqos : ValidQos cfg.qos) :
    FilesAgree cfg ↔ cfg.number = 0 ∨ ∀ s, flag cfg s = true := by
  constructor
  · intro h
    by_cases hzero : cfg.number = 0
    · exact .inl hzero
    · have hpos : 0 < cfg.number := Int32.lt_of_le_of_ne hnum (Ne.symm hzero)
      exact .inr (h.flags hqos (one_mem_apartments hpos))
  · intro h
    have hset : ∀ i ∈ apartments cfg.number, ∀ s, flag cfg s = true := by
      rcases h with hzero | hall
      · intro i hi
        rw [hzero] at hi
        cases hi
      · exact fun _ _ => hall
    refine ⟨_, _, _, itemsOf_eq hmax, bridgeOf_eq hmax hqos, sitemapOf_eq hmax, ?_, ?_, ?_⟩
    · intro i hi s
      exact (sensorAgrees_house hi mem_sensorsOn.symm).mpr (hset i hi s)
    · intro it hit uid huid
      obtain ⟨i, hi, s, -, rfl⟩ := mem_houseItems_channel.mp ⟨hit, huid⟩
      exact mem_uids_houseBridge.mpr ⟨i, hi, s, mem_sensorsOn.mpr (hset i hi s), rfl⟩
    · intro uid huid
      obtain ⟨i, hi, s, -, rfl⟩ := mem_uids_houseBridge.mp huid
      exact ⟨_, by rw [linkedItems_sensorUid (nodup_apartments _), if_pos hi]⟩

/-- The files of the repository's configuration agree, all flags being set. -/
theorem filesAgree_openHabIni : FilesAgree openHabIni :=
  (filesAgree_iff _ (by decide) (by decide) (by decide)).mpr (.inr fun s => by cases s <;> rfl)

/-- Without temperature sensors, the files of one apartment disagree: the item is declared
and shown, and its channel is not. -/
theorem not_filesAgree_without_temperature :
    ¬ FilesAgree { openHabIni with number := 1, temperature := false } := by
  intro h
  have hflag := h.flags (by decide) (one_mem_apartments (by decide)) .temperature
  cases hflag

/-! ## The way of a reading -/

/-- **A reading arrives at its item and at no other.** In the files of a first call, the
topic of a sensor that is switched on is the state topic of one channel, one item is linked
to this channel, and it is the item of this apartment and this sensor. The topic of another
apartment or another sensor does not reach this item, and the topic of an apartment number
above the configured one reaches no item. -/
theorem routing_isolated (cfg : Config) (hqos : ValidQos cfg.qos) :
    (cfg.number ≠ Int32.maxValue →
      (generated cfg .items).isSome = true ∧ (generated cfg .things).isSome = true) ∧
    ∀ itemsText thingsText, generated cfg .items = some itemsText →
      generated cfg .things = some thingsText →
      ∃ items bridge, readItems itemsText = some items ∧ readThings thingsText = some bridge ∧
        (∀ i ∈ apartments cfg.number, ∀ s, flag cfg s = true →
          (∃ uid it, bridge.listening (sensorTopic i s) = [uid] ∧ linkedItems items uid = [it] ∧
            it.name = itemName i (.reading s)) ∧
          ∀ j t, (j, t) ≠ (i, s) →
            itemName i (.reading s) ∉ delivered bridge items (sensorTopic j t)) ∧
        ∀ (j : ℕ) t, cfg.number.toInt < j → delivered bridge items (sensorTopic j t) = [] := by
  constructor
  · intro hmax
    rw [generated_eq hmax .items nofun, generated_eq hmax .things fun _ => hqos]
    exact ⟨rfl, rfl⟩
  intro itemsText thingsText hitems hthings
  obtain ⟨-, rfl⟩ := eq_fileText hitems nofun
  obtain ⟨-, rfl⟩ := eq_fileText hthings fun _ => hqos
  have hnodup := nodup_apartments cfg.number
  have hon := nodup_sensorsOn cfg
  refine ⟨_, _, readItems_items cfg, readThings_things cfg, ?_, ?_⟩
  · intro i hi s hs
    refine ⟨⟨sensorUid i s, quantityItem i (.reading s), ?_, ?_, rfl⟩, ?_⟩
    · exact (listening_sensorTopic hnodup hon i s).trans (if_pos ⟨hi, mem_sensorsOn.mpr hs⟩)
    · exact (linkedItems_sensorUid hnodup i s).trans (if_pos hi)
    · intro j t hne hmem
      -- a message of (j, t) reaches at most the item of (j, t)
      have hdel := delivered_sensorTopic hnodup hon j t
      rw [houseBridge] at hdel
      rw [hdel] at hmem
      split at hmem
      · rw [List.mem_singleton, itemName_inj] at hmem
        obtain ⟨rfl, hst⟩ := hmem
        cases hst
        exact hne rfl
      · cases hmem
  · intro j t hj
    have hout : j ∉ apartments cfg.number := by
      rw [mem_apartments, Int32.toNatClampNeg]
      omega
    exact (delivered_sensorTopic hnodup hon j t).trans (if_neg fun h => hout h.1)

/-- A message for the eleventh apartment does not reach the first. -/
theorem routing_isolated_openHabIni :
    ∃ items bridge, itemsOf openHabIni = some items ∧ bridgeOf openHabIni = some bridge ∧
      itemName 1 (.reading .co2) ∉ delivered bridge items (sensorTopic 11 .co2) := by
  have hmax : openHabIni.number ≠ Int32.maxValue := by decide
  have hqos : ValidQos openHabIni.qos := by decide
  obtain ⟨-, hfiles⟩ := routing_isolated openHabIni hqos
  obtain ⟨items, bridge, hitems, hbridge, hin, -⟩ := hfiles _ _
    (generated_eq hmax .items nofun) (generated_eq hmax .things fun _ => hqos)
  refine ⟨items, bridge, ?_, ?_, ?_⟩
  · rw [itemsOf, generated_eq hmax .items nofun, Option.bind_some, hitems]
  · rw [bridgeOf, generated_eq hmax .things (fun _ => hqos), Option.bind_some, hbridge]
  · exact (hin 1 (one_mem_apartments (by decide)) .co2 rfl).2 11 .co2 (by decide)

end OpenhabConfiguration.Analysis
