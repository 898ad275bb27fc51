import Mathlib.Data.List.Nodup
import OpenhabConfiguration.Interface.Declarations

/-!
# The names of the house are distinct

The names of items, Things, channels, topics, rules and Frames carry the number of their
apartment. What each name determines: an item name the apartment and the quantity
(`itemName_inj`), a channel UID and a topic the apartment and the sensor (`sensorUid_inj`,
`sensorTopic_inj`), the other names the apartment. The names of a house with pairwise
distinct apartments are then pairwise distinct, file by file.
-/

set_option autoImplicit false

namespace OpenhabConfiguration.Interface

open Lexing

/-! ## What a name determines -/

/-- The end of an item name does not go on with a digit. -/
theorem Quantity.head?_suffix (q : Quantity) : ∀ c ∈ q.suffix.toList.head?, c.isDigit = false := by
  have hhead : q.suffix.toList.head? = some '_' := by
    rcases q with (_ | _ | _ | _) | _ | _ <;> decide
  intro c hc
  rw [hhead, Option.mem_some_iff] at hc
  subst hc
  decide

/-- The end of an item's name determines the quantity. -/
theorem Quantity.suffix_inj {q r : Quantity} : q.suffix = r.suffix ↔ q = r := by
  constructor
  · intro h
    rcases q with (_ | _ | _ | _) | _ | _ <;> rcases r with (_ | _ | _ | _) | _ | _ <;>
      first | rfl | exact absurd h (by decide)
  · exact congrArg Quantity.suffix

/-- The channel determines the sensor. -/
theorem Sensor.channelId_inj {s t : Sensor} : s.channelId = t.channelId ↔ s = t := by
  constructor
  · intro h
    cases s <;> cases t <;> first | rfl | exact absurd h (by decide)
  · exact congrArg Sensor.channelId

/-- **An item name** determines the apartment and the quantity. -/
theorem itemName_inj {i j : ℕ} {q r : Quantity} :
    itemName i q = itemName j r ↔ i = j ∧ q = r := by
  unfold itemName
  rw [numbered_inj q.head?_suffix r.head?_suffix, Quantity.suffix_inj]

/-- A name that ends in its number determines the number. -/
theorem numbered_last_inj {pre : String} {i j : ℕ} :
    pre ++ Nat.repr i = pre ++ Nat.repr j ↔ i = j := by
  have h := @numbered_inj pre "" "" i j (by simp) (by simp)
  simp only [String.append_empty, and_true] at h
  exact h

/-- The group determines the apartment. -/
theorem groupName_inj {i j : ℕ} : groupName i = groupName j ↔ i = j := numbered_last_inj

/-- No group is called like an item of an apartment. -/
theorem groupName_ne_itemName (i j : ℕ) (q : Quantity) : groupName i ≠ itemName j q := by
  intro h
  have hempty : groupName i = "Wohnraum" ++ (Nat.repr i ++ "") := by
    rw [groupName, String.append_empty]
  rw [hempty, itemName, numbered_inj (by simp) q.head?_suffix] at h
  rcases q with (_ | _ | _ | _) | _ | _ <;> exact absurd h.2 (by decide)

/-- The group of the house is not that of an apartment. -/
theorem house_ne_groupName (i : ℕ) : "House" ≠ groupName i := by
  intro h
  have hhead := congrArg (fun x => x.toList.head?) h
  simp only [groupName, String.toList_append] at hhead
  exact absurd hhead (by simp)

/-- The group of the house is not called like an item of an apartment. -/
theorem house_ne_itemName (i : ℕ) (q : Quantity) : "House" ≠ itemName i q := by
  intro h
  have hhead := congrArg (fun x => x.toList.head?) h
  simp only [itemName, String.toList_append] at hhead
  exact absurd hhead (by simp)

/-- The Thing determines the apartment. -/
theorem thingId_inj {i j : ℕ} : thingId i = thingId j ↔ i = j := numbered_last_inj

/-- **A channel UID** determines the apartment and the sensor. -/
theorem sensorUid_inj {i j : ℕ} {s t : Sensor} :
    sensorUid i s = sensorUid j t ↔ i = j ∧ s = t := by
  have hcolon : ∀ s : Sensor, ∀ c ∈ (":" ++ s.channelId).toList.head?, c.isDigit = false := by
    intro s
    simp
  rw [sensorUid_eq, sensorUid_eq, numbered_inj (hcolon s) (hcolon t), String.append_right_inj,
    Sensor.channelId_inj]

/-- **A topic** determines the apartment and the sensor. -/
theorem sensorTopic_inj {i j : ℕ} {s t : Sensor} :
    sensorTopic i s = sensorTopic j t ↔ i = j ∧ s = t := by
  constructor
  · intro h
    unfold sensorTopic at h
    have hst : s = t := by
      -- the sensors' names differ in their first letter
      rw [String.append_assoc, String.append_assoc, String.append_right_inj] at h
      have hhead := congrArg (fun x => x.toList.head?) h
      cases s <;> cases t <;> first | rfl | simp [Sensor.channelId] at hhead
    subst hst
    rw [numbered_inj (by simp) (by simp)] at h
    exact ⟨h.1, rfl⟩
  · rintro ⟨rfl, rfl⟩
    rfl

/-! ## The names of a house -/

/-- No quantity is listed twice. -/
theorem Quantity.nodup_all : Quantity.all.Nodup := by decide

/-- No sensor is listed twice. -/
theorem Sensor.nodup_all : Sensor.all.Nodup := by decide

/-- The items of different apartments, and those of one apartment, have different names. -/
theorem nodup_itemNames {apartments : List ℕ} (h : apartments.Nodup) :
    (apartments.flatMap fun i => Quantity.all.map (itemName i)).Nodup := by
  rw [List.nodup_flatMap]
  refine ⟨fun i _ => ?_, h.imp fun {i j} hij => ?_⟩
  · exact Quantity.nodup_all.map fun q r hqr => (itemName_inj.mp hqr).2
  · intro x hi hj
    obtain ⟨q, -, rfl⟩ := List.mem_map.mp hi
    obtain ⟨r, -, hr⟩ := List.mem_map.mp hj
    exact hij (itemName_inj.mp hr).1.symm

/-- The names of the items of a house, in the order of the file. -/
theorem houseItems_names (apartments : List ℕ) :
    (houseItems apartments).map Item.name =
      "House" :: (apartments.map groupName ++
        apartments.flatMap fun i => Quantity.all.map (itemName i)) := by
  simp only [houseItems, List.map_cons, List.map_append, List.map_map, List.map_flatMap]
  rfl

/-- **The items of a house** have pairwise distinct names: its group, the groups of the
apartments and the items of the apartments share one namespace. -/
theorem nodup_houseItems {apartments : List ℕ} (h : apartments.Nodup) :
    ((houseItems apartments).map Item.name).Nodup := by
  rw [houseItems_names, List.nodup_cons, List.nodup_append]
  refine ⟨fun hmem => ?_, ?_, nodup_itemNames h, ?_⟩
  · rcases List.mem_append.mp hmem with hgroup | hitem
    · obtain ⟨i, -, hi⟩ := List.mem_map.mp hgroup
      exact house_ne_groupName i hi.symm
    · obtain ⟨i, -, hi⟩ := List.mem_flatMap.mp hitem
      obtain ⟨q, -, hq⟩ := List.mem_map.mp hi
      exact house_ne_itemName i q hq.symm
  · exact h.map fun _ _ => groupName_inj.mp
  · intro x hgroup y hitem
    obtain ⟨i, -, rfl⟩ := List.mem_map.mp hgroup
    obtain ⟨j, -, hj⟩ := List.mem_flatMap.mp hitem
    obtain ⟨q, -, rfl⟩ := List.mem_map.mp hj
    exact groupName_ne_itemName i j q

/-- The two rules of an apartment have different names, and so have those of two apartments. -/
theorem electricityCosts_name_ne (i j : ℕ) :
    (electricityCosts i).name ≠ (burningAlarm j).name := by
  intro h
  have hname : "CalculateElectricityCosts" ++ Nat.repr i = "Burning-Alarm" ++ Nat.repr j := h
  have hhead := congrArg (fun x => x.toList.head?) hname
  simp only [String.toList_append] at hhead
  exact absurd hhead (by simp)

/-- **The rules of a house** have pairwise distinct names. -/
theorem nodup_houseRules {apartments : List ℕ} (h : apartments.Nodup) :
    ((houseRules apartments).map Rule.name).Nodup := by
  rw [houseRules, List.map_flatMap, List.nodup_flatMap]
  refine ⟨fun i _ => ?_, h.imp fun {i j} hij => ?_⟩
  · simpa using electricityCosts_name_ne i i
  · intro x hi hj
    simp only [List.map_cons, List.map_nil, List.mem_cons, List.not_mem_nil, or_false] at hi hj
    rcases hi with rfl | rfl <;> rcases hj with hj | hj
    · exact hij (numbered_last_inj.mp hj)
    · exact electricityCosts_name_ne i j hj
    · exact electricityCosts_name_ne j i hj.symm
    · exact hij (numbered_last_inj.mp hj)

/-- **The Things of a house** have pairwise distinct names. -/
theorem nodup_houseThings {apartments : List ℕ} (h : apartments.Nodup) (on : List Sensor) :
    ((apartments.map (apartmentThing on)).map Thing.id).Nodup := by
  rw [List.map_map]
  exact h.map fun _ _ => thingId_inj.mp

/-- **The Frames of a house** have pairwise distinct labels. -/
theorem nodup_houseFrames {apartments : List ℕ} (h : apartments.Nodup) :
    ((apartments.map apartmentFrame).map Frame.label).Nodup := by
  rw [List.map_map]
  exact h.map fun _ _ => numbered_last_inj.mp

end OpenhabConfiguration.Interface
