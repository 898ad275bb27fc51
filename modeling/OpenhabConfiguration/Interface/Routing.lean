import OpenhabConfiguration.Interface.Names

/-!
# From a topic to the items that show it

What openHAB does with the declarations of a things file and an items file: a channel
listens to its state topic (`Bridge.listening`), an item shows the channel its link names
(`linkedItems`), and a message reaches the items linked to the channels that listen to its
topic (`delivered`). Then what a rule and a sitemap refer to.

In a house the topic of a sensor reaches the item of this apartment and this sensor when the
sensor is switched on, and no other (`delivered_sensorTopic`).
-/

set_option autoImplicit false

namespace OpenhabConfiguration.Interface

/-! ## Channels, links and messages -/

/-- The UIDs of the channels a Bridge declares. -/
def Bridge.uids (b : Bridge) : List String :=
  b.things.flatMap fun t => t.channels.map fun c => channelUid b.id t.id c.id

/-- The UIDs of the channels that listen to a topic. -/
def Bridge.listening (b : Bridge) (topic : String) : List String :=
  b.things.flatMap fun t =>
    (t.channels.filter fun c => c.stateTopic = topic).map fun c => channelUid b.id t.id c.id

/-- The items that are linked to a channel. -/
def linkedItems (items : List Item) (uid : String) : List Item :=
  items.filter fun it => it.channel = some uid

/-- The names of the items a message on a topic reaches. -/
def delivered (b : Bridge) (items : List Item) (topic : String) : List String :=
  (b.listening topic).flatMap fun uid => (linkedItems items uid).map Item.name

/-! ## What rules and sitemaps refer to -/

/-- The items an expression reads. -/
def Expr.items : Expr → List String
  | .state item => [item]
  | .asDecimal e => e.items
  | .decimal _ => []
  | .text _ => []
  | .mul a b => a.items ++ b.items
  | .gt a b => a.items ++ b.items
  | .and a b => a.items ++ b.items

/-- The items a statement reads or commands. -/
def Stmt.items : Stmt → List String
  | .skip => []
  | .seq a b => a.items ++ b.items
  | .sendCommand item e => item :: e.items
  | .ifThen cond body => cond.items ++ body.items

/-- The items a rule refers to: its trigger, and those of its body. -/
def Rule.items (r : Rule) : List String := r.trigger :: r.body.items

/-- The items a sitemap shows, Frame by Frame. -/
def Sitemap.shown (s : Sitemap) : List String := s.frames.flatMap Frame.items

/-! ## In a house -/

/-- A list that is made of one contribution only. -/
theorem flatMap_eq_ite {ι α : Type} [DecidableEq ι] {l : List ι} (hl : l.Nodup) (i : ι)
    {f : ι → List α} (hf : ∀ j, j ≠ i → f j = []) :
    l.flatMap f = if i ∈ l then f i else [] := by
  induction l with
  | nil => rfl
  | cons j l ih =>
      rw [List.flatMap_cons, ih hl.of_cons]
      by_cases hji : j = i
      · subst hji
        have hnot : j ∉ l := (List.nodup_cons.mp hl).1
        simp [hnot]
      · have hij : i ≠ j := fun h => hji h.symm
        simp [hf j hji, hij]

/-- The elements of a list without duplicates that have a property only one value has. -/
theorem filter_eq_ite {ι : Type} [DecidableEq ι] {l : List ι} (hl : l.Nodup) (i : ι)
    {p : ι → Bool} (hp : ∀ j, p j = true ↔ j = i) : l.filter p = if i ∈ l then [i] else [] := by
  have hbeq : p = fun j => j == i := by
    funext j
    rw [Bool.eq_iff_iff, hp, beq_iff_eq]
  rw [hbeq, List.filter_beq, hl.count]
  split <;> rfl

section House

variable {apartments : List ℕ} {on : List Sensor}

/-- The house the things file describes. -/
def houseBridge (apartments : List ℕ) (on : List Sensor) : Bridge :=
  ⟨brokerId, apartments.map (apartmentThing on)⟩

/-- The channels of a house: those of its sensors. -/
theorem mem_uids_houseBridge {uid : String} :
    uid ∈ (houseBridge apartments on).uids ↔ ∃ i ∈ apartments, ∃ s ∈ on, sensorUid i s = uid := by
  simp only [Bridge.uids, houseBridge, List.mem_flatMap, List.mem_map,
    exists_exists_and_eq_and, apartmentThing, sensorChannel]
  rfl

/-- The channel that listens to the topic of a sensor. -/
theorem listening_sensorTopic (h : apartments.Nodup) (hon : on.Nodup) (i : ℕ) (s : Sensor) :
    (houseBridge apartments on).listening (sensorTopic i s) =
      if i ∈ apartments ∧ s ∈ on then [sensorUid i s] else [] := by
  rw [Bridge.listening, houseBridge, List.flatMap_map]
  have hchannels : ∀ j, (apartmentThing on j).channels.filter
      (fun c => c.stateTopic = sensorTopic i s) =
      (on.filter fun t => sensorTopic j t = sensorTopic i s).map (sensorChannel j) := by
    intro j
    rw [apartmentThing, List.filter_map]
    rfl
  have hother : ∀ j, j ≠ i → on.filter (fun t => sensorTopic j t = sensorTopic i s) = [] := by
    intro j hj
    rw [List.filter_eq_nil_iff]
    intro t _ ht
    exact hj (sensorTopic_inj.mp (of_decide_eq_true ht)).1
  have hself : on.filter (fun t => sensorTopic i t = sensorTopic i s) =
      if s ∈ on then [s] else [] := by
    apply filter_eq_ite hon
    intro t
    rw [decide_eq_true_iff, sensorTopic_inj]
    exact and_iff_right rfl
  rw [flatMap_eq_ite h i fun j hj => by rw [hchannels, hother j hj]; rfl]
  by_cases hi : i ∈ apartments
  · rw [if_pos hi, hchannels, hself]
    by_cases hs : s ∈ on
    · rw [if_pos hs, if_pos ⟨hi, hs⟩]
      rfl
    · rw [if_neg hs, if_neg fun hand => hs hand.2]
      rfl
  · rw [if_neg hi, if_neg fun hand => hi hand.1]

/-- **The item that is linked to a sensor's channel** is the item of this apartment and
this sensor. -/
theorem linkedItems_sensorUid (h : apartments.Nodup) (i : ℕ) (s : Sensor) :
    linkedItems (houseItems apartments) (sensorUid i s) =
      if i ∈ apartments then [quantityItem i (.reading s)] else [] := by
  have hgroups : (apartments.map groupItem).filter
      (fun it => it.channel = some (sensorUid i s)) = [] := by
    rw [List.filter_eq_nil_iff]
    intro it hit
    obtain ⟨j, -, rfl⟩ := List.mem_map.mp hit
    simp [groupItem]
  have hitems : ∀ j, (Quantity.all.map (quantityItem j)).filter
      (fun it => it.channel = some (sensorUid i s)) =
      (Quantity.all.filter fun q => q.channel j = some (sensorUid i s)).map (quantityItem j) := by
    intro j
    rw [List.filter_map]
    rfl
  have hchannel : ∀ j (q : Quantity), q.channel j = some (sensorUid i s) ↔ j = i ∧ q = .reading s := by
    intro j q
    cases q <;> simp [Quantity.channel, sensorUid_inj]
  have hother : ∀ j, j ≠ i →
      Quantity.all.filter (fun q => q.channel j = some (sensorUid i s)) = [] := by
    intro j hj
    rw [List.filter_eq_nil_iff]
    intro q _ hq
    exact hj ((hchannel j q).mp (of_decide_eq_true hq)).1
  have hself : Quantity.all.filter (fun q => q.channel i = some (sensorUid i s)) =
      [.reading s] := by
    rw [filter_eq_ite Quantity.nodup_all (.reading s), if_pos (by cases s <;> decide)]
    intro q
    rw [decide_eq_true_iff, hchannel]
    exact and_iff_right rfl
  rw [linkedItems, houseItems, List.filter_cons_of_neg (by simp [houseItem]),
    List.filter_append, hgroups, List.nil_append, List.filter_flatMap,
    flatMap_eq_ite h i fun j hj => by rw [hitems, hother j hj]; rfl]
  by_cases hi : i ∈ apartments
  · rw [if_pos hi, if_pos hi, hitems, hself]
    rfl
  · rw [if_neg hi, if_neg hi]

/-- **A message on the topic of a sensor** reaches the item of this apartment and this
sensor, and no other, when the apartment exists and the sensor is switched on. -/
theorem delivered_sensorTopic (h : apartments.Nodup) (hon : on.Nodup) (i : ℕ) (s : Sensor) :
    delivered (houseBridge apartments on) (houseItems apartments) (sensorTopic i s) =
      if i ∈ apartments ∧ s ∈ on then [itemName i (.reading s)] else [] := by
  rw [delivered, listening_sensorTopic h hon]
  by_cases his : i ∈ apartments ∧ s ∈ on
  · rw [if_pos his, if_pos his, List.flatMap_singleton, linkedItems_sensorUid h, if_pos his.1]
    rfl
  · rw [if_neg his, if_neg his]
    rfl

end House

end OpenhabConfiguration.Interface
