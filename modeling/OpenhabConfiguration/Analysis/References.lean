import OpenhabConfiguration.Analysis.SensorRouting

/-!
# References between the files of one configuration

Items, rules and Frames are printed by five loops in three classes, and refer to each
other by name. In the files of a first call the names are distinct, every reference is to
a declared item, and every item of an apartment is shown once, in the Frame of this
apartment (`references_closed`).
-/

set_option autoImplicit false

namespace OpenhabConfiguration.Analysis

open Interface Model

section House

variable {apartments : List ℕ} {i : ℕ}

/-- Every quantity of every apartment has its item. -/
theorem itemName_mem_names (hi : i ∈ apartments) (q : Quantity) :
    itemName i q ∈ (houseItems apartments).map Item.name := by
  rw [houseItems_names]
  refine List.mem_cons_of_mem _ (List.mem_append_right _ ?_)
  refine List.mem_flatMap.mpr ⟨i, hi, List.mem_map_of_mem ?_⟩
  rcases q with (_ | _ | _ | _) | _ | _ <;> decide

/-- The groups in the group list of an item are declared as groups. -/
theorem groups_declared {it : Item} (hit : it ∈ houseItems apartments) {g : String}
    (hg : g ∈ it.groups) : ∃ it' ∈ houseItems apartments, it'.name = g ∧ it'.type = "Group" := by
  have hhouse : ∃ it' ∈ houseItems apartments, it'.name = "House" ∧ it'.type = "Group" :=
    ⟨houseItem, List.mem_cons_self, rfl, rfl⟩
  rcases List.mem_cons.mp hit with rfl | hit
  · cases hg
  rcases List.mem_append.mp hit with hit | hit
  · obtain ⟨i, -, rfl⟩ := List.mem_map.mp hit
    obtain rfl : g = "House" := List.mem_singleton.mp hg
    exact hhouse
  · obtain ⟨i, hi, hit⟩ := List.mem_flatMap.mp hit
    obtain ⟨q, -, rfl⟩ := List.mem_map.mp hit
    have hor : g = "House" ∨ g = groupName i := by simpa [quantityItem] using hg
    rcases hor with rfl | rfl
    · exact hhouse
    · exact ⟨groupItem i, List.mem_cons_of_mem _ (List.mem_append_left _ (List.mem_map_of_mem hi)),
        rfl, rfl⟩

/-- A rule of an apartment refers to items of this apartment only. -/
theorem rule_items {r : Rule} (hr : r ∈ [electricityCosts i, burningAlarm i]) {x : String}
    (hx : x ∈ r.items) : ∃ q : Quantity, x = itemName i q := by
  simp only [List.mem_cons, List.not_mem_nil, or_false] at hr
  rcases hr with rfl | rfl
  · have hor : x ∈ [itemName i (.reading .electricity), itemName i .cost,
        itemName i (.reading .electricity)] := hx
    simp only [List.mem_cons, List.not_mem_nil, or_false] at hor
    rcases hor with rfl | rfl | rfl <;> exact ⟨_, rfl⟩
  · have hor : x ∈ [itemName i (.reading .co2), itemName i (.reading .co2),
        itemName i (.reading .temperature), itemName i .fire] := hx
    simp only [List.mem_cons, List.not_mem_nil, or_false] at hor
    rcases hor with rfl | rfl | rfl | rfl <;> exact ⟨_, rfl⟩

/-- A Frame shows the items of one apartment, the one in its label. -/
theorem mem_frame_items {f : Frame} (hf : f ∈ (houseSitemap apartments).frames) (i : ℕ)
    (q : Quantity) : itemName i q ∈ f.items ↔ f.label = "Wohnraum " ++ Nat.repr i := by
  obtain ⟨j, -, rfl⟩ := List.mem_map.mp hf
  have hlabel : (apartmentFrame j).label = "Wohnraum " ++ Nat.repr i ↔ j = i := numbered_last_inj
  rw [hlabel, apartmentFrame, List.mem_map]
  constructor
  · rintro ⟨r, -, hr⟩
    exact (itemName_inj.mp hr).1
  · rintro rfl
    exact ⟨q, by rcases q with (_ | _ | _ | _) | _ | _ <;> decide, rfl⟩

/-- The sitemap shows the items of all apartments, in their order. -/
theorem houseSitemap_shown (apartments : List ℕ) :
    (houseSitemap apartments).shown = apartments.flatMap fun i => Quantity.all.map (itemName i) := by
  rw [Sitemap.shown, houseSitemap, List.flatMap_map]
  rfl

/-- The items of an apartment are declared in a house that has the apartment. -/
theorem itemName_mem_names_iff {q : Quantity} :
    itemName i q ∈ (houseItems apartments).map Item.name ↔ i ∈ apartments := by
  refine ⟨fun h => ?_, fun hi => itemName_mem_names hi q⟩
  rw [houseItems_names] at h
  rcases List.mem_cons.mp h with h | h
  · exact absurd h.symm (house_ne_itemName i q)
  rcases List.mem_append.mp h with h | h
  · obtain ⟨j, -, hj⟩ := List.mem_map.mp h
    exact absurd hj (groupName_ne_itemName j i q)
  · obtain ⟨j, hj, h⟩ := List.mem_flatMap.mp h
    obtain ⟨r, -, hr⟩ := List.mem_map.mp h
    rwa [← (itemName_inj.mp hr).1]

/-- The rules of one house refer to the items of another one. -/
theorem rules_declared_iff {others : List ℕ} :
    (∀ r ∈ houseRules others, ∀ x ∈ r.items, x ∈ (houseItems apartments).map Item.name) ↔
      others ⊆ apartments := by
  constructor
  · intro h i hi
    have hrule : electricityCosts i ∈ houseRules others :=
      List.mem_flatMap.mpr ⟨i, hi, List.mem_cons_self⟩
    exact itemName_mem_names_iff.mp (h _ hrule (itemName i (.reading .electricity))
      List.mem_cons_self)
  · intro hsub r hr x hx
    obtain ⟨i, hi, hr⟩ := List.mem_flatMap.mp hr
    obtain ⟨q, rfl⟩ := rule_items hr hx
    exact itemName_mem_names (hsub hi) q

/-- The sitemap of one house shows the items of another one. -/
theorem shown_declared_iff {others : List ℕ} :
    (∀ x ∈ (houseSitemap others).shown, x ∈ (houseItems apartments).map Item.name) ↔
      others ⊆ apartments := by
  constructor
  · intro h i hi
    exact itemName_mem_names_iff.mp (h _ (itemName_mem_shown hi .cost))
  · intro hsub x hx
    rw [houseSitemap_shown] at hx
    obtain ⟨i, hi, hx⟩ := List.mem_flatMap.mp hx
    obtain ⟨q, -, rfl⟩ := List.mem_map.mp hx
    exact itemName_mem_names (hsub hi) q

end House

/-- **References are closed and names unique.** In the files of a first call, the names of
the items file are pairwise distinct, and so are the rule names; every item a rule or the
sitemap refers to is declared, and every group in a group list is declared as a group; every
item of every apartment is shown once, in the Frame of this apartment. -/
theorem references_closed (cfg : Config) (hmax : cfg.number ≠ Int32.maxValue) :
    ∃ items rules sitemap, itemsOf cfg = some items ∧ rulesOf cfg = some rules ∧
      sitemapOf cfg = some sitemap ∧
      (items.map Item.name).Nodup ∧ (rules.map Rule.name).Nodup ∧
      (∀ r ∈ rules, ∀ x ∈ r.items, x ∈ items.map Item.name) ∧
      (∀ x ∈ sitemap.shown, x ∈ items.map Item.name) ∧
      (∀ it ∈ items, ∀ g ∈ it.groups, ∃ it' ∈ items, it'.name = g ∧ it'.type = "Group") ∧
      ∀ i ∈ apartments cfg.number, ∀ q : Quantity, sitemap.shown.count (itemName i q) = 1 ∧
        ∀ f ∈ sitemap.frames, itemName i q ∈ f.items ↔ f.label = "Wohnraum " ++ Nat.repr i := by
  have hnodup := nodup_apartments cfg.number
  refine ⟨_, _, _, itemsOf_eq hmax, rulesOf_eq hmax, sitemapOf_eq hmax, nodup_houseItems hnodup,
    nodup_houseRules hnodup, ?_, ?_, ?_, ?_⟩
  · exact rules_declared_iff.mpr (List.Subset.refl _)
  · exact shown_declared_iff.mpr (List.Subset.refl _)
  · intro it hit g hg
    exact groups_declared hit hg
  · intro i hi q
    refine ⟨List.count_eq_one_of_mem ?_ (itemName_mem_shown hi q), fun f hf => mem_frame_items hf i q⟩
    rw [houseSitemap_shown]
    exact nodup_itemNames hnodup

/-- The items file of the repository's configuration declares no item twice. -/
theorem references_closed_openHabIni :
    ∃ items, itemsOf openHabIni = some items ∧ (items.map Item.name).Nodup := by
  obtain ⟨items, -, -, hitems, -, -, hnodup, -⟩ := references_closed openHabIni (by decide)
  exact ⟨items, hitems, hnodup⟩

end OpenhabConfiguration.Analysis
