import OpenhabConfiguration.Analysis.SensorRouting
import OpenhabConfiguration.Library.Accumulators

/-!
# Regenerating a file

The text is accumulated in static fields that are never reset, so a second successful call
of a builder writes its text behind that of the first. Which calls of a sequence write the
text of a first call: all of them, if no builder succeeds twice (`regenerates_iff`). The
only builder that may is `buildRules` when there is no apartment, since its text is empty.
-/

set_option autoImplicit false

namespace OpenhabConfiguration.Analysis

open Interface Model

/-! ## One more call -/

/-- The static fields of a virtual machine with the configuration `cfg`. -/
structure Configured (cfg : Config) (jvm : Jvm) : Prop where
  renders : ∀ file, jvm.Renders file
  number : jvm.rules.num = cfg.number

/-- A fresh virtual machine is configured. -/
theorem configured_fresh {cfg : Config} (hmax : cfg.number ≠ Int32.maxValue)
    (hqos : ValidQos cfg.qos) : Configured cfg (Jvm.fresh cfg) where
  renders file := Jvm.renders_fresh hmax file fun _ => hqos
  number := rfl

/-- A call that opens its file keeps the machine configured. -/
theorem Configured.next {cfg : Config} {jvm : Jvm} (h : Configured cfg jvm) (file : ConfigFile) :
    Configured cfg (jvm.next file) where
  renders other := Jvm.renders_next.mpr (h.renders other)
  number := by
    cases file <;> exact h.number

/-- The builders as a system of accumulators. -/
def buildersSystem (cfg : Config) : Accumulators.System Jvm ConfigFile String where
  inv := Configured cfg
  out := Jvm.rendered
  next := Jvm.next
  inv_next _ file h := h.next file
  frame jvm _ _ h := jvm.rendered_next_ne h

/-- The text of a builder grows with every call, except that of the rules when there is no
apartment. -/
def Grows (cfg : Config) (file : ConfigFile) : Prop := ¬ (file = .rules ∧ cfg.number ≤ 0)

/-- With an apartment there are rules. -/
theorem rulesText_length_pos {num : Int32} (h : 0 < num) :
    0 < (BuildRules.rulesText num).length := by
  have hletter : 'r' ∈ (BuildRules.rulesBlock (Nat.repr 1)).toList := by
    unfold BuildRules.rulesBlock BuildRules.costRule
    simp only [String.toList_append, List.append_assoc]
    exact List.mem_append_left _ (by decide)
  have hmem : 'r' ∈ (BuildRules.rulesText num).toList := by
    unfold BuildRules.rulesText
    rw [String.toList_join, List.flatMap_map]
    exact List.mem_flatMap.mpr ⟨1, one_mem_apartments h, hletter⟩
  rw [← String.length_toList]
  exact List.length_pos_of_mem hmem

/-- Without apartments there are no rules. -/
theorem rulesText_eq_empty {num : Int32} (h : num ≤ 0) : BuildRules.rulesText num = "" := by
  rw [BuildRules.rulesText, apartments_eq_nil h]
  rfl

/-- A text that is closed by a brace is longer than any text it begins with. -/
theorem length_lt_append_brace (s t u : String) : s.length < (s ++ t ++ u ++ "\x7d").length := by
  have hbrace : ("\x7d" : String).length = 1 := by decide
  simp only [String.length_append, hbrace]
  omega

/-- A text that grows is longer after the next call. -/
theorem rendered_length_lt {cfg : Config} {jvm : Jvm} {file : ConfigFile}
    (h : Configured cfg jvm) (hgrows : Grows cfg file) :
    (jvm.rendered file).length < ((jvm.next file).rendered file).length := by
  cases file with
  | items =>
      have hnow : jvm.rendered .items = jvm.items.groupHouse ++
          (jvm.items.groupApartments ++ BuildItems.groupsText jvm.items.NUM) ++
          (jvm.items.buildApartments ++ BuildItems.apartmentsText jvm.items.NUM) := rfl
      have hnext : (jvm.next .items).rendered .items = jvm.items.groupHouse ++
          (jvm.items.groupApartments ++ BuildItems.groupsText jvm.items.NUM ++
            BuildItems.groupsText jvm.items.NUM) ++
          (jvm.items.buildApartments ++ BuildItems.apartmentsText jvm.items.NUM ++
            BuildItems.apartmentsText jvm.items.NUM) := rfl
      have hpos : 0 < (BuildItems.groupsText jvm.items.NUM).length := by
        unfold BuildItems.groupsText
        have hcomment : 0 < ("// Group per apartment\n" : String).length := by decide
        simp only [String.length_append]
        omega
      rw [hnow, hnext]
      simp only [String.length_append]
      omega
  | things =>
      have hnext : (jvm.next .things).rendered .things = jvm.rendered .things ++
          BuildThings.bridgeHead jvm.things.ip jvm.things.qos ++
          (jvm.things.next.thingString ++ BuildThings.thingsText jvm.things) ++ "\x7d" := rfl
      exact hnext ▸ length_lt_append_brace _ _ _
  | rules =>
      have hnext : (jvm.next .rules).rendered .rules =
          jvm.rendered .rules ++ BuildRules.rulesText jvm.rules.num := rfl
      have hpos : 0 < jvm.rules.num := by
        rw [h.number]
        exact Int32.not_le.mp fun hle => hgrows ⟨rfl, hle⟩
      have hlen := rulesText_length_pos hpos
      rw [hnext, String.length_append]
      omega
  | sitemap =>
      have hnext : (jvm.next .sitemap).rendered .sitemap = jvm.rendered .sitemap ++
          "sitemap apartment label=\"Wohnräume\" \x7b" ++
          (jvm.sitemap.next.stringLables ++ BuildSitemap.lablesText jvm.sitemap.num) ++ "\x7d" := rfl
      exact hnext ▸ length_lt_append_brace _ _ _

/-- The rules of a house without apartments stay as they are. -/
theorem rendered_next_of_not_grows {cfg : Config} {jvm : Jvm} {file : ConfigFile}
    (h : Configured cfg jvm) (hquiet : ¬ Grows cfg file) :
    (jvm.next file).rendered file = jvm.rendered file := by
  obtain ⟨rfl, hnum⟩ := not_not.mp hquiet
  have hnext : (jvm.next .rules).rendered .rules =
      jvm.rendered .rules ++ BuildRules.rulesText jvm.rules.num := rfl
  rw [hnext, h.number, rulesText_eq_empty hnum, String.append_empty]

/-! ## Sequences of calls -/

/-- The files of the calls that open their file. -/
def opened (calls : List BuildCall) : List ConfigFile :=
  (calls.filter BuildCall.opens).map BuildCall.file

/-- The files that the calls have written, with their texts. -/
def written (calls : List BuildCall) (results : List (Option String)) :
    List (ConfigFile × String) :=
  (calls.zip results).filterMap fun p => p.2.map fun text => (p.1.file, text)

/-- **Every call that opens its file** returns the output of its builder; the other calls
return `false`. -/
theorem buildFiles_eq {cfg : Config} (calls : List BuildCall) {jvm : Jvm}
    (h : Configured cfg jvm) : ∃ jvm' results,
      Jvm.buildFiles calls jvm = some (results, jvm') ∧
      written calls results = (buildersSystem cfg).outputs (opened calls) jvm := by
  induction calls generalizing jvm with
  | nil => exact ⟨jvm, [], rfl, rfl⟩
  | cons call calls ih =>
      obtain ⟨file, opens⟩ := call
      cases opens with
      | false =>
          obtain ⟨jvm', results, hrun, hout⟩ := ih h
          refine ⟨jvm', none :: results, ?_, hout⟩
          simp only [Jvm.buildFiles, Method.bind_apply, Jvm.buildFile_false, Option.bind_some,
            hrun, Method.pure_apply]
      | true =>
          obtain ⟨jvm', results, hrun, hout⟩ := ih (h.next file)
          refine ⟨jvm', some (jvm.rendered file) :: results, ?_,
            congrArg (List.cons (file, jvm.rendered file)) hout⟩
          simp only [Jvm.buildFiles, Method.bind_apply, Jvm.buildFile_true (h.renders file),
            Option.bind_some, hrun, Method.pure_apply]

/-- For the greatest number no call that writes a file returns. -/
theorem written_maxValue {cfg : Config} (hmax : cfg.number = Int32.maxValue)
    (hqos : ValidQos cfg.qos) {calls : List BuildCall} {results : List (Option String)} {jvm : Jvm}
    (h : Jvm.buildFiles calls (Jvm.fresh cfg) = some (results, jvm)) :
    written calls results = [] := by
  induction calls generalizing results jvm with
  | nil => rfl
  | cons call calls ih =>
      obtain ⟨file, opens⟩ := call
      cases opens with
      | true =>
          simp only [Jvm.buildFiles, Method.bind_apply, buildFile_maxValue hmax file fun _ => hqos,
            Option.bind_none] at h
          cases h
      | false =>
          simp only [Jvm.buildFiles, Method.bind_apply, Jvm.buildFile_false, Option.bind_some,
            Option.bind_eq_some_iff, Method.pure_apply, Option.some.injEq, Prod.mk.injEq] at h
          obtain ⟨⟨rest, jvm'⟩, hrest, rfl, rfl⟩ := h
          exact ih hrest

/-- No item, Thing, rule or Frame is declared twice in a file. -/
def DeclaredOnce (file : ConfigFile) (text : String) : Prop :=
  match file with
  | .items => ∃ items, readItems text = some items ∧ (items.map Item.name).Nodup
  | .things => ∃ bridge, readThings text = some bridge ∧ (bridge.things.map Thing.id).Nodup
  | .rules => ∃ rules, readRules text = some rules ∧ (rules.map Rule.name).Nodup
  | .sitemap => ∃ sitemap, readSitemap text = some sitemap ∧
      (sitemap.frames.map Frame.label).Nodup

/-- The text of a first call declares nothing twice. -/
theorem declaredOnce_fileText (cfg : Config) (file : ConfigFile) :
    DeclaredOnce file (fileText cfg file) := by
  have hnodup := nodup_apartments cfg.number
  cases file with
  | items => exact ⟨_, readItems_items cfg, nodup_houseItems hnodup⟩
  | things => exact ⟨_, readThings_things cfg, nodup_houseThings hnodup _⟩
  | rules => exact ⟨_, readRules_rules cfg, nodup_houseRules hnodup⟩
  | sitemap => exact ⟨_, readSitemap_sitemap cfg, nodup_houseFrames hnodup⟩

/-- Every call that has written a file has written the text that a first call writes in a
fresh virtual machine, and has declared nothing twice. -/
def Regenerates (cfg : Config) (calls : List BuildCall) : Prop :=
  ∀ results jvm, Jvm.buildFiles calls (Jvm.fresh cfg) = some (results, jvm) →
    ∀ p ∈ written calls results, generated cfg p.1 = some p.2 ∧ DeclaredOnce p.1 p.2

/-- Below the largest `int`, regeneration is a matter of the accumulated texts. -/
theorem regenerates_iff_outputs {cfg : Config} (hmax : cfg.number ≠ Int32.maxValue)
    (hqos : ValidQos cfg.qos) (calls : List BuildCall) :
    Regenerates cfg calls ↔
      ∀ p ∈ (buildersSystem cfg).outputs (opened calls) (Jvm.fresh cfg), p.2 = fileText cfg p.1 := by
  obtain ⟨jvm, results, hrun, hout⟩ := buildFiles_eq calls (configured_fresh hmax hqos)
  have hgen : ∀ file, generated cfg file = some (fileText cfg file) := fun file =>
    generated_eq hmax file fun _ => hqos
  constructor
  · intro h p hp
    rw [← hout] at hp
    have htext := (h results jvm hrun p hp).1
    rw [hgen] at htext
    exact (Option.some.inj htext).symm
  · intro h results' jvm' hrun' p hp
    rw [hrun] at hrun'
    cases hrun'
    rw [hout] at hp
    rw [hgen, h p hp]
    exact ⟨rfl, declaredOnce_fileText cfg p.1⟩

/-- **Regeneration** writes the text of a first call at every successful call of a sequence
if and only if no builder succeeds twice, the rules without apartments apart; at the
largest `int`, where no call succeeds, there is nothing to regenerate. -/
theorem regenerates_iff (cfg : Config) (hqos : ValidQos cfg.qos) (calls : List BuildCall) :
    Regenerates cfg calls ↔ cfg.number = Int32.maxValue ∨
      ∀ file, (file = .rules ∧ cfg.number ≤ 0) ∨ (opened calls).count file ≤ 1 := by
  by_cases hmax : cfg.number = Int32.maxValue
  · refine iff_of_true (fun results jvm h p hp => ?_) (.inl hmax)
    rw [written_maxValue hmax hqos h] at hp
    cases hp
  · have hsystem := (buildersSystem cfg).outputs_const_iff String.length (Grows cfg)
      (fun _ _ => rendered_length_lt)
      (fun _ _ => rendered_next_of_not_grows) (opened calls) (configured_fresh hmax hqos)
    have hcond : (∀ file, Grows cfg file → (opened calls).count file ≤ 1) ↔
        ∀ file, (file = .rules ∧ cfg.number ≤ 0) ∨ (opened calls).count file ≤ 1 :=
      forall_congr' fun file => or_iff_not_imp_left.symm
    rw [regenerates_iff_outputs hmax hqos, or_iff_right hmax, ← hcond]
    exact hsystem

/-- One call of every builder, in the order of `sendFiles`, writes the texts of first
calls. -/
theorem regenerates_openHabIni :
    Regenerates openHabIni
      [⟨.items, true⟩, ⟨.things, true⟩, ⟨.rules, true⟩, ⟨.sitemap, true⟩] :=
  (regenerates_iff openHabIni (by decide) _).mpr
    (.inr fun file => .inr (by cases file <;> decide))

/-- The second call of `buildItemsFile` does not write the text of the first. -/
theorem not_regenerates_items_twice :
    ¬ Regenerates openHabIni [⟨.items, true⟩, ⟨.items, true⟩] := by
  have hmax : openHabIni.number ≠ Int32.maxValue := by decide
  have hqos : ValidQos openHabIni.qos := by decide
  have hfresh := configured_fresh hmax hqos
  have hgrows : Grows openHabIni .items := fun h => by cases h.1
  rw [regenerates_iff_outputs hmax hqos]
  intro hall
  -- the second of the two outputs
  have hsecond := hall _ (List.mem_cons_of_mem _ List.mem_cons_self)
  have hlen := rendered_length_lt hfresh hgrows
  rw [show ((Jvm.fresh openHabIni).next .items).rendered .items = fileText openHabIni .items
    from hsecond] at hlen
  exact Nat.lt_irrefl _ hlen

end OpenhabConfiguration.Analysis
