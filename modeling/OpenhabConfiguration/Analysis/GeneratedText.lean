import OpenhabConfiguration.Model.BuildFiles

/-!
# The text a builder writes

What one call of each builder writes and leaves in the static fields, for every state of
the fields (`buildItemsFile_eq`, `buildThingsFile_eq`, `buildRulesFile_eq`,
`buildSitemapFile_eq`): the accumulated text so far, with the text for the apartments
`1, …, num` appended. At the largest `int` a call that opens its file never returns
(`buildFile_maxValue`).

`Jvm.rendered` is what a call writes in any state of the four classes. `generated cfg file`
is the text of the first call in a fresh virtual machine, and `fileText cfg file` its
closed form (`generated_eq`).
-/

set_option autoImplicit false

namespace OpenhabConfiguration.Model

open CountedLoop

/-- The numbers of the apartments a loop up to `num` runs through. -/
def apartments (num : Int32) : List ℕ := List.range' 1 num.toNatClampNeg

/-- The apartments are numbered from 1 on. -/
theorem mem_apartments {num : Int32} {i : ℕ} :
    i ∈ apartments num ↔ 1 ≤ i ∧ i ≤ num.toNatClampNeg := by
  rw [apartments, List.mem_range'_1]
  omega

/-- There are no apartments for a number that is not positive. -/
theorem apartments_eq_nil {num : Int32} (h : num ≤ 0) : apartments num = [] := by
  have hint := Int32.le_iff_toInt_le.mp h
  rw [Int32.toInt_zero] at hint
  rw [apartments, Int32.toNatClampNeg, Int.toNat_of_nonpos hint]
  rfl

/-- A house with apartments has a first one. -/
theorem one_mem_apartments {num : Int32} (h : 0 < num) : 1 ∈ apartments num := by
  rw [mem_apartments, Int32.toNatClampNeg]
  have hint := Int32.lt_iff_toInt_lt.mp h
  rw [Int32.toInt_zero] at hint
  omega

/-- No apartment is counted twice. -/
theorem nodup_apartments (num : Int32) : (apartments num).Nodup :=
  List.nodup_range'

/-- A `qos` that `buildBridge` accepts.
SOURCE: buildThings.java:41 -/
def ValidQos (qos : Int32) : Prop := qos = 0 ∨ qos = 1 ∨ qos = 2

instance (qos : Int32) : Decidable (ValidQos qos) :=
  inferInstanceAs (Decidable (qos = 0 ∨ qos = 1 ∨ qos = 2))

/-! ## Running a method -/

section Method

variable {σ α β : Type}

/-- One method after another, on the static fields that the first has left. -/
@[simp] theorem Method.bind_apply (x : Method σ α) (f : α → Method σ β) (st : σ) :
    (x >>= f) st = (x st).bind fun r => f r.1 r.2 := rfl

/-- Returning a value leaves the static fields as they are. -/
@[simp] theorem Method.pure_apply (a : α) (st : σ) :
    (pure a : Method σ α) st = some (a, st) := rfl

/-- A function of the returned value leaves the static fields alone. -/
@[simp] theorem Method.map_apply (f : α → β) (x : Method σ α) (st : σ) :
    (f <$> x) st = (x st).map fun r => (f r.1, r.2) := by
  show (x st).bind (fun r => some (f r.1, r.2)) = _
  cases x st <;> rfl

/-- Reading the static fields leaves them as they are. -/
@[simp] theorem Method.get_apply (st : σ) : (get : Method σ σ) st = some (st, st) := rfl

/-- Assigning to the static fields. -/
@[simp] theorem Method.modify_apply (f : σ → σ) (st : σ) :
    (modify f : Method σ PUnit) st = some (PUnit.unit, f st) := rfl

/-- A file that does not open: nothing is generated. -/
@[simp] theorem writeFile_false (text : Method σ String) (st : σ) :
    writeFile false text st = some (none, st) := rfl

/-- A file that opens gets the text of the method. -/
@[simp] theorem writeFile_true (text : Method σ String) (st : σ) :
    writeFile true text st = (text st).map fun r => (some r.1, r.2) := by
  simp [writeFile]

end Method

/-! ## `buildItems` -/

namespace BuildItems

/-- The lines of the groups, between a comment and an empty line. -/
def groupsText (num : Int32) : String :=
  "// Group per apartment\n" ++
    String.join ((apartments num).map fun i => groupLine (Nat.repr i)) ++ "\n"

/-- The items of all apartments. -/
def apartmentsText (num : Int32) : String :=
  String.join ((apartments num).map fun i => apartmentBlock (Nat.repr i))

/-- The static fields after a call of `buildItemsFile` that opens its file. -/
def next (st : BuildItems) : BuildItems :=
  { st with
    groupApartments := st.groupApartments ++ groupsText st.NUM
    buildApartments := st.buildApartments ++ apartmentsText st.NUM }

/-- What such a call writes. -/
def written (st : BuildItems) : String :=
  st.groupHouse ++ st.next.groupApartments ++ st.next.buildApartments

/-- The method appends the lines of the groups to what it has accumulated. -/
theorem getGroupApartments_eq {st : BuildItems} (h : st.NUM ≠ Int32.maxValue) :
    getGroupApartments st = some (st.groupApartments ++ groupsText st.NUM,
      { st with groupApartments := st.groupApartments ++ groupsText st.NUM }) := by
  unfold groupsText
  simp only [getGroupApartments, forTo_append h groupLine, Option.bind_eq_bind,
    Option.bind_some, Option.pure_def, apartments, String.append_assoc]

/-- The method appends the items to what it has accumulated. -/
theorem getBuildApartments_eq {st : BuildItems} (h : st.NUM ≠ Int32.maxValue) :
    getBuildApartments st = some (st.buildApartments ++ apartmentsText st.NUM,
      { st with buildApartments := st.buildApartments ++ apartmentsText st.NUM }) := by
  simp only [getBuildApartments, forTo_append h apartmentBlock, Option.bind_eq_bind,
    Option.bind_some, Option.pure_def, apartmentsText, apartments]

/-- A call of `buildItemsFile` that opens its file appends one round of groups and
apartments to the static fields and writes all of both. -/
theorem buildItemsFile_eq {st : BuildItems} (h : st.NUM ≠ Int32.maxValue) :
    buildItemsFile true st = some (some st.written, st.next) := by
  have happ := @getBuildApartments_eq
    { st with groupApartments := st.groupApartments ++ groupsText st.NUM } h
  simp [buildItemsFile, getGroupApartments_eq h, happ, written, next]

/-- For the greatest number the loop over the groups is not left. -/
theorem buildItemsFile_maxValue {st : BuildItems} (h : st.NUM = Int32.maxValue) :
    buildItemsFile true st = none := by
  simp [buildItemsFile, getGroupApartments, h, forTo_maxValue]

end BuildItems

/-! ## `buildThings` -/

namespace BuildThings

/-- The Thing of one apartment, with the channels that are switched on. -/
def thingBlock (st : BuildThings) (i : String) : String :=
  thingHead i ++ ((if st.temp then temperatureChannel i else "") ++
    ((if st.hum then humidityChannel i else "") ++
      ((if st.elec then electricityChannel i else "") ++
        ((if st.co2 then co2Channel i else "") ++ "    \x7d\n\n"))))

/-- The Things of all apartments. -/
def thingsText (st : BuildThings) : String :=
  String.join ((apartments st.num).map fun i => thingBlock st (Nat.repr i))

/-- The static fields after a call of `buildThingsFile` that opens its file. -/
def next (st : BuildThings) : BuildThings :=
  { st with
    bridgeString := st.bridgeString ++ bridgeHead st.ip st.qos ++
      (st.thingString ++ thingsText st) ++ "\x7d"
    thingString := st.thingString ++ thingsText st }

/-- One round of the loop appends the Thing of one apartment. -/
theorem thingRound_eq (st : BuildThings) (i s : String) :
    thingRound st i s = s ++ thingBlock st i := by
  unfold thingRound thingBlock
  cases st.temp <;> cases st.hum <;> cases st.elec <;> cases st.co2 <;>
    simp only [Bool.false_eq_true, if_true, if_false, String.append_assoc, String.empty_append]

/-- The method appends the Things to what it has accumulated. -/
theorem buildThings_eq {st : BuildThings} (h : st.num ≠ Int32.maxValue) :
    buildThings st = some (st.thingString ++ thingsText st,
      { st with thingString := st.thingString ++ thingsText st }) := by
  simp only [buildThings, thingRound_eq, forTo_append h (thingBlock st), Option.bind_eq_bind,
    Option.bind_some, Option.pure_def, thingsText, apartments]

/-- For a valid `qos` the Bridge is rendered around all Things accumulated so far. -/
theorem buildBridge_eq {st : BuildThings} (h : st.num ≠ Int32.maxValue)
    (hqos : ValidQos st.qos) :
    buildBridge st = some (some st.next.bridgeString, st.next) := by
  have hguard : st.qos = 0 ∨ st.qos = 1 ∨ st.qos = 2 := hqos
  simp only [buildBridge, Method.bind_apply, Method.get_apply, Option.bind_some, if_pos hguard,
    buildThings_eq h, Method.modify_apply, Method.pure_apply, next]

/-- For any other `qos` the method returns `null` and accumulates nothing. -/
theorem buildBridge_eq_null {st : BuildThings} (hqos : ¬ ValidQos st.qos) :
    buildBridge st = some (none, st) := by
  have hguard : ¬ (st.qos = 0 ∨ st.qos = 1 ∨ st.qos = 2) := hqos
  simp only [buildBridge, Method.bind_apply, Method.get_apply, Option.bind_some, if_neg hguard,
    Method.pure_apply]

/-- A call of `buildThingsFile` that opens its file appends one more Bridge block, with
the Things of all calls so far, and writes all of it. -/
theorem buildThingsFile_eq {st : BuildThings} (h : st.num ≠ Int32.maxValue)
    (hqos : ValidQos st.qos) :
    buildThingsFile true st = some (some st.next.bridgeString, st.next) := by
  simp only [buildThingsFile, writeFile_true, Method.map_apply, buildBridge_eq h hqos,
    Option.map_some, print, Option.getD_some]

/-- For the greatest number the loop over the Things is not left. -/
theorem buildThingsFile_maxValue {st : BuildThings} (h : st.num = Int32.maxValue)
    (hqos : ValidQos st.qos) : buildThingsFile true st = none := by
  have hthings : buildThings st = none := by
    simp only [buildThings, h, forTo_maxValue, Option.bind_eq_bind, Option.bind_none]
  have hguard : st.qos = 0 ∨ st.qos = 1 ∨ st.qos = 2 := hqos
  simp only [buildThingsFile, writeFile_true, Method.map_apply, buildBridge, Method.bind_apply,
    Method.get_apply, Option.bind_some, if_pos hguard, hthings, Option.bind_none,
    Option.map_none]

end BuildThings

/-! ## `buildRules` -/

namespace BuildRules

/-- The two rules of an apartment. -/
def rulesBlock (i : String) : String := costRule i ++ alarmRule i

/-- The rules of all apartments. -/
def rulesText (num : Int32) : String :=
  String.join ((apartments num).map fun i => rulesBlock (Nat.repr i))

/-- The static fields after a call of `buildRulesFile` that opens its file. -/
def next (st : BuildRules) : BuildRules :=
  { st with stringRules := st.stringRules ++ rulesText st.num }

/-- A call of `buildRulesFile` that opens its file appends one round of rules and writes
the rules of all calls so far. -/
theorem buildRulesFile_eq {st : BuildRules} (h : st.num ≠ Int32.maxValue) :
    buildRulesFile true st = some (some st.next.stringRules, st.next) := by
  have hround : (fun (i : Int32) (s : String) =>
      (s ++ costRule (toString i)) ++ alarmRule (toString i)) =
      fun i s => s ++ rulesBlock (toString i) := by
    funext i s
    rw [rulesBlock, String.append_assoc]
  simp only [buildRulesFile, writeFile_true, buildRules, hround, forTo_append h rulesBlock,
    Option.bind_eq_bind, Option.bind_some, Option.pure_def, Option.map_some, next, rulesText,
    apartments]

/-- For the greatest number the loop over the rules is not left. -/
theorem buildRulesFile_maxValue {st : BuildRules} (h : st.num = Int32.maxValue) :
    buildRulesFile true st = none := by
  simp only [buildRulesFile, writeFile_true, buildRules, h, forTo_maxValue,
    Option.bind_eq_bind, Option.bind_none, Option.map_none]

end BuildRules

/-! ## `buildSitemap` -/

namespace BuildSitemap

/-- The Frames of all apartments. -/
def lablesText (num : Int32) : String :=
  String.join ((apartments num).map fun i => frameBlock (Nat.repr i))

/-- The static fields after a call of `buildSitemapFile` that opens its file. -/
def next (st : BuildSitemap) : BuildSitemap :=
  { st with
    stringSitemap := st.stringSitemap ++ "sitemap apartment label=\"Wohnräume\" \x7b" ++
      (st.stringLables ++ lablesText st.num) ++ "\x7d"
    stringLables := st.stringLables ++ lablesText st.num }

/-- The method appends the Frames to what it has accumulated. -/
theorem buildLables_eq {st : BuildSitemap} (h : st.num ≠ Int32.maxValue) :
    buildLables st = some (st.stringLables ++ lablesText st.num,
      { st with stringLables := st.stringLables ++ lablesText st.num }) := by
  simp only [buildLables, forTo_append h frameBlock, Option.bind_eq_bind, Option.bind_some,
    Option.pure_def, lablesText, apartments]

/-- A call of `buildSitemapFile` that opens its file appends one more sitemap block, with
the Frames of all calls so far, and writes all of it. -/
theorem buildSitemapFile_eq {st : BuildSitemap} (h : st.num ≠ Int32.maxValue) :
    buildSitemapFile true st = some (some st.next.stringSitemap, st.next) := by
  simp only [buildSitemapFile, writeFile_true, buildSitemap, Method.bind_apply,
    Method.get_apply, Option.bind_some, buildLables_eq h, Method.modify_apply,
    Method.pure_apply, Option.map_some, next]

/-- For the greatest number the loop over the Frames is not left. -/
theorem buildSitemapFile_maxValue {st : BuildSitemap} (h : st.num = Int32.maxValue) :
    buildSitemapFile true st = none := by
  have hlables : buildLables st = none := by
    simp only [buildLables, h, forTo_maxValue, Option.bind_eq_bind, Option.bind_none]
  simp only [buildSitemapFile, writeFile_true, buildSitemap, Method.bind_apply,
    Method.get_apply, Option.bind_some, hlables, Option.bind_none, Option.map_none]

end BuildSitemap

/-! ## A call in any state of the virtual machine -/

/-- A call that opens `file` ends with a text: the loop is left, and a Bridge can be
rendered.
SOURCE: buildThings.java:41 -/
def Jvm.Renders (jvm : Jvm) : ConfigFile → Prop
  | .items => jvm.items.NUM ≠ Int32.maxValue
  | .things => jvm.things.num ≠ Int32.maxValue ∧ ValidQos jvm.things.qos
  | .rules => jvm.rules.num ≠ Int32.maxValue
  | .sitemap => jvm.sitemap.num ≠ Int32.maxValue

/-- What a call that opens its file writes. -/
def Jvm.rendered (jvm : Jvm) : ConfigFile → String
  | .items => jvm.items.written
  | .things => jvm.things.next.bridgeString
  | .rules => jvm.rules.next.stringRules
  | .sitemap => jvm.sitemap.next.stringSitemap

/-- The static fields such a call leaves. -/
def Jvm.next (jvm : Jvm) : ConfigFile → Jvm
  | .items => { jvm with items := jvm.items.next }
  | .things => { jvm with things := jvm.things.next }
  | .rules => { jvm with rules := jvm.rules.next }
  | .sitemap => { jvm with sitemap := jvm.sitemap.next }

/-- **A call that opens its file** returns with the accumulated text. -/
theorem Jvm.buildFile_true {jvm : Jvm} {file : ConfigFile} (h : jvm.Renders file) :
    jvm.buildFile file true = some (some (jvm.rendered file), jvm.next file) := by
  cases file with
  | items => simp only [Jvm.buildFile, BuildItems.buildItemsFile_eq h]; rfl
  | things => simp only [Jvm.buildFile, BuildThings.buildThingsFile_eq h.1 h.2]; rfl
  | rules => simp only [Jvm.buildFile, BuildRules.buildRulesFile_eq h]; rfl
  | sitemap => simp only [Jvm.buildFile, BuildSitemap.buildSitemapFile_eq h]; rfl

/-- A call whose loop is never left does not return. -/
theorem Jvm.buildFile_never {jvm : Jvm} {file : ConfigFile} (h : ¬ jvm.Renders file)
    (hqos : file = .things → ValidQos jvm.things.qos) : jvm.buildFile file true = none := by
  cases file with
  | items =>
      rw [Jvm.buildFile, BuildItems.buildItemsFile_maxValue (not_not.mp h)]
      rfl
  | things =>
      have hmax : jvm.things.num = Int32.maxValue := by
        by_contra hne
        exact h ⟨hne, hqos rfl⟩
      rw [Jvm.buildFile, BuildThings.buildThingsFile_maxValue hmax (hqos rfl)]
      rfl
  | rules =>
      rw [Jvm.buildFile, BuildRules.buildRulesFile_maxValue (not_not.mp h)]
      rfl
  | sitemap =>
      rw [Jvm.buildFile, BuildSitemap.buildSitemapFile_maxValue (not_not.mp h)]
      rfl

/-- A call that does not open its file writes nothing and changes no field. -/
theorem Jvm.buildFile_false (jvm : Jvm) (file : ConfigFile) :
    jvm.buildFile file false = some (none, jvm) := by
  cases file <;> rfl

/-- What a call renders does not depend on the accumulated text. -/
theorem Jvm.renders_next {jvm : Jvm} {file other : ConfigFile} :
    (jvm.next file).Renders other ↔ jvm.Renders other := by
  cases file <;> cases other <;> rfl

/-- A builder has no part in the text of another one. -/
theorem Jvm.rendered_next_ne (jvm : Jvm) {file other : ConfigFile} (h : other ≠ file) :
    (jvm.next file).rendered other = jvm.rendered other := by
  cases file <;> cases other <;> first | rfl | exact absurd rfl h

/-! ## The text of a first call -/

/-- The text the first call of the builder of `file` writes in a fresh virtual machine,
if that call ever returns. -/
def generated (cfg : Config) (file : ConfigFile) : Option String :=
  ((Jvm.fresh cfg).buildFile file true).bind fun r => r.1

/-- The closed form of that text. -/
def fileText (cfg : Config) (file : ConfigFile) : String := (Jvm.fresh cfg).rendered file

variable {cfg : Config}

/-- The files of a configuration below the largest `int` are rendered; the things file
also needs a `qos` that is accepted. -/
theorem Jvm.renders_fresh (h : cfg.number ≠ Int32.maxValue) (file : ConfigFile)
    (hqos : file = .things → ValidQos cfg.qos) : (Jvm.fresh cfg).Renders file := by
  cases file with
  | items => exact h
  | things => exact ⟨h, hqos rfl⟩
  | rules => exact h
  | sitemap => exact h

/-- **Below the largest `int`** the first call of a builder returns, and has written its
closed form. -/
theorem generated_eq (h : cfg.number ≠ Int32.maxValue) (file : ConfigFile)
    (hqos : file = .things → ValidQos cfg.qos) :
    generated cfg file = some (fileText cfg file) := by
  rw [generated, Jvm.buildFile_true (Jvm.renders_fresh h file hqos)]
  rfl

/-- **At the largest `int`** no first call that opens its file ever returns. -/
theorem buildFile_maxValue (h : cfg.number = Int32.maxValue) (file : ConfigFile)
    (hqos : file = .things → ValidQos cfg.qos) :
    (Jvm.fresh cfg).buildFile file true = none := by
  apply Jvm.buildFile_never _ hqos
  intro hrenders
  cases file with
  | items => exact hrenders h
  | things => exact hrenders.1 h
  | rules => exact hrenders h
  | sitemap => exact hrenders h

/-- What a first call generates is the closed form, and the number is not the greatest one. -/
theorem eq_fileText {file : ConfigFile} {text : String} (h : generated cfg file = some text)
    (hqos : file = .things → ValidQos cfg.qos) :
    cfg.number ≠ Int32.maxValue ∧ text = fileText cfg file := by
  by_cases hmax : cfg.number = Int32.maxValue
  · rw [generated, buildFile_maxValue hmax file hqos] at h
    cases h
  · rw [generated_eq hmax file hqos] at h
    exact ⟨hmax, (Option.some.inj h).symm⟩

end OpenhabConfiguration.Model
