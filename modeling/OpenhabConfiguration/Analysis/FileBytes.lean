import OpenhabConfiguration.Analysis.FileWrites

/-!
# The bytes of the four files

A builder writes in the default charset of the platform it runs on, and openHAB reads
UTF-8. What comes back is the text that has been generated exactly when the default
charset is UTF-8 or the text is ASCII (`means_text_of_renders`). Which texts are ASCII is a
matter of the configuration, whatever the builders have been called for before
(`ascii_rendered_iff`): the rules always are and the sitemap never is.
-/

set_option autoImplicit false

namespace OpenhabConfiguration.Analysis

open BufferedWriter Charsets Model

/-! ## Writing and reading -/

/-- A text comes back from UTF-8, and from the other charsets when it is ASCII. -/
theorem decode_encode_iff (d : Decoder) (charset : DefaultCharset) (text : List Char) :
    d.decode (charset.encode text) = some text ↔ charset = .utf8 ∨ Ascii text := by
  cases charset with
  | utf8 => exact iff_of_true (decode_utf8 d text) (.inl rfl)
  | iso88591 =>
      rw [or_iff_right DefaultCharset.noConfusion]
      exact latin1.decode_map_encode_iff d text
  | windows1252 =>
      rw [or_iff_right DefaultCharset.noConfusion]
      exact windows1252.decode_map_encode_iff d text

/-- A decoder that replaces every malformed byte. -/
def replacing : Decoder where
  malformed := .replace
  covers _ := 0

/-- In windows-1252 an umlaut is a byte at which no character begins. -/
example : replacing.decode (DefaultCharset.windows1252.encode "Wohnräume".toList) =
    some "Wohnr\uFFFDume".toList := by decide

/-- A file that takes everything, behind a buffer of any size. -/
def takingDisk (bufferSize : ℕ) : Disk := { goodDisk with bufferSize := bufferSize }

/-- When a builder returns `true`, its file has bytes that are read as the text that the
call generates. -/
def MeansText (d : Decoder) (charset : DefaultCharset) (jvm : Jvm) (file : ConfigFile) : Prop :=
  ∀ bufferSize old contents jvm',
    jvm.writeBytes charset (takingDisk bufferSize) file old = some ((true, contents), jvm') →
    ∃ bytes text, contents = some bytes ∧ textOf jvm file = some text ∧
      d.decode bytes = some text.toList

variable {d : Decoder} {charset : DefaultCharset} {jvm : Jvm} {file : ConfigFile}

/-- **A call of a builder on a disk that takes everything** leaves the encoded text. -/
theorem writeBytes_eq (charset : DefaultCharset) (jvm : Jvm) (file : ConfigFile)
    (bufferSize : ℕ) (old : Option (List UInt8)) :
    jvm.writeBytes charset (takingDisk bufferSize) file old =
      (jvm.buildFile file true).map fun r =>
        match r.1 with
        | none => ((false, old), r.2)
        | some text => ((true, some (charset.encode text.toList)), r.2) := by
  have hkeeps : ∀ n, Keeps (takingDisk bufferSize) n := fun n => ⟨nofun, nofun, nofun⟩
  have hopens : (takingDisk bufferSize).opens = true := rfl
  rw [Jvm.writeBytes, Method.bind_apply, Jvm.writeFile_eq, hopens]
  obtain _ | ⟨_ | text, jvm'⟩ := jvm.buildFile file true
  · rfl
  · rfl
  · simp only [Option.map_some, (stored_eq_iff _ _).mpr (hkeeps _), String.ofList_toList,
      Option.bind_some, Method.pure_apply, if_true]

/-- A builder that ends has its file read back in UTF-8, or else if the text is ASCII. -/
theorem means_text_of_renders (h : jvm.Renders file) :
    MeansText d charset jvm file ↔ charset = .utf8 ∨ Ascii (jvm.rendered file).toList := by
  have hcall : ∀ bufferSize old, jvm.writeBytes charset (takingDisk bufferSize) file old =
      some ((true, some (charset.encode (jvm.rendered file).toList)), jvm.next file) := by
    intro bufferSize old
    rw [writeBytes_eq, Jvm.buildFile_true h]
    rfl
  have htext := textOf_of_buildFile (Jvm.buildFile_true h)
  rw [← decode_encode_iff d]
  constructor
  · intro hmeans
    obtain ⟨bytes, text, hbytes, htext', hread⟩ := hmeans 0 none _ _ (hcall 0 none)
    rw [htext] at htext'
    cases htext'
    cases hbytes
    exact hread
  · intro hread bufferSize old contents jvm' h'
    rw [hcall] at h'
    cases h'
    exact ⟨_, _, rfl, htext, hread⟩

/-- A call that never returns leaves nothing to read. -/
theorem means_text_of_never (h : ¬ jvm.Renders file)
    (hqos : file = .things → ValidQos jvm.things.qos) : MeansText d charset jvm file := by
  intro bufferSize old contents jvm' hcall
  rw [writeBytes_eq, Jvm.buildFile_never h hqos] at hcall
  cases hcall

/-! ## ASCII blocks -/

section Blocks

variable {i : String}

/-- The line of a group is ASCII. -/
theorem ascii_groupLine (h : Ascii i.toList) : Ascii (BuildItems.groupLine i).toList := by
  unfold BuildItems.groupLine
  simp only [String.toList_append, ascii_append]
  and_intros <;> first | with_reducible exact h | exact ascii_ofList.mpr (by decide)

/-- The unit of the temperature has a degree sign. -/
theorem not_ascii_apartmentBlock (i : String) : ¬ Ascii (BuildItems.apartmentBlock i).toList := by
  unfold BuildItems.apartmentBlock
  intro h
  simp only [String.append_assoc, String.toList_append, ascii_append] at h
  obtain ⟨-, -, -, -, -, htemperature, -⟩ := h
  exact absurd (ascii_ofList.mp htemperature) (by decide)

/-- The head of a Thing is ASCII. -/
theorem ascii_thingHead (h : Ascii i.toList) : Ascii (BuildThings.thingHead i).toList := by
  unfold BuildThings.thingHead
  simp only [String.toList_append, ascii_append]
  and_intros <;> first | with_reducible exact h | exact ascii_ofList.mpr (by decide)

/-- The channels are ASCII but for the one of the electricity. -/
theorem ascii_otherChannels (h : Ascii i.toList) :
    Ascii (BuildThings.temperatureChannel i).toList ∧
    Ascii (BuildThings.humidityChannel i).toList ∧ Ascii (BuildThings.co2Channel i).toList := by
  unfold BuildThings.temperatureChannel BuildThings.humidityChannel BuildThings.co2Channel
  simp only [String.toList_append, ascii_append]
  and_intros <;> first | with_reducible exact h | exact ascii_ofList.mpr (by decide)

/-- The electricity channel is labelled with an umlaut. -/
theorem not_ascii_electricityChannel (i : String) :
    ¬ Ascii (BuildThings.electricityChannel i).toList := by
  unfold BuildThings.electricityChannel
  intro h
  simp only [String.toList_append, ascii_append] at h
  exact absurd (ascii_ofList.mp h.1.1) (by decide)

/-- A Thing is ASCII without the channel of the electricity, whose label has an umlaut. -/
theorem ascii_thingBlock_iff (st : BuildThings) (h : Ascii i.toList) :
    Ascii (BuildThings.thingBlock st i).toList ↔ st.elec = false := by
  have hclose : Ascii ("    \x7d\n\n" : String).toList := ascii_ofList.mpr (by decide)
  have hempty : Ascii ("" : String).toList := ascii_ofList.mpr ascii_nil
  have hswitch : ∀ (flag : Bool) (text : String), Ascii text.toList →
      Ascii (if flag then text else "").toList := by
    intro flag text htext
    cases flag with
    | false => exact hempty
    | true => exact htext
  have helec : Ascii (if st.elec then BuildThings.electricityChannel i else "").toList ↔
      st.elec = false := by
    cases st.elec with
    | false => exact iff_of_true hempty rfl
    | true => exact iff_of_false (not_ascii_electricityChannel i) Bool.noConfusion
  obtain ⟨htemp, hhum, hco2⟩ := ascii_otherChannels h
  unfold BuildThings.thingBlock
  simp only [String.toList_append, ascii_append, ascii_thingHead h, hclose,
    hswitch st.temp _ htemp, hswitch st.hum _ hhum, hswitch st.co2 _ hco2, helec, true_and,
    and_true]

/-- The rules of an apartment are ASCII. -/
theorem ascii_rulesBlock (h : Ascii i.toList) : Ascii (BuildRules.rulesBlock i).toList := by
  unfold BuildRules.rulesBlock BuildRules.costRule BuildRules.alarmRule
  simp only [String.toList_append, ascii_append]
  and_intros <;> first | with_reducible exact h | exact ascii_ofList.mpr (by decide)

end Blocks

/-! ## ASCII texts -/

section Texts

/-- The blocks of the apartments are ASCII when there is none, or when they all are. -/
theorem ascii_blocks_iff (num : Int32) {block : String → String} {P : Prop}
    (h : ∀ i : ℕ, Ascii (block (Nat.repr i)).toList ↔ P) :
    Ascii (String.join ((apartments num).map fun i => block (Nat.repr i))).toList ↔
      num ≤ 0 ∨ P := by
  rw [String.toList_join, List.flatMap_map, ascii_flatMap]
  by_cases hnum : num ≤ 0
  · rw [apartments_eq_nil hnum]
    exact iff_of_true nofun (.inl hnum)
  · rw [or_iff_right hnum]
    constructor
    · intro hall
      exact (h 1).mp (hall 1 (one_mem_apartments (Int32.not_le.mp hnum)))
    · intro hP i _
      exact (h i).mpr hP

/-- The lines of all groups are ASCII. -/
theorem ascii_groupsText (num : Int32) : Ascii (BuildItems.groupsText num).toList := by
  have hgroups := (ascii_blocks_iff num fun i =>
    iff_true_intro (ascii_groupLine (ascii_digits i))).mpr (.inr trivial)
  unfold BuildItems.groupsText
  rw [ascii_toList_append, ascii_toList_append]
  exact ⟨⟨ascii_ofList.mpr (by decide), hgroups⟩, ascii_ofList.mpr (by decide)⟩

/-- The items of the apartments are ASCII only if there are none: the label of the temperature has a
degree sign. -/
theorem ascii_apartmentsText_iff (num : Int32) :
    Ascii (BuildItems.apartmentsText num).toList ↔ num ≤ 0 := by
  have h := ascii_blocks_iff num fun i =>
    iff_false_intro (not_ascii_apartmentBlock (Nat.repr i))
  rw [or_false] at h
  exact h

/-- The Things are ASCII if there are none, or none has a channel for the electricity. -/
theorem ascii_thingsText_iff (st : BuildThings) :
    Ascii (BuildThings.thingsText st).toList ↔ st.num ≤ 0 ∨ st.elec = false :=
  ascii_blocks_iff st.num fun i => ascii_thingBlock_iff st (ascii_digits i)

/-- The rules are ASCII. -/
theorem ascii_rulesText (num : Int32) : Ascii (BuildRules.rulesText num).toList := by
  refine (ascii_blocks_iff num fun i => ?_).mpr (.inr trivial)
  exact iff_true_intro (ascii_rulesBlock (ascii_digits i))

/-- The header is ASCII when the host in it is. -/
theorem ascii_bridgeHead_iff {ip : String} {qos : Int32} :
    Ascii (BuildThings.bridgeHead ip qos).toList ↔ Ascii ip.toList := by
  have hqos : Ascii (toString qos).toList := ascii_int qos.toInt
  unfold BuildThings.bridgeHead
  constructor
  · intro h
    simp only [String.toList_append, ascii_append] at h
    exact h.1.1.1.2
  · intro hip
    simp only [String.toList_append, ascii_append]
    refine ⟨⟨⟨⟨?_, hip⟩, ?_⟩, hqos⟩, ?_⟩ <;> exact ascii_ofList.mpr (by decide)

end Texts

/-! ## The files of a configuration -/

/-- The text of a first call only has ASCII characters. -/
def Plain (cfg : Config) : ConfigFile → Prop
  | .items => cfg.number ≤ 0
  | .things => Ascii cfg.openhab_host.toList ∧ (cfg.number ≤ 0 ∨ cfg.electricity = false)
  | .rules => True
  | .sitemap => False

/-- The static fields of a virtual machine with the configuration `cfg`. What they have
accumulated is ASCII where the text of one call is. -/
structure Accumulated (cfg : Config) (jvm : Jvm) : Prop where
  items_number : jvm.items.NUM = cfg.number
  groupHouse : Ascii jvm.items.groupHouse.toList
  groupApartments : Ascii jvm.items.groupApartments.toList
  buildApartments : Plain cfg .items → Ascii jvm.items.buildApartments.toList
  things_number : jvm.things.num = cfg.number
  electricity : jvm.things.elec = cfg.electricity
  host : jvm.things.ip = cfg.openhab_host
  qos : jvm.things.qos = cfg.qos
  bridgeString : Plain cfg .things → Ascii jvm.things.bridgeString.toList
  thingString : Plain cfg .things → Ascii jvm.things.thingString.toList
  rules_number : jvm.rules.num = cfg.number
  stringRules : Ascii jvm.rules.stringRules.toList
  sitemap_number : jvm.sitemap.num = cfg.number

variable {cfg : Config}

/-- Nothing has accumulated before the first call. -/
theorem accumulated_fresh (cfg : Config) : Accumulated cfg (Jvm.fresh cfg) where
  items_number := rfl
  groupHouse := ascii_ofList.mpr (by decide)
  groupApartments := ascii_ofList.mpr ascii_nil
  buildApartments _ := ascii_ofList.mpr ascii_nil
  things_number := rfl
  electricity := rfl
  host := rfl
  qos := rfl
  bridgeString _ := ascii_ofList.mpr ascii_nil
  thingString _ := ascii_ofList.mpr ascii_nil
  rules_number := rfl
  stringRules := ascii_ofList.mpr ascii_nil
  sitemap_number := rfl

namespace Accumulated

/-- The items file of a call is ASCII when that of a first call is. -/
theorem items_iff (h : Accumulated cfg jvm) :
    Ascii (jvm.rendered .items).toList ↔ Plain cfg .items := by
  show Ascii (jvm.items.groupHouse ++
    (jvm.items.groupApartments ++ BuildItems.groupsText jvm.items.NUM) ++
    (jvm.items.buildApartments ++ BuildItems.apartmentsText jvm.items.NUM)).toList ↔
      cfg.number ≤ 0
  simp only [ascii_toList_append, h.groupHouse, h.groupApartments, ascii_groupsText,
    ascii_apartmentsText_iff, h.items_number, true_and]
  constructor
  · exact fun hall => hall.2
  · exact fun hnum => ⟨h.buildApartments hnum, hnum⟩

/-- The things file of a call is ASCII when that of a first call is. -/
theorem things_iff (h : Accumulated cfg jvm) :
    Ascii (jvm.rendered .things).toList ↔ Plain cfg .things := by
  have hclose : Ascii ("\x7d" : String).toList := ascii_ofList.mpr (by decide)
  show Ascii (jvm.things.bridgeString ++
    BuildThings.bridgeHead jvm.things.ip jvm.things.qos ++
    (jvm.things.thingString ++ BuildThings.thingsText jvm.things) ++ "\x7d").toList ↔
      Ascii cfg.openhab_host.toList ∧ (cfg.number ≤ 0 ∨ cfg.electricity = false)
  simp only [ascii_toList_append, ascii_bridgeHead_iff, ascii_thingsText_iff, h.host,
    h.things_number, h.electricity, hclose, and_true]
  constructor
  · exact fun hall => ⟨hall.1.2, hall.2.2⟩
  · exact fun hplain => ⟨⟨h.bridgeString hplain, hplain.1⟩, h.thingString hplain, hplain.2⟩

/-- The rules file of a call is ASCII, as that of a first call is. -/
theorem rules_iff (h : Accumulated cfg jvm) :
    Ascii (jvm.rendered .rules).toList ↔ Plain cfg .rules := by
  refine iff_of_true ?_ trivial
  show Ascii (jvm.rules.stringRules ++ BuildRules.rulesText jvm.rules.num).toList
  rw [ascii_toList_append]
  exact ⟨h.stringRules, ascii_rulesText _⟩

/-- The label of the sitemap has an umlaut. -/
theorem sitemap_iff : Ascii (jvm.rendered .sitemap).toList ↔ Plain cfg .sitemap := by
  refine iff_of_false ?_ not_false
  show ¬ Ascii (jvm.sitemap.stringSitemap ++ "sitemap apartment label=\"Wohnräume\" \x7b" ++
    (jvm.sitemap.stringLables ++ BuildSitemap.lablesText jvm.sitemap.num) ++ "\x7d").toList
  simp only [ascii_toList_append]
  intro h
  exact absurd (ascii_ofList.mp h.1.1.2) (by decide)

/-- **Which texts are ASCII** is a matter of the configuration. -/
theorem ascii_rendered_iff (h : Accumulated cfg jvm) (file : ConfigFile) :
    Ascii (jvm.rendered file).toList ↔ Plain cfg file := by
  cases file with
  | items => exact h.items_iff
  | things => exact h.things_iff
  | rules => exact h.rules_iff
  | sitemap => exact sitemap_iff

/-- A builder of a valid `qos` ends unless the number of apartments is the greatest one. -/
theorem renders_iff (h : Accumulated cfg jvm) (hqos : ValidQos cfg.qos) (file : ConfigFile) :
    jvm.Renders file ↔ cfg.number ≠ Int32.maxValue := by
  cases file with
  | items => rw [Jvm.Renders, h.items_number]
  | things => rw [Jvm.Renders, h.things_number, h.qos, and_iff_left hqos]
  | rules => rw [Jvm.Renders, h.rules_number]
  | sitemap => rw [Jvm.Renders, h.sitemap_number]

/-- A call keeps what has accumulated ASCII where the text of one call is. -/
theorem next (h : Accumulated cfg jvm) (file : ConfigFile) :
    Accumulated cfg (jvm.next file) := by
  cases file with
  | items =>
      refine { h with groupApartments := ?_, buildApartments := fun hplain => ?_ }
      · exact ascii_toList_append.mpr ⟨h.groupApartments, ascii_groupsText _⟩
      · have hnum : jvm.items.NUM ≤ 0 := h.items_number ▸ hplain
        exact ascii_toList_append.mpr
          ⟨h.buildApartments hplain, (ascii_apartmentsText_iff _).mpr hnum⟩
  | things =>
      refine { h with bridgeString := h.things_iff.mpr, thingString := fun hplain => ?_ }
      apply ascii_toList_append.mpr
      rw [ascii_thingsText_iff, h.things_number, h.electricity]
      exact ⟨h.thingString hplain, hplain.2⟩
  | rules => exact { h with stringRules := h.rules_iff.mpr trivial }
  | sitemap => exact { h with }

/-- A call keeps the configuration, and appends a text of its own. -/
theorem of_buildFile (h : Accumulated cfg jvm) (hqos : ValidQos cfg.qos) {opens : Bool}
    {r : Option String} {jvm' : Jvm} (hcall : jvm.buildFile file opens = some (r, jvm')) :
    Accumulated cfg jvm' := by
  cases opens with
  | false =>
      rw [Jvm.buildFile_false] at hcall
      cases hcall
      exact h
  | true =>
      by_cases hrenders : jvm.Renders file
      · rw [Jvm.buildFile_true hrenders] at hcall
        cases hcall
        exact h.next file
      · rw [Jvm.buildFile_never hrenders fun _ => h.qos ▸ hqos] at hcall
        cases hcall

/-- Any sequence of calls keeps what has accumulated ASCII in the same way. -/
theorem of_buildFiles (h : Accumulated cfg jvm) (hqos : ValidQos cfg.qos)
    {calls : List BuildCall} {results : List (Option String)} {jvm' : Jvm}
    (hrun : Jvm.buildFiles calls jvm = some (results, jvm')) : Accumulated cfg jvm' := by
  induction calls generalizing jvm results with
  | nil =>
      cases hrun
      exact h
  | cons call calls ih =>
      rw [Jvm.buildFiles, Method.bind_apply] at hrun
      obtain ⟨⟨r, jvm₁⟩, hcall, hrest⟩ := Option.bind_eq_some_iff.mp hrun
      obtain ⟨⟨rs, jvm₂⟩, hcalls, hlast⟩ := Option.bind_eq_some_iff.mp hrest
      cases hlast
      exact ih (h.of_buildFile hqos hcall) hcalls

end Accumulated

/-- **The bytes of a call mean its text** exactly when the default charset is UTF-8, the
call never returns, or its text is ASCII, whatever has been called before. -/
theorem means_text_iff (d : Decoder) (charset : DefaultCharset) (cfg : Config)
    (hqos : ValidQos cfg.qos) (calls : List BuildCall) (results : List (Option String))
    (jvm : Jvm) (hrun : Jvm.buildFiles calls (Jvm.fresh cfg) = some (results, jvm))
    (file : ConfigFile) :
    MeansText d charset jvm file ↔
      charset = .utf8 ∨ cfg.number = Int32.maxValue ∨ Plain cfg file := by
  have h := (accumulated_fresh cfg).of_buildFiles hqos hrun
  by_cases hmax : cfg.number = Int32.maxValue
  · refine iff_of_true ?_ (.inr (.inl hmax))
    apply means_text_of_never
    · exact fun hrenders => (h.renders_iff hqos file).mp hrenders hmax
    · exact fun _ => h.qos ▸ hqos
  · rw [means_text_of_renders ((h.renders_iff hqos file).mpr hmax), h.ascii_rendered_iff,
      or_iff_right hmax]

/-- On a platform with UTF-8 the items of the repository come back. -/
theorem means_text_utf8_items : MeansText replacing .utf8 (Jvm.fresh openHabIni) .items :=
  (means_text_iff replacing .utf8 openHabIni (by decide) [] [] _ rfl .items).mpr (.inl rfl)

/-- With windows-1252 the umlaut of the sitemap does not. -/
theorem umlaut_lost : ¬ MeansText replacing .windows1252 (Jvm.fresh openHabIni) .sitemap := by
  have hfresh := accumulated_fresh openHabIni
  rw [means_text_of_renders ((hfresh.renders_iff (by decide) .sitemap).mpr (by decide)),
    hfresh.ascii_rendered_iff]
  rintro (hcharset | hplain)
  · cases hcharset
  · exact hplain

end OpenhabConfiguration.Analysis
