import OpenhabConfiguration.Analysis.GeneratedText
import OpenhabConfiguration.Interface.Declarations

/-!
# The items file declares the items of the house

The text `buildItemsFile` writes on its first call reads as the group of the house, the
groups of the apartments and the six items of every apartment (`readItems_items`). The
text is scanned piece by piece: between two printed numbers stands a fixed text, whose
tokens are computed.
-/

set_option autoImplicit false

namespace OpenhabConfiguration.Analysis

open Lexing Interface Model

/-- A token that was scanned in two parts is the concatenation of the parts. -/
theorem ofList_append_toList (s : String) (l : List Char) :
    String.ofList (s.toList ++ l) = s ++ String.ofList l := by
  rw [String.ofList_append, String.ofList_toList]

/-- The end of a comment line that ends with a number. -/
theorem scan_comment_end (rest : List Char) :
    (scan ("\n".toList ++ rest) .comment).2 = tokens rest := by
  rw [String.toList_ofList]
  rfl

/-- The line of a group declares the group. -/
theorem groupLine_segment (i : ℕ) :
    Segment (BuildItems.groupLine (Nat.repr i)).toList (groupItem i).tokens := by
  have hhead : ∀ rest, tokens ("Group Wohnraum".toList ++ rest) =
      .word "Group" :: .word (String.ofList ("Wohnraum".toList ++ (scan rest .word).1)) ::
        (scan rest .word).2 := by
    intro rest
    rw [String.toList_ofList]
    rfl
  have htail : ∀ rest, scan (" (House)\n".toList ++ rest) .word =
      ([], .sym '(' :: .word "House" :: .sym ')' :: tokens rest) := by
    intro rest
    rw [String.toList_ofList]
    rfl
  intro rest
  unfold BuildItems.groupLine
  simp only [String.toList_append, List.append_assoc, hhead, scan_word_repr, htail,
    List.append_nil, ofList_append_toList, String.ofList_toList]
  rfl

/-! ## The items of one apartment -/

/-- What `apartmentBlock` prints between the apartment number in an item's name and the
groups of the item. -/
def itemLabel : Quantity → String
  | .reading .temperature =>
      "_Temperature    \"Temperatur [%.1f °C]\"                               <temperature>   "
  | .reading .humidity =>
      "_Humidity       \"Luftfeuchtigkeit [%.1f %%]\"                         <humidity>      "
  | .reading .electricity =>
      "_Electricity    \"Stromzähler [%.1f kWH]\"                             <energy>        "
  | .reading .co2 =>
      "_CO2            \"Kohlsenstoffdioxidgehalt [%.1f ppm]\"                <carbondioxide>       "
  | .cost =>
      "_Cost           \"Stromkosten [%.2f €]\"                               <price>             "
  | .fire =>
      "_Fire           \"Feueralarm: [%s]\"                                   <siren>             "

/-- The end of the line of a sensor's item. -/
def itemLink : Sensor → String
  | .temperature => ":temperature\"\x7d\n"
  | .humidity => ":humidity\"\x7d\n"
  | .electricity => ":electricity\"\x7d\n"
  | .co2 => ":kohlenstoffdioxid\"\x7d\n"

/-- The line of an item in `apartmentBlock`. -/
def itemLine (i : String) : Quantity → String
  | .reading s =>
      "Number Wohnraum" ++ i ++ itemLabel (.reading s) ++ "(House, Wohnraum" ++ i ++
        ")  \x7bchannel=\"mqtt:topic:myWohnraumBroker:wohnraumSensoren" ++ i ++ itemLink s
  | .cost => "Number Wohnraum" ++ i ++ itemLabel .cost ++ "(House, Wohnraum" ++ i ++ ")  \n"
  | .fire => "String Wohnraum" ++ i ++ itemLabel .fire ++ "(House, Wohnraum" ++ i ++ ")\n\n"

/-- The block of an apartment is a comment and one line for each quantity. -/
theorem apartmentBlock_eq (i : String) :
    BuildItems.apartmentBlock i =
      "\n// Wohnraum" ++ i ++ "\n" ++ String.join (Quantity.all.map (itemLine i)) := by
  have hreading : ∀ s, itemLine i (.reading s) =
      "Number Wohnraum" ++ i ++ itemLabel (.reading s) ++ "(House, Wohnraum" ++ i ++
        ")  \x7bchannel=\"mqtt:topic:myWohnraumBroker:wohnraumSensoren" ++ i ++ itemLink s :=
    fun _ => rfl
  have hcost : itemLine i .cost =
      "Number Wohnraum" ++ i ++ itemLabel .cost ++ "(House, Wohnraum" ++ i ++ ")  \n" := rfl
  have hfire : itemLine i .fire =
      "String Wohnraum" ++ i ++ itemLabel .fire ++ "(House, Wohnraum" ++ i ++ ")\n\n" := rfl
  unfold BuildItems.apartmentBlock
  simp only [Quantity.all, List.map_cons, List.map_nil, String.join_cons, String.join_nil,
    hreading, hcost, hfire, itemLabel, itemLink, String.append_assoc, String.append_empty]

/-- Behind the number of an apartment the scanner finishes the name and reads label and icon. -/
theorem scan_itemLabel (q : Quantity) (rest : List Char) :
    scan ((itemLabel q).toList ++ rest) .word =
      (q.suffix.toList, [.str q.label, .sym '<', .word q.icon, .sym '>'] ++ tokens rest) := by
  rcases q with (_ | _ | _ | _) | _ | _ <;>
    simp only [itemLabel, Quantity.suffix, Quantity.label, Quantity.icon] <;>
    rw [String.toList_ofList] <;> rfl

/-- Behind the number of an apartment the scanner finishes the UID of the channel. -/
theorem scan_itemLink (s : Sensor) (rest : List Char) :
    scan ((itemLink s).toList ++ rest) .str =
      ((":" ++ s.channelId).toList, .sym '\x7d' :: tokens rest) := by
  cases s <;> simp only [itemLink, Sensor.channelId, String.reduceAppend] <;>
    rw [String.toList_ofList] <;> rfl

/-- The line of an item declares the item. -/
theorem itemLine_segment (i : ℕ) (q : Quantity) :
    Segment (itemLine (Nat.repr i) q).toList (quantityItem i q).tokens := by
  have hnumber : ∀ rest, tokens ("Number Wohnraum".toList ++ rest) =
      .word "Number" :: .word (String.ofList ("Wohnraum".toList ++ (scan rest .word).1)) ::
        (scan rest .word).2 := by
    intro rest
    rw [String.toList_ofList]
    rfl
  have hstring : ∀ rest, tokens ("String Wohnraum".toList ++ rest) =
      .word "String" :: .word (String.ofList ("Wohnraum".toList ++ (scan rest .word).1)) ::
        (scan rest .word).2 := by
    intro rest
    rw [String.toList_ofList]
    rfl
  have hgroups : ∀ rest, tokens ("(House, Wohnraum".toList ++ rest) =
      .sym '(' :: .word "House" :: .sym ',' ::
        .word (String.ofList ("Wohnraum".toList ++ (scan rest .word).1)) ::
        (scan rest .word).2 := by
    intro rest
    rw [String.toList_ofList]
    rfl
  have hlink : ∀ rest,
      scan (")  \x7bchannel=\"mqtt:topic:myWohnraumBroker:wohnraumSensoren".toList ++ rest) .word =
        ([], .sym ')' :: .sym '\x7b' :: .word "channel" :: .sym '=' ::
          .str (String.ofList
            ("mqtt:topic:myWohnraumBroker:wohnraumSensoren".toList ++ (scan rest .str).1)) ::
          (scan rest .str).2) := by
    intro rest
    rw [String.toList_ofList]
    rfl
  have hcost : ∀ rest, scan (")  \n".toList ++ rest) .word = ([], .sym ')' :: tokens rest) := by
    intro rest
    rw [String.toList_ofList]
    rfl
  have hfire : ∀ rest, scan (")\n\n".toList ++ rest) .word = ([], .sym ')' :: tokens rest) := by
    intro rest
    rw [String.toList_ofList]
    rfl
  intro rest
  unfold itemLine
  cases q <;>
    simp only [String.toList_append, List.append_assoc, hnumber, hstring, hgroups, hlink, hcost,
      hfire, scan_word_repr, scan_str_repr, scan_itemLabel, scan_itemLink, List.append_nil,
      ofList_append_toList, String.ofList_toList, Item.tokens, quantityItem, Quantity.channel,
      sensorUid_eq] <;>
    rfl

/-- The block of an apartment declares its items. -/
theorem apartmentBlock_segment (i : ℕ) :
    Segment (BuildItems.apartmentBlock (Nat.repr i)).toList
      (Quantity.all.flatMap fun q => (quantityItem i q).tokens) := by
  have hcomment : ∀ rest, tokens ("\n// Wohnraum".toList ++ rest) = (scan rest .comment).2 := by
    intro rest
    rw [String.toList_ofList]
    rfl
  have hlines := Segment.join Quantity.all fun q _ => itemLine_segment i q
  intro rest
  rw [apartmentBlock_eq]
  simp only [String.toList_append, List.append_assoc, hcomment, scan_comment_repr,
    scan_comment_end, hlines rest]

/-! ## The whole file -/

/-- The first line declares the group of the house. -/
theorem groupHouse_segment (cfg : Config) :
    Segment (BuildItems.init cfg).groupHouse.toList houseItem.tokens := by
  intro rest
  show tokens ("// Group for whole House\nGroup House\n\n".toList ++ rest) = _
  rw [String.toList_ofList]
  rfl

/-- The lines of the groups declare the groups of all apartments. -/
theorem groupsText_segment (num : Int32) :
    Segment (BuildItems.groupsText num).toList
      ((apartments num).flatMap fun i => (groupItem i).tokens) := by
  have hcomment : Segment "// Group per apartment\n".toList [] := by
    intro rest
    rw [String.toList_ofList]
    rfl
  have hline : Segment "\n".toList [] := by
    intro rest
    rw [String.toList_ofList]
    rfl
  have hgroups := Segment.join (apartments num) fun i _ => groupLine_segment i
  unfold BuildItems.groupsText
  rw [String.toList_append, String.toList_append]
  simpa using (hcomment.append hgroups).append hline

/-- **The items file** of a first call declares the items of the house. -/
theorem readItems_items (cfg : Config) :
    readItems (fileText cfg .items) = some (houseItems (apartments cfg.number)) := by
  apply readItems_eq
  apply Segment.tokens_eq
  have hhouse := groupHouse_segment cfg
  have hgroups := groupsText_segment cfg.number
  have happ : Segment (BuildItems.apartmentsText cfg.number).toList _ :=
    Segment.join (apartments cfg.number) fun i _ => apartmentBlock_segment i
  have hall := (hhouse.append hgroups).append happ
  have htext : fileText cfg .items = (BuildItems.init cfg).groupHouse ++
      ("" ++ BuildItems.groupsText cfg.number) ++ ("" ++ BuildItems.apartmentsText cfg.number) :=
    rfl
  rw [htext, String.empty_append, String.empty_append, String.toList_append,
    String.toList_append]
  simpa [houseItems, List.flatMap_append, List.flatMap_map, List.flatMap_assoc] using hall

end OpenhabConfiguration.Analysis
