import OpenhabConfiguration.Interface.ConfigFiles

/-!
# The house the four files describe

What the files are for, in openHAB's own terms: the sensors of an apartment, the items
that show its readings, the channels that feed them, the rules that watch them and the
Frame that lists them, by apartment number. The reading theorems of `Analysis` say that
the generated texts declare exactly these.

`Item.tokens`, `Channel.tokens`, `Thing.tokens` and `Frame.tokens` are the formats the
other way round: the tokens a declaration is written with. Each is read back
(`item_reads`, `channel_reads`, `thing_reads`, `frame_reads`).
-/

set_option autoImplicit false

namespace OpenhabConfiguration.Interface

open Lexing Parsing

/-! ## Sensors, names and topics -/

/-- The sensors an apartment can have. -/
inductive Sensor where
  | temperature
  | humidity
  | electricity
  | co2
deriving DecidableEq, Repr

/-- All sensors, in the order in which the files list them. -/
def Sensor.all : List Sensor := [.temperature, .humidity, .electricity, .co2]

/-- The channel of a sensor. -/
def Sensor.channelId : Sensor → String
  | .temperature => "temperature"
  | .humidity => "humidity"
  | .electricity => "electricity"
  | .co2 => "kohlenstoffdioxid"

/-- What an item of an apartment shows: the reading of a sensor, the electricity costs or
the fire alarm. -/
inductive Quantity where
  | reading (s : Sensor)
  | cost
  | fire
deriving DecidableEq, Repr

/-- All quantities, in the order in which the files list them. -/
def Quantity.all : List Quantity :=
  [.reading .temperature, .reading .humidity, .reading .electricity, .reading .co2, .cost, .fire]

/-- The end of the name of a quantity's item. -/
def Quantity.suffix : Quantity → String
  | .reading .temperature => "_Temperature"
  | .reading .humidity => "_Humidity"
  | .reading .electricity => "_Electricity"
  | .reading .co2 => "_CO2"
  | .cost => "_Cost"
  | .fire => "_Fire"

/-- The group of apartment `i`. -/
def groupName (i : ℕ) : String := "Wohnraum" ++ Nat.repr i

/-- The item of apartment `i` that shows `q`. -/
def itemName (i : ℕ) (q : Quantity) : String := "Wohnraum" ++ (Nat.repr i ++ q.suffix)

/-- The Thing of apartment `i`. -/
def thingId (i : ℕ) : String := "wohnraumSensoren" ++ Nat.repr i

/-- The Bridge of the house. -/
def brokerId : String := "myWohnraumBroker"

/-- The UID of a channel of a Thing that is nested in an MQTT Bridge. -/
def channelUid (bridge thing channel : String) : String :=
  "mqtt:topic:" ++ bridge ++ ":" ++ thing ++ (":" ++ channel)

/-- The UID of the channel of sensor `s` in apartment `i`. -/
def sensorUid (i : ℕ) (s : Sensor) : String := channelUid brokerId (thingId i) s.channelId

/-- The channel UIDs as `buildItems` prints them, with the number between two fixed texts. -/
theorem sensorUid_eq (i : ℕ) (s : Sensor) :
    sensorUid i s =
      "mqtt:topic:myWohnraumBroker:wohnraumSensoren" ++ (Nat.repr i ++ (":" ++ s.channelId)) := by
  unfold sensorUid channelUid thingId brokerId
  simp only [← String.append_assoc, String.reduceAppend]

/-- The topic sensor `s` of apartment `i` publishes to. -/
def sensorTopic (i : ℕ) (s : Sensor) : String :=
  "apartment/" ++ s.channelId ++ (Nat.repr i ++ "/")

/-! ## Declarations of the items file -/

/-- The group of the house. -/
def houseItem : Item :=
  { type := "Group", name := "House", label := none, icon := none, groups := [], channel := none }

/-- The group of apartment `i`, which belongs to the house. -/
def groupItem (i : ℕ) : Item :=
  { type := "Group", name := groupName i, label := none, icon := none, groups := ["House"],
    channel := none }

/-- The type of a quantity's item. -/
def Quantity.type : Quantity → String
  | .fire => "String"
  | _ => "Number"

/-- The label of a quantity, with the format of its state. -/
def Quantity.label : Quantity → String
  | .reading .temperature => "Temperatur [%.1f °C]"
  | .reading .humidity => "Luftfeuchtigkeit [%.1f %%]"
  | .reading .electricity => "Stromzähler [%.1f kWH]"
  | .reading .co2 => "Kohlsenstoffdioxidgehalt [%.1f ppm]"
  | .cost => "Stromkosten [%.2f €]"
  | .fire => "Feueralarm: [%s]"

/-- The icon of a quantity. -/
def Quantity.icon : Quantity → String
  | .reading .temperature => "temperature"
  | .reading .humidity => "humidity"
  | .reading .electricity => "energy"
  | .reading .co2 => "carbondioxide"
  | .cost => "price"
  | .fire => "siren"

/-- The channel that feeds a quantity: only readings have one. -/
def Quantity.channel (i : ℕ) : Quantity → Option String
  | .reading s => some (sensorUid i s)
  | _ => none

/-- The item of apartment `i` that shows `q`. -/
def quantityItem (i : ℕ) (q : Quantity) : Item where
  type := q.type
  name := itemName i q
  label := some q.label
  icon := some q.icon
  groups := ["House", groupName i]
  channel := q.channel i

/-- The items of a house with the given apartments: its group, the groups of the
apartments and the items of the apartments. -/
def houseItems (apartments : List ℕ) : List Item :=
  houseItem :: (apartments.map groupItem ++
    apartments.flatMap fun i => Quantity.all.map (quantityItem i))

/-! ## Declarations of the other files -/

/-- The label of a sensor's channel, spelled as `buildThings` prints it. -/
def Sensor.channelLabel : Sensor → String
  | .temperature => "Temperatur"
  | .humidity => "Luftfeuchtigkeit"
  | .electricity => "Stromzähler"
  | .co2 => "Kolhelnstoffdioxid"

/-- The channel of sensor `s` in apartment `i`. -/
def sensorChannel (i : ℕ) (s : Sensor) : Channel where
  kind := "number"
  id := s.channelId
  label := s.channelLabel
  stateTopic := sensorTopic i s

/-- The Thing of apartment `i`, with the channels of the sensors `on`. -/
def apartmentThing (on : List Sensor) (i : ℕ) : Thing where
  type := "topic"
  id := thingId i
  label := groupName i ++ " Sensoren"
  channels := on.map (sensorChannel i)

/-- The rule of apartment `i` that computes the costs from the electricity reading. -/
def electricityCosts (i : ℕ) : Rule where
  name := "CalculateElectricityCosts" ++ Nat.repr i
  trigger := itemName i (.reading .electricity)
  body := .seq (.sendCommand (itemName i .cost)
    (.mul (.asDecimal (.state (itemName i (.reading .electricity)))) (.decimal (3 / 10)))) .skip

/-- The rule of apartment `i` that raises the fire alarm. -/
def burningAlarm (i : ℕ) : Rule where
  name := "Burning-Alarm" ++ Nat.repr i
  trigger := itemName i (.reading .co2)
  body := .seq (.ifThen
    (.and (.gt (.asDecimal (.state (itemName i (.reading .co2)))) (.decimal 9))
      (.gt (.asDecimal (.state (itemName i (.reading .temperature)))) (.decimal 35)))
    (.seq (.sendCommand (itemName i .fire) (.text "Feuer")) .skip)) .skip

/-- The rules of a house with the given apartments. -/
def houseRules (apartments : List ℕ) : List Rule :=
  apartments.flatMap fun i => [electricityCosts i, burningAlarm i]

/-- The Frame of apartment `i`, which shows all its items. -/
def apartmentFrame (i : ℕ) : Frame where
  label := "Wohnraum " ++ Nat.repr i
  items := Quantity.all.map (itemName i)

/-! ## Reading declarations back -/

/-- The tokens of a label. -/
def labelTokens : Option String → List Token
  | some l => [.str l]
  | none => []

/-- The tokens of an icon. -/
def iconTokens : Option String → List Token
  | some i => [.sym '<', .word i, .sym '>']
  | none => []

/-- The tokens of the names of a group list, up to its closing parenthesis. -/
def groupNameTokens (g : String) : List String → List Token
  | [] => [.word g, .sym ')']
  | g' :: gs => .word g :: .sym ',' :: groupNameTokens g' gs

/-- The tokens of a group list. -/
def groupTokens : List String → List Token
  | [] => []
  | g :: gs => .sym '(' :: groupNameTokens g gs

/-- The tokens of a channel link. -/
def channelTokens : Option String → List Token
  | some uid => [.sym '\x7b', .word "channel", .sym '=', .str uid, .sym '\x7d']
  | none => []

/-- The tokens an item is written with. -/
def Item.tokens (it : Item) : List Token :=
  .word it.type :: .word it.name :: (labelTokens it.label ++ iconTokens it.icon ++
    groupTokens it.groups ++ channelTokens it.channel)

/-- What may stand behind an item: nothing, or the type of the next one. -/
inductive AtItem : List Token → Prop
  | done : AtItem []
  | next (w : String) (ts : List Token) : AtItem (.word w :: ts)

/-- The channel link of an item is read back in front of the next item. -/
theorem optChannel_reads (channel : Option String) :
    Reads optChannel AtItem (channelTokens channel) channel := by
  intro rest hrest
  cases channel <;> cases hrest <;> rfl

/-- A list of group names is read back up to its closing parenthesis. -/
theorem groupNames_reads (g : String) (gs : List String) (rest : List Token) :
    groupNames (groupNameTokens g gs ++ rest) = some (g :: gs, rest) := by
  induction gs generalizing g with
  | nil => rfl
  | cons g' gs ih =>
      show (groupNames (groupNameTokens g' gs ++ rest)).map _ = _
      rw [ih]
      rfl

/-- The groups of an item are read back, whether or not there are any. -/
theorem optGroups_reads (groups : List String) (channel : Option String) {rest : List Token}
    (hrest : AtItem rest) :
    optGroups (groupTokens groups ++ (channelTokens channel ++ rest)) =
      some (groups, channelTokens channel ++ rest) := by
  cases groups with
  | nil => cases channel <;> cases hrest <;> rfl
  | cons g gs => exact groupNames_reads g gs _

/-- The icon of an item is read back, whether or not there is one. -/
theorem optIcon_reads (icon : Option String) (groups : List String) (channel : Option String)
    {rest : List Token} (hrest : AtItem rest) :
    optIcon (iconTokens icon ++ (groupTokens groups ++ (channelTokens channel ++ rest))) =
      some (icon, groupTokens groups ++ (channelTokens channel ++ rest)) := by
  cases icon with
  | none => cases groups <;> cases channel <;> cases hrest <;> rfl
  | some i => rfl

/-- The label of an item is read back, whether or not there is one. -/
theorem optLabel_reads (label icon : Option String) (groups : List String)
    (channel : Option String) {rest : List Token} (hrest : AtItem rest) :
    optLabel (labelTokens label ++
        (iconTokens icon ++ (groupTokens groups ++ (channelTokens channel ++ rest)))) =
      some (label, iconTokens icon ++ (groupTokens groups ++ (channelTokens channel ++ rest))) := by
  cases label with
  | none => cases icon <;> cases groups <;> cases channel <;> cases hrest <;> rfl
  | some l => rfl

/-- **An item is read back** from the tokens it is written with. -/
theorem item_reads (it : Item) : Reads item AtItem it.tokens it := by
  intro rest hrest
  obtain ⟨type, name, label, icon, groups, channel⟩ := it
  have hlabel := optLabel_reads label icon groups channel hrest
  have hicon := optIcon_reads icon groups channel hrest
  have hgroups := optGroups_reads groups channel hrest
  have hchannel := optChannel_reads channel rest hrest
  have hitem : ∀ ts, item (.word type :: .word name :: ts) =
      (optLabel ts).bind fun l => (optIcon l.2).bind fun i => (optGroups i.2).bind fun g =>
        (optChannel g.2).bind fun c => some (⟨type, name, l.1, i.1, g.1, c.1⟩, c.2) :=
    fun _ => rfl
  simp only [Item.tokens, List.cons_append, List.append_assoc, hitem, hlabel, hicon, hgroups,
    hchannel, Option.bind_some]

/-- **An items file** whose tokens are those of a list of items declares these items. -/
theorem readItems_eq {text : String} (items : List Item)
    (h : tokens text.toList = items.flatMap Item.tokens) : readItems text = some items := by
  have hmany := many_reads (p := item) (F := AtItem) items Item.tokens id
    (fun it _ => item_reads it) (fun it _ rest => .next _ _) (fun it _ => by simp [Item.tokens])
    [] .done rfl
  rw [List.append_nil, List.map_id] at hmany
  simp only [readItems, runAll, h, hmany]

/-- The tokens a channel is written with. -/
def Channel.tokens (c : Channel) : List Token :=
  [.word "Type", .word c.kind, .sym ':', .word c.id, .str c.label, .sym '[', .word "stateTopic",
    .sym '=', .str c.stateTopic, .sym ']']

/-- The tokens a Thing is written with. -/
def Thing.tokens (t : Thing) : List Token :=
  .word "Thing" :: .word t.type :: .word t.id :: .str t.label :: .sym '\x7b' ::
    .word "Channels" :: .sym ':' :: (t.channels.flatMap Channel.tokens ++ [.sym '\x7d'])

/-- A channel is read back, whatever follows. -/
theorem channel_reads (c : Channel) : Reads channel (fun _ => True) c.tokens c :=
  fun _ _ => rfl

/-- A Thing is read back with all its channels, whatever follows. -/
theorem thing_reads (t : Thing) : Reads thing (fun _ => True) t.tokens t := by
  intro rest _
  have hmany := many_reads (p := channel) t.channels Channel.tokens id
    (fun c _ => channel_reads c) (fun _ _ _ => trivial) (fun c _ => by simp [Channel.tokens])
    (.sym '\x7d' :: rest) trivial rfl
  rw [List.map_id] at hmany
  have hthing : ∀ ts, thing (.word "Thing" :: .word t.type :: .word t.id :: .str t.label ::
      .sym '\x7b' :: .word "Channels" :: .sym ':' :: ts) =
      (many channel ts).bind fun r => (sym '\x7d' r.2).bind fun r' =>
        some (⟨t.type, t.id, t.label, r.1⟩, r'.2) := fun _ => rfl
  simp only [Thing.tokens, List.cons_append, List.append_assoc, List.nil_append, hthing, hmany,
    Option.bind_some]
  rfl

/-- The Things of a Bridge are read up to its closing brace. -/
theorem bridgeBody_reads (things : List Thing) :
    Reads bridgeBody (fun _ => True) (things.flatMap Thing.tokens ++ [.sym '\x7d']) things := by
  intro rest _
  have hmany := many_reads (p := thing) things Thing.tokens id
    (fun t _ => thing_reads t) (fun _ _ _ => trivial) (fun t _ => by simp [Thing.tokens])
    (.sym '\x7d' :: rest) trivial rfl
  rw [List.map_id] at hmany
  have hbridge : ∀ ts, bridgeBody ts =
      (many thing ts).bind fun r => (sym '\x7d' r.2).bind fun r' => some (r.1, r'.2) :=
    fun _ => rfl
  rw [List.append_assoc, hbridge]
  show (many thing (things.flatMap Thing.tokens ++ .sym '\x7d' :: rest)).bind _ = _
  rw [hmany]
  rfl

/-- **A things file** with a Bridge header in front of the tokens of a list of Things
declares these Things. -/
theorem readThings_eq {text bridge : String} (body : List Char) (things : List Thing)
    (hid : bridgeId (tokens text.toList) = some bridge)
    (hbody : behindLoneBrace none true text.toList = some body)
    (h : tokens body = things.flatMap Thing.tokens ++ [.sym '\x7d']) :
    readThings text = some ⟨bridge, things⟩ := by
  have hread := bridgeBody_reads things [] trivial
  rw [List.append_nil, ← h] at hread
  simp only [readThings, hid, hbody, runAll, hread, Option.bind_eq_bind, Option.bind_some,
    Option.pure_def]

/-- The parameters of a Bridge header as tokens. -/
def Broker.tokens (b : Broker) : List Token :=
  [.word "host", .sym '=', .str b.host, .sym ',', .word "secure", .sym '=',
    .word (if b.secure then "true" else "false"), .sym ',', .word "qos", .sym '=',
    .num (Nat.repr b.qos)]

/-- A text that can be written between quotes as it is. -/
def Quotable (s : String) : Prop := ∀ c ∈ s.toList, c ≠ '"' ∧ standsForItself c = true

instance (s : String) : Decidable (Quotable s) :=
  decidable_of_iff (s.toList.all (fun c => c != '"' && standsForItself c) = true) (by
    simp [Quotable])

/-- A quotable text is read from its literal. -/
theorem plainStr_reads {v : String} (hv : Quotable v) :
    Reads plainStr (fun _ => True) [.str v] v := by
  intro rest _
  have hall : v.toList.all standsForItself = true :=
    List.all_eq_true.mpr fun c hc => (hv c hc).2
  show (if v.toList.all standsForItself then some (v, rest) else none) = _
  rw [if_pos hall]

/-- A number is read from its decimal digits. -/
theorem natural_reads (n : ℕ) : Reads natural (fun _ => True) [.num (Nat.repr n)] n := by
  intro rest _
  have hall : (Nat.repr n).toList.all Char.isDigit = true :=
    List.all_eq_true.mpr (forall_isDigit_repr n)
  have hvalue : Nat.ofDigitChars 10 (Nat.repr n).toList 0 = n := by
    rw [Nat.toList_repr, Nat.ofDigitChars_ten_toDigits]
  show (if (Nat.repr n).toList.all Char.isDigit then
    some (Nat.ofDigitChars 10 (Nat.repr n).toList 0, rest) else none) = _
  rw [if_pos hall, hvalue]

/-- The connection to a broker is read back, when its host is quotable. -/
theorem broker_reads (b : Broker) (hhost : Quotable b.host) :
    Reads broker (fun _ => True) b.tokens b := by
  obtain ⟨host, secure, qos⟩ := b
  have hsecure : Reads boolean (fun _ => True) [.word (if secure then "true" else "false")] secure := by
    intro rest _
    cases secure <;> rfl
  exact (word_reads "host").bind ((sym_reads '=').bind ((plainStr_reads hhost).bind
    ((sym_reads ',').bind ((word_reads "secure").bind ((sym_reads '=').bind (hsecure.bind
      ((sym_reads ',').bind ((word_reads "qos").bind ((sym_reads '=').bind
        ((natural_reads qos).map _))))))))))

/-- A Bridge block as tokens. -/
def BridgeBlock.tokens (b : BridgeBlock) (label : String) : List Token :=
  .word "Bridge" :: .word "mqtt" :: .sym ':' :: .word "broker" :: .sym ':' :: .word b.id ::
    .str label :: .sym '[' :: (b.broker.tokens ++ .sym ']' :: .sym '\x7b' ::
      (b.things.flatMap Thing.tokens ++ [.sym '\x7d']))

/-- A Bridge block is read back, when the host in its header is quotable. -/
theorem bridgeBlock_reads (b : BridgeBlock) (label : String) (hhost : Quotable b.broker.host) :
    Reads bridgeBlock (fun _ => True) (b.tokens label) b := by
  obtain ⟨id, header, things⟩ := b
  exact (word_reads "Bridge").bind ((word_reads "mqtt").bind ((sym_reads ':').bind
    ((word_reads "broker").bind ((sym_reads ':').bind ((ident_reads id).bind
      ((str_reads label).bind ((sym_reads '[').bind ((broker_reads header hhost).bind
        ((sym_reads ']').bind ((sym_reads '\x7b').bind
          ((bridgeBody_reads things).map _)))))))))))

/-- A Bridge block behind the bracket of its header. -/
theorem bridgeBlock_apply (id label : String) (ts : List Token) :
    bridgeBlock (.word "Bridge" :: .word "mqtt" :: .sym ':' :: .word "broker" :: .sym ':' ::
      .word id :: .str label :: .sym '[' :: ts) =
      (broker ts).bind fun b => (sym ']' b.2).bind fun r => (sym '\x7b' r.2).bind fun r' =>
        (bridgeBody r'.2).bind fun l => some (⟨id, b.1, l.1⟩, l.2) := rfl

/-- The parameters of a Bridge header behind the name of the first one. -/
theorem broker_apply (ts : List Token) : broker (.word "host" :: .sym '=' :: ts) =
    (plainStr ts).bind fun h => (sym ',' h.2).bind fun r => (word "secure" r.2).bind fun r' =>
      (sym '=' r'.2).bind fun r'' => (boolean r''.2).bind fun b => (sym ',' b.2).bind fun t =>
        (word "qos" t.2).bind fun t' => (sym '=' t'.2).bind fun t'' =>
          (natural t''.2).bind fun n => some (⟨h.1, b.1, n.1⟩, n.2) := rfl

/-- The host of a Bridge block that is read is the literal in its header, in which every
character stands for itself. -/
theorem host_of_bridgeBlock {id label v : String} {ts ts' : List Token} {b : BridgeBlock}
    (h : bridgeBlock (.word "Bridge" :: .word "mqtt" :: .sym ':' :: .word "broker" :: .sym ':' ::
      .word id :: .str label :: .sym '[' :: .word "host" :: .sym '=' :: .str v :: ts) =
        some (b, ts')) :
    b.broker.host = v ∧ ∀ c ∈ v.toList, standsForItself c = true := by
  rw [bridgeBlock_apply, broker_apply] at h
  obtain ⟨header, hheader, h⟩ := Option.bind_eq_some_iff.mp h
  obtain ⟨host, hhost, hheader⟩ := Option.bind_eq_some_iff.mp hheader
  simp only [Option.bind_eq_some_iff] at h hheader
  obtain ⟨_, -, _, -, things, -, hblock⟩ := h
  obtain ⟨_, -, _, -, _, -, _, -, _, -, _, -, _, -, _, -, heq⟩ := hheader
  have hread : (if v.toList.all standsForItself then some (v, ts) else none) = some host := hhost
  split at hread
  · rename_i hall
    cases hread
    cases heq
    cases hblock
    exact ⟨rfl, List.all_eq_true.mp hall⟩
  · cases hread

/-- The tokens a Frame is written with. -/
def Frame.tokens (f : Frame) : List Token :=
  .word "Frame" :: .word "label" :: .sym '=' :: .str f.label :: .sym '\x7b' ::
    (f.items.flatMap (fun x => [.word "Text", .word "item", .sym '=', .word x]) ++
      [.sym '\x7d'])

/-- A Frame is read back with all its lines, whatever follows. -/
theorem frame_reads (f : Frame) : Reads frame (fun _ => True) f.tokens f := by
  intro rest _
  have hmany := many_reads (p := textLine) (F := fun _ => True) f.items
    (fun x => [.word "Text", .word "item", .sym '=', .word x]) id
    (fun _ _ _ _ => rfl) (fun _ _ _ => trivial) (fun _ _ => by simp)
    (.sym '\x7d' :: rest) trivial rfl
  rw [List.map_id] at hmany
  have hframe : ∀ ts, frame (.word "Frame" :: .word "label" :: .sym '=' :: .str f.label ::
      .sym '\x7b' :: ts) =
      (many textLine ts).bind fun r => (sym '\x7d' r.2).bind fun r' =>
        some (⟨f.label, r.1⟩, r'.2) := fun _ => rfl
  simp only [Frame.tokens, List.cons_append, List.append_assoc, List.nil_append, hframe, hmany,
    Option.bind_some]
  rfl

/-- **A sitemap file** whose tokens are a sitemap block around those of a list of Frames
shows these Frames. -/
theorem readSitemap_eq {text name label : String} (frames : List Frame)
    (h : tokens text.toList = .word "sitemap" :: .word name :: .word "label" :: .sym '=' ::
      .str label :: .sym '\x7b' :: (frames.flatMap Frame.tokens ++ [.sym '\x7d'])) :
    readSitemap text = some ⟨name, label, frames⟩ := by
  have hmany := many_reads (p := frame) frames Frame.tokens id
    (fun f _ => frame_reads f) (fun _ _ _ => trivial) (fun f _ => by simp [Frame.tokens])
    [.sym '\x7d'] trivial rfl
  rw [List.map_id] at hmany
  have hsitemap : ∀ ts, sitemap (.word "sitemap" :: .word name :: .word "label" :: .sym '=' ::
      .str label :: .sym '\x7b' :: ts) =
      (many frame ts).bind fun r => (sym '\x7d' r.2).bind fun r' =>
        some (⟨name, label, r.1⟩, r'.2) := fun _ => rfl
  have hread : sitemap (tokens text.toList) = some (⟨name, label, frames⟩, []) := by
    rw [h, hsitemap, hmany]
    rfl
  simp only [readSitemap, runAll, hread]

/-- The tokens of the rule that computes the costs of apartment `i`. -/
def electricityCostsTokens (i : ℕ) : List Token :=
  [.word "rule", .str ("CalculateElectricityCosts" ++ Nat.repr i), .word "when", .word "Item",
    .word (itemName i (.reading .electricity)), .word "received", .word "update", .word "then",
    .word (itemName i .cost), .sym '.', .word "sendCommand", .sym '(',
    .word (itemName i (.reading .electricity)), .sym '.', .word "state", .word "as",
    .word "DecimalType", .sym '*', .num "0.3", .sym ')', .word "end"]

/-- The tokens of the rule that raises the alarm of apartment `i`. -/
def burningAlarmTokens (i : ℕ) : List Token :=
  [.word "rule", .str ("Burning-Alarm" ++ Nat.repr i), .word "when", .word "Item",
    .word (itemName i (.reading .co2)), .word "received", .word "update", .word "then",
    .word "if", .sym '(', .word (itemName i (.reading .co2)), .sym '.', .word "state", .word "as",
    .word "DecimalType", .sym '>', .num "9", .sym '&', .sym '&',
    .word (itemName i (.reading .temperature)), .sym '.', .word "state", .word "as",
    .word "DecimalType", .sym '>', .num "35", .sym ')', .sym '\x7b',
    .word (itemName i .fire), .sym '.', .word "sendCommand", .sym '(', .str "Feuer", .sym ')',
    .sym '\x7d', .word "end"]

/-- The rule for the costs is read back: the cast binds to the state, not to the product. -/
theorem electricityCosts_reads (i : ℕ) :
    Reads rule AtItem (electricityCostsTokens i) (electricityCosts i) := by
  intro rest hrest
  have hprice : decimalOf "0.3" = 3 / 10 := by decide +kernel
  unfold electricityCostsTokens electricityCosts
  rw [← hprice]
  generalize "CalculateElectricityCosts" ++ Nat.repr i = name
  generalize itemName i (.reading .electricity) = electricity
  generalize itemName i .cost = cost
  generalize "0.3" = price
  cases hrest <;> rfl

/-- The rule for the alarm is read back: both comparisons bind tighter than `&&`. -/
theorem burningAlarm_reads (i : ℕ) :
    Reads rule AtItem (burningAlarmTokens i) (burningAlarm i) := by
  intro rest hrest
  have hco2 : decimalOf "9" = 9 := by decide +kernel
  have htemp : decimalOf "35" = 35 := by decide +kernel
  unfold burningAlarmTokens burningAlarm
  rw [← hco2, ← htemp]
  generalize "Burning-Alarm" ++ Nat.repr i = name
  generalize itemName i (.reading .co2) = co2
  generalize itemName i (.reading .temperature) = temperature
  generalize itemName i .fire = fire
  generalize "9" = limit
  generalize "35" = limit'
  cases hrest <;> rfl

/-- **A rules file** whose tokens are those of the two rules of every apartment declares
these rules. -/
theorem readRules_eq {text : String} (apartments : List ℕ)
    (h : tokens text.toList =
      apartments.flatMap fun i => electricityCostsTokens i ++ burningAlarmTokens i) :
    readRules text = some (houseRules apartments) := by
  have hmany := many_reads (p := rule) (F := AtItem)
    (apartments.flatMap fun i =>
      [(electricityCostsTokens i, electricityCosts i), (burningAlarmTokens i, burningAlarm i)])
    Prod.fst Prod.snd
    (by
      simp only [List.mem_flatMap, List.mem_cons, List.not_mem_nil, or_false]
      rintro r ⟨i, -, rfl | rfl⟩
      · exact electricityCosts_reads i
      · exact burningAlarm_reads i)
    (by
      simp only [List.mem_flatMap, List.mem_cons, List.not_mem_nil, or_false]
      rintro r ⟨i, -, rfl | rfl⟩ rest <;> exact .next _ _)
    (by
      simp only [List.mem_flatMap, List.mem_cons, List.not_mem_nil, or_false]
      rintro r ⟨i, -, rfl | rfl⟩ <;> exact List.cons_ne_nil _ _)
    [] .done rfl
  rw [List.append_nil, List.flatMap_assoc, List.map_flatMap] at hmany
  simp only [List.flatMap_cons, List.flatMap_nil, List.append_nil, List.map_cons,
    List.map_nil] at hmany
  simp only [readRules, runAll, h, hmany, houseRules]

end OpenhabConfiguration.Interface
