import OpenhabConfiguration.Analysis.ItemsText

/-!
# The things file declares the channels of the sensors that are switched on

The text `buildThingsFile` writes on its first call reads as the Bridge of the house, with
one Thing for every apartment and, inside it, one channel for every sensor whose flag is
set (`readThings_things`). This holds for every host: the header is a line of its own, and
no line behind it is a lone brace (`Passes`). When the host can stand between quotes, the
whole file reads as one Bridge block with this host (`readBridgeBlock_things_iff`).
-/

set_option autoImplicit false

namespace OpenhabConfiguration.Analysis

open Lexing Interface Model

/-- The flag of a sensor in the configuration. -/
def flag (cfg : Config) : Sensor → Bool
  | .temperature => cfg.temperature
  | .humidity => cfg.humidity
  | .electricity => cfg.electricity
  | .co2 => cfg.co2

/-- The sensors that are switched on, in the order in which the files list them. -/
def sensorsOn (cfg : Config) : List Sensor := Sensor.all.filter (flag cfg)

/-! ## The channels and Things as tokens -/

/-- The line `buildThings` prints for a sensor that is switched on. -/
def channelLine (i : String) : Sensor → String
  | .temperature => BuildThings.temperatureChannel i
  | .humidity => BuildThings.humidityChannel i
  | .electricity => BuildThings.electricityChannel i
  | .co2 => BuildThings.co2Channel i

/-- The line of a sensor up to the apartment number in its topic. -/
def channelHead : Sensor → String
  | .temperature =>
      "        Type number : temperature   \"Temperatur\"            [stateTopic=\"apartment/temperature"
  | .humidity =>
      "        Type number : humidity      \"Luftfeuchtigkeit\"      [stateTopic=\"apartment/humidity"
  | .electricity =>
      "        Type number : electricity   \"Stromzähler\"           [stateTopic=\"apartment/electricity"
  | .co2 =>
      "        Type number : kohlenstoffdioxid   \"Kolhelnstoffdioxid\"           [stateTopic=\"apartment/kohlenstoffdioxid"

/-- The lines of the four sensors end alike. -/
theorem channelLine_eq (i : String) (s : Sensor) :
    channelLine i s = channelHead s ++ i ++ "/\"]\n" := by
  cases s <;> rfl

set_option maxRecDepth 4000 in
/-- The tokens of a channel's line up to the number in its topic, which the scanner is in the middle
of. -/
theorem tokens_channelHead (s : Sensor) (rest : List Char) :
    tokens ((channelHead s).toList ++ rest) =
      [.word "Type", .word "number", .sym ':', .word s.channelId, .str s.channelLabel, .sym '[',
        .word "stateTopic", .sym '=',
        .str (String.ofList (("apartment/" ++ s.channelId).toList ++ (scan rest .str).1))] ++
        (scan rest .str).2 := by
  cases s <;>
    simp only [channelHead, Sensor.channelId, Sensor.channelLabel, String.reduceAppend] <;>
    rw [String.toList_ofList] <;> rfl

/-- The line of a channel declares the channel. -/
theorem channelLine_segment (i : ℕ) (s : Sensor) :
    Segment (channelLine (Nat.repr i) s).toList (sensorChannel i s).tokens := by
  have hend : ∀ rest, scan ("/\"]\n".toList ++ rest) .str =
      ("/".toList, .sym ']' :: tokens rest) := by
    intro rest
    rw [String.toList_ofList]
    rfl
  intro rest
  rw [channelLine_eq]
  simp only [String.toList_append, List.append_assoc, tokens_channelHead, scan_str_repr, hend,
    ofList_append_toList, String.ofList_toList]
  simp only [Channel.tokens, sensorChannel, sensorTopic, String.append_assoc]
  rfl

/-- The head of an apartment's Thing, up to the word that opens its channel list. -/
theorem thingHead_segment (i : ℕ) :
    Segment (BuildThings.thingHead (Nat.repr i)).toList
      [.word "Thing", .word "topic", .word (thingId i), .str (groupName i ++ " Sensoren"),
        .sym '\x7b', .word "Channels", .sym ':'] := by
  have hcomment : ∀ rest, tokens ("    // Thing Sensoren Wohnraum".toList ++ rest) =
      (scan rest .comment).2 := by
    intro rest
    rw [String.toList_ofList]
    rfl
  have hid : ∀ rest, tokens ("    Thing topic wohnraumSensoren".toList ++ rest) =
      [.word "Thing", .word "topic",
        .word (String.ofList ("wohnraumSensoren".toList ++ (scan rest .word).1))] ++
        (scan rest .word).2 := by
    intro rest
    rw [String.toList_ofList]
    rfl
  have hlabel : ∀ rest, scan (" \"Wohnraum".toList ++ rest) .word =
      ([], .str (String.ofList ("Wohnraum".toList ++ (scan rest .str).1)) ::
        (scan rest .str).2) := by
    intro rest
    rw [String.toList_ofList]
    rfl
  have hopen : ∀ rest, scan (" Sensoren\" \x7b\n".toList ++ rest) .str =
      (" Sensoren".toList, .sym '\x7b' :: tokens rest) := by
    intro rest
    rw [String.toList_ofList]
    rfl
  have hchannels : ∀ rest, tokens ("    Channels:\n".toList ++ rest) =
      .word "Channels" :: .sym ':' :: tokens rest := by
    intro rest
    rw [String.toList_ofList]
    rfl
  intro rest
  unfold BuildThings.thingHead
  simp only [String.toList_append, List.append_assoc]
  rw [hcomment, scan_comment_repr, scan_comment_end, hid, scan_word_repr, hlabel, scan_str_repr,
    hopen, hchannels]
  rw [List.append_nil, ofList_append_toList, String.ofList_toList, ofList_append_toList,
    ofList_append_toList, String.ofList_toList]
  unfold thingId groupName
  rw [String.append_assoc]
  rfl

/-- A line that is printed under a condition is one of a filtered list. -/
theorem join_filter_cons {ι : Type} (p : ι → Bool) (s : ι → String) (i : ι) (l : List ι) :
    String.join (((i :: l).filter p).map s) =
      (if p i then s i else "") ++ String.join ((l.filter p).map s) := by
  rw [List.filter_cons]
  split
  · rw [List.map_cons, String.join_cons]
  · rw [String.empty_append]

/-- The Thing of an apartment is printed with the lines of the sensors that are switched
on. -/
theorem thingBlock_eq (cfg : Config) (i : String) :
    BuildThings.thingBlock (BuildThings.init cfg) i =
      BuildThings.thingHead i ++
        (String.join ((sensorsOn cfg).map (channelLine i)) ++ "    \x7d\n\n") := by
  have hlines : String.join ((sensorsOn cfg).map (channelLine i)) =
      (if cfg.temperature then BuildThings.temperatureChannel i else "") ++
        ((if cfg.humidity then BuildThings.humidityChannel i else "") ++
          ((if cfg.electricity then BuildThings.electricityChannel i else "") ++
            ((if cfg.co2 then BuildThings.co2Channel i else "") ++ ""))) := by
    unfold sensorsOn Sensor.all
    rw [join_filter_cons, join_filter_cons, join_filter_cons, join_filter_cons]
    rfl
  rw [hlines]
  simp only [String.append_assoc, String.append_empty]
  rfl

/-- The block of an apartment declares its Thing, with the channels that are on. -/
theorem thingBlock_segment (cfg : Config) (i : ℕ) :
    Segment (BuildThings.thingBlock (BuildThings.init cfg) (Nat.repr i)).toList
      (apartmentThing (sensorsOn cfg) i).tokens := by
  have hchannels := Segment.join (sensorsOn cfg) fun s _ => channelLine_segment i s
  have hclose : Segment "    \x7d\n\n".toList [.sym '\x7d'] := by
    intro rest
    rw [String.toList_ofList]
    rfl
  have hall := (thingHead_segment i).append (hchannels.append hclose)
  rw [thingBlock_eq, String.toList_append, String.toList_append]
  simpa [Thing.tokens, apartmentThing, List.flatMap_map] using hall

/-! ## The last lone brace -/

/-- Reading on from `s` never meets a lone brace. `start` and `start'` say whether a line
starts before and behind `s`. -/
def Passes (start : Bool) (s : List Char) (start' : Bool) : Prop :=
  ∀ body rest, behindLoneBrace body start (s ++ rest) = behindLoneBrace body start' rest

/-- Two texts without a lone brace have none behind each other. -/
theorem Passes.append {start mid start' : Bool} {s t : List Char} (hs : Passes start s mid)
    (ht : Passes mid t start') : Passes start (s ++ t) start' :=
  fun body => Reads.append (hs body) (ht body)

/-- Texts that begin and end at the start of a line have no lone brace together if none of them has
one. -/
theorem Passes.join {ι : Type} (l : List ι) {s : ι → String}
    (h : ∀ i ∈ l, Passes true (s i).toList true) :
    Passes true (String.join (l.map s)).toList true :=
  fun body => Reads.join l fun i hi => h i hi body

/-- A number inside a line has no lone brace. -/
theorem passes_repr (n : ℕ) : Passes false (Nat.repr n).toList false := by
  intro body
  apply Reads.skip
  intro c hc rest
  have hdigit := forall_isDigit_repr n c hc
  have hbrace : c ≠ '\x7b' := ne_of_isDigit hdigit (by decide)
  have hline : c ≠ '\n' := ne_of_isDigit hdigit (by decide)
  simp only [behindLoneBrace, hbrace, hline, false_and, if_false, decide_false]

/-- The line of a channel has no lone brace. -/
theorem channelLine_passes (i : ℕ) (s : Sensor) :
    Passes true (channelLine (Nat.repr i) s).toList true := by
  have hend : Passes false "/\"]\n".toList true := by
    intro body rest
    rw [String.toList_ofList]
    rfl
  have hhead : Passes true (channelHead s).toList false := by
    intro body rest
    cases s <;> rw [channelHead, String.toList_ofList] <;> rfl
  rw [channelLine_eq, String.toList_append, String.toList_append]
  exact (hhead.append (passes_repr i)).append hend

/-- The brace behind the name of a Thing is not alone in its line. -/
theorem thingHead_passes (i : ℕ) : Passes true (BuildThings.thingHead (Nat.repr i)).toList true := by
  have hcomment : Passes true "    // Thing Sensoren Wohnraum".toList false := by
    intro body rest
    rw [String.toList_ofList]
    rfl
  have hline : Passes false "\n".toList true := by
    intro body rest
    rw [String.toList_ofList]
    rfl
  have hid : Passes true "    Thing topic wohnraumSensoren".toList false := by
    intro body rest
    rw [String.toList_ofList]
    rfl
  have hlabel : Passes false " \"Wohnraum".toList false := by
    intro body rest
    rw [String.toList_ofList]
    rfl
  have hopen : Passes false " Sensoren\" \x7b\n".toList true := by
    intro body rest
    rw [String.toList_ofList]
    rfl
  have hchannels : Passes true "    Channels:\n".toList true := by
    intro body rest
    rw [String.toList_ofList]
    rfl
  have hnumber := passes_repr i
  unfold BuildThings.thingHead
  simp only [String.toList_append, List.append_assoc]
  exact hcomment.append (hnumber.append (hline.append (hid.append (hnumber.append
    (hlabel.append (hnumber.append (hopen.append hchannels)))))))

/-- No line of an apartment's Thing is a lone brace. -/
theorem thingBlock_passes (cfg : Config) (i : ℕ) :
    Passes true (BuildThings.thingBlock (BuildThings.init cfg) (Nat.repr i)).toList true := by
  have hclose : Passes true "    \x7d\n\n".toList true := by
    intro body rest
    rw [String.toList_ofList]
    rfl
  rw [thingBlock_eq, String.toList_append, String.toList_append]
  exact (thingHead_passes i).append
    ((Passes.join _ fun s _ => channelLine_passes i s).append hclose)

/-- Whatever stands in front, reading arrives behind it in some state. -/
theorem behindLoneBrace_append (pre rest : List Char) (body : Option (List Char))
    (start : Bool) : ∃ body' start',
      behindLoneBrace body start (pre ++ rest) = behindLoneBrace body' start' rest := by
  induction pre generalizing body start with
  | nil => exact ⟨body, start, rfl⟩
  | cons c cs ih =>
      rw [List.cons_append, behindLoneBrace]
      split
      · exact ih _ _
      · exact ih _ _

/-- The Bridge header ends with a lone brace, whatever host is spliced into it. -/
theorem behindLoneBrace_bridgeHead (ip : String) (qos : Int32) (rest : List Char) :
    behindLoneBrace none true ((BuildThings.bridgeHead ip qos).toList ++ rest) =
      behindLoneBrace (some rest) true rest := by
  have hend : ∀ body start, behindLoneBrace body start ("] \n\x7b\n".toList ++ rest) =
      behindLoneBrace (some rest) true rest := by
    intro body start
    rw [String.toList_ofList]
    cases start <;> rfl
  unfold BuildThings.bridgeHead
  rw [String.toList_append, List.append_assoc]
  obtain ⟨body, start, hpre⟩ := behindLoneBrace_append _ ("] \n\x7b\n".toList ++ rest) none true
  rw [hpre, hend]

/-! ## The whole file -/

/-- The name of the Bridge, whatever host is spliced into the header. -/
theorem bridgeId_bridgeHead (ip : String) (qos : Int32) (rest : List Char) :
    bridgeId (tokens ((BuildThings.bridgeHead ip qos).toList ++ rest)) = some brokerId := by
  have hhead : ∀ rest, bridgeId (tokens
      ("Bridge mqtt:broker:myWohnraumBroker \"myWohnraumBroker\" [host=\"".toList ++ rest)) =
        some "myWohnraumBroker" := by
    intro rest
    rw [String.toList_ofList]
    rfl
  unfold BuildThings.bridgeHead brokerId
  simp only [String.toList_append, List.append_assoc, hhead]

/-- The things file: the header, the Things and the closing brace. -/
theorem fileText_things (cfg : Config) : fileText cfg .things =
    BuildThings.bridgeHead cfg.openhab_host cfg.qos ++
      BuildThings.thingsText (BuildThings.init cfg) ++ "\x7d" := by
  have htext : fileText cfg .things =
      "" ++ BuildThings.bridgeHead cfg.openhab_host cfg.qos ++
        ("" ++ BuildThings.thingsText (BuildThings.init cfg)) ++ "\x7d" := rfl
  rw [htext, String.empty_append, String.empty_append]

/-- **The things file** of a first call declares, for every host, the Bridge of the house
and in it the Things of the apartments, with the channels of the sensors that are switched
on. -/
theorem readThings_things (cfg : Config) :
    readThings (fileText cfg .things) =
      some ⟨brokerId, (apartments cfg.number).map (apartmentThing (sensorsOn cfg))⟩ := by
  have hthings : Segment (BuildThings.thingsText (BuildThings.init cfg)).toList _ :=
    Segment.join (apartments cfg.number) fun i _ => thingBlock_segment cfg i
  have hpasses : Passes true (BuildThings.thingsText (BuildThings.init cfg)).toList true :=
    Passes.join (apartments cfg.number) fun i _ => thingBlock_passes cfg i
  rw [fileText_things]
  apply readThings_eq ((BuildThings.thingsText (BuildThings.init cfg)).toList ++ "\x7d".toList)
  · simp only [String.toList_append, List.append_assoc, bridgeId_bridgeHead]
  · simp only [String.toList_append, List.append_assoc, behindLoneBrace_bridgeHead]
    rw [hpasses]
    rfl
  · rw [hthings, List.flatMap_map]
    rfl

/-! ## The whole file as one Bridge block -/

/-- The connection to the broker that a configuration asks for. -/
def brokerOf (cfg : Config) : Broker where
  host := cfg.openhab_host
  secure := false
  qos := cfg.qos.toInt.toNat

/-- The Bridge block of a configuration. -/
def blockOf (cfg : Config) : BridgeBlock where
  id := brokerId
  broker := brokerOf cfg
  things := (apartments cfg.number).map (apartmentThing (sensorsOn cfg))

/-- Inside a string the scanner passes over a text without quotes. -/
theorem scan_str_of_forall {s : List Char} (hs : ∀ c ∈ s, c ≠ '"') (rest : List Char) :
    scan (s ++ rest) .str = (s ++ (scan rest .str).1, (scan rest .str).2) := by
  induction s with
  | nil => rfl
  | cons c s ih =>
      have hc := hs c (by simp)
      simp [scan, hc, ih fun d hd => hs d (by simp [hd])]

/-- The rest of a string has no quote in it. -/
theorem forall_ne_scan_str (s : List Char) : ∀ c ∈ (scan s .str).1, c ≠ '"' := by
  induction s with
  | nil => exact fun _ hc => absurd hc List.not_mem_nil
  | cons d s ih =>
      by_cases hd : d = '"'
      · simp [scan, hd]
      · intro c hc
        simp only [scan, hd, if_false, List.mem_cons] at hc
        rcases hc with rfl | hc
        · exact hd
        · exact ih c hc

/-- The header up to its host, whatever follows. -/
theorem tokens_bridgeHead (rest : List Char) :
    tokens ("Bridge mqtt:broker:myWohnraumBroker \"myWohnraumBroker\" [host=\"".toList ++ rest) =
      [.word "Bridge", .word "mqtt", .sym ':', .word "broker", .sym ':', .word brokerId,
        .str brokerId, .sym '[', .word "host", .sym '=', .str (String.ofList (scan rest .str).1)] ++
        (scan rest .str).2 := by
  unfold brokerId
  rw [String.toList_ofList]
  rfl

/-- The header behind its host. -/
theorem scan_bridgeHead_end {qos : Int32} (hqos : ValidQos qos) (rest : List Char) :
    scan (("\", secure=false, qos=" ++ toString qos ++ "] \n\x7b\n").toList ++ rest) .str =
      ([], [.sym ',', .word "secure", .sym '=', .word "false", .sym ',', .word "qos", .sym '=',
        .num (Nat.repr qos.toInt.toNat), .sym ']', .sym '\x7b'] ++ tokens rest) := by
  have hzero : "\", secure=false, qos=" ++ toString (0 : Int32) ++ "] \n\x7b\n" =
      "\", secure=false, qos=0] \n\x7b\n" := by decide
  have hone : "\", secure=false, qos=" ++ toString (1 : Int32) ++ "] \n\x7b\n" =
      "\", secure=false, qos=1] \n\x7b\n" := by decide
  have htwo : "\", secure=false, qos=" ++ toString (2 : Int32) ++ "] \n\x7b\n" =
      "\", secure=false, qos=2] \n\x7b\n" := by decide
  rcases hqos with rfl | rfl | rfl
  · rw [hzero, String.toList_ofList]
    rfl
  · rw [hone, String.toList_ofList]
    rfl
  · rw [htwo, String.toList_ofList]
    rfl

/-- The things file behind the host in its header. -/
def behindHost (cfg : Config) : List Char :=
  ("\", secure=false, qos=" ++ toString cfg.qos ++ "] \n\x7b\n").toList ++
    ((BuildThings.thingsText (BuildThings.init cfg)).toList ++ "\x7d".toList)

/-- The tokens of the things file, whatever host is spliced into it. -/
theorem tokens_things (cfg : Config) : tokens (fileText cfg .things).toList =
    [.word "Bridge", .word "mqtt", .sym ':', .word "broker", .sym ':', .word brokerId,
      .str brokerId, .sym '[', .word "host", .sym '=',
      .str (String.ofList (scan (cfg.openhab_host.toList ++ behindHost cfg) .str).1)] ++
      (scan (cfg.openhab_host.toList ++ behindHost cfg) .str).2 := by
  rw [← tokens_bridgeHead, fileText_things]
  unfold BuildThings.bridgeHead behindHost
  simp only [String.toList_append, List.append_assoc]

/-- The tokens of a things file with a host that can stand between quotes. -/
theorem tokens_things_eq {cfg : Config} (hhost : Quotable cfg.openhab_host)
    (hqos : ValidQos cfg.qos) :
    tokens (fileText cfg .things).toList = (blockOf cfg).tokens brokerId := by
  have hthings : Segment (BuildThings.thingsText (BuildThings.init cfg)).toList _ :=
    Segment.join (apartments cfg.number) fun i _ => thingBlock_segment cfg i
  have hclose : tokens "\x7d".toList = [.sym '\x7d'] := rfl
  rw [tokens_things, scan_str_of_forall fun c hc => (hhost c hc).1]
  unfold behindHost
  rw [scan_bridgeHead_end hqos, hthings, hclose, List.append_nil, String.ofList_toList]
  simp [BridgeBlock.tokens, Broker.tokens, blockOf, brokerOf, List.flatMap_map]

/-- A things file with a host that can stand between quotes is the Bridge block of its
configuration. -/
theorem readBridgeBlock_things {cfg : Config} (hhost : Quotable cfg.openhab_host)
    (hqos : ValidQos cfg.qos) : readBridgeBlock (fileText cfg .things) = some (blockOf cfg) := by
  have hread := bridgeBlock_reads (blockOf cfg) brokerId hhost [] trivial
  rw [List.append_nil, ← tokens_things_eq hhost hqos] at hread
  exact Parsing.runAll_eq_some_iff.mpr hread

/-- **The Bridge block** of a things file has the configured host exactly when this host can
stand between quotes. -/
theorem readBridgeBlock_things_iff {cfg : Config} (hqos : ValidQos cfg.qos) :
    (∃ block, readBridgeBlock (fileText cfg .things) = some block ∧
      block.broker.host = cfg.openhab_host) ↔ Quotable cfg.openhab_host := by
  constructor
  · rintro ⟨block, hread, hhost⟩
    have hrun := Parsing.runAll_eq_some_iff.mp hread
    rw [tokens_things] at hrun
    obtain ⟨hliteral, hplain⟩ := host_of_bridgeBlock hrun
    rw [hhost] at hliteral
    rw [← hliteral] at hplain
    have hquote : ∀ c ∈ cfg.openhab_host.toList, c ≠ '"' := by
      rw [hliteral, String.toList_ofList]
      exact forall_ne_scan_str _
    exact fun c hc => ⟨hquote c hc, hplain c hc⟩
  · intro hhost
    exact ⟨blockOf cfg, readBridgeBlock_things hhost hqos, rfl⟩

end OpenhabConfiguration.Analysis
