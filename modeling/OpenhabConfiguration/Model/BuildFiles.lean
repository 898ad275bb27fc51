import OpenhabConfiguration.Library.CountedLoop

/-!
# The four builders of `openhabConfiguration.buildFiles`

`buildItems`, `buildThings`, `buildRules` and `buildSitemap` each print one openHAB file.
The text is accumulated in static fields that every instance of the class shares and that
no method resets, so a class is modelled by the record of its static fields, and a method
is a computation on that record. A method whose loop is never left returns nothing at all
(`Option`); a method that builds a file returns the text it has printed, or nothing when
`FileWriter`'s constructor throws and the method returns `false`.

`Jvm` is the four classes of one virtual machine. Every class reads its own copy of the
configuration when it is initialised (`Jvm.fresh`).
-/

set_option autoImplicit false

namespace OpenhabConfiguration.Model

open CountedLoop

/-! ## The configuration -/

/-- The values of `openHab.ini` that end up in a file or a message, after parsing.
SOURCE: openHab.ini:1-21 -/
structure Config where
  /-- `apartment/number` -/
  number : Int32
  /-- `perApartment/temperature` -/
  temperature : Bool
  /-- `perApartment/humidity` -/
  humidity : Bool
  /-- `perApartment/co2` -/
  co2 : Bool
  /-- `perApartment/electricity` -/
  electricity : Bool
  /-- `properties/openhab_host` -/
  openhab_host : String
  /-- `properties/conf_folder` -/
  conf_folder : String
  /-- `properties/qos` -/
  qos : Int32
deriving DecidableEq

/-- The configuration the repository comes with.
SOURCE: openHab.ini:1-21 -/
def openHabIni : Config where
  number := 10
  temperature := true
  humidity := true
  co2 := true
  electricity := true
  openhab_host := "192.168.178.79"
  conf_folder := "openhab-conf"
  qos := 1

/-- A method of a class with static fields `σ`: it returns a value and the fields
afterwards, or is still running after any number of steps. -/
abbrev Method (σ α : Type) := StateT σ Option α

/-- What the four `build…File` methods share: when the file opens, the method prints its
text and returns `true`; otherwise it returns `false`, and neither the file nor a static
field has changed. The text is returned for `true`. -/
def writeFile {σ : Type} (opens : Bool) (text : Method σ String) : Method σ (Option String) :=
  if opens then some <$> text else pure none

/-! ## `buildItems` -/

/-- The static fields of `buildItems`. The four flags are read and never used.
SOURCE: buildItems.java:12-19 -/
structure BuildItems where
  groupHouse : String
  groupApartments : String
  buildApartments : String
  NUM : Int32
  TEMP : Bool
  HUM : Bool
  CO2 : Bool
  ELEC : Bool

namespace BuildItems

/-- The static initialisers.
SOURCE: buildItems.java:12-19 -/
def init (cfg : Config) : BuildItems where
  groupHouse := "// Group for whole House\nGroup House\n\n"
  groupApartments := ""
  buildApartments := ""
  NUM := cfg.number
  TEMP := cfg.temperature
  HUM := cfg.humidity
  CO2 := cfg.co2
  ELEC := cfg.electricity

/-- The line of one apartment's group.
SOURCE: buildItems.java:43 -/
def groupLine (i : String) : String := "Group Wohnraum" ++ i ++ " (House)\n"

/-- The items of one apartment.
SOURCE: buildItems.java:51-70 -/
def apartmentBlock (i : String) : String :=
  "\n// Wohnraum" ++ i ++ "\n" ++

  "Number Wohnraum" ++ i ++ "_Temperature    \"Temperatur [%.1f °C]\"                               <temperature>   " ++
    "(House, Wohnraum" ++ i ++ ")  \x7bchannel=\"mqtt:topic:myWohnraumBroker:wohnraumSensoren" ++ i ++ ":temperature\"\x7d\n" ++

  "Number Wohnraum" ++ i ++ "_Humidity       \"Luftfeuchtigkeit [%.1f %%]\"                         <humidity>      " ++
    "(House, Wohnraum" ++ i ++ ")  \x7bchannel=\"mqtt:topic:myWohnraumBroker:wohnraumSensoren" ++ i ++ ":humidity\"\x7d\n" ++

  "Number Wohnraum" ++ i ++ "_Electricity    \"Stromzähler [%.1f kWH]\"                             <energy>        " ++
    "(House, Wohnraum" ++ i ++ ")  \x7bchannel=\"mqtt:topic:myWohnraumBroker:wohnraumSensoren" ++ i ++ ":electricity\"\x7d\n" ++

  "Number Wohnraum" ++ i ++ "_CO2            \"Kohlsenstoffdioxidgehalt [%.1f ppm]\"                <carbondioxide>       " ++
    "(House, Wohnraum" ++ i ++ ")  \x7bchannel=\"mqtt:topic:myWohnraumBroker:wohnraumSensoren" ++ i ++ ":kohlenstoffdioxid\"\x7d\n" ++

  "Number Wohnraum" ++ i ++ "_Cost           \"Stromkosten [%.2f €]\"                               <price>             " ++
    "(House, Wohnraum" ++ i ++ ")  \n" ++

  "String Wohnraum" ++ i ++ "_Fire           \"Feueralarm: [%s]\"                                   <siren>             " ++
    "(House, Wohnraum" ++ i ++ ")\n\n"

/-- SOURCE: buildItems.java:40-47 -/
def getGroupApartments : Method BuildItems String := fun st => do
  let groupApartments := st.groupApartments ++ "// Group per apartment\n"
  let groupApartments ← forTo st.NUM (fun i s => s ++ groupLine (toString i)) groupApartments
  let groupApartments := groupApartments ++ "\n"
  return (groupApartments, { st with groupApartments := groupApartments })

/-- SOURCE: buildItems.java:49-73 -/
def getBuildApartments : Method BuildItems String := fun st => do
  let buildApartments ←
    forTo st.NUM (fun i s => s ++ apartmentBlock (toString i)) st.buildApartments
  return (buildApartments, { st with buildApartments := buildApartments })

/-- SOURCE: buildItems.java:21-38 -/
def buildItemsFile (opens : Bool) : Method BuildItems (Option String) :=
  writeFile opens do
    let house := (← get).groupHouse
    let groups ← getGroupApartments
    let apartments ← getBuildApartments
    return house ++ groups ++ apartments

end BuildItems

/-! ## `buildThings` -/

/-- The static fields of `buildThings`.
SOURCE: buildThings.java:12-20 -/
structure BuildThings where
  bridgeString : String
  thingString : String
  num : Int32
  temp : Bool
  hum : Bool
  co2 : Bool
  elec : Bool
  ip : String
  qos : Int32

namespace BuildThings

/-- The static initialisers.
SOURCE: buildThings.java:12-20 -/
def init (cfg : Config) : BuildThings where
  bridgeString := ""
  thingString := ""
  num := cfg.number
  temp := cfg.temperature
  hum := cfg.humidity
  co2 := cfg.co2
  elec := cfg.electricity
  ip := cfg.openhab_host
  qos := cfg.qos

/-- SOURCE: buildThings.java:52-54 -/
def thingHead (i : String) : String :=
  "    // Thing Sensoren Wohnraum" ++ i ++ "\n" ++
  "    Thing topic wohnraumSensoren" ++ i ++ " \"Wohnraum" ++ i ++ " Sensoren\" \x7b\n" ++
  "    Channels:\n"

/-- SOURCE: buildThings.java:56 -/
def temperatureChannel (i : String) : String :=
  "        Type number : temperature   \"Temperatur\"            [stateTopic=\"apartment/temperature" ++ i ++ "/\"]\n"

/-- SOURCE: buildThings.java:59 -/
def humidityChannel (i : String) : String :=
  "        Type number : humidity      \"Luftfeuchtigkeit\"      [stateTopic=\"apartment/humidity" ++ i ++ "/\"]\n"

/-- SOURCE: buildThings.java:62 -/
def electricityChannel (i : String) : String :=
  "        Type number : electricity   \"Stromzähler\"           [stateTopic=\"apartment/electricity" ++ i ++ "/\"]\n"

/-- SOURCE: buildThings.java:65 -/
def co2Channel (i : String) : String :=
  "        Type number : kohlenstoffdioxid   \"Kolhelnstoffdioxid\"           [stateTopic=\"apartment/kohlenstoffdioxid" ++ i ++ "/\"]\n"

/-- One round of the loop of `buildThings`.
SOURCE: buildThings.java:52-67 -/
def thingRound (st : BuildThings) (i thingString : String) : String :=
  let thingString := thingString ++ thingHead i
  let thingString := if st.temp then thingString ++ temperatureChannel i else thingString
  let thingString := if st.hum then thingString ++ humidityChannel i else thingString
  let thingString := if st.elec then thingString ++ electricityChannel i else thingString
  let thingString := if st.co2 then thingString ++ co2Channel i else thingString
  thingString ++ "    \x7d\n\n"

/-- SOURCE: buildThings.java:50-70 -/
def buildThings : Method BuildThings String := fun st => do
  let thingString ← forTo st.num (fun i s => thingRound st (toString i) s) st.thingString
  return (thingString, { st with thingString := thingString })

/-- The line that opens the Bridge block.
SOURCE: buildThings.java:42 -/
def bridgeHead (ip : String) (qos : Int32) : String :=
  "Bridge mqtt:broker:myWohnraumBroker \"myWohnraumBroker\" [host=\"" ++ ip ++
    "\", secure=false, qos=" ++ toString qos ++ "] \n\x7b\n"

/-- `none` is Java's `null`.
SOURCE: buildThings.java:40-48 -/
def buildBridge : Method BuildThings (Option String) := do
  let st ← get
  if st.qos = 0 ∨ st.qos = 1 ∨ st.qos = 2 then
    let bridgeString := st.bridgeString ++ bridgeHead st.ip st.qos
    let things ← buildThings
    let bridgeString := bridgeString ++ things
    let bridgeString := bridgeString ++ "\x7d"
    modify fun st => { st with bridgeString := bridgeString }
    return some bridgeString
  else return none

/-- `PrintWriter.print` of a string, which prints `null` for a null reference. -/
def print (s : Option String) : String := s.getD "null"

/-- SOURCE: buildThings.java:22-37 -/
def buildThingsFile (opens : Bool) : Method BuildThings (Option String) :=
  writeFile opens (print <$> buildBridge)

end BuildThings

/-! ## `buildRules` -/

/-- The static fields of `buildRules`.
SOURCE: buildRules.java:12-13 -/
structure BuildRules where
  stringRules : String
  num : Int32

namespace BuildRules

/-- The static initialisers.
SOURCE: buildRules.java:12-13 -/
def init (cfg : Config) : BuildRules where
  stringRules := ""
  num := cfg.number

/-- SOURCE: buildRules.java:36-41 -/
def costRule (i : String) : String :=
  "rule \"CalculateElectricityCosts" ++ i ++ "\"\n" ++
  "when\n" ++
  "    Item Wohnraum" ++ i ++ "_Electricity received update\n" ++
  "then\n" ++
  "    Wohnraum" ++ i ++ "_Cost.sendCommand(Wohnraum" ++ i ++ "_Electricity.state as DecimalType * 0.3)\n" ++
  "end\n\n"

/-- SOURCE: buildRules.java:44-51 -/
def alarmRule (i : String) : String :=
  "rule \"Burning-Alarm" ++ i ++ "\"\n" ++
  "when\n" ++
  "    Item Wohnraum" ++ i ++ "_CO2 received update\n" ++
  "then\n" ++
  "    if(Wohnraum" ++ i ++ "_CO2.state as DecimalType > 9 && Wohnraum" ++ i ++ "_Temperature.state as DecimalType > 35)\x7b\n" ++
  "        Wohnraum" ++ i ++ "_Fire.sendCommand(\"Feuer\")\n" ++
  "    \x7d\n" ++
  "end\n\n"

/-- SOURCE: buildRules.java:32-56 -/
def buildRules : Method BuildRules String := fun st => do
  let stringRules ← forTo st.num
    (fun i s => (s ++ costRule (toString i)) ++ alarmRule (toString i)) st.stringRules
  return (stringRules, { st with stringRules := stringRules })

/-- SOURCE: buildRules.java:15-30 -/
def buildRulesFile (opens : Bool) : Method BuildRules (Option String) :=
  writeFile opens buildRules

end BuildRules

/-! ## `buildSitemap` -/

/-- The static fields of `buildSitemap`. The four flags are read and never used.
SOURCE: buildSitemap.java:12-18 -/
structure BuildSitemap where
  stringSitemap : String
  stringLables : String
  num : Int32
  TEMP : Bool
  HUM : Bool
  CO2 : Bool
  ELEC : Bool

namespace BuildSitemap

/-- The static initialisers.
SOURCE: buildSitemap.java:12-18 -/
def init (cfg : Config) : BuildSitemap where
  stringSitemap := ""
  stringLables := ""
  num := cfg.number
  TEMP := cfg.temperature
  HUM := cfg.humidity
  CO2 := cfg.co2
  ELEC := cfg.electricity

/-- The Frame of one apartment.
SOURCE: buildSitemap.java:47-54 -/
def frameBlock (i : String) : String :=
  "\n     Frame label=\"Wohnraum " ++ i ++ "\"\x7b\n" ++
  "        Text item=Wohnraum" ++ i ++ "_Temperature\n" ++
  "        Text item=Wohnraum" ++ i ++ "_Humidity\n" ++
  "        Text item=Wohnraum" ++ i ++ "_Electricity\n" ++
  "        Text item=Wohnraum" ++ i ++ "_CO2\n" ++
  "        Text item=Wohnraum" ++ i ++ "_Cost\n" ++
  "        Text item=Wohnraum" ++ i ++ "_Fire\n" ++
  "    \x7d\n"

/-- SOURCE: buildSitemap.java:44-57 -/
def buildLables : Method BuildSitemap String := fun st => do
  let stringLables ← forTo st.num (fun i s => s ++ frameBlock (toString i)) st.stringLables
  return (stringLables, { st with stringLables := stringLables })

/-- SOURCE: buildSitemap.java:37-42 -/
def buildSitemap : Method BuildSitemap String := do
  let stringSitemap := (← get).stringSitemap ++ "sitemap apartment label=\"Wohnräume\" \x7b"
  let lables ← buildLables
  let stringSitemap := stringSitemap ++ lables
  let stringSitemap := stringSitemap ++ "\x7d"
  modify fun st => { st with stringSitemap := stringSitemap }
  return stringSitemap

/-- SOURCE: buildSitemap.java:20-35 -/
def buildSitemapFile (opens : Bool) : Method BuildSitemap (Option String) :=
  writeFile opens buildSitemap

end BuildSitemap

/-! ## The four classes of one virtual machine -/

/-- The four files, in the order in which `sendFiles` builds them. -/
inductive ConfigFile where
  | items
  | things
  | rules
  | sitemap
deriving DecidableEq, Repr

/-- The static fields of the four builders in one virtual machine. -/
structure Jvm where
  items : BuildItems
  things : BuildThings
  rules : BuildRules
  sitemap : BuildSitemap

/-- The classes as their static initialisers leave them. -/
def Jvm.fresh (cfg : Config) : Jvm where
  items := BuildItems.init cfg
  things := BuildThings.init cfg
  rules := BuildRules.init cfg
  sitemap := BuildSitemap.init cfg

/-- A call of the method that builds `file`, on any instance of its class. -/
def Jvm.buildFile (file : ConfigFile) (opens : Bool) : Method Jvm (Option String) := fun jvm =>
  match file with
  | .items => do
      let (r, items) ← BuildItems.buildItemsFile opens jvm.items
      return (r, { jvm with items := items })
  | .things => do
      let (r, things) ← BuildThings.buildThingsFile opens jvm.things
      return (r, { jvm with things := things })
  | .rules => do
      let (r, rules) ← BuildRules.buildRulesFile opens jvm.rules
      return (r, { jvm with rules := rules })
  | .sitemap => do
      let (r, sitemap) ← BuildSitemap.buildSitemapFile opens jvm.sitemap
      return (r, { jvm with sitemap := sitemap })

/-- A call of a builder: the file it builds, and whether `FileWriter` opens it. -/
structure BuildCall where
  file : ConfigFile
  opens : Bool
deriving DecidableEq, Repr

/-- Calls one after the other, in one virtual machine. -/
def Jvm.buildFiles : List BuildCall → Method Jvm (List (Option String))
  | [] => pure []
  | call :: calls => do
      let r ← Jvm.buildFile call.file call.opens
      let rs ← Jvm.buildFiles calls
      return r :: rs

end OpenhabConfiguration.Model
