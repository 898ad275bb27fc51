import OpenhabConfiguration.Model.SendFiles

/-!
# The first call of `sendFiles` in a virtual machine

No class is initialised before it is needed: `smbSendFiles` reads its login when `sendFiles`
is called, and each builder reads its own copy of the configuration at its first
instantiation. Every value is a call of `getConfigs` of its own, which reads `openHab.ini`
again and answers the empty string when that fails. An initialiser that throws ends the
call with an `Error`, which `sendFiles` does not catch.

`Environment` is the file and the network behind one such call. The static fields of a
class that has not been initialised are not read.
-/

set_option autoImplicit false

namespace OpenhabConfiguration.Model

/-! ## Parsing -/

/-- The zeros of the decimal digits among the values of a Java `char`. -/
def digitZeros : List ℕ :=
  [0x0030, 0x0660, 0x06F0, 0x07C0, 0x0966, 0x09E6, 0x0A66, 0x0AE6, 0x0B66, 0x0BE6, 0x0C66,
    0x0CE6, 0x0D66, 0x0DE6, 0x0E50, 0x0ED0, 0x0F20, 0x1040, 0x1090, 0x17E0, 0x1810, 0x1946,
    0x19D0, 0x1A80, 0x1A90, 0x1B50, 0x1BB0, 0x1C40, 0x1C50, 0xA620, 0xA8D0, 0xA900, 0xA9D0,
    0xA9F0, 0xAA50, 0xABF0, 0xFF10]

/-- `Character.digit` in radix 10. -/
def Character.digit (c : Char) : Option ℕ :=
  (digitZeros.find? fun z => z ≤ c.toNat ∧ c.toNat < z + 10).map fun z =>
    c.toNat - z

/-- `Integer.parseInt`. Without a value it throws a `NumberFormatException`. -/
def Integer.parseInt (s : Option String) : Option Int32 := do
  let s ← s
  let (sign, digits) : ℤ × List Char := match s.toList with
    | '-' :: cs => (-1, cs)
    | '+' :: cs => (1, cs)
    | cs => (1, cs)
  if digits = [] then none
  else
    let values ← digits.mapM Character.digit
    let n := sign * (values.foldl (fun n d => 10 * n + d) 0 : ℕ)
    if Int32.minValue.toInt ≤ n ∧ n ≤ Int32.maxValue.toInt then some (Int32.ofInt n) else none

/-- `Boolean.parseBoolean`, which ignores case and takes everything else for `false`. -/
def Boolean.parseBoolean (s : Option String) : Bool :=
  match s with
  | none => false
  | some s => decide (s.toList.map Char.toLower = "true".toList)

/-! ## Reading the configuration -/

/-- The classes whose initialisers read the configuration. -/
inductive ConfiguredClass where
  | smbSendFiles
  | buildItems
  | buildThings
  | buildRules
  | buildSitemap
deriving DecidableEq, Repr

/-- How a request to the network ends. -/
inductive Reply where
  | ok
  | ioException
  | runtimeException
deriving DecidableEq, Repr

/-- The static fields of `smbSendFiles` that are read from the file. `none` is Java's `null`.
SOURCE: smbSendFiles.java:24-27 -/
structure SmbSendFiles where
  USER_NAME : Option String
  PASSWORD : Option String
  HOST : Option String
  NETWORK_FOLDER : Option String

/-- The file and the network during the first call of `sendFiles`. -/
structure Environment where
  /-- `Ini.get` on the content of `openHab.ini`. A missing section or key yields `null`. -/
  ini : String → String → Option String
  /-- Reading the file fails for a key that a class asks for. -/
  fails : ConfiguredClass → String → String → Bool
  /-- `client.connect` -/
  connect : Option String → Reply
  /-- `connection.authenticate` -/
  authenticate : SmbSendFiles → Reply
  /-- What happens to the files, with the login that has been read. -/
  outcomes : SmbSendFiles → Outcomes

/-- SOURCE: getConfigurations.java:11-19 -/
def Environment.getConfigs (env : Environment) (reader : ConfiguredClass)
    (sectionName keyName : String) : Option String :=
  if env.fails reader sectionName keyName then some "" else env.ini sectionName keyName

/-- The content of the file the repository comes with.
SOURCE: openHab.ini:1-21 -/
def openHabIniFile : String → String → Option String
  | "apartment", "number" => some "10"
  | "perApartment", "temperature" => some "true"
  | "perApartment", "humidity" => some "true"
  | "perApartment", "co2" => some "true"
  | "perApartment", "electricity" => some "true"
  | "properties", "conf_folder" => some "openhab-conf"
  | "properties", "openhab_login_name" => some "openhabian"
  | "properties", "openhab_login_pwd" => some "openhabian"
  | "properties", "openhab_host" => some "192.168.178.79"
  | "properties", "qos" => some "1"
  | _, _ => none

/-! ## The static initialisers -/

/-- SOURCE: smbSendFiles.java:24-27 -/
def SmbSendFiles.clinit (env : Environment) : SmbSendFiles where
  USER_NAME := env.getConfigs .smbSendFiles "properties" "openhab_login_name"
  PASSWORD := env.getConfigs .smbSendFiles "properties" "openhab_login_pwd"
  HOST := env.getConfigs .smbSendFiles "properties" "openhab_host"
  NETWORK_FOLDER := env.getConfigs .smbSendFiles "properties" "conf_folder"

/-- SOURCE: buildItems.java:12-19 -/
def BuildItems.clinit (env : Environment) : Option BuildItems := do
  let read := env.getConfigs .buildItems
  let NUM ← Integer.parseInt (read "apartment" "number")
  return {
    groupHouse := "// Group for whole House\nGroup House\n\n"
    groupApartments := ""
    buildApartments := ""
    NUM := NUM
    TEMP := Boolean.parseBoolean (read "perApartment" "temperature")
    HUM := Boolean.parseBoolean (read "perApartment" "humidity")
    CO2 := Boolean.parseBoolean (read "perApartment" "co2")
    ELEC := Boolean.parseBoolean (read "perApartment" "electricity") }

/-- The host is only concatenated, which turns `null` into a text.
SOURCE: buildThings.java:12-20 -/
def BuildThings.clinit (env : Environment) : Option BuildThings := do
  let read := env.getConfigs .buildThings
  let num ← Integer.parseInt (read "apartment" "number")
  let qos ← Integer.parseInt (read "properties" "qos")
  return {
    bridgeString := ""
    thingString := ""
    num := num
    temp := Boolean.parseBoolean (read "perApartment" "temperature")
    hum := Boolean.parseBoolean (read "perApartment" "humidity")
    co2 := Boolean.parseBoolean (read "perApartment" "co2")
    elec := Boolean.parseBoolean (read "perApartment" "electricity")
    ip := (read "properties" "openhab_host").getD "null"
    qos := qos }

/-- SOURCE: buildRules.java:12-13 -/
def BuildRules.clinit (env : Environment) : Option BuildRules := do
  let num ← Integer.parseInt (env.getConfigs .buildRules "apartment" "number")
  return { stringRules := "", num := num }

/-- SOURCE: buildSitemap.java:12-18 -/
def BuildSitemap.clinit (env : Environment) : Option BuildSitemap := do
  let read := env.getConfigs .buildSitemap
  let num ← Integer.parseInt (read "apartment" "number")
  return {
    stringSitemap := ""
    stringLables := ""
    num := num
    TEMP := Boolean.parseBoolean (read "perApartment" "temperature")
    HUM := Boolean.parseBoolean (read "perApartment" "humidity")
    CO2 := Boolean.parseBoolean (read "perApartment" "co2")
    ELEC := Boolean.parseBoolean (read "perApartment" "electricity") }

/-! ## The call -/

/-- What can end the first call: an exception of the steps behind the initialisation, another
`RuntimeException` of the network, or an `ExceptionInInitializerError`. -/
inductive Throwable where
  | exception (e : JavaException)
  | runtime
  | initializer
deriving DecidableEq, Repr

/-- A method during whose run classes are initialised. -/
abbrev Starting (α : Type) := ExceptT Throwable (StateT World Option) α

/-- A method that initialises no class. -/
def Starting.ofJava {α : Type} (method : Java α) : Starting α :=
  ExceptT.adapt Throwable.exception method

/-- The first instantiation of a class. -/
def Starting.initialise {σ : Type} (statics : Option σ) (put : σ → Jvm → Jvm) : Starting Unit :=
  match statics with
  | some st => modify fun w => { w with jvm := put st w.jvm }
  | none => throw .initializer

/-- SOURCE: smbSendFiles.java:87-112 -/
def Environment.authentication (env : Environment) (smb : SmbSendFiles) :
    Starting (Option Session) :=
  match env.connect smb.HOST with
  | .ioException => return none
  | .runtimeException => throw .runtime
  | .ok =>
      match smb.PASSWORD with
      | none => throw (.exception .nullPointer)
      | some _ =>
          match env.authenticate smb with
          | .ioException => return none
          | .runtimeException => throw .runtime
          | .ok => return some ⟨⟩

/-- The four builders are created before anything is written.
SOURCE: smbSendFiles.java:41-44 -/
def Environment.newBuilders (env : Environment) : Starting Unit := do
  Starting.initialise (BuildItems.clinit env) fun st jvm => { jvm with items := st }
  Starting.initialise (BuildThings.clinit env) fun st jvm => { jvm with things := st }
  Starting.initialise (BuildRules.clinit env) fun st jvm => { jvm with rules := st }
  Starting.initialise (BuildSitemap.clinit env) fun st jvm => { jvm with sitemap := st }

/-- SOURCE: smbSendFiles.java:46-82 -/
def sendInSession (o : Outcomes) (session : Option Session) : Java Bool :=
  catchIOException
    (do
      sendFile o session .items
      sendFile o session .things
      sendFile o session .rules
      sendFile o session .sitemap
      return true)
    (return false)

/-- The first call of `sendFiles`. Neither the authentication nor an initialiser throws an
`IOException`, which is all that the `catch` clause is for.
SOURCE: smbSendFiles.java:37-85 -/
def Environment.sendFiles (env : Environment) : Starting Bool := do
  let smb := SmbSendFiles.clinit env
  let session ← env.authentication smb
  env.newBuilders
  Starting.ofJava (sendInSession (env.outcomes smb) session)

end OpenhabConfiguration.Model
