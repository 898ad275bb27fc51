import OpenhabConfiguration.Analysis.BridgeFile
import OpenhabConfiguration.Analysis.FirstCall

/-!
# Reads of the configuration that fail

`getConfigs` answers a failing read with the empty string. `parseInt` rejects it, and the
first call throws. A failing read of the login either keeps the call from returning `true`
or has no part in the files. But `parseBoolean` takes the empty string for `false`, and the
host is spliced into the Bridge as it is: when `buildThings` is initialised so, the call can
return `true` with another things file (`uploads_same_iff`).
-/

set_option autoImplicit false

namespace OpenhabConfiguration.Analysis

open Interface Model

/-! ## The things files of two configurations -/

/-- The headers of two hosts are the same text only for the same host. -/
theorem bridgeHead_inj {ip ip' : String} {qos : Int32} :
    BuildThings.bridgeHead ip qos = BuildThings.bridgeHead ip' qos ↔ ip = ip' := by
  constructor
  · intro h
    unfold BuildThings.bridgeHead at h
    simpa only [String.append_assoc, String.append_right_inj, String.append_left_inj] using h
  · exact congrArg fun ip => BuildThings.bridgeHead ip qos

/-- What the things file shows of its configuration, beside the number and the `qos`: the
host, and the flags when there is an apartment. -/
theorem fileText_things_eq_iff {cfg cfg' : Config} (hnumber : cfg.number = cfg'.number)
    (hqos : cfg.qos = cfg'.qos) :
    fileText cfg .things = fileText cfg' .things ↔
      cfg.openhab_host = cfg'.openhab_host ∧
        (0 < cfg.number → ∀ s, flag cfg s = flag cfg' s) := by
  have hbody : (0 < cfg.number → ∀ s, flag cfg s = flag cfg' s) →
      BuildThings.thingsText (BuildThings.init cfg) =
        BuildThings.thingsText (BuildThings.init cfg') := by
    intro hflags
    unfold BuildThings.thingsText
    apply congrArg String.join
    show (apartments cfg.number).map _ = (apartments cfg'.number).map _
    rw [← hnumber]
    apply List.map_congr_left
    intro i hi
    have hpos : 0 < cfg.number := by
      by_contra hnot
      rw [apartments_eq_nil (Int32.not_lt.mp hnot)] at hi
      exact List.not_mem_nil hi
    have hon : sensorsOn cfg = sensorsOn cfg' := List.filter_congr fun s _ => hflags hpos s
    rw [thingBlock_eq, thingBlock_eq, hon]
  constructor
  · intro h
    have hflags : 0 < cfg.number → ∀ s, flag cfg s = flag cfg' s := by
      intro hpos s
      have hread := readThings_things cfg
      rw [h, readThings_things, ← hnumber, Option.some.injEq] at hread
      have hthings := List.map_inj_left.mp (congrArg Bridge.things hread) 1 (one_mem_apartments hpos)
      have hids : (sensorsOn cfg').map Sensor.channelId = (sensorsOn cfg).map Sensor.channelId := by
        have hchannels := congrArg (fun t => t.channels.map Channel.id) hthings
        simp only [apartmentThing, List.map_map] at hchannels
        exact hchannels
      have hon : sensorsOn cfg' = sensorsOn cfg :=
        List.map_injective_iff.mpr (fun _ _ => Sensor.channelId_inj.mp) hids
      have hmem : flag cfg s = true ↔ flag cfg' s = true := by
        rw [← mem_sensorsOn, ← mem_sensorsOn, hon]
      exact Bool.eq_iff_iff.mpr hmem
    refine ⟨?_, hflags⟩
    rw [fileText_things, fileText_things, hbody hflags, hqos, String.append_left_inj,
      String.append_left_inj, bridgeHead_inj] at h
    exact h
  · rintro ⟨hhost, hflags⟩
    rw [fileText_things, fileText_things, hbody hflags, hhost, hqos]

/-! ## The static fields behind failing reads -/

/-- No read of a number fails. -/
structure NumbersRead (env : Environment) : Prop where
  items : env.fails .buildItems "apartment" "number" = false
  things : env.fails .buildThings "apartment" "number" = false
  qos : env.fails .buildThings "properties" "qos" = false
  rules : env.fails .buildRules "apartment" "number" = false
  sitemap : env.fails .buildSitemap "apartment" "number" = false

/-- What `buildThings` reads of a configuration. -/
def seen (env : Environment) (cfg : Config) : Config :=
  let read := env.getConfigs .buildThings
  { cfg with
    temperature := Boolean.parseBoolean (read "perApartment" "temperature")
    humidity := Boolean.parseBoolean (read "perApartment" "humidity")
    co2 := Boolean.parseBoolean (read "perApartment" "co2")
    electricity := Boolean.parseBoolean (read "perApartment" "electricity")
    openhab_host := (read "properties" "openhab_host").getD "null" }

/-- The static fields are those of a configuration, up to the flags that the items and the
sitemap do not use. -/
structure StartsFrom (jvm : Jvm) (cfg : Config) : Prop where
  items : ∃ t h c e, jvm.items =
    { BuildItems.init cfg with TEMP := t, HUM := h, CO2 := c, ELEC := e }
  things : jvm.things = BuildThings.init cfg
  rules : jvm.rules = BuildRules.init cfg
  sitemap : ∃ t h c e, jvm.sitemap =
    { BuildSitemap.init cfg with TEMP := t, HUM := h, CO2 := c, ELEC := e }

variable {env : Environment} {cfg : Config}

/-- A failing read of a number ends the initialisation. -/
theorem numbersRead_of_statics {jvm : Jvm} (h : statics env = some jvm) : NumbersRead env := by
  obtain ⟨hitems, hthings, hrules, hsitemap⟩ := clinit_of_statics h
  have hread : ∀ {reader sectionName keyName n},
      Integer.parseInt (env.getConfigs reader sectionName keyName) = some n →
        env.fails reader sectionName keyName = false := by
    intro reader sectionName keyName n hparse
    rw [parseInt_getConfigs] at hparse
    split at hparse
    · cases hparse
    · rename_i hfails
      exact Bool.not_eq_true _ ▸ hfails
  obtain ⟨n₁, hn₁, -⟩ := Option.bind_eq_some_iff.mp hitems
  obtain ⟨n₂, hn₂, hthings⟩ := Option.bind_eq_some_iff.mp hthings
  obtain ⟨n₃, hn₃, -⟩ := Option.bind_eq_some_iff.mp hthings
  obtain ⟨n₄, hn₄, -⟩ := Option.bind_eq_some_iff.mp hrules
  obtain ⟨n₅, hn₅, -⟩ := Option.bind_eq_some_iff.mp hsitemap
  exact ⟨hread hn₁, hread hn₂, hread hn₃, hread hn₄, hread hn₅⟩

/-- When the numbers are read, the initialisers end, and the fields are those of what has been read.
-/
theorem statics_of_numbersRead (hcfg : readConfig env.ini = some cfg) (h : NumbersRead env) :
    ∃ jvm, statics env = some jvm ∧ StartsFrom jvm (seen env cfg) := by
  obtain ⟨number, hnumber, hcfg⟩ := Option.bind_eq_some_iff.mp hcfg
  obtain ⟨qos, hqos, hcfg⟩ := Option.bind_eq_some_iff.mp hcfg
  cases hcfg
  have hread : ∀ {reader sectionName keyName}, env.fails reader sectionName keyName = false →
      Integer.parseInt (env.getConfigs reader sectionName keyName) =
        Integer.parseInt (env.ini sectionName keyName) := by
    intro reader sectionName keyName hfails
    rw [parseInt_getConfigs, hfails]
    rfl
  simp only [statics, BuildItems.clinit, BuildThings.clinit, BuildRules.clinit,
    BuildSitemap.clinit, hread h.items, hread h.things, hread h.qos, hread h.rules,
    hread h.sitemap, hnumber, hqos, Option.bind_eq_bind, Option.bind_some, Option.pure_def]
  exact ⟨_, rfl, ⟨_, _, _, _, rfl⟩, rfl, rfl, _, _, _, _, rfl⟩

/-- The flags of the items and the sitemap have no part in the files. -/
theorem textOf_of_startsFrom {jvm : Jvm} (h : StartsFrom jvm cfg) (file : ConfigFile) :
    textOf jvm file = generated cfg file := by
  rw [← textOf_fresh, textOf_eq, textOf_eq]
  obtain ⟨items, things, rules, sitemap⟩ := jvm
  obtain ⟨⟨t, hum, c, e, hitems⟩, hthings, hrules, t', hum', c', e', hsitemap⟩ := h
  dsimp only at hitems hthings hrules hsitemap
  subst hitems hthings hrules hsitemap
  cases file with
  | items =>
      show (BuildItems.buildItemsFile true _).bind _ =
        (BuildItems.buildItemsFile true (BuildItems.init cfg)).bind _
      by_cases hmax : cfg.number = Int32.maxValue
      · rw [BuildItems.buildItemsFile_maxValue hmax,
          @BuildItems.buildItemsFile_maxValue (BuildItems.init cfg) hmax]
      · rw [BuildItems.buildItemsFile_eq hmax,
          @BuildItems.buildItemsFile_eq (BuildItems.init cfg) hmax]
        rfl
  | things => rfl
  | rules => rfl
  | sitemap =>
      show (BuildSitemap.buildSitemapFile true _).bind _ =
        (BuildSitemap.buildSitemapFile true (BuildSitemap.init cfg)).bind _
      by_cases hmax : cfg.number = Int32.maxValue
      · rw [BuildSitemap.buildSitemapFile_maxValue hmax,
          @BuildSitemap.buildSitemapFile_maxValue (BuildSitemap.init cfg) hmax]
      · rw [BuildSitemap.buildSitemapFile_eq hmax,
          @BuildSitemap.buildSitemapFile_eq (BuildSitemap.init cfg) hmax]
        rfl

/-! ## What the things file shows of a failing read -/

/-- The key of the flag of a sensor.
SOURCE: buildThings.java:15-18 -/
def flagKey : Sensor → String
  | .temperature => "temperature"
  | .humidity => "humidity"
  | .electricity => "electricity"
  | .co2 => "co2"

/-- The things file is rendered, and shows a read of `buildThings` that has failed: that of
a host that is not empty, or that of a flag that is set, when there is an apartment. -/
def Distorts (env : Environment) (cfg : Config) : Prop :=
  ValidQos cfg.qos ∧
    ((env.fails .buildThings "properties" "openhab_host" = true ∧ cfg.openhab_host ≠ "") ∨
      (0 < cfg.number ∧
        ∃ s, env.fails .buildThings "perApartment" (flagKey s) = true ∧ flag cfg s = true))

/-- The host that is printed: the configured one, or none when its read has failed. -/
theorem seen_host (hcfg : readConfig env.ini = some cfg) : (seen env cfg).openhab_host =
    if env.fails .buildThings "properties" "openhab_host" then "" else cfg.openhab_host := by
  obtain ⟨number, -, hcfg⟩ := Option.bind_eq_some_iff.mp hcfg
  obtain ⟨qos, -, hcfg⟩ := Option.bind_eq_some_iff.mp hcfg
  cases hcfg
  simp only [seen, Environment.getConfigs]
  split <;> rfl

/-- A read that fails yields what `parseBoolean` takes for `false`. -/
theorem parseBoolean_getConfigs (env : Environment) (reader : ConfiguredClass)
    (sectionName keyName : String) :
    Boolean.parseBoolean (env.getConfigs reader sectionName keyName) =
      if env.fails reader sectionName keyName then false
      else Boolean.parseBoolean (env.ini sectionName keyName) := by
  unfold Environment.getConfigs
  split
  · decide
  · rfl

/-- The flag that is used for a sensor: the configured one, or `false` when its read has failed. -/
theorem seen_flag (hcfg : readConfig env.ini = some cfg) (s : Sensor) : flag (seen env cfg) s =
    if env.fails .buildThings "perApartment" (flagKey s) then false else flag cfg s := by
  obtain ⟨number, -, hcfg⟩ := Option.bind_eq_some_iff.mp hcfg
  obtain ⟨qos, -, hcfg⟩ := Option.bind_eq_some_iff.mp hcfg
  cases hcfg
  cases s <;> exact parseBoolean_getConfigs env .buildThings "perApartment" _

/-- The things file is that of the configuration unless a failed read shows in it. -/
theorem things_eq_iff (hcfg : readConfig env.ini = some cfg) (hqos : ValidQos cfg.qos) :
    fileText (seen env cfg) .things = fileText cfg .things ↔ ¬ Distorts env cfg := by
  rw [@fileText_things_eq_iff (seen env cfg) cfg rfl rfl, seen_host hcfg]
  have hflag : (∀ s, flag (seen env cfg) s = flag cfg s) ↔
      ¬ ∃ s, env.fails .buildThings "perApartment" (flagKey s) = true ∧ flag cfg s = true := by
    rw [not_exists]
    apply forall_congr'
    intro s
    rw [seen_flag hcfg]
    cases env.fails .buildThings "perApartment" (flagKey s) <;> cases flag cfg s <;> simp
  have hhost : (if env.fails .buildThings "properties" "openhab_host" = true then ""
        else cfg.openhab_host) = cfg.openhab_host ↔
      ¬ (env.fails .buildThings "properties" "openhab_host" = true ∧ cfg.openhab_host ≠ "") := by
    cases env.fails .buildThings "properties" "openhab_host" with
    | false => simp
    | true => simp [@eq_comm _ ""]
  have hnumber : (0 < (seen env cfg).number → ∀ s, flag (seen env cfg) s = flag cfg s) ↔
      ¬ (0 < cfg.number ∧
        ∃ s, env.fails .buildThings "perApartment" (flagKey s) = true ∧ flag cfg s = true) := by
    rw [hflag, not_and]
    rfl
  rw [hhost, hnumber, Distorts, ← not_or]
  exact not_congr (and_iff_right hqos).symm

/-- Below the largest `int`, nothing but a distorted things file tells a failing read. -/
theorem generated_seen (hcfg : readConfig env.ini = some cfg) (hmax : cfg.number ≠ Int32.maxValue)
    (h : ¬ Distorts env cfg) (file : ConfigFile) :
    generated (seen env cfg) file = generated cfg file := by
  by_cases hfile : file = .things
  · subst hfile
    by_cases hqos : ValidQos cfg.qos
    · rw [generated_eq hmax .things fun _ => hqos,
        @generated_eq (seen env cfg) hmax .things fun _ => hqos]
      exact congrArg some ((things_eq_iff hcfg hqos).mpr h)
    · rw [generated, generated, @buildFile_null (Jvm.fresh cfg) hqos,
        @buildFile_null (Jvm.fresh (seen env cfg)) hqos]
      rfl
  · rw [generated_eq hmax file fun heq => absurd heq hfile,
      @generated_eq (seen env cfg) hmax file fun heq => absurd heq hfile]
    exact congrArg some (@fileText_congr (seen env cfg) cfg rfl file hfile)

/-! ## The uploads behind failing reads -/

/-- A session is made and the share is connected for every file, with the login that has been
read. -/
structure LogsIn (env : Environment) : Prop where
  session : login env = .ok (some ⟨⟩)
  connects : ∀ file, (env.outcomes (SmbSendFiles.clinit env)).connects file = true

/-- The environment in which no read fails. -/
def readable (env : Environment) : Environment := { env with fails := fun _ _ _ => false }

/-- Nothing but reads of the configuration fails: the files open and are copied, and the
login in the file is accepted. What another login meets is left open. -/
structure OnlyReadsFail (env : Environment) : Prop where
  opens : ∀ smb file, (env.outcomes smb).opens file = true
  copies : ∀ smb file, (env.outcomes smb).copies file = true
  login : LogsIn (readable env)

/-- When the first call returns `true`, the files it has uploaded are those that it uploads
when no read fails. -/
def UploadsSame (env : Environment) (w : World) : Prop :=
  ∀ w', env.sendFiles w = some (.ok true, w') →
    ∃ w₀, (readable env).sendFiles w = some (.ok true, w₀) ∧
      ∀ file : ConfigFile, w'.share file.destination = w₀.share file.destination

variable {w w' : World}

/-- A first call that returns `true` has a login, has read the numbers, and has uploaded the
files of what its builders have read. -/
theorem of_returns_true (hcfg : readConfig env.ini = some cfg)
    (hopens : ∀ smb file, (env.outcomes smb).opens file = true)
    (h : env.sendFiles w = some (.ok true, w')) :
    LogsIn env ∧ NumbersRead env ∧ ∀ file : ConfigFile, ∃ text,
      generated (seen env cfg) file = some text ∧ w'.share file.destination = some text := by
  cases hlogin : login env with
  | error e =>
      rw [Environment.sendFiles_of_login env w hlogin] at h
      cases h
  | ok session =>
      cases hstatics : statics env with
      | none =>
          obtain ⟨e, jvm, hthrows⟩ := Environment.sendFiles_of_none env w hstatics
          rw [hthrows] at h
          cases h
      | some jvm =>
          rw [Environment.sendFiles_eq env w hlogin hstatics] at h
          obtain ⟨⟨r, w₁⟩, hrun, hr⟩ := Option.map_eq_some_iff.mp h
          cases r with
          | error e => cases hr
          | ok report =>
              cases hr
              have hnumbers := numbersRead_of_statics hstatics
              obtain ⟨jvm', hstatics', hstarts⟩ := statics_of_numbersRead hcfg hnumbers
              rw [hstatics] at hstatics'
              cases hstatics'
              have hall : ∀ file, (outcomesIn env session).opens file = true := hopens _
              obtain ⟨hsession, hblocks⟩ := blocks_of_sendFiles hall hrun
              obtain ⟨⟨⟩, rfl⟩ := Option.isSome_iff_exists.mp hsession
              have hconnects := connects_of_sendBlocks hall hblocks
              refine ⟨⟨hlogin, fun file => hconnects file file.mem_all⟩, hnumbers, fun file => ?_⟩
              rw [← textOf_of_startsFrom hstarts file]
              exact (share_of_sendBlocks hall ConfigFile.nodup_all hblocks file).1 file.mem_all

/-- A first call that logs in and reads the numbers returns `true` with the files of what its
builders have read, or never returns. -/
theorem sendFiles_of_numbersRead (hcfg : readConfig env.ini = some cfg)
    (hopens : ∀ smb file, (env.outcomes smb).opens file = true)
    (hcopies : ∀ smb file, (env.outcomes smb).copies file = true) (hlogs : LogsIn env)
    (hnumbers : NumbersRead env) (hrenders : ∀ file, generated (seen env cfg) file ≠ none) :
    ∃ w', env.sendFiles w = some (.ok true, w') ∧ ∀ file : ConfigFile,
      w'.share file.destination = generated (seen env cfg) file := by
  obtain ⟨jvm, hstatics, hstarts⟩ := statics_of_numbersRead hcfg hnumbers
  have hfaultless : Faultless (outcomesIn env (some ⟨⟩)) :=
    ⟨rfl, hopens _, hlogs.connects, hcopies _⟩
  rw [Environment.sendFiles_eq env w hlogs.session hstatics]
  obtain ⟨w', hrun, hshare⟩ | ⟨⟨file, hnone⟩, -⟩ :=
    sendFiles_faultless hfaultless { w with jvm := jvm }
  · refine ⟨w', by rw [hrun]; rfl, fun file => ?_⟩
    obtain ⟨text, htext, hdest⟩ := hshare file
    rw [hdest, ← textOf_of_startsFrom hstarts file, ← htext]
  · exact absurd ((textOf_of_startsFrom hstarts file).symm.trans hnone) (hrenders file)

/-- Where no read fails, the configuration is seen as it is. -/
theorem seen_readable (hcfg : readConfig env.ini = some cfg) : seen (readable env) cfg = cfg := by
  obtain ⟨number, -, hcfg⟩ := Option.bind_eq_some_iff.mp hcfg
  obtain ⟨qos, -, hcfg⟩ := Option.bind_eq_some_iff.mp hcfg
  cases hcfg
  rfl

/-- The run in which no read fails. -/
theorem sendFiles_readable (hcfg : readConfig env.ini = some cfg) (hio : OnlyReadsFail env)
    (hrenders : ∀ file, generated cfg file ≠ none) :
    ∃ w₀, (readable env).sendFiles w = some (.ok true, w₀) ∧ ∀ file : ConfigFile,
      w₀.share file.destination = generated cfg file := by
  have hseen : seen (readable env) cfg = cfg := seen_readable hcfg
  have hrun := @sendFiles_of_numbersRead (readable env) cfg w hcfg hio.opens hio.copies hio.login
    ⟨rfl, rfl, rfl, rfl, rfl⟩
  rw [hseen] at hrun
  exact hrun hrenders

/-- A distorted things file is uploaded. -/
theorem not_uploadsSame (hcfg : readConfig env.ini = some cfg) (hio : OnlyReadsFail env)
    (hlogs : LogsIn env) (hnumbers : NumbersRead env) (hmax : cfg.number ≠ Int32.maxValue)
    (hdistorts : Distorts env cfg) : ¬ UploadsSame env w := by
  intro hsame
  have hseen : ∀ file, generated (seen env cfg) file = some (fileText (seen env cfg) file) :=
    fun file => @generated_eq (seen env cfg) hmax file fun _ => hdistorts.1
  have hwhole : ∀ file, generated cfg file = some (fileText cfg file) :=
    fun file => generated_eq hmax file fun _ => hdistorts.1
  obtain ⟨w', hrun, hshare⟩ := sendFiles_of_numbersRead (w := w) hcfg hio.opens hio.copies hlogs
    hnumbers fun file => by rw [hseen file]; exact Option.some_ne_none _
  obtain ⟨w₀, hrun₀, hshare₀⟩ := sendFiles_readable (w := w) hcfg hio
    fun file => by rw [hwhole file]; exact Option.some_ne_none _
  obtain ⟨w₁, hrun₁, hshare₁⟩ := hsame w' hrun
  rw [hrun₀] at hrun₁
  cases hrun₁
  have heq := hshare₁ .things
  rw [hshare, hshare₀, hseen, hwhole, Option.some.injEq] at heq
  exact (things_eq_iff hcfg hdistorts.1).mp heq hdistorts

/-- **A failed read never turns into a different configuration**, except in a call that logs
in, reads the numbers and ends, and whose things file shows that a read of `buildThings` has
failed. -/
theorem uploads_same_iff (env : Environment) (cfg : Config) (w : World)
    (hcfg : readConfig env.ini = some cfg) (hio : OnlyReadsFail env) :
    UploadsSame env w ↔
      ¬ (LogsIn env ∧ NumbersRead env ∧ cfg.number ≠ Int32.maxValue ∧ Distorts env cfg) := by
  constructor
  · rintro hsame ⟨hlogs, hnumbers, hmax, hdistorts⟩
    exact not_uploadsSame hcfg hio hlogs hnumbers hmax hdistorts hsame
  · intro hnot w' hrun
    obtain ⟨hlogs, hnumbers, htexts⟩ := of_returns_true hcfg hio.opens hrun
    have hmax : cfg.number ≠ Int32.maxValue := by
      obtain ⟨text, htext, -⟩ := htexts .items
      exact (eq_fileText htext nofun).1
    have hseen := generated_seen hcfg hmax fun h => hnot ⟨hlogs, hnumbers, hmax, h⟩
    obtain ⟨w₀, hrun₀, hshare₀⟩ := sendFiles_readable (w := w) hcfg hio fun file => by
      obtain ⟨text, htext, -⟩ := htexts file
      rw [← hseen file, htext]
      exact Option.some_ne_none _
    refine ⟨w₀, hrun₀, fun file => ?_⟩
    obtain ⟨text, htext, hshare⟩ := htexts file
    rw [hshare, hshare₀, ← hseen file, htext]

/-- The environment of a run with the file of the repository, in which some reads fail. -/
def readsFail (fails : ConfiguredClass → String → String → Bool) : Environment where
  ini := openHabIniFile
  fails := fails
  connect _ := .ok
  authenticate _ := .ok
  outcomes _ := allSucceed

/-- The environments of the file of the repository fail in reads only. -/
theorem onlyReadsFail_readsFail (fails : ConfiguredClass → String → String → Bool) :
    OnlyReadsFail (readsFail fails) where
  opens _ _ := rfl
  copies _ _ := rfl
  login := ⟨rfl, fun _ => rfl⟩

/-- The read of the temperature flag fails in one class. -/
def temperatureFails (reader : ConfiguredClass) : Environment :=
  readsFail fun other _ keyName => other = reader ∧ keyName = "temperature"

/-- A flag that `buildItems` fails to read is not used by it. -/
theorem uploads_same_items :
    UploadsSame (temperatureFails .buildItems) (startWorld openHabIni (shareOf openHabIni)) := by
  refine (uploads_same_iff (temperatureFails .buildItems) openHabIni _ (by decide)
    (onlyReadsFail_readsFail _)).mpr ?_
  rintro ⟨-, -, -, -, ⟨hfails, -⟩ | ⟨-, s, hfails, -⟩⟩
  · exact absurd hfails (by decide)
  · revert hfails
    cases s <;> decide

/-- When `buildThings` cannot read the temperature flag, the call returns `true` with another
things file. -/
theorem temperature_lost :
    ¬ UploadsSame (temperatureFails .buildThings)
      (startWorld openHabIni (shareOf openHabIni)) := by
  have hcfg : readConfig (temperatureFails .buildThings).ini = some openHabIni := by decide
  apply not_uploadsSame hcfg (onlyReadsFail_readsFail _)
  · exact ⟨rfl, fun _ => rfl⟩
  · constructor <;> decide
  · decide
  · exact ⟨by decide, .inr ⟨by decide, .temperature, by decide, by decide⟩⟩

end OpenhabConfiguration.Analysis
