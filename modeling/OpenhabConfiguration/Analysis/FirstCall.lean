import OpenhabConfiguration.Analysis.UploadSteps
import OpenhabConfiguration.Model.Initialisation

/-!
# The first call of `sendFiles`

A first call authenticates, then initialises the four builders, and only then builds and
sends the files (`Environment.sendFiles_eq`). With static fields that come from one
configuration it is the call of `sendFiles` on a fresh virtual machine
(`Environment.sendFiles_of_fresh`). When the initialisation of a builder fails, no file has
been touched, whatever the authentication has ended with (`unparsed_changes_nothing`).
-/

set_option autoImplicit false

namespace OpenhabConfiguration.Analysis

open Model

/-! ## Running a method that initialises classes -/

section Starting

variable {α β : Type}

/-- One step after another: an exception ends the call where it is thrown. -/
theorem Starting.bind_apply (x : Starting α) (f : α → Starting β) (w : World) :
    (x >>= f) w = (x w).bind fun r =>
      match r.1 with
      | .ok a => f a r.2
      | .error e => some (.error e, r.2) := by
  show (x w).bind _ = _
  congr 1
  funext r
  obtain ⟨_ | _, _⟩ := r <;> rfl

/-- The result of a method that initialises no class. -/
def lifted (r : Except JavaException α × World) : Except Throwable α × World :=
  (r.1.mapError Throwable.exception, r.2)

/-- A method that initialises no class runs as it is. -/
theorem Starting.ofJava_apply (x : Java α) (w : World) :
    Starting.ofJava x w = (x w).map lifted := by
  show (x w).bind _ = _
  obtain _ | ⟨_ | _, _⟩ := x w <;> rfl

/-- A class whose fields can be initialised gets them, and nothing else changes. -/
theorem Starting.initialise_some {σ : Type} (st : σ) (put : σ → Jvm → Jvm) (w : World) :
    Starting.initialise (some st) put w = some (.ok (), { w with jvm := put st w.jvm }) := rfl

end Starting

/-! ## Authentication and initialisation -/

variable (env : Environment) (w : World)

/-- What the authentication ends with: a session, `null`, or an exception. -/
def login : Except Throwable (Option Session) :=
  match env.connect (SmbSendFiles.clinit env).HOST with
  | .ioException => .ok none
  | .runtimeException => .error .runtime
  | .ok =>
      match (SmbSendFiles.clinit env).PASSWORD with
      | none => .error (.exception .nullPointer)
      | some _ =>
          match env.authenticate (SmbSendFiles.clinit env) with
          | .ioException => .ok none
          | .runtimeException => .error .runtime
          | .ok => .ok (some ⟨⟩)

/-- The authentication changes nothing. -/
theorem authentication_eq :
    env.authentication (SmbSendFiles.clinit env) w = some (login env, w) := by
  unfold Environment.authentication login
  cases env.connect (SmbSendFiles.clinit env).HOST with
  | ioException => rfl
  | runtimeException => rfl
  | ok =>
      cases (SmbSendFiles.clinit env).PASSWORD with
      | none => rfl
      | some password => cases env.authenticate (SmbSendFiles.clinit env) <;> rfl

/-- The static fields of the four builders, when all of them can be initialised. -/
def statics : Option Jvm := do
  let items ← BuildItems.clinit env
  let things ← BuildThings.clinit env
  let rules ← BuildRules.clinit env
  let sitemap ← BuildSitemap.clinit env
  return { items, things, rules, sitemap }

variable {env} in
/-- When all four builders can be initialised, each of them can. -/
theorem clinit_of_statics {jvm : Jvm} (h : statics env = some jvm) :
    BuildItems.clinit env = some jvm.items ∧ BuildThings.clinit env = some jvm.things ∧
      BuildRules.clinit env = some jvm.rules ∧ BuildSitemap.clinit env = some jvm.sitemap := by
  unfold statics at h
  obtain ⟨items, hitems, h⟩ := Option.bind_eq_some_iff.mp h
  obtain ⟨things, hthings, h⟩ := Option.bind_eq_some_iff.mp h
  obtain ⟨rules, hrules, h⟩ := Option.bind_eq_some_iff.mp h
  obtain ⟨sitemap, hsitemap, h⟩ := Option.bind_eq_some_iff.mp h
  cases h
  exact ⟨hitems, hthings, hrules, hsitemap⟩

/-- The constructors then leave the initialised fields. -/
theorem newBuilders_of_statics {jvm : Jvm} (h : statics env = some jvm) :
    env.newBuilders w = some (.ok (), { w with jvm := jvm }) := by
  obtain ⟨hitems, hthings, hrules, hsitemap⟩ := clinit_of_statics h
  simp only [Environment.newBuilders, hitems, hthings, hrules, hsitemap, Starting.bind_apply,
    Starting.initialise_some, Option.bind_some]

/-- An initialiser that throws leaves the files as they are. -/
theorem newBuilders_of_none (h : statics env = none) :
    ∃ jvm, env.newBuilders w = some (.error .initializer, { w with jvm := jvm }) := by
  unfold statics at h
  unfold Environment.newBuilders
  rw [Starting.bind_apply]
  cases hitems : BuildItems.clinit env with
  | none => exact ⟨w.jvm, rfl⟩
  | some items =>
      rw [Starting.initialise_some, Option.bind_some, Starting.bind_apply]
      cases hthings : BuildThings.clinit env with
      | none => exact ⟨_, rfl⟩
      | some things =>
          rw [Starting.initialise_some, Option.bind_some, Starting.bind_apply]
          cases hrules : BuildRules.clinit env with
          | none => exact ⟨_, rfl⟩
          | some rules =>
              rw [Starting.initialise_some, Option.bind_some]
              cases hsitemap : BuildSitemap.clinit env with
              | none => exact ⟨_, rfl⟩
              | some sitemap =>
                  rw [hitems, hthings, hrules, hsitemap] at h
                  cases h

/-! ## The call -/

/-- The outcomes of a first call whose authentication has ended with `session`. -/
def outcomesIn (session : Option Session) : Outcomes :=
  { env.outcomes (SmbSendFiles.clinit env) with authenticates := session.isSome }

/-- Behind the authentication the call goes on like `sendFiles`. -/
theorem sendInSession_eq (o : Outcomes) (session : Option Session) :
    sendInSession o session w = sendFiles { o with authenticates := session.isSome } w := by
  cases session <;> rfl

/-- **A first call** ends behind the authentication or the initialisation, or it is the call
of `sendFiles` on the static fields that have been initialised. -/
theorem Environment.sendFiles_eq {session : Option Session} {jvm : Jvm}
    (hlogin : login env = .ok session) (hstatics : statics env = some jvm) :
    env.sendFiles w =
      (sendFiles (outcomesIn env session) { w with jvm := jvm }).map lifted := by
  have hrun := Starting.ofJava_apply
    (sendInSession (env.outcomes (SmbSendFiles.clinit env)) session) { w with jvm := jvm }
  rw [sendInSession_eq] at hrun
  unfold Environment.sendFiles
  rw [Starting.bind_apply, authentication_eq, hlogin, Option.bind_some]
  simp only [Starting.bind_apply, newBuilders_of_statics env w hstatics, Option.bind_some]
  exact hrun

/-- An exception of the authentication ends the call before anything has changed. -/
theorem Environment.sendFiles_of_login {e : Throwable} (h : login env = .error e) :
    env.sendFiles w = some (.error e, w) := by
  unfold Environment.sendFiles
  rw [Starting.bind_apply, authentication_eq, h]
  rfl

/-- A builder that cannot be initialised ends the call before any file has changed. -/
theorem Environment.sendFiles_of_none (h : statics env = none) :
    ∃ e jvm, env.sendFiles w = some (.error e, { w with jvm := jvm }) := by
  cases hlogin : login env with
  | error e => exact ⟨e, w.jvm, Environment.sendFiles_of_login env w hlogin⟩
  | ok session =>
      obtain ⟨jvm, hnone⟩ := newBuilders_of_none env w h
      refine ⟨.initializer, jvm, ?_⟩
      unfold Environment.sendFiles
      rw [Starting.bind_apply, authentication_eq, hlogin, Option.bind_some]
      simp only [Starting.bind_apply, hnone, Option.bind_some]

/-! ## Values that do not parse -/

variable {env}

/-- A read that fails yields nothing that `parseInt` accepts. -/
theorem parseInt_getConfigs (reader : ConfiguredClass) (sectionName keyName : String) :
    Integer.parseInt (env.getConfigs reader sectionName keyName) =
      if env.fails reader sectionName keyName then none
      else Integer.parseInt (env.ini sectionName keyName) := by
  unfold Environment.getConfigs
  split
  · decide
  · rfl

/-- Without a number or without a `qos` some builder cannot be initialised. -/
theorem statics_eq_none (h : Integer.parseInt (env.ini "apartment" "number") = none ∨
    Integer.parseInt (env.ini "properties" "qos") = none) : statics env = none := by
  have hread : ∀ reader sectionName keyName, Integer.parseInt (env.ini sectionName keyName) = none →
      Integer.parseInt (env.getConfigs reader sectionName keyName) = none := by
    intro reader sectionName keyName hnone
    rw [parseInt_getConfigs, hnone, ite_self]
  unfold statics
  obtain hnumber | hqos := h
  · have hitems : BuildItems.clinit env = none := by
      simp only [BuildItems.clinit, hread _ _ _ hnumber, Option.bind_eq_bind, Option.bind_none]
    rw [hitems]
    rfl
  · have hthings : BuildThings.clinit env = none := by
      simp only [BuildThings.clinit, hread _ _ _ hqos, Option.bind_eq_bind, Option.bind_none,
        Option.bind_fun_none]
    rw [hthings]
    cases BuildItems.clinit env <;> rfl

/-- **A configuration that does not parse changes nothing**: for every other content of the
file, every read that fails, every outcome of the authentication and all earlier contents of
the files, a first call throws and leaves the local files and the share alone. -/
theorem unparsed_changes_nothing (env : Environment)
    (h : Integer.parseInt (env.ini "apartment" "number") = none ∨
      Integer.parseInt (env.ini "properties" "qos") = none) (w : World) :
    ∃ e w', env.sendFiles w = some (.error e, w') ∧ w'.localFiles = w.localFiles ∧
      w'.share = w.share := by
  obtain ⟨e, jvm, hrun⟩ := Environment.sendFiles_of_none env w (statics_eq_none h)
  exact ⟨e, { w with jvm := jvm }, hrun, rfl, rfl⟩

/-- The configuration of the repository with a `qos` that is no number. -/
def unparsedEnvironment : Environment where
  ini := fun sectionName keyName =>
    if keyName = "qos" then some "one" else openHabIniFile sectionName keyName
  fails _ _ _ := false
  connect _ := .ok
  authenticate _ := .ok
  outcomes _ := allSucceed

/-- With a `qos` that is no number the first call throws, and the files are as before. -/
theorem unparsed_qos_changes_nothing :
    ∃ e w', unparsedEnvironment.sendFiles (startWorld openHabIni (shareOf openHabIni)) =
        some (.error e, w') ∧
      w'.localFiles = (startWorld openHabIni (shareOf openHabIni)).localFiles ∧
      w'.share = shareOf openHabIni :=
  unparsed_changes_nothing unparsedEnvironment (.inr (by decide)) _

/-! ## Values that parse -/

/-- The configuration in a file whose number and `qos` parse. -/
def readConfig (ini : String → String → Option String) : Option Config := do
  let number ← Integer.parseInt (ini "apartment" "number")
  let qos ← Integer.parseInt (ini "properties" "qos")
  return {
    number := number
    temperature := Boolean.parseBoolean (ini "perApartment" "temperature")
    humidity := Boolean.parseBoolean (ini "perApartment" "humidity")
    co2 := Boolean.parseBoolean (ini "perApartment" "co2")
    electricity := Boolean.parseBoolean (ini "perApartment" "electricity")
    openhab_host := (ini "properties" "openhab_host").getD "null"
    conf_folder := (ini "properties" "conf_folder").getD "null"
    qos := qos }

example : readConfig openHabIniFile = some openHabIni := by decide

/-- When no read fails, all builders are initialised from the configuration in the file. -/
theorem statics_of_readConfig (hreads : ∀ reader sectionName keyName,
    env.fails reader sectionName keyName = false) :
    statics env = (readConfig env.ini).map Jvm.fresh := by
  simp only [statics, BuildItems.clinit, BuildThings.clinit, BuildRules.clinit,
    BuildSitemap.clinit, readConfig, Environment.getConfigs, hreads, Bool.false_eq_true, if_false]
  cases Integer.parseInt (env.ini "apartment" "number") with
  | none => rfl
  | some number => cases Integer.parseInt (env.ini "properties" "qos") <;> rfl

/-- **With a session and no failing read** a first call is the call of `sendFiles` on a fresh
virtual machine of the configuration in the file. -/
theorem Environment.sendFiles_of_fresh {cfg : Config} (hlogin : login env = .ok (some ⟨⟩))
    (hreads : ∀ reader sectionName keyName, env.fails reader sectionName keyName = false)
    (hcfg : readConfig env.ini = some cfg) :
    env.sendFiles w =
      (sendFiles (outcomesIn env (some ⟨⟩)) { w with jvm := Jvm.fresh cfg }).map lifted := by
  apply Environment.sendFiles_eq env w hlogin
  rw [statics_of_readConfig hreads, hcfg]
  rfl

end OpenhabConfiguration.Analysis
