import Mathlib.Logic.Function.Basic
import OpenhabConfiguration.Model.BuildFiles

/-!
# `smbSendFiles.sendFiles` and `startAutomatedConfiguration.main`

`sendFiles` builds the four files and copies each to the share of the openHAB host;
`main` calls it, and then restarts openHAB. Both are computations that can throw
(`JavaException`) on the files, the share and the virtual machine (`World`); what the
network and the file system do at each step is given by `Outcomes`.

Closing the session and the share, which try-with-resources does behind each block, is
taken to succeed. The share is the folder `conf_folder`, which both connecting and copying
refer to.
-/

set_option autoImplicit false

namespace OpenhabConfiguration.Model

/-! ## Files, exceptions and the world -/

/-- The contents of the files of a folder or share, by path. -/
abbrev Files := String → Option String

/-- The exceptions the modelled code can meet. `io` stands for `IOException`. -/
inductive JavaException where
  | io
  | nullPointer
deriving DecidableEq, Repr

/-- What a run of `main` reads and changes. -/
structure World where
  jvm : Jvm
  localFiles : Files
  /-- The files on the share of the openHAB host. -/
  share : Files
  /-- The files the builders have written, in order. -/
  built : List (ConfigFile × String)
  /-- The messages of `main`, in order. -/
  log : List String
  /-- The share at every call of `sshConnectionExecute`, in order. -/
  restarts : List Files

/-- A method that can throw, and can be still running after any number of steps. -/
abbrev Java (α : Type) := ExceptT JavaException (StateT World Option) α

/-- `try { body } catch (IOException e) { handler }` -/
def catchIOException {α : Type} (body handler : Java α) : Java α :=
  tryCatch body fun
    | .io => handler
    | e => throw e

/-- `logger.info(message)` -/
def info (message : String) : Java Unit :=
  modify fun w => { w with log := w.log ++ [message] }

/-! ## The steps of `sendFiles` -/

/-- What the network and the file system do during one run. -/
structure Outcomes where
  /-- Connecting to the host and authenticating succeed. -/
  authenticates : Bool
  /-- The constructor of `FileWriter` opens the local file. -/
  opens : ConfigFile → Bool
  /-- `connectShare` succeeds. -/
  connects : ConfigFile → Bool
  /-- `SmbFiles.copy` succeeds. -/
  copies : ConfigFile → Bool
  /-- What a copy that fails leaves of the remote file. -/
  leaves : ConfigFile → Option String → Option String
  /-- The SSH connection for the restart succeeds. -/
  ssh : Bool

/-- A session on the host, of which the code uses only that it is there. -/
structure Session where

/-- SOURCE: smbSendFiles.java:32 -/
def LOCAL_SAMBA_BUILD_FILES_PATH : String := "src/main/resources/openHabThingConfiguration/"

/-- The name of a file, as the builders and `sendFiles` write it.
SOURCE: smbSendFiles.java:48-73 -/
def ConfigFile.fileName : ConfigFile → String
  | .items => "apartment.items"
  | .things => "apartment.things"
  | .rules => "apartment.rules"
  | .sitemap => "apartment.sitemap"

/-- The folder of a file on the share.
SOURCE: smbSendFiles.java:28-31 -/
def ConfigFile.networkFolder : ConfigFile → String
  | .items => "items\\"
  | .things => "things\\"
  | .rules => "rules\\"
  | .sitemap => "sitemaps\\"

/-- The local file that is copied. -/
def ConfigFile.source (file : ConfigFile) : String := LOCAL_SAMBA_BUILD_FILES_PATH ++ file.fileName

/-- The file on the share that is written. -/
def ConfigFile.destination (file : ConfigFile) : String := file.networkFolder ++ file.fileName

/-- `null` when the host cannot be reached or rejects the login.
SOURCE: smbSendFiles.java:87-112 -/
def authentication (o : Outcomes) : Java (Option Session) :=
  catchIOException
    (if o.authenticates then return some ⟨⟩ else throw .io)
    (return none)

/-- A method call on what may be `null`. -/
def requireNonNull {α : Type} : Option α → Java α
  | some a => return a
  | none => throw .nullPointer

/-- A call of a builder, which prints into its local file. -/
def build (o : Outcomes) (file : ConfigFile) : Java Bool := do
  let w ← get
  let (text, jvm) ← (w.jvm.buildFile file (o.opens file) : Option (Option String × Jvm))
  match text with
  | some text =>
      set { w with
        jvm := jvm
        localFiles := Function.update w.localFiles file.source (some text)
        built := w.built ++ [(file, text)] }
      return true
  | none =>
      set { w with jvm := jvm }
      return false

/-- `Session.connectShare` -/
def connectShare (o : Outcomes) (_session : Session) (file : ConfigFile) : Java Unit :=
  if o.connects file then return () else throw .io

/-- `SmbFiles.copy` with `overwrite` set. -/
def copy (o : Outcomes) (file : ConfigFile) : Java Unit := do
  let w ← get
  if o.copies file then
    set { w with
      share := Function.update w.share file.destination (w.localFiles file.source) }
  else
    set { w with
      share := Function.update w.share file.destination
        (o.leaves file (w.share file.destination)) }
    throw .io

/-- One of the four blocks of `sendFiles`.
SOURCE: smbSendFiles.java:46-52, 54-60, 62-68, 71-77 -/
def sendFile (o : Outcomes) (session : Option Session) (file : ConfigFile) : Java Unit := do
  if ← build o file then
    let session ← requireNonNull session
    connectShare o session file
    copy o file

/-- SOURCE: smbSendFiles.java:37-85 -/
def sendFiles (o : Outcomes) : Java Bool :=
  catchIOException
    (do
      let session ← authentication o
      sendFile o session .items
      sendFile o session .things
      sendFile o session .rules
      sendFile o session .sitemap
      return true)
    (return false)

/-! ## `main` and runs of it -/

/-- The restart over SSH, which reports success whatever the remote script does.
SOURCE: sshRestartOpenhab.java:19-68 -/
def sshConnectionExecute (o : Outcomes) : Java Bool := do
  modify fun w => { w with restarts := w.restarts ++ [w.share] }
  if o.ssh then return true else throw .io

/-- SOURCE: startAutomatedConfiguration.java:10-24 -/
def main (cfg : Config) (o : Outcomes) : Java Unit := do
  if ← sendFiles o then
    info ("Files are transfered to " ++ cfg.conf_folder)
  else
    info "File transfer Failed!"
  if ← sshConnectionExecute o then
    info "openHAB restart successfull"
  else
    info "openHAB restart Failed!"

/-- A run of the program: the configuration at its time, and what happens during it. -/
structure Run where
  cfg : Config
  outcomes : Outcomes

/-- The world a run starts in: it has a virtual machine of its own. -/
def Run.world (r : Run) (w : World) : World := { w with jvm := Jvm.fresh r.cfg }

/-- One run of `main`, whether it ends normally or throws. -/
def Run.start (r : Run) (w : World) : Option World :=
  (main r.cfg r.outcomes (r.world w)).map Prod.snd

/-- Runs one after the other. -/
def deploy : List Run → World → Option World
  | [], w => some w
  | r :: rs, w => (r.start w).bind (deploy rs)

end OpenhabConfiguration.Model
