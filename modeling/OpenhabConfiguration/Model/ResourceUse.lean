import OpenhabConfiguration.Library.Resources
import OpenhabConfiguration.Model.Initialisation
import OpenhabConfiguration.Model.RestartCalls

/-!
# The connections of `sendFiles` and of `sshConnectionExecute`

The first call of `sendFiles` and a call of `sshConnectionExecute` with what they open and
close. Closing can throw like every other request to the network. The steps between are those
of `Model.Initialisation` and of `Model.RestartCalls`.
-/

set_option autoImplicit false

namespace OpenhabConfiguration.Model

open Resources

/-- What a request throws. -/
def Reply.throwable : Reply → Option Throwable
  | .ok => none
  | .ioException => some (.exception .io)
  | .runtimeException => some .runtime

section Statements

variable {σ ρ α : Type}

/-- `try { body } catch (IOException e) { handler }` -/
def catchIO (body handler : Program Throwable σ ρ α) : Program Throwable σ ρ α :=
  tryCatch body fun
    | .exception .io => handler
    | e => throw e

/-- A request to the network. -/
def answer (reply : Reply) : Program Throwable σ ρ Unit :=
  match reply.throwable with
  | none => return ()
  | some e => throw e

end Statements

/-! ## The first call of `sendFiles` -/

/-- What `sendFiles` opens; each of its blocks connects to a share of its own. -/
inductive SmbResource where
  | client
  | connection
  | session
  | share (file : ConfigFile)
deriving DecidableEq, Repr

/-- A part of the first call of `sendFiles`. -/
abbrev SmbProgram (α : Type) := Program Throwable World SmbResource α

/-- The client and the connection of a session are closed nowhere.
SOURCE: smbSendFiles.java:87-112 -/
def Environment.openSession (env : Environment) (smb : SmbSendFiles) :
    SmbProgram (Option Session) := do
  record (.opened .client)
  if env.connect smb.HOST = .ok then
    record (.opened .connection)
  lift (env.authentication smb)

/-- One of the four blocks, with its share.
SOURCE: smbSendFiles.java:46-52, 54-60, 62-68, 71-77 -/
def sendInShare (closes : SmbResource → Reply) (o : Outcomes) (session : Option Session)
    (file : ConfigFile) : SmbProgram Unit := do
  if ← lift (Starting.ofJava (build o file)) then
    tryWith (fun r => (closes r).throwable) (.share file)
      (lift (Starting.ofJava do
        let session ← requireNonNull session
        connectShare o session file
        return some ()))
      fun _ => lift (Starting.ofJava (copy o file))

/-- SOURCE: smbSendFiles.java:37-85 -/
def Environment.sendFilesClosing (env : Environment) (closes : SmbResource → Reply) :
    SmbProgram Bool :=
  let smb := SmbSendFiles.clinit env
  let o := env.outcomes smb
  catchIO
    (tryWith (fun r => (closes r).throwable) .session (env.openSession smb) fun session => do
      lift env.newBuilders
      sendInShare closes o session .items
      sendInShare closes o session .things
      sendInShare closes o session .rules
      sendInShare closes o session .sitemap
      return true)
    (return false)

/-! ## A call of `sshConnectionExecute` -/

/-- What `sshConnectionExecute` opens. -/
inductive SshResource where
  | client
  | session
deriving DecidableEq, Repr

/-- How the requests of a call end. -/
structure SshReplies where
  connect : Reply
  authPassword : Reply
  startSession : Reply
  exec : Reply
  readFully : Reply
  join : Reply
  /-- The commands of the script that the host has run when `exec` or `readFully` throws. -/
  commands : ℕ
  closes : SshResource → Reply

/-- The host during a call, and the variable `session` of the call. -/
structure SshState where
  host : Host Unit
  /-- `session` is not `null`. -/
  session : Bool

/-- A part of a call of `sshConnectionExecute`. -/
abbrev SshProgram (α : Type) := Program Throwable SshState SshResource α

namespace SshReplies

variable (replies : SshReplies)

/-- What closing a resource of the call throws. -/
def failure (r : SshResource) : Option Throwable := (replies.closes r).throwable

/-- The commands of the script that the host has run when the output ends. -/
def ran : ℕ :=
  if replies.exec = .ok ∧ replies.readFully = .ok then scriptLength else replies.commands

/-- An exception of closing the session leaves the client as it is.
SOURCE: sshRestartOpenhab.java:57-66 -/
def closeAll : SshProgram Unit :=
  catchIO
    (do
      if (← get).state.session then
        closing replies.failure .session
      closing replies.failure .client)
    (return ())

/-- The block of the `try` statement.
SOURCE: sshRestartOpenhab.java:27-56 -/
def restart (call : Call) : SshProgram Bool := do
  answer replies.authPassword
  answer replies.startSession
  record (.opened .session)
  modify fun t => { t with state := ⟨call.steps replies.ran t.state.host, true⟩ }
  answer replies.exec
  answer replies.readFully
  answer replies.join
  return true

/-- SOURCE: sshRestartOpenhab.java:19-68 -/
def sshConnectionExecute (call : Call) : SshProgram Bool := do
  answer replies.connect
  record (.opened .client)
  tryFinally (replies.restart call) replies.closeAll

/-- The result of a call, and the server behind it. -/
def after (call : Call) (t : Tracked Server SshResource) :
    Option (Except Throwable Bool × Tracked Server SshResource) :=
  (replies.sshConnectionExecute call ⟨⟨t.state.host, false⟩, t.events⟩).map fun r =>
    (r.1, ⟨⟨r.2.state.host.service, r.2.state.host.isRunning⟩, r.2.events⟩)

end SshReplies

/-- A history of calls, one after the other, with their results. -/
def sshCalls : List (SshReplies × Call) → Tracked Server SshResource →
    Option (List (Except Throwable Bool) × Tracked Server SshResource)
  | [], t => some ([], t)
  | (replies, call) :: calls, t => do
      let (r, t) ← replies.after call t
      let (rs, t) ← sshCalls calls t
      return (r :: rs, t)

end OpenhabConfiguration.Model
