import OpenhabConfiguration.Model.RemoteScript
import OpenhabConfiguration.Model.SendFiles

/-!
# Calls of `sshRestartOpenhab.sshConnectionExecute`, one after the other

A call runs the remote script on the openHAB host and returns or throws. The state of the
service and the file `isRunning.txt` are what one call leaves to the next (`Server`). What
the host does during a call is part of the call: what `systemctl status` prints in each
state of the service, and whether the stop and the start succeed.
-/

set_option autoImplicit false

namespace OpenhabConfiguration.Model

/-- What becomes of the connection of a call. -/
inductive Connection where
  /-- Connecting, logging in or opening the session throws. -/
  | refused
  /-- The connection is lost when the host has run this many commands of the script. -/
  | lost (commands : ℕ)
  /-- The output of the script is read to its end. -/
  | holds
deriving DecidableEq, Repr

/-- A call of `sshConnectionExecute` with what it meets on the host. -/
structure Call where
  connection : Connection
  /-- What `systemctl status` prints in each state of the service. -/
  status : Service → String
  status_running : MatchesRunning (status .running)
  /-- `systemctl stop` succeeds. -/
  stops : Bool
  /-- The state in which a failed stop leaves the service. -/
  afterStop : Service
  /-- `systemctl start` succeeds. -/
  starts : Bool
  /-- The state in which a failed start leaves the service. -/
  afterStart : Service

/-- What a call leaves to the next one. -/
structure Server where
  service : Service
  isRunning : Option String

/-- The server with the script of one call before it. -/
def Server.host (server : Server) : Host Unit := Host.initial Unit server.service server.isRunning

/-- What the next command of the script meets. -/
def Call.move (call : Call) (host : Host Unit) : Move Unit where
  run := ()
  text := call.status host.service
  succeeds :=
    match host.todo () with
    | .stop :: _ => call.stops
    | _ => call.starts
  afterFailure :=
    match host.todo () with
    | .stop :: _ => call.afterStop
    | _ => call.afterStart

/-- At most `n` commands of the script. -/
def Call.steps (call : Call) : ℕ → Host Unit → Host Unit
  | 0, host => host
  | n + 1, host =>
      match host.step (call.move host) with
      | some host => call.steps n host
      | none => host

/-- A number of commands in which every run of the script ends. -/
def scriptLength : ℕ := script.length + restartBranch.length

/-- The result of a call, and the host behind it. The exit status of the script is not
asked for.
SOURCE: sshRestartOpenhab.java:19-68 -/
def Call.sshConnectionExecute (call : Call) (server : Server) :
    Except JavaException Bool × Host Unit :=
  match call.connection with
  | .refused => (.error .io, server.host)
  | .lost commands => (.error .io, call.steps commands server.host)
  | .holds => (.ok true, call.steps scriptLength server.host)

/-- The server behind a call. -/
def Call.after (call : Call) (server : Server) : Server where
  service := (call.sshConnectionExecute server).2.service
  isRunning := (call.sshConnectionExecute server).2.isRunning

/-- The server behind a history of calls. -/
def Server.after (server : Server) (calls : List Call) : Server :=
  calls.foldl (fun server call => call.after server) server

end OpenhabConfiguration.Model
