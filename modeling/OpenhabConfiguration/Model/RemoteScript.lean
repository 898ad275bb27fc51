import Mathlib.Data.List.Infix
import Mathlib.Logic.Function.Basic

/-!
# The remote script of `sshRestartOpenhab.sshConnectionExecute`

The script that is run on the openHAB host, command by command, and any number of runs of it
on one host. All runs share the service and, since they have one home directory, the file
`isRunning.txt`. A step of the host (`Host.step`) is one command of one run; what the command
meets, the text of the status and whether `systemctl` succeeds, is given by the move.

`systemctl … &` followed by `wait` is one command: `wait` ends when it has ended. So is
`systemctl status … > isRunning.txt`: that the shell empties the file before `systemctl` prints
is not a step of its own.
-/

set_option autoImplicit false

namespace OpenhabConfiguration.Model

/-! ## The script -/

/-- A command of the script. -/
inductive Command where
  /-- `sudo /bin/systemctl status openhab2.service > isRunning.txt` -/
  | status
  /-- `if grep -q "running" isRunning.txt; then … else … fi` -/
  | ifGrep (matched unmatched : List Command)
  /-- `echo "…"` -/
  | echo (text : String)
  /-- `sudo /bin/systemctl stop openhab2.service & wait` -/
  | stop
  /-- `sudo /bin/systemctl start openhab2.service & wait` -/
  | start
  /-- `rm isRunning.txt` -/
  | rm
deriving Repr

/-- The branch behind `then`.
SOURCE: sshRestartOpenhab.java:35-48 -/
def restartBranch : List Command :=
  [.echo "openHab2 is Running!", .echo "stopping openHab2...", .stop, .echo "Cache is clean!",
    .echo "Start openHab2", .start, .echo "openHab2 started!"]

/-- The branch behind `else`.
SOURCE: sshRestartOpenhab.java:49-50 -/
def skipBranch : List Command := [.echo "openHab2 is not running!"]

/-- SOURCE: sshRestartOpenhab.java:33-52 -/
def script : List Command := [.status, .ifGrep restartBranch skipBranch, .rm]

/-! ## The host -/

/-- What `systemctl status` says of openHAB. -/
inductive Service where
  | running
  | stopped
  | failed
deriving DecidableEq, Repr

/-- What a command has done. -/
inductive Event where
  | status
  /-- `found` says whether there was a file to search. -/
  | grep (found : Bool)
  | echo (text : String)
  | stop (succeeded : Bool)
  | start (succeeded : Bool)
  | rm
deriving DecidableEq, Repr

/-- The host with the runs `ι` of the script. -/
structure Host (ι : Type) where
  service : Service
  /-- The contents of `isRunning.txt`, if it exists. -/
  isRunning : Option String
  /-- What is left of the script of each run. -/
  todo : ι → List Command
  /-- What the runs have done, in order. -/
  trace : List (ι × Event)

/-- The host before any of the runs has begun. -/
def Host.initial (ι : Type) (service : Service) (isRunning : Option String) : Host ι where
  service := service
  isRunning := isRunning
  todo _ := script
  trace := []

/-- A text in which `grep -q "running"` finds a line. -/
def MatchesRunning (text : String) : Prop := "running".toList <:+: text.toList

instance (text : String) : Decidable (MatchesRunning text) :=
  inferInstanceAs (Decidable ("running".toList <:+: text.toList))

/-- The next command of one run, with what it meets. -/
structure Move (ι : Type) where
  run : ι
  /-- What `systemctl status` prints. -/
  text : String
  /-- `systemctl stop` or `systemctl start` succeeds. -/
  succeeds : Bool
  /-- The state of the service after a failure. -/
  afterFailure : Service

section Step

variable {ι : Type} [DecidableEq ι]

/-- The host after a run has got to `rest`, with what it has done. -/
def Host.did (host : Host ι) (i : ι) (event : Event) (rest : List Command) : Host ι :=
  { host with
    todo := Function.update host.todo i rest
    trace := host.trace ++ [(i, event)] }

/-- What a run still has to do behind one of its commands. -/
@[simp] theorem Host.did_todo (host : Host ι) (i : ι) (event : Event) (rest : List Command) :
    (host.did i event rest).todo i = rest :=
  Function.update_self _ _ _

/-- A command leaves what the other runs have to do as it is. -/
theorem Host.did_todo_ne {host : Host ι} {i j : ι} {event : Event} {rest : List Command}
    (hj : j ≠ i) : (host.did i event rest).todo j = host.todo j :=
  Function.update_of_ne hj _ _

/-- A command is noted at the end of the trace. -/
@[simp] theorem Host.did_trace (host : Host ι) (i : ι) (event : Event) (rest : List Command) :
    (host.did i event rest).trace = host.trace ++ [(i, event)] := rfl

/-- One command of one run. A run that is done has no next command, and the status of a
running service says that it is running. -/
def Host.step (host : Host ι) (move : Move ι) : Option (Host ι) :=
  match host.todo move.run with
  | [] => none
  | .status :: rest =>
      if host.service = .running ∧ ¬ MatchesRunning move.text then none
      else some ({ host with isRunning := some move.text }.did move.run .status rest)
  | .ifGrep matched unmatched :: rest =>
      match host.isRunning with
      | some text =>
          if MatchesRunning text then some (host.did move.run (.grep true) (matched ++ rest))
          else some (host.did move.run (.grep true) (unmatched ++ rest))
      | none => some (host.did move.run (.grep false) (unmatched ++ rest))
  | .echo text :: rest => some (host.did move.run (.echo text) rest)
  | .stop :: rest =>
      if move.succeeds then
        some ({ host with service := .stopped }.did move.run (.stop true) rest)
      else some ({ host with service := move.afterFailure }.did move.run (.stop false) rest)
  | .start :: rest =>
      if move.succeeds then
        some ({ host with service := .running }.did move.run (.start true) rest)
      else some ({ host with service := move.afterFailure }.did move.run (.start false) rest)
  | .rm :: rest => some ({ host with isRunning := none }.did move.run .rm rest)

/-- Commands of the runs, in any interleaving. -/
def Host.execute (host : Host ι) (moves : List (Move ι)) : Option (Host ι) :=
  moves.foldlM Host.step host

end Step

end OpenhabConfiguration.Model
