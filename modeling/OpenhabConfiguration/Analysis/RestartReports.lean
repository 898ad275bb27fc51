import OpenhabConfiguration.Model.RestartCalls

/-!
# What a reported restart says

`sshConnectionExecute` returns `true` whenever the output of the script has been read,
whatever the script has done. The report is right if and only if the status of the service
before the call matches `running` and the start succeeds (`restarts_iff`), and a history of
calls reports only real restarts if and only if this is so at each call that returns
(`reportsReal_iff`). A service that is down stays down, call after call
(`after_service_of_down`).
-/

set_option autoImplicit false

namespace OpenhabConfiguration.Model

/-! ## The commands of one call -/

section Commands

variable {call : Call} {host host' : Host Unit} {rest : List Command} {n : ℕ}

/-- A step that the host makes is the first of the steps that are left. -/
theorem Call.steps_succ (h : host.step (call.move host) = some host') :
    call.steps (n + 1) host = call.steps n host' := by
  rw [Call.steps, h]

/-- A script that has ended makes no more steps. -/
theorem Call.steps_done (htodo : host.todo () = []) : call.steps n host = host := by
  cases n with
  | zero => rfl
  | succ n =>
      rw [Call.steps]
      simp only [Host.step, Call.move, htodo]

/-- The status is written to the file. -/
theorem Call.steps_status (htodo : host.todo () = .status :: rest) :
    call.steps (n + 1) host = call.steps n
      ({ host with isRunning := some (call.status host.service) }.did () .status rest) := by
  apply Call.steps_succ
  have htext : ¬ (host.service = .running ∧ ¬ MatchesRunning (call.status host.service)) := by
    rintro ⟨hrunning, hno⟩
    exact hno (hrunning ▸ call.status_running)
  simp only [Host.step, Call.move, htodo, if_neg htext]

/-- A message is printed. -/
theorem Call.steps_echo {text : String} (htodo : host.todo () = .echo text :: rest) :
    call.steps (n + 1) host = call.steps n (host.did () (.echo text) rest) := by
  apply Call.steps_succ
  simp only [Host.step, Call.move, htodo]

/-- The branch is chosen by what the file says. -/
theorem Call.steps_ifGrep {matched unmatched : List Command} {text : String}
    (htodo : host.todo () = .ifGrep matched unmatched :: rest) (hfile : host.isRunning = some text) :
    call.steps (n + 1) host = call.steps n
      (host.did () (.grep true) ((if MatchesRunning text then matched else unmatched) ++ rest)) := by
  apply Call.steps_succ
  simp only [Host.step, Call.move, htodo, hfile]
  split <;> rfl

/-- The service is stopped, or it is not. -/
theorem Call.steps_stop (htodo : host.todo () = .stop :: rest) :
    call.steps (n + 1) host = call.steps n
      ({ host with service := if call.stops then .stopped else call.afterStop }.did ()
        (.stop call.stops) rest) := by
  apply Call.steps_succ
  simp only [Host.step, Call.move, htodo]
  cases call.stops <;> rfl

/-- The service is started, or it is not. -/
theorem Call.steps_start (htodo : host.todo () = .start :: rest) :
    call.steps (n + 1) host = call.steps n
      ({ host with service := if call.starts then .running else call.afterStart }.did ()
        (.start call.starts) rest) := by
  apply Call.steps_succ
  simp only [Host.step, Call.move, htodo]
  cases call.starts <;> rfl

/-- The file is removed. -/
theorem Call.steps_rm (htodo : host.todo () = .rm :: rest) :
    call.steps (n + 1) host = call.steps n ({ host with isRunning := none }.did () .rm rest) := by
  apply Call.steps_succ
  simp only [Host.step, Call.move, htodo]

end Commands

/-! ## A call that returns -/

/-- What the branch behind `then` does, up to the end of the script. -/
def restartTrace (call : Call) : List (Unit × Event) :=
  [((), .echo "openHab2 is Running!"), ((), .echo "stopping openHab2..."), ((), .stop call.stops),
    ((), .echo "Cache is clean!"), ((), .echo "Start openHab2"), ((), .start call.starts),
    ((), .echo "openHab2 started!"), ((), .rm)]

/-- What the branch behind `else` does, up to the end of the script. -/
def skipTrace : List (Unit × Event) := [((), .echo "openHab2 is not running!"), ((), .rm)]

/-- The script has ended with a state of the service and a trace. -/
structure Ended (host : Host Unit) (service : Service) (trace : List (Unit × Event)) : Prop where
  todo : host.todo () = []
  isRunning : host.isRunning = none
  service : host.service = service
  trace : host.trace = trace

/-- The first branch stops and starts the service and ends the script. -/
theorem Call.ended_restartBranch {call : Call} {host : Host Unit} {n : ℕ}
    (htodo : host.todo () = restartBranch ++ [.rm]) :
    Ended (call.steps (n + 8) host) (if call.starts then .running else call.afterStart)
      (host.trace ++ restartTrace call) := by
  simp only [restartBranch, List.cons_append, List.nil_append] at htodo
  rw [Call.steps_echo htodo, Call.steps_echo (Host.did_todo ..), Call.steps_stop (Host.did_todo ..),
    Call.steps_echo (Host.did_todo ..), Call.steps_echo (Host.did_todo ..),
    Call.steps_start (Host.did_todo ..), Call.steps_echo (Host.did_todo ..),
    Call.steps_rm (Host.did_todo ..), Call.steps_done (Host.did_todo ..)]
  exact ⟨Host.did_todo .., rfl, rfl, by simp [restartTrace]⟩

/-- The other branch leaves the service alone and ends the script. -/
theorem Call.ended_skipBranch {call : Call} {host : Host Unit} {n : ℕ}
    (htodo : host.todo () = skipBranch ++ [.rm]) :
    Ended (call.steps (n + 2) host) host.service (host.trace ++ skipTrace) := by
  simp only [skipBranch, List.cons_append, List.nil_append] at htodo
  rw [Call.steps_echo htodo, Call.steps_rm (Host.did_todo ..), Call.steps_done (Host.did_todo ..)]
  exact ⟨Host.did_todo .., rfl, rfl, by simp [skipTrace]⟩

/-- The host when the status has been searched and the branch is chosen. -/
def Call.searched (call : Call) (server : Server) : Host Unit :=
  ({ server.host with isRunning := some (call.status server.service) }.did () .status
      [.ifGrep restartBranch skipBranch, .rm]).did () (.grep true)
    ((if MatchesRunning (call.status server.service) then restartBranch else skipBranch) ++
      [Command.rm])

/-- The first two commands write the status and search it. -/
theorem Call.steps_searched (call : Call) (server : Server) (n : ℕ) :
    call.steps (n + 2) server.host = call.steps n (call.searched server) := by
  rw [Call.steps_status (show server.host.todo () = script from rfl),
    Call.steps_ifGrep (Host.did_todo ..) rfl]
  rw [Call.searched]
  rfl

/-- What a whole run of the script makes of the service. -/
def Call.service (call : Call) (service : Service) : Service :=
  if MatchesRunning (call.status service) then
    if call.starts then .running else call.afterStart
  else service

/-- The script ends, and restarts the service when its status matches `running`. -/
theorem Call.ended (call : Call) (server : Server) :
    Ended (call.steps scriptLength server.host) (call.service server.service)
      ([((), .status), ((), .grep true)] ++
        if MatchesRunning (call.status server.service) then restartTrace call else skipTrace) := by
  rw [show scriptLength = 8 + 2 from rfl, Call.steps_searched, Call.service]
  by_cases hmatch : MatchesRunning (call.status server.service)
  · rw [if_pos hmatch, if_pos hmatch]
    apply Call.ended_restartBranch (n := 0)
    rw [Call.searched, Host.did_todo, if_pos hmatch]
  · rw [if_neg hmatch, if_neg hmatch]
    apply Call.ended_skipBranch (n := 6)
    rw [Call.searched, Host.did_todo, if_neg hmatch]

/-- However far it gets, the script leaves a service alone whose status does not match
`running`. -/
theorem Call.steps_service {call : Call} {server : Server}
    (hmatch : ¬ MatchesRunning (call.status server.service)) (n : ℕ) :
    (call.steps n server.host).service = server.service := by
  match n with
  | 0 => rfl
  | 1 =>
      rw [Call.steps_status (show server.host.todo () = script from rfl)]
      rfl
  | n + 2 =>
      have htodo : (call.searched server).todo () = skipBranch ++ [.rm] := by
        rw [Call.searched, Host.did_todo, if_neg hmatch]
      rw [Call.steps_searched]
      match n with
      | 0 => rfl
      | 1 =>
          rw [Call.steps_echo htodo]
          rfl
      | n + 2 => exact (Call.ended_skipBranch htodo).service

/-! ## Real restarts -/

/-- The service is started successfully during the call, and runs when the call is over. -/
def Call.Restarts (call : Call) (server : Server) : Prop :=
  ((), Event.start true) ∈ (call.sshConnectionExecute server).2.trace ∧
    (call.after server).service = .running

/-- A call that returns says `true`, whatever the script has done. -/
theorem Call.returns_iff (call : Call) (server : Server) (b : Bool) :
    (call.sshConnectionExecute server).1 = .ok b ↔ call.connection = .holds ∧ b = true := by
  rw [Call.sshConnectionExecute]
  cases hconnection : call.connection <;> cases b <;> simp

/-- On a connection that holds, the whole script is run. -/
theorem Call.sshConnectionExecute_holds {call : Call} (server : Server)
    (hconnection : call.connection = .holds) :
    (call.sshConnectionExecute server).2 = call.steps scriptLength server.host := by
  rw [Call.sshConnectionExecute, hconnection]

/-- A call that returns has restarted the service if and only if the status before it
matches `running` and the start succeeds. -/
theorem Call.restarts_iff {call : Call} (server : Server) (hconnection : call.connection = .holds) :
    call.Restarts server ↔ MatchesRunning (call.status server.service) ∧ call.starts = true := by
  have hended := call.ended server
  rw [Call.Restarts, Call.after, Call.sshConnectionExecute_holds server hconnection, hended.trace,
    hended.service, Call.service]
  by_cases hmatch : MatchesRunning (call.status server.service)
  · cases hstarts : call.starts <;> simp [hmatch, hstarts, restartTrace]
  · simp [hmatch, skipTrace]

/-- Every call of the history that returns `true` has restarted the service. -/
def ReportsReal (server : Server) (calls : List Call) : Prop :=
  ∀ before call after, calls = before ++ call :: after →
    (call.sshConnectionExecute (server.after before)).1 = .ok true →
    call.Restarts (server.after before)

/-- **A history of calls reports only real restarts** if and only if before each call that
returns the status of the service matches `running`, and its start succeeds. -/
theorem reportsReal_iff (server : Server) (calls : List Call) :
    ReportsReal server calls ↔
      ∀ before call after, calls = before ++ call :: after → call.connection = .holds →
        MatchesRunning (call.status (server.after before).service) ∧ call.starts = true := by
  constructor
  · intro hreal before call after heq hconnection
    have hreturns : (call.sshConnectionExecute (server.after before)).1 = .ok true := by
      rw [Call.returns_iff]
      exact ⟨hconnection, rfl⟩
    exact (Call.restarts_iff _ hconnection).mp (hreal before call after heq hreturns)
  · intro hall before call after heq hreturns
    have hconnection := ((Call.returns_iff _ _ _).mp hreturns).1
    exact (Call.restarts_iff _ hconnection).mpr (hall before call after heq hconnection)

/-- The first deployment of the history below: its start fails. -/
def startFails : Call where
  connection := .holds
  status
    | .running => "Active: active (running)"
    | .stopped => "Active: inactive (dead)"
    | .failed => "Active: failed (Result: exit-code)"
  status_running := by decide
  stops := true
  afterStop := .failed
  starts := false
  afterStart := .failed

/-- A start that fails is reported as a restart, and so is the next deployment, which does
not start the service again. -/
theorem startFails_reported :
    ¬ ReportsReal ⟨.running, none⟩ [startFails, { startFails with starts := true }] ∧
      ¬ Call.Restarts { startFails with starts := true }
        (Server.after ⟨.running, none⟩ [startFails]) := by
  have hfirst : ¬ startFails.Restarts ⟨.running, none⟩ := by
    rw [Call.restarts_iff _ rfl]
    decide
  have hnext : ¬ Call.Restarts { startFails with starts := true }
      (Server.after ⟨.running, none⟩ [startFails]) := by
    rw [Call.restarts_iff _ rfl]
    decide
  exact ⟨fun hreal => hfirst (hreal [] _ _ rfl rfl), hnext⟩

/-! ## A service that is down -/

/-- A call that does not find the service running leaves it as it is. -/
theorem Call.after_service {call : Call} {server : Server}
    (hmatch : ¬ MatchesRunning (call.status server.service)) :
    (call.after server).service = server.service := by
  show (call.sshConnectionExecute server).2.service = server.service
  rw [Call.sshConnectionExecute]
  cases call.connection with
  | refused => rfl
  | lost commands => exact Call.steps_service hmatch commands
  | holds => exact Call.steps_service hmatch scriptLength

/-- No call brings a service back whose status does not match `running`, and the server
keeps its state over any history of such calls. -/
theorem Server.after_service_of_down {server : Server} {calls : List Call}
    (hdown : ∀ call ∈ calls, ¬ MatchesRunning (call.status server.service)) :
    (server.after calls).service = server.service := by
  induction calls generalizing server with
  | nil => rfl
  | cons call calls ih =>
      have hcall : (call.after server).service = server.service :=
        Call.after_service (hdown call List.mem_cons_self)
      have hrest : ((call.after server).after calls).service = (call.after server).service := by
        apply ih
        intro later hlater
        rw [hcall]
        exact hdown later (List.mem_cons_of_mem _ hlater)
      exact hrest.trans hcall

/-! ## The call as `main` sees it -/

/-- `main` sees of a call whether it returns. -/
theorem sshConnectionExecute_result (call : Call) (server : Server) (o : Outcomes) (w : World)
    (hssh : o.ssh = true ↔ call.connection = .holds) :
    (sshConnectionExecute o w).map Prod.fst = some (call.sshConnectionExecute server).1 := by
  have hresult : (sshConnectionExecute o w).map Prod.fst =
      some (if o.ssh then .ok true else .error .io) := by
    rw [sshConnectionExecute]
    cases o.ssh <;> rfl
  rw [hresult, Call.sshConnectionExecute]
  cases hconnection : call.connection with
  | refused => simp [hssh, hconnection]
  | lost commands => simp [hssh, hconnection]
  | holds => simp [hssh, hconnection]

end OpenhabConfiguration.Model
