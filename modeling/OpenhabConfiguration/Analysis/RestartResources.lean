import OpenhabConfiguration.Analysis.RestartReports
import OpenhabConfiguration.Model.ResourceUse

/-!
# What `sshConnectionExecute` opens and closes

A call of `sshConnectionExecute` does to the host what `Call.sshConnectionExecute` says, and
closes its session whenever it has one. It leaves its client open exactly when it has a
session whose closing throws (`sshConnectionExecute_eq`), so that a history of calls leaves
one client open for each such call (`sshCalls_leftOpen`).
-/

set_option autoImplicit false

namespace OpenhabConfiguration.Model

open Frames Resources

namespace SshReplies

variable (replies : SshReplies) (call : Call)

/-- What becomes of the connection. -/
def connection : Connection :=
  if replies.connect = .ok ∧ replies.authPassword = .ok ∧ replies.startSession = .ok then
    if replies.exec = .ok ∧ replies.readFully = .ok then
      if replies.join = .ok then .holds else .lost scriptLength
    else .lost replies.commands
  else .refused

/-- The call with what becomes of its connection. -/
def asCall : Call := { call with connection := replies.connection }

/-- The call gets a session. -/
def Starts : Prop :=
  replies.connect = .ok ∧ replies.authPassword = .ok ∧ replies.startSession = .ok

instance : Decidable replies.Starts := inferInstanceAs (Decidable (_ ∧ _ ∧ _))

/-- The call gets a session whose closing throws. -/
def LeavesOpen : Prop := replies.Starts ∧ replies.closes .session ≠ .ok

instance : Decidable replies.LeavesOpen := inferInstanceAs (Decidable (_ ∧ _))

/-- What the `finally` block closes. -/
def closedAtEnd (session : Bool) : List (Usage SshResource) :=
  if session then
    .closed .session :: if replies.closes .session = .ok then [.closed .client] else []
  else [.closed .client]

/-- What the `finally` block throws. -/
def thrownAtEnd (session : Bool) : Except Throwable Unit :=
  if session ∧ replies.closes .session ≠ .ok then
    if replies.closes .session = .ioException then .ok () else .error .runtime
  else if replies.closes .client = .runtimeException then .error .runtime else .ok ()

/-- The call returns `true`: every request is answered, and the `finally` block throws
nothing. -/
def ReturnsTrue : Prop := replies.connection = .holds ∧ replies.thrownAtEnd true = .ok ()

/-- The `finally` block in closed form. -/
theorem closeAll_apply (t : Tracked SshState SshResource) :
    replies.closeAll t = some (replies.thrownAtEnd t.state.session,
      { t with events := t.events ++ replies.closedAtEnd t.state.session }) := by
  unfold closeAll catchIO thrownAtEnd closedAtEnd
  rw [tryCatch_apply]
  show ((if t.state.session = true then
      closing replies.failure .session >>= fun _ => closing replies.failure .client
    else closing replies.failure .client : SshProgram Unit) t).bind _ = _
  cases t.state.session with
  | false =>
      simp only [Bool.false_eq_true, if_false, false_and, closing_apply, failure]
      cases replies.closes .client <;> rfl
  | true =>
      simp only [if_true, true_and, bind_apply, closing_apply, failure]
      cases replies.closes .session with
      | ok =>
          have hevents : t.events ++ [.closed .session, .closed .client] =
              t.events ++ [.closed .session] ++ [.closed .client] := by simp
          simp only [if_true, hevents]
          cases replies.closes .client <;> rfl
      | ioException => rfl
      | runtimeException => rfl

/-- A request that is answered with an exception ends the block. -/
theorem answer_bind {σ ρ α : Type} (reply : Reply) (m : Program Throwable σ ρ α)
    (t : Tracked σ ρ) : (answer reply >>= fun _ => m) t =
      match reply.throwable with
      | none => m t
      | some e => some (.error e, t) := by
  cases reply <;> rfl

/-- Without a session, the block throws before the script has begun. -/
theorem restart_of_not (h : ¬ (replies.authPassword = .ok ∧ replies.startSession = .ok))
    (t : Tracked SshState SshResource) : ∃ e, replies.restart call t = some (.error e, t) := by
  unfold restart
  rw [answer_bind]
  cases hauth : replies.authPassword with
  | ok =>
      show ∃ e, (answer replies.startSession >>= fun _ => _ : SshProgram Bool) t = _
      rw [answer_bind]
      cases hstart : replies.startSession with
      | ok => exact absurd ⟨hauth, hstart⟩ h
      | ioException => exact ⟨_, rfl⟩
      | runtimeException => exact ⟨_, rfl⟩
  | ioException => exact ⟨_, rfl⟩
  | runtimeException => exact ⟨_, rfl⟩

/-- With a session, the host runs the script, and the block returns when all its requests are
answered. -/
theorem restart_of_session (h : replies.authPassword = .ok ∧ replies.startSession = .ok)
    (t : Tracked SshState SshResource) : ∃ r, replies.restart call t = some (r,
        { state := ⟨call.steps replies.ran t.state.host, true⟩
          events := t.events ++ [.opened .session] }) ∧
      (r = .ok true ↔ replies.exec = .ok ∧ replies.readFully = .ok ∧ replies.join = .ok) := by
  have hblock : replies.restart call t = (answer replies.exec >>= fun _ =>
      answer replies.readFully >>= fun _ => answer replies.join >>= fun _ => pure true :
        SshProgram Bool)
      { state := ⟨call.steps replies.ran t.state.host, true⟩
        events := t.events ++ [.opened .session] } := by
    unfold restart
    rw [h.1, h.2]
    rfl
  rw [hblock, answer_bind]
  cases replies.exec with
  | ok =>
      show ∃ r, (answer replies.readFully >>= fun _ => _ : SshProgram Bool) _ = _ ∧ _
      rw [answer_bind]
      cases replies.readFully with
      | ok => cases replies.join <;> exact ⟨_, rfl, by simp⟩
      | ioException => exact ⟨_, rfl, by simp⟩
      | runtimeException => exact ⟨_, rfl, by simp⟩
  | ioException => exact ⟨_, rfl, by simp⟩
  | runtimeException => exact ⟨_, rfl, by simp⟩

/-- What a call opens and closes. -/
def used : List (Usage SshResource) :=
  if replies.Starts then .opened .client :: .opened .session :: replies.closedAtEnd true
  else if replies.connect = .ok then [.opened .client, .closed .client] else []

/-- A call closes every session that it opens. -/
theorem count_session :
    replies.used.count (.opened .session) = replies.used.count (.closed .session) := by
  unfold used closedAtEnd
  split
  · rw [if_pos rfl]
    split <;> rfl
  · split <;> rfl

/-- A call closes its client unless the closing of its session throws. -/
theorem count_client : replies.used.count (.opened .client) =
    replies.used.count (.closed .client) + if replies.LeavesOpen then 1 else 0 := by
  unfold used closedAtEnd
  split
  · rename_i hstarts
    rw [if_pos rfl]
    by_cases hcloses : replies.closes .session = .ok
    · rw [if_pos hcloses, if_neg fun h : replies.LeavesOpen => h.2 hcloses]
      rfl
    · rw [if_neg hcloses, if_pos (show replies.LeavesOpen from ⟨hstarts, hcloses⟩)]
      rfl
  · rename_i hstarts
    rw [if_neg fun h : replies.LeavesOpen => hstarts h.1]
    split <;> rfl

/-- The steps of the script do not depend on what becomes of the connection. -/
theorem steps_asCall (n : ℕ) (host : Host Unit) :
    (replies.asCall call).steps n host = call.steps n host := by
  induction n generalizing host with
  | zero => rfl
  | succ n ih =>
      have hmove : (replies.asCall call).move host = call.move host := rfl
      rw [Call.steps, Call.steps, hmove]
      cases host.step (call.move host) with
      | none => rfl
      | some next => exact ih next

/-- What the `finally` block makes of a call. -/
theorem tryFinally_restart {t t' : Tracked SshState SshResource} {r : Except Throwable Bool}
    (h : replies.restart call t = some (r, t')) :
    ∃ r', tryFinally (replies.restart call) replies.closeAll t = some (r',
        { t' with events := t'.events ++ replies.closedAtEnd t'.state.session }) ∧
      (r' = .ok true ↔ r = .ok true ∧ replies.thrownAtEnd t'.state.session = .ok ()) := by
  rw [tryFinally_apply, h, Option.bind_some, closeAll_apply]
  refine ⟨_, rfl, ?_⟩
  cases replies.thrownAtEnd t'.state.session <;> simp

/-- A call with a session runs as many commands as the connection lasts, and succeeds if it holds.
-/
theorem asCall_of_starts (h : replies.Starts) (server : Server) :
    ((replies.asCall call).sshConnectionExecute server).2 = call.steps replies.ran server.host ∧
      (((replies.asCall call).sshConnectionExecute server).1 = .ok true ↔
        replies.exec = .ok ∧ replies.readFully = .ok ∧ replies.join = .ok) := by
  have hconnection : (replies.asCall call).connection =
      if replies.exec = .ok ∧ replies.readFully = .ok then
        if replies.join = .ok then .holds else .lost scriptLength
      else .lost replies.commands := if_pos h
  unfold Call.sshConnectionExecute ran
  rw [hconnection]
  by_cases hread : replies.exec = .ok ∧ replies.readFully = .ok
  · by_cases hjoin : replies.join = .ok
    · simp [steps_asCall, hread, hjoin]
    · simp [steps_asCall, hread, hjoin]
  · simp only [if_neg hread, steps_asCall, true_and]
    constructor
    · intro h
      cases h
    · exact fun h => absurd ⟨h.1, h.2.1⟩ hread

/-- A call without a session throws and leaves the host as it is. -/
theorem asCall_of_not (h : ¬ replies.Starts) (server : Server) :
    (replies.asCall call).sshConnectionExecute server = (.error .io, server.host) := by
  have hconnection : (replies.asCall call).connection = .refused := if_neg h
  unfold Call.sshConnectionExecute
  rw [hconnection]

/-- A call of `sshConnectionExecute` does to the host what the call of `Model.RestartCalls`
does whose connection fails where the first request fails. It returns `true` exactly when
that call does and no closing throws a `RuntimeException`. -/
theorem sshConnectionExecute_eq (replies : SshReplies) (call : Call) (server : Server)
    (events : List (Usage SshResource)) :
    ∃ r t, replies.sshConnectionExecute call ⟨⟨server.host, false⟩, events⟩ = some (r, t) ∧
      t.state.host = ((replies.asCall call).sshConnectionExecute server).2 ∧
      t.events = events ++ replies.used ∧
      (r = .ok true ↔ ((replies.asCall call).sshConnectionExecute server).1 = .ok true ∧
        replies.thrownAtEnd true = .ok ()) := by
  unfold sshConnectionExecute
  rw [answer_bind]
  by_cases hstarts : replies.Starts
  · obtain ⟨hhost, hreturns⟩ := asCall_of_starts replies call hstarts server
    obtain ⟨r, hrestart, hr⟩ := restart_of_session replies call hstarts.2
      ⟨⟨server.host, false⟩, events ++ [.opened .client]⟩
    obtain ⟨r', hrun, hr'⟩ := tryFinally_restart replies call hrestart
    rw [hstarts.1]
    refine ⟨r', _, hrun, hhost.symm, ?_, ?_⟩
    · simp [used, hstarts]
    · rw [hr', hr, hreturns]
  · rw [asCall_of_not replies call hstarts]
    by_cases hconnect : replies.connect = .ok
    · have hnot : ¬ (replies.authPassword = .ok ∧ replies.startSession = .ok) :=
        fun h => hstarts ⟨hconnect, h⟩
      obtain ⟨e, hrestart⟩ := restart_of_not replies call hnot
        ⟨⟨server.host, false⟩, events ++ [.opened .client]⟩
      obtain ⟨r', hrun, hr'⟩ := tryFinally_restart replies call hrestart
      rw [hconnect]
      refine ⟨r', _, hrun, rfl, ?_, ?_⟩
      · simp [used, hstarts, hconnect, closedAtEnd]
      · rw [hr']
        simp
    · have hused : replies.used = [] := by simp [used, hstarts, hconnect]
      cases hreply : replies.connect with
      | ok => exact absurd hreply hconnect
      | ioException => exact ⟨_, _, rfl, rfl, by simp [hused], by simp⟩
      | runtimeException => exact ⟨_, _, rfl, rfl, by simp [hused], by simp⟩

/-- What a call leaves, opens and closes, and when it returns `true`. -/
theorem after_eq (t : Tracked Server SshResource) : ∃ r, replies.after call t =
      some (r, ⟨(replies.asCall call).after t.state, t.events ++ replies.used⟩) ∧
    (r = .ok true ↔ replies.ReturnsTrue) := by
  obtain ⟨r, t', hrun, hhost, hevents, hr⟩ :=
    sshConnectionExecute_eq replies call t.state t.events
  refine ⟨r, ?_, ?_⟩
  · unfold after Call.after
    rw [hrun, ← hhost, ← hevents]
    rfl
  · rw [hr, Call.returns_iff]
    simp [ReturnsTrue, asCall]

end SshReplies

/-! ## Histories of calls -/

/-- The same for any calls, one after the other. -/
theorem sshCalls_eq (calls : List (SshReplies × Call)) (t : Tracked Server SshResource) :
    ∃ rs, sshCalls calls t = some (rs, ⟨t.state.after (calls.map fun c => c.1.asCall c.2),
        t.events ++ calls.flatMap fun c => c.1.used⟩) ∧
      List.Forall₂ (fun (c : SshReplies × Call) r => r = .ok true ↔ c.1.ReturnsTrue) calls rs := by
  induction calls generalizing t with
  | nil => exact ⟨[], by simp [sshCalls, Server.after], .nil⟩
  | cons c calls ih =>
      obtain ⟨r, hcall, hr⟩ := c.1.after_eq c.2 t
      obtain ⟨rs, hcalls, hrs⟩ := ih ⟨(c.1.asCall c.2).after t.state, t.events ++ c.1.used⟩
      refine ⟨r :: rs, ?_, .cons hr hrs⟩
      rw [sshCalls, hcall, List.flatMap_cons, ← List.append_assoc]
      show (sshCalls calls _).bind _ = _
      rw [hcalls]
      rfl

/-- Any calls close all the sessions that they open. -/
theorem count_session_calls (calls : List (SshReplies × Call)) :
    (calls.flatMap fun c => c.1.used).count (.opened .session) =
      (calls.flatMap fun c => c.1.used).count (.closed .session) := by
  induction calls with
  | nil => rfl
  | cons c calls ih =>
      rw [List.flatMap_cons, List.count_append, List.count_append, c.1.count_session, ih]

/-- Any calls leave one client open for each closing of a session that throws. -/
theorem count_client_calls (calls : List (SshReplies × Call)) :
    (calls.flatMap fun c => c.1.used).count (.opened .client) =
      (calls.flatMap fun c => c.1.used).count (.closed .client) +
        calls.countP fun c => c.1.LeavesOpen := by
  induction calls with
  | nil => rfl
  | cons c calls ih =>
      rw [List.flatMap_cons, List.count_append, List.count_append, c.1.count_client, ih,
        List.countP_cons]
      simp only [decide_eq_true_eq]
      omega

/-- **Connections left open.** A history of calls, whatever fails in it, leaves the host as the
history of the calls of `Model.RestartCalls` does. A call returns `true` exactly when all its
requests are answered and its `finally` block throws nothing. Every session that is opened is
closed, and every client but those of the calls with a session whose closing throws: for
these, the client stays open. -/
theorem sshCalls_leftOpen (calls : List (SshReplies × Call)) (server : Server) :
    ∃ rs t, sshCalls calls ⟨server, []⟩ = some (rs, t) ∧
      t.state = server.after (calls.map fun c => c.1.asCall c.2) ∧
      List.Forall₂ (fun (c : SshReplies × Call) r => r = .ok true ↔ c.1.ReturnsTrue) calls rs ∧
      t.events.count (.opened .session) = t.events.count (.closed .session) ∧
      t.events.count (.opened .client) =
        t.events.count (.closed .client) + calls.countP fun c => c.1.LeavesOpen := by
  obtain ⟨rs, hcalls, hrs⟩ := sshCalls_eq calls ⟨server, []⟩
  refine ⟨rs, _, hcalls, rfl, hrs, ?_, ?_⟩
  · rw [List.nil_append]
    exact count_session_calls calls
  · rw [List.nil_append]
    exact count_client_calls calls

end OpenhabConfiguration.Model
