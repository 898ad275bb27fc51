import OpenhabConfiguration.Library.Runs
import OpenhabConfiguration.Model.RemoteScript

/-!
# Concurrent runs of the remote script

Any number of runs of the script on one host, in any interleaving, with every stop and
every start succeeding. While the service is stopped, some run has stopped it and has its
start still ahead (`Coordinated.pending`), so that the service runs when all runs are done.
A run whose `grep` finds `isRunning.txt` is followed by a start of the service that comes
after the run has begun (`Answered.served`); a run whose `grep` finds no file, because
another run has removed it, need not be (`lostRestart`).
-/

set_option autoImplicit false

namespace OpenhabConfiguration.Model

/-! ## Where a run can be -/

/-- What can be left of the script of a run: of the script itself, or of a branch and the
command behind it. -/
def Position (todo : List Command) : Prop :=
  todo <:+ script ∨ todo <:+ restartBranch ++ [Command.rm] ∨ todo <:+ skipBranch ++ [Command.rm]

/-- The run has stopped the service and has its start still ahead. -/
def Restarting (todo : List Command) : Prop := Command.start ∈ todo ∧ Command.stop ∉ todo

/-- The run can still come to start the service. -/
def MayStart (todo : List Command) : Prop :=
  Command.start ∈ todo ∨ Command.ifGrep restartBranch skipBranch ∈ todo

section Position

variable {command : Command} {rest matched unmatched : List Command}

/-- What is left behind a command is left of the same part of the script. -/
theorem Position.tail (h : Position (command :: rest)) : Position rest := by
  have hsuffix : rest <:+ command :: rest := List.suffix_cons command rest
  rcases h with h | h | h
  · exact .inl (hsuffix.trans h)
  · exact .inr (.inl (hsuffix.trans h))
  · exact .inr (.inr (hsuffix.trans h))

/-- Behind the first command there are the branches and the removal. -/
theorem Position.status (h : Position (.status :: rest)) :
    rest = [.ifGrep restartBranch skipBranch, .rm] := by
  simpa [Position, List.suffix_cons_iff, script, restartBranch, skipBranch] using h

/-- The branches are those of the script, and the removal is behind them. -/
theorem Position.ifGrep (h : Position (.ifGrep matched unmatched :: rest)) :
    matched = restartBranch ∧ unmatched = skipBranch ∧ rest = [.rm] := by
  simpa [Position, List.suffix_cons_iff, script, restartBranch, skipBranch, and_assoc] using h

/-- A stop is followed by a start. -/
theorem Position.stop (h : Position (.stop :: rest)) : Restarting rest := by
  simp [Position, List.suffix_cons_iff, script, restartBranch, skipBranch] at h
  subst h
  simp [Restarting]

/-- A run that starts the service does not do so again. -/
theorem Position.start (h : Position (.start :: rest)) :
    Command.status ∉ rest ∧ ¬ MayStart rest := by
  simp [Position, List.suffix_cons_iff, script, restartBranch, skipBranch] at h
  subst h
  simp [MayStart]

/-- A run that is restarting was so before every command but the stop. -/
theorem Restarting.cons (h : Restarting rest) (hne : command ≠ .stop) :
    Restarting (command :: rest) :=
  ⟨List.mem_cons_of_mem _ h.1, List.not_mem_cons_of_ne_of_not_mem (Ne.symm hne) h.2⟩

/-- A run goes on restarting up to the start. -/
theorem Restarting.tail (h : Restarting (command :: rest)) (hne : command ≠ .start) :
    Restarting rest :=
  ⟨(List.mem_cons.mp h.1).resolve_left (Ne.symm hne), fun hin => h.2 (List.mem_cons_of_mem _ hin)⟩

/-- A run can still come to the start behind every command but the start and the branching. -/
theorem MayStart.tail (h : MayStart (command :: rest)) (hstart : command ≠ .start)
    (hgrep : command ≠ .ifGrep restartBranch skipBranch) : MayStart rest :=
  h.imp (fun hin => (List.mem_cons.mp hin).resolve_left (Ne.symm hstart))
    fun hin => (List.mem_cons.mp hin).resolve_left (Ne.symm hgrep)

/-- A run that can come to the start could do so before. -/
theorem MayStart.cons (h : MayStart rest) : MayStart (command :: rest) :=
  h.imp (List.mem_cons_of_mem _) (List.mem_cons_of_mem _)

end Position

/-! ## Traces -/

section Traces

variable {ι : Type} {i : ι} {trace : List (ι × Event)}

/-- Every stop and every start has succeeded. -/
def AllSucceed (trace : List (ι × Event)) : Prop :=
  ∀ entry ∈ trace, entry.2 ≠ .stop false ∧ entry.2 ≠ .start false

instance : Decidable (AllSucceed trace) :=
  inferInstanceAs (Decidable (∀ entry ∈ trace, entry.2 ≠ .stop false ∧ entry.2 ≠ .start false))

/-- The service has been started after the run began. -/
def StartedSince (i : ι) (trace : List (ι × Event)) : Prop :=
  ∃ before after, trace = before ++ (i, .status) :: after ∧ ∃ j, (j, .start true) ∈ after

/-- A start is not undone by what happens later. -/
theorem StartedSince.append (h : StartedSince i trace)
    (events : List (ι × Event)) : StartedSince i (trace ++ events) := by
  obtain ⟨before, after, rfl, j, hin⟩ := h
  exact ⟨before, after ++ events, by simp, j, List.mem_append_left _ hin⟩

/-- A start of any run is one for each run that has begun. -/
theorem startedSince_start (h : (i, .status) ∈ trace) (j : ι) :
    StartedSince i (trace ++ [(j, .start true)]) := by
  obtain ⟨before, after, rfl⟩ := List.append_of_mem h
  exact ⟨before, after ++ [(j, .start true)], by simp, j, by simp⟩

/-- A trace without a start behind the beginning of a run has no start since. -/
theorem not_startedSince {before after : List (ι × Event)} (hbefore : (i, .status) ∉ before)
    (hafter : ∀ j, (j, .start true) ∉ after) : ¬ StartedSince i (before ++ after) := by
  rintro ⟨earlier, later, heq, j, hin⟩
  rcases List.append_eq_append_iff.mp heq with ⟨between, -, hafterEq⟩ | ⟨between, hbeforeEq, hlater⟩
  · exact hafter j (hafterEq ▸ List.mem_append_right _ (List.mem_cons_of_mem _ hin))
  · cases between with
    | nil =>
        rw [List.nil_append] at hlater
        exact hafter j (hlater ▸ List.mem_cons_of_mem _ hin)
    | cons entry between =>
        rw [List.cons_append, List.cons.injEq] at hlater
        exact hbefore (by simp [hbeforeEq, hlater.1])

end Traces

/-! ## One command -/

variable {ι : Type} [DecidableEq ι]

/-- What one command of one run does, command by command. -/
inductive Stepped (host : Host ι) (i : ι) : Host ι → Prop where
  | status (text : String) (rest : List Command)
      (htext : host.service = .running → MatchesRunning text)
      (htodo : host.todo i = .status :: rest) :
      Stepped host i ({ host with isRunning := some text }.did i .status rest)
  | matched (text : String) (matched unmatched rest : List Command)
      (hfile : host.isRunning = some text) (htext : MatchesRunning text)
      (htodo : host.todo i = .ifGrep matched unmatched :: rest) :
      Stepped host i (host.did i (.grep true) (matched ++ rest))
  | unmatched (text : String) (matched unmatched rest : List Command)
      (hfile : host.isRunning = some text) (htext : ¬ MatchesRunning text)
      (htodo : host.todo i = .ifGrep matched unmatched :: rest) :
      Stepped host i (host.did i (.grep true) (unmatched ++ rest))
  | missing (matched unmatched rest : List Command) (hfile : host.isRunning = none)
      (htodo : host.todo i = .ifGrep matched unmatched :: rest) :
      Stepped host i (host.did i (.grep false) (unmatched ++ rest))
  | echo (text : String) (rest : List Command) (htodo : host.todo i = .echo text :: rest) :
      Stepped host i (host.did i (.echo text) rest)
  | stop (rest : List Command) (htodo : host.todo i = .stop :: rest) :
      Stepped host i ({ host with service := .stopped }.did i (.stop true) rest)
  | stopFails (service : Service) (rest : List Command) (htodo : host.todo i = .stop :: rest) :
      Stepped host i ({ host with service := service }.did i (.stop false) rest)
  | start (rest : List Command) (htodo : host.todo i = .start :: rest) :
      Stepped host i ({ host with service := .running }.did i (.start true) rest)
  | startFails (service : Service) (rest : List Command) (htodo : host.todo i = .start :: rest) :
      Stepped host i ({ host with service := service }.did i (.start false) rest)
  | rm (rest : List Command) (htodo : host.todo i = .rm :: rest) :
      Stepped host i ({ host with isRunning := none }.did i .rm rest)

/-- A step of the host is one of the commands, with what it has met. -/
theorem Stepped.of_step {host host' : Host ι} {move : Move ι} (h : host.step move = some host') :
    Stepped host move.run host' := by
  rw [Host.step] at h
  split at h
  · cases h
  · rename_i rest htodo
    split at h
    · cases h
    · rename_i htext
      cases h
      exact .status _ _ (fun hrunning => by_contra fun hno => htext ⟨hrunning, hno⟩) htodo
  · rename_i matched unmatched rest htodo
    split at h
    · rename_i text hfile
      split at h
      · rename_i htext
        cases h
        exact .matched _ _ _ _ hfile htext htodo
      · rename_i htext
        cases h
        exact .unmatched _ _ _ _ hfile htext htodo
    · rename_i hfile
      cases h
      exact .missing _ _ _ hfile htodo
  · rename_i text rest htodo
    cases h
    exact .echo _ _ htodo
  · rename_i rest htodo
    split at h
    · cases h
      exact .stop _ htodo
    · cases h
      exact .stopFails _ _ htodo
  · rename_i rest htodo
    split at h
    · cases h
      exact .start _ htodo
    · cases h
      exact .startFails _ _ htodo
  · rename_i rest htodo
    cases h
    exact .rm _ htodo

section Stepped

variable {host host' : Host ι} {i j : ι}

/-- The other runs stay where they are. -/
theorem Stepped.todo_ne (h : Stepped host i host') (hj : j ≠ i) :
    host'.todo j = host.todo j := by
  cases h <;> exact Host.did_todo_ne hj

/-- A step adds one event to the trace, of its own run. -/
theorem Stepped.trace_eq (h : Stepped host i host') :
    ∃ event, host'.trace = host.trace ++ [(i, event)] := by
  cases h <;> exact ⟨_, rfl⟩

/-- Events stay in the trace. -/
theorem Stepped.mem_trace (h : Stepped host i host') {entry : ι × Event}
    (hin : entry ∈ host.trace) : entry ∈ host'.trace := by
  obtain ⟨event, htrace⟩ := h.trace_eq
  rw [htrace]
  exact List.mem_append_left _ hin

/-- A step adds nothing to what the other runs have done. -/
theorem Stepped.mem_trace_ne (h : Stepped host i host') (hj : j ≠ i) {event : Event} :
    (j, event) ∈ host'.trace ↔ (j, event) ∈ host.trace := by
  obtain ⟨event', htrace⟩ := h.trace_eq
  simp [htrace, hj]

/-- A step takes its run to another position in the script. -/
theorem Stepped.position (h : Stepped host i host') (hpos : Position (host.todo i)) :
    Position (host'.todo i) := by
  -- `grep` puts a branch in front of the rest; every other command leaves a tail
  cases h
  case matched htodo =>
    rw [htodo] at hpos
    obtain ⟨rfl, -, rfl⟩ := hpos.ifGrep
    rw [Host.did_todo]
    exact .inr (.inl (List.suffix_refl _))
  case unmatched htodo | missing htodo =>
    rw [htodo] at hpos
    obtain ⟨-, rfl, rfl⟩ := hpos.ifGrep
    rw [Host.did_todo]
    exact .inr (.inr (List.suffix_refl _))
  all_goals
    rename_i htodo
    rw [htodo] at hpos
    rw [Host.did_todo]
    exact hpos.tail

/-- A run that is past its first command has written `isRunning.txt`. -/
theorem Stepped.begun (h : Stepped host i host')
    (hbegun : Command.status ∈ host.todo i ∨ (i, .status) ∈ host.trace) :
    Command.status ∈ host'.todo i ∨ (i, .status) ∈ host'.trace := by
  rcases hbegun with hahead | hdone
  · cases h <;> rename_i htodo <;> simp_all
  · exact .inr (h.mem_trace hdone)

/-- What comes to wait for a start has stopped the service. -/
theorem Stepped.stopped (h : Stepped host i host') (hok : AllSucceed host'.trace)
    (hpos : Position (host.todo i)) (hr : Restarting (host'.todo i)) :
    Restarting (host.todo i) ∨ (i, .stop true) ∈ host'.trace := by
  cases h
  case stop => exact .inr (by simp)
  case stopFails => exact absurd rfl (hok (i, .stop false) (by simp)).1
  case matched htodo =>
    rw [htodo] at hpos
    obtain ⟨rfl, -, rfl⟩ := hpos.ifGrep
    simp [Restarting, restartBranch] at hr
  case unmatched htodo | missing htodo =>
    rw [htodo] at hpos
    obtain ⟨-, rfl, rfl⟩ := hpos.ifGrep
    simp [Restarting, skipBranch] at hr
  all_goals
    rename_i htodo
    rw [Host.did_todo] at hr
    rw [htodo]
    exact .inl (hr.cons nofun)

/-- What can still come to start the service has not done so in this step. -/
theorem Stepped.unstarted (h : Stepped host i host') (hpos : Position (host.todo i))
    (hm : MayStart (host'.todo i)) :
    MayStart (host.todo i) ∧ ((i, .start true) ∈ host'.trace → (i, .start true) ∈ host.trace) := by
  cases h
  case start htodo | startFails htodo =>
    rw [htodo] at hpos
    rw [Host.did_todo] at hm
    exact absurd hm hpos.start.2
  case matched htodo | unmatched htodo | missing htodo =>
    rw [htodo] at hpos ⊢
    obtain ⟨rfl, rfl, rfl⟩ := hpos.ifGrep
    exact ⟨.inr List.mem_cons_self, fun hin => by simpa using hin⟩
  all_goals
    rename_i htodo
    rw [Host.did_todo] at hm
    rw [htodo]
    exact ⟨hm.cons, fun hin => by simpa using hin⟩

/-- A run waits for its start until it starts the service. -/
theorem Stepped.restarting (h : Stepped host i host') (hok : AllSucceed host'.trace)
    (hpos : Position (host.todo j)) (hr : Restarting (host.todo j)) :
    Restarting (host'.todo j) ∨
      host'.service = .running ∧ host'.trace = host.trace ++ [(i, .start true)] := by
  rcases eq_or_ne j i with rfl | hj
  · cases h
    case start => exact .inr ⟨rfl, rfl⟩
    case startFails => exact absurd rfl (hok (j, .start false) (by simp)).2
    case stop htodo | stopFails htodo =>
      rw [htodo] at hr
      exact absurd List.mem_cons_self hr.2
    case matched htodo | unmatched htodo | missing htodo =>
      rw [htodo] at hpos hr
      obtain ⟨-, -, rfl⟩ := hpos.ifGrep
      simp [Restarting] at hr
    all_goals
      rename_i htodo
      rw [htodo] at hr
      rw [Host.did_todo]
      exact .inl (hr.tail nofun)
  · rw [h.todo_ne hj]
    exact .inl hr

/-- A command that ends with the service down is a stop. -/
theorem Stepped.service (h : Stepped host i host') (hok : AllSucceed host'.trace)
    (hpos : Position (host.todo i)) (hdown : host'.service ≠ .running) :
    host.service ≠ .running ∨ Restarting (host'.todo i) := by
  cases h
  case stop htodo =>
    rw [htodo] at hpos
    rw [Host.did_todo]
    exact .inr hpos.stop
  case stopFails => exact absurd rfl (hok (i, .stop false) (by simp)).1
  case start => exact absurd rfl hdown
  case startFails => exact absurd rfl (hok (i, .start false) (by simp)).2
  all_goals exact .inl hdown

/-- A text in `isRunning.txt` was there before, or it is the status of the service. -/
theorem Stepped.isRunning (h : Stepped host i host') {text : String}
    (hfile : host'.isRunning = some text) :
    (host.isRunning = some text ∧ ∀ j, (j, .status) ∈ host'.trace → (j, .status) ∈ host.trace) ∨
      (host'.service = .running → MatchesRunning text) := by
  cases h
  case status htext _ =>
    cases hfile
    exact .inr htext
  case rm => cases hfile
  all_goals exact .inl ⟨hfile, fun j hin => by simpa using hin⟩

/-- A run that can still start the service goes on to do so, unless the service is down when
it looks. -/
theorem Stepped.served (h : Stepped host i host') (hok : AllSucceed host'.trace)
    (hpos : Position (host.todo i)) (hfound : (i, .grep false) ∉ host'.trace)
    (hm : MayStart (host.todo i)) :
    MayStart (host'.todo i) ∨ Command.status ∉ host.todo i ∧
      (host'.trace = host.trace ++ [(i, .start true)] ∨
        ∃ text, host.isRunning = some text ∧ ¬ MatchesRunning text) := by
  cases h
  case matched htodo =>
    rw [htodo] at hpos
    obtain ⟨rfl, -, -⟩ := hpos.ifGrep
    rw [Host.did_todo]
    exact .inl (.inl (by simp [restartBranch]))
  case unmatched hfile htext htodo =>
    rw [htodo] at hpos ⊢
    obtain ⟨-, -, rfl⟩ := hpos.ifGrep
    exact .inr ⟨by simp, .inr ⟨_, hfile, htext⟩⟩
  case missing => exact absurd (by simp) hfound
  case start htodo =>
    rw [htodo] at hpos ⊢
    exact .inr ⟨by simpa using hpos.start.1, .inl rfl⟩
  case startFails => exact absurd rfl (hok (i, .start false) (by simp)).2
  all_goals
    rename_i htodo
    rw [htodo] at hm
    rw [Host.did_todo]
    exact .inl (hm.tail nofun nofun)

end Stepped

/-- **Runs of the host.** What holds at the beginning and is kept by every command holds
after any interleaving in which every stop and every start succeeds. -/
theorem Host.execute_induction {P : Host ι → Prop} {host host' : Host ι} {moves : List (Move ι)}
    (hinit : P host)
    (hstep : ∀ host i host', P host → Stepped host i host' → AllSucceed host'.trace → P host')
    (h : host.execute moves = some host') (hok : AllSucceed host'.trace) : P host' := by
  refine Runs.invariant_of_run (P := fun host => AllSucceed host.trace → P host) ?_
    (fun _ => hinit) h hok
  intro host move host' hkept hmove hok
  have hstepped := Stepped.of_step hmove
  exact hstep _ _ _ (hkept fun entry hin => hok entry (hstepped.mem_trace hin)) hstepped hok

/-! ## The pending start -/

/-- What holds of the host after any commands of the runs. -/
structure Coordinated (host : Host ι) : Prop where
  position : ∀ i, Position (host.todo i)
  begun : ∀ i, Command.status ∈ host.todo i ∨ (i, .status) ∈ host.trace
  stopped : ∀ i, Restarting (host.todo i) → (i, .stop true) ∈ host.trace
  unstarted : ∀ i, MayStart (host.todo i) → (i, .start true) ∉ host.trace
  /-- While the service is down, some run waits for its start. -/
  pending : host.service ≠ .running → ∃ i, Restarting (host.todo i)

omit [DecidableEq ι] in
/-- Before the first command every run is at the beginning of the script, and the service is
running. -/
theorem Coordinated.initial (file : Option String) :
    Coordinated (Host.initial ι .running file) where
  position _ := .inl (List.suffix_refl _)
  begun _ := .inl List.mem_cons_self
  stopped _ hr := by simp [Host.initial, Restarting, script] at hr
  unstarted _ _ := List.not_mem_nil
  pending hdown := absurd rfl hdown

/-- The invariant is kept by every command that succeeds, of whichever run. -/
theorem Coordinated.step {host host' : Host ι} {i : ι} (h : Coordinated host)
    (hstep : Stepped host i host') (hok : AllSucceed host'.trace) : Coordinated host' where
  position j := by
    rcases eq_or_ne j i with rfl | hj
    · exact hstep.position (h.position j)
    · rw [hstep.todo_ne hj]
      exact h.position j
  begun j := by
    rcases eq_or_ne j i with rfl | hj
    · exact hstep.begun (h.begun j)
    · rw [hstep.todo_ne hj]
      exact (h.begun j).imp_right hstep.mem_trace
  stopped j hr := by
    rcases eq_or_ne j i with rfl | hj
    · exact (hstep.stopped hok (h.position j) hr).elim
        (fun hr => hstep.mem_trace (h.stopped j hr)) id
    · rw [hstep.todo_ne hj] at hr
      exact hstep.mem_trace (h.stopped j hr)
  unstarted j hm := by
    rcases eq_or_ne j i with rfl | hj
    · have ⟨hm, hstarted⟩ := hstep.unstarted (h.position j) hm
      exact fun hin => h.unstarted j hm (hstarted hin)
    · rw [hstep.todo_ne hj] at hm
      rw [hstep.mem_trace_ne hj]
      exact h.unstarted j hm
  pending hdown := by
    rcases hstep.service hok (h.position i) hdown with hdown' | hr
    · obtain ⟨j, hr⟩ := h.pending hdown'
      rcases hstep.restarting hok (h.position j) hr with hr | ⟨hrunning, -⟩
      · exact ⟨j, hr⟩
      · exact absurd hrunning hdown
    · exact ⟨i, hr⟩

/-- The invariant holds behind any commands of any runs, in any order. -/
theorem Coordinated.execute {file : Option String} {moves : List (Move ι)} {host : Host ι}
    (h : (Host.initial ι .running file).execute moves = some host)
    (hok : AllSucceed host.trace) : Coordinated host :=
  Host.execute_induction (Coordinated.initial file) (fun _ _ _ => Coordinated.step) h hok

/-- **Restarts never leave openHAB down.** Whenever the service is not running, some run has
stopped it and not yet started it again; when all runs are done, the service is running. -/
theorem stopped_has_pending_start (file : Option String) (moves : List (Move ι)) (host : Host ι)
    (h : (Host.initial ι .running file).execute moves = some host)
    (hok : AllSucceed host.trace) :
    (host.service ≠ .running →
      ∃ i, (i, .stop true) ∈ host.trace ∧ (i, .start true) ∉ host.trace) ∧
    ((∀ i, host.todo i = []) → host.service = .running) := by
  have hcoord := Coordinated.execute h hok
  constructor
  · intro hdown
    obtain ⟨i, hr⟩ := hcoord.pending hdown
    exact ⟨i, hcoord.stopped i hr, hcoord.unstarted i (.inl hr.1)⟩
  · intro hdone
    by_contra hdown
    obtain ⟨i, hr⟩ := hcoord.pending hdown
    rw [hdone i] at hr
    exact List.not_mem_nil hr.1

/-- The next command of a run, with a running service and no failure. -/
def proceed {ι : Type} (i : ι) : Move ι where
  run := i
  text := "Active: active (running)"
  succeeds := true
  afterFailure := .failed

/-- The next command of a run, with a service that is down. -/
def proceedDown {ι : Type} (i : ι) : Move ι :=
  { proceed i with text := "Active: inactive (dead)" }

/-- One run has stopped the service, and another one has met the stopped service and skipped its
restart: the first one has its start before it. -/
theorem stopped_has_pending_start_two :
    ∃ host, (Host.initial Bool .running none).execute
        (List.replicate 5 (proceed false) ++ List.replicate 3 (proceedDown true)) = some host ∧
      host.service = .stopped ∧
      ∃ i, (i, .stop true) ∈ host.trace ∧ (i, .start true) ∉ host.trace :=
  ⟨_, rfl, rfl, (stopped_has_pending_start none
    (List.replicate 5 (proceed false) ++ List.replicate 3 (proceedDown true)) _ rfl
    (by decide)).1 (by decide)⟩

/-! ## Lost restarts -/

/-- The service has been started after the run began, or it is about to be. -/
def Due (host : Host ι) (i : ι) : Prop :=
  StartedSince i host.trace ∨ (i, .status) ∈ host.trace ∧ ∃ j, Restarting (host.todo j)

/-- A start that is due to a run stays due to it until it comes. -/
theorem Due.step {host host' : Host ι} {i k : ι} (h : Due host k) (hcoord : Coordinated host)
    (hstep : Stepped host i host') (hok : AllSucceed host'.trace) : Due host' k := by
  rcases h with hstarted | ⟨hbegun, j, hr⟩
  · obtain ⟨event, htrace⟩ := hstep.trace_eq
    exact .inl (htrace ▸ hstarted.append _)
  · rcases hstep.restarting hok (hcoord.position j) hr with hr | ⟨-, htrace⟩
    · exact .inr ⟨hstep.mem_trace hbegun, j, hr⟩
    · exact .inl (htrace ▸ startedSince_start hbegun i)

/-- What holds of the host after any commands of the runs, as to the restarts of the runs. -/
structure Answered (host : Host ι) : Prop extends Coordinated host where
  /-- `isRunning.txt` says that the service is down only if a start is due to all runs. -/
  stale : ∀ text, host.isRunning = some text → ¬ MatchesRunning text →
    ∀ i, (i, .status) ∈ host.trace → Due host i
  served : ∀ i, (i, .grep false) ∉ host.trace → MayStart (host.todo i) ∨ Due host i

omit [DecidableEq ι] in
/-- Before the first command nothing is due to anybody. -/
theorem Answered.initial (file : Option String) : Answered (Host.initial ι .running file) where
  toCoordinated := .initial file
  stale _ _ _ _ hin := absurd hin List.not_mem_nil
  served _ _ := .inl (.inr (by simp [Host.initial, script]))

/-- Every command that succeeds keeps the invariant: a run that finds the service down leaves its
restart to another one. -/
theorem Answered.step {host host' : Host ι} {i : ι} (h : Answered host)
    (hstep : Stepped host i host') (hok : AllSucceed host'.trace) : Answered host' where
  toCoordinated := h.toCoordinated.step hstep hok
  stale text hfile htext j hbegun := by
    rcases hstep.isRunning hfile with ⟨hfile, hsame⟩ | hmatches
    · exact (h.stale text hfile htext j (hsame j hbegun)).step h.toCoordinated hstep hok
    · -- a status that does not match has been taken of a service that is down
      have hdown : host'.service ≠ .running := fun hrunning => htext (hmatches hrunning)
      exact .inr ⟨hbegun, (h.toCoordinated.step hstep hok).pending hdown⟩
  served j hfound := by
    rcases h.served j (fun hin => hfound (hstep.mem_trace hin)) with hm | hdue
    · rcases eq_or_ne j i with rfl | hj
      · rcases hstep.served hok (h.position j) hfound hm with hm | ⟨hpast, hserved⟩
        · exact .inl hm
        · have hbegun := (h.begun j).resolve_left hpast
          -- it has started the service, or has read that the service is down
          rcases hserved with htrace | ⟨text, hfile, htext⟩
          · exact .inr (.inl (htrace ▸ startedSince_start hbegun j))
          · exact .inr ((h.stale text hfile htext j hbegun).step h.toCoordinated hstep hok)
      · exact .inl (hstep.todo_ne hj ▸ hm)
    · exact .inr (hdue.step h.toCoordinated hstep hok)

/-- The invariant holds behind any commands of any runs, in any order. -/
theorem Answered.execute {file : Option String} {moves : List (Move ι)} {host : Host ι}
    (h : (Host.initial ι .running file).execute moves = some host)
    (hok : AllSucceed host.trace) : Answered host :=
  Host.execute_induction (Answered.initial file) (fun _ _ _ => Answered.step) h hok

/-- **A restart that looks into a file is not lost.** When all runs are done, the service
has been started after the beginning of every run whose `grep` has found `isRunning.txt`. -/
theorem restarted_of_grep_found (file : Option String) (moves : List (Move ι)) (host : Host ι)
    (h : (Host.initial ι .running file).execute moves = some host)
    (hok : AllSucceed host.trace) (hdone : ∀ i, host.todo i = []) (i : ι)
    (hfound : (i, .grep false) ∉ host.trace) : StartedSince i host.trace := by
  have hanswered := Answered.execute h hok
  rcases hanswered.served i hfound with hm | hstarted | ⟨-, j, hr⟩
  · rw [hdone i] at hm
    exact (hm.elim List.not_mem_nil List.not_mem_nil).elim
  · exact hstarted
  · rw [hdone j] at hr
    exact (List.not_mem_nil hr.1).elim

/-- A run has restarted the service and is about to remove `isRunning.txt`; another one
begins, loses the file and goes on as if the service were down. -/
def lostRestart : List (Move Bool) :=
  List.replicate 9 (proceed false) ++
    [proceed true, proceed false, proceed true, proceed true, proceed true]

/-- The lost restart seen from the first run, whose `grep` has found its file. -/
theorem restarted_of_grep_found_first :
    ∃ host, (Host.initial Bool .running none).execute lostRestart = some host ∧
      (false, .grep false) ∉ host.trace ∧ StartedSince false host.trace :=
  ⟨_, rfl, by decide, restarted_of_grep_found none lostRestart _ rfl (by decide)
    (by decide) false (by decide)⟩

/-- The second run has begun after the only start and does not start the service itself. -/
theorem restart_lost :
    ∃ host, (Host.initial Bool .running none).execute lostRestart = some host ∧
      AllSucceed host.trace ∧ (∀ i, host.todo i = []) ∧ ¬ StartedSince true host.trace := by
  refine ⟨_, rfl, by decide, by decide, ?_⟩
  rw [← List.take_append_drop 9 (Host.trace _)]
  exact not_startedSince (by decide) (by decide)

end OpenhabConfiguration.Model
