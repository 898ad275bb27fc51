import Mathlib.Algebra.BigOperators.Group.Finset.Basic
import Mathlib.Algebra.Order.BigOperators.Group.Finset
import Mathlib.Data.Fintype.BigOperators
import OpenhabConfiguration.Analysis.ConcurrentRestarts

/-!
# What each run of the remote script does

Whatever the other runs do and whatever fails, a run of the script does one of the sequences
of commands that the script has on its own (`Completes`, `script_events`). Runs disturb each
other through `isRunning.txt` alone: a `grep` that finds no file comes behind the `rm` of
another run, and this behind the own status (`grep_missing`). So a run whose restart is lost
has been overtaken by another one (`restarted_or_overtaken`).
-/

set_option autoImplicit false

namespace OpenhabConfiguration.Model

/-! ## The commands of one run -/

/-- The events of a list of commands that is run to its end, whatever it meets. -/
inductive Completes : List Command → List Event → Prop where
  | nil : Completes [] []
  | status {rest : List Command} {events : List Event} (h : Completes rest events) :
      Completes (.status :: rest) (.status :: events)
  | matched {matched unmatched rest : List Command} {events : List Event}
      (h : Completes (matched ++ rest) events) :
      Completes (.ifGrep matched unmatched :: rest) (.grep true :: events)
  | unmatched {matched unmatched rest : List Command} {events : List Event} (found : Bool)
      (h : Completes (unmatched ++ rest) events) :
      Completes (.ifGrep matched unmatched :: rest) (.grep found :: events)
  | echo (text : String) {rest : List Command} {events : List Event} (h : Completes rest events) :
      Completes (.echo text :: rest) (.echo text :: events)
  | stop (succeeded : Bool) {rest : List Command} {events : List Event}
      (h : Completes rest events) : Completes (.stop :: rest) (.stop succeeded :: events)
  | start (succeeded : Bool) {rest : List Command} {events : List Event}
      (h : Completes rest events) : Completes (.start :: rest) (.start succeeded :: events)
  | rm {rest : List Command} {events : List Event} (h : Completes rest events) :
      Completes (.rm :: rest) (.rm :: events)

section Completes

variable {rest matched unmatched : List Command} {events : List Event}

/-- Nothing is left to do. -/
@[simp] theorem completes_nil : Completes [] events ↔ events = [] :=
  ⟨fun h => by cases h; rfl, fun h => h ▸ .nil⟩

/-- A status is taken, and the rest is run. -/
@[simp] theorem completes_status : Completes (.status :: rest) events ↔
    ∃ later, events = .status :: later ∧ Completes rest later :=
  ⟨fun h => by cases h with | status h => exact ⟨_, rfl, h⟩,
    fun ⟨_, heq, h⟩ => heq ▸ .status h⟩

/-- One of the branches is run; the first one only if the file is there. -/
@[simp] theorem completes_ifGrep : Completes (.ifGrep matched unmatched :: rest) events ↔
    ∃ found later, events = .grep found :: later ∧
      (found = true ∧ Completes (matched ++ rest) later ∨ Completes (unmatched ++ rest) later) := by
  constructor
  · intro h
    cases h with
    | matched h => exact ⟨true, _, rfl, .inl ⟨rfl, h⟩⟩
    | unmatched found h => exact ⟨found, _, rfl, .inr h⟩
  · rintro ⟨found, later, rfl, ⟨rfl, h⟩ | h⟩
    · exact .matched h
    · exact .unmatched found h

/-- A message is printed, and the rest is run. -/
@[simp] theorem completes_echo {text : String} : Completes (.echo text :: rest) events ↔
    ∃ later, events = .echo text :: later ∧ Completes rest later :=
  ⟨fun h => by cases h with | echo _ h => exact ⟨_, rfl, h⟩,
    fun ⟨_, heq, h⟩ => heq ▸ .echo _ h⟩

/-- The stop succeeds or fails, and the rest is run. -/
@[simp] theorem completes_stop : Completes (.stop :: rest) events ↔
    ∃ succeeded later, events = .stop succeeded :: later ∧ Completes rest later :=
  ⟨fun h => by cases h with | stop succeeded h => exact ⟨succeeded, _, rfl, h⟩,
    fun ⟨_, _, heq, h⟩ => heq ▸ .stop _ h⟩

/-- The start succeeds or fails, and the rest is run. -/
@[simp] theorem completes_start : Completes (.start :: rest) events ↔
    ∃ succeeded later, events = .start succeeded :: later ∧ Completes rest later :=
  ⟨fun h => by cases h with | start succeeded h => exact ⟨succeeded, _, rfl, h⟩,
    fun ⟨_, _, heq, h⟩ => heq ▸ .start _ h⟩

/-- The file is removed, and the rest is run. -/
@[simp] theorem completes_rm : Completes (.rm :: rest) events ↔
    ∃ later, events = .rm :: later ∧ Completes rest later :=
  ⟨fun h => by cases h with | rm h => exact ⟨_, rfl, h⟩, fun ⟨_, heq, h⟩ => heq ▸ .rm h⟩

/-- What is left to do can always be done. -/
theorem exists_completes (todo : List Command) (hpos : Position todo) :
    ∃ events, Completes todo events := by
  induction todo with
  | nil => exact ⟨[], .nil⟩
  | cons command rest ih =>
      obtain ⟨later, h⟩ := ih hpos.tail
      cases command with
      | status => exact ⟨_, .status h⟩
      | ifGrep matched unmatched =>
          obtain ⟨-, rfl, rfl⟩ := hpos.ifGrep
          exact ⟨_, .unmatched true (.echo _ (.rm .nil))⟩
      | echo text => exact ⟨_, .echo text h⟩
      | stop => exact ⟨_, .stop true h⟩
      | start => exact ⟨_, .start true h⟩
      | rm => exact ⟨_, .rm h⟩

end Completes

/-- The events of a run that restarts the service, by the results of the stop and the
start. -/
def restartEvents (stopped started : Bool) : List Event :=
  [.status, .grep true, .echo "openHab2 is Running!", .echo "stopping openHab2...",
    .stop stopped, .echo "Cache is clean!", .echo "Start openHab2", .start started,
    .echo "openHab2 started!", .rm]

/-- The events of a run that leaves the service alone. -/
def skipEvents (found : Bool) : List Event :=
  [.status, .grep found, .echo "openHab2 is not running!", .rm]

/-- The script restarts the service or leaves it alone, and removes its file either way. -/
theorem completes_script {events : List Event} : Completes script events ↔
    (∃ stopped started, events = restartEvents stopped started) ∨
      ∃ found, events = skipEvents found := by
  constructor
  · intro h
    simp only [script, completes_status, completes_ifGrep] at h
    obtain ⟨_, rfl, found, _, rfl, ⟨rfl, h⟩ | h⟩ := h
    · simp only [restartBranch, List.cons_append, List.nil_append, completes_echo,
        completes_stop, completes_start, completes_rm, completes_nil] at h
      obtain ⟨_, rfl, _, rfl, stopped, _, rfl, _, rfl, _, rfl, started, _, rfl, _, rfl, _, rfl,
        rfl⟩ := h
      exact .inl ⟨stopped, started, rfl⟩
    · simp only [skipBranch, List.cons_append, List.nil_append, completes_echo, completes_rm,
        completes_nil] at h
      obtain ⟨_, rfl, _, rfl, rfl⟩ := h
      exact .inr ⟨found, rfl⟩
  · rintro (⟨stopped, started, rfl⟩ | ⟨found, rfl⟩) <;>
      simp [script, restartBranch, skipBranch, restartEvents, skipEvents]

/-! ## One run among others -/

variable {ι : Type} [DecidableEq ι]

/-- What a run has done, in order. -/
def eventsOf (i : ι) (trace : List (ι × Event)) : List Event :=
  trace.filterMap fun entry => if entry.1 = i then some entry.2 else none

section Events

variable {i j : ι} {trace : List (ι × Event)} {event : Event}

/-- A command of the run is its last one so far. -/
@[simp] theorem eventsOf_append_self :
    eventsOf i (trace ++ [(i, event)]) = eventsOf i trace ++ [event] := by
  simp [eventsOf]

/-- A command of another run is none of this one. -/
theorem eventsOf_append_ne (h : j ≠ i) : eventsOf i (trace ++ [(j, event)]) = eventsOf i trace := by
  simp [eventsOf, h]

/-- The events of a run are those in the trace that are its own. -/
theorem mem_eventsOf : event ∈ eventsOf i trace ↔ (i, event) ∈ trace := by
  simp [eventsOf]

end Events

/-- A command with what is left behind it. -/
theorem Stepped.completes {host host' : Host ι} {i : ι} (h : Stepped host i host') :
    ∃ event, host'.trace = host.trace ++ [(i, event)] ∧
      ∀ events, Completes (host'.todo i) events → Completes (host.todo i) (event :: events) := by
  cases h
  case status htodo =>
    refine ⟨.status, rfl, fun events hrest => ?_⟩
    rw [Host.did_todo] at hrest
    exact htodo ▸ .status hrest
  case matched htodo =>
    refine ⟨.grep true, rfl, fun events hrest => ?_⟩
    rw [Host.did_todo] at hrest
    exact htodo ▸ .matched hrest
  case unmatched htodo =>
    refine ⟨.grep true, rfl, fun events hrest => ?_⟩
    rw [Host.did_todo] at hrest
    exact htodo ▸ .unmatched true hrest
  case missing htodo =>
    refine ⟨.grep false, rfl, fun events hrest => ?_⟩
    rw [Host.did_todo] at hrest
    exact htodo ▸ .unmatched false hrest
  case echo htodo =>
    refine ⟨.echo _, rfl, fun events hrest => ?_⟩
    rw [Host.did_todo] at hrest
    exact htodo ▸ .echo _ hrest
  case stop htodo =>
    refine ⟨.stop true, rfl, fun events hrest => ?_⟩
    rw [Host.did_todo] at hrest
    exact htodo ▸ .stop true hrest
  case stopFails htodo =>
    refine ⟨.stop false, rfl, fun events hrest => ?_⟩
    rw [Host.did_todo] at hrest
    exact htodo ▸ .stop false hrest
  case start htodo =>
    refine ⟨.start true, rfl, fun events hrest => ?_⟩
    rw [Host.did_todo] at hrest
    exact htodo ▸ .start true hrest
  case startFails htodo =>
    refine ⟨.start false, rfl, fun events hrest => ?_⟩
    rw [Host.did_todo] at hrest
    exact htodo ▸ .start false hrest
  case rm htodo =>
    refine ⟨.rm, rfl, fun events hrest => ?_⟩
    rw [Host.did_todo] at hrest
    exact htodo ▸ .rm hrest

/-- The events so far and any completion of what is left make up a run of the script. -/
def Separate (host : Host ι) : Prop :=
  ∀ i events, Completes (host.todo i) events → Completes script (eventsOf i host.trace ++ events)

/-- A command of one run is the first of what the run had left. -/
theorem Separate.step {host host' : Host ι} {i : ι} (h : Separate host)
    (hstep : Stepped host i host') : Separate host' := by
  intro j events hrest
  obtain ⟨event, htrace, hcompletes⟩ := hstep.completes
  rcases eq_or_ne j i with rfl | hj
  · rw [htrace, eventsOf_append_self, List.append_assoc, List.singleton_append]
    exact h j _ (hcompletes events hrest)
  · rw [htrace, eventsOf_append_ne hj.symm]
    rw [hstep.todo_ne hj] at hrest
    exact h j events hrest

/-- **Runs of the host** from its beginning, whatever fails: what every command keeps of a
host whose runs are somewhere in the script. -/
theorem Host.execute_kept {P : Host ι → Prop} {service : Service} {file : Option String}
    {moves : List (Move ι)} {host : Host ι} (hinit : P (Host.initial ι service file))
    (hstep : ∀ host i host', (∀ j, Position (host.todo j)) → P host → Stepped host i host' →
      P host')
    (h : (Host.initial ι service file).execute moves = some host) :
    (∀ i, Position (host.todo i)) ∧ P host := by
  refine Runs.invariant_of_run (P := fun host => (∀ i, Position (host.todo i)) ∧ P host)
    ?_ ⟨fun _ => .inl (List.suffix_refl _), hinit⟩ h
  intro host move host' hkept hmove
  have hstepped := Stepped.of_step hmove
  refine ⟨fun j => ?_, hstep _ _ _ hkept.1 hkept.2 hstepped⟩
  rcases eq_or_ne j move.run with rfl | hj
  · exact hstepped.position (hkept.1 _)
  · rw [hstepped.todo_ne hj]
    exact hkept.1 j

/-! ## The file `isRunning.txt` -/

section File

variable {host host' : Host ι} {i : ι}

/-- While there is a file, some run has its removal ahead. -/
def Cleared (host : Host ι) : Prop := host.isRunning ≠ none → ∃ i, Command.rm ∈ host.todo i

/-- The run that has written the file has its removal ahead. -/
theorem Cleared.step (h : Cleared host) (hpos : ∀ i, Position (host.todo i))
    (hstep : Stepped host i host') : Cleared host' := by
  intro hfile
  have hahead : (∃ j, Command.rm ∈ host.todo j) →
      (Command.rm ∈ host.todo i → Command.rm ∈ host'.todo i) →
      ∃ j, Command.rm ∈ host'.todo j := by
    rintro ⟨j, hj⟩ hown
    rcases eq_or_ne j i with rfl | hne
    · exact ⟨j, hown hj⟩
    · exact ⟨j, by rwa [hstep.todo_ne hne]⟩
  cases hstep
  case status htodo =>
    have hrest := hpos i
    rw [htodo] at hrest
    refine ⟨i, ?_⟩
    rw [Host.did_todo, hrest.status]
    simp
  case rm => exact absurd rfl hfile
  case matched htodo | unmatched htodo | missing htodo =>
    apply hahead (h hfile)
    rw [htodo, Host.did_todo]
    intro hin
    simp only [List.mem_cons, reduceCtorEq, false_or] at hin
    exact List.mem_append_right _ hin
  all_goals
    rename_i htodo
    apply hahead (h hfile)
    rw [htodo, Host.did_todo]
    simp

/-- A run has removed the file after the status of run `i`. -/
def RemovedSince (i : ι) (trace : List (ι × Event)) : Prop :=
  ∃ before between, trace = before ++ (i, .status) :: between ∧ ∃ j, (j, .rm) ∈ between

omit [DecidableEq ι] in
/-- A removal is not undone by what happens later. -/
theorem RemovedSince.append {trace : List (ι × Event)} (h : RemovedSince i trace)
    (events : List (ι × Event)) : RemovedSince i (trace ++ events) := by
  obtain ⟨before, between, rfl, j, hin⟩ := h
  exact ⟨before, between ++ events, by simp, j, List.mem_append_left _ hin⟩

/-- A missing file has been missing before, or it is removed in this step. -/
theorem Stepped.missing_file (h : Stepped host i host') (hnone : host'.isRunning = none) :
    host'.trace = host.trace ++ [(i, .rm)] ∨
      host.isRunning = none ∧ ∀ j, (j, .status) ∈ host'.trace → (j, .status) ∈ host.trace := by
  cases h
  case status => cases hnone
  case rm => exact .inl rfl
  all_goals exact .inr ⟨hnone, fun j hin => by simpa using hin⟩

/-- Where the file is missing, it has been removed after every status. -/
def Removed (host : Host ι) : Prop :=
  host.isRunning = none → ∀ i, (i, .status) ∈ host.trace → RemovedSince i host.trace

/-- A file that is missing behind a step has been removed, then or before. -/
theorem Removed.step (h : Removed host) (hstep : Stepped host i host') : Removed host' := by
  intro hnone j hbegun
  rcases hstep.missing_file hnone with htrace | ⟨hbefore, hsame⟩
  · rw [htrace, List.mem_append] at hbegun
    have hearlier : (j, .status) ∈ host.trace := hbegun.resolve_right (by simp)
    obtain ⟨before, after, heq⟩ := List.append_of_mem hearlier
    exact ⟨before, after ++ [(i, .rm)], by simp [htrace, heq], i, by simp⟩
  · obtain ⟨event, htrace⟩ := hstep.trace_eq
    rw [htrace]
    exact (h hbefore j (hsame j hbegun)).append _

/-- Another run has removed the file between the status and the `grep` of run `i`. -/
def Overtaken (i : ι) (trace : List (ι × Event)) : Prop :=
  ∃ before between after, trace = before ++ (i, .status) :: between ++ (i, .grep false) :: after ∧
    ∃ j, j ≠ i ∧ (j, .rm) ∈ between

omit [DecidableEq ι] in
/-- An overtaken `grep` stays one. -/
theorem Overtaken.append {trace : List (ι × Event)} (h : Overtaken i trace)
    (events : List (ι × Event)) : Overtaken i (trace ++ events) := by
  obtain ⟨before, between, after, rfl, j, hj⟩ := h
  exact ⟨before, between, after ++ events, by simp, j, hj⟩

/-- A run that comes to its `grep` has done its status and nothing else. -/
theorem before_grep {before after : List Event} {found : Bool}
    (h : Completes script (before ++ .grep found :: after)) : before = [.status] := by
  rcases completes_script.mp h with ⟨stopped, started, heq⟩ | ⟨found', heq⟩
  · obtain _ | ⟨_, _ | ⟨_, before⟩⟩ := before
    · cases heq
    · cases heq
      rfl
    · have hin : Event.grep found ∈ before ++ .grep found :: after := by simp
      simp only [restartEvents, List.cons_append, List.cons.injEq] at heq
      rw [heq.2.2] at hin
      simp at hin
  · obtain _ | ⟨_, _ | ⟨_, before⟩⟩ := before
    · cases heq
    · cases heq
      rfl
    · have hin : Event.grep found ∈ before ++ .grep found :: after := by simp
      simp only [skipEvents, List.cons_append, List.cons.injEq] at heq
      rw [heq.2.2] at hin
      simp at hin

/-- Every `grep` without a file has been overtaken. -/
def Lost (host : Host ι) : Prop :=
  ∀ i, (i, .grep false) ∈ host.trace → Overtaken i host.trace

/-- A `grep` that finds no file has been overtaken by the removal of another run. -/
theorem Lost.step (h : Lost host) (hpos : Position (host.todo i)) (hseparate : Separate host)
    (hremoved : Removed host) (hstep : Stepped host i host') : Lost host' := by
  intro j hin
  by_cases hearlier : (j, .grep false) ∈ host.trace
  · obtain ⟨event, htrace⟩ := hstep.trace_eq
    rw [htrace]
    exact (h j hearlier).append _
  cases hstep
  case missing hfile htodo =>
    have hown : j = i := by simpa [hearlier] using hin
    subst hown
    obtain ⟨rest, hrest⟩ := exists_completes (host.todo j) hpos
    have hall := hseparate j rest hrest
    rw [htodo, completes_ifGrep] at hrest
    obtain ⟨found, later, rfl, -⟩ := hrest
    have hbegun : eventsOf j host.trace = [.status] := before_grep hall
    have hstatus : (j, .status) ∈ host.trace := by
      rw [← mem_eventsOf, hbegun]
      exact List.mem_singleton_self _
    -- the file has been removed since, and not by this run
    obtain ⟨before, between, heq, k, hk⟩ := hremoved hfile j hstatus
    refine ⟨before, between, [], by simp [heq], k, ?_, hk⟩
    rintro rfl
    have hown : Event.rm ∈ eventsOf k host.trace := by
      rw [mem_eventsOf, heq]
      simp [hk]
    rw [hbegun] at hown
    simp at hown
  all_goals
    exact absurd (by simpa using hin) hearlier

end File

/-! ## Whole interleavings -/

/-- What holds of the host after any commands of the runs, failed ones included. -/
structure Shared (host : Host ι) : Prop where
  separate : Separate host
  removed : Removed host
  lost : Lost host

section Execute

variable {service : Service} {file : Option String} {moves : List (Move ι)} {host : Host ι}

/-- The invariant holds behind any commands of any runs, failed ones included. -/
theorem Shared.execute (h : (Host.initial ι service file).execute moves = some host) :
    (∀ i, Position (host.todo i)) ∧ Shared host := by
  refine Host.execute_kept (P := Shared) ⟨?_, ?_, ?_⟩ ?_ h
  · exact fun _ _ hrest => hrest
  · exact fun _ _ hin => absurd hin List.not_mem_nil
  · exact fun _ hin => absurd hin List.not_mem_nil
  · intro host i host' hpos hshared hstep
    exact ⟨hshared.separate.step hstep, hshared.removed.step hstep,
      hshared.lost.step (hpos i) hshared.separate hshared.removed hstep⟩

/-- Behind any commands of the runs, a file that is there will be removed. -/
theorem Cleared.execute [Nonempty ι] (h : (Host.initial ι service file).execute moves = some host) :
    Cleared host := by
  refine (Host.execute_kept (P := Cleared) ?_ (fun _ _ _ hpos h hstep => h.step hpos hstep) h).2
  obtain ⟨i⟩ := (inferInstance : Nonempty ι)
  exact fun _ => ⟨i, by simp [Host.initial, script]⟩

end Execute

/-- **Each run on its own.** Whatever the interleaving and whatever fails, a run that is done
has done the commands of a restart or of a script that leaves the service alone, and nothing
else; one that is not done has done a beginning of these. -/
theorem script_events (service : Service) (file : Option String) (moves : List (Move ι))
    (host : Host ι) (h : (Host.initial ι service file).execute moves = some host) (i : ι) :
    ((∃ stopped started, eventsOf i host.trace <+: restartEvents stopped started) ∨
      ∃ found, eventsOf i host.trace <+: skipEvents found) ∧
    (host.todo i = [] →
      (∃ stopped started, eventsOf i host.trace = restartEvents stopped started) ∨
        ∃ found, eventsOf i host.trace = skipEvents found) := by
  obtain ⟨hpos, hshared⟩ := Shared.execute h
  constructor
  · obtain ⟨events, hrest⟩ := exists_completes (host.todo i) (hpos i)
    have hall := completes_script.mp (hshared.separate i events hrest)
    refine hall.imp ?_ ?_
    · rintro ⟨stopped, started, heq⟩
      exact ⟨stopped, started, heq ▸ List.prefix_append _ _⟩
    · rintro ⟨found, heq⟩
      exact ⟨found, heq ▸ List.prefix_append _ _⟩
  · intro hdone
    have hall := hshared.separate i [] (hdone ▸ .nil)
    rw [List.append_nil] at hall
    exact completes_script.mp hall

/-- The second run of the lost restart has skipped the restart. -/
theorem script_events_lostRestart :
    ∃ host, (Host.initial Bool .running none).execute lostRestart = some host ∧
      ∃ found, eventsOf true host.trace = skipEvents found :=
  ⟨_, rfl, ((script_events .running none lostRestart _ rfl true).2 (by decide)).resolve_left
    (by rintro ⟨stopped, started, heq⟩; cases heq)⟩

/-! ## How an interleaving ends -/

/-- Every move is one event. -/
theorem length_trace {host : Host ι} {service : Service} {file : Option String}
    {moves : List (Move ι)} (h : (Host.initial ι service file).execute moves = some host) :
    host.trace.length = moves.length := by
  have hrun : Runs.run Host.step (Host.initial ι service file) moves = some host := h
  refine Runs.history_of_run (P := fun moves host => host.trace.length = moves.length) rfl ?_ hrun
  intro moves host move host' hlength hmove
  obtain ⟨event, htrace⟩ := (Stepped.of_step hmove).trace_eq
  rw [htrace, List.length_append, List.length_append, hlength]
  rfl

/-- Every event is that of one run. -/
theorem sum_length_eventsOf [Fintype ι] (trace : List (ι × Event)) :
    ∑ i, (eventsOf i trace).length = trace.length := by
  induction trace with
  | nil => simp [eventsOf]
  | cons entry trace ih =>
      have hcons : ∀ i, (eventsOf i (entry :: trace)).length =
          (eventsOf i trace).length + if entry.1 = i then 1 else 0 := by
        intro i
        by_cases hi : entry.1 = i <;> simp [eventsOf, hi]
      simp only [hcons, Finset.sum_add_distrib, ih, List.length_cons]
      simp

/-- No run of the script is longer than ten commands. -/
theorem length_eventsOf_le {host : Host ι} (hpos : ∀ i, Position (host.todo i))
    (hseparate : Separate host) (i : ι) : (eventsOf i host.trace).length ≤ 10 := by
  obtain ⟨events, hrest⟩ := exists_completes (host.todo i) (hpos i)
  have hlength : (eventsOf i host.trace ++ events).length ≤ 10 := by
    rcases completes_script.mp (hseparate i events hrest) with ⟨_, _, heq⟩ | ⟨_, heq⟩
    · simp [heq, restartEvents]
    · simp [heq, skipEvents]
  rw [List.length_append] at hlength
  omega

/-- A run that is not done can go on. -/
theorem step_proceed {host : Host ι} {i : ι} (h : host.todo i ≠ []) :
    host.step (proceed i) ≠ none := by
  have hmatches : MatchesRunning (proceed i).text := by
    show MatchesRunning "Active: active (running)"
    decide
  unfold Host.step
  split
  · rename_i htodo
    exact absurd htodo h
  · simp [hmatches]
  · repeat' split
    all_goals simp
  · simp
  · simp [proceed]
  · simp [proceed]
  · simp

/-- **Every interleaving ends**, after at most ten commands for each run, whatever fails.
Where it cannot go on, all runs are done and `isRunning.txt` is gone. -/
theorem script_ends [Fintype ι] [Nonempty ι] (service : Service) (file : Option String)
    (moves : List (Move ι)) (host : Host ι)
    (h : (Host.initial ι service file).execute moves = some host) :
    moves.length ≤ 10 * Fintype.card ι ∧
    ((∀ move, host.step move = none) ↔ ∀ i, host.todo i = []) ∧
    ((∀ i, host.todo i = []) → host.isRunning = none) := by
  obtain ⟨hpos, hshared⟩ := Shared.execute h
  refine ⟨?_, ⟨fun hstuck i => ?_, fun hdone move => ?_⟩, fun hdone => ?_⟩
  · rw [← length_trace h, ← sum_length_eventsOf, Nat.mul_comm]
    apply Finset.sum_le_card_nsmul
    exact fun i _ => length_eventsOf_le hpos hshared.separate i
  · by_contra hleft
    exact step_proceed hleft (hstuck (proceed i))
  · rw [Host.step, hdone]
  · by_contra hfile
    obtain ⟨i, hin⟩ := Cleared.execute h hfile
    rw [hdone i] at hin
    exact List.not_mem_nil hin

/-- The two runs of the lost restart end, and the file is gone. -/
theorem script_ends_lostRestart :
    ∃ host, (Host.initial Bool .running none).execute lostRestart = some host ∧
      lostRestart.length ≤ 10 * Fintype.card Bool ∧ host.isRunning = none := by
  refine ⟨_, rfl, ?_⟩
  obtain ⟨hlength, -, hgone⟩ := script_ends .running none lostRestart _ rfl
  exact ⟨hlength, hgone (by decide)⟩

/-- **A restart is lost to another run only.** When all runs are done, with every stop and
start succeeding, the service has been started after the beginning of every run, except for
those between whose status and `grep` another run has removed `isRunning.txt`. -/
theorem restarted_or_overtaken (file : Option String) (moves : List (Move ι)) (host : Host ι)
    (h : (Host.initial ι .running file).execute moves = some host)
    (hok : AllSucceed host.trace) (hdone : ∀ i, host.todo i = []) (i : ι) :
    StartedSince i host.trace ∨ Overtaken i host.trace := by
  by_cases hfound : (i, .grep false) ∈ host.trace
  · exact .inr ((Shared.execute h).2.lost i hfound)
  left
  rcases (Answered.execute h hok).served i hfound with hm | hstarted | ⟨-, j, hr⟩
  · rw [hdone i] at hm
    exact (hm.elim List.not_mem_nil List.not_mem_nil).elim
  · exact hstarted
  · rw [hdone j] at hr
    exact (List.not_mem_nil hr.1).elim

/-- The second run of the lost restart has been overtaken, or a start has come. -/
theorem restarted_or_overtaken_lostRestart :
    ∃ host, (Host.initial Bool .running none).execute lostRestart = some host ∧
      (StartedSince true host.trace ∨ Overtaken true host.trace) :=
  ⟨_, rfl, restarted_or_overtaken none lostRestart _ rfl (by decide) (by decide) true⟩

end OpenhabConfiguration.Model
