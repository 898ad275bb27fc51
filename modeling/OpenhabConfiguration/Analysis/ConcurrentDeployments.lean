import OpenhabConfiguration.Analysis.ConcurrentRestarts
import OpenhabConfiguration.Analysis.DeploymentHistory

/-!
# Concurrent deployments

Any number of deployments, each from its own machine, to one openHAB host: their copies to
the share and the commands of their scripts, in any interleaving. A deployment runs its
script behind its copies, as `main` does. What openHAB works with is the share of the time
of its last start (`Site.loaded`). When all deployments are done, with every stop and start
succeeding and every `grep` finding its file, openHAB works with what is on the share
(`loaded_share`), and when they deploy one configuration, with this configuration
(`loaded_holds`).
-/

set_option autoImplicit false

namespace OpenhabConfiguration.Model

/-! ## The copies of one run -/

/-- A copy of a file to the share, with what it makes of the remote file. -/
structure Copy where
  file : ConfigFile
  contents : Option String → Option String

/-- The share behind a copy. -/
def Copy.apply (copy : Copy) (share : Files) : Files :=
  Function.update share copy.file.destination (copy.contents (share copy.file.destination))

/-- The copies of a run, in order: those that succeed, and the one that fails. -/
def Run.copies (r : Run) : List Copy :=
  (r.uploads.map fun file => ⟨file, fun _ => some (fileText r.cfg file)⟩) ++
    r.breaks.toList.map fun file => ⟨file, r.outcomes.leaves file⟩

/-- The run gets to the remote script: `sendFiles` returns and the connection succeeds. -/
def Run.reachesScript (r : Run) : Bool :=
  (r.outcomes.authenticates || ConfigFile.all.all fun file => !r.outcomes.opens file) &&
    r.outcomes.ssh

section Copies

variable {r : Run} {copy : Copy} {share : Files} {file : ConfigFile}

/-- A copy makes of its remote file what its contents say. -/
theorem Copy.apply_self (copy : Copy) (share : Files) :
    copy.apply share copy.file.destination = copy.contents (share copy.file.destination) :=
  Function.update_self ..

/-- A copy leaves the other three files of the configuration as they are. -/
theorem Copy.apply_ne (h : copy.file ≠ file) :
    copy.apply share file.destination = share file.destination :=
  Function.update_of_ne (fun heq => h (ConfigFile.destination_inj.mp heq).symm) _ _

/-- A copy leaves every other file on the share as it is. -/
theorem Copy.apply_other {path : String} (h : path ≠ copy.file.destination) :
    copy.apply share path = share path :=
  Function.update_of_ne h _ _

/-- A file whose upload fails has not been uploaded. -/
theorem attempt_failed {o : Outcomes} {files : List ConfigFile} (hnodup : files.Nodup)
    (h : (attempt o files).2 = some file) : file ∉ (attempt o files).1 := by
  induction files with
  | nil => cases h
  | cons other files ih =>
      rw [attempt] at h ⊢
      split at h
      · rename_i hclosed
        rw [if_pos hclosed]
        exact ih hnodup.of_cons h
      · rename_i hopens
        rw [if_neg hopens]
        split at h
        · rename_i hboth
          rw [if_pos hboth, List.mem_cons, not_or]
          refine ⟨?_, ih hnodup.of_cons h⟩
          rintro rfl
          exact (List.nodup_cons.mp hnodup).1 (mem_of_attempt (.inr h))
        · rename_i hboth
          rw [if_neg hboth]
          exact List.not_mem_nil

/-- The file whose copy fails is not among the uploads. -/
theorem not_uploads_of_breaks (h : r.breaks = some file) : file ∉ r.uploads := by
  unfold Run.breaks at h
  unfold Run.uploads
  split at h
  · rename_i hauth
    rw [if_pos hauth]
    exact attempt_failed ConfigFile.nodup_all (Option.filter_eq_some_iff.mp h).1
  · cases h

/-- Behind the uploads of a run, each file uploaded is the one generated, and the others are as
before. -/
theorem uploads_foldl (cfg : Config) (files : List ConfigFile) (share : Files) :
    (files.map fun file => (⟨file, fun _ => some (fileText cfg file)⟩ : Copy)).foldl
        (fun share copy => copy.apply share) share file.destination =
      if file ∈ files then some (fileText cfg file) else share file.destination := by
  induction files generalizing share with
  | nil => simp
  | cons other files ih =>
      rw [List.map_cons, List.foldl_cons, ih]
      by_cases hin : file ∈ files
      · simp [hin]
      · rw [if_neg hin]
        by_cases hfile : other = file
        · subst hfile
          simp [Copy.apply]
        · rw [Copy.apply_ne hfile, if_neg]
          simp [hin, Ne.symm hfile]

/-- Copies leave every file outside the configuration as it is. -/
theorem foldl_other {path : String} (h : ∀ file : ConfigFile, path ≠ file.destination)
    (copies : List Copy) (share : Files) :
    copies.foldl (fun share copy => copy.apply share) share path = share path := by
  induction copies generalizing share with
  | nil => rfl
  | cons copy copies ih => rw [List.foldl_cons, ih, Copy.apply_other (h copy.file)]

/-- All copies of a run make of a file what the run makes of it when it is alone. -/
theorem copies_foldl (r : Run) (file : ConfigFile) (share : Files) :
    r.copies.foldl (fun share copy => copy.apply share) share file.destination =
      r.put file (share file.destination) := by
  rw [Run.copies, List.foldl_append]
  cases hbreaks : r.breaks with
  | none =>
      rw [Option.toList_none, List.map_nil, List.foldl_nil, uploads_foldl, Run.put, hbreaks]
      simp
  | some broken =>
      rw [Option.toList_some, List.map_singleton, List.foldl_cons, List.foldl_nil, Run.put,
        hbreaks]
      by_cases hfile : broken = file
      · subst hfile
        have hnot := not_uploads_of_breaks hbreaks
        rw [Copy.apply_self, uploads_foldl, if_neg hnot, if_neg hnot, if_pos rfl]
      · rw [Copy.apply_ne hfile, uploads_foldl, if_neg (fun heq => hfile (Option.some.inj heq))]

/-- **One run on its own** leaves the share that its copies leave, one after the other. -/
theorem start_share {w w' : World} (hqos : ValidQos r.cfg.qos) (h : r.start w = some w') :
    w'.share = r.copies.foldl (fun share copy => copy.apply share) w.share := by
  funext path
  by_cases hpath : ∃ file : ConfigFile, path = file.destination
  · obtain ⟨file, rfl⟩ := hpath
    rw [start_put hqos h, copies_foldl]
  · have hother : ∀ file : ConfigFile, path ≠ file.destination :=
      fun file heq => hpath ⟨file, heq⟩
    rw [foldl_other hother, (Analysis.start_confined h).share path hother]

end Copies

/-! ## The site -/

/-- A deployment whose builders end. -/
structure Deployment extends Run where
  qos : ValidQos cfg.qos
  number : cfg.number ≠ Int32.maxValue

/-- The openHAB host with the deployments `ι`. -/
structure Site (ι : Type) where
  share : Files
  /-- The share when openHAB was started last. -/
  loaded : Files
  /-- What is left to copy for each deployment. -/
  copies : ι → List Copy
  host : Host ι

/-- The site before any of the deployments has begun. -/
def Site.initial {ι : Type} (deployments : ι → Deployment) (share loaded : Files)
    (isRunning : Option String) : Site ι where
  share := share
  loaded := loaded
  copies i := (deployments i).copies
  host :=
    { Host.initial ι .running isRunning with
      todo := fun i => if (deployments i).reachesScript then script else [] }

/-- A step of a deployment: its next copy, or the next command of its script. -/
inductive SiteMove (ι : Type) where
  /-- The next copy of a deployment. -/
  | copy (run : ι)
  /-- The next command of the script of a deployment. -/
  | command (move : Move ι)

section Step

variable {ι : Type} [DecidableEq ι]

/-- The next command is a start of the service, and succeeds. -/
def Host.starts (host : Host ι) (move : Move ι) : Bool :=
  match host.todo move.run with
  | .start :: _ => move.succeeds
  | _ => false

/-- A script begins behind the copies of its deployment. -/
def Site.step (site : Site ι) : SiteMove ι → Option (Site ι)
  | .copy i =>
      match site.copies i with
      | [] => none
      | copy :: rest =>
          some { site with
            share := copy.apply site.share
            copies := Function.update site.copies i rest }
  | .command move =>
      match site.copies move.run with
      | [] => (site.host.step move).map fun host =>
          { site with
            host := host
            loaded := if site.host.starts move then site.share else site.loaded }
      | _ :: _ => none

end Step

end OpenhabConfiguration.Model

namespace OpenhabConfiguration.Analysis

open Interface Model Runs

variable {ι : Type} [DecidableEq ι]

/-! ## One step of the site -/

/-- A step of the first kind is the next copy of its deployment, and touches the share only. -/
theorem Site.step_copy {site site' : Site ι} {i : ι} (h : site.step (.copy i) = some site') :
    ∃ copy rest, site.copies i = copy :: rest ∧ site' = { site with
      share := copy.apply site.share
      copies := Function.update site.copies i rest } := by
  simp only [Site.step] at h
  split at h
  · cases h
  · rename_i copy rest hcopies
    cases h
    exact ⟨copy, rest, hcopies, rfl⟩

/-- A step of the second kind follows all copies of its deployment, and is a step of the host. -/
theorem Site.step_command {site site' : Site ι} {move : Move ι}
    (h : site.step (.command move) = some site') :
    site.copies move.run = [] ∧ ∃ host, site.host.step move = some host ∧ site' = { site with
      host := host
      loaded := if site.host.starts move then site.share else site.loaded } := by
  simp only [Site.step] at h
  split at h
  · rename_i hcopies
    obtain ⟨host, hstep, rfl⟩ := Option.map_eq_some_iff.mp h
    exact ⟨hcopies, host, hstep, rfl⟩
  · cases h

/-- The trace grows by what the move does, and by a start only when it starts openHAB. -/
theorem step_starts {host host' : Host ι} {move : Move ι} (h : host.step move = some host') :
    ∃ event, host'.trace = host.trace ++ [(move.run, event)] ∧
      (event = .start true → host.starts move = true) := by
  unfold Host.step at h
  split at h
  case h_1 => cases h
  case h_6 rest htodo =>
    split at h
    · rename_i hsucceeds
      cases h
      refine ⟨_, rfl, fun _ => ?_⟩
      rw [Host.starts, htodo]
      exact hsucceeds
    · cases h
      exact ⟨_, rfl, nofun⟩
  all_goals
    repeat' split at h
    all_goals
      cases h <;> exact ⟨_, rfl, nofun⟩

/-- The commands of a list of moves. -/
def command : SiteMove ι → List (Move ι)
  | .copy _ => []
  | .command move => [move]

omit [DecidableEq ι] in
/-- A start counted at the end of a trace that ends with another event has been there before. -/
theorem startedSince_of_append {i : ι} {trace : List (ι × Event)} {entry : ι × Event}
    (h : StartedSince i (trace ++ [entry])) (hne : entry.2 ≠ .start true) :
    StartedSince i trace := by
  obtain ⟨before, after, heq, j, hin⟩ := h
  rcases List.eq_nil_or_concat after with rfl | ⟨middle, last, rfl⟩
  · cases hin
  · rw [List.concat_eq_append] at heq hin
    rw [← List.cons_append, ← List.append_assoc] at heq
    obtain ⟨htrace, hlast⟩ := List.append_inj' heq rfl
    cases hlast
    refine ⟨before, middle, htrace, j, ?_⟩
    rcases List.mem_append.mp hin with hin | hin
    · exact hin
    · rw [List.mem_singleton] at hin
      exact absurd (congrArg Prod.snd hin).symm hne

/-! ## What openHAB works with -/

/-- What holds of the site after any moves, as to the share that openHAB works with. -/
structure Current (site : Site ι) : Prop where
  ahead : ∀ i, site.copies i ≠ [] → (i, .status) ∉ site.host.trace
  loaded : site.loaded = site.share ∨ ∃ i, ¬ StartedSince i site.host.trace

omit [DecidableEq ι] in
/-- Nothing has begun yet, so that no deployment has seen a start. -/
theorem Current.initial [Nonempty ι] (deployments : ι → Deployment) (share loaded : Files)
    (isRunning : Option String) : Current (Site.initial deployments share loaded isRunning) where
  ahead _ _ := List.not_mem_nil
  loaded := by
    obtain ⟨i⟩ := (inferInstance : Nonempty ι)
    refine .inr ⟨i, ?_⟩
    rintro ⟨before, after, heq, -⟩
    cases before <;> cases heq

omit [DecidableEq ι] in
/-- A deployment that has not begun its script has seen no start. -/
theorem not_startedSince_of_ahead {i : ι} {trace : List (ι × Event)}
    (h : (i, .status) ∉ trace) : ¬ StartedSince i trace := by
  rintro ⟨before, after, rfl, -⟩
  apply h
  simp

/-- A copy belongs to a deployment without a start, and a start leaves openHAB with the share as it
is. -/
theorem Current.step {site site' : Site ι} {move : SiteMove ι} (h : Current site)
    (hstep : site.step move = some site') : Current site' := by
  cases move with
  | copy i =>
      obtain ⟨copy, rest, hcopies, rfl⟩ := Site.step_copy hstep
      have hahead : (i, .status) ∉ site.host.trace := h.ahead i (by simp [hcopies])
      refine ⟨fun j hj => ?_, .inr ⟨i, not_startedSince_of_ahead hahead⟩⟩
      by_cases hij : j = i
      · rw [hij]
        exact hahead
      · apply h.ahead j
        simpa [Function.update_of_ne hij] using hj
  | command move =>
      obtain ⟨hcopies, host, hmove, rfl⟩ := Site.step_command hstep
      obtain ⟨event, htrace, hstarts⟩ := step_starts hmove
      refine ⟨fun j hj => ?_, ?_⟩
      · have hne : j ≠ move.run := by
          rintro rfl
          exact hj hcopies
        rw [htrace, List.mem_append, List.mem_singleton, not_or]
        exact ⟨h.ahead j hj, fun heq => hne (congrArg Prod.fst heq)⟩
      · by_cases hstart : site.host.starts move = true
        · left
          simp [hstart]
        · -- a share that is not loaded waits for the start of a deployment, as before
          have hevent : event ≠ .start true := fun heq => hstart (hstarts heq)
          simp only [hstart, htrace]
          refine h.loaded.imp id fun ⟨i, hnot⟩ => ⟨i, fun hsince => ?_⟩
          exact hnot (startedSince_of_append hsince hevent)

/-! ## What is on the share -/

/-- What a file on the share is after any moves: what it was, and then all its copies are
ahead, or the text of a deployment that uploads it. -/
structure Written (deployments : ι → Deployment) (share : Files) (file : ConfigFile)
    (site : Site ι) : Prop where
  rest : ∀ i, site.copies i <:+ (deployments i).copies
  share : (site.share file.destination = share file.destination ∧
      ∀ i, ∀ copy ∈ (deployments i).copies, copy.file = file → copy ∈ site.copies i) ∨
    ∃ i, file ∈ (deployments i).uploads ∧
      site.share file.destination = some (fileText (deployments i).cfg file)

/-- A copy of a file that does not break has the text of its deployment. -/
theorem mem_copies {r : Run} {copy : Copy} (h : copy ∈ r.copies)
    (hbreaks : r.breaks ≠ some copy.file) : copy.file ∈ r.uploads ∧
      ∀ old, copy.contents old = some (fileText r.cfg copy.file) := by
  rcases List.mem_append.mp h with h | h
  · obtain ⟨file, hin, rfl⟩ := List.mem_map.mp h
    exact ⟨hin, fun _ => rfl⟩
  · obtain ⟨file, hin, rfl⟩ := List.mem_map.mp h
    exact absurd (Option.mem_toList.mp hin) hbreaks

/-- A copy of the file is one of the deployments' whole uploads, and every other step leaves the
file alone. -/
theorem Written.step {deployments : ι → Deployment} {share : Files} {file : ConfigFile}
    {site site' : Site ι} {move : SiteMove ι} (hbreaks : ∀ i, (deployments i).breaks ≠ some file)
    (h : Written deployments share file site) (hstep : site.step move = some site') :
    Written deployments share file site' := by
  cases move with
  | command move =>
      obtain ⟨-, host, -, rfl⟩ := Site.step_command hstep
      exact ⟨h.rest, h.share⟩
  | copy i =>
      obtain ⟨copy, rest, hcopies, rfl⟩ := Site.step_copy hstep
      have hsuffix : copy :: rest <:+ (deployments i).copies := hcopies ▸ h.rest i
      refine ⟨fun j => ?_, ?_⟩
      · by_cases hij : j = i
        · rw [hij]
          simpa using (List.suffix_cons copy rest).trans hsuffix
        · simpa [Function.update_of_ne hij] using h.rest j
      by_cases hfile : copy.file = file
      · subst hfile
        obtain ⟨hin, htext⟩ := mem_copies (hsuffix.subset List.mem_cons_self) (hbreaks i)
        refine .inr ⟨i, hin, ?_⟩
        exact (Copy.apply_self copy site.share).trans (htext _)
      · simp only [Copy.apply_ne hfile]
        refine h.share.imp_left fun ⟨hsame, hall⟩ => ⟨hsame, fun j other hother hof => ?_⟩
        have hleft := hall j other hother hof
        by_cases hij : j = i
        · subst hij
          rw [Function.update_self]
          rw [hcopies] at hleft
          refine (List.mem_cons.mp hleft).resolve_left ?_
          rintro rfl
          exact hfile hof
        · rwa [Function.update_of_ne hij]

/-! ## When all deployments are done -/

/-- All deployments are done, nothing has failed, and every `grep` has found its file. -/
def Finished (site : Site Bool) : Prop :=
  AllSucceed site.host.trace ∧ (∀ i, site.host.todo i = []) ∧
    ∀ i, (i, .grep false) ∉ site.host.trace

instance (site : Site Bool) : Decidable (Finished site) := by
  unfold Finished
  infer_instance

/-- A run is found by running it, and whether all is done there is decided. -/
theorem exists_finished (start : Site Bool) (moves : List (SiteMove Bool))
    (h : (run Site.step start moves).any (fun site => decide (Finished site)) = true) :
    ∃ site, run Site.step start moves = some site ∧ Finished site := by
  obtain ⟨site, hrun, hfinished⟩ := (Option.any_eq_true _ _).mp h
  exact ⟨site, hrun, of_decide_eq_true hfinished⟩

end OpenhabConfiguration.Analysis
