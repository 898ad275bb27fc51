import OpenhabConfiguration.Analysis.Transfer

/-!
# What one run of `main` does

A run puts the texts of its configuration into the files it uploads (`Run.uploads`), and
leaves the others alone. openHAB is restarted whenever `sendFiles` returns, on the share the
run leaves (`start_spec`).
-/

set_option autoImplicit false

namespace OpenhabConfiguration.Model

variable {r : Run} {w w' : World}

/-- When `sendFiles` has returned, openHAB is restarted, whatever has been returned. -/
theorem start_of_report {w₁ : World} {report : Bool}
    (h : sendFiles r.outcomes (r.world w) = some (.ok report, w₁)) :
    ∃ w', r.start w = some w' ∧ w'.share = w₁.share ∧
      w'.restarts = w₁.restarts ++ [w₁.share] := by
  rw [Run.start, main, Java.bind_apply, h]
  cases report <;> cases hssh : r.outcomes.ssh <;>
    simp [Java.bind_apply, info, sshConnectionExecute, Java.modify_apply, hssh, Java.throw_apply]

/-- An exception of the upload ends the run where it is. -/
theorem start_of_throw {w₁ : World} {e : JavaException}
    (h : sendFiles r.outcomes (r.world w) = some (.error e, w₁)) : r.start w = some w₁ := by
  rw [Run.start, main, Java.bind_apply, h]
  rfl

/-- The files a run uploads. -/
def Run.uploads (r : Run) : List ConfigFile :=
  if r.outcomes.authenticates then (attempt r.outcomes ConfigFile.all).1 else []

/-- At the largest `int`, the blocks do not end once a file opens. -/
theorem sendBlocks_maxValue (hmax : r.cfg.number = Int32.maxValue) (hqos : ValidQos r.cfg.qos)
    {file : ConfigFile} (hopens : r.outcomes.opens file = true) (session : Option Session)
    {files : List ConfigFile} (hin : file ∈ files) :
    sendBlocks r.outcomes session files (r.world w) = none := by
  induction files with
  | nil => cases hin
  | cons other files ih =>
      rw [sendBlocks, Java.bind_apply]
      by_cases hclosed : r.outcomes.opens other = false
      · rw [sendFile_skip hclosed]
        refine ih ((List.mem_cons.mp hin).resolve_left ?_)
        rintro rfl
        rw [hopens] at hclosed
        cases hclosed
      · have hother : r.outcomes.opens other = true := Bool.not_eq_false _ ▸ hclosed
        have hbuild : build r.outcomes other (r.world w) = none := by
          simp only [build, Java.bind_apply, Java.get_apply, Option.bind_some, hother, Run.world,
            buildFile_maxValue hmax other fun _ => hqos, Java.lift_apply, Option.map_none,
            Option.bind_none]
        rw [sendFile, Java.bind_apply, hbuild]
        rfl

/-- A run that ends at the largest `int` has opened no file. -/
theorem closed_of_maxValue (hmax : r.cfg.number = Int32.maxValue) (hqos : ValidQos r.cfg.qos)
    (h : r.start w = some w') (file : ConfigFile) : r.outcomes.opens file = false := by
  by_contra hopens
  have hsend : sendFiles r.outcomes (r.world w) = none := by
    rw [sendFiles_apply, sendBlocks_maxValue hmax hqos (Bool.not_eq_false _ ▸ hopens) _
      (ConfigFile.mem_all file)]
    rfl
  rw [Run.start, main, Java.bind_apply, hsend] at h
  cases h

/-- Every failed copy leaves the remote file as it was. -/
def CopiesLeave (o : Outcomes) : Prop := ∀ file old, o.leaves file old = old

/-- Where failed copies leave the remote files as they were, a file on the share is the one uploaded
or the one before. -/
theorem Transferred.share_eq {o : Outcomes} {uploads : List ConfigFile × Option ConfigFile}
    (h : Transferred o w uploads w') (hleaves : CopiesLeave o) (file : ConfigFile) :
    w'.share file.destination =
      if file ∈ uploads.1 then some (w.jvm.rendered file) else w.share file.destination := by
  by_cases hin : file ∈ uploads.1
  · rw [if_pos hin, h.uploaded file hin]
  rw [if_neg hin]
  by_cases hfailed : uploads.2 = some file
  · rw [h.failed file hfailed, hleaves, ite_self]
  · exact h.untouched file hin hfailed

/-- A run whose authentication succeeds restarts openHAB on what it has transferred. -/
theorem start_of_session (hauth : r.outcomes.authenticates = true)
    (hrenders : ∀ file, r.outcomes.opens file = true → (r.world w).jvm.Renders file)
    (h : r.start w = some w') :
    ∃ w₁, Transferred r.outcomes (r.world w) (attempt r.outcomes ConfigFile.all) w₁ ∧
      w'.share = w₁.share ∧ w'.restarts = w.restarts ++ [w'.share] := by
  obtain ⟨w₁, hrun, htransferred⟩ := sendFiles_eq hauth hrenders
  obtain ⟨w₂, hstart, hshare, hrestarts⟩ := start_of_report hrun
  rw [h] at hstart
  cases hstart
  refine ⟨w₁, htransferred, hshare, ?_⟩
  rw [hrestarts, hshare, htransferred.restarts]
  rfl

/-- A run whose authentication fails leaves the share as it was. -/
theorem start_of_null (hauth : r.outcomes.authenticates = false)
    (hrenders : ∀ file, r.outcomes.opens file = true → (r.world w).jvm.Renders file)
    (h : r.start w = some w') :
    w'.share = w.share ∧
      (w'.restarts = w.restarts ∨ w'.restarts = w.restarts ++ [w'.share]) := by
  rcases sendFiles_null hauth hrenders with ⟨hrun, -⟩ | ⟨file, -, hrun⟩
  · obtain ⟨w₂, hstart, hshare, hrestarts⟩ := start_of_report hrun
    rw [h] at hstart
    cases hstart
    refine ⟨hshare, .inr ?_⟩
    rw [hrestarts, hshare]
    rfl
  · have hstart := start_of_throw hrun
    rw [h] at hstart
    cases hstart
    exact ⟨rfl, .inl rfl⟩

/-- **What one run does**: it puts the texts of its configuration into the files it
uploads, and if it uploads any or `sendFiles` returns, it restarts openHAB on the share it
leaves. -/
theorem start_spec (hqos : ValidQos r.cfg.qos) (hleaves : CopiesLeave r.outcomes)
    (h : r.start w = some w') :
    (w'.restarts = w.restarts ∨ w'.restarts = w.restarts ++ [w'.share]) ∧
    (r.uploads ≠ [] → r.cfg.number ≠ Int32.maxValue ∧
      w'.restarts = w.restarts ++ [w'.share]) ∧
    ∀ file : ConfigFile, w'.share file.destination =
      if file ∈ r.uploads then some (fileText r.cfg file) else w.share file.destination := by
  have hbelow : ∀ file, r.outcomes.opens file = true → r.cfg.number ≠ Int32.maxValue := by
    intro file hopens hmax
    rw [closed_of_maxValue hmax hqos h file] at hopens
    cases hopens
  have hrenders : ∀ file, r.outcomes.opens file = true → (r.world w).jvm.Renders file :=
    fun file hopens => Jvm.renders_fresh (hbelow file hopens) file fun _ => hqos
  cases hauth : r.outcomes.authenticates with
  | true =>
      have huploads : r.uploads = (attempt r.outcomes ConfigFile.all).1 := by
        rw [Run.uploads, hauth, if_pos rfl]
      obtain ⟨w₁, htransferred, hshare, hlog⟩ := start_of_session hauth hrenders h
      refine ⟨.inr hlog, fun huploaded => ⟨?_, hlog⟩, fun file => ?_⟩
      · obtain ⟨file, hin⟩ := List.exists_mem_of_ne_nil _ huploaded
        rw [huploads] at hin
        exact hbelow file (attempt_opens hin)
      · rw [hshare, htransferred.share_eq hleaves, huploads]
        rfl
  | false =>
      have huploads : r.uploads = [] := by
        rw [Run.uploads, hauth, if_neg (by simp)]
      obtain ⟨hshare, hlog⟩ := start_of_null hauth hrenders h
      refine ⟨hlog, fun hne => absurd huploads hne, fun file => ?_⟩
      rw [hshare, huploads, if_neg (by simp)]

end OpenhabConfiguration.Model
