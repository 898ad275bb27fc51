import OpenhabConfiguration.Analysis.GeneratedText
import OpenhabConfiguration.Model.SendFiles

/-!
# What `sendFiles` does to the share

The blocks of `sendFiles` one after the other, with a session: the files whose builders
open their local file are copied in order, up to the first connect or copy that fails
(`attempt`). `sendBlocks_eq` says what is left of the world, and `sendFiles_eq` what
`sendFiles` returns.
-/

set_option autoImplicit false

namespace OpenhabConfiguration.Model

/-! ## Running a method that can throw -/

section Java

variable {α β : Type}

/-- One step after another: an exception ends the method where it is thrown. -/
theorem Java.bind_apply (x : Java α) (f : α → Java β) (w : World) :
    (x >>= f) w = (x w).bind fun r =>
      match r.1 with
      | .ok a => f a r.2
      | .error e => some (.error e, r.2) := by
  show (x w).bind _ = _
  congr 1
  funext r
  obtain ⟨_ | _, _⟩ := r <;> rfl

/-- Returning a value changes nothing. -/
theorem Java.pure_apply (a : α) (w : World) : (pure a : Java α) w = some (.ok a, w) := rfl

/-- Throwing an exception changes nothing. -/
theorem Java.throw_apply (e : JavaException) (w : World) :
    (throw e : Java α) w = some (.error e, w) := rfl

/-- Reading the world changes nothing. -/
theorem Java.get_apply (w : World) : (get : Java World) w = some (.ok w, w) := rfl

/-- Replacing the world. -/
theorem Java.set_apply (w w' : World) : (set w' : Java PUnit) w = some (.ok ⟨⟩, w') := rfl

/-- Changing the world. -/
theorem Java.modify_apply (f : World → World) (w : World) :
    (modify f : Java PUnit) w = some (.ok ⟨⟩, f w) := rfl

/-- A call that does not end, or that changes nothing. -/
theorem Java.lift_apply (x : Option α) (w : World) :
    (liftM x : Java α) w = x.map fun a => (.ok a, w) := by
  cases x <;> rfl

/-- The handler runs behind an `IOException`, and behind nothing else. -/
theorem catchIOException_apply (body handler : Java α) (w : World) :
    catchIOException body handler w = (body w).bind fun r =>
      match r.1 with
      | .error .io => handler r.2
      | _ => some r := by
  show (body w).bind _ = _
  congr 1
  funext r
  obtain ⟨(_ | _) | _, _⟩ := r <;> rfl

end Java

/-! ## One block -/

/-- The four files have different places on the share. -/
theorem ConfigFile.destination_inj {f g : ConfigFile} : f.destination = g.destination ↔ f = g := by
  constructor
  · intro h
    cases f <;> cases g <;> first | rfl | exact absurd h (by decide)
  · exact congrArg ConfigFile.destination

/-- The world after a builder has written its local file. -/
def World.afterBuild (w : World) (file : ConfigFile) : World :=
  { w with
    jvm := w.jvm.next file
    localFiles := Function.update w.localFiles file.source (some (w.jvm.rendered file))
    built := w.built ++ [(file, w.jvm.rendered file)] }

/-- The world after a file that has been built is put on the share with the given
contents. -/
def World.afterUpload (w : World) (file : ConfigFile) (contents : Option String) : World :=
  { w.afterBuild file with share := Function.update w.share file.destination contents }

/-- A builder whose file does not open returns `false` and changes nothing. -/
theorem build_false {o : Outcomes} {file : ConfigFile} (h : o.opens file = false) (w : World) :
    build o file w = some (.ok false, w) := by
  simp only [build, Java.bind_apply, Java.get_apply, Option.bind_some, h, Jvm.buildFile_false,
    Java.lift_apply, Option.map_some, Java.set_apply, Java.pure_apply]

/-- A builder that ends writes its local file and returns `true`. -/
theorem build_true {o : Outcomes} {file : ConfigFile} (h : o.opens file = true) {w : World}
    (hrenders : w.jvm.Renders file) :
    build o file w = some (.ok true, w.afterBuild file) := by
  simp only [build, Java.bind_apply, Java.get_apply, Option.bind_some, h,
    Jvm.buildFile_true hrenders, Java.lift_apply, Option.map_some, Java.set_apply,
    Java.pure_apply, World.afterBuild]

/-- A file that is not built is not sent, and no failure is noted. -/
theorem sendFile_skip {o : Outcomes} {file : ConfigFile} (h : o.opens file = false)
    (session : Option Session) (w : World) : sendFile o session file w = some (.ok (), w) := by
  simp only [sendFile, Java.bind_apply, build_false h, Option.bind_some, Bool.false_eq_true,
    if_false, Java.pure_apply]

section Opened

variable {o : Outcomes} {file : ConfigFile} (h : o.opens file = true) {w : World}
  (hrenders : w.jvm.Renders file)
include h hrenders

/-- Without a session, a builder that returns `true` leads to a `NullPointerException`. -/
theorem sendFile_null :
    sendFile o none file w = some (.error .nullPointer, w.afterBuild file) := by
  simp only [sendFile, Java.bind_apply, build_true h hrenders, Option.bind_some, if_true,
    requireNonNull, Java.throw_apply]

/-- A file that is built and copied is on the share as it was generated. -/
theorem sendFile_done (hconnects : o.connects file = true) (hcopies : o.copies file = true) :
    sendFile o (some ⟨⟩) file w =
      some (.ok (), w.afterUpload file (some (w.jvm.rendered file))) := by
  simp only [sendFile, Java.bind_apply, build_true h hrenders, Option.bind_some, if_true,
    requireNonNull, Java.pure_apply, connectShare, hconnects, copy, Java.get_apply, hcopies,
    Java.set_apply, World.afterUpload, World.afterBuild, Function.update_self]

/-- Without a connection to the share the file is built only. -/
theorem sendFile_noConnect (hconnects : o.connects file = false) :
    sendFile o (some ⟨⟩) file w = some (.error .io, w.afterBuild file) := by
  simp only [sendFile, Java.bind_apply, build_true h hrenders, Option.bind_some, if_true,
    requireNonNull, Java.pure_apply, connectShare, hconnects, Bool.false_eq_true, if_false,
    Java.throw_apply]

/-- A copy that fails leaves what it leaves of the remote file. -/
theorem sendFile_noCopy (hconnects : o.connects file = true) (hcopies : o.copies file = false) :
    sendFile o (some ⟨⟩) file w =
      some (.error .io, w.afterUpload file (o.leaves file (w.share file.destination))) := by
  simp only [sendFile, Java.bind_apply, build_true h hrenders, Option.bind_some, if_true,
    requireNonNull, Java.pure_apply, connectShare, hconnects, copy, Java.get_apply, hcopies,
    Bool.false_eq_true, if_false, Java.set_apply, Java.throw_apply, World.afterUpload,
    World.afterBuild]

end Opened

/-! ## Block after block -/

/-- The uploads of a list of files, as the outcomes decide them: the files that are
uploaded, and the one whose upload fails, if there is one. -/
def attempt (o : Outcomes) : List ConfigFile → List ConfigFile × Option ConfigFile
  | [] => ([], none)
  | file :: files =>
      if o.opens file = false then attempt o files
      else if o.connects file = true ∧ o.copies file = true then
        (file :: (attempt o files).1, (attempt o files).2)
      else ([], some file)

/-- What uploading has changed in the world. -/
structure Transferred (o : Outcomes) (w : World) (uploads : List ConfigFile × Option ConfigFile)
    (w' : World) : Prop where
  built : w'.built = w.built ++
    (uploads.1 ++ uploads.2.toList).map fun file => (file, w.jvm.rendered file)
  restarts : w'.restarts = w.restarts
  uploaded : ∀ file ∈ uploads.1, w'.share file.destination = some (w.jvm.rendered file)
  failed : ∀ file, uploads.2 = some file → w'.share file.destination =
    if o.connects file then o.leaves file (w.share file.destination)
    else w.share file.destination
  untouched : ∀ file, file ∉ uploads.1 → uploads.2 ≠ some file →
    w'.share file.destination = w.share file.destination

/-- One uploaded file in front of others. -/
theorem Transferred.cons {o : Outcomes} {w w' : World} {file : ConfigFile}
    {uploads : List ConfigFile × Option ConfigFile}
    (hfile : file ∉ uploads.1 ∧ uploads.2 ≠ some file)
    (h : Transferred o (w.afterUpload file (some (w.jvm.rendered file))) uploads w') :
    Transferred o w (file :: uploads.1, uploads.2) w' := by
  have hother : ∀ other, other ≠ file →
      (w.afterUpload file (some (w.jvm.rendered file))).jvm.rendered other =
        w.jvm.rendered other := fun other hne => w.jvm.rendered_next_ne hne
  have hshare : ∀ other, other ≠ file →
      (w.afterUpload file (some (w.jvm.rendered file))).share other.destination =
        w.share other.destination := fun other hne =>
    Function.update_of_ne (fun heq => hne (ConfigFile.destination_inj.mp heq)) _ _
  have hself : (w.afterUpload file (some (w.jvm.rendered file))).share file.destination =
      some (w.jvm.rendered file) := Function.update_self ..
  have hmem : ∀ other ∈ uploads.1 ++ uploads.2.toList, other ≠ file := by
    rintro other hin rfl
    rcases List.mem_append.mp hin with hin | hin
    · exact hfile.1 hin
    · exact hfile.2 (Option.mem_toList.mp hin)
  refine ⟨?_, h.restarts, ?_, ?_, ?_⟩
  · rw [h.built, List.cons_append, List.map_cons]
    have htail := List.map_congr_left (l := uploads.1 ++ uploads.2.toList)
      fun other hin => congrArg (Prod.mk other) (hother other (hmem other hin))
    rw [htail]
    show w.built ++ [_] ++ _ = _
    rw [List.append_assoc, List.singleton_append]
  · intro other hin
    rcases List.mem_cons.mp hin with rfl | hin
    · rw [h.untouched other hfile.1 hfile.2, hself]
    · rw [h.uploaded other hin, hother other (hmem other (List.mem_append_left _ hin))]
  · intro other heq
    have hne : other ≠ file := by
      rintro rfl
      exact hfile.2 heq
    rw [h.failed other heq, hshare other hne]
  · intro other hnot hfailed
    have hne : other ≠ file := fun heq => hnot (heq ▸ List.mem_cons_self)
    rw [h.untouched other (fun hin => hnot (List.mem_cons_of_mem _ hin)) hfailed,
      hshare other hne]

/-- Nothing is uploaded when the share cannot be connected for the first file. -/
theorem Transferred.of_noConnect {o : Outcomes} {file : ConfigFile}
    (hconnects : o.connects file = false) (w : World) :
    Transferred o w ([], some file) (w.afterBuild file) := by
  refine ⟨rfl, rfl, nofun, ?_, fun _ _ _ => rfl⟩
  rintro other ⟨⟩
  rw [hconnects]
  rfl

/-- Nothing is uploaded when the first copy fails; the remote file is what the copy has left
of it. -/
theorem Transferred.of_noCopy {o : Outcomes} {file : ConfigFile}
    (hconnects : o.connects file = true) (w : World) :
    Transferred o w ([], some file)
      (w.afterUpload file (o.leaves file (w.share file.destination))) := by
  refine ⟨rfl, rfl, nofun, ?_, ?_⟩
  · rintro other ⟨⟩
    rw [hconnects]
    exact Function.update_self ..
  · intro other _ hother
    refine Function.update_of_ne (fun heq => hother ?_) _ _
    rw [ConfigFile.destination_inj.mp heq]

/-- A file is uploaded, or fails to be, only when it is among those that are tried. -/
theorem mem_of_attempt {o : Outcomes} {files : List ConfigFile} {file : ConfigFile}
    (h : file ∈ (attempt o files).1 ∨ (attempt o files).2 = some file) : file ∈ files := by
  induction files with
  | nil => simp [attempt] at h
  | cons other files ih =>
      rw [attempt] at h
      split at h
      · exact List.mem_cons_of_mem _ (ih h)
      · split at h
        · rcases h with h | h
          · rcases List.mem_cons.mp h with rfl | h
            · exact List.mem_cons_self
            · exact List.mem_cons_of_mem _ (ih (.inl h))
          · exact List.mem_cons_of_mem _ (ih (.inr h))
        · rcases h with h | h
          · cases h
          · cases h
            exact List.mem_cons_self

/-- What is uploaded has been opened. -/
theorem attempt_opens {o : Outcomes} {files : List ConfigFile} {file : ConfigFile}
    (h : file ∈ (attempt o files).1) : o.opens file = true := by
  induction files with
  | nil => cases h
  | cons other files ih =>
      rw [attempt] at h
      split at h
      · exact ih h
      · rename_i hopens
        split at h
        · rcases List.mem_cons.mp h with rfl | h
          · exact Bool.not_eq_false _ ▸ hopens
          · exact ih h
        · cases h

/-- The blocks of a list of files, one after the other. -/
def sendBlocks (o : Outcomes) (session : Option Session) : List ConfigFile → Java Unit
  | [] => return ()
  | file :: files => do
      sendFile o session file
      sendBlocks o session files

/-- **Block after block**, with a session: the uploads are those of `attempt`, and the
first failing one ends the blocks with an `IOException`. -/
theorem sendBlocks_eq {o : Outcomes} {files : List ConfigFile} (hnodup : files.Nodup) {w : World}
    (hrenders : ∀ file ∈ files, o.opens file = true → w.jvm.Renders file) :
    ∃ w', sendBlocks o (some ⟨⟩) files w =
        some (if (attempt o files).2 = none then .ok () else .error .io, w') ∧
      Transferred o w (attempt o files) w' := by
  induction files generalizing w with
  | nil => exact ⟨w, rfl, ⟨by simp [attempt], rfl, nofun, nofun, fun _ _ _ => rfl⟩⟩
  | cons file files ih =>
      have hfile := hrenders file List.mem_cons_self
      have hrest := fun other (hin : other ∈ files) =>
        hrenders other (List.mem_cons_of_mem _ hin)
      have hnot : file ∉ files := (List.nodup_cons.mp hnodup).1
      rw [sendBlocks, Java.bind_apply, attempt]
      by_cases hclosed : o.opens file = false
      · rw [if_pos hclosed, sendFile_skip hclosed]
        exact ih hnodup.of_cons hrest
      have hopens : o.opens file = true := Bool.not_eq_false _ ▸ hclosed
      rw [if_neg hclosed]
      by_cases hboth : o.connects file = true ∧ o.copies file = true
      · rw [if_pos hboth, sendFile_done hopens (hfile hopens) hboth.1 hboth.2]
        obtain ⟨w', hrun, htransferred⟩ := ih hnodup.of_cons
          (w := w.afterUpload file (some (w.jvm.rendered file)))
          fun other hin hother => Jvm.renders_next.mpr (hrest other hin hother)
        refine ⟨w', hrun, htransferred.cons ⟨fun hin => ?_, fun hfailed => ?_⟩⟩
        · exact hnot (mem_of_attempt (.inl hin))
        · exact hnot (mem_of_attempt (.inr hfailed))
      rw [if_neg hboth]
      by_cases hdown : o.connects file = false
      · refine ⟨w.afterBuild file, ?_, .of_noConnect hdown w⟩
        rw [sendFile_noConnect hopens (hfile hopens) hdown]
        rfl
      · have hconnects : o.connects file = true := Bool.not_eq_false _ ▸ hdown
        have hcopies : o.copies file = false :=
          Bool.eq_false_iff.mpr fun hcopies => hboth ⟨hconnects, hcopies⟩
        refine ⟨_, ?_, .of_noCopy hconnects w⟩
        rw [sendFile_noCopy hopens (hfile hopens) hconnects hcopies]
        rfl

/-- Without a session, the blocks end with a `NullPointerException` at the first file that is
built. -/
theorem sendBlocks_null {o : Outcomes} {w : World}
    (hrenders : ∀ file, o.opens file = true → w.jvm.Renders file) (files : List ConfigFile) :
    (sendBlocks o none files w = some (.ok (), w) ∧ ∀ file ∈ files, o.opens file = false) ∨
    ∃ file, o.opens file = true ∧
      sendBlocks o none files w = some (.error .nullPointer, w.afterBuild file) := by
  induction files with
  | nil => exact .inl ⟨rfl, nofun⟩
  | cons file files ih =>
      rw [sendBlocks, Java.bind_apply]
      by_cases hclosed : o.opens file = false
      · rw [sendFile_skip hclosed]
        refine ih.imp_left fun ⟨hrun, hall⟩ => ⟨hrun, fun other hin => ?_⟩
        rcases List.mem_cons.mp hin with rfl | hin
        · exact hclosed
        · exact hall other hin
      · have hopens : o.opens file = true := Bool.not_eq_false _ ▸ hclosed
        refine .inr ⟨file, hopens, ?_⟩
        rw [sendFile_null hopens (hrenders file hopens)]
        rfl

/-- The four files, in the order of the blocks. -/
def ConfigFile.all : List ConfigFile := [.items, .things, .rules, .sitemap]

/-- A session, or `null` when the authentication has failed. -/
theorem authentication_apply (o : Outcomes) (w : World) :
    authentication o w = some (.ok (if o.authenticates then some ⟨⟩ else none), w) := by
  rw [authentication, catchIOException_apply]
  cases o.authenticates <;> rfl

/-- No file is listed twice. -/
theorem ConfigFile.nodup_all : ConfigFile.all.Nodup := by decide

/-- All files are listed. -/
theorem ConfigFile.mem_all (file : ConfigFile) : file ∈ ConfigFile.all := by
  cases file <;> decide

/-- `sendFiles` is its four blocks behind the authentication. -/
theorem sendFiles_apply (o : Outcomes) (w : World) :
    sendFiles o w =
      (sendBlocks o (if o.authenticates then some ⟨⟩ else none) ConfigFile.all w).bind fun r =>
        match r.1 with
        | .ok () => some (.ok true, r.2)
        | .error .io => some (.ok false, r.2)
        | .error .nullPointer => some (.error .nullPointer, r.2) := by
  have hbody : (do
      let session ← authentication o
      sendFile o session .items
      sendFile o session .things
      sendFile o session .rules
      sendFile o session .sitemap
      return true : Java Bool) = (do
      let session ← authentication o
      sendBlocks o session ConfigFile.all
      return true) := by
    simp only [ConfigFile.all, sendBlocks, bind_assoc, pure_bind]
  rw [sendFiles, hbody, catchIOException_apply, Java.bind_apply, authentication_apply]
  show ((sendBlocks o _ ConfigFile.all >>= fun _ => pure true : Java Bool) w).bind _ = _
  rw [Java.bind_apply, Option.bind_assoc]
  congr 1
  funext r
  obtain ⟨(_ | _) | ⟨⟩, w'⟩ := r <;> rfl

/-- **With a session**, `sendFiles` returns whether no upload has failed. -/
theorem sendFiles_eq {o : Outcomes} (hauth : o.authenticates = true) {w : World}
    (hrenders : ∀ file, o.opens file = true → w.jvm.Renders file) :
    ∃ w', sendFiles o w = some (.ok (attempt o ConfigFile.all).2.isNone, w') ∧
      Transferred o w (attempt o ConfigFile.all) w' := by
  obtain ⟨w', hrun, htransferred⟩ := sendBlocks_eq ConfigFile.nodup_all fun file _ => hrenders file
  refine ⟨w', ?_, htransferred⟩
  rw [sendFiles_apply, hauth, if_pos rfl, hrun]
  cases (attempt o ConfigFile.all).2 <;> rfl

/-- **Without a session** and without a local file, `sendFiles` does nothing and returns
`true`; with the first local file it throws. The share is not touched either way. -/
theorem sendFiles_null {o : Outcomes} (hauth : o.authenticates = false) {w : World}
    (hrenders : ∀ file, o.opens file = true → w.jvm.Renders file) :
    (sendFiles o w = some (.ok true, w) ∧ ∀ file, o.opens file = false) ∨
    ∃ file, o.opens file = true ∧
      sendFiles o w = some (.error .nullPointer, w.afterBuild file) := by
  rw [sendFiles_apply, hauth]
  rcases sendBlocks_null hrenders ConfigFile.all with ⟨hrun, hall⟩ | ⟨file, hopens, hrun⟩
  · refine .inl ⟨?_, fun file => hall file file.mem_all⟩
    rw [if_neg (by simp), hrun]
    rfl
  · refine .inr ⟨file, hopens, ?_⟩
    rw [if_neg (by simp), hrun]
    rfl

end OpenhabConfiguration.Model
