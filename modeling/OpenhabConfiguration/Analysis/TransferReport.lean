import OpenhabConfiguration.Analysis.Transfer

/-!
# What `sendFiles` reports

`sendFiles` returns `true` when no upload that it tries fails. With a session, and when the
builders have all returned `true` or some upload has failed, this is what it says: the
share holds the four texts of this call (`sendFiles_honest`). The report is `false` after a
failed upload of the sitemap even if the share held this text already
(`sendFiles_false_on_current_share`).
-/

set_option autoImplicit false

namespace OpenhabConfiguration.Model

/-! ## Which uploads are tried -/

/-- No upload fails when every upload of a built file would succeed, and then all built
files are uploaded. -/
theorem attempt_eq_of_forall {o : Outcomes} {files : List ConfigFile}
    (h : ∀ file ∈ files, o.opens file = true → o.connects file = true ∧ o.copies file = true) :
    attempt o files = (files.filter o.opens, none) := by
  induction files with
  | nil => rfl
  | cons file files ih =>
      have hrest := ih fun other hin => h other (List.mem_cons_of_mem _ hin)
      rw [attempt, hrest]
      by_cases hclosed : o.opens file = false
      · rw [if_pos hclosed, List.filter_cons_of_neg (by simp [hclosed])]
      · have hopens : o.opens file = true := Bool.not_eq_false _ ▸ hclosed
        rw [if_neg hclosed, if_pos (h file List.mem_cons_self hopens),
          List.filter_cons_of_pos hopens]

/-- When an upload fails, the built files in front of it have been uploaded. -/
theorem attempt_eq_some {o : Outcomes} {files : List ConfigFile} {file : ConfigFile}
    (h : (attempt o files).2 = some file) : ∃ before after, files = before ++ file :: after ∧
      (attempt o files).1 = before.filter o.opens ∧
      ¬ (o.connects file = true ∧ o.copies file = true) := by
  induction files with
  | nil => cases h
  | cons other files ih =>
      rw [attempt] at h ⊢
      by_cases hclosed : o.opens other = false
      · rw [if_pos hclosed] at h ⊢
        obtain ⟨before, after, rfl, huploaded, hfails⟩ := ih h
        refine ⟨other :: before, after, rfl, ?_, hfails⟩
        rw [huploaded, List.filter_cons_of_neg (by simp [hclosed])]
      · have hopens : o.opens other = true := Bool.not_eq_false _ ▸ hclosed
        rw [if_neg hclosed] at h ⊢
        by_cases hboth : o.connects other = true ∧ o.copies other = true
        · rw [if_pos hboth] at h ⊢
          obtain ⟨before, after, rfl, huploaded, hfails⟩ := ih h
          refine ⟨other :: before, after, rfl, ?_, hfails⟩
          rw [huploaded, List.filter_cons_of_pos hopens]
        · rw [if_neg hboth] at h ⊢
          cases h
          exact ⟨[], files, rfl, rfl, hboth⟩

/-- A file that opens and cannot be copied makes the upload fail. -/
theorem attempt_ne_none {o : Outcomes} {files : List ConfigFile} {file : ConfigFile}
    (hin : file ∈ files) (hopens : o.opens file = true)
    (hfails : ¬ (o.connects file = true ∧ o.copies file = true)) :
    (attempt o files).2 ≠ none := by
  induction files with
  | nil => cases hin
  | cons other files ih =>
      rw [attempt]
      by_cases heq : file = other
      · subst heq
        rw [if_neg (by simp [hopens]), if_neg hfails]
        exact Option.some_ne_none _
      · have hrest := ih ((List.mem_cons.mp hin).resolve_left heq)
        split
        · exact hrest
        · split
          · exact hrest
          · exact Option.some_ne_none _

/-- The sitemap is the last file: when it is built and its upload does not fail, no upload
has failed. -/
theorem attempt_eq_none_of_sitemap {o : Outcomes}
    (hin : .sitemap ∈ (attempt o ConfigFile.all).1 ++ (attempt o ConfigFile.all).2.toList)
    (hconnects : o.connects .sitemap = true) (hcopies : o.copies .sitemap = true) :
    (attempt o ConfigFile.all).2 = none := by
  cases hfailed : (attempt o ConfigFile.all).2 with
  | none => rfl
  | some file =>
      obtain ⟨before, after, hall, huploaded, hfails⟩ := attempt_eq_some hfailed
      have hnodup := ConfigFile.nodup_all
      have hlast : .sitemap ∈ file :: after := by
        have hgetLast : ConfigFile.all.getLast? = some .sitemap := rfl
        rw [hall, List.getLast?_append_cons] at hgetLast
        exact List.mem_of_getLast? hgetLast
      rw [hfailed, huploaded] at hin
      rcases List.mem_append.mp hin with hbefore | hself
      · rw [hall, List.nodup_append] at hnodup
        exact absurd rfl (hnodup.2.2 _ (List.mem_of_mem_filter hbefore) _ hlast)
      · obtain rfl : file = .sitemap := Option.some.inj (Option.mem_toList.mp hself)
        exact absurd ⟨hconnects, hcopies⟩ hfails

/-! ## The report -/

/-- **The report of `sendFiles`**, with a session, when all builders return `true` or some
upload fails: it is `true` if and only if every file on the share holds the text its builder
has printed in this call, and the last upload has not failed. -/
theorem sendFiles_honest (o : Outcomes) (w : World) (hauth : o.authenticates = true)
    (hrenders : ∀ file, o.opens file = true → w.jvm.Renders file)
    (hsteps : (∀ file, o.opens file = true) ∨
      ∃ file, o.opens file = true ∧ ¬ (o.connects file = true ∧ o.copies file = true)) :
    ∃ (report : Bool) (w' : World) (texts : List (ConfigFile × String)),
      sendFiles o w = some (.ok report, w') ∧ w'.built = w.built ++ texts ∧
      (report = true ↔
        (∀ file, ∃ text, (file, text) ∈ texts ∧ w'.share file.destination = some text) ∧
        o.connects .sitemap = true ∧ o.copies .sitemap = true) := by
  obtain ⟨w', hrun, htransferred⟩ := sendFiles_eq hauth hrenders
  refine ⟨_, w', _, hrun, htransferred.built, ?_⟩
  rw [Option.isNone_iff_eq_none]
  constructor
  · intro hnone
    have hgood : ∀ file, o.opens file = true → o.connects file = true ∧ o.copies file = true := by
      intro file hopens
      by_contra hfails
      exact attempt_ne_none file.mem_all hopens hfails hnone
    have hall : ∀ file, o.opens file = true := by
      rcases hsteps with hall | ⟨file, hopens, hfails⟩
      · exact hall
      · exact absurd (hgood file hopens) hfails
    have huploaded : ∀ file, file ∈ (attempt o ConfigFile.all).1 := by
      intro file
      rw [attempt_eq_of_forall fun file _ => hgood file]
      exact List.mem_filter.mpr ⟨file.mem_all, hall file⟩
    refine ⟨fun file => ?_, hgood .sitemap (hall .sitemap)⟩
    exact ⟨_, List.mem_map_of_mem (List.mem_append_left _ (huploaded file)),
      htransferred.uploaded file (huploaded file)⟩
  · rintro ⟨hholds, hconnects, hcopies⟩
    obtain ⟨text, htext, -⟩ := hholds .sitemap
    obtain ⟨file, hfile, heq⟩ := List.mem_map.mp htext
    obtain rfl : file = .sitemap := congrArg Prod.fst heq
    exact attempt_eq_none_of_sitemap hfile hconnects hcopies

/-- The outcomes of a run in which nothing fails. -/
def allSucceed : Outcomes where
  authenticates := true
  opens _ := true
  connects _ := true
  copies _ := true
  leaves _ old := old
  ssh := true

/-- The share that holds the texts of a configuration, and no other file. -/
def shareOf (cfg : Config) : Files := fun path =>
  (ConfigFile.all.find? fun file => file.destination = path).map (fileText cfg)

/-- The share of a configuration has its four texts in their places. -/
theorem shareOf_destination (cfg : Config) (file : ConfigFile) :
    shareOf cfg file.destination = some (fileText cfg file) := by
  have hfind : ConfigFile.all.find? (fun other => other.destination = file.destination) =
      some file := by
    cases file <;> decide
  rw [shareOf, hfind]
  rfl

/-- A world in which the virtual machine has just been started. -/
def startWorld (cfg : Config) (share : Files) : World where
  jvm := Jvm.fresh cfg
  localFiles _ := none
  share := share
  built := []
  log := []
  restarts := []

/-- All builders end for the configuration of the repository. -/
theorem renders_openHabIni (file : ConfigFile) : (Jvm.fresh openHabIni).Renders file :=
  Jvm.renders_fresh (by decide) file fun _ => by decide

/-- A run in which nothing fails puts the generated texts on the share. -/
theorem sendFiles_honest_allSucceed :
    ∃ w' texts, sendFiles allSucceed (startWorld openHabIni fun _ => none) = some (.ok true, w') ∧
      w'.built = texts ∧ ∀ file, ∃ text, (file, text) ∈ texts ∧
        w'.share file.destination = some text := by
  obtain ⟨report, w', texts, hrun, hbuilt, hiff⟩ := sendFiles_honest allSucceed
    (startWorld openHabIni fun _ => none) rfl (fun file _ => renders_openHabIni file)
    (.inl fun _ => rfl)
  obtain ⟨w'', hrun', -⟩ := sendFiles_eq (o := allSucceed) rfl
    (w := startWorld openHabIni fun _ => none) fun file _ => renders_openHabIni file
  have hnone : (attempt allSucceed ConfigFile.all).2.isNone = true := by decide
  rw [hnone, hrun] at hrun'
  cases hrun'
  exact ⟨w', texts, hrun, by simpa [startWorld] using hbuilt, (hiff.mp rfl).1⟩

/-- A share that already holds the texts of the configuration: when connecting for the last
file fails, the report is `false`, although every file holds the text of this call. -/
theorem sendFiles_false_on_current_share :
    ∃ w', sendFiles { allSucceed with connects := fun file => file ≠ .sitemap }
        (startWorld openHabIni (shareOf openHabIni)) = some (.ok false, w') ∧
      ∀ file, ∃ text, (file, text) ∈ w'.built ∧ w'.share file.destination = some text := by
  obtain ⟨w', hrun, htransferred⟩ := sendFiles_eq
    (o := { allSucceed with connects := fun file => file ≠ .sitemap }) rfl
    (w := startWorld openHabIni (shareOf openHabIni)) fun file _ => renders_openHabIni file
  have hattempt : attempt { allSucceed with connects := fun file => file ≠ .sitemap }
      ConfigFile.all = ([.items, .things, .rules], some .sitemap) := by decide
  rw [hattempt] at hrun htransferred
  refine ⟨w', hrun, fun file => ⟨fileText openHabIni file, ?_, ?_⟩⟩
  · rw [htransferred.built]
    have hmem : file ∈ [.items, .things, .rules] ++ (some ConfigFile.sitemap).toList := by
      cases file <;> decide
    exact List.mem_append_right _ (List.mem_map_of_mem hmem)
  · by_cases hsitemap : file = .sitemap
    · subst hsitemap
      rw [htransferred.failed .sitemap rfl, if_neg (by decide)]
      exact shareOf_destination openHabIni .sitemap
    · refine htransferred.uploaded file ?_
      cases file <;> first | exact absurd rfl hsitemap | decide

end OpenhabConfiguration.Model
