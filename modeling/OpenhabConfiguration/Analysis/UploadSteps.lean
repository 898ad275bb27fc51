import Mathlib.Data.List.Infix
import OpenhabConfiguration.Analysis.Deployment
import OpenhabConfiguration.Analysis.References

/-!
# The share between two uploads

`sendFiles` replaces the four files one after the other. After the first copies the share
holds the new items, and rules and a sitemap that can still be the old ones
(`share_of_sendBlocks`). What these refer to is declared then exactly when the number of
apartments has not become smaller (`uploads_closed_iff`).
-/

set_option autoImplicit false

namespace OpenhabConfiguration.Analysis

open Interface Model

/-! ## Blocks that end -/

/-- What a call of a builder writes when it opens its file, if it returns. -/
def textOf (jvm : Jvm) (file : ConfigFile) : Option String :=
  (jvm.buildFile file true).bind fun r => r.1

/-- In a fresh virtual machine the text of a call is the generated one. -/
theorem textOf_fresh (cfg : Config) (file : ConfigFile) :
    textOf (Jvm.fresh cfg) file = generated cfg file := rfl

/-- A call that writes a text writes that of its file. -/
theorem textOf_of_buildFile {jvm jvm' : Jvm} {file : ConfigFile} {text : String}
    (h : jvm.buildFile file true = some (some text, jvm')) : textOf jvm file = some text := by
  rw [textOf, h]
  rfl

/-- A builder reads the static fields of its own class. -/
theorem textOf_eq (jvm : Jvm) (file : ConfigFile) : textOf jvm file =
    match file with
    | .items => (BuildItems.buildItemsFile true jvm.items).bind fun r => r.1
    | .things => (BuildThings.buildThingsFile true jvm.things).bind fun r => r.1
    | .rules => (BuildRules.buildRulesFile true jvm.rules).bind fun r => r.1
    | .sitemap => (BuildSitemap.buildSitemapFile true jvm.sitemap).bind fun r => r.1 := by
  cases file <;> exact Option.bind_assoc ..

/-- A call of one builder has no part in the text of another one. -/
theorem textOf_other {jvm jvm' : Jvm} {file other : ConfigFile} {opens : Bool}
    {text : Option String} (hne : other ≠ file)
    (h : jvm.buildFile file opens = some (text, jvm')) : textOf jvm' other = textOf jvm other := by
  rw [textOf_eq, textOf_eq]
  cases file <;> obtain ⟨r, -, hr⟩ := Option.bind_eq_some_iff.mp h <;> cases hr <;>
    cases other <;> first | rfl | exact absurd rfl hne

/-- A call that opens its file and returns has written some text. -/
theorem exists_of_writeFile {σ : Type} {body : Method σ String} {st : σ} {r : Option String × σ}
    (h : writeFile true body st = some r) : ∃ text, r.1 = some text := by
  rw [writeFile_true] at h
  obtain ⟨q, -, rfl⟩ := Option.map_eq_some_iff.mp h
  exact ⟨q.1, rfl⟩

/-- A call that opens its file writes a text. -/
theorem exists_of_buildFile {jvm jvm' : Jvm} {file : ConfigFile} {r : Option String}
    (h : jvm.buildFile file true = some (r, jvm')) : ∃ text, r = some text := by
  cases file <;> obtain ⟨r, hcall, hr⟩ := Option.bind_eq_some_iff.mp h <;> cases hr <;>
    exact exists_of_writeFile hcall

/-- A builder whose text is known writes it to its local file. -/
theorem build_of_text {o : Outcomes} {file : ConfigFile} {w : World} {text : String} {jvm : Jvm}
    (hopens : o.opens file = true) (h : w.jvm.buildFile file true = some (some text, jvm)) :
    build o file w = some (.ok true, { w with
      jvm := jvm
      localFiles := Function.update w.localFiles file.source (some text)
      built := w.built ++ [(file, text)] }) := by
  simp only [build, Java.bind_apply, Java.get_apply, Option.bind_some, hopens, h,
    Java.lift_apply, Option.map_some, Java.set_apply, Java.pure_apply]

/-- A block whose builder never returns never ends. -/
theorem sendFile_never {o : Outcomes} {file : ConfigFile} {w : World} (session : Option Session)
    (hopens : o.opens file = true) (h : w.jvm.buildFile file true = none) :
    sendFile o session file w = none := by
  simp only [sendFile, build, Java.bind_apply, Java.get_apply, Option.bind_some, hopens, h,
    Java.lift_apply, Option.map_none, Option.bind_none]

/-- A block that ends has copied what its builder has written. -/
theorem sendFile_ok {o : Outcomes} {file : ConfigFile} {w w' : World}
    (hopens : o.opens file = true) (h : sendFile o (some ⟨⟩) file w = some (.ok (), w')) :
    ∃ text, w.jvm.buildFile file true = some (some text, w'.jvm) ∧
      w'.share = Function.update w.share file.destination (some text) := by
  cases hbuild : w.jvm.buildFile file true with
  | none =>
      rw [sendFile_never _ hopens hbuild] at h
      cases h
  | some r =>
      obtain ⟨r, jvm⟩ := r
      obtain ⟨text, rfl⟩ := exists_of_buildFile hbuild
      simp only [sendFile, Java.bind_apply, build_of_text hopens hbuild, Option.bind_some, if_true,
        requireNonNull, Java.pure_apply, connectShare, copy, Java.get_apply] at h
      by_cases hconnects : o.connects file = true
      · by_cases hcopies : o.copies file = true
        · simp only [hconnects, hcopies, if_true, Java.pure_apply, Option.bind_some,
            Java.set_apply, Function.update_self] at h
          cases h
          exact ⟨text, rfl, rfl⟩
        · simp only [hconnects, hcopies, if_true, Java.pure_apply, Option.bind_some] at h
          cases h
      · simp only [hconnects] at h
        cases h

/-- **Blocks that end** have replaced their files by the texts of this run, and left the
others alone. -/
theorem share_of_sendBlocks {o : Outcomes} (hopens : ∀ file, o.opens file = true)
    {files : List ConfigFile} (hnodup : files.Nodup) {w w' : World}
    (h : sendBlocks o (some ⟨⟩) files w = some (.ok (), w')) (file : ConfigFile) :
    (file ∈ files → ∃ text, textOf w.jvm file = some text ∧
      w'.share file.destination = some text) ∧
    (file ∉ files → w'.share file.destination = w.share file.destination) := by
  induction files generalizing w with
  | nil =>
      cases h
      exact ⟨fun hin => absurd hin List.not_mem_nil, fun _ => rfl⟩
  | cons other files ih =>
      rw [sendBlocks, Java.bind_apply] at h
      obtain ⟨⟨r, w₁⟩, hfirst, hrest⟩ := Option.bind_eq_some_iff.mp h
      cases r with
      | error e => cases hrest
      | ok =>
          obtain ⟨text, hbuild, hshare⟩ := sendFile_ok (hopens other) hfirst
          obtain ⟨hin, hout⟩ := ih hnodup.of_cons hrest
          have hother : other ∉ files := (List.nodup_cons.mp hnodup).1
          by_cases heq : file = other
          · subst heq
            refine ⟨fun _ => ⟨text, textOf_of_buildFile hbuild, ?_⟩,
              fun hnot => absurd List.mem_cons_self hnot⟩
            rw [hout hother, hshare, Function.update_self]
          · have hne : file.destination ≠ other.destination := fun h =>
              heq (ConfigFile.destination_inj.mp h)
            refine ⟨fun hmem => ?_, fun hnot => ?_⟩
            · rw [← textOf_other heq hbuild]
              exact hin ((List.mem_cons.mp hmem).resolve_left heq)
            · rw [hout fun hmem => hnot (List.mem_cons_of_mem _ hmem), hshare,
                Function.update_of_ne hne]

/-- A block that ends normally has connected to its share. -/
theorem connects_of_sendFile {o : Outcomes} {file : ConfigFile} {w w' : World}
    (hopens : o.opens file = true) (h : sendFile o (some ⟨⟩) file w = some (.ok (), w')) :
    o.connects file = true := by
  obtain ⟨text, hbuild, -⟩ := sendFile_ok hopens h
  by_contra hdown
  simp only [sendFile, Java.bind_apply, build_of_text hopens hbuild, Option.bind_some, if_true,
    requireNonNull, Java.pure_apply, connectShare, if_neg hdown, Java.throw_apply] at h
  cases h

/-- Blocks that end normally have all connected to their shares. -/
theorem connects_of_sendBlocks {o : Outcomes} (hopens : ∀ file, o.opens file = true)
    {files : List ConfigFile} {w w' : World}
    (h : sendBlocks o (some ⟨⟩) files w = some (.ok (), w')) :
    ∀ file ∈ files, o.connects file = true := by
  induction files generalizing w with
  | nil => exact fun file hin => absurd hin List.not_mem_nil
  | cons other files ih =>
      rw [sendBlocks, Java.bind_apply] at h
      obtain ⟨⟨r, w₁⟩, hfirst, hrest⟩ := Option.bind_eq_some_iff.mp h
      cases r with
      | error e => cases hrest
      | ok =>
          intro file hin
          obtain rfl | hin := List.mem_cons.mp hin
          · exact connects_of_sendFile (hopens file) hfirst
          · exact ih hrest file hin

/-- Without a session, a block that opens its file throws. -/
theorem sendFile_null_throws {o : Outcomes} {file : ConfigFile} {w w' : World}
    (hopens : o.opens file = true) : sendFile o none file w ≠ some (.ok (), w') := by
  intro h
  cases hbuild : w.jvm.buildFile file true with
  | none =>
      rw [sendFile_never _ hopens hbuild] at h
      cases h
  | some r =>
      obtain ⟨r, jvm⟩ := r
      obtain ⟨text, rfl⟩ := exists_of_buildFile hbuild
      simp only [sendFile, Java.bind_apply, build_of_text hopens hbuild, Option.bind_some, if_true,
        requireNonNull, Java.throw_apply] at h
      cases h

/-- A call that opens its files and returns `true` has a session, and its blocks end. -/
theorem blocks_of_sendFiles {o : Outcomes} (hopens : ∀ file, o.opens file = true) {w w' : World}
    (h : sendFiles o w = some (.ok true, w')) :
    o.authenticates = true ∧ sendBlocks o (some ⟨⟩) ConfigFile.all w = some (.ok (), w') := by
  rw [sendFiles_apply] at h
  obtain ⟨⟨r, w₁⟩, hblocks, hend⟩ := Option.bind_eq_some_iff.mp h
  obtain (_ | _) | ⟨⟩ := r
  · cases hend
  · cases hend
  · cases hend
    cases hauth : o.authenticates with
    | true =>
        rw [hauth, if_pos rfl] at hblocks
        exact ⟨rfl, hblocks⟩
    | false =>
        rw [hauth, if_neg Bool.false_ne_true, ConfigFile.all, sendBlocks, Java.bind_apply] at hblocks
        obtain ⟨⟨r, w₂⟩, hfirst, hrest⟩ := Option.bind_eq_some_iff.mp hblocks
        cases r with
        | error e => cases hrest
        | ok => exact absurd hfirst (sendFile_null_throws (hopens .items))

/-! ## Calls without failures -/

/-- The network and the file system do all that they are asked for. -/
structure Faultless (o : Outcomes) : Prop where
  authenticates : o.authenticates = true
  opens : ∀ file, o.opens file = true
  connects : ∀ file, o.connects file = true
  copies : ∀ file, o.copies file = true

section Faultless

variable {o : Outcomes} (ho : Faultless o)
include ho

/-- A block whose text is known ends normally when nothing fails. -/
theorem sendFile_of_text {file : ConfigFile} {w : World} {text : String} {jvm : Jvm}
    (h : w.jvm.buildFile file true = some (some text, jvm)) :
    ∃ w', sendFile o (some ⟨⟩) file w = some (.ok (), w') ∧ w'.jvm = jvm := by
  refine ⟨{ w with
    jvm := jvm
    localFiles := Function.update w.localFiles file.source (some text)
    built := w.built ++ [(file, text)]
    share := Function.update w.share file.destination (some text) }, ?_, rfl⟩
  simp only [sendFile, Java.bind_apply, build_of_text (ho.opens file) h, Option.bind_some, if_true,
    requireNonNull, Java.pure_apply, connectShare, ho.connects file, copy, Java.get_apply,
    ho.copies file, Java.set_apply, Function.update_self]

/-- Blocks end when every builder has a text; otherwise they never end. -/
theorem sendBlocks_faultless {files : List ConfigFile} (hnodup : files.Nodup) (w : World) :
    (∀ file ∈ files, ∃ text, textOf w.jvm file = some text) ∧
        (∃ w', sendBlocks o (some ⟨⟩) files w = some (.ok (), w')) ∨
      (∃ file ∈ files, textOf w.jvm file = none) ∧ sendBlocks o (some ⟨⟩) files w = none := by
  induction files generalizing w with
  | nil => exact .inl ⟨fun file hin => absurd hin List.not_mem_nil, w, rfl⟩
  | cons file files ih =>
      rw [sendBlocks, Java.bind_apply]
      cases hbuild : w.jvm.buildFile file true with
      | none =>
          refine .inr ⟨⟨file, List.mem_cons_self, ?_⟩, ?_⟩
          · rw [textOf, hbuild]
            rfl
          · rw [sendFile_never _ (ho.opens file) hbuild]
            rfl
      | some r =>
          obtain ⟨r, jvm⟩ := r
          obtain ⟨text, rfl⟩ := exists_of_buildFile hbuild
          obtain ⟨w₁, hfirst, hjvm⟩ := sendFile_of_text ho hbuild
          have htext := textOf_of_buildFile hbuild
          have hrest : ∀ other ∈ files, textOf w₁.jvm other = textOf w.jvm other := by
            intro other hin
            have hne : other ≠ file := by
              rintro rfl
              exact (List.nodup_cons.mp hnodup).1 hin
            rw [hjvm]
            exact textOf_other hne hbuild
          rw [hfirst, Option.bind_some]
          obtain ⟨htexts, w', hrun⟩ | ⟨⟨other, hin, hnone⟩, hrun⟩ := ih hnodup.of_cons w₁
          · refine .inl ⟨fun other hin => ?_, w', hrun⟩
            obtain rfl | hin := List.mem_cons.mp hin
            · exact ⟨text, htext⟩
            · rw [← hrest other hin]
              exact htexts other hin
          · refine .inr ⟨⟨other, List.mem_cons_of_mem _ hin, ?_⟩, hrun⟩
            rw [← hrest other hin]
            exact hnone

/-- **A call without failures** returns `true` with the texts of the four builders on the
share, or never returns. -/
theorem sendFiles_faultless (w : World) :
    (∃ w', sendFiles o w = some (.ok true, w') ∧
        ∀ file, ∃ text, textOf w.jvm file = some text ∧
          w'.share file.destination = some text) ∨
      (∃ file, textOf w.jvm file = none) ∧ sendFiles o w = none := by
  rw [sendFiles_apply, ho.authenticates, if_pos rfl]
  obtain ⟨-, w', hrun⟩ | ⟨⟨file, -, hnone⟩, hrun⟩ := sendBlocks_faultless ho ConfigFile.nodup_all w
  · rw [hrun]
    refine .inl ⟨w', rfl, fun file => ?_⟩
    exact (share_of_sendBlocks ho.opens ConfigFile.nodup_all hrun file).1 file.mem_all
  · rw [hrun]
    exact .inr ⟨⟨file, hnone⟩, rfl⟩

end Faultless

/-- The blocks of two lists of files, one after the other. -/
theorem sendBlocks_append (o : Outcomes) (session : Option Session)
    (before after : List ConfigFile) (w : World) :
    sendBlocks o session (before ++ after) w = (sendBlocks o session before w).bind fun r =>
      match r.1 with
      | .ok () => sendBlocks o session after r.2
      | .error e => some (.error e, r.2) := by
  induction before generalizing w with
  | nil => rfl
  | cons file before ih =>
      rw [List.cons_append, sendBlocks, sendBlocks, Java.bind_apply, Java.bind_apply,
        Option.bind_assoc]
      congr 1
      funext r
      obtain ⟨_ | _, w₁⟩ := r
      · rfl
      · exact ih w₁

/-- What a call of `sendFiles` with a session makes of the world behind its first blocks. -/
theorem sendFiles_of_blocks {o : Outcomes} {before after : List ConfigFile} {w w' : World}
    (hauth : o.authenticates = true) (hall : before ++ after = ConfigFile.all)
    (h : sendBlocks o (some ⟨⟩) before w = some (.ok (), w')) :
    sendFiles o w = (sendBlocks o (some ⟨⟩) after w').bind fun r =>
      match r.1 with
      | .ok () => some (.ok true, r.2)
      | .error .io => some (.ok false, r.2)
      | .error .nullPointer => some (.error .nullPointer, r.2) := by
  have hrun : sendBlocks o (some ⟨⟩) ConfigFile.all w = sendBlocks o (some ⟨⟩) after w' := by
    have happend := sendBlocks_append o (some ⟨⟩) before after w
    rw [hall, h] at happend
    exact happend
  rw [sendFiles_apply, hauth, if_pos rfl]
  exact congrArg (fun r => Option.bind r _) hrun

/-! ## References on the share -/

/-- The items that the rules file and the sitemap file on the share refer to are declared in
the items file on the share. -/
def ReferencesClosed (share : Files) : Prop :=
  ∃ items rules sitemap,
    (share ConfigFile.items.destination).bind readItems = some items ∧
    (share ConfigFile.rules.destination).bind readRules = some rules ∧
    (share ConfigFile.sitemap.destination).bind readSitemap = some sitemap ∧
    (∀ r ∈ rules, ∀ x ∈ r.items, x ∈ items.map Item.name) ∧
    ∀ x ∈ sitemap.shown, x ∈ items.map Item.name

/-- A file on the share is the one a first call writes for a configuration. -/
def HoldsFile (share : Files) (cfg : Config) (file : ConfigFile) : Prop :=
  ∃ text, generated cfg file = some text ∧ share file.destination = some text

section Mixed

variable {share : Files} {itemsCfg rulesCfg sitemapCfg : Config}

/-- The references on a share whose files come from different configurations. -/
theorem referencesClosed_iff (hitems : HoldsFile share itemsCfg .items)
    (hrules : HoldsFile share rulesCfg .rules) (hsitemap : HoldsFile share sitemapCfg .sitemap) :
    ReferencesClosed share ↔ apartments rulesCfg.number ⊆ apartments itemsCfg.number ∧
      apartments sitemapCfg.number ⊆ apartments itemsCfg.number := by
  obtain ⟨itemsText, hitems, hitemsShare⟩ := hitems
  obtain ⟨rulesText, hrules, hrulesShare⟩ := hrules
  obtain ⟨sitemapText, hsitemap, hsitemapShare⟩ := hsitemap
  obtain ⟨-, rfl⟩ := eq_fileText hitems nofun
  obtain ⟨-, rfl⟩ := eq_fileText hrules nofun
  obtain ⟨-, rfl⟩ := eq_fileText hsitemap nofun
  rw [ReferencesClosed, hitemsShare, hrulesShare, hsitemapShare, Option.bind_some,
    Option.bind_some, Option.bind_some, readItems_items, readRules_rules, readSitemap_sitemap]
  constructor
  · rintro ⟨items, rules, sitemap, ⟨⟩, ⟨⟩, ⟨⟩, hin, hshown⟩
    exact ⟨rules_declared_iff.mp hin, shown_declared_iff.mp hshown⟩
  · rintro ⟨hin, hshown⟩
    exact ⟨_, _, _, rfl, rfl, rfl, rules_declared_iff.mpr hin, shown_declared_iff.mpr hshown⟩

end Mixed

/-- The apartments of one number are among those of another when the number is not greater. -/
theorem apartments_subset_iff {m n : Int32} (hm : 0 ≤ m) (hn : 0 ≤ n) :
    apartments m ⊆ apartments n ↔ m ≤ n := by
  have hm' := Int32.le_iff_toInt_le.mp hm
  have hn' := Int32.le_iff_toInt_le.mp hn
  rw [Int32.toInt_zero] at hm' hn'
  rw [Int32.le_iff_toInt_le]
  constructor
  · intro h
    by_contra hlt
    have hlast : m.toNatClampNeg ∈ apartments m := by
      rw [mem_apartments, Int32.toNatClampNeg]
      omega
    have hmem := mem_apartments.mp (h hlast)
    rw [Int32.toNatClampNeg, Int32.toNatClampNeg] at hmem
    omega
  · intro h i hi
    rw [mem_apartments, Int32.toNatClampNeg] at hi ⊢
    omega

/-- **Between the uploads** of a call of `sendFiles`, from a share that holds the files of
an old configuration: the references on the share are closed exactly when the number of
apartments has not become smaller, or no file has been copied yet, or all four have. -/
theorem uploads_closed_iff (o : Outcomes) (old new : Config) (w w' : World)
    (before : List ConfigFile) (hopens : ∀ file, o.opens file = true)
    (hold : Holds w.share old) (hm : 0 ≤ old.number) (hn : 0 ≤ new.number)
    (hjvm : w.jvm = Jvm.fresh new) (hbefore : before <+: ConfigFile.all)
    (h : sendBlocks o (some ⟨⟩) before w = some (.ok (), w')) :
    ReferencesClosed w'.share ↔
      old.number ≤ new.number ∨ before = [] ∨ before = ConfigFile.all := by
  have hshare := share_of_sendBlocks hopens (hbefore.sublist.nodup ConfigFile.nodup_all) h
  have hfile : ∀ file, HoldsFile w'.share (if file ∈ before then new else old) file := by
    intro file
    by_cases hin : file ∈ before
    · rw [if_pos hin]
      obtain ⟨text, htext, hdest⟩ := (hshare file).1 hin
      rw [hjvm, textOf_fresh] at htext
      exact ⟨text, htext, hdest⟩
    · rw [if_neg hin]
      obtain ⟨text, htext, hdest⟩ := hold file
      exact ⟨text, htext, by rw [(hshare file).2 hin, hdest]⟩
  rw [referencesClosed_iff (hfile .items) (hfile .rules) (hfile .sitemap)]
  have hcases : before ∈ ConfigFile.all.inits := (List.mem_inits _ _).mpr hbefore
  simp only [ConfigFile.all, List.inits, List.map_cons, List.map_nil, List.mem_cons,
    List.not_mem_nil, or_false] at hcases
  rcases hcases with rfl | rfl | rfl | rfl | rfl
  · simp
  · simp [apartments_subset_iff hm hn, ConfigFile.all]
  · simp [apartments_subset_iff hm hn, ConfigFile.all]
  · simp [apartments_subset_iff hm hn, ConfigFile.all]
  · simp [ConfigFile.all]

/-- Uploading the items of a larger house keeps all references closed. -/
theorem uploads_closed_growing :
    ∃ w', sendBlocks allSucceed (some ⟨⟩) [.items]
        (startWorld openHabIni (shareOf { openHabIni with number := 2 })) = some (.ok (), w') ∧
      ReferencesClosed w'.share := by
  have hnodup : [ConfigFile.items].Nodup := by decide
  obtain ⟨w', hrun, -⟩ := sendBlocks_eq (o := allSucceed) hnodup
    (w := startWorld openHabIni (shareOf { openHabIni with number := 2 }))
    fun file _ _ => renders_openHabIni file
  refine ⟨w', hrun, ?_⟩
  exact (uploads_closed_iff allSucceed { openHabIni with number := 2 } openHabIni _ w' [.items]
    (fun _ => rfl) (holds_shareOf (by decide) (by decide)) (by decide) (by decide) rfl
    ⟨[.things, .rules, .sitemap], rfl⟩ hrun).mpr (.inl (by decide))

/-- From two apartments to one: with the new items on the share, the rules and the sitemap
still refer to the items of the second apartment. -/
theorem uploads_dangling :
    ∃ w', Holds (shareOf { openHabIni with number := 2 }) { openHabIni with number := 2 } ∧
      sendBlocks allSucceed (some ⟨⟩) [.items] (startWorld { openHabIni with number := 1 }
        (shareOf { openHabIni with number := 2 })) = some (.ok (), w') ∧
      ¬ ReferencesClosed w'.share := by
  have hold : Holds (shareOf { openHabIni with number := 2 }) { openHabIni with number := 2 } :=
    holds_shareOf (by decide) (by decide)
  have hnodup : [ConfigFile.items].Nodup := by decide
  obtain ⟨w', hrun, htransferred⟩ := sendBlocks_eq (o := allSucceed) hnodup
    (w := startWorld { openHabIni with number := 1 } (shareOf { openHabIni with number := 2 }))
    fun file _ _ => Jvm.renders_fresh (by decide) file fun _ => by decide
  refine ⟨w', hold, hrun, ?_⟩
  have hshare := share_of_sendBlocks (fun _ => rfl) hnodup hrun
  have hitems : HoldsFile w'.share { openHabIni with number := 1 } .items :=
    (hshare .items).1 List.mem_cons_self
  have hother : ∀ file, file ∉ [ConfigFile.items] →
      HoldsFile w'.share { openHabIni with number := 2 } file := by
    intro file hnot
    obtain ⟨text, htext, hdest⟩ := hold file
    exact ⟨text, htext, ((hshare file).2 hnot).trans hdest⟩
  rw [referencesClosed_iff hitems (hother .rules (by decide)) (hother .sitemap (by decide))]
  intro h
  exact absurd ((apartments_subset_iff (by decide) (by decide)).mp h.1) (by decide)

end OpenhabConfiguration.Analysis
