import OpenhabConfiguration.Analysis.UploadSteps
import OpenhabConfiguration.Model.PrintWriter

/-!
# What a builder leaves in its file

A call of a builder that opens its file returns `true` and leaves what the disk has stored
of the text (`Jvm.writeFile_eq`), and no failure behind the opening is asked for. So it has
written the whole text exactly when the disk keeps every character of it
(`writes_whole_iff`).
-/

set_option autoImplicit false

namespace OpenhabConfiguration.Analysis

open BufferedWriter Model

variable {disk : Disk}

/-! ## The builders -/

section Prints

variable {σ : Type}

/-- A method prints the text of another one, and changes the static fields as it does. -/
def Prints (disk : Disk) (body : Printing σ Unit) (text : Method σ String) : Prop :=
  ∀ st w printed, Printed disk printed w →
    match text st with
    | none => body w st = none
    | some (s, st') => ∃ w', body w st = some (((), w'), st') ∧
        Printed disk (printed ++ s.toList) w'

/-- Printing what a method returns. -/
theorem prints_map {α : Type} (disk : Disk) (f : α → String) (method : Method σ α) :
    Prints disk (do printString disk (f (← liftM method))) (f <$> method) := by
  intro st w printed h
  have hbody : (do printString disk (f (← liftM method)) : Printing σ Unit) w st =
      (method st).map fun r => (((), PrintWriter.print disk (f r.1).toList w), r.2) := by
    show ((method st).bind fun r => some ((r.1, w), r.2)).bind _ = _
    cases method st <;> rfl
  rw [Method.map_apply, hbody]
  cases method st with
  | none => rfl
  | some r => exact ⟨_, rfl, print_printed (f r.1).toList h⟩

/-- A method that prints one text prints what the builder's method returns. -/
theorem prints_one (disk : Disk) (text : Method σ String) :
    Prints disk (do printString disk (← liftM text)) text := by
  have h := prints_map disk id text
  rw [id_map] at h
  exact h

/-- **A call of a builder** has the result and the static fields of `writeFile`, and leaves
what the disk stores of the text. -/
theorem writeFileOn_eq {body : Printing σ Unit} {text : Method σ String}
    (h : Prints disk body text) (old : Option String) (st : σ) :
    writeFileOn disk old body st = (writeFile disk.opens text st).map fun r =>
      match r.1 with
      | none => ((false, old), r.2)
      | some s => ((true, some (String.ofList (stored disk s.toList))), r.2) := by
  unfold writeFileOn
  cases hopens : disk.opens with
  | false => rfl
  | true =>
      rw [writeFile_true, if_pos rfl]
      have hrun := h st PrintWriter.new [] (printed_new disk)
      cases htext : text st with
      | none =>
          rw [htext] at hrun
          rw [Method.bind_apply, hrun]
          rfl
      | some r =>
          rw [htext] at hrun
          obtain ⟨w', hbody, hprinted⟩ := hrun
          rw [Method.bind_apply, hbody, Option.map_some, Option.map_some]
          have hfile := file_of_printed hprinted
          rw [List.nil_append] at hfile
          show some ((true, some (String.ofList _)), r.2) = some ((true, some (String.ofList _)), r.2)
          rw [hfile]

/-- The failures are recorded: when the writer of a call has none at the end, the whole text
is in the file. No builder asks it. -/
theorem file_of_not_trouble {body : Printing σ Unit} {text : Method σ String}
    (h : Prints disk body text) {st st' : σ} {w : PrintWriter Char}
    (hrun : body PrintWriter.new st = some (((), w), st'))
    (hclear : (PrintWriter.close disk (PrintWriter.flush disk w)).trouble = false) :
    ∃ s, text st = some (s, st') ∧
      (PrintWriter.close disk (PrintWriter.flush disk w)).file = s.toList := by
  have hprints := h st PrintWriter.new [] (printed_new disk)
  cases htext : text st with
  | none =>
      rw [htext, hrun] at hprints
      cases hprints
  | some r =>
      rw [htext] at hprints
      obtain ⟨w', hbody, hprinted⟩ := hprints
      rw [hrun] at hbody
      cases hbody
      rw [List.nil_append] at hprinted
      exact ⟨r.1, rfl, (file_of_printed hprinted).trans (stored_of_not_trouble hprinted hclear)⟩

end Prints

/-- The items are printed in three parts. -/
theorem prints_items (disk : Disk) :
    Prints disk (BuildItems.printFile disk) (do
      let house := (← get).groupHouse
      let groups ← BuildItems.getGroupApartments
      let apartments ← BuildItems.getBuildApartments
      return house ++ groups ++ apartments) := by
  intro st w printed h
  have hbody : BuildItems.printFile disk w st =
      (BuildItems.getGroupApartments st).bind fun g =>
        (BuildItems.getBuildApartments g.2).bind fun a =>
          some (((), (w.print disk st.groupHouse.toList |>.print disk g.1.toList |>.print disk a.1.toList)), a.2) := by
    show ((BuildItems.getGroupApartments st).bind fun g =>
      some ((g.1, w.print disk st.groupHouse.toList), g.2)).bind _ = _
    cases BuildItems.getGroupApartments st with
    | none => rfl
    | some g =>
        show ((BuildItems.getBuildApartments g.2).bind fun a =>
          some ((a.1, w.print disk st.groupHouse.toList |>.print disk g.1.toList), a.2)).bind _ =
            (BuildItems.getBuildApartments g.2).bind _
        cases BuildItems.getBuildApartments g.2 <;> rfl
  rw [hbody]
  simp only [Method.bind_apply, Method.get_apply, Option.bind_some, Method.pure_apply]
  cases BuildItems.getGroupApartments st with
  | none => rfl
  | some g =>
      simp only [Option.bind_some]
      cases BuildItems.getBuildApartments g.2 with
      | none => rfl
      | some a =>
          have hprinted := print_printed a.1.toList (print_printed g.1.toList
            (print_printed st.groupHouse.toList h))
          refine ⟨_, rfl, ?_⟩
          rw [String.toList_append, String.toList_append]
          simpa only [List.append_assoc] using hprinted

/-- The things are printed as one text, and a `null` as the word. -/
theorem prints_things (disk : Disk) :
    Prints disk (BuildThings.printFile disk) (BuildThings.print <$> BuildThings.buildBridge) :=
  prints_map disk BuildThings.print BuildThings.buildBridge

/-- The rules are printed as one text. -/
theorem prints_rules (disk : Disk) :
    Prints disk (BuildRules.printFile disk) BuildRules.buildRules :=
  prints_one disk BuildRules.buildRules

/-- The sitemap is printed as one text. -/
theorem prints_sitemap (disk : Disk) :
    Prints disk (BuildSitemap.printFile disk) BuildSitemap.buildSitemap :=
  prints_one disk BuildSitemap.buildSitemap

/-- **A call of a builder on a disk**, beside the call that only has its text. -/
theorem Jvm.writeFile_eq (disk : Disk) (file : ConfigFile) (old : Option String) (jvm : Jvm) :
    jvm.writeFile disk file old = (jvm.buildFile file disk.opens).map fun r =>
      match r.1 with
      | none => ((false, old), r.2)
      | some s => ((true, some (String.ofList (stored disk s.toList))), r.2) := by
  cases file with
  | items =>
      show (writeFileOn disk old (BuildItems.printFile disk) jvm.items).bind _ =
        ((BuildItems.buildItemsFile disk.opens jvm.items).bind _).map _
      rw [writeFileOn_eq (prints_items disk), BuildItems.buildItemsFile]
      obtain _ | ⟨_ | _, _⟩ := writeFile disk.opens _ jvm.items <;> rfl
  | things =>
      show (writeFileOn disk old (BuildThings.printFile disk) jvm.things).bind _ =
        ((BuildThings.buildThingsFile disk.opens jvm.things).bind _).map _
      rw [writeFileOn_eq (prints_things disk), BuildThings.buildThingsFile]
      obtain _ | ⟨_ | _, _⟩ := writeFile disk.opens _ jvm.things <;> rfl
  | rules =>
      show (writeFileOn disk old (BuildRules.printFile disk) jvm.rules).bind _ =
        ((BuildRules.buildRulesFile disk.opens jvm.rules).bind _).map _
      rw [writeFileOn_eq (prints_rules disk), BuildRules.buildRulesFile]
      obtain _ | ⟨_ | _, _⟩ := writeFile disk.opens _ jvm.rules <;> rfl
  | sitemap =>
      show (writeFileOn disk old (BuildSitemap.printFile disk) jvm.sitemap).bind _ =
        ((BuildSitemap.buildSitemapFile disk.opens jvm.sitemap).bind _).map _
      rw [writeFileOn_eq (prints_sitemap disk), BuildSitemap.buildSitemapFile]
      obtain _ | ⟨_ | _, _⟩ := writeFile disk.opens _ jvm.sitemap <;> rfl

/-! ## The whole file -/

/-- When a builder returns `true`, its file has the whole text that the call generates. -/
def WritesWhole (disk : Disk) (jvm : Jvm) (file : ConfigFile) : Prop :=
  ∀ old contents jvm', jvm.writeFile disk file old = some ((true, contents), jvm') →
    ∃ text, textOf jvm file = some text ∧ contents = some text

/-- A builder that ends and opens its file writes the whole text exactly if the disk keeps it. -/
theorem writes_whole_of_renders {jvm : Jvm} {file : ConfigFile} (h : jvm.Renders file)
    (hopens : disk.opens = true) :
    WritesWhole disk jvm file ↔ Keeps disk (jvm.rendered file).length := by
  have hcall : ∀ old, jvm.writeFile disk file old =
      some ((true, some (String.ofList (stored disk (jvm.rendered file).toList))),
        jvm.next file) := by
    intro old
    rw [Jvm.writeFile_eq, hopens, Jvm.buildFile_true h]
    rfl
  have htext := textOf_of_buildFile (Jvm.buildFile_true h)
  rw [← String.length_toList, ← stored_eq_iff]
  constructor
  · intro hwhole
    obtain ⟨text, htext', hcontents⟩ := hwhole none _ _ (hcall none)
    rw [htext] at htext'
    cases htext'
    have heq := congrArg String.toList (Option.some.inj hcontents)
    rw [String.toList_ofList] at heq
    exact heq
  · intro hstored old contents jvm' h'
    rw [hcall, hstored, String.ofList_toList] at h'
    cases h'
    exact ⟨_, htext, rfl⟩

/-- **A builder that returns `true` has written its whole file** exactly when its file does
not open, its loop never ends, or the disk keeps every character of the text. -/
theorem writes_whole_iff (disk : Disk) (jvm : Jvm) (file : ConfigFile)
    (hqos : file = .things → ValidQos jvm.things.qos) :
    WritesWhole disk jvm file ↔
      disk.opens = false ∨ ¬ jvm.Renders file ∨ Keeps disk (jvm.rendered file).length := by
  cases hopens : disk.opens with
  | false =>
      refine iff_of_true ?_ (.inl rfl)
      intro old contents jvm' h
      rw [Jvm.writeFile_eq, hopens, Jvm.buildFile_false] at h
      cases h
  | true =>
      by_cases hrenders : jvm.Renders file
      · simp [writes_whole_of_renders hrenders hopens, hrenders]
      · refine iff_of_true ?_ (.inr (.inl hrenders))
        intro old contents jvm' h
        rw [Jvm.writeFile_eq, hopens, Jvm.buildFile_never hrenders hqos] at h
        cases h

/-- A file that takes everything. -/
def goodDisk : Disk where
  opens := true
  bufferSize := 8192
  accepts := none
  flush := none
  close := none

/-- A good disk keeps the things file of the configuration of the repository. -/
theorem writes_whole_things : WritesWhole goodDisk (Jvm.fresh openHabIni) .things :=
  (writes_whole_iff goodDisk (Jvm.fresh openHabIni) .things fun _ => .inr (.inl rfl)).mpr
    (.inr (.inr ⟨nofun, nofun, nofun⟩))

/-- A disk that is full from the start. -/
def fullDisk : Disk := { goodDisk with accepts := some 0 }

/-- On a full disk `buildItemsFile` returns `true` and leaves an empty file. -/
theorem writes_nothing :
    (∃ jvm', (Jvm.fresh openHabIni).writeFile fullDisk .items none =
      some ((true, some ""), jvm')) ∧
    ¬ WritesWhole fullDisk (Jvm.fresh openHabIni) .items := by
  have hrenders : (Jvm.fresh openHabIni).Renders .items := by
    show openHabIni.number ≠ Int32.maxValue
    decide
  have hpos : 0 < ((Jvm.fresh openHabIni).rendered .items).length := by
    show 0 < ("// Group for whole House\nGroup House\n\n" ++ _ ++ _).length
    rw [String.length_append, String.length_append]
    have hhouse : 0 < "// Group for whole House\nGroup House\n\n".length := by decide
    omega
  have hfull : ¬ Takes fullDisk ((Jvm.fresh openHabIni).rendered .items).length := by
    intro htakes
    have hle := htakes 0 rfl
    omega
  constructor
  · have hstored : stored fullDisk ((Jvm.fresh openHabIni).rendered .items).toList = [] := by
      rw [stored, String.length_toList, if_neg hfull]
      rfl
    refine ⟨(Jvm.fresh openHabIni).next .items, ?_⟩
    rw [Jvm.writeFile_eq, show fullDisk.opens = true from rfl, Jvm.buildFile_true hrenders]
    simp only [Option.map_some, hstored, String.ofList_nil]
  · rw [writes_whole_of_renders hrenders rfl]
    exact fun hkeeps => hfull hkeeps.1

end OpenhabConfiguration.Analysis
