import OpenhabConfiguration.Analysis.MainRuns
import OpenhabConfiguration.Analysis.SensorRouting
import OpenhabConfiguration.Analysis.TransferReport

/-!
# Which configuration openHAB is restarted on

`main` restarts openHAB after `sendFiles` has returned, whatever it has returned. The share
then holds the uploaded files of this run and the other files of earlier ones. A share that
has held one configuration holds one again exactly when the run has uploaded all files or
none, or has the number of apartments that the share was for (`consistent_start_iff`): the
other three files depend on this number alone. A sequence of runs restarts openHAB on single
configurations only, exactly when all its runs are of this kind.
-/

set_option autoImplicit false

namespace OpenhabConfiguration.Analysis

open Interface Model

/-! ## Shares that hold one configuration -/

/-- The four files on the share are those of a configuration. -/
def Holds (share : Files) (cfg : Config) : Prop :=
  ∀ file : ConfigFile, ∃ text, generated cfg file = some text ∧
    share file.destination = some text

/-- The four files on the share are those of one configuration. -/
def Consistent (share : Files) : Prop := ∃ cfg, ValidQos cfg.qos ∧ Holds share cfg

/-- For a valid `qos` the files of a configuration are its texts, once the loops end. -/
theorem Holds.iff_fileText {share : Files} {cfg : Config} (hqos : ValidQos cfg.qos) :
    Holds share cfg ↔ cfg.number ≠ Int32.maxValue ∧
      ∀ file : ConfigFile, share file.destination = some (fileText cfg file) := by
  constructor
  · intro h
    refine ⟨?_, fun file => ?_⟩
    · obtain ⟨text, htext, -⟩ := h .items
      exact (eq_fileText htext fun _ => hqos).1
    · obtain ⟨text, htext, hshare⟩ := h file
      rw [hshare, (eq_fileText htext fun _ => hqos).2]
  · rintro ⟨hmax, h⟩ file
    exact ⟨_, generated_eq hmax file fun _ => hqos, h file⟩

/-- A share with the texts of one configuration is consistent. -/
theorem consistent_of_fileText {share : Files} {cfg : Config} (hqos : ValidQos cfg.qos)
    (hmax : cfg.number ≠ Int32.maxValue)
    (h : ∀ file : ConfigFile, share file.destination = some (fileText cfg file)) :
    Consistent share :=
  ⟨cfg, hqos, (Holds.iff_fileText hqos).mpr ⟨hmax, h⟩⟩

/-- All files but the things file depend on the apartments alone. -/
theorem fileText_congr {cfg cfg' : Config} (h : apartments cfg.number = apartments cfg'.number)
    {file : ConfigFile} (hfile : file ≠ .things) : fileText cfg file = fileText cfg' file := by
  cases file with
  | items =>
      have htext : ∀ cfg : Config, fileText cfg .items =
          "// Group for whole House\nGroup House\n\n" ++
            ("" ++ ("// Group per apartment\n" ++ String.join ((apartments cfg.number).map
              fun i => BuildItems.groupLine (Nat.repr i)) ++ "\n")) ++
            ("" ++ String.join ((apartments cfg.number).map
              fun i => BuildItems.apartmentBlock (Nat.repr i))) := fun _ => rfl
      rw [htext, htext, h]
  | things => exact absurd rfl hfile
  | rules =>
      have htext : ∀ cfg : Config, fileText cfg .rules = "" ++ String.join
          ((apartments cfg.number).map fun i => BuildRules.rulesBlock (Nat.repr i)) := fun _ => rfl
      rw [htext, htext, h]
  | sitemap =>
      have htext : ∀ cfg : Config, fileText cfg .sitemap =
          "" ++ "sitemap apartment label=\"Wohnräume\" \x7b" ++ ("" ++ String.join
            ((apartments cfg.number).map fun i => BuildSitemap.frameBlock (Nat.repr i))) ++
            "\x7d" := fun _ => rfl
      rw [htext, htext, h]

/-- Two numbers with equally many apartments have the same apartments. -/
theorem apartments_eq_of_length {m n : Int32}
    (h : (apartments m).length = (apartments n).length) : apartments m = apartments n := by
  rw [apartments, apartments, List.length_range', List.length_range'] at h
  rw [apartments, apartments, h]

/-- Every file shows the apartments it is for. -/
theorem apartments_eq_of_fileText {cfg cfg' : Config} {file : ConfigFile}
    (h : fileText cfg file = fileText cfg' file) :
    apartments cfg.number = apartments cfg'.number := by
  apply apartments_eq_of_length
  cases file with
  | items =>
      have hread := readItems_items cfg
      rw [h, readItems_items, Option.some.injEq] at hread
      have hlen := congrArg List.length hread
      simp [houseItems, Quantity.all, List.length_flatMap] at hlen
      omega
  | things =>
      have hread := readThings_things cfg
      rw [h, readThings_things, Option.some.injEq] at hread
      simpa using (congrArg (fun b => b.things.length) hread).symm
  | rules =>
      have hread := readRules_rules cfg
      rw [h, readRules_rules, Option.some.injEq] at hread
      have hlen := congrArg List.length hread
      simp [houseRules, List.length_flatMap] at hlen
      omega
  | sitemap =>
      have hread := readSitemap_sitemap cfg
      rw [h, readSitemap_sitemap, Option.some.injEq] at hread
      simpa using (congrArg (fun s => s.frames.length) hread).symm

/-! ## Runs from a share that holds one configuration -/

/-- The run uploads no file or all of them, or it has the number of apartments that the
share is for. -/
def Safe (share : Files) (r : Run) : Prop :=
  r.uploads = [] ∨ (∀ file, file ∈ r.uploads) ∨
    ∃ cfg, ValidQos cfg.qos ∧ Holds share cfg ∧ apartments cfg.number = apartments r.cfg.number

/-- **One run** from a share that holds one configuration leaves such a share if and only
if the run is safe. -/
theorem consistent_start_iff {r : Run} {w w' : World} (hqos : ValidQos r.cfg.qos)
    (hleaves : CopiesLeave r.outcomes) (hstart : Consistent w.share) (h : r.start w = some w') :
    Consistent w'.share ↔ Safe w.share r := by
  obtain ⟨-, hmax, hshare⟩ := start_spec hqos hleaves h
  obtain ⟨old, hqosOld, hold⟩ := hstart
  obtain ⟨hmaxOld, hold'⟩ := (Holds.iff_fileText hqosOld).mp hold
  constructor
  · rintro ⟨new, hqosNew, hnew⟩
    obtain ⟨-, hnew⟩ := (Holds.iff_fileText hqosNew).mp hnew
    by_cases hnone : r.uploads = []
    · exact .inl hnone
    by_cases hall : ∀ file, file ∈ r.uploads
    · exact .inr (.inl hall)
    -- a file of this run and a file of the old configuration agree on the apartments
    obtain ⟨file, hin⟩ := List.exists_mem_of_ne_nil _ hnone
    obtain ⟨other, hout⟩ := not_forall.mp hall
    have hfile := hshare file
    rw [if_pos hin, hnew, Option.some.injEq] at hfile
    have hother := hshare other
    rw [if_neg hout, hnew, hold', Option.some.injEq] at hother
    refine .inr (.inr ⟨old, hqosOld, hold, ?_⟩)
    rw [← apartments_eq_of_fileText hother, apartments_eq_of_fileText hfile]
  · rintro (hnone | hall | ⟨cfg, hqosCfg, hcfg, hsame⟩)
    · refine consistent_of_fileText hqosOld hmaxOld fun file => ?_
      rw [hshare, hnone, if_neg (by simp), hold']
    · have hne : r.uploads ≠ [] := List.ne_nil_of_mem (hall .items)
      refine consistent_of_fileText hqos (hmax hne).1 fun file => ?_
      rw [hshare, if_pos (hall file)]
    · obtain ⟨hmaxCfg, hcfg⟩ := (Holds.iff_fileText hqosCfg).mp hcfg
      -- the things file decides between the two configurations
      by_cases hthings : .things ∈ r.uploads
      · have hmaxNew := (hmax (List.ne_nil_of_mem hthings)).1
        refine consistent_of_fileText hqos hmaxNew fun file => ?_
        by_cases hin : file ∈ r.uploads
        · rw [hshare, if_pos hin]
        · have hne : file ≠ .things := fun heq => hin (heq ▸ hthings)
          rw [hshare, if_neg hin, hcfg, fileText_congr hsame hne]
      · refine consistent_of_fileText hqosCfg hmaxCfg fun file => ?_
        by_cases hin : file ∈ r.uploads
        · have hne : file ≠ .things := fun heq => hthings (heq ▸ hin)
          rw [hshare, if_pos hin, fileText_congr hsame hne]
        · rw [hshare, if_neg hin, hcfg]

/-- Every run of a sequence is safe on the share it starts from. -/
def AllSafe : List Run → World → Prop
  | [], _ => True
  | r :: rs, w => Safe w.share r ∧ ∀ w', r.start w = some w' → AllSafe rs w'

/-- Behind more runs, the trace of the restarts has only grown. -/
theorem restarts_extend {rs : List Run} {w w' : World} (hvalid : ∀ r ∈ rs, ValidQos r.cfg.qos)
    (hleaves : ∀ r ∈ rs, CopiesLeave r.outcomes) (h : deploy rs w = some w') :
    w.restarts <+: w'.restarts := by
  induction rs generalizing w with
  | nil =>
      cases h
      exact List.prefix_refl _
  | cons r rs ih =>
      obtain ⟨w₁, hrun, hrest⟩ := Option.bind_eq_some_iff.mp h
      have hlater := ih (fun r hr => hvalid r (List.mem_cons_of_mem _ hr))
        (fun r hr => hleaves r (List.mem_cons_of_mem _ hr)) hrest
      obtain ⟨hlog, -, -⟩ := start_spec (hvalid r List.mem_cons_self)
        (hleaves r List.mem_cons_self) hrun
      refine List.IsPrefix.trans ?_ hlater
      rcases hlog with hsame | hnew
      · exact hsame ▸ List.prefix_refl _
      · exact hnew ▸ List.prefix_append _ _

/-- The restarts of a sequence of runs, as far as one run and the rest of the sequence
account for them. -/
theorem restarts_consistent_cons {r : Run} {w w₁ : World} (hqos : ValidQos r.cfg.qos)
    (hleaves : CopiesLeave r.outcomes) (hstart : Consistent w.share)
    (hrestarts : ∀ share ∈ w.restarts, Consistent share) (h : r.start w = some w₁) :
    (∀ share ∈ w₁.restarts, Consistent share) ↔ Safe w.share r := by
  have hiff := consistent_start_iff hqos hleaves hstart h
  obtain ⟨hlog, huploads, -⟩ := start_spec hqos hleaves h
  constructor
  · intro hall
    by_cases hnone : r.uploads = []
    · exact .inl hnone
    · refine hiff.mp (hall w₁.share ?_)
      rw [(huploads hnone).2]
      exact List.mem_append_right _ (List.mem_singleton_self _)
  · intro hsafe share hin
    rcases hlog with hsame | hnew
    · exact hrestarts share (hsame ▸ hin)
    · rw [hnew] at hin
      rcases List.mem_append.mp hin with hin | hin
      · exact hrestarts share hin
      · rw [List.mem_singleton.mp hin]
        exact hiff.mpr hsafe

/-- **openHAB is restarted on single configurations only**, in a sequence of runs from a
share that holds one configuration, if and only if every run is safe. -/
theorem deploy_consistent_iff (rs : List Run) (w w' : World)
    (hvalid : ∀ r ∈ rs, ValidQos r.cfg.qos) (hleaves : ∀ r ∈ rs, CopiesLeave r.outcomes)
    (hstart : Consistent w.share) (hrestarts : ∀ share ∈ w.restarts, Consistent share)
    (h : deploy rs w = some w') :
    (∀ share ∈ w'.restarts, Consistent share) ↔ AllSafe rs w := by
  induction rs generalizing w with
  | nil =>
      cases h
      exact iff_of_true hrestarts trivial
  | cons r rs ih =>
      obtain ⟨w₁, hrun, hrest⟩ := Option.bind_eq_some_iff.mp h
      have hqos := hvalid r List.mem_cons_self
      have hleave := hleaves r List.mem_cons_self
      have hvalid' := fun r hr => hvalid r (List.mem_cons_of_mem _ hr)
      have hleaves' := fun r hr => hleaves r (List.mem_cons_of_mem _ hr)
      have hfirst := restarts_consistent_cons hqos hleave hstart hrestarts hrun
      have hshare := consistent_start_iff hqos hleave hstart hrun
      constructor
      · intro hall
        have hbefore : ∀ share ∈ w₁.restarts, Consistent share := fun share hin =>
          hall share ((restarts_extend hvalid' hleaves' hrest).subset hin)
        have hsafe := hfirst.mp hbefore
        refine ⟨hsafe, fun w₂ hrun' => ?_⟩
        rw [hrun] at hrun'
        cases hrun'
        exact (ih w₁ hvalid' hleaves' (hshare.mpr hsafe) hbefore hrest).mp hall
      · intro hsafe
        exact (ih w₁ hvalid' hleaves' (hshare.mpr hsafe.1) (hfirst.mpr hsafe.1) hrest).mpr
          (hsafe.2 w₁ hrun)

/-! ## Two deployments -/

/-- The share of a configuration holds it. -/
theorem holds_shareOf {cfg : Config} (hmax : cfg.number ≠ Int32.maxValue)
    (hqos : ValidQos cfg.qos) : Holds (shareOf cfg) cfg :=
  (Holds.iff_fileText hqos).mpr ⟨hmax, shareOf_destination cfg⟩

/-- A run with a session ends, below the largest `int`. -/
theorem start_eq_some {r : Run} (hauth : r.outcomes.authenticates = true)
    (hmax : r.cfg.number ≠ Int32.maxValue) (hqos : ValidQos r.cfg.qos) (w : World) :
    ∃ w', r.start w = some w' := by
  have hrenders : ∀ file, r.outcomes.opens file = true → (r.world w).jvm.Renders file :=
    fun file _ => Jvm.renders_fresh hmax file fun _ => hqos
  obtain ⟨w₁, hrun, -⟩ := sendFiles_eq hauth hrenders
  obtain ⟨w', hstart, -⟩ := start_of_report hrun
  exact ⟨w', hstart⟩

/-- Runs with a session end one after the other, below the largest `int`. -/
theorem deploy_eq_some {rs : List Run} (h : ∀ r ∈ rs, r.outcomes.authenticates = true ∧
    r.cfg.number ≠ Int32.maxValue ∧ ValidQos r.cfg.qos) (w : World) :
    ∃ w', deploy rs w = some w' := by
  induction rs generalizing w with
  | nil => exact ⟨w, rfl⟩
  | cons r rs ih =>
      obtain ⟨hauth, hmax, hqos⟩ := h r List.mem_cons_self
      obtain ⟨w₁, hstart⟩ := start_eq_some hauth hmax hqos w
      obtain ⟨w', hrest⟩ := ih (fun r hr => h r (List.mem_cons_of_mem _ hr)) w₁
      exact ⟨w', Option.bind_eq_some_iff.mpr ⟨w₁, hstart, hrest⟩⟩

/-- A deployment for two apartments whose connection breaks behind the items file. -/
def brokenRun : Run where
  cfg := { openHabIni with number := 2 }
  outcomes := { allSucceed with connects := fun file => file = .items }

/-- Deployments for two apartments: one that cannot connect to any share, one without failures,
and the one whose connection breaks. -/
def changedHistory : List Run :=
  [⟨{ openHabIni with number := 2 }, { allSucceed with connects := fun _ => false }⟩,
    ⟨{ openHabIni with number := 2 }, allSucceed⟩, brokenRun]

/-- On a share for ten apartments, the three runs are safe: the broken one meets a share that is
for two apartments like itself. -/
theorem allSafe_changedHistory :
    AllSafe changedHistory (startWorld openHabIni (shareOf openHabIni)) := by
  have hqos : ValidQos openHabIni.qos := by decide
  refine ⟨.inl (by decide), fun w₁ _ => ⟨.inr (.inl fun file => ?_), fun w₂ hrun =>
    ⟨.inr (.inr ⟨{ openHabIni with number := 2 }, hqos, ?_, rfl⟩), fun _ _ => trivial⟩⟩⟩
  · cases file <;> decide
  · obtain ⟨-, -, hshare⟩ := start_spec hqos (fun _ _ => rfl) hrun
    refine (@Holds.iff_fileText _ { openHabIni with number := 2 } hqos).mpr
      ⟨by decide, fun file => ?_⟩
    rw [hshare, if_pos (by cases file <;> decide)]

/-- A changed configuration, a failed run and a broken one, and openHAB is restarted on single
configurations only. -/
theorem deploy_consistent_openHabIni :
    ∃ w', deploy changedHistory (startWorld openHabIni (shareOf openHabIni)) = some w' ∧
      ∀ share ∈ w'.restarts, Consistent share := by
  have hqos : ValidQos openHabIni.qos := by decide
  have hruns : ∀ r ∈ changedHistory, ValidQos r.cfg.qos ∧ CopiesLeave r.outcomes ∧
      r.outcomes.authenticates = true ∧ r.cfg.number ≠ Int32.maxValue := by
    simp only [changedHistory, List.forall_mem_cons]
    exact ⟨⟨hqos, fun _ _ => rfl, rfl, by decide⟩, ⟨hqos, fun _ _ => rfl, rfl, by decide⟩,
      ⟨hqos, fun _ _ => rfl, rfl, by decide⟩, fun _ hr => absurd hr List.not_mem_nil⟩
  obtain ⟨w', hdeploy⟩ := deploy_eq_some
    (fun r hr => ⟨(hruns r hr).2.2.1, (hruns r hr).2.2.2, (hruns r hr).1⟩)
    (startWorld openHabIni (shareOf openHabIni))
  refine ⟨w', hdeploy, (deploy_consistent_iff _ _ _ (fun r hr => (hruns r hr).1)
    (fun r hr => (hruns r hr).2.1) ?_ ?_ hdeploy).mpr allSafe_changedHistory⟩
  · exact ⟨openHabIni, hqos, holds_shareOf (by decide) hqos⟩
  · exact fun _ hin => absurd hin List.not_mem_nil

/-- On a share that holds the files for ten apartments, openHAB is restarted on the items
of two and the rules of ten. -/
theorem restart_on_mixed_share :
    ∃ w', deploy [brokenRun] (startWorld openHabIni (shareOf openHabIni)) = some w' ∧
      Consistent (shareOf openHabIni) ∧ ∃ share ∈ w'.restarts, ¬ Consistent share := by
  have hmax : openHabIni.number ≠ Int32.maxValue := by decide
  have hqos : ValidQos openHabIni.qos := by decide
  have hold : Consistent (shareOf openHabIni) := ⟨openHabIni, hqos, holds_shareOf hmax hqos⟩
  obtain ⟨w', hstart⟩ := start_eq_some (r := brokenRun) rfl (by decide) hqos
    (startWorld openHabIni (shareOf openHabIni))
  refine ⟨w', ?_, hold, ?_⟩
  · rw [deploy, hstart]
    rfl
  by_contra hnone
  have hall : ∀ share ∈ w'.restarts, Consistent share := fun share hin => by
    by_contra hmixed
    exact hnone ⟨share, hin, hmixed⟩
  have hnew : ∀ share ∈ (startWorld openHabIni (shareOf openHabIni)).restarts, Consistent share :=
    fun _ hin => absurd hin List.not_mem_nil
  have hsafe := (restarts_consistent_cons hqos (fun _ _ => rfl) hold hnew hstart).mp hall
  have huploads : brokenRun.uploads = [.items] := by decide
  rcases hsafe with hempty | hfull | ⟨cfg, hqosCfg, hcfg, hsame⟩
  · rw [huploads] at hempty
    cases hempty
  · have hthings := hfull .things
    rw [huploads] at hthings
    exact absurd hthings (by decide)
  · have hitems := ((Holds.iff_fileText hqosCfg).mp hcfg).2 .items
    rw [show (startWorld openHabIni (shareOf openHabIni)).share = shareOf openHabIni from rfl,
      shareOf_destination, Option.some.injEq] at hitems
    rw [← apartments_eq_of_fileText hitems] at hsame
    exact absurd (congrArg List.length hsame) (by decide)

end OpenhabConfiguration.Analysis
