import OpenhabConfiguration.Analysis.UploadSteps

/-!
# What becomes of a `qos` that is rejected, and of a host that is not a literal

With a `qos` that `buildBridge` accepts and a host that can stand between quotes, the things
file of a first call is one Bridge block: the header with this host and `qos`, and in its
braces the Things of the apartments (`oneBridge_things_iff`). A host with a quote, a backslash
or a line break in it is spliced into the header all the same. Every other `qos` is answered
by `null`, which `print` turns into text: `buildThingsFile` returns `true`, and `sendFiles`
replaces the things file on the share by the four characters `null` (`null_deployed`). So an
unusable configuration stays off the share exactly when it is none (`deploysUsable_iff`).
-/

set_option autoImplicit false

namespace OpenhabConfiguration.Analysis

open Lexing Interface Model

/-! ## Braces -/

/-- The number of open braces behind some tokens, with `n` of them open before these; none when
the tokens close a brace that is not open. A brace in a string or a comment is no token. -/
def openBraces (n : ℕ) : List Token → Option ℕ
  | [] => some n
  | .sym c :: ts =>
      if c = '\x7b' then openBraces (n + 1) ts
      else if c = '\x7d' then
        match n with
        | 0 => none
        | n + 1 => openBraces n ts
      else openBraces n ts
  | _ :: ts => openBraces n ts

/-- Reading `s` turns `a` open braces into `b`, whatever else is open. -/
def Nests (a : ℕ) (s : List Token) (b : ℕ) : Prop :=
  ∀ n, Reads (fun a => openBraces (n + a)) a s b

/-- Tokens one after the other open and close braces one after the other. -/
theorem Nests.append {a b c : ℕ} {s t : List Token} (hs : Nests a s b) (ht : Nests b t c) :
    Nests a (s ++ t) c := fun n => (hs n).append (ht n)

/-- Blocks that close the braces that they open do so one after the other. -/
theorem Nests.flatMap {ι : Type} (l : List ι) {s : ι → List Token} {a : ℕ}
    (h : ∀ i ∈ l, Nests a (s i) a) : Nests a (l.flatMap s) a :=
  fun n => Reads.flatMap l fun i hi => h i hi n

/-- A channel has no braces. -/
theorem channel_nests (a : ℕ) (c : Channel) : Nests a c.tokens a := fun _ _ => rfl

/-- A Thing closes the brace that it opens, and no other one. -/
theorem thing_nests (a : ℕ) (t : Thing) : Nests a t.tokens a := by
  have hhead : Nests a [.word "Thing", .word t.type, .word t.id, .str t.label, .sym '\x7b',
      .word "Channels", .sym ':'] (a + 1) := fun _ _ => rfl
  have hchannels := Nests.flatMap t.channels fun c _ => channel_nests (a + 1) c
  have hclose : Nests (a + 1) [.sym '\x7d'] a := fun _ _ => rfl
  exact hhead.append (hchannels.append hclose)

/-- The braces of a Bridge block match. -/
theorem openBraces_bridgeBlock (b : BridgeBlock) (label : String) :
    openBraces 0 (b.tokens label) = some 0 := by
  have hhead : Nests 0 (.word "Bridge" :: .word "mqtt" :: .sym ':' :: .word "broker" :: .sym ':' ::
      .word b.id :: .str label :: .sym '[' :: (b.broker.tokens ++ [.sym ']', .sym '\x7b'])) 1 :=
    fun _ _ => rfl
  have hthings := Nests.flatMap b.things fun t _ => thing_nests 1 t
  have hclose : Nests 1 [.sym '\x7d'] 0 := fun _ _ => rfl
  have hread := hhead.append (hthings.append hclose) 0 []
  rw [List.append_nil] at hread
  exact hread

/-! ## One Bridge block -/

/-- A text is one Bridge block: all braces in it match, and it reads as the header with the
configured host and `qos` and, in its braces, exactly the Things of the apartments. -/
structure OneBridge (cfg : Config) (text : String) : Prop where
  braces : openBraces 0 (tokens text.toList) = some 0
  block : ∃ block, readBridgeBlock text = some block ∧
    block.broker.host = cfg.openhab_host ∧ (block.broker.qos : ℤ) = cfg.qos.toInt ∧
    block.things.map Thing.id = (apartments cfg.number).map thingId

/-- **The things file** of a first call is one Bridge block exactly when its host can stand
between quotes. -/
theorem oneBridge_things_iff {cfg : Config} (hqos : ValidQos cfg.qos) :
    OneBridge cfg (fileText cfg .things) ↔ Quotable cfg.openhab_host := by
  rw [← readBridgeBlock_things_iff hqos]
  constructor
  · intro h
    obtain ⟨block, hread, hhost, -⟩ := h.block
    exact ⟨block, hread, hhost⟩
  · intro h
    have hhost := (readBridgeBlock_things_iff hqos).mp h
    refine ⟨?_, blockOf cfg, readBridgeBlock_things hhost hqos, rfl, ?_, ?_⟩
    · rw [tokens_things_eq hhost hqos]
      exact openBraces_bridgeBlock (blockOf cfg) brokerId
    · rcases hqos with hqos | hqos | hqos <;> simp only [blockOf, brokerOf, hqos] <;> rfl
    · simp only [blockOf, List.map_map]
      rfl

/-- The text `null` is no Bridge block. -/
theorem not_oneBridge_null (cfg : Config) : ¬ OneBridge cfg "null" := by
  intro h
  obtain ⟨block, hread, -⟩ := h.block
  have hnone : readBridgeBlock "null" = none := by decide
  rw [hnone] at hread
  cases hread

/-! ## The rejection -/

/-- `buildBridge` returns `null`.
SOURCE: buildThings.java:47 -/
def Rejected (cfg : Config) : Prop :=
  ∃ st, BuildThings.buildBridge (BuildThings.init cfg) = some (none, st)

/-- The file on the share that `sendFiles` replaces by the things file. -/
def thingsOnShare (w : World) : Option String := w.share ConfigFile.things.destination

/-- What `buildThingsFile` returns `true` for is one Bridge block, and a configuration that
`buildBridge` rejects makes it return `false` and leaves the share alone, for every earlier
content of the files. -/
structure DeploysUsable (cfg : Config) : Prop where
  written : ∀ text jvm, (Jvm.fresh cfg).buildFile .things true = some (some text, jvm) →
    OneBridge cfg text
  returns : Rejected cfg → ∃ jvm, (Jvm.fresh cfg).buildFile .things true = some (none, jvm)
  deployed : Rejected cfg → ∀ o w r w', Faultless o → w.jvm = Jvm.fresh cfg →
    sendFiles o w = some (r, w') → thingsOnShare w' = thingsOnShare w

variable {cfg : Config}

/-- The null reference is printed as a text, and the method returns `true`. -/
theorem buildFile_null {jvm : Jvm} (hqos : ¬ ValidQos jvm.things.qos) :
    jvm.buildFile .things true = some (some "null", jvm) := by
  have hcall : BuildThings.buildThingsFile true jvm.things = some (some "null", jvm.things) := by
    simp only [BuildThings.buildThingsFile, writeFile_true, Method.map_apply,
      BuildThings.buildBridge_eq_null hqos, Option.map_some, BuildThings.print, Option.getD_none]
  rw [Jvm.buildFile, hcall]
  rfl

/-- **A rejected `qos`**: a call of `sendFiles` without failures returns `true`, and the
things file on the share is the text `null`. -/
theorem null_deployed {o : Outcomes} (ho : Faultless o) {w : World} (hjvm : w.jvm = Jvm.fresh cfg)
    (hmax : cfg.number ≠ Int32.maxValue) (hqos : ¬ ValidQos cfg.qos) :
    ∃ w', sendFiles o w = some (.ok true, w') ∧ thingsOnShare w' = some "null" := by
  have hnull : textOf w.jvm .things = some "null" := by
    rw [hjvm]
    exact textOf_of_buildFile (buildFile_null hqos)
  obtain ⟨w', hrun, hshare⟩ | ⟨⟨file, hnone⟩, -⟩ := sendFiles_faultless ho w
  · obtain ⟨text, htext, hthings⟩ := hshare .things
    rw [hnull] at htext
    exact ⟨w', hrun, by rw [thingsOnShare, hthings, htext]⟩
  · by_cases hfile : file = .things
    · rw [hfile, hnull] at hnone
      cases hnone
    · have htext := generated_eq hmax file fun h => absurd h hfile
      rw [hjvm, textOf_fresh, htext] at hnone
      cases hnone

/-- A valid `qos` is not rejected. -/
theorem not_rejected (hqos : ValidQos cfg.qos) : ¬ Rejected cfg := by
  rintro ⟨st, hnull⟩
  by_cases hmax : cfg.number = Int32.maxValue
  · have hnone := @BuildThings.buildThingsFile_maxValue (BuildThings.init cfg) hmax hqos
    simp only [BuildThings.buildThingsFile, writeFile_true, Method.map_apply, hnull] at hnone
    cases hnone
  · rw [@BuildThings.buildBridge_eq (BuildThings.init cfg) hmax hqos] at hnull
    cases hnull

/-- A rejected `qos` is reported as built, and its `null` is deployed. -/
theorem not_deploysUsable (hqos : ¬ ValidQos cfg.qos) : ¬ DeploysUsable cfg := fun h =>
  not_oneBridge_null cfg (h.written _ _ (buildFile_null hqos))

/-- A host that can stand between quotes is necessary for a things file that is written. -/
theorem DeploysUsable.quotable (h : DeploysUsable cfg) (hqos : ValidQos cfg.qos)
    (hmax : cfg.number ≠ Int32.maxValue) : Quotable cfg.openhab_host := by
  obtain ⟨⟨text, jvm⟩, hbuild, htext⟩ :=
    Option.bind_eq_some_iff.mp (generated_eq hmax .things fun _ => hqos)
  dsimp only at htext
  subst htext
  exact (oneBridge_things_iff hqos).mp (h.written _ jvm hbuild)

/-- **An unusable configuration is never deployed** exactly when the `qos` is one that
`buildBridge` accepts and the host can stand between quotes. With the largest `int` of
apartments `buildThingsFile` does not return, whatever the host. -/
theorem deploysUsable_iff (cfg : Config) : DeploysUsable cfg ↔
    ValidQos cfg.qos ∧ (Quotable cfg.openhab_host ∨ cfg.number = Int32.maxValue) := by
  constructor
  · intro h
    have hqos : ValidQos cfg.qos := by
      by_contra hqos
      exact not_deploysUsable hqos h
    refine ⟨hqos, ?_⟩
    by_cases hmax : cfg.number = Int32.maxValue
    · exact .inr hmax
    · exact .inl (h.quotable hqos hmax)
  · rintro ⟨hqos, hhost⟩
    refine ⟨fun text jvm hbuild => ?_, fun h => absurd h (not_rejected hqos),
      fun h => absurd h (not_rejected hqos)⟩
    have htext : generated cfg .things = some text := textOf_of_buildFile hbuild
    obtain ⟨hmax, rfl⟩ := eq_fileText htext fun _ => hqos
    exact (oneBridge_things_iff hqos).mpr (hhost.resolve_right hmax)

/-- With `qos=3` the things file on the share becomes the text `null`. -/
theorem null_replaces_things :
    ¬ DeploysUsable { openHabIni with qos := 3 } ∧
    ∃ w', sendFiles allSucceed (startWorld { openHabIni with qos := 3 } (shareOf openHabIni)) =
        some (.ok true, w') ∧ thingsOnShare w' = some "null" := by
  have hqos : ¬ ValidQos { openHabIni with qos := 3 }.qos := by decide
  have hfaultless : Faultless allSucceed := ⟨rfl, fun _ => rfl, fun _ => rfl, fun _ => rfl⟩
  exact ⟨not_deploysUsable hqos, null_deployed hfaultless rfl (by decide) hqos⟩

end OpenhabConfiguration.Analysis
