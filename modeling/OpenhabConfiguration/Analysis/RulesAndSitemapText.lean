import OpenhabConfiguration.Analysis.ItemsText

/-!
# The rules file and the sitemap file

The text `buildRulesFile` writes on its first call reads as the two rules of every
apartment (`readRules_rules`), and the text `buildSitemapFile` writes as one sitemap with
the Frame of every apartment (`readSitemap_sitemap`).
-/

set_option autoImplicit false

namespace OpenhabConfiguration.Analysis

open Lexing Interface Model

/-! ## The rules of one apartment -/

section Pieces

variable (rest : List Char)

/-- The name of a rule ends with its line. -/
theorem scan_ruleName_end : scan ("\"\n".toList ++ rest) .str = ([], tokens rest) := by
  rw [String.toList_ofList]
  rfl

/-- The line between the name and the trigger. -/
theorem tokens_when : tokens ("when\n".toList ++ rest) = .word "when" :: tokens rest := by
  rw [String.toList_ofList]
  rfl

/-- The trigger, up to the number of the apartment and behind it. -/
theorem tokens_trigger :
    tokens ("    Item Wohnraum".toList ++ rest) =
      [.word "Item", .word (String.ofList ("Wohnraum".toList ++ (scan rest .word).1))] ++
        (scan rest .word).2 := by
  rw [String.toList_ofList]
  rfl

/-- The line in front of the body. -/
theorem tokens_then : tokens ("then\n".toList ++ rest) = .word "then" :: tokens rest := by
  rw [String.toList_ofList]
  rfl

/-- The line behind the body. -/
theorem tokens_end : tokens ("end\n\n".toList ++ rest) = .word "end" :: tokens rest := by
  rw [String.toList_ofList]
  rfl

/-- The end of a Frame. -/
theorem tokens_close : tokens ("    \x7d\n".toList ++ rest) = .sym '\x7d' :: tokens rest := by
  rw [String.toList_ofList]
  rfl

end Pieces

/-- The text of the first rule declares the calculation of the costs. -/
theorem costRule_segment (i : ℕ) :
    Segment (BuildRules.costRule (Nat.repr i)).toList (electricityCostsTokens i) := by
  have hname : ∀ rest, tokens ("rule \"CalculateElectricityCosts".toList ++ rest) =
      [.word "rule",
        .str (String.ofList ("CalculateElectricityCosts".toList ++ (scan rest .str).1))] ++
        (scan rest .str).2 := by
    intro rest
    rw [String.toList_ofList]
    rfl
  have hupdate : ∀ rest, scan ("_Electricity received update\n".toList ++ rest) .word =
      ("_Electricity".toList, .word "received" :: .word "update" :: tokens rest) := by
    intro rest
    rw [String.toList_ofList]
    rfl
  have hcost : ∀ rest, tokens ("    Wohnraum".toList ++ rest) =
      .word (String.ofList ("Wohnraum".toList ++ (scan rest .word).1)) ::
        (scan rest .word).2 := by
    intro rest
    rw [String.toList_ofList]
    rfl
  have hcommand : ∀ rest, scan ("_Cost.sendCommand(Wohnraum".toList ++ rest) .word =
      ("_Cost".toList, [.sym '.', .word "sendCommand", .sym '(',
        .word (String.ofList ("Wohnraum".toList ++ (scan rest .word).1))] ++
        (scan rest .word).2) := by
    intro rest
    rw [String.toList_ofList]
    rfl
  have hprice : ∀ rest, scan ("_Electricity.state as DecimalType * 0.3)\n".toList ++ rest) .word =
      ("_Electricity".toList, [.sym '.', .word "state", .word "as", .word "DecimalType", .sym '*',
        .num "0.3", .sym ')'] ++ tokens rest) := by
    intro rest
    rw [String.toList_ofList]
    rfl
  intro rest
  unfold BuildRules.costRule
  simp only [String.toList_append, List.append_assoc, hname, scan_ruleName_end, tokens_when,
    tokens_trigger, hupdate, tokens_then, hcost, hcommand, hprice, tokens_end, scan_word_repr,
    scan_str_repr, List.append_nil, ofList_append_toList, String.ofList_toList]
  simp only [electricityCostsTokens, itemName, Quantity.suffix]
  rfl

/-- The text of the second rule declares the alarm. -/
theorem alarmRule_segment (i : ℕ) :
    Segment (BuildRules.alarmRule (Nat.repr i)).toList (burningAlarmTokens i) := by
  have hname : ∀ rest, tokens ("rule \"Burning-Alarm".toList ++ rest) =
      [.word "rule", .str (String.ofList ("Burning-Alarm".toList ++ (scan rest .str).1))] ++
        (scan rest .str).2 := by
    intro rest
    rw [String.toList_ofList]
    rfl
  have hupdate : ∀ rest, scan ("_CO2 received update\n".toList ++ rest) .word =
      ("_CO2".toList, .word "received" :: .word "update" :: tokens rest) := by
    intro rest
    rw [String.toList_ofList]
    rfl
  have hif : ∀ rest, tokens ("    if(Wohnraum".toList ++ rest) =
      [.word "if", .sym '(',
        .word (String.ofList ("Wohnraum".toList ++ (scan rest .word).1))] ++
        (scan rest .word).2 := by
    intro rest
    rw [String.toList_ofList]
    rfl
  have hco2 : ∀ rest, scan ("_CO2.state as DecimalType > 9 && Wohnraum".toList ++ rest) .word =
      ("_CO2".toList, [.sym '.', .word "state", .word "as", .word "DecimalType", .sym '>',
        .num "9", .sym '&', .sym '&',
        .word (String.ofList ("Wohnraum".toList ++ (scan rest .word).1))] ++
        (scan rest .word).2) := by
    intro rest
    rw [String.toList_ofList]
    rfl
  have htemperature : ∀ rest,
      scan ("_Temperature.state as DecimalType > 35)\x7b\n".toList ++ rest) .word =
      ("_Temperature".toList, [.sym '.', .word "state", .word "as", .word "DecimalType",
        .sym '>', .num "35", .sym ')', .sym '\x7b'] ++ tokens rest) := by
    intro rest
    rw [String.toList_ofList]
    rfl
  have hcommand : ∀ rest, tokens ("        Wohnraum".toList ++ rest) =
      .word (String.ofList ("Wohnraum".toList ++ (scan rest .word).1)) ::
        (scan rest .word).2 := by
    intro rest
    rw [String.toList_ofList]
    rfl
  have hfire : ∀ rest, scan ("_Fire.sendCommand(\"Feuer\")\n".toList ++ rest) .word =
      ("_Fire".toList, [.sym '.', .word "sendCommand", .sym '(', .str "Feuer", .sym ')'] ++
        tokens rest) := by
    intro rest
    rw [String.toList_ofList]
    rfl
  intro rest
  unfold BuildRules.alarmRule
  simp only [String.toList_append, List.append_assoc, hname, scan_ruleName_end, tokens_when,
    tokens_trigger, hupdate, tokens_then, hif, hco2, htemperature, hcommand, hfire, tokens_close,
    tokens_end, scan_word_repr, scan_str_repr, List.append_nil, ofList_append_toList,
    String.ofList_toList]
  simp only [burningAlarmTokens, itemName, Quantity.suffix]
  rfl

/-- **The rules file** of a first call declares the two rules of every apartment. -/
theorem readRules_rules (cfg : Config) :
    readRules (fileText cfg .rules) = some (houseRules (apartments cfg.number)) := by
  have htext : fileText cfg .rules = "" ++ BuildRules.rulesText cfg.number := rfl
  rw [htext, String.empty_append]
  apply readRules_eq
  apply Segment.tokens_eq
  apply Segment.join
  intro i _
  unfold BuildRules.rulesBlock
  rw [String.toList_append]
  exact (costRule_segment i).append (alarmRule_segment i)

/-! ## The Frame of one apartment -/

/-- The end of the line of an item in a Frame. -/
def shownEnd : Quantity → String
  | .reading .temperature => "_Temperature\n"
  | .reading .humidity => "_Humidity\n"
  | .reading .electricity => "_Electricity\n"
  | .reading .co2 => "_CO2\n"
  | .cost => "_Cost\n"
  | .fire => "_Fire\n"

/-- The line of an item in a Frame. -/
def shownLine (i : String) (q : Quantity) : String :=
  "        Text item=Wohnraum" ++ i ++ shownEnd q

/-- The line of an item in a Frame names the item. -/
theorem shownLine_segment (i : ℕ) (q : Quantity) :
    Segment (shownLine (Nat.repr i) q).toList
      [.word "Text", .word "item", .sym '=', .word (itemName i q)] := by
  have hitem : ∀ rest, tokens ("        Text item=Wohnraum".toList ++ rest) =
      [.word "Text", .word "item", .sym '=',
        .word (String.ofList ("Wohnraum".toList ++ (scan rest .word).1))] ++
        (scan rest .word).2 := by
    intro rest
    rw [String.toList_ofList]
    rfl
  have hend : ∀ rest, scan ((shownEnd q).toList ++ rest) .word = (q.suffix.toList, tokens rest) := by
    intro rest
    rcases q with (_ | _ | _ | _) | _ | _ <;> simp only [shownEnd, Quantity.suffix] <;>
      rw [String.toList_ofList] <;> rfl
  intro rest
  unfold shownLine
  simp only [String.toList_append, List.append_assoc, hitem, hend, scan_word_repr,
    ofList_append_toList, String.ofList_toList]
  rfl

/-- The Frame of an apartment is a header and one line for each quantity. -/
theorem frameBlock_eq (i : String) :
    BuildSitemap.frameBlock i =
      "\n     Frame label=\"Wohnraum " ++ i ++ "\"\x7b\n" ++
        String.join (Quantity.all.map (shownLine i)) ++ "    \x7d\n" := by
  have hline : ∀ q, shownLine i q = "        Text item=Wohnraum" ++ i ++ shownEnd q := fun _ => rfl
  unfold BuildSitemap.frameBlock
  simp only [Quantity.all, List.map_cons, List.map_nil, String.join_cons, String.join_nil, hline,
    shownEnd, String.append_assoc, String.empty_append]

/-- The text of a Frame declares the Frame of its apartment. -/
theorem frameBlock_segment (i : ℕ) :
    Segment (BuildSitemap.frameBlock (Nat.repr i)).toList (apartmentFrame i).tokens := by
  have hlabel : ∀ rest, tokens ("\n     Frame label=\"Wohnraum ".toList ++ rest) =
      [.word "Frame", .word "label", .sym '=',
        .str (String.ofList ("Wohnraum ".toList ++ (scan rest .str).1))] ++
        (scan rest .str).2 := by
    intro rest
    rw [String.toList_ofList]
    rfl
  have hopen : ∀ rest, scan ("\"\x7b\n".toList ++ rest) .str =
      ([], .sym '\x7b' :: tokens rest) := by
    intro rest
    rw [String.toList_ofList]
    rfl
  have hlines := Segment.join Quantity.all fun q _ => shownLine_segment i q
  intro rest
  rw [frameBlock_eq]
  simp only [String.toList_append, List.append_assoc, hlabel, scan_str_repr, hopen, hlines _,
    tokens_close, List.append_nil, ofList_append_toList, String.ofList_toList]
  simp only [Frame.tokens, apartmentFrame, List.flatMap_map]
  rfl

/-- **The sitemap file** of a first call shows the Frames of the apartments. -/
theorem readSitemap_sitemap (cfg : Config) :
    readSitemap (fileText cfg .sitemap) =
      some ⟨"apartment", "Wohnräume", (apartments cfg.number).map apartmentFrame⟩ := by
  have hhead : Segment "sitemap apartment label=\"Wohnräume\" \x7b".toList
      [.word "sitemap", .word "apartment", .word "label", .sym '=', .str "Wohnräume",
        .sym '\x7b'] := by
    intro rest
    rw [String.toList_ofList]
    rfl
  have hframes : Segment (BuildSitemap.lablesText cfg.number).toList _ :=
    Segment.join (apartments cfg.number) fun i _ => frameBlock_segment i
  have hclose : Segment "\x7d".toList [.sym '\x7d'] := by
    intro rest
    rw [String.toList_ofList]
    rfl
  have hall := (hhead.append hframes).append hclose
  have htext : fileText cfg .sitemap = "" ++ "sitemap apartment label=\"Wohnräume\" \x7b" ++
      ("" ++ BuildSitemap.lablesText cfg.number) ++ "\x7d" := rfl
  apply readSitemap_eq
  apply Segment.tokens_eq
  rw [htext]
  simp only [String.empty_append, String.toList_append]
  simpa [List.flatMap_map] using hall

end OpenhabConfiguration.Analysis
