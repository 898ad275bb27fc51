import OpenhabConfiguration.Analysis.GeneratedText
import OpenhabConfiguration.Model.Initialisation

/-!
# The five loops over the apartments

Each of the five loops counts `int i` from `1` while `i <= num`. For every `num` but the
largest `int` it is left after one more test of this condition than there are apartments,
and its method returns with one more block for each of them (`appends_iff`). For the
largest `int` the condition holds of every `i`.
-/

set_option autoImplicit false

namespace OpenhabConfiguration.Analysis

open CountedLoop Model

/-- The loops over the apartments, each by the accumulator it appends to.
SOURCE: buildItems.java:42-44, buildItems.java:50-71, buildThings.java:51-68,
buildRules.java:34-52, buildSitemap.java:45-55 -/
inductive Loop where
  | groupApartments
  | buildApartments
  | thingString
  | stringRules
  | stringLables
deriving DecidableEq, Repr

namespace Loop

/-- The bound of the loop. -/
def num (jvm : Jvm) : Loop → Int32
  | groupApartments => jvm.items.NUM
  | buildApartments => jvm.items.NUM
  | thingString => jvm.things.num
  | stringRules => jvm.rules.num
  | stringLables => jvm.sitemap.num

/-- The accumulator as the loop finds it. -/
def start (jvm : Jvm) : Loop → String
  | groupApartments => jvm.items.groupApartments ++ "// Group per apartment\n"
  | buildApartments => jvm.items.buildApartments
  | thingString => jvm.things.thingString
  | stringRules => jvm.rules.stringRules
  | stringLables => jvm.sitemap.stringLables

/-- The body of the loop. -/
def body (jvm : Jvm) : Loop → Int32 → String → String
  | groupApartments => fun i s => s ++ BuildItems.groupLine (toString i)
  | buildApartments => fun i s => s ++ BuildItems.apartmentBlock (toString i)
  | thingString => fun i s => BuildThings.thingRound jvm.things (toString i) s
  | stringRules => fun i s =>
      (s ++ BuildRules.costRule (toString i)) ++ BuildRules.alarmRule (toString i)
  | stringLables => fun i s => s ++ BuildSitemap.frameBlock (toString i)

/-- What the method appends behind the loop. -/
def rest : Loop → String
  | groupApartments => "\n"
  | _ => ""

/-- The accumulator behind a call of the method with the loop. -/
def call (jvm : Jvm) : Loop → Option String
  | groupApartments => (BuildItems.getGroupApartments jvm.items).map fun r => r.2.groupApartments
  | buildApartments => (BuildItems.getBuildApartments jvm.items).map fun r => r.2.buildApartments
  | thingString => (BuildThings.buildThings jvm.things).map fun r => r.2.thingString
  | stringRules => (BuildRules.buildRules jvm.rules).map fun r => r.2.stringRules
  | stringLables => (BuildSitemap.buildLables jvm.sitemap).map fun r => r.2.stringLables

/-- The block of one apartment. -/
def block (jvm : Jvm) : Loop → String → String
  | groupApartments => BuildItems.groupLine
  | buildApartments => BuildItems.apartmentBlock
  | thingString => BuildThings.thingBlock jvm.things
  | stringRules => BuildRules.rulesBlock
  | stringLables => BuildSitemap.frameBlock

/-- The number of apartments. -/
def rounds (jvm : Jvm) (loop : Loop) : ℕ := (max (loop.num jvm).toInt 0).toNat

/-- The accumulator with one more block for each of the apartments, in their order. -/
def appended (jvm : Jvm) (loop : Loop) : String :=
  loop.start jvm ++
    String.join ((List.range' 1 (loop.rounds jvm)).map fun i => loop.block jvm (Nat.repr i))

/-- The loop is left when its condition has been tested once more than there are
apartments, and one block has been appended for each of them. -/
structure Appends (jvm : Jvm) (loop : Loop) : Prop where
  left : ∀ tests, loopFrom (loop.num jvm) (loop.body jvm) tests 1 (loop.start jvm) =
    if tests ≤ loop.rounds jvm then none else some (loop.appended jvm)
  returned : loop.call jvm = some (loop.appended jvm ++ loop.rest)

variable (jvm : Jvm) (loop : Loop)

/-- The methods of the five loops run them. -/
theorem call_eq : loop.call jvm =
    (forTo (loop.num jvm) (loop.body jvm) (loop.start jvm)).map (· ++ loop.rest) := by
  have hfield : ∀ {σ : Type} (o : Option String) (f : String → String × σ) (field : σ → String)
      (rest : String), (∀ s, field (f s).2 = s ++ rest) →
      (o.bind fun s => some (f s)).map (fun r => field r.2) = o.map (· ++ rest) := by
    intro σ o f field rest h
    cases o with
    | none => rfl
    | some s => exact congrArg some (h s)
  cases loop with
  | groupApartments => exact hfield _ _ BuildItems.groupApartments _ fun _ => rfl
  | buildApartments =>
      exact hfield _ _ BuildItems.buildApartments _ fun _ => String.append_empty.symm
  | thingString => exact hfield _ _ BuildThings.thingString _ fun _ => String.append_empty.symm
  | stringRules => exact hfield _ _ BuildRules.stringRules _ fun _ => String.append_empty.symm
  | stringLables => exact hfield _ _ BuildSitemap.stringLables _ fun _ => String.append_empty.symm

/-- Each round appends the block of one apartment. -/
theorem body_eq : loop.body jvm = fun i s => s ++ loop.block jvm (toString i) := by
  cases loop with
  | groupApartments => rfl
  | buildApartments => rfl
  | thingString =>
      funext i s
      exact BuildThings.thingRound_eq jvm.things (toString i) s
  | stringRules =>
      funext i s
      exact String.append_assoc
  | stringLables => rfl

/-- The rounds are as many as the number says, and none if it is negative. -/
theorem rounds_eq : loop.rounds jvm = (loop.num jvm).toNatClampNeg := by
  rw [rounds, Int32.toNatClampNeg]
  omega

/-- For the largest `int` the condition never fails. -/
theorem never_left (hmax : loop.num jvm = Int32.maxValue) (tests : ℕ) :
    loopFrom (loop.num jvm) (loop.body jvm) tests 1 (loop.start jvm) = none := by
  rw [hmax]
  exact loopFrom_maxValue ..

/-- For the greatest number the condition never fails. -/
theorem not_appends (hmax : loop.num jvm = Int32.maxValue) : ¬ loop.Appends jvm := by
  intro h
  have hleft := h.left (loop.rounds jvm + 1)
  rw [never_left jvm loop hmax, if_neg (by omega)] at hleft
  cases hleft

/-- **Each of the five loops** appends one block for each apartment and is left, exactly
when the number of apartments is not the largest `int`. -/
theorem appends_iff : loop.Appends jvm ↔ loop.num jvm ≠ Int32.maxValue := by
  constructor
  · exact fun h hmax => not_appends jvm loop hmax h
  · intro hmax
    constructor
    · intro tests
      rw [body_eq, loopFrom_append hmax, ← rounds_eq]
      rfl
    · rw [call_eq, body_eq, forTo_append hmax, ← rounds_eq]
      rfl

end Loop

/-- The configuration of the repository, with the largest number of apartments that
`parseInt` accepts. -/
def largestHouse : Config := { openHabIni with number := Int32.maxValue }

/-- The first loop for the largest number of apartments is never left, and nothing is
returned. -/
theorem groups_never_left :
    Integer.parseInt (some "2147483647") = some largestHouse.number ∧
    (∀ tests, loopFrom (Loop.num (Jvm.fresh largestHouse) .groupApartments)
      (Loop.body (Jvm.fresh largestHouse) .groupApartments) tests 1
      (Loop.start (Jvm.fresh largestHouse) .groupApartments) = none) ∧
    ¬ Loop.Appends (Jvm.fresh largestHouse) .groupApartments :=
  ⟨by decide, Loop.never_left _ .groupApartments rfl, Loop.not_appends _ .groupApartments rfl⟩

end OpenhabConfiguration.Analysis
