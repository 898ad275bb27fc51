import OpenhabConfiguration.Library.Lexing

/-!
# Recursive descent over token lists

A parser takes the tokens that are left and returns a value and the tokens after it, or
fails. The primitives read one token; `many` reads as many values as there are.

`Reads p F ts a` is the rule such a parser is used by: on `ts`, followed by anything that
satisfies `F`, the parser `p` returns `a` and stops right behind `ts`. `many_reads` lifts
it to a list of values read one after the other.
-/

set_option autoImplicit false

namespace Parsing

open Lexing

variable {α : Type}

/-- A parser over token lists. -/
abbrev Parser (α : Type) := StateT (List Token) Option α

/-- The given word. -/
def word (w : String) : Parser Unit
  | .word v :: ts => if v = w then some ((), ts) else none
  | _ => none

/-- The given symbol. -/
def sym (c : Char) : Parser Unit
  | .sym d :: ts => if d = c then some ((), ts) else none
  | _ => none

/-- Any word. -/
def ident : Parser String
  | .word v :: ts => some (v, ts)
  | _ => none

/-- A quoted string. -/
def str : Parser String
  | .str v :: ts => some (v, ts)
  | _ => none

/-- As many values as `p` reads, at most `fuel` of them. -/
def manyUpTo (p : Parser α) : ℕ → Parser (List α)
  | 0, ts => some ([], ts)
  | fuel + 1, ts =>
      match p ts with
      | none => some ([], ts)
      | some (a, ts') => (manyUpTo p fuel ts').map fun (l, ts'') => (a :: l, ts'')

/-- As many values as `p` reads: there are at most as many as tokens. -/
def many (p : Parser α) : Parser (List α) := fun ts => manyUpTo p ts.length ts

/-- The value `p` reads from all of the tokens. -/
def runAll (p : Parser α) (ts : List Token) : Option α :=
  match p ts with
  | some (a, []) => some a
  | _ => none

/-- A value that is read from all of the tokens leaves none of them. -/
theorem runAll_eq_some_iff {p : Parser α} {ts : List Token} {a : α} :
    runAll p ts = some a ↔ p ts = some (a, []) := by
  unfold runAll
  constructor
  · intro h
    split at h
    · rename_i hrun
      cases h
      exact hrun
    · cases h
  · intro h
    rw [h]

/-- On `ts` in front of a rest that satisfies `F`, the parser `p` returns `a` and stops
behind `ts`. -/
def Reads (p : Parser α) (F : List Token → Prop) (ts : List Token) (a : α) : Prop :=
  ∀ rest, F rest → p (ts ++ rest) = some (a, rest)

/-! ## Parsers one after the other -/

section Sequence

variable {β : Type} {F : List Token → Prop} {s t : List Token} {a : α} {b : β}

/-- What one parser reads and what the next one reads behind it, both read together. -/
theorem Reads.bind {p : Parser α} {q : α → Parser β} (hp : Reads p (fun _ => True) s a)
    (hq : Reads (q a) F t b) : Reads (p >>= q) F (s ++ t) b := by
  intro rest hrest
  show (p (s ++ t ++ rest)).bind (fun r => q r.1 r.2) = _
  rw [List.append_assoc, hp _ trivial]
  exact hq rest hrest

/-- What is made of a value that has been read. -/
theorem Reads.map {p : Parser α} (f : α → β) (hp : Reads p F s a) :
    Reads (p >>= fun a => pure (f a)) F s (f a) := by
  intro rest hrest
  show (p (s ++ rest)).bind (fun r => some (f r.1, r.2)) = _
  rw [hp rest hrest]
  rfl

/-- A word is read from its token. -/
theorem word_reads (w : String) : Reads (word w) F [.word w] () := fun _ _ => if_pos rfl

/-- A symbol is read from its token. -/
theorem sym_reads (c : Char) : Reads (sym c) F [.sym c] () := fun _ _ => if_pos rfl

/-- Any word is read from its token. -/
theorem ident_reads (w : String) : Reads ident F [.word w] w := fun _ _ => rfl

/-- A quoted string is read from its token. -/
theorem str_reads (v : String) : Reads str F [.str v] v := fun _ _ => rfl

end Sequence

/-! ## Values one after the other -/

/-- Values that are read one after the other are read by `manyUpTo`, up to a rest on which
the parser fails. -/
theorem manyUpTo_reads {ι : Type} {p : Parser α} {F : List Token → Prop} (l : List ι)
    (ts : ι → List Token) (a : ι → α) (hread : ∀ i ∈ l, Reads p F (ts i) (a i))
    (hstart : ∀ i ∈ l, ∀ rest, F (ts i ++ rest)) {rest : List Token} (hrest : F rest)
    (hstop : p rest = none) {fuel : ℕ} (hfuel : l.length ≤ fuel) :
    manyUpTo p fuel (l.flatMap ts ++ rest) = some (l.map a, rest) := by
  induction l generalizing fuel with
  | nil =>
      cases fuel with
      | zero => rfl
      | succ fuel => simp [manyUpTo, hstop]
  | cons i l ih =>
      obtain ⟨fuel, rfl⟩ : ∃ k, fuel = k + 1 := ⟨fuel - 1, by simp at hfuel; omega⟩
      have hF : F (l.flatMap ts ++ rest) := by
        cases l with
        | nil => simpa using hrest
        | cons j l =>
            rw [List.flatMap_cons, List.append_assoc]
            exact hstart j (by simp) _
      have hhead := hread i (by simp) _ hF
      have hlen : l.length ≤ fuel := by simpa using hfuel
      have htail := ih (fun j hj => hread j (by simp [hj])) (fun j hj => hstart j (by simp [hj]))
        hlen
      rw [List.flatMap_cons, List.append_assoc]
      simp [manyUpTo, hhead, htail]

/-- **Values read one after the other** are read by `many`, up to a rest on which the
parser fails, when none of them is read from no token at all. -/
theorem many_reads {ι : Type} {p : Parser α} {F : List Token → Prop} (l : List ι)
    (ts : ι → List Token) (a : ι → α) (hread : ∀ i ∈ l, Reads p F (ts i) (a i))
    (hstart : ∀ i ∈ l, ∀ rest, F (ts i ++ rest)) (hne : ∀ i ∈ l, ts i ≠ [])
    (rest : List Token) (hrest : F rest) (hstop : p rest = none) :
    many p (l.flatMap ts ++ rest) = some (l.map a, rest) := by
  apply manyUpTo_reads l ts a hread hstart hrest hstop
  have hlen : l.length ≤ (l.flatMap ts).length := by
    clear hread hstart
    induction l with
    | nil => simp
    | cons i l ih =>
        have hi : 0 < (ts i).length := List.length_pos_of_ne_nil (hne i (by simp))
        have hl := ih fun j hj => hne j (by simp [hj])
        simp only [List.length_cons, List.flatMap_cons, List.length_append]
        omega
  rw [List.length_append]
  omega

end Parsing
