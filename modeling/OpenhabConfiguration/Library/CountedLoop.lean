import Mathlib.Algebra.Group.Nat.Defs
import Mathlib.Data.List.Range

/-!
# Counted loops over a 32-bit index

`for (int i = 1; i <= bound; i++) s = body(i, s)` in a language whose `int` has 32 bits
and whose `i++` wraps. The loop is cut off after a number of tests of its condition
(`loopFrom`), and `forTo` allows as many tests as there are values of the index, which
is enough whenever the loop is left at all (`forTo_eq_some_iff`).

Below the largest `int` the loop runs its body at `1, 2, …, bound` in this order
(`forTo_eq_foldl`) and is left at the test behind (`loopFrom_one_eq`); at the largest `int`
the condition never fails and the loop is never left (`forTo_maxValue`).
-/

set_option autoImplicit false

namespace CountedLoop

variable {σ : Type}

/-- The loop entered at index `i` with state `s`, cut off after `fuel` tests of its
condition: `none` says that it has not been left by then. -/
def loopFrom (bound : Int32) (body : Int32 → σ → σ) : ℕ → Int32 → σ → Option σ
  | 0, _, _ => none
  | fuel + 1, i, s =>
      if i ≤ bound then loopFrom bound body fuel (i + 1) (body i s) else some s

/-- The loop entered at index `1`, with one test for every value an index can have. -/
@[irreducible] def forTo (bound : Int32) (body : Int32 → σ → σ) (s : σ) : Option σ :=
  loopFrom bound body (2 ^ 32) 1 s

/-- A loop that is left after some number of tests is left with the same state when
more tests are allowed. -/
theorem loopFrom_mono (bound : Int32) (body : Int32 → σ → σ) {fuel fuel' : ℕ}
    (hle : fuel ≤ fuel') (i : Int32) (s r : σ) (h : loopFrom bound body fuel i s = some r) :
    loopFrom bound body fuel' i s = some r := by
  induction fuel generalizing fuel' i s with
  | zero => simp [loopFrom] at h
  | succ fuel ih =>
      obtain ⟨fuel', rfl⟩ : ∃ k, fuel' = k + 1 := ⟨fuel' - 1, by omega⟩
      simp only [loopFrom] at h ⊢
      split at h
      · rename_i hi
        rw [if_pos hi]
        exact ih (by omega) _ _ h
      · rename_i hi
        rw [if_neg hi]
        exact h

/-- At the largest `int` the condition holds of every index, so no number of tests is
enough. -/
theorem loopFrom_maxValue (body : Int32 → σ → σ) (fuel : ℕ) (i : Int32) (s : σ) :
    loopFrom Int32.maxValue body fuel i s = none := by
  induction fuel generalizing i s with
  | zero => rfl
  | succ fuel ih =>
      have hi : i ≤ Int32.maxValue := Int32.le_iff_toInt_le.mpr i.toInt_le
      simp only [loopFrom, if_pos hi]
      exact ih _ _

/-- The index after that of `k` is that of `k + 1`, wrapped around or not. -/
theorem ofNat_add_one (k : ℕ) : Int32.ofNat k + 1 = Int32.ofNat (k + 1) := by
  rw [Int32.ofNat_add]
  rfl

/-- An index in the positive half is below the bound exactly when its number is. -/
theorem ofNat_le_iff {bound : Int32} {k : ℕ} (hk : k < 2 ^ 31) (hpos : 1 ≤ k) :
    Int32.ofNat k ≤ bound ↔ k ≤ bound.toNatClampNeg := by
  rw [Int32.le_iff_toInt_le, Int32.toInt_ofNat_of_lt hk, Int32.toNatClampNeg]
  omega

/-- From index `k` on, with `m` rounds to go, the loop runs its body at
`k, k + 1, …, k + m - 1` and is left after the next test. -/
theorem loopFrom_eq_foldl (bound : Int32) (body : Int32 → σ → σ) (m fuel k : ℕ) (s : σ)
    (hpos : 1 ≤ k) (hend : k + m = bound.toNatClampNeg + 1) (hk : k + m < 2 ^ 31)
    (hfuel : m < fuel) :
    loopFrom bound body fuel (Int32.ofNat k) s =
      some ((List.range' k m).foldl (fun s i => body (Int32.ofNat i) s) s) := by
  induction m generalizing fuel k s with
  | zero =>
      obtain ⟨fuel, rfl⟩ : ∃ f, fuel = f + 1 := ⟨fuel - 1, by omega⟩
      have hexit : ¬ Int32.ofNat k ≤ bound := by
        rw [ofNat_le_iff (by omega) hpos]
        omega
      simp [loopFrom, hexit]
  | succ m ih =>
      obtain ⟨fuel, rfl⟩ : ∃ f, fuel = f + 1 := ⟨fuel - 1, by omega⟩
      have hstay : Int32.ofNat k ≤ bound := by
        rw [ofNat_le_iff (by omega) hpos]
        omega
      simp only [loopFrom, if_pos hstay, ofNat_add_one]
      rw [ih fuel (k + 1) _ (by omega) (by omega) (by omega) (by omega)]
      simp [List.range'_succ]

/-- From index `k` on, the loop is not left by as many tests as there are rounds to go. -/
theorem loopFrom_eq_none (bound : Int32) (body : Int32 → σ → σ) (fuel k : ℕ) (s : σ)
    (hpos : 1 ≤ k) (hk : k + fuel ≤ bound.toNatClampNeg + 1) :
    loopFrom bound body fuel (Int32.ofNat k) s = none := by
  induction fuel generalizing k s with
  | zero => rfl
  | succ fuel ih =>
      have hlt := bound.toNatClampNeg_lt
      have hstay : Int32.ofNat k ≤ bound := by
        rw [ofNat_le_iff (by omega) hpos]
        omega
      simp only [loopFrom, if_pos hstay, ofNat_add_one]
      apply ih <;> omega

/-- **Below the largest `int`** the loop is left after one more test than the bound says,
and its body has run at `1, …, bound` in this order (not at all for a bound below `1`). -/
theorem loopFrom_one_eq {bound : Int32} (hb : bound ≠ Int32.maxValue)
    (body : Int32 → σ → σ) (fuel : ℕ) (s : σ) :
    loopFrom bound body fuel 1 s =
      if fuel ≤ bound.toNatClampNeg then none
      else some ((List.range' 1 bound.toNatClampNeg).foldl
        (fun s i => body (Int32.ofNat i) s) s) := by
  have hlt : bound.toInt < Int32.maxValue.toInt := by
    rcases Int.lt_or_eq_of_le bound.toInt_le with h | h
    · exact h
    · exact absurd (Int32.toInt_inj.mp h) hb
  rw [Int32.toInt_maxValue] at hlt
  have hn : bound.toNatClampNeg + 1 < 2 ^ 31 := by
    rw [Int32.toNatClampNeg]
    omega
  split
  · exact loopFrom_eq_none bound body fuel 1 s le_rfl (by omega)
  · exact loopFrom_eq_foldl bound body _ _ 1 s le_rfl (by omega) (by omega) (by omega)

/-- The same with as many tests as an index has values. -/
theorem forTo_eq_foldl {bound : Int32} (hb : bound ≠ Int32.maxValue)
    (body : Int32 → σ → σ) (s : σ) :
    forTo bound body s =
      some ((List.range' 1 bound.toNatClampNeg).foldl (fun s i => body (Int32.ofNat i) s) s) := by
  have hlt := bound.toNatClampNeg_lt
  rw [forTo, loopFrom_one_eq hb, if_neg (by omega)]

/-- **At the largest `int`** the loop is never left. -/
theorem forTo_maxValue (body : Int32 → σ → σ) (s : σ) :
    forTo Int32.maxValue body s = none := by
  rw [forTo, loopFrom_maxValue]

/-- The number of tests `forTo` allows is enough: what any number of tests reaches,
it reaches. -/
theorem forTo_eq_some_iff (bound : Int32) (body : Int32 → σ → σ) (s r : σ) :
    forTo bound body s = some r ↔ ∃ fuel, loopFrom bound body fuel 1 s = some r := by
  constructor
  · intro h
    rw [forTo] at h
    exact ⟨_, h⟩
  · rintro ⟨fuel, h⟩
    by_cases hb : bound = Int32.maxValue
    · rw [hb, loopFrom_maxValue] at h
      cases h
    · have hall := forTo_eq_foldl hb body s
      rw [forTo] at hall ⊢
      rcases Nat.le_total fuel (2 ^ 32) with hle | hle
      · exact loopFrom_mono bound body hle 1 s r h
      · rw [hall, ← loopFrom_mono bound body hle 1 s _ hall, h]

/-- Folding appends over a list appends the blocks' concatenation. -/
theorem foldl_append_eq_join {ι : Type} (block : ι → String) (l : List ι) (s : String) :
    l.foldl (fun s i => s ++ block i) s = s ++ String.join (l.map block) := by
  induction l generalizing s with
  | nil => simp
  | cons i l ih => simp [ih, String.append_assoc]

/-- A counter below `2 ^ 31` is printed with the digits of the number it stands for. -/
theorem toString_ofNat {k : ℕ} (hk : k < 2 ^ 31) : toString (Int32.ofNat k) = Nat.repr k := by
  have hval : toString (Int32.ofNat k) = Int.repr (Int32.ofNat k).toInt := rfl
  rw [hval, Int32.toInt_ofNat_of_lt hk, Int.repr_eq_if]
  simp

/-- A loop that appends one block a round, built from the printed index, is left with the
accumulator followed by the blocks of `1, …, bound`. -/
theorem loopFrom_append {bound : Int32} (hb : bound ≠ Int32.maxValue) (block : String → String)
    (fuel : ℕ) (s : String) :
    loopFrom bound (fun i s => s ++ block (toString i)) fuel 1 s =
      if fuel ≤ bound.toNatClampNeg then none
      else some (s ++ String.join
        ((List.range' 1 bound.toNatClampNeg).map fun i => block (Nat.repr i))) := by
  have hblocks : (List.range' 1 bound.toNatClampNeg).map
      (fun i => block (toString (Int32.ofNat i))) =
      (List.range' 1 bound.toNatClampNeg).map fun i => block (Nat.repr i) := by
    apply List.map_congr_left
    intro i hi
    have hlt := bound.toNatClampNeg_lt
    rw [List.mem_range'_1] at hi
    rw [toString_ofNat (by omega)]
  rw [loopFrom_one_eq hb, foldl_append_eq_join (fun i => block (toString (Int32.ofNat i))),
    hblocks]

/-- A loop that appends one block for each value of the counter ends with all of them in order. -/
theorem forTo_append {bound : Int32} (hb : bound ≠ Int32.maxValue) (block : String → String)
    (s : String) :
    forTo bound (fun i s => s ++ block (toString i)) s =
      some (s ++ String.join
        ((List.range' 1 bound.toNatClampNeg).map fun i => block (Nat.repr i))) := by
  have hlt := bound.toNatClampNeg_lt
  rw [forTo, loopFrom_append hb, if_neg (by omega)]

end CountedLoop
