import Mathlib.Data.List.Count

/-!
# Outputs of accumulators that are never reset

A system with one output for every key, where a call with a key returns the key's output
and changes the state. A call changes the outputs of no other key (`frame`); on its own key
some calls make the output grow, in some size, and others leave it as it is.

The calls of a sequence all return what a first call would have returned if and only if
every key whose output grows is called at most once (`outputs_const_iff`).
-/

set_option autoImplicit false

namespace Accumulators

/-- A system of outputs by key. `inv` holds of the states that calls lead to. -/
structure System (σ κ β : Type) where
  inv : σ → Prop
  out : σ → κ → β
  next : σ → κ → σ
  inv_next : ∀ s k, inv s → inv (next s k)
  frame : ∀ s k k', k' ≠ k → out (next s k) k' = out s k'

variable {σ κ β : Type} (S : System σ κ β)

/-- The outputs of a sequence of calls, with the keys they are called with. -/
def System.outputs : List κ → σ → List (κ × β)
  | [], _ => []
  | k :: ks, s => (k, S.out s k) :: System.outputs ks (S.next s k)

/-- The first call with a key returns what the key's output was at the beginning. -/
theorem System.first_output {ks : List κ} {k : κ} (hk : k ∈ ks) (s : σ) :
    (k, S.out s k) ∈ S.outputs ks s := by
  induction ks generalizing s with
  | nil => cases hk
  | cons k' ks ih =>
      by_cases heq : k = k'
      · subst heq
        exact List.mem_cons_self
      · rcases List.mem_cons.mp hk with hk | hk
        · exact absurd hk heq
        · have hrest := ih hk (S.next s k')
          rw [S.frame s k' k heq] at hrest
          exact List.mem_cons_of_mem _ hrest

section Growth

variable [DecidableEq κ] {size : β → ℕ} {grows : κ → Prop}

/-- A second call with a key whose output grows returns more than the first. -/
theorem System.second_output {k : κ}
    (hgrow : ∀ s, S.inv s → size (S.out s k) < size (S.out (S.next s k) k)) {ks : List κ}
    (hks : 2 ≤ ks.count k) {s : σ} (hs : S.inv s) :
    ∃ v, (k, v) ∈ S.outputs ks s ∧ size (S.out s k) < size v := by
  induction ks generalizing s with
  | nil => simp at hks
  | cons k' ks ih =>
      by_cases heq : k' = k
      · subst heq
        rw [List.count_cons_self] at hks
        have hmem : k' ∈ ks := List.count_pos_iff.mp (by omega)
        exact ⟨_, List.mem_cons_of_mem _ (S.first_output hmem _), hgrow s hs⟩
      · rw [List.count_cons_of_ne heq] at hks
        obtain ⟨v, hv, hsize⟩ := ih hks (S.inv_next s k' hs)
        rw [S.frame s k' k (Ne.symm heq)] at hsize
        exact ⟨v, List.mem_cons_of_mem _ hv, hsize⟩

/-- Calls whose growing keys occur once return given outputs, when the state has them for
all keys that are called. -/
theorem System.outputs_eq (hkeep : ∀ s k, S.inv s → ¬ grows k → S.out (S.next s k) k = S.out s k)
    {out : κ → β} {ks : List κ} (hks : ∀ k, grows k → ks.count k ≤ 1) {s : σ} (hs : S.inv s)
    (hout : ∀ k ∈ ks, S.out s k = out k) : ∀ p ∈ S.outputs ks s, p.2 = out p.1 := by
  induction ks generalizing s with
  | nil => intro p hp; cases hp
  | cons k ks ih =>
      intro p hp
      rcases List.mem_cons.mp hp with rfl | hp
      · exact hout k List.mem_cons_self
      refine ih (fun k' hk' => ?_) (S.inv_next s k hs) (fun k' hk' => ?_) p hp
      · exact Nat.le_trans List.count_le_count_cons (hks k' hk')
      · by_cases heq : k' = k
        · subst heq
          have hquiet : ¬ grows k' := by
            intro hgrows
            have hcount := hks k' hgrows
            rw [List.count_cons_self] at hcount
            have hpos := List.count_pos_iff.mpr hk'
            omega
          rw [hkeep s k' hs hquiet]
          exact hout k' List.mem_cons_self
        · rw [S.frame s k k' heq]
          exact hout k' (List.mem_cons_of_mem _ hk')

/-- **All calls return what a first call would have returned** if and only if no key whose
output grows is called twice. -/
theorem System.outputs_const_iff (size : β → ℕ) (grows : κ → Prop)
    (hgrow : ∀ s k, S.inv s → grows k → size (S.out s k) < size (S.out (S.next s k) k))
    (hkeep : ∀ s k, S.inv s → ¬ grows k → S.out (S.next s k) k = S.out s k)
    (ks : List κ) {s : σ} (hs : S.inv s) :
    (∀ p ∈ S.outputs ks s, p.2 = S.out s p.1) ↔ ∀ k, grows k → ks.count k ≤ 1 := by
  constructor
  · intro hall k hgrows
    by_contra hcount
    have htwo : 2 ≤ ks.count k := by omega
    obtain ⟨v, hv, hsize⟩ := S.second_output (fun s hs => hgrow s k hs hgrows) htwo hs
    have hv' : v = S.out s k := hall _ hv
    rw [hv'] at hsize
    exact Nat.lt_irrefl _ hsize
  · intro hks
    exact S.outputs_eq hkeep hks hs fun _ _ => rfl

end Growth

end Accumulators
