import Mathlib.Order.Defs.Unbundled

/-!
# What a program keeps

Programs that change a state, can throw and can fail to end. `Keeps P m` says that the
program `m` relates every state it starts in to the state it ends in, whether it throws or
not. For a preorder the rules below follow the program: what its steps keep, the program
keeps.
-/

set_option autoImplicit false

namespace Frames

variable {σ ε α β : Type} {P : σ → σ → Prop}

/-- The program relates its first state to its last one. -/
def Keeps (P : σ → σ → Prop) (m : ExceptT ε (StateT σ Option) α) : Prop :=
  ∀ (s : σ) (r : Except ε α × σ), m s = some r → P s r.2

/-- One computation after another: the second starts where the first has ended, or not at all. -/
theorem bind_apply (x : ExceptT ε (StateT σ Option) α) (f : α → ExceptT ε (StateT σ Option) β)
    (s : σ) : (x >>= f) s = (x s).bind fun r =>
      match r.1 with
      | .ok a => f a r.2
      | .error e => some (.error e, r.2) := by
  show (x s).bind _ = _
  congr 1
  funext r
  obtain ⟨_ | _, _⟩ := r <;> rfl

/-- A handler starts where the exception has left the state. -/
theorem tryCatch_apply (x : ExceptT ε (StateT σ Option) α)
    (handler : ε → ExceptT ε (StateT σ Option) α) (s : σ) :
    (tryCatch x handler) s = (x s).bind fun r =>
      match r.1 with
      | .ok a => some (.ok a, r.2)
      | .error e => handler e r.2 := by
  show (x s).bind _ = _
  congr 1
  funext r
  obtain ⟨_ | _, _⟩ := r <;> rfl

/-- A computation that only returns changes nothing. -/
theorem Keeps.pure [IsPreorder σ P] (a : α) : Keeps P (Pure.pure a : ExceptT ε (StateT σ Option) α) := by
  intro s r h
  cases h
  exact refl_of P s

/-- Throwing an exception changes nothing. -/
theorem Keeps.throw [IsPreorder σ P] (e : ε) :
    Keeps P (MonadExcept.throw e : ExceptT ε (StateT σ Option) α) := by
  intro s r h
  cases h
  exact refl_of P s

/-- A change of the state keeps what its function keeps. -/
theorem Keeps.modify {f : σ → σ} (hf : ∀ s, P s (f s)) :
    Keeps P (modify f : ExceptT ε (StateT σ Option) PUnit) := by
  intro s r h
  cases h
  exact hf s

/-- Two computations keep together what each of them keeps. -/
theorem Keeps.bind [IsPreorder σ P] {x : ExceptT ε (StateT σ Option) α}
    {f : α → ExceptT ε (StateT σ Option) β} (hx : Keeps P x) (hf : ∀ a, Keeps P (f a)) :
    Keeps P (x >>= f) := by
  intro s r h
  rw [bind_apply] at h
  obtain ⟨⟨a, t⟩, hfirst, hrest⟩ := Option.bind_eq_some_iff.mp h
  have hst := hx s _ hfirst
  cases a with
  | ok a => exact trans_of P hst (hf a t r hrest)
  | error e =>
      cases hrest
      exact hst

/-- A block with a handler keeps what the block and the handler keep. -/
theorem Keeps.tryCatch [IsPreorder σ P] {x : ExceptT ε (StateT σ Option) α}
    {handler : ε → ExceptT ε (StateT σ Option) α} (hx : Keeps P x)
    (hhandler : ∀ e, Keeps P (handler e)) : Keeps P (MonadExcept.tryCatch x handler) := by
  intro s r h
  rw [tryCatch_apply] at h
  obtain ⟨⟨a, t⟩, hfirst, hrest⟩ := Option.bind_eq_some_iff.mp h
  have hst := hx s _ hfirst
  cases a with
  | ok a =>
      cases hrest
      exact hst
  | error e => exact trans_of P hst (hhandler e t r hrest)

end Frames
