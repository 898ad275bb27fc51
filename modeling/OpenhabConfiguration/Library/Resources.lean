import Mathlib.Data.List.Basic
import OpenhabConfiguration.Library.Frames

/-!
# Resources

Programs that open and close resources. A `try` statement with a resource (`tryWith`) closes
the resource whichever way its block ends; when the block has thrown, what the closing throws
is suppressed. What such a program does with its resources is balanced: each is closed once,
and before what has been opened earlier. Where no closing fails, the program is the plain
program without the closings (`Follows`).
-/

set_option autoImplicit false

namespace Resources

open Frames

variable {ε σ ρ α β γ : Type}

/-! ## Programs with resources -/

/-- What is done with a resource. -/
inductive Usage (ρ : Type) where
  | opened (r : ρ)
  | closed (r : ρ)
deriving DecidableEq, Repr

/-- A state, and what has been done with the resources so far, in order. -/
structure Tracked (σ ρ : Type) where
  state : σ
  events : List (Usage ρ)

/-- A program that changes a state and opens and closes resources. -/
abbrev Program (ε σ ρ α : Type) := ExceptT ε (StateT (Tracked σ ρ) Option) α

/-- A program that does nothing with resources. -/
def lift (x : ExceptT ε (StateT σ Option) α) : Program ε σ ρ α := fun t =>
  (x t.state).map fun r => (r.1, { t with state := r.2 })

/-- Noting that a resource has been opened or closed, at the end of what has been noted. -/
def record (usage : Usage ρ) : Program ε σ ρ Unit :=
  modify fun t => { t with events := t.events ++ [usage] }

/-- Closing a resource; `failure` is what the closing of a resource throws. -/
def closing (failure : ρ → Option ε) (r : ρ) : Program ε σ ρ Unit := do
  record (.closed r)
  match failure r with
  | some e => throw e
  | none => return ()

/-- A block with the resource `r`, which is closed behind it. When the block throws, what the
closing throws is suppressed. -/
def closeAfter (failure : ρ → Option ε) (r : ρ) (block : Program ε σ ρ α) : Program ε σ ρ α := do
  record (.opened r)
  let a ← tryCatch block fun e => do
    tryCatch (closing failure r) fun _ => return ()
    throw e
  closing failure r
  return a

/-- `try (r = resource) { body }`, where the resource can be `null`. -/
def tryWith (failure : ρ → Option ε) (r : ρ) (resource : Program ε σ ρ (Option γ))
    (body : Option γ → Program ε σ ρ α) : Program ε σ ρ α := do
  match ← resource with
  | none => body none
  | some value => closeAfter failure r (body (some value))

/-- `try { body } finally { final }` -/
def tryFinally (body : Program ε σ ρ α) (final : Program ε σ ρ Unit) : Program ε σ ρ α := do
  let a ← tryCatch body fun e => do
    final
    throw e
  final
  return a

/-! ## Running a program -/

/-- A result when a closing throws behind it. -/
def overruled (failure : Option ε) : Except ε α → Except ε α
  | .error e => .error e
  | .ok a => match failure with
      | some e => .error e
      | none => .ok a

/-- Closing notes the resource and then throws if closing it fails. -/
theorem closing_apply (failure : ρ → Option ε) (r : ρ) (t : Tracked σ ρ) :
    closing failure r t =
      some (overruled (failure r) (.ok ()), { t with events := t.events ++ [.closed r] }) := by
  unfold closing
  rw [bind_apply]
  cases failure r <;> rfl

/-- The block runs with the resource open, and the resource is closed at its end. -/
theorem closeAfter_apply (failure : ρ → Option ε) (r : ρ) (block : Program ε σ ρ α)
    (t : Tracked σ ρ) :
    closeAfter failure r block t = (block { t with events := t.events ++ [.opened r] }).map fun done =>
      (overruled (failure r) done.1, { done.2 with events := done.2.events ++ [.closed r] }) := by
  show ((tryCatch block _ >>= fun a => closing failure r >>= fun _ => pure a)
    { t with events := t.events ++ [.opened r] } : Option (Except ε α × Tracked σ ρ)) = _
  rw [bind_apply, tryCatch_apply]
  cases block { t with events := t.events ++ [.opened r] } with
  | none => rfl
  | some done =>
      obtain ⟨e | a, done⟩ := done
      · simp only [Option.bind_some, bind_apply, tryCatch_apply, closing_apply]
        cases failure r <;> rfl
      · simp only [Option.bind_some, bind_apply, closing_apply]
        cases failure r <;> rfl

/-- The final block runs however the body ends, and its own exception wins. -/
theorem tryFinally_apply (body : Program ε σ ρ α) (final : Program ε σ ρ Unit)
    (t : Tracked σ ρ) : tryFinally body final t = (body t).bind fun done =>
      (final done.2).map fun ended =>
        (match ended.1 with
          | .ok () => done.1
          | .error e => .error e, ended.2) := by
  unfold tryFinally
  rw [bind_apply, tryCatch_apply]
  cases body t with
  | none => rfl
  | some done =>
      obtain ⟨e | a, done⟩ := done
      · simp only [Option.bind_some, bind_apply]
        cases final done with
        | none => rfl
        | some ended => obtain ⟨_ | _, _⟩ := ended <;> rfl
      · simp only [Option.bind_some, bind_apply]
        cases final done with
        | none => rfl
        | some ended => obtain ⟨_ | _, _⟩ := ended <;> rfl

/-- A `try` statement sees no more of its beginning than what its resource makes of it. -/
theorem tryWith_congr {failure : ρ → Option ε} {r : ρ} {resource resource' : Program ε σ ρ (Option γ)}
    {body : Option γ → Program ε σ ρ α} {t t' : Tracked σ ρ} (h : resource t = resource' t') :
    tryWith failure r resource body t = tryWith failure r resource' body t' := by
  unfold tryWith
  rw [bind_apply, bind_apply, h]

/-- A `try` statement around plain programs leaves the state as they leave it, and throws
what they throw or, when they end normally, what the closing throws. -/
theorem tryWith_lift {failure : ρ → Option ε} {r : ρ} {x : ExceptT ε (StateT σ Option) (Option γ)}
    {g : Option γ → ExceptT ε (StateT σ Option) α} {t t' : Tracked σ ρ} {result : Except ε α}
    (h : tryWith failure r (lift x) (fun value => lift (g value)) t = some (result, t')) :
    ∃ plain, (x >>= g) t.state = some (plain, t'.state) ∧
      (result = plain ∨ ∃ a e, plain = .ok a ∧ failure r = some e ∧ result = .error e) := by
  unfold tryWith at h
  rw [bind_apply] at h
  rw [bind_apply]
  unfold lift at h
  cases hresource : x t.state with
  | none =>
      rw [hresource] at h
      cases h
  | some found =>
      rw [hresource] at h
      obtain ⟨e | _ | value, s⟩ := found
      · cases h
        exact ⟨_, rfl, .inl rfl⟩
      · obtain ⟨⟨plain, s'⟩, hrun, heq⟩ := Option.map_eq_some_iff.mp h
        cases heq
        exact ⟨_, hrun, .inl rfl⟩
      · replace h : closeAfter failure r _ _ = some (result, t') := h
        rw [closeAfter_apply, Option.map_map] at h
        obtain ⟨⟨plain, s'⟩, hrun, heq⟩ := Option.map_eq_some_iff.mp h
        cases heq
        refine ⟨plain, hrun, ?_⟩
        cases plain with
        | error e => exact .inl rfl
        | ok a =>
            cases hfailure : failure r with
            | none => exact .inl rfl
            | some e => exact .inr ⟨a, e, rfl, rfl, rfl⟩

/-! ## Balanced events -/

/-- Each resource is closed once, after what has been opened behind it. -/
inductive Balanced : List (Usage ρ) → Prop where
  | nil : Balanced []
  | block (r : ρ) {inner rest : List (Usage ρ)} (hinner : Balanced inner) (hrest : Balanced rest) :
      Balanced (.opened r :: (inner ++ .closed r :: rest))

/-- Two balanced lists behind each other are balanced. -/
theorem Balanced.append {es es' : List (Usage ρ)} (h : Balanced es) (h' : Balanced es') :
    Balanced (es ++ es') := by
  induction h with
  | nil => exact h'
  | block r hinner hrest ihinner ihrest =>
      rw [List.cons_append, List.append_assoc, List.cons_append]
      exact .block r hinner ihrest

/-- No closing among the events fails. -/
def Calm (failure : ρ → Option ε) (es : List (Usage ρ)) : Prop :=
  ∀ r, .closed r ∈ es → failure r = none

section Calm

variable {failure : ρ → Option ε} {es es' : List (Usage ρ)}

/-- Nothing fails to close in two lists together when nothing does so in either. -/
theorem calm_append : Calm failure (es ++ es') ↔ Calm failure es ∧ Calm failure es' := by
  simp only [Calm, List.mem_append, or_imp, forall_and]

/-- Nothing fails to close in a block when nothing in it does and the resource itself closes. -/
theorem calm_block {r : ρ} :
    Calm failure (.opened r :: (es ++ [.closed r])) ↔ Calm failure es ∧ failure r = none := by
  simp only [Calm, List.mem_cons, List.mem_append, reduceCtorEq, Usage.closed.injEq,
    List.not_mem_nil, or_false, false_or, or_imp, forall_and, forall_eq]

end Calm

/-! ## Programs and plain programs -/

/-- The program does balanced things with its resources. It ends normally only if no closing
has failed, and where no closing has failed, it has done what the plain program does. -/
def Follows (failure : ρ → Option ε) (m : Program ε σ ρ α) (x : ExceptT ε (StateT σ Option) α) :
    Prop :=
  ∀ t, (m t = none → x t.state = none) ∧ ∀ r t', m t = some (r, t') →
    ∃ es, t'.events = t.events ++ es ∧ Balanced es ∧ ((∃ a, r = .ok a) → Calm failure es) ∧
      (Calm failure es → x t.state = some (r, t'.state))

section Follows

variable {failure : ρ → Option ε}

/-- A computation that opens nothing follows itself. -/
theorem Follows.lift (x : ExceptT ε (StateT σ Option) α) :
    Follows failure (lift x : Program ε σ ρ α) x := by
  intro t
  refine ⟨fun h => Option.map_eq_none_iff.mp h, fun r t' h => ?_⟩
  obtain ⟨⟨r, s⟩, hrun, heq⟩ := Option.map_eq_some_iff.mp h
  cases heq
  refine ⟨[], (List.append_nil _).symm, .nil, fun _ => ?_, fun _ => hrun⟩
  exact fun _ h => absurd h List.not_mem_nil

/-- Computations that follow each other step by step do so in sequence. -/
theorem Follows.bind {m : Program ε σ ρ α} {x : ExceptT ε (StateT σ Option) α}
    {f : α → Program ε σ ρ β} {g : α → ExceptT ε (StateT σ Option) β} (hm : Follows failure m x)
    (hf : ∀ a, Follows failure (f a) (g a)) : Follows failure (m >>= f) (x >>= g) := by
  intro t
  obtain ⟨hnone, hsome⟩ := hm t
  rw [bind_apply, bind_apply]
  cases hfirst : m t with
  | none =>
      rw [hnone hfirst]
      exact ⟨fun _ => rfl, fun r t' h => by cases h⟩
  | some first =>
      obtain ⟨e | a, t₁⟩ := first
      · constructor
        · intro h
          cases h
        · intro r t' h
          cases h
          obtain ⟨es, hevents, hbalanced, -, hplain⟩ := hsome _ _ hfirst
          refine ⟨es, hevents, hbalanced, ?_, fun hcalm => ?_⟩
          · rintro ⟨_, h⟩
            cases h
          · rw [hplain hcalm]
            rfl
      · obtain ⟨es, hevents, hbalanced, hok, hplain⟩ := hsome _ _ hfirst
        have hcalm := hok ⟨a, rfl⟩
        obtain ⟨hnone', hsome'⟩ := hf a t₁
        rw [hplain hcalm]
        refine ⟨hnone', fun r t' h => ?_⟩
        obtain ⟨es', hevents', hbalanced', hok', hplain'⟩ := hsome' r t' h
        refine ⟨es ++ es', ?_, hbalanced.append hbalanced', fun hr => ?_, fun hboth => ?_⟩
        · rw [hevents', hevents, List.append_assoc]
        · exact calm_append.mpr ⟨hcalm, hok' hr⟩
        · exact hplain' (calm_append.mp hboth).2

/-- A block that is closed at its end follows the block without the closing. -/
theorem Follows.closeAfter {r : ρ} {block : Program ε σ ρ α} {x : ExceptT ε (StateT σ Option) α}
    (hblock : Follows failure block x) : Follows failure (closeAfter failure r block) x := by
  intro t
  obtain ⟨hnone, hsome⟩ := hblock { t with events := t.events ++ [.opened r] }
  rw [closeAfter_apply]
  refine ⟨fun h => hnone (Option.map_eq_none_iff.mp h), fun result t' h => ?_⟩
  obtain ⟨⟨done, t₁⟩, hrun, heq⟩ := Option.map_eq_some_iff.mp h
  cases heq
  obtain ⟨es, hevents, hbalanced, hok, hplain⟩ := hsome _ _ hrun
  refine ⟨.opened r :: (es ++ [.closed r]), ?_, .block r hbalanced .nil, ?_, fun hcalm => ?_⟩
  · simp only [hevents, List.append_assoc, List.cons_append, List.nil_append]
  · rintro ⟨a, ha⟩
    rw [calm_block]
    cases done with
    | error e => cases ha
    | ok done =>
        refine ⟨hok ⟨done, rfl⟩, ?_⟩
        cases hfailure : failure r with
        | none => rfl
        | some e =>
            rw [hfailure] at ha
            cases ha
  · obtain ⟨hinner, hfailure⟩ := calm_block.mp hcalm
    rw [hplain hinner, hfailure]
    cases done <;> rfl

/-- **The rule of `try`**. -/
theorem Follows.tryWith {r : ρ} {resource : Program ε σ ρ (Option γ)}
    {x : ExceptT ε (StateT σ Option) (Option γ)} {body : Option γ → Program ε σ ρ α}
    {g : Option γ → ExceptT ε (StateT σ Option) α} (hresource : Follows failure resource x)
    (hbody : ∀ value, Follows failure (body value) (g value)) :
    Follows failure (tryWith failure r resource body) (x >>= g) := by
  apply hresource.bind
  intro value
  cases value with
  | none => exact hbody none
  | some value => exact (hbody (some value)).closeAfter

end Follows

end Resources
