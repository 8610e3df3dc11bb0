import Mathlib.Tactic.Lemma

set_option relaxedAutoImplicit false
set_option autoImplicit false

/-!
# Computations that may fail

Readers, decoders and the stages of a check are chains of computations, each of which may fail. A chain
succeeds only if every computation in it does, and these lemmas take a chain that succeeds apart.

## Main results

* `LoadingCheck.bind_eq_ok` — a chain of two computations that succeeds.
* `LoadingCheck.map_eq_ok` — a computation whose value is changed.
-/

namespace LoadingCheck

variable {ε α β : Type}

/-- A chain of two computations succeeds by way of a value of the first. -/
lemma bind_eq_ok {x : Except ε α} {f : α → Except ε β} {b : β} :
    (x >>= f) = .ok b ↔ ∃ a, x = .ok a ∧ f a = .ok b := by
  cases x with
  | error e => simp [bind, Except.bind]
  | ok a => simp [bind, Except.bind]

lemma map_eq_ok {x : Except ε α} {f : α → β} {b : β} :
    (f <$> x) = .ok b ↔ ∃ a, x = .ok a ∧ f a = b := by
  cases x with
  | error e => simp [Functor.map, Except.map]
  | ok a => simp [Functor.map, Except.map]

lemma exists_ok {x : Except ε α} (h : x.isOk = true) : ∃ a, x = .ok a := by
  cases x with
  | error e => cases h
  | ok a => exact ⟨a, rfl⟩

end LoadingCheck
