/-!
# Search for a piece of text

A piece occurs in a text when the text is something, then the piece, then something. The search goes
from left to right and stops at the first occurrence.

## Main definitions

* `LoadingCheck.Text.before?` — the text before the first occurrence of a piece.
* `LoadingCheck.Text.contains` — whether a piece occurs.

## Main results

* `LoadingCheck.Text.contains_iff` — a piece occurs exactly if the text has it as an infix.
-/

namespace LoadingCheck.Text

section

variable {α : Type} [DecidableEq α]

/-- What stands before the first occurrence of `piece`, if it occurs. -/
def before? (piece : List α) : List α → Option (List α)
  | [] => if piece = [] then some [] else none
  | c :: s =>
    if piece.isPrefixOf (c :: s) then some []
    else (before? piece s).map (c :: ·)

/-- Whether `piece` occurs in the text. -/
def contains (s piece : List α) : Bool :=
  (before? piece s).isSome

theorem contains_nil (piece : List α) : contains [] piece = true ↔ piece = [] := by
  by_cases h : piece = [] <;> simp [contains, before?, h]

theorem contains_cons (c : α) (s piece : List α) :
    contains (c :: s) piece = (piece.isPrefixOf (c :: s) || contains s piece) := by
  unfold contains
  rw [before?]
  split <;> simp [*]

/-- A piece occurs exactly if it is an infix of the text. -/
theorem contains_iff {s piece : List α} : contains s piece = true ↔ piece <:+: s := by
  induction s with
  | nil => rw [contains_nil, List.infix_nil]
  | cons c s ih => rw [contains_cons, Bool.or_eq_true, ih, List.isPrefixOf_iff_prefix, List.infix_cons_iff]

end

end LoadingCheck.Text
