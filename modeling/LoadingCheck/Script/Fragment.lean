import LoadingCheck.Json.Basic

/-!
# Program text in fragments

A generated program is a row of fragments: code that is the same in every program, and between it the
texts and numbers that differ from one program to the next. A text goes in as a string literal, or into
a remark at the end of a line.

## Main definitions

* `LoadingCheck.Fragment` — fragments.
* `LoadingCheck.Fragment.text`, `LoadingCheck.Fragment.render` — the text that they make up.
-/

namespace LoadingCheck

/-- A part of a generated program. -/
inductive Fragment where
  /-- Code as it stands. -/
  | code (text : String)
  /-- A string literal with the given value. -/
  | literal (value : String)
  /-- A number literal. -/
  | number (value : Nat)
  /-- A text inside a remark, as it stands. -/
  | remark (text : String)
  deriving DecidableEq, Repr

namespace Fragment

/-- The text of a fragment. -/
def text : Fragment → List Char
  | .code s => s.toList
  | .literal s => (Json.quote s).toList
  | .number n => (toString n).toList
  | .remark s => s.toList

/-- The text of fragments in a row. -/
def render (fragments : List Fragment) : List Char :=
  fragments.flatMap text

@[simp]
theorem render_nil : render [] = [] := rfl

@[simp]
theorem render_cons (f : Fragment) (fs : List Fragment) : render (f :: fs) = f.text ++ render fs :=
  List.flatMap_cons

@[simp]
theorem render_append (fs gs : List Fragment) : render (fs ++ gs) = render fs ++ render gs :=
  List.flatMap_append

end Fragment

end LoadingCheck
