import LoadingCheck.Failure
import LoadingCheck.Regex.Match
import LoadingCheck.Regex.Size

/-!
# Class patterns

A class pattern is a regular expression that is searched in the `class` attribute of an element. The
browser searches for it too, so a pattern with groups that a browser reads differently is refused: those
that set flags and those that are named with a letter in front of the name.

## Main definitions

* `LoadingCheck.ClassPattern` — patterns together with their meaning.
* `LoadingCheck.ClassPattern.ofString` — the pattern of a text, or why there is none.
* `LoadingCheck.ClassPattern.isMatch` — the search in an attribute.
* `LoadingCheck.ClassPattern.unportableGroup?` — where the first refused group starts.
-/

namespace LoadingCheck

namespace ClassPattern

/-! ### Groups that a browser reads differently -/

/-- Whether the bytes start with the opening of a group that is refused: a parenthesis and a question
mark, and then a letter or a hyphen. -/
def opensUnportable : List UInt8 → Bool
  | paren :: mark :: b :: _ =>
    paren == 0x28 && mark == 0x3F &&
      ((0x41 ≤ b && b ≤ 0x5A) || (0x61 ≤ b && b ≤ 0x7A) || b == 0x2D)
  | _ => false

/-- The offset of the first refused group in the rest of a pattern that starts at `offset`. A byte is
escaped if there is a backslash before it that is not escaped itself. -/
def unportableFrom : (offset : Nat) → (escaped : Bool) → List UInt8 → Option Nat
  | _, _, [] => none
  | offset, escaped, b :: rest =>
    if !escaped && opensUnportable (b :: rest) then some offset
    else unportableFrom (offset + 1) (b == 0x5C && !escaped) rest

/-- The offset of the first refused group in a pattern, counted in bytes. -/
def unportableGroup? (source : String) : Option Nat :=
  unportableFrom 0 false (Utf8.encode source.toList)

/-! ### Patterns -/

/-- Why a text is no class pattern. -/
inductive Rejection where
  | empty
  /-- There is a refused group at a byte offset. -/
  | unportable (offset : Nat)
  /-- The text is no regular expression. -/
  | malformed (error : Regex.ParseError)
  /-- The expression takes more memory than the limit. -/
  | tooLarge (limit : Nat)
  deriving DecidableEq, Repr

/-- The reason why `source` is refused, in words. -/
def Rejection.reason (source : String) : Rejection → String
  | .empty => "pattern is empty"
  | .unportable offset => s!"inline flags or named groups at offset {offset} are not portable"
  | .malformed error => error.render source.toList
  | .tooLarge limit => s!"Compiled regex exceeds size limit of {limit} bytes."

/-- The regular expression of a text, by its meaning. -/
def readExpr (source : String) : Regex.Outcome Regex.Expr := do
  let ast ← Regex.parse source.toList
  ast.toExpr

/-- What a text means as a class pattern, if its expression may take as much memory as the limit says. -/
def compile (source : String) (limit : Nat := Regex.Size.limit) : Except Rejection Regex.Expr :=
  if source.toList = [] then .error .empty
  else
    match unportableGroup? source with
    | some offset => .error (.unportable offset)
    | none =>
      match readExpr source with
      | .error error => .error (.malformed error)
      | .ok expr => if expr.fits limit then .ok expr else .error (.tooLarge limit)

end ClassPattern

/-- A class pattern: a text that is accepted, and what it means. -/
structure ClassPattern where
  source : String
  expr : Regex.Expr
  compile_source : ClassPattern.compile source = .ok expr

namespace ClassPattern

/-- The text of a pattern determines it. -/
theorem eq_of_source_eq {p q : ClassPattern} (h : p.source = q.source) : p = q := by
  obtain ⟨s, e, hs⟩ := p
  obtain ⟨t, f, ht⟩ := q
  subst h
  have : e = f := by
    rw [hs] at ht
    exact Except.ok.inj ht
  subst this
  rfl

instance : DecidableEq ClassPattern := fun p q =>
  decidable_of_iff (p.source = q.source) ⟨eq_of_source_eq, fun h => h ▸ rfl⟩

instance : Repr ClassPattern := ⟨fun p _ => repr p.source⟩

/-- The pattern of a text. -/
def ofString (source : String) : Except Failure ClassPattern :=
  match h : compile source with
  | .ok expr => .ok ⟨source, expr, h⟩
  | .error rejection => .error (.badPattern source (rejection.reason source))

/-- Whether the pattern matches somewhere in the value of a `class` attribute. -/
def isMatch (p : ClassPattern) (classes : String) : Bool :=
  p.expr.isMatch classes.toList

end ClassPattern

end LoadingCheck
