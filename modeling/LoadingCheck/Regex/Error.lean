import LoadingCheck.Regex.Ast
import LoadingCheck.Text.Blank

/-!
# Errors in regular expressions

An error names what is wrong and the part of the pattern where it is. Its text shows the pattern with
carets under that part.

## Main definitions

* `LoadingCheck.Regex.ErrorKind` — what can be wrong, and `ErrorKind.message`.
* `LoadingCheck.Regex.ParseError` — an error in a pattern.
* `LoadingCheck.Regex.ParseError.render` — the text that shows the error in its pattern.
-/

namespace LoadingCheck.Regex

/-- What can be wrong with a regular expression. -/
inductive ErrorKind where
  | classEscapeInvalid
  | classRangeInvalid
  | classRangeLiteral
  | classUnclosed
  | decimalInvalid
  | escapeHexEmpty
  | escapeHexInvalid
  | escapeHexInvalidDigit
  | escapeUnexpectedEnd
  | escapeUnrecognized
  | flagDanglingNegation
  | flagDuplicate
  | flagRepeatedNegation
  | flagUnexpectedEnd
  | flagUnrecognized
  | groupNameDuplicate
  | groupNameEmpty
  | groupNameInvalid
  | groupNameUnexpectedEnd
  | groupUnclosed
  | groupUnopened
  | nestLimitExceeded (limit : Nat)
  | repetitionCountInvalid
  | repetitionCountDecimalEmpty
  | repetitionCountUnclosed
  | repetitionMissing
  | specialWordBoundaryUnclosed
  | specialWordBoundaryUnrecognized
  | specialWordOrRepetitionUnexpectedEnd
  | propertyClassInvalid
  | backreference
  | lookAround
  | propertyNotFound
  | propertyValueNotFound
  /-- Flags, which this library reads but gives no meaning. -/
  | flagsUnsupported
  deriving DecidableEq, Repr

/-- The error in words. -/
def ErrorKind.message : ErrorKind → String
  | .classEscapeInvalid => "invalid escape sequence found in character class"
  | .classRangeInvalid => "invalid character class range, the start must be <= the end"
  | .classRangeLiteral => "invalid range boundary, must be a literal"
  | .classUnclosed => "unclosed character class"
  | .decimalInvalid => "decimal literal invalid"
  | .escapeHexEmpty => "hexadecimal literal empty"
  | .escapeHexInvalid => "hexadecimal literal is not a Unicode scalar value"
  | .escapeHexInvalidDigit => "invalid hexadecimal digit"
  | .escapeUnexpectedEnd => "incomplete escape sequence, reached end of pattern prematurely"
  | .escapeUnrecognized => "unrecognized escape sequence"
  | .flagDanglingNegation => "dangling flag negation operator"
  | .flagDuplicate => "duplicate flag"
  | .flagRepeatedNegation => "flag negation operator repeated"
  | .flagUnexpectedEnd => "expected flag but got end of regex"
  | .flagUnrecognized => "unrecognized flag"
  | .groupNameDuplicate => "duplicate capture group name"
  | .groupNameEmpty => "empty capture group name"
  | .groupNameInvalid => "invalid capture group character"
  | .groupNameUnexpectedEnd => "unclosed capture group name"
  | .groupUnclosed => "unclosed group"
  | .groupUnopened => "unopened group"
  | .nestLimitExceeded limit =>
    s!"exceed the maximum number of nested parentheses/brackets ({limit})"
  | .repetitionCountInvalid => "invalid repetition count range, the start must be <= the end"
  | .repetitionCountDecimalEmpty => "repetition quantifier expects a valid decimal"
  | .repetitionCountUnclosed => "unclosed counted repetition"
  | .repetitionMissing => "repetition operator missing expression"
  | .specialWordBoundaryUnclosed =>
    "special word boundary assertion is either unclosed or contains an invalid character"
  | .specialWordBoundaryUnrecognized =>
    "unrecognized special word boundary assertion, valid choices are: start, end, start-half or " ++
      "end-half"
  | .specialWordOrRepetitionUnexpectedEnd =>
    "found either the beginning of a special word boundary or a bounded repetition on a \\b with " ++
      "an opening brace, but no closing brace"
  | .propertyClassInvalid => "invalid Unicode character class"
  | .backreference => "backreferences are not supported"
  | .lookAround => "look-around, including look-ahead and look-behind, is not supported"
  | .propertyNotFound => "Unicode property not found"
  | .propertyValueNotFound => "Unicode property value not found"
  | .flagsUnsupported => "flags are not supported"

/-- An error, the part of the pattern where it is, and another part that it has to do with. -/
structure ParseError where
  kind : ErrorKind
  span : Span
  earlier : Option Span
  deriving DecidableEq, Repr

namespace ParseError

/-- The line of a place in a pattern, counted from zero, and its column. -/
def place (pattern : List Char) (n : Nat) : Nat × Nat :=
  let before := pattern.take n
  (before.count '\n', (before.reverse.takeWhile (· ≠ '\n')).length)

/-- Carets under columns: from each first column up to the second, at least one. -/
def carets : (column : Nat) → List (Nat × Nat) → List Char
  | _, [] => []
  | column, (first, last) :: rest =>
    let blanks := first - column
    let count := max 1 (last - first)
    List.replicate blanks ' ' ++ List.replicate count '^' ++ carets (column + blanks + count) rest

/-- The marked columns in a line, from left to right. -/
def marksOn (pattern : List Char) (line : Nat) (spans : List Span) : List (Nat × Nat) :=
  spans.filterMap fun s =>
    let (first, column) := place pattern s.start
    let (last, column') := place pattern s.stop
    if first = line ∧ last = line then some (column, column') else none

/-- The parts of the pattern to mark, in order. -/
def marked (e : ParseError) : List Span :=
  match e.earlier with
  | none => [e.span]
  | some o =>
    if o.start < e.span.start ∨ (o.start = e.span.start ∧ o.stop ≤ e.span.stop) then [o, e.span]
    else [e.span, o]

/-- A number on the right of a column. -/
def padded (width n : Nat) : List Char :=
  let digits := (toString n).toList
  List.replicate (width - digits.length) ' ' ++ digits

/-- The lines of the pattern, each with its number if there are several, and with carets under the
marked columns. -/
def shown (pattern : List Char) (width : Nat) (spans : List Span) :
    (line : Nat) → List (List Char) → List (List Char)
  | _, [] => []
  | line, text :: rest =>
    let lead := if width = 0 then "    ".toList else padded width (line + 1) ++ [':', ' ']
    let marks := marksOn pattern line spans
    let under :=
      if marks = [] then [] else [List.replicate lead.length ' ' ++ carets 0 marks]
    (lead ++ text) :: under ++ shown pattern width spans (line + 1) rest

/-- Notes about parts that go over several lines. -/
def spanNotes (pattern : List Char) (spans : List Span) : List (List Char) :=
  spans.filterMap fun s =>
    let (first, column) := place pattern s.start
    let (last, endColumn) := place pattern s.stop
    if first = last then none
    else
      some (s!"on line {first + 1} (column {column + 1}) through line {last + 1} (column {endColumn})"
        |>.toList)

/-- The text of an error in a pattern. -/
def render (pattern : List Char) (e : ParseError) : String :=
  let lines := Text.lines pattern
  let several := pattern.contains '\n'
  let count := lines.length + (if pattern.getLast? = some '\n' then 1 else 0)
  let width := if count ≤ 1 then 0 else (toString count).length
  let body := shown pattern width e.marked 0 lines
  let divider := List.replicate 79 '~'
  let framed :=
    if several then [divider] ++ body ++ [divider] ++ spanNotes pattern e.marked else body
  "regex parse error:\n" ++
    String.ofList (framed.flatMap (· ++ ['\n'])) ++ "error: " ++ e.kind.message

end ParseError

end LoadingCheck.Regex
