import LoadingCheck.Log.Basic
import LoadingCheck.Number.Decimal
import LoadingCheck.Text.Blank
import LoadingCheck.Unicode.Property

/-!
# Log filters

A filter is written as directives with commas between them. A directive gives a level, for all entries
or for those of the parts of the program whose name starts with a target. It may ask for a span and for
fields too; no entry here stands in a span, and the only field of an entry is its message. Of the
directives for an entry the most specific one decides.

## Main definitions

* `LoadingCheck.Log.Directive` — directives.
* `LoadingCheck.Log.Filter` — filters, and `Filter.enables`.
* `LoadingCheck.Log.Filter.parse?` — the filter of a text.
-/

namespace LoadingCheck.Log

/-! ### Directives -/

/-- A name of a field, and whether the directive wants it to have a certain value. -/
structure FieldMatch where
  name : String
  hasValue : Bool
  deriving DecidableEq, Repr

/-- What a directive lets through: entries of up to `rank` levels, from the parts whose name starts with
the target, in a span and with fields. -/
structure Directive where
  rank : Nat
  target : Option String
  span : Option String
  fields : List FieldMatch
  deriving DecidableEq, Repr

namespace Directive

/-- The names of levels and their numbers. -/
def levels : List (String × Nat) :=
  [("off", 0), ("error", 1), ("warn", 2), ("info", 3), ("debug", 4), ("trace", 5)]

/-- The number of the level that lets everything through. -/
def everything : Nat := 5

/-- The level of a word: a number, or a name in whatever case. -/
def level? (word : List Char) : Option Nat :=
  match Decimal.readWord word with
  | .ok n => if n ≤ everything then some n else none
  | .error _ => levels.lookup (String.ofList (word.map Char.toLower))

/-- The level after an equals sign; everything if there is no word for it. -/
def levelAfterSign? (word : List Char) : Option Nat :=
  if word = [] then some everything else level? word

/-- Where the reader of a directive stands. Places are counted in characters. -/
inductive Place where
  | start
  /-- In a word that is a level or a target. -/
  | word
  | span (first : Nat)
  | field (first : Nat)
  | afterFields
  | afterBrackets
  | level (first : Nat)
  deriving DecidableEq, Repr

/-- Whether a directive can start with a character, apart from a bracket. -/
def canStart (c : Char) : Bool :=
  c = '-' || c = ':' || c = '_' || Unicode.Property.alphabetic.contains c ||
    Unicode.Category.number.contains c

/-- The part of a text between two places. -/
def part (text : List Char) (first stop : Nat) : List Char :=
  (text.drop first).take (stop - first)

/-- The field of a word. -/
def fieldOf? (word : List Char) : Option FieldMatch :=
  if word = [] then none
  else some ⟨String.ofList (word.takeWhile (· ≠ '=')), word.contains '='⟩

/-- Reads on at a place; `n` is the number of the next character. The parts of the directive are taken
from `text`. -/
def readFrom (text : List Char) : (n : Nat) → Place → Directive → List Char → Option Directive
  | _, .word, d, [] =>
    match level? text with
    | some rank => some { d with rank, target := none }
    | none => some { d with target := some (String.ofList text) }
  | _, .level first, d, [] => (levelAfterSign? (text.drop first)).map fun rank => { d with rank }
  | _, .afterBrackets, d, [] => some d
  | _, _, _, [] => none
  | n, .start, d, c :: rest =>
    if c = '[' then readFrom text (n + 1) (.span (n + 1)) d rest
    else if canStart c then readFrom text (n + 1) .word d rest
    else none
  | n, .word, d, c :: rest =>
    let target := some (String.ofList (part text 0 n))
    if c = '=' then readFrom text (n + 1) (.level (n + 1)) { d with target } rest
    else if c = '[' then readFrom text (n + 1) (.span (n + 1)) { d with target } rest
    else readFrom text (n + 1) .word d rest
  | n, .span first, d, c :: rest =>
    let word := part text first n
    if c = ']' then
      readFrom text (n + 1) .afterBrackets { d with span := some (String.ofList word) } rest
    else if c = '\x7b' then
      let span := if word = [] then none else some (String.ofList word)
      readFrom text (n + 1) (.field (n + 1)) { d with span } rest
    else readFrom text (n + 1) (.span first) d rest
  | n, .field first, d, c :: rest =>
    if c = '\x7d' then
      match fieldOf? (part text first n) with
      | some f => readFrom text (n + 1) .afterFields { d with fields := d.fields ++ [f] } rest
      | none => none
    else readFrom text (n + 1) (.field first) d rest
  | n, .afterFields, d, c :: rest =>
    if c = ']' then readFrom text (n + 1) .afterBrackets d rest else none
  | n, .afterBrackets, d, c :: rest =>
    if c = '=' then readFrom text (n + 1) (.level (n + 1)) d rest else none
  | n, .level first, d, _ :: rest => readFrom text (n + 1) (.level first) d rest

/-- The directive of a text. Its form is read without the blanks at its ends, but its parts are taken
from the text with them, so that a blank in front makes for a directive of no use. -/
def parse? (text : List Char) : Option Directive :=
  readFrom text 0 .start ⟨everything, none, none, []⟩ (Text.trim text)

/-- Whether the directive is about an entry. -/
def concerns (d : Directive) (e : Entry) : Bool :=
  d.span.isNone && d.fields.all (fun f => !f.hasValue && f.name == "message") &&
    match d.target with
    | none => true
    | some t => t.toList.isPrefixOf e.origin.name.toList

/-- How specific a directive is: by its target first, and then by its fields. -/
def specificity (d : Directive) : Nat × Nat :=
  ((d.target.map fun t => t.length + 1).getD 0, d.fields.length)

/-- Whether a directive is at least as specific as another one. -/
def atLeastAsSpecific (d d' : Directive) : Bool :=
  let (t, f) := d.specificity
  let (t', f') := d'.specificity
  t' < t || (t' == t && f' ≤ f)

end Directive

/-! ### Filters -/

/-- A filter: its directives in written order. -/
structure Filter where
  directives : List Directive
  deriving DecidableEq, Repr

namespace Filter

/-- The filter that lets entries of all parts through, up to a level. -/
def upTo (level : Level) : Filter :=
  ⟨[⟨level.rank, none, none, []⟩]⟩

/-- The filter of a text, if all its directives can be read. -/
def parse? (text : String) : Option Filter :=
  (((text.toList.splitOn ',').filter (· ≠ [])).mapM Directive.parse?).map fun ds => ⟨ds⟩

/-- The directive that decides about an entry: of the most specific ones the last. -/
def deciding? (f : Filter) (e : Entry) : Option Directive :=
  (f.directives.filter (·.concerns e)).foldl
    (fun best d =>
      match best with
      | none => some d
      | some b => if d.atLeastAsSpecific b then some d else some b)
    none

/-- Whether the filter lets an entry through. -/
def enables (f : Filter) (e : Entry) : Bool :=
  match f.deciding? e with
  | none => false
  | some d => e.level.rank ≤ d.rank

end Filter

end LoadingCheck.Log
