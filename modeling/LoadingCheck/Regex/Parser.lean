import LoadingCheck.Regex.Error
import LoadingCheck.Unicode.Property

/-!
# Parser of regular expressions

The parser reads a pattern from left to right and keeps the groups that are open on a stack, so that of
several errors the leftmost is reported. Brackets have a stack of their own.

## Main definitions

* `LoadingCheck.Regex.parse` — the expression of a pattern.
* `LoadingCheck.Regex.checkNesting` — refuses an expression that nests too deeply.

## Design

A cursor holds the place in the pattern and the characters from there on. Every turn of the two loops,
over an expression and over the inside of brackets, reads at least one character; they recurse on a
bound for the number of turns that is the length of the pattern. Flags are read but have no effect on
the parser.
-/

namespace LoadingCheck.Regex

/-- A place in a pattern and the characters from there on. -/
structure Cursor where
  pos : Nat
  rest : List Char
  deriving DecidableEq, Repr

namespace Cursor

/-- The place after the next character. -/
def next (c : Cursor) : Cursor :=
  ⟨c.pos + 1, c.rest.tail⟩

/-- The empty part of the pattern at a place. -/
def here (c : Cursor) : Span :=
  ⟨c.pos, c.pos⟩

/-- The next character as a part of the pattern. -/
def charSpan (c : Cursor) : Span :=
  ⟨c.pos, c.pos + 1⟩

/-- The part of the pattern from a place up to this one. -/
def since (c : Cursor) (start : Nat) : Span :=
  ⟨start, c.pos⟩

/-- The place after the characters at the front that satisfy `p`, and these characters. -/
def takeWhile (p : Char → Bool) (c : Cursor) : List Char × Cursor :=
  let taken := c.rest.takeWhile p
  (taken, ⟨c.pos + taken.length, c.rest.dropWhile p⟩)

end Cursor

/-- What a parser gives, unless it finds an error. -/
abbrev Outcome := Except ParseError

/-- An error in a part of the pattern. -/
def fail {α : Type} (kind : ErrorKind) (span : Span) : Outcome α :=
  .error ⟨kind, span, none⟩

/-! ### Characters -/

/-- Characters that have a meaning of their own somewhere in a pattern. -/
def isMeta (c : Char) : Bool :=
  ['\\', '.', '+', '*', '?', '(', ')', '|', '[', ']', '\x7b', '\x7d', '^', '$', '#', '&', '-',
    '~'].contains c

/-- Characters that a backslash may stand before without need: ASCII, but no letter or digit, and no
angle bracket. -/
def isEscapable (c : Char) : Bool :=
  c.toNat < 0x80 && !c.isAlphanum && c != '<' && c != '>'

/-- The value of a hexadecimal digit. -/
def hexDigit? (c : Char) : Option Nat :=
  if '0' ≤ c ∧ c ≤ '9' then some (c.toNat - 0x30)
  else if 'a' ≤ c ∧ c ≤ 'f' then some (c.toNat - 0x61 + 10)
  else if 'A' ≤ c ∧ c ≤ 'F' then some (c.toNat - 0x41 + 10)
  else none

/-- The character of a code point, if it is one. -/
def charOfCode? (n : Nat) : Option Char :=
  if n.isValidChar then some (Char.ofNat n) else none

/-- Characters that the name of a group may start with. -/
def isNameStart (c : Char) : Bool :=
  c == '_' || Unicode.Property.alphabetic.contains c

/-- Characters that may stand inside the name of a group. -/
def isNamePart (c : Char) : Bool :=
  isNameStart c || c == '.' || c == '[' || c == ']' || Unicode.Category.number.contains c

/-! ### Escapes -/

/-- Reads `n` hexadecimal digits of a character written after the backslash at `start`; `first` is the
place of the first one. -/
def hexFixed (start first : Nat) : (n value : Nat) → Cursor → Outcome (Literal × Cursor)
  | 0, value, c =>
    match charOfCode? value with
    | some char => .ok (⟨c.since start, .hexFixed, char⟩, c)
    | none => fail .escapeHexInvalid (c.since first)
  | n + 1, value, c =>
    match c.rest with
    | [] => fail .escapeUnexpectedEnd c.here
    | d :: _ =>
      match hexDigit? d with
      | some v => hexFixed start first n (value * 16 + v) c.next
      | none => fail .escapeHexInvalidDigit c.charSpan

/-- Reads hexadecimal digits in braces; the cursor stands after the opening one. -/
def hexBraced (start : Nat) (c : Cursor) : Outcome (Literal × Cursor) :=
  let brace := c.pos - 1
  let (digits, after) := c.takeWhile fun d => (hexDigit? d).isSome
  match after.rest with
  | [] => fail .escapeUnexpectedEnd (after.since brace)
  | '\x7d' :: _ =>
    let done := after.next
    if digits = [] then fail .escapeHexEmpty (done.since brace)
    else
      match charOfCode? (digits.foldl (fun n d => n * 16 + (hexDigit? d).getD 0) 0) with
      | some char => .ok (⟨done.since start, .hexBrace, char⟩, done)
      | none => fail .escapeHexInvalid (after.since c.pos)
  | _ => fail .escapeHexInvalidDigit after.charSpan

/-- Reads a character by its code point; the cursor stands after the letter, which says how many
digits there are without braces. -/
def hexEscape (start digits : Nat) (c : Cursor) : Outcome (Literal × Cursor) :=
  match c.rest with
  | [] => fail .escapeUnexpectedEnd c.here
  | '\x7b' :: _ => hexBraced start c.next
  | _ => hexFixed start c.pos digits 0 c

/-- The parts of a text before and after the first occurrence of `mark`. -/
def cutAt? (mark : List Char) : List Char → Option (List Char × List Char)
  | [] => none
  | c :: rest =>
    if mark.isPrefixOf (c :: rest) then some ([], (c :: rest).drop mark.length)
    else (cutAt? mark rest).map fun (a, b) => (c :: a, b)

/-- What a name in braces asks for. -/
def queryOf (name : List Char) : PropertyQuery :=
  let value (differs : Bool) (parts : List Char × List Char) : PropertyQuery :=
    .value (String.ofList parts.1) differs (String.ofList parts.2)
  match cutAt? ['!', '='] name, cutAt? [':'] name, cutAt? ['='] name with
  | some parts, _, _ => value true parts
  | none, some parts, _ => value false parts
  | none, none, some parts => value false parts
  | none, none, none => .name (String.ofList name)

/-- Reads the name of a property class; the cursor stands after the letter. -/
def propertyEscape (start : Nat) (negated : Bool) (c : Cursor) : Outcome (PropertyClass × Cursor) :=
  match c.rest with
  | [] => fail .escapeUnexpectedEnd c.here
  | '\x7b' :: _ =>
    let (name, after) := c.next.takeWhile (· ≠ '\x7d')
    match after.rest with
    | [] => fail .escapeUnexpectedEnd after.here
    | _ :: _ => .ok (⟨after.next.since start, negated, queryOf name⟩, after.next)
  | '\\' :: _ => fail .propertyClassInvalid c.charSpan
  | name :: _ => .ok (⟨c.next.since start, negated, .letter name⟩, c.next)

/-- Characters of the name of a special word boundary. -/
def isBoundaryName (c : Char) : Bool :=
  c.isAlpha || c == '-'

/-- Reads what follows `\b` if it is the name of a special word boundary in braces; the cursor stands
at the opening one. Anything else in braces is left to be read as a number of repetitions. -/
def specialBoundary (start : Nat) (c : Cursor) : Outcome (Option Assertion × Cursor) :=
  let inside := c.next
  match inside.rest with
  | [] => fail .specialWordOrRepetitionUnexpectedEnd (inside.since start)
  | first :: _ =>
    if isBoundaryName first then
      let (name, after) := inside.takeWhile isBoundaryName
      match after.rest with
      | '\x7d' :: _ =>
        match String.ofList name with
        | "start" => .ok (some .wordStart, after.next)
        | "end" => .ok (some .wordEnd, after.next)
        | "start-half" => .ok (some .wordStartHalf, after.next)
        | "end-half" => .ok (some .wordEndHalf, after.next)
        | _ => fail .specialWordBoundaryUnrecognized (after.since inside.pos)
      | _ => fail .specialWordBoundaryUnclosed (after.since c.pos)
    else .ok (none, c)

/-- An expression of one piece, as it may stand outside brackets or inside. -/
inductive Primitive where
  | literal (literal : Literal)
  | assertion (span : Span) (kind : Assertion)
  | dot (span : Span)
  | shorthand (shorthand : ShorthandClass)
  | property (property : PropertyClass)
  deriving DecidableEq, Repr

/-- The part of the pattern that a piece was read from. -/
def Primitive.span : Primitive → Span
  | .literal l => l.span
  | .assertion s _ => s
  | .dot s => s
  | .shorthand c => c.span
  | .property c => c.span

/-- The class of a letter after a backslash, and whether it is a complement. -/
def shorthandOf? (c : Char) : Option (Shorthand × Bool) :=
  match c with
  | 'd' => some (.digit, false)
  | 'D' => some (.digit, true)
  | 's' => some (.space, false)
  | 'S' => some (.space, true)
  | 'w' => some (.word, false)
  | 'W' => some (.word, true)
  | _ => none

/-- The control character of a letter after a backslash. -/
def controlOf? (c : Char) : Option Char :=
  match c with
  | 'a' => some '\x07'
  | 'f' => some '\x0c'
  | 't' => some '\t'
  | 'n' => some '\n'
  | 'r' => some '\r'
  | 'v' => some '\x0b'
  | _ => none

/-- The assertion of a character after a backslash. -/
def assertionOf? (c : Char) : Option Assertion :=
  match c with
  | 'A' => some .startText
  | 'z' => some .endText
  | 'b' => some .wordBoundary
  | 'B' => some .notWordBoundary
  | '<' => some .wordStartAngle
  | '>' => some .wordEndAngle
  | _ => none

/-- How many digits a character has that is written by its code point without braces. -/
def hexDigitsOf? (c : Char) : Option Nat :=
  match c with
  | 'x' => some 2
  | 'u' => some 4
  | 'U' => some 8
  | _ => none

/-- Reads an escape; the cursor stands at the backslash. -/
def parseEscape (c : Cursor) : Outcome (Primitive × Cursor) :=
  let start := c.pos
  let at1 := c.next
  match at1.rest with
  | [] => fail .escapeUnexpectedEnd (at1.since start)
  | e :: _ =>
    let after := at1.next
    let span := after.since start
    if e.isDigit then fail .backreference span
    else if let some digits := hexDigitsOf? e then do
      let (l, c) ← hexEscape start digits after
      return (.literal l, c)
    else if e = 'p' ∨ e = 'P' then do
      let (p, c) ← propertyEscape start (e = 'P') after
      return (.property p, c)
    else if let some (kind, negated) := shorthandOf? e then
      .ok (.shorthand ⟨span, kind, negated⟩, after)
    else if isMeta e then .ok (.literal ⟨span, .escaped, e⟩, after)
    else if isEscapable e then .ok (.literal ⟨span, .superfluous, e⟩, after)
    else if let some char := controlOf? e then .ok (.literal ⟨span, .special, char⟩, after)
    else if let some kind := assertionOf? e then
      match kind, after.rest with
      | .wordBoundary, '\x7b' :: _ => do
        match ← specialBoundary start after with
        | (some special, c) => return (.assertion (c.since start) special, c)
        | (none, c) => return (.assertion span kind, c)
      | _, _ => .ok (.assertion span kind, after)
    else fail .escapeUnrecognized span

/-! ### Inside brackets -/

/-- Items that stand beside each other inside brackets: the part of the pattern they take, and the
items in reverse. -/
structure ItemRow where
  span : Span
  items : List ClassItem

/-- Puts an item at the end. -/
def ItemRow.push (r : ItemRow) (item : ClassItem) : ItemRow :=
  let start := if r.items.isEmpty then item.span.start else r.span.start
  ⟨⟨start, item.span.stop⟩, item :: r.items⟩

/-- The items as one. -/
def ItemRow.toItem (r : ItemRow) : ClassItem :=
  match r.items with
  | [] => .empty r.span
  | [item] => item
  | items => .union r.span items.reverse

/-- What is open inside brackets: brackets around what comes next, with the items before them, or an
operation whose right side comes next. -/
inductive OpenSet where
  | brackets (before : ItemRow) (span : Span) (negated : Bool)
  | operation (op : SetOp) (left : ClassSet)

/-- A piece as an item inside brackets. -/
def Primitive.toItem : Primitive → Outcome ClassItem
  | .literal l => .ok (.literal l)
  | .shorthand c => .ok (.shorthand c)
  | .property c => .ok (.property c)
  | .assertion s _ => fail .classEscapeInvalid s
  | .dot s => fail .classEscapeInvalid s

/-- A piece as a boundary of a range. -/
def Primitive.toLiteral (p : Primitive) : Outcome Literal :=
  match p with
  | .literal l => .ok l
  | p => fail .classRangeLiteral p.span

/-- The error for brackets that are not closed: it is at the innermost ones. -/
def unclosedClass {α : Type} : List OpenSet → Outcome α
  | [] => fail .classUnclosed ⟨0, 0⟩
  | .brackets _ span _ :: _ => fail .classUnclosed span
  | .operation _ _ :: rest => unclosedClass rest

/-- Reads a character or escape inside brackets. -/
def parseClassPrimitive (c : Cursor) (char : Char) : Outcome (Primitive × Cursor) :=
  if char = '\\' then parseEscape c
  else .ok (.literal ⟨c.charSpan, .verbatim, char⟩, c.next)

/-- Reads an item inside brackets: a character, an escape, or a range between two. -/
def parseClassRange (stack : List OpenSet) (c : Cursor) (char : Char) : Outcome (ClassItem × Cursor) := do
  let (first, c) ← parseClassPrimitive c char
  match c.rest with
  | [] => unclosedClass stack
  | ['-'] => unclosedClass stack
  | '-' :: char' :: _ =>
    if char' = ']' ∨ char' = '-' then return (← first.toItem, c)
    else
      let (last, c) ← parseClassPrimitive c.next char'
      let span : Span := ⟨first.span.start, last.span.stop⟩
      let low ← first.toLiteral
      let high ← last.toLiteral
      if low.char ≤ high.char then return (.range span low high, c)
      else fail .classRangeInvalid span
  | _ => return (← first.toItem, c)

/-- Hyphens at the start of brackets, each a literal. -/
def leadingHyphens : (fuel : Nat) → ItemRow → Cursor → ItemRow × Cursor
  | 0, row, c => (row, c)
  | fuel + 1, row, c =>
    match c.rest with
    | '-' :: _ => leadingHyphens fuel (row.push (.literal ⟨c.charSpan, .verbatim, '-'⟩)) c.next
    | _ => (row, c)

/-- Opens brackets. A closing bracket that comes first is a literal. -/
def openBrackets (before : ItemRow) (c : Cursor) : Outcome (OpenSet × ItemRow × Cursor) :=
  let start := c.pos
  let at1 := c.next
  let (negated, inside) :=
    match at1.rest with
    | '^' :: _ => (true, at1.next)
    | _ => (false, at1)
  match at1.rest, inside.rest with
  | [], _ => fail .classUnclosed (at1.since start)
  | _, [] => fail .classUnclosed (inside.since start)
  | _, _ =>
    let (row, c) := leadingHyphens inside.rest.length ⟨inside.here, []⟩ inside
    match row.items, c.rest with
    | _, [] => fail .classUnclosed ⟨start, start⟩
    | [], ']' :: _ =>
      let row := row.push (.literal ⟨c.charSpan, .verbatim, ']'⟩)
      let c := c.next
      if c.rest = [] then fail .classUnclosed (c.since start)
      else .ok (.brackets before (c.since start) negated, row, c)
    | _, _ => .ok (.brackets before (c.since start) negated, row, c)

/-- The class of ASCII characters of a name. -/
def asciiOf? (name : List Char) : Option AsciiKind :=
  match String.ofList name with
  | "alnum" => some .alnum
  | "alpha" => some .alpha
  | "ascii" => some .ascii
  | "blank" => some .blank
  | "cntrl" => some .cntrl
  | "digit" => some .digit
  | "graph" => some .graph
  | "lower" => some .lower
  | "print" => some .print
  | "punct" => some .punct
  | "space" => some .space
  | "upper" => some .upper
  | "word" => some .word
  | "xdigit" => some .xdigit
  | _ => none

/-- Reads a class such as `[:alpha:]`, if one stands at an opening bracket. -/
def asciiClass? (c : Cursor) : Option (AsciiClass × Cursor) :=
  match c.rest with
  | '[' :: ':' :: rest =>
    let inside : Cursor := ⟨c.pos + 2, rest⟩
    let (negated, named) :=
      match rest with
      | '^' :: _ => (true, inside.next)
      | _ => (false, inside)
    let (name, after) := named.takeWhile (· ≠ ':')
    match after.rest, asciiOf? name with
    | ':' :: ']' :: _, some kind =>
      let done := after.next.next
      some (⟨done.since c.pos, kind, negated⟩, done)
    | _, _ => none
  | _ => none

/-- Joins the open operation with its right side, if there is one. -/
def closeOperation (right : ClassSet) : List OpenSet → ClassSet × List OpenSet
  | .operation op left :: rest =>
    (.operation ⟨left.span.start, right.span.stop⟩ op left right, rest)
  | stack => (right, stack)

/-- The operation that two equal characters stand for inside brackets. -/
def setOpOf? : List Char → Option SetOp
  | '&' :: '&' :: _ => some .intersection
  | '-' :: '-' :: _ => some .difference
  | '~' :: '~' :: _ => some .symmetricDifference
  | _ => none

/-- Reads the inside of brackets and their end. Nothing is open when the outermost brackets start. -/
def parseClass : (fuel : Nat) → List OpenSet → ItemRow → Cursor → Outcome (Ast × Cursor)
  | 0, stack, _, _ => unclosedClass stack
  | fuel + 1, stack, row, c =>
    match c.rest with
    | [] => unclosedClass stack
    | '[' :: _ => do
      let named := if stack.isEmpty then none else asciiClass? c
      match named with
      | some (cls, c) => parseClass fuel stack (row.push (.ascii cls)) c
      | none =>
        let (opened, row, c) ← openBrackets row c
        parseClass fuel (opened :: stack) row c
    | ']' :: _ =>
      let (set, stack) := closeOperation (.item row.toItem) stack
      match stack with
      | .brackets before span negated :: rest =>
        let c := c.next
        let span := c.since span.start
        if rest.isEmpty then .ok (.bracketed span negated set, c)
        else parseClass fuel rest (before.push (.bracketed span negated set)) c
      | stack => unclosedClass stack
    | char :: _ =>
      match setOpOf? c.rest with
      | some op =>
        let (set, stack) := closeOperation (.item row.toItem) stack
        let c := c.next.next
        parseClass fuel (.operation op set :: stack) ⟨c.here, []⟩ c
      | none => do
        let (item, c) ← parseClassRange stack c char
        parseClass fuel stack (row.push item) c

/-! ### Groups -/

/-- The flag of a letter. -/
def flagOf? (c : Char) : Option Flag :=
  match c with
  | 'i' => some .caseInsensitive
  | 'm' => some .multiLine
  | 's' => some .dotMatchesNewLine
  | 'U' => some .swapGreed
  | 'u' => some .unicode
  | 'R' => some .carriageReturns
  | 'x' => some .ignoreWhitespace
  | _ => none

/-- Reads flags up to a colon or a closing parenthesis. `seen` holds the flags so far with their
places, in reverse. -/
def parseFlags : (fuel : Nat) → (seen : List (FlagItem × Span)) → Cursor →
    Outcome (List FlagItem × Cursor)
  | 0, _, c => fail .flagUnexpectedEnd c.here
  | fuel + 1, seen, c =>
    match c.rest with
    | [] => fail .flagUnexpectedEnd c.here
    | ch :: _ =>
      if ch = ':' ∨ ch = ')' then
        match seen with
        | (.negation, span) :: _ => fail .flagDanglingNegation span
        | _ => .ok (seen.reverse.map (·.1), c)
      else
        let item? := if ch = '-' then some .negation else (flagOf? ch).map .flag
        match item? with
        | none => fail .flagUnrecognized c.charSpan
        | some item =>
          match seen.lookup item with
          | some earlier =>
            let kind := if item = .negation then .flagRepeatedNegation else .flagDuplicate
            .error ⟨kind, c.charSpan, some earlier⟩
          | none => parseFlags fuel ((item, c.charSpan) :: seen) c.next

/-- Reads the name of a group and the angle bracket after it; `start` is where the name starts. -/
def parseGroupName (start : Nat) : (fuel : Nat) → (name : List Char) → Cursor →
    Outcome ((String × Span) × Cursor)
  | 0, _, c => fail .groupNameUnexpectedEnd c.here
  | fuel + 1, name, c =>
    match c.rest with
    | [] => fail .groupNameUnexpectedEnd c.here
    | ch :: _ =>
      if ch = '>' then
        if name.isEmpty then fail .groupNameEmpty ⟨start, start⟩
        else .ok ((String.ofList name.reverse, c.since start), c.next)
      else if (if name.isEmpty then isNameStart ch else isNamePart ch) then
        parseGroupName start fuel (ch :: name) c.next
      else fail .groupNameInvalid c.charSpan

/-- What an opening parenthesis starts: flags for the rest of the group around it, or a group. -/
inductive Opening where
  | flags (span : Span) (items : List FlagItem)
  | group (kind : GroupKind) (name : Option (String × Span))

/-- Whether a text starts with a look-around, and how many characters its sign has. -/
def lookAround? : List Char → Option Nat
  | '?' :: '=' :: _ => some 2
  | '?' :: '!' :: _ => some 2
  | '?' :: '<' :: '=' :: _ => some 3
  | '?' :: '<' :: '!' :: _ => some 3
  | _ => none

/-- Reads an opening parenthesis and what says which kind it is. -/
def parseOpening (c : Cursor) : Outcome (Opening × Cursor) :=
  let start := c.pos
  let inside := c.next
  match lookAround? inside.rest with
  | some n => fail .lookAround ⟨start, inside.pos + n⟩
  | none =>
    let named (withP : Bool) (c : Cursor) : Outcome (Opening × Cursor) := do
      let (name, c) ← parseGroupName c.pos (c.rest.length + 1) [] c
      return (.group (.named withP name.1) (some name), c)
    match inside.rest with
    | '?' :: 'P' :: '<' :: _ => named true inside.next.next.next
    | '?' :: '<' :: _ => named false inside.next.next
    | ['?'] => fail .groupUnclosed c.charSpan
    | '?' :: _ => do
      let (items, c) ← parseFlags (inside.rest.length + 1) [] inside.next
      match c.rest with
      | ')' :: _ =>
        if items = [] then fail .repetitionMissing inside.here
        else return (.flags (c.next.since start) items, c.next)
      | _ => return (.group (.plain items) none, c.next)
    | _ => .ok (.group .capture none, inside)

/-- Expressions that follow each other: where they start, and the expressions in reverse. -/
structure Row where
  start : Nat
  parts : List Ast

/-- The expressions as one, up to a place. -/
def Row.toAst (r : Row) (stop : Nat) : Ast :=
  match r.parts with
  | [] => .empty ⟨r.start, stop⟩
  | [a] => a
  | parts => .concat ⟨r.start, stop⟩ parts.reverse

/-- What is open outside brackets: a group, with what stands before it, or choices, in reverse. -/
inductive OpenGroup where
  | group (before : Row) (span : Span) (kind : GroupKind)
  | choices (start : Nat) (done : List Ast)

/-- The choices of an alternation as one expression. -/
def choicesToAst (start stop : Nat) (done : List Ast) : Ast :=
  match done with
  | [a] => a
  | done => .alternation ⟨start, stop⟩ done.reverse

/-- Ends the choice that is being read and starts another. -/
def pushChoice (row : Row) (pos : Nat) : List OpenGroup → List OpenGroup
  | .choices start done :: rest => .choices start (row.toAst pos :: done) :: rest
  | stack => .choices row.start [row.toAst pos] :: stack

/-- Closes a group; the cursor stands at the closing parenthesis. -/
def closeGroup (stack : List OpenGroup) (row : Row) (c : Cursor) :
    Outcome (List OpenGroup × Row) :=
  let close (before : Row) (span : Span) (kind : GroupKind) (inner : Ast) (rest : List OpenGroup) :=
    Except.ok (rest, { before with parts := .group ⟨span.start, c.pos + 1⟩ kind inner :: before.parts })
  match stack with
  | .group before span kind :: rest => close before span kind (row.toAst c.pos) rest
  | .choices start done :: .group before span kind :: rest =>
    close before span kind (choicesToAst start c.pos (row.toAst c.pos :: done)) rest
  | _ => fail .groupUnopened c.charSpan

/-- The expression at the end of a pattern, where no group may be open. -/
def closePattern (stack : List OpenGroup) (row : Row) (pos : Nat) : Outcome Ast :=
  match stack with
  | [] => .ok (row.toAst pos)
  | [.choices start done] => .ok (choicesToAst start pos (row.toAst pos :: done))
  | .group _ span _ :: _ => fail .groupUnclosed span
  | .choices _ _ :: .group _ span _ :: _ => fail .groupUnclosed span
  | .choices start _ :: _ => fail .groupUnclosed ⟨start, start⟩

/-! ### Repetitions -/

/-- Takes the last expression of a row to repeat it. -/
def repeated (row : Row) (c : Cursor) : Outcome (Ast × List Ast) :=
  match row.parts with
  | [] => fail .repetitionMissing c.here
  | .empty _ :: _ => fail .repetitionMissing c.here
  | .flags _ _ :: _ => fail .repetitionMissing c.here
  | a :: rest => .ok (a, rest)

/-- Goes past a question mark, which makes a repetition match as little as it can. -/
def lazyMark (c : Cursor) : Bool × Cursor :=
  match c.rest with
  | '?' :: _ => (false, c.next)
  | _ => (true, c)

/-- Repeats the last expression of a row; the cursor stands at the sign. -/
def repeatBySign (row : Row) (c : Cursor) (min : Nat) (max : Option Nat) : Outcome (Row × Cursor) := do
  let (a, rest) ← repeated row c
  let (greedy, c) := lazyMark c.next
  return ({ row with parts := .repetition ⟨a.span.start, c.pos⟩ min max greedy a :: rest }, c)

/-- Reads a decimal number with white space around it. -/
def parseDecimal (c : Cursor) : Outcome (Nat × Cursor) :=
  let (_, c) := c.takeWhile Text.isBlank
  let (digits, after) := c.takeWhile Char.isDigit
  let (_, next) := after.takeWhile Text.isBlank
  if digits = [] then fail .repetitionCountDecimalEmpty (after.since c.pos)
  else
    let n := digits.foldl (fun n d => n * 10 + (d.toNat - 0x30)) 0
    if n < 0x1_0000_0000 then .ok (n, next) else fail .decimalInvalid (after.since c.pos)

/-- The place after a decimal number, whether it is one or not. -/
def afterDecimal (c : Cursor) : Cursor :=
  ((((c.takeWhile Text.isBlank).2.takeWhile Char.isDigit).2).takeWhile Text.isBlank).2

/-- Reads the bounds of a counted repetition after its opening brace, which stands at `start`. An error
in the first bound is reported only when the second one is known not to be missing. -/
def parseBounds (start : Nat) (c : Cursor) : Outcome ((Nat × Option Nat) × Cursor) := do
  if c.rest = [] then fail .repetitionCountUnclosed (c.since start)
  let first := parseDecimal c
  let c := afterDecimal c
  match c.rest with
  | [] => fail .repetitionCountUnclosed (c.since start)
  | ',' :: _ =>
    let c := c.next
    match c.rest with
    | [] => fail .repetitionCountUnclosed (c.since start)
    | '\x7d' :: _ =>
      let (min, _) ← first
      return ((min, none), c)
    | _ =>
      let (min, _) ← first
      let (max, c) ← parseDecimal c
      return ((min, some max), c)
  | _ =>
    let (n, _) ← first
    return ((n, some n), c)

/-- Repeats the last expression of a row; the cursor stands at the opening brace. -/
def repeatByCount (row : Row) (c : Cursor) : Outcome (Row × Cursor) := do
  let start := c.pos
  let (a, rest) ← repeated row c
  let ((min, max), c) ← parseBounds start c.next
  match c.rest with
  | '\x7d' :: _ =>
    let (greedy, c) := lazyMark c.next
    if max.all (min ≤ ·) then
      return ({ row with parts := .repetition ⟨a.span.start, c.pos⟩ min max greedy a :: rest }, c)
    else fail .repetitionCountInvalid (c.since start)
  | _ => fail .repetitionCountUnclosed (c.since start)

/-! ### Expressions -/

/-- An expression of one piece. -/
def Primitive.toAst : Primitive → Ast
  | .literal l => .literal l
  | .assertion s k => .assertion s k
  | .dot s => .dot s
  | .shorthand c => .shorthand c
  | .property c => .property c

/-- Reads an expression of one piece. -/
def parsePrimitive (c : Cursor) (char : Char) : Outcome (Primitive × Cursor) :=
  match char with
  | '\\' => parseEscape c
  | '.' => .ok (.dot c.charSpan, c.next)
  | '^' => .ok (.assertion c.charSpan .startLine, c.next)
  | '$' => .ok (.assertion c.charSpan .endLine, c.next)
  | char => .ok (.literal ⟨c.charSpan, .verbatim, char⟩, c.next)

/-- What has been read of a pattern: the groups that are open, the expressions since the last of them,
the names of groups, and the place. -/
structure Progress where
  stack : List OpenGroup
  row : Row
  names : List (String × Span)
  cursor : Cursor

/-- Opens a group or puts flags into the row. -/
def openGroup (p : Progress) : Outcome Progress := do
  let (opening, c) ← parseOpening p.cursor
  match opening with
  | .flags span items =>
    return { p with row := { p.row with parts := .flags span items :: p.row.parts }, cursor := c }
  | .group kind name =>
    let names ←
      match name with
      | none => .ok p.names
      | some (name, span) =>
        match p.names.lookup name with
        | some earlier => .error ⟨.groupNameDuplicate, span, some earlier⟩
        | none => .ok ((name, span) :: p.names)
    return ⟨.group p.row p.cursor.charSpan kind :: p.stack, ⟨c.pos, []⟩, names, c⟩

/-- Reads one part of a pattern, which starts with `char`. -/
def parsePart (p : Progress) (char : Char) : Outcome Progress := do
  let c := p.cursor
  let put (r : Row × Cursor) : Progress := { p with row := r.1, cursor := r.2 }
  match char with
  | '(' => openGroup p
  | ')' =>
    let (stack, row) ← closeGroup p.stack p.row c
    return { p with stack, row, cursor := c.next }
  | '|' =>
    return { p with stack := pushChoice p.row c.pos p.stack, row := ⟨c.pos + 1, []⟩, cursor := c.next }
  | '[' =>
    let (a, c) ← parseClass (c.rest.length + 1) [] ⟨c.here, []⟩ c
    return put ({ p.row with parts := a :: p.row.parts }, c)
  | '?' => put <$> repeatBySign p.row c 0 (some 1)
  | '*' => put <$> repeatBySign p.row c 0 none
  | '+' => put <$> repeatBySign p.row c 1 none
  | '\x7b' => put <$> repeatByCount p.row c
  | char =>
    let (a, c) ← parsePrimitive c char
    return put ({ p.row with parts := a.toAst :: p.row.parts }, c)

/-- Reads the parts of a pattern to its end. -/
def parseParts : (fuel : Nat) → Progress → Outcome Ast
  | 0, p => closePattern p.stack p.row p.cursor.pos
  | fuel + 1, p =>
    match p.cursor.rest with
    | [] => closePattern p.stack p.row p.cursor.pos
    | char :: _ => do
      let p ← parsePart p char
      parseParts fuel p

/-! ### Nesting -/

/-- Goes one level deeper, unless that is past the limit. -/
def deeper (limit depth : Nat) (span : Span) : Outcome Nat :=
  if limit ≤ depth then fail (.nestLimitExceeded limit) span else .ok (depth + 1)

mutual

/-- Checks the nesting of items inside brackets. -/
def checkItem (limit : Nat) : (depth : Nat) → ClassItem → Outcome Unit
  | depth, .bracketed span _ set => do
    let depth ← deeper limit depth span
    checkSet limit depth set
  | depth, .union span items => do
    let depth ← deeper limit depth span
    checkItems limit depth items
  | _, _ => .ok ()

/-- Checks the nesting of several items. -/
def checkItems (limit : Nat) : (depth : Nat) → List ClassItem → Outcome Unit
  | _, [] => .ok ()
  | depth, i :: rest => do
    checkItem limit depth i
    checkItems limit depth rest

/-- Checks the nesting inside brackets. -/
def checkSet (limit : Nat) : (depth : Nat) → ClassSet → Outcome Unit
  | depth, .item i => checkItem limit depth i
  | depth, .operation span _ left right => do
    let depth ← deeper limit depth span
    checkSet limit depth left
    checkSet limit depth right

end

mutual

/-- Refuses an expression with more than `limit` levels of groups, brackets, repetitions and rows
inside each other. -/
def checkNesting (limit : Nat) : (depth : Nat) → Ast → Outcome Unit
  | depth, .bracketed span _ set => do
    let depth ← deeper limit depth span
    checkSet limit depth set
  | depth, .repetition span _ _ _ inner => do
    let depth ← deeper limit depth span
    checkNesting limit depth inner
  | depth, .group span _ inner => do
    let depth ← deeper limit depth span
    checkNesting limit depth inner
  | depth, .alternation span choices => do
    let depth ← deeper limit depth span
    checkNestings limit depth choices
  | depth, .concat span parts => do
    let depth ← deeper limit depth span
    checkNestings limit depth parts
  | _, _ => .ok ()

/-- Checks the nesting of several expressions. -/
def checkNestings (limit : Nat) : (depth : Nat) → List Ast → Outcome Unit
  | _, [] => .ok ()
  | depth, a :: rest => do
    checkNesting limit depth a
    checkNestings limit depth rest

end

/-- The number of levels that an expression may have. -/
def nestLimit : Nat := 250

/-- The expression of a pattern. -/
def parse (pattern : List Char) : Outcome Ast := do
  let a ← parseParts (pattern.length + 1) ⟨[], ⟨0, []⟩, [], ⟨0, pattern⟩⟩
  checkNesting nestLimit 0 a
  return a

end LoadingCheck.Regex
