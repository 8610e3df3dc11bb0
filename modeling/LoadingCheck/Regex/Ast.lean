/-!
# Abstract syntax of regular expressions

What a regular expression is written as, before it means anything. Every node knows the part of the
pattern it was read from, so that an error can point at it.

## Main definitions

* `LoadingCheck.Regex.Span` — a part of a pattern.
* `LoadingCheck.Regex.ClassItem`, `LoadingCheck.Regex.ClassSet` — the inside of brackets.
* `LoadingCheck.Regex.Ast` — expressions.
-/

namespace LoadingCheck.Regex

/-- The part of a pattern from one character up to another, counted from zero. -/
structure Span where
  start : Nat
  stop : Nat
  deriving DecidableEq, Repr

/-- How a literal character is written. -/
inductive LiteralKind where
  /-- The character itself. -/
  | verbatim
  /-- A backslash before a character with a meaning of its own. -/
  | escaped
  /-- A backslash before a character that needs none. -/
  | superfluous
  /-- A fixed number of hexadecimal digits. -/
  | hexFixed
  /-- Hexadecimal digits in braces. -/
  | hexBrace
  /-- A letter that stands for a control character. -/
  | special
  deriving DecidableEq, Repr

/-- A literal character. -/
structure Literal where
  span : Span
  kind : LiteralKind
  char : Char
  deriving DecidableEq, Repr

/-- Conditions on a place between characters. -/
inductive Assertion where
  | startLine
  | endLine
  | startText
  | endText
  | wordBoundary
  | notWordBoundary
  /-- `\b{start}` -/
  | wordStart
  /-- `\b{end}` -/
  | wordEnd
  /-- `\<` -/
  | wordStartAngle
  /-- `\>` -/
  | wordEndAngle
  /-- `\b{start-half}` -/
  | wordStartHalf
  /-- `\b{end-half}` -/
  | wordEndHalf
  deriving DecidableEq, Repr

/-- The classes that a backslash and one letter stand for. -/
inductive Shorthand where
  | digit
  | space
  | word
  deriving DecidableEq, Repr

/-- A class such as `\d`, or its complement. -/
structure ShorthandClass where
  span : Span
  kind : Shorthand
  negated : Bool
  deriving DecidableEq, Repr

/-- How a class names a property. -/
inductive PropertyQuery where
  | letter (name : Char)
  | name (name : String)
  /-- A property, whether its value is to differ, and the value. -/
  | value (property : String) (differs : Bool) (value : String)
  deriving DecidableEq, Repr

/-- A class such as `\pL` or `\p{Greek}`, or its complement. -/
structure PropertyClass where
  span : Span
  negated : Bool
  query : PropertyQuery
  deriving DecidableEq, Repr

/-- The classes of ASCII characters with a name. -/
inductive AsciiKind where
  | alnum | alpha | ascii | blank | cntrl | digit | graph | lower | print | punct | space | upper
  | word | xdigit
  deriving DecidableEq, Repr

/-- A class such as `[:alpha:]`, or its complement. -/
structure AsciiClass where
  span : Span
  kind : AsciiKind
  negated : Bool
  deriving DecidableEq, Repr

/-- Operations on two sets inside brackets. -/
inductive SetOp where
  /-- `&&` -/
  | intersection
  /-- `--` -/
  | difference
  /-- `~~` -/
  | symmetricDifference
  deriving DecidableEq, Repr

mutual

/-- One item inside brackets. -/
inductive ClassItem where
  | empty (span : Span)
  | literal (literal : Literal)
  | range (span : Span) (first last : Literal)
  | ascii (ascii : AsciiClass)
  | shorthand (shorthand : ShorthandClass)
  | property (property : PropertyClass)
  | bracketed (span : Span) (negated : Bool) (set : ClassSet)
  | union (span : Span) (items : List ClassItem)
  deriving Repr

/-- The inside of brackets. -/
inductive ClassSet where
  | item (item : ClassItem)
  | operation (span : Span) (op : SetOp) (left right : ClassSet)
  deriving Repr

end

/-- The flags that an expression can set. -/
inductive Flag where
  | caseInsensitive
  | multiLine
  | dotMatchesNewLine
  | swapGreed
  | unicode
  | carriageReturns
  | ignoreWhitespace
  deriving DecidableEq, Repr

/-- One of the characters between `(?` and the end of a list of flags. -/
inductive FlagItem where
  | negation
  | flag (flag : Flag)
  deriving DecidableEq, Repr

/-- What the parentheses of a group are for. -/
inductive GroupKind where
  /-- To capture what they match. -/
  | capture
  /-- To capture it under a name; `(?P<` is one way to write it and `(?<` another. -/
  | named (withP : Bool) (name : String)
  /-- To group only, with flags for the inside. -/
  | plain (flags : List FlagItem)
  deriving DecidableEq, Repr

/-- A regular expression. -/
inductive Ast where
  | empty (span : Span)
  /-- Flags for the rest of the group. -/
  | flags (span : Span) (items : List FlagItem)
  | literal (literal : Literal)
  | dot (span : Span)
  | assertion (span : Span) (kind : Assertion)
  | shorthand (shorthand : ShorthandClass)
  | property (property : PropertyClass)
  | bracketed (span : Span) (negated : Bool) (set : ClassSet)
  /-- At least `min` times, and at most `max` times if it is given. -/
  | repetition (span : Span) (min : Nat) (max : Option Nat) (greedy : Bool) (inner : Ast)
  | group (span : Span) (kind : GroupKind) (inner : Ast)
  | alternation (span : Span) (choices : List Ast)
  | concat (span : Span) (parts : List Ast)
  deriving Repr

/-- The part of the pattern that an expression was read from. -/
def Ast.span : Ast → Span
  | .empty s => s
  | .flags s _ => s
  | .literal l => l.span
  | .dot s => s
  | .assertion s _ => s
  | .shorthand c => c.span
  | .property c => c.span
  | .bracketed s _ _ => s
  | .repetition s _ _ _ _ => s
  | .group s _ _ => s
  | .alternation s _ => s
  | .concat s _ => s

/-- The part of the pattern that an item was read from. -/
def ClassItem.span : ClassItem → Span
  | .empty s => s
  | .literal l => l.span
  | .range s _ _ => s
  | .ascii c => c.span
  | .shorthand c => c.span
  | .property c => c.span
  | .bracketed s _ _ => s
  | .union s _ => s

/-- The part of the pattern that the inside of brackets was read from. -/
def ClassSet.span : ClassSet → Span
  | .item i => i.span
  | .operation s _ _ _ => s

end LoadingCheck.Regex
