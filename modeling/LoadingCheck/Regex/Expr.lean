import LoadingCheck.Regex.Parser
import LoadingCheck.Unicode.Lookup

/-!
# Meaning of regular expressions

What an expression can match, without the way it is written: characters from sets, conditions on
places, repetitions, choices and rows.

## Main definitions

* `LoadingCheck.Regex.Look` — conditions on a place in a text.
* `LoadingCheck.Regex.Expr` — expressions by their meaning.
* `LoadingCheck.Regex.Ast.toExpr` — the meaning of an expression, if all its classes have one.

## Design

A text has one beginning and one end: lines play no part, and letters differ by case. Flags could
change that; an expression with flags has no meaning here.
-/

namespace LoadingCheck.Regex

/-- Conditions on a place in a text. -/
inductive Look where
  | start
  | stop
  | word
  | notWord
  | wordStart
  | wordEnd
  | wordStartHalf
  | wordEndHalf
  deriving DecidableEq, Repr

/-- A regular expression by its meaning. -/
inductive Expr where
  | empty
  | chars (set : CharSet)
  | look (look : Look)
  | repetition (min : Nat) (max : Option Nat) (inner : Expr)
  | capture (inner : Expr)
  | concat (parts : List Expr)
  | alternation (choices : List Expr)
  deriving Repr

/-! ### Classes -/

/-- The characters of a shorthand. -/
def Shorthand.set : Shorthand → CharSet
  | .digit => Unicode.Category.decimalNumber
  | .space => Unicode.Property.whiteSpace
  | .word => Unicode.Property.wordCharacter

/-- The characters of an ASCII class. -/
def AsciiKind.set (kind : AsciiKind) : CharSet :=
  .ofText <|
    match kind with
    | .alnum => "30-39 41-5A 61-7A"
    | .alpha => "41-5A 61-7A"
    | .ascii => "0-7F"
    | .blank => "9 20"
    | .cntrl => "0-1F 7F"
    | .digit => "30-39"
    | .graph => "21-7E"
    | .lower => "61-7A"
    | .print => "20-7E"
    | .punct => "21-2F 3A-40 5B-60 7B-7E"
    | .space => "9-D 20"
    | .upper => "41-5A"
    | .word => "30-39 41-5A 5F 61-7A"
    | .xdigit => "30-39 41-46 61-66"

/-- A set or its complement. -/
def negateIf (negated : Bool) (s : CharSet) : CharSet :=
  if negated then s.compl else s

/-- The characters that a name in a class stands for. Whether a value is to differ plays no part. -/
def PropertyQuery.set : PropertyQuery → Except Unicode.LookupError CharSet
  | .letter c => Unicode.byName [c]
  | .name text => Unicode.byName text.toList
  | .value property _ word => Unicode.byValue property.toList word.toList

/-- The characters of a property class. -/
def PropertyClass.set (c : PropertyClass) : Outcome CharSet :=
  match c.query.set with
  | .ok s => .ok (negateIf c.negated s)
  | .error .noProperty => fail .propertyNotFound c.span
  | .error .noValue => fail .propertyValueNotFound c.span

mutual

/-- The characters of an item inside brackets. -/
def ClassItem.set : ClassItem → Outcome CharSet
  | .empty _ => .ok .empty
  | .literal l => .ok (.singleton l.char)
  | .range _ first last => .ok ⟨[(first.char.toNat, last.char.toNat)]⟩
  | .ascii c => .ok (negateIf c.negated c.kind.set)
  | .shorthand c => .ok (negateIf c.negated c.kind.set)
  | .property c => c.set
  | .bracketed _ negated set => do
    let s ← set.set
    return negateIf negated s
  | .union _ items => do
    let sets ← ClassItem.sets items
    return .unions sets

/-- The characters of several items. -/
def ClassItem.sets : List ClassItem → Outcome (List CharSet)
  | [] => .ok []
  | i :: rest => do
    let s ← i.set
    let more ← ClassItem.sets rest
    return s :: more

/-- The characters of the inside of brackets. -/
def ClassSet.set : ClassSet → Outcome CharSet
  | .item i => i.set
  | .operation _ op left right => do
    let l ← left.set
    let r ← right.set
    match op with
    | .intersection => return l.inter r
    | .difference => return l.diff r
    | .symmetricDifference => return l.symmDiff r

end

/-! ### Expressions -/

/-- The condition of an assertion. -/
def Assertion.look : Assertion → Look
  | .startLine => .start
  | .endLine => .stop
  | .startText => .start
  | .endText => .stop
  | .wordBoundary => .word
  | .notWordBoundary => .notWord
  | .wordStart => .wordStart
  | .wordEnd => .wordEnd
  | .wordStartAngle => .wordStart
  | .wordEndAngle => .wordEnd
  | .wordStartHalf => .wordStartHalf
  | .wordEndHalf => .wordEndHalf

mutual

/-- Whether an expression matches the empty text only, if it matches at all. -/
def Expr.isThin : Expr → Bool
  | .empty => true
  | .look _ => true
  | .chars _ => false
  | .repetition _ max inner => max == some 0 || inner.isThin
  | .capture inner => inner.isThin
  | .concat parts => Expr.allThin parts
  | .alternation choices => Expr.allThin choices

/-- Whether all expressions match the empty text only. -/
def Expr.allThin : List Expr → Bool
  | [] => true
  | e :: rest => e.isThin && Expr.allThin rest

end

/-- A repetition. To repeat what matches the empty text only more than once changes nothing; to repeat
nothing is the empty expression, and to repeat once is the expression itself. -/
def Expr.repeated (min : Nat) (max : Option Nat) (inner : Expr) : Expr :=
  let (min, max) :=
    if inner.isThin then (Nat.min min 1, some (Nat.min (max.getD 1) 1)) else (min, max)
  if min = 0 ∧ max = some 0 then .empty
  else if min = 1 ∧ max = some 1 then inner
  else .repetition min max inner

/-- Any character but a line feed. -/
def dotSet : CharSet :=
  (CharSet.singleton '\n').compl

mutual

/-- The meaning of an expression. -/
def Ast.toExpr : Ast → Outcome Expr
  | .empty _ => .ok .empty
  | .flags span _ => fail .flagsUnsupported span
  | .literal l => .ok (.chars (.singleton l.char))
  | .dot _ => .ok (.chars dotSet)
  | .assertion _ kind => .ok (.look kind.look)
  | .shorthand c => .ok (.chars (negateIf c.negated c.kind.set))
  | .property c => do
    let s ← c.set
    return .chars s
  | .bracketed _ negated set => do
    let s ← set.set
    return .chars (negateIf negated s)
  | .repetition _ min max _ inner => do
    let e ← inner.toExpr
    return .repeated min max e
  | .group span kind inner => do
    let e ← inner.toExpr
    match kind with
    | .plain [] => return e
    | .plain _ => fail .flagsUnsupported span
    | .capture => return .capture e
    | .named _ _ => return .capture e
  | .alternation _ choices => do
    let es ← Ast.toExprs choices
    return .alternation es
  | .concat _ parts => do
    let es ← Ast.toExprs parts
    return .concat es

/-- The meanings of several expressions. -/
def Ast.toExprs : List Ast → Outcome (List Expr)
  | [] => .ok []
  | a :: rest => do
    let e ← a.toExpr
    let more ← Ast.toExprs rest
    return e :: more

end

end LoadingCheck.Regex
