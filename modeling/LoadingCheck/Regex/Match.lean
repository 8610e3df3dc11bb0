import LoadingCheck.Regex.Expr

/-!
# Matching

A text of `n` characters has `n + 1` places, numbered from zero. A set of places is kept as a natural
number with a bit for each place. An expression carries a set of places to the set of those places
that a match from one of them can end at, and it matches a text if it carries all places to some.

## Main definitions

* `LoadingCheck.Regex.Sweep` — an expression with its conditions worked out for one text.
* `LoadingCheck.Regex.Sweep.run` — where matches from a set of places end.
* `LoadingCheck.Regex.Expr.isMatch` — whether an expression matches somewhere in a text.
-/

namespace LoadingCheck.Regex

/-- An expression with its conditions worked out for one text: instead of a set of characters or a
condition on a place it has the set of places where they hold. -/
inductive Sweep where
  | pass
  /-- Over a character, from the given places. -/
  | step (places : Nat)
  /-- Nowhere, from the given places. -/
  | stay (places : Nat)
  | repetition (min : Nat) (max : Option Nat) (inner : Sweep)
  | row (parts : List Sweep)
  | choice (choices : List Sweep)
  deriving Repr

/-- The set of the places in a text whose next character satisfies `p`. -/
def placesBefore (p : Char → Bool) : List Char → Nat
  | [] => 0
  | c :: rest => (if p c then 1 else 0) + 2 * placesBefore p rest

/-- All places in a text. -/
def allPlaces (text : List Char) : Nat :=
  Nat.pow 2 (text.length + 1) - 1

/-- The places in a text where a condition holds. A place stands after a word character or not, and
before one or not. -/
def Look.places (text : List Char) : Look → Nat
  | .start => 1
  | .stop => Nat.pow 2 text.length
  | look =>
    let before := placesBefore Unicode.Property.wordCharacter.contains text
    let after := 2 * before
    let all := allPlaces text
    match look with
    | .word => before ^^^ after
    | .notWord => (before ^^^ after) ^^^ all
    | .wordStart => before &&& (after ^^^ all)
    | .wordEnd => after &&& (before ^^^ all)
    | .wordStartHalf => after ^^^ all
    | _ => before ^^^ all

mutual

/-- Works out the conditions of an expression for a text. -/
def Expr.sweep (text : List Char) : Expr → Sweep
  | .empty => .pass
  | .chars set => .step (placesBefore set.contains text)
  | .look l => .stay (l.places text)
  | .repetition min max inner => .repetition min max (inner.sweep text)
  | .capture inner => inner.sweep text
  | .concat parts => .row (Expr.sweeps text parts)
  | .alternation choices => .choice (Expr.sweeps text choices)

/-- Works out the conditions of several expressions. -/
def Expr.sweeps (text : List Char) : List Expr → List Sweep
  | [] => []
  | e :: rest => e.sweep text :: Expr.sweeps text rest

end

/-- Applies `f` so many times, or until nothing changes. -/
def iterate (f : Nat → Nat) : (times : Nat) → Nat → Nat
  | 0, s => s
  | times + 1, s =>
    let s' := f s
    if s' = s then s else iterate f times s'

/-- The places that can be reached by at most so many applications of `f`. -/
def reachable (f : Nat → Nat) (times s : Nat) : Nat :=
  iterate (fun t => t ||| f t) times s

mutual

/-- The places where matches end that start from a set of places in a text with `count` places. -/
def Sweep.run (count : Nat) : Sweep → Nat → Nat
  | .pass, s => s
  | .step places, s => (s &&& places) <<< 1
  | .stay places, s => s &&& places
  | .repetition min max inner, s =>
    let s := iterate (inner.run count) min s
    match max with
    | some max => reachable (inner.run count) (max - min) s
    | none => reachable (inner.run count) count s
  | .row parts, s => Sweep.runRow count parts s
  | .choice choices, s => Sweep.runChoice count choices s

/-- The places where matches of a row end. -/
def Sweep.runRow (count : Nat) : List Sweep → Nat → Nat
  | [], s => s
  | e :: rest, s => Sweep.runRow count rest (e.run count s)

/-- The places where matches of one of several expressions end. -/
def Sweep.runChoice (count : Nat) : List Sweep → Nat → Nat
  | [], _ => 0
  | e :: rest, s => e.run count s ||| Sweep.runChoice count rest s

end

/-- Whether an expression matches a part of a text. -/
def Expr.isMatch (e : Expr) (text : List Char) : Bool :=
  (e.sweep text).run (text.length + 1) (allPlaces text) != 0

end LoadingCheck.Regex
