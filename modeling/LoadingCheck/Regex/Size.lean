import LoadingCheck.Regex.Expr
import LoadingCheck.Text.Utf8
import LoadingCheck.Unicode.ByteRows

/-!
# Size of an expression

To find matches in bytes, an expression is turned into a machine with states and transitions, one that
reads forwards and one that reads backwards. The memory for either is limited; what the limit is, is left to
the caller. Here the memory is counted without a machine, so that an expression with large repetitions costs
nothing to refuse.

## Main definitions

* `LoadingCheck.Regex.Direction` — the ways that a machine can read.
* `LoadingCheck.Regex.Expr.size` — the memory for an expression.
* `LoadingCheck.Regex.Expr.fits` — whether its machines keep to the limit.

## Design

Every state costs the same, a transition for a range of bytes costs something on top, and so does each
way out of a state with several. A character is a row of states for its bytes. A set of ASCII characters
is one state with its ranges. Any other set reads forwards through a tree of byte ranges in which equal
ends are shared, and backwards through the rows one by one in which equal ends are shared too. The choices of
an alternation are counted in full, also where they start with the same characters.
-/

namespace LoadingCheck.Regex

/-- The ways that a machine can read. -/
inductive Direction where
  | forwards
  | backwards
  deriving DecidableEq, Repr

namespace Size

/-- The memory for a state. -/
def state : Nat := 32

/-- The memory for a transition on a range of bytes. -/
def transition : Nat := 8

/-- The memory for a way out of a state with several. -/
def way : Nat := 4

/-- The memory for a state with the given number of ways out. -/
def fork (ways : Nat) : Nat :=
  state + way * ways

/-- The most memory that a machine may take, unless another limit is given. -/
def limit : Nat := 10485760

/-! ### Sets of characters -/

/-- The first ranges of rows, without repetition: rows with one first range stand together. -/
def heads (rows : List ByteRow) : List (Nat × Nat) :=
  (rows.filterMap List.head?).eraseReps

/-- What the rows look like after a first range. -/
def after (rows : List ByteRow) (range : Nat × Nat) : List ByteRow :=
  rows.filterMap fun
    | [] => none
    | r :: rest => if r = range then some rest else none

/-- The nodes of the tree of rows: for each, the rows that are left there. The rows have at most
`depth` places. -/
def nodes : (depth : Nat) → List ByteRow → List (List ByteRow)
  | 0, _ => []
  | depth + 1, rows =>
    let below := ((heads rows).map (after rows)).filter (· ≠ [[]])
    rows :: (below.eraseDups.flatMap (nodes depth))

/-- The memory for reading one of the rows forwards. -/
def forwardRows (rows : List ByteRow) : Nat :=
  (nodes 4 rows).eraseDups.foldl (fun size n => size + (state + transition * (heads n).length)) state

/-- The starts of a row that are not empty. -/
def starts (row : ByteRow) : List ByteRow :=
  (List.range row.length).map fun n => row.take (n + 1)

/-- The memory for reading one of the rows backwards. -/
def backwardRows (rows : List ByteRow) : Nat :=
  fork rows.length + state + state * (rows.flatMap starts).eraseDups.length

/-- The memory for a set of characters. -/
def chars (direction : Direction) (set : CharSet) : Nat :=
  match set.ranges with
  | [(first, last)] =>
    if first = last then state * (Utf8.encode [Char.ofNat first]).length else many
  | _ => many
where
  /-- The memory for a set with other than one character. -/
  many : Nat :=
    if set.ranges.all fun r => r.2 < 0x80 then
      state + (state + transition * set.ranges.length)
    else
      match direction with
      | .forwards => forwardRows set.byteRows
      | .backwards => backwardRows set.byteRows

/-! ### Repetitions -/

/-- The memory for a repetition of something with the given size, which either takes a character each
time or not. -/
def repetition (min : Nat) (max : Option Nat) (inner : Nat) (takesOne : Bool) : Nat :=
  match min, max with
  | 0, some 1 => fork 2 + inner + state
  | 0, none => if takesOne then fork 2 + inner else inner + fork 2 + fork 2 + state
  | n, none => n * inner + fork 2
  | n, some m =>
    let always := if n = 0 then state else n * inner
    if n = m then always else always + state + (m - n) * (fork 2 + inner)

end Size

/-! ### Expressions -/

/-- The set of characters that an expression is, if it is one. -/
def Expr.set? : Expr → Option CharSet
  | .chars set => some set
  | _ => none

mutual

/-- Whether an expression takes at least one character for every match. -/
def Expr.takesOne : Expr → Bool
  | .empty => false
  | .chars _ => true
  | .look _ => false
  | .repetition min _ inner => min != 0 && inner.takesOne
  | .capture inner => inner.takesOne
  | .concat parts => Expr.someTakesOne parts
  | .alternation choices => Expr.allTakeOne choices

/-- Whether one of the expressions takes a character for every match. -/
def Expr.someTakesOne : List Expr → Bool
  | [] => false
  | e :: rest => e.takesOne || Expr.someTakesOne rest

/-- Whether each of the expressions takes a character for every match. -/
def Expr.allTakeOne : List Expr → Bool
  | [] => true
  | e :: rest => e.takesOne && Expr.allTakeOne rest

end

mutual

/-- The memory for an expression. A choice between characters is one set. -/
def Expr.size (direction : Direction) : Expr → Nat
  | .empty => Size.state
  | .chars set => Size.chars direction set
  | .look _ => Size.state
  | .repetition min max inner => Size.repetition min max (inner.size direction) inner.takesOne
  | .capture inner =>
    match direction with
    | .forwards => Size.state + inner.size direction + Size.state
    | .backwards => inner.size direction
  | .concat parts => Expr.sizes direction parts
  | .alternation choices =>
    match choices.mapM Expr.set? with
    | some sets => Size.chars direction (.unions sets)
    | none => Size.fork choices.length + Expr.sizes direction choices + Size.state

/-- The memory for several expressions. -/
def Expr.sizes (direction : Direction) : List Expr → Nat
  | [] => 0
  | e :: rest => e.size direction + Expr.sizes direction rest

end

/-- Whether the machines of an expression keep to a limit. -/
def Expr.fits (limit : Nat) (e : Expr) : Bool :=
  e.size .forwards ≤ limit && e.size .backwards ≤ limit

end LoadingCheck.Regex
