/-!
# Sets of characters

A set of characters is kept as a list of closed ranges of code points in increasing order, no two of
which overlap or touch. Surrogates are not characters: no complement contains them.

## Main definitions

* `LoadingCheck.CharSet` — sets of characters.
* `LoadingCheck.CharSet.contains` — membership.
* `LoadingCheck.CharSet.ofRanges` — the set of ranges in any order.
* `LoadingCheck.CharSet.union`, `inter`, `diff`, `symmDiff`, `compl` — the Boolean operations.
* `LoadingCheck.CharSet.ofText` — the set written as a list of hexadecimal ranges.
-/

namespace LoadingCheck

/-- A set of characters: closed ranges of code points. -/
structure CharSet where
  ranges : List (Nat × Nat)
  deriving DecidableEq, Repr

namespace CharSet

/-- The largest code point. -/
def maxCode : Nat := 0x10FFFF

/-- The set without characters. -/
def empty : CharSet := ⟨[]⟩

/-- The set of all characters. -/
def any : CharSet := ⟨[(0, 0xD7FF), (0xE000, maxCode)]⟩

/-- Whether the code point lies in one of the ranges. -/
def containsCode (s : CharSet) (n : Nat) : Bool :=
  s.ranges.any fun r => r.1 ≤ n && n ≤ r.2

/-- Whether the set has the character. -/
def contains (s : CharSet) (c : Char) : Bool :=
  s.containsCode c.toNat

/-- Joins ranges that overlap or touch; they are in increasing order of their starts. -/
def coalesce : Nat × Nat → List (Nat × Nat) → List (Nat × Nat)
  | r, [] => [r]
  | r, q :: rest =>
    if q.1 ≤ r.2 + 1 then coalesce (r.1, max r.2 q.2) rest else r :: coalesce q rest

/-- The set of ranges in increasing order of their starts. -/
def ofSorted : List (Nat × Nat) → CharSet
  | [] => empty
  | r :: rest => ⟨coalesce r rest⟩

/-- The set of ranges in any order. -/
def ofRanges (rs : List (Nat × Nat)) : CharSet :=
  ofSorted (rs.mergeSort fun a b => a.1 ≤ b.1)

/-- The set of one character. -/
def singleton (c : Char) : CharSet := ⟨[(c.toNat, c.toNat)]⟩

/-- The characters of either set. -/
def union (s t : CharSet) : CharSet :=
  ofSorted (s.ranges.merge t.ranges fun a b => a.1 ≤ b.1)

/-- The code points from `start` on that lie in no range. -/
def gaps : (start : Nat) → List (Nat × Nat) → List (Nat × Nat)
  | start, [] => if start ≤ maxCode then [(start, maxCode)] else []
  | start, r :: rest =>
    if start < r.1 then (start, r.1 - 1) :: gaps (r.2 + 1) rest else gaps (r.2 + 1) rest

/-- The surrogates, which are code points but not characters. -/
def surrogates : CharSet := ⟨[(0xD800, 0xDFFF)]⟩

/-- The characters that are not in the set. -/
def compl (s : CharSet) : CharSet :=
  ⟨gaps 0 (s.union surrogates).ranges⟩

/-- The characters of both sets. -/
def inter (s t : CharSet) : CharSet :=
  (s.compl.union t.compl).compl

/-- The characters of the first set that are not in the second. -/
def diff (s t : CharSet) : CharSet :=
  s.inter t.compl

/-- The characters of exactly one of the sets. -/
def symmDiff (s t : CharSet) : CharSet :=
  (s.diff t).union (t.diff s)

/-- The union of several sets. -/
def unions (sets : List CharSet) : CharSet :=
  ofRanges (sets.flatMap ranges)

/-! ### Written sets -/

/-- The value of a hexadecimal digit in upper case. -/
def hexDigit (c : Char) : Nat :=
  if c.isDigit then c.toNat - 0x30 else c.toNat - 0x41 + 10

/-- The number that hexadecimal digits write. -/
def hexNumber (cs : List Char) : Nat :=
  cs.foldl (fun n c => n * 16 + hexDigit c) 0

/-- A range in writing: one code point, two with a hyphen between them, or two with a slash between
them for every other code point. -/
def parseRange (word : List Char) : List (Nat × Nat) :=
  let first := hexNumber (word.takeWhile fun c => c != '-' && c != '/')
  match word.dropWhile fun c => c != '-' && c != '/' with
  | '-' :: last => [(first, hexNumber last)]
  | '/' :: last =>
    (List.range ((hexNumber last - first) / 2 + 1)).map fun i => (first + 2 * i, first + 2 * i)
  | _ => [(first, first)]

/-- The words of a text, which have spaces or line ends between them. -/
def words (s : List Char) : List (List Char) :=
  ((s.splitOn '\n').flatMap (·.splitOn ' ')).filter (· ≠ [])

/-- The set written as ranges of hexadecimal numbers with spaces or line ends between them. -/
def ofText (s : String) : CharSet :=
  ofSorted ((words s.toList).flatMap parseRange)

end CharSet

end LoadingCheck
