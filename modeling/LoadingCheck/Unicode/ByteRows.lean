import LoadingCheck.Unicode.CharSet

/-!
# Sets of characters as rows of byte ranges

The encodings of a range of characters in UTF-8 fall into rows: a row gives a range of bytes for each
place, and stands for all encodings with a byte of the range at each place. A range of characters is
split where the number of bytes changes, and then at its ragged ends, so that the rows are as few as
possible.

## Main definitions

* `LoadingCheck.ByteRow` — ranges of bytes, one for each place of an encoding.
* `LoadingCheck.CharSet.byteRows` — the rows of a set, in increasing order.
-/

namespace LoadingCheck

/-- Ranges of bytes, one for each place of an encoding. -/
abbrev ByteRow := List (Nat × Nat)

namespace ByteRow

/-- The values that `count` places with six bits each can hold. -/
def span (count : Nat) : Nat :=
  Nat.pow 64 count

/-- A place of a continuation byte that may be any. -/
def anyContinuation : Nat × Nat :=
  (0x80, 0xBF)

/-- The rows for the values from `first` to `last`. The first byte of a row is its top digit added to
`mark`; below it stand `count` digits of six bits. -/
def ofValues : (count mark first last : Nat) → List ByteRow
  | 0, mark, first, last => [[(mark + first, mark + last)]]
  | count + 1, mark, first, last =>
    let size := span (count + 1)
    let top := first / size
    let top' := last / size
    if top = top' then
      (ofValues count 0x80 (first % size) (last % size)).map ((mark + top, mark + top) :: ·)
    else
      let ragged := first % size ≠ 0
      let ragged' := last % size ≠ size - 1
      let left :=
        if ragged then
          (ofValues count 0x80 (first % size) (size - 1)).map ((mark + top, mark + top) :: ·)
        else []
      let right :=
        if ragged' then
          (ofValues count 0x80 0 (last % size)).map ((mark + top', mark + top') :: ·)
        else []
      let from' := if ragged then top + 1 else top
      let upTo := if ragged' then top' else top' + 1
      let middle :=
        if from' < upTo then
          [(mark + from', mark + (upTo - 1)) :: List.replicate (count + 1) anyContinuation]
        else []
      left ++ middle ++ right

/-- The lengths of encodings: the continuation bytes, the mark of the first byte, and the code points. -/
def lengths : List (Nat × Nat × Nat × Nat) :=
  [(0, 0, 0, 0x7F), (1, 0xC0, 0x80, 0x7FF), (2, 0xE0, 0x800, 0xFFFF), (3, 0xF0, 0x10000, 0x10FFFF)]

/-- The rows for a range of code points without surrogates. -/
def ofRange (range : Nat × Nat) : List ByteRow :=
  lengths.flatMap fun (count, mark, low, high) =>
    let first := max low range.1
    let last := min high range.2
    if first ≤ last then ofValues count mark first last else []

end ByteRow

/-- The rows of byte ranges for the characters of a set. -/
def CharSet.byteRows (s : CharSet) : List ByteRow :=
  (s.diff .surrogates).ranges.flatMap ByteRow.ofRange

end LoadingCheck
