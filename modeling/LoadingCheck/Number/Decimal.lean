/-!
# Whole numbers in decimal

A whole number in a command is written with decimal digits, possibly after a sign. The digits are read
from left to right, and the first thing that is wrong is what is reported: a character that is no digit,
or a number that has grown out of its range.

## Main definitions

* `LoadingCheck.Decimal.Fault` — what can be wrong, and `Fault.message`.
* `LoadingCheck.Decimal.readWord` — numbers of 64 bits without sign.
* `LoadingCheck.Decimal.readSigned` — numbers of 64 bits with sign.
-/

namespace LoadingCheck.Decimal

/-- What can be wrong with a number in writing. -/
inductive Fault where
  | empty
  | invalidDigit
  | tooLarge
  | tooSmall
  deriving DecidableEq, Repr

/-- The fault in words. -/
def Fault.message : Fault → String
  | .empty => "cannot parse integer from empty string"
  | .invalidDigit => "invalid digit found in string"
  | .tooLarge => "number too large to fit in target type"
  | .tooSmall => "number too small to fit in target type"

/-- Reads digits that follow those of `value`. A number above `limit` is the fault `overflow`. -/
def readDigits (limit : Nat) (overflow : Fault) : (value : Nat) → List Char → Except Fault Nat
  | value, [] => .ok value
  | value, c :: rest =>
    if c.isDigit then
      let next := value * 10 + (c.toNat - 0x30)
      if limit < next then .error overflow else readDigits limit overflow next rest
    else .error .invalidDigit

/-- Reads at least one digit. -/
def readMagnitude (limit : Nat) (overflow : Fault) (s : List Char) : Except Fault Nat :=
  if s = [] then .error .invalidDigit else readDigits limit overflow 0 s

/-- The largest number of 64 bits without sign. -/
def maxWord : Nat := 0xFFFF_FFFF_FFFF_FFFF

/-- Reads a number of 64 bits without sign. A plus may stand before it. -/
def readWord : List Char → Except Fault Nat
  | [] => .error .empty
  | '+' :: rest => readMagnitude maxWord .tooLarge rest
  | s => readMagnitude maxWord .tooLarge s

/-- Reads a number of 64 bits with sign. -/
def readSigned : List Char → Except Fault Int
  | [] => .error .empty
  | '+' :: rest => do
    let n ← readMagnitude 0x7FFF_FFFF_FFFF_FFFF .tooLarge rest
    return n
  | '-' :: rest => do
    let n ← readMagnitude 0x8000_0000_0000_0000 .tooSmall rest
    return -n
  | s => do
    let n ← readMagnitude 0x7FFF_FFFF_FFFF_FFFF .tooLarge s
    return n

end LoadingCheck.Decimal
