/-!
# Binary64 magnitudes

The finite magnitudes of the 64-bit binary floating-point format, kept as `significand · 2 ^ exponent`
in exact arithmetic, so that every statement about them is one about natural numbers.

## Main definitions

* `LoadingCheck.Magnitude.nearest?` — the magnitude nearest to a quotient, a tie going to the even
  significand, and none where the quotient rounds past the largest finite one.
* `LoadingCheck.Magnitude.ofDecimal?` — the magnitude that a decimal literal denotes.
* `LoadingCheck.Magnitude.shortest` — the fewest decimal digits that read back as the magnitude.
* `LoadingCheck.Magnitude.text` — its usual decimal text.

## Design

A decimal literal is not rounded once but twice or more: its digits, read as a whole number, and the
power of ten are each rounded first, and so is their product or quotient. The last digit of a long
literal can differ from the correctly rounded one.
-/

namespace LoadingCheck

/-- The number `significand · 2 ^ exponent`. -/
structure Magnitude where
  significand : Nat
  exponent : Int
  deriving DecidableEq, Repr

namespace Magnitude

/-- Zero. -/
def zero : Magnitude := ⟨0, 0⟩

/-- The quotient `num / den`, scaled by `2 ^ (-exponent)`, as numerator and denominator. -/
def scaled (num den : Nat) (exponent : Int) : Nat × Nat :=
  if 0 ≤ exponent then (num, den * Nat.pow 2 exponent.toNat) else (num * Nat.pow 2 (-exponent).toNat, den)

/-- The whole number nearest to `num / den`; a tie goes to the even one. -/
def roundHalfEven (num den : Nat) : Nat :=
  let q := num / den
  let r := num % den
  if 2 * r < den then q
  else if den < 2 * r then q + 1
  else if q % 2 = 0 then q else q + 1

/-- The exponent at which `num / den` has 53 significant bits, but at least the smallest one. -/
def exponentOf (num den : Nat) : Int :=
  let guess : Int := (Nat.log2 num : Int) - (Nat.log2 den : Int) - 53
  let (a, b) := scaled num den guess
  let e := if a / b < Nat.pow 2 53 then guess else guess + 1
  max e (-1074)

/-- The magnitude nearest to `num / den`, or none past the largest finite magnitude. -/
def nearest? (num den : Nat) : Option Magnitude :=
  if num = 0 then some zero
  else
    let e := exponentOf num den
    let (a, b) := scaled num den e
    let m := roundHalfEven a b
    let (m, e) := if m = Nat.pow 2 53 then (Nat.pow 2 52, e + 1) else (m, e)
    if 971 < e then none else some ⟨m, e⟩

/-- The magnitude as a quotient of whole numbers. -/
def ratio (x : Magnitude) : Nat × Nat :=
  if 0 ≤ x.exponent then (x.significand * Nat.pow 2 x.exponent.toNat, 1)
  else (x.significand, Nat.pow 2 (-x.exponent).toNat)

/-- The rounded product. -/
def mul? (x y : Magnitude) : Option Magnitude :=
  nearest? (x.ratio.1 * y.ratio.1) (x.ratio.2 * y.ratio.2)

/-- The rounded quotient by a magnitude that is not zero. -/
def div? (x y : Magnitude) : Option Magnitude :=
  nearest? (x.ratio.1 * y.ratio.2) (x.ratio.2 * y.ratio.1)

/-- Scales by a power of ten in steps of at most 308 decimal places. A magnitude below `2 ^ 64` is
zero after the second step down, so a few steps suffice. -/
def scaleByTen? : (steps : Nat) → Magnitude → Int → Option Magnitude
  | 0, x, _ => some x
  | steps + 1, x, places =>
    if places.natAbs ≤ 308 then do
      let power ← nearest? (Nat.pow 10 places.natAbs) 1
      if 0 ≤ places then x.mul? power else x.div? power
    else if x.significand = 0 then some x
    else if 0 ≤ places then none
    else do
      let power ← nearest? (Nat.pow 10 308) 1
      let y ← x.div? power
      scaleByTen? steps y (places + 308)

/-- The magnitude of the literal `digits · 10 ^ places`, or none if it is not finite. -/
def ofDecimal? (digits : Nat) (places : Int) : Option Magnitude := do
  let x ← nearest? digits 1
  scaleByTen? 4 x places

/-- Decimal digits, read as a whole number, and the power of ten that scales them. -/
structure Decimal where
  digits : Nat
  places : Int
  deriving DecidableEq, Repr

/-- Whether `n / d` is rounded to `x`: it lies between the midpoints to the two neighbours, ends
included for an even significand. -/
def roundsTo (x : Magnitude) (n d : Nat) : Bool :=
  let quarter : Magnitude := ⟨1, x.exponent - 2⟩
  let (qn, qd) := quarter.ratio
  let below := if x.significand = Nat.pow 2 52 ∧ -1074 < x.exponent then 1 else 2
  let low := (4 * x.significand - below) * qn
  let high := (4 * x.significand + 2) * qn
  if x.significand % 2 = 0 then low * d ≤ n * qd ∧ n * qd ≤ high * d
  else low * d < n * qd ∧ n * qd < high * d

/-- The decimal of the grid `10 ^ places` nearest to `x` that reads back as `x`. -/
def onGrid? (x : Magnitude) (places : Int) : Option Decimal :=
  let (n, d) := x.ratio
  let (a, b) :=
    if 0 ≤ places then (n, d * Nat.pow 10 places.toNat) else (n * Nat.pow 10 (-places).toNat, d)
  let reads (k : Nat) : Bool :=
    if 0 ≤ places then x.roundsTo (k * Nat.pow 10 places.toNat) 1
    else x.roundsTo k (Nat.pow 10 (-places).toNat)
  let best := roundHalfEven a b
  let other := if best = a / b then best + 1 else a / b
  if reads best then some ⟨best, places⟩
  else if reads other then some ⟨other, places⟩
  else none

/-- The exponent of the leading decimal digit of `n / d`, plus one. -/
def decimalPoint (n d : Nat) : Int :=
  if d ≤ n then (toString (n / d)).length
  else
    let shift := (toString (d / n)).length
    if n * Nat.pow 10 shift < d * 10 then 1 - shift else 2 - shift

/-- The first grid, from coarse to fine, with a decimal that reads back. Seventeen digits always do. -/
def shortest (x : Magnitude) : Decimal :=
  let point := decimalPoint x.ratio.1 x.ratio.2
  ((List.range 18).findSome? fun (n : Nat) => onGrid? x (point - n)).getD ⟨0, 0⟩

/-- Drops zeros at the end of the digits. -/
def Decimal.trimmed : (fuel : Nat) → Decimal → Decimal
  | 0, x => x
  | fuel + 1, x =>
    if x.digits ≠ 0 ∧ x.digits % 10 = 0 then trimmed fuel ⟨x.digits / 10, x.places + 1⟩ else x

/-- The text of a magnitude: positional from `10 ^ (-5)` up to `10 ^ 16`, with a digit after the
point, and outside with an exponent. -/
def text (x : Magnitude) : String :=
  if x.significand = 0 then "0.0"
  else
    let d := x.shortest.trimmed 20
    let ds := toString d.digits
    let point : Int := ds.length + d.places
    let zeros (n : Int) : String := String.ofList (List.replicate n.toNat '0')
    if 0 ≤ d.places ∧ point ≤ 16 then ds ++ zeros d.places ++ ".0"
    else if 0 < point ∧ point ≤ 16 then
      String.ofList (ds.toList.take point.toNat) ++ "." ++ String.ofList (ds.toList.drop point.toNat)
    else if -5 < point ∧ point ≤ 0 then "0." ++ zeros (-point) ++ ds
    else
      let mantissa :=
        match ds.toList with
        | [] => ""
        | [c] => String.ofList [c]
        | c :: rest => String.ofList (c :: '.' :: rest)
      mantissa ++ "e" ++ toString (point - 1)

end Magnitude

end LoadingCheck
