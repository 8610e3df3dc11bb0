/-!
# UTF-8

Bytes are decoded one at a time. Between two bytes the decoder either stands between characters or
holds a character that is not complete, with the range that its next byte has to lie in. A byte that
cannot continue the character closes it as malformed and is then read as the first byte of the next
one, so that a malformed stretch counts once for every longest start of a character in it.

## Main definitions

* `LoadingCheck.Utf8.encode` — the bytes of a text.
* `LoadingCheck.Utf8.units` — the characters of a byte sequence, `none` for a malformed stretch.
* `LoadingCheck.Utf8.decodeLossy` — the same with U+FFFD for a malformed stretch.
* `LoadingCheck.Utf8.decode?` — the text, if no stretch is malformed.
-/

namespace LoadingCheck.Utf8

/-- The bytes of a text in UTF-8. -/
def encode (s : List Char) : List UInt8 :=
  s.flatMap String.utf8EncodeChar

/-- A character that is not complete: the value so far, the number of bytes it still needs, and the
bounds of the next one. -/
structure Pending where
  value : Nat
  owed : Nat
  low : Nat
  high : Nat
  deriving DecidableEq, Repr

/-- What a first byte says. -/
inductive Lead where
  /-- A character of one byte. -/
  | whole (c : Char)
  /-- The first byte of a longer character. -/
  | opens (p : Pending)
  /-- A byte that no character starts with. -/
  | malformed
  deriving DecidableEq, Repr

/-- Reads the first byte of a character. The bounds of the second byte leave out overlong forms, the
surrogates and everything above U+10FFFF. -/
def lead (b : Nat) : Lead :=
  if b < 0x80 then .whole (Char.ofNat b)
  else if b < 0xC2 then .malformed
  else if b < 0xE0 then .opens ⟨b - 0xC0, 1, 0x80, 0xBF⟩
  else if b = 0xE0 then .opens ⟨0, 2, 0xA0, 0xBF⟩
  else if b = 0xED then .opens ⟨0xD, 2, 0x80, 0x9F⟩
  else if b < 0xF0 then .opens ⟨b - 0xE0, 2, 0x80, 0xBF⟩
  else if b = 0xF0 then .opens ⟨0, 3, 0x90, 0xBF⟩
  else if b < 0xF4 then .opens ⟨b - 0xF0, 3, 0x80, 0xBF⟩
  else if b = 0xF4 then .opens ⟨4, 3, 0x80, 0x8F⟩
  else .malformed

/-- Reads `b` between two characters: what is complete after it, and what is left open. -/
def readFirst (b : UInt8) : List (Option Char) × Option Pending :=
  match lead b.toNat with
  | .whole c => ([some c], none)
  | .opens p => ([], some p)
  | .malformed => ([none], none)

/-- Reads `b` inside a character. -/
def readNext (p : Pending) (b : UInt8) : List (Option Char) × Option Pending :=
  let n := b.toNat
  if p.low ≤ n ∧ n ≤ p.high then
    let value := p.value * 64 + (n - 0x80)
    if p.owed ≤ 1 then ([some (Char.ofNat value)], none)
    else ([], some ⟨value, p.owed - 1, 0x80, 0xBF⟩)
  else
    let (done, next) := readFirst b
    (none :: done, next)

/-- Reads bytes from a state of the decoder to the end. -/
def unitsFrom : Option Pending → List UInt8 → List (Option Char)
  | none, [] => []
  | some _, [] => [none]
  | state, b :: rest =>
    let (done, next) :=
      match state with
      | none => readFirst b
      | some p => readNext p b
    done ++ unitsFrom next rest

/-- The characters of a byte sequence, with `none` for every malformed stretch. -/
def units (bytes : List UInt8) : List (Option Char) :=
  unitsFrom none bytes

/-- The text of a byte sequence, with the replacement character for every malformed stretch. -/
def decodeLossy (bytes : List UInt8) : List Char :=
  (units bytes).map (·.getD '\uFFFD')

/-- The text of a byte sequence, if it is UTF-8. -/
def decode? (bytes : List UInt8) : Option (List Char) :=
  (units bytes).mapM id

end LoadingCheck.Utf8
