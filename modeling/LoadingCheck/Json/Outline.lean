import LoadingCheck.Json.Basic

/-!
# Reading a JSON text from left to right

A text that is not JSON still has values before its first fault, and a reader that stops at what it
expects may never come to the fault. The outline of a text is the tree of its values up to the first
fault. A value can be read, which yields it, or skipped, which only follows its syntax: a number
outside the range of binary64 and a surrogate without its partner can be skipped but not read.

## Main definitions

* `LoadingCheck.Json.Fault` — the text is malformed at some place, or it ends too early.
* `LoadingCheck.Json.Outline` — the values of a text up to its first fault.
* `LoadingCheck.Json.Outline.ofText` — the outline of a text.
* `LoadingCheck.Json.Outline.read`, `LoadingCheck.Json.Outline.skip`.
* `LoadingCheck.Json.Outline.ofJson` — the outline of a value that needs no text.

## Design

The parser recurses on a natural number that bounds the number of steps; every character accounts for
at most two.
-/

namespace LoadingCheck.Json

/-- Why a JSON text cannot be read further. -/
inductive Fault where
  /-- A character stands where none of its kind may stand. -/
  | malformed
  /-- The text ends inside a value. -/
  | unfinished
  deriving DecidableEq, Repr

/-- The kind of a value. -/
inductive Found where
  | null
  | boolean (value : Bool)
  | number (value : Number)
  | string (value : String)
  | sequence
  | map
  deriving DecidableEq, Repr

/-- The name of a member. -/
inductive Key where
  | name (value : String)
  /-- A name with a surrogate without its partner. -/
  | unpaired
  /-- A value that is not a string stands in the place of a name. -/
  | misplaced (found : Found)
  /-- There is no name here: the faults for a reader and for one who skips. -/
  | broken (onRead onSkip : Fault)
  deriving DecidableEq, Repr

/-- The values of a JSON text up to its first fault. -/
inductive Outline where
  | null
  | boolean (value : Bool)
  | number (value : Number)
  /-- A number literal beyond the largest finite number. -/
  | oversized
  | string (value : String)
  /-- A string literal with a surrogate without its partner. -/
  | unpaired
  /-- Items, and the fault after the last one if the array is not closed there. -/
  | array (items : List Outline) (stop : Option Fault)
  /-- Members, and the fault after the last one if the object is not closed there. -/
  | object (members : List (Key × Outline)) (stop : Option Fault)
  /-- There is no complete value here: the character it starts with, if there is any, and the faults
  for a reader and for one who skips. -/
  | broken (start : Option Char) (onRead onSkip : Fault)
  deriving Repr

/-- White space between the tokens of a JSON text. -/
def isSpace (c : Char) : Bool :=
  c == ' ' || c == '\n' || c == '\t' || c == '\r'

/-- The text from its next token on. -/
def skipSpace (s : List Char) : List Char :=
  s.dropWhile isSpace

/-- The value of a decimal digit. -/
def digitValue (c : Char) : Nat :=
  c.toNat - 0x30

/-! ### String literals -/

/-- The value of a hexadecimal digit. -/
def hexValue? (c : Char) : Option Nat :=
  if '0' ≤ c ∧ c ≤ '9' then some (c.toNat - 0x30)
  else if 'a' ≤ c ∧ c ≤ 'f' then some (c.toNat - 0x61 + 10)
  else if 'A' ≤ c ∧ c ≤ 'F' then some (c.toNat - 0x41 + 10)
  else none

/-- The code unit of four hexadecimal digits. -/
def codeUnit? (a b c d : Char) : Option Nat := do
  let a ← hexValue? a
  let b ← hexValue? b
  let c ← hexValue? c
  let d ← hexValue? d
  return ((a * 16 + b) * 16 + c) * 16 + d

/-- The character of an escape of one letter. -/
def shortEscape? (c : Char) : Option Char :=
  match c with
  | '"' => some '"'
  | '\\' => some '\\'
  | '/' => some '/'
  | 'b' => some '\x08'
  | 'f' => some '\x0c'
  | 'n' => some '\n'
  | 'r' => some '\r'
  | 't' => some '\t'
  | _ => none

/-- A part of a string literal: a character, or a code unit given by its number. -/
inductive Piece where
  | char (c : Char)
  | unit (n : Nat)
  deriving DecidableEq, Repr

/-- The parts of a string literal after its opening quotation mark, and what follows the closing one
or the fault before it. The four digits of a numbered code unit are counted in bytes: too few bytes
mean that the text ends too early, whatever they are. -/
def pieces : List Char → List Piece × Except Fault (List Char)
  | [] => ([], .error .unfinished)
  | '"' :: rest => ([], .ok rest)
  | '\\' :: 'u' :: a :: b :: c :: d :: rest =>
    match codeUnit? a b c d with
    | some n =>
      let (ps, next) := pieces rest
      (.unit n :: ps, next)
    | none => ([], .error .malformed)
  | '\\' :: 'u' :: rest =>
    let bytes := (String.ofList rest).utf8ByteSize
    ([], .error (if bytes < 4 then .unfinished else .malformed))
  | '\\' :: e :: rest =>
    match shortEscape? e with
    | some c =>
      let (ps, next) := pieces rest
      (.char c :: ps, next)
    | none => ([], .error .malformed)
  | ['\\'] => ([], .error .unfinished)
  | c :: rest =>
    if c.toNat < 0x20 then ([], .error .malformed)
    else
      let (ps, next) := pieces rest
      (.char c :: ps, next)

/-- Whether a code unit is the first half of a pair. -/
def isHigh (n : Nat) : Bool :=
  0xD800 ≤ n && n ≤ 0xDBFF

/-- Whether a code unit is the second half of a pair. -/
def isLow (n : Nat) : Bool :=
  0xDC00 ≤ n && n ≤ 0xDFFF

/-- The characters of a string literal, if every surrogate has its partner. -/
def characters? : List Piece → Option (List Char)
  | [] => some []
  | .char c :: rest => (c :: ·) <$> characters? rest
  | .unit h :: .unit l :: rest =>
    if isHigh h then
      if isLow l then
        (Char.ofNat (0x10000 + (h - 0xD800) * 0x400 + (l - 0xDC00)) :: ·) <$> characters? rest
      else none
    else if isLow h then none
    else (Char.ofNat h :: ·) <$> characters? (.unit l :: rest)
  | .unit u :: rest =>
    if isHigh u || isLow u then none else (Char.ofNat u :: ·) <$> characters? rest

/-- The parts without a first half at the end, whose partner a fault has cut off. -/
def withoutOpenPair (ps : List Piece) : List Piece :=
  match ps.getLast? with
  | some (.unit n) => if isHigh n then ps.dropLast else ps
  | _ => ps

/-- A string literal after its opening quotation mark, and what follows it. -/
def readString (s : List Char) : Key × Option (List Char) :=
  match pieces s with
  | (ps, .ok rest) =>
    match characters? ps with
    | some cs => (.name (String.ofList cs), some rest)
    | none => (.unpaired, some rest)
  | (ps, .error fault) =>
    match characters? (withoutOpenPair ps) with
    | some _ => (.broken fault fault, none)
    | none => (.broken .malformed fault, none)

/-- A string literal as a value. -/
def Key.toOutline : Key → Outline
  | .name s => .string s
  | .unpaired => .unpaired
  | .misplaced _ => .broken none .malformed .malformed
  | .broken r s => .broken (some '"') r s

/-! ### Number literals -/

/-- The largest significand that is kept exactly. -/
def maxSignificand : Nat :=
  0xFFFF_FFFF_FFFF_FFFF

/-- Appends digits to a significand as long as it stays in bounds; the digits left over. -/
def absorb (significand : Nat) : List Nat → Nat × List Nat
  | [] => (significand, [])
  | d :: ds =>
    if maxSignificand < significand * 10 + d then (significand, d :: ds)
    else absorb (significand * 10 + d) ds

/-- The parts of a number literal. -/
structure Literal where
  negative : Bool
  whole : List Nat
  fraction : List Nat
  /-- The exponent, where one is written. -/
  exponent : Option Int
  deriving DecidableEq, Repr

/-- The number of a literal, or none if it is not finite. Digits past the largest significand count
as places only, and those of the fraction not at all. -/
def Literal.number? (l : Literal) : Option Number :=
  let (s, left) := absorb 0 l.whole
  if l.fraction = [] ∧ l.exponent = none ∧ left = [] ∧ (l.negative = false ∨ (0 < s ∧ s ≤ 0x8000_0000_0000_0000)) then
    some (.integer (if l.negative then -(s : Int) else s))
  else
    let (s', left') := absorb s l.fraction
    let places : Int := left.length - ((l.fraction.length : Int) - left'.length) + l.exponent.getD 0
    (Magnitude.ofDecimal? s' places).map (.real l.negative)

/-- The faults of a number literal that the text cuts off. One who skips takes it for malformed. -/
def cutNumber : List Char → Fault × Fault
  | [] => (.unfinished, .malformed)
  | _ => (.malformed, .malformed)

/-- The digits at the start of a text, and the rest. -/
def spanDigits (s : List Char) : List Nat × List Char :=
  ((s.takeWhile Char.isDigit).map digitValue, s.dropWhile Char.isDigit)

/-- The exponent of a number literal, if there is one. -/
def readExponent (s : List Char) : Except (Fault × Fault) (Option Int × List Char) :=
  match s with
  | [] => .ok (none, s)
  | c :: rest =>
    if c = 'e' ∨ c = 'E' then
      let (negative, digits) :=
        match rest with
        | '-' :: r => (true, r)
        | '+' :: r => (false, r)
        | r => (false, r)
      match spanDigits digits with
      | ([], r) => .error (cutNumber r)
      | (ds, r) =>
        let n : Nat := ds.foldl (fun n d => n * 10 + d) 0
        .ok (some (if negative then -(n : Int) else n), r)
    else .ok (none, s)

/-- The fraction of a number literal, if there is one. -/
def readFraction (s : List Char) : Except (Fault × Fault) (List Nat × List Char) :=
  match s with
  | '.' :: rest =>
    match spanDigits rest with
    | ([], r) => .error (cutNumber r)
    | (ds, r) => .ok (ds, r)
  | _ => .ok ([], s)

/-- The whole part of a number literal: zero, or digits that do not start with zero. -/
def readWhole (s : List Char) : Except (Fault × Fault) (List Nat × List Char) :=
  match spanDigits s with
  | ([], r) => .error (cutNumber r)
  | (0 :: _ :: _, _) => .error (.malformed, .malformed)
  | (ds, r) => .ok (ds, r)

/-- A number literal and what follows it. -/
def readLiteral (s : List Char) : Except (Fault × Fault) (Literal × List Char) := do
  let (negative, s) :=
    match s with
    | '-' :: r => (true, r)
    | r => (false, r)
  let (whole, s) ← readWhole s
  let (fraction, s) ← readFraction s
  let (exponent, s) ← readExponent s
  return (⟨negative, whole, fraction, exponent⟩, s)

/-- A number as a value, and what follows it. -/
def readNumber (s : List Char) : Outline × Option (List Char) :=
  match readLiteral s with
  | .error (r, k) => (.broken s.head? r k, none)
  | .ok (l, rest) =>
    match l.number? with
    | some n => (.number n, some rest)
    | none => (.oversized, some rest)

/-! ### Values -/

/-- Goes past the rest of a word that stands for a value and starts with `start`. -/
def readWord (start : Char) (value : Outline) : (word s : List Char) → Outline × Option (List Char)
  | [], s => (value, some s)
  | _ :: _, [] => (.broken (some start) .unfinished .unfinished, none)
  | w :: word, c :: s =>
    if w = c then readWord start value word s else (.broken (some start) .malformed .malformed, none)

namespace Outline

/-- The place of a value at the end of the text. -/
def missing : Outline :=
  .broken none .unfinished .unfinished

/-- The place of a value at a character that no value starts with. -/
def misplaced (c : Char) : Outline :=
  .broken (some c) .malformed .malformed

/-- The kind of a value, if it can be told. -/
def found : Outline → Except Fault Found
  | .null => .ok .null
  | .boolean b => .ok (.boolean b)
  | .number n => .ok (.number n)
  | .string s => .ok (.string s)
  | .array _ _ => .ok .sequence
  | .object _ _ => .ok .map
  | .oversized => .error .malformed
  | .unpaired => .error .malformed
  | .broken _ fault _ => .error fault

/-- A value in the place of a name. -/
def asKey (v : Outline) : Key :=
  match v.found with
  | .ok found => .misplaced found
  | .error _ => .broken .malformed .malformed

mutual

/-- The value at the start of a text, and what follows it. -/
def valueAt : Nat → List Char → Outline × Option (List Char)
  | 0, _ => (missing, none)
  | n + 1, s =>
    match skipSpace s with
    | [] => (missing, none)
    | '"' :: rest =>
      let (key, next) := readString rest
      (key.toOutline, next)
    | '[' :: rest =>
      match skipSpace rest with
      | [] => (.array [] (some .unfinished), none)
      | ']' :: next => (.array [] none, some next)
      | s' =>
        let (items, stop, next) := itemsAt n s'
        (.array items stop, next)
    | '\x7b' :: rest =>
      match skipSpace rest with
      | [] => (.object [] (some .unfinished), none)
      | '\x7d' :: next => (.object [] none, some next)
      | s' =>
        let (members, stop, next) := membersAt n s'
        (.object members stop, next)
    | 'n' :: rest => readWord 'n' .null ['u', 'l', 'l'] rest
    | 't' :: rest => readWord 't' (.boolean true) ['r', 'u', 'e'] rest
    | 'f' :: rest => readWord 'f' (.boolean false) ['a', 'l', 's', 'e'] rest
    | c :: rest =>
      if c = '-' || c.isDigit then readNumber (c :: rest) else (misplaced c, none)

/-- The items of an array from one of them on. -/
def itemsAt : Nat → List Char → List Outline × Option Fault × Option (List Char)
  | 0, _ => ([], some .unfinished, none)
  | n + 1, s =>
    match valueAt n s with
    | (v, none) => ([v], none, none)
    | (v, some rest) =>
      match skipSpace rest with
      | [] => ([v], some .unfinished, none)
      | ']' :: next => ([v], none, some next)
      | ',' :: next =>
        let (vs, stop, after) := itemsAt n next
        (v :: vs, stop, after)
      | _ => ([v], some .malformed, none)

/-- The members of an object from one of them on. -/
def membersAt : Nat → List Char → List (Key × Outline) × Option Fault × Option (List Char)
  | 0, _ => ([], some .unfinished, none)
  | n + 1, s =>
    match skipSpace s with
    | [] => ([(.broken .unfinished .unfinished, .null)], none, none)
    | '"' :: rest =>
      match readString rest with
      | (key, none) => ([(key, .null)], none, none)
      | (key, some rest) =>
        match skipSpace rest with
        | [] => ([(key, missing)], none, none)
        | ':' :: rest =>
          match valueAt n rest with
          | (v, none) => ([(key, v)], none, none)
          | (v, some rest) =>
            match skipSpace rest with
            | [] => ([(key, v)], some .unfinished, none)
            | '\x7d' :: next => ([(key, v)], none, some next)
            | ',' :: next =>
              let (ms, stop, after) := membersAt n next
              ((key, v) :: ms, stop, after)
            | _ => ([(key, v)], some .malformed, none)
        | c :: _ => ([(key, misplaced c)], none, none)
    | s' => ([((valueAt n s').1.asKey, .null)], none, none)

end

/-- The outline of a text, and whether anything but white space follows its value. -/
def ofText (s : List Char) : Outline × Bool :=
  match valueAt (2 * s.length + 2) s with
  | (v, none) => (v, false)
  | (v, some rest) => (v, !(skipSpace rest).isEmpty)

mutual

/-- Follows a value without reading it. -/
def skip : Outline → Except Fault Unit
  | .broken _ _ fault => .error fault
  | .array items stop => do
    skipItems items
    closed stop
  | .object members stop => do
    skipMembers members
    closed stop
  | _ => .ok ()

/-- Follows items. -/
def skipItems : List Outline → Except Fault Unit
  | [] => .ok ()
  | v :: rest => do
    skip v
    skipItems rest

/-- Follows members. -/
def skipMembers : List (Key × Outline) → Except Fault Unit
  | [] => .ok ()
  | (.broken _ fault, _) :: _ => .error fault
  | (.misplaced _, _) :: _ => .error .malformed
  | (_, v) :: rest => do
    skip v
    skipMembers rest

/-- The end of an array or object. -/
def closed : Option Fault → Except Fault Unit
  | none => .ok ()
  | some fault => .error fault

end

mutual

/-- Reads a value with at most `room` arrays and objects inside each other. -/
def read : (room : Nat) → Outline → Except Fault Json
  | _, .null => .ok .null
  | _, .boolean b => .ok (.boolean b)
  | _, .number n => .ok (.number n)
  | _, .string s => .ok (.string s)
  | _, .oversized => .error .malformed
  | _, .unpaired => .error .malformed
  | _, .broken _ fault _ => .error fault
  | 0, .array _ _ => .error .malformed
  | room + 1, .array items stop => do
    let vs ← readItems room items
    closed stop
    return .array vs
  | 0, .object _ _ => .error .malformed
  | room + 1, .object members stop => do
    let ms ← readMembers room members
    closed stop
    return .object ms

/-- Reads items. -/
def readItems : (room : Nat) → List Outline → Except Fault (List Json)
  | _, [] => .ok []
  | room, v :: rest => do
    let v ← read room v
    let vs ← readItems room rest
    return v :: vs

/-- Reads members. -/
def readMembers : (room : Nat) → List (Key × Outline) → Except Fault (List (String × Json))
  | _, [] => .ok []
  | _, (.broken fault _, _) :: _ => .error fault
  | _, (.unpaired, _) :: _ => .error .malformed
  | _, (.misplaced _, _) :: _ => .error .malformed
  | room, (.name k, v) :: rest => do
    let v ← read room v
    let ms ← readMembers room rest
    return (k, v) :: ms

end

mutual

/-- The outline of a value. -/
def ofJson : Json → Outline
  | .null => .null
  | .boolean b => .boolean b
  | .number n => .number n
  | .string s => .string s
  | .array items => .array (ofItems items) none
  | .object members => .object (ofMembers members) none

/-- The outlines of items. -/
def ofItems : List Json → List Outline
  | [] => []
  | v :: rest => ofJson v :: ofItems rest

/-- The outlines of members. -/
def ofMembers : List (String × Json) → List (Key × Outline)
  | [] => []
  | (k, v) :: rest => (.name k, ofJson v) :: ofMembers rest

end

end Outline

/-- The number of arrays and objects that a reader lets stand inside each other. -/
def maxNesting : Nat :=
  127

/-- The value of a JSON text. -/
def parse? (s : List Char) : Option Json :=
  match Outline.ofText s with
  | (v, false) => (v.read maxNesting).toOption
  | (_, true) => none

/-- Puts a member in the order of names, in the place of one with the same name. -/
def insertMember (k : String) (v : Json) : List (String × Json) → List (String × Json)
  | [] => [(k, v)]
  | (k', v') :: rest =>
    if k < k' then (k, v) :: (k', v') :: rest
    else if k = k' then (k, v) :: rest
    else (k', v') :: insertMember k v rest

mutual

/-- The value with the members of its objects in the order of their names; the last one of a name
counts. -/
def sorted : Json → Json
  | .array items => .array (sortedItems items)
  | .object members => .object (sortedMembers members [])
  | v => v

/-- Sorts inside items. -/
def sortedItems : List Json → List Json
  | [] => []
  | v :: rest => sorted v :: sortedItems rest

/-- Adds members to sorted ones. -/
def sortedMembers : List (String × Json) → List (String × Json) → List (String × Json)
  | [], done => done
  | (k, v) :: rest, done => sortedMembers rest (insertMember k (sorted v) done)

end

end LoadingCheck.Json
