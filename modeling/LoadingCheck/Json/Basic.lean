import LoadingCheck.Number.Binary64

/-!
# JSON values

A JSON value with the members of an object in written order, duplicates included, and its compact text.

## Main definitions

* `LoadingCheck.Json.Number` — whole numbers of 64 bits, signed or not, and binary64 numbers.
* `LoadingCheck.Json` — values.
* `LoadingCheck.Json.escape`, `LoadingCheck.Json.quote` — string literals.
* `LoadingCheck.Json.compact` — the text of a value without white space.
-/

namespace LoadingCheck

/-- A JSON number. A literal that is a whole number of at most 64 bits is kept exactly; any other one
is kept as the binary64 number it denotes. -/
inductive Json.Number where
  | integer (value : Int)
  | real (negative : Bool) (magnitude : Magnitude)
  deriving DecidableEq, Repr

/-- A JSON value. The members of an object keep their order, and a name may occur more than once. -/
inductive Json where
  | null
  | boolean (value : Bool)
  | number (value : Json.Number)
  | string (value : String)
  | array (items : List Json)
  | object (members : List (String × Json))
  deriving Repr

namespace Json

/-- The number as it is written. -/
def Number.text : Number → String
  | .integer n => toString n
  | .real negative x => (if negative then "-" else "") ++ x.text

/-- A natural number as a JSON value. -/
def ofNat (n : Nat) : Json :=
  .number (.integer n)

/-- The digit of a number below sixteen, in lower case. -/
def hexDigit (n : Nat) : Char :=
  if n < 10 then Char.ofNat (0x30 + n) else Char.ofNat (0x61 + n - 10)

/-- A character inside a string literal: a quotation mark, a backslash and the characters below U+0020
are escaped, with the short escape where there is one, and every other character stands for itself. -/
def escapeChar (c : Char) : List Char :=
  if c = '"' then ['\\', '"']
  else if c = '\\' then ['\\', '\\']
  else if c = '\x08' then ['\\', 'b']
  else if c = '\x0c' then ['\\', 'f']
  else if c = '\n' then ['\\', 'n']
  else if c = '\r' then ['\\', 'r']
  else if c = '\t' then ['\\', 't']
  else if c.toNat < 0x20 then
    ['\\', 'u', '0', '0', hexDigit (c.toNat / 16), hexDigit (c.toNat % 16)]
  else [c]

/-- The inside of a string literal. -/
def escape (s : List Char) : List Char :=
  s.flatMap escapeChar

/-- The string literal of a text. -/
def quote (s : String) : String :=
  String.ofList ('"' :: escape s.toList ++ ['"'])

mutual

/-- The text of a value, without white space. -/
def compact : Json → String
  | .null => "null"
  | .boolean true => "true"
  | .boolean false => "false"
  | .number n => n.text
  | .string s => quote s
  | .array items => "[" ++ compactItems items ++ "]"
  | .object members => "\x7b" ++ compactMembers members ++ "\x7d"

/-- The items of an array with commas between them. -/
def compactItems : List Json → String
  | [] => ""
  | [v] => compact v
  | v :: w :: rest => compact v ++ "," ++ compactItems (w :: rest)

/-- The members of an object with commas between them. -/
def compactMembers : List (String × Json) → String
  | [] => ""
  | [(k, v)] => quote k ++ ":" ++ compact v
  | (k, v) :: m :: rest => quote k ++ ":" ++ compact v ++ "," ++ compactMembers (m :: rest)

end

end Json

end LoadingCheck
