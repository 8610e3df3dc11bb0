import LoadingCheck.Unicode.Property

/-!
# Text in quotation marks for a reader of messages

A message shows a text in quotation marks so that all its characters can be told apart: characters that
do not print, or that would join the character before them, are shown by their code points.

## Main definitions

* `LoadingCheck.Text.quoted` — a text as a message shows it.
-/

namespace LoadingCheck.Text

/-- A number in hexadecimal digits, in lower case. -/
def hexText (n : Nat) : List Char :=
  Nat.toDigits 16 n

/-- A character as a message shows it. -/
def quotedChar (c : Char) : List Char :=
  if c = '\x00' then ['\\', '0']
  else if c = '\t' then ['\\', 't']
  else if c = '\r' then ['\\', 'r']
  else if c = '\n' then ['\\', 'n']
  else if c = '\\' ∨ c = '"' then ['\\', c]
  else if 0x20 ≤ c.toNat ∧ c.toNat < 0x7F then [c]
  else if Unicode.Property.printable.contains c && !Unicode.Property.graphemeExtend.contains c then [c]
  else ['\\', 'u', '\x7b'] ++ hexText c.toNat ++ ['\x7d']

/-- A text in quotation marks. -/
def quoted (s : String) : String :=
  String.ofList ('"' :: s.toList.flatMap quotedChar ++ ['"'])

end LoadingCheck.Text
