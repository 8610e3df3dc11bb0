/-!
# Blank characters, trimming and lines

Text is handled as a list of characters. A character is blank when it has the Unicode property
`White_Space`; trimming drops blank characters from an end of a text, and a text is cut into lines at
each line feed.

## Main definitions

* `LoadingCheck.Text.isBlank` — the property `White_Space`.
* `LoadingCheck.Text.trim`, `LoadingCheck.Text.trimStart`, `LoadingCheck.Text.trimEnd`.
* `LoadingCheck.Text.lines` — the lines of a text, without their ends.
-/

namespace LoadingCheck.Text

/-- The characters with the Unicode property `White_Space`. -/
def isBlank (c : Char) : Bool :=
  let n := c.toNat
  (9 ≤ n && n ≤ 13) || n == 0x20 || n == 0x85 || n == 0xA0 || n == 0x1680 ||
    (0x2000 ≤ n && n ≤ 0x200A) || n == 0x2028 || n == 0x2029 || n == 0x202F || n == 0x205F ||
    n == 0x3000

/-- The text from its first character that is not blank. -/
def trimStart (s : List Char) : List Char :=
  s.dropWhile isBlank

/-- The text without the characters at its end that satisfy `p`. -/
def dropEndWhile (p : Char → Bool) (s : List Char) : List Char :=
  (s.reverse.dropWhile p).reverse

/-- The text up to its last character that is not blank. -/
def trimEnd (s : List Char) : List Char :=
  dropEndWhile isBlank s

/-- The text between its first and its last character that are not blank. -/
def trim (s : List Char) : List Char :=
  trimEnd (trimStart s)

/-- The lines of a text. A line ends at a line feed, which may have one carriage return before it;
neither belongs to the line. What stands after the last line feed is a line if it is not empty. -/
def lines : List Char → List (List Char)
  | [] => []
  | '\n' :: rest => [] :: lines rest
  | '\r' :: '\n' :: rest => [] :: lines rest
  | c :: rest =>
    match lines rest with
    | [] => [[c]]
    | line :: more => (c :: line) :: more

/-- The first line of a text, which is empty for the empty text. -/
def firstLine (s : List Char) : List Char :=
  (lines s).headD []

end LoadingCheck.Text
