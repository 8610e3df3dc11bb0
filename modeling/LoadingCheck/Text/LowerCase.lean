/-!
# Lower case for the search of ASCII words

A message is searched for words of ASCII letters whatever their case. Apart from the ASCII capitals
two characters have a lower case with an ASCII letter in it: the Kelvin sign, whose lower case is `k`,
and the capital I with a dot, whose lower case is `i` and a combining dot. Every other character goes
to characters outside ASCII and can take no part in such a word.

## Main definitions

* `LoadingCheck.Text.lowerForSearch` — a text with all its ASCII content in lower case.
-/

namespace LoadingCheck.Text

/-- The characters that replace `c`; a character without ASCII in its lower case stays. -/
def lowerForSearchChar (c : Char) : List Char :=
  if c = '\u212A' then ['k']
  else if c = '\u0130' then ['i', '\u0307']
  else [c.toLower]

/-- The text in lower case as far as a search for ASCII words can tell. -/
def lowerForSearch (s : List Char) : List Char :=
  s.flatMap lowerForSearchChar

end LoadingCheck.Text
