import LoadingCheck.Unicode.Property
import LoadingCheck.Unicode.ScriptExtensions

/-!
# Character properties by name

A property, or a value of one, has a short and a long name. Names are compared without regard to case,
spaces, hyphens and underscores, and to `is` in front of them.

## Main definitions

* `LoadingCheck.Unicode.normalize` — a name as it is compared.
* `LoadingCheck.Unicode.byName` — the characters of a binary property, a general category or a script.
* `LoadingCheck.Unicode.byValue` — the characters with a value of a property.
-/

namespace LoadingCheck.Unicode

/-- Why a name stands for no set of characters. -/
inductive LookupError where
  | noProperty
  | noValue
  deriving DecidableEq, Repr

/-- A name as it is compared: in lower case, without spaces, hyphens and underscores and without
anything outside ASCII, and without `is` in front of the rest, unless the rest is the letter `c`. -/
def normalize (name : List Char) : String :=
  let plain (cs : List Char) : List Char :=
    (cs.filter fun c => c != ' ' && c != '_' && c != '-' && c.toNat < 0x80).map Char.toLower
  match name with
  | a :: b :: rest =>
    if a.toLower = 'i' ∧ b.toLower = 's' then
      if plain rest = ['c'] then "isc" else String.ofList (plain rest)
    else String.ofList (plain name)
  | _ => String.ofList (plain name)

/-- The entry of a table under one of its names. -/
def row? {α : Type} (table : List (List String × α)) (name : String) : Option (List String × α) :=
  table.find? fun e => e.1.contains name

/-- Names of properties that have no set of characters of their own here: their values are numbers,
texts, or not for single characters. -/
def otherProperties : List String :=
  ["cjkaccountingnumeric", "kaccountingnumeric", "cjkothernumeric", "kothernumeric",
   "cjkprimarynumeric", "kprimarynumeric", "nv", "numericvalue", "bmg", "bidimirroringglyph",
   "bpb", "bidipairedbracket", "cf", "casefolding", "cjkcompatibilityvariant",
   "kcompatibilityvariant", "dm", "decompositionmapping", "equideo",
   "equivalentunifiedideograph", "fcnfkc", "fcnfkcclosure", "lc", "lowercasemapping", "nfkccf",
   "nfkccasefold", "nfkcscf", "nfkcsimplecasefold", "scf", "simplecasefolding", "sfc", "slc",
   "simplelowercasemapping", "stc", "simpletitlecasemapping", "suc", "simpleuppercasemapping",
   "tc", "titlecasemapping", "uc", "uppercasemapping", "cjkiicore", "kiicore", "cjkirggsource",
   "kirggsource", "cjkirghsource", "kirghsource", "cjkirgjsource", "kirgjsource",
   "cjkirgkpsource", "kirgkpsource", "cjkirgksource", "kirgksource", "cjkirgmsource",
   "kirgmsource", "cjkirgssource", "kirgssource", "cjkirgtsource", "kirgtsource",
   "cjkirguksource", "kirguksource", "cjkirgusource", "kirgusource", "cjkirgvsource",
   "kirgvsource", "cjkrsunicode", "krsunicode", "unicoderadicalstroke", "urs", "isc",
   "isocomment", "jsn", "jamoshortname", "na", "name", "na1", "unicode1name", "namealias", "blk",
   "block", "bc", "bidiclass", "bpt", "bidipairedbrackettype", "ccc", "canonicalcombiningclass",
   "dt", "decompositiontype", "ea", "eastasianwidth", "hst", "hangulsyllabletype", "incb",
   "indicconjunctbreak", "inpc", "indicpositionalcategory", "insc", "indicsyllabiccategory",
   "jg", "joininggroup", "jt", "joiningtype", "lb", "linebreak", "nfcqc", "nfcquickcheck",
   "nfdqc", "nfdquickcheck", "nfkcqc", "nfkcquickcheck", "nfkdqc", "nfkdquickcheck", "nt",
   "numerictype", "vo", "verticalorientation", "bidim", "bidimirrored", "ce",
   "compositionexclusion", "compex", "fullcompositionexclusion", "cwkcf",
   "changeswhennfkccasefolded", "grlink", "graphemelink", "xonfc", "expandsonnfc", "xonfd",
   "expandsonnfd", "xonfkc", "expandsonnfkc", "xonfkd", "expandsonnfkd"]

/-- Names of values that no character has, or that are put together from others. -/
def emptyValues : List String :=
  ["cs", "surrogate", "zzzz", "unknown", "hrkt", "katakanaorhiragana"]

/-- The characters of a general category. -/
def category? (name : String) : Option CharSet :=
  (row? Category.named name).map (·.2)

/-- The names of a script and its characters. -/
def script? (name : String) : Option (List String × CharSet) :=
  (row? Script.named name).map fun e => (e.1, .ofText e.2)

/-- Characters that are shared between scripts. -/
def shared : CharSet :=
  .unions (ScriptExtensions.added.map fun e => .ofText e.2)

/-- The characters that are used in a script. Those that are shared belong to the scripts that share
them and no longer to the characters of all scripts or of the script before them. -/
def scriptExtensions? (name : String) : Option CharSet := do
  let (names, own) ← script? name
  if names.contains "common" || names.contains "inherited" then return own.diff shared
  else
    match ScriptExtensions.added.find? fun e => names.contains e.1 with
    | some e => return own.union (.ofText e.2)
    | none => return own

/-- The characters that a single name stands for: a binary property, else a general category, else a
script. Three short names are those of a category and not of the property with the same one. -/
def byName (name : List Char) : Except LookupError CharSet :=
  let n := normalize name
  let property? := if ["cf", "sc", "lc"].contains n then none else row? Property.named n
  match property? with
  | some e => .ok e.2
  | none =>
    match category? n with
    | some s => .ok s
    | none =>
      if emptyValues.contains n then .error .noValue
      else if otherProperties.contains n then .error .noProperty
      else
        match script? n with
        | some e => .ok e.2
        | none => .error .noProperty

/-- The characters for which a property has a value. -/
def byValue (property value : List Char) : Except LookupError CharSet :=
  let p := normalize property
  let v := normalize value
  let found (s : Option CharSet) : Except LookupError CharSet :=
    match s with
    | some s => .ok s
    | none => .error .noValue
  if ["gc", "generalcategory"].contains p then found (category? v)
  else if ["sc", "script"].contains p then found ((script? v).map (·.2))
  else if ["scx", "scriptextensions"].contains p then found (scriptExtensions? v)
  else if (row? Property.named p).isSome || otherProperties.contains p then .error .noValue
  else .error .noProperty

end LoadingCheck.Unicode
