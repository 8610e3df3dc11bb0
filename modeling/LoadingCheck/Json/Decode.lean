import LoadingCheck.Json.Outline
import LoadingCheck.Text.Quoted

/-!
# Decoding JSON values

A decoder turns the outline of a value into a value of a domain type, or says what is wrong with it.
The same decoders serve three sources of values: a text, which is decoded while it is read; a value
that is already there; and a value that was read as a whole because its kind is known only after a
member that may come late. The sources differ in what they notice first and in a few wordings.

## Main definitions

* `LoadingCheck.Json.Source` — where a value comes from.
* `LoadingCheck.Json.DecodeError` — what can be wrong, and `DecodeError.message`.
* `LoadingCheck.Json.Decoder` — decoders, with the ones for strings, numbers, lists and named choices.
* `LoadingCheck.Json.RecordForm` — records, written as objects or as arrays.

## Design

A record is decoded member by member into a draft, so that the first error in the order of the
members is the one reported. An array is decoded through the same draft, its items taken for the
members in the order of their declaration.
-/

namespace LoadingCheck.Json

/-- Where a value comes from. -/
inductive Source where
  /-- A text, which has room for so many arrays and objects inside each other. -/
  | text (room : Nat)
  /-- A value that needs no text. -/
  | value
  /-- A value that was read as a whole first. -/
  | kept
  deriving DecidableEq, Repr

/-- The source of what stands inside an array or object. -/
def Source.inside : Source → Source
  | .text room => .text (room - 1)
  | s => s

/-- The kind in words. -/
def Found.text : Found → String
  | .null => "null"
  | .boolean b => s!"boolean `{b}`"
  | .number (.integer n) => s!"integer `{n}`"
  | .number (.real s x) => "floating point `" ++ Number.text (.real s x) ++ "`"
  | .string s => "string " ++ Text.quoted s
  | .sequence => "sequence"
  | .map => "map"

/-- What can be wrong with a value. -/
inductive DecodeError where
  /-- The text has a fault. -/
  | fault (fault : Fault)
  | invalidType (found : Found) (expected : String)
  | invalidValue (found : Found) (expected : String)
  | invalidLength (length : Nat) (expected : String)
  | unknownVariant (name : String) (choices : List String)
  | missingField (name : String)
  | duplicateField (name : String)
  /-- The value has the right form but is refused for a reason of its own. -/
  | refused (reason : String)
  deriving DecidableEq, Repr

/-- The choices that a message offers. -/
def choicesText : List String → String
  | [] => "there are no variants"
  | [a] => s!"expected `{a}`"
  | [a, b] => s!"expected `{a}` or `{b}`"
  | choices => "expected one of " ++ ", ".intercalate (choices.map fun c => s!"`{c}`")

/-- The error in words. -/
def DecodeError.message : DecodeError → String
  | .fault .malformed => "malformed text"
  | .fault .unfinished => "unfinished text"
  | .invalidType found expected => s!"invalid type: {found.text}, expected {expected}"
  | .invalidValue found expected => s!"invalid value: {found.text}, expected {expected}"
  | .invalidLength n expected => s!"invalid length {n}, expected {expected}"
  | .unknownVariant name choices => s!"unknown variant `{name}`, {choicesText choices}"
  | .missingField name => s!"missing field `{name}`"
  | .duplicateField name => s!"duplicate field `{name}`"
  | .refused reason => reason

/-- A decoder for values of a type. -/
abbrev Decoder (α : Type) := Source → Outline → Except DecodeError α

/-- The error for a value of the wrong kind. -/
def mismatch {α : Type} (v : Outline) (expected : String) : Except DecodeError α :=
  match v.found with
  | .ok found => .error (.invalidType found expected)
  | .error fault => .error (.fault fault)

/-- Passes a fault of the text on as an error of decoding. -/
def ofFault {α : Type} : Except Fault α → Except DecodeError α
  | .ok a => .ok a
  | .error fault => .error (.fault fault)

namespace Decoder

/-! ### Simple values -/

/-- A string; `expected` says what it is for. -/
def stringAs (expected : String) : Decoder String
  | _, .string s => .ok s
  | _, v => mismatch v expected

/-- A string. -/
def string : Decoder String :=
  stringAs "a string"

/-- A truth value. -/
def boolean : Decoder Bool
  | _, .boolean b => .ok b
  | _, v => mismatch v "a boolean"

/-- A whole number of 64 bits without sign; `expected` names its type. -/
def word (expected : String) : Decoder Nat
  | _, .number (.integer n) =>
    if 0 ≤ n then .ok n.toNat else .error (.invalidValue (.number (.integer n)) expected)
  | _, v => mismatch v expected

/-- A value that may be null. -/
def optional {α : Type} (decode : Decoder α) : Decoder (Option α)
  | _, .null => .ok none
  | source, v => some <$> decode source v

/-- The values of a list, and the end of its array. -/
def listItems {α : Type} (decode : Outline → Except DecodeError α) (stop : Option Fault) :
    List Outline → Except DecodeError (List α)
  | [] => do
    ofFault (Outline.closed stop)
    return []
  | v :: rest => do
    let a ← decode v
    let more ← listItems decode stop rest
    return a :: more

/-- A list. -/
def list {α : Type} (decode : Decoder α) : Decoder (List α)
  | source, .array items stop => listItems (decode source.inside) stop items
  | _, v => mismatch v "a sequence"

/-! ### Named choices -/

/-- The choice of a name. -/
def choose {α : Type} (choices : List (String × α)) (name : String) : Except DecodeError α :=
  match choices.lookup name with
  | some a => .ok a
  | none => .error (.unknownVariant name (choices.map (·.1)))

/-- A name that says which kind of value another one is. -/
def identifier {α : Type} (choices : List (String × α)) : Decoder α
  | source, v => do
    let name ← stringAs "variant identifier" source v
    choose choices name

/-- The value that may stand behind the name of a choice without content. -/
def noContent : Decoder Unit
  | _, .null => .ok ()
  | .kept, .object [] none => .ok ()
  | _, v => mismatch v "unit"

/-- The name of a member as a string. -/
def keyName : Key → Except DecodeError String
  | .name s => .ok s
  | .unpaired => .error (.fault .malformed)
  | .misplaced _ => .error (.fault .malformed)
  | .broken fault _ => .error (.fault fault)

/-- A choice among names without content, written as a string or as an object with the name for its
only member. -/
def choice {α : Type} (choices : List (String × α)) : Decoder α
  | _, .string name => choose choices name
  | .text room, .object members stop => do
    match members with
    | [] =>
      ofFault (Outline.closed stop)
      .error (.fault .malformed)
    | (.misplaced found, _) :: _ => .error (.invalidType found "variant identifier")
    | (key, v) :: rest =>
      let name ← keyName key
      let a ← choose choices name
      noContent (.text (room - 1)) v
      match rest with
      | [] =>
        ofFault (Outline.closed stop)
        return a
      | _ :: _ => .error (.fault .malformed)
  | source, .object members _ =>
    match members with
    | [(key, v)] => do
      let name ← keyName key
      let a ← choose choices name
      noContent source v
      return a
    | _ => .error (.invalidValue .map "map with a single key")
  | .text _, .broken none fault _ => .error (.fault fault)
  | .text _, .broken (some '"') fault _ => .error (.fault fault)
  | .text _, _ => .error (.fault .malformed)
  | _, v => mismatch v "string or map"

end Decoder

/-! ### Records -/

/-- "1 element", "2 elements" and so on. -/
def elementsText (n : Nat) : String :=
  if n = 1 then "1 element" else s!"{n} elements"

/-- How a record is written: what it is called, its members in order, those that may be missing, and
how a member of a name is put into a draft of the record. -/
structure RecordForm (σ : Type) where
  title : String
  fields : List String
  mayLack : List String
  put : Source → String → Outline → σ → Except DecodeError σ

/-- The end of an array of which a record has taken `taken` items and left `left`. -/
def endOfItems (source : Source) (taken : Nat) (left : List Outline) (stop : Option Fault) :
    Except DecodeError Unit :=
  match left, source with
  | [], _ => ofFault (Outline.closed stop)
  | _ :: _, .text _ => .error (.fault .malformed)
  | left, .value => .error (.invalidLength (taken + left.length) "fewer elements in array")
  | left, .kept =>
    .error (.invalidLength (taken + left.length) (elementsText taken ++ " in sequence"))

namespace RecordForm

variable {σ : Type}

/-- Puts the members of an object into a draft. A member that the record does not have is skipped, and
one that comes twice is an error. -/
def putMembers (form : RecordForm σ) (source : Source) (stop : Option Fault) :
    (seen : List String) → List (Key × Outline) → σ → Except DecodeError σ
  | _, [], draft => do
    ofFault (Outline.closed stop)
    return draft
  | seen, (key, v) :: rest, draft => do
    let name ← Decoder.keyName key
    if form.fields.contains name then
      if seen.contains name then .error (.duplicateField name)
      else
        let draft ← form.put source name v draft
        putMembers form source stop (name :: seen) rest draft
    else
      ofFault v.skip
      putMembers form source stop seen rest draft

/-- Puts the items of an array into a draft. -/
def putItems (form : RecordForm σ) (source : Source) (stop : Option Fault) :
    (taken : Nat) → (fields : List String) → List Outline → σ → Except DecodeError σ
  | taken, [], left, draft => do
    endOfItems source taken left stop
    return draft
  | taken, name :: fields, [], draft => do
    ofFault (Outline.closed stop)
    if form.mayLack.contains name then putItems form source stop taken fields [] draft
    else
      .error (.invalidLength taken (form.title ++ " with " ++ elementsText form.fields.length))
  | taken, name :: fields, v :: left, draft => do
    let draft ← form.put source name v draft
    putItems form source stop (taken + 1) fields left draft

/-- Decodes a record into a draft that starts as `draft`. -/
def decode (form : RecordForm σ) (draft : σ) : Decoder σ
  | source, .object members stop => form.putMembers source.inside stop [] members draft
  | source, .array items stop => form.putItems source.inside stop 0 form.fields items draft
  | _, v => mismatch v form.title

end RecordForm

/-- A tag and the rest of the value, all of it read. -/
structure Tagged (τ : Type) where
  tag : τ
  content : Outline

/-! ### Tagged records -/

namespace Decoder

/-- A member that a record must have. -/
def required {α : Type} (name : String) : Option α → Except DecodeError α
  | some a => .ok a
  | none => .error (.missingField name)

/-- A record with one member. -/
def single {α : Type} (title : String) (member : String × Decoder α) : Decoder α :=
  fun source v => do
    let form : RecordForm (Option α) :=
      { title, fields := [member.1], mayLack := [], put := fun source _ v _ => some <$> member.2 source v }
    let a ← form.decode none source v
    required member.1 a

/-- A record with two members. -/
def pair {α β : Type} (title : String) (first : String × Decoder α) (second : String × Decoder β) :
    Decoder (α × β) :=
  fun source v => do
    let form : RecordForm (Option α × Option β) :=
      { title, fields := [first.1, second.1], mayLack := [],
        put := fun source name v draft =>
          if name = first.1 then (fun a => (some a, draft.2)) <$> first.2 source v
          else (fun b => (draft.1, some b)) <$> second.2 source v }
    let (a, b) ← form.decode (none, none) source v
    let a ← required first.1 a
    let b ← required second.1 b
    return (a, b)

section

variable {τ : Type}

/-- Reads a value as a whole, as far as its source lets it stand. -/
def keep (source : Source) (v : Outline) : Except DecodeError Unit :=
  match source with
  | .text room => ofFault (v.read room) >>= fun _ => .ok ()
  | _ => .ok ()

/-- Reads the members of an object, decoding the tag where it comes. -/
def taggedMembers (tagName : String) (choices : List (String × τ)) (source : Source)
    (stop : Option Fault) :
    (tag : Option τ) → List (Key × Outline) → Except DecodeError (Option τ × List (Key × Outline))
  | tag, [] => do
    ofFault (Outline.closed stop)
    return (tag, [])
  | tag, (key, v) :: rest => do
    let name ← keyName key
    if name = tagName then
      if tag.isSome then .error (.duplicateField tagName)
      else
        let t ← identifier choices source v
        taggedMembers tagName choices source stop (some t) rest
    else
      keep source v
      let (tag, members) ← taggedMembers tagName choices source stop tag rest
      return (tag, (key, v) :: members)

/-- Reads the items of an array that start with the tag. -/
def taggedItems (tagName : String) (choices : List (String × τ)) (source : Source)
    (stop : Option Fault) : List Outline → Except DecodeError (Tagged τ)
  | [] => do
    ofFault (Outline.closed stop)
    .error (.missingField tagName)
  | v :: rest => do
    let tag ← identifier choices source v
    rest.forM (keep source)
    ofFault (Outline.closed stop)
    return ⟨tag, .array rest none⟩

/-- Decodes the tag of a value whose kind is told by the member `tagName`, and reads the rest as a
whole. -/
def tagged (title tagName : String) (choices : List (String × τ)) : Decoder (Tagged τ)
  | .text 0, .object _ _ => .error (.fault .malformed)
  | .text 0, .array _ _ => .error (.fault .malformed)
  | source, .object members stop => do
    let (tag, members) ← taggedMembers tagName choices source.inside stop none members
    let tag ← required tagName tag
    return ⟨tag, .object members none⟩
  | source, .array items stop => taggedItems tagName choices source.inside stop items
  | _, v => mismatch v title

end

end Decoder

/-! ### Whole texts and values -/

/-- Decodes a text. -/
def decodeText {α : Type} (decode : Decoder α) (s : List Char) : Except DecodeError α := do
  let (v, more) := Outline.ofText s
  let a ← decode (.text maxNesting) v
  if more then .error (.fault .malformed) else return a

/-- Decodes a value, the members of its objects taken in the order of their names. -/
def decodeValue {α : Type} (decode : Decoder α) (v : Json) : Except DecodeError α :=
  decode .value (.ofJson v.sorted)

end LoadingCheck.Json
