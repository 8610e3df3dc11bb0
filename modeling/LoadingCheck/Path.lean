import LoadingCheck.Text.Utf8

/-!
# Paths

A path is a sequence of bytes, which need not be text. Slashes separate its pieces; empty pieces and
pieces that are a single dot name nothing, except for a dot that starts a relative path. Nothing is
looked up in a file system and two dots are never resolved.

## Main definitions

* `LoadingCheck.Path` — paths; `Path.ofString`, `Path.text?`, `Path.display`.
* `LoadingCheck.Path.components` — what a path names, piece by piece.
* `LoadingCheck.Path.join`, `LoadingCheck.Path.parent?`.
-/

namespace LoadingCheck

/-- A path as a sequence of bytes. -/
structure Path where
  bytes : List UInt8
  deriving DecidableEq, Repr

namespace Path

/-- The byte that separates pieces. -/
def slash : UInt8 := 0x2F

/-- The piece that names the directory it stands in. -/
def dot : List UInt8 := [0x2E]

/-- The piece that names the directory above. -/
def dotDot : List UInt8 := [0x2E, 0x2E]

/-- The path of a text. -/
def ofString (s : String) : Path :=
  ⟨Utf8.encode s.toList⟩

/-- The text of a path, if it is UTF-8. -/
def text? (p : Path) : Option String :=
  (Utf8.decode? p.bytes).map String.ofList

/-- The text of a path, with the replacement character where it is not UTF-8. -/
def display (p : Path) : String :=
  String.ofList (Utf8.decodeLossy p.bytes)

/-- Whether the path starts at the root. -/
def isAbsolute (p : Path) : Bool :=
  p.bytes.head? == some slash

/-- The bytes between slashes. -/
def pieces (p : Path) : List (List UInt8) :=
  p.bytes.splitOn slash

/-- What one piece of a path names. -/
inductive Component where
  | root
  | current
  | parent
  | normal (name : List UInt8)
  deriving DecidableEq, Repr

/-- What a piece after the start of a path names, if it names anything. -/
def Component.ofPiece? (piece : List UInt8) : Option Component :=
  if piece = [] ∨ piece = dot then none
  else if piece = dotDot then some .parent
  else some (.normal piece)

/-- The components of a path. -/
def components (p : Path) : List Component :=
  if p.isAbsolute then .root :: p.pieces.tail.filterMap Component.ofPiece?
  else
    match p.pieces with
    | first :: rest =>
      if first = dot then .current :: rest.filterMap Component.ofPiece?
      else (first :: rest).filterMap Component.ofPiece?
    | [] => []

/-- Two paths are the same path when their components are equal. -/
def same (p q : Path) : Bool :=
  p.components == q.components

/-- The path `p` as seen from the directory `base`. An absolute path stays as it is. -/
def join (base p : Path) : Path :=
  if p.isAbsolute then p
  else if base.bytes = [] ∨ base.bytes.getLast? = some slash then ⟨base.bytes ++ p.bytes⟩
  else ⟨base.bytes ++ slash :: p.bytes⟩

/-- Drops pieces at the end that name nothing. -/
def dropNameless (ps : List (List UInt8)) : List (List UInt8) :=
  (ps.reverse.dropWhile fun piece => piece = [] ∨ piece = dot).reverse

/-- Pieces with slashes between them. -/
def ofPieces (ps : List (List UInt8)) : List UInt8 :=
  [slash].intercalate ps

/-- The path without its last component. The root has no parent, and neither has the empty path. -/
def parent? (p : Path) : Option Path :=
  if p.isAbsolute then
    match dropNameless p.pieces.tail with
    | [] => none
    | body => some ⟨slash :: ofPieces (dropNameless body.dropLast)⟩
  else
    match p.pieces with
    | first :: rest =>
      if first = dot then
        match dropNameless rest with
        | [] => some ⟨[]⟩
        | body => some ⟨ofPieces (dot :: dropNameless body.dropLast)⟩
      else
        match dropNameless (first :: rest) with
        | [] => none
        | body => some ⟨ofPieces (dropNameless body.dropLast)⟩
    | [] => none

/-- The path and its parents, from the path upwards; at most `fuel` of them. -/
def ancestorsUpTo : (fuel : Nat) → Path → List Path
  | 0, _ => []
  | fuel + 1, p =>
    match p.parent? with
    | none => [p]
    | some q => p :: ancestorsUpTo fuel q

/-- The path, its parent, and so on. A parent has fewer bytes, so there are no more than that. -/
def ancestors (p : Path) : List Path :=
  ancestorsUpTo (p.bytes.length + 1) p

end Path

/-- The path as seen from the current directory, if there is one. -/
def Path.absolute (cwd : Option Path) (p : Path) : Path :=
  match cwd with
  | some base => base.join p
  | none => p

end LoadingCheck
