import LoadingCheck.Path

/-!
# Directories and files

The directories and files that a run meets, each given by the names on the way to it from the root.
Paths are followed name by name: two dots go up, and every name but the last has to be a directory. Only where
the current directory is gone are there relative paths to follow. They start where it was, and nothing is found
or made there or in the directories above it that are gone too.

## Main definitions

* `LoadingCheck.FileTree.Spot` — where one stands on the way along a path.
* `LoadingCheck.FileTree` — directories and files.
* `LoadingCheck.FileTree.Error` — why a directory cannot be made, and `FileTree.Error.message`.
* `LoadingCheck.FileTree.makeDirectory` — makes one directory.
* `LoadingCheck.FileTree.makeDirectories` — makes a directory and those above it.
-/

namespace LoadingCheck

/-- Where one stands on the way along a path: in the directory at a place, or in one below it that is gone,
as many levels deep. -/
structure FileTree.Spot where
  place : List (List UInt8)
  gone : Nat
  deriving DecidableEq, Repr

/-- Directories and files by the names that lead to them. The root, which no name leads to, is always
a directory. -/
structure FileTree where
  directories : List (List (List UInt8))
  files : List (List (List UInt8))
  /-- Where a relative path starts: in the current directory, which is gone. -/
  start : FileTree.Spot := ⟨[], 1⟩
  deriving DecidableEq, Repr

namespace FileTree

/-- Why a path does not lead anywhere, or a directory cannot be made. -/
inductive Error where
  | notFound
  | alreadyExists
  | notDirectory
  | nameTooLong
  /-- The path has a zero byte in it. -/
  | zeroByte
  deriving DecidableEq, Repr

/-- The error in words. -/
def Error.message : Error → String
  | .notFound => "No such file or directory (os error 2)"
  | .alreadyExists => "File exists (os error 17)"
  | .notDirectory => "Not a directory (os error 20)"
  | .nameTooLong => "File name too long (os error 36)"
  | .zeroByte => "file name contained an unexpected NUL byte"

/-- The number of bytes in the longest name. -/
def maxName : Nat := 255

/-- The number of bytes in the longest path. -/
def maxPath : Nat := 4095

/-- Whether the names lead to a directory. -/
def hasDirectory (t : FileTree) (place : List (List UInt8)) : Bool :=
  place = [] || t.directories.contains place

/-- Whether the names lead to a file. -/
def hasFile (t : FileTree) (place : List (List UInt8)) : Bool :=
  t.files.contains place

/-- The directory above. -/
def Spot.up : Spot → Spot
  | ⟨place, 0⟩ => ⟨place.dropLast, 0⟩
  | ⟨place, n + 1⟩ => ⟨place, n⟩

/-- Follows the pieces of a path from a directory to a directory. -/
def follow (t : FileTree) : (spot : Spot) → List (List UInt8) → Except Error Spot
  | spot, [] => .ok spot
  | spot, piece :: rest =>
    if piece = [] ∨ piece = Path.dot then follow t spot rest
    else if piece = Path.dotDot then follow t spot.up rest
    else if spot.gone ≠ 0 then .error .notFound
    else if maxName < piece.length then .error .nameTooLong
    else
      let next := spot.place ++ [piece]
      if t.hasDirectory next then follow t ⟨next, 0⟩ rest
      else if t.hasFile next then .error .notDirectory
      else .error .notFound

/-- The pieces of a path without empty ones at its end, if the path can be followed. -/
def piecesOf (p : Path) : Except Error (List (List UInt8)) :=
  if p.bytes = [] then .error .notFound
  else if p.bytes.contains 0 then .error .zeroByte
  else if maxPath < p.bytes.length then .error .nameTooLong
  else .ok (p.pieces.reverse.dropWhile (· = [])).reverse

/-- Where a path starts. -/
def origin (t : FileTree) (p : Path) : Spot :=
  if p.isAbsolute then ⟨[], 0⟩ else t.start

/-- Whether the path leads to a directory. -/
def isDirectory (t : FileTree) (p : Path) : Bool :=
  match piecesOf p with
  | .ok pieces => (t.follow (t.origin p) pieces).isOk
  | .error _ => false

/-- Makes one directory in a directory that is there. -/
def makeDirectory (t : FileTree) (p : Path) : Except Error FileTree := do
  let pieces ← piecesOf p
  match pieces.getLast? with
  | none => .error .alreadyExists
  | some name =>
    let spot ← t.follow (t.origin p) pieces.dropLast
    if name = Path.dot ∨ name = Path.dotDot then .error .alreadyExists
    else if spot.gone ≠ 0 then .error .notFound
    else if maxName < name.length then .error .nameTooLong
    else
      let next := spot.place ++ [name]
      if t.hasDirectory next || t.hasFile next then .error .alreadyExists
      else .ok { t with directories := t.directories ++ [next] }

/-- Makes the first of the given paths a directory; the others are its parents in order, and one is
made only if the path below it was not found. -/
def makeFirst (t : FileTree) : List Path → FileTree × Option Error
  | [] => (t, none)
  | p :: above =>
    if p.bytes = [] then (t, none)
    else
      match t.makeDirectory p with
      | .ok t => (t, none)
      | .error .notFound =>
        match makeFirst t above with
        | (t, some e) => (t, some e)
        | (t, none) =>
          match t.makeDirectory p with
          | .ok t => (t, none)
          | .error e => if t.isDirectory p then (t, none) else (t, some e)
      | .error e => if t.isDirectory p then (t, none) else (t, some e)

/-- Makes a directory and those above it that are missing. What was made before an error stays. -/
def makeDirectories (t : FileTree) (p : Path) : FileTree × Option Error :=
  makeFirst t p.ancestors

end FileTree

end LoadingCheck
