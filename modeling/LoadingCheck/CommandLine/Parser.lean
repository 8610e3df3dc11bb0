import LoadingCheck.CommandLine.Arguments

/-!
# Reading the command line

The words of a command line are read one after the other. An option takes its value from its own word,
after an equals sign, or from the next one. In the latter case the value is looked at only when the next
option or flag comes or the words end; a word that cannot be understood is reported before that. Two
hyphens end the options, and no word may follow them.

## Main definitions

* `LoadingCheck.CommandLine.Request` — what a command line asks for.
* `LoadingCheck.CommandLine.Word` — words by their form.
* `LoadingCheck.CommandLine.parse` — reads a command line.
-/

namespace LoadingCheck.CommandLine

/-- What a command line asks for. -/
inductive Request where
  | run (arguments : Arguments)
  | help
  | version
  | refuse (refusal : Refusal)
  deriving DecidableEq, Repr

/-! ### Words -/

/-- The hyphen. -/
def hyphen : UInt8 := 0x2D

/-- The equals sign. -/
def equals : UInt8 := 0x3D

/-- A word by its form. -/
inductive Word where
  /-- Two hyphens. -/
  | terminator
  /-- Two hyphens and a name, possibly with an equals sign and a value. -/
  | long (name : List UInt8) (value : Option (List UInt8))
  /-- One hyphen and letters, with `none` for every stretch that is not text. -/
  | short (letters : List (Option Char))
  /-- Anything else, a single hyphen too. -/
  | plain
  deriving DecidableEq, Repr

/-- The name and the value of a word that starts with two hyphens. -/
def splitLong (s : List UInt8) : Word :=
  match s.dropWhile (· ≠ equals) with
  | [] => .long s none
  | _ :: value => .long (s.takeWhile (· ≠ equals)) (some value)

/-- The form of a word. -/
def Word.ofBytes : List UInt8 → Word
  | a :: b :: rest =>
    if a ≠ hyphen then .plain
    else if b ≠ hyphen then .short (Utf8.units (b :: rest))
    else if rest = [] then .terminator
    else splitLong rest
  | _ => .plain

/-! ### States -/

/-- An option that waits to be looked at, with its value if that has come. -/
structure Waiting where
  option : ValueOption
  value : Option (List UInt8)
  deriving DecidableEq, Repr

/-- What is known after some words. -/
structure State where
  arguments : Arguments := {}
  options : List ValueOption := []
  flags : List Flag := []
  waiting : Option Waiting := none
  deriving Repr

/-- Why reading ends before the last word. -/
inductive Stop where
  | help
  | version
  | refuse (refusal : Refusal)
  deriving DecidableEq, Repr

/-- What a command line asks for if reading ends early. -/
def Stop.request : Stop → Request
  | .help => .help
  | .version => .version
  | .refuse refusal => .refuse refusal

namespace State

/-- Takes an option with its value into account. -/
def addOption (s : State) (option : ValueOption) (value : List UInt8) : Except Stop State :=
  if s.options.contains option then .error (.refuse (.repeated option.display))
  else
    match option.put value s.arguments with
    | .ok arguments => .ok { s with arguments, options := option :: s.options }
    | .error refusal => .error (.refuse refusal)

/-- Takes the option that waits into account. -/
def settle (s : State) : Except Stop State :=
  match s.waiting with
  | none => .ok s
  | some ⟨option, some value⟩ => { s with waiting := none }.addOption option value
  | some ⟨option, none⟩ => .error (.refuse (.missingValue option))

/-- Takes a flag into account. -/
def addFlag (s : State) (flag : Flag) : Except Stop State := do
  let s ← s.settle
  match flag with
  | .help => .error .help
  | .version => .error .version
  | flag =>
    if s.flags.contains flag then .error (.refuse (.repeated flag.display))
    else
      let a := s.arguments
      let arguments :=
        match flag with
        | .headed => { a with headed := true }
        | .strict => { a with strict := true }
        | _ => { a with verbose := true }
      return { s with arguments, flags := flag :: s.flags }

/-- Takes the letters of a word into account. A stretch that is not text is refused with all that follows. -/
def addLetters (s : State) : List (Option Char) → Except Stop State
  | [] => .ok s
  | none :: rest =>
    .error (.refuse (.unexpected (String.ofList ('-' :: (none :: rest).map (·.getD '\uFFFD')))))
  | some c :: rest =>
    match Flag.ofLetter? c with
    | some flag => do
      let s ← s.addFlag flag
      s.addLetters rest
    | none => .error (.refuse (.unexpected (String.ofList ['-', c])))

/-- Takes a word with two hyphens and a name into account. -/
def addLong (s : State) (name : List UInt8) (value : Option (List UInt8)) : Except Stop State :=
  match ValueOption.ofName? name, Flag.ofName? name, value with
  | some option, _, some value => do
    let s ← s.settle
    s.addOption option value
  | some option, _, none => do
    let s ← s.settle
    return { s with waiting := some ⟨option, none⟩ }
  | none, some flag, none => s.addFlag flag
  | none, some flag, some value => .error (.refuse (.valueForFlag flag (shown value)))
  | none, none, _ => .error (.refuse (.unexpected ("--" ++ shown name)))

/-- Takes any other word into account: the value of the option before it, if that waits for one. -/
def addPlain (s : State) (word : List UInt8) : Except Stop State :=
  match s.waiting with
  | some ⟨option, none⟩ => .ok { s with waiting := some ⟨option, some word⟩ }
  | _ => .error (.refuse (.unexpected (shown word)))

/-- Takes the words of a command line into account. -/
def addWords (s : State) : List (List UInt8) → Except Stop State
  | [] => s.settle
  | word :: rest =>
    match Word.ofBytes word with
    | .terminator =>
      match rest with
      | [] => s.settle
      | next :: _ => .error (.refuse (.unexpected (shown next)))
    | .long name value => do
      let s ← s.addLong name value
      s.addWords rest
    | .short letters => do
      let s ← s.addLetters letters
      s.addWords rest
    | .plain => do
      let s ← s.addPlain word
      s.addWords rest

end State

/-- Reads a command line. -/
def parse (words : List (List UInt8)) : Request :=
  match State.addWords {} words with
  | .ok s => .run s.arguments
  | .error stop => stop.request

end LoadingCheck.CommandLine
