import LoadingCheck.Event.Basic
import LoadingCheck.Text.Utf8

/-!
# Streams of events

A script writes bytes. They are cut into lines at the line feeds before anything else is done with
them, so that a line that is not text cannot harm the next one. Each line is an event, or else noise.

## Main definitions

* `LoadingCheck.Stream.lines`, `LoadingCheck.Stream.endedLines` — the lines of an output, as bytes.
* `LoadingCheck.Stream.Line`, `LoadingCheck.Stream.readLine` — what a line is.
* `LoadingCheck.Stream.read` — what the lines of an output are.
* `LoadingCheck.Stream.events` — the events among them.
-/

namespace LoadingCheck.Stream

/-- The line feed. -/
def lineFeed : UInt8 := 0x0A

/-- The lines of an output. What stands after the last line feed is a line if it is not empty. -/
def lines (output : List UInt8) : List (List UInt8) :=
  let pieces := output.splitOn lineFeed
  if pieces.getLast? = some [] then pieces.dropLast else pieces

/-- The lines of an output that a line feed ends. -/
def endedLines (output : List UInt8) : List (List UInt8) :=
  (output.splitOn lineFeed).dropLast

/-- The text of a line, without carriage returns at its end. -/
def lineText (line : List UInt8) : List Char :=
  Text.dropEndWhile (· = '\r') (Utf8.decodeLossy line)

/-- What a line is. -/
inductive Line where
  | event (event : Event)
  /-- A line that reports no event. -/
  | noise (text : String)
  deriving DecidableEq, Repr

/-- What a line of bytes is. -/
def readLine (line : List UInt8) : Line :=
  let text := lineText line
  match Event.ofLine? text with
  | some event => .event event
  | none => .noise (String.ofList text)

/-- What the lines of an output are. -/
def read (output : List UInt8) : List Line :=
  (lines output).map readLine

/-- The event that a line is. -/
def Line.event? : Line → Option Event
  | .event e => some e
  | .noise _ => none

/-- The events among lines, in order. -/
def events (lines : List Line) : List Event :=
  lines.filterMap Line.event?

end LoadingCheck.Stream
