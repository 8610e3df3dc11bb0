import LoadingCheck.Bridge.Basic
import LoadingCheck.Bridge.Codec
import LoadingCheck.Check
import LoadingCheck.ClassPattern
import LoadingCheck.CommandLine.Arguments
import LoadingCheck.CommandLine.Help
import LoadingCheck.CommandLine.Parser
import LoadingCheck.CommandLine.Run
import LoadingCheck.Duration
import LoadingCheck.Event.Basic
import LoadingCheck.Event.Stream
import LoadingCheck.Exit
import LoadingCheck.Failure
import LoadingCheck.FileTree
import LoadingCheck.Json.Basic
import LoadingCheck.Json.Decode
import LoadingCheck.Json.Outline
import LoadingCheck.Log.Basic
import LoadingCheck.Log.Filter
import LoadingCheck.Machine
import LoadingCheck.Main
import LoadingCheck.Number.Binary64
import LoadingCheck.Number.Decimal
import LoadingCheck.Path
import LoadingCheck.Proofs.Bridge.Handler
import LoadingCheck.Proofs.Check.Log
import LoadingCheck.Proofs.Check.Passed
import LoadingCheck.Proofs.Check.Place
import LoadingCheck.Proofs.Check.Stages
import LoadingCheck.Proofs.ClassPattern.Escapes
import LoadingCheck.Proofs.ClassPattern.Foreign.Accepted
import LoadingCheck.Proofs.ClassPattern.Foreign.Brackets
import LoadingCheck.Proofs.ClassPattern.Foreign.Escapes
import LoadingCheck.Proofs.ClassPattern.Foreign.Search
import LoadingCheck.Proofs.ClassPattern.Foreign.Syntax
import LoadingCheck.Proofs.ClassPattern.Offset
import LoadingCheck.Proofs.ClassPattern.Plain
import LoadingCheck.Proofs.ClassPattern.Portable
import LoadingCheck.Proofs.CommandLine.Given
import LoadingCheck.Proofs.CommandLine.Overflow
import LoadingCheck.Proofs.CommandLine.Verbosity
import LoadingCheck.Proofs.CommandLine.Words
import LoadingCheck.Proofs.Event.Codec
import LoadingCheck.Proofs.Event.Cut
import LoadingCheck.Proofs.Event.Grammar
import LoadingCheck.Proofs.Event.Independence
import LoadingCheck.Proofs.Event.Protocol
import LoadingCheck.Proofs.Failure.CallLog
import LoadingCheck.Proofs.Fallible
import LoadingCheck.Proofs.FileTree.Growth
import LoadingCheck.Proofs.Json.Agreement
import LoadingCheck.Proofs.Json.Arrangement
import LoadingCheck.Proofs.Json.Bounds
import LoadingCheck.Proofs.Json.Cut
import LoadingCheck.Proofs.Json.Decode
import LoadingCheck.Proofs.Json.Denotation
import LoadingCheck.Proofs.Json.Extent
import LoadingCheck.Proofs.Json.Grammar
import LoadingCheck.Proofs.Json.Literal
import LoadingCheck.Proofs.Json.Members
import LoadingCheck.Proofs.Json.Text
import LoadingCheck.Proofs.Machine.Script
import LoadingCheck.Proofs.Number.Decimal
import LoadingCheck.Proofs.Path.Codec
import LoadingCheck.Proofs.Regex.Forward
import LoadingCheck.Proofs.Regex.Matches
import LoadingCheck.Proofs.Regex.Places
import LoadingCheck.Proofs.Report.Interleaving
import LoadingCheck.Proofs.Report.Storage
import LoadingCheck.Proofs.Report.Summary
import LoadingCheck.Proofs.Scenario.Codec
import LoadingCheck.Proofs.Scenario.Reload
import LoadingCheck.Proofs.Scenario.Sources
import LoadingCheck.Proofs.Script.Cancellation
import LoadingCheck.Proofs.Script.Confinement
import LoadingCheck.Proofs.Script.Literals
import LoadingCheck.Proofs.Script.Reading
import LoadingCheck.Proofs.Script.Recovery
import LoadingCheck.Proofs.Script.Window
import LoadingCheck.Proofs.Text.Blank
import LoadingCheck.Proofs.Text.Search
import LoadingCheck.Proofs.Text.Utf8
import LoadingCheck.Regex.Ast
import LoadingCheck.Regex.Error
import LoadingCheck.Regex.Expr
import LoadingCheck.Regex.Match
import LoadingCheck.Regex.Parser
import LoadingCheck.Regex.Size
import LoadingCheck.Report.Basic
import LoadingCheck.Report.Codec
import LoadingCheck.Scenario.Basic
import LoadingCheck.Scenario.Codec
import LoadingCheck.Script.Basic
import LoadingCheck.Script.Fragment
import LoadingCheck.Text.Blank
import LoadingCheck.Text.LowerCase
import LoadingCheck.Text.Quoted
import LoadingCheck.Text.Search
import LoadingCheck.Text.Utf8
import LoadingCheck.Unicode.ByteRows
import LoadingCheck.Unicode.Category
import LoadingCheck.Unicode.CharSet
import LoadingCheck.Unicode.Lookup
import LoadingCheck.Unicode.Property
import LoadingCheck.Unicode.Script
import LoadingCheck.Unicode.ScriptExtensions
