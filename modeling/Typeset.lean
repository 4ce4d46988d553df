import Typeset.Compile.Scripted
import Typeset.Compile.Session
import Typeset.Json.Compile
import Typeset.Json.Options
import Typeset.Json.Template
import Typeset.Json.Warning
import Typeset.Pipeline.Transform
import Typeset.Render
import Typeset.Render.Context
import Typeset.Proofs.Render.Related
import Typeset.Proofs.Render.Watched
import Typeset.Proofs.Render.Shown
import Typeset.Proofs.Render.Warnings
import Typeset.Proofs.Render.Brackets
import Typeset.Proofs.Compile.Trace
import Typeset.Proofs.Compile.Isolation
import Typeset.Proofs.Compile.Ledger
import Typeset.Proofs.Compile.Pace
import Typeset.Proofs.Compile.Delivery
import Typeset.Proofs.Compile.Order
import Typeset.Proofs.Spans.NormalForm
import Typeset.Proofs.Spans.WrittenOut
import Typeset.Proofs.Markup.Header
import Typeset.Proofs.Render.Frame
import Typeset.Proofs.Compile.Collapse
import Typeset.Proofs.Compile.Schedule
import Typeset.Proofs.Compile.FailStop
import Typeset.Proofs.Compile.Replay
import Typeset.Proofs.Text.Bytes
import Typeset.Proofs.Compile.Lifecycle
import Typeset.Proofs.Json.Respelled
import Typeset.Proofs.Json.Tree
import Typeset.Proofs.Json.Message
import Typeset.Proofs.Render.Interchange
import Typeset.Proofs.Render.Recut
import Typeset.Proofs.Render.Placement
import Typeset.Proofs.Compile.Templates
import Typeset.Proofs.Render.Title
import Typeset.Proofs.Render.HeadingDepth
import Typeset.Proofs.Spans.Runs
import Typeset.Proofs.Pipeline
import Typeset.Proofs.Spans.Decomposition
import Typeset.Proofs.Text.Lines
import Typeset.Proofs.Text.Trimming
import Typeset.Proofs.Metadata.Line
import Typeset.Proofs.Metadata.Field
import Typeset.Proofs.Metadata.Occurrence
import Typeset.Proofs.Metadata.EmptyTitle
import Typeset.Proofs.Metadata.Quoted
import Typeset.Proofs.Markup.Fence
import Typeset.Proofs.Markup.Delimited
import Typeset.Proofs.Render.NoteLines
import Typeset.Proofs.Render.Table
import Typeset.Proofs.Render.Indentation
import Typeset.Proofs.Render.ItemLines
import Typeset.Proofs.Markup.Import
import Typeset.Proofs.Render.ReferenceLabel
import Typeset.Proofs.Render.Neighbours
import Typeset.Proofs.Render.PlainText
import Typeset.Proofs.Render.LastDefinition
import Typeset.Proofs.Render.EscapedText
import Typeset.Proofs.Render.Literals
