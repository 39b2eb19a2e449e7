import DocFilter.Text.Symbol
import DocFilter.Json.Fault
import DocFilter.Decimal.Shortest
import DocFilter.Decimal.Fixed
import DocFilter.Decimal.Numeral
import DocFilter.Json.Printer
import DocFilter.Json.Outline
import DocFilter.Text.Shown
import DocFilter.Decode.Tagged
import DocFilter.Document.Height
import DocFilter.Document.Table
import DocFilter.Document.Traverse
import DocFilter.Document.Encode
import DocFilter.Document.Decode
import DocFilter.Filter.Chain
import DocFilter.Filter.Trace
import DocFilter.Walk
import DocFilter.Rendering
import DocFilter.Channel
import DocFilter.Help
import DocFilter.Tool
import DocFilter.Main
import DocFilter.Proofs.Json.Literals
import DocFilter.Proofs.Json.Layouts
import DocFilter.Proofs.Decimal.Exact
import DocFilter.Proofs.Json.Value
import DocFilter.Proofs.Json.Numerals
import DocFilter.Proofs.Json.ReadAs
import DocFilter.Proofs.Json.RoundTrip
import DocFilter.Proofs.Decode.Reads
import DocFilter.Proofs.Decode.Objects
import DocFilter.Proofs.Document.Codec
import DocFilter.Proofs.Document.RoundTrip
import DocFilter.Proofs.Document.Reordering
import DocFilter.Proofs.Document.Alike
import DocFilter.Proofs.Document.Traverse
import DocFilter.Proofs.Walk.Visitor
import DocFilter.Proofs.Document.Height
import DocFilter.Proofs.Walk.Dialogue
import DocFilter.Proofs.Walk.Answers
import DocFilter.Proofs.Walk.Record
import DocFilter.Proofs.Walk.Passthrough
import DocFilter.Proofs.Document.Marked
import DocFilter.Proofs.Document.Nodes
import DocFilter.Proofs.Document.Lists
import DocFilter.Proofs.Document.Prose
import DocFilter.Proofs.Document.Building
import DocFilter.Proofs.Document.Layouts
import DocFilter.Proofs.Walk.Reading
import DocFilter.Proofs.Walk.Counting
import DocFilter.Proofs.Walk.Calls
import DocFilter.Proofs.Walk.Frames
import DocFilter.Proofs.Walk.SpelledOut
import DocFilter.Proofs.Walk.Encoding
import DocFilter.Proofs.Walk.Settling
import DocFilter.Proofs.Walk.Nesting
import DocFilter.Proofs.Walk.Limit
import DocFilter.Proofs.Walk.Fusion
import DocFilter.Proofs.Rendering.Listings
import DocFilter.Proofs.Rendering.Tables
import DocFilter.Proofs.Rendering.Order
import DocFilter.Proofs.Rendering.Code
import DocFilter.Proofs.Rendering.Complete
import DocFilter.Proofs.Rendering.Parts
import DocFilter.Proofs.Rendering.Unambiguous
import DocFilter.Proofs.Channel
import DocFilter.Proofs.Job
import DocFilter.Proofs.Tool
import DocFilter.Proofs.Rendering.Strictness
import DocFilter.Proofs.Success
import DocFilter.Proofs.Decode.Forms
import DocFilter.Proofs.Decode.Members
import DocFilter.Proofs.Decode.Respelling
import DocFilter.Proofs.Decode.Restoring
import DocFilter.Proofs.Document.Forms
import DocFilter.Proofs.Document.Accepted
import DocFilter.Proofs.Document.Covering
import DocFilter.Proofs.Walk.Covering
import DocFilter.Proofs.Rendering.Readback
import DocFilter.Proofs.Rendering.Lossless
import DocFilter.Proofs.Rendering.Termination
import DocFilter.Proofs.Template.Grammar
import DocFilter.Proofs.Template.Substitution
import DocFilter.Proofs.Template.Problems
import DocFilter.Proofs.Template.Quotation
import DocFilter.Proofs.Rendering.AttributeText
import DocFilter.Proofs.Rendering.Balance
import DocFilter.Proofs.Rendering.Columns
import DocFilter.Proofs.Walk.Chains
import DocFilter.Proofs.Walk.Siblings
