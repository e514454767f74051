import IndexFeed.CommandLine.Arguments
import IndexFeed.CommandLine.Run
import IndexFeed.Entries
import IndexFeed.Error
import IndexFeed.Event
import IndexFeed.Http.Message
import IndexFeed.Http.Node
import IndexFeed.Http.Wire
import IndexFeed.Json.Basic
import IndexFeed.Json.Printer
import IndexFeed.Json.Readable
import IndexFeed.Json.Reader
import IndexFeed.Main
import IndexFeed.Mutator.Basic
import IndexFeed.Mutator.Compile
import IndexFeed.Number.Basic
import IndexFeed.Number.Double
import IndexFeed.Path
import IndexFeed.Program
import IndexFeed.Proofs.CommandLine.Compile
import IndexFeed.Proofs.CommandLine.PartialUpdate
import IndexFeed.Proofs.Course
import IndexFeed.Proofs.Http.Addresses
import IndexFeed.Proofs.Http.Exchange
import IndexFeed.Proofs.Http.Paths
import IndexFeed.Proofs.Json.Printed
import IndexFeed.Proofs.Mutator.Acceptance
import IndexFeed.Proofs.Mutator.AllowLists
import IndexFeed.Proofs.Mutator.Concatenation
import IndexFeed.Proofs.Mutator.Edits
import IndexFeed.Proofs.Mutator.Effect
import IndexFeed.Proofs.Mutator.Elements
import IndexFeed.Proofs.Mutator.Faults
import IndexFeed.Proofs.Mutator.History
import IndexFeed.Proofs.Mutator.Order
import IndexFeed.Proofs.Mutator.Reading
import IndexFeed.Proofs.Mutator.Restriction
import IndexFeed.Proofs.Mutator.RoundTrip
import IndexFeed.Proofs.Number.Alphabet
import IndexFeed.Proofs.Number.Digits
import IndexFeed.Proofs.Number.Spelling
import IndexFeed.Proofs.Path.Classification
import IndexFeed.Proofs.Path.Container
import IndexFeed.Proofs.Path.Parts
import IndexFeed.Proofs.Path.Verbatim
import IndexFeed.Proofs.Request.RoundTrip
import IndexFeed.Proofs.Script.Accessor
import IndexFeed.Proofs.Script.LiteralText
import IndexFeed.Proofs.Script.LiteralValue
import IndexFeed.Proofs.Script.Pieces
import IndexFeed.Proofs.Script.Removal
import IndexFeed.Proofs.Script.Tokens
import IndexFeed.Proofs.Script.Unambiguous
import IndexFeed.Proofs.Script.Unquote
import IndexFeed.Proofs.Settings.Sources
import IndexFeed.Proofs.Text.Cut
import IndexFeed.Proofs.Text.Delimited
import IndexFeed.Proofs.Traverse
import IndexFeed.Proofs.Update.Dispatch
import IndexFeed.Proofs.Update.Documents
import IndexFeed.Proofs.Update.Partial
import IndexFeed.Proofs.Update.Selection
import IndexFeed.Proofs.Update.Tally
import IndexFeed.Proofs.Update.Traffic
import IndexFeed.Proofs.Url.Added
import IndexFeed.Proofs.Url.Parsed
import IndexFeed.Proofs.Url.Percent
import IndexFeed.Proofs.Url.Target
import IndexFeed.Request.Basic
import IndexFeed.Script.Envelope
import IndexFeed.Script.Statement
import IndexFeed.Settings.Basic
import IndexFeed.Settings.Source
import IndexFeed.Text.Basic
import IndexFeed.Update.Basic
import IndexFeed.Update.Input
import IndexFeed.Update.Interface
import IndexFeed.Url.Basic
import IndexFeed.Url.Host
import IndexFeed.Url.Parser
import IndexFeed.Url.Segments
