import SqlLedger.Bytes
import SqlLedger.Number.Double
import SqlLedger.Text.Utf8
import SqlLedger.Text.Shown
import SqlLedger.Text.Quoted
import SqlLedger.Wire.Codec
import SqlLedger.NetworkError
import SqlLedger.NodeAddress
import SqlLedger.Message.Command
import SqlLedger.Message.Payload
import SqlLedger.Envelope.Name
import SqlLedger.Envelope.Frame
import SqlLedger.Envelope.Response
import SqlLedger.Envelope.Contents
import SqlLedger.Client.Basic
import SqlLedger.Statement.Basic
import SqlLedger.Text.Numeral
import SqlLedger.Number.Decimal
import SqlLedger.Text.Blank
import SqlLedger.Text.CodePoint
import SqlLedger.Number.Reading
import SqlLedger.Json.Reader
import SqlLedger.Configuration.Toml
import SqlLedger.Configuration.Yaml
import SqlLedger.Configuration.Ini
import SqlLedger.Configuration.Hjson
import SqlLedger.Configuration.Path
import SqlLedger.Configuration.Layers
import SqlLedger.Configuration.Load
import SqlLedger.CommandLine.Run
import SqlLedger.Main
import SqlLedger.Proofs.Text.Utf8
import SqlLedger.Proofs.Wire.Laws
import SqlLedger.Proofs.Wire.Growth
import SqlLedger.Proofs.Message.Payload
import SqlLedger.Proofs.Message.Truncation
import SqlLedger.Proofs.Envelope.Framing
import SqlLedger.Proofs.Envelope.Stream
import SqlLedger.Proofs.Envelope.Name
import SqlLedger.Proofs.Client.Exchange
import SqlLedger.Proofs.Client.Request
import SqlLedger.Proofs.Envelope.Response
import SqlLedger.Proofs.Client.Answer
import SqlLedger.Proofs.Envelope.Buffer
import SqlLedger.Proofs.Client.Token
import SqlLedger.Proofs.Envelope.Agreement
import SqlLedger.Proofs.Base64
import SqlLedger.Proofs.Statement.Comment
import SqlLedger.Proofs.Envelope.Dispatch
import SqlLedger.Proofs.Configuration.Layers
import SqlLedger.Proofs.Configuration.Load
import SqlLedger.Proofs.Configuration.Number
import SqlLedger.Proofs.Statement.History
import SqlLedger.Proofs.Statement.Marker
import SqlLedger.Proofs.Statement.Envelope
import SqlLedger.Proofs.Statement.Literal
import SqlLedger.Proofs.Statement.Rollback
import SqlLedger.Proofs.CommandLine.Steps
import SqlLedger.Proofs.CommandLine.Run
import SqlLedger.Proofs.Result
import SqlLedger.Proofs.Client.Target
import SqlLedger.Proofs.Client.Delivery
import SqlLedger.Proofs.Number.Decimal
import SqlLedger.Proofs.Text.Line
import SqlLedger.Proofs.Text.Numeral
import SqlLedger.Proofs.CommandLine.Listing
import SqlLedger.Proofs.Statement.Reference
import SqlLedger.Proofs.Base64.Fault
import SqlLedger.Proofs.Json.Text
import SqlLedger.Proofs.Statement.Blame
import SqlLedger.Proofs.Json.Number
import SqlLedger.Proofs.CommandLine.State
import SqlLedger.Proofs.Configuration.Toml.Document
import SqlLedger.Proofs.Configuration.Spelling
import SqlLedger.Proofs.Wire.OctetString
import SqlLedger.Proofs.Statement.Escape
import SqlLedger.Proofs.CommandLine.Unspent
import SqlLedger.Proofs.Envelope.Padding
