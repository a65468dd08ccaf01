import BeaconLight.Address
import BeaconLight.Bytes
import BeaconLight.Chain.Fork
import BeaconLight.Chain.Preset
import BeaconLight.Chain.Slot
import BeaconLight.Chain.Spec
import BeaconLight.Command.Args
import BeaconLight.Command.Help
import BeaconLight.Command.Run
import BeaconLight.Command.Settings
import BeaconLight.ConfigFile
import BeaconLight.Decimal.Shortest
import BeaconLight.Fetch
import BeaconLight.Hex
import BeaconLight.Json.Basic
import BeaconLight.Json.Fault
import BeaconLight.Json.Lexer
import BeaconLight.Json.Number
import BeaconLight.Json.Outline
import BeaconLight.Json.Parser
import BeaconLight.Json.Printer
import BeaconLight.Json.Reader
import BeaconLight.Json.Token
import BeaconLight.Keccak
import BeaconLight.Main
import BeaconLight.Node.Attempt
import BeaconLight.Node.Client
import BeaconLight.Node.Error
import BeaconLight.Node.Reply
import BeaconLight.Node.Request
import BeaconLight.Node.Status
import BeaconLight.Node.Wire
import BeaconLight.Pool.Config
import BeaconLight.Pool.Dispatch
import BeaconLight.Pool.Error
import BeaconLight.Pool.Service
import BeaconLight.Pool.Session
import BeaconLight.Pool.Token
import BeaconLight.Proofs.Bytes
import BeaconLight.Proofs.Chain.Fork
import BeaconLight.Proofs.Chain.Slot
import BeaconLight.Proofs.Except
import BeaconLight.Proofs.Fetch
import BeaconLight.Proofs.Fetch.Output
import BeaconLight.Proofs.Hex
import BeaconLight.Proofs.Hex.Acceptance
import BeaconLight.Proofs.Hex.Spelling
import BeaconLight.Proofs.Json.Canonical
import BeaconLight.Proofs.Json.Members
import BeaconLight.Proofs.Json.Parser
import BeaconLight.Proofs.Json.Text
import BeaconLight.Proofs.Node.Bootstrap
import BeaconLight.Proofs.Node.Reply
import BeaconLight.Proofs.Node.Updates
import BeaconLight.Proofs.Pool.Cancellation
import BeaconLight.Proofs.Pool.Config
import BeaconLight.Proofs.Pool.Dispatch
import BeaconLight.Proofs.Pool.Order
import BeaconLight.Proofs.Pool.Plan
import BeaconLight.Proofs.Pool.Refusal
import BeaconLight.Proofs.Pool.Replay
import BeaconLight.Proofs.Pool.Service
import BeaconLight.Proofs.Pool.Session
import BeaconLight.Proofs.Pool.Timing
import BeaconLight.Proofs.Pool.Updates
import BeaconLight.Proofs.Record.Canonical
import BeaconLight.Proofs.Record.Conversion
import BeaconLight.Proofs.Record.Event
import BeaconLight.Proofs.Record.Fault
import BeaconLight.Proofs.Record.Json
import BeaconLight.Proofs.Record.Number
import BeaconLight.Proofs.Record.Section
import BeaconLight.Proofs.Record.Ssz
import BeaconLight.Proofs.Record.Vector
import BeaconLight.Proofs.Response.Chunk
import BeaconLight.Proofs.Response.Decoding
import BeaconLight.Proofs.Response.Encodings
import BeaconLight.Proofs.Response.Event
import BeaconLight.Proofs.Response.FirstFork
import BeaconLight.Proofs.Response.Framing
import BeaconLight.Proofs.Response.HeaderFork
import BeaconLight.Proofs.Response.Headers
import BeaconLight.Proofs.Response.Metadata
import BeaconLight.Proofs.Response.Negotiation
import BeaconLight.Proofs.Response.Order
import BeaconLight.Proofs.Response.Relocation
import BeaconLight.Proofs.Response.Updates
import BeaconLight.Proofs.Schema.Apart
import BeaconLight.Proofs.Schema.Blame
import BeaconLight.Proofs.Schema.Canonical
import BeaconLight.Proofs.Schema.Document
import BeaconLight.Proofs.Schema.Normalization
import BeaconLight.Proofs.Schema.Place
import BeaconLight.Proofs.Schema.Projection
import BeaconLight.Proofs.Schema.Reading
import BeaconLight.Proofs.Schema.Relocation
import BeaconLight.Proofs.Schema.Spelling
import BeaconLight.Proofs.Schema.Ssz
import BeaconLight.Proofs.Ssz.Parts
import BeaconLight.Proofs.Text.Blank
import BeaconLight.Proofs.Text.Digits
import BeaconLight.Proofs.Text.Utf8
import BeaconLight.Proofs.Url.Below
import BeaconLight.Proofs.Url.Parts
import BeaconLight.Proofs.Url.Path
import BeaconLight.Record.Beacon
import BeaconLight.Record.Committee
import BeaconLight.Record.Error
import BeaconLight.Record.Event
import BeaconLight.Record.Header
import BeaconLight.Record.Kind
import BeaconLight.Record.Payload
import BeaconLight.Record.Section
import BeaconLight.Record.Versioned
import BeaconLight.Require
import BeaconLight.Response.Chunk
import BeaconLight.Response.Encoding
import BeaconLight.Response.Envelope
import BeaconLight.Response.Error
import BeaconLight.Response.Negotiation
import BeaconLight.Response.Raw
import BeaconLight.Schema.Basic
import BeaconLight.Schema.Document
import BeaconLight.Schema.Ssz
import BeaconLight.Ssz.Error
import BeaconLight.Ssz.Parts
import BeaconLight.Text.Blank
import BeaconLight.Text.Digits
import BeaconLight.Text.Duration
import BeaconLight.Text.GraphemeExtend
import BeaconLight.Text.Printable
import BeaconLight.Text.Quoted
import BeaconLight.Text.Utf8
import BeaconLight.Url.Basic
import BeaconLight.Url.Domain
import BeaconLight.Url.Host
import BeaconLight.Url.InternetAddress
import BeaconLight.Url.Percent
