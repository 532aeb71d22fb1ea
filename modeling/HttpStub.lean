import HttpStub.Text.Utf8
import HttpStub.Text.Ascii
import HttpStub.Text.Split
import HttpStub.Text.LowerCase
import HttpStub.Text.Quoted
import HttpStub.Text.Percent
import HttpStub.Regex.Class
import HttpStub.Number.Binary64
import HttpStub.Number.Shortest
import HttpStub.Json.Number
import HttpStub.Json.Value
import HttpStub.Json.Canonical
import HttpStub.Json.Normalize
import HttpStub.Json.Outline
import HttpStub.Dict
import HttpStub.Json.Decode
import HttpStub.Json.Schema
import HttpStub.Http.Header
import HttpStub.Http.Request
import HttpStub.Text.Table
import HttpStub.Text.Mark
import HttpStub.Text.CombiningClass
import HttpStub.Text.Decomposition
import HttpStub.Text.Normal
import HttpStub.Text.Direction
import HttpStub.Text.Joining
import HttpStub.Host.Address4
import HttpStub.Host.Address6
import HttpStub.Host.Punycode
import HttpStub.Host.Spelling
import HttpStub.Host.Label
import HttpStub.Host.Basic
import HttpStub.Url.Path
import HttpStub.Url.Basic
import HttpStub.Url.Reader
import HttpStub.Stub.Basic
import HttpStub.Stub.Format
import HttpStub.Regex.Syntax
import HttpStub.Regex.Unicode.Category
import HttpStub.Regex.Unicode.Script
import HttpStub.Regex.Unicode.Age
import HttpStub.Regex.Unicode.Binary
import HttpStub.Regex.Unicode.Segment
import HttpStub.Regex.Unicode.Name
import HttpStub.Regex.Escape
import HttpStub.Regex.Bracket
import HttpStub.Regex.Interval
import HttpStub.Regex.Size
import HttpStub.Text.Alphanumeric
import HttpStub.Regex.Reader
import HttpStub.Regex.Match
import HttpStub.Stub.Verdict
import HttpStub.Stub.Selection
import HttpStub.Stub.Mismatch
import HttpStub.Log
import HttpStub.Exchange.Basic
import HttpStub.Exchange.Filter
import HttpStub.Exchange.ToStub
import HttpStub.Exchange.Snapshot
import HttpStub.Exchange.Recorder
import HttpStub.Http.Response
import HttpStub.Mode
import HttpStub.Relay.Backend
import HttpStub.Metrics
import HttpStub.Yaml.Cursor
import HttpStub.Yaml.Scalar
import HttpStub.Yaml.Token
import HttpStub.Yaml.Node
import HttpStub.Yaml.Value
import HttpStub.Yaml.Record
import HttpStub.Files.Tree
import HttpStub.Settings.Basic
import HttpStub.Settings.Format
import HttpStub.Settings.File
import HttpStub.CommandLine.Arguments
import HttpStub.Stub.Files
import HttpStub.Server.State
import HttpStub.Server.Admin
import HttpStub.Server.Serve
import HttpStub.Http.Gzip
import HttpStub.Http.Message
import HttpStub.CommandLine.Usage
import HttpStub.Main
import HttpStub.Proofs.Json.Shape
import HttpStub.Proofs.Json.Order
import HttpStub.Proofs.Groups
import HttpStub.Proofs.Json.Parsed
import HttpStub.Proofs.Json.Text
import HttpStub.Proofs.Stub.Selection
import HttpStub.Proofs.Http.Target
import HttpStub.Proofs.Stub.Verdict
import HttpStub.Proofs.Exchange.Pattern
import HttpStub.Proofs.Json.Canonical
import HttpStub.Proofs.Exchange.OwnRequest
import HttpStub.Proofs.Json.Schema
import HttpStub.Proofs.Exchange.Key
import HttpStub.Proofs.Exchange.SameRequest
import HttpStub.Proofs.Exchange.Order
import HttpStub.Proofs.Exchange.Snapshot
import HttpStub.Proofs.Occurrences
import HttpStub.Proofs.Exchange.Chain
import HttpStub.Proofs.Exchange.Scenario
import HttpStub.Proofs.Exchange.Collision
import HttpStub.Proofs.Exchange.Interleaving
import HttpStub.Proofs.Exchange.Recorder
import HttpStub.Proofs.Exchange.Replay
import HttpStub.Proofs.Text.Split
import HttpStub.Proofs.Text.Utf8
import HttpStub.Proofs.Text.Percent
import HttpStub.Proofs.Http.Query
import HttpStub.Proofs.Json.Equivalence
import HttpStub.Proofs.Json.Restore
import HttpStub.Proofs.Json.Decoded
import HttpStub.Proofs.Json.Room
import HttpStub.Proofs.Stub.Document
import HttpStub.Proofs.Stub.Nesting
import HttpStub.Proofs.Stub.Listing
import HttpStub.Proofs.Exchange.Export
import HttpStub.Proofs.Server.Task
import HttpStub.Proofs.Server.Reachable
import HttpStub.Proofs.Server.Transfer
import HttpStub.Proofs.Server.History
import HttpStub.Proofs.Server.Refusal
import HttpStub.Proofs.Stub.Precedence
import HttpStub.Proofs.Stub.Extension
import HttpStub.Proofs.Stub.Difference
import HttpStub.Proofs.Exchange.Parameters
import HttpStub.Proofs.Http.Header
import HttpStub.Proofs.Http.Spelling
import HttpStub.Proofs.Exchange.Reply
import HttpStub.Proofs.Server.Withheld
import HttpStub.Proofs.Json.Rearranged
import HttpStub.Proofs.Json.Normal
import HttpStub.Proofs.Server.Served
import HttpStub.Proofs.Server.Count
import HttpStub.Proofs.Stub.Acceptance
import HttpStub.Proofs.Stub.Report
import HttpStub.Proofs.Text.Octets
import HttpStub.Proofs.Stub.Directory
import HttpStub.Proofs.Regex.Interval
import HttpStub.Proofs.Regex.Match
import HttpStub.Proofs.Regex.Capture
import HttpStub.Proofs.Exchange.Filter
import HttpStub.Proofs.Server.Backend
import HttpStub.Proofs.Relay.Headers
