import Gateway.CommandLine
import Gateway.CommandLine.Reader
import Gateway.CommandLine.Value
import Gateway.Config.Basic
import Gateway.Config.Fields
import Gateway.Config.Json
import Gateway.Config.Resolve
import Gateway.Config.Store
import Gateway.Config.Toml
import Gateway.Document.Mismatch
import Gateway.Domain
import Gateway.Domain.Composition
import Gateway.Domain.Direction
import Gateway.Domain.Joining
import Gateway.Domain.Label
import Gateway.Domain.Mapping
import Gateway.Domain.Punycode
import Gateway.FileTree.Basic
import Gateway.FileTree.Edit
import Gateway.Flag
import Gateway.Http.Digest
import Gateway.Http.Handshake
import Gateway.Http.Message
import Gateway.Http.Target
import Gateway.Ip
import Gateway.Ip.V4
import Gateway.Ip.V6
import Gateway.Json.Fault
import Gateway.Json.Number
import Gateway.Json.Skip
import Gateway.Json.Text
import Gateway.Lifecycle.Run
import Gateway.Lifecycle.Script
import Gateway.Log
import Gateway.Main
import Gateway.Network
import Gateway.Number.Binary64
import Gateway.Number.Decimal
import Gateway.Number.Duration
import Gateway.Origin
import Gateway.Program
import Gateway.Proofs.CommandLine.Occurrences
import Gateway.Proofs.CommandLine.Spelling
import Gateway.Proofs.Config.Json
import Gateway.Proofs.Config.Layers
import Gateway.Proofs.Config.Precedence
import Gateway.Proofs.Config.Protocol
import Gateway.Proofs.Config.Restart
import Gateway.Proofs.Config.RoundTrip
import Gateway.Proofs.Config.Starts
import Gateway.Proofs.Config.Toml
import Gateway.Proofs.FileTree.Creation
import Gateway.Proofs.Http.Headers
import Gateway.Proofs.Json.Written
import Gateway.Proofs.Lifecycle.Calls
import Gateway.Proofs.Lifecycle.Outcomes
import Gateway.Proofs.Lifecycle.Phases
import Gateway.Proofs.Lifecycle.Positions
import Gateway.Proofs.Lifecycle.Reachability
import Gateway.Proofs.Lifecycle.Turns
import Gateway.Proofs.Server.Gate
import Gateway.Proofs.Server.Grants
import Gateway.Proofs.Server.Listing
import Gateway.Proofs.Server.Policy
import Gateway.Proofs.Text.Numerals
import Gateway.Proofs.Text.Utf8
import Gateway.Proofs.Toml.Numbers
import Gateway.Proofs.Toml.Written
import Gateway.Proofs.Url.Visible
import Gateway.Server.Dispatch
import Gateway.Server.Gate
import Gateway.Server.Settings
import Gateway.Service
import Gateway.Setting
import Gateway.Text.Ascii
import Gateway.Text.Base64
import Gateway.Text.Quoted
import Gateway.Text.Ranges
import Gateway.Text.Terminal
import Gateway.Text.Utf8
import Gateway.Tls.Der
import Gateway.Tls.Key
import Gateway.Tls.Material
import Gateway.Tls.Pem
import Gateway.Toml.Document
import Gateway.Toml.Fault
import Gateway.Toml.Text
import Gateway.Toml.Value
import Gateway.Uplink
import Gateway.Url
import Gateway.Url.Host
import Gateway.Url.Path
import Gateway.Url.Percent
import Gateway.Usage
import Gateway.Proofs.CommandLine.Grammar
import Gateway.Proofs.CommandLine.Values
import Gateway.Proofs.CommandLine.Names
import Gateway.Proofs.CommandLine.Reading
import Gateway.Proofs.CommandLine.Strictness
import Gateway.Proofs.Config.Origins
import Gateway.Proofs.Http.Target
import Gateway.Proofs.Json.Objects
import Gateway.Proofs.Server.Paths
import Gateway.Proofs.Lifecycle.Comparison
import Gateway.Proofs.Lifecycle.Deadlines
import Gateway.Proofs.CommandLine.Overrides
import Gateway.Proofs.Url.Authority
import Gateway.Proofs.Ip.V6
import Gateway.Proofs.Server.SameOrigin
import Gateway.Proofs.Domain.Forms
import Gateway.Proofs.Domain.Names
import Gateway.Proofs.Domain.Punycode
import Gateway.Proofs.Url.Canonical
import Gateway.Proofs.Server.Relisting
import Gateway.Proofs.Server.OpenGate
import Gateway.Proofs.Server.Checks
import Gateway.Proofs.Config.Completeness
import Gateway.Proofs.Config.Documents
import Gateway.Proofs.Config.Decoders
import Gateway.Proofs.Http.Carried
import Gateway.Proofs.Server.Reach
import Gateway.Proofs.Json.Grammar
import Gateway.Proofs.Json.Scalars
import Gateway.Proofs.Json.Skipped
import Gateway.Proofs.Config.Members
import Gateway.Proofs.Config.Edits
import Gateway.Proofs.FileTree.Ways
import Gateway.Proofs.Service.Construction
import Gateway.Proofs.Service.Startup
