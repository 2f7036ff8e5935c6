import PeerLink.Address.Ip
import PeerLink.Address.Json
import PeerLink.Address.Peer
import PeerLink.Bytes
import PeerLink.CommandLine
import PeerLink.Config.Arguments
import PeerLink.Config.Basic
import PeerLink.Config.File
import PeerLink.Connection
import PeerLink.Crypto.Aead
import PeerLink.Crypto.Blake2b
import PeerLink.Crypto.ChaCha20
import PeerLink.Crypto.Curve25519
import PeerLink.Crypto.Poly1305
import PeerLink.Crypto.Sha512
import PeerLink.Crypto.Square
import PeerLink.Crypto.Standard
import PeerLink.Crypto.Suite
import PeerLink.Entropy
import PeerLink.Envelope
import PeerLink.Framing.Basic
import PeerLink.Framing.LengthPrefixed
import PeerLink.Framing.Sealed
import PeerLink.Hex
import PeerLink.Json.Basic
import PeerLink.Json.Binary64
import PeerLink.Json.Decoder
import PeerLink.Json.Number
import PeerLink.Json.Scan
import PeerLink.Json.Skip
import PeerLink.Json.Writer
import PeerLink.Key
import PeerLink.Link
import PeerLink.LogLevel
import PeerLink.Main
import PeerLink.Negotiation.Basic
import PeerLink.Negotiation.Dialer
import PeerLink.Negotiation.Error
import PeerLink.Negotiation.Listener
import PeerLink.Negotiation.Pair
import PeerLink.Noise.Handshake
import PeerLink.Noise.Sealing
import PeerLink.Peer.Bootstrap
import PeerLink.Peer.Exchange
import PeerLink.Peer.FanOut
import PeerLink.Peer.Message
import PeerLink.Peer.Store
import PeerLink.Program.Run
import PeerLink.Program.Task
import PeerLink.Proofs.Address.Grammar
import PeerLink.Proofs.Address.Ip
import PeerLink.Proofs.Address.Peer
import PeerLink.Proofs.Bytes
import PeerLink.Proofs.Connection.Authenticity
import PeerLink.Proofs.Connection.Bare
import PeerLink.Proofs.Connection.Calls
import PeerLink.Proofs.Connection.Delivery
import PeerLink.Proofs.Connection.Draining
import PeerLink.Proofs.Connection.Duplex
import PeerLink.Proofs.Connection.Halves
import PeerLink.Proofs.Connection.Incoming
import PeerLink.Proofs.Connection.Level
import PeerLink.Proofs.Connection.Life
import PeerLink.Proofs.Connection.Mail
import PeerLink.Proofs.Connection.Order
import PeerLink.Proofs.Connection.Packing
import PeerLink.Proofs.Connection.Posting
import PeerLink.Proofs.Connection.Refusal
import PeerLink.Proofs.Connection.Secure
import PeerLink.Proofs.Connection.Sending
import PeerLink.Proofs.Connection.Standing
import PeerLink.Proofs.Connection.Transit
import PeerLink.Proofs.Connection.Tray
import PeerLink.Proofs.Connection.Unsealing
import PeerLink.Proofs.Crypto.Standard
import PeerLink.Proofs.Envelope
import PeerLink.Proofs.Envelope.Compatible
import PeerLink.Proofs.Envelope.Normal
import PeerLink.Proofs.Framing.Authenticity
import PeerLink.Proofs.Framing.Ending
import PeerLink.Proofs.Framing.Flight
import PeerLink.Proofs.Framing.LengthPrefixed
import PeerLink.Proofs.Framing.Reading
import PeerLink.Proofs.Framing.Sealed
import PeerLink.Proofs.Framing.Sequence
import PeerLink.Proofs.Hex
import PeerLink.Proofs.Json.Range
import PeerLink.Proofs.Json.Reading
import PeerLink.Proofs.Json.Records
import PeerLink.Proofs.Json.Spelling
import PeerLink.Proofs.Json.Strings
import PeerLink.Proofs.Json.Tagged
import PeerLink.Proofs.Json.Trees
import PeerLink.Proofs.Key
import PeerLink.Proofs.Negotiation.Agreement
import PeerLink.Proofs.Negotiation.Binding
import PeerLink.Proofs.Negotiation.Compatible
import PeerLink.Proofs.Negotiation.Deeds
import PeerLink.Proofs.Negotiation.Dialed
import PeerLink.Proofs.Negotiation.Expected
import PeerLink.Proofs.Negotiation.Facing
import PeerLink.Proofs.Negotiation.Heeding
import PeerLink.Proofs.Negotiation.Identities
import PeerLink.Proofs.Negotiation.Meeting
import PeerLink.Proofs.Negotiation.Offers
import PeerLink.Proofs.Negotiation.Plain
import PeerLink.Proofs.Negotiation.Resolving
import PeerLink.Proofs.Negotiation.Resting
import PeerLink.Proofs.Negotiation.Sharing
import PeerLink.Proofs.Negotiation.Sides
import PeerLink.Proofs.Negotiation.Unhindered
import PeerLink.Proofs.Noise.Binding
import PeerLink.Proofs.Noise.Handshake
import PeerLink.Proofs.Noise.Possession
import PeerLink.Proofs.Noise.Sealing
import PeerLink.Proofs.Patience.Asking
import PeerLink.Proofs.Patience.Collecting
import PeerLink.Proofs.Patience.Connection
import PeerLink.Proofs.Patience.Dialogue
import PeerLink.Proofs.Patience.Later
import PeerLink.Proofs.Patience.Negotiating
import PeerLink.Proofs.Patience.Splitting
import PeerLink.Proofs.Patience.Steps
import PeerLink.Proofs.Peer.Answering
import PeerLink.Proofs.Peer.Bootstrap
import PeerLink.Proofs.Peer.Capacity
import PeerLink.Proofs.Peer.FanOut
import PeerLink.Proofs.Peer.History
import PeerLink.Proofs.Peer.Message
import PeerLink.Proofs.Peer.Reuse
import PeerLink.Proofs.Peer.Scheduling
import PeerLink.Proofs.Peer.Service
import PeerLink.Proofs.Peer.Serving
import PeerLink.Proofs.Peer.Store
import PeerLink.Proofs.Stream.Reading
import PeerLink.Proofs.Stream.Writing
import PeerLink.Proofs.Text.Digits
import PeerLink.Proofs.Text.Utf8
import PeerLink.Proofs.Transport.Dispatch
import PeerLink.Resolution
import PeerLink.Secret
import PeerLink.SecureChannel
import PeerLink.Stream.Basic
import PeerLink.Stream.Buffer
import PeerLink.Stream.Outcome
import PeerLink.Stream.Pipe
import PeerLink.Text.Blank
import PeerLink.Text.Decimal
import PeerLink.Text.Invisible
import PeerLink.Text.Quoted
import PeerLink.Text.Utf8
import PeerLink.Transport.Basic
import PeerLink.Transport.Tcp
import PeerLink.Upgrade
import PeerLink.Yaml.Cursor
import PeerLink.Yaml.Lexer
import PeerLink.Yaml.Node
import PeerLink.Yaml.Reader
import PeerLink.Yaml.Scalar
import PeerLink.Yaml.Token
import PeerLink.Yaml.Writer
import PeerLink.Proofs.Entropy
import PeerLink.Proofs.Connection.Bounds
import PeerLink.Proofs.Negotiation.Bounds
import PeerLink.Proofs.Yaml.Reader
import PeerLink.Proofs.CommandLine
import PeerLink.Proofs.Config.File
import PeerLink.Proofs.Config.Agreement
