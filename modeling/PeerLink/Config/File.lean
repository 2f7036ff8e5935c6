import PeerLink.Config.Basic
import PeerLink.Stream.Pipe
import PeerLink.Text.Utf8
import PeerLink.Yaml.Reader
import PeerLink.Yaml.Writer

/-!
# Configuration files

A configuration file is a YAML document with three sections. A section or a setting may be left out;
anything else than the known settings is refused. A file never holds a password.
-/

namespace PeerLink

/-- The largest word of 64 bits. -/
def maxWord : Nat := UInt64.size - 1

/-- The word of 64 bits that a node is the number of. -/
def wordOf? (node : Yaml.Node) : Option UInt64 :=
  (node.natural? maxWord).map UInt64.ofNat

/-- The peer address that a node is the text of. -/
def addressOf? (node : Yaml.Node) : Option PeerAddress :=
  node.text?.bind fun text => (PeerAddress.parse text).toOption

/-- The settings of the section `secret`. -/
def SecretConfig.settings : List (Yaml.Setting SecretConfig) :=
  [.of "entropy" Yaml.Node.text? fun entropy config => { config with entropy }]

/-- The settings of the section `network`. -/
def NetworkConfig.settings : List (Yaml.Setting NetworkConfig) :=
  [.of "listen_address" addressOf? fun listenAddress config => { config with listenAddress },
    .of "dial_timeout" wordOf? fun dialTimeout config => { config with dialTimeout },
    .of "negotiation_timeout" wordOf? fun negotiationTimeout config =>
      { config with negotiationTimeout },
    .of "secure_channel" Yaml.Node.bool? fun secureChannel config => { config with secureChannel }]

/-- The settings of the section `peers`. -/
def PeersConfig.settings : List (Yaml.Setting PeersConfig) :=
  [.of "bootstrap" (Yaml.Node.list? addressOf?) fun bootstrap config => { config with bootstrap },
    .of "concurrency" wordOf? fun concurrency config => { config with concurrency },
    .of "deadline" wordOf? fun deadline config => { config with deadline }]

namespace Config

/-- The sections of a configuration. -/
def sections : List (Yaml.Setting Config) :=
  [.of "secret" (Yaml.Node.record? SecretConfig.settings .standard) fun secret config =>
      { config with secret },
    .of "network" (Yaml.Node.record? NetworkConfig.settings .standard) fun network config =>
      { config with network },
    .of "peers" (Yaml.Node.record? PeersConfig.settings .standard) fun peers config =>
      { config with peers }]

/-- The configuration of a node of a document. -/
def ofNode? (node : Yaml.Node) : Option Config :=
  node.record? sections standard

/-- The configuration of a YAML text. -/
def ofText? (text : String) : Option Config :=
  (Yaml.Node.ofText? text).bind ofNode?

/-- The node of a configuration, without the password. -/
def toNode (config : Config) : Yaml.Node :=
  let name (text : String) : Yaml.Node := .scalar .plain text
  let text (text : String) : Yaml.Node := .scalar .verbatim text
  let word (n : UInt64) : Yaml.Node := .scalar .plain (Text.Decimal.text n.toNat)
  let truth (b : Bool) : Yaml.Node := .scalar .plain (if b then "true" else "false")
  .mapping [
    (name "secret", .mapping [(name "entropy", text config.secret.entropy)]),
    (name "network", .mapping [
      (name "listen_address", text config.network.listenAddress.text),
      (name "dial_timeout", word config.network.dialTimeout),
      (name "negotiation_timeout", word config.network.negotiationTimeout),
      (name "secure_channel", truth config.network.secureChannel)]),
    (name "peers", .mapping [
      (name "bootstrap", .sequence (config.peers.bootstrap.map fun address => text address.text)),
      (name "concurrency", word config.peers.concurrency),
      (name "deadline", word config.peers.deadline)])]

end Config

/-- Why a file does not give a configuration. -/
inductive ConfigError where
  /-- The file cannot be read. -/
  | unreadable (path : String) (cause : IoError)
  /-- The file is not the YAML text of a configuration. -/
  | invalid (path : String)
  deriving DecidableEq, Repr

/-- The text of an error. -/
def ConfigError.message : ConfigError → String
  | unreadable path _ => "Cannot open file: " ++ path
  | invalid path => "Invalid config file: " ++ path

/-- The configuration in the file at a path, with what the file is (`from_file`). -/
def Config.ofFile (path : String) (file : Except IoError Bytes) : Except ConfigError Config :=
  match file with
  | .error cause => .error (.unreadable path cause)
  | .ok bytes =>
    match (Utf8.decode? bytes).bind fun chars => Config.ofText? (String.ofList chars) with
    | none => .error (.invalid path)
    | some config => .ok config

end PeerLink
