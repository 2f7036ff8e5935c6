import PeerLink.Address.Peer
import PeerLink.Transport.Tcp

/-!
# Configurations

What a node is told: where its entropy is, where it listens and how long it waits, and whom it asks
for peers. Every setting has a standard value.
-/

namespace PeerLink

/-- Where the secret key of a node comes from. -/
structure SecretConfig where
  /-- The path of the file with the entropy. -/
  entropy : String
  /-- The password; none, if the node is to ask for it. -/
  password : Option String
  deriving DecidableEq, Repr

/-- How a node talks to its peers. -/
structure NetworkConfig where
  /-- Where the node listens. -/
  listenAddress : PeerAddress
  /-- How long it waits for a connection, in seconds. -/
  dialTimeout : UInt64
  /-- How long it waits for a negotiation, in seconds. -/
  negotiationTimeout : UInt64
  /-- Whether the secure channel is offered to peers. -/
  secureChannel : Bool
  deriving DecidableEq, Repr

/-- How a node finds its peers. -/
structure PeersConfig where
  /-- The peers that are asked for others. -/
  bootstrap : List PeerAddress
  /-- The most dials at once. -/
  concurrency : UInt64
  /-- The time for all dials, in seconds. -/
  deadline : UInt64
  deriving DecidableEq, Repr

/-- The configuration of a node. -/
structure Config where
  /-- Where the secret key comes from. -/
  secret : SecretConfig
  /-- How the node talks to its peers. -/
  network : NetworkConfig
  /-- How the node finds its peers. -/
  peers : PeersConfig
  deriving DecidableEq, Repr

/-- The standard source of the secret key. -/
def SecretConfig.standard : SecretConfig := ⟨"entropy.txt", none⟩

/-- The standard way to talk to peers. -/
def NetworkConfig.standard : NetworkConfig where
  listenAddress := .tcp (.v4 ⟨127, 0, 0, 1⟩) 9876
  dialTimeout := Timeouts.standard.dial
  negotiationTimeout := Timeouts.standard.negotiation
  secureChannel := true

/-- The times that the transport of a node waits. -/
def NetworkConfig.timeouts (config : NetworkConfig) : Timeouts :=
  ⟨config.dialTimeout, config.negotiationTimeout⟩

/-- The standard way to find peers. -/
def PeersConfig.standard : PeersConfig := ⟨[], 8, 60⟩

namespace Config

/-- The standard configuration. -/
def standard : Config := ⟨.standard, .standard, .standard⟩

/-- A configuration file with every setting, to begin with. -/
def exampleText : String :=
  String.join
    ["secret:\n",
      "  # hex encoded entropy, see `strandd-cli generate-new-key`\n",
      "  entropy: entropy.txt\n",
      "network:\n",
      "  listen_address: /ip4/127.0.0.1/tcp/9876\n",
      "  # in seconds\n",
      "  dial_timeout: 10\n",
      "  negotiation_timeout: 10\n",
      "  secure_channel: true\n",
      "peers:\n",
      "  bootstrap:\n",
      "    - /ip4/127.0.0.1/tcp/9877\n",
      "  concurrency: 8\n",
      "  # in seconds\n",
      "  deadline: 60\n"]

end Config

end PeerLink
