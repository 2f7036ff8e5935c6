import PeerLink.CommandLine
import PeerLink.Config.Basic
import PeerLink.Text.Decimal

/-!
# Configurations on the command line

Each setting but one has an option: whether the secure channel is offered can only be said in a
file. The text that stands for an option that is not given is written out here; that it says the
same as the standard configuration is proved in the theory.

A path is a text, and an option is never taken from the environment.
-/

namespace PeerLink

/-- The word of 64 bits that a text is the number of; a plus sign may be in front. -/
def wordOfText? (text : String) : Option UInt64 :=
  ((Text.Decimal.readSigned? text.toList).filter (· < UInt64.size)).map UInt64.ofNat

/-- The peer address that a text is the one of. -/
def addressOfText? (text : String) : Option PeerAddress :=
  (PeerAddress.parse text).toOption

namespace Config

/-- An option with one value, which has a standard one. -/
def single (name : String) (standard : String) (accepts : String → Bool) : CommandOption :=
  ⟨name, false, some standard, false, accepts⟩

/-- The options of a configuration. -/
def options : List CommandOption :=
  let word (name standard : String) : CommandOption :=
    single name standard fun text => (wordOfText? text).isSome
  [single "entropy" "entropy.txt" fun _ => true,
    ⟨"password", false, none, false, fun _ => true⟩,
    single "listen-address" "/ip4/127.0.0.1/tcp/9876" fun text => (addressOfText? text).isSome,
    word "dial-timeout" "10",
    word "negotiation-timeout" "10",
    ⟨"bootstrap", true, none, false, fun text => (addressOfText? text).isSome⟩,
    word "bootstrap-concurrency" "8",
    word "bootstrap-deadline" "60"]

/-- The command line of a configuration. -/
def commandSyntax : CommandSyntax := ⟨"strandd", options, [], []⟩

/-- The configuration that arguments give. Nothing can be wrong with them when they are checked. -/
def ofChecked (arguments : Arguments) : Except CommandLineError Config := do
  let entropy ← arguments.read "entropy" some
  let listenAddress ← arguments.read "listen-address" addressOfText?
  let dialTimeout ← arguments.read "dial-timeout" wordOfText?
  let negotiationTimeout ← arguments.read "negotiation-timeout" wordOfText?
  let bootstrap ← arguments.readMany "bootstrap" addressOfText?
  let concurrency ← arguments.read "bootstrap-concurrency" wordOfText?
  let deadline ← arguments.read "bootstrap-deadline" wordOfText?
  .ok
    { secret := { entropy, password := arguments.value? "password" }
      network := { listenAddress, dialTimeout, negotiationTimeout, secureChannel := true }
      peers := { bootstrap, concurrency, deadline } }

/-- The configuration of a command line. -/
def ofArguments (args : List String) : Except CommandLineError Config := do
  ofChecked (← commandSyntax.parse args)

end Config

end PeerLink
