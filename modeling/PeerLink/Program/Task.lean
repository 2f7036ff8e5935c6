import PeerLink.Config.Arguments
import PeerLink.LogLevel

/-!
# Tasks

What the programs are asked to do on their command lines. The node has one task; the tool has a
command for each of its tasks. Both take a log level at any place, and a password, which is never
read from a file.
-/

namespace PeerLink

/-- What a program is asked to do. -/
inductive Task where
  /-- To run the node of a configuration. -/
  | runNode (config : String) (password : Option String)
  /-- To show a configuration file with every setting. -/
  | showExample
  /-- To make new entropy, keep it in a file, and show the key it stands for. -/
  | generateKey (output password : Option String)
  /-- To show the address at which others find the node. -/
  | showAddress (config : String) (password : Option String)
  /-- To ask a peer for the peers that it knows. -/
  | listPeers (config : String) (password : Option String) (peer : PeerAddress)
  deriving DecidableEq, Repr

namespace Task

/-- The option of the log level. -/
def logLevel (standard : LogLevel) : CommandOption :=
  Config.single "log-level" standard.name fun text => (LogLevel.ofText? text).isSome

/-- The option of the file with the configuration. -/
def configFile : CommandOption := ⟨"config", false, none, true, fun _ => true⟩

/-- The option of the password. -/
def password : CommandOption := ⟨"password", false, none, false, fun _ => true⟩

/-- The option of the file for new entropy. -/
def entropyOutput : CommandOption := ⟨"entropy-output", false, none, false, fun _ => true⟩

/-! ## The node -/

/-- The command line of the node. -/
def node : CommandSyntax :=
  ⟨"strandd", [logLevel .info, configFile, password], [], []⟩

/-- The task of the node. -/
def ofNodeArguments (args : List String) : Except CommandLineError Task := do
  let arguments ← node.parse args
  let config ← arguments.read "config" some
  .ok (.runNode config (arguments.value? "password"))

/-! ## The tool -/

/-- A command of the tool. -/
structure ToolCommand where
  /-- The name of the command. -/
  name : String
  /-- The options of the command. -/
  options : List CommandOption
  /-- The operands of the command. -/
  operands : List CommandOperand
  /-- The task that arguments give. Nothing can be wrong with them when they are checked. -/
  task : Arguments → Except CommandLineError Task

/-- The commands of the tool. -/
def toolCommands : List ToolCommand :=
  [⟨"default-config", [], [], fun _ => .ok .showExample⟩,
    ⟨"generate-new-key", [entropyOutput, password], [], fun arguments =>
      .ok (.generateKey (arguments.value? "entropy-output") (arguments.value? "password"))⟩,
    ⟨"peer-address", [password, configFile], [], fun arguments => do
      let config ← arguments.read "config" some
      .ok (.showAddress config (arguments.value? "password"))⟩,
    ⟨"list-peers", [password, configFile], [⟨"peer", fun text => (addressOfText? text).isSome⟩],
      fun arguments => do
        let config ← arguments.read "config" some
        let peer ← arguments.operands.head?.elim (.error (.missing "peer"))
          (Arguments.readText "peer" addressOfText?)
        .ok (.listPeers config (arguments.value? "password") peer)⟩]

/-- The command line of the tool. Its command `help` describes the others. -/
def tool : CommandSyntax :=
  ⟨"strandd", [logLevel .warn], [], "help" :: toolCommands.map (·.name)⟩

/-- The command line behind a command of the tool. -/
def ToolCommand.commandSyntax (command : ToolCommand) : CommandSyntax :=
  ⟨"strandd-cli-" ++ command.name, logLevel .warn :: command.options, command.operands, []⟩

/-- Why the command `help` never comes to a task: it shows the description of the tool, or of the
command behind it. -/
def helpError : List String → CommandLineError
  | [] => .help tool.usage
  | name :: rest =>
    match toolCommands.find? (·.name = name), rest with
    | some command, [] => .help command.commandSyntax.usage
    | some _, argument :: _ => .unknownArgument argument
    | none, _ => if name = "help" ∧ rest.isEmpty then .help tool.usage else .unknownArgument name

/-- The task of the tool. The arguments behind the command are looked at first. -/
def ofToolArguments (args : List String) : Except CommandLineError Task := do
  let (arguments, command?) ← tool.readAll .empty args
  let (name, rest) ← command?.elim (.error .missingCommand) .ok
  let command ← (toolCommands.find? (·.name = name)).elim (.error (helpError rest)) .ok
  let ownArguments ← command.commandSyntax.parse rest
  let _ ← tool.check arguments
  command.task ownArguments

end Task

end PeerLink
