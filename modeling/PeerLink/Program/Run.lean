import PeerLink.Config.File
import PeerLink.Program.Task
import PeerLink.Secret

/-!
# Programs

The two programs over a host, which has the files, the standard output and a source of random
octets. A program runs up to the point at which the secret key of a node has to be derived; who
runs the program does that, and everything for which the key is needed. A program never asks
questions: a password or a path that is not given is a failure. What is told to the log is left out.
-/

namespace PeerLink

/-- What the programs need of the system they run on. -/
structure Host (m : Type → Type) where
  /-- Reads the file at a path. -/
  read : String → m (Except IoError Bytes)
  /-- Writes the file at a path. -/
  write : String → Bytes → m (Except IoError Unit)
  /-- Adds a text to the standard output. -/
  print : String → m Unit
  /-- Draws random octets. -/
  random : Nat → m Bytes

/-- Why a program fails. -/
inductive ProgramError where
  /-- The command line gives no task. -/
  | commandLine (cause : CommandLineError)
  /-- There is no configuration. -/
  | config (cause : ConfigError)
  /-- There is no secret. -/
  | secret (cause : SecretError)
  /-- Nothing says where new entropy is to be kept. -/
  | noEntropyOutput
  /-- New entropy cannot be kept. -/
  | entropyNotWritten (path : String) (cause : IoError)
  /-- No password is given for a new key. -/
  | noNewPassword
  deriving DecidableEq, Repr

/-- The text of an error. -/
def ProgramError.message : ProgramError → String
  | commandLine cause => cause.message
  | config cause => "Cannot load the settings: " ++ cause.message
  | secret cause => "Cannot load the node's secret: " ++ cause.message
  | noEntropyOutput => "Failed to confirm entropy output file"
  | entropyNotWritten path _ => "Cannot write entropy to file: " ++ path
  | noNewPassword => "Failed to confirm new password"

/-- How a program ends. -/
inductive ProgramEnd where
  /-- All is done. -/
  | success
  /-- The task cannot be done. -/
  | failure (error : ProgramError)
  /-- The key of this entropy and password is needed, for a node if there is a configuration. -/
  | keyNeeded (config : Option Config) (entropy : Entropy) (password : String)
  deriving DecidableEq

/-- The two programs. -/
inductive Program where
  /-- The node. -/
  | node
  /-- The tool. -/
  | tool
  deriving DecidableEq, Repr

namespace Program

/-- The version of both programs. -/
def version : String := "0.1.0"

/-- The name of a program. -/
def name : Program → String
  | node => "strandd"
  | tool => "strandd-cli"

/-- The program of a name. -/
def ofName? (text : String) : Option Program :=
  [node, tool].find? (·.name = text)

/-- The task of a program with a command line. -/
def task : Program → List String → Except CommandLineError Task
  | node => Task.ofNodeArguments
  | tool => Task.ofToolArguments

end Program

section Run

variable {m : Type → Type} [Monad m] (host : Host m)

/-- Loads what the key of a configured node is derived from (`load_secret`). -/
def Task.loadSecret (path : String) (password : Option String) : m ProgramEnd := do
  match Config.ofFile path (← host.read path) with
  | .error e => return .failure (.config e)
  | .ok config =>
    let config := { config with secret.password := password }
    match Entropy.ofFile config.secret.entropy (← host.read config.secret.entropy), password with
    | .error e, _ => return .failure (.secret e)
    | .ok _, none => return .failure (.secret .noPassword)
    | .ok entropy, some password => return .keyNeeded (some config) entropy password

/-- Makes new entropy and keeps it in a file (`generate_new_key`). -/
def Task.generateEntropy (output password : Option String) : m ProgramEnd := do
  host.print "Generating new entropy to use as part of the seed for the new key\n"
  let entropy := Entropy.generate (← host.random Entropy.size)
  match output with
  | none => return .failure .noEntropyOutput
  | some path =>
    match (← host.write path (Utf8.encode entropy.text.toList)), password with
    | .error cause, _ => return .failure (.entropyNotWritten path cause)
    | .ok _, none => return .failure .noNewPassword
    | .ok _, some password => return .keyNeeded none entropy password

/-- Does a task. -/
def Task.run : Task → m ProgramEnd
  | .showExample => do
    host.print (Config.exampleText ++ "\n")
    return .success
  | .generateKey output password => Task.generateEntropy host output password
  | .runNode config password => Task.loadSecret host config password
  | .showAddress config password => Task.loadSecret host config password
  | .listPeers config password _ => Task.loadSecret host config password

/-- Runs a program with a command line. Descriptions and versions are shown, and that is all. -/
def Program.run (program : Program) (args : List String) : m ProgramEnd := do
  match program.task args with
  | .ok task => task.run host
  | .error (.help usage) =>
    host.print (usage ++ "\n")
    return .success
  | .error (.version title) =>
    host.print (title ++ " " ++ Program.version ++ "\n")
    return .success
  | .error cause => return .failure (.commandLine cause)

end Run

end PeerLink
