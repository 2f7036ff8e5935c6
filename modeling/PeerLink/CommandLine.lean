/-!
# Command lines

The options and operands of a command. An option is written `--name value` or `--name=value`;
behind the option whose values may be many, every argument that is not an option is one more value.
An argument that begins with a dash is always an option, a dash alone never is, and behind two
dashes alone there are only operands. An argument that means nothing is reported at once; the
values are looked at when all arguments are read.
-/

namespace PeerLink

/-- An option of a command. -/
structure CommandOption where
  /-- The name, which is written behind two dashes. -/
  name : String
  /-- Whether the option may be given more than once, and more than one value. -/
  isMany : Bool
  /-- The value of an option to which none is given. -/
  standard : Option String
  /-- Whether the option must be given. -/
  isRequired : Bool
  /-- Whether a text is a value of the option. -/
  accepts : String → Bool

/-- An operand of a command, which must be given. -/
structure CommandOperand where
  /-- What the operand is. -/
  name : String
  /-- Whether a text is such an operand. -/
  accepts : String → Bool

/-- What a command line consists of. -/
structure CommandSyntax where
  /-- The name that the command shows. -/
  title : String
  /-- The options. -/
  options : List CommandOption
  /-- The operands, in order. -/
  operands : List CommandOperand
  /-- The names of the commands that may follow. -/
  commands : List String

/-- Why a command is not run. -/
inductive CommandLineError where
  /-- An argument is no option and no operand. -/
  | unknownArgument (argument : String)
  /-- A text is not a value of its option. -/
  | invalidValue (option value : String)
  /-- An option has no value. -/
  | noValue (option : String)
  /-- An option is given more than once. -/
  | repeated (option : String)
  /-- An option or an operand is not given. -/
  | missing (name : String)
  /-- The command needs another one that is not given. -/
  | missingCommand
  /-- The description of a command is wanted. -/
  | help (usage : String)
  /-- The version of a command is wanted. -/
  | version (title : String)
  deriving DecidableEq, Repr

/-- The text of an error; a description is its own text. -/
def CommandLineError.message : CommandLineError → String
  | unknownArgument argument => "Unknown argument: " ++ argument
  | invalidValue option value => "Invalid value for " ++ option ++ ": " ++ value
  | noValue option => "No value for " ++ option
  | repeated option => "Given more than once: " ++ option
  | missing name => "Not given: " ++ name
  | missingCommand => "No command is given"
  | help usage => usage
  | version title => title

/-- The values of an option. -/
structure GivenOption where
  /-- The name of the option. -/
  name : String
  /-- How often the option is given. -/
  count : Nat
  /-- Its values, in order. -/
  values : List String
  deriving DecidableEq, Repr

/-- What the next argument may be. -/
inductive Expectation where
  /-- Anything. -/
  | anything
  /-- A value of an option, if it does not begin with a dash. -/
  | value (option : String)
  /-- A new option or an operand. -/
  | fresh
  deriving DecidableEq, Repr

/-- The arguments that are read. -/
structure Arguments where
  /-- The options, in the order in which they were first given. -/
  given : List GivenOption
  /-- The operands. -/
  operands : List String
  /-- What the next argument may be. -/
  expectation : Expectation
  /-- Whether only operands follow. -/
  onlyOperands : Bool
  deriving DecidableEq, Repr

namespace Arguments

/-- No arguments. -/
def empty : Arguments := ⟨[], [], .anything, false⟩

/-- The values of an option. -/
def values (name : String) (arguments : Arguments) : List String :=
  ((arguments.given.find? (·.name = name)).map (·.values)).getD []

/-- The first value of an option. -/
def value? (name : String) (arguments : Arguments) : Option String :=
  (arguments.values name).head?

/-- Reads a text that is given for an option or an operand. -/
def readText {α : Type} (name : String) (read? : String → Option α) (text : String) :
    Except CommandLineError α :=
  (read? text).elim (.error (.invalidValue name text)) .ok

/-- Reads the first value of an option. -/
def read {α : Type} (name : String) (read? : String → Option α) (arguments : Arguments) :
    Except CommandLineError α :=
  (arguments.value? name).elim (.error (.missing name)) (readText name read?)

/-- Reads all values of an option. -/
def readMany {α : Type} (name : String) (read? : String → Option α) (arguments : Arguments) :
    Except CommandLineError (List α) :=
  (arguments.values name).mapM (readText name read?)

/-- Changes what is given of an option. -/
def update (name : String) (change : GivenOption → GivenOption) (arguments : Arguments) :
    Arguments :=
  if arguments.given.any (·.name = name) then
    { arguments with
      given := arguments.given.map fun given => if given.name = name then change given else given }
  else { arguments with given := arguments.given ++ [change ⟨name, 0, []⟩] }

/-- Counts an option once more. -/
def count (name : String) : Arguments → Arguments :=
  update name fun given => { given with count := given.count + 1 }

/-- Adds a value to an option. -/
def add (name value : String) : Arguments → Arguments :=
  update name fun given => { given with values := given.values ++ [value] }

end Arguments

/-! ## One argument -/

/-- The name in an option, and its value behind an equals sign. All dashes in front and all equals
signs between the two are passed over. -/
def splitOption (argument : String) : String × Option String :=
  let text := argument.toList.dropWhile (· = '-')
  let name := String.ofList (text.takeWhile (· ≠ '='))
  if text.contains '=' then
    (name, some (String.ofList ((text.dropWhile (· ≠ '=')).dropWhile (· = '='))))
  else (name, none)

/-- Whether an argument is written like an option. -/
def isOptionLike (argument : String) : Bool :=
  argument.toList.head? = some '-' && argument != "-"

/-- Whether an argument is written with two dashes in front. -/
def isLongOption (argument : String) : Bool :=
  argument.toList.take 2 = ['-', '-']

namespace CommandSyntax

/-- How a command is written. -/
def usage (spec : CommandSyntax) : String :=
  let options := spec.options.map fun option => "--" ++ option.name ++ " <" ++ option.name ++ ">"
  let operands := spec.operands.map fun operand => "<" ++ operand.name ++ ">"
  let command := if spec.commands.isEmpty then [] else ["<command>"]
  String.intercalate " " ([spec.title] ++ options ++ operands ++ command)

/-- Reads an option with two dashes. -/
def readLong (spec : CommandSyntax) (argument : String) (arguments : Arguments) :
    Except CommandLineError Arguments :=
  let (name, value) := splitOption argument
  match spec.options.find? (·.name = name) with
  | some _ =>
    match value with
    | some value =>
      .ok { (arguments.add name value).count name with expectation := .fresh }
    | none => .ok { arguments.count name with expectation := .value name }
  | none =>
    if name = "help" then .error (.help spec.usage)
    else if name = "version" then .error (.version spec.title)
    else .error (.unknownArgument argument)

/-- Reads an option with one dash, of which there are only two. -/
def readShort (spec : CommandSyntax) (argument : String) : CommandLineError :=
  match argument.toList[1]? with
  | some 'h' => .help spec.usage
  | some 'V' => .version spec.title
  | _ => .unknownArgument argument

/-- Reads an operand. -/
def readOperand (spec : CommandSyntax) (argument : String) (arguments : Arguments) :
    Except CommandLineError Arguments :=
  if arguments.operands.length < spec.operands.length then
    .ok { arguments with operands := arguments.operands ++ [argument] }
  else .error (.unknownArgument argument)

/-- Reads a value of an option. -/
def readValue (spec : CommandSyntax) (name argument : String) (arguments : Arguments) : Arguments :=
  let isMany := (spec.options.find? (·.name = name)).any (·.isMany)
  { arguments.add name argument with expectation := if isMany then .value name else .fresh }

/-- Reads an argument. -/
def readArgument (spec : CommandSyntax) (argument : String) (arguments : Arguments) :
    Except CommandLineError Arguments :=
  if arguments.onlyOperands then spec.readOperand argument arguments
  else if isOptionLike argument then
    if argument = "--" then .ok { arguments with onlyOperands := true }
    else if isLongOption argument then spec.readLong argument arguments
    else .error (spec.readShort argument)
  else
    match arguments.expectation with
    | .value name => .ok (spec.readValue name argument arguments)
    | _ => spec.readOperand argument arguments

/-- Whether an argument is the name of a command that follows. -/
def isCommand (spec : CommandSyntax) (argument : String) (arguments : Arguments) : Bool :=
  !arguments.onlyOperands && spec.commands.contains argument &&
    (match arguments.expectation with
      | .value _ => false
      | _ => true)

/-- Reads arguments up to the name of a command; gives the command and its own arguments. -/
def readAll (spec : CommandSyntax) (arguments : Arguments) :
    List String → Except CommandLineError (Arguments × Option (String × List String))
  | [] => .ok (arguments, none)
  | argument :: rest =>
    if spec.isCommand argument arguments then .ok (arguments, some (argument, rest))
    else
      match spec.readArgument argument arguments with
      | .error e => .error e
      | .ok arguments => spec.readAll arguments rest

/-! ## All arguments -/

/-- Gives the options without a value their standard value. -/
def withStandards (spec : CommandSyntax) (arguments : Arguments) : Arguments :=
  spec.options.foldl
    (fun arguments option =>
      match option.standard with
      | none => arguments
      | some value =>
        if (arguments.values option.name).isEmpty then arguments.add option.name value
        else arguments)
    arguments

/-- The name of an option or an operand that must be given and is not. -/
def missing? (spec : CommandSyntax) (arguments : Arguments) : Option String :=
  let options := spec.options.filter fun option =>
    option.isRequired && !arguments.given.any (·.name = option.name)
  ((options.map (·.name)) ++ (spec.operands.drop arguments.operands.length).map (·.name)).head?

/-- What is wrong with the values of an option. -/
def fault? (option : CommandOption) (given : GivenOption) : Option CommandLineError :=
  if given.values.isEmpty then some (.noValue option.name)
  else
    match given.values.find? (!option.accepts ·) with
    | some value => some (.invalidValue option.name value)
    | none => if 1 < given.count ∧ !option.isMany then some (.repeated option.name) else none

/-- The first thing that is wrong with the values of the options. -/
def firstFault? (spec : CommandSyntax) (arguments : Arguments) : Option CommandLineError :=
  spec.options.findSome? fun option =>
    (arguments.given.find? (·.name = option.name)).bind (fault? option)

/-- The first operand that is none. -/
def operandFault? (spec : CommandSyntax) (arguments : Arguments) : Option CommandLineError :=
  (spec.operands.zip arguments.operands).findSome? fun (operand, value) =>
    if operand.accepts value then none else some (.invalidValue operand.name value)

/-- Looks at the values when all arguments are read. An option that is still waiting for its first
value is reported in front of all others. -/
def check (spec : CommandSyntax) (arguments : Arguments) : Except CommandLineError Arguments :=
  let arguments := spec.withStandards arguments
  match spec.missing? arguments with
  | some name => .error (.missing name)
  | none =>
    -- The last argument may be an option that still waits for a value.
    let awaited :=
      match arguments.expectation with
      | .value name => if (arguments.values name).isEmpty then some name else none
      | _ => none
    match awaited with
    | some name => .error (.noValue name)
    | none =>
      match spec.firstFault? arguments <|> spec.operandFault? arguments with
      | some e => .error e
      | none => .ok arguments

/-- The arguments of a command that has no commands. -/
def parse (spec : CommandSyntax) (args : List String) : Except CommandLineError Arguments :=
  match spec.readAll .empty args with
  | .error e => .error e
  | .ok (arguments, _) => spec.check arguments

end CommandSyntax

end PeerLink
