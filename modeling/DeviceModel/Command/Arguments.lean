/-!
# Command line arguments

The program has four commands: list the catalog, classify a key, dump the declared resources, and
show one device. `Command.ofArguments?` reads the arguments after the name of the program. A model
file is given by `-c` or `--config` with the path attached or as the next argument, each option at
most once; after `--` every argument is taken as it stands.
-/

namespace DeviceModel

/-- A command of the program. -/
inductive Command
  /-- Lists every registered attribute. -/
  | catalog (model : Option String) (json : Bool)
  /-- Classifies a key. -/
  | lookup (key : String) (model : Option String)
  /-- Shows the declared resources. -/
  | dump (model : String)
  /-- Shows the merged view of one device. -/
  | device (uniqueId : String) (model : String)
deriving DecidableEq

namespace Command

/-- The arguments of a command as far as they are read. -/
structure Arguments where
  model : Option String := none
  json : Bool := false
  operands : List String := []

namespace Arguments

/-- The arguments with the path of a model file, which is given once and not empty. -/
def setModel? (arguments : Arguments) (path : String) : Option Arguments :=
  if arguments.model.isSome ∨ path = "" then none else some { arguments with model := some path }

/-- The arguments with the switch for JSON, which is given once. -/
def setJson? (arguments : Arguments) : Option Arguments :=
  if arguments.json then none else some { arguments with json := true }

/-- The arguments with one operand more. -/
def addOperand (arguments : Arguments) (operand : String) : Arguments :=
  { arguments with operands := arguments.operands ++ [operand] }

/-- Whether an argument can only be an option. A lone hyphen is an operand. -/
def isOption : List Char → Bool
  | '-' :: _ :: _ => true
  | _ => false

/-- The path in an argument that has it attached. -/
def attachedPath? : List Char → Option String
  | '-' :: 'c' :: '=' :: path => some (String.ofList path)
  | '-' :: 'c' :: path@(_ :: _) => some (String.ofList path)
  | s =>
    let option := "--config=".toList
    if option.isPrefixOf s then some (String.ofList (s.drop option.length)) else none

/-- Reads arguments, if they are well formed. -/
def read? (arguments : Arguments) : List String → Option Arguments
  | [] => some arguments
  | "--" :: rest => some (rest.foldl addOperand arguments)
  | "--json" :: rest => arguments.setJson?.bind fun arguments => read? arguments rest
  | argument :: rest =>
    if argument = "-c" ∨ argument = "--config" then
      match rest with
      | path :: rest =>
        if isOption path.toList then none
        else (arguments.setModel? path).bind fun arguments => read? arguments rest
      | [] => none
    else
      match attachedPath? argument.toList with
      | some path => (arguments.setModel? path).bind fun arguments => read? arguments rest
      | none =>
        if isOption argument.toList then none else read? (arguments.addOperand argument) rest

end Arguments

/-- The command with this name and these arguments. -/
def ofName? (name : String) (arguments : Arguments) : Option Command :=
  match name, arguments with
  | "catalog", ⟨model, json, []⟩ => some (.catalog model json)
  | "lookup", ⟨model, false, [key]⟩ => some (.lookup key model)
  | "dump", ⟨some model, false, []⟩ => some (.dump model)
  | "device", ⟨some model, false, [uniqueId]⟩ => some (.device uniqueId model)
  | _, _ => none

/-- The command that the arguments of the program mean, if they are well formed. -/
def ofArguments? : List String → Option Command
  | name :: rest => (Arguments.read? {} rest).bind (ofName? name)
  | [] => none

/-- The path of the model file of a command. -/
def model? : Command → Option String
  | catalog model _ => model
  | lookup _ model => model
  | dump model => some model
  | device _ model => some model

end Command

end DeviceModel
