import DeviceModel.Config.Exchange
import DeviceModel.Config.Literal
import DeviceModel.Config.Standin
import DeviceModel.Text.Affix
import DeviceModel.Toml.Reader

/-!
# Loading a configuration

A configuration is read from a model file, where a missing file counts as an empty one. A file with
a relative path is looked for in the working directory and in those above it. Environment variables
whose names begin with `GATEWAY_` in any case replace what the file says: the rest of the name in
lower case is the key, and points or pairs of underscores separate the keys of a nested one.
-/

namespace DeviceModel.Config

open Text

/-- The configuration that the text of a model file declares. -/
def ofToml? (text : String) : Option Config :=
  (Document.ofToml? text).bind (ofDocument? .ignored)

/-- What is found at the path of a model file. -/
inductive ModelFile
  | missing
  /-- Something that is no text. -/
  | unreadable
  | text (s : String)
deriving DecidableEq

/-- The fields of a model file. -/
def ModelFile.fields? : ModelFile → Option (List (String × Document))
  | missing => some []
  | unreadable => none
  | text s => do
    let .table fields ← Document.ofToml? s | none
    fields.mapM fun field => field.2.resolve?.map (field.1, ·)

/-- What a program finds outside of itself. -/
structure Environment where
  /-- What is at an absolute path. -/
  file : String → ModelFile
  /-- The absolute path of the working directory. -/
  directory : String
  /-- Names and texts of the environment variables. -/
  settings : List (String × String) := []

/-! ### Model files -/

/-- A directory and those above it, the root being the empty path. -/
def ancestors (directory : List Char) : List (List Char) :=
  directory :: ((List.range directory.length).reverse.filter
    fun i => directory[i]? == some '/').map directory.take

/-- The absolute paths at which a file is looked for, in order. -/
def searchPaths (directory path : String) : List String :=
  match path.toList with
  | '/' :: _ => [path]
  | _ => (ancestors directory.toList).map fun parent => String.ofList parent ++ "/" ++ path

/-- What is found at the first of the paths of a file where there is something. -/
def Environment.find (environment : Environment) (path : String) : ModelFile :=
  let files := (searchPaths environment.directory path).map environment.file
  (files.find? (· != .missing)).getD .missing

example : searchPaths "/a/b" "c" = ["/a/b/c", "/a/c", "/c"] := by decide

/-! ### Environment variables -/

/-- The parts of a name between points and pairs of underscores. -/
def keysOfName : List Char → List (List Char)
  | [] => [[]]
  | '_' :: '_' :: rest => [] :: keysOfName rest
  | '.' :: rest => [] :: keysOfName rest
  | c :: rest =>
    match keysOfName rest with
    | [] => [[c]]
    | key :: keys => (c :: key) :: keys

/-- The keys that the name of a variable stands for, if it concerns the configuration and none of
them is empty. -/
def variableKeys? (name : String) : Option (List String) := do
  let name ← afterWord? "gateway_" ((trim name.toList).map Char.toLower)
  let keys := keysOfName (trim name)
  if keys.any List.isEmpty then none else return keys.map String.ofList

/-- The keys and documents of the variables that concern the configuration. -/
def readSettings (settings : List (String × String)) :
    Except Error (List (List String × Document)) :=
  let named := settings.filterMap fun setting => (variableKeys? setting.1).map (·, setting.2)
  named.mapM fun (keys, text) =>
    match Document.ofLiteral? text with
    | some document => .ok (keys, document)
    | none => .error .cutCharacter

/-- The fields with the value at nested keys set; what is no table on the way is replaced. -/
def setNested (value : Document) :
    List String → List (String × Document) → List (String × Document)
  | [], fields => fields
  | [key], fields => Document.setField key value fields
  | key :: keys, fields =>
    let inner := match fields.find? fun field => field.1 == key with
      | some (_, .table inner) => inner
      | _ => []
    Document.setField key (.table (setNested value keys inner)) fields

/-- The fields of a model file with those of the environment in their places. -/
def override (settings : List (List String × Document)) (fields : List (String × Document)) :
    List (String × Document) :=
  settings.foldl (fun fields setting => setNested setting.2 setting.1 fields) fields

/-- The configuration of the model file at a path, as the environment overrides it. -/
def load (environment : Environment) (path : String) : Except Error Config := do
  let settings ← readSettings environment.settings
  let config? := (environment.find path).fields?.bind fun fields =>
    ofDocument? .ignored (.table (override settings fields))
  match config? with
  | some config => return config
  | none => .error .unreadableConfig

end DeviceModel.Config
