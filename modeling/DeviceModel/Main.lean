import DeviceModel.Command.Basic

/-!
# The program

Reads the model file and the two environment variables that can replace its sections, runs the
command that the arguments mean, and prints its report.
-/

namespace DeviceModel.Command

/-- The environment variables that can replace a section. -/
def sectionVariables : List String :=
  ["GATEWAY_ATTRIBUTES", "GATEWAY_RESOURCES"]

/-- The names and texts of the variables that are set. -/
def readVariables (names : List String) : IO (List (String × String)) :=
  names.filterMapM fun name => do
    return (← IO.getEnv name).map (name, ·)

/-- What is at an absolute path; only a file counts. -/
def readModel (path : String) : IO Config.ModelFile := do
  try
    return .text (← IO.FS.readFile path)
  catch e =>
    match e with
    | .noFileOrDirectory _ _ _ => return .missing
    | .inappropriateType _ _ _ => return .missing
    | _ => return .unreadable

/-- Runs the program and gives its exit code. -/
def runProgram (arguments : List String) : IO UInt32 := do
  let directory := (← IO.currentDir).toString
  let paths := match (ofArguments? arguments).bind model? with
    | some path => Config.searchPaths directory path
    | none => []
  let files ← paths.mapM fun path => return (path, ← readModel path)
  let file (path : String) : Config.ModelFile := (files.lookup path).getD .missing
  let environment : Config.Environment := ⟨file, directory, ← readVariables sectionVariables⟩
  let result := report (runArguments environment arguments)
  IO.print result.output
  IO.eprint result.errors
  return result.exitCode

end DeviceModel.Command

/-- The program. -/
def main (arguments : List String) : IO UInt32 :=
  DeviceModel.Command.runProgram arguments
