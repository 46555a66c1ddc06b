import Agreement.CommandLine.Session

/-!
# The program

The outer layer of the command line: it collects the environment, the arguments, the files and the
input, and prints the outcome of the session.
-/

namespace Agreement

open CommandLine

/-- The settings that the environment may hold, by the names of their variables. -/
def variableNames : List String :=
  ["APP_NAME", "APP_ENV", "DEBUG", "LOG_LEVEL", "LOG_FORMAT", "OTEL_SERVICE_NAME", "NOUNS_PATH",
   "PREPOSITIONS_PATH", "STRICT_NOUN_DB", "FOLD_FROM_DIRECTIVE_KIND"].map
    fun setting => Environment.variableFront.toStr ++ setting

/-- The variables that are set. -/
def readEnvironment : IO Environment :=
  variableNames.filterMapM fun name => do
    return (← IO.getEnv name).map fun value => (name.toList, value.toList)

/-- The contents of a file. -/
def readFile (path : Text) : IO (Except FileError Text) := do
  try
    return .ok (← IO.FS.readFile path.toStr).toList
  catch
    | .noFileOrDirectory .. => return .error (.missing path)
    | .inappropriateType .. => return .error (.directory path)
    | .permissionDenied .. => return .error ⟨13, "Permission denied", path⟩
    | _ => return .error ⟨5, "Input/output error", path⟩

/-- The contents of the files at some paths. -/
def readFiles (paths : List Text) : IO Files := do
  let files ← paths.mapM fun path => do return (path, ← readFile path)
  return fun path => (files.lookup path).getD (.error (.missing path))

/-- Prints what a run prints and gives its code. -/
def printOutcome (o : Outcome) : IO UInt32 := do
  IO.print o.stdout.toStr
  IO.eprint o.stderr.toStr
  match o.ending with
  | .code n => return n.toUInt32
  | .failure cause =>
    IO.eprintln cause.message.toStr
    return 1

/-- The whole input. -/
def readInput : IO Text := do
  return (← (← IO.getStdin).readToEnd).toList

/-- Runs the program. -/
def runProgram (settings : Settings) (arguments : List Text) : IO UInt32 := do
  match Options.read settings arguments with
  | .error stop => printOutcome (.ofStop stop)
  | .ok options =>
    let paths := options.nouns.toList ++ options.prepositions.toList
    let files ← readFiles (paths.map cleanPath)
    let input ← if options.template.isSome then pure [] else readInput
    printOutcome (.ofOptions settings files options input)

end Agreement

open Agreement in
/-- The command line. -/
def main (arguments : List String) : IO UInt32 := do
  match Settings.ofEnvironment (← readEnvironment) with
  | .ok settings => runProgram settings (arguments.map String.toList)
  | .error names =>
    IO.eprintln ("faulty settings: " ++ (Text.joinWith ", " names).toStr)
    return 1
