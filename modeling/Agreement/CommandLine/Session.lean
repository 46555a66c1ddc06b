import Agreement.CommandLine.Arguments
import Agreement.Noun.English
import Agreement.Render

/-!
# Sessions of the command line

What a run of the program prints and how it ends. It renders the template of its arguments, or else
each line of its input up to the first blank one. Errors about templates and what they are bound to
are reported, and the lines behind them are still rendered. `Outcome.ofArguments` gives the outcome
of a run for given files and input.
-/

namespace Agreement.CommandLine

/-- Why a file cannot be read. -/
structure FileError where
  /-- The number of the system's error. -/
  number : Nat
  reason : Text
  path : Text
  deriving DecidableEq, Repr

namespace FileError

/-- The error for a path without a file. -/
def missing (path : Text) : FileError :=
  ⟨2, "No such file or directory", path⟩

/-- The error for the path of a directory. -/
def directory (path : Text) : FileError :=
  ⟨21, "Is a directory", path⟩

/-- The wording of a file's error. -/
def message (e : FileError) : Text :=
  "[Errno " ++ Nat.toDigits 10 e.number ++ "] " ++ e.reason ++ ": " ++ e.path.quoted

end FileError

/-- The slashes at the start of a path: none, one, or exactly two. -/
def pathRoot : Text → Text
  | '/' :: '/' :: '/' :: _ => "/"
  | '/' :: '/' :: _ => "//"
  | '/' :: _ => "/"
  | _ => []

/-- A path without empty steps and steps that stay where they are. -/
def cleanPath (path : Text) : Text :=
  let steps := (Text.splitAt '/' path).filter fun step => step ≠ [] ∧ step ≠ "."
  match pathRoot path ++ Text.joinWith "/" steps with
  | [] => "."
  | clean => clean

/-- The contents of files by their clean paths. -/
abbrev Files := Text → Except FileError Text

/-- Why a run ends without a code. -/
inductive Failure where
  /-- No log level has this name. -/
  | logLevel (name : Text)
  | render (template : Text) (cause : RenderError)
  deriving DecidableEq, Repr

/-- The wording of a failure. -/
def Failure.message : Failure → Text
  | .logLevel name => Text.quoted ("level " ++ name.lower)
  | .render template cause => cause.message template

/-- How a run ends. -/
inductive Ending where
  | code (n : Nat)
  | failure (cause : Failure)
  deriving DecidableEq, Repr

/-- What a run prints and how it ends. -/
structure Outcome where
  stdout : Text := []
  stderr : Text := []
  ending : Ending
  deriving DecidableEq, Repr

namespace Outcome

/-- The outcome with a line printed before all others. -/
def print (line : Text) (o : Outcome) : Outcome :=
  { o with stdout := line ++ "\n" ++ o.stdout }

/-- The outcome with an error reported before all others. -/
def report (error : Text) (o : Outcome) : Outcome :=
  { o with stderr := "error: " ++ error ++ "\n" ++ o.stderr }

/-- The outcome of a run that has reported an error. -/
def failed (o : Outcome) : Outcome :=
  match o.ending with
  | .code _ => { o with ending := .code 1 }
  | .failure _ => o

/-- The outcome of a run whose arguments are not read to their end. -/
def ofStop : Stop → Outcome
  | .help => { stdout := help, ending := .code 0 }
  | .usage e => { stderr := e.report, ending := .code 2 }

/-- Renders a template and goes on with `rest`, unless an error ends the run. -/
def render (lexicon : Lexicon) (fold : Bool) (bindings : Bindings) (template : Text)
    (rest : Outcome) : Outcome :=
  match lexicon.render template bindings fold with
  | .ok t => rest.print t
  | .error e =>
    if e.isReported then (rest.failed).report (e.message template)
    else { ending := .failure (.render template e) }

/-- The outcome of rendering lines up to the first blank one. -/
def ofLines (lexicon : Lexicon) (fold : Bool) (bindings : Bindings) : List Text → Outcome
  | [] => { ending := .code 0 }
  | line :: lines =>
    let template := Text.dropEndWhile (· = '\r') line
    if template.trim = [] then { ending := .code 0 }
    else render lexicon fold bindings template (ofLines lexicon fold bindings lines)

/-- The names of the log levels. -/
def logLevels : List Text :=
  ["CRITICAL", "FATAL", "ERROR", "WARN", "WARNING", "INFO", "DEBUG", "NOTSET"]

/-- The contents of a file that may be left out. -/
def readFile? (files : Files) : Option Text → Except FileError (Option Text)
  | none => .ok none
  | some path => (files (cleanPath path)).map some

/-- The lexicon of the files of the options, or the wording of what is wrong with them. -/
def lexicon (files : Files) (strict : Bool) (options : Options) : Except Text Lexicon := do
  let prepositions ← (readFile? files options.prepositions).mapError FileError.message
  let nouns ← (readFile? files options.nouns).mapError FileError.message
  (Lexicon.ofFiles nouns prepositions strict).mapError RuleTextError.message

/-- The outcome of a run with given options. -/
def ofOptions (settings : Settings) (files : Files) (options : Options) (input : Text) : Outcome :=
  let level := if options.logLevel = [] then settings.logLevel else options.logLevel
  if !logLevels.contains level.upper then { ending := .failure (.logLevel level.upper) }
  else match lexicon files settings.strictRules options with
    | .error e => ({ ending := .code 2 } : Outcome).report e
    | .ok lexicon =>
      match options.template with
      | some template =>
        render lexicon settings.foldFromKind options.bindings template { ending := .code 0 }
      | none =>
        ofLines lexicon settings.foldFromKind options.bindings (Text.splitAt '\n' input)

/-- The outcome of a run with given arguments. -/
def ofArguments (settings : Settings) (files : Files) (arguments : List Text) (input : Text) :
    Outcome :=
  match Options.read settings arguments with
  | .error stop => ofStop stop
  | .ok options => ofOptions settings files options input

end Outcome

end Agreement.CommandLine
