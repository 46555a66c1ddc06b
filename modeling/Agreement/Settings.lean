import Agreement.Text.CaseMap

/-!
# Settings

What the environment can set. A variable is named for its setting, behind the program's name and in
any case, and the last variable of a name counts. Settings that are on or off take the usual words
in any case, the others their exact values. A setting that is not there has its default.
-/

namespace Agreement

/-- Where the program runs. -/
inductive Stage where
  | development
  | production
  | testing
  deriving DecidableEq, Repr

/-- How log lines are written. -/
inductive LogFormat where
  | console
  | json
  deriving DecidableEq, Repr

/-- The name of a stage. -/
def Stage.name : Stage → Text
  | .development => "development"
  | .production => "production"
  | .testing => "testing"

/-- The stage with a name. -/
def Stage.ofName? (t : Text) : Option Stage :=
  [Stage.development, .production, .testing].find? fun stage => stage.name = t

/-- The name of a log format. -/
def LogFormat.name : LogFormat → Text
  | .console => "console"
  | .json => "json"

/-- The log format with a name. -/
def LogFormat.ofName? (t : Text) : Option LogFormat :=
  [LogFormat.console, .json].find? fun format => format.name = t

/-- What the environment can set. -/
structure Settings where
  programName : Text := "inflexion"
  stage : Stage := .development
  debug : Bool := false
  logLevel : Text := "WARNING"
  logFormat : LogFormat := .console
  /-- The name under which the program reports about itself. -/
  serviceName : Option Text := none
  /-- The file of the noun rules; the English ones if it is missing. -/
  nounsPath : Option Text := none
  /-- The file of the prepositions; the English ones if it is missing. -/
  prepositionsPath : Option Text := none
  /-- Whether a faulty noun rule is an error. -/
  strictRules : Bool := true
  /-- Whether a capital kind of directive folds the case of its options. -/
  foldFromKind : Bool := false
  deriving DecidableEq, Repr

/-- The variables of an environment, in their order. -/
abbrev Environment := List (Text × Text)

namespace Environment

/-- The front of the names of all variables. -/
def variableFront : Text := "INFLEXION_"

/-- The value of the last variable for a setting, whatever the case of its name. -/
def value? (environment : Environment) (setting : Text) : Option Text :=
  (environment.reverse.find? fun entry =>
    entry.1.lower = Text.lower (variableFront ++ setting)).map Prod.snd

/-- A setting of some kind: its default if the variable is not there, and nothing if its value is
not of the kind. -/
def read? {α : Type} (environment : Environment) (setting : Text) (default : α)
    (ofText? : Text → Option α) : Option α :=
  match environment.value? setting with
  | none => some default
  | some t => ofText? t

end Environment

namespace Settings

/-- The words for "off" and "on", which are read in any case. -/
def offWords : List Text := ["0", "off", "f", "false", "n", "no"]

@[inherit_doc offWords]
def onWords : List Text := ["1", "on", "t", "true", "y", "yes"]

/-- Whether a text says "on" or "off". -/
def switch? (t : Text) : Option Bool :=
  let t := t.map Char.toLower
  if onWords.contains t then some true else if offWords.contains t then some false else none

/-- The name of a setting that could not be read. -/
def faulty {α : Type} (setting : Text) : Option α → List Text
  | none => [setting]
  | some _ => []

/-- The settings in an environment, or the names of those with a value that is not of their kind, in
the order of their letters. -/
def ofEnvironment (environment : Environment) : Except (List Text) Settings :=
  let defaults : Settings := {}
  let stage := environment.read? "APP_ENV" defaults.stage Stage.ofName?
  let debug := environment.read? "DEBUG" defaults.debug switch?
  let foldFromKind :=
    environment.read? "FOLD_FROM_DIRECTIVE_KIND" defaults.foldFromKind switch?
  let logFormat := environment.read? "LOG_FORMAT" defaults.logFormat LogFormat.ofName?
  let strictRules := environment.read? "STRICT_NOUN_DB" defaults.strictRules switch?
  match stage, debug, foldFromKind, logFormat, strictRules with
  | some stage, some debug, some foldFromKind, some logFormat, some strictRules =>
    .ok {
      programName := (environment.value? "APP_NAME").getD defaults.programName
      logLevel := (environment.value? "LOG_LEVEL").getD defaults.logLevel
      serviceName := environment.value? "OTEL_SERVICE_NAME"
      nounsPath := environment.value? "NOUNS_PATH"
      prepositionsPath := environment.value? "PREPOSITIONS_PATH"
      stage, debug, foldFromKind, logFormat, strictRules }
  | _, _, _, _, _ =>
    .error (faulty "APP_ENV" stage ++ faulty "DEBUG" debug ++
      faulty "FOLD_FROM_DIRECTIVE_KIND" foldFromKind ++ faulty "LOG_FORMAT" logFormat ++
      faulty "STRICT_NOUN_DB" strictRules)

/-- The name under which the program reports about itself: the first of the service's and the
program's name that is not empty. -/
def reportedName (s : Settings) : Text :=
  match ((s.serviceName.toList ++ [s.programName]).find? (· ≠ [])) with
  | some name => name
  | none => "unknown_service"

end Settings

end Agreement
