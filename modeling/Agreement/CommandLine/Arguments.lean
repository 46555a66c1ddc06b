import Agreement.CommandLine.Option
import Agreement.Settings
import Agreement.Value

/-!
# Arguments of the command line

What the arguments of the command line say together. Options are read from left to right, and one
argument beside them is the template. A binding is written `name=value`, where the first equals sign
counts; a value that is an integer is bound as one, and any other as a text. Arguments that nothing
takes are refused at the end, all of them together. `Options.read` gives the options, or where
reading stops: at a request for help, or at a usage error. The usage goes before every usage error,
and both usage and help are laid out for 80 columns.
-/

namespace Agreement.CommandLine

/-- Why a binding cannot be read. -/
inductive BindingError where
  /-- The text has no equals sign or nothing in front of it. -/
  | unnamed (t : Text)
  | integer (cause : IntegerError)
  deriving DecidableEq, Repr

/-- The wording of a binding's error. -/
def BindingError.message : BindingError → Text
  | .unnamed t => "expected name=value, got " ++ t.quoted
  | .integer cause => cause.message

/-- The value that a text is bound as. -/
def readValue (t : Text) : Except BindingError Value :=
  if Integer.isNumeral t then ((Integer.read t).mapError .integer).map .int else .ok (.text t)

/-- The name and value of a binding. -/
def readBinding (t : Text) : Except BindingError (Text × Value) :=
  match Text.cutAt '=' t with
  | ([], _) => .error (.unnamed t)
  | (_, none) => .error (.unnamed t)
  | (name, some value) => (readValue value).map fun v => (name, v)

/-- What the arguments of the command line say. -/
structure Options where
  /-- The template; if it is missing, templates are read from the input. -/
  template : Option Text := none
  /-- The bindings, the last one first. -/
  bindings : Bindings := []
  nouns : Option Text
  prepositions : Option Text
  logLevel : Text
  logFormat : LogFormat
  trace : Bool := false

/-- Where the reading of arguments stops early. -/
inductive Stop where
  | help
  | usage (error : UsageError)
  deriving DecidableEq, Repr

/-- The options when there are no arguments. -/
def Options.ofSettings (s : Settings) : Options where
  nouns := s.nounsPath
  prepositions := s.prepositionsPath
  logLevel := s.logLevel
  logFormat := s.logFormat

/-- The usage error of a binding. -/
def usageOfBinding (t : Text) : BindingError → UsageError
  | .unnamed _ => .unnamedBinding t
  | .integer _ => .longBinding t

/-- The options with the value of a flag. -/
def Options.set (o : Options) (value : Text) : Flag → Except UsageError Options
  | .define => do
    let binding ← (readBinding value).mapError (usageOfBinding value)
    return { o with bindings := binding :: o.bindings }
  | .nouns => .ok { o with nouns := some value }
  | .prepositions => .ok { o with prepositions := some value }
  | .logLevel => .ok { o with logLevel := value }
  | .logFormat =>
    match LogFormat.ofName? value with
    | some logFormat => .ok { o with logFormat }
    | none => .error (.unknownLogFormat value)
  | .trace => .ok { o with trace := true }
  | .help => .ok o

/-- How far the reading of arguments has come. -/
structure Reading where
  options : Options
  /-- The arguments that nothing took. -/
  extras : List Text := []

namespace Reading

/-- The reading with an argument that nothing takes. -/
def addExtra (r : Reading) (t : Text) : Reading :=
  { r with extras := r.extras ++ [t] }

/-- The reading with a plain argument before some option: the template, if there is none yet. -/
def takePlain (r : Reading) (t : Text) : Reading :=
  if r.options.template.isNone then { r with options.template := some t } else r.addExtra t

/-- The reading with a value for a flag. -/
def take (r : Reading) (flag : Flag) (value : Text) : Except Stop Reading := do
  let options ← (r.options.set value flag).mapError .usage
  return { r with options }

/-- An argument as it was written, when it is no option. -/
def plainText : Argument → Text
  | .plain t => t
  | _ => "--"

/-- The reading with the arguments behind the last option. A `--` next to the template is read
over. -/
def finish (r : Reading) (arguments : List Argument) : Reading :=
  let (template, rest) :=
    if r.options.template.isSome then (r.options.template, arguments)
    else match arguments with
      | .plain t :: .separator :: rest => (some t, rest)
      | .plain t :: rest => (some t, rest)
      | .separator :: .plain t :: rest => (some t, rest)
      | .separator :: rest => (none, rest)
      | rest => (none, rest)
  { r with options.template := template, extras := r.extras ++ rest.map plainText }

/-- What the short option for help and the options behind it in one argument come to.
`followed` says whether a plain argument comes next. -/
def helpStop (followed : Bool) : Text → Stop
  | '=' :: value => .usage (.unwantedValue .help value)
  | '-' :: rest => .usage (.unwantedValue .help ('-' :: rest))
  | 'h' :: rest => helpStop followed rest
  | ['D'] => if followed then .help else .usage (.noValue .define)
  | _ => .help

/-- The value that stands in the argument of a short option, if any. -/
def attachedValue? : Text → Option Text
  | [] => none
  | '=' :: value => some value
  | value => some value

/-- Whether the first of some arguments is plain. -/
def startsPlain : List Argument → Bool
  | .plain _ :: _ => true
  | _ => false

/-- The reading behind some arguments. -/
def readAll (r : Reading) : List Argument → Except Stop Reading
  | [] => .ok (r.finish [])
  | .plain t :: rest =>
    if rest.any Argument.isOption then (r.takePlain t).readAll rest
    else .ok (r.finish (.plain t :: rest))
  | .separator :: rest => .ok (r.finish (.separator :: rest))
  | .unknown t :: rest => (r.addExtra t).readAll rest
  | .long .help none :: _ => .error .help
  | .long .trace none :: rest => do (← r.take .trace []).readAll rest
  | .long flag none :: .plain value :: rest => do (← r.take flag value).readAll rest
  | .long flag none :: _ => .error (.usage (.noValue flag))
  | .long flag (some value) :: rest =>
    if flag.takesValue then do (← r.take flag value).readAll rest
    else .error (.usage (.unwantedValue flag value))
  | .short .help text :: rest => .error (helpStop (startsPlain rest) text)
  | .short flag [] :: .plain value :: rest => do (← r.take flag value).readAll rest
  | .short flag text :: rest =>
    match attachedValue? text with
    | some value => do (← r.take flag value).readAll rest
    | none => .error (.usage (.noValue flag))

end Reading

/-- What the arguments of the command line say, with defaults from the settings. -/
def Options.read (settings : Settings) (arguments : List Text) : Except Stop Options := do
  let arguments ← (Argument.ofTexts arguments).mapError .usage
  let reading ← Reading.readAll { options := Options.ofSettings settings } arguments
  if reading.extras = [] then return reading.options
  else throw (.usage (.unrecognized reading.extras))

/-- The name under which the program is called. -/
def programName : Text := "inflexion"

/-- How the program is called. -/
def usage : Text :=
  "usage: inflexion [-h] [-D NAME=VALUE] [--nouns NOUNS]\n" ++
  "                 [--prepositions PREPOSITIONS] [--log-level LOG_LEVEL]\n" ++
  "                 [--log-format \x7bLogFormat.CONSOLE,LogFormat.JSON\x7d] [--trace]\n" ++
  "                 [template]\n"

/-- The usage with a line on every argument. -/
def help : Text :=
  usage ++
  "\nInflect English nouns and numbers in a template.\n" ++
  "\npositional arguments:\n" ++
  "  template              Template to inflect (omit to read stdin)\n" ++
  "\noptions:\n" ++
  "  -h, --help            show this help message and exit\n" ++
  "  -D NAME=VALUE, --define NAME=VALUE\n" ++
  "                        Bind a template variable (repeatable)\n" ++
  "  --nouns NOUNS         Noun rule file\n" ++
  "  --prepositions PREPOSITIONS\n" ++
  "                        Preposition list\n" ++
  "  --log-level LOG_LEVEL\n" ++
  "                        Logging level\n" ++
  "  --log-format \x7bLogFormat.CONSOLE,LogFormat.JSON\x7d\n" ++
  "                        Log renderer\n" ++
  "  --trace               Print OpenTelemetry spans\n"

/-- What is said about a usage error. -/
def UsageError.report (e : UsageError) : Text :=
  usage ++ programName ++ ": error: " ++ e.message ++ "\n"

end Agreement.CommandLine
