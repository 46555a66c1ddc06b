import Agreement.Text.Quoted
import Agreement.Text.WordChar

/-!
# Options of the command line

The options and their names, and how an argument is told to be one. A long name can be cut short as
long as no other begins like it, and takes a value behind an equals sign or as the next argument. A
short name takes the rest of its argument as a value. Arguments that look like negative numbers or
hold a space are no options unless they name one.
-/

namespace Agreement.CommandLine

/-- An option of the command line. -/
inductive Flag where
  | help
  | define
  | nouns
  | prepositions
  | logLevel
  | logFormat
  | trace
  deriving DecidableEq, Repr

namespace Flag

/-- Whether an option takes a value. -/
def takesValue : Flag → Bool
  | .help => false
  | .trace => false
  | _ => true

/-- The short name of an option, behind one hyphen. -/
def short? : Flag → Option Char
  | .help => some 'h'
  | .define => some 'D'
  | _ => none

/-- The long name of an option. -/
def long : Flag → Text
  | .help => "--help"
  | .define => "--define"
  | .nouns => "--nouns"
  | .prepositions => "--prepositions"
  | .logLevel => "--log-level"
  | .logFormat => "--log-format"
  | .trace => "--trace"

/-- The options in the order in which messages list them. -/
def all : List Flag :=
  [.help, .define, .nouns, .prepositions, .logLevel, .logFormat, .trace]

/-- The names of an option. -/
def names (f : Flag) : List Text :=
  match f.short? with
  | some c => [['-', c], f.long]
  | none => [f.long]

/-- The option with a name. -/
def named? (t : Text) : Option Flag :=
  all.find? fun f => f.names.contains t

/-- The option with a short name. -/
def shortNamed? (c : Char) : Option Flag :=
  all.find? fun f => f.short? = some c

/-- The options whose long names begin with a text. -/
def beginningWith (t : Text) : List Flag :=
  all.filter fun f => t.isPrefixOf f.long

/-- The names of an option as messages show them. -/
def describe (f : Flag) : Text :=
  Text.joinWith "/" f.names

end Flag

/-- Why the arguments of a command line are refused. -/
inductive UsageError where
  | ambiguous (argument : Text) (flags : List Flag)
  | noValue (flag : Flag)
  | unwantedValue (flag : Flag) (value : Text)
  /-- A binding has no name or no equals sign. -/
  | unnamedBinding (binding : Text)
  | longBinding (binding : Text)
  | unknownLogFormat (value : Text)
  | unrecognized (arguments : List Text)
  deriving DecidableEq, Repr

namespace UsageError

/-- The wording of an error about an option. -/
def about (flag : Flag) (t : Text) : Text :=
  "argument " ++ flag.describe ++ ": " ++ t

/-- The wording of a usage error. -/
def message : UsageError → Text
  | .ambiguous argument flags =>
    "ambiguous option: " ++ argument ++ " could match " ++
      Text.joinWith ", " (flags.map Flag.long)
  | .noValue flag => about flag "expected one argument"
  | .unwantedValue flag value => about flag ("ignored explicit argument " ++ value.quoted)
  | .unnamedBinding binding => about .define ("expected name=value, got " ++ binding.quoted)
  | .longBinding binding => about .define ("invalid parse_binding value: " ++ binding.quoted)
  | .unknownLogFormat value => about .logFormat ("invalid LogFormat value: " ++ value.quoted)
  | .unrecognized arguments => "unrecognized arguments: " ++ Text.joinWith " " arguments

end UsageError

/-- An argument of the command line, on its own. -/
inductive Argument where
  | plain (t : Text)
  /-- The first `--`, behind which there are no options. -/
  | separator
  /-- An option with the value in its argument, if any. -/
  | long (flag : Flag) (value : Option Text)
  /-- A short option, and the text behind it. -/
  | short (flag : Flag) (rest : Text)
  /-- An argument that looks like an option and is none. -/
  | unknown (t : Text)
  deriving DecidableEq, Repr

namespace Argument

/-- Whether a text is a hyphen and a number, with or without a point. A line feed may follow. -/
def looksNegative (t : Text) : Bool :=
  let number := match t with
    | '-' :: rest => if rest.getLast? = some '\n' then rest.dropLast else rest
    | _ => []
  let (whole, places) := Text.cutAt '.' number
  whole.all isDecimal &&
    match places with
    | none => !whole.isEmpty
    | some places => !places.isEmpty && places.all isDecimal

/-- The argument as it is when it names no option. -/
def unnamed (t : Text) : Argument :=
  if looksNegative t || t.contains ' ' then .plain t else .unknown t

/-- An argument with two hyphens in front, not counting a lone `--`. -/
def ofLong (t : Text) : Except UsageError Argument :=
  let (name, value) := Text.cutAt '=' t
  match Flag.named? t, Flag.named? name, Flag.beginningWith name with
  | some flag, _, _ => .ok (.long flag none)
  | none, some flag, _ => .ok (.long flag value)
  | none, none, [] => .ok (unnamed t)
  | none, none, [flag] => .ok (.long flag value)
  | none, none, flags => .error (.ambiguous t flags)

/-- An argument before any `--`. -/
def ofText (t : Text) : Except UsageError Argument :=
  match t with
  | '-' :: '-' :: _ => ofLong t
  | '-' :: c :: rest =>
    match Flag.shortNamed? c with
    | some flag => .ok (.short flag rest)
    | none => .ok (unnamed t)
  | _ => .ok (.plain t)

/-- The arguments of a command line. -/
def ofTexts : List Text → Except UsageError (List Argument)
  | [] => .ok []
  | t :: ts =>
    if t = "--" then .ok (.separator :: ts.map .plain)
    else do
      let first ← ofText t
      let rest ← ofTexts ts
      return first :: rest

/-- Whether an argument is an option, known or not. -/
def isOption : Argument → Bool
  | .plain _ => false
  | .separator => false
  | _ => true

end Argument

end Agreement.CommandLine
