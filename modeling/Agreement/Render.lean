import Agreement.Template.Compiled
import Agreement.Template.Execution

/-!
# Rendering

A template is compiled and run in one go: `Lexicon.render` gives its text for some bindings, with
the nouns inflected by the lexicon. Values without names are bound to their numbers, counted from
one. What keeps a template from having a text is either reported with its wording, or ends the
program.
-/

namespace Agreement

/-- Whether an error is about how the template is written, and so is reported; any other ends the
program. -/
def CompileError.isReported : CompileError → Bool
  | .parse (.integer _) => false
  | _ => true

/-- The wording of what keeps a template from being parsed. -/
def ParseError.message (template : Text) : ParseError → Text
  | .token cause => cause.message template
  | .integer cause => cause.message

/-- The wording of what keeps a template from being compiled, with all its issues. -/
def CompileError.message (template : Text) : CompileError → Text
  | .parse cause => cause.message template
  | .issues all =>
    "Encountered " ++ Nat.toDigits 10 all.length ++ " error(s) parsing template " ++
      template.quoted ++ ":" ++ all.flatMap fun i => ("\n\t" : Text) ++ i.message

/-- Whether an error is about what the user wrote or bound, and so is reported; any other ends the
program. -/
def ExecutionError.isReported : ExecutionError → Bool
  | .number cause => cause.isReported
  | .noun cause => cause.isReported
  | _ => true

/-- The wording of an expectation. -/
def Expected.message : Expected → Text
  | .integer => "an integer"
  | .text => "a string"

/-- The wording of an execution's error. -/
def ExecutionError.message : ExecutionError → Text
  | .unbound name => "Unbound variable '" ++ name ++ "'"
  | .wrongType name expected typeName shown =>
    "Variable '" ++ name ++ "' must be " ++ expected.message ++ ", got " ++ typeName ++ " (" ++
      shown ++ ")"
  | .stray shown => "Unsupported directive " ++ shown
  | .unfilled index =>
    "Article placeholder \x7ban" ++ Nat.toDigits 10 index ++
      "\x7d is not followed by a noun directive"
  | .number cause => cause.message
  | .noun cause => cause.message

/-- Why a template has no text. -/
inductive RenderError where
  | compile (cause : CompileError)
  | execution (cause : ExecutionError)
  deriving DecidableEq, Repr

/-- The wording of what keeps a template from having a text. -/
def RenderError.message (template : Text) : RenderError → Text
  | .compile cause => cause.message template
  | .execution cause => cause.message

/-- Whether an error is reported; any other ends the program. -/
def RenderError.isReported : RenderError → Bool
  | .compile cause => cause.isReported
  | .execution cause => cause.isReported

/-- Values bound to their numbers, counted from one. -/
def Bindings.positional (values : List Value) : Bindings :=
  values.zipIdx.map fun (v, index) => (Nat.toDigits 10 (index + 1), v)

/-- The bindings with those of `named`, which count before others of the same name. -/
def Bindings.override (bindings named : Bindings) : Bindings :=
  named ++ bindings

/-- The text of a template. `fold` says whether a capital kind of directive folds the case of its
options. -/
def Lexicon.render (lexicon : Lexicon) (template : Text) (bindings : Bindings := [])
    (fold : Bool := false) : Except RenderError Text := do
  let directives ← (Template.compile fold template).mapError .compile
  (execute lexicon.inflect bindings directives).mapError .execution

end Agreement
