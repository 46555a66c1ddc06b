import Agreement.Decimal.Integer
import Agreement.Text.Quoted

/-!
# Issues of a template

What can be wrong with a template whose brackets are in order. Issues do not stop the compilation,
so that all of them are reported together, each with the token it belongs to and a position inside
it.
-/

namespace Agreement

/-- What is wrong with the options of a directive. A missing option stands for the start of the
options. -/
inductive OptionFault where
  /-- No directive of this kind has the option. -/
  | unknown (letter : Text)
  /-- The parameter of an option is no integer. -/
  | malformed (parameter : Text) (letter : Option Text)
  /-- The parameter of an option that is on or off is neither zero nor one. -/
  | notFlag (value : Int)
  /-- The option takes no parameter. -/
  | noParameter (letter : Option Text) (parameter : Text)
  deriving DecidableEq, Repr

/-- What is wrong with a token. -/
inductive IssueCause where
  | emptyReference
  | emptyDirective
  | noSeparator (kind : Char)
  | unknownKind (kind : Char)
  | notInteger (body : Text)
  | option (fault : OptionFault)
  deriving DecidableEq, Repr

/-- Something wrong with a template. -/
structure Issue where
  /-- The position in the template, if that starts at zero. -/
  position : Int
  /-- The token that the issue belongs to. -/
  fragment : Text
  cause : IssueCause
  deriving DecidableEq, Repr

namespace OptionFault

/-- An option as messages show it. -/
def shownLetter (letter : Option Text) : Text :=
  letter.getD " "

/-- The wording of an option's fault. -/
def message : OptionFault → Text
  | .unknown letter => "Unhandled option " ++ letter
  | .malformed parameter letter =>
    "Improperly formatted numeric parameter " ++ parameter ++ " to option '" ++
      shownLetter letter ++ "'"
  | .notFlag value =>
    "'f' parameter only takes parameters of zero or one, not " ++ Integer.text value
  | .noParameter letter parameter =>
    "Option '" ++ shownLetter letter ++ "' does not take a numeric parameter (value " ++
      parameter ++ ")"

end OptionFault

/-- The wording of what is wrong with a token. -/
def IssueCause.message : IssueCause → Text
  | .emptyReference => "Empty variable reference"
  | .emptyDirective => "Empty directive"
  | .noSeparator kind => "Missing ':' separator in " ++ [kind] ++ " directive"
  | .unknownKind kind => "Unhandled directive type '" ++ [kind] ++ "'"
  | .notInteger body => "Non-integer parameter '" ++ body ++ "' to # directive"
  | .option fault => fault.message

/-- An issue with its place. -/
def Issue.message (i : Issue) : Text :=
  i.cause.message ++ " (at position " ++ Integer.text i.position ++ " in " ++
    i.fragment.quoted ++ ")"

end Agreement
