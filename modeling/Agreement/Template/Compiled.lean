import Agreement.Template.Options
import Agreement.Template.Token

/-!
# Compiled templates

A template as a list of directives. Every token gives a directive or the issues that it has, on its
own; `Template.parse` puts together what the tokens give, and `Template.compile` asks for no issues.
-/

namespace Agreement

/-- A template with each escaping backslash dropped. -/
def unescape : Text → Text
  | [] => []
  | '\\' :: c :: rest => c :: unescape rest
  | c :: rest => c :: unescape rest

/-- What keeps a template from being parsed. -/
inductive ParseError where
  | token (cause : TokenError)
  /-- The integer of a numeric directive cannot be read. -/
  | integer (cause : IntegerError)
  deriving DecidableEq, Repr

/-- What keeps a template from being compiled. -/
inductive CompileError where
  | parse (cause : ParseError)
  | issues (issues : List Issue)
  deriving DecidableEq, Repr

/-- The directives and issues of a template. -/
structure Parsed where
  directives : List Directive := []
  issues : List Issue := []
  deriving DecidableEq, Repr

namespace Parsed

/-- A single directive. -/
def one (d : Directive) (issues : List Issue := []) : Parsed :=
  ⟨[d], issues⟩

/-- A single issue. -/
def issue (i : Issue) : Parsed :=
  ⟨[], [i]⟩

/-- The directives and issues of two parts. -/
def append (p q : Parsed) : Parsed :=
  ⟨p.directives ++ q.directives, p.issues ++ q.issues⟩

end Parsed

namespace Template

/-- What the body of a numeric directive gives besides the issues of its options. -/
def numericBody (p : PlacedToken) (options : NumericOptions) (issues : List Issue) (body : Text) :
    Except IntegerError Parsed :=
  match body with
  | '$' :: name => .ok (.one (.numeric (.variable name) options) issues)
  | _ =>
    if Integer.isNumeral body.trim then
      (Integer.read body).map fun n => .one (.numeric (.constant n) options) issues
    else
      .ok ⟨[], issues ++ [⟨p.position, p.token.text, .notInteger body⟩]⟩

/-- What the body of a noun directive gives besides the issues of its options. -/
def nounBody (options : NounOptions) (issues : List Issue) (body : Text) : Parsed :=
  match body with
  | '$' :: name => .one (.noun (.variable name) options) issues
  | _ => .one (.noun (.constant (unescape body)) options) issues

/-- What a directive gives; `fold` says whether a capital kind folds the case of the options. -/
def parseDirective (fold : Bool) (p : PlacedToken) (inner : Text) : Except IntegerError Parsed :=
  let fault (cause : IssueCause) : Parsed := .issue ⟨p.position, p.token.text, cause⟩
  match inner with
  | [] => .ok (fault .emptyDirective)
  | kind :: rest =>
    match Text.cutAt ':' rest with
    | (_, none) => .ok (fault (.noSeparator kind))
    | (optionText, some body) =>
      let folding := fold && isUpper kind
      if kind = '#' then
        let (options, faults) := NumericOptions.read folding optionText
        numericBody p options (placeFaults p.token.text (p.position + 2) faults) body
      else if kind = 'n' ∨ kind = 'N' then
        let (options, faults) := NounOptions.read folding optionText
        .ok (nounBody options (placeFaults p.token.text (p.position + 2) faults) body)
      else .ok (fault (.unknownKind kind))

/-- What a token gives. -/
def parseToken (fold : Bool) (p : PlacedToken) : Except IntegerError Parsed :=
  match p.token with
  | .literal t => .ok (.one (.literal (unescape t)))
  | .reference name =>
    if name = [] then .ok (.issue ⟨p.position, p.token.text, .emptyReference⟩)
    else .ok (.one (.variable name))
  | .directive inner => parseDirective fold p inner

/-- What some tokens give together. -/
def parseTokens (fold : Bool) : List PlacedToken → Except IntegerError Parsed
  | [] => .ok {}
  | p :: ps => do
    let first ← parseToken fold p
    let rest ← parseTokens fold ps
    return first.append rest

/-- The directives and issues of a template. An integer that cannot be read counts before a bracket
without a partner behind it. -/
def parse (fold : Bool) (template : Text) : Except ParseError Parsed := do
  let scan := Scan.ofText template
  let parsed ← (parseTokens fold scan.tokens).mapError .integer
  match scan.fault with
  | some e => throw (.token e)
  | none => return parsed

/-- The directives of a template without issues. -/
def compile (fold : Bool) (template : Text) : Except CompileError (List Directive) := do
  let parsed ← (parse fold template).mapError .parse
  if parsed.issues = [] then return parsed.directives else throw (.issues parsed.issues)

end Template

end Agreement
