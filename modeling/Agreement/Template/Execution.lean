import Agreement.Article
import Agreement.Noun.Lexicon
import Agreement.Number.Words
import Agreement.Template.Directive

/-!
# Execution of directives

A list of directives is run from left to right. The state holds whether nouns are singular at the
moment, which is up to the last numeric directive, and the article that waits for its noun. An
article is printed as a slot, since it depends on a noun that comes later; the next noun fills it.
At the end every slot must be filled.

`execute` runs a flat list, and `executeNodes` a nested one, which `walk` flattens first.
-/

namespace Agreement

/-- What a directive expects of a bound value. -/
inductive Expected where
  | integer
  | text
  deriving DecidableEq, Repr

/-- Why directives cannot be executed. -/
inductive ExecutionError where
  /-- A name is not bound. -/
  | unbound (name : Text)
  /-- A name is bound to a value of another type; the value is given as messages show it. -/
  | wrongType (name : Text) (expected : Expected) (typeName shown : Text)
  /-- A value stands in place of a directive. -/
  | stray (shown : Text)
  /-- The article with this index is followed by no noun. -/
  | unfilled (index : Nat)
  | number (cause : NumberError)
  | noun (cause : NounError)
  deriving DecidableEq, Repr

/-- A part of the output. -/
inductive Part where
  | text (t : Text)
  /-- An article, once the noun behind it is known. -/
  | slot (index : Nat) (article : Option Article)
  deriving DecidableEq, Repr

/-- Finds a form of a word. -/
abbrev Inflector := NounForm → Text → Except NounError Text

/-- How far an execution has come. -/
structure ExecutionState where
  /-- Whether nouns are singular at the moment. -/
  singular : Bool := false
  /-- The article that waits for a noun. -/
  pending : Option Nat := none
  /-- The number of articles opened so far. -/
  opened : Nat := 0
  /-- The output so far. -/
  parts : List Part := []
  deriving DecidableEq, Repr

namespace NumericOptions

/-- The number of a directive after its increment. -/
def counted (o : NumericOptions) (n : Int) : Int :=
  if o.increment then n + o.incrementAmount else n

/-- Whether a number opens an article. -/
def opensArticle (o : NumericOptions) (n : Int) : Bool :=
  o.useArticle && n == 1

/-- Whether a number is written "no". -/
def printsNo (o : NumericOptions) (n : Int) : Bool :=
  o.zeroAsNo && n == 0

/-- Whether a number is singular by its value. -/
def countsSingular (o : NumericOptions) (n : Int) : Bool :=
  n == 1 || (n == 0 && o.singularZero)

/-- Whether a number is written as an ordinal, which refers to one thing. -/
def isOrdinal (o : NumericOptions) (n : Int) : Bool :=
  o.ordinalForm && n < o.ordinalThreshold

/-- A number in words or digits, if the directive asks for words. -/
def cardinalText (o : NumericOptions) (n : Int) (digits : Text) : Except NumberError Text :=
  if o.cardinalForm then cardinal n (some o.cardinalThreshold) else .ok digits

/-- A number as an ordinal, if the directive asks for one. -/
def ordinalText (o : NumericOptions) (n : Int) (t : Text) : Except NumberError Text :=
  if o.ordinalForm then ordinal n o.ordinalThreshold (o.cardinalForm && n < o.cardinalThreshold)
  else .ok t

/-- A number as a vague quantity, if the directive asks for one. -/
def summaryText (o : NumericOptions) (n : Int) (t : Text) : Text :=
  if o.summarizeForm then summarize (if o.isOrdinal n then 1 else n) o.summarizeAtEnd else t

/-- The text of a number that is neither written "no" nor as an article. -/
def numberText (o : NumericOptions) (n : Int) (digits : Text) : Except NumberError Text := do
  let t ← o.cardinalText n digits
  let t ← o.ordinalText n t
  return o.summaryText n t

end NumericOptions

/-- The form of a noun while nouns are singular or not. -/
def NounOptions.form (o : NounOptions) (singular : Bool) : NounForm :=
  if o.forcePlural || (!singular && !o.forceSingular) then
    if o.classical then .classicalPlural else .plural
  else .singular

/-- The part with the article filled in, if it is the slot with this index. -/
def Part.fill (index : Nat) (article : Article) : Part → Part
  | .slot i a => if i = index then .slot i (some article) else .slot i a
  | .text t => .text t

namespace ExecutionState

/-- The state with a part behind the output. -/
def emit (s : ExecutionState) (p : Part) : ExecutionState :=
  { s with parts := s.parts ++ [p] }

/-- The state with a further article that waits for a noun. -/
def openArticle (s : ExecutionState) : ExecutionState :=
  { s with pending := some s.opened, opened := s.opened + 1 }

/-- The state with the waiting article, if any, filled in for a noun. -/
def fillArticle (s : ExecutionState) (noun : Text) : ExecutionState :=
  match s.pending with
  | none => s
  | some index =>
    { s with
      pending := none
      parts := s.parts.map (Part.fill index (Article.ofPhrase noun)) }

/-- The state behind a numeric directive with the number `n`. -/
def countNumber (s : ExecutionState) (o : NumericOptions) (n : Int) :
    Except NumberError ExecutionState := do
  let digits ← writeInteger n
  let s := { s with singular := o.countsSingular n }
  let s' := if o.opensArticle n then s.openArticle else s
  if o.suppressOutput then return s'
  if o.opensArticle n then return s'.emit (.slot s.opened none)
  if o.printsNo n then return s'.emit (.text "no")
  let t ← o.numberText n digits
  return { s' with singular := s'.singular || o.isOrdinal n }.emit (.text t)

/-- The state behind a noun directive with a word. -/
def printNoun (inflect : Inflector) (s : ExecutionState) (o : NounOptions) (w : Text) :
    Except NounError ExecutionState := do
  let form ← inflect (o.form s.singular) w
  return (s.emit (.text form)).fillArticle form

end ExecutionState

/-- An error that shows a value, unless the value holds an integer that is too long to be shown. -/
def errorWith (v : Value) (error : Text → ExecutionError) : ExecutionError :=
  match v.quoted with
  | .ok shown => error shown
  | .error cause => .number (.integer cause)

/-- The error for a name that is bound to a value of another type. -/
def mismatch (name : Text) (expected : Expected) (v : Value) : ExecutionError :=
  errorWith v (.wrongType name expected v.typeName)

/-- The integer of a numeric directive. -/
def integerOf (bindings : Bindings) : Source Int → Except ExecutionError Int
  | .constant n => .ok n
  | .variable name =>
    match bindings.value? name with
    | none => .error (.unbound name)
    | some (.int n) => .ok n
    | some v => .error (mismatch name .integer v)

/-- The word of a noun directive. -/
def wordOf (bindings : Bindings) : Source Text → Except ExecutionError Text
  | .constant w => .ok w
  | .variable name =>
    match bindings.value? name with
    | none => .error (.unbound name)
    | some (.text w) => .ok w
    | some v => .error (mismatch name .text v)

/-- The text of a reference. -/
def referenceText (bindings : Bindings) (name : Text) : Except ExecutionError Text :=
  match bindings.value? name with
  | none => .error (.unbound name)
  | some v => v.shown.mapError fun cause => .number (.integer cause)

/-- The state behind a directive. -/
def runDirective (inflect : Inflector) (bindings : Bindings) (s : ExecutionState) :
    Directive → Except ExecutionError ExecutionState
  | .literal t => .ok (s.emit (.text t))
  | .variable name => (referenceText bindings name).map fun t => s.emit (.text t)
  | .numeric source o => do
    let n ← integerOf bindings source
    (s.countNumber o (o.counted n)).mapError .number
  | .noun source o => do
    let w ← wordOf bindings source
    (s.printNoun inflect o w).mapError .noun

/-- The state behind some directives. -/
def runDirectives (inflect : Inflector) (bindings : Bindings) :
    ExecutionState → List Directive → Except ExecutionError ExecutionState
  | s, [] => .ok s
  | s, d :: ds => do
    let s ← runDirective inflect bindings s d
    runDirectives inflect bindings s ds

/-- The text of the output, in which every slot must be filled. -/
def renderParts : List Part → Except ExecutionError Text
  | [] => .ok []
  | .text t :: parts => (renderParts parts).map (t ++ ·)
  | .slot _ (some article) :: parts => (renderParts parts).map (article.word ++ ·)
  | .slot index none :: _ => .error (.unfilled index)

/-- The text of some directives. -/
def execute (inflect : Inflector) (bindings : Bindings) (directives : List Directive) :
    Except ExecutionError Text := do
  let s ← runDirectives inflect bindings {} directives
  renderParts s.parts

/-- The state behind an entry of a nested list. -/
def runLeaf (inflect : Inflector) (bindings : Bindings) (s : ExecutionState) :
    Leaf → Except ExecutionError ExecutionState
  | .directive d => runDirective inflect bindings s d
  | .stray v => .error (errorWith v .stray)

mutual

/-- The number of nodes of a tree, where a nested list counts once more for its end. -/
def Node.count : Node → Nat
  | .sequence nodes => 2 + Node.countAll nodes
  | _ => 1

/-- The number of nodes of some trees. -/
def Node.countAll : List Node → Nat
  | [] => 0
  | n :: ns => n.count + Node.countAll ns

end

/-- The work left on a stack of lists: their nodes, and the lists themselves. -/
def Node.work : List (List Node) → Nat
  | [] => 0
  | nodes :: stack => Node.countAll nodes + 1 + Node.work stack

/-- The entries of the lists on a stack, the list on top first. A nested list is put on top when it
is reached, and a missing entry takes away the list it stands in. -/
def walk : List (List Node) → List Leaf
  | [] => []
  | [] :: stack => walk stack
  | (.gap :: _) :: stack => walk stack
  | (.directive d :: nodes) :: stack => .directive d :: walk (nodes :: stack)
  | (.stray v :: nodes) :: stack => .stray v :: walk (nodes :: stack)
  | (.sequence inner :: nodes) :: stack => walk (inner :: nodes :: stack)
termination_by stack => Node.work stack
decreasing_by all_goals simp only [Node.work, Node.countAll, Node.count]; omega

/-- The text of a nested list of directives. -/
def executeNodes (inflect : Inflector) (bindings : Bindings) (nodes : List Node) :
    Except ExecutionError Text := do
  let s ← (walk [nodes]).foldlM (runLeaf inflect bindings) {}
  renderParts s.parts

end Agreement
