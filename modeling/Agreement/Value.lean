import Agreement.Decimal.Integer
import Agreement.Decimal.Notation
import Agreement.Text.Quoted

/-!
# Values bound to names

Templates run against names that are bound to values. `Value.shown` is the text that a reference to
the name prints, and `Value.quoted` the text that messages and lists show, where texts stand between
quotes.
-/

namespace Agreement

/-- A value that a name can be bound to. -/
inductive Value where
  | null
  | bool (b : Bool)
  | int (n : Int)
  | float (x : Float)
  | text (t : Text)
  | list (items : List Value)
  | record (fields : List (Text × Value))
  deriving Inhabited

/-- The values of some names; the first binding of a name counts. -/
abbrev Bindings := List (Text × Value)

namespace Value

/-- The name of a value's type. -/
def typeName : Value → Text
  | .null => "NoneType"
  | .bool _ => "bool"
  | .int _ => "int"
  | .float _ => "float"
  | .text _ => "str"
  | .list _ => "list"
  | .record _ => "dict"

mutual

/-- A value as messages and lists show it. `quote` quotes a text. -/
def quotedWith (quote : Text → Text) : Value → Except IntegerError Text
  | .null => .ok "None"
  | .bool b => .ok (if b then "True" else "False")
  | .int n => Integer.write n
  | .float x => .ok (Notation.shortest x)
  | .text t => .ok (quote t)
  | .list items => do
    let shown ← quotedItems quote items
    .ok ("[" ++ Text.joinWith ", " shown ++ "]")
  | .record fields => do
    let shown ← quotedFields quote fields
    .ok ("\x7b" ++ Text.joinWith ", " shown ++ "\x7d")

/-- The items of a list, each as messages show it. -/
def quotedItems (quote : Text → Text) : List Value → Except IntegerError (List Text)
  | [] => .ok []
  | v :: vs => do
    let first ← quotedWith quote v
    let rest ← quotedItems quote vs
    .ok (first :: rest)

/-- The fields of a record, each with its name and value as messages show them. -/
def quotedFields (quote : Text → Text) :
    List (Text × Value) → Except IntegerError (List Text)
  | [] => .ok []
  | (name, v) :: fields => do
    let first ← quotedWith quote v
    let rest ← quotedFields quote fields
    .ok ((quote name ++ ": " ++ first) :: rest)

end

/-- A value as messages show it. -/
def quoted (v : Value) : Except IntegerError Text :=
  v.quotedWith Text.quoted

/-- A value as a reference prints it: texts as they are, and all else as messages show it. -/
def shown : Value → Except IntegerError Text
  | .text t => .ok t
  | v => v.quoted

end Value

/-- The value of a name, if it is bound. -/
def Bindings.value? (bindings : Bindings) (name : Text) : Option Value :=
  bindings.lookup name

end Agreement
