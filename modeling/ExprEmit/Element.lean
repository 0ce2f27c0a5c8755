import ExprEmit.Type.Basic

/-!
# Elements

What an expression can name: variables, functions, fields and the like, each with a name, a type and
a kind.  As with types, two elements that say the same are still two.
-/

namespace ExprEmit

/-- The sort of a declared element. -/
inductive ElementKind where
  | variable | parameter | field | function | constant | enumerator
deriving DecidableEq, Inhabited

namespace ElementKind

/-- The name of the kind in a log message. -/
def label : ElementKind → String
  | .variable => "Variable"
  | parameter => "Parameter"
  | field => "Field"
  | function => "Function"
  | constant => "Constant"
  | enumerator => "Enumerator"

instance : Keyed ElementKind where
  all := [.variable, .parameter, .field, .function, .constant, .enumerator]
  key
    | .variable => "variable"
    | .parameter => "parameter"
    | .field => "field"
    | .function => "function"
    | .constant => "constant"
    | .enumerator => "enumerator"

end ElementKind

/-- A declared element. -/
structure Element where
  /-- Which element this is, whatever it says. -/
  id : Nat
  name : Name
  type : SharedType
  kind : ElementKind
deriving Inhabited

end ExprEmit
