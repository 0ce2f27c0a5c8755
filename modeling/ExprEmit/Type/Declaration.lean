import ExprEmit.Keyed
import ExprEmit.Name

/-!
# Type declarations

A user-defined type is declared once and then referred to.  Two declarations may agree in name and
kind and still be two; `TypeDecl.id` tells them apart, and dependencies go by it.
-/

namespace ExprEmit

/-- The sort of a user-defined type. -/
inductive DeclKind where
  | class_ | struct | union | enum | typedef
deriving DecidableEq, Inhabited

namespace DeclKind

/-- Whether a reference to the type can do with a forward declaration.  An unscoped enumeration and
a type alias always need their definition. -/
def isForwardDeclarable : DeclKind → Bool
  | class_ | struct | union => true
  | enum | typedef => false

/-- The name of the kind in a log message. -/
def label : DeclKind → String
  | class_ => "Class"
  | struct => "Struct"
  | union => "Union"
  | enum => "Enum"
  | typedef => "Typedef"

instance : Keyed DeclKind where
  all := [class_, struct, union, enum, typedef]
  key
    | class_ => "class"
    | struct => "struct"
    | union => "union"
    | enum => "enum"
    | typedef => "typedef"

end DeclKind

/-- The declaration of a user-defined type. -/
structure TypeDecl where
  /-- Which declaration this is, whatever it says. -/
  id : Nat
  name : Name
  kind : DeclKind
deriving DecidableEq, Inhabited

/-- Two declarations agree if they say the same. -/
def TypeDecl.agrees (a b : TypeDecl) : Bool := a.name == b.name && a.kind == b.kind

end ExprEmit
