import ExprEmit.Acceptor
import ExprEmit.Element

/-!
# Dependencies

An expression depends on the elements it names and on the declarations inside their types.  A type is
needed either by its forward declaration or by its full definition, and the second includes the
first.
-/

namespace ExprEmit

/-- How much of a type has to be visible. -/
inductive Strength where
  /-- A forward declaration will do. -/
  | declaration
  /-- The full definition is needed. -/
  | definition
deriving DecidableEq, Inhabited

namespace Strength

/-- Whether `s` asks for less than `t`. -/
def isWeaker : (s t : Strength) → Bool
  | declaration, definition => true
  | _, _ => false

/-- The stronger of two needs. -/
def max : Strength → Strength → Strength
  | declaration, t => t
  | definition, _ => definition

/-- The need in the text of a dependency. -/
def text : Strength → String
  | declaration => "declaration"
  | definition => "definition"

/-- The name of the need in a log message. -/
def label : Strength → String
  | declaration => "Declaration"
  | definition => "Definition"

end Strength

/-- What a dependency is on: an element or a type declaration, by its number. -/
inductive Target where
  | element (id : Nat)
  | type (id : Nat)
deriving DecidableEq, Inhabited

/-- Something that has to be declared before an expression. -/
inductive Dependency where
  | element (e : Element)
  | type (decl : TypeDecl) (strength : Strength)
deriving Inhabited

namespace Dependency

/-- What the dependency is on. -/
def target : Dependency → Target
  | element e => .element e.id
  | type d _ => .type d.id

/-- The need for a type; an element has none. -/
def strength? : Dependency → Option Strength
  | element _ => none
  | type _ s => some s

/-- Two dependencies are the same if they are on the same thing and ask the same of it. -/
def same (a b : Dependency) : Bool := a.target == b.target && a.strength? == b.strength?

/-- The dependency as a report shows it. -/
def text : Dependency → String
  | element e => "element " ++ e.name.qualified
  | type d s => "type " ++ d.name.qualified ++ " (" ++ s.text ++ ")"

/-- The dependency `held`, made as strong as `asked`. -/
def raisedTo : (held asked : Dependency) → Dependency
  | type d s, type _ t => type d (s.max t)
  | held, _ => held

end Dependency

/-- Accepts dependencies. -/
abbrev Registry (σ : Type) : Type := Acceptor Dependency σ

end ExprEmit
