import ExprEmit.Dependency.Basic

/-!
# The dependencies of a type

A value of a type needs the definitions of the declarations in it; behind a pointer or a reference a
forward declaration will do, unless the declaration has none.  The parts of a function type count as
values.  To look inside a value (`Ty.requireInside`), a pointer or reference to it is passed over.

`Ty.require` registers these dependencies and stops when one is refused; `Ty.requirements` lists
them.
-/

namespace ExprEmit

/-- The need for a declaration where `s` would do: what has no forward declaration needs its
definition. -/
def DeclKind.atLeast (k : DeclKind) (s : Strength) : Strength :=
  if k.isForwardDeclarable then s else .definition

namespace Ty

/-! ### Registering -/

mutual

/-- Registers the declarations of a type with the need `s`. -/
def requireAs {σ : Type} (k : Registry σ) : Ty → Strength → Step σ
  | primitive _ _, _ => Step.done
  | named d _, s => k.offer (.type d (d.kind.atLeast s))
  | pointer t _, _ => t.requireAs k .declaration
  | reference t _, _ => t.requireAs k .declaration
  | array t _ _, s => t.requireAs k s
  | function r ps _, _ => (r.requireAs k .definition).andThen (requireEach k ps)

/-- Registers the declarations of each type, as those of a value. -/
def requireEach {σ : Type} (k : Registry σ) : List Ty → Step σ
  | [] => Step.done
  | t :: ts => (t.requireAs k .definition).andThen (requireEach k ts)

end

/-- Registers what a value of the type needs. -/
def require {σ : Type} (k : Registry σ) (t : Ty) : Step σ := t.requireAs k .definition

/-- Registers what it takes to look inside a value of the type, or of the type it points to. -/
def requireInside {σ : Type} (k : Registry σ) : Ty → Step σ
  | pointer t _ => t.requireAs k .definition
  | reference t _ => t.requireAs k .definition
  | t => t.requireAs k .definition

/-! ### Listing -/

mutual

/-- The declarations of a type, with the need `s`. -/
def requirementsAs : Ty → Strength → List Dependency
  | primitive _ _, _ => []
  | named d _, s => [.type d (d.kind.atLeast s)]
  | pointer t _, _ => t.requirementsAs .declaration
  | reference t _, _ => t.requirementsAs .declaration
  | array t _ _, s => t.requirementsAs s
  | function r ps _, _ => r.requirementsAs .definition ++ eachRequirements ps

/-- The declarations of each type, as those of a value. -/
def eachRequirements : List Ty → List Dependency
  | [] => []
  | t :: ts => t.requirementsAs .definition ++ eachRequirements ts

end

/-- What a value of the type needs. -/
def requirements (t : Ty) : List Dependency := t.requirementsAs .definition

/-- What it takes to look inside a value of the type, or of the type it points to. -/
def insideRequirements : Ty → List Dependency
  | pointer t _ => t.requirementsAs .definition
  | reference t _ => t.requirementsAs .definition
  | t => t.requirementsAs .definition

end Ty

end ExprEmit
