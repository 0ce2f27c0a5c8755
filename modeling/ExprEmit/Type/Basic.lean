import ExprEmit.Type.Declaration
import ExprEmit.Type.Primitive

/-!
# Types

The types of C++ expressions: built-in and declared types, and what pointers, references, arrays and
functions build from them.  Each layer carries its own `const`.

A `SharedType` is a type as an object: expressions that share one hold the same object, told from an
equal one by its number.
-/

namespace ExprEmit

/-- A type; the flag of each layer says whether it is `const`. -/
inductive Ty where
  | primitive (keyword : Primitive) (isConst : Bool)
  | named (decl : TypeDecl) (isConst : Bool)
  | pointer (target : Ty) (isConst : Bool)
  | reference (target : Ty) (isConst : Bool)
  /-- An array of `bound` elements, or of unknown bound. -/
  | array (element : Ty) (bound : Option Nat) (isConst : Bool)
  | function (returns : Ty) (params : List Ty) (isConst : Bool)
deriving Inhabited

namespace Ty

/-! ### Building types -/

/-- The primitive type `p`. -/
def ofPrimitive (p : Primitive) : Ty := .primitive p false

/-- The declared type `d`. -/
def ofDecl (d : TypeDecl) : Ty := .named d false

/-- The pointer to `t`. -/
def ptr (t : Ty) : Ty := .pointer t false

/-- The `const` pointer to `t`. -/
def constPtr (t : Ty) : Ty := .pointer t true

/-- The reference to `t`. -/
def ref (t : Ty) : Ty := .reference t false

/-- The array of `bound` elements of type `t`. -/
def arrayOf (t : Ty) (bound : Option Nat) : Ty := .array t bound false

/-- The function from `params` to `returns`. -/
def functionOf (returns : Ty) (params : List Ty) : Ty := .function returns params false

/-- The same type with its outermost layer `const`. -/
def asConst : Ty → Ty
  | primitive p _ => primitive p true
  | named d _ => named d true
  | pointer t _ => pointer t true
  | reference t _ => reference t true
  | array t b _ => array t b true
  | function r ps _ => function r ps true

/-! ### Looking at types -/

/-- Whether the outermost layer is `const`. -/
def isConst : Ty → Bool
  | primitive _ c | named _ c | pointer _ c | reference _ c | array _ _ c | function _ _ c => c

/-- Whether the type is a pointer. -/
def isPointer : Ty → Bool
  | pointer _ _ => true
  | _ => false

/-- Whether the declarator of the type is written as a suffix, `[..]` or `(..)`. -/
def takesSuffix : Ty → Bool
  | array _ _ _ | function _ _ _ => true
  | _ => false

/-- What a pointer or reference leads to, or the element of an array. -/
def pointee? : Ty → Option Ty
  | pointer t _ | reference t _ | array t _ _ => some t
  | _ => none

/-- What a function returns. -/
def returns? : Ty → Option Ty
  | function r _ _ => some r
  | _ => none

mutual

/-- Whether two types are built alike from declarations that agree. -/
def agrees : Ty → Ty → Bool
  | primitive p c, primitive q d => p == q && c == d
  | named p c, named q d => p.agrees q && c == d
  | pointer t c, pointer u d => t.agrees u && c == d
  | reference t c, reference u d => t.agrees u && c == d
  | array t a c, array u b d => t.agrees u && a == b && c == d
  | function r ps c, function s qs d => r.agrees s && allAgree ps qs && c == d
  | _, _ => false

/-- Whether two lists of types agree member by member. -/
def allAgree : List Ty → List Ty → Bool
  | [], [] => true
  | t :: ts, u :: us => t.agrees u && allAgree ts us
  | _, _ => false

end

end Ty

/-- A type held as an object of its own. -/
structure SharedType where
  /-- Which object this is. -/
  id : Nat
  type : Ty
deriving Inhabited

/-- The object that all string literals share: `const char * const`. -/
def SharedType.ofStrings : SharedType := ⟨0, (Ty.primitive .char true).constPtr⟩

/-- The number of the first object after `SharedType.ofStrings`. -/
def SharedType.firstFresh : Nat := 1

end ExprEmit
