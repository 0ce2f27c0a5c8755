import ExprEmit.Acceptor
import ExprEmit.Type.Basic

/-!
# The text of a type

A type is written as a type-id: a specifier, then an abstract declarator that is built from the
outermost layer inwards, as in `void (*)(int)` or `int (&)[4]`.  `Ty.typeId` takes a type apart into
the two, `TypeId.pieces` lists the texts that write it, and `TypeId.emit` offers them to a sink one
after another.
-/

namespace ExprEmit

/-- A type-id: the specifier of the innermost type and the declarator around it. -/
structure TypeId where
  /-- Whether `const` stands before the specifier. -/
  isConst : Bool
  specifier : String
  declarator : String
  /-- Whether the declarator starts with a suffix, which no blank separates from the specifier. -/
  suffixed : Bool
deriving DecidableEq, Inhabited

namespace TypeId

/-- The texts that write a type-id. -/
def pieces (t : TypeId) : List String :=
  (if t.isConst then ["const "] else []) ++ [t.specifier] ++
    if t.declarator.isEmpty then []
    else (if t.suffixed then [] else [" "]) ++ [t.declarator]

/-- The whole type-id. -/
def text (t : TypeId) : String := String.join t.pieces

/-- Writes a type-id into a sink. -/
def emit {σ : Type} (k : Sink σ) (t : TypeId) : Step σ :=
  Step.all [
    Step.when t.isConst (k.offer "const "),
    k.offer t.specifier,
    Step.when (!t.declarator.isEmpty)
      (Step.all [Step.when (!t.suffixed) (k.offer " "), k.offer t.declarator])]

end TypeId

namespace Ty

/-! ### Declarators -/

/-- A pointer or reference mark in front of the declarator `rest`; `grouped` says that a suffix
follows, which would otherwise bind tighter. -/
def markedDeclarator (mark rest : String) (suffixed grouped : Bool) : String :=
  let part :=
    if rest.isEmpty then mark
    else if suffixed then mark ++ rest
    else mark ++ " " ++ rest
  if grouped then "(" ++ part ++ ")" else part

/-- The mark of a pointer. -/
def pointerMark (isConst : Bool) : String := if isConst then "* const" else "*"

/-- The text of an array bound. -/
def boundText : Option Nat → String
  | some n => toString n
  | none => ""

mutual

/-- The type-id of a type inside the declarator `rest`, which starts with a suffix if `suffixed`. -/
def typeIdAround : Ty → (rest : String) → (suffixed : Bool) → TypeId
  | primitive p c, rest, suffixed => ⟨c, p.keyword, rest, suffixed⟩
  | named d c, rest, suffixed => ⟨c, d.name.qualified, rest, suffixed⟩
  | pointer t c, rest, suffixed =>
    t.typeIdAround (markedDeclarator (pointerMark c) rest suffixed t.takesSuffix) false
  | reference t _, rest, suffixed =>
    t.typeIdAround (markedDeclarator "&" rest suffixed t.takesSuffix) false
  | array t b _, rest, suffixed =>
    t.typeIdAround (rest ++ "[" ++ boundText b ++ "]") (suffixed || rest.isEmpty)
  | function r ps _, rest, suffixed =>
    r.typeIdAround (rest ++ "(" ++ ", ".intercalate (paramTexts ps) ++ ")")
      (suffixed || rest.isEmpty)

/-- The texts of the parameters of a function. -/
def paramTexts : List Ty → List String
  | [] => []
  | t :: ts => (t.typeIdAround "" false).text :: paramTexts ts

end

/-- The type-id of a type. -/
def typeId (t : Ty) : TypeId := t.typeIdAround "" false

/-- The text of a type. -/
def text (t : Ty) : String := t.typeId.text

/-- The texts that write a type. -/
def pieces (t : Ty) : List String := t.typeId.pieces

/-- Writes a type into a sink. -/
def emit {σ : Type} (k : Sink σ) (t : Ty) : Step σ := t.typeId.emit k

end Ty

end ExprEmit
