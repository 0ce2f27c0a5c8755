import ExprEmit.Document.Basic
import ExprEmit.Error
import ExprEmit.Expr.Literal
import ExprEmit.Log

/-!
# Arenas

An arena holds what a document declares, by name: types first, then elements, whose types may name
them.  `Arena.ofDocument` declares everything in order and stops at the first name that is taken or
unknown; `Arena.build` makes the expressions of the document, and stops at the first unknown name.
-/

namespace ExprEmit

/-- The declarations of a document, under the names that the document writes, and its expressions. -/
structure Arena where
  types : List (String × TypeDecl)
  elements : List (String × Element)
  expressions : List ExprTerm
deriving Inhabited

namespace Arena

/-- The arena without declarations. -/
def empty : Arena := ⟨[], [], []⟩

/-! ### Names -/

/-- The type declared as `name`. -/
def type? (a : Arena) (name : String) : Except LoadError TypeDecl :=
  match a.types.lookup name with
  | some d => .ok d
  | none => .error (.unknownType name)

/-- The element declared as `name`. -/
def element? (a : Arena) (name : String) : Except LoadError Element :=
  match a.elements.lookup name with
  | some e => .ok e
  | none => .error (.unknownElement name)

mutual

/-- The type that a term stands for. -/
def resolve (a : Arena) : TypeTerm → Except LoadError Ty
  | .primitive p => .ok (.ofPrimitive p)
  | .named name => return .ofDecl (← a.type? name)
  | .pointer t => return (← a.resolve t).ptr
  | .reference t => return (← a.resolve t).ref
  | .const t => return (← a.resolve t).asConst
  | .array t size => return (← a.resolve t).arrayOf (size.map UInt64.toNat)
  | .function r ps => do
    let params ← a.resolveEach ps
    return .functionOf (← a.resolve r) params

/-- The types that terms stand for, from left to right. -/
def resolveEach (a : Arena) : List TypeTerm → Except LoadError (List Ty)
  | [] => .ok []
  | t :: ts => do
    let u ← a.resolve t
    return u :: (← a.resolveEach ts)

end

/-! ### Declaring -/

/-- Declares a type. -/
def declareType (a : Arena) (t : TypeEntry) : Except LoadError Arena :=
  if (a.types.lookup t.name).isSome then .error (.duplicateType t.name)
  else .ok { a with
    types := a.types ++ [(t.name, ⟨a.types.length, Name.parse t.name, t.kind⟩)] }

/-- The number of the type object of the next element. -/
def freshElement (a : Arena) : Nat := SharedType.firstFresh + a.elements.length

/-- Declares an element. -/
def declareElement (a : Arena) (e : ElementEntry) : Except LoadError Arena := do
  if (a.elements.lookup e.name).isSome then throw (.duplicateElement e.name)
  let t ← a.resolve e.type
  return { a with
    elements := a.elements ++
      [(e.name, ⟨a.elements.length, Name.parse e.name, ⟨a.freshElement, t⟩, e.kind⟩)] }

/-- The record of a declared type. -/
def typeRecord (t : TypeEntry) : Log.Record :=
  ⟨.debug, .model, "declare type " ++ t.name ++ " (" ++ t.kind.label ++ ")"⟩

/-- The record of a declared element. -/
def elementRecord (e : ElementEntry) : Log.Record :=
  ⟨.debug, .model, "declare element " ++ e.name ++ " (" ++ e.kind.label ++ ")"⟩

/-- Declares entries in order up to the first that fails, with a record of each that does not. -/
def declareAll {α : Type} (declare : Arena → α → Except LoadError Arena)
    (record : α → Log.Record) (a : Arena) : List α → Except LoadError Arena × List Log.Record
  | [] => (.ok a, [])
  | x :: xs =>
    match declare a x with
    | .error e => (.error e, [])
    | .ok b =>
      let rest := declareAll declare record b xs
      (rest.1, record x :: rest.2)

/-- The arena of a document, and what was logged on the way. -/
def ofDocument (d : Document) : Except LoadError Arena × List Log.Record :=
  match declareAll declareType typeRecord empty d.types with
  | (.error e, log) => (.error e, log)
  | (.ok a, log) =>
    match declareAll declareElement elementRecord a d.elements with
    | (.error e, more) => (.error e, log ++ more)
    | (.ok b, more) => (.ok { b with expressions := d.expressions }, log ++ more)

/-! ### Building expressions -/

/-- Makes expressions, whose type objects it numbers. -/
abbrev Build (α : Type) : Type := StateT Nat (Except LoadError) α

/-- The next number of a type object. -/
def nextFresh : Build Nat := fun n => .ok (n, n + 1)

/-- A new type object of the type that a term stands for. -/
def shared (a : Arena) (t : TypeTerm) : Build SharedType := do
  let u ← a.resolve t
  return ⟨← nextFresh, u⟩

mutual

/-- The expression that a term stands for. -/
def buildExpr (a : Arena) : ExprTerm → Build Expr
  | .int n => return .int n.toInt (← nextFresh)
  | .unsigned n => return .unsigned n.toNat (← nextFresh)
  | .bool b => return .bool b (← nextFresh)
  | .char c => return .char c (← nextFresh)
  | .float x => return .float x.toBits (← nextFresh)
  | .nullPtr => return .nullPtr (← nextFresh)
  | .string s => return .string s
  | .literal t value => return .literal (← a.shared t) value
  | .access name => return .access (← a.element? name)
  | .member base field arrow => do
    let b ← a.buildExpr base
    return .member b (← a.element? field) arrow
  | .call f args => do
    let xs ← a.buildEach args
    return .call (← a.element? f) xs
  | .unary op x => return .unary op (← a.buildExpr x)
  | .binary op l r => do
    let l ← a.buildExpr l
    return .binary op l (← a.buildExpr r)
  | .conditional c p n => do
    let c ← a.buildExpr c
    let p ← a.buildExpr p
    return .conditional c p (← a.buildExpr n)
  | .cast t x => do
    let t ← a.shared t
    return .cast t (← a.buildExpr x)

/-- The expressions that terms stand for, from left to right. -/
def buildEach (a : Arena) : List ExprTerm → Build (List Expr)
  | [] => return []
  | x :: xs => do
    let e ← a.buildExpr x
    return e :: (← a.buildEach xs)

end

/-- The expressions of the document, and the number of the next new type object. -/
def build (a : Arena) : Except LoadError (List Expr × Nat) :=
  (a.buildEach a.expressions).run a.freshElement

end Arena

/-- The arena of the document that a text writes, and what was logged on the way. -/
def Arena.ofParsed (d : Except Malformed Document) : Except LoadError Arena × List Log.Record :=
  match d with
  | .ok d => ofDocument d
  | .error m => (.error (.malformed m), [])

end ExprEmit
