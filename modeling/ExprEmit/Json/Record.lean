import ExprEmit.Json.Bracket
import ExprEmit.Json.Skip

/-!
# Records

A record is written as an object of its fields, in any order, or as a list of them, in order.  Fields
that have a default may be left out, from a list only at its end; unknown keys of an object are passed
over.

`Fields σ α` describes the fields of a record `α` of which `σ` holds those read so far; it is built
from single fields by `Fields.and`.
-/

namespace ExprEmit.Json

/-- How to read the fields of a record. -/
structure Fields (σ α : Type) where
  /-- The number of fields. -/
  size : Nat
  /-- Nothing read yet. -/
  empty : σ
  /-- Reads the value of a key, from its colon on; none if no field has the key. -/
  fill : (key : String) → σ → Option (Reader σ)
  /-- The record, once all of an object has been read. -/
  complete : σ → Except Cause α
  /-- Reads the fields as items of a list, the first of them at `index`; `wanted` names the record.
  Beside the record it answers whether the next item would be the first of the list. -/
  inOrder : (wanted : String) → (index : Nat) → (isFirst : Bool) → Reader (α × Bool)

namespace Fields

/-! ### Building descriptions -/

/-- The field `key`, which is read by `item` and may be missing if it has a default. -/
def one {α : Type} (key : String) (default : Option α) (item : Reader α) :
    Fields (Option α) α where
  size := 1
  empty := none
  fill k held :=
    if k = key then
      some <|
        if held.isSome then Reader.failUnplaced (.duplicateField key)
        else do
          Reader.colon
          return some (← item)
    else none
  complete held :=
    match held, default with
    | some a, _ => .ok a
    | none, some a => .ok a
    | none, none => .error (.missingField key)
  inOrder wanted index isFirst := do
    if ← Reader.nextItem isFirst then return (← item, false)
    else
      match default with
      | some a => return (a, isFirst)
      | none => Reader.failUnplaced (.wrongLength index wanted)

/-- The field `key`, which must be there. -/
def required {α : Type} (key : String) (item : Reader α) : Fields (Option α) α :=
  one key none item

/-- The field `key`, which is `default` where it is missing. -/
def defaulted {α : Type} (key : String) (default : α) (item : Reader α) : Fields (Option α) α :=
  one key (some default) item

/-- The fields of both descriptions, in order. -/
def and {σ τ α β : Type} (f : Fields σ α) (g : Fields τ β) : Fields (σ × τ) (α × β) where
  size := f.size + g.size
  empty := (f.empty, g.empty)
  fill key held :=
    match f.fill key held.1 with
    | some r => some do return (← r, held.2)
    | none =>
      match g.fill key held.2 with
      | some r => some do return (held.1, ← r)
      | none => none
  complete held := do
    let a ← f.complete held.1
    let b ← g.complete held.2
    return (a, b)
  inOrder wanted index isFirst := do
    let (a, isFirst) ← f.inOrder wanted index isFirst
    let (b, isFirst) ← g.inOrder wanted (index + f.size) isFirst
    return ((a, b), isFirst)

/-- The record `make a` of the fields `a`. -/
def map {σ α β : Type} (make : α → β) (f : Fields σ α) : Fields σ β where
  size := f.size
  empty := f.empty
  fill := f.fill
  complete held := make <$> f.complete held
  inOrder wanted index isFirst := do
    let (a, isFirst) ← f.inOrder wanted index isFirst
    return (make a, isFirst)

/-- What is wanted where the record named `title` has too few items. -/
def wanted {σ α : Type} (f : Fields σ α) (title : String) : String :=
  title ++ " with " ++ toString f.size ++ if f.size = 1 then " element" else " elements"

end Fields

namespace Reader

/-! ### Reading records -/

/-- Whether an object has another member, whose comma is then taken; its key follows. -/
def nextMember (isFirst : Bool) : Reader Bool := do
  match ← peek with
  | none => failWithin .endOfObject
  | some '}' => return false
  | some c =>
    if isFirst then
      if c = '"' then return true else failWithin .keyNotString
    else if c = ',' then
      advance
      match ← peek with
      | some '"' => return true
      | some '}' => failWithin .trailingComma
      | some _ => failWithin .keyNotString
      | none => failWithin .endOfValue
    else failWithin .expectedObjectComma

/-- Reads the members of an object up to its closing brace, at most `fuel` of them. -/
def members {σ α : Type} (f : Fields σ α) : (fuel : Nat) → (isFirst : Bool) → σ → Reader σ
  | 0, _, held => pure held
  | fuel + 1, isFirst, held => do
    if ← nextMember isFirst then
      let key ← text
      match f.fill key held with
      | some r => members f fuel false (← r)
      | none =>
        colon
        skip
        members f fuel false held
    else return held

/-- Reads the members of an object.  Each takes a character, which bounds their number. -/
def allMembers {σ α : Type} (f : Fields σ α) : Reader σ := fun s =>
  members f (s.length + 1) true f.empty s

/-- Reads the body of an object as a record. -/
def objectBody {σ α : Type} (f : Fields σ α) : Reader α := do
  match f.complete (← allMembers f) with
  | .ok a => return a
  | .error cause => failUnplaced cause

/-- Reads the body of a list as a record. -/
def listBody {σ α : Type} (f : Fields σ α) (title : String) : Reader α := do
  let (a, _) ← f.inOrder (f.wanted title) 0 true
  return a

/-- Reads a record named `title`. -/
def record {σ α : Type} (title : String) (depth : Nat)
    (f : (inner : Nat) → inner < depth → Fields σ α) : Reader α := value fun c =>
  if c = '[' then
    enter depth fun inner h => closedBy (listBody (f inner h) title) closeList
  else if c = '{' then
    enter depth fun inner h => closedBy (objectBody (f inner h)) closeObject
  else mismatch title

end Reader

end ExprEmit.Json
