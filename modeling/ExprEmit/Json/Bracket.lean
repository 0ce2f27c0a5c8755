import ExprEmit.Json.Scalar

/-!
# Brackets and lists

Brackets may be nested to a bounded depth: every reader of something in brackets is given the number
of further brackets it may open.  What is inside is read, and then the closing bracket is tried
whether or not that went well; a fault that has no place yet is placed behind it.
-/

namespace ExprEmit.Json.Reader

/-- The number of brackets that may be open at once. -/
def maxDepth : Nat := 127

/-- Opens a bracket, which has been seen, and goes on with one bracket less to open. -/
def enter {α : Type} (depth : Nat) (body : (inner : Nat) → inner < depth → Reader α) : Reader α :=
  match depth, body with
  | 0, _ => failWithin .tooDeep
  | inner + 1, body => do
    advance
    body inner (Nat.lt_succ_self inner)

/-- Reads `body` and then `close`; the fault of `body` comes first. -/
def closedBy {α : Type} (body : Reader α) (close : Reader PUnit) : Reader α := fun s =>
  match body s with
  | .ok a t =>
    match close t with
    | .ok _ u => .ok a u
    | .error f u => .error f u
  | .error f t =>
    match close t with
    | .ok _ u => .error (f.placedBefore u) u
    | .error _ u => .error (f.placedBefore u) u

/-- Closes a list. -/
def closeList : Reader PUnit := do
  match ← peek with
  | some ']' => advance
  | some ',' =>
    advance
    match ← peek with
    | some ']' => failWithin .trailingComma
    | _ => failWithin .trailingCharacters
  | some _ => failWithin .trailingCharacters
  | none => failWithin .endOfList

/-- Closes an object. -/
def closeObject : Reader PUnit := do
  match ← peek with
  | some '}' => advance
  | some ',' => failWithin .trailingComma
  | some _ => failWithin .trailingCharacters
  | none => failWithin .endOfObject

/-! ### Lists -/

/-- Whether a list has another item, whose comma is then taken. -/
def nextItem (isFirst : Bool) : Reader Bool := do
  match ← peek with
  | none => failWithin .endOfList
  | some ']' => return false
  | some c =>
    if isFirst then return true
    else if c = ',' then
      advance
      match ← peek with
      | some ']' => failWithin .trailingComma
      | some _ => return true
      | none => failWithin .endOfValue
    else failWithin .expectedListComma

/-- Reads the items of a list up to its closing bracket, at most `fuel` of them. -/
def items {α : Type} (item : Reader α) : (fuel : Nat) → (isFirst : Bool) → Reader (List α)
  | 0, _ => pure []
  | fuel + 1, isFirst => do
    if ← nextItem isFirst then
      let a ← item
      return a :: (← items item fuel false)
    else return []

/-- Reads the items of a list.  Each takes a character, which bounds their number. -/
def allItems {α : Type} (item : Reader α) : Reader (List α) := fun s =>
  items item (s.length + 1) true s

/-- Reads a list. -/
def list {α : Type} (depth : Nat) (item : (inner : Nat) → inner < depth → Reader α) :
    Reader (List α) := value fun c =>
  if c = '[' then enter depth fun inner h => closedBy (allItems (item inner h)) closeList
  else mismatch "a sequence"

end ExprEmit.Json.Reader
