import ExprEmit.Json.Number
import ExprEmit.Json.Text

/-!
# Passing over values

The value of a key that a record does not know is passed over.  It has to be well formed, but it may
be nested to any depth, and neither its strings nor its numbers are evaluated.
-/

namespace ExprEmit.Json.Reader

mutual

/-- Passes over a value; `fuel` bounds the number of brackets and items. -/
def skipValue : (fuel : Nat) → Reader PUnit
  | 0 => pure ⟨⟩
  | fuel + 1 => do
    match ← peek with
    | none => failWithin .endOfValue
    | some 'n' => advance; word "ull"
    | some 't' => advance; word "rue"
    | some 'f' => advance; word "alse"
    | some '"' => skipText
    | some '[' => advance; skipItems fuel true
    | some '{' => advance; skipMembers fuel true
    | some '-' => advance; ofStep skipNumber
    | some c => if c.isDigit then ofStep skipNumber else failWithin .expectedValue

/-- Passes over the items of a list and its closing bracket. -/
def skipItems : (fuel : Nat) → (isFirst : Bool) → Reader PUnit
  | 0, _ => pure ⟨⟩
  | fuel + 1, isFirst => do
    match ← peek with
    | none => failWithin .endOfList
    | some ']' => advance
    | some c =>
      if !isFirst && c != ',' then failWithin .expectedListComma
      else
        if !isFirst then advance
        skipValue fuel
        skipItems fuel false

/-- Passes over the members of an object and its closing brace. -/
def skipMembers : (fuel : Nat) → (isFirst : Bool) → Reader PUnit
  | 0, _ => pure ⟨⟩
  | fuel + 1, isFirst => do
    match ← peek with
    | none => failWithin .endOfObject
    | some '}' => advance
    | some c =>
      if !isFirst && c != ',' then failWithin .expectedObjectComma
      else
        if !isFirst then advance
        match ← peek with
        | some '"' => skipText
        | some _ => failWithin .keyNotString
        | none => failWithin .endOfObject
        colon
        skipValue fuel
        skipMembers fuel false

end

/-- Passes over a value.  Every second step takes a character, which bounds their number. -/
def skip : Reader PUnit := fun s => skipValue (2 * s.length + 2) s

end ExprEmit.Json.Reader
