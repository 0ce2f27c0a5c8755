import ExprEmit.Json.Fault
import ExprEmit.Json.Place

/-!
# Readers

A reader takes characters off the front of a text and makes a value of them, or meets a fault.  Even
then the text reached counts: a fault without a place gets it from there.
-/

namespace ExprEmit.Json

/-- Reads a value off the front of a text. -/
abbrev Reader (α : Type) : Type := EStateM Fault (List Char) α

namespace Reader

/-- A reader from a function that says what it read and what is left. -/
def ofStep {α : Type} (step : List Char → Except Fault (α × List Char)) : Reader α := fun s =>
  match step s with
  | .ok (a, rest) => .ok a rest
  | .error f => .error f s

/-! ### Faults -/

/-- A fault right before what comes next. -/
def failBefore {α : Type} (cause : Cause) : Reader α := fun s => .error (.before cause s) s

/-- A fault behind the byte that comes next. -/
def failWithin {α : Type} (cause : Cause) : Reader α := fun s => .error (.within cause s) s

/-- A fault whose place is not known yet. -/
def failUnplaced {α : Type} (cause : Cause) : Reader α := fun s => .error (.unplaced cause) s

/-! ### Tokens -/

/-- Whether the character separates tokens. -/
def isBlank (c : Char) : Bool := c == ' ' || c == '\t' || c == '\n' || c == '\r'

/-- Passes over blanks and looks at the character behind them. -/
def peek : Reader (Option Char) := fun s =>
  let rest := s.dropWhile isBlank
  .ok rest.head? rest

/-- Takes one character. -/
def advance : Reader PUnit := fun s => .ok ⟨⟩ (s.drop 1)

/-- Takes the characters of a word, of which the first may already be gone. -/
def wordFrom : List Char → List Char → Except Fault (PUnit × List Char)
  | [], rest => .ok (⟨⟩, rest)
  | _ :: _, [] => .error (.atEnd .endOfValue)
  | c :: cs, d :: rest =>
    if c = d then wordFrom cs rest else .error (.within .expectedWord (d :: rest))

/-- Takes the rest of a word. -/
def word (rest : String) : Reader PUnit := ofStep (wordFrom rest.toList)

/-- Takes the colon between a key and its value. -/
def colon : Reader PUnit := do
  match ← peek with
  | some ':' => advance
  | some _ => failWithin .expectedColon
  | none => failWithin .endOfObject

/-- Fails if anything but blanks is left. -/
def finish : Reader PUnit := do
  match ← peek with
  | some _ => failWithin .trailingCharacters
  | none => pure ⟨⟩

/-! ### Whole texts -/

/-- Reads a whole text. -/
def run {α : Type} (r : Reader α) (source : String) : Except Fault α :=
  match (do let a ← r; finish; pure a : Reader α) source.toList with
  | .ok a _ => .ok a
  | .error f _ => .error f

end Reader

/-- The place of a fault in a text, if it has one. -/
def Fault.place? (f : Fault) (source : String) : Option Place :=
  f.left.map fun left => .ofOffset source.toUTF8.toList (source.utf8ByteSize - left)

/-- The wording of a fault, with its place if it has one. -/
def Fault.message (f : Fault) (source : String) : String :=
  match f.place? source with
  | some p =>
    f.cause.message ++ " at line " ++ toString p.line ++ " column " ++ toString p.column
  | none => f.cause.message

end ExprEmit.Json
