import ExprEmit.Json.Number
import ExprEmit.Json.Text

/-!
# Scalars

Readers of values that are neither lists nor objects.  Each says what it wants; a value of another kind
is read as far as it is a scalar, and then it is a fault.
-/

namespace ExprEmit.Json.Reader

/-- Whether a number starts with the character. -/
def startsNumber (c : Char) : Bool := c == '-' || c.isDigit

/-- Reads a number that starts with `c`, which has been seen. -/
def numberFrom (c : Char) : Reader Number := do
  if c = '-' then
    advance
    ofStep (number true)
  else ofStep (number false)

/-- Reads what stands here, if it is a scalar, or sees which bracket it is. -/
def found : Reader Found := do
  match ← peek with
  | none => failWithin .endOfValue
  | some 'n' => advance; word "ull"; return .null
  | some 't' => advance; word "rue"; return .bool true
  | some 'f' => advance; word "alse"; return .bool false
  | some '"' => return .string (← text)
  | some '[' => return .list
  | some '{' => return .object
  | some c =>
    if startsNumber c then return (← numberFrom c).found
    else failWithin .expectedValue

/-- Fails because what stands here is not what is wanted. -/
def mismatch {α : Type} (wanted : String) : Reader α := do
  failBefore (.wrongKind (← found) wanted)

/-- Reads the value that the next character opens, and fails at the end of the text. -/
def value {α : Type} (read : Char → Reader α) : Reader α := do
  match ← peek with
  | none => failWithin .endOfValue
  | some c => read c

/-! ### Kinds of scalars -/

/-- Reads `null`. -/
def null : Reader PUnit := value fun c => do
  if c = 'n' then
    advance
    word "ull"
  else mismatch "unit"

/-- Reads a truth value. -/
def bool : Reader Bool := value fun c => do
  if c = 't' then
    advance
    word "rue"
    return true
  else if c = 'f' then
    advance
    word "alse"
    return false
  else mismatch "a boolean"

/-- Reads a string. -/
def string : Reader String := value fun c =>
  if c = '"' then text else mismatch "a string"

/-- Reads a string of one character. -/
def char : Reader Char := value fun c => do
  if c = '"' then
    let s ← text
    match s.toList with
    | [d] => return d
    | _ => failBefore (.wrongValue (.string s) "a character")
  else mismatch "a character"

/-- Reads an integer that `accept` takes. -/
def integer {α : Type} (wanted : String) (accept : Int → Option α) : Reader α := value fun c => do
  if startsNumber c then
    match ← numberFrom c with
    | .natural n => taken (Int.ofNat n)
    | .negative n => taken n
    | .float x => failBefore (.wrongKind (.float x) wanted)
  else mismatch wanted
where
  /-- The integer `n`, if it is within range. -/
  taken (n : Int) : Reader α :=
    match accept n with
    | some a => pure a
    | none => failBefore (.wrongValue (.integer n) wanted)

/-- Reads a signed integer of 64 bits. -/
def int64 : Reader Int64 := integer "i64" fun n =>
  if Int64.minValue.toInt ≤ n ∧ n ≤ Int64.maxValue.toInt then some (Int64.ofInt n) else none

/-- The natural number `n` in 64 bits. -/
def natural64? (n : Int) : Option UInt64 :=
  if 0 ≤ n ∧ n < UInt64.size then some (UInt64.ofNat n.toNat) else none

/-- Reads an unsigned integer of 64 bits. -/
def uint64 : Reader UInt64 := integer "u64" natural64?

/-- Reads a count, an unsigned integer of 64 bits. -/
def count : Reader UInt64 := integer "usize" natural64?

/-- Reads a number as a double. -/
def float : Reader Float := value fun c => do
  if startsNumber c then
    match ← numberFrom c with
    | .natural n => return n.toUInt64.toFloat
    | .negative n => return -n.natAbs.toUInt64.toFloat
    | .float x => return x
  else mismatch "f64"

/-- Reads `null` or what `r` reads. -/
def optional {α : Type} (r : Reader α) : Reader (Option α) := do
  if (← peek) = some 'n' then
    advance
    word "ull"
    return none
  else return some (← r)

end ExprEmit.Json.Reader
