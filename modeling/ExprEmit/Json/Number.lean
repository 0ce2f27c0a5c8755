import ExprEmit.Json.Reader

/-!
# Numbers of a JSON text

A number without fraction or exponent is an integer while it fits 64 bits.  Any other is a double,
made from as many leading digits as fit 64 bits and a power of ten that stands for the rest; the
result may be off the nearest double by its last bits.
-/

namespace ExprEmit.Json

/-- A number as it was read. -/
inductive Number where
  /-- A number below `2 ^ 64` without a sign. -/
  | natural (n : Nat)
  /-- A negative number from `-2 ^ 63` on. -/
  | negative (n : Int)
  | float (x : Float)
deriving Inhabited

/-- The number as what was found. -/
def Number.found : Number → Found
  | natural n => .integer n
  | negative n => .integer n
  | float x => .float x

/-! ### Digits -/

/-- The value of a decimal digit. -/
def digitValue (c : Char) : Nat := c.toNat - '0'.toNat

/-- Appends digits to `n` while the result stays below `limit`: the result, and the digits that no
longer fit. -/
def absorb (limit : Nat) (n : Nat) : List Char → Nat × List Char
  | [] => (n, [])
  | d :: ds =>
    if 10 * n + digitValue d < limit then absorb limit (10 * n + digitValue d) ds
    else (n, d :: ds)

/-- The bound of a significand. -/
def significandLimit : Nat := UInt64.size

/-- The bound of a written exponent. -/
def exponentLimit : Nat := Nat.pow 2 31

/-! ### Doubles -/

/-- The double next to `10 ^ n`. -/
def powerOfTen (n : Nat) : Float := Float.ofScientific 1 false n

/-- `x · 10 ^ e` in floating-point steps of at most 308 decimal places; none if it is too large. -/
def scaleTen (x : Float) (e : Int) : Option Float :=
  if e.natAbs ≤ 308 then
    if 0 ≤ e then
      let y := x * powerOfTen e.natAbs
      if y.isInf then none else some y
    else some (x / powerOfTen e.natAbs)
  else if x == 0 then some x
  else if 0 ≤ e then none
  else scaleTen (x / powerOfTen 308) (e + 308)
termination_by (-e).toNat
decreasing_by omega

/-- The double `± significand · 10 ^ e`, before `rest`. -/
def scaled (isNegative : Bool) (significand : Nat) (e : Int) (rest : List Char) :
    Except Fault (Number × List Char) :=
  match scaleTen significand.toUInt64.toFloat e with
  | some x => .ok (.float (if isNegative then -x else x), rest)
  | none => .error (.before .numberOutOfRange rest)

/-! ### Numbers -/

/-- Reads an exponent after its `e`, for the number `± significand · 10 ^ e`. -/
def exponentPart (isNegative : Bool) (significand : Nat) (e : Int) (s : List Char) :
    Except Fault (Number × List Char) :=
  let (down, s) := match s with
    | '-' :: rest => (true, rest)
    | '+' :: rest => (false, rest)
    | s => (false, s)
  let (digits, rest) := s.span Char.isDigit
  if digits.isEmpty then
    .error (.within (if rest.isEmpty then .endOfValue else .invalidNumber) rest)
  else
    match absorb exponentLimit 0 digits with
    | (n, []) => scaled isNegative significand (if down then e - n else e + n) rest
    | (_, excess) =>
      if significand ≠ 0 ∧ ¬down then .error (.within .numberOutOfRange (excess ++ rest))
      else .ok (.float (if isNegative then -0.0 else 0.0), rest)

/-- Reads a fraction after its point, for the number `± significand · 10 ^ e`. -/
def fractionPart (isNegative : Bool) (significand : Nat) (e : Int) (s : List Char) :
    Except Fault (Number × List Char) :=
  let (digits, rest) := s.span Char.isDigit
  if digits.isEmpty then
    .error (.within (if rest.isEmpty then .endOfValue else .invalidNumber) rest)
  else
    let (n, excess) := absorb significandLimit significand digits
    let e := e - (digits.length - excess.length : Nat)
    match rest with
    | 'e' :: rest | 'E' :: rest => exponentPart isNegative n e rest
    | rest => scaled isNegative n e rest

/-- The integer `± n`; zero with a sign is a double, and so is what does not fit. -/
def Number.ofInteger (isNegative : Bool) (n : Nat) : Number :=
  if isNegative then
    if n ≠ 0 ∧ n ≤ Nat.pow 2 63 then .negative (-n) else .float (-n.toUInt64.toFloat)
  else .natural n

/-- Reads what follows the digits before the point. -/
def numberTail (isNegative : Bool) (digits rest : List Char) : Except Fault (Number × List Char) :=
  let (n, excess) := absorb significandLimit 0 digits
  match rest with
  | '.' :: rest => fractionPart isNegative n excess.length rest
  | 'e' :: rest | 'E' :: rest => exponentPart isNegative n excess.length rest
  | rest =>
    if excess.isEmpty then .ok (.ofInteger isNegative n, rest)
    else scaled isNegative n excess.length rest

/-- Reads a number after its sign. -/
def number (isNegative : Bool) : List Char → Except Fault (Number × List Char)
  | [] => .error (.atEnd .endOfValue)
  | c :: rest =>
    if c = '0' then
      if rest.head?.any Char.isDigit then .error (.within .invalidNumber rest)
      else numberTail isNegative ['0'] rest
    else if c.isDigit then
      let (digits, rest) := (c :: rest).span Char.isDigit
      numberTail isNegative digits rest
    else .error (.within .invalidNumber (c :: rest))

/-! ### Passing over numbers -/

/-- Passes over an exponent after its `e`. -/
def skipExponent (s : List Char) : Except Fault (PUnit × List Char) :=
  let s := match s with
    | '-' :: rest | '+' :: rest => rest
    | s => s
  if s.head?.any Char.isDigit then .ok (⟨⟩, s.dropWhile Char.isDigit)
  else .error (.within .invalidNumber s)

/-- Passes over what follows the digits before the point. -/
def skipNumberTail (s : List Char) : Except Fault (PUnit × List Char) :=
  match s with
  | '.' :: rest =>
    if rest.head?.any Char.isDigit then
      match rest.dropWhile Char.isDigit with
      | 'e' :: rest | 'E' :: rest => skipExponent rest
      | rest => .ok (⟨⟩, rest)
    else .error (.within .invalidNumber rest)
  | 'e' :: rest | 'E' :: rest => skipExponent rest
  | s => .ok (⟨⟩, s)

/-- Passes over a number after its sign. -/
def skipNumber : List Char → Except Fault (PUnit × List Char)
  | [] => .error (.atEnd .invalidNumber)
  | c :: rest =>
    if c = '0' then
      if rest.head?.any Char.isDigit then .error (.within .invalidNumber rest)
      else skipNumberTail rest
    else if c.isDigit then skipNumberTail (rest.dropWhile Char.isDigit)
    else .error (.within .invalidNumber (c :: rest))

end ExprEmit.Json
