import ExprEmit.Decimal.Layout
import ExprEmit.Keyed
import ExprEmit.Text.Quoted

/-!
# Faults of a JSON text

What can be wrong with a JSON text, or with what it says.  A fault carries its place as the number of
bytes that come after it.  Faults of the text know their place at once; a fault of what is said may
get its place later, from the record or list around it (`Json.Reader.closedBy`).
-/

namespace ExprEmit.Json

/-- A floating-point number in JSON has a point in place from `0.00001` to below `1e16`, signs its
exponents, and of two equally near decimals takes the even one. -/
def floatLayout : Decimal.Layout := ⟨-5, 15, true, .even⟩

/-- The text of a floating-point number; JSON has none for what is not finite. -/
def floatText (x : Float) : String :=
  match Decimal.Double.ofBits x.toBits with
  | .finite negative m q => floatLayout.text negative m q
  | _ => "null"

/-- What stands where something else is wanted. -/
inductive Found where
  | null
  | bool (b : Bool)
  | integer (n : Int)
  | float (x : Float)
  | string (s : String)
  | list
  | object
  /-- The name of a variant by itself. -/
  | bareVariant
deriving Inhabited

/-- The wording of what was found. -/
def Found.text : Found → String
  | null => "null"
  | bool b => "boolean `" ++ (if b then "true" else "false") ++ "`"
  | integer n => "integer `" ++ toString n ++ "`"
  | float x => "floating point `" ++ floatText x ++ "`"
  | string s => "string " ++ Text.quoted s
  | list => "sequence"
  | object => "map"
  | bareVariant => "unit variant"

/-- What is wrong. -/
inductive Cause where
  | endOfValue
  | endOfString
  | endOfList
  | endOfObject
  | expectedValue
  | expectedWord
  | expectedColon
  | expectedListComma
  | expectedObjectComma
  | keyNotString
  | trailingComma
  | trailingCharacters
  | invalidEscape
  | loneSurrogate
  | unfinishedSurrogate
  | controlCharacter
  | invalidNumber
  | numberOutOfRange
  | tooDeep
  /-- A value of the wrong kind. -/
  | wrongKind (found : Found) (wanted : String)
  /-- A value of the right kind, but outside its range. -/
  | wrongValue (found : Found) (wanted : String)
  /-- A list in place of a record, with too few items. -/
  | wrongLength (length : Nat) (wanted : String)
  | unknownVariant (key : String) (known : List String)
  | missingField (key : String)
  | duplicateField (key : String)
deriving Inhabited

/-- The wording of a cause. -/
def Cause.message : Cause → String
  | endOfValue => "EOF while parsing a value"
  | endOfString => "EOF while parsing a string"
  | endOfList => "EOF while parsing a list"
  | endOfObject => "EOF while parsing an object"
  | expectedValue => "expected value"
  | expectedWord => "expected ident"
  | expectedColon => "expected `:`"
  | expectedListComma => "expected `,` or `]`"
  | expectedObjectComma => "expected `,` or `\x7d`"
  | keyNotString => "key must be a string"
  | trailingComma => "trailing comma"
  | trailingCharacters => "trailing characters"
  | invalidEscape => "invalid escape"
  | loneSurrogate => "lone leading surrogate in hex escape"
  | unfinishedSurrogate => "unexpected end of hex escape"
  | controlCharacter => "control character (\\u0000-\\u001F) found while parsing a string"
  | invalidNumber => "invalid number"
  | numberOutOfRange => "number out of range"
  | tooDeep => "recursion limit exceeded"
  | wrongKind found wanted => "invalid type: " ++ found.text ++ ", expected " ++ wanted
  | wrongValue found wanted => "invalid value: " ++ found.text ++ ", expected " ++ wanted
  | wrongLength length wanted => "invalid length " ++ toString length ++ ", expected " ++ wanted
  | unknownVariant key known => Keyed.unknownAmong known key
  | missingField key => "missing field `" ++ key ++ "`"
  | duplicateField key => "duplicate field `" ++ key ++ "`"

/-- The number of bytes of a text. -/
def byteCount (s : List Char) : Nat := (s.map Char.utf8Size).foldr (· + ·) 0

/-- Something wrong, and where. -/
structure Fault where
  cause : Cause
  /-- How many bytes come after the place, once it is known. -/
  left : Option Nat
deriving Inhabited

namespace Fault

/-- A fault right before `rest`. -/
def before (cause : Cause) (rest : List Char) : Fault := ⟨cause, some (byteCount rest)⟩

/-- A fault behind the first byte of `rest`, or at the end if there is none. -/
def within (cause : Cause) (rest : List Char) : Fault := ⟨cause, some (byteCount rest - 1)⟩

/-- A fault whose place is not known yet. -/
def unplaced (cause : Cause) : Fault := ⟨cause, none⟩

/-- A fault of the text's end. -/
def atEnd (cause : Cause) : Fault := ⟨cause, some 0⟩

/-- The fault, right before `rest` unless it has its place. -/
def placedBefore (f : Fault) (rest : List Char) : Fault :=
  match f.left with
  | some _ => f
  | none => .before f.cause rest

end Fault

end ExprEmit.Json
