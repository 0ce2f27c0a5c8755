import ExprEmit.Json.Fault

/-!
# Writing JSON

Compact JSON texts: nothing stands between the tokens.
-/

namespace ExprEmit.Json

/-- A character of a string. -/
def escaped (c : Char) : String :=
  match c with
  | '"' => "\\\""
  | '\\' => "\\\\"
  | '\x08' => "\\b"
  | '\x0c' => "\\f"
  | '\n' => "\\n"
  | '\r' => "\\r"
  | '\t' => "\\t"
  | c =>
    if c.toNat < 0x20 then
      "\\u00" ++ String.ofList [Nat.digitChar (c.toNat / 16), Nat.digitChar (c.toNat % 16)]
    else String.singleton c

/-- A string. -/
def quoted (s : String) : String := "\"" ++ String.join (s.toList.map escaped) ++ "\""

/-- A truth value. -/
def boolText (b : Bool) : String := if b then "true" else "false"

/-- A list of values. -/
def listOf (values : List String) : String := "[" ++ ",".intercalate values ++ "]"

/-- An object of keys and values. -/
def objectOf (members : List (String × String)) : String :=
  "\x7b" ++ ",".intercalate (members.map fun m => quoted m.1 ++ ":" ++ m.2) ++ "\x7d"

end ExprEmit.Json
