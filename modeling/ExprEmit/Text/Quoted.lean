import ExprEmit.Text.Mark
import ExprEmit.Text.Unprintable

/-!
# Quoted text

Text between quotation marks, with everything escaped that would not show: the mark itself, the
backslash, controls, and the characters that are unprintable or extend their neighbour.
-/

namespace ExprEmit.Text

/-- Whether a quoted text shows the character by its code point. -/
def isHidden (c : Char) : Bool :=
  c.toNat < 0x20 || c.toNat == 0x7F || (0x7F < c.toNat && (isUnprintable c || isMark c))

/-- A character by its code point, in lower-case hexadecimal digits. -/
def codePoint (c : Char) : String :=
  "\\u\x7b" ++ String.ofList (Nat.toDigits 16 c.toNat) ++ "\x7d"

/-- A character of a quoted text. -/
def escaped (c : Char) : String :=
  match c with
  | '"' => "\\\""
  | '\\' => "\\\\"
  | '\n' => "\\n"
  | '\r' => "\\r"
  | '\t' => "\\t"
  | '\x00' => "\\0"
  | c => if isHidden c then codePoint c else String.singleton c

/-- A text between quotation marks. -/
def quoted (s : String) : String :=
  "\"" ++ String.join (s.toList.map escaped) ++ "\""

end ExprEmit.Text
