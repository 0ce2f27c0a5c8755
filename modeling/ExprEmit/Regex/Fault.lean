/-!
# Faults of regular expressions

Why a text is no regular expression, and where; `Fault.text` shows the text with the place marked below
it.
-/

namespace ExprEmit.Regex

/-- A stretch of a text, in characters from its start. -/
structure Span where
  start : Nat
  stop : Nat
deriving DecidableEq, Inhabited

/-- What is wrong with a text that should be a regular expression. -/
inductive Cause where
  | classEscapeInvalid
  | classRangeInvalid
  | classRangeNoLiteral
  | classUnclosed
  | numberTooLarge
  | hexEmpty
  | hexInvalid
  | hexDigitInvalid
  | escapeUnfinished
  | escapeUnknown
  | negationDangling
  | flagTwice
  | negationTwice
  | flagsUnfinished
  | flagUnknown
  | nameTwice
  | nameEmpty
  | nameInvalid
  | nameUnfinished
  | groupUnclosed
  | groupUnopened
  | countInvalid
  | countEmpty
  | countUnclosed
  | nothingToRepeat
  | boundaryUnclosed
  | boundaryUnknown
  | boundaryUnfinished
  | backreference
  | lookAround
  | propertyInvalid
  | propertyUnknown
  | notUnicode
  | notText
deriving DecidableEq, Inhabited

/-- The wording of a cause. -/
def Cause.message : Cause → String
  | classEscapeInvalid => "invalid escape sequence found in character class"
  | classRangeInvalid => "invalid character class range, the start must be <= the end"
  | classRangeNoLiteral => "invalid range boundary, must be a literal"
  | classUnclosed => "unclosed character class"
  | numberTooLarge => "decimal literal invalid"
  | hexEmpty => "hexadecimal literal empty"
  | hexInvalid => "hexadecimal literal is not a Unicode scalar value"
  | hexDigitInvalid => "invalid hexadecimal digit"
  | escapeUnfinished => "incomplete escape sequence, reached end of pattern prematurely"
  | escapeUnknown => "unrecognized escape sequence"
  | negationDangling => "dangling flag negation operator"
  | flagTwice => "duplicate flag"
  | negationTwice => "flag negation operator repeated"
  | flagsUnfinished => "expected flag but got end of regex"
  | flagUnknown => "unrecognized flag"
  | nameTwice => "duplicate capture group name"
  | nameEmpty => "empty capture group name"
  | nameInvalid => "invalid capture group character"
  | nameUnfinished => "unclosed capture group name"
  | groupUnclosed => "unclosed group"
  | groupUnopened => "unopened group"
  | countInvalid => "invalid repetition count range, the start must be <= the end"
  | countEmpty => "repetition quantifier expects a valid decimal"
  | countUnclosed => "unclosed counted repetition"
  | nothingToRepeat => "repetition operator missing expression"
  | boundaryUnclosed =>
    "special word boundary assertion is either unclosed or contains an invalid character"
  | boundaryUnknown =>
    "unrecognized special word boundary assertion, valid choices are: start, end, start-half " ++
      "or end-half"
  | boundaryUnfinished =>
    "found either the beginning of a special word boundary or a bounded repetition on a \\b with " ++
      "an opening brace, but no closing brace"
  | backreference => "backreferences are not supported"
  | lookAround => "look-around, including look-ahead and look-behind, is not supported"
  | propertyInvalid => "invalid Unicode character class"
  | propertyUnknown => "Unicode property not found"
  | notUnicode => "Unicode not allowed here"
  | notText => "pattern can match invalid UTF-8"

/-- A cause, the stretch that it is about, and an earlier stretch that has to do with it. -/
structure Fault where
  cause : Cause
  span : Span
  earlier : Option Span
deriving DecidableEq, Inhabited

/-- The carets below stretches, in order, from column `column` on; an empty stretch has one too. -/
def carets (column : Nat) : List Span → String
  | [] => ""
  | s :: rest =>
    let size := max 1 (s.stop - s.start)
    String.ofList (List.replicate (s.start - column) ' ' ++ List.replicate size '^') ++
      carets (max column s.start + size) rest

/-- The fault of a text, with carets below the text. -/
def Fault.text (pattern : String) (f : Fault) : String :=
  "regex parse error:\n    " ++ pattern ++ "\n    " ++
    carets 0 (f.earlier.toList ++ [f.span]) ++ "\nerror: " ++ f.cause.message

end ExprEmit.Regex
