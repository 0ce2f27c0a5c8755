import ExprEmit.Regex.Reader

/-!
# Escapes in regular expressions

What a backslash and the characters behind it stand for.
-/

namespace ExprEmit.Regex

/-- What an escape stands for. -/
inductive Atom where
  /-- A character; `isByte` tells whether it is written as two hexadecimal digits. -/
  | literal (c : Char) (isByte : Bool)
  | set (s : CharSet)
  | look (l : Look)

namespace Reader

/-- The class of a letter, `d`, `s` or `w`. -/
def letterClass (unicode : Bool) (letter : Char) : CharSet :=
  match letter, unicode with
  | 'd', true => .digits
  | 'd', false => .ranges [(0x30, 0x39)]
  | 's', true => .blanks
  | 's', false => .ranges [(9, 13), (0x20, 0x20)]
  | _, true => .word
  | _, false => .asciiWord

/-- Reads hexadecimal digits, exactly as many as `n`. -/
def hexDigits : (n : Nat) → Reader (List Char)
  | 0 => return []
  | n + 1 => do
    match ← peek with
    | none => fail .escapeUnfinished (← offset) (← offset)
    | some c =>
      if isHex c then
        advanceSkip
        return c :: (← hexDigits n)
      else fail .hexDigitInvalid (← offset) ((← offset) + 1)

/-- Reads a character by its code point: digits, as many as the letter before them says, or any number
of them in braces. -/
def hex (letter : Char) : Reader Atom := do
  advanceSkip
  let start ← offset
  match ← peek with
  | none => fail .escapeUnfinished start start
  | some '\x7b' =>
    advanceSkip
    let digits ← collect advanceSkip isHex
    let stop ← offset
    match ← peek with
    | none => fail .escapeUnfinished start stop
    | some '\x7d' =>
      advanceSkip
      if digits.isEmpty then fail .hexEmpty start (← offset)
      else
        match hexChar? digits with
        | some c => return .literal c false
        | none => fail .hexInvalid (start + 1) stop
    | some _ => fail .hexDigitInvalid stop (stop + 1)
  | some _ =>
    let digits ← hexDigits (match letter with | 'x' => 2 | 'u' => 4 | _ => 8)
    match hexChar? digits with
    | some c => return .literal c (letter == 'x')
    | none => fail .hexInvalid start (← offset)

/-- Reads the name of a property of characters, from the letter `p` on; none is known. -/
def property (start : Nat) : Reader Atom := do
  advanceSkip
  match ← peek with
  | none => fail .escapeUnfinished (← offset) (← offset)
  | some '\x7b' =>
    advanceSkip
    let _ ← collect advanceSkip (· != '\x7d')
    if ← atEnd then fail .escapeUnfinished (← offset) (← offset)
    else advance 1
  | some '\\' => fail .propertyInvalid (← offset) ((← offset) + 1)
  | some _ => advanceSkip
  defer .propertyUnknown start (← offset)
  return .set .none

/-- The condition of a word boundary by its name. -/
def boundaryNamed : String → Option (Bool → Bool → Bool)
  | "start" => some fun before after => !before && after
  | "end" => some fun before after => before && !after
  | "start-half" => some fun before _ => !before
  | "end-half" => some fun _ after => !after
  | _ => none

/-- Whether the character may stand in the name of a word boundary. -/
def isBoundaryName (c : Char) : Bool := c.isAlpha || c == '-'

/-- Reads the name of a word boundary in braces, if there is one; `start` is where its escape starts. -/
def boundaryName (start : Nat) : Reader (Option (Bool → Bool → Bool)) := do
  let before ← get
  match ← peek with
  | some '\x7b' =>
    advanceSkip
    match ← peek with
    | none => fail .boundaryUnfinished start (← offset)
    | some c =>
      if isBoundaryName c then
        let first ← offset
        let name ← collect advanceSkip isBoundaryName
        let stop ← offset
        if (← peek) = some '\x7d' then
          advance 1
          match boundaryNamed (String.ofList name) with
          | some fits => return some fits
          | none => fail .boundaryUnknown first stop
        else fail .boundaryUnclosed before.offset stop
      else
        set before
        return none
  | _ => return none

/-- Whether the character is escaped to stand for itself. -/
def standsForItself (c : Char) : Bool :=
  c.toNat < 0x80 && !c.isAlphanum && c != '<' && c != '>'

/-- Reads an escape from its backslash on. -/
def escape : Reader Atom := do
  let start ← offset
  advance 1
  let flags := (← get).flags
  let chars : CharSet := if flags.unicode then .word else .asciiWord
  match ← peek with
  | none => fail .escapeUnfinished start (start + 1)
  | some c =>
    if c.isDigit then fail .backreference start (start + 2)
    else if c = 'x' || c = 'u' || c = 'U' then hex c
    else if c = 'p' || c = 'P' then property start
    else
      advance 1
      match c with
      | 'd' | 's' | 'w' => return .set (letterClass flags.unicode c)
      | 'D' | 'S' | 'W' =>
        if !flags.unicode then defer .notText start (start + 2)
        return .set (.others (letterClass flags.unicode c.toLower))
      | 'a' => return .literal '\x07' false
      | 'f' => return .literal '\x0c' false
      | 't' => return .literal '\t' false
      | 'n' => return .literal '\n' false
      | 'r' => return .literal '\r' false
      | 'v' => return .literal '\x0b' false
      | 'A' => return .look .textStart
      | 'z' => return .look .textEnd
      | 'b' =>
        match ← boundaryName start with
        | some fits => return .look (.word chars fits)
        | none => return .look (.word chars (· != ·))
      | 'B' => return .look (.word chars (· == ·))
      | '<' => return .look (.word chars fun before after => !before && after)
      | '>' => return .look (.word chars fun before after => before && !after)
      | c =>
        if standsForItself c then return .literal c false
        else fail .escapeUnknown start (start + 2)

/-- The set of a literal character. -/
def literalSet (flags : Flags) (c : Char) : CharSet :=
  if flags.caseless then .caseless (.single c) else .single c

end Reader

end ExprEmit.Regex
