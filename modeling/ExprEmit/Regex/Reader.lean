import ExprEmit.Regex.Basic
import ExprEmit.Regex.Fault

/-!
# Reading of regular expressions

The state of reading, and what is shared by the readers: moving over the text, numbers, and flags.  In
verbose texts blanks and comments between the parts have no meaning.
-/

namespace ExprEmit.Regex

/-- How a part of a text is to be understood. -/
structure Flags where
  /-- Letters stand for all their cases. -/
  caseless : Bool
  /-- `^` and `$` stand for the ends of lines. -/
  multiline : Bool
  /-- `.` stands for line breaks too. -/
  dotAll : Bool
  /-- Classes and word boundaries go beyond U+007F. -/
  unicode : Bool
  /-- A carriage return ends lines too. -/
  crlf : Bool
  /-- Blanks and comments have no meaning. -/
  verbose : Bool
deriving DecidableEq, Inhabited

/-- How a text is understood at first. -/
def Flags.initial : Flags := ⟨false, false, false, true, false, false⟩

/-- Where reading stands. -/
structure Reading where
  rest : List Char
  /-- The number of characters before the rest. -/
  offset : Nat
  flags : Flags
  /-- The names of groups so far, and where they stand. -/
  names : List (String × Span)
  /-- The first fault that matters only if the text is well formed. -/
  deferred : Option Fault
deriving Inhabited

/-- Reads a part of a text. -/
abbrev Reader : Type → Type := StateT Reading (Except Fault)

namespace Reader

/-! ### Moving -/

/-- Fails for the cause, about a stretch of the text. -/
def fail {α : Type} (cause : Cause) (start stop : Nat) : Reader α :=
  throw ⟨cause, ⟨start, stop⟩, none⟩

/-- The next character. -/
def peek : Reader (Option Char) := return (← get).rest.head?

/-- The number of characters read. -/
def offset : Reader Nat := return (← get).offset

/-- Moves over `n` characters. -/
def advance (n : Nat) : Reader PUnit :=
  modify fun s => { s with rest := s.rest.drop n, offset := s.offset + n }

/-- How many characters at the start of a verbose text have no meaning; `comment` tells whether it starts
within a comment. -/
def meaningless (comment : Bool) : List Char → Nat
  | [] => 0
  | c :: rest =>
    if comment then meaningless (c != '\n') rest + 1
    else if c = '#' then meaningless true rest + 1
    else if Text.isBlank c then meaningless false rest + 1
    else 0

/-- Moves over characters without meaning. -/
def skip : Reader PUnit := do
  let s ← get
  if s.flags.verbose then advance (meaningless false s.rest)

/-- Whether the text has ended. -/
def atEnd : Reader Bool := return (← get).rest.isEmpty

/-- Moves over a character and what has no meaning behind it. -/
def advanceSkip : Reader PUnit := do
  advance 1
  skip

/-- Moves over the characters `expected`, if they come next. -/
def accept (expected : String) : Reader Bool := do
  if expected.toList.isPrefixOf (← get).rest then
    advance expected.length
    return true
  else return false

/-- Collects characters as long as they meet `p`, at most `fuel` of them, moving by `move`. -/
def collectUpTo (move : Reader PUnit) (p : Char → Bool) : (fuel : Nat) → Reader (List Char)
  | 0 => return []
  | fuel + 1 => do
    match ← peek with
    | none => return []
    | some c =>
      if p c then
        move
        return c :: (← collectUpTo move p fuel)
      else return []

/-- Collects characters as long as they meet `p`, moving by `move`. -/
def collect (move : Reader PUnit) (p : Char → Bool) : Reader (List Char) := do
  collectUpTo move p (← get).rest.length

/-- Notes a fault that matters only if the text is well formed. -/
def defer (cause : Cause) (start stop : Nat) : Reader PUnit :=
  modify fun s => { s with deferred := s.deferred.or (some ⟨cause, ⟨start, stop⟩, none⟩) }

/-! ### Numbers -/

/-- The number that decimal digits stand for. -/
def decimalValue (digits : List Char) : Nat :=
  digits.foldl (fun n c => 10 * n + (c.toNat - '0'.toNat)) 0

/-- Reads a number of at most 32 bits, with blanks around it. -/
def decimal : Reader Nat := do
  let _ ← collect (advance 1) Text.isBlank
  let start ← offset
  let digits ← collect advanceSkip Char.isDigit
  let stop ← offset
  let _ ← collect advanceSkip Text.isBlank
  if digits.isEmpty then fail .countEmpty start stop
  else if UInt32.size ≤ decimalValue digits then fail .numberTooLarge start stop
  else return decimalValue digits

/-- Whether the character is a hexadecimal digit. -/
def isHex (c : Char) : Bool :=
  c.isDigit || ('a' ≤ c && c ≤ 'f') || ('A' ≤ c && c ≤ 'F')

/-- The number that a hexadecimal digit stands for. -/
def hexDigitValue (c : Char) : Nat :=
  if c.isDigit then c.toNat - '0'.toNat else c.toLower.toNat - 'a'.toNat + 10

/-- The character that hexadecimal digits stand for. -/
def hexChar? (digits : List Char) : Option Char :=
  let n := digits.foldl (fun n c => 16 * n + hexDigitValue c) 0
  if n.isValidChar then some (Char.ofNat n) else none

/-! ### Flags -/

/-- A part of a list of flags. -/
inductive FlagItem where
  | negation
  | flag (letter : Char)
deriving DecidableEq, Inhabited

/-- The letters of flags. -/
def flagLetters : List Char := ['i', 'm', 's', 'U', 'u', 'R', 'x']

/-- Sets the flag of a letter. -/
def setFlag (letter : Char) (on : Bool) (f : Flags) : Flags :=
  match letter with
  | 'i' => { f with caseless := on }
  | 'm' => { f with multiline := on }
  | 's' => { f with dotAll := on }
  | 'u' => { f with unicode := on }
  | 'R' => { f with crlf := on }
  | 'x' => { f with verbose := on }
  | _ => f

/-- Sets the flags of a list; those behind the negation are cleared. -/
def setFlags (on : Bool) : List FlagItem → Flags → Flags
  | [], f => f
  | .negation :: rest, f => setFlags false rest f
  | .flag letter :: rest, f => setFlags on rest (setFlag letter on f)

/-- Reads flags up to the `:` or `)` behind them, which is not read.  `seen` holds those so far with
their places. -/
def flagItemsUpTo : (fuel : Nat) → (seen : List (FlagItem × Nat)) → Reader (List FlagItem)
  | 0, seen => return seen.map (·.1)
  | fuel + 1, seen => do
    match ← peek with
    | none => fail .flagsUnfinished (← offset) (← offset)
    | some c =>
      let here ← offset
      if c = ':' || c = ')' then
        match seen.getLast? with
        | some (.negation, place) => fail .negationDangling place (place + 1)
        | _ => return seen.map (·.1)
      else
        let item ← if c = '-' then pure FlagItem.negation
          else if flagLetters.contains c then pure (FlagItem.flag c)
          else fail .flagUnknown here (here + 1)
        match seen.lookup item with
        | some earlier =>
          throw ⟨if c = '-' then .negationTwice else .flagTwice, ⟨here, here + 1⟩,
            some ⟨earlier, earlier + 1⟩⟩
        | none =>
          advance 1
          flagItemsUpTo fuel (seen ++ [(item, here)])

/-- Reads flags up to the `:` or `)` behind them. -/
def flagItems : Reader (List FlagItem) := do
  flagItemsUpTo ((← get).rest.length + 1) []

end Reader

end ExprEmit.Regex
