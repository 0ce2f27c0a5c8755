import ExprEmit.Regex.Class

/-!
# Texts of regular expressions

`Regex.ofString` reads a regular expression: alternatives of sequences of characters, classes, escapes
and groups, which may be repeated.
-/

namespace ExprEmit.Regex

/-- A part of a sequence: an expression, or flags, which cannot be repeated. -/
inductive Piece where
  | expr (r : Regex)
  | flags

/-- A group that has been opened: what stands before it, where it starts, and the flags there. -/
structure Level where
  pieces : List Piece
  branches : List Regex
  span : Span
  flags : Flags

namespace Reader

/-- The sequence of pieces, which are given last first. -/
def sequence (pieces : List Piece) : Regex :=
  pieces.foldl (fun r p => match p with
    | .expr q => match r with
      | .empty => q
      | r => .cat q r
    | .flags => r) .empty

/-- The alternatives of some branches, which are given last first, and a last one. -/
def choice (branches : List Regex) (last : Regex) : Regex := branches.foldl (fun r b => .alt b r) last

/-! ### Repetition -/

/-- Takes the piece that is repeated, and fails at the operator if there is none. -/
def repeated : List Piece → Reader (Regex × List Piece)
  | .expr r :: pieces => return (r, pieces)
  | _ => do fail .nothingToRepeat (← offset) (← offset)

/-- Moves over the mark that makes a repetition reluctant, which makes no difference here. -/
def reluctant : Reader PUnit := do
  if (← peek) = some '?' then advance 1

/-- Reads a count from its opening brace on: the least and the most. -/
def count : Reader (Nat × Option Nat) := do
  let start ← offset
  let unclosed {α : Type} : Reader α := do fail .countUnclosed start (← offset)
  advanceSkip
  if ← atEnd then unclosed
  -- a missing number is a fault only if the brace closes
  let before ← get
  let least : Except Fault Nat × Reading := match decimal.run before with
    | .ok (n, after) => (.ok n, after)
    | .error f => (.error f, afterDecimal before)
  set least.2
  if ← atEnd then unclosed
  let range ← if (← peek) = some ',' then do
      advanceSkip
      if ← atEnd then unclosed
      if (← peek) = some '\x7d' then pure (← ofExcept least.1, none)
      else
        let low ← ofExcept least.1
        pure (low, some (← decimal))
    else
      let n ← ofExcept least.1
      pure (n, some n)
  if (← peek) != some '\x7d' then unclosed
  advanceSkip
  reluctant
  match range with
  | (low, some high) =>
    if high < low then fail .countInvalid start (← offset)
    else return range
  | _ => return range
where
  /-- Where reading stands behind a number that is a fault. -/
  afterDecimal (s : Reading) : Reading :=
    match (do
      let _ ← collect (advance 1) Text.isBlank
      let _ ← collect advanceSkip Char.isDigit
      let _ ← collect advanceSkip Text.isBlank : Reader PUnit).run s with
    | .ok (_, after) => after
    | .error _ => s
  /-- A value, or the fault in its place. -/
  ofExcept {α : Type} (x : Except Fault α) : Reader α := liftM x

/-! ### Groups -/

/-- Whether the character may stand in the name of a group. -/
def isGroupName (first : Bool) (c : Char) : Bool :=
  let letter := if c.toNat < 0x80 then c.isAlpha else CharSet.word.holds c.toNat
  c == '_' || letter || (!first && (c == '.' || c == '[' || c == ']' || c.isDigit))

/-- Reads the name of a group up to the `>` behind it. -/
def groupName : Reader PUnit := do
  let start ← offset
  if ← atEnd then fail .nameUnfinished start start
  let first := (← get).rest.head?.toList.filter (isGroupName true)
  let name ← if first.isEmpty then pure [] else collect (advance 1) (isGroupName false)
  let stop ← offset
  match ← peek with
  | none => fail .nameUnfinished stop stop
  | some '>' =>
    advance 1
    if name.isEmpty then fail .nameEmpty start start
    let key := String.ofList name
    match (← get).names.lookup key with
    | some earlier => throw ⟨.nameTwice, ⟨start, stop⟩, some earlier⟩
    | none => modify fun s => { s with names := (key, ⟨start, stop⟩) :: s.names }
  | some _ => fail .nameInvalid stop (stop + 1)

/-- Reads what opens a group; the answer tells whether a group is open, or only flags were set. -/
def groupStart : Reader Bool := do
  let start ← offset
  advanceSkip
  let lookAround ← (["?=", "?!", "?<=", "?<!"].findM? accept)
  if lookAround.isSome then fail .lookAround start (← offset)
  let inner ← offset
  if (← accept "?P<") || (← accept "?<") then
    groupName
    return true
  else if ← accept "?" then
    if ← atEnd then fail .groupUnclosed start (start + 1)
    let items ← flagItems
    let closing := (← peek) = some ')'
    advance 1
    if closing && items.isEmpty then fail .nothingToRepeat inner inner
    modify fun s => { s with flags := setFlags true items s.flags }
    return !closing
  else return true

/-! ### Expressions -/

/-- The expression of an atom. -/
def exprOf (start : Nat) : Atom → Reader Regex
  | .literal c isByte => do
    let flags := (← get).flags
    if !flags.unicode && 0x7F < c.toNat then
      if isByte then defer .notText start (← offset)
      else if flags.caseless then defer .notUnicode start (← offset)
    return .chars (literalSet flags c)
  | .set s => return .chars s
  | .look l => return .look l

/-- What `.` stands for. -/
def anyChar (flags : Flags) : CharSet :=
  if flags.dotAll then .others .none
  else if flags.crlf then .others (.ranges [(10, 10), (13, 13)])
  else .others (.single '\n')

/-- Reads an expression that is no group: a class, an escape, or a character. -/
def single (c : Char) : Reader Regex := do
  let start ← offset
  let flags := (← get).flags
  match c with
  | '[' => return .chars (← charClass)
  | '\\' => exprOf start (← escape)
  | '.' =>
    advance 1
    if !flags.unicode then defer .notText start (start + 1)
    return .chars (anyChar flags)
  | '^' =>
    advance 1
    return .look (if !flags.multiline then .textStart else if flags.crlf then .lineStartAny
      else .lineStart)
  | '$' =>
    advance 1
    return .look (if !flags.multiline then .textEnd else if flags.crlf then .lineEndAny
      else .lineEnd)
  | c =>
    advance 1
    exprOf start (.literal c false)

/-- How often an operator of one character repeats: the least and the most. -/
def operator? : Char → Option (Nat × Option Nat)
  | '?' => some (0, some 1)
  | '*' => some (0, none)
  | '+' => some (1, none)
  | _ => none

/-- Reads an expression on: `levels` are the open groups, `branches` and `pieces` what has been read of
the innermost one, last first. -/
def exprOn : (fuel : Nat) → List Level → (branches : List Regex) → (pieces : List Piece) → Reader Regex
  | 0, _, branches, pieces => return choice branches (sequence pieces)
  | fuel + 1, levels, branches, pieces => do
    skip
    match ← peek with
    | none =>
      match levels with
      | [] => return choice branches (sequence pieces)
      | level :: _ => fail .groupUnclosed level.span.start level.span.stop
    | some '(' =>
      let start ← offset
      let flags := (← get).flags
      if ← groupStart then exprOn fuel (⟨pieces, branches, ⟨start, start + 1⟩, flags⟩ :: levels) [] []
      else exprOn fuel levels branches (.flags :: pieces)
    | some ')' =>
      match levels with
      | [] => fail .groupUnopened (← offset) ((← offset) + 1)
      | level :: levels =>
        advance 1
        modify fun s => { s with flags := level.flags }
        exprOn fuel levels level.branches (.expr (choice branches (sequence pieces)) :: level.pieces)
    | some '|' =>
      advance 1
      exprOn fuel levels (sequence pieces :: branches) []
    | some '\x7b' =>
      let (r, pieces) ← repeated pieces
      let (least, most) ← count
      exprOn fuel levels branches (.expr (.times r least most) :: pieces)
    | some c =>
      match operator? c with
      | some (least, most) =>
        let (r, pieces) ← repeated pieces
        advance 1
        reluctant
        exprOn fuel levels branches (.expr (.times r least most) :: pieces)
      | none =>
        let r ← single c
        exprOn fuel levels branches (.expr r :: pieces)

end Reader

/-- Reads a regular expression. -/
def ofString (s : String) : Except Fault Regex := do
  let chars := s.toList
  let (r, after) ← (Reader.exprOn (chars.length + 1) [] [] []).run ⟨chars, 0, .initial, [], none⟩
  match after.deferred with
  | some f => throw f
  | none => return r

end ExprEmit.Regex
