import ExprEmit.Regex.Escape

/-!
# Classes of characters

A class in brackets: characters, ranges, named classes and classes within, of which sets are formed by
`&&`, `--` and `~~`.
-/

namespace ExprEmit.Regex

/-- A class that is being read. -/
inductive ClassFrame where
  /-- An opened class, and what has been read of the one around it. -/
  | opened (around : CharSet) (span : Span) (negated : Bool)
  /-- The left side of an operator. -/
  | left (combine : CharSet → CharSet → CharSet) (set : CharSet)

namespace Reader

/-- The named classes. -/
def namedClass : String → Option (List (Nat × Nat))
  | "alnum" => some [(0x30, 0x39), (0x41, 0x5A), (0x61, 0x7A)]
  | "alpha" => some [(0x41, 0x5A), (0x61, 0x7A)]
  | "ascii" => some [(0, 0x7F)]
  | "blank" => some [(9, 9), (0x20, 0x20)]
  | "cntrl" => some [(0, 0x1F), (0x7F, 0x7F)]
  | "digit" => some [(0x30, 0x39)]
  | "graph" => some [(0x21, 0x7E)]
  | "lower" => some [(0x61, 0x7A)]
  | "print" => some [(0x20, 0x7E)]
  | "punct" => some [(0x21, 0x2F), (0x3A, 0x40), (0x5B, 0x60), (0x7B, 0x7E)]
  | "space" => some [(9, 13), (0x20, 0x20)]
  | "upper" => some [(0x41, 0x5A)]
  | "word" => some [(0x30, 0x39), (0x41, 0x5A), (0x5F, 0x5F), (0x61, 0x7A)]
  | "xdigit" => some [(0x30, 0x39), (0x41, 0x46), (0x61, 0x66)]
  | _ => none

/-- The named class that a text starts with, such as `[:alpha:]`, and its length. -/
def namedClassAt : List Char → Option (CharSet × Nat)
  | '[' :: ':' :: rest =>
    let (negated, rest) := match rest with
      | '^' :: more => (true, more)
      | _ => (false, rest)
    let name := rest.takeWhile (· != ':')
    match rest.dropWhile (· != ':'), namedClass (String.ofList name) with
    | ':' :: ']' :: _, some rs =>
      let set := CharSet.ranges rs
      some (if negated then .others set else set, name.length + 4 + if negated then 1 else 0)
    | _, _ => none
  | _ => none

/-- Fails because the innermost opened class does not end. -/
def failUnclosed {α : Type} : List ClassFrame → Reader α
  | .opened _ span _ :: _ => fail .classUnclosed span.start span.stop
  | _ :: frames => failUnclosed frames
  | [] => do fail .classUnclosed (← offset) (← offset)

/-- The class with the operator that waits for its right side. -/
def closeOperator (set : CharSet) : List ClassFrame → CharSet × List ClassFrame
  | .left combine l :: frames => (combine l set, frames)
  | frames => (set, frames)

/-- Reads hyphens at the start of a class, at most `fuel` of them; each is a character.  `start` is where
the class starts. -/
def leadingHyphens (start : Nat) : (fuel : Nat) → Reader Bool
  | 0 => return false
  | fuel + 1 => do
    match ← peek with
    | some '-' =>
      advanceSkip
      if ← atEnd then fail .classUnclosed start start
      let _ ← leadingHyphens start fuel
      return true
    | _ => return false

/-- Opens a class: its frame, and the characters that stand at its start for themselves. -/
def openClass (around : CharSet) : Reader (ClassFrame × CharSet) := do
  let start ← offset
  advanceSkip
  if ← atEnd then fail .classUnclosed start (← offset)
  let negated := (← peek) = some '^'
  if negated then
    advanceSkip
    if ← atEnd then fail .classUnclosed start (← offset)
  let hyphens ← leadingHyphens start (← get).rest.length
  let bracket := !hyphens && (← peek) = some ']'
  if bracket then
    advanceSkip
    if ← atEnd then fail .classUnclosed start (← offset)
  return (.opened around ⟨start, ← offset⟩ negated,
    if hyphens then .single '-' else if bracket then .single ']' else .none)

/-- Reads a character or an escape of a class, and where it stands. -/
def classAtom : Reader (Atom × Span) := do
  let start ← offset
  match ← peek with
  | some '\\' =>
    let atom ← escape
    return (atom, ⟨start, ← offset⟩)
  | some c =>
    advance 1
    return (.literal c false, ⟨start, start + 1⟩)
  | none => fail .classUnclosed start start

/-- The set of an atom of a class. -/
def setOf : Atom × Span → Reader CharSet
  | (.literal c _, _) => return .single c
  | (.set s, _) => return s
  | (.look _, span) => fail .classEscapeInvalid span.start span.stop

/-- The character of an atom at an end of a range. -/
def boundOf : Atom × Span → Reader Char
  | (.literal c _, _) => return c
  | (_, span) => fail .classRangeNoLiteral span.start span.stop

/-- Reads an item of a class: a character, an escape or a range. -/
def classItem (frames : List ClassFrame) : Reader CharSet := do
  let first ← classAtom
  skip
  if ← atEnd then failUnclosed frames
  let s ← get
  let behind := s.rest.drop 1
  let behind := if s.flags.verbose then behind.drop (meaningless false behind) else behind
  if s.rest.head? != some '-' || behind.head? = some ']' || behind.head? = some '-' then setOf first
  else
    advanceSkip
    if ← atEnd then failUnclosed frames
    let second ← classAtom
    let low ← boundOf first
    let high ← boundOf second
    if high < low then fail .classRangeInvalid first.2.start second.2.stop
    else return .ranges [(low.toNat, high.toNat)]

/-- The operator that a text starts with. -/
def operatorAt : List Char → Option (CharSet → CharSet → CharSet)
  | '&' :: '&' :: _ => some .common
  | '-' :: '-' :: _ => some .without
  | '~' :: '~' :: _ => some .either
  | _ => none

/-- A class by what stands in its brackets. -/
def bracketed (flags : Flags) (negated : Bool) (set : CharSet) : CharSet :=
  let set := if flags.caseless then .caseless set else set
  if negated then .others set else set

/-- Reads a class on, when `set` has been read of the innermost one. -/
def classOn : (fuel : Nat) → List ClassFrame → (set : CharSet) → Reader CharSet
  | 0, frames, _ => failUnclosed frames
  | fuel + 1, frames, set => do
    skip
    let s ← get
    match s.rest with
    | [] => failUnclosed frames
    | '[' :: _ =>
      match namedClassAt s.rest with
      | some (named, size) =>
        advance size
        classOn fuel frames (.union set named)
      | none =>
        let (frame, start) ← openClass set
        classOn fuel (frame :: frames) start
    | ']' :: _ =>
      match closeOperator set frames with
      | (set, .opened around span negated :: frames) =>
        advance 1
        if negated && !s.flags.unicode then defer .notText span.start (← offset)
        let whole := bracketed s.flags negated set
        if frames.isEmpty then return whole
        else classOn fuel frames (.union around whole)
      | _ => failUnclosed frames
    | rest =>
      match operatorAt rest with
      | some combine =>
        advance 2
        let (set, frames) := closeOperator set frames
        classOn fuel (.left combine set :: frames) .none
      | none =>
        let item ← classItem frames
        classOn fuel frames (.union set item)

/-- Reads a class from its opening bracket on. -/
def charClass : Reader CharSet := do
  let (frame, start) ← openClass .none
  classOn ((← get).rest.length + 1) [frame] start

end Reader

end ExprEmit.Regex
