/-!
# C++ tokens

How a C++ text falls into tokens: words, preprocessing numbers, quoted literals and symbols.  From
the left, `lex` skips blanks and takes the longest token that the text starts with (`munch`), over
and over; a character that starts no token stands for itself.

Which characters beyond ASCII belong to words has changed with the editions of the standard.  An
`Alphabet` says which, and everything here is stated for all of them.
-/

namespace ExprEmit

/-! ### Characters -/

/-- The characters beyond ASCII that a word may contain. -/
structure Alphabet where
  /-- The ones it may start with. -/
  letter : Char → Bool
  /-- The ones it may go on with besides. -/
  mark : Char → Bool

namespace Alphabet

/-- Words of ASCII characters only. -/
def ascii : Alphabet := ⟨fun _ => false, fun _ => false⟩

/-- Whether a word may start with `c`. -/
def startsWord (A : Alphabet) (c : Char) : Bool :=
  c.isAlpha || c == '_' || (127 < c.toNat && A.letter c)

/-- Whether a word may go on with `c`. -/
def continuesWord (A : Alphabet) (c : Char) : Bool :=
  A.startsWord c || c.isDigit || (127 < c.toNat && A.mark c)

end Alphabet

/-- The blanks between tokens. -/
def blanks : List Char := [' ', '\t', '\n', '\r', '\x0b', '\x0c']

/-- What ends a line, and with it a quoted literal that is not closed. -/
def isLineBreak (c : Char) : Bool := c == '\n' || c == '\r'

/-! ### Tokens -/

/-- The sort of a token. -/
inductive TokenKind where
  | word | number | quoted | symbol
  /-- A character that starts no token. -/
  | stray
deriving DecidableEq, Inhabited

/-- A token as it is written. -/
structure Token where
  kind : TokenKind
  chars : List Char
deriving DecidableEq, Inhabited

namespace Token

/-- The word `s`. -/
def word (s : String) : Token := ⟨.word, s.toList⟩

/-- The quoted literal `s`, with its quotes. -/
def quoted (s : String) : Token := ⟨.quoted, s.toList⟩

/-- The symbol `s`. -/
def symbol (s : String) : Token := ⟨.symbol, s.toList⟩

/-- The text of a symbol. -/
def symbol? (t : Token) : Option String :=
  if t.kind = .symbol then some (String.ofList t.chars) else none

theorem symbol?_symbol (s : String) : (symbol s).symbol? = some s := by
  simp [symbol?, symbol]

/-- Whether the token can stand for a value by itself. -/
def isOperand (t : Token) : Bool := t.kind == .word || t.kind == .number || t.kind == .quoted

end Token

/-- The operators and punctuators of C++, longest first.  The two marks that open a comment are
among them, so that a text in which none of them is a token has no comments. -/
def symbols : List (List Char) :=
  ["%:%:",
   "<=>", "<<=", ">>=", "->*", "...",
   "<:", ":>", "<%", "%>", "%:", "::", ".*", "->", "+=", "-=", "*=", "/=", "%=", "^=", "&=", "|=",
   "==", "!=", "<=", ">=", "&&", "||", "<<", ">>", "++", "--", "##", "//", "/*",
   "\x7b", "\x7d", "[", "]", "(", ")", ";", ":", "?", ".", "~", "!", "+", "-", "*", "/", "%", "^",
   "&", "|", "=", "<", ">", ",", "#"].map String.toList

/-! ### Longest match -/

/-- Whether a number starts with `c`, in front of `rest`. -/
def startsNumber (c : Char) (rest : List Char) : Bool :=
  c.isDigit || (c == '.' && rest.head?.any Char.isDigit)

/-- How a number goes on: by digits, letters and points, by a sign behind the letter of an exponent,
and by an apostrophe between two digits or letters. -/
def numberTail (A : Alphabet) : List Char → List Char
  | [] => []
  | [c] => if A.continuesWord c || c == '.' then [c] else []
  | c :: d :: rest =>
    if (c == 'e' || c == 'E' || c == 'p' || c == 'P') && (d == '+' || d == '-') then
      c :: d :: numberTail A rest
    else if A.continuesWord c || c == '.' || (c == '\'' && A.continuesWord d) then
      c :: numberTail A (d :: rest)
    else []

/-- How a literal goes on behind its opening quote `q`, up to the closing one. -/
def quotedTail (q : Char) : List Char → Option (List Char)
  | [] => none
  | ['\\'] => none
  | '\\' :: c :: rest => if isLineBreak c then none else (quotedTail q rest).map ('\\' :: c :: ·)
  | c :: rest =>
    if c = q then some [q] else if isLineBreak c then none else (quotedTail q rest).map (c :: ·)

/-- The longest token of the text `c :: rest`. -/
def munch (A : Alphabet) (c : Char) (rest : List Char) : Token :=
  if A.startsWord c then ⟨.word, c :: rest.takeWhile A.continuesWord⟩
  else if startsNumber c rest then ⟨.number, c :: numberTail A rest⟩
  else if c = '"' ∨ c = '\'' then
    match quotedTail c rest with
    | some tail => ⟨.quoted, c :: tail⟩
    | none => ⟨.stray, [c]⟩
  else
    match symbols.find? (·.isPrefixOf (c :: rest)) with
    | some s => ⟨.symbol, s⟩
    | none => ⟨.stray, [c]⟩

/-- The tokens of a text behind the next `skip` characters. -/
def lexFrom (A : Alphabet) : (skip : Nat) → List Char → List Token
  | _, [] => []
  | skip + 1, _ :: rest => lexFrom A skip rest
  | 0, c :: rest =>
    if c ∈ blanks then lexFrom A 0 rest
    else munch A c rest :: lexFrom A ((munch A c rest).chars.length - 1) rest

/-- The tokens of a list of characters. -/
def lex (A : Alphabet) (text : List Char) : List Token := lexFrom A 0 text

/-- The tokens of a text. -/
def Alphabet.tokens (A : Alphabet) (text : String) : List Token := lex A text.toList

end ExprEmit
