import ExprEmit.Json.Reader

/-!
# Strings of a JSON text

Reading a string after its opening quotation mark: `text` decodes it, and `skipText` only passes over
it, without minding how surrogates pair up.
-/

namespace ExprEmit.Json

/-! ### Escapes -/

/-- The value of a hexadecimal digit. -/
def hexDigit? (c : Char) : Option Nat :=
  if '0' ≤ c ∧ c ≤ '9' then some (c.toNat - '0'.toNat)
  else if 'a' ≤ c ∧ c ≤ 'f' then some (c.toNat - 'a'.toNat + 10)
  else if 'A' ≤ c ∧ c ≤ 'F' then some (c.toNat - 'A'.toNat + 10)
  else none

/-- The value of four hexadecimal digits. -/
def hexUnit? (a b c d : Char) : Option Nat := do
  let a ← hexDigit? a
  let b ← hexDigit? b
  let c ← hexDigit? c
  let d ← hexDigit? d
  return ((a * 16 + b) * 16 + c) * 16 + d

/-- The fault of a code unit that is not four hexadecimal digits: four bytes are taken, if the text
has as many. -/
def unitFault (s : List Char) : Fault :=
  if byteCount s < 4 then .atEnd .endOfString else ⟨.invalidEscape, some (byteCount s - 4)⟩

/-- Reads a code unit of four hexadecimal digits. -/
def codeUnit : List Char → Except Fault (Nat × List Char)
  | a :: b :: c :: d :: rest =>
    match hexUnit? a b c d with
    | some n => .ok (n, rest)
    | none => .error (unitFault (a :: b :: c :: d :: rest))
  | s => .error (unitFault s)

/-- Whether a code unit is the first of a surrogate pair. -/
def isHighSurrogate (n : Nat) : Bool := 0xD800 ≤ n && n ≤ 0xDBFF

/-- Whether a code unit is the second of a surrogate pair. -/
def isLowSurrogate (n : Nat) : Bool := 0xDC00 ≤ n && n ≤ 0xDFFF

/-- The character of a surrogate pair. -/
def joinSurrogates (high low : Nat) : Char :=
  Char.ofNat (0x10000 + (high - 0xD800) * 0x400 + (low - 0xDC00))

/-- Reads the second half of a surrogate pair and makes the character. -/
def lowSurrogate (high : Nat) : List Char → Except Fault (Char × List Char)
  | '\\' :: 'u' :: rest =>
    match codeUnit rest with
    | .error f => .error f
    | .ok (low, rest) =>
      if isLowSurrogate low then .ok (joinSurrogates high low, rest)
      else .error (.before .loneSurrogate rest)
  | '\\' :: c :: rest => .error (.within .unfinishedSurrogate (c :: rest))
  | ['\\'] => .error (.atEnd .endOfString)
  | c :: rest => .error (.within .unfinishedSurrogate (c :: rest))
  | [] => .error (.atEnd .endOfString)

/-- Reads an escape by code units, after its `\u`. -/
def unicodeEscape (s : List Char) : Except Fault (Char × List Char) :=
  match codeUnit s with
  | .error f => .error f
  | .ok (n, rest) =>
    if isLowSurrogate n then .error (.before .loneSurrogate rest)
    else if isHighSurrogate n then lowSurrogate n rest
    else .ok (Char.ofNat n, rest)

/-- The character of an escape by one letter. -/
def shortEscape? : Char → Option Char
  | '"' => some '"'
  | '\\' => some '\\'
  | '/' => some '/'
  | 'b' => some '\x08'
  | 'f' => some '\x0c'
  | 'n' => some '\n'
  | 'r' => some '\r'
  | 't' => some '\t'
  | _ => none

/-- Reads an escape after its backslash. -/
def escape : List Char → Except Fault (Char × List Char)
  | [] => .error (.atEnd .endOfString)
  | c :: rest =>
    match shortEscape? c with
    | some d => .ok (d, rest)
    | none => if c = 'u' then unicodeEscape rest else .error (.within .invalidEscape (c :: rest))

/-- Passes over an escape after its backslash. -/
def skipEscape : List Char → Except Fault (List Char)
  | [] => .error (.atEnd .endOfString)
  | c :: rest =>
    match shortEscape? c with
    | some _ => .ok rest
    | none =>
      if c = 'u' then (codeUnit rest).map Prod.snd
      else .error (.within .invalidEscape (c :: rest))

/-! ### An escape takes characters -/

theorem codeUnit_length {s rest : List Char} {n : Nat} (h : codeUnit s = .ok (n, rest)) :
    rest.length < s.length := by
  unfold codeUnit at h
  split at h
  · split at h
    · simp only [Except.ok.injEq, Prod.mk.injEq] at h
      simp only [← h.2, List.length_cons]
      omega
    · simp at h
  · simp at h

theorem lowSurrogate_length {high : Nat} {s rest : List Char} {c : Char}
    (h : lowSurrogate high s = .ok (c, rest)) : rest.length < s.length := by
  unfold lowSurrogate at h
  split at h
  · rename_i t
    split at h
    · simp at h
    · rename_i low t' ht
      split at h
      · simp only [Except.ok.injEq, Prod.mk.injEq] at h
        have := codeUnit_length ht
        simp only [← h.2, List.length_cons]
        omega
      · simp at h
  all_goals simp at h

theorem unicodeEscape_length {s rest : List Char} {c : Char}
    (h : unicodeEscape s = .ok (c, rest)) : rest.length < s.length := by
  unfold unicodeEscape at h
  split at h
  · simp at h
  · rename_i n t ht
    have := codeUnit_length ht
    split at h
    · simp at h
    · split at h
      · exact Nat.lt_trans (lowSurrogate_length h) this
      · simp only [Except.ok.injEq, Prod.mk.injEq] at h
        simpa only [← h.2] using this

/-- Reading an escape leaves a shorter text. -/
theorem escape_length {s rest : List Char} {c : Char} (h : escape s = .ok (c, rest)) :
    rest.length < s.length := by
  unfold escape at h
  split at h
  · simp at h
  · split at h
    · simp only [Except.ok.injEq, Prod.mk.injEq] at h
      simp [← h.2]
    · split at h
      · have := unicodeEscape_length h
        simp only [List.length_cons]
        omega
      · simp at h

/-- Passing over an escape leaves a shorter text. -/
theorem skipEscape_length {s rest : List Char} (h : skipEscape s = .ok rest) :
    rest.length < s.length := by
  unfold skipEscape at h
  split at h
  · simp at h
  · split at h
    · simp only [Except.ok.injEq] at h
      simp [← h]
    · split at h
      · rename_i t _ _ _
        cases hu : codeUnit t with
        | error f => simp [hu, Except.map] at h
        | ok p =>
          have : p.2.length < _ := codeUnit_length hu
          simp only [hu, Except.map, Except.ok.injEq] at h
          simp only [← h, List.length_cons]
          omega
      · simp at h

/-! ### Strings -/

/-- Whether the character cannot stand in a string. -/
def isControl (c : Char) : Bool := c.toNat < 0x20

/-- Reads a string after its opening quotation mark. -/
def text (s : List Char) : Except Fault (List Char × List Char) :=
  match s with
  | [] => .error (.atEnd .endOfString)
  | c :: rest =>
    if c = '"' then .ok ([], rest)
    else if c = '\\' then
      match h : escape rest with
      | .error f => .error f
      | .ok (d, after) =>
        have := escape_length h
        match text after with
        | .error f => .error f
        | .ok (ds, left) => .ok (d :: ds, left)
    else if isControl c then .error (.within .controlCharacter (c :: rest))
    else
      match text rest with
      | .error f => .error f
      | .ok (ds, left) => .ok (c :: ds, left)
termination_by s.length

/-- Passes over a string after its opening quotation mark. -/
def skipText (s : List Char) : Except Fault (PUnit × List Char) :=
  match s with
  | [] => .error (.atEnd .endOfString)
  | c :: rest =>
    if c = '"' then .ok (⟨⟩, rest)
    else if c = '\\' then
      match h : skipEscape rest with
      | .error f => .error f
      | .ok after =>
        have := skipEscape_length h
        skipText after
    else if isControl c then .error (.before .controlCharacter (c :: rest))
    else skipText rest
termination_by s.length

/-- Reads a string of which only the opening quotation mark has been seen. -/
def Reader.text : Reader String := do
  advance
  return String.ofList (← ofStep Json.text)

/-- Passes over a string of which only the opening quotation mark has been seen. -/
def Reader.skipText : Reader PUnit := do
  advance
  ofStep Json.skipText

end ExprEmit.Json
