import ExprEmit.Proofs.Expr.Leading
import ExprEmit.Proofs.Type.Tokens

/-!
# Adjacent tokens never merge

The text of an expression falls, by longest match, into the tokens of what is written piece by piece
(`Expr.stayApart_writes`): no two neighbouring pieces run together into a longer token.

`StayApart A P ws` says this of a list of writes before any text that starts with a character of
`P`.  Only two places need more than the blanks and brackets between the pieces.  In front of an
operator that follows its operand stands a word, a quote, a parenthesis or another such operator
(`Expr.Ends`), and behind an operator in front of its operand stands a blank wherever the first
character of the operand would extend it (`Expr.isExtendedBy_symbol`, `Expr.startsAs_writes`).
-/

namespace ExprEmit

variable {A : Alphabet}

/-! ### The writes of an expression -/

/-- The tokens of a write: those of its pieces, where the three of a string literal count as one. -/
def Write.tokens (A : Alphabet) : Write → List Token
  | piece s => A.tokens s
  | quotation v => A.tokens ("\"" ++ v ++ "\"")
  | castTo t => (castTo t).pieces.flatMap A.tokens

/-- The writes `ws` fall into their own tokens before everything that starts with a character of
`P`. -/
def StayApart (A : Alphabet) (P : Char → Prop) (ws : List Write) : Prop :=
  LexesAs A P (ws.flatMap Write.chars) (ws.flatMap (Write.tokens A))

namespace StayApart

variable {P Q : Char → Prop} {ws vs : List Write}

theorem append (hs : StayApart A P ws) (ht : StayApart A Q vs)
    (h : ∀ rest, Follows Q rest → Follows P (vs.flatMap Write.chars ++ rest)) :
    StayApart A Q (ws ++ vs) := by
  rw [StayApart, List.flatMap_append, List.flatMap_append]
  exact LexesAs.append hs ht h

theorem append_any (hs : StayApart A anything ws) (ht : StayApart A Q vs) :
    StayApart A Q (ws ++ vs) :=
  hs.append ht fun _ _ _ _ => trivial

theorem mono (h : StayApart A P ws) (hPQ : ∀ c, Q c → P c) : StayApart A Q ws :=
  LexesAs.mono h hPQ

end StayApart

theorem LexesAs.stayApart {P : Char → Prop} {s : String} {ts : List Token}
    (h : LexesAs A P s.toList ts) : StayApart A P [.piece s] := by
  simpa [StayApart, Write.chars, Write.pieces, Write.tokens, Alphabet.tokens, h.lex_eq] using h

/-- A write that starts with a divider may stand behind anything that ends before dividers. -/
theorem StayApart.append_piece {P Q : Char → Prop} {ws : List Write} {s : String}
    (hs : StayApart A P ws) (ht : StayApart A Q [.piece s]) (hne : s.toList ≠ [])
    (h : Follows P s.toList) : StayApart A Q (ws ++ [.piece s]) :=
  hs.append ht fun rest _ => by
    simpa [Write.chars, Write.pieces] using h.append_left hne rest

/-! ### Fixed pieces -/

/-- A symbol between two blanks. -/
theorem lexesAs_spaced {s : String} (hs : s.toList ∈ symbols) :
    LexesAs A anything (" " ++ s ++ " ").toList [.symbol s] := by
  have hsymbol : LexesAs A (· ∈ dividers) s.toList [.symbol s] :=
    (lexesAs_symbol hs).mono (isExtendedBy_divider hs)
  have := lexesAs_blank.append_any (hsymbol.append_of_ne_nil lexesAs_blank (by simp)
    ((follows_cons _ _ _).mpr (by decide)))
  simpa [String.toList_append] using this

/-- The separator of a binary operator is the token of the operator. -/
theorem lexesAs_separator (op : BinaryOp) :
    LexesAs A anything op.separator.toList [.symbol op.symbol] := by
  cases op
  case comma => exact lexesAs_comma
  all_goals exact lexesAs_spaced (by decide)

theorem separator_start (op : BinaryOp) :
    op.separator.toList ≠ [] ∧ Follows (· ∈ dividers) op.separator.toList := by
  cases op <;> exact ⟨by decide, (follows_cons _ _ _).mpr (by decide)⟩

/-! ### Literals -/

/-- The texts that a literal may have: a quoted literal, or a word or a number, which may stand
behind a minus. -/
inductive IsLiteral (A : Alphabet) : List Char → Prop where
  | quoted {q : Char} {body : List Char} (hq : q = '"' ∨ q = '\'')
      (h : isQuotable q body = true) : IsLiteral A (q :: (body ++ [q]))
  | word {s : List Char} (h : A.isWord s = true) : IsLiteral A s
  | number {s : List Char} (h : A.isNumber s = true) : IsLiteral A s
  | negativeWord {s : List Char} (h : A.isWord s = true) : IsLiteral A ('-' :: s)
  | negativeNumber {s : List Char} (h : A.isNumber s = true) : IsLiteral A ('-' :: s)

/-- Whether a text is a number, or a minus and a number. -/
def Alphabet.isNumeral (A : Alphabet) : List Char → Bool
  | '-' :: s => A.isNumber s
  | s => A.isNumber s

/-- What a word or a number starts with. -/
theorem exists_start_of_scalar {s : List Char} (h : A.isWord s = true ∨ A.isNumber s = true) :
    ∃ c cs, s = c :: cs ∧ (A.startsWord c = true ∨ c.isDigit = true ∨ c = '.') := by
  cases s with
  | nil => simp [Alphabet.isWord, Alphabet.isNumber] at h
  | cons c cs =>
    refine ⟨c, cs, rfl, ?_⟩
    rcases h with h | h
    · exact Or.inl (Bool.and_eq_true_iff.mp h).1
    · simp only [Alphabet.isNumber, Bool.and_eq_true, startsNumber, Bool.or_eq_true,
        beq_iff_eq] at h
      rcases h.1.2 with hd | ⟨hdot, -⟩
      · exact Or.inr (Or.inl hd)
      · exact Or.inr (Or.inr hdot)

theorem minus_follows_scalar {s : List Char} (h : A.isWord s = true ∨ A.isNumber s = true) :
    s ≠ [] ∧ Follows (fun c => isExtendedBy ['-'] c = false) s := by
  obtain ⟨c, cs, rfl, hc⟩ := exists_start_of_scalar h
  refine ⟨by simp, (follows_cons _ _ _).mpr ?_⟩
  rcases hc with hw | hd | rfl
  · exact isExtendedBy_of_startsWord hw
  · exact isExtendedBy_of_isDigit (by decide) hd
  · decide

/-- A literal ends before a divider, and before all that ends a word if it is no number. -/
theorem IsLiteral.lexesAs {s : List Char} (h : IsLiteral A s) :
    LexesAs A (fun c => c ∈ dividers ∨ A.isNumeral s = false ∧ A.endsWord c) s (lex A s) := by
  have hminus : LexesAs A (fun c => isExtendedBy ['-'] c = false) ['-'] [.symbol "-"] :=
    lexesAs_symbol (by decide)
  have hends : ∀ {p : Prop} (c : Char), c ∈ dividers ∨ p ∧ A.endsWord c → A.endsWord c :=
    fun c hc => hc.elim endsWord_of_mem_dividers And.right
  cases h with
  | quoted hq hb =>
    have h := lexesAs_quoted (A := A) hq hb
    rw [h.lex_eq]
    exact h.mono fun _ _ => trivial
  | word hw =>
    have h := lexesAs_word hw
    rw [h.lex_eq]
    exact h.mono hends
  | number hn =>
    have h := lexesAs_number hn
    have hnum : A.isNumeral s = true := by
      unfold Alphabet.isNumeral
      split
      · simp [Alphabet.isNumber, startsNumber] at hn
      · exact hn
    rw [h.lex_eq]
    exact h.mono fun c hc => by simpa [hnum] using hc
  | negativeWord hw =>
    obtain ⟨hne, hstart⟩ := minus_follows_scalar (Or.inl hw)
    have h := hminus.append_of_ne_nil (lexesAs_word hw) hne hstart
    have hlex := h.lex_eq
    rw [List.singleton_append] at h hlex
    rw [hlex]
    exact h.mono hends
  | negativeNumber hn =>
    obtain ⟨hne, hstart⟩ := minus_follows_scalar (Or.inr hn)
    have h := hminus.append_of_ne_nil (lexesAs_number hn) hne hstart
    have hlex := h.lex_eq
    rw [List.singleton_append] at h hlex
    rw [hlex]
    exact h.mono fun c hc => by simpa [Alphabet.isNumeral, hn] using hc

/-! ### Expressions made of C++ tokens -/

namespace Expr

/-- Whether the expression is a literal that ends in a number. -/
def isNumeral (A : Alphabet) : Expr → Bool
  | literal _ v => A.isNumeral v.toList
  | _ => false

/-- Whether the names and literals of an expression, apart from those inside its operands, are C++
tokens, and no number stands where a point or a sign behind it would join it. -/
def HasTokens (A : Alphabet) : Expr → Prop
  | literal _ v => IsLiteral A v.toList
  | string v => isQuotable '"' v.toList = true
  | access x => A.isIdentifier x.name.identifier
  | member b f _ => A.isIdentifier f.name.identifier ∧ b.isNumeral A = false
  | call f _ => A.isIdentifier f.name.identifier
  | unary op x => op.followsOperand = true → x.isNumeral A = false
  | binary _ _ _ | conditional _ _ _ => True
  | cast t _ => ∀ d ∈ t.type.decls, A.isName d.name

/-- Whether all parts of an expression are made of C++ tokens. -/
def Lexical (A : Alphabet) (e : Expr) : Prop := ∀ p ∈ e.parts, p.HasTokens A

theorem Lexical.self {e : Expr} (h : e.Lexical A) : e.HasTokens A := h e (self_mem_parts e)

theorem Lexical.child {e x : Expr} (h : e.Lexical A) (hx : x ∈ e.children) : x.Lexical A :=
  fun p hp => h p (parts_subset_of_mem_children hx hp)

/-- The characters before which the text of an expression ends: dividers, and before an operator
that follows its operand whatever ends a word. -/
def Ends (A : Alphabet) (e : Expr) (c : Char) : Prop :=
  c ∈ dividers ∨
    Precedence.trailing.rank ≤ e.precedence.rank ∧ e.isNumeral A = false ∧ A.endsWord c

end Expr

/-! ### Operands -/

/-- A closing parenthesis may stand behind anything that ends before dividers. -/
theorem StayApart.append_closeParen {ws : List Write} (h : StayApart A (· ∈ dividers) ws) :
    StayApart A anything (ws ++ [.piece ")"]) :=
  h.append_piece lexesAs_closeParen.stayApart (by simp) ((follows_cons _ _ _).mpr (by decide))

/-- Writes between parentheses may stand before anything. -/
theorem StayApart.parenthesized {ws : List Write} (h : StayApart A (· ∈ dividers) ws) :
    StayApart A anything (Expr.parenthesizeWrites true ws) :=
  (lexesAs_openParen.stayApart.append_any h).append_closeParen

namespace Expr

variable {x : Expr}

/-- An operand ends before a divider. -/
theorem stayApart_operand (h : StayApart A (x.Ends A) x.writes) (required : Precedence) :
    StayApart A (· ∈ dividers)
      (parenthesizeWrites (x.precedence.needsParens required) x.writes) := by
  have hx := h.mono fun c (hc : c ∈ dividers) => Or.inl hc
  cases x.precedence.needsParens required with
  | false => exact hx
  | true => exact hx.parenthesized.mono fun _ _ => trivial

/-- The operand of an operator that follows it, and the base of a member access, end before all that
ends a word. -/
theorem stayApart_trailing (h : StayApart A (x.Ends A) x.writes) (hx : x.isNumeral A = false) :
    StayApart A A.endsWord
      (parenthesizeWrites (x.precedence.needsParens .trailing) x.writes) := by
  cases hb : x.precedence.needsParens .trailing with
  | false =>
    exact h.mono fun c hc => Or.inr ⟨Precedence.needsParens_eq_false_iff.mp hb, hx, hc⟩
  | true =>
    exact ((h.mono fun c (hc : c ∈ dividers) => Or.inl hc).parenthesized).mono fun _ _ => trivial

/-- The arguments of a call, joined by commas, end before a divider. -/
theorem stayApart_args (args : List Expr)
    (h : ∀ x ∈ args, StayApart A (x.Ends A) x.writes) :
    StayApart A (· ∈ dividers) ([Write.piece ", "].intercalate (argWrites args)) := by
  induction args with
  | nil => exact LexesAs.nil
  | cons x xs ih =>
    obtain ⟨hx, hxs⟩ := List.forall_mem_cons.mp h
    have hfirst := stayApart_operand hx .assignment
    cases xs with
    | nil => simpa [argWrites, List.intercalate] using hfirst
    | cons y ys =>
      have hcomma := hfirst.append_piece lexesAs_comma.stayApart (by simp)
        ((follows_cons _ _ _).mpr (by decide))
      rw [argWrites, argWrites, List.intercalate_cons_cons]
      exact hcomma.append_any (ih hxs)

/-! ### The first character of an operand -/

/-- The characters that the operand of a prefixed operator may start with. -/
def StartsOperand (A : Alphabet) (c : Char) : Prop :=
  A.startsWord c = true ∨ c.isDigit = true ∨
    c ∈ ['.', '"', '\'', '(', '!', '~', '*', '-', '+', '&']

theorem IsLiteral.exists_start {s : List Char} (h : IsLiteral A s) :
    ∃ c cs, s = c :: cs ∧ StartsOperand A c := by
  have hscalar : ∀ {t : List Char}, A.isWord t = true ∨ A.isNumber t = true →
      ∃ c cs, t = c :: cs ∧ StartsOperand A c := by
    intro t ht
    obtain ⟨c, cs, rfl, hc⟩ := exists_start_of_scalar ht
    exact ⟨c, cs, rfl, hc.imp_right (Or.imp_right fun hdot => by simp [hdot])⟩
  cases h with
  | quoted hq hb => exact ⟨_, _, rfl, Or.inr (Or.inr (by rcases hq with rfl | rfl <;> decide))⟩
  | word hw => exact hscalar (Or.inl hw)
  | number hn => exact hscalar (Or.inr hn)
  | negativeWord | negativeNumber => exact ⟨_, _, rfl, Or.inr (Or.inr (by decide))⟩

theorem not_mem_signs_of_startsWord {c : Char} (h : A.startsWord c = true) : c ∉ signs := by
  intro hc
  have hall : ∀ d ∈ signs, d.toNat ≤ 127 ∧ (d.isAlpha || d == '_') = false :=
    List.all_iff_forall_prop.mp (by decide)
  rw [startsWord_of_ascii (hall c hc).1, (hall c hc).2] at h
  exact Bool.false_ne_true h

theorem exists_start_of_identifier {s : String} (h : A.isIdentifier s) :
    ∃ c cs, s.toList = c :: cs ∧ A.startsWord c = true := by
  rw [Alphabet.isIdentifier] at h
  cases hs : s.toList with
  | nil => simp [hs, Alphabet.isWord] at h
  | cons c cs =>
    rw [hs] at h
    exact ⟨c, cs, rfl, (Bool.and_eq_true_iff.mp h).1⟩

/-- What an expression made of C++ tokens writes first may start an operand. -/
theorem Lexical.startsIn {e : Expr} (h : e.Lexical A) :
    ∀ p ∈ e.parts, p.StartsIn (StartsOperand A) := by
  have hidentifier : ∀ {s : String}, A.isIdentifier s →
      ∃ c cs, s.toList = c :: cs ∧ StartsOperand A c ∧ c ∉ signs := by
    intro s hs
    obtain ⟨c, cs, hchars, hw⟩ := exists_start_of_identifier hs
    exact ⟨c, cs, hchars, Or.inl hw, not_mem_signs_of_startsWord hw⟩
  intro p hp
  have hself := h p hp
  cases p with
  | literal t v => exact IsLiteral.exists_start hself
  | access x => exact hidentifier hself
  | call f args => exact hidentifier hself
  | _ => trivial

theorem startsOperand_of_mem_marks : ∀ c ∈ marks, StartsOperand A c := by
  have hmarks : marks ⊆ ['.', '"', '\'', '(', '!', '~', '*', '-', '+', '&'] := by decide
  exact fun c hc => Or.inr (Or.inr (hmarks hc))

/-! ### Operators in front of their operand -/

/-- What the operand of a prefixed operator starts with extends the operator only where a blank
stands between them. -/
theorem isExtendedBy_symbol {op : UnaryOp} (hop : op.followsOperand = false) {c : Char}
    (hc : StartsOperand A c) (hsign : c ∉ signs ∨ op.doublesInto c = false) :
    isExtendedBy op.symbol.toList c = false := by
  rcases hc with hw | hd | hmem
  · exact isExtendedBy_of_startsWord hw
  · exact isExtendedBy_of_isDigit (by cases op <;> decide) hd
  · have hall : ∀ c ∈ ['.', '"', '\'', '(', '!', '~', '*', '-', '+', '&'],
        c ∉ signs ∨ op.doublesInto c = false → isExtendedBy op.symbol.toList c = false := by
      refine List.all_iff_forall_prop.mp ?_
      cases op <;> decide
    exact hall c hmem hsign

theorem symbol_mem_symbols (op : UnaryOp) : op.symbol.toList ∈ symbols := by
  cases op <;> decide

/-- An operator in front of its operand does not run into it. -/
theorem stayApart_prefixed {op : UnaryOp} (hop : op.followsOperand = false)
    (h : StayApart A (x.Ends A) x.writes) (hx : x.Lexical A) :
    StayApart A (· ∈ dividers) ([.piece op.symbol] ++
      (if needsBlank op x then [.piece " "] else []) ++
        parenthesizeWrites (x.precedence.needsParens .unary) x.writes) := by
  have hsymbol := (lexesAs_symbol (A := A) (symbol_mem_symbols op)).stayApart
  have hoperand := stayApart_operand h .unary
  by_cases hblank : needsBlank op x = true
  · rw [hblank, if_pos rfl]
    exact (hsymbol.append_piece lexesAs_blank.stayApart (by simp)
      ((follows_cons _ _ _).mpr (isExtendedBy_divider (symbol_mem_symbols op) _
        (by decide)))).append_any hoperand
  · rw [if_neg hblank, List.append_nil]
    -- the operator meets a parenthesis or the first character of the operand
    refine hsymbol.append hoperand fun rest _ => ?_
    cases hb : x.precedence.needsParens .unary with
    | true =>
      exact (follows_cons _ _ _).mpr
        (isExtendedBy_divider (symbol_mem_symbols op) _ (by decide))
    | false =>
      obtain ⟨c, cs, hchars, hstart, hlead⟩ :=
        startsAs_writes startsOperand_of_mem_marks x hx.startsIn
          (Precedence.needsParens_eq_false_iff.mp hb)
      simp only [parenthesizeWrites, Bool.false_eq_true, if_false, hchars, List.cons_append,
        follows_cons]
      refine isExtendedBy_symbol hop hstart ?_
      rcases hlead with hlead | ⟨-, hsign⟩
      · exact Or.inr (by simpa [needsBlank, hlead] using hblank)
      · exact Or.inl hsign

/-! ### Whole expressions -/

theorem lexesAs_memberMark (arrow : Bool) :
    LexesAs A (fun c => A.startsWord c = true) (memberMark arrow).toList
      [.symbol (memberMark arrow)] := by
  refine (lexesAs_symbol ?_).mono fun _ hc => isExtendedBy_of_startsWord hc
  cases arrow <;> decide

theorem Ends.endsWord {c : Char} (h : x.Ends A c) : A.endsWord c := by
  rcases h with hdivider | ⟨-, -, hword⟩
  · exact endsWord_of_mem_dividers hdivider
  · exact hword

/-- An expression that binds more weakly than a call may end before dividers only. -/
theorem Ends.mem_dividers {c : Char} (h : x.Ends A c)
    (hx : x.precedence.rank < Precedence.trailing.rank) : c ∈ dividers := by
  rcases h with hdivider | ⟨hrank, -, -⟩
  · exact hdivider
  · exact absurd hrank (Nat.not_le.mpr hx)

theorem stayApart_string {v : String} (h : isQuotable '"' v.toList = true) :
    StayApart A anything [.quotation v] := by
  have hquoted : LexesAs A anything ("\"" ++ v ++ "\"").toList
      [⟨.quoted, ("\"" ++ v ++ "\"").toList⟩] := by
    rw [String.toList_append, String.toList_append]
    exact lexesAs_quoted (Or.inl rfl) h
  have htokens : (Write.quotation v).tokens A = _ := hquoted.lex_eq
  simpa [StayApart, Write.chars, Write.pieces, htokens] using hquoted

theorem stayApart_member {b : Expr} {field : String} (arrow : Bool)
    (hb : StayApart A (b.Ends A) b.writes) (hnum : b.isNumeral A = false)
    (hfield : A.isIdentifier field) :
    StayApart A A.endsWord
      (parenthesizeWrites (b.precedence.needsParens .trailing) b.writes ++
        [.piece (memberMark arrow), .piece field]) := by
  obtain ⟨c, cs, hc, hw⟩ := exists_start_of_identifier hfield
  have hmark := (stayApart_trailing hb hnum).append_piece (lexesAs_memberMark arrow).stayApart
    (by cases arrow <;> decide)
    (by cases arrow <;> exact (follows_cons _ _ _).mpr (continuesWord_of_ascii (by decide)))
  have := hmark.append_piece (lexesAs_identifier hfield).stayApart (by simp [hc]) (by simp [hc, hw])
  rwa [List.append_assoc, List.singleton_append] at this

theorem stayApart_call {f : String} {args : List Expr} (hf : A.isIdentifier f)
    (hargs : ∀ x ∈ args, StayApart A (x.Ends A) x.writes) :
    StayApart A anything
      ([.piece f, .piece "("] ++ [Write.piece ", "].intercalate (argWrites args) ++
        [.piece ")"]) := by
  have hfront := (lexesAs_identifier hf).stayApart.append_piece lexesAs_openParen.stayApart
    (by simp) ((follows_cons _ _ _).mpr (continuesWord_of_ascii (by decide)))
  exact (hfront.append_any (stayApart_args args hargs)).append_closeParen

theorem stayApart_suffixed {op : UnaryOp} (hop : op.followsOperand = true)
    (hx : StayApart A (x.Ends A) x.writes) (hnum : x.isNumeral A = false) :
    StayApart A anything
      (parenthesizeWrites (x.precedence.needsParens .trailing) x.writes ++ [.piece op.symbol]) := by
  have hclosed : isClosed op.symbol.toList = true := by cases op <;> revert hop <;> decide
  refine (stayApart_trailing hx hnum).append_piece (lexesAs_closed hclosed).stayApart
    (by cases op <;> decide) ?_
  cases op <;> exact (follows_cons _ _ _).mpr (continuesWord_of_ascii (by decide))

/-- An operand, a separator and another operand. -/
theorem stayApart_joined {l r : List Write} {sep : String} {ts : List Token}
    (hl : StayApart A (· ∈ dividers) l) (hsep : LexesAs A anything sep.toList ts)
    (hne : sep.toList ≠ []) (hstart : Follows (· ∈ dividers) sep.toList)
    (hr : StayApart A (· ∈ dividers) r) :
    StayApart A (· ∈ dividers) (l ++ [.piece sep] ++ r) :=
  (hl.append_piece hsep.stayApart hne hstart).append_any hr

theorem stayApart_cast {t : Ty} (ht : ∀ d ∈ t.decls, A.isName d.name) :
    StayApart A anything [.castTo t] := by
  have h := (lexesAs_openParen.append_any (t.lexesAs_text ht)).append_of_ne_nil lexesAs_closeParen
    (by simp)
    ((follows_cons _ _ _).mpr (by decide))
  have hchars : (Write.castTo t).chars = "(".toList ++ t.text.toList ++ ")".toList := by
    rw [Write.chars, Write.pieces, Ty.text, TypeId.text, String.toList_join]
    simp [Ty.pieces]
  have htokens : (Write.castTo t).tokens A =
      [.symbol "("] ++ t.typeId.tokens A ++ [.symbol ")"] := by
    have hopen : A.tokens "(" = [.symbol "("] := lexesAs_openParen.lex_eq
    have hclose : A.tokens ")" = [.symbol ")"] := lexesAs_closeParen.lex_eq
    simp [Write.tokens, Write.pieces, hopen, hclose, TypeId.tokens, Ty.pieces]
  simpa [StayApart, hchars, htokens] using h

/-- The writes of an expression stay apart, and end before what `Ends` says. -/
theorem stayApart_writes (e : Expr) (h : e.Lexical A) : StayApart A (e.Ends A) e.writes := by
  -- each case joins what the operands keep, and what `Ends` allows behind the whole is allowed
  -- behind its last write
  induction e with
  | literal t v =>
    have hlit := (IsLiteral.lexesAs h.self).stayApart
    exact hlit.mono fun c hc => hc.imp_right fun hends => ⟨hends.2.1, hends.2.2⟩
  | string v => exact (stayApart_string h.self).mono fun _ _ => trivial
  | access x =>
    exact (lexesAs_identifier h.self).stayApart.mono fun _ => Ends.endsWord
  | member b f a ih =>
    obtain ⟨hf, hnum⟩ := h.self
    have hb := ih (h.child (by simp [children]))
    exact (stayApart_member a hb hnum hf).mono fun _ => Ends.endsWord
  | call f args ih =>
    have hargs := fun x hx => ih x hx (h.child hx)
    exact (stayApart_call h.self hargs).mono fun _ _ => trivial
  | unary op x ih =>
    have hx : x.Lexical A := h.child (by simp [children])
    cases hop : op.followsOperand with
    | true =>
      have := stayApart_suffixed hop (ih hx) (h.self hop)
      simpa [writes, hop, UnaryOp.precedence] using this.mono fun _ _ => trivial
    | false =>
      have := (stayApart_prefixed hop (ih hx) hx).mono fun c (hc : (unary op x).Ends A c) =>
        hc.mem_dividers (by simp [precedence, UnaryOp.precedence, hop, Precedence.rank])
      simpa [writes, hop, UnaryOp.precedence] using this
  | binary op l r ihl ihr =>
    have hl := stayApart_operand (ihl (h.child (by simp [children]))) op.leftRequired
    have hr := stayApart_operand (ihr (h.child (by simp [children]))) op.rightRequired
    obtain ⟨hne, hstart⟩ := separator_start op
    have hop : op.precedence.rank < Precedence.trailing.rank := by cases op <;> decide
    exact (stayApart_joined hl (lexesAs_separator op) hne hstart hr).mono fun _ hends =>
      hends.mem_dividers hop
  | conditional c p n ihc ihp ihn =>
    have hc := stayApart_operand (ihc (h.child (by simp [children]))) .logicalOr
    have hp := stayApart_operand (ihp (h.child (by simp [children]))) .comma
    have hn := stayApart_operand (ihn (h.child (by simp [children]))) .assignment
    have hquestion : LexesAs A anything " ? ".toList [.symbol "?"] :=
      lexesAs_spaced (s := "?") (by decide)
    have hcolon : LexesAs A anything " : ".toList [.symbol ":"] :=
      lexesAs_spaced (s := ":") (by decide)
    have hchoice := stayApart_joined hc hquestion (by simp)
      ((follows_cons _ _ _).mpr (by decide)) hp
    have hwhole := stayApart_joined hchoice hcolon (by simp)
      ((follows_cons _ _ _).mpr (by decide)) hn
    exact hwhole.mono fun _ hends => hends.mem_dividers (by simp [precedence, Precedence.rank])
  | cast t x ih =>
    have hx := stayApart_operand (ih (h.child (by simp [children]))) .unary
    exact ((stayApart_cast h.self).append_any hx).mono fun _ hends =>
      hends.mem_dividers (by simp [precedence, Precedence.rank])

/-- The text that an expression writes into a sink, whole, falls into the tokens of its writes, one
after another. -/
theorem tokens_emit {σ : Type} (k : Sink σ) (e : Expr) (h : e.Lexical A) :
    e.emit k = k.offerAll (e.writes.flatMap Write.pieces) ∧
      A.tokens (String.join (e.writes.flatMap Write.pieces)) =
        e.writes.flatMap (Write.tokens A) := by
  refine ⟨by rw [writes_pieces, emit_eq_offerAll], ?_⟩
  rw [writes_pieces, Alphabet.tokens, ← text, toList_text]
  exact (stayApart_writes e h).lex_eq

/-- Signs upon signs: `- --p--->p - (const char * const)- -5`. -/
theorem tokens_emit_signs :
    let p : Element := ⟨1, ⟨[], "p"⟩, .ofStrings, .variable⟩
    let e : Expr := binary .subtract
      (unary .negate (unary .preDecrement (member (unary .postDecrement (access p)) p true)))
      (cast .ofStrings (unary .negate (literal .ofStrings "-5")))
    e.Lexical .ascii ∧
      Alphabet.ascii.tokens (String.join (e.writes.flatMap Write.pieces)) =
        [.symbol "-", .symbol "--", .word "p", .symbol "--", .symbol "->", .word "p", .symbol "-",
          .symbol "(", .word "const", .word "char", .symbol "*", .word "const", .symbol ")",
          .symbol "-", .symbol "-", ⟨.number, ['5']⟩] := by
  intro p e
  have hlexical : e.Lexical .ascii := by
    have hp : Alphabet.ascii.isIdentifier "p" := rfl
    have hfive : IsLiteral .ascii ['-', '5'] := .negativeNumber rfl
    simp [Lexical, e, p, parts, HasTokens, hp, hfive, isNumeral, UnaryOp.followsOperand,
      SharedType.ofStrings, Ty.constPtr, Ty.decls]
  refine ⟨hlexical, (tokens_emit Sink.text e hlexical).2.trans ?_⟩
  simp only [e, p]
  rfl

end Expr

end ExprEmit
