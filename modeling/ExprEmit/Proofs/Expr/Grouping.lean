import ExprEmit.Proofs.Expr.Reader
import ExprEmit.Proofs.Expr.Tokens

/-!
# Writing keeps the grouping

`Expr.tree` is how the parts of an expression are grouped.  `read_writes`: the tokens that an
expression writes are read back as exactly this tree, and the grammar derives no other from them.

`Expr.derives_tree` follows the expression: a part is put between parentheses where it binds more
weakly than its place requires (`derives_operand`), and what is required of an operand is what the
grammar takes there (`leftRequired_rank`, `rightRequired_rank`).
-/

namespace ExprEmit

variable {A : Alphabet}

/-- What the grammar reads of a write. -/
def Write.terminals (A : Alphabet) : Write → List Terminal
  | piece s => (A.tokens s).map .token
  | quotation v => [.token (.quoted ("\"" ++ v ++ "\""))]
  | castTo t => [.castTo t.text]

/-- The tree of a literal: one token, or a minus in front of it. -/
def Tree.ofLiteral : List Token → Tree
  | [_, t] => .unary .negate (.leaf t)
  | ts => .leaf (ts.headD default)

namespace Expr

mutual

/-- How the parts of an expression are grouped. -/
def tree (A : Alphabet) : Expr → Tree
  | literal _ v => .ofLiteral (A.tokens v)
  | string v => .leaf (.quoted ("\"" ++ v ++ "\""))
  | access x => .leaf (.word x.name.identifier)
  | member b f arrow => .member (b.tree A) arrow (.word f.name.identifier)
  | call f args => .call (.leaf (.word f.name.identifier)) (trees A args)
  | unary op x => .unary op (x.tree A)
  | binary op l r => .binary op (l.tree A) (r.tree A)
  | conditional c p n => .conditional (c.tree A) (p.tree A) (n.tree A)
  | cast t x => .cast t.type.text (x.tree A)

/-- The tree of each expression of a list. -/
def trees (A : Alphabet) : List Expr → List Tree
  | [] => []
  | x :: xs => x.tree A :: trees A xs

end

/-! ### Expressions with plain names and literals -/

/-- Whether the expression is a literal that starts with a minus. -/
def isNegated (A : Alphabet) : Expr → Bool
  | literal _ v => (A.tokens v).head? == some (.symbol "-")
  | _ => false

/-- Whether the names of an expression, apart from those inside its operands, are identifiers and
its literals one token each, which may stand behind a minus unless an operator or a member access
follows the literal. -/
def IsPlain (A : Alphabet) : Expr → Prop
  | literal _ v => ∃ t : Token, t.isOperand = true ∧
      (A.tokens v = [t] ∨ A.tokens v = [.symbol "-", t])
  | access x => A.isIdentifier x.name.identifier
  | member b f _ => A.isIdentifier f.name.identifier ∧ b.isNegated A = false
  | call f _ => A.isIdentifier f.name.identifier
  | unary op x => op.followsOperand = true → x.isNegated A = false
  | string _ | binary _ _ _ | conditional _ _ _ | cast _ _ => True

/-- Whether all parts of an expression are plain. -/
def Plain (A : Alphabet) (e : Expr) : Prop := ∀ p ∈ e.parts, p.IsPlain A

theorem Plain.self {e : Expr} (h : e.Plain A) : e.IsPlain A := h e (self_mem_parts e)

theorem Plain.child {e x : Expr} (h : e.Plain A) (hx : x ∈ e.children) : x.Plain A :=
  fun p hp => h p (parts_subset_of_mem_children hx hp)

/-! ### Levels -/

/-- The level at which the grammar derives an expression. -/
def level (A : Alphabet) (e : Expr) : Nat :=
  if e.isNegated A then Precedence.unary.rank else e.precedence.rank

theorem level_eq {e : Expr} (h : e.isNegated A = false) : e.level A = e.precedence.rank := by
  simp [level, h]

theorem rank_precedence (op : BinaryOp) : op.precedence.rank = op.level := by
  cases op <;> rfl

theorem leftRequired_rank (op : BinaryOp) : op.leftRequired.rank = leftLevel op.level := by
  cases op <;> rfl

theorem rightRequired_rank (op : BinaryOp) : op.rightRequired.rank = rightLevel op.level := by
  cases op <;> rfl

/-! ### What the pieces are read as -/

theorem lookup_binary (op : BinaryOp) : binaryOps.lookup op.symbol = some op := by
  cases op <;> rfl

theorem lookup_leading {op : UnaryOp} (h : op.followsOperand = false) :
    leadingOps.lookup op.symbol = some op := by
  cases op <;> revert h <;> decide

theorem lookup_trailing {op : UnaryOp} (h : op.followsOperand = true) :
    trailingOps.lookup op.symbol = some op := by
  cases op <;> revert h <;> decide

theorem terminals_piece {P : Char → Prop} {s : String} {ts : List Token}
    (h : LexesAs A P s.toList ts) : (Write.piece s).terminals A = ts.map .token := by
  rw [Write.terminals, Alphabet.tokens, h.lex_eq]

theorem terminals_identifier {s : String} (h : A.isIdentifier s) :
    (Write.piece s).terminals A = [.token (.word s)] :=
  terminals_piece (lexesAs_identifier h)

theorem terminals_symbol {s : String} (h : s.toList ∈ symbols) :
    (Write.piece s).terminals A = [.symbol s] :=
  terminals_piece (lexesAs_symbol h)

theorem terminals_openParen : (Write.piece "(").terminals A = [.symbol "("] :=
  terminals_piece lexesAs_openParen

theorem terminals_closeParen : (Write.piece ")").terminals A = [.symbol ")"] :=
  terminals_piece lexesAs_closeParen

theorem terminals_spaced {s : String} (h : s.toList ∈ symbols) :
    (Write.piece (" " ++ s ++ " ")).terminals A = [.symbol s] :=
  terminals_piece (lexesAs_spaced h)

theorem terminals_blank (b : Bool) :
    (if b then [Write.piece " "] else []).flatMap (Write.terminals A) = [] := by
  have hblank := terminals_piece (A := A) lexesAs_blank
  cases b <;> simp [hblank]

/-! ### What is written is derived -/

variable {x : Expr}

/-- An operand is derived at the level that its place requires. -/
theorem derives_operand
    (h : Derives (.expr (x.level A) (x.tree A)) (x.writes.flatMap (Write.terminals A)))
    (required : Precedence) (hx : x.isNegated A = true → required.rank ≤ Precedence.unary.rank) :
    Derives (.expr required.rank (x.tree A))
      ((parenthesizeWrites (x.precedence.needsParens required) x.writes).flatMap
        (Write.terminals A)) := by
  cases hb : x.precedence.needsParens required with
  | false =>
    refine h.mono ?_
    rw [level]
    -- a literal behind a minus binds more weakly than its precedence says
    split
    · next hneg => exact hx hneg
    · exact Precedence.needsParens_eq_false_iff.mp hb
  | true =>
    have hgroup := (h.mono (Nat.zero_le _)).group.mono (required.rank_le)
    simpa [parenthesizeWrites, terminals_openParen, terminals_closeParen] using hgroup

/-- The arguments of a call are derived, joined by commas. -/
theorem derives_args (args : List Expr)
    (h : ∀ x ∈ args, Derives (.expr (x.level A) (x.tree A))
      (x.writes.flatMap (Write.terminals A))) :
    Derives (.args (trees A args))
      (([Write.piece ", "].intercalate (argWrites args)).flatMap (Write.terminals A)) := by
  induction args with
  | nil => exact .noArgs
  | cons x xs ih =>
    obtain ⟨hx, hxs⟩ := List.forall_mem_cons.mp h
    have hfirst := derives_operand hx .assignment fun _ => by decide
    cases xs with
    | nil => simpa [argWrites, trees, List.intercalate] using hfirst.oneArg
    | cons y ys =>
      have hcomma : (Write.piece ", ").terminals A = [.symbol ","] := terminals_piece lexesAs_comma
      rw [argWrites, argWrites, List.intercalate_cons_cons, List.flatMap_append,
        List.flatMap_append, List.flatMap_singleton, hcomma]
      exact hfirst.moreArgs (ih hxs)

/-- What an expression writes is derived, with the tree of the expression. -/
theorem derives_tree (e : Expr) (h : e.Plain A) :
    Derives (.expr (e.level A) (e.tree A)) (e.writes.flatMap (Write.terminals A)) := by
  induction e with
  | literal t v =>
    obtain ⟨tok, hop, htok | htok⟩ := h.self
    · -- an operand by itself
      have hneg : (literal t v).isNegated A = false := by
        have : tok ≠ .symbol "-" := by
          rintro rfl
          cases hop
        simpa [isNegated, htok] using this
      rw [level_eq hneg, tree, htok, writes, List.flatMap_singleton, Write.terminals, htok]
      exact .leaf hop
    · -- a minus in front of an operand, which binds like a unary operator
      have hneg : (literal t v).isNegated A = true := by simp [isNegated, htok]
      have hleaf : Derives (.expr 12 (.leaf tok)) [.token tok] :=
        (Derives.leaf hop).mono (by decide)
      rw [level, if_pos hneg, tree, htok, writes, List.flatMap_singleton, Write.terminals, htok]
      exact hleaf.leading (s := "-") rfl
  | string v => exact .leaf rfl
  | access x =>
    have hx := terminals_identifier h.self
    rw [writes, List.flatMap_singleton, hx]
    exact .leaf rfl
  | member b f a ih =>
    obtain ⟨hf, hneg⟩ := h.self
    have hb := derives_operand (ih (h.child (by simp [children]))) .trailing
      fun hneg' => absurd hneg' (by simp [hneg])
    have hmark := terminals_symbol (A := A) (s := memberMark a) (by cases a <;> decide)
    rw [writes, List.flatMap_append, List.flatMap_cons, List.flatMap_singleton, hmark,
      terminals_identifier hf]
    exact hb.member (by cases a <;> rfl) rfl
  | call f args ih =>
    have hf := terminals_identifier h.self
    have hargs := derives_args args fun x hx => ih x hx (h.child hx)
    have hcallee : Derives (.expr 13 (.leaf (.word f.name.identifier)))
      [.token (.word f.name.identifier)] := (Derives.leaf rfl).mono (by decide)
    have hlevel : (call f args).level A = 13 := level_eq rfl
    rw [hlevel]
    simpa [writes, tree, hf, terminals_openParen, terminals_closeParen] using hcallee.call hargs
  | unary op x ih =>
    have hx := ih (h.child (by simp [children]))
    have hsymbol := terminals_symbol (A := A) (symbol_mem_symbols op)
    cases hop : op.followsOperand with
    | true =>
      have hneg := h.self hop
      have hprec : op.precedence = .trailing := if_pos hop
      have hlevel : (unary op x).level A = 13 := (level_eq rfl).trans (congrArg _ hprec)
      have := derives_operand hx .trailing fun hneg' =>
        absurd hneg' (by simp [hneg])
      rw [hlevel]
      simpa [writes, tree, hop, hprec, hsymbol] using this.trailing (lookup_trailing hop)
    | false =>
      have hprec : op.precedence = .unary := by simp [UnaryOp.precedence, hop]
      have hlevel : (unary op x).level A = 12 := (level_eq rfl).trans (congrArg _ hprec)
      have := derives_operand hx .unary fun _ => Nat.le_refl _
      rw [hlevel]
      simpa [writes, tree, hop, hprec, hsymbol, terminals_blank] using
        this.leading (lookup_leading hop)
  | binary op l r ihl ihr =>
    have hl := derives_operand (ihl (h.child (by simp [children])))
      op.leftRequired fun _ => by cases op <;> decide
    have hr := derives_operand (ihr (h.child (by simp [children])))
      op.rightRequired fun _ => by cases op <;> decide
    have hsep := terminals_piece (lexesAs_separator (A := A) op)
    rw [leftRequired_rank] at hl
    rw [rightRequired_rank] at hr
    rw [level_eq rfl, precedence, rank_precedence, writes, List.flatMap_append,
      List.flatMap_append, List.flatMap_singleton, hsep]
    exact hl.binary (lookup_binary op) hr
  | conditional c p n ihc ihp ihn =>
    have hc := derives_operand (ihc (h.child (by simp [children])))
      .logicalOr fun _ => by decide
    have hp := derives_operand (ihp (h.child (by simp [children])))
      .comma fun _ => by decide
    have hn := derives_operand (ihn (h.child (by simp [children])))
      .assignment fun _ => by decide
    have hquestion : (Write.piece " ? ").terminals A = [.symbol "?"] :=
      terminals_spaced (s := "?") (by decide)
    have hcolon : (Write.piece " : ").terminals A = [.symbol ":"] :=
      terminals_spaced (s := ":") (by decide)
    have hlevel : (conditional c p n).level A = 1 := level_eq rfl
    rw [hlevel]
    simpa [writes, tree, hquestion, hcolon] using hc.conditional hp hn
  | cast t x ih =>
    have hx := derives_operand (ih (h.child (by simp [children]))) .unary
      fun _ => by decide
    exact hx.cast t.type.text

/-- The tokens that an expression writes into a sink are read back as the tree of the expression,
and the grammar derives no other tree from them. -/
theorem read_writes {σ : Type} (k : Sink σ) (e : Expr) (h : e.Plain A) :
    e.emit k = k.offerAll (e.writes.flatMap Write.pieces) ∧
      read (e.writes.flatMap (Write.terminals A)) = some (e.tree A) ∧
        ∀ t, Derives (.expr 0 t) (e.writes.flatMap (Write.terminals A)) ↔ t = e.tree A := by
  have hderives := (derives_tree e h).mono (Nat.zero_le _)
  refine ⟨by rw [writes_pieces, emit_eq_offerAll], read_of_derives hderives, fun t => ?_⟩
  constructor
  · intro ht
    exact ht.unique hderives
  · rintro rfl
    exact hderives

/-- Assignments on both sides of a conditional, a comma inside an argument, and signs:
`-(a = *f((a, -5), (int)a)--) ? a : a = a`. -/
theorem read_writes_mixed :
    let a : Element := ⟨1, ⟨[], "a"⟩, .ofStrings, .variable⟩
    let f : Element := ⟨2, ⟨[], "f"⟩, .ofStrings, .function⟩
    let e : Expr := conditional
      (unary .negate (binary .assign (access a) (unary .deref (unary .postDecrement
        (call f [binary .comma (access a) (literal .ofStrings "-5"),
          cast ⟨3, .primitive .int false⟩ (access a)])))))
      (access a) (binary .assign (access a) (access a))
    e.Plain .ascii ∧
      read (e.writes.flatMap (Write.terminals .ascii)) = some (.conditional
        (.unary .negate (.binary .assign (.leaf (.word "a")) (.unary .deref (.unary .postDecrement
          (.call (.leaf (.word "f"))
            [.binary .comma (.leaf (.word "a")) (.unary .negate (.leaf ⟨.number, ['5']⟩)),
              .cast "int" (.leaf (.word "a"))])))))
        (.leaf (.word "a")) (.binary .assign (.leaf (.word "a")) (.leaf (.word "a")))) := by
  intro a f e
  have hplain : e.Plain .ascii := by
    have ha : Alphabet.ascii.isIdentifier "a" := rfl
    have hf : Alphabet.ascii.isIdentifier "f" := rfl
    have hfive : ∃ t : Token, t.isOperand = true ∧ (Alphabet.ascii.tokens "-5" = [t] ∨
        Alphabet.ascii.tokens "-5" = [.symbol "-", t]) := ⟨⟨.number, ['5']⟩, rfl, Or.inr rfl⟩
    simp [Plain, e, a, f, parts, partsOfEach, IsPlain, ha, hf, hfive, isNegated]
  refine ⟨hplain, ((read_writes Sink.text e hplain).2.1).trans ?_⟩
  simp only [e, a, f]
  rfl

end Expr

end ExprEmit
