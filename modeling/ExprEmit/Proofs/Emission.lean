import ExprEmit.Expr.Text
import ExprEmit.Proofs.Acceptor
import ExprEmit.Proofs.Separated
import ExprEmit.Proofs.Structure

/-!
# What is written

Writing a type or an expression offers the sink exactly the listed pieces, in order, up to the first
that is refused (`Ty.emit_eq_offerAll`, `Expr.emit_eq_offerAll`).

`Expr.writes` groups the pieces of an expression into those that belong together: the three pieces
of a string literal, the `(type)` of a cast, and any other piece by itself (`Expr.writes_pieces`).
-/

namespace ExprEmit

variable {σ : Type} (k : Sink σ)

/-! ### Writing offers the pieces -/

theorem TypeId.emit_eq_offerAll (t : TypeId) : t.emit k = k.offerAll t.pieces := by
  obtain ⟨isConst, specifier, declarator, suffixed⟩ := t
  simp only [emit, pieces, Step.all, Step.andThen_done, Acceptor.offer_eq_offerAll,
    Acceptor.when_offerAll, ← Acceptor.offerAll_append]
  cases isConst <;> cases declarator.isEmpty <;> cases suffixed <;> rfl

theorem Ty.emit_eq_offerAll (t : Ty) : t.emit k = k.offerAll t.pieces :=
  t.typeId.emit_eq_offerAll k

namespace Expr

theorem parenthesize_offerAll (b : Bool) (ps : List String) :
    parenthesize k b (k.offerAll ps) = k.offerAll (parenthesizePieces b ps) := by
  cases b with
  | false => rfl
  | true =>
    simp [parenthesize, parenthesizePieces, Step.all, Acceptor.offer_eq_offerAll,
      ← Acceptor.offerAll_append]

theorem emitArgs_eq_map (args : List Expr) (h : ∀ x ∈ args, x.emit k = k.offerAll x.pieces) :
    emitArgs k args = (argPieces args).map k.offerAll := by
  induction args with
  | nil => rfl
  | cons x xs ih =>
    obtain ⟨hx, hxs⟩ := List.forall_mem_cons.mp h
    rw [emitArgs, argPieces, List.map_cons, ih hxs, hx, parenthesize_offerAll]

/-- Separated steps that each offer a list offer the separated lists. -/
theorem all_intersperse (lists : List (List String)) :
    Step.all ((lists.map k.offerAll).intersperse (k.offerAll [", "])) =
      k.offerAll ([", "].intercalate lists) := by
  rw [← map_intersperse, Acceptor.all_map_offerAll]
  rfl

theorem emit_eq_offerAll (e : Expr) : e.emit k = k.offerAll e.pieces := by
  induction e with
  | literal t v => exact k.offer_eq_offerAll v
  | string v =>
    simp [emit, pieces, Step.all, Acceptor.offer_eq_offerAll, ← Acceptor.offerAll_append]
  | access x => exact k.offer_eq_offerAll x.name.identifier
  | member b f a ih =>
    simp [emit, pieces, Step.all, ih, parenthesize_offerAll, Acceptor.offer_eq_offerAll,
      ← Acceptor.offerAll_append]
  | call f args ih =>
    simp [emit, pieces, Step.all, emitArgs_eq_map k args ih, all_intersperse,
      Acceptor.offer_eq_offerAll, ← Acceptor.offerAll_append]
  | unary op x ih =>
    simp only [emit, pieces, ih, parenthesize_offerAll]
    -- the operator stands behind its operand or in front of it
    cases op.followsOperand <;>
      simp [Step.all, Acceptor.offer_eq_offerAll, Acceptor.when_offerAll,
        ← Acceptor.offerAll_append]
  | binary op l r ihl ihr =>
    simp [emit, pieces, Step.all, ihl, ihr, parenthesize_offerAll, Acceptor.offer_eq_offerAll,
      ← Acceptor.offerAll_append]
  | conditional c p n ihc ihp ihn =>
    simp [emit, pieces, Step.all, ihc, ihp, ihn, parenthesize_offerAll,
      Acceptor.offer_eq_offerAll, ← Acceptor.offerAll_append]
  | cast t x ih =>
    simp [emit, pieces, Step.all, ih, Ty.emit_eq_offerAll, parenthesize_offerAll,
      Acceptor.offer_eq_offerAll, ← Acceptor.offerAll_append]

end Expr

/-! ### Pieces that belong together -/

/-- Something an expression writes: one piece, or several that are read as one. -/
inductive Write where
  /-- A piece by itself. -/
  | piece (text : String)
  /-- A string literal: a quote, the value and a quote. -/
  | quotation (value : String)
  /-- The type of a cast, between parentheses. -/
  | castTo (target : Ty)

/-- The pieces of a write. -/
def Write.pieces : Write → List String
  | piece s => [s]
  | quotation v => ["\"", v, "\""]
  | castTo t => ["("] ++ t.pieces ++ [")"]

/-- The characters of a write. -/
def Write.chars (w : Write) : List Char := w.pieces.flatMap String.toList

namespace Expr

/-- The writes `ws`, between parentheses if `b` holds. -/
def parenthesizeWrites (b : Bool) (ws : List Write) : List Write :=
  if b then [.piece "("] ++ ws ++ [.piece ")"] else ws

mutual

/-- What an expression writes, from left to right. -/
def writes : Expr → List Write
  | literal _ value => [.piece value]
  | string value => [.quotation value]
  | access x => [.piece x.name.identifier]
  | member base field arrow =>
    parenthesizeWrites (base.precedence.needsParens .trailing) base.writes ++
      [.piece (memberMark arrow), .piece field.name.identifier]
  | call f args =>
    [.piece f.name.identifier, .piece "("] ++
      [Write.piece ", "].intercalate (argWrites args) ++ [.piece ")"]
  | unary op x =>
    let operand := parenthesizeWrites (x.precedence.needsParens op.precedence) x.writes
    if op.followsOperand then operand ++ [.piece op.symbol]
    else [.piece op.symbol] ++ (if needsBlank op x then [.piece " "] else []) ++ operand
  | binary op l r =>
    parenthesizeWrites (l.precedence.needsParens op.leftRequired) l.writes ++
      [.piece op.separator] ++
      parenthesizeWrites (r.precedence.needsParens op.rightRequired) r.writes
  | conditional c p n =>
    parenthesizeWrites (c.precedence.needsParens .logicalOr) c.writes ++ [.piece " ? "] ++
      parenthesizeWrites (p.precedence.needsParens .comma) p.writes ++ [.piece " : "] ++
      parenthesizeWrites (n.precedence.needsParens .assignment) n.writes
  | cast t x =>
    .castTo t.type :: parenthesizeWrites (x.precedence.needsParens .unary) x.writes

/-- What each argument of a call writes. -/
def argWrites : List Expr → List (List Write)
  | [] => []
  | x :: xs => parenthesizeWrites (x.precedence.needsParens .assignment) x.writes :: argWrites xs

end

theorem parenthesizeWrites_pieces (b : Bool) (ws : List Write) :
    (parenthesizeWrites b ws).flatMap Write.pieces =
      parenthesizePieces b (ws.flatMap Write.pieces) := by
  cases b <;> simp [parenthesizeWrites, parenthesizePieces, Write.pieces]

theorem argWrites_pieces (args : List Expr)
    (h : ∀ x ∈ args, x.writes.flatMap Write.pieces = x.pieces) :
    (argWrites args).map (·.flatMap Write.pieces) = argPieces args := by
  induction args with
  | nil => rfl
  | cons x xs ih =>
    obtain ⟨hx, hxs⟩ := List.forall_mem_cons.mp h
    rw [argWrites, argPieces, List.map_cons, ih hxs, parenthesizeWrites_pieces, hx]

/-- The writes of an expression are its pieces, grouped. -/
theorem writes_pieces (e : Expr) : e.writes.flatMap Write.pieces = e.pieces := by
  induction e with
  | literal t v => rfl
  | string v => rfl
  | access x => rfl
  | member b f a ih => simp [writes, pieces, parenthesizeWrites_pieces, ih, Write.pieces]
  | call f args ih =>
    simp [writes, pieces, flatMap_intercalate, argWrites_pieces args ih, Write.pieces]
  | unary op x ih =>
    simp only [writes, pieces]
    cases op.followsOperand <;> cases needsBlank op x <;>
      simp [parenthesizeWrites_pieces, ih, Write.pieces]
  | binary op l r ihl ihr =>
    simp [writes, pieces, parenthesizeWrites_pieces, ihl, ihr, Write.pieces]
  | conditional c p n ihc ihp ihn =>
    simp [writes, pieces, parenthesizeWrites_pieces, ihc, ihp, ihn, Write.pieces]
  | cast t x ih => simp [writes, pieces, parenthesizeWrites_pieces, ih, Write.pieces]

theorem toList_text (e : Expr) : e.text.toList = e.writes.flatMap Write.chars := by
  rw [text, String.toList_join, ← writes_pieces, List.flatMap_assoc]
  rfl

end Expr

end ExprEmit
