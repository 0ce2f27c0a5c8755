import ExprEmit.Proofs.Emission
import Mathlib.Data.Bool.AllAny
import Mathlib.Data.List.Basic

/-!
# What the text of an expression starts with

Whether a blank stands behind an operator in front of its operand is decided before the operand is
written, by `Expr.leadingChar?`.  This goes down the left side of the operand on its own, past
member accesses and operators that follow their operand, and up to a parenthesis.

What it foresees comes to pass, and it foresees every sign (`Expr.startsAs_writes`).  So there is a
blank exactly where the last character of the operator and the first one behind it are the same sign
(`Expr.leadingChar?_foresees`).
-/

namespace ExprEmit

/-! ### Signs -/

/-- The signs that double into another operator. -/
def signs : List Char := ['-', '+', '&']

theorem UnaryOp.doublesInto_iff {op : UnaryOp} {c : Char} :
    op.doublesInto c = true ↔ c ∈ signs ∧ op.symbol.toList.getLast? = some c := by
  simp [doublesInto, signs, and_comm, or_assoc]

theorem notMem_signs_of_isAlphanumeric {c : Char} (h : Text.isAlphanumeric c = true) :
    c ∉ signs := by
  have hall : ∀ c ∈ signs, Text.isAlphanumeric c = false :=
    List.all_iff_forall_prop.mp (by decide)
  intro hc
  rw [hall c hc] at h
  cases h

/-! ### Starts -/

/-- Whether a text starts with a character of `P`, which is `lead` if `lead` says anything, and no
sign otherwise. -/
def StartsAs (P : Char → Prop) (lead : Option Char) (s : List Char) : Prop :=
  ∃ c cs, s = c :: cs ∧ P c ∧ (lead = some c ∨ lead = none ∧ c ∉ signs)

theorem StartsAs.append {P : Char → Prop} {lead : Option Char} {s : List Char}
    (h : StartsAs P lead s) (t : List Char) : StartsAs P lead (s ++ t) := by
  obtain ⟨c, cs, rfl, hc, hlead⟩ := h
  exact ⟨c, cs ++ t, rfl, hc, hlead⟩

namespace Expr

/-- Whether what an expression itself writes first, if that is a literal or a name, starts with a
character of `P`, which is no sign in a name. -/
def StartsIn (P : Char → Prop) : Expr → Prop
  | literal _ v => ∃ c cs, v.toList = c :: cs ∧ P c
  | access x => ∃ c cs, x.name.identifier.toList = c :: cs ∧ P c ∧ c ∉ signs
  | call f _ => ∃ c cs, f.name.identifier.toList = c :: cs ∧ P c ∧ c ∉ signs
  | _ => True

/-- The characters that all other expressions may start with. -/
def marks : List Char := ['(', '"', '!', '~', '*', '-', '+', '&']

section Starts

variable {P : Char → Prop}

theorem startsAs_name {x : Element}
    (h : ∃ c cs, x.name.identifier.toList = c :: cs ∧ P c ∧ c ∉ signs) :
    StartsAs P none (Write.piece x.name.identifier).chars := by
  obtain ⟨c, cs, hx, hc, hsign⟩ := h
  exact ⟨c, cs, by simp [Write.chars, Write.pieces, hx], hc, Or.inr ⟨rfl, hsign⟩⟩

theorem startsAs_symbol (hmarks : ∀ c ∈ marks, P c) (op : UnaryOp) :
    StartsAs P op.symbol.toList.head? (Write.piece op.symbol).chars := by
  cases op <;> exact ⟨_, _, rfl, hmarks _ (by decide), Or.inl rfl⟩

/-- The operand of an operator that follows it starts with a parenthesis or like itself. -/
theorem startsAs_trailing {x : Expr} (hmarks : ∀ c ∈ marks, P c)
    (h : Precedence.unary.rank ≤ x.precedence.rank →
      StartsAs P x.leadingChar? (x.writes.flatMap Write.chars)) :
    StartsAs P (if x.precedence.needsParens .trailing then some '(' else x.leadingChar?)
      ((parenthesizeWrites (x.precedence.needsParens .trailing) x.writes).flatMap
        Write.chars) := by
  cases hb : x.precedence.needsParens .trailing with
  | true => exact ⟨'(', _, rfl, hmarks _ (by decide), Or.inl rfl⟩
  | false => exact h (Nat.le_trans (by decide) (Precedence.needsParens_eq_false_iff.mp hb))

/-- An expression that binds like a unary operator or tighter starts with the character that
`leadingChar?` foresees, and with no sign where it foresees nothing. -/
theorem startsAs_writes (hmarks : ∀ c ∈ marks, P c) (e : Expr) (h : ∀ p ∈ e.parts, p.StartsIn P)
    (hprec : Precedence.unary.rank ≤ e.precedence.rank) :
    StartsAs P e.leadingChar? (e.writes.flatMap Write.chars) := by
  -- only what stands leftmost is looked at: the first operand, or what the expression itself writes
  induction e with
  | literal t v =>
    obtain ⟨c, cs, hv, hc⟩ := h _ (self_mem_parts _)
    refine ⟨c, cs, by simp [writes, Write.chars, Write.pieces, hv], hc, ?_⟩
    by_cases halpha : Text.isAlphanumeric c = true
    · exact Or.inr ⟨by simp [leadingChar?, hv, halpha], notMem_signs_of_isAlphanumeric halpha⟩
    · exact Or.inl (by simp [leadingChar?, hv, halpha])
  | string v => exact ⟨'"', _, rfl, hmarks _ (by decide), Or.inr ⟨rfl, by decide⟩⟩
  | access x => simpa [writes, leadingChar?] using startsAs_name (h _ (self_mem_parts _))
  | member b f a ih =>
    have hb : ∀ p ∈ b.parts, p.StartsIn P := fun p hp =>
      h p (parts_subset_of_mem_children (by simp [children]) hp)
    rw [writes, List.flatMap_append]
    exact (startsAs_trailing hmarks (ih hb)).append _
  | call f args =>
    rw [writes, List.append_assoc, List.flatMap_append]
    simpa [leadingChar?] using (startsAs_name (h _ (self_mem_parts _))).append _
  | unary op x ih =>
    have hx : ∀ p ∈ x.parts, p.StartsIn P := fun p hp =>
      h p (parts_subset_of_mem_children (by simp [children]) hp)
    by_cases hop : op.followsOperand = true
    · have hoperand := startsAs_trailing hmarks (ih hx)
      simpa [writes, leadingChar?, hop, UnaryOp.precedence] using hoperand.append _
    · simpa [writes, leadingChar?, hop] using (startsAs_symbol hmarks op).append _
  | binary op l r => cases op <;> simp [precedence, BinaryOp.precedence, Precedence.rank] at hprec
  | conditional c p n => simp [precedence, Precedence.rank] at hprec
  | cast t x => exact ⟨'(', _, rfl, hmarks _ (by decide), Or.inr ⟨rfl, by decide⟩⟩

end Starts

/-! ### Blanks -/

/-- Whether what an expression itself writes first is not empty if it is a literal, and starts with a
letter, a digit or an underscore if it is a name. -/
def HasStart : Expr → Prop
  | literal _ v => v ≠ ""
  | access x | call x _ =>
    ∃ c, x.name.identifier.toList.head? = some c ∧ (Text.isAlphanumeric c = true ∨ c = '_')
  | _ => True

theorem HasStart.startsIn {e : Expr} (h : e.HasStart) : e.StartsIn fun _ => True := by
  have hname : ∀ {x : Element}, (∃ c, x.name.identifier.toList.head? = some c ∧
      (Text.isAlphanumeric c = true ∨ c = '_')) →
      ∃ c cs, x.name.identifier.toList = c :: cs ∧ True ∧ c ∉ signs := by
    rintro x ⟨c, hhead, hc⟩
    obtain ⟨cs, hx⟩ := List.head?_eq_some_iff.mp hhead
    refine ⟨c, cs, hx, trivial, ?_⟩
    rcases hc with halpha | rfl
    · exact notMem_signs_of_isAlphanumeric halpha
    · decide
  cases e with
  | literal t v =>
    obtain ⟨c, cs, hv⟩ := List.exists_cons_of_ne_nil (mt String.toList_eq_nil_iff.mp h)
    exact ⟨c, cs, hv, trivial⟩
  | access x => exact hname h
  | call f args => exact hname h
  | _ => trivial

/-- Nothing is foreseen of an operand that stands between parentheses. -/
theorem leadingChar?_of_needsParens {x : Expr} (h : x.precedence.needsParens .unary = true) :
    x.leadingChar? = none := by
  cases x with
  | literal | member => exact absurd h Bool.false_ne_true
  | unary op x => cases op <;> exact absurd h Bool.false_ne_true
  | _ => rfl

section Blanks

variable {x : Expr}

/-- What `leadingChar?` says about the whole text of an expression. -/
theorem startsAs_text (h : ∀ p ∈ x.parts, p.HasStart)
    (hprec : Precedence.unary.rank ≤ x.precedence.rank) :
    StartsAs (fun _ => True) x.leadingChar? x.text.toList := by
  rw [toList_text]
  exact startsAs_writes (fun _ _ => trivial) x (fun p hp => (h p hp).startsIn) hprec

/-- The same for an operand where it is written, be it between parentheses or not. -/
theorem startsAs_operand (h : ∀ p ∈ x.parts, p.HasStart) :
    StartsAs (fun _ => True) x.leadingChar?
      (String.join (parenthesizePieces (x.precedence.needsParens .unary) x.pieces)).toList := by
  cases hb : x.precedence.needsParens .unary with
  | true =>
    rw [leadingChar?_of_needsParens hb, String.toList_join]
    exact ⟨'(', _, rfl, trivial, Or.inr ⟨rfl, by decide⟩⟩
  | false => exact startsAs_text h (Precedence.needsParens_eq_false_iff.mp hb)

/-- A blank is needed where the operator and the text of its operand meet in the same sign. -/
theorem needsBlank_iff (op : UnaryOp) (h : ∀ p ∈ x.parts, p.HasStart) :
    needsBlank op x = true ↔ ∃ c ∈ signs, op.symbol.toList.getLast? = some c ∧
      (String.join (parenthesizePieces (x.precedence.needsParens .unary) x.pieces)).toList.head? =
        some c := by
  obtain ⟨c, cs, htext, -, hlead⟩ := startsAs_operand h
  rw [htext, List.head?_cons, needsBlank]
  rcases hlead with hlead | ⟨hlead, hsign⟩ <;> rw [hlead]
  · simp [UnaryOp.doublesInto_iff]
  · constructor
    · exact fun h => absurd h Bool.false_ne_true
    · rintro ⟨d, hd, -, ⟨⟩⟩
      exact absurd hd hsign

end Blanks

/-- What `leadingChar?` foresees of an expression that binds like a unary operator or tighter is what
its text starts with, and it foresees every sign.  So an operator in front of its operand is
followed by a blank exactly where its last character is a sign and the operand, with its
parentheses, starts with that sign. -/
theorem leadingChar?_foresees {σ : Type} (k : Sink σ) :
    (∀ e : Expr, (∀ p ∈ e.parts, p.HasStart) → Precedence.unary.rank ≤ e.precedence.rank →
      (∀ c, e.leadingChar? = some c → e.text.toList.head? = some c) ∧
        ∀ c ∈ signs, e.text.toList.head? = some c → e.leadingChar? = some c) ∧
    ∀ (op : UnaryOp) (x : Expr), op.followsOperand = false → (∀ p ∈ x.parts, p.HasStart) →
      let operand := parenthesizePieces (x.precedence.needsParens .unary) x.pieces
      let meetSame := ∃ c ∈ signs, op.symbol.toList.getLast? = some c ∧
        (String.join operand).toList.head? = some c
      parenthesize k (x.precedence.needsParens .unary) (x.emit k) = k.offerAll operand ∧
        (meetSame → (unary op x).emit k = k.offerAll ([op.symbol, " "] ++ operand)) ∧
        (¬meetSame → (unary op x).emit k = k.offerAll ([op.symbol] ++ operand)) := by
  constructor
  · intro e h hprec
    obtain ⟨c, cs, htext, -, hlead⟩ := startsAs_text h hprec
    rw [htext, List.head?_cons]
    constructor
    · intro d hd
      rcases hlead with hlead | ⟨hlead, -⟩ <;> rw [hlead] at hd
      · exact hd
      · cases hd
    · rintro d hd ⟨⟩
      rcases hlead with hlead | ⟨-, hsign⟩
      · exact hlead
      · exact absurd hd hsign
  · intro op x hop h operand meetSame
    have hblank := needsBlank_iff op h
    have hpieces : (unary op x).pieces =
        [op.symbol] ++ (if needsBlank op x then [" "] else []) ++ operand := by
      simp only [pieces, hop, UnaryOp.precedence, Bool.false_eq_true, if_false]
      rfl
    refine ⟨?_, fun hmeet => ?_, fun hmeet => ?_⟩
    · rw [emit_eq_offerAll, parenthesize_offerAll]
    · rw [emit_eq_offerAll, hpieces, if_pos (hblank.mpr hmeet)]
      rfl
    · rw [emit_eq_offerAll, hpieces, if_neg (mt hblank.mp hmeet)]
      rfl

/-- A minus in front of `-5++->p` is followed by a blank, an address-of operator is not. -/
theorem leadingChar?_foresees_minus :
    let p : Element := ⟨1, ⟨[], "p"⟩, .ofStrings, .variable⟩
    let x : Expr := member (unary .postIncrement (literal .ofStrings "-5")) p true
    (∀ q ∈ x.parts, q.HasStart) ∧ Precedence.unary.rank ≤ x.precedence.rank ∧
      x.text.toList.head? = some '-' ∧ UnaryOp.negate.followsOperand = false ∧
      (unary .negate x).emit Sink.text =
        Sink.text.offerAll ["-", " ", "-5", "++", "->", "p"] ∧
      (unary .addressOf x).emit Sink.text = Sink.text.offerAll ["&", "-5", "++", "->", "p"] := by
  intro p x
  have hx : ∀ q ∈ x.parts, q.HasStart := by simp [x, parts, HasStart]
  have htext : x.text.toList.head? = some '-' :=
    ((leadingChar?_foresees Sink.text).1 x hx (by decide)).1 '-' rfl
  obtain ⟨-, hminus, -⟩ := (leadingChar?_foresees Sink.text).2 .negate x rfl hx
  obtain ⟨-, -, haddress⟩ := (leadingChar?_foresees Sink.text).2 .addressOf x rfl hx
  refine ⟨hx, by decide, htext, rfl, hminus ⟨'-', by decide, rfl, htext⟩, haddress ?_⟩
  rintro ⟨c, -, hlast, hhead⟩
  have hc : some c = some '-' := hhead.symm.trans htext
  rw [hc] at hlast
  exact absurd hlast (by decide)

end Expr

end ExprEmit
