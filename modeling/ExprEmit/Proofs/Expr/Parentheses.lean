import ExprEmit.Proofs.Expr.Grouping
import ExprEmit.Proofs.Expr.Openings
import Mathlib.Data.List.Flatten

/-!
# No parentheses too many

`Expr.pairs` lists the parentheses that an expression writes around its operands, by their places
among its writes.  Without some of them the tokens are not read as the expression any more
(`Expr.parentheses_needed`): the grammar derives nothing from them, or another tree.

The reason is a count.  An expression writes an opening parenthesis for each of its pairs and for
each call in it (`Expr.writtenOpenings_writes`), and its tree needs as many (`Expr.parenCount_le`).
With one fewer there is no text of the tree left.
-/

namespace ExprEmit

variable {A : Alphabet}

/-! ### Pairs of places -/

/-- The places of an opening parenthesis and of the one that closes it. -/
abbrev Pair : Type := Nat × Nat

/-- Whether the writes at the two places are parentheses. -/
def Encloses (ws : List Write) (p : Pair) : Prop :=
  p.1 < p.2 ∧ ws[p.1]? = some (.piece "(") ∧ ws[p.2]? = some (.piece ")")

/-- The pairs `ps`, `n` places further on. -/
def movedBy (n : Nat) (ps : List Pair) : List Pair := ps.map fun p => (n + p.1, n + p.2)

/-- The writes `ws` without those at the places of the pairs `ps`. -/
def without (ps : List Pair) (ws : List Write) : List Write :=
  (ws.zipIdx.filter fun w => !ps.any fun p => w.2 == p.1 || w.2 == p.2).map Prod.fst

theorem encloses_movedBy {ws : List Write} {ps : List Pair} (h : ∀ p ∈ ps, Encloses ws p)
    (before behind : List Write) :
    ∀ p ∈ movedBy before.length ps, Encloses (before ++ ws ++ behind) p := by
  have hget : ∀ {i : Nat} {w : Write}, ws[i]? = some w →
      (before ++ ws ++ behind)[before.length + i]? = some w := by
    intro i w hw
    have hi : i < ws.length := (List.getElem?_eq_some_iff.mp hw).1
    rw [List.append_assoc, List.getElem?_append_right (Nat.le_add_right _ _),
      Nat.add_sub_cancel_left, List.getElem?_append_left hi, hw]
  intro p hp
  obtain ⟨q, hq, rfl⟩ := List.mem_map.mp hp
  obtain ⟨hlt, hopen, hclose⟩ := h q hq
  exact ⟨Nat.add_lt_add_left hlt _, hget hopen, hget hclose⟩

namespace Expr

/-! ### The pairs of an expression -/

/-- What an operand writes where a precedence is required. -/
def operandWrites (required : Precedence) (x : Expr) : List Write :=
  parenthesizeWrites (x.precedence.needsParens required) x.writes

/-- The pairs of an operand that starts at place `n`: its own, if it has one, and those `inside`. -/
def operandPairs (n : Nat) (required : Precedence) (x : Expr) (inside : List Pair) : List Pair :=
  if x.precedence.needsParens required then
    (n, n + 1 + x.writes.length) :: movedBy (n + 1) inside
  else movedBy n inside

mutual

/-- The parentheses that an expression writes around operands. -/
def pairs : Expr → List Pair
  | literal _ _ | string _ | access _ => []
  | member b _ _ => operandPairs 0 .trailing b b.pairs
  | call _ args => argPairs 2 args
  | unary op x =>
    operandPairs (if op.followsOperand then 0 else if needsBlank op x then 2 else 1)
      op.precedence x x.pairs
  | binary op l r =>
    operandPairs 0 op.leftRequired l l.pairs ++
      operandPairs ((operandWrites op.leftRequired l).length + 1) op.rightRequired r r.pairs
  | conditional c p n =>
    let question := (operandWrites .logicalOr c).length
    let colon := question + 1 + (operandWrites .comma p).length
    operandPairs 0 .logicalOr c c.pairs ++ operandPairs (question + 1) .comma p p.pairs ++
      operandPairs (colon + 1) .assignment n n.pairs
  | cast _ x => operandPairs 1 .unary x x.pairs

/-- The parentheses around and inside the arguments of a call, the first of which starts at place
`n`. -/
def argPairs (n : Nat) : List Expr → List Pair
  | [] => []
  | x :: xs =>
    operandPairs n .assignment x x.pairs ++
      argPairs (n + (operandWrites .assignment x).length + 1) xs

end

/-! ### What is written, by operands -/

theorem writes_member (b : Expr) (f : Element) (arrow : Bool) :
    (member b f arrow).writes =
      operandWrites .trailing b ++ [.piece (memberMark arrow), .piece f.name.identifier] := rfl

theorem writes_call (f : Element) (args : List Expr) :
    (call f args).writes = [.piece f.name.identifier, .piece "("] ++
      [Write.piece ", "].intercalate (argWrites args) ++ [.piece ")"] := rfl

theorem argWrites_cons (x : Expr) (xs : List Expr) :
    argWrites (x :: xs) = operandWrites .assignment x :: argWrites xs := rfl

theorem writes_trailing {op : UnaryOp} (hop : op.followsOperand = true) (x : Expr) :
    (unary op x).writes = operandWrites op.precedence x ++ [.piece op.symbol] := if_pos hop

theorem writes_leading {op : UnaryOp} (hop : op.followsOperand = false) (x : Expr) :
    (unary op x).writes = [.piece op.symbol] ++
      (if needsBlank op x then [.piece " "] else []) ++ operandWrites op.precedence x :=
  if_neg (Bool.eq_false_iff.mp hop)

theorem writes_binary (op : BinaryOp) (l r : Expr) :
    (binary op l r).writes =
      operandWrites op.leftRequired l ++ [.piece op.separator] ++
        operandWrites op.rightRequired r := rfl

theorem writes_conditional (c p n : Expr) :
    (conditional c p n).writes =
      operandWrites .logicalOr c ++ [.piece " ? "] ++ operandWrites .comma p ++ [.piece " : "] ++
        operandWrites .assignment n := rfl

theorem writes_cast (t : SharedType) (x : Expr) :
    (cast t x).writes = [.castTo t.type] ++ operandWrites .unary x := rfl

/-! ### What stands at the places -/

/-- The pairs of an operand, among what is written before and behind it. -/
theorem encloses_operand {x : Expr} (h : ∀ p ∈ x.pairs, Encloses x.writes p)
    {required : Precedence} {ws : List Write} (before behind : List Write)
    (hws : ws = before ++ operandWrites required x ++ behind) {n : Nat} (hn : before.length = n) :
    ∀ p ∈ operandPairs n required x x.pairs, Encloses ws p := by
  subst hws hn
  intro p hp
  cases hb : x.precedence.needsParens required with
  | false =>
    rw [operandPairs, hb] at hp
    rw [operandWrites, hb]
    exact encloses_movedBy h before behind p hp
  | true =>
    rw [operandPairs, hb, if_pos rfl] at hp
    rw [operandWrites, hb, parenthesizeWrites, if_pos rfl]
    rcases List.mem_cons.mp hp with rfl | hp
    · refine ⟨by simp only; omega, by simp, ?_⟩
      rw [List.append_assoc, List.getElem?_append_right (by omega)]
      simp [show before.length + 1 + x.writes.length - before.length = x.writes.length + 1 by omega]
    · have hinside := encloses_movedBy h (before ++ [.piece "("]) ([.piece ")"] ++ behind) p
        (by simpa using hp)
      simpa using hinside

/-- The pairs of the arguments of a call, among what is written before and behind them. -/
theorem encloses_args (args : List Expr) (h : ∀ x ∈ args, ∀ p ∈ x.pairs, Encloses x.writes p)
    {ws : List Write} (before behind : List Write)
    (hws : ws = before ++ [Write.piece ", "].intercalate (argWrites args) ++ behind) {n : Nat}
    (hn : before.length = n) : ∀ p ∈ argPairs n args, Encloses ws p := by
  induction args generalizing before n with
  | nil => simp [argPairs]
  | cons x xs ih =>
    obtain ⟨hx, hxs⟩ := List.forall_mem_cons.mp h
    rw [argWrites_cons] at hws
    cases xs with
    | nil =>
      have hws' : ws = before ++ operandWrites .assignment x ++ behind := by
        simpa [argWrites, List.intercalate] using hws
      simpa [argPairs] using encloses_operand hx before behind hws' hn
    | cons y ys =>
      rw [argWrites_cons, List.intercalate_cons_cons, ← argWrites_cons] at hws
      intro p hp
      rcases List.mem_append.mp hp with hp | hp
      · exact encloses_operand hx before _ (by simpa using hws) hn p hp
      · exact ih hxs (before ++ operandWrites .assignment x ++ [.piece ", "]) (by simpa using hws)
          (by simp [hn, Nat.add_assoc]) p hp

/-- The pairs of an expression are parentheses that it writes. -/
theorem encloses_pairs (e : Expr) : ∀ p ∈ e.pairs, Encloses e.writes p := by
  -- each operand has its pairs where it is written
  induction e with
  | literal | string | access => intro p hp; cases hp
  | member b f a ih => exact encloses_operand ih [] _ rfl rfl
  | call f args ih => exact encloses_args args ih [_, _] _ rfl rfl
  | unary op x ih =>
    rw [pairs]
    cases hop : op.followsOperand with
    | true =>
      rw [writes_trailing hop]
      exact encloses_operand ih [] _ rfl rfl
    | false =>
      rw [writes_leading hop]
      cases needsBlank op x with
      | false => exact encloses_operand ih [.piece op.symbol] [] (List.append_nil _).symm rfl
      | true =>
        exact encloses_operand ih [.piece op.symbol, .piece " "] [] (List.append_nil _).symm rfl
  | binary op l r ihl ihr =>
    intro p hp
    rcases List.mem_append.mp hp with hp | hp
    · exact encloses_operand ihl [] _ (List.append_assoc _ _ _) rfl p hp
    · exact encloses_operand ihr (operandWrites op.leftRequired l ++ [.piece op.separator]) []
        (List.append_nil _).symm (by simp) p hp
  | conditional c p n ihc ihp ihn =>
    -- the whole is what stands up to the `:`, the `:` itself and the last operand
    let choice := operandWrites .logicalOr c ++ [.piece " ? "] ++ operandWrites .comma p
    let rest := [.piece " : "] ++ operandWrites .assignment n
    have hwrites : (conditional c p n).writes = choice ++ rest := List.append_assoc _ _ _
    intro q hq
    rcases List.mem_append.mp hq with hq | hq
    · rcases List.mem_append.mp hq with hq | hq
      · exact encloses_operand ihc [] ([.piece " ? "] ++ operandWrites .comma p ++ rest)
          (by simp [hwrites, choice]) rfl q hq
      · exact encloses_operand ihp (operandWrites .logicalOr c ++ [.piece " ? "]) rest hwrites
          (by simp) q hq
    · exact encloses_operand ihn (choice ++ [.piece " : "]) [] (by simp [hwrites, rest])
        (by simp only [choice, List.length_append, List.length_singleton]) q hq
  | cast t x ih => exact encloses_operand ih [.castTo t.type] [] (List.append_nil _).symm rfl

/-! ### Counting the pairs -/

/-- Whether the expression is a call. -/
def isCall : Expr → Bool
  | call _ _ => true
  | _ => false

/-- The pairs of an expression and the calls in it. -/
def parenCount (e : Expr) : Nat := e.pairs.length + e.parts.countP isCall

/-- The pairs of arguments, the first of which starts at place `n`, and the calls in them. -/
def argCount (n : Nat) (args : List Expr) : Nat :=
  (argPairs n args).length + (partsOfEach args).countP isCall

/-- The pairs of an operand and the calls in it. -/
def operandCount (required : Precedence) (x : Expr) : Nat :=
  if x.precedence.needsParens required then x.parenCount + 1 else x.parenCount

theorem length_operandPairs (n : Nat) (required : Precedence) (x : Expr) :
    (operandPairs n required x x.pairs).length + x.parts.countP isCall =
      operandCount required x := by
  unfold operandPairs operandCount
  split
  · rw [List.length_cons, movedBy, List.length_map, parenCount, Nat.add_right_comm]
  · rw [movedBy, List.length_map, parenCount]

theorem parenCount_member (b : Expr) (f : Element) (a : Bool) :
    (member b f a).parenCount = operandCount .trailing b := by
  have hpairs : (member b f a).pairs = operandPairs 0 .trailing b b.pairs := rfl
  rw [← length_operandPairs 0, parenCount, hpairs, parts,
    List.countP_cons_of_neg Bool.false_ne_true]

theorem argCount_cons (n : Nat) (x : Expr) (xs : List Expr) :
    argCount n (x :: xs) =
      operandCount .assignment x + argCount (n + (operandWrites .assignment x).length + 1) xs := by
  rw [← length_operandPairs n, argCount, argCount, argPairs, partsOfEach, List.length_append,
    List.countP_append]
  omega

theorem parenCount_call (f : Element) (args : List Expr) :
    (call f args).parenCount = argCount 2 args + 1 := by
  have hpairs : (call f args).pairs = argPairs 2 args := rfl
  rw [parenCount, hpairs, parts, List.countP_cons_of_pos rfl, argCount, Nat.add_assoc]

theorem parenCount_unary (op : UnaryOp) (x : Expr) :
    (unary op x).parenCount = operandCount op.precedence x := by
  have hpairs : (unary op x).pairs =
      operandPairs (if op.followsOperand then 0 else if needsBlank op x then 2 else 1)
        op.precedence x x.pairs := rfl
  rw [← length_operandPairs, parenCount, hpairs, parts,
    List.countP_cons_of_neg Bool.false_ne_true]

theorem parenCount_binary (op : BinaryOp) (l r : Expr) :
    (binary op l r).parenCount =
      operandCount op.leftRequired l + operandCount op.rightRequired r := by
  have hpairs : (binary op l r).pairs = operandPairs 0 op.leftRequired l l.pairs ++
      operandPairs ((operandWrites op.leftRequired l).length + 1) op.rightRequired r r.pairs := rfl
  rw [← length_operandPairs 0, ← length_operandPairs ((operandWrites op.leftRequired l).length + 1),
    parenCount, hpairs, parts, List.countP_cons_of_neg Bool.false_ne_true, List.length_append,
    List.countP_append]
  omega

theorem parenCount_conditional (c p n : Expr) :
    (conditional c p n).parenCount =
      operandCount .logicalOr c + operandCount .comma p + operandCount .assignment n := by
  let question := (operandWrites .logicalOr c).length
  let colon := question + 1 + (operandWrites .comma p).length
  have hc := length_operandPairs 0 .logicalOr c
  have hp := length_operandPairs (question + 1) .comma p
  have hn := length_operandPairs (colon + 1) .assignment n
  have hpairs : (conditional c p n).pairs = operandPairs 0 .logicalOr c c.pairs ++
      operandPairs (question + 1) .comma p p.pairs ++
        operandPairs (colon + 1) .assignment n n.pairs := rfl
  rw [parenCount, hpairs, parts, List.countP_cons_of_neg Bool.false_ne_true]
  simp only [List.length_append, List.countP_append]
  omega

theorem parenCount_cast (t : SharedType) (x : Expr) :
    (cast t x).parenCount = operandCount .unary x := by
  have hpairs : (cast t x).pairs = operandPairs 1 .unary x x.pairs := rfl
  rw [← length_operandPairs 1, parenCount, hpairs, parts,
    List.countP_cons_of_neg Bool.false_ne_true]

/-! ### Counting what is written -/

/-- The opening parentheses that the grammar reads in writes. -/
def writtenOpenings (A : Alphabet) (ws : List Write) : Nat :=
  openingCount (ws.flatMap (Write.terminals A))

theorem writtenOpenings_append (ws vs : List Write) :
    writtenOpenings A (ws ++ vs) = writtenOpenings A ws + writtenOpenings A vs := by
  rw [writtenOpenings, List.flatMap_append, openingCount_append, writtenOpenings, writtenOpenings]

theorem writtenOpenings_cons (w : Write) (ws : List Write) :
    writtenOpenings A (w :: ws) = openingCount (w.terminals A) + writtenOpenings A ws := by
  rw [writtenOpenings, List.flatMap_cons, openingCount_append, writtenOpenings]

theorem writtenOpenings_nil : writtenOpenings A [] = 0 := rfl

/-- A piece whose tokens are known has no opening parenthesis if none of them is one. -/
theorem openingCount_tokens {s : String} {ts : List Token} (hs : A.tokens s = ts)
    (hts : Token.symbol "(" ∉ ts) : openingCount ((Write.piece s).terminals A) = 0 := by
  rw [Write.terminals, hs, openingCount, List.count_eq_zero]
  intro hmem
  obtain ⟨t, ht, heq⟩ := List.mem_map.mp hmem
  cases heq
  exact hts ht

theorem openingCount_piece {P : Char → Prop} {s : String} {ts : List Token}
    (h : LexesAs A P s.toList ts) (hts : Token.symbol "(" ∉ ts) :
    openingCount ((Write.piece s).terminals A) = 0 :=
  openingCount_tokens h.lex_eq hts

theorem openingCount_literal {t : SharedType} {v : String} (h : (literal t v).IsPlain A) :
    openingCount ((Write.piece v).terminals A) = 0 := by
  obtain ⟨tok, hop, hv⟩ := h
  have htok : Token.symbol "(" ≠ tok := by
    rintro rfl
    cases hop
  have hminus : Token.symbol "(" ≠ .symbol "-" := by decide
  rcases hv with hv | hv
  · exact openingCount_tokens hv (by simp [htok])
  · exact openingCount_tokens hv (by simp [htok, hminus])

theorem openingCount_identifier {s : String} (h : A.isIdentifier s) :
    openingCount ((Write.piece s).terminals A) = 0 :=
  openingCount_piece (lexesAs_identifier h) (by simp [Token.word, Token.symbol])

theorem openingCount_operator (op : UnaryOp) :
    openingCount ((Write.piece op.symbol).terminals A) = 0 :=
  openingCount_piece (lexesAs_symbol (symbol_mem_symbols op)) (by cases op <;> decide)

theorem openingCount_separator (op : BinaryOp) :
    openingCount ((Write.piece op.separator).terminals A) = 0 :=
  openingCount_piece (lexesAs_separator op) (by cases op <;> decide)

theorem openingCount_memberMark (arrow : Bool) :
    openingCount ((Write.piece (memberMark arrow)).terminals A) = 0 :=
  openingCount_piece (lexesAs_memberMark arrow) (by cases arrow <;> decide)

theorem openingCount_spaced {s : String} (hs : s.toList ∈ symbols)
    (hopen : Token.symbol "(" ≠ .symbol s) :
    openingCount ((Write.piece (" " ++ s ++ " ")).terminals A) = 0 :=
  openingCount_piece (lexesAs_spaced hs) (List.mem_singleton.not.mpr hopen)

theorem openingCount_closeParen : openingCount ((Write.piece ")").terminals A) = 0 :=
  openingCount_piece lexesAs_closeParen (by decide)

theorem openingCount_openParen : openingCount ((Write.piece "(").terminals A) = 1 := by
  rw [terminals_openParen, openingCount_open]

theorem writtenOpenings_blank (b : Bool) :
    writtenOpenings A (if b then [Write.piece " "] else []) = 0 := by
  rw [writtenOpenings, terminals_blank, openingCount_nil]

/-- An operand writes an opening parenthesis for each pair and each call. -/
theorem writtenOpenings_operand {x : Expr} (h : writtenOpenings A x.writes = x.parenCount)
    (required : Precedence) :
    writtenOpenings A (operandWrites required x) = operandCount required x := by
  unfold operandWrites operandCount parenthesizeWrites
  split
  · simp only [writtenOpenings_append, writtenOpenings_cons, openingCount_openParen,
      openingCount_closeParen, writtenOpenings_nil, h]
    omega
  · exact h

/-- So do the arguments of a call. -/
theorem writtenOpenings_args (args : List Expr)
    (h : ∀ x ∈ args, writtenOpenings A x.writes = x.parenCount) (n : Nat) :
    writtenOpenings A ([Write.piece ", "].intercalate (argWrites args)) = argCount n args := by
  induction args generalizing n with
  | nil => rfl
  | cons x xs ih =>
    obtain ⟨hx, hxs⟩ := List.forall_mem_cons.mp h
    rw [argCount_cons, ← writtenOpenings_operand hx]
    cases xs with
    | nil =>
      rw [argWrites_cons, argWrites, List.intercalate_singleton]
      rfl
    | cons y ys =>
      have hcomma : openingCount ((Write.piece ", ").terminals A) = 0 :=
        openingCount_separator .comma
      rw [argWrites_cons, argWrites_cons, List.intercalate_cons_cons, ← argWrites_cons,
        writtenOpenings_append, writtenOpenings_append, writtenOpenings_cons, hcomma, ih hxs]
      rfl

/-- An expression writes an opening parenthesis for each of its pairs and for each call in it, and
no other. -/
theorem writtenOpenings_writes (e : Expr) (h : e.Plain A) :
    writtenOpenings A e.writes = e.parenCount := by
  -- what stands between the operands has parentheses only in a call
  induction e with
  | literal t v =>
    rw [writes, writtenOpenings_cons, openingCount_literal h.self]
    rfl
  | string v => rfl
  | access x =>
    rw [writes, writtenOpenings_cons, openingCount_identifier h.self]
    rfl
  | member b f a ih =>
    have hb := writtenOpenings_operand (ih (h.child (by simp [children]))) .trailing
    rw [writes_member, writtenOpenings_append, writtenOpenings_cons, writtenOpenings_cons,
      openingCount_memberMark, openingCount_identifier h.self.1, parenCount_member]
    exact hb
  | call f args ih =>
    have hargs := writtenOpenings_args args (fun x hx => ih x hx (h.child hx)) 2
    rw [writes_call, parenCount_call, ← hargs]
    simp only [writtenOpenings_append, writtenOpenings_cons, openingCount_identifier h.self,
      openingCount_openParen, openingCount_closeParen, writtenOpenings_nil]
    omega
  | unary op x ih =>
    have hx := writtenOpenings_operand (ih (h.child (by simp [children]))) op.precedence
    rw [parenCount_unary, ← hx]
    cases hop : op.followsOperand with
    | true =>
      rw [writes_trailing hop, writtenOpenings_append, writtenOpenings_cons, openingCount_operator]
      rfl
    | false =>
      rw [writes_leading hop, writtenOpenings_append, writtenOpenings_append, writtenOpenings_cons,
        openingCount_operator, writtenOpenings_blank, writtenOpenings_nil, Nat.zero_add]
  | binary op l r ihl ihr =>
    have hl := writtenOpenings_operand (ihl (h.child (by simp [children]))) op.leftRequired
    have hr := writtenOpenings_operand (ihr (h.child (by simp [children]))) op.rightRequired
    rw [writes_binary, writtenOpenings_append, writtenOpenings_append, writtenOpenings_cons,
      openingCount_separator, hl, hr, parenCount_binary]
    rfl
  | conditional c p n ihc ihp ihn =>
    have hc := writtenOpenings_operand (ihc (h.child (by simp [children]))) .logicalOr
    have hp := writtenOpenings_operand (ihp (h.child (by simp [children]))) .comma
    have hn := writtenOpenings_operand (ihn (h.child (by simp [children]))) .assignment
    have hquestion : openingCount ((Write.piece " ? ").terminals A) = 0 :=
      openingCount_spaced (s := "?") (by decide) (by decide)
    have hcolon : openingCount ((Write.piece " : ").terminals A) = 0 :=
      openingCount_spaced (s := ":") (by decide) (by decide)
    simp only [writes_conditional, writtenOpenings_append, writtenOpenings_cons, hc, hp, hn,
      hquestion, hcolon, writtenOpenings_nil, Nat.add_zero, parenCount_conditional]
  | cast t x ih =>
    have hx := writtenOpenings_operand (ih (h.child (by simp [children]))) .unary
    have hcast : openingCount ((Write.castTo t.type).terminals A) = 0 := rfl
    rw [writes_cast, writtenOpenings_append, writtenOpenings_cons, hcast, hx, parenCount_cast]
    exact Nat.zero_add _

/-! ### No more than the tree needs -/

/-- The strongest level of a tree is the precedence of its expression. -/
theorem level_tree {x : Expr} (h : x.precedence ≠ .primary) :
    (x.tree A).level = x.precedence.rank := by
  cases x with
  | literal | string | access => exact absurd rfl h
  | member | call | conditional | cast => rfl
  | unary op x => cases op <;> rfl
  | binary op l r => cases op <;> rfl

/-- An operand has parentheses around it only where its tree needs them. -/
theorem operandCount_le {x : Expr} (h : x.parenCount ≤ (x.tree A).openings)
    (required : Precedence) : operandCount required x ≤ (x.tree A).openingsAt required.rank := by
  unfold operandCount
  split
  · next hb =>
    have hlt : x.precedence.rank < required.rank := of_decide_eq_true hb
    -- nothing binds more strongly than what stands by itself
    have hprimary : x.precedence ≠ .primary := by
      intro heq
      rw [heq] at hlt
      exact absurd hlt (Nat.not_lt.mpr required.rank_le)
    rw [Tree.openingsAt_of_lt (by rwa [level_tree hprimary])]
    exact Nat.succ_le_succ h
  · exact Nat.le_trans h (Tree.openings_le_openingsAt _ _)

theorem argCount_le (args : List Expr) (h : ∀ x ∈ args, x.parenCount ≤ (x.tree A).openings)
    (n : Nat) : argCount n args ≤ Tree.openingsOfEach (trees A args) := by
  induction args generalizing n with
  | nil => exact Nat.le_refl 0
  | cons x xs ih =>
    obtain ⟨hx, hxs⟩ := List.forall_mem_cons.mp h
    rw [argCount_cons]
    exact Nat.add_le_add (operandCount_le hx .assignment) (ih hxs _)

/-- The tree of an expression needs a parenthesis for each pair and for each call. -/
theorem parenCount_le (e : Expr) : e.parenCount ≤ (e.tree A).openings := by
  induction e with
  | literal | string | access => exact Nat.zero_le _
  | member b f a ih =>
    rw [parenCount_member]
    exact operandCount_le ih .trailing
  | call f args ih =>
    have htree : ((call f args).tree A).openings = 1 + Tree.openingsOfEach (trees A args) := by
      simp [tree, Tree.openings, Tree.fenced, Tree.level]
    rw [parenCount_call, htree, Nat.add_comm]
    exact Nat.add_le_add_left (argCount_le args ih 2) 1
  | unary op x ih =>
    have hrank : op.precedence.rank = if op.followsOperand then 13 else 12 := by cases op <;> rfl
    have hx := operandCount_le ih op.precedence
    rw [hrank] at hx
    rw [parenCount_unary]
    exact hx
  | binary op l r ihl ihr =>
    have hl := operandCount_le ihl op.leftRequired
    have hr := operandCount_le ihr op.rightRequired
    rw [leftRequired_rank] at hl
    rw [rightRequired_rank] at hr
    rw [parenCount_binary]
    exact Nat.add_le_add hl hr
  | conditional c p n ihc ihp ihn =>
    rw [parenCount_conditional]
    exact Nat.add_le_add (Nat.add_le_add (operandCount_le ihc .logicalOr)
      (operandCount_le ihp .comma)) (operandCount_le ihn .assignment)
  | cast t x ih =>
    rw [parenCount_cast]
    exact operandCount_le ih .unary

/-! ### Without some of the pairs -/

theorem openingCount_flatMap_filter_lt {α : Type} (f : α → List Terminal) (keep : α → Bool)
    {l : List α} {x : α} (hx : x ∈ l) (hkeep : keep x = false) (hf : 0 < openingCount (f x)) :
    openingCount ((l.filter keep).flatMap f) < openingCount (l.flatMap f) := by
  have hle (l : List α) :
      openingCount ((l.filter keep).flatMap f) ≤ openingCount (l.flatMap f) :=
    (l.filter_sublist.flatMap f).count_le _
  obtain ⟨before, behind, rfl⟩ := List.append_of_mem hx
  have hbefore := hle before
  have hbehind := hle behind
  simp only [List.filter_append, List.filter_cons, hkeep, List.flatMap_append, List.flatMap_cons,
    openingCount_append, Bool.false_eq_true, if_false]
  omega

/-- Without a pair there are fewer opening parentheses. -/
theorem writtenOpenings_without_lt {ws : List Write} {ps : List Pair} {p : Pair} (hp : p ∈ ps)
    (h : Encloses ws p) : writtenOpenings A (without ps ws) < writtenOpenings A ws := by
  have hmem : (Write.piece "(", p.1) ∈ ws.zipIdx := List.mk_mem_zipIdx_iff_getElem?.mpr h.2.1
  have hkeep : (!ps.any fun q => p.1 == q.1 || p.1 == q.2) = false := by
    simpa using ⟨p.1, p.2, hp, Or.inl rfl⟩
  have hopen : 0 < openingCount ((Write.piece "(").terminals A) := by
    rw [openingCount_openParen]
    exact Nat.one_pos
  have hall : ws.flatMap (Write.terminals A) =
      ws.zipIdx.flatMap fun w => w.1.terminals A := by
    rw [← List.flatMap_map Prod.fst, List.zipIdx_map_fst]
  rw [writtenOpenings, writtenOpenings, without, List.flatMap_map, hall]
  exact openingCount_flatMap_filter_lt _ _ hmem hkeep hopen

/-- Every parenthesis that an expression writes around an operand is needed: it writes one for each
of its pairs and for each call, and without some of the pairs the grammar derives no tree from the
tokens, or another one. -/
theorem parentheses_needed {σ : Type} (k : Sink σ) (e : Expr) (h : e.Plain A) :
    e.emit k = k.offerAll (e.writes.flatMap Write.pieces) ∧
      (∀ p ∈ e.pairs, Encloses e.writes p) ∧
      writtenOpenings A e.writes = e.pairs.length + e.parts.countP isCall ∧
      ∀ ps : List Pair, ps ≠ [] → ps ⊆ e.pairs → ∀ t,
        Derives (.expr 0 t) ((without ps e.writes).flatMap (Write.terminals A)) →
          t ≠ e.tree A := by
  refine ⟨by rw [writes_pieces, emit_eq_offerAll], encloses_pairs e, writtenOpenings_writes e h, ?_⟩
  rintro ps hne hps t ht rfl
  obtain ⟨p, hp⟩ := List.exists_mem_of_ne_nil ps hne
  have hfewer : writtenOpenings A (without ps e.writes) < writtenOpenings A e.writes :=
    writtenOpenings_without_lt hp (encloses_pairs e p (hps hp))
  have hwritten := writtenOpenings_writes e h
  have hneeded := e.parenCount_le (A := A)
  have hderived : (e.tree A).openings ≤ writtenOpenings A (without ps e.writes) :=
    Nat.le_trans (Tree.openings_le_openingsAt 0 _) ht.openings_le
  omega

/-- In `(a + f((a, b))) * a` two operands stand between parentheses.  Without those around the
argument, `(a + f(a, b)) * a` calls `f` with two arguments. -/
theorem parentheses_needed_argument :
    let a : Element := ⟨1, ⟨[], "a"⟩, .ofStrings, .variable⟩
    let b : Element := ⟨2, ⟨[], "b"⟩, .ofStrings, .variable⟩
    let f : Element := ⟨3, ⟨[], "f"⟩, .ofStrings, .function⟩
    let e : Expr := binary .multiply
      (binary .add (access a) (call f [binary .comma (access a) (access b)])) (access a)
    e.Plain .ascii ∧ e.pairs = [(0, 11), (5, 9)] ∧
      (without [(5, 9)] e.writes).flatMap Write.pieces =
        ["(", "a", " + ", "f", "(", "a", ", ", "b", ")", ")", " * ", "a"] ∧
      ∀ t, Derives (.expr 0 t) ((without [(5, 9)] e.writes).flatMap (Write.terminals .ascii)) →
        t ≠ e.tree .ascii := by
  intro a b f e
  have hplain : e.Plain .ascii := by
    have ha : Alphabet.ascii.isIdentifier "a" := rfl
    have hb : Alphabet.ascii.isIdentifier "b" := rfl
    have hf : Alphabet.ascii.isIdentifier "f" := rfl
    simp [Plain, e, a, b, f, parts, partsOfEach, IsPlain, ha, hb, hf]
  have hpairs : e.pairs = [(0, 11), (5, 9)] := rfl
  refine ⟨hplain, hpairs, by decide +kernel, ?_⟩
  exact (parentheses_needed Sink.text e hplain).2.2.2 [(5, 9)] (by decide) (by simp [hpairs])

end Expr

end ExprEmit
