import ExprEmit.Proofs.Expr.Reader

/-!
# How many parentheses a tree needs

`Tree.openings` counts the opening parentheses that no text of a tree can do without: one for each
call, and one for each operand that binds more weakly than its place requires.  Every text that the
grammar derives has at least so many (`Derives.openings_le`), however many more it has.
-/

namespace ExprEmit

/-- The opening parentheses among terminals. -/
def openingCount (ts : List Terminal) : Nat := ts.count (.symbol "(")

@[simp] theorem openingCount_nil : openingCount [] = 0 := rfl

@[simp] theorem openingCount_append (ts us : List Terminal) :
    openingCount (ts ++ us) = openingCount ts + openingCount us :=
  List.count_append

theorem openingCount_open : openingCount [.symbol "("] = 1 := by decide

namespace Tree

/-- The strongest level at which the grammar derives a tree without parentheses around it. -/
def level : Tree → Nat
  | leaf _ => 14
  | member _ _ _ | call _ _ => 13
  | unary op _ => if op.followsOperand then 13 else 12
  | cast _ _ => 12
  | binary op _ _ => op.level
  | conditional _ _ _ => 1

/-- The opening parentheses of a tree where level `n` is required, `inside` of them inside. -/
def fenced (n : Nat) (t : Tree) (inside : Nat) : Nat := if t.level < n then inside + 1 else inside

mutual

/-- The opening parentheses that every text of a tree has, apart from any around it. -/
def openings : Tree → Nat
  | leaf _ => 0
  | member b _ _ => fenced 13 b b.openings
  | call f xs => fenced 13 f f.openings + 1 + openingsOfEach xs
  | unary op x => fenced (if op.followsOperand then 13 else 12) x x.openings
  | cast _ x => fenced 12 x x.openings
  | binary op l r =>
    fenced (leftLevel op.level) l l.openings + fenced (rightLevel op.level) r r.openings
  | conditional c p n =>
    fenced (leftLevel 1) c c.openings + p.openings + fenced (rightLevel 1) n n.openings

/-- The opening parentheses of the arguments of a call. -/
def openingsOfEach : List Tree → Nat
  | [] => 0
  | x :: xs => fenced 1 x x.openings + openingsOfEach xs

end

/-- The opening parentheses that every text of a tree has where level `n` is required. -/
def openingsAt (n : Nat) (t : Tree) : Nat := t.fenced n t.openings

theorem openingsAt_of_le {n : Nat} {t : Tree} (h : n ≤ t.level) : t.openingsAt n = t.openings :=
  if_neg (Nat.not_lt.mpr h)

theorem openingsAt_of_lt {n : Nat} {t : Tree} (h : t.level < n) :
    t.openingsAt n = t.openings + 1 :=
  if_pos h

theorem openingsAt_le (n : Nat) (t : Tree) : t.openingsAt n ≤ t.openings + 1 := by
  unfold openingsAt fenced
  split <;> omega

theorem openings_le_openingsAt (n : Nat) (t : Tree) : t.openings ≤ t.openingsAt n := by
  unfold openingsAt fenced
  split <;> omega

theorem openingsAt_mono (t : Tree) {m n : Nat} (h : m ≤ n) : t.openingsAt m ≤ t.openingsAt n := by
  unfold openingsAt fenced
  split <;> split <;> omega

end Tree

/-- The opening parentheses that every text of a phrase has. -/
def Phrase.openings : Phrase → Nat
  | expr n t => t.openingsAt n
  | args xs => Tree.openingsOfEach xs

theorem followsOperand_of_trailing {s : String} {op : UnaryOp}
    (h : trailingOps.lookup s = some op) : op.followsOperand = true := by
  have hall : ∀ p ∈ trailingOps, p.2.followsOperand = true := by decide
  exact hall _ (Reader.mem_of_lookup h)

theorem followsOperand_of_leading {s : String} {op : UnaryOp}
    (h : leadingOps.lookup s = some op) : op.followsOperand = false := by
  have hall : ∀ p ∈ leadingOps, p.2.followsOperand = false := by decide
  exact hall _ (Reader.mem_of_lookup h)

/-- Whatever the grammar derives has the opening parentheses that its tree needs. -/
theorem Derives.openings_le {p : Phrase} {ts : List Terminal} (h : Derives p ts) :
    p.openings ≤ openingCount ts := by
  -- a production has the terminals of its parts, and each part has what its place requires
  induction h with
  | leaf ht => exact Nat.zero_le _
  | @group t ts _ ih =>
    -- the parentheses around the tree pay for whatever level is required of it
    have hinside : t.openings ≤ openingCount ts := by
      rwa [Phrase.openings, Tree.openingsAt_of_le (Nat.zero_le _)] at ih
    have houtside := t.openingsAt_le 14
    simp only [Phrase.openings, openingCount_append, openingCount_open]
    omega
  | @weaken n t ts _ ih => exact Nat.le_trans (t.openingsAt_mono (Nat.le_succ n)) ih
  | member _ _ _ ih =>
    rw [Phrase.openings, Tree.openingsAt_of_le (Nat.le_refl 13), openingCount_append]
    exact Nat.le_add_right_of_le ih
  | @call f xs fs ts _ _ ihf ihxs =>
    have hcall : Phrase.openings (.expr 13 (.call f xs)) =
        Phrase.openings (.expr 13 f) + 1 + Phrase.openings (.args xs) :=
      Tree.openingsAt_of_le (Nat.le_refl 13)
    simp only [hcall, openingCount_append, openingCount_open]
    omega
  | @trailing x ts s op _ hs ih =>
    have hop := followsOperand_of_trailing hs
    have htrailing : Phrase.openings (.expr 13 (.unary op x)) = Phrase.openings (.expr 13 x) := by
      rw [Phrase.openings, Tree.openingsAt_of_le (by simp [Tree.level, hop]), Tree.openings, hop]
      rfl
    rw [htrailing, openingCount_append]
    exact Nat.le_add_right_of_le ih
  | @leading x ts s op hs _ ih =>
    have hop := followsOperand_of_leading hs
    have hleading : Phrase.openings (.expr 12 (.unary op x)) = Phrase.openings (.expr 12 x) := by
      rw [Phrase.openings, Tree.openingsAt_of_le (by simp [Tree.level, hop]), Tree.openings, hop]
      rfl
    rw [hleading, openingCount_append]
    exact Nat.le_add_left_of_le ih
  | cast target _ ih =>
    rw [Phrase.openings, Tree.openingsAt_of_le (Nat.le_refl 12), openingCount_append]
    exact Nat.le_add_left_of_le ih
  | @binary l r ls rs s op _ _ _ ihl ihr =>
    have hbinary : Phrase.openings (.expr op.level (.binary op l r)) =
        Phrase.openings (.expr (leftLevel op.level) l) +
          Phrase.openings (.expr (rightLevel op.level) r) :=
      Tree.openingsAt_of_le (Nat.le_refl op.level)
    simp only [hbinary, openingCount_append]
    omega
  | @conditional c p n cs ps ns _ _ _ ihc ihp ihn =>
    have hconditional : Phrase.openings (.expr 1 (.conditional c p n)) =
        Phrase.openings (.expr (leftLevel 1) c) + Phrase.openings (.expr 0 p) +
          Phrase.openings (.expr (rightLevel 1) n) := by
      rw [Phrase.openings, Tree.openingsAt_of_le (Nat.le_refl 1)]
      rfl
    simp only [hconditional, openingCount_append]
    omega
  | noArgs => exact Nat.le_refl 0
  | oneArg _ ih => exact ih
  | @moreArgs x y ys ts us _ _ ihx ihys =>
    have hargs : Phrase.openings (.args (x :: y :: ys)) =
        Phrase.openings (.expr 1 x) + Phrase.openings (.args (y :: ys)) := rfl
    simp only [hargs, openingCount_append]
    omega

end ExprEmit
