import ExprEmit.Proofs.Expr.Grammar

/-!
# Reading an expression

`read` finds the tree of a sequence of terminals in one sweep from left to right.  It keeps a stack
of what has been opened and waits for an operand, and puts the operators on the stack together with
their operands (`collapse`) as soon as what follows does not bind tighter.

`read_of_derives`: whatever tree the grammar derives is the one that is read.  So no sequence of
terminals has two trees (`Derives.unique`).
-/

namespace ExprEmit

namespace Reader

/-! ### The stack -/

/-- Something that waits for its operand. -/
inductive Frame where
  /-- An open parenthesis. -/
  | group
  /-- A call with the arguments so far. -/
  | call (function : Tree) (args : List Tree)
  | unary (op : UnaryOp)
  | cast (target : String)
  | binary (op : BinaryOp) (left : Tree)
  /-- A condition in front of its `?`. -/
  | choice (condition : Tree)
  /-- A condition and what to take if it holds, in front of the `:`. -/
  | otherwise (condition positive : Tree)

namespace Frame

/-- The weakest level that the operand may have. -/
def operandLevel : Frame → Nat
  | group | choice _ => 0
  | call _ _ => 1
  | unary _ | cast _ => 12
  | binary op _ => rightLevel op.level
  | otherwise _ _ => rightLevel 1

/-- The expression that a frame forms with its operand, and its level. -/
def form? (x : Tree) : Frame → Option (Nat × Tree)
  | unary op => some (12, .unary op x)
  | cast t => some (12, .cast t x)
  | binary op l => some (op.level, .binary op l x)
  | otherwise c p => some (1, .conditional c p x)
  | _ => none

end Frame

/-- Puts the frames on top of the stack that form expressions of level `n` or stronger together with
the operand. -/
def collapse (n : Nat) : List Frame → Tree → List Frame × Tree
  | [], x => ([], x)
  | f :: stack, x =>
    match f.form? x with
    | some (m, y) => if n ≤ m then collapse n stack y else (f :: stack, x)
    | none => (f :: stack, x)

/-! ### One terminal after another -/

/-- How far the reader has come. -/
inductive State where
  /-- An operand is due. -/
  | operand (stack : List Frame)
  /-- The operand `x` has been read. -/
  | operator (stack : List Frame) (x : Tree)
  /-- The name of a member is due. -/
  | field (stack : List Frame) (base : Tree) (arrow : Bool)

/-- Reads a symbol where an operand is due. -/
def openWith (stack : List Frame) : String → Option State
  | "(" => some (.operand (.group :: stack))
  | ")" =>
    match stack with
    | .call f [] :: stack => some (.operator stack (.call f []))
    | _ => none
  | s => (leadingOps.lookup s).map fun op => .operand (.unary op :: stack)

/-- Reads a symbol behind the operand `x`. -/
def goOnWith (stack : List Frame) (x : Tree) : String → Option State
  | "(" => some (.operand (.call x [] :: stack))
  | ")" =>
    match collapse 0 stack x with
    | (.group :: stack, y) => some (.operator stack y)
    | (.call f args :: stack, y) => some (.operator stack (.call f (args ++ [y])))
    | _ => none
  | "?" =>
    let (stack, c) := collapse (leftLevel 1) stack x
    some (.operand (.choice c :: stack))
  | ":" =>
    match collapse 0 stack x with
    | (.choice c :: stack, p) => some (.operand (.otherwise c p :: stack))
    | _ => none
  | "," =>
    match collapse 0 stack x with
    | (.call f args :: stack, y) => some (.operand (.call f (args ++ [y]) :: stack))
    | (stack, l) => some (.operand (.binary .comma l :: stack))
  | s =>
    match memberMarks.lookup s, trailingOps.lookup s, binaryOps.lookup s with
    | some arrow, _, _ => some (.field stack x arrow)
    | _, some op, _ => some (.operator stack (.unary op x))
    | _, _, some op =>
      let (stack, l) := collapse (leftLevel op.level) stack x
      some (.operand (.binary op l :: stack))
    | _, _, _ => none

/-- Reads one terminal. -/
def step : State → Terminal → Option State
  | .operand stack, .castTo target => some (.operand (.cast target :: stack))
  | .operand stack, .token t =>
    if t.isOperand then some (.operator stack (.leaf t)) else t.symbol?.bind (openWith stack)
  | .operator stack x, .token t => t.symbol?.bind (goOnWith stack x)
  | .field stack base arrow, .token t =>
    if t.kind = .word then some (.operator stack (.member base arrow t)) else none
  | _, _ => none

/-- Reads terminals to the end. -/
def run : State → List Terminal → Option Tree
  | .operator stack x, [] =>
    match collapse 0 stack x with
    | ([], t) => some t
    | _ => none
  | _, [] => none
  | s, t :: ts => (step s t).bind (run · ts)

end Reader

/-- The tree of a sequence of terminals. -/
def read (ts : List Terminal) : Option Tree := Reader.run (.operand []) ts

namespace Reader

/-! ### Steps on symbols -/

theorem run_operand_symbol (stack : List Frame) (s : String) (ts : List Terminal) :
    run (.operand stack) (.symbol s :: ts) = (openWith stack s).bind (run · ts) := by
  rw [run, Terminal.symbol, step, Token.symbol?_symbol]
  simp [Token.symbol, Token.isOperand]

theorem run_operator_symbol (stack : List Frame) (x : Tree) (s : String) (ts : List Terminal) :
    run (.operator stack x) (.symbol s :: ts) = (goOnWith stack x s).bind (run · ts) := by
  rw [run, Terminal.symbol, step, Token.symbol?_symbol]
  simp

/-- What a table of symbols gives is in the table. -/
theorem mem_of_lookup {α : Type} {table : List (String × α)} {s : String} {a : α}
    (h : table.lookup s = some a) : (s, a) ∈ table := by
  obtain ⟨before, after, rfl, -⟩ := List.lookup_eq_some_iff.mp h
  simp

theorem openWith_leading {s : String} {op : UnaryOp} (h : leadingOps.lookup s = some op)
    (stack : List Frame) : openWith stack s = some (.operand (.unary op :: stack)) := by
  have hmem := mem_of_lookup h
  simp only [leadingOps, List.mem_cons, Prod.mk.injEq, List.not_mem_nil, or_false] at hmem
  rcases hmem with ⟨rfl, rfl⟩ | ⟨rfl, rfl⟩ | ⟨rfl, rfl⟩ | ⟨rfl, rfl⟩ | ⟨rfl, rfl⟩ | ⟨rfl, rfl⟩ |
    ⟨rfl, rfl⟩ <;> rfl

theorem goOnWith_trailing {s : String} {op : UnaryOp} (h : trailingOps.lookup s = some op)
    (stack : List Frame) (x : Tree) :
    goOnWith stack x s = some (.operator stack (.unary op x)) := by
  have hmem := mem_of_lookup h
  simp only [trailingOps, List.mem_cons, Prod.mk.injEq, List.not_mem_nil, or_false] at hmem
  rcases hmem with ⟨rfl, rfl⟩ | ⟨rfl, rfl⟩ <;> rfl

theorem goOnWith_member {s : String} {arrow : Bool} (h : memberMarks.lookup s = some arrow)
    (stack : List Frame) (x : Tree) : goOnWith stack x s = some (.field stack x arrow) := by
  have hmem := mem_of_lookup h
  simp only [memberMarks, List.mem_cons, Prod.mk.injEq, List.not_mem_nil, or_false] at hmem
  rcases hmem with ⟨rfl, rfl⟩ | ⟨rfl, rfl⟩ <;> rfl

/-- A comma behind the operand of a stack that is no call in the end is an operator, like every
other symbol between two operands. -/
theorem goOnWith_binary {s : String} {op : BinaryOp} (h : binaryOps.lookup s = some op)
    {stack below : List Frame} {x l : Tree}
    (hc : collapse (leftLevel op.level) stack x = (below, l))
    (hcall : op = .comma → ∀ f args more, below ≠ .call f args :: more) :
    goOnWith stack x s = some (.operand (.binary op l :: below)) := by
  have hall : ∀ p ∈ binaryOps, p.1 = p.2.symbol := by decide
  have hs := hall _ (mem_of_lookup h)
  dsimp only at hs
  subst hs
  by_cases hop : op = .comma
  · -- a comma is the only one of these symbols that also stands between the arguments of a call
    subst hop
    have hc' : collapse 0 stack x = (below, l) := hc
    show (match collapse 0 stack x with
      | (.call f args :: stack, y) => some (State.operand (.call f (args ++ [y]) :: stack))
      | (stack, l) => some (.operand (.binary .comma l :: stack))) = _
    rw [hc']
    split
    · next heq =>
      cases heq
      exact absurd rfl (hcall rfl _ _ _)
    · next heq =>
      cases heq
      rfl
  · have hstep : goOnWith stack x op.symbol =
        some (.operand (.binary op (collapse (leftLevel op.level) stack x).2 ::
          (collapse (leftLevel op.level) stack x).1)) := by
      cases op with
      | comma => exact absurd rfl hop
      | _ => rfl
    rw [hstep, hc]

/-! ### Stacks that an expression may be read on -/

/-- Whether the top of the stack takes an operand of level `n`. -/
def Accepts (n : Nat) : List Frame → Prop
  | [] => True
  | f :: _ => f.operandLevel ≤ n

theorem Accepts.mono {m n : Nat} {stack : List Frame} (h : Accepts m stack) (hmn : m ≤ n) :
    Accepts n stack := by
  cases stack with
  | nil => trivial
  | cons f stack => exact Nat.le_trans h hmn

theorem lt_leftLevel {k n : Nat} (h : rightLevel k ≤ n) : k < leftLevel n := by
  unfold rightLevel at h
  unfold leftLevel
  split at h <;> split <;> omega

theorem le_leftLevel (n : Nat) : n ≤ leftLevel n := by
  unfold leftLevel
  split <;> omega

theorem le_rightLevel (n : Nat) : n ≤ rightLevel n := by
  unfold rightLevel
  split <;> omega

theorem level_le (op : BinaryOp) : op.level ≤ 11 := by
  cases op <;> decide

/-- A frame that takes an operand of a level is not put together before an operator of that level. -/
theorem Frame.level_lt {f : Frame} {x y : Tree} {m n : Nat} (h : f.form? x = some (m, y))
    (hf : f.operandLevel ≤ n) (hn : n ≤ 11) : m < leftLevel n := by
  cases f with
  | group | call | choice => cases h
  | unary | cast => exact absurd (Nat.le_trans hf hn) (by simp [operandLevel])
  | binary op l =>
    cases h
    exact lt_leftLevel hf
  | otherwise c p =>
    cases h
    exact lt_leftLevel hf

theorem Frame.level_le {f : Frame} {x y : Tree} {m : Nat} (h : f.form? x = some (m, y)) :
    m ≤ 12 := by
  cases f with
  | group | call | choice => cases h
  | unary | cast | otherwise =>
    cases h
    decide
  | binary op l =>
    cases h
    exact Nat.le_trans (Reader.level_le op) (by decide)

theorem collapse_cons_of_lt {n : Nat} {f : Frame} {x : Tree}
    (h : ∀ m y, f.form? x = some (m, y) → m < n) (stack : List Frame) :
    collapse n (f :: stack) x = (f :: stack, x) := by
  rw [collapse]
  split
  · next m y heq => rw [if_neg (Nat.not_le.mpr (h m y heq))]
  · rfl

/-- A stack that takes an operand of level `n` has nothing to put together before an operator of
level `n`. -/
theorem Accepts.collapse_eq {n : Nat} {stack : List Frame} (h : Accepts n stack) (hn : n ≤ 11)
    (x : Tree) : collapse (leftLevel n) stack x = (stack, x) := by
  cases stack with
  | nil => rfl
  | cons f stack => exact collapse_cons_of_lt (fun m y hform => Frame.level_lt hform h hn) stack

/-- No frame forms an expression that binds tighter than a unary operator. -/
theorem collapse_of_lt {n : Nat} (hn : 12 < n) (stack : List Frame) (x : Tree) :
    collapse n stack x = (stack, x) := by
  cases stack with
  | nil => rfl
  | cons f stack =>
    exact collapse_cons_of_lt (fun m y h => Nat.lt_of_le_of_lt (Frame.level_le h) hn) stack

/-- A frame is put together with its operand before whatever does not bind tighter. -/
theorem collapse_cons_of_le {m n : Nat} {f : Frame} {x y : Tree} (h : f.form? x = some (m, y))
    (hn : n ≤ m) (stack : List Frame) : collapse n (f :: stack) x = collapse n stack y := by
  simp [collapse, h, hn]

/-! ### What is derived is read -/

/-- What the reader does with the terminals of a phrase, in front of any others. -/
def Reads : Phrase → List Terminal → Prop
  -- The operand it ends with and what it has put on the stack make up the tree before everything
  -- that does not bind tighter than the level.
  | .expr n t, ts => ∀ stack, Accepts n stack → ∃ above x,
      (∀ m ≤ n, collapse m above x = collapse m stack t) ∧
        ∀ rest, run (.operand stack) (ts ++ rest) = run (.operator above x) rest
  | .args xs, ts => ∀ stack f done rest, (xs = [] → done = []) →
      run (.operand (.call f done :: stack)) (ts ++ .symbol ")" :: rest) =
        run (.operator stack (.call f (done ++ xs))) rest

namespace Reads

variable {n : Nat} {t x : Tree} {ts us : List Terminal}

/-- What binds tighter than unary operators leaves nothing on the stack. -/
theorem whole (h : Reads (.expr n t) ts) (hn : 12 < n) {stack : List Frame}
    (hs : Accepts n stack) (rest : List Terminal) :
    run (.operand stack) (ts ++ rest) = run (.operator stack t) rest := by
  obtain ⟨above, x, hc, hrun⟩ := h stack hs
  have := hc n (Nat.le_refl n)
  rw [collapse_of_lt hn, collapse_of_lt hn] at this
  cases this
  exact hrun rest

/-- An operand in front of a symbol that puts it together with what is on the stack above `f`. -/
theorem collapse_zero (h : Reads (.expr n t) ts) (f : Frame) (stack : List Frame)
    (hf : f.operandLevel ≤ n) (hform : ∀ y, f.form? y = none) :
    ∃ above x, collapse 0 above x = (f :: stack, t) ∧
      ∀ rest, run (.operand (f :: stack)) (ts ++ rest) = run (.operator above x) rest := by
  obtain ⟨above, x, hc, hrun⟩ := h (f :: stack) hf
  refine ⟨above, x, ?_, hrun⟩
  rw [hc 0 (Nat.zero_le n), collapse, hform]

theorem group (h : Reads (.expr 0 t) ts) :
    Reads (.expr 14 t) ([.symbol "("] ++ ts ++ [.symbol ")"]) := by
  intro stack _
  refine ⟨stack, t, fun _ _ => rfl, fun rest => ?_⟩
  obtain ⟨above, x, hc, hrun⟩ :=
    h.collapse_zero .group stack (Nat.le_refl 0) fun _ => rfl
  have hopen : openWith stack "(" = some (.operand (.group :: stack)) := rfl
  have hclose : goOnWith above x ")" = some (.operator stack t) := by simp [goOnWith, hc]
  simp only [List.append_assoc, List.cons_append, List.nil_append, run_operand_symbol, hopen,
    Option.bind_some, hrun, run_operator_symbol, hclose]

theorem member {b : Tree} {s : String} {arrow : Bool} {field : Token}
    (hb : Reads (.expr 13 b) ts) (hs : memberMarks.lookup s = some arrow)
    (hf : field.kind = .word) :
    Reads (.expr 13 (.member b arrow field)) (ts ++ [.symbol s, .token field]) := by
  intro stack hstack
  refine ⟨stack, _, fun _ _ => rfl, fun rest => ?_⟩
  rw [List.append_assoc, hb.whole (by decide) hstack]
  simp [run_operator_symbol, goOnWith_member hs, run, step, hf]

theorem call {f : Tree} {xs : List Tree} {fs : List Terminal} (hf : Reads (.expr 13 f) fs)
    (hxs : Reads (.args xs) ts) :
    Reads (.expr 13 (.call f xs)) (fs ++ [.symbol "("] ++ ts ++ [.symbol ")"]) := by
  intro stack hstack
  refine ⟨stack, _, fun _ _ => rfl, fun rest => ?_⟩
  have hopen : goOnWith stack f "(" = some (.operand (.call f [] :: stack)) := rfl
  simp only [List.append_assoc, List.cons_append, List.nil_append, hf.whole (by decide) hstack,
    run_operator_symbol, hopen, Option.bind_some]
  simpa using hxs stack f [] rest fun _ => rfl

theorem trailing {s : String} {op : UnaryOp} (hx : Reads (.expr 13 x) ts)
    (hs : trailingOps.lookup s = some op) :
    Reads (.expr 13 (.unary op x)) (ts ++ [.symbol s]) := by
  intro stack hstack
  refine ⟨stack, _, fun _ _ => rfl, fun rest => ?_⟩
  rw [List.append_assoc, hx.whole (by decide) hstack, List.singleton_append, run_operator_symbol,
    goOnWith_trailing hs]
  rfl

/-- An operand behind a frame that waits for it. -/
theorem filled {m : Nat} (hx : Reads (.expr n x) ts) (f : Frame) (stack : List Frame)
    (hf : f.operandLevel ≤ n) (hform : f.form? x = some (m, t)) (hmn : m ≤ n) :
    ∃ above y, (∀ k ≤ m, collapse k above y = collapse k stack t) ∧
      ∀ rest, run (.operand (f :: stack)) (ts ++ rest) = run (.operator above y) rest := by
  obtain ⟨above, y, hc, hrun⟩ := hx (f :: stack) hf
  refine ⟨above, y, fun k hk => ?_, hrun⟩
  rw [hc k (Nat.le_trans hk hmn), collapse_cons_of_le hform hk]

theorem leading {s : String} {op : UnaryOp} (hs : leadingOps.lookup s = some op)
    (hx : Reads (.expr 12 x) ts) : Reads (.expr 12 (.unary op x)) ([.symbol s] ++ ts) := by
  intro stack _
  obtain ⟨above, y, hc, hrun⟩ :=
    hx.filled (.unary op) stack (Nat.le_refl 12) rfl (Nat.le_refl 12)
  refine ⟨above, y, hc, fun rest => ?_⟩
  rw [List.append_assoc, List.singleton_append, run_operand_symbol, openWith_leading hs]
  exact hrun rest

theorem cast (target : String) (hx : Reads (.expr 12 x) ts) :
    Reads (.expr 12 (.cast target x)) ([.castTo target] ++ ts) := by
  intro stack _
  obtain ⟨above, y, hc, hrun⟩ :=
    hx.filled (.cast target) stack (Nat.le_refl 12) rfl (Nat.le_refl 12)
  exact ⟨above, y, hc, hrun⟩

theorem binary {l r : Tree} {ls rs : List Terminal} {s : String} {op : BinaryOp}
    (hl : Reads (.expr (leftLevel op.level) l) ls) (hs : binaryOps.lookup s = some op)
    (hr : Reads (.expr (rightLevel op.level) r) rs) :
    Reads (.expr op.level (.binary op l r)) (ls ++ [.symbol s] ++ rs) := by
  intro stack hstack
  obtain ⟨left, x, hc, hrun⟩ := hl stack (hstack.mono (le_leftLevel _))
  -- the operator puts its left operand together and stops at the stack
  have hleft : collapse (leftLevel op.level) left x = (stack, l) :=
    (hc _ (Nat.le_refl _)).trans (hstack.collapse_eq (level_le op) l)
  -- the arguments of a call are of level 1, so no comma operator is read there
  have hcall : op = .comma → ∀ f args more, stack ≠ .call f args :: more := by
    rintro rfl f args more rfl
    exact absurd hstack (Nat.not_succ_le_zero 0)
  obtain ⟨above, y, hc', hrun'⟩ :=
    hr.filled (.binary op l) stack (Nat.le_refl _) rfl (le_rightLevel _)
  refine ⟨above, y, hc', fun rest => ?_⟩
  simp only [List.append_assoc, List.cons_append, List.nil_append, hrun, run_operator_symbol,
    goOnWith_binary hs hleft hcall, Option.bind_some, hrun']

theorem conditional {c p n : Tree} {cs ps ns : List Terminal}
    (hc : Reads (.expr (leftLevel 1) c) cs) (hp : Reads (.expr 0 p) ps)
    (hn : Reads (.expr (rightLevel 1) n) ns) :
    Reads (.expr 1 (.conditional c p n)) (cs ++ [.symbol "?"] ++ ps ++ [.symbol ":"] ++ ns) := by
  intro stack hstack
  obtain ⟨left, x, hcc, hcrun⟩ := hc stack (hstack.mono (le_leftLevel _))
  have hleft : collapse (leftLevel 1) left x = (stack, c) :=
    (hcc _ (Nat.le_refl _)).trans (hstack.collapse_eq (by decide) c)
  obtain ⟨middle, y, hpc, hprun⟩ :=
    hp.collapse_zero (.choice c) stack (Nat.le_refl 0) fun _ => rfl
  obtain ⟨above, z, hnc, hnrun⟩ :=
    hn.filled (.otherwise c p) stack (Nat.le_refl _) rfl (le_rightLevel _)
  have hquestion : goOnWith left x "?" = some (.operand (.choice c :: stack)) := by
    simp [goOnWith, hleft]
  have hcolon : goOnWith middle y ":" = some (.operand (.otherwise c p :: stack)) := by
    simp [goOnWith, hpc]
  refine ⟨above, z, hnc, fun rest => ?_⟩
  simp only [List.append_assoc, List.cons_append, List.nil_append, hcrun, run_operator_symbol,
    hquestion, hprun, hcolon, Option.bind_some, hnrun]

theorem noArgs : Reads (.args []) [] := by
  intro stack f done rest hdone
  cases hdone rfl
  rfl

theorem oneArg (hx : Reads (.expr 1 x) ts) : Reads (.args [x]) ts := by
  intro stack f done rest _
  obtain ⟨above, y, hc, hrun⟩ :=
    hx.collapse_zero (.call f done) stack (Nat.le_refl 1) fun _ => rfl
  have hclose : goOnWith above y ")" = some (.operator stack (.call f (done ++ [x]))) := by
    simp [goOnWith, hc]
  rw [hrun, run_operator_symbol, hclose]
  rfl

theorem moreArgs {y : Tree} {ys : List Tree} (hx : Reads (.expr 1 x) ts)
    (hys : Reads (.args (y :: ys)) us) :
    Reads (.args (x :: y :: ys)) (ts ++ [.symbol ","] ++ us) := by
  intro stack f done rest _
  obtain ⟨above, z, hc, hrun⟩ :=
    hx.collapse_zero (.call f done) stack (Nat.le_refl 1) fun _ => rfl
  have hcomma : goOnWith above z "," = some (.operand (.call f (done ++ [x]) :: stack)) := by
    simp [goOnWith, hc]
  simp only [List.append_assoc, List.cons_append, List.nil_append, hrun, run_operator_symbol,
    hcomma, Option.bind_some]
  simpa using hys stack f (done ++ [x]) rest (by simp)

end Reads

theorem reads_of_derives {p : Phrase} {ts : List Terminal} (h : Derives p ts) : Reads p ts := by
  induction h with
  | @leaf t ht =>
    intro stack _
    refine ⟨stack, .leaf t, fun _ _ => rfl, fun rest => ?_⟩
    simp [run, step, ht]
  | group _ ih => exact ih.group
  | @weaken n t ts _ ih =>
    -- what takes an operand of level `n` also takes one of level `n + 1`
    intro stack hstack
    obtain ⟨above, x, hc, hrun⟩ := ih stack (hstack.mono (Nat.le_succ n))
    exact ⟨above, x, fun m hm => hc m (Nat.le_succ_of_le hm), hrun⟩
  | member _ hs hf ih => exact ih.member hs hf
  | call _ _ ihf ihxs => exact ihf.call ihxs
  | trailing _ hs ih => exact ih.trailing hs
  | leading hs _ ih => exact ih.leading hs
  | cast target _ ih => exact ih.cast target
  | binary _ hs _ ihl ihr => exact ihl.binary hs ihr
  | conditional _ _ _ ihc ihp ihn => exact ihc.conditional ihp ihn
  | noArgs => exact Reads.noArgs
  | oneArg _ ih => exact ih.oneArg
  | moreArgs _ _ ihx ihys => exact ihx.moreArgs ihys

end Reader

/-- What the grammar derives is read. -/
theorem read_of_derives {t : Tree} {ts : List Terminal} (h : Derives (.expr 0 t) ts) :
    read ts = some t := by
  obtain ⟨above, x, hc, hrun⟩ := Reader.reads_of_derives h [] trivial
  have hend : Reader.collapse 0 above x = ([], t) := hc 0 (Nat.le_refl 0)
  rw [read, ← List.append_nil ts, hrun, Reader.run, hend]

/-- No sequence of terminals has two trees. -/
theorem Derives.unique {t u : Tree} {ts : List Terminal} (ht : Derives (.expr 0 t) ts)
    (hu : Derives (.expr 0 u) ts) : t = u :=
  Option.some.inj ((read_of_derives ht).symm.trans (read_of_derives hu))

end ExprEmit
