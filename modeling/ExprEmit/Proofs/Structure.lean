import ExprEmit.Expr.Basic

/-!
# Induction over types and expressions

A function type holds a list of types and a call a list of expressions.  `Ty.induct` and
`Expr.induct` give an induction hypothesis for each member of such a list.  `Ty.decls` lists the
declarations that a type is built from, and `Expr.parts` the expressions inside an expression.
-/

namespace ExprEmit

/-! ### Types -/

/-- Induction over types, with a hypothesis for each parameter of a function. -/
@[elab_as_elim, induction_eliminator]
theorem Ty.induct {P : Ty → Prop}
    (primitive : ∀ p c, P (.primitive p c))
    (named : ∀ d c, P (.named d c))
    (pointer : ∀ t c, P t → P (.pointer t c))
    (reference : ∀ t c, P t → P (.reference t c))
    (array : ∀ t b c, P t → P (.array t b c))
    (function : ∀ r ps c, P r → (∀ t ∈ ps, P t) → P (.function r ps c)) (t : Ty) : P t :=
  -- of a list of parameters, what is to be proved of each of them
  Ty.rec (motive_1 := P) (motive_2 := fun ts => ∀ t ∈ ts, P t) primitive named pointer reference
    array (fun r ps c hr hps => function r ps c hr hps) (fun _ h => nomatch h)
    (fun _ _ ht hts => List.forall_mem_cons.mpr ⟨ht, hts⟩) t

namespace Ty

mutual

/-- The declarations that a type is built from. -/
def decls : Ty → List TypeDecl
  | primitive _ _ => []
  | named d _ => [d]
  | pointer t _ | reference t _ | array t _ _ => t.decls
  | function r ps _ => r.decls ++ declsOfEach ps

/-- The declarations of each type of a list. -/
def declsOfEach : List Ty → List TypeDecl
  | [] => []
  | t :: ts => t.decls ++ declsOfEach ts

end

theorem mem_declsOfEach {d : TypeDecl} {ts : List Ty} :
    d ∈ declsOfEach ts ↔ ∃ t ∈ ts, d ∈ t.decls := by
  induction ts with
  | nil => simp [declsOfEach]
  | cons t ts ih => simp [declsOfEach, ih]

end Ty

/-! ### Expressions -/

/-- Induction over expressions, with a hypothesis for each argument of a call. -/
@[elab_as_elim, induction_eliminator]
theorem Expr.induct {P : Expr → Prop}
    (literal : ∀ t v, P (.literal t v))
    (string : ∀ v, P (.string v))
    (access : ∀ x, P (.access x))
    (member : ∀ b f a, P b → P (.member b f a))
    (call : ∀ f args, (∀ x ∈ args, P x) → P (.call f args))
    (unary : ∀ op x, P x → P (.unary op x))
    (binary : ∀ op l r, P l → P r → P (.binary op l r))
    (conditional : ∀ c p n, P c → P p → P n → P (.conditional c p n))
    (cast : ∀ t x, P x → P (.cast t x)) (e : Expr) : P e :=
  Expr.rec (motive_1 := P) (motive_2 := fun es => ∀ e ∈ es, P e) literal string access member call
    unary binary conditional cast (fun _ h => nomatch h)
    (fun _ _ he hes => List.forall_mem_cons.mpr ⟨he, hes⟩) e

namespace Expr

mutual

/-- The expression and all expressions inside it, each before what is inside it. -/
def parts : Expr → List Expr
  | literal t v => [literal t v]
  | string v => [string v]
  | access x => [access x]
  | member b f a => member b f a :: b.parts
  | call f args => call f args :: partsOfEach args
  | unary op x => unary op x :: x.parts
  | binary op l r => binary op l r :: (l.parts ++ r.parts)
  | conditional c p n => conditional c p n :: (c.parts ++ p.parts ++ n.parts)
  | cast t x => cast t x :: x.parts

/-- The parts of each expression of a list. -/
def partsOfEach : List Expr → List Expr
  | [] => []
  | x :: xs => x.parts ++ partsOfEach xs

end

theorem mem_partsOfEach {p : Expr} {es : List Expr} :
    p ∈ partsOfEach es ↔ ∃ e ∈ es, p ∈ e.parts := by
  induction es with
  | nil => simp [partsOfEach]
  | cons e es ih => simp [partsOfEach, ih]

theorem parts_eq (e : Expr) : e.parts = e :: partsOfEach e.children := by
  cases e <;> simp [parts, partsOfEach, children]

theorem mem_parts {e p : Expr} : p ∈ e.parts ↔ p = e ∨ ∃ x ∈ e.children, p ∈ x.parts := by
  rw [parts_eq, List.mem_cons, mem_partsOfEach]

theorem self_mem_parts (e : Expr) : e ∈ e.parts := mem_parts.mpr (Or.inl rfl)

theorem parts_subset_of_mem_children {e x : Expr} (hx : x ∈ e.children) : x.parts ⊆ e.parts :=
  fun _ hp => mem_parts.mpr (Or.inr ⟨x, hx, hp⟩)

/-- Induction over expressions, with a hypothesis for each expression directly inside. -/
theorem inductOnChildren {P : Expr → Prop} (step : ∀ e, (∀ x ∈ e.children, P x) → P e) (e : Expr) :
    P e := by
  induction e with
  | literal t v => exact step _ (by simp [children])
  | string v => exact step _ (by simp [children])
  | access x => exact step _ (by simp [children])
  | member b f a ih => exact step _ (by simpa [children] using ih)
  | call f args ih => exact step _ ih
  | unary op x ih => exact step _ (by simpa [children] using ih)
  | binary op l r ihl ihr => exact step _ (by simpa [children] using ⟨ihl, ihr⟩)
  | conditional c p n ihc ihp ihn => exact step _ (by simpa [children] using ⟨ihc, ihp, ihn⟩)
  | cast t x ih => exact step _ (by simpa [children] using ih)

/-- The parts of a part are parts. -/
theorem parts_subset {e p : Expr} (h : p ∈ e.parts) : p.parts ⊆ e.parts := by
  induction e using inductOnChildren with
  | step e ih =>
    rcases mem_parts.mp h with rfl | ⟨x, hx, hp⟩
    · exact fun _ hq => hq
    · exact fun _ hq => parts_subset_of_mem_children hx (ih x hx hp hq)

end Expr

end ExprEmit
