import ExprEmit.Expr.Typing
import ExprEmit.Proofs.Structure

/-!
# The type cache remembers the right types

`Expr.Fits` says of a cache that every type in it is the type of the expression at its place.
Resolving the type of an expression through such a cache gives `Expr.type`, and leaves such a cache
behind (`Expr.resolves_resolve`).
-/

namespace ExprEmit

/-! ### Parts of a cache -/

namespace TypeCache

theorem getD_putAt (x : TypeCache) (i j : Nat) (cs : List TypeCache) :
    (putAt x i cs).getD j empty = if j = i then x else cs.getD j empty := by
  induction i generalizing j cs with
  | zero => cases cs <;> cases j <;> simp [putAt]
  | succ i ih =>
    cases cs with
    | nil =>
      cases j with
      | zero => simp [putAt]
      | succ j => simpa [putAt] using ih j []
    | cons c cs =>
      cases j with
      | zero => simp [putAt]
      | succ j => simpa [putAt] using ih j cs

theorem child_withChild (c x : TypeCache) (i j : Nat) :
    (c.withChild i x).child j = if j = i then x else c.child j :=
  getD_putAt x i j c.children

theorem atPath_empty (path : List Nat) : empty.atPath path = empty := by
  induction path with
  | nil => rfl
  | cons i path ih => exact ih

end TypeCache

namespace Expr

/-- The expression that a path of child numbers leads to. -/
def at? (e : Expr) : List Nat → Option Expr
  | [] => some e
  | i :: path => e.children[i]?.bind (·.at? path)

/-! ### Caches that fit -/

/-- Whether every type in the cache is the type of the expression at its place. -/
def Fits (e : Expr) (c : TypeCache) : Prop :=
  ∀ path x, e.at? path = some x → ∀ t ∈ (c.atPath path).slot, t.type = x.type

variable {e x : Expr} {c d : TypeCache} {i : Nat}

theorem fits_empty (e : Expr) : e.Fits .empty := by
  intro path x _ t ht
  rw [TypeCache.atPath_empty] at ht
  cases ht

theorem Fits.slot (h : e.Fits c) {t : SharedType} (ht : t ∈ c.slot) : t.type = e.type :=
  h [] e rfl t ht

theorem Fits.child (h : e.Fits c) (hx : e.children[i]? = some x) : x.Fits (c.child i) := by
  intro path y hy
  exact h (i :: path) y (by simpa [at?, hx] using hy)

theorem Fits.withChild (h : e.Fits c) (hx : e.children[i]? = some x) (hd : x.Fits d) :
    e.Fits (c.withChild i d) := by
  intro path y hy
  cases path with
  | nil => exact h [] y hy
  | cons j path =>
    rw [TypeCache.atPath, TypeCache.child_withChild]
    -- a path either goes through the child that has changed or past it
    by_cases hj : j = i
    · subst hj
      rw [if_pos rfl]
      exact hd path y (by simpa [at?, hx] using hy)
    · rw [if_neg hj]
      exact h (j :: path) y hy

theorem Fits.withSlot (h : e.Fits c) {t : SharedType} (ht : t.type = e.type) :
    e.Fits (c.withSlot t) := by
  intro path y hy u hu
  cases path with
  | nil =>
    obtain rfl : t = u := Option.some.inj hu
    obtain rfl : e = y := Option.some.inj hy
    exact ht
  | cons j path => exact h (j :: path) y hy u hu

/-! ### Resolving -/

/-- Whether an outcome has the type of the expression, and a cache that fits it. -/
def Resolves (e : Expr) (r : Resolved) : Prop := r.type.type = e.type ∧ e.Fits r.cache

/-- What is remembered is right, so recalling is as good as resolving. -/
theorem resolves_recall (h : e.Fits c) {fresh : Nat} {resolve : Unit → Resolved}
    (hr : e.Resolves (resolve ())) : e.Resolves (c.recall fresh resolve) := by
  rw [TypeCache.recall]
  split
  · next t ht => exact ⟨h.slot ht, h⟩
  · exact ⟨hr.1, hr.2.withSlot hr.1⟩

theorem resolves_share (h : e.Fits c) {t : SharedType} (ht : t.type = e.type) (fresh : Nat) :
    e.Resolves (.ofDerived (.share t fresh) c) :=
  ⟨ht, h⟩

theorem ofUnary_type (op : UnaryOp) (t : SharedType) (fresh : Nat) :
    (Derived.ofUnary op t fresh).type.type = op.resultType t.type := by
  cases op with
  | deref =>
    rw [Derived.ofUnary, UnaryOp.resultType, Ty.dereferenced]
    cases t.type.pointee? <;> rfl
  | _ => rfl

theorem ofCall_type (f : Element) (fresh : Nat) :
    (Derived.ofCall f fresh).type.type = f.type.type.called := by
  rw [Derived.ofCall, Ty.called]
  cases f.type.type.returns? <;> rfl

/-- Resolving a type through a cache that fits gives the type of the expression, and a cache that
fits. -/
theorem resolves_resolve (e : Expr) {c : TypeCache} (h : e.Fits c) (fresh : Nat) :
    e.Resolves (e.resolve c fresh) := by
  induction e generalizing c with
  | literal | string | access | member | cast =>
    exact resolves_recall h (resolves_share h rfl fresh)
  | call f args => exact resolves_recall h ⟨ofCall_type f fresh, h⟩
  | unary op x ih =>
    obtain ⟨htype, hfits⟩ := ih (h.child (i := 0) rfl)
    refine resolves_recall h ⟨?_, h.withChild (i := 0) rfl hfits⟩
    exact (ofUnary_type op _ _).trans (congrArg op.resultType htype)
  | binary op l r ihl ihr =>
    refine resolves_recall h ?_
    -- a comparison looks at neither operand, a comma at the right one, the others at the left one
    by_cases hbool : op.yieldsBool = true
    · rw [if_pos hbool]
      have : (binary op l r).type = .ofPrimitive .bool := by rw [type, if_pos hbool]
      exact ⟨this.symm, h⟩
    · rw [if_neg hbool]
      by_cases hcomma : op = .comma
      · obtain ⟨htype, hfits⟩ := ihr (h.child (i := 1) rfl)
        have : (binary op l r).type = r.type := by rw [type, if_neg hbool, if_pos hcomma]
        rw [if_pos hcomma]
        exact ⟨htype.trans this.symm, h.withChild rfl hfits⟩
      · obtain ⟨htype, hfits⟩ := ihl (h.child (i := 0) rfl)
        have : (binary op l r).type = l.type := by rw [type, if_neg hbool, if_neg hcomma]
        rw [if_neg hcomma]
        exact ⟨htype.trans this.symm, h.withChild rfl hfits⟩
  | conditional c p n _ ihp _ =>
    obtain ⟨htype, hfits⟩ := ihp (h.child (i := 1) rfl)
    exact resolves_recall h ⟨htype, h.withChild rfl hfits⟩

end Expr

end ExprEmit
