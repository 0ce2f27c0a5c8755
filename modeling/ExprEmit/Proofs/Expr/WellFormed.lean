import ExprEmit.Proofs.Dependency.Exact
import ExprEmit.Proofs.Expr.Cache

/-!
# Types that C++ does not have

C++ builds no pointer and no reference to a reference, no array of references or functions, and no
function that returns an array or a function.  A type is well formed if it is none of these and
contains none of them (`Ty.WellFormed`).

If the types that an expression names are well formed, then nearly all types that are resolved in it
are.  Most expressions pass on the type of an operand or a layer of it (`Ty.layers_dereferenced`,
`Ty.layers_called`).  The only one that builds a type is `&`, and it does not look through a
reference first: `&r` is a pointer to whatever `r` is.  So pointers to references are the only fault
that occurs, and they occur exactly if `&` is applied to something of reference type
(`Expr.fault_resolve`).
-/

namespace ExprEmit

namespace Ty

/-! ### Layers -/

mutual

/-- The type and all types inside it, each before what is inside it. -/
def layers : Ty → List Ty
  | primitive p c => [primitive p c]
  | named d c => [named d c]
  | pointer t c => pointer t c :: t.layers
  | reference t c => reference t c :: t.layers
  | array t b c => array t b c :: t.layers
  | function r ps c => function r ps c :: (r.layers ++ layersOfEach ps)

/-- The layers of each type of a list. -/
def layersOfEach : List Ty → List Ty
  | [] => []
  | t :: ts => t.layers ++ layersOfEach ts

end

/-- What is wrong with a layer of a type. -/
inductive Fault where
  | pointerToReference
  | referenceToReference
  | arrayOfReferences
  | arrayOfFunctions
  | functionReturningArray
  | functionReturningFunction
deriving DecidableEq

/-- What is wrong with the outermost layer of a type, if anything is. -/
def fault? : Ty → Option Fault
  | pointer (reference _ _) _ => some .pointerToReference
  | reference (reference _ _) _ => some .referenceToReference
  | array (reference _ _) _ _ => some .arrayOfReferences
  | array (function _ _ _) _ _ => some .arrayOfFunctions
  | function (array _ _ _) _ _ => some .functionReturningArray
  | function (function _ _ _) _ _ => some .functionReturningFunction
  | _ => none

/-- Whether nothing is wrong with any layer of the type. -/
def WellFormed (t : Ty) : Prop := ∀ u ∈ t.layers, u.fault? = none

instance (t : Ty) : Decidable t.WellFormed :=
  inferInstanceAs (Decidable (∀ u ∈ t.layers, u.fault? = none))

/-- Whether the type is a reference. -/
def isReference : Ty → Bool
  | reference _ _ => true
  | _ => false

theorem self_mem_layers (t : Ty) : t ∈ t.layers := by
  cases t <;> exact List.mem_cons_self

/-! ### Types of operations -/

theorem layers_dereferenced (t : Ty) : t.dereferenced.layers ⊆ t.layers := by
  cases t with
  | pointer t c | reference t c | array t b c => exact List.subset_cons_self _ _
  | _ => exact fun _ h => h

theorem layers_called (t : Ty) : t.called.layers ⊆ t.layers := by
  cases t with
  | function r ps c =>
    exact List.Subset.trans (List.subset_append_left _ _) (List.subset_cons_self _ _)
  | _ => exact fun _ h => h

theorem fault?_ptr (t : Ty) :
    t.ptr.fault? = if t.isReference then some .pointerToReference else none := by
  cases t <;> rfl

/-- A fault of the type of a unary expression is one of its operand, or comes from `&`. -/
theorem fault_resultType {op : UnaryOp} {t u : Ty} {f : Fault}
    (hu : u ∈ (op.resultType t).layers) (hf : u.fault? = some f) :
    u ∈ t.layers ∨ op = .addressOf ∧ t.isReference = true ∧ f = .pointerToReference := by
  cases op with
  | not =>
    obtain rfl := List.mem_singleton.mp hu
    cases hf
  | addressOf =>
    -- the layer that `&` adds is at fault over a reference only
    rcases List.mem_cons.mp hu with rfl | hu
    · have hptr := t.fault?_ptr
      rw [ptr, hf] at hptr
      split at hptr
      · next href => exact Or.inr ⟨rfl, href, Option.some.inj hptr⟩
      · cases hptr
    · exact Or.inl hu
  | deref => exact Or.inl (layers_dereferenced t hu)
  | _ => exact Or.inl hu

end Ty

namespace Expr

/-! ### Faults of resolved types -/

/-- Whether every type that the expression names is well formed. -/
def NamesWellFormed (e : Expr) : Prop := ∀ p ∈ e.parts, ∀ t ∈ p.ownType?, t.WellFormed

instance (e : Expr) : Decidable e.NamesWellFormed :=
  inferInstanceAs (Decidable (∀ p ∈ e.parts, ∀ t ∈ p.ownType?, t.WellFormed))

/-- Whether `&` is applied to something of reference type in the expression. -/
def PointsToReference (e : Expr) : Prop :=
  ∃ x, unary .addressOf x ∈ e.parts ∧ x.type.isReference = true

variable {e p x : Expr}

theorem NamesWellFormed.of_part (h : e.NamesWellFormed) (hp : p ∈ e.parts) : p.NamesWellFormed :=
  fun q hq => h q (parts_subset hp hq)

theorem NamesWellFormed.of_child (h : e.NamesWellFormed) (hx : x ∈ e.children) :
    x.NamesWellFormed :=
  h.of_part (parts_subset_of_mem_children hx (self_mem_parts x))

/-- A type that the expression names has no fault. -/
theorem NamesWellFormed.notMem (h : e.NamesWellFormed) {t u : Ty} (ht : e.ownType? = some t)
    {f : Ty.Fault} (hf : u.fault? = some f) : u ∉ t.layers := by
  intro hu
  rw [h e (self_mem_parts e) t ht u hu] at hf
  cases hf

theorem PointsToReference.of_part (h : p.PointsToReference) (hp : p ∈ e.parts) :
    e.PointsToReference := by
  obtain ⟨y, hy, href⟩ := h
  exact ⟨y, parts_subset hp hy, href⟩

theorem PointsToReference.of_child (h : x.PointsToReference) (hx : x ∈ e.children) :
    e.PointsToReference :=
  h.of_part (parts_subset_of_mem_children hx (self_mem_parts x))

/-- A fault in the type of an expression is a pointer to a reference, and comes from `&`. -/
theorem fault_type (h : e.NamesWellFormed) {u : Ty} (hu : u ∈ e.type.layers) {f : Ty.Fault}
    (hf : u.fault? = some f) : f = .pointerToReference ∧ e.PointsToReference := by
  induction e with
  | literal | string | access | member | cast => exact absurd hu (h.notMem rfl hf)
  | call g args => exact absurd (Ty.layers_called _ hu) (h.notMem rfl hf)
  | unary op x ih =>
    have hx : x ∈ (unary op x).children := List.mem_singleton.mpr rfl
    rcases Ty.fault_resultType hu hf with hu | ⟨rfl, href, rfl⟩
    · obtain ⟨rfl, hpoints⟩ := ih (h.of_child hx) hu
      exact ⟨rfl, hpoints.of_child hx⟩
    · exact ⟨rfl, x, self_mem_parts _, href⟩
  | binary op l r ihl ihr =>
    rw [type] at hu
    split at hu
    · obtain rfl := List.mem_singleton.mp hu
      cases hf
    · split at hu
      · have hr : r ∈ (binary op l r).children := by simp [children]
        obtain ⟨rfl, hpoints⟩ := ihr (h.of_child hr) hu
        exact ⟨rfl, hpoints.of_child hr⟩
      · have hl : l ∈ (binary op l r).children := by simp [children]
        obtain ⟨rfl, hpoints⟩ := ihl (h.of_child hl) hu
        exact ⟨rfl, hpoints.of_child hl⟩
  | conditional c p n _ ihp _ =>
    have hp : p ∈ (conditional c p n).children := by simp [children]
    obtain ⟨rfl, hpoints⟩ := ihp (h.of_child hp) hu
    exact ⟨rfl, hpoints.of_child hp⟩

/-- The type of `&` over something of reference type is not well formed. -/
theorem not_wellFormed_addressOf (h : x.type.isReference = true) :
    ¬(unary .addressOf x).type.WellFormed := by
  intro hwell
  have hnone : x.type.ptr.fault? = none := hwell _ (Ty.self_mem_layers _)
  rw [Ty.fault?_ptr, if_pos h] at hnone
  cases hnone

/-- Where the types that an expression names are well formed, the only fault of a resolved type is a
pointer to a reference, which `&` in the expression has made.  All of the resolved types are well
formed exactly if `&` is not applied to anything of reference type. -/
theorem fault_resolve (e : Expr) (h : e.NamesWellFormed) :
    (∀ p ∈ e.parts, ∀ c, p.Fits c → ∀ fresh,
      ∀ u ∈ (p.resolve c fresh).type.type.layers, ∀ f, u.fault? = some f →
        f = .pointerToReference ∧ p.PointsToReference) ∧
    ((∀ p ∈ e.parts, ∀ c, p.Fits c → ∀ fresh, (p.resolve c fresh).type.type.WellFormed) ↔
      ¬e.PointsToReference) := by
  have hfault : ∀ p ∈ e.parts, ∀ c, p.Fits c → ∀ fresh,
      ∀ u ∈ (p.resolve c fresh).type.type.layers, ∀ f, u.fault? = some f →
        f = .pointerToReference ∧ p.PointsToReference := by
    intro p hp c hc fresh u hu f hf
    rw [(resolves_resolve p hc fresh).1] at hu
    exact fault_type (h.of_part hp) hu hf
  refine ⟨hfault, ?_, ?_⟩
  · rintro hwell ⟨x, hx, href⟩
    have := hwell _ hx .empty (fits_empty _) SharedType.firstFresh
    rw [(resolves_resolve _ (fits_empty _) _).1] at this
    exact not_wellFormed_addressOf href this
  · intro hnone p hp c hc fresh u hu
    cases hf : u.fault? with
    | none => rfl
    | some f => exact absurd ((hfault p hp c hc fresh u hu f hf).2.of_part hp) hnone

/-- `&*p` resolves well, also where `p` is a reference to a pointer. -/
theorem fault_resolve_dereference :
    let p : Element := ⟨1, ⟨[], "p"⟩, ⟨1, (Ty.ofPrimitive .int).ptr.ref⟩, .variable⟩
    let e : Expr := unary .addressOf (unary .deref (access p))
    e.NamesWellFormed ∧ ∀ q ∈ e.parts, ∀ c, q.Fits c → ∀ fresh,
      (q.resolve c fresh).type.type.WellFormed := by
  intro p e
  have hwell : e.NamesWellFormed := by decide
  refine ⟨hwell, (fault_resolve e hwell).2.mpr ?_⟩
  rintro ⟨x, hx, href⟩
  obtain rfl : x = unary .deref (access p) := by simpa [e, parts] using hx
  cases href

/-- `&r` for a reference `r` to an integer is a pointer to a reference. -/
theorem resolve_addressOf_reference :
    let r : Element := ⟨1, ⟨[], "r"⟩, ⟨1, (Ty.ofPrimitive .int).ref⟩, .variable⟩
    let e : Expr := unary .addressOf (access r)
    let t : Ty := (e.resolve .empty 2).type.type
    e.NamesWellFormed ∧ t = (Ty.ofPrimitive .int).ref.ptr ∧ ¬t.WellFormed := by
  intro r e t
  refine ⟨by decide, rfl, fun hwell => ?_⟩
  cases hwell t (Ty.self_mem_layers t)

end Expr

end ExprEmit
