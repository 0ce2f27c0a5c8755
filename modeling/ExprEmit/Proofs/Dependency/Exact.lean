import ExprEmit.Proofs.Dependency.List
import ExprEmit.Proofs.Dependency.OfExpr

/-!
# An expression registers what it uses

`Expr.require_exact`: what an empty dependency list holds after an expression has been registered.
Elements are there if the expression names them by themselves, types if they stand in a type that
the expression names, and definitions if such a type holds them by value, if a member access looks
into them, or if they have no forward declaration.

The list of what is registered comes from the parts of the expression, one by one
(`mem_requirements`).  The type that a member access looks into is not named by the expression
itself, but what it is built from is (`mentions_of_mem_decls`).
-/

namespace ExprEmit

namespace Expr

/-! ### What an expression uses -/

/-- The type that an expression names, apart from those inside its operands: that of an element or a
literal, or the target of a cast. -/
def ownType? : Expr → Option Ty
  | literal t _ => some t.type
  | string _ => some SharedType.ofStrings.type
  | access x => some x.type.type
  | member _ f _ => some f.type.type
  | call f _ => some f.type.type
  | cast t _ => some t.type
  | _ => none

/-- Whether the declaration stands in a type that the expression names. -/
def Mentions (e : Expr) (d : TypeDecl) : Prop := ∃ p ∈ e.parts, ∃ t ∈ p.ownType?, d ∈ t.decls

/-- Whether a type that the expression names holds the declaration by value. -/
def HoldsByValue (e : Expr) (d : TypeDecl) : Prop :=
  ∃ p ∈ e.parts, ∃ t ∈ p.ownType?, t.HoldsByValue d

/-- Whether a member access of the expression looks into the declaration. -/
def LooksInto (e : Expr) (d : TypeDecl) : Prop :=
  ∃ b f arrow, member b f arrow ∈ e.parts ∧ b.type.stripped.HoldsByValue d

/-- Whether the expression needs the definition of the declaration. -/
def NeedsDefinition (e : Expr) (d : TypeDecl) : Prop :=
  e.HoldsByValue d ∨ e.LooksInto d ∨ e.Mentions d ∧ (d.kind = .enum ∨ d.kind = .typedef)

/-! ### What is registered -/

/-- What is registered for an expression, apart from its operands. -/
def ownRequirements : Expr → List Dependency
  | access x => .element x :: x.type.type.requirements
  | call f _ => .element f :: f.type.type.requirements
  | member b f _ => b.type.stripped.requirements ++ f.type.type.requirements
  | literal t _ => t.type.requirements
  | string _ => SharedType.ofStrings.type.requirements
  | cast t _ => t.type.requirements
  | _ => []

theorem mem_argRequirements {d : Dependency} {args : List Expr} :
    d ∈ argRequirements args ↔ ∃ x ∈ args, d ∈ x.requirements := by
  induction args with
  | nil => simp [argRequirements]
  | cons x xs ih => simp [argRequirements, ih]

theorem mem_requirements_step {e : Expr} {d : Dependency} :
    d ∈ e.requirements ↔ d ∈ e.ownRequirements ∨ ∃ x ∈ e.children, d ∈ x.requirements := by
  cases e with
  | member b f a =>
    simp only [requirements, ownRequirements, children, Ty.insideRequirements_eq, List.mem_append,
      List.mem_singleton, exists_eq_left]
    rw [or_assoc, or_comm]
  | _ => simp [requirements, ownRequirements, children, mem_argRequirements, or_assoc]

/-- What is registered for an expression is what is registered for each of its parts. -/
theorem mem_requirements {e : Expr} {d : Dependency} :
    d ∈ e.requirements ↔ ∃ p ∈ e.parts, d ∈ p.ownRequirements := by
  induction e using inductOnChildren with
  | step e ih =>
    rw [mem_requirements_step]
    constructor
    · rintro (h | ⟨x, hx, h⟩)
      · exact ⟨e, self_mem_parts e, h⟩
      · obtain ⟨p, hp, hd⟩ := (ih x hx).mp h
        exact ⟨p, parts_subset_of_mem_children hx hp, hd⟩
    · rintro ⟨p, hp, hd⟩
      rcases mem_parts.mp hp with rfl | ⟨x, hx, hp⟩
      · exact Or.inl hd
      · exact Or.inr ⟨x, hx, (ih x hx).mpr ⟨p, hp, hd⟩⟩

theorem element_mem_requirements_iff {e : Expr} {x : Element} :
    Dependency.element x ∈ e.requirements ↔
      access x ∈ e.parts ∨ ∃ args, call x args ∈ e.parts := by
  rw [mem_requirements]
  constructor
  · rintro ⟨p, hp, h⟩
    cases p <;> simp [ownRequirements, Ty.element_notMem_requirements] at h
    · subst h
      exact Or.inl hp
    · subst h
      exact Or.inr ⟨_, hp⟩
  · rintro (hp | ⟨args, hp⟩)
    · exact ⟨_, hp, List.mem_cons_self⟩
    · exact ⟨_, hp, List.mem_cons_self⟩

/-! ### Types of bases -/

theorem Mentions.of_child {e x : Expr} (hx : x ∈ e.children) {d : TypeDecl} (h : x.Mentions d) :
    e.Mentions d := by
  obtain ⟨p, hp, h⟩ := h
  exact ⟨p, parts_subset_of_mem_children hx hp, h⟩

theorem Mentions.of_ownType {e : Expr} {t : Ty} (ht : e.ownType? = some t) {d : TypeDecl}
    (hd : d ∈ t.decls) : e.Mentions d :=
  ⟨e, self_mem_parts e, t, ht, hd⟩

theorem decls_dereferenced (t : Ty) : t.dereferenced.decls ⊆ t.decls := by
  cases t <;> exact fun _ h => h

theorem decls_called (t : Ty) : t.called.decls ⊆ t.decls := by
  cases t with
  | function r ps c => exact List.subset_append_left _ _
  | _ => exact fun _ h => h

theorem decls_resultType (op : UnaryOp) (t : Ty) : (op.resultType t).decls ⊆ t.decls := by
  cases op with
  | not => exact List.nil_subset _
  | deref => exact decls_dereferenced t
  | _ => exact fun _ h => h

/-- The type of an expression is built from declarations that the expression mentions. -/
theorem mentions_of_mem_decls {e : Expr} {d : TypeDecl} (h : d ∈ e.type.decls) : e.Mentions d := by
  induction e with
  | literal | string | access | member | cast => exact .of_ownType rfl h
  | call f args => exact .of_ownType rfl (decls_called _ h)
  | unary op x ih =>
    exact (ih (decls_resultType op _ h)).of_child (by simp [children])
  | binary op l r ihl ihr =>
    rw [type] at h
    split at h
    · cases h
    · split at h
      · exact (ihr h).of_child (by simp [children])
      · exact (ihl h).of_child (by simp [children])
  | conditional c p n _ ihp _ => exact (ihp h).of_child (by simp [children])

/-! ### Needs -/

theorem decls_stripped (t : Ty) : t.stripped.decls ⊆ t.decls := by
  cases t <;> exact fun _ h => h

/-- The expressions that a type is registered for. -/
theorem type_mem_ownRequirements_iff {p : Expr} {d : TypeDecl} {s : Strength} :
    Dependency.type d s ∈ p.ownRequirements ↔
      (∃ t ∈ p.ownType?, Dependency.type d s ∈ t.requirements) ∨
        ∃ b f arrow, p = member b f arrow ∧ Dependency.type d s ∈ b.type.stripped.requirements := by
  cases p <;> simp [ownRequirements, ownType?, or_comm]

/-- A type is registered if the expression mentions it. -/
theorem exists_type_mem_requirements_iff {e : Expr} {d : TypeDecl} :
    (∃ s, Dependency.type d s ∈ e.requirements) ↔ e.Mentions d := by
  simp only [mem_requirements, type_mem_ownRequirements_iff]
  constructor
  · rintro ⟨s, p, hp, ⟨t, ht, hd⟩ | ⟨b, f, arrow, rfl, hd⟩⟩
    · exact ⟨p, hp, t, ht, Ty.exists_mem_requirements_iff.mp ⟨s, hd⟩⟩
    · -- what a base is built from is mentioned inside the base
      have hdecls := decls_stripped _ (Ty.exists_mem_requirements_iff.mp ⟨s, hd⟩)
      obtain ⟨q, hq, h⟩ := (mentions_of_mem_decls hdecls).of_child
        (e := member b f arrow) (by simp [children])
      exact ⟨q, parts_subset hp hq, h⟩
  · rintro ⟨p, hp, t, ht, hd⟩
    obtain ⟨s, hs⟩ := Ty.exists_mem_requirements_iff.mpr hd
    exact ⟨s, p, hp, Or.inl ⟨t, ht, hs⟩⟩

/-- A definition is registered if the expression needs it. -/
theorem definition_mem_requirements_iff {e : Expr} {d : TypeDecl} :
    Dependency.type d .definition ∈ e.requirements ↔ e.NeedsDefinition d := by
  constructor
  · intro h
    have hmentions := exists_type_mem_requirements_iff.mp ⟨_, h⟩
    obtain ⟨p, hp, hd⟩ := mem_requirements.mp h
    rcases type_mem_ownRequirements_iff.mp hd with ⟨t, ht, ht'⟩ | ⟨b, f, arrow, rfl, hb⟩
    · rcases Ty.definition_mem_requirements_iff.mp ht' with hvalue | ⟨-, hkind⟩
      · exact Or.inl ⟨p, hp, t, ht, hvalue⟩
      · exact Or.inr (Or.inr ⟨hmentions, hkind⟩)
    · rcases Ty.definition_mem_requirements_iff.mp hb with hvalue | ⟨-, hkind⟩
      · exact Or.inr (Or.inl ⟨b, f, arrow, hp, hvalue⟩)
      · exact Or.inr (Or.inr ⟨hmentions, hkind⟩)
  · rintro (⟨p, hp, t, ht, hvalue⟩ | ⟨b, f, arrow, hp, hvalue⟩ | ⟨⟨p, hp, t, ht, hd⟩, hkind⟩)
    · exact mem_requirements.mpr ⟨p, hp, type_mem_ownRequirements_iff.mpr
        (Or.inl ⟨t, ht, Ty.definition_mem_requirements_iff.mpr (Or.inl hvalue)⟩)⟩
    · exact mem_requirements.mpr ⟨_, hp, type_mem_ownRequirements_iff.mpr
        (Or.inr ⟨b, f, arrow, rfl, Ty.definition_mem_requirements_iff.mpr (Or.inl hvalue)⟩)⟩
    · exact mem_requirements.mpr ⟨p, hp, type_mem_ownRequirements_iff.mpr
        (Or.inl ⟨t, ht, Ty.definition_mem_requirements_iff.mpr (Or.inr ⟨hd, hkind⟩)⟩)⟩

/-! ### The list after an expression -/

/-- Registering an expression in an empty dependency list succeeds and leaves the elements that the
expression names by themselves, and the types that it mentions, as definitions where it needs them.
It does so with an empty type cache (`fits_empty`) and with whatever earlier sweeps have left there
(`performs_require`). -/
theorem require_exact (e : Expr) {c : TypeCache} (hc : e.Fits c) (fresh : Nat) :
    let reply := e.require DependencyList.registry ⟨.empty, c, fresh⟩
    let list := reply.state.registry
    reply.accepted = true ∧
      (∀ x, list.containsElement x = true ↔
        ∃ y, y.id = x.id ∧ (access y ∈ e.parts ∨ ∃ args, call y args ∈ e.parts)) ∧
      ∀ D,
        ((list.strength? D).isSome = true ↔ ∃ d, d.id = D.id ∧ e.Mentions d) ∧
        (list.strength? D = some .definition ↔ ∃ d, d.id = D.id ∧ e.NeedsDefinition d) ∧
        (list.strength? D = some .declaration ↔
          (∃ d, d.id = D.id ∧ e.Mentions d) ∧ ¬∃ d, d.id = D.id ∧ e.NeedsDefinition d) := by
  obtain ⟨haccepted, hstate, -⟩ :=
    performs_require DependencyList.registry e ⟨.empty, c, fresh⟩ hc
  obtain ⟨htrue, hlist⟩ := DependencyList.offerAll_registry e.requirements .empty
  intro reply list
  have hlist' : list = DependencyList.empty.insertAll e.requirements := hstate.trans hlist
  have hsome : ∀ D, (list.strength? D).isSome = true ↔ ∃ d, d.id = D.id ∧ e.Mentions d := by
    intro D
    rw [hlist', DependencyList.isSome_strength?_insertAll_empty]
    simp only [exists_type_mem_requirements_iff]
  have hdefinition : ∀ D, list.strength? D = some .definition ↔
      ∃ d, d.id = D.id ∧ e.NeedsDefinition d := by
    intro D
    rw [hlist', DependencyList.strength?_insertAll_empty_eq_definition]
    simp only [definition_mem_requirements_iff]
  refine ⟨haccepted.trans htrue, fun x => ?_, fun D => ⟨hsome D, hdefinition D, ?_⟩⟩
  · rw [hlist', DependencyList.containsElement_insertAll_empty]
    simp only [element_mem_requirements_iff]
  · rw [← hsome, ← hdefinition]
    cases list.strength? D with
    | none => simp
    | some s => cases s <;> simp

/-- `p->f` names `p` only, looks into what `p` points to, and mentions what `f` points to. -/
theorem require_exact_arrow :
    let S : TypeDecl := ⟨1, ⟨[], "S"⟩, .struct⟩
    let T : TypeDecl := ⟨2, ⟨[], "T"⟩, .class_⟩
    let p : Element := ⟨1, ⟨[], "p"⟩, ⟨1, (Ty.ofDecl S).ptr⟩, .variable⟩
    let f : Element := ⟨2, ⟨[], "f"⟩, ⟨2, (Ty.ofDecl T).ptr⟩, .field⟩
    let e : Expr := member (access p) f true
    let list := (e.require DependencyList.registry ⟨.empty, .empty, 3⟩).state.registry
    e.Fits .empty ∧ list.containsElement p = true ∧ list.containsElement f = false ∧
      list.strength? S = some .definition ∧ list.strength? T = some .declaration := by
  intro S T p f e list
  obtain ⟨-, helements, htypes⟩ := require_exact e (fits_empty e) 3
  have hparts : e.parts = [e, access p] := rfl
  have hS : e.NeedsDefinition S :=
    Or.inr (Or.inl
      ⟨access p, f, true, by simp [hparts, e], ⟨S, []⟩, List.mem_cons_self, rfl, rfl⟩)
  have hT : e.Mentions T := ⟨e, self_mem_parts e, _, rfl, List.mem_cons_self⟩
  have hnotT : ¬∃ d, d.id = T.id ∧ e.NeedsDefinition d := by
    have hlist : list.strength? T = some .declaration := rfl
    rw [← (htypes T).2.1, hlist]
    decide
  refine ⟨fits_empty e, (helements p).mpr ⟨p, rfl, by simp [hparts]⟩, ?_,
    (htypes S).2.1.mpr ⟨S, rfl, hS⟩, (htypes T).2.2.mpr ⟨⟨T, rfl, hT⟩, hnotT⟩⟩
  rw [Bool.eq_false_iff, ne_eq, helements]
  rintro ⟨y, hid, h⟩
  obtain rfl : y = p := by simpa [hparts, e] using h
  cases hid

end Expr

end ExprEmit
