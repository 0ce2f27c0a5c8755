import ExprEmit.Proofs.Dependency.Exact

/-!
# Member access and definitions

A member access looks into a class, through references, a pointer or an array.  `Layers ls d t` says
that the type `t` is the declaration `d` within such layers.

The access registers what its base would need without its outermost pointer or reference.  So it
makes sure of the definition of the class exactly where every layer below the outermost one is an
array (`looksInto_iff`).  A reference to a pointer and the address of a reference have an indirection
there, and their class stays declared only (`looksInto_only_declares`).
-/

namespace ExprEmit

/-- A layer that a member access may look through. -/
inductive Layer where
  | pointer | reference | array
deriving DecidableEq

/-- Whether a type is the declaration `d` within the layers `ls`, the outermost first. -/
inductive Layers (d : TypeDecl) : List Layer → Ty → Prop where
  | named (isConst : Bool) : Layers d [] (.named d isConst)
  | pointer {ls : List Layer} {t : Ty} (h : Layers d ls t) (isConst : Bool) :
      Layers d (.pointer :: ls) (.pointer t isConst)
  | reference {ls : List Layer} {t : Ty} (h : Layers d ls t) (isConst : Bool) :
      Layers d (.reference :: ls) (.reference t isConst)
  | array {ls : List Layer} {t : Ty} (h : Layers d ls t) (bound : Option Nat) (isConst : Bool) :
      Layers d (.array :: ls) (.array t bound isConst)

/-- What a layer does with the type inside. -/
def Layer.shell : Layer → Shell
  | pointer | reference => .indirection
  | array => .element

/-- The definition is needed within layers of which none is a pointer or a reference. -/
theorem foldl_need_eq_definition_iff (ls : List Layer) (s : Strength) :
    (ls.map Layer.shell).foldl Shell.need s = .definition ↔
      s = .definition ∧ ∀ l ∈ ls, l = .array := by
  induction ls generalizing s with
  | nil => simp
  | cons l ls ih => cases l <;> simp [ih, Layer.shell, Shell.need]

namespace Layers

variable {d : TypeDecl} {ls : List Layer} {t : Ty}

theorem occurrences (h : Layers d ls t) : t.occurrences = [⟨d, ls.map Layer.shell⟩] := by
  induction h with
  | named => rfl
  | pointer _ _ ih | reference _ _ ih | array _ _ _ ih =>
    rw [Ty.occurrences, ih]
    rfl

/-- A value of a class within layers needs the definition of the class, and of nothing else, if
every layer is an array. -/
theorem definition_mem_requirements_iff (h : Layers d ls t)
    (hd : d.kind.isForwardDeclarable = true) {D : TypeDecl} :
    Dependency.type D .definition ∈ t.requirements ↔ D = d ∧ ∀ l ∈ ls, l = .array := by
  have hneed : d.kind.atLeast ((ls.map Layer.shell).foldl Shell.need .definition) = .definition ↔
      ∀ l ∈ ls, l = .array := by
    simp [DeclKind.atLeast, hd, foldl_need_eq_definition_iff]
  rw [Ty.requirements, Ty.requirementsAs_eq_map, h.occurrences, ← hneed]
  simp [Occurrence.dependency, Occurrence.need, eq_comm]

/-- Without its outermost pointer or reference, the type is the declaration within other layers, of
which every one is an array if every one below the outermost was. -/
theorem stripped (h : Layers d ls t) :
    ∃ ls', Layers d ls' t.stripped ∧ ((∀ l ∈ ls', l = .array) ↔ ∀ l ∈ ls.tail, l = .array) := by
  cases h with
  | named c => exact ⟨[], .named c, Iff.rfl⟩
  | pointer h c | reference h c => exact ⟨_, h, Iff.rfl⟩
  | array h b c => exact ⟨_, h.array b c, by simp⟩

end Layers

namespace Expr

variable {d : TypeDecl} {ls : List Layer} {t : Ty}

/-- A dependency list knows the definition of a declaration after an expression has been registered
if it has known it before, or if the expression requires it. -/
theorem strength?_require_eq_definition_iff (e : Expr) {c : TypeCache} (hc : e.Fits c)
    (l : DependencyList) (fresh : Nat) (D : TypeDecl) :
    let reply := e.require DependencyList.registry ⟨l, c, fresh⟩
    reply.accepted = true ∧
      (reply.state.registry.strength? D = some .definition ↔
        l.strength? D = some .definition ∨
          ∃ d : TypeDecl, d.id = D.id ∧ .type d .definition ∈ e.requirements) := by
  obtain ⟨haccepted, hstate, -⟩ := e.performs_require DependencyList.registry ⟨l, c, fresh⟩ hc
  obtain ⟨htrue, hlist⟩ := DependencyList.offerAll_registry e.requirements l
  refine ⟨haccepted.trans htrue, ?_⟩
  rw [hstate, hlist, DependencyList.strength?_insertAll_eq_definition]
  simp only [DependencyList.needIn_eq_some_iff]
  refine or_congr_right ⟨?_, ?_⟩
  · rintro ⟨_, hmem, d, hid, rfl⟩
    exact ⟨d, hid, hmem⟩
  · rintro ⟨d, hid, hmem⟩
    exact ⟨_, hmem, d, hid, rfl⟩

/-- A base within layers that are arrays below the outermost one requires the definition. -/
theorem definition_mem_requirements_of_member {e b : Expr} {f : Element} {arrow : Bool}
    (hmem : member b f arrow ∈ e.parts) (hb : Layers d ls b.type)
    (hd : d.kind.isForwardDeclarable = true) (hls : ∀ l ∈ ls.tail, l = .array) :
    .type d .definition ∈ e.requirements := by
  obtain ⟨ls', hstripped, hls'⟩ := hb.stripped
  have hinside := (hstripped.definition_mem_requirements_iff hd).mpr ⟨rfl, hls'.mpr hls⟩
  exact mem_requirements.mpr ⟨_, hmem, List.mem_append_left _ hinside⟩

/-- An access to a field of built-in type requires the definition only if it makes sure of it. -/
theorem forall_eq_array_of_definition_mem_requirements {x f : Element}
    (hx : Layers d ls x.type.type) (hf : f.type.type = .ofPrimitive .int)
    (hd : d.kind.isForwardDeclarable = true) {D : TypeDecl}
    (h : .type D .definition ∈ (member (access x) f true).requirements) :
    ∀ l ∈ ls.tail, l = .array := by
  obtain ⟨ls', hstripped, hls'⟩ := hx.stripped
  have hint : (Ty.ofPrimitive .int).requirements = [] := rfl
  simp only [requirements, type, hf, hint, Ty.insideRequirements_eq, List.append_nil,
    List.cons_append, List.mem_cons, List.mem_append, reduceCtorEq, false_or] at h
  rcases h with hvalue | hinside
  · have hall := ((hx.definition_mem_requirements_iff hd).mp hvalue).2
    exact fun l hl => hall l (List.mem_of_mem_tail hl)
  · exact hls'.mp ((hstripped.definition_mem_requirements_iff hd).mp hinside).2

/-! ### What a member access makes sure of -/

/-- An access to a member of a class within layers makes sure of the definition of the class, in
whatever expression and list, exactly where every layer below the outermost one is an array. -/
theorem looksInto_iff {t : Ty} {ls : List Layer} {d : TypeDecl} (ht : Layers d ls t)
    (hd : d.kind.isForwardDeclarable = true) :
    (∀ (e b : Expr) (f : Element) (arrow : Bool) (c : TypeCache) (l : DependencyList) (fresh : Nat),
      member b f arrow ∈ e.parts → b.type = t → e.Fits c →
        let reply := e.require DependencyList.registry ⟨l, c, fresh⟩
        reply.accepted = true ∧ reply.state.registry.strength? d = some .definition) ↔
      ∀ layer ∈ ls.tail, layer = .array := by
  constructor
  · intro h
    -- a variable of the type, and a field that needs no declaration
    let x : Element := ⟨0, ⟨[], "x"⟩, ⟨1, t⟩, .variable⟩
    let f : Element := ⟨1, ⟨[], "f"⟩, ⟨2, .ofPrimitive .int⟩, .field⟩
    let e := member (access x) f true
    obtain ⟨-, hdefinition⟩ := h e (access x) f true .empty .empty 3 (self_mem_parts e) rfl
      e.fits_empty
    obtain ⟨-, hiff⟩ := e.strength?_require_eq_definition_iff e.fits_empty .empty 3 d
    rcases hiff.mp hdefinition with hempty | ⟨D, -, hmem⟩
    · cases hempty
    · exact forall_eq_array_of_definition_mem_requirements (x := x) ht rfl hd hmem
  · rintro hls e b f arrow c l fresh hmem rfl hc
    obtain ⟨haccepted, hiff⟩ := e.strength?_require_eq_definition_iff hc l fresh d
    exact ⟨haccepted, hiff.mpr
      (Or.inr ⟨d, rfl, definition_mem_requirements_of_member hmem ht hd hls⟩)⟩

/-- A reference to an array leads to the class by value, so `-r.f` makes sure of its definition. -/
theorem looksInto_array_reference :
    let S : TypeDecl := ⟨1, ⟨[], "S"⟩, .struct⟩
    let t := ((Ty.ofDecl S).arrayOf (some 4)).ref
    let r : Element := ⟨1, ⟨[], "r"⟩, ⟨1, t⟩, .variable⟩
    let f : Element := ⟨2, ⟨[], "f"⟩, ⟨2, .ofPrimitive .int⟩, .field⟩
    let e := unary .negate (member (access r) f false)
    Layers S [.reference, .array] t ∧ S.kind.isForwardDeclarable = true ∧
      (e.require DependencyList.registry ⟨.empty, .empty, 3⟩).state.registry.strength? S =
        some .definition := by
  intro S t r f e
  have ht : Layers S [.reference, .array] t := ((Layers.named false).array _ _).reference _
  refine ⟨ht, rfl, ?_⟩
  have hsure := (looksInto_iff ht rfl).mpr (by simp)
  exact (hsure e (access r) f false .empty .empty 3 (by simp [e, parts]) rfl e.fits_empty).2

/-- A reference to a pointer, and the address of a reference, lead to a class through one pointer,
and an access to a member of the class leaves it declared only. -/
theorem looksInto_only_declares :
    let S : TypeDecl := ⟨1, ⟨[], "S"⟩, .class_⟩
    let p : Element := ⟨1, ⟨[], "p"⟩, ⟨1, (Ty.ofDecl S).ptr.ref⟩, .variable⟩
    let r : Element := ⟨2, ⟨[], "r"⟩, ⟨2, (Ty.ofDecl S).ref⟩, .variable⟩
    let f : Element := ⟨3, ⟨[], "f"⟩, ⟨3, .ofPrimitive .int⟩, .field⟩
    let through (b : Expr) := (member b f true).require DependencyList.registry ⟨.empty, .empty, 4⟩
    (Layers S [.reference, .pointer] (access p).type ∧ (through (access p)).accepted = true ∧
        (through (access p)).state.registry.strength? S = some .declaration) ∧
      Layers S [.pointer, .reference] (unary .addressOf (access r)).type ∧
        (through (unary .addressOf (access r))).accepted = true ∧
        (through (unary .addressOf (access r))).state.registry.strength? S = some .declaration :=
  ⟨⟨((Layers.named false).pointer false).reference false, rfl, rfl⟩,
    ((Layers.named false).reference false).pointer false, rfl, rfl⟩

end Expr

end ExprEmit
