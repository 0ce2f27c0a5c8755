import ExprEmit.Dependency.OfType
import ExprEmit.Proofs.Acceptor
import ExprEmit.Proofs.Structure

/-!
# Where a type needs definitions

`Ty.occurrences` lists the declarations that a type is built from, each with the layers around it.
What a value of the type needs is exactly these declarations, in this order, and the definition of
those that are held by value or have no forward declaration (`Ty.requirementsAs_eq_map`,
`Ty.definition_mem_requirements_iff`).
-/

namespace ExprEmit

/-! ### Occurrences -/

/-- A layer of a type, by what it does with the types inside. -/
inductive Shell where
  /-- A pointer or a reference. -/
  | indirection
  /-- An array. -/
  | element
  /-- A function, around its parameters and its result. -/
  | signature
deriving DecidableEq

/-- A place in a type where a declaration stands. -/
structure Occurrence where
  decl : TypeDecl
  /-- The layers around it, from the outermost in. -/
  shells : List Shell

namespace Occurrence

/-- The same place inside one more layer. -/
def inside (l : Shell) (o : Occurrence) : Occurrence := ⟨o.decl, l :: o.shells⟩

/-- Whether no pointer or reference stands between the declaration and the innermost function around
it, or the whole type if there is none. -/
def isByValue (o : Occurrence) : Bool :=
  !(o.shells.reverse.takeWhile (· ≠ .signature)).contains .indirection

end Occurrence

namespace Ty

mutual

/-- The places of a type where declarations stand, from left to right. -/
def occurrences : Ty → List Occurrence
  | primitive _ _ => []
  | named d _ => [⟨d, []⟩]
  | pointer t _ | reference t _ => t.occurrences.map (.inside .indirection)
  | array t _ _ => t.occurrences.map (.inside .element)
  | function r ps _ => (r.occurrences ++ occurrencesOfEach ps).map (.inside .signature)

/-- The places of each type of a list. -/
def occurrencesOfEach : List Ty → List Occurrence
  | [] => []
  | t :: ts => t.occurrences ++ occurrencesOfEach ts

end

/-- The type without its outermost layer, if that is a pointer or a reference. -/
def stripped : Ty → Ty
  | pointer t _ | reference t _ => t
  | t => t

/-- Whether a value of the type holds the declaration `d` by value. -/
def HoldsByValue (t : Ty) (d : TypeDecl) : Prop :=
  ∃ o ∈ t.occurrences, o.isByValue = true ∧ o.decl = d

end Ty

/-! ### Needs along the layers -/

/-- What is needed inside a layer where `s` is needed of the whole. -/
def Shell.need (s : Strength) : Shell → Strength
  | indirection => .declaration
  | element => s
  | signature => .definition

namespace Occurrence

/-- What is needed at a place of a type of which `s` is needed. -/
def need (s : Strength) (o : Occurrence) : Strength := o.shells.foldl Shell.need s

/-- The dependency for a place of a type of which `s` is needed. -/
def dependency (s : Strength) (o : Occurrence) : Dependency :=
  .type o.decl (o.decl.kind.atLeast (o.need s))

/-- The definition is needed where a declaration is held by value. -/
theorem need_eq_definition_iff (o : Occurrence) :
    o.need .definition = .definition ↔ o.isByValue = true := by
  obtain ⟨d, shells⟩ := o
  simp only [need, isByValue]
  -- from the innermost layer outwards, the first that is no array decides
  rw [← List.foldr_reverse]
  induction shells.reverse with
  | nil => simp
  | cons l ls ih => cases l <;> simp_all [Shell.need]

end Occurrence

namespace Ty

theorem eachRequirements_eq_map (ts : List Ty)
    (h : ∀ t ∈ ts, ∀ s, t.requirementsAs s = t.occurrences.map (·.dependency s)) :
    eachRequirements ts = (occurrencesOfEach ts).map (·.dependency .definition) := by
  induction ts with
  | nil => rfl
  | cons t ts ih =>
    obtain ⟨ht, hts⟩ := List.forall_mem_cons.mp h
    rw [eachRequirements, occurrencesOfEach, ht, ih hts, List.map_append]

/-- The requirements of a type are the dependencies for its places, from left to right. -/
theorem requirementsAs_eq_map (t : Ty) (s : Strength) :
    t.requirementsAs s = t.occurrences.map (·.dependency s) := by
  induction t generalizing s with
  | primitive p c => rfl
  | named d c => rfl
  | pointer t c ih | reference t c ih | array t b c ih =>
    rw [requirementsAs, occurrences, List.map_map, ih]
    rfl
  | function r ps c ihr ihps =>
    rw [requirementsAs, occurrences, List.map_map, List.map_append, ihr,
      eachRequirements_eq_map ps ihps]
    rfl

theorem decls_occurrencesOfEach (ts : List Ty)
    (h : ∀ t ∈ ts, t.occurrences.map Occurrence.decl = t.decls) :
    (occurrencesOfEach ts).map Occurrence.decl = declsOfEach ts := by
  induction ts with
  | nil => rfl
  | cons t ts ih =>
    obtain ⟨ht, hts⟩ := List.forall_mem_cons.mp h
    rw [occurrencesOfEach, declsOfEach, List.map_append, ht, ih hts]

theorem decls_occurrences (t : Ty) : t.occurrences.map Occurrence.decl = t.decls := by
  induction t with
  | primitive p c => rfl
  | named d c => rfl
  | pointer t c ih | reference t c ih | array t b c ih =>
    rw [occurrences, decls, List.map_map, ← ih]
    rfl
  | function r ps c ihr ihps =>
    rw [occurrences, decls, List.map_map, ← ihr, ← decls_occurrencesOfEach ps ihps,
      ← List.map_append]
    rfl

/-! ### What a value needs -/

theorem atLeast_eq_definition_iff (k : DeclKind) (s : Strength) :
    k.atLeast s = .definition ↔ s = .definition ∨ k = .enum ∨ k = .typedef := by
  cases k <;> simp [DeclKind.atLeast, DeclKind.isForwardDeclarable]

/-- A value of a type needs its declarations and nothing else. -/
theorem exists_mem_requirements_iff {t : Ty} {d : TypeDecl} :
    (∃ s, Dependency.type d s ∈ t.requirements) ↔ d ∈ t.decls := by
  rw [requirements, requirementsAs_eq_map, ← decls_occurrences]
  simp only [List.mem_map, Occurrence.dependency, Dependency.type.injEq]
  constructor
  · rintro ⟨s, o, ho, rfl, -⟩
    exact ⟨o, ho, rfl⟩
  · rintro ⟨o, ho, rfl⟩
    exact ⟨_, o, ho, rfl, rfl⟩

/-- A value of a type needs the definition of the declarations that it holds by value, and of those
that have no forward declaration. -/
theorem definition_mem_requirements_iff {t : Ty} {d : TypeDecl} :
    Dependency.type d .definition ∈ t.requirements ↔
      t.HoldsByValue d ∨ d ∈ t.decls ∧ (d.kind = .enum ∨ d.kind = .typedef) := by
  rw [requirements, requirementsAs_eq_map, ← decls_occurrences]
  simp only [List.mem_map, Occurrence.dependency, Dependency.type.injEq, HoldsByValue]
  constructor
  · rintro ⟨o, ho, rfl, hneed⟩
    rcases (atLeast_eq_definition_iff _ _).mp hneed with hvalue | hkind
    · exact Or.inl ⟨o, ho, o.need_eq_definition_iff.mp hvalue, rfl⟩
    · exact Or.inr ⟨⟨o, ho, rfl⟩, hkind⟩
  · rintro (⟨o, ho, hvalue, rfl⟩ | ⟨⟨o, ho, rfl⟩, hkind⟩)
    · exact ⟨o, ho, rfl, (atLeast_eq_definition_iff _ _).mpr
        (Or.inl (o.need_eq_definition_iff.mpr hvalue))⟩
    · exact ⟨o, ho, rfl, (atLeast_eq_definition_iff _ _).mpr (Or.inr hkind)⟩

theorem element_notMem_requirements (t : Ty) (x : Element) :
    Dependency.element x ∉ t.requirements := by
  rw [requirements, requirementsAs_eq_map]
  simp [Occurrence.dependency]

/-- To look inside a value, or what it points to, is to need the value pointed to. -/
theorem insideRequirements_eq (t : Ty) : t.insideRequirements = t.stripped.requirements := by
  cases t <;> rfl

/-! ### Registering -/

section Registering

variable {σ : Type} (k : Registry σ)

theorem requireEach_eq_offerAll (ts : List Ty)
    (h : ∀ t ∈ ts, ∀ s, t.requireAs k s = k.offerAll (t.requirementsAs s)) :
    requireEach k ts = k.offerAll (eachRequirements ts) := by
  induction ts with
  | nil => rfl
  | cons t ts ih =>
    obtain ⟨ht, hts⟩ := List.forall_mem_cons.mp h
    rw [requireEach, eachRequirements, ht, ih hts, Acceptor.offerAll_append]

theorem requireAs_eq_offerAll (t : Ty) (s : Strength) :
    t.requireAs k s = k.offerAll (t.requirementsAs s) := by
  induction t generalizing s with
  | primitive p c => rfl
  | named d c => exact k.offer_eq_offerAll _
  | pointer t c ih | reference t c ih | array t b c ih => exact ih _
  | function r ps c ihr ihps =>
    rw [requireAs, requirementsAs, ihr, requireEach_eq_offerAll k ps ihps,
      Acceptor.offerAll_append]

/-- Registering the needs of a value offers its requirements. -/
theorem require_eq_offerAll (t : Ty) : t.require k = k.offerAll t.requirements :=
  t.requireAs_eq_offerAll k .definition

theorem requireInside_eq_offerAll (t : Ty) :
    t.requireInside k = k.offerAll t.insideRequirements := by
  cases t <;> exact requireAs_eq_offerAll k _ _

end Registering

end Ty

end ExprEmit
