import ExprEmit.Dependency.List
import ExprEmit.Proofs.Acceptor

/-!
# What a dependency list holds

A dependency list refuses nothing, so registering dependencies is adding them one after another
(`offerAll_registry`).  Starting from the empty list, it then holds the elements that have been
added (`containsElement_insertAll_empty`) and the types that have been added
(`isSome_strength?_insertAll_empty`), as definitions if that was ever asked
(`strength?_insertAll_empty_eq_definition`).
-/

namespace ExprEmit

namespace Strength

/-- The stronger of a need and one that may be missing. -/
def maxOf (s : Strength) : Option Strength → Strength
  | some t => t.max s
  | none => s

end Strength

namespace DependencyList

/-! ### One addition -/

theorem raisedTo_target (e d : Dependency) : (e.raisedTo d).target = e.target := by
  cases e <;> cases d <;> rfl

theorem any_insertInto (t : Target) (d : Dependency) (es : List Dependency) :
    (insertInto d es).any (·.target == t) = (d.target == t || es.any (·.target == t)) := by
  induction es with
  | nil => simp [insertInto]
  | cons e es ih =>
    rw [insertInto]
    split
    · next h => simp [raisedTo_target, h]
    · rw [List.any_cons, ih, List.any_cons, Bool.or_left_comm]

theorem containsElement_insert (l : DependencyList) (d : Dependency) (x : Element) :
    (l.insert d).containsElement x = (d.target == .element x.id || l.containsElement x) :=
  any_insertInto _ d l.entries

/-- What an entry says about the declared type `id`. -/
def needIn (id : Nat) (e : Dependency) : Option Strength :=
  if e.target = .type id then e.strength? else none

theorem needIn_type (id : Nat) (d : TypeDecl) (s : Strength) :
    needIn id (.type d s) = if d.id = id then some s else none := by
  simp [needIn, Dependency.target, Dependency.strength?]

theorem needIn_element (id : Nat) (x : Element) : needIn id (.element x) = none := by
  simp [needIn, Dependency.target]

theorem findSome?_insertInto (id : Nat) (d : Dependency) (es : List Dependency) :
    (insertInto d es).findSome? (needIn id) =
      match needIn id d with
      | some s => some (s.maxOf (es.findSome? (needIn id)))
      | none => es.findSome? (needIn id) := by
  induction es with
  | nil => cases h : needIn id d <;> simp [insertInto, h, Strength.maxOf]
  | cons e es ih =>
    rw [insertInto]
    by_cases htarget : e.target = d.target
    · -- `d` raises the need of `e`, which counts if both are about the type
      rw [if_pos htarget]
      cases e with
      | element x =>
        cases d with
        | element y => simp [Dependency.raisedTo, needIn_element]
        | type b t => cases htarget
      | type a s =>
        cases d with
        | element y => cases htarget
        | type b t =>
          have hab : b.id = a.id := by simpa [Dependency.target] using htarget.symm
          by_cases hid : a.id = id
          · simp [Dependency.raisedTo, needIn_type, hab, hid, Strength.maxOf]
          · simp [Dependency.raisedTo, needIn_type, hab, hid]
    · rw [if_neg htarget]
      cases he : needIn id e with
      | none => simpa [he] using ih
      | some s =>
        -- `e` is the entry for the type, so `d` is about something else
        have hd : needIn id d = none := by
          refine if_neg fun hd => htarget ?_
          rw [hd]
          refine Decidable.byContradiction fun hne => ?_
          simp [needIn, hne] at he
        simp [he, hd]

theorem strength?_insert (l : DependencyList) (d : Dependency) (D : TypeDecl) :
    (l.insert d).strength? D =
      match needIn D.id d with
      | some s => some (s.maxOf (l.strength? D))
      | none => l.strength? D :=
  findSome?_insertInto D.id d l.entries

/-! ### Many additions -/

/-- The list after further additions. -/
def insertAll (l : DependencyList) (ds : List Dependency) : DependencyList := ds.foldl insert l

/-- Registering in a dependency list is adding to it, and always accepted. -/
theorem offerAll_registry (ds : List Dependency) (l : DependencyList) :
    (registry.offerAll ds l).accepted = true ∧ (registry.offerAll ds l).state = l.insertAll ds := by
  induction ds generalizing l with
  | nil => exact ⟨rfl, rfl⟩
  | cons d ds ih => exact ih (l.insert d)

theorem containsElement_insertAll (l : DependencyList) (ds : List Dependency) (x : Element) :
    (l.insertAll ds).containsElement x = true ↔
      l.containsElement x = true ∨ ∃ d ∈ ds, d.target = .element x.id := by
  induction ds generalizing l with
  | nil => simp [insertAll]
  | cons d ds ih =>
    have := ih (l.insert d)
    rw [containsElement_insert, Bool.or_eq_true, beq_iff_eq, or_comm (a := d.target = _),
      or_assoc] at this
    simp only [List.mem_cons, exists_eq_or_imp]
    exact this

/-- What is known of a type has been in the list before or has been added. -/
theorem isSome_strength?_insertAll (l : DependencyList) (ds : List Dependency) (D : TypeDecl) :
    ((l.insertAll ds).strength? D).isSome = true ↔
      (l.strength? D).isSome = true ∨ ∃ d ∈ ds, (needIn D.id d).isSome = true := by
  induction ds generalizing l with
  | nil => simp [insertAll]
  | cons d ds ih =>
    have := ih (l.insert d)
    rw [strength?_insert] at this
    simp only [List.mem_cons, exists_eq_or_imp]
    refine this.trans ?_
    cases h : needIn D.id d with
    | none => simp
    | some s => simp

/-- The definition of a type is needed if it was before or if that has been added. -/
theorem strength?_insertAll_eq_definition (l : DependencyList) (ds : List Dependency)
    (D : TypeDecl) :
    (l.insertAll ds).strength? D = some .definition ↔
      l.strength? D = some .definition ∨ ∃ d ∈ ds, needIn D.id d = some .definition := by
  induction ds generalizing l with
  | nil => simp [insertAll]
  | cons d ds ih =>
    have := ih (l.insert d)
    rw [strength?_insert] at this
    simp only [List.mem_cons, exists_eq_or_imp]
    refine this.trans ?_
    cases h : needIn D.id d with
    | none => simp
    | some s =>
      cases s <;> cases hl : l.strength? D with
      | none => simp [Strength.maxOf]
      | some t => cases t <;> simp [Strength.maxOf, Strength.max]

/-! ### From the empty list -/

theorem needIn_eq_some_iff {id : Nat} {d : Dependency} {s : Strength} :
    needIn id d = some s ↔ ∃ e : TypeDecl, e.id = id ∧ d = .type e s := by
  cases d with
  | element x => simp [needIn_element]
  | type e t => simp [needIn_type, and_comm]

theorem containsElement_insertAll_empty (ds : List Dependency) (x : Element) :
    (empty.insertAll ds).containsElement x = true ↔
      ∃ y : Element, y.id = x.id ∧ .element y ∈ ds := by
  rw [containsElement_insertAll]
  constructor
  · rintro (h | ⟨d, hd, htarget⟩)
    · cases h
    · cases d with
      | element y => exact ⟨y, Target.element.inj htarget, hd⟩
      | type => cases htarget
  · rintro ⟨y, hid, hy⟩
    exact Or.inr ⟨_, hy, congrArg Target.element hid⟩

theorem isSome_strength?_insertAll_empty (ds : List Dependency) (D : TypeDecl) :
    ((empty.insertAll ds).strength? D).isSome = true ↔
      ∃ d : TypeDecl, d.id = D.id ∧ ∃ s, .type d s ∈ ds := by
  rw [isSome_strength?_insertAll]
  constructor
  · rintro (h | ⟨d, hd, hneed⟩)
    · cases h
    · obtain ⟨s, hs⟩ := Option.isSome_iff_exists.mp hneed
      obtain ⟨e, hid, rfl⟩ := needIn_eq_some_iff.mp hs
      exact ⟨e, hid, s, hd⟩
  · rintro ⟨d, hid, s, hd⟩
    exact Or.inr ⟨_, hd, Option.isSome_iff_exists.mpr ⟨s, needIn_eq_some_iff.mpr ⟨d, hid, rfl⟩⟩⟩

theorem strength?_insertAll_empty_eq_definition (ds : List Dependency) (D : TypeDecl) :
    (empty.insertAll ds).strength? D = some .definition ↔
      ∃ d : TypeDecl, d.id = D.id ∧ .type d .definition ∈ ds := by
  rw [strength?_insertAll_eq_definition]
  constructor
  · rintro (h | ⟨d, hd, hneed⟩)
    · cases h
    · obtain ⟨e, hid, rfl⟩ := needIn_eq_some_iff.mp hneed
      exact ⟨e, hid, hd⟩
  · rintro ⟨d, hid, hd⟩
    exact Or.inr ⟨_, hd, needIn_eq_some_iff.mpr ⟨d, hid, rfl⟩⟩

end DependencyList

end ExprEmit
