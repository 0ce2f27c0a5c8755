import ExprEmit.Proofs.Dependency.Exact
import ExprEmit.Proofs.Dependency.Summary

/-!
# The type of an expression is registered with it

Two recursions go over an expression, one that finds its type and one that registers what it needs.
They keep step: once an expression has been registered, so has every declaration in its type.  To
look inside the base of a member access is then to ask for what the list already has, so it adds no
entry and moves none (`Expr.require_registers_type`).
-/

namespace ExprEmit

/-! ### Raising entries -/

/-- Whether an entry has been left as it is or raised from a declaration to a definition. -/
inductive Dependency.Raised : (before after : Dependency) → Prop where
  | same (d : Dependency) : Raised d d
  | toDefinition (D : TypeDecl) : Raised (.type D .declaration) (.type D .definition)

theorem Dependency.Raised.trans {d e f : Dependency} (h : d.Raised e) (h' : e.Raised f) :
    d.Raised f := by
  cases h with
  | same => exact h'
  | toDefinition D =>
    cases h'
    exact .toDefinition D

namespace DependencyList

/-- Whether the second list has the entries of the first in their places, some of them raised. -/
def OnlyRaised (l m : DependencyList) : Prop :=
  List.Forall₂ Dependency.Raised l.entries m.entries

theorem OnlyRaised.refl (l : DependencyList) : l.OnlyRaised l :=
  List.forall₂_same.mpr fun e _ => .same e

theorem OnlyRaised.trans {l m n : DependencyList} (h : l.OnlyRaised m) (h' : m.OnlyRaised n) :
    l.OnlyRaised n := by
  have htrans : ∀ ds es fs : List Dependency, List.Forall₂ Dependency.Raised ds es →
      List.Forall₂ Dependency.Raised es fs → List.Forall₂ Dependency.Raised ds fs := by
    intro ds es fs hde
    induction hde generalizing fs with
    | nil => exact fun hef => hef
    | cons hd _ ih =>
      intro hef
      cases hef with
      | cons he hes => exact .cons (hd.trans he) (ih _ hes)
  exact htrans _ _ _ h h'

/-- A list has an entry for a target if it had one before or the target has been added. -/
theorem exists_entry_insertAll (l : DependencyList) (ds : List Dependency) (t : Target) :
    (∃ e ∈ (l.insertAll ds).entries, e.target = t) ↔
      (∃ e ∈ l.entries, e.target = t) ∨ ∃ d ∈ ds, d.target = t := by
  induction ds generalizing l with
  | nil => simp [insertAll]
  | cons d ds ih =>
    have hinsert : (∃ e ∈ (l.insert d).entries, e.target = t) ↔
        d.target = t ∨ ∃ e ∈ l.entries, e.target = t := by
      have h := any_insertInto t d l.entries
      rw [Bool.eq_iff_iff] at h
      show (∃ e ∈ insertInto d l.entries, e.target = t) ↔ _
      simpa [List.any_eq_true] using h
    have htail := ih (l.insert d)
    rw [hinsert] at htail
    rw [insertAll, List.foldl_cons, ← insertAll, htail, List.exists_mem_cons_iff, or_assoc,
      or_left_comm]

theorem isSome_strength?_of_entry {l : DependencyList} {D : TypeDecl}
    (h : ∃ e ∈ l.entries, e.target = .type D.id) : (l.strength? D).isSome = true := by
  obtain ⟨e, he, htarget⟩ := h
  rw [strength?, List.findSome?_isSome_iff]
  refine ⟨e, he, ?_⟩
  rw [if_pos htarget]
  cases e with
  | element x => cases htarget
  | type E s => rfl

/-- Adding what has an entry raises that entry at most. -/
theorem onlyRaised_insert {l : DependencyList} {d : Dependency}
    (h : ∃ e ∈ l.entries, e.target = d.target) : l.OnlyRaised (l.insert d) := by
  obtain ⟨entries⟩ := l
  rw [OnlyRaised, insert]
  induction entries with
  | nil => simp at h
  | cons e es ih =>
    rw [insertInto]
    by_cases he : e.target = d.target
    · rw [if_pos he]
      have hraised : e.Raised (e.raisedTo d) := by
        rcases raisedTo_eq_or e d with hsame | ⟨D, rfl, hD⟩
        · rw [hsame]
          exact .same e
        · rw [hD]
          exact .toDefinition D
      exact .cons hraised (List.forall₂_same.mpr fun a _ => .same a)
    · rw [if_neg he]
      have hes : ∃ a ∈ es, a.target = d.target := by simpa [he] using h
      exact .cons (.same e) (ih hes)

/-- Adding what has entries raises these entries at most. -/
theorem onlyRaised_insertAll {l : DependencyList} {ds : List Dependency}
    (h : ∀ d ∈ ds, ∃ e ∈ l.entries, e.target = d.target) : l.OnlyRaised (l.insertAll ds) := by
  induction ds generalizing l with
  | nil => exact .refl l
  | cons d ds ih =>
    obtain ⟨hd, hds⟩ := List.forall_mem_cons.mp h
    have hkept : ∀ a ∈ ds, ∃ e ∈ (l.insert d).entries, e.target = a.target := by
      intro a ha
      exact (exists_entry_insertAll l [d] a.target).mpr (Or.inl (hds a ha))
    exact (onlyRaised_insert hd).trans (ih hkept)

end DependencyList

/-! ### The type of an expression -/

namespace Expr

open Sweep

/-- Registers what it takes to look inside the base of a member access, whose type is resolved
first. -/
def lookInside {σ : Type} (k : Registry σ) (base : Expr) : Step (Sweep σ) :=
  withType base fun t => onRegistry (t.type.requireInside k)

/-- Registering a member access registers its base, looks inside it and registers the type of the
field. -/
theorem require_member {σ : Type} (k : Registry σ) (b : Expr) (f : Element) (arrow : Bool) :
    (member b f arrow).require k = Step.all [atChild 0 (b.require k), atChild 0 (b.lookInside k),
      onRegistry (f.type.type.require k)] :=
  rfl

/-- Once an expression has been registered, there is an entry for each declaration in its type. -/
theorem exists_entry_of_mem_decls {e : Expr} {d : TypeDecl} (h : d ∈ e.type.decls)
    (l : DependencyList) :
    ∃ entry ∈ (l.insertAll e.requirements).entries, entry.target = .type d.id := by
  obtain ⟨s, hs⟩ := exists_type_mem_requirements_iff.mpr (mentions_of_mem_decls h)
  exact (DependencyList.exists_entry_insertAll l e.requirements _).mpr (Or.inr ⟨_, hs, rfl⟩)

/-- What it takes to look inside a value of a type is about declarations in the type. -/
theorem exists_mem_decls_of_insideRequirements {t : Ty} {a : Dependency}
    (h : a ∈ t.insideRequirements) : ∃ d ∈ t.decls, a.target = .type d.id := by
  rw [Ty.insideRequirements_eq] at h
  cases a with
  | element x => exact absurd h (Ty.element_notMem_requirements _ x)
  | type d s =>
    have hd : d ∈ t.stripped.decls := Ty.exists_mem_requirements_iff.mp ⟨s, h⟩
    exact ⟨d, decls_stripped t hd, rfl⟩

/-- Looking inside an expression that has been registered raises entries and does nothing else. -/
theorem onlyRaised_lookInside {b : Expr} {w : Sweep DependencyList} (hw : b.Fits w.cache) :
    let based := b.require DependencyList.registry w
    let looked := b.lookInside DependencyList.registry based.state
    based.accepted = true ∧ looked.accepted = true ∧
      based.state.registry.OnlyRaised looked.state.registry := by
  intro based looked
  obtain ⟨hbased, hlist, hfits⟩ := performs_require DependencyList.registry b w hw
  obtain ⟨htrue, hall⟩ := DependencyList.offerAll_registry b.requirements w.registry
  -- looking inside offers what it takes, whatever object holds the type
  have hlook : Performs DependencyList.registry b (b.lookInside DependencyList.registry)
      b.type.insideRequirements := by
    refine .withType fun t ht => ?_
    rw [Ty.requireInside_eq_offerAll, ht]
    exact .onRegistry _ b _
  obtain ⟨hlooked, hlist', -⟩ := hlook based.state hfits
  obtain ⟨htrue', hall'⟩ :=
    DependencyList.offerAll_registry b.type.insideRequirements based.state.registry
  refine ⟨hbased.trans htrue, hlooked.trans htrue', ?_⟩
  rw [show looked.state.registry = _ from hlist'.trans hall']
  apply DependencyList.onlyRaised_insertAll
  intro a ha
  obtain ⟨d, hd, htarget⟩ := exists_mem_decls_of_insideRequirements ha
  rw [htarget, show based.state.registry = _ from hlist.trans hall]
  exact exists_entry_of_mem_decls hd w.registry

/-- After an expression has been registered in a dependency list, every declaration in the type that
is resolved for it is an entry.  So a member access, once its base has been registered, leaves all
entries where they are when it looks inside the base: some declarations become definitions, and
nothing else changes. -/
theorem require_registers_type :
    (∀ (e : Expr) (l : DependencyList) (c : TypeCache) (fresh : Nat), e.Fits c →
      let swept := e.require DependencyList.registry ⟨l, c, fresh⟩
      let resolved := e.resolve swept.state.cache swept.state.fresh
      swept.accepted = true ∧
        ∀ d ∈ resolved.type.type.decls, (swept.state.registry.strength? d).isSome = true) ∧
      ∀ (b : Expr) (f : Element) (arrow : Bool) (w : Sweep DependencyList),
        (member b f arrow).Fits w.cache →
          let based := atChild 0 (b.require DependencyList.registry) w
          let looked := atChild 0 (b.lookInside DependencyList.registry) based.state
          (member b f arrow).require DependencyList.registry =
              Step.all [atChild 0 (b.require DependencyList.registry),
                atChild 0 (b.lookInside DependencyList.registry),
                onRegistry (f.type.type.require DependencyList.registry)] ∧
            based.accepted = true ∧ looked.accepted = true ∧
              based.state.registry.OnlyRaised looked.state.registry := by
  constructor
  · intro e l c fresh hc swept resolved
    obtain ⟨haccepted, hlist, hfits⟩ :=
      performs_require DependencyList.registry e ⟨l, c, fresh⟩ hc
    obtain ⟨htrue, hall⟩ := DependencyList.offerAll_registry e.requirements l
    refine ⟨haccepted.trans htrue, fun d hd => ?_⟩
    have htype : resolved.type.type = e.type := (e.resolves_resolve hfits swept.state.fresh).1
    rw [htype] at hd
    rw [show swept.state.registry = _ from hlist.trans hall]
    exact DependencyList.isSome_strength?_of_entry (exists_entry_of_mem_decls hd l)
  · intro b f arrow w hw based looked
    have hbase : b.Fits (w.cache.child 0) := hw.child (i := 0) rfl
    obtain ⟨hbased, hlooked, hraised⟩ :=
      onlyRaised_lookInside (w := { w with cache := w.cache.child 0 }) hbase
    refine ⟨require_member _ b f arrow, hbased, ?_⟩
    -- the cache of the base is written back into the whole and taken out of it again
    have hchild : based.state.cache.child 0 =
        (b.require DependencyList.registry { w with cache := w.cache.child 0 }).state.cache := by
      simp only [based, atChild, Step.within, TypeCache.child_withChild, if_pos]
    have hagain : { based.state with cache := based.state.cache.child 0 } =
        (b.require DependencyList.registry { w with cache := w.cache.child 0 }).state := by
      rw [hchild]
      rfl
    have hlook : looked.accepted = (b.lookInside DependencyList.registry
          { based.state with cache := based.state.cache.child 0 }).accepted ∧
        looked.state.registry = (b.lookInside DependencyList.registry
          { based.state with cache := based.state.cache.child 0 }).state.registry := ⟨rfl, rfl⟩
    rw [hagain] at hlook
    rw [hlook.1, hlook.2]
    exact ⟨hlooked, hraised⟩

/-- The base of `p->f` registers what `p` points to as a declaration, which stays in its place as a
definition when the access looks inside. -/
theorem require_registers_type_arrow :
    let S : TypeDecl := ⟨1, ⟨[], "S"⟩, .struct⟩
    let p : Element := ⟨1, ⟨[], "p"⟩, ⟨1, (Ty.ofDecl S).ptr⟩, .variable⟩
    let f : Element := ⟨2, ⟨[], "f"⟩, ⟨2, .ofPrimitive .int⟩, .field⟩
    let q : Element := ⟨3, ⟨[], "q"⟩, ⟨3, .ofPrimitive .int⟩, .variable⟩
    let b : Expr := access p
    let w : Sweep DependencyList := ⟨⟨[.element q]⟩, .empty, 4⟩
    let based := atChild 0 (b.require DependencyList.registry) w
    let looked := atChild 0 (b.lookInside DependencyList.registry) based.state
    b.Fits w.cache ∧ (member b f true).Fits w.cache ∧
      ((b.require DependencyList.registry w).state.registry.strength? S).isSome = true ∧
      based.state.registry.OnlyRaised looked.state.registry ∧
      based.state.registry.entries = [.element q, .element p, .type S .declaration] ∧
      looked.state.registry.entries = [.element q, .element p, .type S .definition] := by
  intro S p f q b w based looked
  have hb := b.fits_empty
  have hmember := (member b f true).fits_empty
  obtain ⟨htypes, hmembers⟩ := require_registers_type
  have hS := (htypes b w.registry w.cache w.fresh hb).2 S List.mem_cons_self
  obtain ⟨-, -, -, hraised⟩ := hmembers b f true w hmember
  exact ⟨hb, hmember, hS, hraised, rfl, rfl⟩

end Expr

end ExprEmit
