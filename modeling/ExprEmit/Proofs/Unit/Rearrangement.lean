import ExprEmit.Proofs.Dependency.Summary
import ExprEmit.Proofs.Expr.History
import ExprEmit.Proofs.Unit.Complete
import Mathlib.Data.List.Perm.Basic

/-!
# Units from rearranged expressions

The same expressions can be added to a unit in any order and any number of times, one by one or many
at once, and asked for their types in between.  Their type caches then fill up in different ways, and
a type that one run asks for by name first is asked for by definition first in another.  None of this
shows: the dependency list of the unit ends up with the same elements, and with the same types as
strongly, and an expression is written alike wherever it stands (`Workbench.run_rearranged`).

A step of a run keeps the caches right (`Workbench.Fits`) and extends the books of the unit by the
expressions that it adds (`Workbench.Reaches`), so a run does.  Behind a run, the list is what the
requirements of all the expressions add up to, and such a list depends on nothing but its members
(`DependencyList.meetsSameNeeds_insertAll`).
-/

namespace ExprEmit

/-! ### Lists that are added in another order -/

/-- Needs of which neither is weaker are the same. -/
theorem Strength.eq_of_le_of_le {s t : Strength} (h : s ≤ t) (h' : t ≤ s) : s = t := by
  cases s with
  | declaration =>
    cases t with
    | declaration => rfl
    | definition => cases h'
  | definition =>
    cases t with
    | declaration => cases h
    | definition => rfl

namespace DependencyList

/-- What an entry is on, and what it asks of it. -/
def need (d : Dependency) : Target × Option Strength := (d.target, d.strength?)

/-- Whether two lists have the same elements, and the same types as strongly. -/
structure MeetsSameNeeds (l l' : DependencyList) : Prop where
  /-- The entries are the same, perhaps in another order. -/
  needs : (l.entries.map need).Perm (l'.entries.map need)
  containsElement : ∀ x, l.containsElement x = l'.containsElement x
  strength? : ∀ D, l.strength? D = l'.strength? D

variable {ds ds' : List Dependency} {l l' : DependencyList}

theorem nodup_map_need (h : Summarizes ds l) : (l.entries.map need).Nodup := by
  have htargets : (l.entries.map need).map Prod.fst = l.entries.map Dependency.target := by
    rw [List.map_map]
    rfl
  exact .of_map Prod.fst (htargets ▸ h.nodup)

/-- An entry of one summary is met by an entry of any other summary of the same requests. -/
theorem map_need_subset (h : Summarizes ds l) (h' : Summarizes ds' l')
    (hsame : ∀ d, d ∈ ds ↔ d ∈ ds') : l.entries.map need ⊆ l'.entries.map need := by
  intro n hn
  obtain ⟨e, he, rfl⟩ := List.mem_map.mp hn
  have htarget : ∃ e' ∈ l'.entries, e'.target = e.target := by
    obtain ⟨d, hd, hde⟩ := (h.target e.target).mp (List.mem_map_of_mem he)
    exact List.mem_map.mp ((h'.target e.target).mpr ⟨d, (hsame d).mp hd, hde⟩)
  obtain ⟨e', he', htarget⟩ := htarget
  refine List.mem_map.mpr ⟨e', he', Prod.ext htarget ?_⟩
  cases e with
  | element x =>
    cases e' with
    | element y => rfl
    | type D' s' => cases htarget
  | type D s =>
    cases e' with
    | element y => cases htarget
    | type D' s' =>
      have hid : D'.id = D.id := Target.type.inj htarget
      -- both needs are the greatest of the same requests
      have hgreatest := h.strength D s he
      have hgreatest' := h'.strength D' s' he'
      simp only [hid, ← hsame] at hgreatest'
      exact congrArg some
        (Strength.eq_of_le_of_le (hgreatest.2 hgreatest'.1) (hgreatest'.2 hgreatest.1))

theorem containsElement_eq_true_iff (x : Element) :
    l.containsElement x = true ↔ (.element x.id, none) ∈ l.entries.map need := by
  rw [containsElement_iff, List.mem_map]
  constructor
  · rintro ⟨y, hid, hy⟩
    exact ⟨_, hy, by simp [need, Dependency.target, Dependency.strength?, hid]⟩
  · rintro ⟨e, he, hneed⟩
    cases e with
    | element y => exact ⟨y, Target.element.inj (congrArg Prod.fst hneed), he⟩
    | type D s => cases hneed

theorem strength?_eq_some_iff_mem (h : Summarizes ds l) {D : TypeDecl} {s : Strength} :
    l.strength? D = some s ↔ (.type D.id, some s) ∈ l.entries.map need := by
  rw [h.strength?, List.mem_map]
  constructor
  · rintro ⟨E, hid, hE⟩
    exact ⟨_, hE, by simp [need, Dependency.target, Dependency.strength?, hid]⟩
  · rintro ⟨e, he, hneed⟩
    cases e with
    | element y => cases hneed
    | type E t =>
      obtain rfl : t = s := Option.some.inj (congrArg Prod.snd hneed)
      exact ⟨E, Target.type.inj (congrArg Prod.fst hneed), he⟩

/-- What is added to an empty list matters, and not in which order or how often. -/
theorem meetsSameNeeds_insertAll (hsame : ∀ d, d ∈ ds ↔ d ∈ ds') :
    MeetsSameNeeds (empty.insertAll ds) (empty.insertAll ds') := by
  have h := summarizes_insertAll_empty ds
  have h' := summarizes_insertAll_empty ds'
  have hmem : ∀ n, n ∈ (empty.insertAll ds).entries.map need ↔
      n ∈ (empty.insertAll ds').entries.map need := by
    intro n
    exact ⟨fun hn => map_need_subset h h' hsame hn,
      fun hn => map_need_subset h' h (fun d => (hsame d).symm) hn⟩
  constructor
  case needs => exact (List.perm_ext_iff_of_nodup (nodup_map_need h) (nodup_map_need h')).mpr hmem
  case containsElement =>
    intro x
    rw [Bool.eq_iff_iff, containsElement_eq_true_iff, containsElement_eq_true_iff, hmem]
  case strength? =>
    intro D
    refine Option.ext fun s => ?_
    rw [strength?_eq_some_iff_mem h, strength?_eq_some_iff_mem h', hmem]

end DependencyList

/-! ### What is left of the expressions -/

namespace GenerationUnit

variable {σ : Type} (k : Registry σ) (u : GenerationUnit σ)

/-- An expression that is added stays what it is, with a cache that fits. -/
theorem exprs_add {e : CachedExpr} (he : e.expr.Fits e.cache) (fresh : Nat) :
    (u.add k e fresh).exprs.expr = e.expr ∧ e.expr.Fits (u.add k e fresh).exprs.cache := by
  obtain ⟨-, -, hfits⟩ := e.expr.performs_require k ⟨u.registry, e.cache, fresh⟩ he
  have hexprs : (u.add k e fresh).exprs =
      ⟨e.expr, (e.expr.require k ⟨u.registry, e.cache, fresh⟩).state.cache⟩ := by
    rw [add, CachedExpr.require]
    -- whether or not it is written
    split <;> rfl
  rw [hexprs]
  exact ⟨rfl, hfits⟩

theorem exprs_addAll {es : List CachedExpr} (hes : ∀ e ∈ es, e.expr.Fits e.cache) (fresh : Nat) :
    (u.addAll k es fresh).exprs.map CachedExpr.expr = es.map CachedExpr.expr ∧
      ∀ e ∈ (u.addAll k es fresh).exprs, e.expr.Fits e.cache := by
  induction es generalizing u fresh with
  | nil => exact ⟨rfl, nofun⟩
  | cons e es ih =>
    obtain ⟨he, hes⟩ := List.forall_mem_cons.mp hes
    obtain ⟨hexpr, hfits⟩ := exprs_add k u he fresh
    obtain ⟨hexprs, hall⟩ := ih (u.add k e fresh).unit hes (u.add k e fresh).fresh
    rw [addAll, List.map_cons, List.map_cons, hexpr, hexprs]
    exact ⟨rfl, List.forall_mem_cons.mpr ⟨hexpr ▸ hfits, hall⟩⟩

end GenerationUnit

/-! ### Runs -/

/-- A number of expressions and the unit that they are added to. -/
structure Workbench where
  exprs : List CachedExpr
  unit : GenerationUnit DependencyList
  /-- The number of the next new type object. -/
  fresh : Nat

namespace Workbench

/-- The expressions `exprs` before any of them has been added. -/
def start (exprs : List CachedExpr) (fresh : Nat) : Workbench :=
  ⟨exprs, .ofRegistry .empty, fresh⟩

/-- What can be done with the expressions. -/
inductive Act : Type 1 where
  /-- Adds the `i`-th expression. -/
  | add (i : Nat)
  /-- Adds `count` neighbouring expressions at once, from the `start`-th on. -/
  | addAll (start count : Nat)
  /-- Makes a call on the `i`-th expression, which may fill its cache. -/
  | ask (i : Nat) (call : Call)

/-- The expressions that an act adds. -/
def Act.added (es : List Expr) : Act → List Expr
  | add i => es[i]?.toList
  | addAll start count => (es.drop start).take count
  | ask _ _ => []

/-- The workbench after an act. -/
def perform (b : Workbench) : Act → Workbench
  | .add i =>
    match b.exprs[i]? with
    | none => b
    | some e =>
      let a := b.unit.add DependencyList.registry e b.fresh
      ⟨b.exprs.set i a.exprs, a.unit, a.fresh⟩
  | .addAll start count =>
    let a := b.unit.addAll DependencyList.registry ((b.exprs.drop start).take count) b.fresh
    ⟨b.exprs.take start ++ a.exprs ++ b.exprs.drop (start + count), a.unit, a.fresh⟩
  | .ask i call =>
    match b.exprs[i]? with
    | none => b
    | some e =>
      let m := (Moment.perform ⟨e, b.fresh⟩ call).1
      ⟨b.exprs.set i m.expr, b.unit, m.fresh⟩

/-- The workbench after a sequence of acts. -/
def run (b : Workbench) (acts : List Act) : Workbench := acts.foldl perform b

/-- The expressions, whatever is known of their types. -/
def trees (b : Workbench) : List Expr := b.exprs.map CachedExpr.expr

/-- The expressions that a sequence of acts adds, in order. -/
def added (b : Workbench) (acts : List Act) : List Expr := acts.flatMap (Act.added b.trees)

/-- Whether the types that are known of the expressions are right. -/
def Fits (b : Workbench) : Prop := ∀ e ∈ b.exprs, e.expr.Fits e.cache

/-- Whether `b'` is the workbench `b` after the expressions `es` have been added. -/
structure Reaches (b : Workbench) (es : List Expr) (b' : Workbench) : Prop where
  trees : b'.trees = b.trees
  fits : b'.Fits
  books : ∃ rs, b.unit.Extends DependencyList.registry es rs b'.unit

variable {b b' b'' : Workbench} {es fs : List Expr}

theorem Reaches.refl (hb : b.Fits) : b.Reaches [] b :=
  ⟨rfl, hb, [], .refl b.unit⟩

theorem Reaches.trans (h : b.Reaches es b') (h' : b'.Reaches fs b'') : b.Reaches (es ++ fs) b'' := by
  obtain ⟨rs, hrs⟩ := h.books
  obtain ⟨qs, hqs⟩ := h'.books
  exact ⟨h'.trees.trans h.trees, h'.fits, rs ++ qs, hrs.trans hqs⟩

/-- Putting an expression back with another cache that fits. -/
theorem fits_set (hb : b.Fits) {i : Nat} {e e' : CachedExpr} (he : b.exprs[i]? = some e)
    (hexpr : e'.expr = e.expr) (hfits : e'.expr.Fits e'.cache) :
    (b.exprs.set i e').map CachedExpr.expr = b.trees ∧
      ∀ x ∈ b.exprs.set i e', x.expr.Fits x.cache := by
  constructor
  · obtain ⟨hi, rfl⟩ := List.getElem?_eq_some_iff.mp he
    rw [List.map_set, hexpr, ← List.map_set, List.set_getElem_self]
    rfl
  · intro x hx
    rcases List.mem_or_eq_of_mem_set hx with hx | rfl
    · exact hb x hx
    · exact hfits

theorem reaches_add (hb : b.Fits) (i : Nat) :
    b.Reaches (Act.added b.trees (.add i)) (b.perform (.add i)) := by
  rw [perform, Act.added, trees, List.getElem?_map]
  cases he : b.exprs[i]? with
  | none => exact .refl hb
  | some e =>
    have hfits := hb e (List.mem_of_getElem? he)
    obtain ⟨hexpr, hcache⟩ := b.unit.exprs_add DependencyList.registry hfits b.fresh
    obtain ⟨hset, hall⟩ := fits_set hb he hexpr (hexpr ▸ hcache)
    obtain ⟨r, hr, -⟩ := b.unit.add_extends DependencyList.registry hfits b.fresh
    exact ⟨hset, hall, [r], hr⟩

theorem reaches_addAll (hb : b.Fits) (start count : Nat) :
    b.Reaches (Act.added b.trees (.addAll start count)) (b.perform (.addAll start count)) := by
  have hsplit : b.exprs.take start ++ (b.exprs.drop start).take count ++
      b.exprs.drop (start + count) = b.exprs := by
    rw [List.append_assoc, ← List.drop_drop, List.take_append_drop, List.take_append_drop]
  have hfits : ∀ e ∈ (b.exprs.drop start).take count, e.expr.Fits e.cache :=
    fun e he => hb e (List.mem_of_mem_drop (List.mem_of_mem_take he))
  obtain ⟨hexprs, hall⟩ := b.unit.exprs_addAll DependencyList.registry hfits b.fresh
  obtain ⟨rs, hrs, -⟩ := b.unit.addAll_extends DependencyList.registry hfits b.fresh
  rw [Act.added, trees, ← List.map_drop, ← List.map_take]
  refine ⟨?_, ?_, rs, hrs⟩
  · rw [perform, trees, trees, List.map_append, List.map_append, hexprs, ← List.map_append,
      ← List.map_append, hsplit]
  · intro e he
    rw [perform] at he
    simp only [List.mem_append] at he
    rcases he with (he | he) | he
    · exact hb e (List.mem_of_mem_take he)
    · exact hall e he
    · exact hb e (List.mem_of_mem_drop he)

theorem reaches_ask (hb : b.Fits) (i : Nat) (call : Call) :
    b.Reaches (Act.added b.trees (.ask i call)) (b.perform (.ask i call)) := by
  rw [perform, Act.added]
  cases he : b.exprs[i]? with
  | none => exact .refl hb
  | some e =>
    let m : Moment := ⟨e, b.fresh⟩
    have hm : m.Fits := hb e (List.mem_of_getElem? he)
    obtain ⟨events, hbehaves⟩ := Moment.exists_behaves hm call
    obtain ⟨hset, hall⟩ := fits_set hb he hbehaves.expr hbehaves.fits
    exact ⟨hset, hall, [], .refl b.unit⟩

/-- An act adds its expressions, and leaves caches that fit. -/
theorem reaches_perform (hb : b.Fits) (a : Act) : b.Reaches (a.added b.trees) (b.perform a) := by
  cases a with
  | add i => exact reaches_add hb i
  | addAll start count => exact reaches_addAll hb start count
  | ask i call => exact reaches_ask hb i call

/-- A run adds the expressions of its acts. -/
theorem reaches_run (hb : b.Fits) (acts : List Act) : b.Reaches (b.added acts) (b.run acts) := by
  induction acts generalizing b with
  | nil => exact .refl hb
  | cons a acts ih =>
    have hfirst := reaches_perform hb a
    have hrest := ih hfirst.fits
    rw [added, hfirst.trees] at hrest
    exact hfirst.trans hrest

/-- What a unit holds that the expressions `es` have been added to. -/
theorem unit_run {exprs : List CachedExpr} (hexprs : ∀ e ∈ exprs, e.expr.Fits e.cache)
    (fresh : Nat) (acts : List Act) :
    let u := ((start exprs fresh).run acts).unit
    let es := (start exprs fresh).added acts
    u.registry = DependencyList.empty.insertAll (es.flatMap Expr.requirements) ∧
      u.rendered = es.map GenerationUnit.whole := by
  intro u es
  obtain ⟨rs, hrs⟩ := (reaches_run (b := start exprs fresh) hexprs acts).books
  obtain ⟨rfl, hregistry⟩ := hrs.processed.of_registry
  exact ⟨hregistry, hrs.rendered⟩

/-- Two units to which the same expressions are added, in whatever order, however often, one by one
or many at once, and whatever the expressions are asked in between, have the same elements, and the
same types as strongly.  In either of them an expression is written as it is on its own. -/
theorem run_rearranged {exprs exprs' : List CachedExpr}
    (hexprs : ∀ e ∈ exprs, e.expr.Fits e.cache) (hexprs' : ∀ e ∈ exprs', e.expr.Fits e.cache)
    (fresh fresh' : Nat) (acts acts' : List Act)
    (hsame : ∀ e, e ∈ (start exprs fresh).added acts ↔ e ∈ (start exprs' fresh').added acts') :
    let u := ((start exprs fresh).run acts).unit
    let u' := ((start exprs' fresh').run acts').unit
    DependencyList.MeetsSameNeeds u.registry u'.registry ∧
      u.rendered = ((start exprs fresh).added acts).map GenerationUnit.whole ∧
      u'.rendered = ((start exprs' fresh').added acts').map GenerationUnit.whole := by
  intro u u'
  obtain ⟨hregistry, hrendered⟩ := unit_run hexprs fresh acts
  obtain ⟨hregistry', hrendered'⟩ := unit_run hexprs' fresh' acts'
  refine ⟨?_, hrendered, hrendered'⟩
  rw [show u.registry = _ from hregistry, show u'.registry = _ from hregistry']
  refine DependencyList.meetsSameNeeds_insertAll fun d => ?_
  simp only [List.mem_flatMap, hsame]

/-- `p`, `p->f` and `q` are added one by one, or else `q` comes first and is added twice more, with
all three at once in between, after the type of the base of `p->f` has been asked for.  The first
unit knows the struct behind `p` before `q`, and raises it to a definition later than its entry. -/
theorem run_rearranged_fields :
    let S : TypeDecl := ⟨1, ⟨[], "S"⟩, .struct⟩
    let T : TypeDecl := ⟨2, ⟨[], "T"⟩, .class_⟩
    let p : Element := ⟨1, ⟨[], "p"⟩, ⟨1, (Ty.ofDecl S).ptr⟩, .variable⟩
    let f : Element := ⟨2, ⟨[], "f"⟩, ⟨2, .ofPrimitive .int⟩, .field⟩
    let q : Element := ⟨3, ⟨[], "q"⟩, ⟨3, .ofDecl T⟩, .variable⟩
    let exprs : List CachedExpr :=
      [.ofExpr (.access p), .ofExpr (.member (.access p) f true), .ofExpr (.access q)]
    let acts : List Act := [.add 0, .add 1, .add 2]
    let acts' : List Act := [.ask 1 ⟨[0], .type⟩, .add 2, .addAll 0 3, .add 2]
    let u := ((start exprs 4).run acts).unit
    let u' := ((start exprs 4).run acts').unit
    (∀ e ∈ exprs, e.expr.Fits e.cache) ∧
      (∀ e, e ∈ (start exprs 4).added acts ↔ e ∈ (start exprs 4).added acts') ∧
      DependencyList.MeetsSameNeeds u.registry u'.registry ∧
      u.registry.entries = [.element p, .type S .definition, .element q, .type T .definition] ∧
      u'.registry.entries = [.element q, .type T .definition, .element p, .type S .definition] ∧
      u'.rendered.map Rendered.text = ["q", "p", "p->f", "q", "q"] := by
  intro S T p f q exprs acts acts' u u'
  have hfits : ∀ e ∈ exprs, e.expr.Fits e.cache := by
    simp [exprs, CachedExpr.ofExpr, Expr.fits_empty]
  have hsame : ∀ e, e ∈ (start exprs 4).added acts ↔ e ∈ (start exprs 4).added acts' := by
    intro e
    simp [acts, acts', added, Act.added, trees, start, exprs, CachedExpr.ofExpr]
    tauto
  obtain ⟨hneeds, -, hrendered⟩ := run_rearranged hfits hfits 4 4 acts acts' hsame
  have hregistry : u.registry = _ := (unit_run hfits 4 acts).1
  have hregistry' : u'.registry = _ := (unit_run hfits 4 acts').1
  refine ⟨hfits, hsame, hneeds, ?_, ?_, ?_⟩
  · rw [hregistry]
    rfl
  · rw [hregistry']
    rfl
  · rw [hrendered]
    rfl

end Workbench

end ExprEmit
