import ExprEmit.Proofs.Client
import ExprEmit.Proofs.Dependency.OfExpr
import ExprEmit.Proofs.Expr.Course

/-!
# Where registering an expression looks at types

Registering the needs of an expression looks at the type of the base of each member access, once
what the base needs has been registered (`Expr.LooksAtBase`).

No rule is run but for that: whatever the registry accepts and refuses, the rules that are run lie
on the resolution paths of bases that the sweep has come to (`Expr.looks_require`).
-/

namespace ExprEmit

/-! ### The bases of member accesses -/

namespace Expr

/-- Whether `l` is the lookup of the base `b` of a member access.  What the base needs has been
registered just before. -/
structure LooksAtBase (e : Expr) (l : Lookup) (b : Expr) : Prop where
  mem : l ∈ e.lookups
  base : ∃ path field arrow, l.path = path ++ [0] ∧ e.at? path = some (member b field arrow)
  front : l.before <+: e.requirements
  required : b.requirements <:+ l.before

variable {e x b : Expr} {l : Lookup} {i : Nat}

theorem LooksAtBase.at?_path (h : e.LooksAtBase l b) : e.at? l.path = some b := by
  obtain ⟨path, field, arrow, hpath, hmember⟩ := h.base
  rw [hpath, at?_append, hmember]
  rfl

/-- Whether `l` is a lookup in the `i`-th child of `e`, behind what `e` registers before that. -/
def LooksInChild (e : Expr) (l : Lookup) : Prop :=
  ∃ (i : Nat) (x : Expr) (m : Lookup) (ds : List Dependency), e.children[i]? = some x ∧
    m ∈ x.lookups ∧ l = (m.inside i).behind ds ∧ ds ++ x.requirements <+: e.requirements

theorem looksInChild_of_behind {ds : List Dependency} (hx : e.children[i]? = some x)
    (hfront : ds ++ x.requirements <+: e.requirements)
    (h : l ∈ (x.lookups.map (.inside i)).map (.behind ds)) : e.LooksInChild l := by
  obtain ⟨l', hl', rfl⟩ := List.mem_map.mp h
  obtain ⟨m, hm, rfl⟩ := List.mem_map.mp hl'
  exact ⟨i, x, m, ds, hx, hm, rfl, hfront⟩

/-- A lookup in a child before which nothing is registered. -/
theorem looksInChild_of_inside (hx : e.children[i]? = some x)
    (hfront : x.requirements <+: e.requirements) (h : l ∈ x.lookups.map (.inside i)) :
    e.LooksInChild l := by
  obtain ⟨m, hm, rfl⟩ := List.mem_map.mp h
  exact ⟨i, x, m, [], hx, hm, rfl, hfront⟩

theorem mem_argLookups {args : List Expr} (h : l ∈ argLookups i args) :
    ∃ (j : Nat) (x : Expr) (m : Lookup) (ds : List Dependency), args[j]? = some x ∧
      m ∈ x.lookups ∧ l = (m.inside (i + j)).behind ds ∧
        ds ++ x.requirements <+: argRequirements args := by
  induction args generalizing i l with
  | nil => cases h
  | cons y ys ih =>
    rw [argLookups, List.mem_append] at h
    rcases h with h | h
    · obtain ⟨m, hm, rfl⟩ := List.mem_map.mp h
      exact ⟨0, y, m, [], rfl, hm, rfl, List.prefix_append _ _⟩
    · obtain ⟨m', hm', rfl⟩ := List.mem_map.mp h
      obtain ⟨j, x, m, ds, hx, hm, rfl, hfront⟩ := ih hm'
      refine ⟨j + 1, x, m, y.requirements ++ ds, hx, hm, ?_, ?_⟩
      · simp [Lookup.behind, Lookup.inside, Nat.add_comm, Nat.add_left_comm]
      · rw [List.append_assoc]
        exact (List.prefix_append_right_inj _).mpr hfront

/-- A lookup is that of the base of a member access, or one in a child. -/
theorem mem_lookups_step (h : l ∈ e.lookups) :
    (∃ b field arrow, e = member b field arrow ∧ l = ⟨b.requirements, [0]⟩) ∨ e.LooksInChild l := by
  cases e with
  | literal | string | access => cases h
  | member b f a =>
    rcases List.mem_append.mp h with h | h
    · exact Or.inr (looksInChild_of_inside rfl (by simp [requirements]) h)
    · exact Or.inl ⟨b, f, a, rfl, List.mem_singleton.mp h⟩
  | call f args =>
    obtain ⟨m', hm', rfl⟩ := List.mem_map.mp h
    obtain ⟨j, x, m, ds, hx, hm, rfl, hfront⟩ := mem_argLookups hm'
    refine Or.inr ⟨j, x, m, .element f :: f.type.type.requirements ++ ds, hx, hm, ?_, ?_⟩
    · simp [Lookup.behind, Lookup.inside]
    · rw [List.append_assoc]
      exact (List.prefix_append_right_inj _).mpr hfront
  | unary op y => exact Or.inr (looksInChild_of_inside (x := y) (i := 0) rfl List.prefix_rfl h)
  | binary op y z =>
    rcases List.mem_append.mp h with h | h
    · exact Or.inr (looksInChild_of_inside rfl (List.prefix_append _ _) h)
    · exact Or.inr (looksInChild_of_behind rfl List.prefix_rfl h)
  | conditional c p n =>
    simp only [lookups, List.append_assoc, List.mem_append] at h
    rcases h with h | h | h
    · exact Or.inr (looksInChild_of_inside rfl (by simp [requirements]) h)
    · exact Or.inr (looksInChild_of_behind rfl (List.prefix_append _ _) h)
    · exact Or.inr (looksInChild_of_behind rfl List.prefix_rfl h)
  | cast t x => exact Or.inr (looksInChild_of_behind rfl List.prefix_rfl h)

/-- Only the bases of member accesses are looked at. -/
theorem exists_looksAtBase (h : l ∈ e.lookups) : ∃ b, e.LooksAtBase l b := by
  induction e using inductOnChildren generalizing l with
  | step e ih =>
    rcases mem_lookups_step h with ⟨b, f, a, rfl, rfl⟩ | ⟨i, x, m, ds, hx, hm, rfl, hfront⟩
    · refine ⟨b, h, ⟨[], f, a, rfl, rfl⟩, ?_, List.suffix_rfl⟩
      rw [requirements, List.append_assoc]
      exact List.prefix_append _ _
    · obtain ⟨b, -, ⟨path, f, a, hpath, hmember⟩, hfront', hrequired⟩ :=
        ih x (List.mem_of_getElem? hx) hm
      refine ⟨b, h, ⟨i :: path, f, a, ?_, (at?_cons hx path).trans hmember⟩, ?_, ?_⟩
      · exact congrArg (i :: ·) hpath
      · exact ((List.prefix_append_right_inj ds).mpr hfront').trans hfront
      · exact hrequired.trans (List.suffix_append _ _)

end Expr

/-! ### Courses of sweeps -/

variable {σ : Type} {k : Registry σ}

namespace Expr

/-- Offering dependencies runs no rule. -/
theorem course_offerAll (k : Registry σ) (e : Expr) (ds : List Dependency) (s : σ) (known : Known)
    (fresh : Nat) :
    ∃ events, Course k e ⟨s, known, fresh⟩ events ⟨(k.offerAll ds s).state, known, fresh⟩ ∧
      (k.offerAll ds s).log = Event.logs events ∧ Event.places events = [] := by
  induction ds generalizing s with
  | nil => exact ⟨[], .done, rfl, rfl⟩
  | cons d ds ih =>
    cases hd : (k.offer d s).accepted with
    | true =>
      obtain ⟨events, hcourse, hlog, hplaces⟩ := ih (k.offer d s).state
      obtain ⟨-, hstate⟩ := k.offerAll_cons_of_accepted hd ds
      refine ⟨.offered d (k.offer d s).log :: events, ?_, ?_, hplaces⟩
      · rw [hstate]
        exact .offered hcourse
      · simp [Acceptor.offerAll, Step.andThen, hd, hlog, Event.logs, Event.log]
    | false =>
      rw [k.offerAll_cons_of_refused hd]
      exact ⟨[.offered d (k.offer d s).log], .offered .done, (List.append_nil _).symm, rfl⟩

/-- Whether an answer to a sweep from `w` on comes of the events, which run rules only on the
resolution paths of lookups in `ls` that the sweep has come to. -/
structure Proceeds (k : Registry σ) (e : Expr) (ls : List Lookup) (w : Sweep σ)
    (events : List Event) (r : Reply (Sweep σ)) : Prop where
  course : Course k e w.view events r.state.view
  log : r.log = Event.logs events
  /-- Every rule that is run belongs to a lookup. -/
  resolved : ∀ path ∈ Event.places events, ∃ l ∈ ls, k.TakesAll w.registry l.before ∧
    ∃ x, e.at? l.path = some x ∧ ∃ q ∈ x.resolutionPath, path = l.path ++ q
  /-- What is looked at is known from then on. -/
  known : ∀ l ∈ ls, k.TakesAll w.registry l.before →
    (r.state.cache.known l.path).isSome = true

end Expr

/-- Whether every sweep by the step over `e` has a course, and looks at the types of `ls`. -/
def Looks (k : Registry σ) (e : Expr) (s : Step (Sweep σ)) (ls : List Lookup) : Prop :=
  ∀ w, e.Fits w.cache → ∃ events, e.Proceeds k ls w events (s w)

namespace Looks

variable {e x : Expr} {s t : Step (Sweep σ)} {ds : List Dependency} {ls ms : List Lookup}

theorem done : Looks k e Step.done [] := fun _ _ => ⟨[], .done, rfl, nofun, nofun⟩

theorem offers (k : Registry σ) (e : Expr) (ds : List Dependency) :
    Looks k e (Sweep.onRegistry (k.offerAll ds)) [] := by
  intro w _
  obtain ⟨events, hcourse, hlog, hplaces⟩ :=
    e.course_offerAll k ds w.registry w.cache.known w.fresh
  exact ⟨events, hcourse, hlog, hplaces ▸ nofun, nofun⟩

theorem andThen (hperforms : Performs k e s ds) (hs : Looks k e s ls) (ht : Looks k e t ms) :
    Looks k e (s.andThen t) (ls ++ ms.map (.behind ds)) := by
  intro w hw
  obtain ⟨events, hcourse, hlog, hresolved, hknown⟩ := hs w hw
  obtain ⟨haccepted, hstate, hfits⟩ := hperforms w hw
  simp only [Step.andThen, haccepted]
  split
  · next htrue =>
    -- the second step starts from the state after everything in `ds`
    have htakes := Acceptor.takesAll_of_accepted htrue
    rw [(Acceptor.offerAll_of_takesAll htakes).2] at hstate
    obtain ⟨more, hcourse', hlog', hresolved', hknown'⟩ := ht (s w).state hfits
    refine ⟨events ++ more, hcourse.append hcourse', ?_, fun path hpath => ?_, fun l hl h => ?_⟩
    · rw [hlog, hlog', Event.logs_append]
    · rw [Event.places_append, List.mem_append] at hpath
      rcases hpath with hpath | hpath
      · obtain ⟨l, hl, hl'⟩ := hresolved path hpath
        exact ⟨l, List.mem_append_left _ hl, hl'⟩
      · obtain ⟨l, hl, hbefore, hx⟩ := hresolved' path hpath
        rw [hstate] at hbefore
        exact ⟨l.behind ds, List.mem_append_right _ (List.mem_map_of_mem hl),
          (k.takesAll_append ..).mpr ⟨htakes, hbefore⟩, hx⟩
    · rcases List.mem_append.mp hl with hl | hl
      · obtain ⟨u, hu⟩ := Option.isSome_iff_exists.mp (hknown l hl h)
        exact Option.isSome_iff_exists.mpr ⟨u, hcourse'.fills.kept hu⟩
      · obtain ⟨m, hm, rfl⟩ := List.mem_map.mp hl
        refine hknown' m hm ?_
        rw [hstate]
        exact ((k.takesAll_append ..).mp h).2
  · next hfalse =>
    refine ⟨events, hcourse, hlog, fun path hpath => ?_, fun l hl h => ?_⟩
    · obtain ⟨l, hl, hl'⟩ := hresolved path hpath
      exact ⟨l, List.mem_append_left _ hl, hl'⟩
    · rcases List.mem_append.mp hl with hl | hl
      · exact hknown l hl h
      · obtain ⟨m, hm, rfl⟩ := List.mem_map.mp hl
        exact absurd (Acceptor.offerAll_of_takesAll ((k.takesAll_append ..).mp h).1).1 hfalse

theorem atChild {i : Nat} (hx : e.children[i]? = some x) (hs : Looks k x s ls) :
    Looks k e (Sweep.atChild i s) (ls.map (.inside i)) := by
  intro w hw
  obtain ⟨events, hcourse, hlog, hresolved, hknown⟩ :=
    hs { w with cache := w.cache.child i } (hw.child hx)
  refine ⟨events.map (.inside [i]), ?_, ?_, fun path hpath => ?_, fun l hl h => ?_⟩
  · have hwhole := hcourse.atChild hx w.cache.known
    rw [Sweep.view, TypeCache.known_child, Known.graft_child] at hwhole
    rw [Sweep.view, Sweep.view, Sweep.atChild, Step.within, TypeCache.known_withChild]
    exact hwhole
  · rw [Event.logs_inside]
    exact hlog
  · rw [Event.places_inside] at hpath
    obtain ⟨q, hq, rfl⟩ := List.mem_map.mp hpath
    obtain ⟨l, hl, hbefore, y, hy, r, hr, rfl⟩ := hresolved q hq
    exact ⟨l.inside i, List.mem_map_of_mem hl, hbefore, y,
      (Expr.at?_cons hx l.path).trans hy, r, hr, rfl⟩
  · obtain ⟨m, hm, rfl⟩ := List.mem_map.mp hl
    rw [Sweep.atChild, Step.within, TypeCache.known_withChild]
    exact (congrArg Option.isSome (if_pos rfl)).trans (hknown m hm h)

theorem withType {next : SharedType → Step (Sweep σ)}
    (hnext : ∀ t : SharedType, t.type = e.type → Looks k e (next t) []) :
    Looks k e (Sweep.withType e next) [⟨[], []⟩] := by
  intro w hw
  obtain ⟨htype, hfits⟩ := e.resolves_resolve hw w.fresh
  obtain ⟨hanswer, events, hcourse, hlog, hpaths⟩ := e.course_resolve w.cache w.fresh
  obtain ⟨more, hcourse', hlog', hresolved', -⟩ :=
    hnext _ htype { w with cache := (e.resolve w.cache w.fresh).cache, fresh := _ } hfits
  refine ⟨events ++ more, (hcourse k w.registry).append hcourse', ?_, fun path hpath => ?_,
    fun l hl _ => ?_⟩
  · rw [Event.logs_append, ← hlog, ← hlog']
    rfl
  · rw [Event.places_append, List.mem_append] at hpath
    rcases hpath with hpath | hpath
    · have hpending := (Event.mem_places_iff hpaths).mp hpath
      exact ⟨_, List.mem_singleton_self _, trivial, e, rfl, path,
        (List.takeWhile_sublist _).mem (List.mem_reverse.mp hpending), rfl⟩
    · obtain ⟨l, hl, -⟩ := hresolved' path hpath
      cases hl
  · obtain rfl := List.mem_singleton.mp hl
    exact Option.isSome_iff_exists.mpr ⟨_, hcourse'.fills.kept hanswer⟩

end Looks

theorem Sweeps.looks {e : Expr} {s : Step (Sweep σ)} {ds : List Dependency} {ls : List Lookup}
    (h : Sweeps k e s ds ls) : Looks k e s ls := by
  induction h with
  | done => exact .done
  | offers ds => exact .offers k _ ds
  | andThen hs _ ihs iht => exact .andThen hs.performs ihs iht
  | atChild hx _ ih => exact ih.atChild hx
  | withType _ ih => exact .withType ih

/-- Registering the needs of an expression looks at its lookups, and runs no rule but for that. -/
theorem Expr.looks_require (k : Registry σ) (e : Expr) : Looks k e (e.require k) e.lookups :=
  (sweeps_require k e).looks

end ExprEmit
