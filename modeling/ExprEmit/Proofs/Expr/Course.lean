import ExprEmit.Expr.Dependencies
import ExprEmit.Proofs.Expr.Resolution
import Mathlib.Data.List.Nodup

/-!
# What happens in a call

A call on an expression runs the rules of expressions inside it and offers dependencies to a
registry, one after another.  `Expr.Course` lists what happens: each rule is run where the type is
not known yet, on what is known by then, and its result is remembered.

So a rule is run at most once at each place, and what is remembered is never replaced
(`Expr.Course.fills`).  Resolving a type runs the rules at the pending places, innermost first, and
does nothing else (`Expr.course_resolve`).
-/

namespace ExprEmit

/-! ### Events -/

/-- Something that happens in a call on an expression. -/
inductive Event where
  /-- The rule of the expression at `path` is run and logs `log`. -/
  | resolved (path : List Nat) (log : List Log.Record)
  /-- A registry is offered `d` and logs `log`. -/
  | offered (d : Dependency) (log : List Log.Record)

namespace Event

/-- What is logged. -/
def log : Event → List Log.Record
  | resolved _ log | offered _ log => log

/-- The place of a rule that is run. -/
def path? : Event → Option (List Nat)
  | resolved path _ => some path
  | offered _ _ => none

/-- The same event for the whole of which the expression is the part at `path`. -/
def inside (path : List Nat) : Event → Event
  | resolved q log => resolved (path ++ q) log
  | offered d log => offered d log

/-- Everything that is logged, in order. -/
def logs (events : List Event) : List Log.Record := events.flatMap log

/-- The places at which a rule is run, in order. -/
def places (events : List Event) : List (List Nat) := events.filterMap path?

theorem logs_append (events more : List Event) : logs (events ++ more) = logs events ++ logs more :=
  List.flatMap_append

theorem places_append (events more : List Event) :
    places (events ++ more) = places events ++ places more :=
  List.filterMap_append

theorem log_inside (path : List Nat) (event : Event) : (event.inside path).log = event.log := by
  cases event <;> rfl

theorem path?_inside (path : List Nat) (event : Event) :
    (event.inside path).path? = event.path?.map (path ++ ·) := by
  cases event <;> rfl

theorem inside_inside (path q : List Nat) (event : Event) :
    (event.inside q).inside path = event.inside (path ++ q) := by
  cases event <;> simp [inside]

theorem inside_nil (event : Event) : event.inside [] = event := by
  cases event <;> rfl

theorem map_path?_inside (path : List Nat) (events : List Event) :
    (events.map (inside path)).map path? = (events.map path?).map (Option.map (path ++ ·)) := by
  rw [List.map_map, List.map_map]
  exact List.map_congr_left fun event _ => event.path?_inside path

theorem logs_inside (path : List Nat) (events : List Event) :
    logs (events.map (inside path)) = logs events := by
  simp only [logs, List.flatMap_map, log_inside]

theorem places_inside (path : List Nat) (events : List Event) :
    places (events.map (inside path)) = (places events).map (path ++ ·) := by
  simp only [places, List.filterMap_map, List.map_filterMap, Function.comp_def, path?_inside]

/-- If rules are run at the places in `paths`, and nothing else happens, these are the places. -/
theorem mem_places_iff {events : List Event} {paths : List (List Nat)} {path : List Nat}
    (h : events.map path? = paths.map some) : path ∈ places events ↔ path ∈ paths := by
  have hplaces : places events = (events.map path?).filterMap id := by
    rw [places, List.filterMap_map, Function.id_comp]
  rw [hplaces, h, List.filterMap_map, Function.id_comp, List.filterMap_some]

end Event

/-! ### What becomes known -/

/-- Whether exactly the places in `places` have become known between `before` and `after`, each of
them once. -/
structure Known.Fills (before : Known) (places : List (List Nat)) (after : Known) : Prop where
  nodup : places.Nodup
  unknown : ∀ path ∈ places, before path = none
  known : ∀ path ∈ places, (after path).isSome = true
  others : ∀ path, path ∉ places → after path = before path

namespace Known.Fills

variable {a b c : Known} {ps qs : List (List Nat)} {path : List Nat} {t : SharedType}

/-- What is known stays known, as the same object. -/
theorem kept (h : a.Fills ps b) (ht : a path = some t) : b path = some t := by
  have hpath : path ∉ ps := by
    intro hmem
    rw [h.unknown path hmem] at ht
    cases ht
  rw [h.others path hpath, ht]

theorem refl (a : Known) : a.Fills [] a where
  nodup := List.nodup_nil
  unknown := nofun
  known := nofun
  others _ _ := rfl

theorem update (h : a path = none) (t : SharedType) :
    a.Fills [path] (Function.update a path (some t)) where
  nodup := List.nodup_singleton path
  unknown := List.forall_mem_singleton.mpr h
  known := List.forall_mem_singleton.mpr (by rw [Function.update_self]; rfl)
  others _ hq := Function.update_of_ne (fun h => hq (List.mem_singleton.mpr h)) _ _

theorem trans (h : a.Fills ps b) (h' : b.Fills qs c) : a.Fills (ps ++ qs) c where
  nodup := by
    refine List.nodup_append'.mpr ⟨h.nodup, h'.nodup, fun p hp hq => ?_⟩
    -- what has become known before cannot become known again
    have hknown := h.known p hp
    rw [h'.unknown p hq] at hknown
    cases hknown
  unknown p hp := by
    by_cases hmem : p ∈ ps
    · exact h.unknown p hmem
    · rw [← h.others p hmem]
      exact h'.unknown p ((List.mem_append.mp hp).resolve_left hmem)
  known p hp := by
    by_cases hmem : p ∈ qs
    · exact h'.known p hmem
    · rw [h'.others p hmem]
      exact h.known p ((List.mem_append.mp hp).resolve_right hmem)
  others p hp := by
    rw [List.mem_append, not_or] at hp
    rw [h'.others p hp.2, h.others p hp.1]

end Known.Fills

/-! ### Courses -/

/-- What a sweep works on, as far as it can be told: a registry, what is known of the types, and the
number of the next new type object. -/
structure View (σ : Type) where
  registry : σ
  known : Known
  fresh : Nat

/-- The view of a sweep. -/
def Sweep.view {σ : Type} (w : Sweep σ) : View σ := ⟨w.registry, w.cache.known, w.fresh⟩

namespace Expr

/-- Whether the rule of the expression at `path` makes `d` of what is known. -/
inductive Makes (e : Expr) (known : Known) (fresh : Nat) (path : List Nat) : Derived → Prop where
  | own {x : Expr} {derive : Nat → Derived} (hx : e.at? path = some x)
      (hrule : x.typeRule = .own derive) : Makes e known fresh path (derive fresh)
  | of {x y : Expr} {i : Nat} {derive : SharedType → Nat → Derived} {t : SharedType}
      (hx : e.at? path = some x) (hrule : x.typeRule = .of i y derive)
      (ht : known (path ++ [i]) = some t) : Makes e known fresh path (derive t fresh)

/-- Whether the events lead from one view to another. -/
inductive Course {σ : Type} (k : Registry σ) (e : Expr) : View σ → List Event → View σ → Prop where
  | done {v : View σ} : Course k e v [] v
  /-- A rule is run at a place where the type is not known, and the type is remembered. -/
  | resolved {v w : View σ} {path : List Nat} {d : Derived} {events : List Event}
      (hunknown : v.known path = none) (hmakes : e.Makes v.known v.fresh path d)
      (hrest : Course k e ⟨v.registry, Function.update v.known path (some d.type), d.fresh⟩
        events w) :
      Course k e v (.resolved path d.log :: events) w
  /-- A dependency is offered. -/
  | offered {v w : View σ} {d : Dependency} {events : List Event}
      (hrest : Course k e ⟨(k.offer d v.registry).state, v.known, v.fresh⟩ events w) :
      Course k e v (.offered d (k.offer d v.registry).log :: events) w

variable {σ : Type} {k : Registry σ} {e x : Expr} {i : Nat}

theorem Makes.length_log_le {known : Known} {fresh : Nat} {path : List Nat} {d : Derived}
    (h : e.Makes known fresh path d) : d.log.length ≤ 1 := by
  cases h with
  | own _ hrule => exact (governs_own hrule).2.1 fresh
  | of _ hrule _ => exact (governs_of hrule).2.2.1 _ fresh

/-- What the rule at a place of a child does, it does at that place of the whole. -/
theorem Makes.atChild {known : Known} {fresh : Nat} {path : List Nat} {d : Derived}
    (hx : e.children[i]? = some x) (h : x.Makes (known.child i) fresh path d) :
    e.Makes known fresh (i :: path) d := by
  cases h with
  | own hy hrule => exact .own ((at?_cons hx path).trans hy) hrule
  | of hy hrule ht => exact .of ((at?_cons hx path).trans hy) hrule ht

namespace Course

theorem append {u v w : View σ} {events more : List Event} (h : Course k e u events v)
    (h' : Course k e v more w) : Course k e u (events ++ more) w := by
  induction h with
  | done => exact h'
  | resolved hunknown hmakes _ ih => exact .resolved hunknown hmakes (ih h')
  | offered _ ih => exact .offered (ih h')

/-- A course makes known what it runs a rule at, and changes nothing else of what is known. -/
theorem fills {v w : View σ} {events : List Event} (h : Course k e v events w) :
    v.known.Fills (Event.places events) w.known := by
  induction h with
  | done => exact .refl _
  | resolved hunknown _ _ ih => exact (Known.Fills.update hunknown _).trans ih
  | offered _ ih => exact ih

/-- Each run of a rule logs at most one record. -/
theorem length_log_le {v w : View σ} {events : List Event} (h : Course k e v events w)
    {event : Event} (hevent : event ∈ events) (hpath : event.path?.isSome = true) :
    event.log.length ≤ 1 := by
  induction h with
  | done => cases hevent
  | resolved _ hmakes _ ih =>
    rcases List.mem_cons.mp hevent with rfl | hevent
    · exact hmakes.length_log_le
    · exact ih hevent
  | offered _ ih =>
    rcases List.mem_cons.mp hevent with rfl | hevent
    · cases hpath
    · exact ih hevent

/-- The course of a call on a child, as one for the whole. -/
theorem atChild {v w : View σ} {events : List Event} (hx : e.children[i]? = some x)
    (known : Known) (h : Course k x v events w) :
    Course k e ⟨v.registry, known.graft i v.known, v.fresh⟩ (events.map (.inside [i]))
      ⟨w.registry, known.graft i w.known, w.fresh⟩ := by
  induction h with
  | done => exact .done
  | @resolved v w path d _ hunknown hmakes _ ih =>
    refine .resolved ((if_pos rfl).trans hunknown : known.graft i v.known (i :: path) = none) ?_ ?_
    · rw [← known.child_graft v.known i] at hmakes
      exact hmakes.atChild hx
    · change Course k e ⟨_, Function.update (known.graft i v.known) (i :: path) _, _⟩ _ _
      rw [Known.update_graft]
      exact ih
  | offered _ ih => exact .offered ih

/-- The course of a call on the part at `path`, as one for the whole. -/
theorem atPath {path : List Nat} {c d : TypeCache} {s t : σ} {m n : Nat} {events : List Event}
    (hx : e.at? path = some x)
    (h : Course k x ⟨s, (c.atPath path).known, m⟩ events ⟨t, d.known, n⟩) :
    Course k e ⟨s, c.known, m⟩ (events.map (.inside path)) ⟨t, (c.withPath path d).known, n⟩ := by
  induction path generalizing e c with
  | nil =>
    cases hx
    have hevents : events.map (Event.inside []) = events := by
      rw [List.map_congr_left fun event _ => event.inside_nil, List.map_id']
    rw [hevents]
    exact h
  | cons i path ih =>
    obtain ⟨y, hy, hx⟩ := Option.bind_eq_some_iff.mp hx
    have hevents : events.map (Event.inside (i :: path)) =
        (events.map (.inside path)).map (.inside [i]) := by
      rw [List.map_map]
      exact List.map_congr_left fun event _ => (event.inside_inside [i] path).symm
    have hwhole := (ih (c := c.child i) hx h).atChild hy c.known
    rw [TypeCache.known_child, Known.graft_child] at hwhole
    rw [hevents, TypeCache.withPath, TypeCache.known_withChild]
    exact hwhole

end Course

/-! ### Resolving -/

/-- Resolving the type of an expression runs the rules at the pending places, innermost first, and
nothing else.  The answer is the object that is known of the expression from then on. -/
theorem course_resolve (e : Expr) (c : TypeCache) (n : Nat) :
    let r := e.resolve c n
    r.cache.slot = some r.type ∧ ∃ events,
      (∀ {σ : Type} (k : Registry σ) (s : σ),
        Course k e ⟨s, c.known, n⟩ events ⟨s, r.cache.known, r.fresh⟩) ∧
      r.log = Event.logs events ∧
      events.map Event.path? = (e.pending c.known).reverse.map some := by
  induction e using inductOnTypeRule generalizing c n with
  | own e derive hrule =>
    intro r
    cases hslot : c.slot with
    | some t =>
      have hr : r = _ := resolve_of_known hslot n
      rw [hr, pending_of_known hslot]
      exact ⟨hslot, [], fun _ _ => .done, rfl, rfl⟩
    | none =>
      have hr : r = _ := resolve_of_own hrule hslot n
      rw [hr, pending_of_own hrule hslot, TypeCache.known_withSlot]
      exact ⟨rfl, [.resolved [] (derive n).log],
        fun _ _ => .resolved hslot (.own rfl hrule) .done, (List.append_nil _).symm, rfl⟩
  | of e i x derive hrule ih =>
    intro r
    cases hslot : c.slot with
    | some t =>
      have hr : r = _ := resolve_of_known hslot n
      rw [hr, pending_of_known hslot]
      exact ⟨hslot, [], fun _ _ => .done, rfl, rfl⟩
    | none =>
      have hr : r = _ := resolve_of_child hrule hslot n
      obtain ⟨hanswer, events, hcourse, hlog, hpaths⟩ := ih (c.child i) n
      rw [hr, pending_of_child hrule hslot, TypeCache.known_withSlot, TypeCache.known_withChild]
      generalize x.resolve (c.child i) n = operand at hanswer hcourse hlog
      refine ⟨rfl, events.map (.inside [i]) ++
        [.resolved [] (derive operand.type operand.fresh).log], fun k s => ?_, ?_, ?_⟩
      · -- the rule of the operand has been run by then, so its type is known
        have hoperand := (hcourse k s).atChild (governs_of hrule).1 c.known
        rw [TypeCache.known_child, Known.graft_child] at hoperand
        refine hoperand.append (.resolved hslot (.of rfl hrule ?_) .done)
        exact (if_pos rfl).trans hanswer
      · rw [Event.logs_append, Event.logs_inside, ← hlog]
        exact congrArg (operand.log ++ ·) (List.append_nil _).symm
      · rw [List.map_append, Event.map_path?_inside, hpaths, TypeCache.known_child,
          List.reverse_cons, List.map_append, ← List.map_reverse, List.map_map, List.map_map]
        rfl

end Expr

end ExprEmit
