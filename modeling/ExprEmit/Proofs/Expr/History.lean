import ExprEmit.Expr.Cached
import ExprEmit.Proofs.Dependency.Order
import ExprEmit.Proofs.Expr.Lookup
import ExprEmit.Proofs.Sink

/-!
# The type cache over a history of calls

The parts of an expression can be asked for their types, written and registered in any order, into
any sinks and registries.  `Happens` says what happens in each such call: where rules are run, and
that what is written and registered is the same whatever is known.

Over a whole history no rule is run twice, nothing that is known is replaced, and what is known is
right (`Moment.run_remembers`).
-/

namespace ExprEmit

/-! ### Parts of an expression -/

/-- A part of an expression comes with its part of the cache. -/
theorem CachedExpr.exists_of_at? {e x : CachedExpr} {path : List Nat} (h : e.at? path = some x) :
    ∃ y, e.expr.at? path = some y ∧ x = ⟨y, e.cache.atPath path⟩ := by
  induction path generalizing e with
  | nil =>
    cases h
    exact ⟨_, rfl, rfl⟩
  | cons i path ih =>
    rw [CachedExpr.at?] at h
    split at h
    · next z hz =>
      obtain ⟨y, hy, hx⟩ := ih h
      exact ⟨y, (Expr.at?_cons hz path).trans hy, hx⟩
    · cases h

/-- An expression that is built from parts fits if its parts do. -/
theorem CachedExpr.fits_ofParts {e : Expr} {parts : List CachedExpr}
    (hchildren : e.children = parts.map CachedExpr.expr)
    (hparts : ∀ x ∈ parts, x.expr.Fits x.cache) : e.Fits (ofParts e parts).cache := by
  intro path y hy t ht
  cases path with
  | nil => cases ht
  | cons i path =>
    obtain ⟨z, hz, hy⟩ := Option.bind_eq_some_iff.mp hy
    rw [hchildren, List.getElem?_map] at hz
    obtain ⟨x, hx, rfl⟩ := Option.map_eq_some_iff.mp hz
    have hchild : (ofParts e parts).cache.child i = x.cache := by
      simp [ofParts, TypeCache.child, TypeCache.children, List.getD_eq_getElem?_getD, hx]
    rw [TypeCache.atPath, hchild] at ht
    exact hparts x (List.mem_of_getElem? hx) path y hy t ht

namespace Expr.Fits

variable {e x : Expr} {c d : TypeCache} {path : List Nat}

theorem atPath (h : e.Fits c) (hx : e.at? path = some x) : x.Fits (c.atPath path) := by
  induction path generalizing e c with
  | nil =>
    cases hx
    exact h
  | cons i path ih =>
    obtain ⟨y, hy, hx⟩ := Option.bind_eq_some_iff.mp hx
    exact ih (h.child hy) hx

theorem withPath (h : e.Fits c) (hx : e.at? path = some x) (hd : x.Fits d) :
    e.Fits (c.withPath path d) := by
  induction path generalizing e c with
  | nil =>
    cases hx
    exact hd
  | cons i path ih =>
    obtain ⟨y, hy, hx⟩ := Option.bind_eq_some_iff.mp hx
    exact h.withChild hy (ih (h.child hy) hx)

end Expr.Fits

theorem TypeCache.known_withPath (c d : TypeCache) (path q : List Nat) :
    (c.withPath path d).known (path ++ q) = d.known q := by
  induction path generalizing c with
  | nil => rfl
  | cons i path ih =>
    rw [withPath, known_withChild]
    exact (if_pos rfl).trans (ih (c.child i))

/-! ### Calls -/

/-- What a part of an expression can be asked for. -/
inductive Request : Type 1 where
  | type
  | isResolved
  | precedence
  | write {τ : Type} (k : Sink τ) (s : τ)
  | require {σ : Type} (k : Registry σ) (s : σ)

/-- A request to the part of an expression that a path leads to. -/
structure Call : Type 1 where
  path : List Nat
  request : Request

/-- An expression between two calls, with the number of the next new type object. -/
structure Moment where
  expr : CachedExpr
  fresh : Nat

namespace Moment

/-- The type objects that are known. -/
def known (m : Moment) : Known := m.expr.cache.known

/-- Whether every type object that is known has the type of the expression at its place. -/
def Fits (m : Moment) : Prop := m.expr.expr.Fits m.expr.cache

/-- The moment after a call, and what has been logged in it. -/
def perform (m : Moment) (c : Call) : Moment × List Log.Record :=
  match m.expr.at? c.path with
  | none => (m, [])
  | some x =>
    match c.request with
    | .type =>
      let r := x.resolve m.fresh
      (⟨m.expr.withCacheAt c.path r.cache, r.fresh⟩, r.log)
    | .isResolved | .precedence => (m, [])
    | .write k s => (m, (x.expr.emit k s).log)
    | .require k s =>
      let r := x.require k s m.fresh
      (⟨m.expr.withCacheAt c.path r.state.cache, r.state.fresh⟩, r.log)

/-- The moment after a history of calls. -/
def run (m : Moment) (calls : List Call) : Moment := calls.foldl (fun n c => (n.perform c).1) m

/-- Whether the events are what happens in a call. -/
inductive Happens (m : Moment) : Call → List Event → Prop where
  /-- There is no such part. -/
  | outside {c : Call} (hx : m.expr.at? c.path = none) : Happens m c []
  /-- Asking for a type runs the rules at the pending places of the part, innermost first, and
  nothing else.  The answer is what is known of the part from then on. -/
  | type {path : List Nat} {x : CachedExpr} {events : List Event}
      (hx : m.expr.at? path = some x)
      (hcourse : ∀ {σ : Type} (k : Registry σ) (s : σ), Expr.Course k m.expr.expr
        ⟨s, m.known, m.fresh⟩ events
        ⟨s, (m.perform ⟨path, .type⟩).1.known, (m.perform ⟨path, .type⟩).1.fresh⟩)
      (hlog : (m.perform ⟨path, .type⟩).2 = Event.logs events)
      (hplaces : events.map Event.path? =
        (x.expr.pending x.cache.known).reverse.map fun q => some (path ++ q))
      (hanswer : (m.perform ⟨path, .type⟩).1.known path = some (x.resolve m.fresh).type) :
      Happens m ⟨path, .type⟩ events
  | isResolved {path : List Nat} {x : CachedExpr} (hx : m.expr.at? path = some x)
      (hanswer : x.cache.isResolved = (m.known path).isSome) : Happens m ⟨path, .isResolved⟩ []
  | precedence {path : List Nat} {x : CachedExpr} (hx : m.expr.at? path = some x) :
      Happens m ⟨path, .precedence⟩ []
  /-- Writing runs no rule, and writes the same whatever is known. -/
  | write {path : List Nat} {x : CachedExpr} {τ : Type} {k : Sink τ} {s : τ}
      (hx : m.expr.at? path = some x)
      (hwrites : Client.Writes (fun _ k => x.expr.emit k) x.expr.pieces) :
      Happens m ⟨path, .write k s⟩ []
  /-- Registering offers the same whatever is known, and runs rules only on the resolution paths of
  the bases of member accesses that it has come to.  What is looked at is known from then on. -/
  | require {path : List Nat} {x : CachedExpr} {σ : Type} {k : Registry σ} {s : σ}
      {events : List Event} (hx : m.expr.at? path = some x)
      (hcourse : Expr.Course k m.expr.expr ⟨s, m.known, m.fresh⟩ events
        ⟨(x.require k s m.fresh).state.registry, (m.perform ⟨path, .require k s⟩).1.known,
          (m.perform ⟨path, .require k s⟩).1.fresh⟩)
      (hlog : (m.perform ⟨path, .require k s⟩).2 = Event.logs events)
      (hoffers : (x.expr.client x.cache m.fresh).Offers x.expr.requirements)
      (hplaces : ∀ p ∈ Event.places events, ∃ l b, x.expr.LooksAtBase l b ∧
        k.TakesAll s l.before ∧ ∃ q ∈ b.resolutionPath, p = path ++ l.path ++ q)
      (hknown : ∀ l b, x.expr.LooksAtBase l b → k.TakesAll s l.before →
        ((m.perform ⟨path, .require k s⟩).1.known (path ++ l.path)).isSome = true) :
      Happens m ⟨path, .require k s⟩ events

/-- Whether the lists of events are those of the calls of a history, one for each. -/
inductive Journal : Moment → List Call → List (List Event) → Prop where
  | done {m : Moment} : Journal m [] []
  | call {m : Moment} {c : Call} {calls : List Call} {events : List Event}
      {journal : List (List Event)} (hhappens : Happens m c events)
      (hfills : m.known.Fills (Event.places events) (m.perform c).1.known)
      (hrest : Journal (m.perform c).1 calls journal) :
      Journal m (c :: calls) (events :: journal)

/-! ### One call -/

variable {m : Moment} {path : List Nat} {x : CachedExpr}

theorem perform_type (hx : m.expr.at? path = some x) :
    m.perform ⟨path, .type⟩ = (⟨m.expr.withCacheAt path (x.resolve m.fresh).cache,
      (x.resolve m.fresh).fresh⟩, (x.resolve m.fresh).log) := by
  simp only [perform, hx]

theorem perform_require {σ : Type} (k : Registry σ) (s : σ) (hx : m.expr.at? path = some x) :
    m.perform ⟨path, .require k s⟩ = (⟨m.expr.withCacheAt path (x.require k s m.fresh).state.cache,
      (x.require k s m.fresh).state.fresh⟩, (x.require k s m.fresh).log) := by
  simp only [perform, hx]

/-- Whether a call is as it should be: what happens in it, and how it leaves the expression. -/
structure Behaves (m : Moment) (c : Call) (events : List Event) : Prop where
  happens : Happens m c events
  fills : m.known.Fills (Event.places events) (m.perform c).1.known
  expr : (m.perform c).1.expr.expr = m.expr.expr
  fits : (m.perform c).1.Fits
  log : ∀ event ∈ events, event.path?.isSome = true → event.log.length ≤ 1

/-- A call in which nothing happens. -/
theorem behaves_of_unchanged (hm : m.Fits) {c : Call} (h : (m.perform c).1 = m)
    (hhappens : Happens m c []) : m.Behaves c [] where
  happens := hhappens
  fills := by
    rw [h]
    exact .refl _
  expr := by rw [h]
  fits := by
    rw [h]
    exact hm
  log := nofun

theorem behaves_type (hm : m.Fits) (hx : m.expr.at? path = some x) :
    ∃ events, m.Behaves ⟨path, .type⟩ events := by
  have hperform := perform_type hx
  obtain ⟨e, he, rfl⟩ := CachedExpr.exists_of_at? hx
  obtain ⟨hanswer, events, hcourse, hlog, hpaths⟩ :=
    e.course_resolve (m.expr.cache.atPath path) m.fresh
  have hwhole : ∀ {σ : Type} (k : Registry σ) (s : σ), Expr.Course k m.expr.expr
      ⟨s, m.known, m.fresh⟩ (events.map (.inside path))
      ⟨s, (m.perform ⟨path, .type⟩).1.known, (m.perform ⟨path, .type⟩).1.fresh⟩ := by
    intro σ k s
    rw [hperform]
    exact Expr.Course.atPath he (hcourse k s)
  -- any registry will do, since none is asked
  have hcourse' := hwhole DependencyList.registry .empty
  refine ⟨events.map (.inside path), .type hx hwhole ?_ ?_ ?_, hcourse'.fills, ?_, ?_,
    fun event => hcourse'.length_log_le⟩
  · rw [hperform, Event.logs_inside]
    exact hlog
  · rw [Event.map_path?_inside, hpaths, List.map_map]
    rfl
  · rw [hperform]
    have hpart := TypeCache.known_withPath m.expr.cache
      (e.resolve (m.expr.cache.atPath path) m.fresh).cache path []
    rw [List.append_nil] at hpart
    exact hpart.trans hanswer
  · rw [hperform]
    rfl
  · rw [hperform]
    exact Expr.Fits.withPath hm he (e.resolves_resolve (Expr.Fits.atPath hm he) m.fresh).2

theorem behaves_require (hm : m.Fits) (hx : m.expr.at? path = some x) {σ : Type} (k : Registry σ)
    (s : σ) : ∃ events, m.Behaves ⟨path, .require k s⟩ events := by
  have hperform := perform_require k s hx
  obtain ⟨e, he, rfl⟩ := CachedExpr.exists_of_at? hx
  have hfits := Expr.Fits.atPath hm he
  let w : Sweep σ := ⟨s, m.expr.cache.atPath path, m.fresh⟩
  obtain ⟨events, hcourse, hlog, hresolved, hknown⟩ := e.looks_require k w hfits
  have hwhole : Expr.Course k m.expr.expr ⟨s, m.known, m.fresh⟩ (events.map (.inside path))
      ⟨(e.require k w).state.registry, (m.perform ⟨path, .require k s⟩).1.known,
        (m.perform ⟨path, .require k s⟩).1.fresh⟩ := by
    rw [hperform]
    exact Expr.Course.atPath he hcourse
  refine ⟨events.map (.inside path), .require hx hwhole ?_ ?_ ?_ ?_, hwhole.fills, ?_, ?_,
    fun event => hwhole.length_log_le⟩
  · rw [hperform, Event.logs_inside]
    exact hlog
  · refine Client.offers_of_offerAll fun σ k s => ?_
    obtain ⟨haccepted, hstate, -⟩ := e.performs_require k ⟨s, _, m.fresh⟩ hfits
    exact ⟨haccepted, hstate⟩
  · intro p hp
    rw [Event.places_inside] at hp
    obtain ⟨p', hp', rfl⟩ := List.mem_map.mp hp
    obtain ⟨l, hl, htakes, y, hy, q, hq, rfl⟩ := hresolved p' hp'
    obtain ⟨b, hb⟩ := Expr.exists_looksAtBase hl
    obtain rfl : b = y := Option.some.inj (hb.at?_path.symm.trans hy)
    exact ⟨l, b, hb, htakes, q, hq, (List.append_assoc ..).symm⟩
  · intro l b hb htakes
    rw [hperform]
    exact (congrArg Option.isSome (TypeCache.known_withPath ..)).trans (hknown l hb.mem htakes)
  · rw [hperform]
    rfl
  · rw [hperform]
    exact Expr.Fits.withPath hm he (e.performs_require k w hfits).2.2

theorem exists_behaves (hm : m.Fits) (c : Call) : ∃ events, m.Behaves c events := by
  obtain ⟨path, request⟩ := c
  cases hx : m.expr.at? path with
  | none => exact ⟨[], behaves_of_unchanged hm (by simp only [perform, hx]) (.outside hx)⟩
  | some x =>
    cases request with
    | type => exact behaves_type hm hx
    | isResolved =>
      refine ⟨[], behaves_of_unchanged hm (by simp only [perform, hx]) (.isResolved hx ?_)⟩
      obtain ⟨e, -, rfl⟩ := CachedExpr.exists_of_at? hx
      rfl
    | precedence =>
      exact ⟨[], behaves_of_unchanged hm (by simp only [perform, hx]) (.precedence hx)⟩
    | write k s =>
      refine ⟨[], behaves_of_unchanged hm (by simp only [perform, hx]) (.write hx ?_)⟩
      exact Client.writes_of_offerAll fun _ k => x.expr.emit_eq_offerAll k
    | require k s => exact behaves_require hm hx k s

/-! ### Histories -/

theorem run_append (m : Moment) (calls more : List Call) :
    m.run (calls ++ more) = (m.run calls).run more :=
  List.foldl_append

/-- What is left of a history: the calls have been as they should be, each from the moment that the
one before it has left. -/
theorem exists_journal (hm : m.Fits) (calls : List Call) :
    ∃ journal, Journal m calls journal ∧
      m.known.Fills (Event.places journal.flatten) (m.run calls).known ∧
      (m.run calls).expr.expr = m.expr.expr ∧ (m.run calls).Fits ∧
      ∀ event ∈ journal.flatten, event.path?.isSome = true → event.log.length ≤ 1 := by
  induction calls generalizing m with
  | nil => exact ⟨[], .done, .refl _, rfl, hm, nofun⟩
  | cons c calls ih =>
    obtain ⟨events, hc⟩ := exists_behaves hm c
    obtain ⟨journal, hjournal, hfills, hexpr, hfits, hlog⟩ := ih hc.fits
    refine ⟨events :: journal, .call hc.happens hc.fills hjournal, ?_, hexpr.trans hc.expr, hfits,
      ?_⟩
    · rw [List.flatten_cons, Event.places_append]
      exact hc.fills.trans hfills
    · rw [List.flatten_cons]
      exact List.forall_mem_append.mpr ⟨hc.log, hlog⟩

/-- Over every history of calls on the parts of an expression, what is known stays known, as the
same objects, and has the types of the expressions at their places.  A rule is run at most once at
each place and makes at most one remark, and exactly the places at which rules are run become known;
`Happens` says which these are in each call. -/
theorem run_remembers (hm : m.Fits) (calls : List Call) :
    (m.run calls).expr.expr = m.expr.expr ∧
      (∀ path x, m.expr.expr.at? path = some x →
        ∀ t, (m.run calls).known path = some t → t.type = x.type) ∧
      (∀ earlier later, calls = earlier ++ later →
        ∀ path t, (m.run earlier).known path = some t → (m.run calls).known path = some t) ∧
      ∃ journal, Journal m calls journal ∧
        m.known.Fills (Event.places journal.flatten) (m.run calls).known ∧
        ∀ event ∈ journal.flatten, event.path?.isSome = true → event.log.length ≤ 1 := by
  obtain ⟨journal, hjournal, hfills, hexpr, hfits, hlog⟩ := exists_journal hm calls
  refine ⟨hexpr, ?_, ?_, journal, hjournal, hfills, hlog⟩
  · rw [← hexpr]
    exact hfits
  · rintro earlier later rfl path t ht
    obtain ⟨-, -, -, -, hearlier, -⟩ := exists_journal hm earlier
    obtain ⟨_, -, hlater, -⟩ := exists_journal hearlier later
    rw [run_append]
    exact hlater.kept ht

/-- In `*x = p->f`, where the type of `x` has been asked for before: a registry that refuses what
`p` points to stops the sweep before the base of the member access is looked at, and asking for the
types of `*x` and of the whole afterwards gives the object that is known of `x`. -/
theorem run_remembers_assignment :
    let S : TypeDecl := ⟨1, ⟨[], "S"⟩, .struct⟩
    let x : Element := ⟨1, ⟨[], "x"⟩, ⟨1, .ofPrimitive .int⟩, .variable⟩
    let p : Element := ⟨2, ⟨[], "p"⟩, ⟨2, (Ty.ofDecl S).ptr⟩, .variable⟩
    let f : Element := ⟨3, ⟨[], "f"⟩, ⟨3, .ofPrimitive .int⟩, .field⟩
    let asked : CachedExpr := ⟨.access x, .node (some x.type) []⟩
    let starred : CachedExpr := .unary .deref asked
    let field : CachedExpr := .member (.ofExpr (.access p)) f true
    let m : Moment := ⟨.binary .assign starred field, 4⟩
    let k : Registry GuardedList := Guard.registry ⟨[], ["S"], none⟩
    let calls : List Call := [⟨[], .require k .empty⟩, ⟨[0], .type⟩, ⟨[], .type⟩, ⟨[], .type⟩]
    m.Fits ∧
      (∃ journal, Journal m calls journal ∧
        m.known.Fills (Event.places journal.flatten) (m.run calls).known) ∧
      (m.run calls).known [] = some x.type ∧ (m.run calls).known [0] = some x.type ∧
      (m.run calls).known [1] = none ∧ (m.run calls).known [1, 0] = none := by
  intro S x p f asked starred field m k calls
  have hasked : asked.expr.Fits asked.cache := (Expr.fits_empty (.access x)).withSlot rfl
  have hstarred : starred.expr.Fits starred.cache :=
    CachedExpr.fits_ofParts rfl (List.forall_mem_singleton.mpr hasked)
  have hfield : field.expr.Fits field.cache :=
    CachedExpr.fits_ofParts rfl (List.forall_mem_singleton.mpr (Expr.fits_empty (.access p)))
  have hm : m.Fits :=
    CachedExpr.fits_ofParts rfl
      (List.forall_mem_cons.mpr ⟨hstarred, List.forall_mem_singleton.mpr hfield⟩)
  obtain ⟨-, -, -, journal, hjournal, hfills, -⟩ := run_remembers hm calls
  exact ⟨hm, ⟨journal, hjournal, hfills⟩, rfl, rfl, rfl, rfl⟩

end Moment

end ExprEmit
