import ExprEmit.Proofs.Dependency.List
import ExprEmit.Proofs.Unit.Bookkeeping

/-!
# Units over a dependency list

A dependency list refuses nothing, so a unit over one has no errors: it writes every expression, and
its list is what the needs of all of them add up to (`GenerationUnit.addAll_registry`).
-/

namespace ExprEmit

namespace GenerationUnit

/-- The outcome of an expression that is written. -/
def whole (e : Expr) : Rendered := ⟨e.text, true⟩

theorem state_emit_text (e : Expr) : (e.emit Sink.text "").state = e.text := by
  rw [e.emit_eq_offerAll, (Sink.offerAll_text e.pieces "").2]
  exact String.empty_append

/-- A dependency list that serves offers adds them all. -/
theorem serves_registry {l : DependencyList} {ds : List Dependency} {accepted : Bool}
    {n : Acceptor.Noted Dependency DependencyList}
    (h : DependencyList.registry.Serves l ds accepted n) :
    accepted = true ∧ n.state = l.insertAll ds := by
  cases h with
  | complete hall =>
    have hafter := (Acceptor.offerAll_of_takesAll hall).2
    rw [(DependencyList.offerAll_registry ds l).2] at hafter
    exact ⟨rfl, hafter.symm⟩
  | refused hsplit hbefore hrefused => cases hrefused

/-- Over a dependency list every expression is written. -/
theorem Processed.of_registry {l t : DependencyList} {es : List Expr} {rs : List Rendered}
    (h : Processed DependencyList.registry l es rs t) :
    rs = es.map whole ∧ t = l.insertAll (es.flatMap Expr.requirements) := by
  induction h with
  | none => exact ⟨rfl, rfl⟩
  | @written l t e es rs n hserves htext hrest ih =>
    obtain ⟨rfl, rfl⟩ := ih
    obtain ⟨-, hstate⟩ := serves_registry hserves
    rw [hstate, state_emit_text]
    exact ⟨rfl, by simp [DependencyList.insertAll]⟩
  | refused hserves =>
    obtain ⟨hrefused, -⟩ := serves_registry hserves
    cases hrefused

/-- Adding expressions to a new unit over a dependency list. -/
theorem addAll_registry (es : List Expr) (fresh : Nat) :
    ((ofRegistry DependencyList.empty).addAll DependencyList.registry (es.map .ofExpr) fresh).unit =
      ⟨DependencyList.empty.insertAll (es.flatMap Expr.requirements), es.map whole, []⟩ := by
  have hfits : ∀ c ∈ es.map CachedExpr.ofExpr, c.expr.Fits c.cache := by
    intro c hc
    obtain ⟨e, -, rfl⟩ := List.mem_map.mp hc
    exact e.fits_empty
  obtain ⟨rs, hextends, -⟩ := addAll_extends DependencyList.registry
    (ofRegistry DependencyList.empty) hfits fresh
  have hexprs : (es.map CachedExpr.ofExpr).map CachedExpr.expr = es := by
    rw [List.map_map]
    exact List.map_id es
  have hprocessed := hextends.processed
  rw [hexprs] at hprocessed
  obtain ⟨rfl, hregistry⟩ := hprocessed.of_registry
  have herrors : failures 0 (es.map whole) = [] := by
    rw [failures, List.map_eq_nil_iff, List.findIdxs_eq_nil_iff]
    simp [whole]
  have hrendered := hextends.rendered
  have hall := hextends.errors.trans (congrArg ([] ++ ·) herrors)
  generalize ((ofRegistry DependencyList.empty).addAll DependencyList.registry
    (es.map .ofExpr) fresh).unit = u at *
  obtain ⟨_, _, _⟩ := u
  cases hregistry
  cases hrendered
  cases hall
  rfl

end GenerationUnit

end ExprEmit
