import ExprEmit.Dependency.Guarded
import ExprEmit.Proofs.Client
import ExprEmit.Proofs.Dependency.OfExpr

/-!
# The order of registration

What a type or an expression registers is a list that depends on nothing but itself, and every
registry is offered this list up to its first refusal (`require_offers`).  A registry may accept and
refuse by whatever it has been offered before.
-/

namespace ExprEmit

namespace Ty

/-- A value of the type, as a client of registries. -/
def valueClient (t : Ty) : Client Dependency := fun _ k => t.require k

/-- What looks inside a value of the type, as a client of registries. -/
def insideClient (t : Ty) : Client Dependency := fun _ k => t.requireInside k

end Ty

/-- An expression with the type cache `c`, as a client of registries. -/
def Expr.client (e : Expr) (c : TypeCache) (fresh : Nat) : Client Dependency := fun _ k s =>
  let reply := e.require k ⟨s, c, fresh⟩
  ⟨reply.accepted, reply.state.registry, reply.log⟩

/-- Types and expressions offer every registry their requirements, in order and up to the first that
is refused, whatever is in the type cache. -/
theorem require_offers :
    (∀ t : Ty, t.valueClient.Offers t.requirements) ∧
      (∀ t : Ty, t.insideClient.Offers t.insideRequirements) ∧
      ∀ (e : Expr) (c : TypeCache) (fresh : Nat), e.Fits c →
        (e.client c fresh).Offers e.requirements := by
  refine ⟨fun t => ?_, fun t => ?_, fun e c fresh hc => ?_⟩
  · refine Client.offers_of_offerAll fun σ k s => ?_
    rw [Ty.valueClient, t.require_eq_offerAll k]
    exact ⟨rfl, rfl⟩
  · refine Client.offers_of_offerAll fun σ k s => ?_
    rw [Ty.insideClient, t.requireInside_eq_offerAll k]
    exact ⟨rfl, rfl⟩
  · refine Client.offers_of_offerAll fun σ k s => ?_
    obtain ⟨haccepted, hstate, -⟩ := e.performs_require k ⟨s, c, fresh⟩ hc
    exact ⟨haccepted, hstate⟩

/-- A registry that takes two dependencies stops `p->f + p` at the third, where the definition of
what `p` points to is asked for. -/
theorem require_offers_limited :
    let S : TypeDecl := ⟨1, ⟨[], "S"⟩, .struct⟩
    let p : Element := ⟨1, ⟨[], "p"⟩, ⟨1, (Ty.ofDecl S).ptr⟩, .variable⟩
    let f : Element := ⟨2, ⟨[], "f"⟩, ⟨2, .ofPrimitive .int⟩, .field⟩
    let e : Expr := .binary .add (.member (.access p) f true) (.access p)
    let k : Registry GuardedList := Guard.registry ⟨[], [], some 2⟩
    let reply := e.client .empty 3 _ k.noted (.start .empty)
    e.Fits .empty ∧ k.Serves .empty e.requirements reply.accepted reply.state ∧
      reply.accepted = false ∧
      reply.state.taken = [.element p, .type S .declaration] ∧
      reply.state.attempts = [.element p, .type S .declaration, .type S .definition] := by
  intro S p f e k reply
  have hfits := e.fits_empty
  exact ⟨hfits, (require_offers.2.2 e .empty 3 hfits).serves k .empty, rfl, rfl, rfl⟩

end ExprEmit
