import ExprEmit.Dependency.List

/-!
# Guarded registries

A registry that notes every dependency it is offered and refuses some: elements and types by name,
and everything after a number of attempts.  What it accepts goes to a dependency list.
-/

namespace ExprEmit

/-- What a guarded registry refuses. -/
structure Guard where
  /-- Identifiers of refused elements. -/
  elements : List String
  /-- Qualified names of refused types. -/
  types : List String
  /-- The number of attempts after which everything is refused. -/
  limit : Option Nat
deriving Inhabited

/-- A dependency list behind a guard, with every attempt made on it. -/
structure GuardedList where
  accepted : DependencyList
  /-- Every dependency offered, refused ones included. -/
  attempts : List Dependency
deriving Inhabited

namespace Guard

/-- Whether the guard refuses `d` by its name. -/
def refusesName (g : Guard) : Dependency → Bool
  | .element e => g.elements.contains e.name.identifier
  | .type d _ => g.types.contains d.name.qualified

/-- Whether the guard refuses `d` as the `n`-th attempt. -/
def refuses (g : Guard) (n : Nat) (d : Dependency) : Bool :=
  g.refusesName d || g.limit.any (· < n)

/-- The registry behind the guard. -/
def registry (g : Guard) : Registry GuardedList where
  offer d := fun s =>
    let attempts := s.attempts ++ [d]
    if g.refuses attempts.length d then ⟨false, { s with attempts }, []⟩
    else
      let a := DependencyList.registry.offer d s.accepted
      ⟨a.accepted, { accepted := a.state, attempts }, a.log⟩

end Guard

namespace GuardedList

/-- The empty list, before any attempt. -/
def empty : GuardedList := ⟨.empty, []⟩

/-- The same list with its attempts forgotten. -/
def forgetAttempts (s : GuardedList) : GuardedList := { s with attempts := [] }

end GuardedList

end ExprEmit
