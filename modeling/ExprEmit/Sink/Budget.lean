import ExprEmit.Acceptor

/-!
# Sinks with a budget

A sink that takes a number of pieces and refuses every later one.
-/

namespace ExprEmit

/-- What has become of a sink with a budget. -/
structure Budget where
  /-- The pieces taken, in order. -/
  taken : Array String
  /-- The number of pieces offered. -/
  attempts : Nat
deriving Inhabited

/-- The budget before the first offer. -/
def Budget.empty : Budget := ⟨#[], 0⟩

/-- The sink that takes `limit` pieces, or all of them if there is no limit. -/
def Sink.budget (limit : Option Nat) : Sink Budget where
  offer piece := fun s =>
    let attempts := s.attempts + 1
    if limit.any (· ≤ s.taken.size) then ⟨false, { s with attempts }, []⟩
    else ⟨true, ⟨s.taken.push piece, attempts⟩, []⟩

end ExprEmit
