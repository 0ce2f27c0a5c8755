/-!
# Separated lists

The arguments of a call and the parameters of a function are joined by a comma.  What is computed
from each member of such a list commutes with the joining.
-/

namespace ExprEmit

variable {α β : Type}

theorem map_intersperse (f : α → β) (sep : α) (l : List α) :
    (l.intersperse sep).map f = (l.map f).intersperse (f sep) := by
  induction l with
  | nil => rfl
  | cons a l ih =>
    cases l with
    | nil => rfl
    | cons b l => simpa [List.intersperse_cons_cons] using ih

theorem flatMap_intercalate (f : α → List β) (sep : List α) (lists : List (List α)) :
    (sep.intercalate lists).flatMap f = (sep.flatMap f).intercalate (lists.map (·.flatMap f)) := by
  induction lists with
  | nil => rfl
  | cons a lists ih =>
    cases lists with
    | nil => simp [List.intercalate]
    | cons b lists =>
      rw [List.intercalate_cons_cons, List.flatMap_append, List.flatMap_append, ih]
      exact List.intercalate_cons_cons.symm

end ExprEmit
