import ExprEmit.Acceptor

/-!
# Steps and the offers they make

`Step.andThen` is associative with `Step.done` on both sides, so a step that is put together from
offers is `Acceptor.offerAll` of the list of what it offers: `offerAll_append` and
`all_map_offerAll` turn the steps that write or register something into such a list.

Acceptors that answer alike, but for what one of them keeps besides, still do when a list is offered
(`offerAll_map`).
-/

namespace ExprEmit

namespace Step

variable {σ : Type}

@[simp] theorem done_andThen (s : Step σ) : done.andThen s = s := by
  funext x
  simp [andThen, done]

@[simp] theorem andThen_done (s : Step σ) : s.andThen done = s := by
  funext x
  simp only [andThen, done, List.append_nil]
  split
  · next h => rw [← h]
  · rfl

theorem andThen_assoc (r s t : Step σ) : (r.andThen s).andThen t = r.andThen (s.andThen t) := by
  funext x
  simp only [andThen]
  -- a step that is not accepted ends the sequence, on either side
  by_cases hr : (r x).accepted = true
  · by_cases hs : (s (r x).state).accepted = true
    · simp [hr, hs]
    · simp [hr, hs]
  · simp [hr]

end Step

namespace Acceptor

variable {α σ : Type} (k : Acceptor α σ)

theorem offer_eq_offerAll (a : α) : k.offer a = k.offerAll [a] :=
  (Step.andThen_done _).symm

/-- A first offer that is accepted leaves the rest to be offered. -/
theorem offerAll_cons_of_accepted {a : α} {s : σ} (h : (k.offer a s).accepted = true)
    (as : List α) :
    (k.offerAll (a :: as) s).accepted = (k.offerAll as (k.offer a s).state).accepted ∧
      (k.offerAll (a :: as) s).state = (k.offerAll as (k.offer a s).state).state := by
  simp [offerAll, Step.andThen, h]

/-- A first offer that is refused is the only one. -/
theorem offerAll_cons_of_refused {a : α} {s : σ} (h : (k.offer a s).accepted = false)
    (as : List α) : k.offerAll (a :: as) s = k.offer a s := by
  simp [offerAll, Step.andThen, h]

theorem offerAll_append (as bs : List α) :
    k.offerAll (as ++ bs) = (k.offerAll as).andThen (k.offerAll bs) := by
  induction as with
  | nil => exact (Step.done_andThen _).symm
  | cons a as ih => rw [List.cons_append, offerAll, offerAll, ih, Step.andThen_assoc]

/-- Steps that each offer a list offer the lists one after another. -/
theorem all_map_offerAll (lists : List (List α)) :
    Step.all (lists.map k.offerAll) = k.offerAll lists.flatten := by
  induction lists with
  | nil => rfl
  | cons as lists ih => rw [List.map_cons, Step.all, ih, List.flatten_cons, offerAll_append]

theorem when_offerAll (b : Bool) (as : List α) :
    Step.when b (k.offerAll as) = k.offerAll (if b then as else []) := by
  cases b <;> rfl

end Acceptor

/-! ### Acceptors that answer alike -/

/-- An answer with its state seen through `f`. -/
def Reply.map {σ τ : Type} (f : σ → τ) (r : Reply σ) : Reply τ := ⟨r.accepted, f r.state, r.log⟩

theorem Acceptor.offerAll_map {α σ τ : Type} {k : Acceptor α σ} {l : Acceptor α τ} {f : σ → τ}
    (h : ∀ a s, l.offer a (f s) = (k.offer a s).map f) (as : List α) (s : σ) :
    l.offerAll as (f s) = (k.offerAll as s).map f := by
  induction as generalizing s with
  | nil => rfl
  | cons a as ih =>
    have hlog : ((k.offer a s).map f).log = (k.offer a s).log := rfl
    have hstate : ((k.offer a s).map f).state = f (k.offer a s).state := rfl
    rw [offerAll, offerAll, Step.andThen, Step.andThen, h, hlog, hstate, ih]
    -- the rest is offered to both or to neither
    cases haccepted : (k.offer a s).accepted <;> simp [Reply.map, haccepted]

end ExprEmit
