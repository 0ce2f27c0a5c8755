import ExprEmit.Proofs.Client
import ExprEmit.Proofs.Emission
import ExprEmit.Sink.Budget

/-!
# Writing into any sink

What a type or an expression writes is a list that depends on nothing but itself.  Every sink is
offered this list up to its first refusal, so a sink with a budget ends with as many of its members
as the budget allows, and the text in memory is all of them joined (`emit_offers`).
-/

namespace ExprEmit

/-! ### Sinks with a budget -/

namespace Budget

/-- What is left of a budget of `n` pieces. -/
def left (n : Nat) (b : Budget) : Nat := n - b.taken.size

theorem offer_of_lt {n : Nat} {b : Budget} (h : b.taken.size < n) (piece : String) :
    (Sink.budget (some n)).offer piece b = ⟨true, ⟨b.taken.push piece, b.attempts + 1⟩, []⟩ := by
  simp [Sink.budget, h]

theorem offer_of_le {n : Nat} {b : Budget} (h : n ≤ b.taken.size) (piece : String) :
    (Sink.budget (some n)).offer piece b = ⟨false, { b with attempts := b.attempts + 1 }, []⟩ := by
  simp [Sink.budget, h]

/-- A sink with a budget takes what it has left of it, and refuses one more if there is one. -/
theorem offerAll_budget (n : Nat) (ws : List String) (b : Budget) :
    let r := (Sink.budget (some n)).offerAll ws b
    (r.accepted = true ↔ ws.length ≤ b.left n) ∧
      r.state.taken.toList = b.taken.toList ++ ws.take (b.left n) ∧
      r.state.attempts = b.attempts + min (b.left n + 1) ws.length := by
  induction ws generalizing b with
  | nil => simp [Acceptor.offerAll, Step.done]
  | cons w ws ih =>
    intro r
    rcases Nat.lt_or_ge b.taken.size n with hlt | hge
    · have hoffer := offer_of_lt hlt w
      obtain ⟨haccepted, hstate⟩ := Acceptor.offerAll_cons_of_accepted (Sink.budget (some n))
        (a := w) (s := b) (by rw [hoffer]) ws
      obtain ⟨ihaccepted, ihtaken, ihattempts⟩ := ih ⟨b.taken.push w, b.attempts + 1⟩
      -- one piece of what is left has been used up
      have hleft : b.left n = left n ⟨b.taken.push w, b.attempts + 1⟩ + 1 := by
        simp only [left, Array.size_push]
        omega
      rw [hoffer] at haccepted hstate
      refine ⟨?_, ?_, ?_⟩
      · rw [haccepted, ihaccepted, hleft, List.length_cons, Nat.add_le_add_iff_right]
      · rw [hstate, ihtaken, hleft, List.take_succ_cons]
        simp
      · rw [hstate, ihattempts, hleft, List.length_cons]
        simp only
        omega
    · have hoffer := offer_of_le hge w
      have hleft : b.left n = 0 := Nat.sub_eq_zero_of_le hge
      have hr : r = ⟨false, { b with attempts := b.attempts + 1 }, []⟩ := by
        rw [← hoffer]
        exact Acceptor.offerAll_cons_of_refused _ (by rw [hoffer]) ws
      rw [hr, hleft]
      simp

end Budget

/-! ### Sinks in memory -/

/-- The sink in memory takes everything and joins it. -/
theorem Sink.offerAll_text (ws : List String) (s : String) :
    (Sink.text.offerAll ws s).accepted = true ∧
      (Sink.text.offerAll ws s).state = s ++ String.join ws := by
  induction ws generalizing s with
  | nil => simp [Acceptor.offerAll, Step.done]
  | cons w ws ih =>
    obtain ⟨haccepted, hstate⟩ := Acceptor.offerAll_cons_of_accepted Sink.text (a := w) (s := s)
      rfl ws
    obtain ⟨ihaccepted, ihstate⟩ := ih (s ++ w)
    refine ⟨haccepted.trans ihaccepted, ?_⟩
    rw [hstate, String.join_cons, ← String.append_assoc]
    exact ihstate

/-! ### Any sink -/

/-- Whether a client writes the pieces `ws` into every sink. -/
structure Client.Writes (c : Client String) (ws : List String) : Prop where
  /-- It stops at the first piece that is refused. -/
  offers : c.Offers ws
  /-- A sink that takes `n` pieces is offered one more, if there is one. -/
  budget : ∀ n : Nat,
    let r := c _ (Sink.budget (some n)) .empty
    (r.accepted = true ↔ ws.length ≤ n) ∧
      r.state.taken.toList = ws.take n ∧ r.state.taken.size = min n ws.length ∧
      r.state.attempts = min (n + 1) ws.length
  /-- In memory everything is joined. -/
  text : (c _ Sink.text "").accepted = true ∧ (c _ Sink.text "").state = String.join ws

/-- A client that offers a list writes it. -/
theorem Client.writes_of_offerAll {c : Client String} {ws : List String}
    (h : ∀ (σ : Type) (k : Sink σ), c σ k = k.offerAll ws) : c.Writes ws where
  offers := offers_of_offerAll fun σ k s => by rw [h σ k]; exact ⟨rfl, rfl⟩
  budget n := by
    obtain ⟨haccepted, htaken, hattempts⟩ := Budget.offerAll_budget n ws .empty
    have htaken' : ((Sink.budget (some n)).offerAll ws .empty).state.taken.toList = ws.take n :=
      htaken
    rw [h]
    refine ⟨haccepted, htaken', ?_, hattempts.trans (Nat.zero_add _)⟩
    rw [← Array.length_toList, htaken', List.length_take]
  text := by
    rw [h]
    simpa using Sink.offerAll_text ws ""

/-- Expressions and types offer every sink their pieces, in order and up to the first that is
refused. -/
theorem emit_offers :
    (∀ e : Expr, Client.Writes (fun _ k => e.emit k) e.pieces) ∧
      ∀ t : Ty, Client.Writes (fun _ k => t.emit k) t.pieces :=
  ⟨fun e => Client.writes_of_offerAll fun _ k => e.emit_eq_offerAll k,
    fun t => Client.writes_of_offerAll fun _ k => t.emit_eq_offerAll k⟩

end ExprEmit
