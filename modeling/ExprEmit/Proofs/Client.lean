import ExprEmit.Proofs.Acceptor

/-!
# Clients of acceptors

A `Client` makes offers to any acceptor that it is given.  `Client.Offers c as` says what they are,
whatever rule the acceptor has: the members of `as`, in order, up to and including the first that is
refused, and nothing behind it.

To see the offers, the acceptor is replaced by one that answers alike and keeps notes
(`Acceptor.noted`).  `Acceptor.Serves` says what the notes are to show.
-/

namespace ExprEmit

variable {α σ : Type}

namespace Acceptor

/-! ### Answers to a list of offers -/

/-- The state after offering the members of a list, whatever the answers. -/
def after (k : Acceptor α σ) : σ → List α → σ
  | s, [] => s
  | s, a :: as => k.after (k.offer a s).state as

/-- Whether every member of a list is accepted when they are offered in order. -/
def TakesAll (k : Acceptor α σ) : σ → List α → Prop
  | _, [] => True
  | s, a :: as => (k.offer a s).accepted = true ∧ k.TakesAll (k.offer a s).state as

theorem takesAll_append (k : Acceptor α σ) (s : σ) (as bs : List α) :
    k.TakesAll s (as ++ bs) ↔ k.TakesAll s as ∧ k.TakesAll (k.after s as) bs := by
  induction as generalizing s with
  | nil => simp [TakesAll, after]
  | cons a as ih => simp only [List.cons_append, TakesAll, after, ih, and_assoc]

theorem offerAll_of_takesAll {k : Acceptor α σ} {s : σ} {as : List α} (h : k.TakesAll s as) :
    (k.offerAll as s).accepted = true ∧ (k.offerAll as s).state = k.after s as := by
  induction as generalizing s with
  | nil => exact ⟨rfl, rfl⟩
  | cons a as ih =>
    obtain ⟨haccepted, hstate⟩ := k.offerAll_cons_of_accepted h.1 as
    rw [haccepted, hstate]
    exact ih h.2

/-! ### Notes -/

/-- The state of an acceptor, with notes of what it has been offered. -/
structure Noted (α σ : Type) where
  state : σ
  /-- Every offer, in order. -/
  attempts : List α
  /-- The offers that have been accepted, in order. -/
  taken : List α

/-- The state `s` before the first note. -/
def Noted.start (s : σ) : Noted α σ := ⟨s, [], []⟩

/-- The acceptor that answers like `k` and notes every offer. -/
def noted (k : Acceptor α σ) : Acceptor α (Noted α σ) where
  offer a := fun n =>
    let r := k.offer a n.state
    let taken := if r.accepted then n.taken ++ [a] else n.taken
    ⟨r.accepted, ⟨r.state, n.attempts ++ [a], taken⟩, r.log⟩

/-- Whether an answer and the notes are those of an acceptor that has been offered the members of
`as` from the state `s` on, up to and including the first that it has refused. -/
inductive Serves (k : Acceptor α σ) (s : σ) (as : List α) : Bool → Noted α σ → Prop where
  /-- Nothing has been refused. -/
  | complete (h : k.TakesAll s as) : Serves k s as true ⟨k.after s as, as, as⟩
  /-- All that stands before `a` has been accepted, and `a` refused. -/
  | refused {before rest : List α} {a : α} (hsplit : as = before ++ a :: rest)
      (hbefore : k.TakesAll s before) (ha : (k.offer a (k.after s before)).accepted = false) :
      Serves k s as false ⟨k.after s (before ++ [a]), before ++ [a], before⟩

/-- An accepted offer in front of others. -/
theorem Serves.cons {k : Acceptor α σ} {s : σ} {a : α} {as : List α} {accepted : Bool}
    {n : Noted α σ} (ha : (k.offer a s).accepted = true)
    (h : k.Serves (k.offer a s).state as accepted n) :
    k.Serves s (a :: as) accepted ⟨n.state, a :: n.attempts, a :: n.taken⟩ := by
  cases h with
  | complete hall => exact .complete ⟨ha, hall⟩
  | @refused before rest b hsplit hbefore hb =>
    have hsplit' : a :: as = a :: before ++ b :: rest := congrArg (a :: ·) hsplit
    exact .refused hsplit' ⟨ha, hbefore⟩ hb

/-- What is noted when a list is offered, behind the notes there have been before. -/
theorem serves_offerAll (k : Acceptor α σ) (as : List α) (n : Noted α σ) :
    ∃ m, k.Serves n.state as (k.noted.offerAll as n).accepted m ∧
      (k.noted.offerAll as n).state =
        ⟨m.state, n.attempts ++ m.attempts, n.taken ++ m.taken⟩ := by
  induction as generalizing n with
  | nil =>
    exact ⟨.start n.state, .complete trivial, by simp [offerAll, Step.done, Noted.start]⟩
  | cons a as ih =>
    cases ha : (k.offer a n.state).accepted with
    | true =>
      obtain ⟨haccepted, hstate⟩ := k.noted.offerAll_cons_of_accepted (s := n) ha as
      obtain ⟨m, hserves, hm⟩ := ih (k.noted.offer a n).state
      refine ⟨⟨m.state, a :: m.attempts, a :: m.taken⟩, ?_, ?_⟩
      · rw [haccepted]
        exact hserves.cons ha
      · rw [hstate, hm]
        simp [noted, ha]
    | false =>
      rw [k.noted.offerAll_cons_of_refused (s := n) ha]
      refine ⟨⟨(k.offer a n.state).state, [a], []⟩, ?_, by simp [noted, ha]⟩
      have hsplit : a :: as = [] ++ a :: as := rfl
      have hrefused : k.Serves n.state (a :: as) false ⟨(k.offer a n.state).state, [a], []⟩ :=
        .refused hsplit trivial ha
      simpa [noted, ha] using hrefused

/-- Keeping notes changes no answer and no state. -/
theorem offerAll_noted (k : Acceptor α σ) (as : List α) (n : Noted α σ) :
    (k.offerAll as n.state).accepted = (k.noted.offerAll as n).accepted ∧
      (k.offerAll as n.state).state = (k.noted.offerAll as n).state.state := by
  have h := offerAll_map (k := k.noted) (l := k) (f := Noted.state) (fun _ _ => rfl) as n
  exact ⟨congrArg Reply.accepted h, congrArg Reply.state h⟩

/-- An acceptor that keeps no notes could have kept them. -/
theorem exists_serves (k : Acceptor α σ) (as : List α) (s : σ) :
    ∃ n, k.Serves s as (k.offerAll as s).accepted n ∧ (k.offerAll as s).state = n.state := by
  obtain ⟨n, hserves, hn⟩ := k.serves_offerAll as (.start s)
  obtain ⟨haccepted, hstate⟩ := k.offerAll_noted as (.start s)
  refine ⟨n, ?_, hstate.trans (congrArg Noted.state hn)⟩
  rw [show s = (Noted.start s : Noted α σ).state from rfl, haccepted]
  exact hserves

theorem takesAll_of_accepted {k : Acceptor α σ} {s : σ} {as : List α}
    (h : (k.offerAll as s).accepted = true) : k.TakesAll s as := by
  obtain ⟨n, hserves, -⟩ := k.exists_serves as s
  rw [h] at hserves
  cases hserves with
  | complete hall => exact hall

end Acceptor

/-! ### Clients -/

/-- Something that makes offers, whatever acceptor it is given. -/
abbrev Client (α : Type) : Type 1 := (σ : Type) → Acceptor α σ → Step σ

/-- Whether a client offers every acceptor the members of `as`, in order, up to and including the
first that is refused. -/
structure Client.Offers (c : Client α) (as : List α) : Prop where
  /-- What the notes show. -/
  serves : ∀ {σ : Type} (k : Acceptor α σ) (s : σ),
    k.Serves s as (c _ k.noted (.start s)).accepted (c _ k.noted (.start s)).state
  /-- Without notes the client gets the same answer and leaves the same state. -/
  unnoticed : ∀ {σ : Type} (k : Acceptor α σ) (s : σ),
    (c _ k s).accepted = (c _ k.noted (.start s)).accepted ∧
      (c _ k s).state = (c _ k.noted (.start s)).state.state

/-- A client that does to every acceptor what offering the list does offers the list. -/
theorem Client.offers_of_offerAll {c : Client α} {as : List α}
    (h : ∀ (σ : Type) (k : Acceptor α σ) (s : σ),
      (c σ k s).accepted = (k.offerAll as s).accepted ∧
        (c σ k s).state = (k.offerAll as s).state) :
    c.Offers as where
  serves k s := by
    obtain ⟨haccepted, hstate⟩ := h _ k.noted (.start s)
    obtain ⟨m, hserves, hm⟩ := k.serves_offerAll as (.start s)
    rw [haccepted, hstate, hm]
    exact hserves
  unnoticed k s := by
    obtain ⟨haccepted, hstate⟩ := h _ k s
    obtain ⟨haccepted', hstate'⟩ := h _ k.noted (.start s)
    obtain ⟨hsame, hsame'⟩ := k.offerAll_noted as (.start s)
    exact ⟨haccepted.trans (hsame.trans haccepted'.symm),
      hstate.trans (hsame'.trans (congrArg Acceptor.Noted.state hstate').symm)⟩

end ExprEmit
