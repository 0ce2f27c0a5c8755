import ExprEmit.Log

/-!
# Acceptors

An acceptor takes offers one at a time and may refuse any of them, by a rule that may depend on
everything offered before.  Sinks accept pieces of text, registries accept dependencies.

A `Step` makes some offers and stops at the first refusal: `Step.andThen` and `Step.all` chain steps
that way, and `Acceptor.offerAll` is the step that offers a list.
-/

namespace ExprEmit

/-- The answer to a step: whether every offer was accepted, and the state after the last one. -/
structure Reply (σ : Type) where
  accepted : Bool
  state : σ
  /-- What was logged meanwhile. -/
  log : List Log.Record

/-- Something that makes offers in a state `σ` and is answered. -/
abbrev Step (σ : Type) : Type := σ → Reply σ

namespace Step

variable {σ : Type}

/-- The step that offers nothing. -/
def done : Step σ := fun s => ⟨true, s, []⟩

/-- The step that only logs. -/
def note (records : List Log.Record) : Step σ := fun s => ⟨true, s, records⟩

/-- `first`, and then `second` unless an offer of `first` was refused. -/
def andThen (first second : Step σ) : Step σ := fun s =>
  let a := first s
  if a.accepted then
    let b := second a.state
    ⟨b.accepted, b.state, a.log ++ b.log⟩
  else a

/-- The steps in order, up to the first that meets a refusal. -/
def all : List (Step σ) → Step σ
  | [] => done
  | s :: rest => s.andThen (all rest)

/-- The step `s` if `b` holds, and nothing otherwise. -/
def when (b : Bool) (s : Step σ) : Step σ := if b then s else done

/-- The step `s` on a part of a larger state, read by `part` and written back by `put`. -/
def within {τ : Type} (part : τ → σ) (put : σ → τ → τ) (s : Step σ) : Step τ := fun t =>
  let a := s (part t)
  ⟨a.accepted, put a.state t, a.log⟩

end Step

/-- A rule that accepts or refuses each offer of `α`, over a state `σ`. -/
structure Acceptor (α σ : Type) where
  offer : α → Step σ

/-- Offers the members of a list in order, up to the first that is refused. -/
def Acceptor.offerAll {α σ : Type} (k : Acceptor α σ) : List α → Step σ
  | [] => Step.done
  | a :: rest => (k.offer a).andThen (k.offerAll rest)

/-- Accepts pieces of text.  A single character that is written is offered as the piece of that one
character. -/
abbrev Sink (σ : Type) : Type := Acceptor String σ

/-- A sink that takes everything and keeps it joined. -/
def Sink.text : Sink String where
  offer piece := fun s => ⟨true, s ++ piece, []⟩

end ExprEmit
