import ExprEmit.Json.Choice
import ExprEmit.Proofs.Json.Text

/-!
# Reading what is written

`Reads r w a` says that the reader `r` makes the value `a` of the text `w`, whatever comes behind it:
a comma, a closing bracket or nothing, since a number goes on as long as it can.
-/

namespace ExprEmit.Json

open Json.Reader

/-- Whether a text may come behind a value. -/
def Stops (rest : List Char) : Prop := ∀ c ∈ rest.head?, c = ',' ∨ c = ']' ∨ c = '}'

/-- Whether a reader makes `a` of `w`. -/
def Reads {α : Type} (r : Reader α) (w : List Char) (a : α) : Prop :=
  ∀ rest, Stops rest → r (w ++ rest) = .ok a rest

theorem stops_nil : Stops [] := nofun

theorem stops_comma (rest : List Char) : Stops (',' :: rest) := by simp [Stops]

theorem stops_endOfList (rest : List Char) : Stops (']' :: rest) := by simp [Stops]

theorem stops_endOfObject (rest : List Char) : Stops ('}' :: rest) := by simp [Stops]

/-! ### Steps of a reader -/

section

variable {α β : Type} {x : Reader α} {a : α} {s t : List Char}

theorem pure_apply (a : α) (s : List Char) : (pure a : Reader α) s = .ok a s := rfl

theorem bind_of_ok {f : α → Reader β} (h : x s = .ok a t) : (x >>= f) s = f a t := by
  show EStateM.bind x f s = _
  rw [EStateM.bind, h]

theorem map_of_ok (f : α → β) (h : x s = .ok a t) : (f <$> x) s = .ok (f a) t := by
  show EStateM.map f x s = _
  rw [EStateM.map, h]

theorem Reads.map {w : List Char} (h : Reads x w a) (f : α → β) : Reads (f <$> x) w (f a) :=
  fun rest hrest => map_of_ok f (h rest hrest)

end

theorem peek_cons {c : Char} (h : isBlank c = false) (s : List Char) :
    peek (c :: s) = .ok (some c) (c :: s) := by
  simp [peek, h]

theorem advance_bind {α : Type} (f : PUnit → Reader α) (c : Char) (s : List Char) :
    (advance >>= f) (c :: s) = f ⟨⟩ s := rfl

theorem value_cons {α : Type} {c : Char} (h : isBlank c = false) (read : Char → Reader α)
    (s : List Char) : value read (c :: s) = read c (c :: s) :=
  bind_of_ok (peek_cons h s)

theorem word_append (w : String) (rest : List Char) :
    word w (w.toList ++ rest) = .ok ⟨⟩ rest := by
  have hfrom : ∀ cs : List Char, wordFrom cs (cs ++ rest) = .ok (⟨⟩, rest) := by
    intro cs
    induction cs with
    | nil => cases rest <;> rfl
    | cons c cs ih => rw [List.cons_append, wordFrom, if_pos rfl, ih]
  rw [word, ofStep, hfrom]

/-! ### Words -/

theorem reads_bool (b : Bool) : Reads Reader.bool (boolText b).toList b := by
  intro rest _
  cases b with
  | true =>
    show Reader.bool ('t' :: ("rue".toList ++ rest)) = _
    rw [Reader.bool, value_cons rfl, if_pos rfl, advance_bind]
    exact bind_of_ok (word_append "rue" rest)
  | false =>
    show Reader.bool ('f' :: ("alse".toList ++ rest)) = _
    rw [Reader.bool, value_cons rfl, if_neg (by decide), if_pos rfl, advance_bind]
    exact bind_of_ok (word_append "alse" rest)

/-! ### Strings -/

/-- A string needs nothing behind it to end. -/
theorem text_quoted (s : String) (rest : List Char) :
    Reader.text ((quoted s).toList ++ rest) = .ok s rest := by
  have hstep : ofStep Json.text ((s.toList.flatMap fun c => (escaped c).toList) ++ '"' :: rest) =
      .ok s.toList rest := by
    rw [ofStep, text_escaped]
  rw [toList_quoted, List.cons_append, List.append_assoc, Reader.text, advance_bind]
  refine (bind_of_ok hstep).trans ?_
  rw [String.ofList_toList]
  rfl

/-- What starts with a quotation mark is read from there. -/
theorem value_quoted {α : Type} (read : Char → Reader α) (s : String) (rest : List Char) :
    value read ((quoted s).toList ++ rest) = read '"' ((quoted s).toList ++ rest) := by
  rw [toList_quoted, List.cons_append]
  exact value_cons rfl read _

theorem reads_string (s : String) : Reads Reader.string (quoted s).toList s := by
  intro rest _
  rw [Reader.string, value_quoted, if_pos rfl, text_quoted]

theorem reads_char (c : Char) : Reads Reader.char (quoted (String.singleton c)).toList c := by
  intro rest _
  rw [Reader.char, value_quoted, if_pos rfl]
  refine (bind_of_ok (text_quoted (String.singleton c) rest)).trans ?_
  rw [String.toList_singleton]
  rfl

/-! ### Keys -/

/-- Whether the keys of a type tell its values apart. -/
def LawfulKeys (α : Type) [Keyed α] : Prop := ∀ a : α, Keyed.ofKey? (Keyed.key a) = some a

theorem variantKey_quoted {α : Type} [Keyed α] (hkeys : LawfulKeys α) (a : α) (rest : List Char) :
    variantKey α ((quoted (Keyed.key a)).toList ++ rest) = .ok a rest := by
  refine (bind_of_ok (text_quoted _ rest)).trans ?_
  rw [hkeys a]
  rfl

/-- A value that is written by its key needs no bracket. -/
theorem reads_keyed {α : Type} [Keyed α] (hkeys : LawfulKeys α) (a : α) (depth : Nat) :
    Reads (keyed α depth) (quoted (Keyed.key a)).toList a := by
  intro rest _
  rw [keyed, choice, value_quoted, if_pos rfl]
  exact bind_of_ok (variantKey_quoted hkeys a rest)

end ExprEmit.Json
