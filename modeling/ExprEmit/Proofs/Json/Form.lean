import ExprEmit.Proofs.Json.Nesting
import ExprEmit.Proofs.Json.Number
import Mathlib.Data.List.Forall2

/-!
# Forms of values

`Represents r w a` says that the text `w` is a form of the value `a` for the readers `r`, of which
there is one for each number of brackets that may be opened: `w` closes its brackets, and every
reader that may open as many brackets as there are in it reads `a`.

Scalars represent themselves; lists, records and choices represent what they are made of, with one
bracket more.
-/

namespace ExprEmit.Json

open Json.Reader

/-- Whether a text is a form of a value. -/
structure Represents {α : Type} (r : (depth : Nat) → Reader α) (w : String) (a : α) : Prop where
  balanced : Balanced w.toList
  /-- It can be told from a list that ends. -/
  opens : ∃ c cs, w.toList = c :: cs ∧ isBlank c = false ∧ c ≠ ']'
  reads : ∀ depth, nesting w.toList ≤ depth → Reads (r depth) w.toList a

namespace Represents

variable {α β : Type} {r q : (depth : Nat) → Reader α} {w : String} {a : α}

theorem map (h : Represents r w a) (f : α → β) : Represents (fun depth => f <$> r depth) w (f a) :=
  ⟨h.balanced, h.opens, fun depth hdepth => (h.reads depth hdepth).map f⟩

/-- Readers that are equal have the same forms. -/
theorem of_eq (heq : ∀ depth, r depth = q depth) (h : Represents q w a) : Represents r w a :=
  ⟨h.balanced, h.opens, fun depth hdepth => heq depth ▸ h.reads depth hdepth⟩

end Represents

/-! ### Scalars -/

/-- A string is a form of whatever is read from it. -/
theorem represents_quoted {α : Type} {r : (depth : Nat) → Reader α} {s : String} {a : α}
    (h : ∀ depth, Reads (r depth) (quoted s).toList a) : Represents r (quoted s) a where
  balanced := (balanced_quoted s).1
  opens := ⟨'"', _, toList_quoted s, rfl, by decide⟩
  reads depth _ := h depth

theorem represents_string (s : String) : Represents (fun _ => Reader.string) (quoted s) s :=
  represents_quoted fun _ => reads_string s

theorem represents_char (c : Char) :
    Represents (fun _ => Reader.char) (quoted (String.singleton c)) c :=
  represents_quoted fun _ => reads_char c

theorem represents_keyed {α : Type} [Keyed α] (hkeys : LawfulKeys α) (a : α) :
    Represents (keyed α) (quoted (Keyed.key a)) a :=
  represents_quoted (reads_keyed hkeys a)

theorem represents_bool (b : Bool) : Represents (fun _ => Reader.bool) (boolText b) b where
  balanced := by cases b <;> exact (IsPlain.balanced (by decide)).1
  opens := by
    cases b with
    | true => exact ⟨'t', _, rfl, rfl, by decide⟩
    | false => exact ⟨'f', _, rfl, rfl, by decide⟩
  reads _ _ := reads_bool b

/-- A text of digits and hyphens is a form of whatever is read from it. -/
theorem represents_number {α : Type} {r : (depth : Nat) → Reader α} {w : String} {a : α}
    (hne : w.toList ≠ []) (hchars : ∀ c ∈ w.toList, Reader.startsNumber c = true)
    (h : ∀ depth, Reads (r depth) w.toList a) : Represents r w a where
  balanced := by
    have hplain : IsPlain w.toList := by
      intro c hc hspecial
      have hstarts := hchars c hc
      simp only [List.mem_cons, List.not_mem_nil, or_false] at hspecial
      rcases hspecial with rfl | rfl | rfl | rfl | rfl <;> exact absurd hstarts (by decide)
    exact hplain.balanced.1
  opens := by
    cases hw : w.toList with
    | nil => exact absurd hw hne
    | cons c cs =>
      have hstarts := hchars c (hw ▸ List.mem_cons_self)
      have hend : c ≠ ']' := fun heq => absurd (heq ▸ hstarts) (by decide)
      exact ⟨c, cs, rfl, isBlank_of_startsNumber hstarts, hend⟩
  reads depth _ := h depth

theorem startsNumber_of_mem_toDigits {n : Nat} {c : Char} (hc : c ∈ Nat.toDigits 10 n) :
    Reader.startsNumber c = true := by
  rw [Reader.startsNumber, Nat.isDigit_of_mem_toDigits (by decide) (by decide) hc, Bool.or_true]

theorem represents_int64 (n : Int64) : Represents (fun _ => int64) (toString n.toInt) n := by
  have hcases : ∃ m, (toString n.toInt).toList = Nat.toDigits 10 m ∨
      (toString n.toInt).toList = '-' :: Nat.toDigits 10 m := by
    cases n.toInt with
    | ofNat m => exact ⟨m, .inl (toList_toString m)⟩
    | negSucc m => exact ⟨m + 1, .inr (by rw [← toList_toString]; exact String.toList_append)⟩
  obtain ⟨m, hdigits | hnegative⟩ := hcases
  · refine represents_number ?_ ?_ fun _ => reads_int64 n
    · rw [hdigits]
      exact Nat.toDigits_ne_nil
    · rw [hdigits]
      exact fun c hc => startsNumber_of_mem_toDigits hc
  · refine represents_number ?_ ?_ fun _ => reads_int64 n
    · rw [hnegative]
      exact List.cons_ne_nil _ _
    · rw [hnegative, List.forall_mem_cons]
      exact ⟨rfl, fun c hc => startsNumber_of_mem_toDigits hc⟩

/-- The digits of a natural number are a form of whatever is read from them. -/
theorem represents_natural {α : Type} {r : (depth : Nat) → Reader α} {n : Nat} {a : α}
    (h : ∀ depth, Reads (r depth) (toString n).toList a) : Represents r (toString n) a := by
  refine represents_number ?_ ?_ h
  · rw [toList_toString]
    exact Nat.toDigits_ne_nil
  · rw [toList_toString]
    exact fun c hc => startsNumber_of_mem_toDigits hc

/-! ### Things in brackets -/

/-- Texts with commas between them, the first of which comes behind a comma, too, if it is not the
first in its brackets. -/
def joined (isFirst : Bool) : List (List Char) → List Char
  | [] => []
  | w :: ws => (if isFirst then w else ',' :: w) ++ joined false ws

theorem intercalate_eq_joined (ws : List (List Char)) : [','].intercalate ws = joined true ws := by
  induction ws with
  | nil => rfl
  | cons v ws ih =>
    cases ws with
    | nil => simp [joined, List.intercalate]
    | cons w ws =>
      rw [List.intercalate_cons_cons, ih]
      simp [joined]

/-- Each text takes a character. -/
theorem length_le_length_joined {ws : List (List Char)} (h : ∀ w ∈ ws, w ≠ []) (isFirst : Bool) :
    ws.length ≤ (joined isFirst ws).length := by
  induction ws generalizing isFirst with
  | nil => exact Nat.zero_le _
  | cons w ws ih =>
    obtain ⟨hw, hws⟩ := List.forall_mem_cons.mp h
    have hrest := ih hws false
    have hpos := List.length_pos_iff.mpr hw
    rw [joined, List.length_append, List.length_cons]
    cases isFirst <;> simp only [Bool.false_eq_true, if_false, if_true, List.length_cons] <;> omega

/-- What comes behind a text in brackets. -/
theorem stops_joined (ws : List (List Char)) {rest : List Char} (h : Stops rest) :
    Stops (joined false ws ++ rest) := by
  cases ws with
  | nil => exact h
  | cons w ws => exact stops_comma _

theorem closedBy_of_ok {α : Type} {body : Reader α} {close : Reader PUnit} {a : α}
    {s t u : List Char} (hbody : body s = .ok a t) (hclose : close t = .ok ⟨⟩ u) :
    closedBy body close s = .ok a u := by
  rw [closedBy, hbody]
  simp only [hclose]

/-! ### Lists -/

theorem nextItem_cons {c : Char} (hblank : isBlank c = false) (hend : c ≠ ']') (isFirst : Bool)
    (w s : List Char) : nextItem isFirst ((if isFirst then c :: w else ',' :: c :: w) ++ s) =
      .ok true (c :: (w ++ s)) := by
  have hpeek := peek_cons hblank (w ++ s)
  cases isFirst with
  | true =>
    refine (bind_of_ok hpeek).trans ?_
    simp [pure_apply]
  | false =>
    refine (bind_of_ok (peek_cons rfl _)).trans ?_
    refine (advance_bind _ _ _).trans ?_
    refine (bind_of_ok hpeek).trans ?_
    simp [pure_apply]

theorem nextItem_endOfList (isFirst : Bool) (s : List Char) :
    nextItem isFirst (']' :: s) = .ok false (']' :: s) := rfl

/-- The items of a list are read up to its closing bracket. -/
theorem items_joined {α : Type} {item : Reader α} {ws : List (List Char)} {as : List α}
    (hreads : List.Forall₂ (Reads item) ws as)
    (hopens : ∀ w ∈ ws, ∃ c cs, w = c :: cs ∧ isBlank c = false ∧ c ≠ ']') {fuel : Nat}
    (hfuel : ws.length < fuel) (isFirst : Bool) (rest : List Char) :
    items item fuel isFirst (joined isFirst ws ++ ']' :: rest) = .ok as (']' :: rest) := by
  -- only the first item has no comma in front of it
  induction hreads generalizing fuel isFirst with
  | nil =>
    obtain ⟨fuel, rfl⟩ := Nat.exists_eq_add_one_of_ne_zero (Nat.ne_of_gt hfuel)
    exact bind_of_ok (nextItem_endOfList isFirst rest)
  | @cons w a ws as hw hws ih =>
    obtain ⟨⟨c, cs, rfl, hblank, hend⟩, hopens'⟩ := List.forall_mem_cons.mp hopens
    obtain ⟨fuel, rfl⟩ := Nat.exists_eq_add_one_of_ne_zero (Nat.ne_of_gt (Nat.zero_lt_of_lt hfuel))
    have hnext := nextItem_cons hblank hend isFirst cs (joined false ws ++ ']' :: rest)
    have hitem := hw (joined false ws ++ ']' :: rest) (stops_joined ws (stops_endOfList rest))
    have hrest := ih hopens' (Nat.lt_of_succ_lt_succ hfuel) false
    rw [joined, List.append_assoc, items]
    refine (bind_of_ok hnext).trans ?_
    refine (bind_of_ok hitem).trans ?_
    exact bind_of_ok hrest

/-- A list of forms is a form of the list. -/
theorem represents_list {α : Type} {r : (depth : Nat) → Reader α} {f : α → String} {as : List α}
    (h : ∀ a ∈ as, Represents r (f a) a) :
    Represents (fun depth => list depth fun inner _ => r inner) (listOf (as.map f)) as := by
  obtain ⟨hbalanced, hdeeper⟩ :=
    balanced_listOf (List.forall_mem_map.mpr fun a ha => (h a ha).balanced)
  refine ⟨hbalanced, ⟨'[', _, toList_listOf _, rfl, by decide⟩, ?_⟩
  intro depth hdepth rest _
  obtain ⟨inner, rfl, hinner⟩ := hdeeper depth hdepth
  have hopens : ∀ w ∈ (as.map f).map String.toList,
      ∃ c cs, w = c :: cs ∧ isBlank c = false ∧ c ≠ ']' :=
    List.forall_mem_map.mpr (List.forall_mem_map.mpr fun a ha => (h a ha).opens)
  have hreads : List.Forall₂ (Reads (r inner)) ((as.map f).map String.toList) as := by
    rw [List.map_map, List.forall₂_map_left_iff, List.forall₂_same]
    exact fun a ha => (h a ha).reads inner (hinner _ (List.mem_map_of_mem ha))
  have hfuel : ((as.map f).map String.toList).length <
      (joined true ((as.map f).map String.toList) ++ ']' :: rest).length + 1 := by
    have hne : ∀ w ∈ (as.map f).map String.toList, w ≠ [] := by
      intro w hw
      obtain ⟨c, cs, rfl, -⟩ := hopens w hw
      exact List.cons_ne_nil c cs
    have := length_le_length_joined hne true
    rw [List.length_append]
    omega
  have hbody := items_joined hreads hopens hfuel true rest
  rw [toList_listOf, intercalate_eq_joined, List.cons_append, List.append_assoc, list,
    value_cons rfl, if_pos rfl]
  exact closedBy_of_ok hbody rfl

end ExprEmit.Json
