import ExprEmit.Proofs.Json.Text
import Mathlib.Data.List.Basic

/-!
# How deep brackets are nested

`nesting` counts the brackets that are open at once in a JSON text, at most; what stands in a string
does not count.  It is read off the text alone.

A text that closes what it opens is `Balanced`: put in front of another, it counts by itself.  Lists
and objects of balanced texts are balanced, and one bracket deeper than what is in them.
-/

namespace ExprEmit.Json

/-! ### Counting brackets -/

/-- Where in a text a character stands. -/
inductive Mode where
  | outside
  | inString
  /-- In a string, behind a backslash. -/
  | escaped

/-- The most brackets that are open at once in a text, of which `depth` are open before it. -/
def nestingFrom : Mode → (depth : Nat) → List Char → Nat
  | _, depth, [] => depth
  | .escaped, depth, _ :: cs => nestingFrom .inString depth cs
  | .inString, depth, c :: cs =>
    nestingFrom (if c = '"' then .outside else if c = '\\' then .escaped else .inString) depth cs
  | .outside, depth, c :: cs =>
    if c = '"' then nestingFrom .inString depth cs
    else if c = '[' ∨ c = '{' then nestingFrom .outside (depth + 1) cs
    else if c = ']' ∨ c = '}' then max depth (nestingFrom .outside (depth - 1) cs)
    else nestingFrom .outside depth cs

/-- The most brackets that are open at once in a text. -/
def nesting (w : List Char) : Nat := nestingFrom .outside 0 w

theorem le_nestingFrom (mode : Mode) (depth : Nat) (w : List Char) :
    depth ≤ nestingFrom mode depth w := by
  induction w generalizing mode depth with
  | nil => cases mode <;> exact Nat.le_refl depth
  | cons c cs ih =>
    cases mode with
    | escaped => exact ih .inString depth
    | inString => exact ih _ depth
    | outside =>
      rw [nestingFrom]
      split_ifs
      · exact ih .inString depth
      · exact Nat.le_trans (Nat.le_succ depth) (ih .outside (depth + 1))
      · exact Nat.le_max_left _ _
      · exact ih .outside depth

/-! ### Balanced texts -/

/-- Whether a text closes what it opens, so that it can be counted by itself. -/
def Balanced (w : List Char) : Prop :=
  ∀ depth rest, nestingFrom .outside depth (w ++ rest) =
    max (depth + nesting w) (nestingFrom .outside depth rest)

namespace Balanced

variable {v w : List Char}

theorem nil : Balanced [] := by
  intro depth rest
  exact (Nat.max_eq_right (le_nestingFrom .outside depth rest)).symm

theorem nesting_append (hv : Balanced v) (w : List Char) :
    nesting (v ++ w) = max (nesting v) (nesting w) := by
  rw [nesting, hv, Nat.zero_add, ← nesting]

theorem append (hv : Balanced v) (hw : Balanced w) : Balanced (v ++ w) := by
  intro depth rest
  rw [hv.nesting_append, List.append_assoc, hv, hw]
  omega

/-- A text within brackets. -/
theorem bracketed (hw : Balanced w) {a b : Char} (ha : a = '[' ∨ a = '{') (hb : b = ']' ∨ b = '}') :
    Balanced (a :: (w ++ [b])) ∧ nesting (a :: (w ++ [b])) = nesting w + 1 := by
  -- within the brackets the count goes on from one more, and behind them from where it was
  have hcount : ∀ depth rest, nestingFrom .outside depth (a :: (w ++ [b]) ++ rest) =
      max (depth + 1 + nesting w) (nestingFrom .outside depth rest) := by
    intro depth rest
    have hquote : a ≠ '"' := by rcases ha with rfl | rfl <;> decide
    have hquote' : b ≠ '"' := by rcases hb with rfl | rfl <;> decide
    have hopens : ¬(b = '[' ∨ b = '{') := by rcases hb with rfl | rfl <;> decide
    rw [List.cons_append, List.append_assoc, nestingFrom, if_neg hquote, if_pos ha, hw,
      List.singleton_append, nestingFrom, if_neg hquote', if_neg hopens, if_pos hb,
      Nat.add_sub_cancel]
    have := le_nestingFrom .outside depth rest
    omega
  have hnesting : nesting (a :: (w ++ [b])) = nesting w + 1 := by
    have := hcount 0 []
    rw [List.append_nil] at this
    rw [nesting, this]
    simp [nestingFrom, Nat.add_comm]
  refine ⟨fun depth rest => ?_, hnesting⟩
  rw [hcount, hnesting]
  omega

end Balanced

/-- A text that leaves the count as it is. -/
theorem balanced_of_uncounted {w : List Char}
    (h : ∀ depth rest, nestingFrom .outside depth (w ++ rest) = nestingFrom .outside depth rest) :
    Balanced w ∧ nesting w = 0 := by
  have hnesting : nesting w = 0 := by
    have := h 0 []
    rwa [List.append_nil] at this
  refine ⟨fun depth rest => ?_, hnesting⟩
  rw [h, hnesting]
  exact (Nat.max_eq_right (le_nestingFrom .outside depth rest)).symm

/-! ### Texts without brackets -/

/-- A text with neither brackets nor quotation marks. -/
def IsPlain (w : List Char) : Prop := ∀ c ∈ w, c ∉ ['"', '[', '{', ']', '}']

instance : DecidablePred IsPlain := fun w => List.decidableBAll _ w

theorem IsPlain.balanced {w : List Char} (h : IsPlain w) : Balanced w ∧ nesting w = 0 := by
  refine balanced_of_uncounted fun depth rest => ?_
  induction w with
  | nil => rfl
  | cons c cs ih =>
    obtain ⟨hc, hcs⟩ := List.forall_mem_cons.mp h
    simp only [List.mem_cons, List.not_mem_nil, or_false, not_or] at hc
    obtain ⟨hquote, hlist, hobject, hlist', hobject'⟩ := hc
    simp [nestingFrom, hquote, hlist, hobject, hlist', hobject', ih hcs]

/-! ### Strings -/

/-- The characters that write a character of a string do not end the string. -/
theorem nestingFrom_escaping {c : Char} {w : List Char} (h : Escaping c w) (depth : Nat)
    (rest : List Char) : nestingFrom .inString depth (w ++ rest) = nestingFrom .inString depth rest := by
  cases h with
  | short => rfl
  | unit hcontrol =>
    obtain ⟨-, hquote, hbackslash⟩ := digitChar_spec (c.toNat / 16) (by omega)
    obtain ⟨-, hquote', hbackslash'⟩ := digitChar_spec (c.toNat % 16) (by omega)
    simp [nestingFrom, hquote, hbackslash, hquote', hbackslash']
  | plain hquote hbackslash => simp [nestingFrom, hquote, hbackslash]

/-- What stands in a string does not count. -/
theorem balanced_quoted (s : String) :
    Balanced (quoted s).toList ∧ nesting (quoted s).toList = 0 := by
  have hinside : ∀ (cs : List Char) (depth : Nat) (rest : List Char),
      nestingFrom .inString depth ((cs.flatMap fun c => (escaped c).toList) ++ '"' :: rest) =
        nestingFrom .outside depth rest := by
    intro cs depth rest
    induction cs with
    | nil => rfl
    | cons c cs ih =>
      rw [List.flatMap_cons, List.append_assoc, nestingFrom_escaping (escaping_escaped c), ih]
  have hcount : ∀ depth rest, nestingFrom .outside depth ((quoted s).toList ++ rest) =
      nestingFrom .outside depth rest := by
    intro depth rest
    rw [toList_quoted, List.cons_append, List.append_assoc]
    exact hinside s.toList depth rest
  exact balanced_of_uncounted hcount

/-! ### Lists and objects -/

/-- The characters of a list. -/
theorem toList_listOf (ws : List String) :
    (listOf ws).toList = '[' :: ([','].intercalate (ws.map String.toList) ++ [']']) := by
  rw [listOf, String.toList_append, String.toList_append, String.toList_intercalate]
  rfl

/-- The characters of a member of an object. -/
def memberChars (m : String × String) : List Char := (quoted m.1).toList ++ ':' :: m.2.toList

/-- The characters of an object. -/
theorem toList_objectOf (ms : List (String × String)) :
    (objectOf ms).toList = '{' :: ([','].intercalate (ms.map memberChars) ++ ['}']) := by
  have hmember : String.toList ∘ (fun m : String × String => quoted m.1 ++ ":" ++ m.2) =
      memberChars := by
    funext m
    simp [memberChars]
  rw [objectOf, String.toList_append, String.toList_append, String.toList_intercalate,
    List.map_map, hmember]
  rfl

theorem balanced_intercalate {ws : List (List Char)} (h : ∀ w ∈ ws, Balanced w) :
    Balanced ([','].intercalate ws) ∧ ∀ w ∈ ws, nesting w ≤ nesting ([','].intercalate ws) := by
  induction ws with
  | nil => exact ⟨.nil, nofun⟩
  | cons v ws ih =>
    obtain ⟨hv, hws⟩ := List.forall_mem_cons.mp h
    obtain ⟨hbalanced, hle⟩ := ih hws
    cases ws with
    | nil => simpa [List.intercalate] using hv
    | cons w ws =>
      have hcomma : Balanced [','] := (IsPlain.balanced (by decide)).1
      rw [List.intercalate_cons_cons]
      refine ⟨(hv.append hcomma).append hbalanced, ?_⟩
      rw [(hv.append hcomma).nesting_append, hv.nesting_append, List.forall_mem_cons]
      exact ⟨by omega, fun u hu => Nat.le_trans (hle u hu) (Nat.le_max_right _ _)⟩

/-- A list is one bracket deeper than what is in it. -/
theorem balanced_listOf {ws : List String} (h : ∀ w ∈ ws, Balanced w.toList) :
    Balanced (listOf ws).toList ∧ ∀ depth, nesting (listOf ws).toList ≤ depth →
      ∃ inner, depth = inner + 1 ∧ ∀ w ∈ ws, nesting w.toList ≤ inner := by
  obtain ⟨hbalanced, hle⟩ := balanced_intercalate (List.forall_mem_map.mpr h)
  rw [toList_listOf]
  obtain ⟨hlist, hnesting⟩ := hbalanced.bracketed (.inl rfl) (.inl rfl)
  refine ⟨hlist, fun depth hdepth => ⟨depth - 1, by omega, fun w hw => ?_⟩⟩
  have := hle _ (List.mem_map_of_mem hw)
  omega

/-- An object is one bracket deeper than what is in it. -/
theorem balanced_objectOf {ms : List (String × String)} (h : ∀ m ∈ ms, Balanced m.2.toList) :
    Balanced (objectOf ms).toList ∧ ∀ depth, nesting (objectOf ms).toList ≤ depth →
      ∃ inner, depth = inner + 1 ∧ ∀ m ∈ ms, nesting m.2.toList ≤ inner := by
  have hmember : ∀ m ∈ ms, Balanced (memberChars m) ∧
      nesting (memberChars m) = nesting m.2.toList := by
    intro m hm
    obtain ⟨hkey, hflat⟩ := balanced_quoted m.1
    have hcolon : Balanced [':'] ∧ nesting [':'] = 0 := IsPlain.balanced (by decide)
    have hvalue := hcolon.1.append (h m hm)
    refine ⟨hkey.append hvalue, ?_⟩
    rw [memberChars, hkey.nesting_append, hflat, ← List.singleton_append,
      hcolon.1.nesting_append, hcolon.2]
    omega
  obtain ⟨hbalanced, hle⟩ := balanced_intercalate (List.forall_mem_map.mpr fun m hm => (hmember m hm).1)
  rw [toList_objectOf]
  obtain ⟨hobject, hnesting⟩ :=
    hbalanced.bracketed (.inr rfl) (.inr rfl)
  refine ⟨hobject, fun depth hdepth => ⟨depth - 1, by omega, fun m hm => ?_⟩⟩
  have := hle _ (List.mem_map_of_mem hm)
  rw [(hmember m hm).2] at this
  omega

end ExprEmit.Json
