import ExprEmit.Name
import Mathlib.Data.List.Infix

/-!
# Names and their qualified form

A name is written by joining its segments with `::`, and a text is read by cutting it at every `::`,
from the left.  To read and then to write gives the text back, whatever it is
(`Name.qualified_parse`).  To write and then to read gives the name back exactly if no segment holds
`::` and no namespace ends with a colon, which would be taken for the first of the `::` behind it
(`Name.Separable`), and no other names are ever read (`Name.parse_qualified_iff`).

On lists of characters, `Name.joined` writes what `Name.segments` reads.  A namespace may stand in
front of `::` exactly if it is still whole with one colon behind it (`Name.isWhole_concat`), so one
condition on a list of characters carries all inductions.
-/

namespace ExprEmit

namespace Name

/-! ### Segments -/

/-- The segments `parts` and `last` with `::` between them. -/
def joined (parts : List (List Char)) (last : List Char) : List Char :=
  parts.foldr (fun part rest => part ++ ':' :: ':' :: rest) last

/-- Whether there is no `::` in the characters. -/
def IsWhole (s : List Char) : Prop := ¬[':', ':'] <:+: s

theorem isWhole_nil : IsWhole [] := by
  simp [IsWhole]

theorem isWhole_cons {c : Char} {s : List Char} :
    IsWhole (c :: s) ↔ (c = ':' → s.head? ≠ some ':') ∧ IsWhole s := by
  have hprefix : [':', ':'] <+: c :: s ↔ c = ':' ∧ s.head? = some ':' := by
    cases s <;> simp [List.cons_prefix_cons, eq_comm]
  rw [IsWhole, List.infix_cons_iff, hprefix, not_or, not_and, IsWhole]

/-- One colon more makes a `::` only behind another colon. -/
theorem isWhole_concat {s : List Char} :
    IsWhole (s ++ [':']) ↔ IsWhole s ∧ ¬[':'] <:+ s := by
  have hsuffix : [':'] ++ [':'] <:+ s ++ [':'] ↔ [':'] <:+ s := by
    rw [List.suffix_append_inj_of_length_eq rfl, and_iff_left rfl]
  rw [IsWhole, List.infix_concat_iff, not_or, and_comm]
  exact and_congr Iff.rfl (not_congr hsuffix)

/-! ### Reading segments -/

/-- Without `::` there is one segment. -/
theorem segments_of_isWhole {s : List Char} (h : IsWhole s) : segments s = ([], s) := by
  induction s with
  | nil => rfl
  | cons c s ih =>
    obtain ⟨hhead, hs⟩ := isWhole_cons.mp h
    rw [segments, ih hs]
    rintro rest rfl rfl
    exact hhead rfl rfl

/-- The first segment ends at the first `::`. -/
theorem segments_append {part : List Char} (h : IsWhole (part ++ [':'])) (rest : List Char) :
    segments (part ++ ':' :: ':' :: rest) = (part :: (segments rest).1, (segments rest).2) := by
  induction part with
  | nil => rfl
  | cons c part ih =>
    obtain ⟨hhead, hpart⟩ := isWhole_cons.mp h
    rw [List.cons_append, segments, ih hpart]
    -- no `::` starts at `c`, whatever comes behind the two colons
    intro after hc hafter
    apply hhead hc
    have := congrArg List.head? hafter
    simpa using this

/-- Segments that can be told apart are read back. -/
theorem segments_joined {parts : List (List Char)} {last : List Char}
    (hparts : ∀ p ∈ parts, IsWhole (p ++ [':'])) (hlast : IsWhole last) :
    segments (joined parts last) = (parts, last) := by
  induction parts with
  | nil => exact segments_of_isWhole hlast
  | cons p parts ih =>
    obtain ⟨hp, hparts⟩ := List.forall_mem_cons.mp hparts
    have hrest := ih hparts
    rw [joined, List.foldr_cons, ← joined, segments_append hp, hrest]

/-- The segments of a text make it up again. -/
theorem joined_segments (s : List Char) : joined (segments s).1 (segments s).2 = s := by
  fun_induction segments s with
  | case1 => rfl
  | case2 rest ih => exact congrArg (':' :: ':' :: ·) ih
  | case3 c rest _ last hrest ih =>
    rw [hrest] at ih
    exact congrArg (c :: ·) ih
  | case4 c rest _ first more last hrest ih =>
    rw [hrest] at ih
    exact congrArg (c :: ·) ih

/-- The segments of a text can be told apart. -/
theorem isWhole_segments (s : List Char) :
    (∀ p ∈ (segments s).1, IsWhole (p ++ [':'])) ∧ IsWhole (segments s).2 := by
  have hjoined := joined_segments s
  fun_induction segments s with
  | case1 => exact ⟨nofun, isWhole_nil⟩
  | case2 rest ih =>
    obtain ⟨hparts, hlast⟩ := ih (joined_segments rest)
    have hcolon : IsWhole [':'] := isWhole_cons.mpr ⟨by simp, isWhole_nil⟩
    exact ⟨List.forall_mem_cons.mpr ⟨hcolon, hparts⟩, hlast⟩
  | case3 c rest hhead last hrest ih =>
    -- the segment goes on with the whole rest of the text
    obtain rfl : last = rest := List.cons.inj hjoined |>.2
    rw [hrest] at ih
    refine ⟨nofun, isWhole_cons.mpr ⟨fun hc h => ?_, (ih rfl).2⟩⟩
    obtain ⟨after, hafter⟩ := List.head?_eq_some_iff.mp h
    exact hhead after hc hafter
  | case4 c rest hhead first more last hrest ih =>
    have hsplit : first ++ ':' :: ':' :: joined more last = rest := (List.cons.inj hjoined).2
    rw [hrest] at ih
    obtain ⟨hparts, hlast⟩ := ih hsplit
    obtain ⟨hfirst, hmore⟩ := List.forall_mem_cons.mp hparts
    refine ⟨List.forall_mem_cons.mpr ⟨isWhole_cons.mpr ⟨fun hc h => ?_, hfirst⟩, hmore⟩, hlast⟩
    -- the rest starts like its first segment, or with the `::` behind it
    have hcolon : rest.head? = some ':' := by
      rw [← hsplit]
      simpa using h
    obtain ⟨after, hafter⟩ := List.head?_eq_some_iff.mp hcolon
    exact hhead after hc hafter

/-! ### Names -/

theorem toList_qualified (n : Name) :
    n.qualified.toList = joined (n.scope.map String.toList) n.identifier.toList := by
  obtain ⟨scope, identifier⟩ := n
  rw [qualified, joined]
  induction scope with
  | nil => rfl
  | cons outer scope ih =>
    rw [List.foldr_cons, List.map_cons, List.foldr_cons, ← ih]
    simp

/-- Every text is the qualified form of the name that it is read as. -/
theorem qualified_parse (s : String) : (parse s).qualified = s := by
  rw [← String.toList_inj, toList_qualified, parse]
  simp [List.map_map, Function.comp_def, joined_segments]

/-- Whether the segments of a name can be told apart in its qualified form. -/
structure Separable (n : Name) : Prop where
  /-- No segment holds `::`. -/
  whole : ∀ s ∈ n.scope ++ [n.identifier], ¬"::".toList <:+: s.toList
  /-- No namespace ends with a colon. -/
  ending : ∀ s ∈ n.scope, ¬":".toList <:+ s.toList

instance (n : Name) : Decidable n.Separable :=
  decidable_of_iff
    ((∀ s ∈ n.scope ++ [n.identifier], ¬"::".toList <:+: s.toList) ∧
      ∀ s ∈ n.scope, ¬":".toList <:+ s.toList)
    ⟨fun h => ⟨h.1, h.2⟩, fun h => ⟨h.whole, h.ending⟩⟩

theorem separable_iff (n : Name) :
    n.Separable ↔
      (∀ s ∈ n.scope, IsWhole (s.toList ++ [':'])) ∧ IsWhole n.identifier.toList := by
  simp only [isWhole_concat]
  constructor
  · rintro ⟨hwhole, hending⟩
    obtain ⟨hscope, hidentifier⟩ := List.forall_mem_append.mp hwhole
    exact ⟨fun s hs => ⟨hscope s hs, hending s hs⟩, hidentifier _ List.mem_cons_self⟩
  · rintro ⟨hscope, hidentifier⟩
    exact ⟨List.forall_mem_append.mpr
      ⟨fun s hs => (hscope s hs).1, List.forall_mem_singleton.mpr hidentifier⟩,
      fun s hs => (hscope s hs).2⟩

theorem separable_parse (s : String) : (parse s).Separable := by
  obtain ⟨hparts, hlast⟩ := isWhole_segments s.toList
  rw [separable_iff]
  constructor
  · intro p hp
    obtain ⟨cs, hcs, rfl⟩ := List.mem_map.mp hp
    rw [String.toList_ofList]
    exact hparts cs hcs
  · rw [parse, String.toList_ofList]
    exact hlast

theorem Separable.parse_qualified {n : Name} (h : n.Separable) : parse n.qualified = n := by
  obtain ⟨hscope, hidentifier⟩ := (separable_iff n).mp h
  have hread := segments_joined (List.forall_mem_map.mpr hscope) hidentifier
  rw [← toList_qualified] at hread
  rw [parse, hread]
  simp [List.map_map, Function.comp_def]

/-- Reading is a left inverse of writing on all texts, and a right inverse exactly on the names
whose segments can be told apart, which are the names that are read from texts. -/
theorem parse_qualified_iff :
    (∀ s, (parse s).qualified = s) ∧
      ∀ n : Name, (parse n.qualified = n ↔ n.Separable) ∧ ((∃ s, parse s = n) ↔ n.Separable) := by
  refine ⟨qualified_parse, fun n => ⟨⟨fun h => ?_, Separable.parse_qualified⟩, ?_, fun h => ?_⟩⟩
  · rw [← h]
    exact separable_parse _
  · rintro ⟨s, rfl⟩
    exact separable_parse s
  · exact ⟨n.qualified, h.parse_qualified⟩

/-- A colon at the end of a namespace is taken for the first of the two behind it. -/
example :
    ¬Separable ⟨["a:"], "b"⟩ ∧ parse (qualified ⟨["a:"], "b"⟩) = ⟨["a"], ":b"⟩ ∧
      Separable ⟨["a"], ":b"⟩ := by
  decide

end Name

end ExprEmit
