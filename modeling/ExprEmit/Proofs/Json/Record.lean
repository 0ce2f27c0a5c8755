import ExprEmit.Proofs.Json.Form

/-!
# Forms of records and choices

`FieldsRepresent F ms a` says that the members `ms` of an object are forms of the fields of the record
`a`, in the order of its description: the description is made of single fields, and so are the members.
An object of such members is a form of the record (`FieldsRepresent.record`), and an object whose only
key names a variant is a form of that variant if its content is one (`represents_choice`).
-/

namespace ExprEmit.Json

open Json.Reader

/-! ### Members -/

/-- Whether reading members, one after another, brings what is held of a record from one state to
another. -/
inductive Fills {σ α : Type} (f : Fields σ α) : List (String × String) → σ → σ → Prop where
  | nil {held : σ} : Fills f [] held held
  | cons {key w : String} {ms : List (String × String)} {held next full : σ} {r : Reader σ}
      (hfill : f.fill key held = some r) (hreads : Reads r (':' :: w.toList) next)
      (hrest : Fills f ms next full) : Fills f ((key, w) :: ms) held full

theorem memberChars_eq_cons (m : String × String) : ∃ cs, memberChars m = '"' :: cs := by
  rw [memberChars, toList_quoted]
  exact ⟨_, rfl⟩

theorem nextMember_cons (isFirst : Bool) (cs s : List Char) :
    nextMember isFirst ((if isFirst then '"' :: cs else ',' :: '"' :: cs) ++ s) =
      .ok true ('"' :: (cs ++ s)) := by
  cases isFirst <;> rfl

theorem nextMember_endOfObject (isFirst : Bool) (s : List Char) :
    nextMember isFirst ('}' :: s) = .ok false ('}' :: s) := rfl

/-- The members of an object are read up to its closing brace. -/
theorem members_joined {σ α : Type} {f : Fields σ α} {ms : List (String × String)} {held full : σ}
    (h : Fills f ms held full) {fuel : Nat} (hfuel : ms.length < fuel) (isFirst : Bool)
    (rest : List Char) :
    members f fuel isFirst held (joined isFirst (ms.map memberChars) ++ '}' :: rest) =
      .ok full ('}' :: rest) := by
  -- what is held of the record changes with each member, and the induction goes along with it
  induction h generalizing fuel isFirst with
  | nil =>
    obtain ⟨fuel, rfl⟩ := Nat.exists_eq_add_one_of_ne_zero (Nat.ne_of_gt hfuel)
    exact bind_of_ok (nextMember_endOfObject isFirst rest)
  | @cons key w ms held next full r hfill hreads hrest ih =>
    obtain ⟨fuel, rfl⟩ := Nat.exists_eq_add_one_of_ne_zero (Nat.ne_of_gt (Nat.zero_lt_of_lt hfuel))
    let behind := joined false (ms.map memberChars) ++ '}' :: rest
    obtain ⟨cs, hcs⟩ := memberChars_eq_cons (key, w)
    have hnext := nextMember_cons isFirst cs behind
    have hkey : Reader.text ('"' :: (cs ++ behind)) = .ok key (':' :: (w.toList ++ behind)) := by
      rw [← List.cons_append, ← hcs, memberChars, List.append_assoc]
      exact text_quoted key _
    have hvalue := hreads behind (stops_joined _ (stops_endOfObject rest))
    have hmore := ih (Nat.lt_of_succ_lt_succ hfuel) false
    rw [List.map_cons, joined, List.append_assoc, hcs, members]
    refine (bind_of_ok hnext).trans ?_
    refine (bind_of_ok hkey).trans ?_
    rw [hfill]
    refine (bind_of_ok hvalue).trans ?_
    exact hmore

namespace Fills

variable {σ τ α β : Type} {f : Fields σ α} {ms ns : List (String × String)}

theorem append {held next full : σ} (h : Fills f ms held next) (h' : Fills f ns next full) :
    Fills f (ms ++ ns) held full := by
  induction h with
  | nil => exact h'
  | cons hfill hreads _ ih => exact .cons hfill hreads (ih h')

/-- Members of the first of two records. -/
theorem left {held full : σ} (h : Fills f ms held full) (g : Fields τ β) (other : τ) :
    Fills (f.and g) ms (held, other) (full, other) := by
  induction h with
  | nil => exact .nil
  | @cons key w ms held next full r hfill hreads _ ih =>
    have hfill' : (f.and g).fill key (held, other) = some do return (← r, other) := by
      simp only [Fields.and, hfill]
    exact .cons hfill' (hreads.map fun s => (s, other)) ih

/-- Members of the second of two records, which the first does not know. -/
theorem right {held full : σ} (h : Fills f ms held full) {g : Fields τ β} {other : τ}
    (hother : ∀ key ∈ ms.map Prod.fst, g.fill key other = none) :
    Fills (g.and f) ms (other, held) (other, full) := by
  induction h with
  | nil => exact .nil
  | @cons key w ms held next full r hfill hreads _ ih =>
    obtain ⟨hkey, hms⟩ := List.forall_mem_cons.mp hother
    have hfill' : (g.and f).fill key (other, held) = some do return (other, ← r) := by
      simp only [Fields.and, hfill, hkey]
    exact .cons hfill' (hreads.map fun s => (other, s)) (ih hms)

/-- What is made of a record in the end changes nothing for its members. -/
theorem map {held full : σ} (h : Fills f ms held full) (make : α → β) :
    Fills (f.map make) ms held full := by
  induction h with
  | nil => exact .nil
  | cons hfill hreads _ ih => exact .cons hfill hreads ih

end Fills

/-! ### Fields -/

/-- Whether members are forms of the fields of a record, in their order. -/
structure FieldsRepresent {σ α : Type} (f : (depth : Nat) → Fields σ α)
    (ms : List (String × String)) (a : α) : Prop where
  balanced : ∀ m ∈ ms, Balanced m.2.toList
  /-- Other keys stay open to other fields. -/
  fill_eq_none : ∀ depth key held, key ∉ ms.map Prod.fst → (f depth).fill key held = none
  fills : ∀ depth, (∀ m ∈ ms, nesting m.2.toList ≤ depth) →
    ∃ full, Fills (f depth) ms (f depth).empty full ∧ (f depth).complete full = .ok a

namespace FieldsRepresent

variable {σ τ α β : Type} {f : (depth : Nat) → Fields σ α} {g : (depth : Nat) → Fields τ β}
  {ms ns : List (String × String)} {a : α} {b : β}

/-- A single field. -/
theorem one {r : (depth : Nat) → Reader α} {w : String} (h : Represents r w a) (key : String)
    (default : Option α) :
    FieldsRepresent (fun depth => Fields.one key default (r depth)) [(key, w)] a where
  balanced := List.forall_mem_singleton.mpr h.balanced
  fill_eq_none := by
    intro depth k held hk
    have hne : k ≠ key := by simpa using hk
    rw [Fields.one]
    exact if_neg hne
  fills := by
    intro depth hdepth
    have hfill : (Fields.one key default (r depth)).fill key none = some do
        colon
        return some (← r depth) := by
      simp only [Fields.one, if_true, Option.isSome_none, Bool.false_eq_true, if_false]
    have hreads : Reads (do
        colon
        return some (← r depth)) (':' :: w.toList) (some a) := by
      intro rest hrest
      have hcolon : colon (':' :: (w.toList ++ rest)) = .ok ⟨⟩ (w.toList ++ rest) := rfl
      have hvalue := h.reads depth (hdepth (key, w) List.mem_cons_self) rest hrest
      exact (bind_of_ok hcolon).trans (bind_of_ok hvalue)
    exact ⟨some a, .cons hfill hreads .nil, rfl⟩

/-- The fields of one record and then those of another, which has other keys. -/
theorem and (h : FieldsRepresent f ms a) (h' : FieldsRepresent g ns b)
    (hkeys : ∀ key ∈ ns.map Prod.fst, key ∉ ms.map Prod.fst) :
    FieldsRepresent (fun depth => (f depth).and (g depth)) (ms ++ ns) (a, b) where
  balanced := List.forall_mem_append.mpr ⟨h.balanced, h'.balanced⟩
  fill_eq_none := by
    intro depth key held hkey
    rw [List.map_append, List.mem_append, not_or] at hkey
    simp only [Fields.and, h.fill_eq_none depth key held.1 hkey.1,
      h'.fill_eq_none depth key held.2 hkey.2]
  fills := by
    intro depth hdepth
    obtain ⟨hms, hns⟩ := List.forall_mem_append.mp hdepth
    obtain ⟨full, hfills, hcomplete⟩ := h.fills depth hms
    obtain ⟨full', hfills', hcomplete'⟩ := h'.fills depth hns
    refine ⟨(full, full'), (hfills.left (g depth) _).append (hfills'.right ?_), ?_⟩
    · exact fun key hkey => h.fill_eq_none depth key full (hkeys key hkey)
    · simp only [Fields.and, hcomplete, hcomplete']
      rfl

theorem map (h : FieldsRepresent f ms a) (make : α → β) :
    FieldsRepresent (fun depth => (f depth).map make) ms (make a) where
  balanced := h.balanced
  fill_eq_none := h.fill_eq_none
  fills := by
    intro depth hdepth
    obtain ⟨full, hfills, hcomplete⟩ := h.fills depth hdepth
    refine ⟨full, hfills.map make, ?_⟩
    simp only [Fields.map, hcomplete]
    rfl

/-- An object of the members of a record is a form of it. -/
theorem record (h : FieldsRepresent f ms a) (title : String) :
    Represents (fun depth => Reader.record title depth fun inner _ => f inner) (objectOf ms) a := by
  obtain ⟨hbalanced, hdeeper⟩ := balanced_objectOf h.balanced
  refine ⟨hbalanced, ⟨'{', _, toList_objectOf ms, rfl, by decide⟩, ?_⟩
  intro depth hdepth rest _
  obtain ⟨inner, rfl, hinner⟩ := hdeeper depth hdepth
  obtain ⟨full, hfills, hcomplete⟩ := h.fills inner hinner
  let content := joined true (ms.map memberChars) ++ '}' :: rest
  have hfuel : ms.length < content.length + 1 := by
    have hne : ∀ w ∈ ms.map memberChars, w ≠ [] := by
      refine List.forall_mem_map.mpr fun m _ => ?_
      obtain ⟨cs, hcs⟩ := memberChars_eq_cons m
      rw [hcs]
      exact List.cons_ne_nil _ _
    have := length_le_length_joined hne true
    rw [List.length_map] at this
    rw [List.length_append]
    omega
  have hmembers : allMembers (f inner) content = .ok full ('}' :: rest) :=
    members_joined hfills hfuel true rest
  have hbody : objectBody (f inner) content = .ok a ('}' :: rest) := by
    refine (bind_of_ok hmembers).trans ?_
    rw [hcomplete]
    rfl
  rw [toList_objectOf, intercalate_eq_joined, List.cons_append, List.append_assoc, Reader.record,
    value_cons rfl, if_neg (by decide), if_pos rfl]
  exact closedBy_of_ok hbody rfl

end FieldsRepresent

/-! ### Choices -/

theorem objectVariant_quoted {τ : Type} [Keyed τ] (hkeys : LawfulKeys τ) (t : τ)
    (rest : List Char) :
    objectVariant τ ((quoted (Keyed.key t)).toList ++ rest) = .ok t rest := by
  have hkey := variantKey_quoted hkeys t rest
  rw [toList_quoted, List.cons_append] at hkey ⊢
  exact (bind_of_ok (peek_cons rfl _)).trans hkey

/-- An object whose only key names a variant is a form of what its content is a form of. -/
theorem represents_choice {τ α : Type} [Keyed τ] {bare : τ → Except String α}
    {content : (depth inner : Nat) → inner < depth → τ → Reader α} {q r : (depth : Nat) → Reader α}
    (hchoice : ∀ depth, q depth = choice τ depth bare (content depth)) (hkeys : LawfulKeys τ) (t : τ)
    (hcontent : ∀ depth inner hlt, content depth inner hlt t = r inner) {w : String} {a : α}
    (h : Represents r w a) : Represents q (objectOf [(Keyed.key t, w)]) a := by
  have hmember : ∀ m ∈ [(Keyed.key t, w)], Balanced m.2.toList :=
    List.forall_mem_singleton.mpr h.balanced
  obtain ⟨hbalanced, hdeeper⟩ := balanced_objectOf hmember
  refine ⟨hbalanced, ⟨'{', _, toList_objectOf _, rfl, by decide⟩, ?_⟩
  intro depth hdepth rest _
  obtain ⟨inner, rfl, hinner⟩ := hdeeper depth hdepth
  have htext : (objectOf [(Keyed.key t, w)]).toList ++ rest =
      '{' :: ((quoted (Keyed.key t)).toList ++ ':' :: (w.toList ++ '}' :: rest)) := by
    rw [toList_objectOf, intercalate_eq_joined]
    simp [joined, memberChars]
  have hvariant := objectVariant_quoted hkeys t (':' :: (w.toList ++ '}' :: rest))
  have hcolon : colon (':' :: (w.toList ++ '}' :: rest)) = .ok ⟨⟩ (w.toList ++ '}' :: rest) := rfl
  have hvalue : content (inner + 1) inner (Nat.lt_succ_self inner) t (w.toList ++ '}' :: rest) =
      .ok a ('}' :: rest) := by
    rw [hcontent]
    exact h.reads inner (hinner _ List.mem_cons_self) ('}' :: rest) (stops_endOfObject rest)
  rw [htext, hchoice, choice, value_cons rfl, if_neg (by decide), if_pos rfl]
  refine (bind_of_ok hvariant).trans ?_
  refine (bind_of_ok hcolon).trans ?_
  refine (bind_of_ok hvalue).trans ?_
  rfl

end ExprEmit.Json
