import ExprEmit.Proofs.Client
import ExprEmit.Proofs.Dependency.List
import Mathlib.Data.List.Nodup
import Mathlib.Order.Bounds.Defs

/-!
# A dependency list as a summary of what has been added

Whatever is added to an empty dependency list, nothing is refused, and the list then holds one entry
for each target, in the order of the first additions, and each type with the strongest need that was
ever added for it (`Summarizes`, `registry_summarizes`).

An entry never moves.  It changes at most once, from a declaration to a definition
(`getElem?_insertInto`), and an addition that asks for no more than the list holds changes nothing
(`insertInto_eq_self`).
-/

namespace ExprEmit

/-! ### Needs -/

namespace Strength

/-- A need is at most another one if the other is not weaker. -/
instance : LE Strength := ⟨fun s t => t.isWeaker s = false⟩

theorem le_definition (s : Strength) : s ≤ definition := rfl

theorem declaration_le (s : Strength) : declaration ≤ s := by cases s <;> rfl

/-- The strongest need of a list. -/
def strongest (ss : List Strength) : Strength := ss.foldr max declaration

theorem strongest_concat (ss : List Strength) (s : Strength) :
    strongest (ss ++ [s]) = (strongest ss).max s := by
  induction ss with
  | nil => cases s <;> rfl
  | cons t ss ih =>
    simp only [strongest, List.cons_append, List.foldr_cons] at ih ⊢
    cases t with
    | declaration => exact ih
    | definition => rfl

theorem strongest_eq_definition_iff {ss : List Strength} :
    strongest ss = definition ↔ definition ∈ ss := by
  induction ss with
  | nil => simp [strongest]
  | cons s ss ih =>
    cases s with
    | declaration => simpa [strongest, max] using ih
    | definition => simp [strongest, max]

/-- The strongest need of a list that has one is the greatest. -/
theorem isGreatest_strongest {ss : List Strength} (h : ss ≠ []) :
    IsGreatest {s | s ∈ ss} (strongest ss) := by
  cases hss : strongest ss with
  | definition => exact ⟨strongest_eq_definition_iff.mp hss, fun s _ => s.le_definition⟩
  | declaration =>
    have hnot : definition ∉ ss := by
      rw [← strongest_eq_definition_iff, hss]
      exact nofun
    have hall : ∀ s ∈ ss, s = declaration := by
      intro s hs
      cases s with
      | declaration => rfl
      | definition => exact absurd hs hnot
    obtain ⟨s, hs⟩ := List.exists_mem_of_ne_nil ss h
    have hmem : declaration ∈ ss := hall s hs ▸ hs
    refine ⟨hmem, fun t ht => ?_⟩
    rw [hall t ht]
    exact declaration_le _

end Strength

namespace DependencyList

/-! ### The summary of a list of requests -/

/-- The requests that are the first for their target, in order. -/
def firstRequests : List Dependency → List Dependency
  | [] => []
  | d :: ds => d :: (firstRequests ds).filter (·.target ≠ d.target)

/-- The needs for the declared type `id` in a list of requests. -/
def needs (id : Nat) (ds : List Dependency) : List Strength := ds.filterMap (needIn id)

/-- A request with the strongest need for its target in the list `ds`. -/
def strengthened (ds : List Dependency) : Dependency → Dependency
  | .element x => .element x
  | .type D _ => .type D (Strength.strongest (needs D.id ds))

/-- One entry for each target of a list of requests. -/
def summary (ds : List Dependency) : List Dependency := (firstRequests ds).map (strengthened ds)

theorem mem_firstRequests_target {t : Target} {ds : List Dependency} :
    (∃ e ∈ firstRequests ds, e.target = t) ↔ ∃ d ∈ ds, d.target = t := by
  induction ds with
  | nil => simp [firstRequests]
  | cons d ds ih =>
    simp only [firstRequests, List.mem_cons, exists_eq_or_imp, List.mem_filter, decide_eq_true_eq]
    by_cases h : d.target = t
    · simp [h]
    · simp only [h, false_or, ← ih]
      constructor
      · rintro ⟨e, ⟨he, -⟩, rfl⟩
        exact ⟨e, he, rfl⟩
      · rintro ⟨e, he, rfl⟩
        exact ⟨e, ⟨he, Ne.symm h⟩, rfl⟩

theorem subset_of_firstRequests (ds : List Dependency) : firstRequests ds ⊆ ds := by
  induction ds with
  | nil => exact fun _ h => h
  | cons d ds ih =>
    refine List.cons_subset_cons d fun e he => ih ?_
    exact (List.mem_filter.mp he).1

theorem nodup_firstRequests (ds : List Dependency) :
    ((firstRequests ds).map Dependency.target).Nodup := by
  induction ds with
  | nil => exact List.nodup_nil
  | cons d ds ih =>
    rw [firstRequests, List.map_cons, List.nodup_cons]
    constructor
    · simp
    · exact ih.sublist (List.filter_sublist.map _)

/-- A further request counts if it is the first for its target. -/
theorem firstRequests_concat (ds : List Dependency) (d : Dependency) :
    firstRequests (ds ++ [d]) =
      if ∃ e ∈ ds, e.target = d.target then firstRequests ds else firstRequests ds ++ [d] := by
  induction ds with
  | nil => simp [firstRequests]
  | cons e ds ih =>
    rw [List.cons_append, firstRequests, ih, firstRequests]
    by_cases he : e.target = d.target
    · by_cases hds : ∃ e ∈ ds, e.target = d.target
      · simp [he, hds]
      · simp [he, hds]
    · by_cases hds : ∃ e ∈ ds, e.target = d.target
      · rw [if_pos hds, if_pos (by simpa [he] using hds)]
      · rw [if_neg hds, if_neg (by simpa [he] using hds)]
        simp [Ne.symm he]

/-! ### One addition -/

/-- What is new comes last. -/
theorem insertInto_of_forall_ne {d : Dependency} {es : List Dependency}
    (h : ∀ e ∈ es, e.target ≠ d.target) : insertInto d es = es ++ [d] := by
  induction es with
  | nil => rfl
  | cons e es ih =>
    obtain ⟨he, hes⟩ := List.forall_mem_cons.mp h
    rw [insertInto, if_neg he, ih hes, List.cons_append]

/-- What is there already is raised where it stands. -/
theorem insertInto_of_exists {d : Dependency} {es : List Dependency}
    (hnodup : (es.map Dependency.target).Nodup) (h : ∃ e ∈ es, e.target = d.target) :
    insertInto d es = es.map fun e => if e.target = d.target then e.raisedTo d else e := by
  induction es with
  | nil => simp at h
  | cons e es ih =>
    obtain ⟨hnotMem, hnodup⟩ := List.nodup_cons.mp hnodup
    rw [insertInto, List.map_cons]
    by_cases he : e.target = d.target
    · -- no later entry has the target
      have hes : ∀ a ∈ es, (if a.target = d.target then a.raisedTo d else a) = a := by
        intro a ha
        refine if_neg fun had => hnotMem ?_
        rw [he, ← had]
        exact List.mem_map_of_mem ha
      rw [if_pos he, if_pos he, List.map_congr_left hes, List.map_id'']
      exact fun _ => rfl
    · rw [if_neg he, if_neg he, ih hnodup (by simpa [he] using h)]

theorem raisedTo_eq_or (e d : Dependency) :
    e.raisedTo d = e ∨ ∃ D, e = .type D .declaration ∧ e.raisedTo d = .type D .definition := by
  cases e with
  | element x => exact Or.inl (by cases d <;> rfl)
  | type D s =>
    cases d with
    | element y => exact Or.inl rfl
    | type E t => cases s <;> cases t <;> simp [Dependency.raisedTo, Strength.max]

/-- An entry stays where it is, and as it is unless it is raised to a definition. -/
theorem getElem?_insertInto {d e : Dependency} {es : List Dependency} {i : Nat}
    (h : es[i]? = some e) :
    (insertInto d es)[i]? = some e ∨
      ∃ D, e = .type D .declaration ∧ (insertInto d es)[i]? = some (.type D .definition) := by
  induction es generalizing i with
  | nil => simp at h
  | cons a es ih =>
    rw [insertInto]
    cases i with
    | zero =>
      obtain rfl : a = e := Option.some.inj h
      split
      · rcases raisedTo_eq_or a d with hsame | ⟨D, rfl, hraised⟩
        · exact Or.inl (congrArg some hsame)
        · exact Or.inr ⟨D, rfl, congrArg some hraised⟩
      · exact Or.inl rfl
    | succ i =>
      split
      · exact Or.inl h
      · exact ih h

/-- Nothing changes if the entry for the target is at least as strong. -/
theorem insertInto_eq_self {d e : Dependency} {es : List Dependency}
    (hnodup : (es.map Dependency.target).Nodup) (he : e ∈ es) (htarget : e.target = d.target)
    (hneed : ∀ s ∈ d.strength?, ∃ t ∈ e.strength?, s ≤ t) : insertInto d es = es := by
  rw [insertInto_of_exists hnodup ⟨e, he, htarget⟩]
  refine (List.map_congr_left fun a ha => ?_).trans (List.map_id es)
  split
  · next had =>
    -- the only entry with the target is `e`
    obtain rfl : a = e := List.inj_on_of_nodup_map hnodup ha he (had.trans htarget.symm)
    cases a with
    | element x => cases d <;> rfl
    | type D t =>
      cases d with
      | element y => cases htarget
      | type E s =>
        obtain ⟨u, hu, hle⟩ := hneed s rfl
        obtain rfl : t = u := Option.some.inj hu
        cases t with
        | definition => rfl
        | declaration =>
          cases s with
          | declaration => rfl
          | definition => cases hle
  · rfl

/-! ### Many additions -/

theorem needs_concat (id : Nat) (ds : List Dependency) (d : Dependency) :
    needs id (ds ++ [d]) = needs id ds ++ (needIn id d).toList := by
  rw [needs, List.filterMap_append, needs]
  cases h : needIn id d <;> simp [h]

/-- A further request raises the need for its own target and for no other. -/
theorem strengthened_concat (ds : List Dependency) (d e : Dependency) :
    strengthened (ds ++ [d]) e =
      if e.target = d.target then (strengthened ds e).raisedTo d else strengthened ds e := by
  cases e with
  | element x => cases d <;> simp [strengthened, Dependency.raisedTo]
  | type D s =>
    cases d with
    | element y => simp [strengthened, needs_concat, needIn_element, Dependency.target]
    | type E t =>
      by_cases h : E.id = D.id
      · simp [strengthened, needs_concat, needIn_type, Dependency.target, h,
          Strength.strongest_concat, Dependency.raisedTo]
      · simp [strengthened, needs_concat, needIn_type, Dependency.target, h, Ne.symm h]

theorem strengthened_target (ds : List Dependency) (e : Dependency) :
    (strengthened ds e).target = e.target := by
  cases e <;> rfl

theorem map_target_summary (ds : List Dependency) :
    (summary ds).map Dependency.target = (firstRequests ds).map Dependency.target := by
  rw [summary, List.map_map]
  exact List.map_congr_left fun e _ => strengthened_target ds e

theorem nodup_summary (ds : List Dependency) : ((summary ds).map Dependency.target).Nodup := by
  rw [map_target_summary]
  exact nodup_firstRequests ds

theorem exists_mem_summary {t : Target} {ds : List Dependency} :
    (∃ e ∈ summary ds, e.target = t) ↔ ∃ d ∈ ds, d.target = t := by
  have hmap := congrArg (t ∈ ·) (map_target_summary ds)
  simp only [List.mem_map, eq_iff_iff] at hmap
  exact hmap.trans mem_firstRequests_target

/-- Adding to a summary is summarizing one request more. -/
theorem summary_concat (ds : List Dependency) (d : Dependency) :
    summary (ds ++ [d]) = insertInto d (summary ds) := by
  rw [summary, firstRequests_concat]
  by_cases h : ∃ e ∈ ds, e.target = d.target
  · rw [if_pos h, insertInto_of_exists (nodup_summary ds) (exists_mem_summary.mpr h), summary,
      List.map_map]
    refine List.map_congr_left fun e _ => ?_
    rw [strengthened_concat, Function.comp_apply, strengthened_target]
  · have hnew : ∀ e ∈ summary ds, e.target ≠ d.target := by
      intro e he had
      exact h (exists_mem_summary.mp ⟨e, he, had⟩)
    rw [if_neg h, insertInto_of_forall_ne hnew, List.map_append, summary]
    congr 1
    · refine List.map_congr_left fun e he => ?_
      rw [strengthened_concat, if_neg]
      exact fun had => h ⟨e, subset_of_firstRequests ds he, had⟩
    · -- the first request for a target is its only need
      cases d with
      | element x => rfl
      | type D s =>
        have hneeds : needs D.id ds = [] := by
          rw [needs, List.filterMap_eq_nil_iff]
          intro e he
          refine if_neg fun had => h ⟨e, he, had⟩
        simp [strengthened, needs_concat, hneeds, needIn_type, Strength.strongest]
        cases s <;> rfl

theorem insertAll_summary (before ds : List Dependency) :
    (insertAll ⟨summary before⟩ ds).entries = summary (before ++ ds) := by
  induction ds generalizing before with
  | nil => rw [List.append_nil]; rfl
  | cons d ds ih =>
    have := ih (before ++ [d])
    rw [summary_concat, List.append_assoc] at this
    exact this

/-! ### Queries -/

theorem containsElement_iff (l : DependencyList) (x : Element) :
    l.containsElement x = true ↔ ∃ y, y.id = x.id ∧ .element y ∈ l.entries := by
  rw [containsElement, List.any_eq_true]
  constructor
  · rintro ⟨e, he, htarget⟩
    cases e with
    | element y => exact ⟨y, Target.element.inj (beq_iff_eq.mp htarget), he⟩
    | type D s => exact absurd (beq_iff_eq.mp htarget) nofun
  · rintro ⟨y, hid, hy⟩
    exact ⟨_, hy, beq_iff_eq.mpr (congrArg Target.element hid)⟩

/-- With one entry for each target, the need for a type is that of any entry for it. -/
theorem strength?_eq_some_iff {l : DependencyList} (h : (l.entries.map Dependency.target).Nodup)
    {D : TypeDecl} {s : Strength} :
    l.strength? D = some s ↔ ∃ E : TypeDecl, E.id = D.id ∧ .type E s ∈ l.entries := by
  have hfound : ∀ t, l.strength? D = some t →
      ∃ E : TypeDecl, E.id = D.id ∧ .type E t ∈ l.entries := by
    intro t ht
    obtain ⟨e, he, hneed⟩ := List.exists_of_findSome?_eq_some ht
    obtain ⟨E, hid, rfl⟩ := needIn_eq_some_iff.mp hneed
    exact ⟨E, hid, he⟩
  refine ⟨hfound s, ?_⟩
  rintro ⟨E, hid, hE⟩
  have hsome : (l.strength? D).isSome = true :=
    List.findSome?_isSome_iff.mpr ⟨_, hE, by simp [Dependency.target, Dependency.strength?, hid]⟩
  obtain ⟨t, ht⟩ := Option.isSome_iff_exists.mp hsome
  obtain ⟨F, hid', hF⟩ := hfound t ht
  have hsame : Dependency.type F t = .type E s :=
    List.inj_on_of_nodup_map h hF hE (congrArg Target.type (hid'.trans hid.symm))
  rw [ht, (Dependency.type.inj hsame).2]

/-! ### After any additions -/

/-- Whether a dependency list is a summary of the requests `ds`. -/
structure Summarizes (ds : List Dependency) (l : DependencyList) : Prop where
  /-- The entries are the first requests for each target, made as strong as needed. -/
  entries : l.entries = (firstRequests ds).map (strengthened ds)
  /-- No target has two entries. -/
  nodup : (l.entries.map Dependency.target).Nodup
  /-- The targets are those that have been asked for. -/
  target : ∀ t, t ∈ l.entries.map Dependency.target ↔ ∃ d ∈ ds, d.target = t
  /-- A type is needed as strongly as it has ever been asked for. -/
  strength : ∀ D s, .type D s ∈ l.entries →
    IsGreatest {t | ∃ E : TypeDecl, E.id = D.id ∧ .type E t ∈ ds} s
  /-- An element is contained if it is an entry. -/
  containsElement : ∀ x, l.containsElement x = true ↔ ∃ y, y.id = x.id ∧ .element y ∈ l.entries
  /-- The strength of a type is that of its entry. -/
  strength? : ∀ D s, l.strength? D = some s ↔ ∃ E : TypeDecl, E.id = D.id ∧ .type E s ∈ l.entries
  /-- What the list already knows leaves it as it is. -/
  known : ∀ d, ∀ e ∈ l.entries, e.target = d.target →
    (∀ s ∈ d.strength?, ∃ t ∈ e.strength?, s ≤ t) → (registry.offer d l).state = l

theorem isGreatest_of_mem_summary {ds : List Dependency} {D : TypeDecl} {s : Strength}
    (h : .type D s ∈ summary ds) :
    IsGreatest {t | ∃ E : TypeDecl, E.id = D.id ∧ .type E t ∈ ds} s := by
  obtain ⟨e, he, hes⟩ := List.mem_map.mp h
  cases e with
  | element x => cases hes
  | type E t =>
    obtain ⟨rfl, rfl⟩ := Dependency.type.inj hes
    have hmem : ∀ u, u ∈ needs E.id ds ↔ ∃ F : TypeDecl, F.id = E.id ∧ .type F u ∈ ds := by
      intro u
      simp only [needs, List.mem_filterMap, needIn_eq_some_iff]
      constructor
      · rintro ⟨_, hd, F, hid, rfl⟩
        exact ⟨F, hid, hd⟩
      · rintro ⟨F, hid, hd⟩
        exact ⟨_, hd, F, hid, rfl⟩
    have hne : needs E.id ds ≠ [] :=
      List.ne_nil_of_mem ((hmem t).mpr ⟨E, rfl, subset_of_firstRequests ds he⟩)
    have hgreatest := Strength.isGreatest_strongest hne
    simp only [hmem] at hgreatest
    exact hgreatest

theorem summarizes_insertAll_empty (ds : List Dependency) : Summarizes ds (empty.insertAll ds) := by
  have hentries : (empty.insertAll ds).entries = summary ds := insertAll_summary [] ds
  have hnodup : ((empty.insertAll ds).entries.map Dependency.target).Nodup := by
    rw [hentries]
    exact nodup_summary ds
  constructor
  case entries => exact hentries
  case nodup => exact hnodup
  case target =>
    intro t
    rw [hentries, ← exists_mem_summary, List.mem_map]
  case strength =>
    intro D s hs
    rw [hentries] at hs
    exact isGreatest_of_mem_summary hs
  case containsElement => exact fun x => containsElement_iff _ x
  case strength? => exact fun D s => strength?_eq_some_iff hnodup
  case known =>
    intro d e he htarget hneed
    exact congrArg DependencyList.mk (insertInto_eq_self hnodup he htarget hneed)

/-- Offering dependencies to a dependency list is adding them. -/
theorem after_registry (l : DependencyList) (ds : List Dependency) :
    registry.TakesAll l ds ∧ registry.after l ds = l.insertAll ds := by
  obtain ⟨haccepted, hstate⟩ := offerAll_registry ds l
  have htakes := Acceptor.takesAll_of_accepted haccepted
  exact ⟨htakes, (Acceptor.offerAll_of_takesAll htakes).2.symm.trans hstate⟩

/-- The list after the first `i` of the additions `ds`. -/
def stage (ds : List Dependency) (i : Nat) : DependencyList := registry.after .empty (ds.take i)

/-- Whether the `i`-th of the additions `ds` changes the entry at position `p`. -/
def Changes (ds : List Dependency) (i p : Nat) : Prop :=
  i < ds.length ∧ ∃ e, (stage ds i).entries[p]? = some e ∧ (stage ds (i + 1)).entries[p]? ≠ some e

variable {ds : List Dependency} {i j p : Nat} {e : Dependency}

theorem getElem?_stage_succ (hi : i < ds.length) (h : (stage ds i).entries[p]? = some e) :
    (stage ds (i + 1)).entries[p]? = some e ∨
      ∃ D, e = .type D .declaration ∧
        (stage ds (i + 1)).entries[p]? = some (.type D .definition) := by
  have hstep : (stage ds (i + 1)).entries = insertInto ds[i] (stage ds i).entries := by
    simp only [stage, (after_registry _ _).2, insertAll, List.take_succ_eq_append_getElem hi,
      List.foldl_append]
    rfl
  rw [hstep]
  exact getElem?_insertInto h

/-- A definition stays where it is. -/
theorem getElem?_stage_of_definition {D : TypeDecl} (hij : i ≤ j) (hj : j ≤ ds.length)
    (h : (stage ds i).entries[p]? = some (.type D .definition)) :
    (stage ds j).entries[p]? = some (.type D .definition) := by
  induction hij with
  | refl => exact h
  | step _ ih =>
    rcases getElem?_stage_succ hj (ih (Nat.le_of_succ_le hj)) with hsame | ⟨E, hE, -⟩
    · exact hsame
    · cases hE

/-- What has changed once is a definition, and does not change again. -/
theorem Changes.not_later (hi : Changes ds i p) (hj : Changes ds j p) : ¬i < j := by
  obtain ⟨hi, e, he, hchange⟩ := hi
  obtain ⟨hj, e', he', hchange'⟩ := hj
  intro hij
  rcases getElem?_stage_succ hi he with hsame | ⟨D, -, hD⟩
  · exact hchange hsame
  · have hstays := getElem?_stage_of_definition (j := j) hij (Nat.le_of_lt hj) hD
    have hstays' := getElem?_stage_of_definition (Nat.le_succ_of_le hij) hj hD
    rw [he', ← hstays'] at hstays
    exact hchange' hstays.symm

/-- A dependency list that has been empty refuses nothing and summarizes what has been added.  An
addition leaves every entry where it is, and as it is but for a declaration that becomes a
definition, which happens to an entry at most once. -/
theorem registry_summarizes (ds : List Dependency) :
    registry.TakesAll .empty ds ∧ Summarizes ds (registry.after .empty ds) ∧
      (∀ (i p : Nat) (e : Dependency), i < ds.length → (stage ds i).entries[p]? = some e →
        (stage ds (i + 1)).entries[p]? = some e ∨
          ∃ D, e = .type D .declaration ∧
            (stage ds (i + 1)).entries[p]? = some (.type D .definition)) ∧
      ∀ i j p, Changes ds i p → Changes ds j p → i = j := by
  obtain ⟨htakes, hafter⟩ := after_registry .empty ds
  refine ⟨htakes, ?_, fun i p e hi h => getElem?_stage_succ hi h, fun i j p hi hj => ?_⟩
  · rw [hafter]
    exact summarizes_insertAll_empty ds
  · exact Nat.le_antisymm (Nat.not_lt.mp (hj.not_later hi)) (Nat.not_lt.mp (hi.not_later hj))

/-- A type asked for by name only stays behind the element before it when its definition is asked
for, and another declaration of the same name is another entry. -/
example :
    let x : Element := ⟨1, ⟨[], "S"⟩, ⟨1, .ofPrimitive .int⟩, .variable⟩
    let S : TypeDecl := ⟨1, ⟨[], "S"⟩, .struct⟩
    let S' : TypeDecl := ⟨2, ⟨[], "S"⟩, .struct⟩
    (registry.after .empty [.element x, .type S .declaration, .type S' .definition, .element x,
        .type S .definition, .type S' .declaration]).entries =
      [.element x, .type S .definition, .type S' .definition] := rfl

end DependencyList

end ExprEmit
