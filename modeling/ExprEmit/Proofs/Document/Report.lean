import ExprEmit.Proofs.Dependency.Exact
import ExprEmit.Proofs.Dependency.Summary
import ExprEmit.Proofs.Document.Names
import ExprEmit.Proofs.Name
import ExprEmit.Proofs.Unit.Complete

/-!
# The report of a document

Dependencies are told apart by the numbers of declarations, and reported by their names.  For the
expressions of a document this comes to the same: no line is reported twice, none but those of
declared names, and no type both as declared and as defined (`Arena.report_distinct`).

A line says what it is about (`Dependency.line_injective2`), a name that has been read is written as
it was (`Name.qualified_parse`), and an arena holds one thing under each name.  So it is enough that
the arena holds, under its own qualified name, whatever the expressions require
(`Registered.holds_requirements`).  This goes from the declarations through the types to the
expressions that are built from them.
-/

namespace ExprEmit

/-! ### Lines -/

namespace Dependency

/-- The name of what the dependency is on. -/
def name : Dependency → Name
  | element x => x.name
  | type D _ => D.name

/-- The line for a thing of the name `n`: a type that is needed as `s`, or else an element. -/
def line (s : Option Strength) (n : String) : String :=
  match s with
  | none => "element " ++ n
  | some s => "type " ++ n ++ " (" ++ s.text ++ ")"

theorem line_declaration (n : String) :
    line (some .declaration) n = "type " ++ n ++ " (declaration)" := by
  simp [line, Strength.text, String.append_assoc]

theorem line_definition (n : String) :
    line (some .definition) n = "type " ++ n ++ " (definition)" := by
  simp [line, Strength.text, String.append_assoc]

theorem text_eq_line (r : Dependency) : r.text = line r.strength? r.name.qualified := by
  cases r <;> rfl

/-- A line says what it is about: its first letter tells elements from types, and its last word tells
how much of a type is needed. -/
theorem line_injective2 : Function.Injective2 line := by
  intro s t n m h
  have hchars := congrArg String.toList h
  have hreversed := congrArg List.reverse hchars
  rcases s with _ | (_ | _) <;> rcases t with _ | (_ | _) <;>
    simp [line, Strength.text] at h hchars hreversed ⊢
  all_goals exact h

theorem text_eq_line_iff {r : Dependency} {s : Option Strength} {n : String} :
    r.text = line s n ↔ r.strength? = s ∧ r.name.qualified = n := by
  rw [text_eq_line, line_injective2.eq_iff]

end Dependency

namespace Arena

variable {a b : Arena}

/-! ### What an arena holds -/

/-- Whether the arena holds the type under its qualified name. -/
def HoldsType (a : Arena) (D : TypeDecl) : Prop := (D.name.qualified, D) ∈ a.types

/-- Whether the arena holds what the dependency is on under its qualified name. -/
def Holds (a : Arena) : Dependency → Prop
  | .element x => (x.name.qualified, x) ∈ a.elements
  | .type D _ => a.HoldsType D

/-- Whether all that an arena holds has the name under which it is held, and each element a type that
is built from types of the arena. -/
structure Registered (a : Arena) : Prop where
  types : ∀ p ∈ a.types, p.2.name.qualified = p.1
  elements : ∀ p ∈ a.elements, p.2.name.qualified = p.1
  decls : ∀ p ∈ a.elements, ∀ D ∈ p.2.type.type.decls, a.HoldsType D

/-- What is looked up among things under their names is held under its name. -/
theorem mem_of_lookup_eq_some {α : Type} {name : α → Name} {l : List (String × α)}
    (h : ∀ p ∈ l, (name p.2).qualified = p.1) {n : String} {x : α} (hx : l.lookup n = some x) :
    ((name x).qualified, x) ∈ l := by
  obtain ⟨before, after, hsplit, -⟩ := List.lookup_eq_some_iff.mp hx
  have hmem : (n, x) ∈ l := by simp [hsplit]
  have hname : (name x).qualified = n := h _ hmem
  rwa [hname]

theorem Registered.holdsType (h : a.Registered) {n : String} {D : TypeDecl}
    (hD : a.type? n = .ok D) : a.HoldsType D := by
  unfold type? at hD
  split at hD
  · next hlookup =>
    cases hD
    exact mem_of_lookup_eq_some h.types hlookup
  · cases hD

theorem Registered.holds_element (h : a.Registered) {n : String} {x : Element}
    (hx : a.element? n = .ok x) :
    a.Holds (.element x) ∧ ∀ D ∈ x.type.type.decls, a.HoldsType D := by
  unfold element? at hx
  split at hx
  · next hlookup =>
    cases hx
    have hmem := mem_of_lookup_eq_some h.elements hlookup
    exact ⟨hmem, h.decls _ hmem⟩
  · cases hx

/-! ### Types -/

theorem decls_asConst (t : Ty) : t.asConst.decls = t.decls := by
  cases t <;> rfl

theorem holdsType_resolveEach {ps : List TypeTerm}
    (h : ∀ t ∈ ps, ∀ {u}, a.resolve t = .ok u → ∀ D ∈ u.decls, a.HoldsType D) {us : List Ty}
    (hus : a.resolveEach ps = .ok us) : ∀ D ∈ Ty.declsOfEach us, a.HoldsType D := by
  induction ps generalizing us with
  | nil =>
    cases hus
    exact nofun
  | cons t ps ih =>
    obtain ⟨ht, hps⟩ := List.forall_mem_cons.mp h
    rw [resolveEach] at hus
    obtain ⟨u, hu, hrest⟩ := exists_of_bind_eq_ok hus
    obtain ⟨more, hmore, ⟨⟩⟩ := exists_of_bind_eq_ok hrest
    exact List.forall_mem_append.mpr ⟨ht hu, ih hps hmore⟩

/-- A type that a term stands for is built from types of the arena. -/
theorem Registered.holdsType_resolve (h : a.Registered) {t : TypeTerm} {u : Ty}
    (hu : a.resolve t = .ok u) : ∀ D ∈ u.decls, a.HoldsType D := by
  induction t generalizing u with
  | primitive p =>
    cases hu
    exact nofun
  | named name =>
    obtain ⟨D, hD, ⟨⟩⟩ := exists_of_bind_eq_ok hu
    exact List.forall_mem_singleton.mpr (h.holdsType hD)
  | pointer t ih | reference t ih | array t size ih =>
    obtain ⟨v, hv, ⟨⟩⟩ := exists_of_bind_eq_ok hu
    exact fun D hD => ih hv D hD
  | const t ih =>
    obtain ⟨v, hv, ⟨⟩⟩ := exists_of_bind_eq_ok hu
    rw [decls_asConst]
    exact ih hv
  | function r ps ihr ihps =>
    rw [resolve] at hu
    obtain ⟨params, hparams, hrest⟩ := exists_of_bind_eq_ok hu
    obtain ⟨result, hresult, ⟨⟩⟩ := exists_of_bind_eq_ok hrest
    exact List.forall_mem_append.mpr ⟨ihr hresult, holdsType_resolveEach ihps hparams⟩

/-! ### Declarations -/

/-- A type that is declared is held under its name, and all others are held as before. -/
theorem Registered.declareType (h : a.Registered) {t : TypeEntry} (hb : a.declareType t = .ok b) :
    b.Registered := by
  unfold Arena.declareType at hb
  split at hb
  · cases hb
  · cases hb
    refine ⟨?_, h.elements, fun p hp D hD => List.mem_append_left _ (h.decls p hp D hD)⟩
    exact List.forall_mem_append.mpr
      ⟨h.types, List.forall_mem_singleton.mpr (Name.qualified_parse t.name)⟩

theorem Registered.declareElement (h : a.Registered) {e : ElementEntry}
    (hb : a.declareElement e = .ok b) : b.Registered := by
  unfold Arena.declareElement at hb
  split at hb
  · cases hb
  · obtain ⟨t, ht, ⟨⟩⟩ := exists_of_bind_eq_ok hb
    refine ⟨h.types, ?_, ?_⟩
    · exact List.forall_mem_append.mpr
        ⟨h.elements, List.forall_mem_singleton.mpr (Name.qualified_parse e.name)⟩
    · exact List.forall_mem_append.mpr
        ⟨h.decls, List.forall_mem_singleton.mpr (h.holdsType_resolve ht)⟩

/-- What one declaration keeps, all of them keep. -/
theorem declareAll_keeps {α : Type} {declare : Arena → α → Except LoadError Arena}
    {record : α → Log.Record} {P : Arena → Prop}
    (hstep : ∀ {a b x}, P a → declare a x = .ok b → P b) {xs : List α} (ha : P a)
    (hb : (declareAll declare record a xs).1 = .ok b) : P b := by
  induction xs generalizing a with
  | nil =>
    cases hb
    exact ha
  | cons x xs ih =>
    rw [declareAll_cons] at hb
    obtain ⟨c, hc, hrest⟩ := exists_of_bind_eq_ok hb
    exact ih (hstep ha hc) hrest

theorem registered_ofDocument {d : Document} (ha : (ofDocument d).1 = .ok a) : a.Registered := by
  rw [ofDocument_eq_bind] at ha
  obtain ⟨b, hb, hrest⟩ := exists_of_bind_eq_ok ha
  obtain ⟨c, hc, ⟨⟩⟩ := exists_of_bind_eq_ok hrest
  have hempty : empty.Registered := ⟨nofun, nofun, nofun⟩
  have htypes := declareAll_keeps (fun h => h.declareType) hempty hb
  have hall := declareAll_keeps (fun h => h.declareElement) htypes hc
  exact ⟨hall.types, hall.elements, hall.decls⟩

/-! ### Expressions -/

/-- A value of a type needs nothing that the type is not built from. -/
theorem holds_requirements_type {t : Ty} (h : ∀ D ∈ t.decls, a.HoldsType D) :
    ∀ r ∈ t.requirements, a.Holds r := by
  intro r hr
  cases r with
  | element x => exact absurd hr (t.element_notMem_requirements x)
  | type D s => exact h D (Ty.exists_mem_requirements_iff.mp ⟨s, hr⟩)

/-- To look inside an expression takes no type that the expression does not require. -/
theorem holds_insideRequirements {e : Expr} (h : ∀ r ∈ e.requirements, a.Holds r) :
    ∀ r ∈ e.type.insideRequirements, a.Holds r := by
  rw [Ty.insideRequirements_eq]
  refine holds_requirements_type fun D hD => ?_
  have hmentions := Expr.mentions_of_mem_decls (Expr.decls_stripped _ hD)
  obtain ⟨s, hs⟩ := Expr.exists_type_mem_requirements_iff.mpr hmentions
  exact h _ hs

theorem holds_requirements_each {xs : List ExprTerm} {es : List Expr} {n n' : Nat}
    (h : ∀ x ∈ xs, ∀ {e k k'}, a.buildExpr x k = .ok (e, k') → ∀ r ∈ e.requirements, a.Holds r)
    (hes : a.buildEach xs n = .ok (es, n')) : ∀ e ∈ es, ∀ r ∈ e.requirements, a.Holds r := by
  have hbuilt := forall₂_buildEach hes
  clear hes
  induction hbuilt with
  | nil => exact nofun
  | cons hx _ ih =>
    obtain ⟨hfirst, hrest⟩ := List.forall_mem_cons.mp h
    obtain ⟨k, k', hx⟩ := hx
    exact List.forall_mem_cons.mpr ⟨hfirst hx, ih hrest⟩

theorem Registered.holdsType_shared (h : a.Registered) {t : TypeTerm} {k k' : Nat}
    {u : SharedType} (hu : a.shared t k = .ok (u, k')) : ∀ D ∈ u.type.decls, a.HoldsType D := by
  rw [shared] at hu
  obtain ⟨p, hp, hrest⟩ := exists_of_bind_eq_ok hu
  obtain ⟨v, hv, ⟨⟩⟩ := exists_of_bind_eq_ok hp
  cases hrest
  exact h.holdsType_resolve hv

/-- An expression that a term stands for requires only what the arena holds. -/
theorem Registered.holds_requirements (h : a.Registered) {x : ExprTerm} {e : Expr} {k k' : Nat}
    (he : a.buildExpr x k = .ok (e, k')) : ∀ r ∈ e.requirements, a.Holds r := by
  -- each case takes apart what is done in a row: the terms inside are built, and names looked up
  induction x generalizing e k k' with
  | int | unsigned | bool | char | float | nullPtr | string =>
    cases he
    exact nofun
  | literal t value =>
    rw [buildExpr] at he
    obtain ⟨u, hu, ⟨⟩⟩ := exists_of_bind_eq_ok he
    exact holds_requirements_type (h.holdsType_shared hu)
  | access name =>
    rw [buildExpr] at he
    obtain ⟨p, hp, ⟨⟩⟩ := exists_of_bind_eq_ok he
    obtain ⟨y, hy, ⟨⟩⟩ := exists_of_bind_eq_ok hp
    obtain ⟨helement, htype⟩ := h.holds_element hy
    exact List.forall_mem_cons.mpr ⟨helement, holds_requirements_type htype⟩
  | member b field arrow ih =>
    rw [buildExpr] at he
    obtain ⟨p, hp, hrest⟩ := exists_of_bind_eq_ok he
    obtain ⟨q, hq, ⟨⟩⟩ := exists_of_bind_eq_ok hrest
    obtain ⟨y, hy, ⟨⟩⟩ := exists_of_bind_eq_ok hq
    have hbase := ih hp
    exact List.forall_mem_append.mpr
      ⟨List.forall_mem_append.mpr ⟨hbase, holds_insideRequirements hbase⟩,
        holds_requirements_type (h.holds_element hy).2⟩
  | call f args ih =>
    rw [buildExpr] at he
    obtain ⟨p, hp, hrest⟩ := exists_of_bind_eq_ok he
    obtain ⟨q, hq, ⟨⟩⟩ := exists_of_bind_eq_ok hrest
    obtain ⟨y, hy, ⟨⟩⟩ := exists_of_bind_eq_ok hq
    obtain ⟨helement, htype⟩ := h.holds_element hy
    refine List.forall_mem_cons.mpr ⟨helement, List.forall_mem_append.mpr
      ⟨holds_requirements_type htype, fun r hr => ?_⟩⟩
    obtain ⟨e, he, hr⟩ := Expr.mem_argRequirements.mp hr
    exact holds_requirements_each ih hp e he r hr
  | unary op x ih =>
    rw [buildExpr] at he
    obtain ⟨p, hp, ⟨⟩⟩ := exists_of_bind_eq_ok he
    exact fun r hr => ih hp r hr
  | binary op l r ihl ihr =>
    rw [buildExpr] at he
    obtain ⟨p, hp, hrest⟩ := exists_of_bind_eq_ok he
    obtain ⟨q, hq, ⟨⟩⟩ := exists_of_bind_eq_ok hrest
    exact List.forall_mem_append.mpr ⟨ihl hp, ihr hq⟩
  | conditional c p n ihc ihp ihn =>
    rw [buildExpr] at he
    obtain ⟨p, hp, hrest⟩ := exists_of_bind_eq_ok he
    obtain ⟨q, hq, hrest⟩ := exists_of_bind_eq_ok hrest
    obtain ⟨r, hr, ⟨⟩⟩ := exists_of_bind_eq_ok hrest
    exact List.forall_mem_append.mpr ⟨List.forall_mem_append.mpr ⟨ihc hp, ihp hq⟩, ihn hr⟩
  | cast t x ih =>
    rw [buildExpr] at he
    obtain ⟨u, hu, hrest⟩ := exists_of_bind_eq_ok he
    obtain ⟨p, hp, ⟨⟩⟩ := exists_of_bind_eq_ok hrest
    exact List.forall_mem_append.mpr
      ⟨holds_requirements_type (h.holdsType_shared hu), ih hp⟩

/-! ### Reports -/

/-- The entries for what the expressions of an arena require are held by the arena. -/
theorem Registered.holds_entries (h : a.Registered) {es : List Expr} {fresh : Nat}
    (hes : a.build = .ok (es, fresh)) :
    ∀ r ∈ (DependencyList.empty.insertAll (es.flatMap Expr.requirements)).entries, a.Holds r := by
  intro r hr
  rw [(DependencyList.summarizes_insertAll_empty _).entries] at hr
  obtain ⟨s, hs, rfl⟩ := List.mem_map.mp hr
  obtain ⟨e, he, hse⟩ := List.mem_flatMap.mp (DependencyList.subset_of_firstRequests _ hs)
  have hholds := holds_requirements_each (fun x _ => h.holds_requirements) hes e he s hse
  cases s <;> exact hholds

/-- Of what an arena holds, two things of one sort and name are the same. -/
theorem Declares.target_eq {d : Document} (h : a.Declares d.typeNames d.elementNames)
    (htypes : d.typeNames.Nodup) (helements : d.elementNames.Nodup) {r s : Dependency}
    (hr : a.Holds r) (hs : a.Holds s) (hsort : r.strength?.isSome = s.strength?.isSome)
    (hname : r.name.qualified = s.name.qualified) : r.target = s.target := by
  rw [← h.types] at htypes
  rw [← h.elements] at helements
  cases r with
  | element x =>
    cases s with
    | element y =>
      have hsame := List.inj_on_of_nodup_map helements hr hs hname
      exact congrArg (fun p => Target.element p.2.id) hsame
    | type E u => cases hsort
  | type D t =>
    cases s with
    | element y => cases hsort
    | type E u =>
      have hsame := List.inj_on_of_nodup_map htypes hr hs hname
      exact congrArg (fun p => Target.type p.2.id) hsame

/-- The line for something that an arena holds is that of a name in the document. -/
theorem Declares.exists_line {d : Document} (h : a.Declares d.typeNames d.elementNames)
    {r : Dependency} (hr : a.Holds r) :
    (∃ x ∈ d.elements, r.text = "element " ++ x.name) ∨
      ∃ t ∈ d.types, r.text = "type " ++ t.name ++ " (declaration)" ∨
        r.text = "type " ++ t.name ++ " (definition)" := by
  cases r with
  | element x =>
    have hmem : x.name.qualified ∈ d.elementNames := h.elements ▸ List.mem_map_of_mem hr
    obtain ⟨e, he, hname⟩ := List.mem_map.mp hmem
    exact Or.inl ⟨e, he, congrArg ("element " ++ ·) hname.symm⟩
  | type D s =>
    have hmem : D.name.qualified ∈ d.typeNames := h.types ▸ List.mem_map_of_mem hr
    obtain ⟨t, ht, hname⟩ := List.mem_map.mp hmem
    refine Or.inr ⟨t, ht, ?_⟩
    rw [← Dependency.line_declaration, ← Dependency.line_definition]
    cases s with
    | declaration => exact Or.inl (Dependency.text_eq_line_iff.mpr ⟨rfl, hname.symm⟩)
    | definition => exact Or.inr (Dependency.text_eq_line_iff.mpr ⟨rfl, hname.symm⟩)

/-- Whatever the names of a document are, if it loads and builds, then all lines of its report are
different, no type is both declared and defined in it, and each line is about an element or a type
by the very name that the document gives it. -/
theorem report_distinct {d : Document} {es : List Expr} {fresh : Nat}
    (ha : (ofDocument d).1 = .ok a) (hes : a.build = .ok (es, fresh)) :
    let unit := ((GenerationUnit.ofRegistry .empty).addAll DependencyList.registry
      (es.map .ofExpr) fresh).unit
    let report := unit.registry.entries.map Dependency.text
    report.Nodup ∧
      (∀ n, "type " ++ n ++ " (declaration)" ∈ report →
        "type " ++ n ++ " (definition)" ∉ report) ∧
      ∀ line ∈ report, (∃ x ∈ d.elements, line = "element " ++ x.name) ∨
        ∃ t ∈ d.types, line = "type " ++ t.name ++ " (declaration)" ∨
          line = "type " ++ t.name ++ " (definition)" := by
  have hload := settles_ofDocument d
  rw [ha] at hload
  obtain ⟨hmet, hnames, -⟩ := hload
  obtain ⟨htypes, helements, -⟩ := (forall_mem_declarationDemands_iff d).mp hmet
  intro unit report
  have hregistry : unit.registry = DependencyList.empty.insertAll (es.flatMap Expr.requirements) :=
    congrArg GenerationUnit.registry (GenerationUnit.addAll_registry es fresh)
  have hholds : ∀ r ∈ unit.registry.entries, a.Holds r := by
    rw [hregistry]
    exact (registered_ofDocument ha).holds_entries hes
  have hnodup : (unit.registry.entries.map Dependency.target).Nodup := by
    rw [hregistry]
    exact (DependencyList.summarizes_insertAll_empty _).nodup
  -- one sort and name stand for one target, and a target has one entry
  have hunique : ∀ r ∈ unit.registry.entries, ∀ s ∈ unit.registry.entries,
      r.strength?.isSome = s.strength?.isSome → r.name.qualified = s.name.qualified → r = s := by
    intro r hr s hs hsort hname
    have htarget := hnames.target_eq htypes helements (hholds r hr) (hholds s hs) hsort hname
    exact List.inj_on_of_nodup_map hnodup hr hs htarget
  refine ⟨?_, ?_, ?_⟩
  · refine List.Nodup.map_on (fun r hr s hs htext => ?_) (List.Nodup.of_map _ hnodup)
    rw [Dependency.text_eq_line s, Dependency.text_eq_line_iff] at htext
    exact hunique r hr s hs (congrArg Option.isSome htext.1) htext.2
  · intro n hdeclaration hdefinition
    obtain ⟨r, hr, hrtext⟩ := List.mem_map.mp hdeclaration
    obtain ⟨s, hs, hstext⟩ := List.mem_map.mp hdefinition
    rw [← Dependency.line_declaration, Dependency.text_eq_line_iff] at hrtext
    rw [← Dependency.line_definition, Dependency.text_eq_line_iff] at hstext
    have hsort : r.strength?.isSome = s.strength?.isSome := by rw [hrtext.1, hstext.1]; rfl
    obtain rfl := hunique r hr s hs hsort (hrtext.2.trans hstext.2.symm)
    cases hrtext.1.symm.trans hstext.1
  · intro line hline
    obtain ⟨r, hr, rfl⟩ := List.mem_map.mp hline
    exact hnames.exists_line (hholds r hr)

/-- A type whose name has three colons in a row, and an element whose name ends with two. -/
theorem report_distinct_colons :
    let d : Document :=
      ⟨[⟨"a:::b", .struct⟩], [⟨"p::", .pointer (.named "a:::b"), .variable⟩],
        [.access "p::", .unary .deref (.access "p::")]⟩
    ∃ a es fresh, (ofDocument d).1 = .ok a ∧ a.build = .ok (es, fresh) ∧
      let unit := ((GenerationUnit.ofRegistry .empty).addAll DependencyList.registry
        (es.map .ofExpr) fresh).unit
      unit.registry.entries.map Dependency.text = ["element p::", "type a:::b (declaration)"] ∧
        (unit.registry.entries.map Dependency.text).Nodup := by
  intro d
  refine ⟨_, _, _, rfl, rfl, rfl, ?_⟩
  exact (report_distinct (d := d) rfl rfl).1

end Arena

end ExprEmit
