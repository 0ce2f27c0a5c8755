import ExprEmit.Document.Arena
import ExprEmit.Proofs.Document.Structure
import Mathlib.Data.List.Nodup

/-!
# The names of a document

A document makes demands on its names: a declaration is not to take a name that is taken, and what a
type or an expression names is to be declared.  `Document.declarationDemands` lists those that are
made before there is an arena, and `Document.useDemands` those of the expressions, each in the order
in which a reader meets them.

Loading and building succeed exactly if all demands are met, and report the first that is not
(`Arena.reports_first_demand`).  `Demand.Settles` says so of a computation, and goes through each
way of putting computations together (`Settles.bind`), so the recursions over terms only name their
parts.
-/

namespace ExprEmit

/-! ### Demands -/

/-- What a document asks of one of its names. -/
inductive Demand where
  /-- The declared type `name` is not one of those before it. -/
  | newType (name : String) (before : List String)
  /-- The declared element `name` is not one of those before it. -/
  | newElement (name : String) (before : List String)
  /-- The type `name` is one of those declared. -/
  | knownType (name : String) (declared : List String)
  /-- The element `name` is one of those declared. -/
  | knownElement (name : String) (declared : List String)

namespace Demand

/-- Whether a demand is met. -/
def Met : Demand → Prop
  | newType name before | newElement name before => name ∉ before
  | knownType name declared | knownElement name declared => name ∈ declared

instance : DecidablePred Met
  | newType name before | newElement name before => inferInstanceAs (Decidable (name ∉ before))
  | knownType name declared | knownElement name declared =>
    inferInstanceAs (Decidable (name ∈ declared))

/-- The error that reports a demand that is not met. -/
def error : Demand → LoadError
  | newType name _ => .duplicateType name
  | newElement name _ => .duplicateElement name
  | knownType name _ => .unknownType name
  | knownElement name _ => .unknownElement name

/-- Whether `v` reports the first of the demands that is not met. -/
def FirstUnmet (ds : List Demand) (v : LoadError) : Prop :=
  ∃ before d after, ds = before ++ d :: after ∧ (∀ b ∈ before, b.Met) ∧ ¬d.Met ∧ v = d.error

/-- Whether a computation succeeds, with a result for which `P` holds, if all demands are met, and
otherwise reports the first that is not. -/
def Settles {α : Type} (x : Except LoadError α) (ds : List Demand) (P : α → Prop) : Prop :=
  match x with
  | .ok a => (∀ d ∈ ds, d.Met) ∧ P a
  | .error v => FirstUnmet ds v

/-- Only one error can be the first. -/
theorem FirstUnmet.unique {ds : List Demand} {v w : LoadError} (hv : FirstUnmet ds v)
    (hw : FirstUnmet ds w) : v = w := by
  obtain ⟨before, d, after, rfl, hbefore, hd, rfl⟩ := hv
  obtain ⟨before', d', after', hsplit, hbefore', hd', rfl⟩ := hw
  -- neither of the two stands before the other
  rcases List.append_eq_append_iff.mp hsplit with ⟨middle, hb', hrest⟩ | ⟨middle, hb, hrest⟩
  · cases middle with
    | nil =>
      rw [(List.cons.inj hrest).1]
    | cons a middle =>
      obtain ⟨rfl, -⟩ := List.cons.inj hrest
      exact absurd (hbefore' d (by simp [hb'])) hd
  · cases middle with
    | nil =>
      rw [(List.cons.inj hrest).1]
    | cons a middle =>
      obtain ⟨rfl, -⟩ := List.cons.inj hrest
      exact absurd (hbefore d' (by simp [hb])) hd'

theorem FirstUnmet.not_met {ds : List Demand} {v : LoadError} (hv : FirstUnmet ds v) :
    ¬∀ d ∈ ds, d.Met := by
  obtain ⟨before, d, after, rfl, -, hd, -⟩ := hv
  exact fun h => hd (h d (by simp))

namespace Settles

variable {α β : Type} {x : Except LoadError α} {ds es : List Demand} {P Q : α → Prop}

/-- A computation that settles demands succeeds exactly if all of them are met. -/
theorem ok_iff (h : Settles x ds P) : (∃ a, x = .ok a) ↔ ∀ d ∈ ds, d.Met := by
  cases x with
  | ok a => exact ⟨fun _ => h.1, fun _ => ⟨a, rfl⟩⟩
  | error v =>
    constructor
    · rintro ⟨a, ha⟩
      cases ha
    · exact fun hmet => absurd hmet h.not_met

/-- A computation that settles demands fails exactly with the first that is not met. -/
theorem error_iff (h : Settles x ds P) (v : LoadError) : x = .error v ↔ FirstUnmet ds v := by
  cases x with
  | ok a =>
    constructor
    · exact nofun
    · exact fun hv => absurd h.1 hv.not_met
  | error w =>
    have hw : FirstUnmet ds w := h
    constructor
    · rintro ⟨⟩
      exact hw
    · exact fun hv => congrArg Except.error (hw.unique hv)

theorem pure {a : α} (h : P a) : Settles (.ok a) [] P := ⟨nofun, h⟩

/-- What is done behind a computation settles its demands behind those of the computation. -/
theorem bind {f : α → Except LoadError β} {R : β → Prop} (hx : Settles x ds P)
    (hf : ∀ a, P a → Settles (f a) es R) : Settles (x >>= f) (ds ++ es) R := by
  cases x with
  | error v =>
    obtain ⟨before, d, after, rfl, hbefore, hd, rfl⟩ := hx
    exact ⟨before, d, after ++ es, by simp, hbefore, hd, rfl⟩
  | ok a =>
    obtain ⟨hds, ha⟩ := hx
    have hrest := hf a ha
    show Settles (f a) (ds ++ es) R
    cases hfa : f a with
    | ok b =>
      rw [hfa] at hrest
      exact ⟨List.forall_mem_append.mpr ⟨hds, hrest.1⟩, hrest.2⟩
    | error v =>
      rw [hfa] at hrest
      obtain ⟨before, d, after, rfl, hbefore, hd, rfl⟩ := hrest
      exact ⟨ds ++ before, d, after, by simp, List.forall_mem_append.mpr ⟨hds, hbefore⟩, hd, rfl⟩

/-- A demand that is met may be made first. -/
theorem behind {d : Demand} (hd : d.Met) (hx : Settles x ds P) : Settles x (d :: ds) P := by
  cases x with
  | ok a => exact ⟨List.forall_mem_cons.mpr ⟨hd, hx.1⟩, hx.2⟩
  | error v =>
    obtain ⟨before, e, after, rfl, hbefore, he, rfl⟩ := hx
    exact ⟨d :: before, e, after, rfl, List.forall_mem_cons.mpr ⟨hd, hbefore⟩, he, rfl⟩

/-- What is made of a result makes no demands. -/
theorem map {f : α → β} {R : β → Prop} (hx : Settles x ds P) (hf : ∀ a, P a → R (f a)) :
    Settles (x >>= fun a => .ok (f a)) ds R := by
  have h : Settles (x >>= fun a => .ok (f a)) (ds ++ []) R :=
    hx.bind fun a ha => .pure (hf a ha)
  rwa [List.append_nil] at h

/-- A demand by itself. -/
theorem single {d : Demand} (hok : ∀ a, x = .ok a → d.Met ∧ P a)
    (herror : ∀ v, x = .error v → ¬d.Met ∧ v = d.error) : Settles x [d] P := by
  cases x with
  | ok a => exact ⟨List.forall_mem_singleton.mpr (hok a rfl).1, (hok a rfl).2⟩
  | error v => exact ⟨[], d, [], rfl, nofun, (herror v rfl).1, (herror v rfl).2⟩

end Settles

end Demand

/-! ### Demands of a list of declarations -/

/-- What `f` says of each member of a list, given those before it, of which `before` come first. -/
def eachBehind {α β : Type} (f : List α → α → List β) (before : List α) : List α → List β
  | [] => []
  | x :: xs => f before x ++ eachBehind f (before ++ [x]) xs

/-- If each member asks to have a name of its own, then all names are asked to be distinct. -/
theorem forall_mem_eachBehind_iff {α : Type} (name : α → String)
    {fresh : String → List String → Demand} (hfresh : ∀ n ns, (fresh n ns).Met ↔ n ∉ ns)
    (more : α → List Demand) (before : List α) (hbefore : (before.map name).Nodup)
    (xs : List α) :
    (∀ d ∈ eachBehind (fun b x => fresh (name x) (b.map name) :: more x) before xs, d.Met) ↔
      ((before ++ xs).map name).Nodup ∧ ∀ x ∈ xs, ∀ d ∈ more x, d.Met := by
  induction xs generalizing before with
  | nil => simp [eachBehind, hbefore]
  | cons x xs ih =>
    rw [eachBehind, List.forall_mem_append, List.forall_mem_cons, hfresh, List.forall_mem_cons]
    by_cases hx : name x ∈ before.map name
    · -- the name is taken, and then it stands twice in the whole list
      have htwice : ¬((before ++ x :: xs).map name).Nodup := by
        intro hnodup
        rw [List.map_append, List.map_cons] at hnodup
        exact (List.nodup_append.mp hnodup).2.2 _ hx _ List.mem_cons_self rfl
      constructor
      · exact fun h => absurd hx h.1.1
      · exact fun h => absurd h.1 htwice
    · have hlonger : ((before ++ [x]).map name).Nodup := by
        rw [List.map_append, List.nodup_append]
        refine ⟨hbefore, List.nodup_singleton _, ?_⟩
        rintro a ha b hb rfl
        obtain rfl : a = name x := by simpa using hb
        exact hx ha
      rw [ih _ hlonger, List.append_assoc, List.singleton_append]
      tauto

/-! ### Names in terms -/

namespace TypeTerm

mutual

/-- The types that a type term names, in the order in which they are looked up: the parameters of a
function come before its result. -/
def names : TypeTerm → List String
  | primitive _ => []
  | named name => [name]
  | pointer t | reference t | const t | array t _ => t.names
  | function r ps => namesOfEach ps ++ r.names

/-- The types that each of a list of type terms names. -/
def namesOfEach : List TypeTerm → List String
  | [] => []
  | t :: ts => t.names ++ namesOfEach ts

end

end TypeTerm

/-- A name that an expression term uses. -/
inductive Use where
  | type (name : String)
  | element (name : String)

/-- The demand that a used name is one of the types or elements. -/
def Use.demand (types elements : List String) : Use → Demand
  | type name => .knownType name types
  | element name => .knownElement name elements

namespace ExprTerm

mutual

/-- The names that an expression term uses, in the order in which they are looked up: a field comes
behind its base and a function behind its arguments, but a type before the operand. -/
def uses : ExprTerm → List Use
  | int _ | unsigned _ | bool _ | char _ | float _ | nullPtr | string _ => []
  | literal t _ => t.names.map .type
  | access name => [.element name]
  | member base field _ => base.uses ++ [.element field]
  | call f args => usesOfEach args ++ [.element f]
  | unary _ x => x.uses
  | binary _ l r => l.uses ++ r.uses
  | conditional c p n => c.uses ++ p.uses ++ n.uses
  | cast t x => t.names.map .type ++ x.uses

/-- The names that each of a list of expression terms uses. -/
def usesOfEach : List ExprTerm → List Use
  | [] => []
  | x :: xs => x.uses ++ usesOfEach xs

end

theorem mem_usesOfEach {u : Use} {xs : List ExprTerm} :
    u ∈ usesOfEach xs ↔ ∃ x ∈ xs, u ∈ x.uses := by
  induction xs with
  | nil => simp [usesOfEach]
  | cons x xs ih => simp [usesOfEach, ih]

end ExprTerm

/-! ### Demands of a document -/

namespace Document

/-- The names of the declared types. -/
def typeNames (d : Document) : List String := d.types.map TypeEntry.name

/-- The names of the declared elements. -/
def elementNames (d : Document) : List String := d.elements.map ElementEntry.name

/-- What the declarations of a document ask of its names: each type to be new, and then each element
to be new and the types that it names to be declared. -/
def declarationDemands (d : Document) : List Demand :=
  eachBehind (fun before t => [.newType t.name (before.map TypeEntry.name)]) [] d.types ++
    eachBehind (fun before e => .newElement e.name (before.map ElementEntry.name) ::
      e.type.names.map (.knownType · d.typeNames)) [] d.elements

/-- What the expressions of a document ask of its names: each name that is used to be declared. -/
def useDemands (d : Document) : List Demand :=
  (ExprTerm.usesOfEach d.expressions).map (Use.demand d.typeNames d.elementNames)

end Document

/-! ### Looking names up -/

theorem lookup_isSome_iff_mem {α : Type} (l : List (String × α)) (name : String) :
    (l.lookup name).isSome = true ↔ name ∈ l.map Prod.fst := by
  rw [List.lookup_isSome_iff, List.mem_map]
  constructor
  · rintro ⟨p, hp, h⟩
    exact ⟨p, hp, (beq_iff_eq.mp h).symm⟩
  · rintro ⟨p, hp, rfl⟩
    exact ⟨p, hp, beq_self_eq_true _⟩

theorem exists_of_bind_eq_ok {ε α β : Type} {x : Except ε α} {f : α → Except ε β} {b : β}
    (h : x >>= f = .ok b) : ∃ a, x = .ok a ∧ f a = .ok b := by
  cases x with
  | error v => cases h
  | ok a => exact ⟨a, rfl, h⟩

namespace Arena

open Demand

variable {a : Arena} {ts es : List String}

/-- Whether the arena holds types and elements of these names, in this order. -/
structure Declares (a : Arena) (ts es : List String) : Prop where
  types : a.types.map Prod.fst = ts
  elements : a.elements.map Prod.fst = es

theorem Declares.settles_type (h : a.Declares ts es) (name : String) :
    Settles (a.type? name) [.knownType name ts] fun _ => True := by
  have hiff := lookup_isSome_iff_mem a.types name
  rw [h.types] at hiff
  apply Settles.single
  · intro d hd
    refine ⟨hiff.mp ?_, trivial⟩
    unfold type? at hd
    split at hd
    · next hfound => rw [hfound]; rfl
    · cases hd
  · intro v hv
    unfold type? at hv
    split at hv
    · cases hv
    · next hmissing =>
      obtain rfl := Except.error.inj hv
      refine ⟨fun hmem => ?_, rfl⟩
      have := hiff.mpr hmem
      rw [hmissing] at this
      cases this

theorem Declares.settles_element (h : a.Declares ts es) (name : String) :
    Settles (a.element? name) [.knownElement name es] fun _ => True := by
  have hiff := lookup_isSome_iff_mem a.elements name
  rw [h.elements] at hiff
  apply Settles.single
  · intro d hd
    refine ⟨hiff.mp ?_, trivial⟩
    unfold element? at hd
    split at hd
    · next hfound => rw [hfound]; rfl
    · cases hd
  · intro v hv
    unfold element? at hv
    split at hv
    · cases hv
    · next hmissing =>
      obtain rfl := Except.error.inj hv
      refine ⟨fun hmem => ?_, rfl⟩
      have := hiff.mpr hmem
      rw [hmissing] at this
      cases this

/-! ### Types -/

theorem settles_resolveEach (ps : List TypeTerm)
    (h : ∀ t ∈ ps, Settles (a.resolve t) (t.names.map (.knownType · ts)) fun _ => True) :
    Settles (a.resolveEach ps) ((TypeTerm.namesOfEach ps).map (.knownType · ts))
      fun _ => True := by
  induction ps with
  | nil => exact .pure trivial
  | cons t ps ih =>
    obtain ⟨ht, hps⟩ := List.forall_mem_cons.mp h
    rw [resolveEach, TypeTerm.namesOfEach, List.map_append]
    exact ht.bind fun u _ => (ih hps).map fun _ _ => trivial

/-- Resolving a type term looks up the types that it names. -/
theorem Declares.settles_resolve (h : a.Declares ts es) (t : TypeTerm) :
    Settles (a.resolve t) (t.names.map (.knownType · ts)) fun _ => True := by
  induction t with
  | primitive p => exact .pure trivial
  | named name => exact (h.settles_type name).map fun _ _ => trivial
  | pointer t ih | reference t ih | const t ih | array t size ih =>
    exact ih.map fun _ _ => trivial
  | function r ps ihr ihps =>
    rw [resolve, TypeTerm.names, List.map_append]
    exact (settles_resolveEach ps ihps).bind fun params _ => ihr.map fun _ _ => trivial

/-! ### Declarations -/

/-- Declaring a type asks for a new name. -/
theorem Declares.settles_declareType (h : a.Declares ts es) (t : TypeEntry) :
    Settles (a.declareType t) [.newType t.name ts] fun b => b.Declares (ts ++ [t.name]) es := by
  have hiff := lookup_isSome_iff_mem a.types t.name
  rw [h.types] at hiff
  unfold declareType
  by_cases hmem : t.name ∈ ts
  · rw [if_pos (hiff.mpr hmem)]
    exact .single nofun fun v hv => ⟨fun hnew => hnew hmem, (Except.error.inj hv).symm⟩
  · rw [if_neg fun hfound => hmem (hiff.mp hfound)]
    apply Settles.single
    · intro b hb
      obtain rfl := Except.ok.inj hb
      exact ⟨hmem, by rw [List.map_append, h.types]; rfl, h.elements⟩
    · exact nofun

/-- Declaring an element asks for a new name, and then for the types that it names. -/
theorem Declares.settles_declareElement (h : a.Declares ts es) (e : ElementEntry) :
    Settles (a.declareElement e)
      (.newElement e.name es :: e.type.names.map (.knownType · ts))
      fun b => b.Declares ts (es ++ [e.name]) := by
  have hiff := lookup_isSome_iff_mem a.elements e.name
  rw [h.elements] at hiff
  unfold declareElement
  by_cases hmem : e.name ∈ es
  · rw [if_pos (hiff.mpr hmem)]
    exact ⟨[], .newElement e.name es, _, rfl, nofun, fun hnew => hnew hmem, rfl⟩
  · rw [if_neg fun hfound => hmem (hiff.mp hfound)]
    refine Settles.behind (d := .newElement e.name es) hmem ?_
    refine (h.settles_resolve e.type).map fun u _ => ⟨h.types, ?_⟩
    rw [List.map_append, h.elements]
    rfl

/-- Declaring entries in order, without the records: one computation behind another. -/
theorem declareAll_cons {α : Type} (declare : Arena → α → Except LoadError Arena)
    (record : α → Log.Record) (b : Arena) (x : α) (xs : List α) :
    (declareAll declare record b (x :: xs)).1 =
      declare b x >>= fun c => (declareAll declare record c xs).1 := by
  rw [declareAll]
  cases declare b x <;> rfl

/-- Declaring entries settles what each of them asks for behind those before it.  What is known of
the arena is given by the entries that have been declared. -/
theorem settles_declareAll {α : Type} {declare : Arena → α → Except LoadError Arena}
    {record : α → Log.Record} {demands : List α → α → List Demand} {K : List α → Arena → Prop}
    (hstep : ∀ before x b, K before b →
      Settles (declare b x) (demands before x) (K (before ++ [x])))
    (xs before : List α) (b : Arena) (hb : K before b) :
    Settles (declareAll declare record b xs).1 (eachBehind demands before xs)
      (K (before ++ xs)) := by
  induction xs generalizing before b with
  | nil =>
    rw [List.append_nil]
    exact .pure hb
  | cons x xs ih =>
    have hx := hstep before x b hb
    have happend : before ++ x :: xs = (before ++ [x]) ++ xs := by simp
    rw [declareAll_cons, eachBehind, happend]
    exact hx.bind fun c hc => ih (before ++ [x]) c hc

theorem settles_types (types : List TypeEntry) :
    Settles (declareAll declareType typeRecord empty types).1
      (eachBehind (fun before t => [.newType t.name (before.map TypeEntry.name)]) [] types)
      fun b => b.Declares (types.map TypeEntry.name) [] := by
  refine settles_declareAll (K := fun done b => b.Declares (done.map TypeEntry.name) []) ?_ types []
    empty ⟨rfl, rfl⟩
  intro before t b hb
  rw [List.map_append]
  exact hb.settles_declareType t

theorem Declares.settles_elements (h : a.Declares ts []) (elements : List ElementEntry) :
    Settles (declareAll declareElement elementRecord a elements).1
      (eachBehind (fun before e => .newElement e.name (before.map ElementEntry.name) ::
        e.type.names.map (.knownType · ts)) [] elements)
      fun b => b.Declares ts (elements.map ElementEntry.name) := by
  refine settles_declareAll (K := fun done b => b.Declares ts (done.map ElementEntry.name)) ?_
    elements [] a h
  intro before e b hb
  rw [List.map_append]
  exact hb.settles_declareElement e

/-- Loading a document, without the records. -/
theorem ofDocument_eq_bind (d : Document) :
    (ofDocument d).1 =
      (declareAll declareType typeRecord empty d.types).1 >>= fun a =>
        (declareAll declareElement elementRecord a d.elements).1 >>= fun b =>
          .ok { b with expressions := d.expressions } := by
  unfold ofDocument
  rcases declareAll declareType typeRecord empty d.types with ⟨_ | a, log⟩
  · rfl
  · dsimp only [bind, Except.bind]
    rcases declareAll declareElement elementRecord a d.elements with ⟨_ | b, more⟩ <;> rfl

/-- Loading a document settles what its declarations ask for, and the arena has its names. -/
theorem settles_ofDocument (d : Document) :
    Settles (ofDocument d).1 d.declarationDemands fun a =>
      a.Declares d.typeNames d.elementNames ∧ a.expressions = d.expressions := by
  rw [ofDocument_eq_bind]
  refine (settles_types d.types).bind fun a ha => ?_
  exact (ha.settles_elements d.elements).map fun b hb => ⟨⟨hb.types, hb.elements⟩, rfl⟩

/-! ### Expressions -/

/-- Whether making something settles the demands, whatever the number of the next type object. -/
def Builds {α : Type} (x : Build α) (ds : List Demand) : Prop :=
  ∀ n, Settles (x n) ds fun _ => True

namespace Builds

variable {α β : Type} {x : Build α} {ds es : List Demand}

theorem pure (r : α) : Builds (Pure.pure r : Build α) [] := fun _ => .pure trivial

theorem bind {f : α → Build β} (hx : Builds x ds) (hf : ∀ r, Builds (f r) es) :
    Builds (x >>= f) (ds ++ es) :=
  fun n => (hx n).bind fun p _ => hf p.1 p.2

theorem map {f : α → β} (hx : Builds x ds) : Builds (x >>= fun r => Pure.pure (f r)) ds :=
  fun n => (hx n).map fun _ _ => trivial

/-- A computation that makes no type object. -/
theorem lift {y : Except LoadError α} (hy : Settles y ds fun _ => True) :
    Builds (liftM y : Build α) ds :=
  fun n => hy.map (f := fun r => (r, n)) fun _ _ => trivial

theorem fresh (f : Nat → α) : Builds (nextFresh >>= fun n => Pure.pure (f n)) [] :=
  fun _ => .pure trivial

end Builds

/-- A new type object asks for the types that its type names. -/
theorem Declares.builds_shared (h : a.Declares ts es) (t : TypeTerm) :
    Builds (a.shared t) (t.names.map (.knownType · ts)) := by
  have hresolved : Builds (a.shared t) (t.names.map (.knownType · ts) ++ []) :=
    (Builds.lift (h.settles_resolve t)).bind fun u =>
      .fresh fun n => (⟨n, u⟩ : SharedType)
  rwa [List.append_nil] at hresolved

theorem map_demand_type (names : List String) :
    (names.map Use.type).map (Use.demand ts es) = names.map (.knownType · ts) := by
  rw [List.map_map]
  rfl

theorem builds_buildEach (xs : List ExprTerm)
    (h : ∀ x ∈ xs, Builds (a.buildExpr x) (x.uses.map (Use.demand ts es))) :
    Builds (a.buildEach xs) ((ExprTerm.usesOfEach xs).map (Use.demand ts es)) := by
  induction xs with
  | nil => exact .pure []
  | cons x xs ih =>
    obtain ⟨hx, hxs⟩ := List.forall_mem_cons.mp h
    rw [buildEach, ExprTerm.usesOfEach, List.map_append]
    exact hx.bind fun e => (ih hxs).map

/-- Building an expression looks up the names that its term uses. -/
theorem Declares.builds_buildExpr (h : a.Declares ts es) (x : ExprTerm) :
    Builds (a.buildExpr x) (x.uses.map (Use.demand ts es)) := by
  have helement := fun name => Builds.lift (h.settles_element name)
  induction x with
  | int | unsigned | bool | char | float | nullPtr =>
    rw [buildExpr, ExprTerm.uses]
    exact .fresh _
  | string s => exact .pure _
  | literal t value =>
    rw [buildExpr, ExprTerm.uses, map_demand_type]
    exact (h.builds_shared t).map
  | access name => exact (helement name).map
  | member b field arrow ih =>
    rw [buildExpr, ExprTerm.uses, List.map_append]
    exact ih.bind fun e => (helement field).map
  | call f args ih =>
    rw [buildExpr, ExprTerm.uses, List.map_append]
    exact (builds_buildEach args ih).bind fun xs => (helement f).map
  | unary op x ih => exact ih.map
  | binary op l r ihl ihr =>
    rw [buildExpr, ExprTerm.uses, List.map_append]
    exact ihl.bind fun e => ihr.map
  | conditional c p n ihc ihp ihn =>
    rw [buildExpr, ExprTerm.uses, List.append_assoc, List.map_append, List.map_append]
    exact ihc.bind fun e => ihp.bind fun f => ihn.map
  | cast t x ih =>
    rw [buildExpr, ExprTerm.uses, List.map_append, map_demand_type]
    exact (h.builds_shared t).bind fun u => ih.map

/-- Building terms makes an expression of each, in their order. -/
theorem forall₂_buildEach {xs : List ExprTerm} {es : List Expr} {n n' : Nat}
    (h : a.buildEach xs n = .ok (es, n')) :
    List.Forall₂ (fun x e => ∃ k k', a.buildExpr x k = .ok (e, k')) xs es := by
  induction xs generalizing es n n' with
  | nil =>
    cases h
    exact .nil
  | cons x xs ih =>
    rw [buildEach] at h
    obtain ⟨p, hx, hrest⟩ := exists_of_bind_eq_ok h
    obtain ⟨q, hxs, hcons⟩ := exists_of_bind_eq_ok hrest
    cases hcons
    exact .cons ⟨n, p.2, hx⟩ (ih hxs)

/-! ### Loading and building -/

/-- What the declarations ask for: distinct names, and declared types in the types of elements. -/
theorem forall_mem_declarationDemands_iff (d : Document) :
    (∀ w ∈ d.declarationDemands, w.Met) ↔
      d.typeNames.Nodup ∧ d.elementNames.Nodup ∧
        ∀ e ∈ d.elements, ∀ n ∈ e.type.names, n ∈ d.typeNames := by
  have hnewType : ∀ n ns, (Demand.newType n ns).Met ↔ n ∉ ns := fun _ _ => Iff.rfl
  have hnewElement : ∀ n ns, (Demand.newElement n ns).Met ↔ n ∉ ns := fun _ _ => Iff.rfl
  rw [Document.declarationDemands, List.forall_mem_append,
    forall_mem_eachBehind_iff TypeEntry.name hnewType (fun _ => []) [] List.nodup_nil,
    forall_mem_eachBehind_iff ElementEntry.name hnewElement
      (fun e => e.type.names.map (.knownType · d.typeNames)) [] List.nodup_nil]
  simp only [List.nil_append, List.forall_mem_map]
  exact ⟨fun h => ⟨h.1.1, h.2⟩, fun h => ⟨⟨h.1, nofun⟩, h.2⟩⟩

/-- What the expressions ask for: that each name that is used is declared, as what it is used. -/
theorem forall_mem_useDemands_iff (d : Document) :
    (∀ w ∈ d.useDemands, w.Met) ↔
      ∀ x ∈ d.expressions, (∀ n, .type n ∈ x.uses → n ∈ d.typeNames) ∧
        ∀ n, .element n ∈ x.uses → n ∈ d.elementNames := by
  rw [Document.useDemands, List.forall_mem_map]
  constructor
  · intro h x hx
    exact ⟨fun n hn => h (.type n) (ExprTerm.mem_usesOfEach.mpr ⟨x, hx, hn⟩),
      fun n hn => h (.element n) (ExprTerm.mem_usesOfEach.mpr ⟨x, hx, hn⟩)⟩
  · intro h u hu
    obtain ⟨x, hx, hmem⟩ := ExprTerm.mem_usesOfEach.mp hu
    cases u with
    | type n => exact (h x hx).1 n hmem
    | element n => exact (h x hx).2 n hmem

/-- Building the expressions of a loaded document settles what they ask for. -/
theorem settles_build {d : Document} (h : a.Declares d.typeNames d.elementNames)
    (hexpressions : a.expressions = d.expressions) :
    Settles a.build d.useDemands fun _ => True := by
  unfold build
  rw [hexpressions]
  exact builds_buildEach d.expressions (fun x _ => h.builds_buildExpr x) a.freshElement

/-- A document loads exactly if its types have distinct names, its elements have distinct names, and
the types of its elements name declared types; what it loads to builds exactly if its expressions
use declared names.  What is reported otherwise is the first demand that is not met.

The types of the whole document count, wherever it is that one is named, and so do its elements. -/
theorem reports_first_demand (d : Document) :
    ((∃ a, (ofDocument d).1 = .ok a) ↔
      d.typeNames.Nodup ∧ d.elementNames.Nodup ∧
        ∀ e ∈ d.elements, ∀ n ∈ e.type.names, n ∈ d.typeNames) ∧
    (∀ v, (ofDocument d).1 = .error v ↔ FirstUnmet d.declarationDemands v) ∧
    ∀ a, (ofDocument d).1 = .ok a →
      ((∃ r, a.build = .ok r) ↔
        ∀ x ∈ d.expressions, (∀ n, .type n ∈ x.uses → n ∈ d.typeNames) ∧
          ∀ n, .element n ∈ x.uses → n ∈ d.elementNames) ∧
      ∀ v, a.build = .error v ↔ FirstUnmet d.useDemands v := by
  have hload := settles_ofDocument d
  refine ⟨?_, hload.error_iff, ?_⟩
  · rw [hload.ok_iff, forall_mem_declarationDemands_iff]
  · intro a ha
    rw [ha] at hload
    obtain ⟨-, hnames, hexpressions⟩ := hload
    have hbuild := settles_build hnames hexpressions
    refine ⟨?_, hbuild.error_iff⟩
    rw [hbuild.ok_iff, forall_mem_useDemands_iff]

/-- Of two unknown names in one expression, the one in the base of the member access is reported,
behind an expression that is built. -/
theorem reports_first_demand_base :
    let d : Document :=
      ⟨[⟨"Node", .struct⟩], [⟨"head", .pointer (.named "Node"), .variable⟩],
        [.access "head", .member (.access "tail") "next" true]⟩
    ∃ a, (ofDocument d).1 = .ok a ∧ a.build = .error (.unknownElement "tail") := by
  intro d
  obtain ⟨hloads, -, hbuild⟩ := reports_first_demand d
  obtain ⟨a, ha⟩ := hloads.mpr ⟨by decide, by decide, by decide⟩
  refine ⟨a, ha, ((hbuild a ha).2 _).mpr ?_⟩
  exact ⟨[.knownElement "head" ["head"]], .knownElement "tail" ["head"],
    [.knownElement "next" ["head"]], rfl, by decide, by decide, rfl⟩

end Arena

end ExprEmit
