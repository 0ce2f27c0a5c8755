import ExprEmit.Command.Run
import ExprEmit.Proofs.Command.Disk
import ExprEmit.Proofs.Unit.Complete

/-!
# Attempts on a disk

On a disk an attempt is a function: it comes to a result or a failure and leaves a disk
(`Attempt.on`).  Most of what the program does only logs (`Attempt.Logs`), and whatever the filter
shows of that stands on the error stream in front of everything else.

Loading a model is such an attempt if there is a model to load (`logs_loadModel`); otherwise the
same is told to everyone who tries (`on_loadModel_of_not_loads`).
-/

namespace ExprEmit.Command

namespace Disk

/-! ### Streams -/

/-- The disk with more on its standard output. -/
def printed (d : Disk) (s : String) : Disk := { d with out := d.out ++ s }

/-- The disk with more on its error stream. -/
def told (d : Disk) (s : String) : Disk := { d with err := d.err ++ s }

/-- The lines of the records that a filter shows. -/
def logText (f : Filter) (records : List Log.Record) : String :=
  String.join ((records.filter f.shows).map recordLine)

/-- The disk with the lines of records on its error stream. -/
def logged (d : Disk) (f : Filter) (records : List Log.Record) : Disk := d.told (logText f records)

@[simp] theorem told_empty (d : Disk) : d.told "" = d := by
  rw [told, String.append_empty]

@[simp] theorem printed_empty (d : Disk) : d.printed "" = d := by
  rw [printed, String.append_empty]

@[simp] theorem told_told (d : Disk) (s t : String) : (d.told s).told t = d.told (s ++ t) := by
  rw [told, told, told, String.append_assoc]

theorem logText_append (f : Filter) (records more : List Log.Record) :
    logText f (records ++ more) = logText f records ++ logText f more := by
  rw [logText, List.filter_append, List.map_append, String.join_append]
  rfl

@[simp] theorem logged_nil (d : Disk) (f : Filter) : d.logged f [] = d := d.told_empty

@[simp] theorem logged_logged (d : Disk) (f : Filter) (records more : List Log.Record) :
    (d.logged f records).logged f more = d.logged f (records ++ more) := by
  rw [logged, logged, logged, told_told, logText_append]

/-! ### What is printed changes no file -/

section

variable {d e : Disk} (h : d.nodes = e.nodes)

include h

theorem node?_congr (l : Location) : d.node? l = e.node? l := by
  rw [node?, node?, h]

theorem follow_congr (l : Location) (parts : List String) : d.follow l parts = e.follow l parts := by
  induction parts generalizing l with
  | nil => rfl
  | cons part parts ih => simp only [follow, node?_congr h, ih]

theorem goal_congr (path : String) : d.goal path = e.goal path := by
  simp only [goal, follow_congr h]

theorem read_congr (path : String) : d.read path = e.read path := by
  simp only [read, goal_congr h, node?_congr h]

theorem writable_congr (path : String) (l : Location) : d.Writable path l ↔ e.Writable path l := by
  have htarget : d.target path = e.target path := by
    simp only [target, goal_congr h, node?_congr h]
  constructor
  · exact fun hd => ⟨htarget ▸ hd.target, fun n hn => hd.file n (node?_congr h l ▸ hn)⟩
  · exact fun he => ⟨htarget ▸ he.target, fun n hn => he.file n (node?_congr h l ▸ hn)⟩

end

end Disk

/-! ### Attempts -/

/-- What becomes of an attempt on a disk, and the disk that it leaves. -/
def Attempt.on {α : Type} (x : Attempt (StateM Disk) α) (d : Disk) : Except Failure α × Disk :=
  x.run d

namespace Attempt

variable {α β : Type}

/-- An attempt after another goes on where that one has succeeded. -/
theorem on_bind (x : Attempt (StateM Disk) α) (g : α → Attempt (StateM Disk) β) (d : Disk) :
    (x >>= g).on d = match x.on d with
      | (.ok a, e) => (g a).on e
      | (.error v, e) => (.error v, e) := by
  have hbind : (x >>= g).on d = match x.on d with
      | (r, e) => ExceptT.run (ExceptT.mk (ExceptT.bindCont g r)) e := rfl
  rw [hbind]
  rcases x.on d with ⟨_ | a, e⟩ <;> rfl

/-- Whether an attempt on a disk comes to `a` and does nothing but log. -/
def Logs (f : Filter) (x : Attempt (StateM Disk) α) (d : Disk) (a : α) : Prop :=
  ∃ records, x.on d = (.ok a, d.logged f records)

theorem on_bind_of_logs {f : Filter} {x : Attempt (StateM Disk) α}
    {g : α → Attempt (StateM Disk) β} {d : Disk} {a : α} (h : Logs f x d a) :
    ∃ records, (x >>= g).on d = (g a).on (d.logged f records) := by
  obtain ⟨records, hx⟩ := h
  exact ⟨records, by rw [on_bind, hx]⟩

end Attempt

open Attempt

theorem on_report (f : Filter) (records : List Log.Record) (d : Disk) :
    (report Disk.host f records).on d = (.ok ⟨⟩, d.logged f records) := rfl

/-! ### Loading -/

/-- A model that a file stands for, and what it goes through. -/
structure Loaded where
  source : String
  document : Document
  arena : Arena
  exprs : List Expr
  /-- The number of the next new type object. -/
  fresh : Nat

/-- Whether a file can be read, loaded and built, with the outcome `m`. -/
structure Disk.Loads (d : Disk) (input : String) (m : Loaded) : Prop where
  read : d.read input = .ok (Text.bytes m.source)
  parsed : Document.parse m.source = .ok m.document
  declared : (Arena.ofDocument m.document).1 = .ok m.arena
  built : m.arena.build = .ok (m.exprs, m.fresh)

theorem sourceOf_eq_ok_iff {input source : String} {r : Except SystemError (List UInt8)} :
    sourceOf input r = .ok source ↔ r = .ok (Text.bytes source) := by
  cases r with
  | error e => simp [sourceOf]
  | ok bytes =>
    have hread : String.fromUTF8? (ByteArray.mk bytes.toArray) = some source ↔
        bytes = Text.bytes source := Text.fromUTF8?_eq_some_iff
    rw [Except.ok.injEq, ← hread]
    simp only [sourceOf]
    cases String.fromUTF8? (ByteArray.mk bytes.toArray) <;> simp

/-- A file stands for one model at most. -/
theorem Disk.Loads.unique {d : Disk} {input : String} {m m' : Loaded} (h : d.Loads input m)
    (h' : d.Loads input m') : m = m' := by
  have hsource : m.source = m'.source := by
    have hread : sourceOf input (d.read input) = .ok m.source := sourceOf_eq_ok_iff.mpr h.read
    rw [sourceOf_eq_ok_iff.mpr h'.read] at hread
    exact (Except.ok.inj hread).symm
  obtain ⟨source, document, arena, exprs, fresh⟩ := m
  obtain ⟨source', document', arena', exprs', fresh'⟩ := m'
  obtain rfl : source = source' := hsource
  obtain rfl : document = document' := Except.ok.inj (h.parsed.symm.trans h'.parsed)
  obtain rfl : arena = arena' := Except.ok.inj (h.declared.symm.trans h'.declared)
  obtain ⟨rfl, rfl⟩ := Prod.ext_iff.mp (Except.ok.inj (h.built.symm.trans h'.built))
  rfl

/-- Loading a model reads its text, declares what it declares and builds its expressions. -/
theorem on_loadModel (f : Filter) (input : String) (d : Disk) :
    (loadModel Disk.host f input).on d =
      match sourceOf input (d.read input) with
      | .error failure => (.error failure, d)
      | .ok source =>
        let loaded := Arena.ofParsed (Document.parse source)
        let e := d.logged f (⟨.debug, .command, "Loading model"⟩ :: loaded.2)
        match loaded.1 with
        | .error v => (.error (failureOf v), e.told (drawing input source v))
        | .ok a => (a.build.mapError fun v => [v.message], e) := by
  have hread : (liftM (Disk.host.read input) : Attempt (StateM Disk) _).on d =
      (.ok (d.read input), d) := rfl
  have hlift : ∀ {α : Type} (x : Except Failure α) (e : Disk),
      (loadModel.liftExcept x : Attempt (StateM Disk) α).on e = (x, e) := fun _ _ => rfl
  have hnote : (note Disk.host f .debug "Loading model").on d =
      (.ok ⟨⟩, d.logged f [⟨.debug, .command, "Loading model"⟩]) := rfl
  unfold loadModel
  rw [on_bind, hread]
  simp only [on_bind, hlift]
  cases sourceOf input (d.read input) with
  | error failure => rfl
  | ok source =>
    simp only [hnote, on_report, Disk.logged_logged, List.singleton_append]
    cases (Arena.ofParsed (Document.parse source)).1 with
    | error v => rfl
    | ok a => exact hlift _ _

/-- Who loads a model gets its expressions. -/
theorem logs_loadModel {d : Disk} {input : String} {m : Loaded} (h : d.Loads input m)
    (f : Filter) : Logs f (loadModel Disk.host f input) d (m.exprs, m.fresh) := by
  have hsource : sourceOf input (d.read input) = .ok m.source := sourceOf_eq_ok_iff.mpr h.read
  have hloaded : Arena.ofParsed (Document.parse m.source) = Arena.ofDocument m.document := by
    rw [h.parsed]
    rfl
  rw [Logs, on_loadModel, hsource]
  simp only [hloaded, h.declared, h.built]
  exact ⟨_, rfl⟩

/-- Everyone who tries to load what is no model is told the same. -/
theorem on_loadModel_of_not_loads {d : Disk} {input : String} (h : ¬∃ m, d.Loads input m) :
    ∃ diagnostic failure, ∀ (f : Filter) (e : Disk), e.nodes = d.nodes → ∃ records,
      (loadModel Disk.host f input).on e =
        (.error failure, (e.logged f records).told diagnostic) := by
  cases hsource : sourceOf input (d.read input) with
  | error failure =>
    refine ⟨"", failure, fun f e he => ⟨[], ?_⟩⟩
    rw [on_loadModel, Disk.read_congr he, hsource]
    simp
  | ok source =>
    have hread := sourceOf_eq_ok_iff.mp hsource
    cases hloaded : (Arena.ofParsed (Document.parse source)).1 with
    | error v =>
      refine ⟨drawing input source v, failureOf v, fun f e he => ?_⟩
      rw [on_loadModel, Disk.read_congr he, hsource]
      simp only [hloaded]
      exact ⟨_, rfl⟩
    | ok a =>
      cases hbuilt : a.build with
      | error v =>
        refine ⟨"", [v.message], fun f e he => ?_⟩
        rw [on_loadModel, Disk.read_congr he, hsource]
        simp only [hloaded, hbuilt, Disk.told_empty]
        exact ⟨_, rfl⟩
      | ok built =>
        -- nothing fails, and then this is a model
        exfalso
        apply h
        cases hparsed : Document.parse source with
        | error malformed =>
          rw [hparsed] at hloaded
          cases hloaded
        | ok document =>
          rw [hparsed] at hloaded
          exact ⟨⟨source, document, a, built.1, built.2⟩, hread, hparsed, hloaded, hbuilt⟩

/-! ### Generating -/

/-- The unit of expressions that are all written. -/
def unitOf (es : List Expr) : Generated :=
  ⟨DependencyList.empty.insertAll (es.flatMap Expr.requirements), es.map GenerationUnit.whole, []⟩

/-- Generating expressions never fails. -/
theorem logs_generate (f : Filter) (es : List Expr) (fresh : Nat) (d : Disk) :
    Logs f (generate Disk.host f (es, fresh)) d (unitOf es) := by
  have hunit := GenerationUnit.addAll_registry es fresh
  unfold generate
  rw [Logs, on_bind, on_report]
  refine ⟨_, congrArg (Prod.mk · _) (congrArg Except.ok hunit)⟩

/-- The texts of expressions, each with a line break behind it. -/
def texts (es : List Expr) : String := String.join (es.map fun e => e.text ++ "\n")

theorem join_pieces_unitOf (es : List Expr) : String.join (unitOf es).pieces = texts es := by
  rw [GenerationUnit.join_pieces, GenerationUnit.content, texts]
  have hall : (unitOf es).rendered.filter Rendered.ok = es.map GenerationUnit.whole := by
    refine List.filter_eq_self.mpr fun r hr => ?_
    obtain ⟨e, -, rfl⟩ := List.mem_map.mp hr
    rfl
  rw [hall, List.map_map]
  rfl

end ExprEmit.Command
