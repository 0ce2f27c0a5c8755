import ExprEmit.Dependency.Guarded
import ExprEmit.Proofs.Dependency.OfExpr
import ExprEmit.Proofs.Sink
import ExprEmit.Unit
import Mathlib.Data.List.Basic

/-!
# The books of a unit

A unit adds expressions one by one or in batches, over any registry.  `GenerationUnit.Processed`
says what becomes of each: the registry is offered its dependencies from the state that the
expression before it has left, and it is written if none of them is refused.

One addition extends the books by the outcomes of its expressions and by an error for each that
failed, numbered by its place (`GenerationUnit.Extends`), and so does a whole run of them
(`GenerationUnit.run_books`).
-/

namespace ExprEmit

/-- In memory an expression is written completely. -/
theorem Expr.accepted_emit_text (e : Expr) : (e.emit Sink.text "").accepted = true := by
  rw [e.emit_eq_offerAll]
  exact (Sink.offerAll_text e.pieces "").1

namespace GenerationUnit

variable {σ : Type} {k : Registry σ}

/-! ### Outcomes -/

/-- Whether the outcomes and the last state are those of expressions that are processed in order
from the registry state `s` on. -/
inductive Processed (k : Registry σ) : (s : σ) → List Expr → List Rendered → σ → Prop where
  | none {s : σ} : Processed k s [] [] s
  /-- Every dependency of `e` is accepted, and `e` is written as it is on its own. -/
  | written {s t : σ} {e : Expr} {es : List Expr} {rs : List Rendered}
      {n : Acceptor.Noted Dependency σ} (hserves : k.Serves s e.requirements true n)
      (htext : (e.emit Sink.text "").accepted = true) (hrest : Processed k n.state es rs t) :
      Processed k s (e :: es) (⟨(e.emit Sink.text "").state, true⟩ :: rs) t
  /-- A dependency of `e` is refused; the registry keeps those that it has accepted before. -/
  | refused {s t : σ} {e : Expr} {es : List Expr} {rs : List Rendered}
      {n : Acceptor.Noted Dependency σ} (hserves : k.Serves s e.requirements false n)
      (hrest : Processed k n.state es rs t) :
      Processed k s (e :: es) (⟨"", false⟩ :: rs) t

theorem Processed.append {s t v : σ} {es fs : List Expr} {rs qs : List Rendered}
    (h : Processed k s es rs t) (h' : Processed k t fs qs v) :
    Processed k s (es ++ fs) (rs ++ qs) v := by
  induction h with
  | none => exact h'
  | written hserves htext _ ih => exact .written hserves htext (ih h')
  | refused hserves _ ih => exact .refused hserves (ih h')

/-- The errors that belong to outcomes, the first of which is numbered `start`. -/
def failures (start : Nat) (rs : List Rendered) : List Error :=
  (rs.findIdxs (fun r => !r.ok) start).map fun i => .emit (.dependencyFailed i)

theorem failures_append (start : Nat) (rs qs : List Rendered) :
    failures start (rs ++ qs) = failures start rs ++ failures (start + rs.length) qs := by
  rw [failures, List.findIdxs_append, List.map_append]
  rfl

/-! ### Additions -/

/-- Whether `v` is the unit `u` after the expressions `es` have been added, with the outcomes
`rs`. -/
structure Extends (k : Registry σ) (u : GenerationUnit σ) (es : List Expr) (rs : List Rendered)
    (v : GenerationUnit σ) : Prop where
  processed : Processed k u.registry es rs v.registry
  rendered : v.rendered = u.rendered ++ rs
  errors : v.errors = u.errors ++ failures u.rendered.length rs

theorem Extends.refl (u : GenerationUnit σ) : Extends k u [] [] u where
  processed := .none
  rendered := (List.append_nil _).symm
  errors := (List.append_nil _).symm

theorem Extends.trans {u v w : GenerationUnit σ} {es fs : List Expr} {rs qs : List Rendered}
    (h : Extends k u es rs v) (h' : Extends k v fs qs w) :
    Extends k u (es ++ fs) (rs ++ qs) w where
  processed := h.processed.append h'.processed
  rendered := by rw [h'.rendered, h.rendered, List.append_assoc]
  errors := by
    rw [h'.errors, h.errors, h.rendered, List.length_append, failures_append, List.append_assoc]

/-- Adding an expression. -/
theorem add_extends (k : Registry σ) (u : GenerationUnit σ) {e : CachedExpr}
    (he : e.expr.Fits e.cache) (fresh : Nat) :
    ∃ r, Extends k u [e.expr] [r] (u.add k e fresh).unit ∧ (u.add k e fresh).ok = r.ok := by
  obtain ⟨haccepted, hstate, -⟩ := e.expr.performs_require k ⟨u.registry, e.cache, fresh⟩ he
  obtain ⟨n, hserves, hn⟩ := k.exists_serves e.expr.requirements u.registry
  have htext := e.expr.accepted_emit_text
  rw [← haccepted] at hserves
  have hregistry := hstate.trans hn
  rw [add, CachedExpr.require]
  -- all dependencies are accepted, or the expression is not written
  cases hswept : (e.expr.require k ⟨u.registry, e.cache, fresh⟩).accepted with
  | true =>
    rw [hswept] at hserves
    simp only [if_true, htext]
    refine ⟨_, ⟨.written hserves htext ?_, rfl, ?_⟩, rfl⟩
    · rw [conclude, hregistry]
      exact .none
    · rfl
  | false =>
    rw [hswept] at hserves
    refine ⟨_, ⟨.refused hserves ?_, rfl, rfl⟩, rfl⟩
    simp only [conclude, hregistry]
    exact .none

/-- Adding expressions goes through all of them, and succeeds if each of them does. -/
theorem addAll_extends (k : Registry σ) (u : GenerationUnit σ) {es : List CachedExpr}
    (hes : ∀ e ∈ es, e.expr.Fits e.cache) (fresh : Nat) :
    ∃ rs, Extends k u (es.map CachedExpr.expr) rs (u.addAll k es fresh).unit ∧
      (u.addAll k es fresh).ok = rs.all Rendered.ok := by
  induction es generalizing u fresh with
  | nil => exact ⟨[], .refl u, rfl⟩
  | cons e es ih =>
    obtain ⟨he, hes⟩ := List.forall_mem_cons.mp hes
    obtain ⟨r, hr, hok⟩ := add_extends k u he fresh
    obtain ⟨rs, hrs, hoks⟩ := ih (u.add k e fresh).unit hes (u.add k e fresh).fresh
    refine ⟨r :: rs, hr.trans hrs, ?_⟩
    rw [addAll, List.all_cons, ← hok, ← hoks]

/-! ### Runs -/

/-- A call that adds to a unit, made when `fresh` is the number of the next new type object. -/
inductive Addition where
  | one (e : CachedExpr) (fresh : Nat)
  | all (es : List CachedExpr) (fresh : Nat)

namespace Addition

/-- The expressions to be added. -/
def exprs : Addition → List CachedExpr
  | one e _ => [e]
  | all es _ => es

/-- Whether the types that are known of the expressions are right. -/
def Fits (a : Addition) : Prop := ∀ e ∈ a.exprs, e.expr.Fits e.cache

/-- The answer to the call, and the unit behind it. -/
def perform (k : Registry σ) (u : GenerationUnit σ) : Addition → Bool × GenerationUnit σ
  | one e fresh => ((u.add k e fresh).ok, (u.add k e fresh).unit)
  | all es fresh => ((u.addAll k es fresh).ok, (u.addAll k es fresh).unit)

theorem perform_extends (k : Registry σ) (u : GenerationUnit σ) {a : Addition} (ha : a.Fits) :
    ∃ rs, Extends k u (a.exprs.map CachedExpr.expr) rs (a.perform k u).2 ∧
      (a.perform k u).1 = rs.all Rendered.ok := by
  cases a with
  | one e fresh =>
    obtain ⟨r, hr, hok⟩ := add_extends k u (ha e List.mem_cons_self) fresh
    exact ⟨[r], hr, hok.trans (Bool.and_true _).symm⟩
  | all es fresh => exact addAll_extends k u ha fresh

end Addition

/-- The unit after a sequence of additions. -/
def run (k : Registry σ) (u : GenerationUnit σ) (calls : List Addition) : GenerationUnit σ :=
  calls.foldl (fun v a => (a.perform k v).2) u

theorem run_extends (k : Registry σ) (u : GenerationUnit σ) {calls : List Addition}
    (hcalls : ∀ a ∈ calls, a.Fits) :
    ∃ rs, Extends k u (calls.flatMap fun a => a.exprs.map CachedExpr.expr) rs (u.run k calls) := by
  induction calls generalizing u with
  | nil => exact ⟨[], .refl u⟩
  | cons a calls ih =>
    obtain ⟨ha, hcalls⟩ := List.forall_mem_cons.mp hcalls
    obtain ⟨rs, hrs, -⟩ := a.perform_extends k u ha
    obtain ⟨qs, hqs⟩ := ih (a.perform k u).2 hcalls
    exact ⟨rs ++ qs, hrs.trans hqs⟩

/-- After any sequence of additions to a new unit, over any registry: there is one outcome for each
expression, in order, as `Processed` says; the errors name the places of those that failed, in
increasing order, and nothing else; and the next addition extends the books in the same way, with an
answer that says whether all of its own expressions succeeded. -/
theorem run_books (k : Registry σ) (s : σ) (calls : List Addition)
    (hcalls : ∀ a ∈ calls, a.Fits) :
    let u := (ofRegistry s).run k calls
    Processed k s (calls.flatMap fun a => a.exprs.map CachedExpr.expr) u.rendered u.registry ∧
      u.errors = failures 0 u.rendered ∧
      ∀ a : Addition, a.Fits → ∃ rs,
        Extends k u (a.exprs.map CachedExpr.expr) rs (a.perform k u).2 ∧
          ((a.perform k u).1 = true ↔ ∀ r ∈ rs, r.ok = true) := by
  intro u
  obtain ⟨rs, hprocessed, hrendered, herrors⟩ := run_extends k (ofRegistry s) hcalls
  have hrendered : u.rendered = rs := hrendered
  refine ⟨hrendered ▸ hprocessed, hrendered ▸ herrors, fun a ha => ?_⟩
  obtain ⟨qs, hqs, hok⟩ := a.perform_extends k u ha
  exact ⟨qs, hqs, by rw [hok, List.all_eq_true]⟩

/-- A registry that refuses one element fails the first and the third of four expressions, the last
three of which are added together. -/
theorem run_books_refused :
    let x : Element := ⟨1, ⟨[], "x"⟩, ⟨1, .ofPrimitive .int⟩, .variable⟩
    let y : Element := ⟨2, ⟨[], "y"⟩, ⟨2, .ofPrimitive .int⟩, .variable⟩
    let e : CachedExpr := .ofExpr (.access x)
    let f : CachedExpr := .ofExpr (.access y)
    let k : Registry GuardedList := Guard.registry ⟨["x"], [], none⟩
    let calls : List Addition := [.one e 3, .all [f, e, f] 3]
    let u := (ofRegistry GuardedList.empty).run k calls
    (∀ a ∈ calls, a.Fits) ∧
      Processed k .empty [e.expr, f.expr, e.expr, f.expr] u.rendered u.registry ∧
      u.rendered = [⟨"", false⟩, ⟨"y", true⟩, ⟨"", false⟩, ⟨"y", true⟩] ∧
      u.errors = [.emit (.dependencyFailed 0), .emit (.dependencyFailed 2)] := by
  intro x y e f k calls u
  have he : e.expr.Fits e.cache := e.expr.fits_empty
  have hf : f.expr.Fits f.cache := f.expr.fits_empty
  have hcalls : ∀ a ∈ calls, a.Fits := by
    simp [calls, Addition.Fits, Addition.exprs, he, hf]
  obtain ⟨hprocessed, herrors, -⟩ := run_books k .empty calls hcalls
  have hrendered : u.rendered = [⟨"", false⟩, ⟨"y", true⟩, ⟨"", false⟩, ⟨"y", true⟩] := by
    decide
  refine ⟨hcalls, hprocessed, hrendered, herrors.trans ?_⟩
  rw [hrendered]
  rfl

end GenerationUnit

end ExprEmit
