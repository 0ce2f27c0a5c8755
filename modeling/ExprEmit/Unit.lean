import ExprEmit.Error
import ExprEmit.Expr.Cached
import ExprEmit.Expr.Text
import ExprEmit.Sink.Writer

/-!
# Generation units

A unit collects the texts of expressions and, in one registry, everything they depend on.  Each
expression first registers its dependencies and is then written; one whose dependencies are refused
is not written, and the others go on without it.

`GenerationUnit.writeInto` delivers the expressions that succeeded to a device, one to a line.
-/

namespace ExprEmit

/-- The outcome of one expression. -/
structure Rendered where
  /-- The text, as far as it was written. -/
  text : String
  ok : Bool
deriving DecidableEq, Inhabited

/-- A unit of output over a registry in state `σ`. -/
structure GenerationUnit (σ : Type) where
  registry : σ
  /-- One outcome for each expression, in order. -/
  rendered : List Rendered
  errors : List Error

/-- The outcome of adding expressions to a unit: whether all succeeded, and what has changed. -/
structure Added (σ α : Type) where
  ok : Bool
  unit : GenerationUnit σ
  /-- The expressions, with the types found on the way. -/
  exprs : α
  /-- The number of the next new type object. -/
  fresh : Nat
  log : List Log.Record

namespace GenerationUnit

variable {σ : Type}

/-- The unit without expressions, over the registry state `s`. -/
def ofRegistry (s : σ) : GenerationUnit σ := ⟨s, [], []⟩

/-- Whether any expression failed. -/
def hasErrors (u : GenerationUnit σ) : Bool := !u.errors.isEmpty

/-! ### Adding expressions -/

/-- The record that announces a stage of the `index`-th expression. -/
def stageRecord (index : Nat) (stage : String) : Log.Record :=
  ⟨.debug, .unit, "expression #" ++ toString index ++ ": " ++ stage⟩

/-- Records the outcome of an expression, with the error if it failed. -/
def conclude (u : GenerationUnit σ) (r : Rendered) (error : Option EmitError) :
    GenerationUnit σ where
  registry := u.registry
  rendered := u.rendered ++ [r]
  errors := u.errors ++ (error.map Error.emit).toList

/-- Registers what an expression needs, and writes it if nothing was refused. -/
def add (k : Registry σ) (u : GenerationUnit σ) (e : CachedExpr) (fresh : Nat) :
    Added σ CachedExpr :=
  let index := u.rendered.length
  let swept := e.require k u.registry fresh
  let e' := { e with cache := swept.state.cache }
  let u' := { u with registry := swept.state.registry }
  let log := stageRecord index "collecting dependencies" :: swept.log
  if swept.accepted then
    let written := e.expr.emit Sink.text ""
    let error := if written.accepted then none else some (.emitFailed index written.state)
    ⟨written.accepted, u'.conclude ⟨written.state, written.accepted⟩ error, e',
      swept.state.fresh, log ++ stageRecord index "emitting" :: written.log⟩
  else
    ⟨false, u'.conclude ⟨"", false⟩ (some (.dependencyFailed index)), e', swept.state.fresh, log⟩

/-- Adds every expression, whatever becomes of the others. -/
def addAll (k : Registry σ) (u : GenerationUnit σ) :
    List CachedExpr → (fresh : Nat) → Added σ (List CachedExpr)
  | [], fresh => ⟨true, u, [], fresh, []⟩
  | e :: es, fresh =>
    let a := u.add k e fresh
    let b := a.unit.addAll k es a.fresh
    ⟨a.ok && b.ok, b.unit, a.exprs :: b.exprs, b.fresh, a.log ++ b.log⟩

/-! ### Writing a unit -/

/-- The texts that write a unit: each expression that succeeded, and a line break after it. -/
def pieces (u : GenerationUnit σ) : List String :=
  (u.rendered.filter Rendered.ok).flatMap fun r => [r.text, "\n"]

/-- Writes a unit into a sink. -/
def emit {τ : Type} (k : Sink τ) (u : GenerationUnit σ) : Step τ :=
  Step.all ((u.rendered.filter Rendered.ok).map fun r =>
    (k.offer r.text).andThen (k.offer "\n"))

/-- The outcome of writing a unit to a device. -/
structure Delivery (ω : Type) where
  result : Except Error Unit
  device : ω
  log : List Log.Record

/-- Writes a unit to a device and flushes it. -/
def writeInto {ω : Type} (d : Device ω) (u : GenerationUnit σ) (s : ω) : Delivery ω :=
  let written := u.emit (Writer.sink d) (.ofDevice s)
  if written.accepted then
    match d.flush written.state.device with
    | (.ok (), t) => ⟨.ok (), t, written.log⟩
    | (.error e, t) => ⟨.error (.file e.message), t, written.log⟩
  else
    let reason := match written.state.takeError.1 with
      | some e => e.message
      | none => "unknown error"
    ⟨.error (.emit (.sink reason)), written.state.device, written.log⟩

end GenerationUnit

end ExprEmit
