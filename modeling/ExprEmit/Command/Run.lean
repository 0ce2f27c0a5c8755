import ExprEmit.Command.Arguments
import ExprEmit.Command.Filter
import ExprEmit.Command.Host
import ExprEmit.Diagnostic.Drawing
import ExprEmit.Document.Arena
import ExprEmit.Document.Reader

/-!
# The program

Each action reads a model file, declares what it declares and builds its expressions; `emit` and
`deps` then generate them.  A failure is told on the standard error stream, with what led to it, and
the exit code is 1.
-/

namespace ExprEmit.Command

/-- What failed, and why, from the outermost message to the innermost. -/
abbrev Failure : Type := List String

/-- A part of a run on a host with effects in `m`, which may fail. -/
abbrev Attempt (m : Type → Type) (α : Type) : Type := ExceptT Failure m α

/-! ### Models -/

/-- The text of a model file. -/
def sourceOf (path : String) : Except SystemError (List UInt8) → Except Failure String
  | .error e => .error ["Failed to read model file: " ++ Text.quoted path, e.message]
  | .ok bytes =>
    match String.fromUTF8? (ByteArray.mk bytes.toArray) with
    | some s => .ok s
    | none =>
      .error ["Failed to read model file: " ++ Text.quoted path,
        "stream did not contain valid UTF-8"]

/-- What is shown of a load error beside the failure. -/
def drawing (path source : String) (e : LoadError) : String :=
  match e with
  | .malformed _ => ((Error.load e).diagnostic 0).draw path source
  | _ => ""

/-- The failure of a load error. -/
def failureOf : LoadError → Failure
  | .malformed _ => ["Model parsing failed"]
  | e => [e.message]

/-- The failure of expressions in a unit. -/
def failedExpressions (u : Generated) : Failure :=
  [toString u.errors.length ++ " expression(s) failed"]

section

variable {m : Type → Type} [Monad m] (h : Host m) (f : Filter)

/-- Shows the records that the filter lets through. -/
def report (records : List Log.Record) : Attempt m PUnit :=
  h.err (String.join ((records.filter f.shows).map recordLine))

/-- Shows one record of the program's own. -/
def note (level : Log.Level) (message : String) : Attempt m PUnit :=
  report h f [⟨level, .command, message⟩]

/-- Reads, declares and builds a model: its expressions and the number of the next type object. -/
def loadModel (path : String) : Attempt m (List Expr × Nat) := do
  let source ← liftExcept (sourceOf path (← h.read path))
  note h f .debug "Loading model"
  let (arena, records) := Arena.ofParsed (Document.parse source)
  report h f records
  match arena with
  | .error e =>
    h.err (drawing path source e)
    throw (failureOf e)
  | .ok a => liftExcept (a.build.mapError fun e => [e.message])
where
  /-- A failure, if there is one, as a failure of the program. -/
  liftExcept {α : Type} (x : Except Failure α) : Attempt m α := ExceptT.mk (pure x)

/-- Generates expressions. -/
def generate (model : List Expr × Nat) : Attempt m Generated := do
  let a := (GenerationUnit.ofRegistry DependencyList.empty).addAll DependencyList.registry
    (model.1.map .ofExpr) model.2
  report h f a.log
  return a.unit

/-! ### Actions -/

/-- The entries of a unit's dependencies, each on a line behind `indent`. -/
def dependencyLines (indent : String) (u : Generated) : String :=
  String.join (u.registry.entries.map fun d => indent ++ d.text ++ "\n")

/-- Writes a unit to a file. -/
def writeFile (path : String) (u : Generated) : Attempt m PUnit := do
  note h f .debug ("Writing expressions to " ++ Text.quoted path)
  match ← h.create path with
  | .error e =>
    throw ["Failed to create output file: " ++ Text.quoted path, e.message]
  | .ok _ =>
    let d ← h.deliver path u
    report h f d.log
    match d.result with
    | .error e => throw (("Failed to write " ++ Text.quoted path) :: e.causes)
    | .ok _ => h.out ("success: Wrote " ++ Text.quoted path ++ "\n")

/-- Writes the expressions of a model. -/
def emit (input : String) (output : Option String) (deps : Bool) : Attempt m PUnit := do
  note h f .info ("Emitting " ++ Text.quoted input)
  let u ← generate h f (← loadModel h f input)
  match output with
  | some path => writeFile h f path u
  | none => h.out (String.join u.pieces)
  if deps then h.out ("=== Dependencies ===\n" ++ dependencyLines "  " u)
  h.err (String.join (u.errors.map fun e => "error: " ++ e.message ++ "\n"))
  if u.hasErrors then throw (failedExpressions u)

/-- Writes what the expressions of a model depend on. -/
def printDependencies (input : String) : Attempt m PUnit := do
  note h f .info ("Collecting dependencies of " ++ Text.quoted input)
  let u ← generate h f (← loadModel h f input)
  if u.hasErrors then throw (failedExpressions u)
  h.out (dependencyLines "" u)

/-- Sees whether a model is sound. -/
def check (input : String) : Attempt m PUnit := do
  note h f .info ("Checking " ++ Text.quoted input)
  let model ← loadModel h f input
  h.out ("success: " ++ toString model.1.length ++ " expression(s), no errors found\n")

/-- Takes an action. -/
def act : Action → Attempt m PUnit
  | .emit input output deps => emit h f input output deps
  | .deps input => printDependencies h f input
  | .check input => check h f input

/-- Takes an action and tells of its failure; the answer is the exit code. -/
def runAction (a : Action) : m UInt32 := do
  match ← (act h f a).run with
  | .ok _ => return 0
  | .error failure =>
    h.err ("error: " ++ ": ".intercalate failure ++ "\n")
    return 1

/-- Runs the program on the words of its command line and the filter that the environment asks for;
the answer is the exit code. -/
def run (words : List String) (asked : Option String) : m UInt32 := do
  match Invocation.ofWords words with
  | none =>
    h.err "Usage: cppgen [OPTIONS] <COMMAND>\n"
    return 2
  | some i =>
    let (f, complaints) := Filter.choose asked i.verbose
    h.err (String.join complaints)
    runAction h f i.action

end

end ExprEmit.Command
