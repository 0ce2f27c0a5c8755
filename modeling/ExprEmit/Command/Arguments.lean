/-!
# Arguments

What the program is asked to do, read from the words of its command line.  The first word that is no
option names the action.  Only the flag for detail may stand before it, and it may be set once on each
side; the options of the action follow it in any order.  An option's value is the next word, or follows
in the same word.
-/

namespace ExprEmit.Command

/-- What to do with a model file. -/
inductive Action where
  /-- Write its expressions, to the standard output or to a file, and perhaps what they depend on. -/
  | emit (input : String) (output : Option String) (deps : Bool)
  /-- Write what its expressions depend on. -/
  | deps (input : String)
  /-- See whether it is sound. -/
  | check (input : String)
deriving DecidableEq, Inhabited

/-- An action, and whether to report in detail. -/
structure Invocation where
  action : Action
  verbose : Bool
deriving DecidableEq, Inhabited

/-- The words after the action's name, sorted out. -/
structure Arguments where
  /-- The words that are no options, in order. -/
  plain : List String
  output : Option String
  deps : Bool
  verbose : Bool
deriving DecidableEq, Inhabited

namespace Arguments

/-- No words. -/
def empty : Arguments := ⟨[], none, false, false⟩

/-- Adds a word that is no option. -/
def addPlain (a : Arguments) (w : String) : Arguments := { a with plain := a.plain ++ [w] }

/-- Sets the output, once. -/
def setOutput (a : Arguments) (path : String) : Option Arguments :=
  if a.output.isSome then none else some { a with output := some path }

/-- Sets the flag for dependencies, once. -/
def setDeps (a : Arguments) : Option Arguments :=
  if a.deps then none else some { a with deps := true }

/-- Sets the flag for detail, once. -/
def setVerbose (a : Arguments) : Option Arguments :=
  if a.verbose then none else some { a with verbose := true }

/-- Takes a word of one-letter options, given by its letters.  The answer tells whether the word after
it is the output. -/
def takeLetters (a : Arguments) : List Char → Option (Arguments × Bool)
  | [] => some (a, false)
  | ['o'] => some (a, true)
  | 'o' :: '=' :: path => (a.setOutput (String.ofList path)).map (·, false)
  | 'o' :: path => (a.setOutput (String.ofList path)).map (·, false)
  | 'v' :: rest =>
    match a.setVerbose with
    | some b => b.takeLetters rest
    | none => none
  | _ => none

/-- Takes a word that starts with two hyphens, given by the characters after them. -/
def takeLong (a : Arguments) (name : List Char) : Option (Arguments × Bool) :=
  match String.ofList name with
  | "deps" => a.setDeps.map (·, false)
  | "verbose" => a.setVerbose.map (·, false)
  | "output" => some (a, true)
  | _ =>
    let (key, rest) := name.span (· != '=')
    match rest with
    | '=' :: path =>
      if String.ofList key = "output" then (a.setOutput (String.ofList path)).map (·, false)
      else none
    | _ => none

/-- Sorts out words.  After `--` none is an option; while an output is awaited, the next word is it
unless it is an option. -/
def sort (a : Arguments) (awaited : Bool) : List String → Option Arguments
  | [] => if awaited then none else some a
  | w :: ws =>
    match w.toList with
    | '-' :: '-' :: name =>
      if awaited then none
      else if name.isEmpty then some (ws.foldl addPlain a)
      else
        match a.takeLong name with
        | some (b, awaits) => b.sort awaits ws
        | none => none
    | '-' :: c :: letters =>
      if awaited then none
      else
        match a.takeLetters (c :: letters) with
        | some (b, awaits) => b.sort awaits ws
        | none => none
    | _ =>
      if awaited then
        match a.setOutput w with
        | some b => b.sort false ws
        | none => none
      else (a.addPlain w).sort false ws

/-- Whether no path is empty. -/
def hasPaths (a : Arguments) : Bool := a.plain.all (!·.isEmpty) && a.output.all (!·.isEmpty)

/-- The action of a name that sorted words ask for. -/
def action? (a : Arguments) (name : String) : Option Action :=
  match name, a.plain with
  | "emit", [input] => some (.emit input a.output a.deps)
  | "deps", [input] => if a.output.isSome || a.deps then none else some (.deps input)
  | "check", [input] => if a.output.isSome || a.deps then none else some (.check input)
  | _, _ => none

end Arguments

/-- Whether a word is the flag for detail. -/
def asksForDetail (word : String) : Bool := word == "-v" || word == "--verbose"

/-- What the words of a command line ask for, if they make sense. -/
def Invocation.ofWords (words : List String) : Option Invocation := do
  let flags := words.takeWhile asksForDetail
  guard (flags.length ≤ 1)
  let name :: rest := words.dropWhile asksForDetail | none
  let a ← Arguments.empty.sort false rest
  guard a.hasPaths
  return ⟨← a.action? name, !flags.isEmpty || a.verbose⟩

end ExprEmit.Command
