import ExprEmit.Dependency.Basic

/-!
# Dependency lists

The usual registry.  It keeps one dependency for each target, in the order in which the targets were
first asked for.  A later and stronger need raises the entry where it stands; nothing is ever lowered
or refused.
-/

namespace ExprEmit

/-- Dependencies with distinct targets, in order of first request. -/
structure DependencyList where
  entries : List Dependency
deriving Inhabited

namespace DependencyList

/-- The list without entries. -/
def empty : DependencyList := ⟨[]⟩

/-- The number of entries. -/
def size (l : DependencyList) : Nat := l.entries.length

/-- Whether there are no entries. -/
def isEmpty (l : DependencyList) : Bool := l.entries.isEmpty

/-! ### Adding -/

/-- `entries` with the entry for the target of `d` raised to `d`, or with `d` at the end. -/
def insertInto (d : Dependency) : List Dependency → List Dependency
  | [] => [d]
  | e :: rest => if e.target = d.target then e.raisedTo d :: rest else e :: insertInto d rest

/-- The entry for a target. -/
def find? (l : DependencyList) (t : Target) : Option Dependency :=
  l.entries.find? fun e => e.target == t

/-- Adds a dependency. -/
def insert (l : DependencyList) (d : Dependency) : DependencyList := ⟨insertInto d l.entries⟩

/-- What is logged when `d` is added: a new entry, a raised one, or nothing. -/
def insertLog (l : DependencyList) (d : Dependency) : List Log.Record :=
  match l.find? d.target, d with
  | none, _ => [⟨.trace, .dependency, "add dependency: " ++ d.text⟩]
  | some (.type _ held), .type _ asked =>
    if held.isWeaker asked then
      [⟨.trace, .dependency, "upgrade dependency to " ++ asked.label ++ ": " ++ d.text⟩]
    else []
  | _, _ => []

/-- The list as a registry that refuses nothing. -/
def registry : Registry DependencyList where
  offer d := fun l => ⟨true, l.insert d, l.insertLog d⟩

/-! ### Queries -/

/-- Whether the element is an entry. -/
def containsElement (l : DependencyList) (e : Element) : Bool :=
  l.entries.any fun d => d.target == .element e.id

/-- How much of a declared type is needed, if it is an entry. -/
def strength? (l : DependencyList) (d : TypeDecl) : Option Strength :=
  l.entries.findSome? fun e => if e.target = .type d.id then e.strength? else none

end DependencyList

end ExprEmit
