/-!
# Qualified names

A name is a scope, the namespaces around it from the outermost in, and an identifier.
`Name.parse` cuts a text at every `::`, from the left and without overlap; `Name.qualified` joins
the parts again.  A declaration shows its qualified name, an expression only the identifier.
-/

namespace ExprEmit

/-- An identifier inside a scope of namespaces. -/
structure Name where
  /-- The enclosing namespaces, outermost first. -/
  scope : List String
  /-- The name without its scope. -/
  identifier : String
deriving DecidableEq, Inhabited

namespace Name

/-- The name `identifier` of the global scope. -/
def unscoped (identifier : String) : Name := ⟨[], identifier⟩

/-! ### Reading -/

/-- The segments of a text between its `::`s: all but the last one, and the last one. -/
def segments : List Char → List (List Char) × List Char
  | [] => ([], [])
  | ':' :: ':' :: rest => ([] :: (segments rest).1, (segments rest).2)
  | c :: rest =>
    match segments rest with
    | ([], last) => ([], c :: last)
    | (first :: more, last) => ((c :: first) :: more, last)

/-- The name written `a::b::identifier`. -/
def parse (text : String) : Name :=
  let parts := segments text.toList
  ⟨parts.1.map String.ofList, String.ofList parts.2⟩

/-! ### Writing -/

/-- The name with its scope, joined by `::`. -/
def qualified (n : Name) : String :=
  n.scope.foldr (fun outer inner => outer ++ "::" ++ inner) n.identifier

end Name

end ExprEmit
