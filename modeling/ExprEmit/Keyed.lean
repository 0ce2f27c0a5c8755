/-!
# Enumerations with written keys

The operators, kinds and built-in types of a document are written by a fixed key each.
`Keyed.ofKey?` finds the value of a key, and `Keyed.unknownKey` words the complaint about a key that
has none.
-/

namespace ExprEmit

/-- A finite type whose values are written as keys. -/
class Keyed (α : Type) where
  /-- Every value, in the order in which they are listed to a reader. -/
  all : List α
  /-- The key of a value. -/
  key : α → String

namespace Keyed

/-- The value with the key `k`. -/
def ofKey? {α : Type} [Keyed α] (k : String) : Option α :=
  (all : List α).find? fun a => key a == k

/-- Each of `keys` between grave accents, separated by commas. -/
def listing (keys : List String) : String :=
  ", ".intercalate (keys.map fun k => "`" ++ k ++ "`")

/-- The complaint about a key that is none of `known`. -/
def unknownAmong (known : List String) (k : String) : String :=
  "unknown variant `" ++ k ++ "`, expected one of " ++ listing known

/-- The complaint about a key that no value of `α` has. -/
def unknownKey (α : Type) [Keyed α] (k : String) : String :=
  unknownAmong ((all : List α).map key) k

end Keyed

end ExprEmit
