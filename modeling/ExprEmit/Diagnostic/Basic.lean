import ExprEmit.Error

/-!
# Diagnostics

An error together with the place in a file that it is about.
-/

namespace ExprEmit

/-- A marked stretch of a file. -/
structure Label where
  /-- The number of the file. -/
  file : Nat
  /-- The first byte. -/
  start : Nat
  /-- The byte after the last. -/
  stop : Nat
  message : String
deriving DecidableEq, Inhabited

/-- An error message with the places it is about. -/
structure Diagnostic where
  message : String
  labels : List Label
deriving DecidableEq, Inhabited

/-- The diagnostic of an error in the file numbered `file`. -/
def Error.diagnostic (e : Error) (file : Nat) : Diagnostic where
  message := e.message
  labels := e.span?.toList.map fun s => ⟨file, s.1, s.2, "ここで解析に失敗しました"⟩

end ExprEmit
