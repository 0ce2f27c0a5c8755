import ExprEmit.Dependency.List
import ExprEmit.Unit

/-!
# Hosts

What the program needs of the system it runs on: files to read, create and fill, and two streams to
print to.  The program is written once for every host (`Command.run`).
-/

namespace ExprEmit.Command

/-- Why the system refuses a file. -/
inductive SystemError where
  | notFound
  | notDirectory
  | isDirectory
  | noSpace
  | nameTooLong
  /-- Any other reason, with its number. -/
  | other (reason : String) (code : Nat)
deriving DecidableEq, Inhabited

/-- The wording of a refusal. -/
def SystemError.message : SystemError → String
  | notFound => "No such file or directory (os error 2)"
  | notDirectory => "Not a directory (os error 20)"
  | isDirectory => "Is a directory (os error 21)"
  | noSpace => "No space left on device (os error 28)"
  | nameTooLong => "File name too long (os error 36)"
  | other reason code => reason ++ " (os error " ++ toString code ++ ")"

/-- The units that the program generates. -/
abbrev Generated : Type := GenerationUnit DependencyList

/-- The size of the buffer before a file. -/
def bufferSize : Nat := 8192

/-- The outcome of delivering a unit to a file, and what was logged on the way. -/
structure Delivered where
  result : Except Error PUnit
  log : List Log.Record

/-- A system with effects in `m`. -/
structure Host (m : Type → Type) where
  /-- The bytes of a file. -/
  read : (path : String) → m (Except SystemError (List UInt8))
  /-- Makes a file empty, or a new empty file. -/
  create : (path : String) → m (Except SystemError PUnit)
  /-- Writes a unit to a file that has been created, through a buffer. -/
  deliver : (path : String) → Generated → m Delivered
  /-- Prints to the standard output. -/
  out : String → m PUnit
  /-- Prints to the standard error stream. -/
  err : String → m PUnit

end ExprEmit.Command
