import ExprEmit.Command.Run

/-!
# The command line

Runs the program on the system's own files and streams.
-/

namespace ExprEmit.Main

open Command

/-- The refusal that an error of the system stands for. -/
def systemError : IO.Error → SystemError
  | .noFileOrDirectory _ _ _ => .notFound
  | .inappropriateType _ 21 _ => .isDirectory
  | .inappropriateType _ 20 _ => .notDirectory
  | .resourceExhausted _ 28 _ => .noSpace
  | .invalidArgument _ 36 _ => .nameTooLong
  | .permissionDenied _ code reason => .other reason code.toNat
  | .invalidArgument _ code reason => .other reason code.toNat
  | .inappropriateType _ code reason => .other reason code.toNat
  | .resourceExhausted _ code reason => .other reason code.toNat
  | .otherError code reason => .other reason code.toNat
  | e => .other (toString e) 0

/-- Runs an effect and catches its error. -/
def caught {α : Type} (x : IO α) : IO (Except SystemError α) :=
  try return .ok (← x)
  catch e => return .error (systemError e)

/-- Writes a unit to a file.  What fits the buffer reaches the file only in the end. -/
def deliver (path : String) (u : Generated) : IO Delivered := do
  let bytes := (String.join u.pieces).toUTF8
  match ← caught (do
    let file ← IO.FS.Handle.mk path .append
    file.write bytes
    file.flush) with
  | .ok _ => return ⟨.ok ⟨⟩, []⟩
  | .error e =>
    return ⟨.error (if bytes.size ≤ bufferSize then .file e.message else .emit (.sink e.message)),
      []⟩

/-- The system as a host. -/
def host : Host IO where
  read path := caught do return (← IO.FS.readBinFile path).toList
  create path := caught (IO.FS.writeBinFile path ByteArray.empty)
  deliver path u := deliver path u
  out s := do
    let stream ← IO.getStdout
    stream.putStr s
    stream.flush
  err s := do (← IO.getStderr).putStr s

end ExprEmit.Main

/-- Runs the program. -/
def main (words : List String) : IO UInt32 := do
  ExprEmit.Command.run ExprEmit.Main.host words (← IO.getEnv "RUST_LOG")
