import ExprEmit.Acceptor
import ExprEmit.Sink.Device

/-!
# Sinks over devices

A sink that writes each piece to a device.  When the device fails, the sink holds the error and
refuses every piece until the error is taken out.
-/

namespace ExprEmit

/-- A sink over a device, with the error it holds. -/
structure Writer (ω : Type) where
  device : ω
  error : Option DeviceError

namespace Writer

variable {ω : Type}

/-- The sink over a device in state `s`, before any error. -/
def ofDevice (s : ω) : Writer ω := ⟨s, none⟩

/-- Whether the sink holds an error. -/
def hasFailed (w : Writer ω) : Bool := w.error.isSome

/-- Takes the error out. -/
def takeError (w : Writer ω) : Option DeviceError × Writer ω := (w.error, { w with error := none })

/-- The sink over the device `d`. -/
def sink (d : Device ω) : Sink (Writer ω) where
  offer piece := fun w =>
    if w.hasFailed then ⟨false, w, []⟩
    else
      match d.writeAll piece.toUTF8.toList w.device with
      | (.ok (), s) => ⟨true, ⟨s, none⟩, []⟩
      | (.error e, s) =>
        ⟨false, ⟨s, some e⟩, [⟨.debug, .sink, "sink write failed: " ++ e.message⟩]⟩

end Writer

end ExprEmit
