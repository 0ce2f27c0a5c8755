/-!
# Devices

A device takes bytes, perhaps fewer than it is given, and can be flushed; either may fail.
`Device.writeAll` insists until a device has taken everything or failed.
-/

namespace ExprEmit

/-- Why a device has failed. -/
inductive DeviceError where
  /-- The device took no byte of a write. -/
  | stalled
  /-- The device refused, for a reason of its own. -/
  | refused (reason : String)
deriving DecidableEq, Inhabited

/-- The text of a device failure. -/
def DeviceError.message : DeviceError → String
  | stalled => "failed to write whole buffer"
  | refused reason => reason

/-- Something that takes bytes, over a state `ω`. -/
structure Device (ω : Type) where
  /-- Offers bytes; the answer is how many of them, from the front, were taken. -/
  write : List UInt8 → ω → Except DeviceError Nat × ω
  /-- Passes on what the device may still hold. -/
  flush : ω → Except DeviceError Unit × ω

namespace Device

variable {ω : Type}

/-- Writes until every byte has been taken or the device fails. -/
def writeAll (d : Device ω) (bytes : List UInt8) (s : ω) : Except DeviceError Unit × ω :=
  if bytes.isEmpty then (.ok (), s)
  else
    match d.write bytes s with
    | (.error e, t) => (.error e, t)
    | (.ok 0, t) => (.error .stalled, t)
    | (.ok (n + 1), t) => d.writeAll (bytes.drop (n + 1)) t
termination_by bytes.length
decreasing_by
  simp_all only [List.isEmpty_iff, List.length_drop]
  have := List.length_pos_iff.mpr ‹¬bytes = []›
  omega

end Device

/-! ### Limited devices -/

/-- The limits of a device that keeps what it takes. -/
structure Limits where
  /-- How many bytes it takes in all. -/
  total : Option Nat
  /-- How many bytes it takes in one write. -/
  chunk : Option Nat
  /-- Whether a full device stalls, where otherwise it refuses. -/
  stalls : Bool
  /-- Whether a flush is refused. -/
  refusesFlush : Bool
deriving Inhabited

/-- What a limited device has been given. -/
structure Received where
  bytes : Array UInt8
  flushes : Nat
deriving Inhabited

/-- The state of a limited device before the first write. -/
def Received.empty : Received := ⟨#[], 0⟩

/-- The device with these limits. -/
def Limits.device (l : Limits) : Device Received where
  write bytes s :=
    let n := match l.chunk with
      | some c => min bytes.length c
      | none => bytes.length
    if l.total.any (· < s.bytes.size + n) then
      (if l.stalls then .ok 0 else .error (.refused "sink full"), s)
    else (.ok n, { s with bytes := s.bytes ++ bytes.take n })
  flush s :=
    if l.refusesFlush then (.error (.refused "flush refused"), s)
    else (.ok (), { s with flushes := s.flushes + 1 })

/-! ### Buffered devices -/

/-- A device behind a buffer. -/
structure Buffered (ω : Type) where
  held : List UInt8
  behind : ω

namespace Buffered

variable {ω : Type}

/-- Passes the buffer on to the device; what the device did not take stays. -/
def pass (d : Device ω) (s : Buffered ω) : Except DeviceError Unit × Buffered ω :=
  match d.writeAll s.held s.behind with
  | (.ok (), t) => (.ok (), ⟨[], t⟩)
  | (.error e, t) => (.error e, ⟨s.held, t⟩)

/-- The device `d` behind a buffer of `capacity` bytes: a write that does not fit empties the buffer
first, and one that never fits goes past it. -/
def device (capacity : Nat) (d : Device ω) : Device (Buffered ω) where
  write bytes s :=
    match if capacity < s.held.length + bytes.length then s.pass d else (.ok (), s) with
    | (.error e, t) => (.error e, t)
    | (.ok (), t) =>
      if capacity ≤ bytes.length then
        match d.write bytes t.behind with
        | (taken, u) => (taken, { t with behind := u })
      else (.ok bytes.length, { t with held := t.held ++ bytes })
  flush s :=
    match s.pass d with
    | (.error e, t) => (.error e, t)
    | (.ok (), t) =>
      match d.flush t.behind with
      | (done, u) => (done, { t with behind := u })

end Buffered

end ExprEmit
