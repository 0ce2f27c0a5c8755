import ExprEmit.Proofs.Unit.Delivery

/-!
# Devices that store everything

`Device.Stores` says of a device that it takes every write as a whole and never fails, and what its
states hold.  It goes through a buffer (`Buffered.stores_device`), and a unit that is delivered to
such a device is stored completely (`GenerationUnit.writeInto_stores`).
-/

namespace ExprEmit

/-! ### Devices -/

/-- Whether a device takes everything it is given.  `Holds bytes s` says that, in the state `s`,
what it has been given is `bytes`; only behind a flush does it have to be passed on, as `Rests` says. -/
structure Device.Stores {ω : Type} (d : Device ω) (Holds Rests : List UInt8 → ω → Prop) : Prop where
  write : ∀ {held : List UInt8} {s : ω}, Holds held s → ∀ bytes : List UInt8,
    ∃ t, d.write bytes s = (.ok bytes.length, t) ∧ Holds (held ++ bytes) t
  flush : ∀ {held : List UInt8} {s : ω}, Holds held s → ∃ t, d.flush s = (.ok (), t) ∧ Rests held t

namespace Device.Stores

variable {ω : Type} {d : Device ω} {Holds Rests : List UInt8 → ω → Prop} {held : List UInt8} {s : ω}

/-- Writing until everything is taken is one write. -/
theorem writeAll (h : d.Stores Holds Rests) (hs : Holds held s) (bytes : List UInt8) :
    ∃ t, d.writeAll bytes s = (.ok (), t) ∧ Holds (held ++ bytes) t := by
  cases bytes with
  | nil =>
    rw [Device.writeAll, if_pos List.isEmpty_nil, List.append_nil]
    exact ⟨s, rfl, hs⟩
  | cons b bs =>
    obtain ⟨t, hwrite, ht⟩ := h.write hs (b :: bs)
    refine ⟨t, ?_, ht⟩
    rw [Device.writeAll, if_neg (by simp), hwrite]
    show d.writeAll ((b :: bs).drop (bs.length + 1)) t = _
    rw [List.drop_of_length_le (by simp), Device.writeAll, if_pos List.isEmpty_nil]

end Device.Stores

/-! ### Buffers -/

namespace Buffered

variable {ω : Type} {d : Device ω} {Holds Rests : List UInt8 → ω → Prop}

/-- Whether the bytes that a buffer has been given are those behind it and then those in it. -/
def Holding (Holds : List UInt8 → ω → Prop) (bytes : List UInt8) (s : Buffered ω) : Prop :=
  ∃ passed, Holds passed s.behind ∧ passed ++ s.held = bytes

/-- Whether all bytes that a buffer has been given have been passed on. -/
def Resting (Rests : List UInt8 → ω → Prop) (bytes : List UInt8) (s : Buffered ω) : Prop :=
  s.held = [] ∧ Rests bytes s.behind

/-- Passing on what is in a buffer succeeds and empties it. -/
theorem pass_of_stores (h : d.Stores Holds Rests) {bytes : List UInt8} {s : Buffered ω}
    (hs : Holding Holds bytes s) :
    ∃ t, s.pass d = (.ok (), t) ∧ t.held = [] ∧ Holds bytes t.behind := by
  obtain ⟨passed, hpassed, rfl⟩ := hs
  obtain ⟨t, hwrite, ht⟩ := h.writeAll hpassed s.held
  refine ⟨⟨[], t⟩, ?_, rfl, ht⟩
  rw [pass, hwrite]

/-- Before a write a buffer empties itself if the write does not fit; it is then empty before every
write that goes past it. -/
theorem ready_of_stores (h : d.Stores Holds Rests) (capacity : Nat) {held : List UInt8}
    {s : Buffered ω} (hs : Holding Holds held s) (bytes : List UInt8) :
    ∃ t, (if capacity < s.held.length + bytes.length then s.pass d else (.ok (), s)) = (.ok (), t) ∧
      Holding Holds held t ∧ (capacity ≤ bytes.length → t.held = []) := by
  by_cases hfull : capacity < s.held.length + bytes.length
  · obtain ⟨t, hpass, hempty, ht⟩ := pass_of_stores h hs
    rw [if_pos hfull]
    exact ⟨t, hpass, ⟨held, ht, by rw [hempty, List.append_nil]⟩, fun _ => hempty⟩
  · rw [if_neg hfull]
    refine ⟨s, rfl, hs, fun hlong => ?_⟩
    exact List.eq_nil_of_length_eq_zero (by omega)

/-- A buffer before a device that stores everything is one, whatever its size. -/
theorem stores_device (h : d.Stores Holds Rests) (capacity : Nat) :
    (device capacity d).Stores (Holding Holds) (Resting Rests) where
  write := by
    intro held s hs bytes
    obtain ⟨t, hready, ht, hpast⟩ := ready_of_stores h capacity hs bytes
    obtain ⟨passed, hpassed, hheld⟩ := ht
    by_cases hlong : capacity ≤ bytes.length
    · have hempty := hpast hlong
      rw [hempty, List.append_nil] at hheld
      obtain ⟨u, hwrite, hu⟩ := h.write hpassed bytes
      refine ⟨{ t with behind := u }, ?_, passed ++ bytes, hu, ?_⟩
      · simp only [device, hready, if_pos hlong, hwrite]
      · rw [hempty, List.append_nil, hheld]
    · refine ⟨{ t with held := t.held ++ bytes }, ?_, passed, hpassed, ?_⟩
      · simp only [device, hready, if_neg hlong]
      · rw [← hheld, List.append_assoc]
  flush := by
    intro held s hs
    obtain ⟨t, hpass, hempty, ht⟩ := pass_of_stores h hs
    obtain ⟨u, hflush, hu⟩ := h.flush ht
    refine ⟨{ t with behind := u }, ?_, hempty, hu⟩
    simp only [device, hpass, hflush]

end Buffered

/-! ### Units -/

variable {ω : Type} {d : Device ω} {Holds Rests : List UInt8 → ω → Prop}

/-- A sink over a device that stores everything accepts every piece. -/
theorem Writer.offerAll_of_stores (h : d.Stores Holds Rests) {held : List UInt8} {s : ω}
    (hs : Holds held s) (pieces : List String) :
    let reply := (sink d).offerAll pieces ⟨s, none⟩
    reply.accepted = true ∧ Holds (held ++ Text.bytes (String.join pieces)) reply.state.device := by
  induction pieces generalizing held s with
  | nil =>
    intro reply
    rw [String.join_nil, Text.bytes_empty, List.append_nil]
    exact ⟨rfl, hs⟩
  | cons piece pieces ih =>
    obtain ⟨t, hwrite, ht⟩ := h.writeAll hs (Text.bytes piece)
    have hoffer := offer_of_ok d hwrite
    obtain ⟨haccepted, hstate⟩ := (sink d).offerAll_cons_of_accepted (a := piece) (s := ⟨s, none⟩)
      (by rw [hoffer]) pieces
    rw [hoffer] at haccepted hstate
    obtain ⟨hrest, hheld⟩ := ih ht
    intro reply
    refine ⟨haccepted.trans hrest, ?_⟩
    rw [String.join_cons, Text.bytes_append, ← List.append_assoc, hstate]
    exact hheld

/-- A unit that is delivered to a device that stores everything is stored completely. -/
theorem GenerationUnit.writeInto_stores {σ : Type} (h : d.Stores Holds Rests) {s : ω}
    (hs : Holds [] s) (u : GenerationUnit σ) :
    (u.writeInto d s).result = .ok () ∧
      Rests (Text.bytes (String.join u.pieces)) (u.writeInto d s).device := by
  obtain ⟨haccepted, hheld⟩ := Writer.offerAll_of_stores h hs u.pieces
  obtain ⟨t, hflush, ht⟩ := h.flush hheld
  obtain ⟨hresult, hdevice⟩ := u.writeInto_of_accepted d haccepted
  rw [hresult, hdevice, hflush]
  exact ⟨rfl, ht⟩

end ExprEmit
