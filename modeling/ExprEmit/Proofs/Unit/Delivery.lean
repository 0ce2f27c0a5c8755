import ExprEmit.Proofs.Acceptor
import ExprEmit.Proofs.Bytes
import ExprEmit.Proofs.Sink.Device
import ExprEmit.Unit

/-!
# Delivering a unit

A unit is delivered to a device as the texts of the expressions that succeeded, each with a line
break behind it (`GenerationUnit.content`).  Whatever the device does, a front part of this content
reaches it.  Either all of it does, and the device is flushed once, or a write fails, and then that
is the last call and the device's own error is reported (`writeInto_delivers`).
-/

namespace ExprEmit

/-! ### Sinks over devices -/

namespace Writer

variable {ω : Type} (d : Device ω)

theorem offer_of_ok {piece : String} {s t : ω}
    (h : d.writeAll (Text.bytes piece) s = (.ok (), t)) :
    (sink d).offer piece ⟨s, none⟩ = ⟨true, ⟨t, none⟩, []⟩ := by
  simp only [sink, hasFailed, Option.isSome_none, Bool.false_eq_true, if_false]
  rw [← Text.bytes, h]

theorem offer_of_error {piece : String} {s t : ω} {e : DeviceError}
    (h : d.writeAll (Text.bytes piece) s = (.error e, t)) :
    (sink d).offer piece ⟨s, none⟩ =
      ⟨false, ⟨t, some e⟩, [⟨.debug, .sink, "sink write failed: " ++ e.message⟩]⟩ := by
  simp only [sink, hasFailed, Option.isSome_none, Bool.false_eq_true, if_false]
  rw [← Text.bytes, h]

/-- Offering pieces to a sink that holds no error attempts to write their bytes to its device.  The
sink accepts if the attempt succeeds, and otherwise holds the error. -/
theorem writes_offerAll (pieces : List String) (n : Device.Noted ω) :
    let reply := (sink d.noted).offerAll pieces ⟨n, none⟩
    reply.accepted = reply.state.error.isNone ∧
      ∃ calls, reply.state.device.calls = n.calls ++ calls ∧
        Device.Writes (pieces.flatMap Text.bytes) reply.state.error calls := by
  induction pieces generalizing n with
  | nil => exact ⟨rfl, [], (List.append_nil _).symm, .complete nofun rfl⟩
  | cons piece pieces ih =>
    intro reply
    obtain ⟨calls, hcalls, hwrites⟩ := d.writes_writeAll (Text.bytes piece) n
    cases hanswer : d.noted.writeAll (Text.bytes piece) n with
    | mk answer t =>
      rw [hanswer] at hcalls hwrites
      cases answer with
      | ok =>
        have hoffer := offer_of_ok d.noted hanswer
        obtain ⟨haccepted, hstate⟩ := (sink d.noted).offerAll_cons_of_accepted
          (a := piece) (s := ⟨n, none⟩) (by rw [hoffer]) pieces
        rw [hoffer] at haccepted hstate
        obtain ⟨ihaccepted, calls', hcalls', hwrites'⟩ := ih t
        refine ⟨?_, calls ++ calls', ?_, ?_⟩
        · exact haccepted.trans (ihaccepted.trans (by rw [← hstate]))
        · rw [hstate, hcalls', hcalls, List.append_assoc]
        · rw [hstate]
          exact hwrites.append hwrites'
      | error e =>
        have hoffer := offer_of_error d.noted hanswer
        have hreply : reply = _ :=
          (sink d.noted).offerAll_cons_of_refused (by rw [hoffer]) pieces
        rw [hoffer] at hreply
        rw [hreply]
        exact ⟨rfl, calls, hcalls, hwrites.of_failed _⟩

/-- A sink over a device that keeps notes, without the notes. -/
def unnoted (w : Writer (Device.Noted ω)) : Writer ω := ⟨w.device.state, w.error⟩

/-- Keeping notes changes no answer of a sink. -/
theorem offer_unnoted (piece : String) (w : Writer (Device.Noted ω)) :
    (sink d).offer piece w.unnoted = ((sink d.noted).offer piece w).map unnoted := by
  obtain ⟨n, error⟩ := w
  cases error with
  | some e => rfl
  | none =>
    have hnoted := d.writeAll_noted (Text.bytes piece) n
    cases hanswer : d.noted.writeAll (Text.bytes piece) n with
    | mk answer t =>
      rw [hanswer] at hnoted
      cases answer with
      | ok =>
        rw [offer_of_ok d.noted hanswer]
        exact offer_of_ok d hnoted
      | error e =>
        rw [offer_of_error d.noted hanswer]
        exact offer_of_error d hnoted

end Writer

namespace GenerationUnit

variable {σ ω : Type}

/-- What a unit is delivered as: each expression that succeeded, with a line break behind it. -/
def content (u : GenerationUnit σ) : String :=
  String.join ((u.rendered.filter Rendered.ok).map fun r => r.text ++ "\n")

theorem join_pieces (u : GenerationUnit σ) : String.join u.pieces = u.content := by
  rw [pieces, content]
  induction u.rendered.filter Rendered.ok with
  | nil => rfl
  | cons r rs ih =>
    rw [List.flatMap_cons, List.map_cons, String.join_append, String.join_cons, ih]
    simp

/-- Writing a unit into a sink offers its pieces. -/
theorem emit_eq_offerAll {τ : Type} (k : Sink τ) (u : GenerationUnit σ) :
    u.emit k = k.offerAll u.pieces := by
  have hstep : ∀ r : Rendered, (k.offer r.text).andThen (k.offer "\n") =
      k.offerAll [r.text, "\n"] := by
    intro r
    rw [k.offer_eq_offerAll r.text, k.offer_eq_offerAll "\n", ← k.offerAll_append]
    rfl
  have hall := k.all_map_offerAll ((u.rendered.filter Rendered.ok).map fun r => [r.text, "\n"])
  rw [List.map_map] at hall
  simp only [emit, hstep, pieces, List.flatMap_def]
  exact hall

/-! ### Deliveries -/

/-- Whether a result and the calls of a device are those of a delivery of `content`. -/
structure Delivers (content : List UInt8) (result : Except Error Unit)
    (calls : List Device.Call) : Prop where
  /-- A front part of the content has reached the device. -/
  received : Device.received calls <+: content
  /-- The delivery succeeds if everything has been accepted and the only flush has succeeded. -/
  ok : result = .ok () ↔ Device.received calls = content ∧ Device.flushes calls = [.ok ()]
  /-- A write that has failed is reported with the device's own error. -/
  sink : ∀ reason, result = .error (.emit (.sink reason)) ↔
    ∃ c ∈ calls, ∃ e, c.failure? = some e ∧ e.message = reason
  /-- Nothing is asked of the device behind a write that has failed, and it is not flushed. -/
  last : ∀ before c after, calls = before ++ c :: after → c.failure?.isSome = true →
    after = [] ∧ Device.flushes calls = []
  /-- A flush that has failed is reported if everything has been accepted before. -/
  file : ∀ reason, result = .error (.file reason) ↔
    Device.received calls = content ∧ ∃ e, Device.flushes calls = [.error e] ∧ e.message = reason
  /-- There is no other outcome. -/
  outcome : result = .ok () ∨ ∃ reason,
    result = .error (.emit (.sink reason)) ∨ result = .error (.file reason)

variable {content : List UInt8} {calls : List Device.Call}

/-- Everything has been accepted, and then the device has been flushed. -/
theorem delivers_flush (h : Device.Writes content none calls) (answer : Except DeviceError Unit) :
    Delivers content
      (match answer with
        | .ok () => .ok ()
        | .error e => .error (.file e.message))
      (calls ++ [.flush answer]) := by
  have hreceived : Device.received (calls ++ [.flush answer]) = content := by
    rw [Device.received_append]
    cases h with
    | complete _ hreceived => exact (List.append_nil _).trans hreceived
  have hflushes : Device.flushes (calls ++ [.flush answer]) = [answer] := by
    rw [Device.flushes, List.filterMap_append, ← Device.flushes, h.flushes_eq_nil]
    rfl
  have hnone : ∀ c ∈ calls ++ [.flush answer], c.failure? = none := by
    cases h with
    | complete hcalls _ =>
      refine List.forall_mem_append.mpr ⟨fun c hc => (hcalls c hc).1, ?_⟩
      exact List.forall_mem_singleton.mpr rfl
  constructor
  case received => exact hreceived ▸ List.prefix_rfl
  case ok =>
    rw [hreceived, hflushes]
    cases answer <;> simp
  case sink =>
    intro reason
    constructor
    · intro hresult
      cases answer <;> cases hresult
    · rintro ⟨c, hc, e, hfailure, -⟩
      rw [hnone c hc] at hfailure
      cases hfailure
  case last =>
    rintro before c after hsplit hc
    rw [hnone c (by simp [hsplit])] at hc
    cases hc
  case file =>
    intro reason
    rw [hreceived, hflushes]
    cases answer <;> simp
  case outcome => cases answer <;> simp

/-- A write has failed. -/
theorem delivers_failed {e : DeviceError} (h : Device.Writes content (some e) calls) :
    Delivers content (.error (.emit (.sink e.message))) calls := by
  have hflushes := h.flushes_eq_nil
  constructor
  case received => exact h.isPrefix_received
  case ok => simp [hflushes]
  case sink =>
    intro reason
    constructor
    · rintro ⟨⟩
      obtain ⟨c, hc, hfailure⟩ := (h.exists_failure?_iff e).mpr rfl
      exact ⟨c, hc, e, hfailure, rfl⟩
    · rintro ⟨c, hc, e', hfailure, rfl⟩
      obtain rfl := Option.some.inj ((h.exists_failure?_iff e').mp ⟨c, hc, hfailure⟩)
      rfl
  case last => exact fun _ _ _ hsplit hc => ⟨h.eq_nil_of_failure? hsplit hc, hflushes⟩
  case file => simp [hflushes]
  case outcome => exact Or.inr ⟨e.message, Or.inl rfl⟩

variable (d : Device ω) (u : GenerationUnit σ)

/-- Delivering a unit that the sink accepts ends with a flush. -/
theorem writeInto_of_accepted {s : ω}
    (h : ((Writer.sink d).offerAll u.pieces ⟨s, none⟩).accepted = true) :
    let written := ((Writer.sink d).offerAll u.pieces ⟨s, none⟩).state.device
    (u.writeInto d s).result = (match (d.flush written).1 with
      | .ok () => .ok ()
      | .error e => .error (.file e.message)) ∧
      (u.writeInto d s).device = (d.flush written).2 := by
  intro written
  rw [writeInto, emit_eq_offerAll, Writer.ofDevice]
  simp only [h, if_true]
  rcases hflush : d.flush written with ⟨_ | _, t⟩ <;> exact ⟨rfl, rfl⟩

/-- Delivering a unit that the sink refuses ends there. -/
theorem writeInto_of_refused {s : ω} {e : DeviceError}
    (h : ((Writer.sink d).offerAll u.pieces ⟨s, none⟩).accepted = false)
    (herror : ((Writer.sink d).offerAll u.pieces ⟨s, none⟩).state.error = some e) :
    (u.writeInto d s).result = .error (.emit (.sink e.message)) ∧
      (u.writeInto d s).device = ((Writer.sink d).offerAll u.pieces ⟨s, none⟩).state.device := by
  rw [writeInto, emit_eq_offerAll, Writer.ofDevice]
  simp [h, herror, Writer.takeError]

/-- Keeping notes changes no result and no state. -/
theorem writeInto_noted (s : ω) :
    (u.writeInto d s).result = (u.writeInto d.noted (.start s)).result ∧
      (u.writeInto d s).device = (u.writeInto d.noted (.start s)).device.state := by
  have hunnoted : (Writer.sink d).offerAll u.pieces ⟨s, none⟩ =
      ((Writer.sink d.noted).offerAll u.pieces ⟨.start s, none⟩).map Writer.unnoted :=
    Acceptor.offerAll_map (Writer.offer_unnoted d) u.pieces ⟨.start s, none⟩
  rw [writeInto, writeInto, emit_eq_offerAll, emit_eq_offerAll, Writer.ofDevice, Writer.ofDevice,
    hunnoted]
  generalize (Writer.sink d.noted).offerAll u.pieces ⟨.start s, none⟩ = written
  obtain ⟨accepted, ⟨n, error⟩, log⟩ := written
  cases accepted with
  | false => exact ⟨rfl, rfl⟩
  | true =>
    simp only [Reply.map, Writer.unnoted, if_true, Device.noted_flush]
    cases d.flush n.state with
    | mk answer t => cases answer <;> exact ⟨rfl, rfl⟩

/-- Delivering a unit to a device, whatever it does, brings a front part of the content to it, and
reports which of three ways it went. -/
theorem writeInto_delivers (d : Device ω) (u : GenerationUnit σ) (s : ω) :
    let delivery := u.writeInto d.noted (.start s)
    Delivers (Text.bytes u.content) delivery.result delivery.device.calls ∧
      (u.writeInto d s).result = delivery.result ∧
      (u.writeInto d s).device = delivery.device.state := by
  intro delivery
  refine ⟨?_, u.writeInto_noted d s⟩
  obtain ⟨haccepted, calls, hcalls, hwrites⟩ := Writer.writes_offerAll d u.pieces (.start s)
  have hcalls : _ = calls := hcalls
  rw [← Text.bytes_join, join_pieces] at hwrites
  cases herror : ((Writer.sink d.noted).offerAll u.pieces ⟨.start s, none⟩).state.error with
  | none =>
    rw [herror] at haccepted hwrites
    obtain ⟨hresult, hdevice⟩ := u.writeInto_of_accepted d.noted haccepted
    have hdelivers := delivers_flush hwrites (d.noted.flush
      ((Writer.sink d.noted).offerAll u.pieces ⟨.start s, none⟩).state.device).1
    rw [← hcalls] at hdelivers
    rw [hresult, hdevice]
    exact hdelivers
  | some e =>
    rw [herror] at haccepted hwrites
    obtain ⟨hresult, hdevice⟩ := u.writeInto_of_refused d.noted haccepted herror
    rw [hresult, hdevice, hcalls]
    exact delivers_failed hwrites

end GenerationUnit

end ExprEmit
