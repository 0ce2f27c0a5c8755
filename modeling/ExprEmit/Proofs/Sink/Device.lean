import ExprEmit.Sink.Device

/-!
# What reaches a device

To see what a device is asked for, it is replaced by one that answers alike and notes every call
(`Device.noted`).  `Device.Writes` says what the notes show of an attempt to write some bytes: either
all of them have reached the device, or a front part of them has and the last call has failed.
Writing all of a list of bytes is such an attempt (`Device.writes_writeAll`), and so is one attempt
after another (`Device.Writes.append`).
-/

namespace ExprEmit

namespace Device

variable {ω : Type}

/-! ### Notes -/

/-- A call of a device, with its answer. -/
inductive Call where
  | write (bytes : List UInt8) (answer : Except DeviceError Nat)
  | flush (answer : Except DeviceError Unit)

namespace Call

/-- The bytes that a call has brought to the device. -/
def received : Call → List UInt8
  | write bytes (.ok n) => bytes.take n
  | _ => []

/-- Why a call to write has failed, if it has. -/
def failure? : Call → Option DeviceError
  | write _ (.error e) => some e
  | write _ (.ok 0) => some .stalled
  | _ => none

/-- The answer to a call to flush. -/
def flush? : Call → Option (Except DeviceError Unit)
  | flush answer => some answer
  | write _ _ => none

end Call

/-- The bytes that calls have brought to the device. -/
def received (calls : List Call) : List UInt8 := calls.flatMap Call.received

/-- The answers to the flushes among calls. -/
def flushes (calls : List Call) : List (Except DeviceError Unit) := calls.filterMap Call.flush?

/-- The state of a device, with notes of its calls. -/
structure Noted (ω : Type) where
  state : ω
  /-- Every call, in order. -/
  calls : List Call

/-- The state `s` before the first note. -/
def Noted.start (s : ω) : Noted ω := ⟨s, []⟩

/-- The device that answers like `d` and notes every call. -/
def noted (d : Device ω) : Device (Noted ω) where
  write bytes n :=
    match d.write bytes n.state with
    | (answer, t) => (answer, ⟨t, n.calls ++ [.write bytes answer]⟩)
  flush n :=
    match d.flush n.state with
    | (answer, t) => (answer, ⟨t, n.calls ++ [.flush answer]⟩)

theorem noted_write (d : Device ω) (bytes : List UInt8) (n : Noted ω) :
    d.noted.write bytes n = ((d.write bytes n.state).1,
      ⟨(d.write bytes n.state).2, n.calls ++ [.write bytes (d.write bytes n.state).1]⟩) :=
  rfl

theorem noted_flush (d : Device ω) (n : Noted ω) :
    d.noted.flush n = ((d.flush n.state).1,
      ⟨(d.flush n.state).2, n.calls ++ [.flush (d.flush n.state).1]⟩) :=
  rfl

/-! ### Attempts to write -/

/-- Whether calls are those of an attempt to write `content`, which has failed if there is an
error. -/
inductive Writes (content : List UInt8) : Option DeviceError → List Call → Prop where
  /-- Every byte has reached the device. -/
  | complete {calls : List Call} (hcalls : ∀ c ∈ calls, c.failure? = none ∧ c.flush? = none)
      (hreceived : received calls = content) : Writes content none calls
  /-- A front part has reached the device, and the last call has failed. -/
  | failed {before : List Call} {last : Call} {e : DeviceError}
      (hbefore : ∀ c ∈ before, c.failure? = none ∧ c.flush? = none)
      (hreceived : received before <+: content) (hlast : last.failure? = some e) :
      Writes content (some e) (before ++ [last])

/-- The error of an outcome. -/
def error? : Except DeviceError Unit → Option DeviceError
  | .ok () => none
  | .error e => some e

theorem received_append (calls calls' : List Call) :
    received (calls ++ calls') = received calls ++ received calls' :=
  List.flatMap_append

/-- A call that has failed has brought nothing. -/
theorem Call.received_of_failure? {c : Call} {e : DeviceError} (h : c.failure? = some e) :
    c.received = [] := by
  cases c with
  | flush answer => rfl
  | write bytes answer =>
    match answer, h with
    | .error e, _ => rfl
    | .ok 0, _ => rfl

/-- A call that has failed is no flush. -/
theorem Call.flush?_of_failure? {c : Call} {e : DeviceError} (h : c.failure? = some e) :
    c.flush? = none := by
  cases c with
  | flush answer => cases h
  | write bytes answer => rfl

namespace Writes

variable {content more : List UInt8} {e : DeviceError} {error : Option DeviceError}
  {calls calls' : List Call}

/-- An attempt after one that has brought everything. -/
theorem append (h : Writes content none calls) (h' : Writes more error calls') :
    Writes (content ++ more) error (calls ++ calls') := by
  cases h with
  | complete hcalls hreceived =>
    cases h' with
    | complete hcalls' hreceived' =>
      refine .complete (List.forall_mem_append.mpr ⟨hcalls, hcalls'⟩) ?_
      rw [received_append, hreceived, hreceived']
    | failed hbefore hfront hlast =>
      rw [← List.append_assoc]
      refine .failed (List.forall_mem_append.mpr ⟨hcalls, hbefore⟩) ?_ hlast
      rw [received_append, hreceived]
      exact (List.prefix_append_right_inj _).mpr hfront

/-- A failed attempt has also failed to write more. -/
theorem of_failed (h : Writes content (some e) calls) (more : List UInt8) :
    Writes (content ++ more) (some e) calls := by
  cases h with
  | failed hbefore hfront hlast =>
    exact .failed hbefore (hfront.trans (List.prefix_append _ _)) hlast

theorem isPrefix_received (h : Writes content error calls) : received calls <+: content := by
  cases h with
  | complete _ hreceived => exact hreceived ▸ List.prefix_rfl
  | failed _ hfront hlast =>
    rw [received_append]
    simpa [received, Call.received_of_failure? hlast] using hfront

theorem flushes_eq_nil (h : Writes content error calls) : flushes calls = [] := by
  rw [flushes, List.filterMap_eq_nil_iff]
  cases h with
  | complete hcalls _ => exact fun c hc => (hcalls c hc).2
  | failed hbefore _ hlast =>
    intro c hc
    rcases List.mem_append.mp hc with hc | hc
    · exact (hbefore c hc).2
    · obtain rfl := List.mem_singleton.mp hc
      exact Call.flush?_of_failure? hlast

/-- The error of an attempt is that of the call that has failed. -/
theorem exists_failure?_iff (h : Writes content error calls) (e : DeviceError) :
    (∃ c ∈ calls, c.failure? = some e) ↔ error = some e := by
  cases h with
  | complete hcalls _ =>
    constructor
    · rintro ⟨c, hc, hfailure⟩
      rw [(hcalls c hc).1] at hfailure
      cases hfailure
    · exact nofun
  | @failed before last e' hbefore _ hlast =>
    constructor
    · rintro ⟨c, hc, hfailure⟩
      rcases List.mem_append.mp hc with hc | hc
      · rw [(hbefore c hc).1] at hfailure
        cases hfailure
      · rw [List.mem_singleton.mp hc, hlast] at hfailure
        exact hfailure
    · rintro ⟨⟩
      exact ⟨last, by simp, hlast⟩

/-- No call follows one that has failed. -/
theorem eq_nil_of_failure? (h : Writes content error calls) {before after : List Call} {c : Call}
    (hsplit : calls = before ++ c :: after) (hc : c.failure?.isSome = true) : after = [] := by
  rcases List.eq_nil_or_concat after with rfl | ⟨middle, final, rfl⟩
  · rfl
  · -- otherwise it is not the last call, and has not failed
    have hnone : c.failure? = none := by
      cases h with
      | complete hcalls _ => exact (hcalls c (by simp [hsplit])).1
      | failed hbefore _ _ =>
        rw [List.concat_eq_append, ← List.cons_append, ← List.append_assoc] at hsplit
        exact (hbefore c (by simp [(List.append_inj' hsplit rfl).1])).1
    rw [hnone] at hc
    cases hc

end Writes

/-! ### Writing all of a list of bytes -/

variable (d : Device ω)

theorem calls_of_write {bytes : List UInt8} {n t : Noted ω} {answer : Except DeviceError Nat}
    (h : d.noted.write bytes n = (answer, t)) : t.calls = n.calls ++ [.write bytes answer] := by
  rw [noted_write] at h
  obtain ⟨rfl, rfl⟩ := Prod.mk.inj h
  rfl

/-- One write that is the whole attempt. -/
theorem writes_single {bytes : List UInt8} {answer : Except DeviceError Nat} {e : DeviceError}
    (h : (Call.write bytes answer).failure? = some e) :
    Writes bytes (some e) [.write bytes answer] := by
  have hbefore : ∀ c ∈ ([] : List Call), c.failure? = none ∧ c.flush? = none := nofun
  exact .failed hbefore List.nil_prefix h

/-- Writing all of a list of bytes attempts to write it, and reports the error if that fails. -/
theorem writes_writeAll (bytes : List UInt8) (n : Noted ω) :
    ∃ calls, (d.noted.writeAll bytes n).2.calls = n.calls ++ calls ∧
      Writes bytes (error? (d.noted.writeAll bytes n).1) calls := by
  induction bytes, n using writeAll.induct (d := d.noted) with
  | case1 bytes n hempty =>
    obtain rfl := List.isEmpty_iff.mp hempty
    rw [writeAll, if_pos hempty]
    exact ⟨[], (List.append_nil _).symm, .complete nofun rfl⟩
  | case2 bytes n hne e t hwrite =>
    have hcalls := d.calls_of_write hwrite
    rw [writeAll, if_neg hne, hwrite]
    exact ⟨_, hcalls, writes_single rfl⟩
  | case3 bytes n hne t hwrite =>
    have hcalls := d.calls_of_write hwrite
    rw [writeAll, if_neg hne, hwrite]
    exact ⟨_, hcalls, writes_single rfl⟩
  | case4 bytes n hne k t hwrite ih =>
    have hcalls := d.calls_of_write hwrite
    rw [writeAll, if_neg hne, hwrite]
    obtain ⟨calls, hrest, hwrites⟩ := ih
    have hfirst : Writes (bytes.take (k + 1)) none [.write bytes (.ok (k + 1))] :=
      .complete (by simp [Call.failure?, Call.flush?]) (List.append_nil _)
    have hboth := hfirst.append hwrites
    rw [List.take_append_drop] at hboth
    refine ⟨_, ?_, hboth⟩
    rw [hrest, hcalls, List.append_assoc]

theorem write_of_noted {bytes : List UInt8} {n t : Noted ω} {answer : Except DeviceError Nat}
    (h : d.noted.write bytes n = (answer, t)) : d.write bytes n.state = (answer, t.state) := by
  rw [noted_write] at h
  obtain ⟨rfl, rfl⟩ := Prod.mk.inj h
  rfl

/-- Keeping notes changes no answer and no state. -/
theorem writeAll_noted (bytes : List UInt8) (n : Noted ω) :
    d.writeAll bytes n.state =
      ((d.noted.writeAll bytes n).1, (d.noted.writeAll bytes n).2.state) := by
  induction bytes, n using writeAll.induct (d := d.noted) with
  | case1 bytes n hempty => rw [writeAll, writeAll, if_pos hempty, if_pos hempty]
  | case2 bytes n hne e t hwrite =>
    rw [writeAll, writeAll, if_neg hne, if_neg hne, hwrite, d.write_of_noted hwrite]
  | case3 bytes n hne t hwrite =>
    rw [writeAll, writeAll, if_neg hne, if_neg hne, hwrite, d.write_of_noted hwrite]
  | case4 bytes n hne k t hwrite ih =>
    rw [writeAll, writeAll, if_neg hne, if_neg hne, hwrite, d.write_of_noted hwrite]
    exact ih

end Device

end ExprEmit
