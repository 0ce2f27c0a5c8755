import ExprEmit.Proofs.Unit.Delivery
import Mathlib.Data.List.Forall2

/-!
# What a sink does after a failure

A sink over a device is written to, and now and then its error is taken out.  A write that fails
blocks the sink: it refuses every further piece and asks nothing of the device.  That lasts until the
error is taken out, and no longer.  Then the sink writes again, behind the gap that the failure has
left.

So a history of requests comes in periods (`Writer.periods`), each of which ends where an error is
taken out.  In a period, the device is asked for one attempt to write all of its pieces, and every
attempt but the last has failed (`Writer.Periods`).  Requests either carry on the attempt of their
period or begin the next one (`Writer.periods_run`).  If no error is ever taken out, there is one
period, and a front part of all pieces reaches the device (`Writer.run_delivers`).
-/

namespace ExprEmit

namespace Writer

variable {ω : Type} (d : Device ω)

/-! ### Histories -/

/-- What a sink is asked for; a character is written as a piece of its own. -/
inductive Request where
  | write (piece : String)
  | takeError

/-- A request with its answer. -/
inductive Exchange where
  | write (piece : String) (accepted : Bool)
  | takeError (taken : Option DeviceError)
deriving DecidableEq

/-- The exchanges of a history of requests, and the sink after it. -/
structure History (ω : Type) where
  exchanges : List Exchange
  sink : Writer ω

/-- The exchange that a request leads to, and the sink after it. -/
def perform (w : Writer ω) : Request → Exchange × Writer ω
  | .write piece => (.write piece ((sink d).offer piece w).accepted, ((sink d).offer piece w).state)
  | .takeError => (.takeError w.takeError.1, w.takeError.2)

/-- The history of requests to a sink. -/
def run : List Request → Writer ω → History ω
  | [], w => ⟨[], w⟩
  | r :: rs, w =>
    let (x, v) := perform d w r
    ⟨x :: (run rs v).exchanges, (run rs v).sink⟩

/-- The piece that is to be written. -/
def Request.piece? : Request → Option String
  | write piece => some piece
  | takeError => none

/-- The request of an exchange. -/
def Exchange.request : Exchange → Request
  | write piece _ => .write piece
  | takeError _ => .takeError

/-- The pieces of each period of a history, of which `current` have been offered in the first one
before.  A period ends where an error is taken out. -/
def periodsFrom (current : List String) : List Exchange → List (List String)
  | [] => [current]
  | .write piece _ :: xs => periodsFrom (current ++ [piece]) xs
  | .takeError none :: xs => periodsFrom current xs
  | .takeError (some _) :: xs => current :: periodsFrom [] xs

/-- The pieces of each period of a history. -/
def periods : List Exchange → List (List String) := periodsFrom []

/-! ### Periods -/

/-- Whether calls are those of one attempt after another to write the pieces of each period.  All but
the last attempt have failed, and that one has failed if there is an error. -/
inductive Periods : List (List String) → Option DeviceError → List Device.Call → Prop where
  | last {pieces : List String} {error : Option DeviceError} {calls : List Device.Call}
      (h : Device.Writes (pieces.flatMap Text.bytes) error calls) : Periods [pieces] error calls
  | ended {pieces : List String} {e : DeviceError} {calls : List Device.Call}
      {later : List (List String)} {error : Option DeviceError} {calls' : List Device.Call}
      (h : Device.Writes (pieces.flatMap Text.bytes) (some e) calls)
      (rest : Periods later error calls') : Periods (pieces :: later) error (calls ++ calls')

/-- A front part of the pieces of each period has reached the device. -/
theorem Periods.received {pieces : List (List String)} {error : Option DeviceError}
    {calls : List Device.Call} (h : Periods pieces error calls) :
    ∃ parts : List (List UInt8), Device.received calls = parts.flatten ∧
      List.Forall₂ (fun part texts => part <+: texts.flatMap Text.bytes) parts pieces := by
  induction h with
  | @last _ _ calls h =>
    exact ⟨[Device.received calls], by simp, .cons h.isPrefix_received .nil⟩
  | @ended _ _ calls _ _ calls' h rest ih =>
    obtain ⟨parts, hreceived, hparts⟩ := ih
    refine ⟨Device.received calls :: parts, ?_, .cons h.isPrefix_received hparts⟩
    rw [Device.received_append, hreceived, List.flatten_cons]

/-- A history in which no error is taken out is one period. -/
theorem periodsFrom_of_not_taken {xs : List Exchange} (h : ∀ e, .takeError (some e) ∉ xs)
    (current : List String) :
    periodsFrom current xs = [current ++ xs.filterMap (·.request.piece?)] := by
  induction xs generalizing current with
  | nil => simp [periodsFrom]
  | cons x xs ih =>
    have hxs : ∀ e, .takeError (some e) ∉ xs := fun e he => h e (List.mem_cons_of_mem x he)
    match x with
    | .write piece accepted =>
      rw [periodsFrom, ih hxs, List.append_assoc]
      rfl
    | .takeError none =>
      rw [periodsFrom, ih hxs]
      rfl
    | .takeError (some e) => exact absurd List.mem_cons_self (h e)

/-! ### One request -/

theorem offer_of_hasFailed {w : Writer ω} (h : w.hasFailed = true) (piece : String) :
    (sink d).offer piece w = ⟨false, w, []⟩ := by
  simp only [sink, h, if_true]

/-- A piece is accepted by a sink that has not failed and does not fail now. -/
theorem accepted_offer (piece : String) (w : Writer ω) :
    ((sink d).offer piece w).accepted = !((sink d).offer piece w).state.hasFailed := by
  obtain ⟨s, error⟩ := w
  cases error with
  | some e => rw [offer_of_hasFailed d rfl, hasFailed, Option.isSome_some, Bool.not_true]
  | none =>
    cases hanswer : d.writeAll (Text.bytes piece) s with
    | mk answer t =>
      cases answer with
      | ok => rw [offer_of_ok d hanswer, hasFailed, Option.isSome_none, Bool.not_false]
      | error e => rw [offer_of_error d hanswer, hasFailed, Option.isSome_some, Bool.not_true]

/-- A piece that is offered carries on the attempt to write those before it. -/
theorem writes_offer {w : Writer (Device.Noted ω)} {content : List UInt8}
    {calls : List Device.Call} (h : Device.Writes content w.error calls) (piece : String) :
    let reply := (sink d.noted).offer piece w
    ∃ calls', reply.state.device.calls = w.device.calls ++ calls' ∧
      Device.Writes (content ++ Text.bytes piece) reply.state.error (calls ++ calls') := by
  obtain ⟨n, error⟩ := w
  cases error with
  | some e =>
    rw [offer_of_hasFailed d.noted rfl]
    refine ⟨[], (List.append_nil _).symm, ?_⟩
    rw [List.append_nil]
    exact h.of_failed _
  | none =>
    obtain ⟨-, calls', hcalls, hwrites⟩ := writes_offerAll d [piece] n
    rw [← Acceptor.offer_eq_offerAll] at hcalls hwrites
    rw [List.flatMap_singleton] at hwrites
    exact ⟨calls', hcalls, h.append hwrites⟩

theorem perform_unnoted (w : Writer (Device.Noted ω)) (r : Request) :
    perform d w.unnoted r = ((perform d.noted w r).1, (perform d.noted w r).2.unnoted) := by
  cases r with
  | write piece =>
    rw [perform, offer_unnoted]
    rfl
  | takeError => rfl

/-! ### Histories of requests -/

/-- Whether some write has been refused since an error was last taken out. -/
def RefusedSince (xs : List Exchange) : Prop :=
  ∃ before piece quiet, xs = before ++ .write piece false :: quiet ∧ ∀ e, .takeError e ∉ quiet

theorem refusedSince_cons {x : Exchange} {xs : List Exchange} :
    RefusedSince (x :: xs) ↔
      RefusedSince xs ∨ (∃ piece, x = .write piece false) ∧ ∀ e, .takeError e ∉ xs := by
  constructor
  · rintro ⟨before, piece, quiet, hsplit, hquiet⟩
    cases before with
    | nil =>
      obtain ⟨rfl, rfl⟩ := List.cons.inj hsplit
      exact Or.inr ⟨⟨piece, rfl⟩, hquiet⟩
    | cons y before =>
      obtain ⟨rfl, rfl⟩ := List.cons.inj hsplit
      exact Or.inl ⟨before, piece, quiet, rfl, hquiet⟩
  · rintro (⟨before, piece, quiet, rfl, hquiet⟩ | ⟨⟨piece, rfl⟩, hquiet⟩)
    · exact ⟨x :: before, piece, quiet, rfl, hquiet⟩
    · exact ⟨[], piece, xs, rfl, hquiet⟩

/-- A period begins with no piece and no call. -/
theorem writes_nothing : Device.Writes (([] : List String).flatMap Text.bytes) none [] :=
  .complete nofun rfl

/-- Requests to a sink that has attempted to write `current` in `calls` carry on that attempt, and
begin another one behind each error that is taken out. -/
theorem periods_run (rs : List Request) {w : Writer (Device.Noted ω)} {current : List String}
    {calls : List Device.Call} (h : Device.Writes (current.flatMap Text.bytes) w.error calls) :
    let r := run d.noted rs w
    ∃ calls', r.sink.device.calls = w.device.calls ++ calls' ∧
      Periods (periodsFrom current r.exchanges) r.sink.error (calls ++ calls') := by
  induction rs generalizing w current calls with
  | nil => exact ⟨[], (List.append_nil _).symm, (List.append_nil calls).symm ▸ .last h⟩
  | cons request rs ih =>
    cases request with
    | write piece =>
      obtain ⟨calls₁, hcalls₁, hwrites⟩ := writes_offer d h piece
      have hcurrent : current.flatMap Text.bytes ++ Text.bytes piece =
          (current ++ [piece]).flatMap Text.bytes := by simp
      obtain ⟨calls₂, hcalls₂, hperiods⟩ := ih (hcurrent ▸ hwrites)
      refine ⟨calls₁ ++ calls₂, ?_, ?_⟩
      · rw [← List.append_assoc, ← hcalls₁]
        exact hcalls₂
      · rw [← List.append_assoc]
        exact hperiods
    | takeError =>
      cases w with
      | mk n error =>
        cases error with
        | none => exact ih (w := ⟨n, none⟩) h
        | some e =>
          obtain ⟨calls', hcalls', hperiods⟩ := ih (w := ⟨n, none⟩) writes_nothing
          exact ⟨calls', hcalls', .ended h hperiods⟩

/-- A sink has failed if some write was refused, or it had failed before, and no error has been taken
out since. -/
theorem hasFailed_run (rs : List Request) (w : Writer ω) :
    (run d rs w).sink.hasFailed = true ↔
      RefusedSince (run d rs w).exchanges ∨
        w.hasFailed = true ∧ ∀ e, .takeError e ∉ (run d rs w).exchanges := by
  induction rs generalizing w with
  | nil => simp [run, RefusedSince]
  | cons r rs ih =>
    cases r with
    | write piece =>
      have hrefused : (∃ piece', Exchange.write piece ((sink d).offer piece w).accepted =
          .write piece' false) ↔ ((sink d).offer piece w).state.hasFailed = true := by
        simp [accepted_offer]
      have hstill : w.hasFailed = true → ((sink d).offer piece w).state.hasFailed = true := by
        intro h
        rw [offer_of_hasFailed d h]
        exact h
      simp only [run, perform, refusedSince_cons, ih, hrefused, List.mem_cons, reduceCtorEq,
        false_or]
      constructor
      · exact Or.inl
      · rintro (h | ⟨h, hnone⟩)
        · exact h
        · exact Or.inr ⟨hstill h, hnone⟩
    | takeError =>
      simp only [run, perform, refusedSince_cons, ih, reduceCtorEq, exists_false, false_and]
      constructor
      · rintro (h | ⟨h, -⟩)
        · exact Or.inl (Or.inl h)
        · cases h
      · rintro ((h | h) | ⟨-, hnone⟩)
        · exact Or.inl h
        · exact h.elim
        · exact absurd List.mem_cons_self (hnone _)

theorem run_unnoted (rs : List Request) (w : Writer (Device.Noted ω)) :
    run d rs w.unnoted =
      ⟨(run d.noted rs w).exchanges, (run d.noted rs w).sink.unnoted⟩ := by
  induction rs generalizing w with
  | nil => rfl
  | cons r rs ih => simp only [run, perform_unnoted, ih]

theorem map_request_run (rs : List Request) (w : Writer ω) :
    (run d rs w).exchanges.map Exchange.request = rs := by
  induction rs generalizing w with
  | nil => rfl
  | cons r rs ih =>
    rw [run, List.map_cons, ih]
    cases r <;> rfl

/-- What requests to a sink over a device lead to, whatever it does.  The pieces of each period are
written one after another until that fails, and the sink refuses every piece from then on until the
error is taken out.  A front part of all pieces has reached the device if no error is. -/
theorem run_delivers (d : Device ω) (s : ω) (rs : List Request) :
    let r := run d.noted rs (.ofDevice (.start s))
    Periods (periods r.exchanges) r.sink.error r.sink.device.calls ∧
      (r.sink.hasFailed = true ↔ RefusedSince r.exchanges) ∧
      (r.sink.hasFailed = true →
        ∀ piece, (sink d.noted).offer piece r.sink = ⟨false, r.sink, []⟩) ∧
      ((∀ e, .takeError (some e) ∉ r.exchanges) →
        Device.received r.sink.device.calls <+:
          (rs.filterMap Request.piece?).flatMap Text.bytes) ∧
      run d rs (.ofDevice s) = ⟨r.exchanges, r.sink.unnoted⟩ := by
  intro r
  obtain ⟨calls, hcalls, hperiods⟩ :=
    periods_run d rs (w := .ofDevice (.start s)) writes_nothing
  have hcalls : r.sink.device.calls = calls := hcalls
  have hperiods : Periods (periods r.exchanges) r.sink.error r.sink.device.calls :=
    hcalls ▸ hperiods
  refine ⟨hperiods, ?_, fun h => offer_of_hasFailed d.noted h, ?_, ?_⟩
  · have hstart : (ofDevice (Device.Noted.start s)).hasFailed = false := rfl
    rw [hasFailed_run, hstart]
    simp [r]
  · intro hnone
    rw [periods, periodsFrom_of_not_taken hnone, List.nil_append] at hperiods
    have hpieces : r.exchanges.filterMap (·.request.piece?) = rs.filterMap Request.piece? := by
      rw [← map_request_run d.noted rs (.ofDevice (.start s)), List.filterMap_map]
      rfl
    rw [hpieces] at hperiods
    obtain ⟨parts, hreceived, hparts⟩ := hperiods.received
    cases hparts with
    | cons hpart hrest =>
      cases hrest
      rw [hreceived, List.flatten_singleton]
      exact hpart
  · exact run_unnoted d rs (.ofDevice (.start s))

/-- A device that takes four bytes refuses the second of three pieces, and takes the third one after
the error has been taken out. -/
theorem run_writes_again :
    let d : Device Received := Limits.device ⟨some 4, none, false, false⟩
    let r := run d [.write "abc", .write "de", .takeError, .write "f"] (.ofDevice .empty)
    r.exchanges = [.write "abc" true, .write "de" false, .takeError (some (.refused "sink full")),
        .write "f" true] ∧
      r.sink.device.bytes.toList = Text.bytes "abcf" ∧
      ¬Text.bytes "abcf" <+: ["abc", "de", "f"].flatMap Text.bytes := by
  intro d r
  refine ⟨by decide +kernel, by decide +kernel, by decide +kernel⟩

end Writer

end ExprEmit
