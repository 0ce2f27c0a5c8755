import ExprEmit.Command.Disk
import ExprEmit.Proofs.Sink.Storage
import Mathlib.Data.String.Basic

/-!
# Files on a disk

Putting a file where there was a file or nothing changes no way to it (`Disk.Writable.target_put`),
so a unit that is delivered to a file that has just been created ends up there, byte for byte
(`Disk.Writable.deliver`).

A path that is a mere name (`Path.IsName`) leads to what has that name in the working directory: it
is read as what it holds (`Disk.read_of_isName`), and a file can be created there if it holds a file
or nothing (`Disk.writable_of_isName`).
-/

namespace ExprEmit.Command

/-! ### Names as paths -/

namespace Path

open String (utf8Len)

/-- Nothing is split off at a slash where there is none. -/
theorem splitOnAux_of_notMem (before behind : List Char) (h : '/' ∉ behind) :
    (String.ofList (before ++ behind)).splitOnAux "/" 0 ⟨utf8Len before⟩ 0 [] =
      [String.ofList (before ++ behind)] := by
  -- over what is still to be read, which moves into what has been read
  induction behind generalizing before with
  | nil =>
    have hend : String.Pos.Raw.atEnd (String.ofList (before ++ [])) ⟨utf8Len before⟩ :=
      (String.atEnd_of_valid before []).mpr rfl
    have hwhole := String.extract_of_valid [] before []
    rw [String.splitOnAux, if_pos hend]
    simpa using hwhole
  | cons c behind ih =>
    obtain ⟨hc, hbehind⟩ := not_or.mp (List.mem_cons.not.mp h)
    have hend : ¬String.Pos.Raw.atEnd (String.ofList (before ++ c :: behind)) ⟨utf8Len before⟩ :=
      (String.atEnd_of_valid before (c :: behind)).not.mpr (List.cons_ne_nil _ _)
    have hget : String.Pos.Raw.get (String.ofList (before ++ c :: behind)) ⟨utf8Len before⟩ = c :=
      String.get_of_valid before (c :: behind)
    have hslash : String.Pos.Raw.get "/" 0 = '/' := by decide
    have hne : ¬(c == '/') = true := by simpa using Ne.symm hc
    have hstay : String.Pos.Raw.unoffsetBy ⟨utf8Len before⟩ 0 = ⟨utf8Len before⟩ := rfl
    have hrest := ih (before ++ [c]) hbehind
    rw [String.splitOnAux, if_neg hend, hget, hslash, if_neg hne, hstay, String.next_of_valid]
    simpa using hrest

theorem splitOn_of_notMem {s : String} (h : '/' ∉ s.toList) : s.splitOn "/" = [s] := by
  have hparts := splitOnAux_of_notMem [] s.toList h
  rw [List.nil_append, String.ofList_toList] at hparts
  exact hparts

/-- Whether a path is a name, and no more than that. -/
@[mk_iff]
structure IsName (s : String) : Prop where
  slash : '/' ∉ s.toList
  nonempty : s ≠ ""
  here : s ≠ "."
  above : s ≠ ".."
  short : s.utf8ByteSize ≤ longestName

instance : DecidablePred IsName := fun s => decidable_of_iff' _ (isName_iff s)

namespace IsName

variable {s : String}

theorem ofString_eq (h : IsName s) : ofString s = ⟨[], [s], false⟩ := by
  have hstart : s.startsWith "/" = false :=
    String.startsWith_string_eq_false_iff.mpr fun hfix => h.slash (hfix.subset (by simp))
  have hend : s.endsWith "/" = false := by
    rw [← String.endsWith_toSlice, String.Slice.endsWith_string_eq_false_iff, String.copy_toSlice]
    exact fun hfix => h.slash (hfix.subset (by simp))
  simp [ofString, hstart, hend, splitOn_of_notMem h.slash, h.nonempty]

theorem isAbove_eq_false (h : IsName s) : Location.isAbove [s] = false := by
  simp [Location.isAbove, h.above]

theorem goal_eq (h : IsName s) (d : Disk) : d.goal s = .ok ⟨[], s, false⟩ := by
  have hlong : ¬longestPath < s.utf8ByteSize :=
    Nat.not_lt.mpr (Nat.le_trans h.short (by decide))
  have hempty : s.isEmpty = false := by simpa using h.nonempty
  rw [Disk.goal, if_neg hlong, hempty, if_neg Bool.false_ne_true, h.ofString_eq]
  rfl

theorem location_eq (h : IsName s) : Disk.Goal.location ⟨[], s, false⟩ = [s] := by
  unfold Disk.Goal.location Location.step
  split
  · next heq => exact absurd heq h.here
  · next heq => exact absurd heq h.above
  · rfl

end IsName

end Path

namespace Disk

/-! ### Putting something on a disk -/

theorem node?_put_self (d : Disk) {l : Location} (hl : l.isAbove = false) (n : Node) :
    (d.put l n).node? l = some n := by
  rw [node?, hl]
  exact List.lookup_cons_self

theorem lookup_filter_ne {l l' : Location} (h : l' ≠ l) (nodes : List (Location × Node)) :
    (nodes.filter (·.1 != l)).lookup l' = nodes.lookup l' := by
  induction nodes with
  | nil => rfl
  | cons p nodes ih =>
    obtain ⟨l'', n⟩ := p
    by_cases hl'' : l'' = l
    · rw [List.filter_cons_of_neg (by simp [hl'']), ih, List.lookup_cons, hl'', beq_false_of_ne h]
    · rw [List.filter_cons_of_pos (by simp [hl'']), List.lookup_cons, List.lookup_cons, ih]

theorem node?_put_of_ne (d : Disk) {l l' : Location} (h : l' ≠ l) (n : Node) :
    (d.put l n).node? l' = d.node? l' := by
  have hlookup : (d.put l n).nodes.lookup l' = d.nodes.lookup l' := by
    rw [put, List.lookup_cons, beq_false_of_ne h]
    exact lookup_filter_ne h d.nodes
  rw [node?, node?, hlookup]

@[simp] theorem put_put (d : Disk) (l : Location) (m n : Node) :
    (d.put l m).put l n = d.put l n := by
  simp [put, List.filter_filter]

theorem ne_directory_of_file {d : Disk} {l : Location}
    (h : ∀ n, d.node? l = some n → ∃ bytes, n = .file bytes) : d.node? l ≠ some .directory := by
  intro hdirectory
  obtain ⟨bytes, hfile⟩ := h _ hdirectory
  cases hfile

/-- Whether a file can be created at a path, or emptied. -/
structure Writable (d : Disk) (path : String) (l : Location) : Prop where
  target : d.target path = .ok l
  /-- There is no device and no stream, and by `target` no directory. -/
  file : ∀ n, d.node? l = some n → ∃ bytes, n = .file bytes

namespace Writable

variable {d : Disk} {path : String} {l : Location}

theorem node?_ne_directory (h : d.Writable path l) : d.node? l ≠ some .directory :=
  ne_directory_of_file h.file

theorem isAbove_eq_false (h : d.Writable path l) : l.isAbove = false := by
  cases habove : l.isAbove with
  | false => rfl
  | true =>
    have hdirectory : d.node? l = some .directory := by rw [node?, if_pos habove]
    exact absurd hdirectory h.node?_ne_directory

end Writable

/-- Ways through directories stay open. -/
theorem follow_put {d : Disk} {l : Location} (hl : d.node? l ≠ some .directory) (n : Node)
    {parts : List String} {start goal : Location} (h : d.follow start parts = .ok goal) :
    (d.put l n).follow start parts = .ok goal := by
  induction parts generalizing start with
  | nil => exact h
  | cons part parts ih =>
    unfold follow at h ⊢
    by_cases hlong : longestName < part.utf8ByteSize
    · rw [if_pos hlong] at h
      cases h
    · rw [if_neg hlong] at h ⊢
      cases hnode : d.node? (start.step part) with
      | none =>
        rw [hnode] at h
        cases h
      | some m =>
        rw [hnode] at h
        cases m with
        | directory =>
          have hne : start.step part ≠ l := fun heq => hl (heq ▸ hnode)
          rw [node?_put_of_ne d hne, hnode]
          exact ih h
        | file | null | full | output | errors => cases h

theorem goal_put {d : Disk} {l : Location} (hl : d.node? l ≠ some .directory) (n : Node)
    {path : String} {g : Goal} (h : d.goal path = .ok g) : (d.put l n).goal path = .ok g := by
  unfold goal at h ⊢
  by_cases hlong : longestPath < path.utf8ByteSize
  · rw [if_pos hlong] at h
    cases h
  · rw [if_neg hlong] at h ⊢
    cases hempty : path.isEmpty with
    | true =>
      rw [hempty] at h
      cases h
    | false =>
      simp only [hempty, Bool.false_eq_true, if_false] at h ⊢
      cases hfollow : d.follow (Path.ofString path).start (Path.ofString path).parts.dropLast with
      | error e =>
        rw [hfollow] at h
        cases h
      | ok inside =>
        rw [hfollow] at h
        rw [follow_put hl n hfollow]
        exact h

/-- A check lets through what it does not refuse. -/
theorem check_eq_ok_iff {ε α : Type} {p : Prop} [Decidable p] {e : ε} {x : Except ε α} {a : α} :
    (do
      if p then throw e
      x) = Except.ok a ↔ ¬p ∧ x = .ok a := by
  by_cases hp : p
  · rw [if_pos hp]
    exact ⟨nofun, fun h => absurd hp h.1⟩
  · rw [if_neg hp]
    exact ⟨fun h => ⟨hp, h⟩, fun h => h.2⟩

/-- When a path leads to a place for a file. -/
theorem target_eq_ok_iff (d : Disk) (path : String) (l : Location) :
    d.target path = .ok l ↔ ∃ g, d.goal path = .ok g ∧ g.endsInSlash = false ∧
      g.part.utf8ByteSize ≤ longestName ∧ d.node? g.location ≠ some .directory ∧ g.location = l := by
  unfold target
  cases hgoal : d.goal path with
  | error e => exact ⟨nofun, fun ⟨_, h, _⟩ => nomatch h⟩
  | ok g =>
    simp only [Except.ok.injEq, exists_eq_left']
    refine check_eq_ok_iff.trans (and_congr (Bool.not_eq_true _).to_iff ?_)
    refine check_eq_ok_iff.trans (and_congr Nat.not_lt ?_)
    refine check_eq_ok_iff.trans (and_congr Iff.rfl ?_)
    exact ⟨Except.ok.inj, congrArg Except.ok⟩

/-- The way to a file stays the same when the file is replaced. -/
theorem Writable.target_put {d : Disk} {path : String} {l : Location} (h : d.Writable path l)
    (bytes : List UInt8) : (d.put l (.file bytes)).target path = .ok l := by
  obtain ⟨g, hgoal, hslash, hshort, -, rfl⟩ := (target_eq_ok_iff d path l).mp h.target
  rw [target_eq_ok_iff]
  refine ⟨g, goal_put h.node?_ne_directory _ hgoal, hslash, hshort, ?_, rfl⟩
  rw [node?_put_self d h.isAbove_eq_false]
  exact nofun

/-! ### Names in the working directory -/

section

variable {d : Disk} {name : String}

theorem writable_of_isName (h : Path.IsName name)
    (hfile : ∀ n, d.node? [name] = some n → ∃ bytes, n = .file bytes) :
    d.Writable name [name] where
  target := by
    rw [target_eq_ok_iff]
    refine ⟨_, h.goal_eq d, rfl, h.short, ?_, h.location_eq⟩
    rw [h.location_eq]
    exact ne_directory_of_file hfile
  file := hfile

theorem read_of_isName (h : Path.IsName name) {bytes : List UInt8}
    (hfile : d.node? [name] = some (.file bytes)) : d.read name = .ok bytes := by
  have hshort : ¬longestName < name.utf8ByteSize := Nat.not_lt.mpr h.short
  have hnode : d.node? (Goal.location ⟨[], name, false⟩) = some (.file bytes) := by
    rw [h.location_eq, hfile]
  rw [read, h.goal_eq]
  refine check_eq_ok_iff.mpr ⟨hshort, ?_⟩
  rw [hnode]
  rfl

theorem read_withFile (h : Path.IsName name) (bytes : List UInt8) :
    (d.withFile name bytes).read name = .ok bytes :=
  read_of_isName h (node?_put_self d h.isAbove_eq_false _)

end

/-! ### Creating and delivering -/

theorem Writable.create {d : Disk} {path : String} {l : Location} (h : d.Writable path l) :
    d.create path = (.ok ⟨⟩, d.put l (.file [])) := by
  simp only [Disk.create, h.target]
  cases hnode : d.node? l with
  | none => rfl
  | some n =>
    obtain ⟨bytes, rfl⟩ := h.file n hnode
    rfl

/-- A file stores what it is given. -/
theorem stores_device (d : Disk) {l : Location} (hl : l.isAbove = false) :
    (device l).Stores (fun bytes e => e = d.put l (.file bytes))
      (fun bytes e => e = d.put l (.file bytes)) where
  write := by
    rintro held _ rfl bytes
    refine ⟨d.put l (.file (held ++ bytes)), ?_, rfl⟩
    simp only [device, node?_put_self d hl, put_put]
  flush := fun he => ⟨_, rfl, he⟩

/-- Delivering a unit to a file that has been created fills the file. -/
theorem Writable.deliver {d : Disk} {path : String} {l : Location} (h : d.Writable path l)
    (u : Generated) :
    ((d.put l (.file [])).deliver path u).1.result = .ok ⟨⟩ ∧
      ((d.put l (.file [])).deliver path u).2 =
        d.put l (.file (Text.bytes (String.join u.pieces))) := by
  have hstores := Buffered.stores_device (stores_device d h.isAbove_eq_false) bufferSize
  have hempty : Buffered.Holding (fun bytes e => e = d.put l (.file bytes)) []
      ⟨[], d.put l (.file [])⟩ := ⟨[], rfl, rfl⟩
  obtain ⟨hresult, -, hrests⟩ := u.writeInto_stores hstores hempty
  unfold Disk.deliver
  rw [h.target_put]
  exact ⟨hresult, hrests⟩

end Disk

end ExprEmit.Command
