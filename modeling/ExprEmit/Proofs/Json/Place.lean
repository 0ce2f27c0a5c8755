import ExprEmit.Json.Fault
import ExprEmit.Json.Place
import ExprEmit.Proofs.Bytes
import Mathlib.Data.List.DropRight

/-!
# Places and the bytes at them

A place is found from an offset by counting line breaks (`Place.ofOffset`), and a byte is found from
a line and a column by adding up the sizes of the lines before it (`Place.span`).  The two are
inverse to each other at every offset of a text, its end included, and no line or column leads out
of the text (`Place.span_ofOffset`).

The bytes in front of an offset are a number of whole lines and the beginning of another line.  Both
directions go through this division: the line breaks are all in the first part, and the column is
the length of the second.
-/

namespace ExprEmit

namespace Place

/-! ### Whole lines -/

/-- Whether the bytes are lines with their line breaks. -/
def AreLines (bytes : List UInt8) : Prop := ∀ h : bytes ≠ [], bytes.getLast h = lineBreak

theorem AreLines.tail {b : UInt8} {bytes : List UInt8} (h : AreLines (b :: bytes)) :
    AreLines bytes := by
  intro hne
  rw [← h (List.cons_ne_nil b bytes), List.getLast_cons hne]

/-- What comes behind a byte inside a line goes on to a line break. -/
theorem AreLines.lineBreak_mem {b : UInt8} {bytes : List UInt8} (h : AreLines (b :: bytes))
    (hb : b ≠ lineBreak) : lineBreak ∈ bytes := by
  have hlast := h (List.cons_ne_nil b bytes)
  cases bytes with
  | nil => exact absurd hlast hb
  | cons c bytes =>
    rw [← hlast, List.getLast_cons (List.cons_ne_nil c bytes)]
    exact List.getLast_mem _

/-- The first lines of a text have the size of what they are made of. -/
theorem linesSize_append {bytes : List UInt8} (h : AreLines bytes) (rest : List UInt8) :
    linesSize (bytes.count lineBreak) (bytes ++ rest) = bytes.length := by
  induction bytes with
  | nil => simp [linesSize]
  | cons b bytes ih =>
    have hbytes := ih h.tail
    by_cases hb : b = lineBreak
    · rw [hb, List.count_cons_self, List.cons_append, linesSize, if_pos rfl, hbytes,
        List.length_cons, Nat.add_comm]
    · -- the line goes on, so it is not the last of the lines that are counted
      obtain ⟨n, hn⟩ := Nat.exists_eq_succ_of_ne_zero
        (List.count_pos_iff.mpr (h.lineBreak_mem hb)).ne'
      rw [hn] at hbytes
      rw [List.count_cons_of_ne hb, hn, List.cons_append, linesSize, if_neg hb, hbytes,
        List.length_cons, Nat.add_comm]

/-! ### Moving over bytes -/

theorem after_append (p : Place) (bytes rest : List UInt8) :
    p.after (bytes ++ rest) = (p.after bytes).after rest := by
  induction bytes generalizing p with
  | nil => rfl
  | cons b bytes ih =>
    rw [List.cons_append, after, after]
    split <;> exact ih _

/-- Inside a line every byte is a column. -/
theorem after_of_notMem {bytes : List UInt8} (h : lineBreak ∉ bytes) (p : Place) :
    p.after bytes = ⟨p.line, p.column + bytes.length⟩ := by
  induction bytes generalizing p with
  | nil => rfl
  | cons b bytes ih =>
    rw [List.mem_cons, not_or] at h
    rw [after, if_neg (Ne.symm h.1), ih h.2, List.length_cons, Nat.add_comm bytes.length,
      Nat.add_assoc]

/-- Behind whole lines a new line starts. -/
theorem after_of_areLines {bytes : List UInt8} (h : AreLines bytes) (p : Place) :
    p.after bytes = ⟨p.line + bytes.count lineBreak, if bytes = [] then p.column else 0⟩ := by
  induction bytes generalizing p with
  | nil => rfl
  | cons b bytes ih =>
    by_cases hb : b = lineBreak
    · rw [after, if_pos hb, ih h.tail, hb, List.count_cons_self]
      simp [Nat.add_comm, Nat.add_left_comm]
    · have hne : bytes ≠ [] := List.ne_nil_of_mem (h.lineBreak_mem hb)
      rw [after, if_neg hb, ih h.tail, List.count_cons_of_ne hb, if_neg hne, if_neg nofun]

/-! ### Lines of characters -/

/-- The lines of a text, each with its line break. -/
def lines : List Char → List (List Char)
  | [] => []
  | c :: cs =>
    if c = '\n' then [c] :: lines cs
    else
      match lines cs with
      | [] => [[c]]
      | line :: more => (c :: line) :: more

/-- Only a line break is written with the byte of one. -/
theorem lineBreak_notMem_utf8EncodeChar {c : Char} (hc : c ≠ '\n') :
    lineBreak ∉ String.utf8EncodeChar c := by
  have hval : c.val.toNat ≠ 10 := fun h => hc (Char.ext (UInt32.toNat_inj.mp h))
  have hbyte : ∀ n, n % 256 ≠ 10 → lineBreak ≠ UInt8.ofNat n := by
    rintro n hn h
    have := congrArg UInt8.toNat h
    rw [UInt8.toNat_ofNat'] at this
    exact hn this.symm
  unfold String.utf8EncodeChar
  dsimp only
  split_ifs <;> simp only [List.mem_cons, List.not_mem_nil, or_false, not_or]
  · exact hbyte _ (by omega)
  · exact ⟨hbyte _ (by omega), hbyte _ (by omega)⟩
  · exact ⟨hbyte _ (by omega), hbyte _ (by omega), hbyte _ (by omega)⟩
  · exact ⟨hbyte _ (by omega), hbyte _ (by omega), hbyte _ (by omega), hbyte _ (by omega)⟩

/-- Inside a line every byte counts. -/
theorem linesSize_append_of_notMem {bytes : List UInt8} (h : lineBreak ∉ bytes) (n : Nat)
    (rest : List UInt8) :
    linesSize (n + 1) (bytes ++ rest) = bytes.length + linesSize (n + 1) rest := by
  induction bytes with
  | nil => exact (Nat.zero_add _).symm
  | cons b bytes ih =>
    rw [List.mem_cons, not_or] at h
    rw [List.cons_append, linesSize, if_neg (Ne.symm h.1), ih h.2, List.length_cons]
    omega

theorem byteCount_cons (c : Char) (s : List Char) :
    Json.byteCount (c :: s) = c.utf8Size + Json.byteCount s := rfl

/-- The size of the first lines of a text is that of their characters. -/
theorem linesSize_flatMap (n : Nat) (s : List Char) :
    linesSize n (s.flatMap String.utf8EncodeChar) =
      Json.byteCount ((lines s).take n).flatten := by
  induction s generalizing n with
  | nil => cases n <;> rfl
  | cons c s ih =>
    rw [List.flatMap_cons]
    cases n with
    | zero => simp [linesSize, Json.byteCount]
    | succ n =>
      by_cases hc : c = '\n'
      · have hbyte : String.utf8EncodeChar c = [lineBreak] := by rw [hc]; rfl
        have hsize : c.utf8Size = 1 := by rw [hc]; rfl
        rw [hbyte, List.singleton_append, linesSize, if_pos rfl, ih, lines, if_pos hc,
          List.take_succ_cons, List.flatten_cons, List.singleton_append, byteCount_cons, hsize]
      · have hline := ih (n + 1)
        rw [linesSize_append_of_notMem (lineBreak_notMem_utf8EncodeChar hc), hline,
          String.length_utf8EncodeChar, lines, if_neg hc]
        -- the character is a line by itself, or the first of the next line
        cases lines s with
        | nil => simp [byteCount_cons]
        | cons line more => simp [byteCount_cons]

/-! ### The bytes in front of an offset -/

section Offset

variable (bytes : List UInt8)

/-- The whole lines at the start of the bytes. -/
def wholeLines : List UInt8 := bytes.rdropWhile (· ≠ lineBreak)

/-- The beginning of a line at the end of the bytes. -/
def openLine : List UInt8 := bytes.rtakeWhile (· ≠ lineBreak)

theorem wholeLines_append_openLine : wholeLines bytes ++ openLine bytes = bytes :=
  List.rdropWhile_append_rtakeWhile

theorem areLines_wholeLines : AreLines (wholeLines bytes) := by
  intro h
  have hlast := List.rdropWhile_last_not _ _ h
  rwa [decide_eq_true_eq, not_not] at hlast

theorem lineBreak_notMem_openLine : lineBreak ∉ openLine bytes := by
  intro h
  simpa using List.mem_rtakeWhile_imp h

/-- All line breaks are in the whole lines. -/
theorem count_wholeLines : (wholeLines bytes).count lineBreak = bytes.count lineBreak := by
  have hsplit := congrArg (List.count lineBreak) (wholeLines_append_openLine bytes)
  rwa [List.count_append, List.count_eq_zero.mpr (lineBreak_notMem_openLine bytes),
    Nat.add_zero] at hsplit

/-- A place counts the line breaks in front of it, and the bytes behind the last of them. -/
theorem ofOffset_eq (i : Nat) :
    ofOffset bytes i = ⟨1 + (bytes.take i).count lineBreak, (openLine (bytes.take i)).length⟩ := by
  rw [ofOffset, ← wholeLines_append_openLine (bytes.take i), after_append,
    after_of_areLines (areLines_wholeLines _), after_of_notMem (lineBreak_notMem_openLine _),
    wholeLines_append_openLine, count_wholeLines]
  simp

/-- The line of an offset starts as many bytes before it as its column says. -/
theorem linesSize_add_length_openLine {i : Nat} (hi : i ≤ bytes.length) :
    linesSize ((bytes.take i).count lineBreak) bytes + (openLine (bytes.take i)).length = i := by
  have hsplit : wholeLines (bytes.take i) ++ (openLine (bytes.take i) ++ bytes.drop i) = bytes := by
    rw [← List.append_assoc, wholeLines_append_openLine, List.take_append_drop]
  have hlines := linesSize_append (areLines_wholeLines (bytes.take i))
    (openLine (bytes.take i) ++ bytes.drop i)
  rw [hsplit, count_wholeLines] at hlines
  rw [hlines, ← List.length_append, wholeLines_append_openLine, List.length_take_of_le hi]

end Offset

/-! ### Spans -/

/-- The line and the column of an offset, both counted from 1, lead back to the byte behind it, which
the end of the text does not have.  No other line or column leads out of the text: the span of one
starts where the column is behind the lines before, or else at the end of the text, and holds one
byte at most. -/
theorem span_ofOffset (source : String) :
    let bytes := Text.bytes source
    (∀ i ≤ bytes.length,
      let line := 1 + (bytes.take i).count lineBreak
      let column := 1 + ((bytes.take i).rtakeWhile (· ≠ lineBreak)).length
      ofOffset bytes i = ⟨line, column - 1⟩ ∧
        span bytes line column = some (i, if i = bytes.length then i else i + 1)) ∧
      ∀ line column, 1 ≤ line →
        let before := Json.byteCount ((lines source.toList).take (line - 1)).flatten
        ∃ start stop, span bytes line column = some (start, stop) ∧
          start = min (before + (column - 1)) bytes.length ∧
          start ≤ stop ∧ stop ≤ bytes.length ∧ stop - start ≤ 1 := by
  intro bytes
  constructor
  · intro i hi line column
    have hcolumn : column - 1 = (openLine (bytes.take i)).length := Nat.add_sub_cancel_left 1 _
    have hoffset := linesSize_add_length_openLine bytes hi
    constructor
    · rw [ofOffset_eq, hcolumn]
    · have hstop : min (i + 1) bytes.length = if i = bytes.length then i else i + 1 := by
        split_ifs <;> omega
      rw [span, if_neg (by omega), hcolumn, Nat.add_sub_cancel_left, hoffset, Nat.min_eq_left hi]
      simp only [hstop]
  · intro line column hline before
    have hbefore : linesSize (line - 1) bytes = before := by
      rw [show bytes = _ from Text.bytes_eq_flatMap source]
      exact linesSize_flatMap _ _
    rw [span, if_neg (by omega), hbefore]
    exact ⟨_, _, rfl, rfl, by omega⟩

/-- Behind a letter of two bytes and an empty line comes the third line, and a span of its first
byte; the column behind the last byte has an empty one. -/
theorem span_ofOffset_lines :
    let bytes := Text.bytes "é\n\nx"
    4 ≤ bytes.length ∧ ofOffset bytes 4 = ⟨3, 0⟩ ∧ span bytes 3 1 = some (4, 5) ∧
      5 ≤ bytes.length ∧ ofOffset bytes 5 = ⟨3, 1⟩ ∧ span bytes 3 2 = some (5, 5) ∧
      ∃ start stop, span bytes 2 9 = some (start, stop) ∧ stop ≤ 5 := by
  intro bytes
  have hbytes : bytes = [195, 169, 10, 10, 120] := Text.bytes_eq_flatMap _
  obtain ⟨hoffset, hspan⟩ := span_ofOffset "é\n\nx"
  have hlength : bytes.length = 5 := by rw [hbytes]; rfl
  obtain ⟨hplace, hbyte⟩ := hoffset 4 (hlength ▸ by decide)
  obtain ⟨hplace', hbyte'⟩ := hoffset 5 hlength.ge
  obtain ⟨start, stop, h, -, -, hstop, -⟩ := hspan 2 9 (by decide)
  rw [show Text.bytes _ = _ from hbytes] at hplace hbyte hplace' hbyte' h hstop
  rw [hbytes]
  exact ⟨by decide, hplace, hbyte, by decide, hplace', hbyte', start, stop, h, hstop⟩

end Place

end ExprEmit
