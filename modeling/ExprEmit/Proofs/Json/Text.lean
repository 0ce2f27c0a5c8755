import ExprEmit.Json.Printer
import ExprEmit.Json.Text

/-!
# Strings as they are written

A character of a string is written by itself, by an escape of one letter, or by the code unit of a
control character (`escaping_escaped`).  Whatever the characters are, reading what is written gives
them back (`text_escaped`).
-/

namespace ExprEmit.Json

/-- The ways to write a character of a string. -/
inductive Escaping (c : Char) : List Char → Prop where
  /-- By the letter of an escape. -/
  | short {letter : Char} (h : shortEscape? letter = some c) : Escaping c ['\\', letter]
  /-- By two hexadecimal digits, behind two zeros. -/
  | unit (h : c.toNat < 0x20) : Escaping c
      ['\\', 'u', '0', '0', Nat.digitChar (c.toNat / 16), Nat.digitChar (c.toNat % 16)]
  /-- By itself. -/
  | plain (hquote : c ≠ '"') (hbackslash : c ≠ '\\') (hcontrol : isControl c = false) :
      Escaping c [c]

theorem escaping_escaped (c : Char) : Escaping c (escaped c).toList := by
  unfold escaped
  split
  case h_8 =>
    by_cases hcontrol : c.toNat < 0x20
    · have hdigits := Escaping.unit hcontrol
      rw [if_pos hcontrol]
      simpa using hdigits
    · rw [if_neg hcontrol, String.toList_singleton]
      exact .plain ‹_› ‹_› (decide_eq_false hcontrol)
  all_goals exact .short rfl

/-- The hexadecimal digits of a control character are neither quotation marks nor backslashes. -/
theorem digitChar_spec : ∀ n < 16, hexDigit? (Nat.digitChar n) = some n ∧
    Nat.digitChar n ≠ '"' ∧ Nat.digitChar n ≠ '\\' := by
  decide

/-- The code unit of a control character stands for it. -/
theorem codeUnit_control {c : Char} (h : c.toNat < 0x20) (rest : List Char) :
    codeUnit ('0' :: '0' :: Nat.digitChar (c.toNat / 16) :: Nat.digitChar (c.toNat % 16) :: rest) =
      .ok (c.toNat, rest) := by
  have hhigh := (digitChar_spec (c.toNat / 16) (by omega)).1
  have hlow := (digitChar_spec (c.toNat % 16) (by omega)).1
  have hzero : hexDigit? '0' = some 0 := rfl
  have hunit : hexUnit? '0' '0' (Nat.digitChar (c.toNat / 16)) (Nat.digitChar (c.toNat % 16)) =
      some c.toNat := by
    simp only [hexUnit?, hzero, hhigh, hlow, Option.bind_eq_bind, Option.bind_some, Option.pure_def,
      Option.some.injEq]
    omega
  rw [codeUnit, hunit]

/-- Reading goes on behind an escape. -/
theorem text_backslash {s after left ds : List Char} {d : Char} (hescape : escape s = .ok (d, after))
    (hafter : text after = .ok (ds, left)) : text ('\\' :: s) = .ok (d :: ds, left) := by
  rw [text, if_neg (by decide), if_pos rfl]
  split
  · next f hf =>
    rw [hescape] at hf
    cases hf
  · next d' after' hd' =>
    rw [hescape] at hd'
    cases hd'
    rw [hafter]

/-- Reading goes on behind a character, however it is written. -/
theorem text_escaping {c : Char} {w : List Char} (h : Escaping c w) {rest left ds : List Char}
    (hrest : text rest = .ok (ds, left)) : text (w ++ rest) = .ok (c :: ds, left) := by
  cases h with
  | @short letter hletter =>
    refine text_backslash ?_ hrest
    show escape (letter :: rest) = _
    rw [escape, hletter]
  | unit hcontrol =>
    refine text_backslash ?_ hrest
    have hlow : isLowSurrogate c.toNat = false := by
      rw [isLowSurrogate, Bool.and_eq_false_iff]
      exact Or.inl (decide_eq_false (by omega))
    have hhigh : isHighSurrogate c.toNat = false := by
      rw [isHighSurrogate, Bool.and_eq_false_iff]
      exact Or.inl (decide_eq_false (by omega))
    have hunicode : unicodeEscape ('0' :: '0' :: Nat.digitChar (c.toNat / 16) ::
        Nat.digitChar (c.toNat % 16) :: rest) = .ok (c, rest) := by
      rw [unicodeEscape, codeUnit_control hcontrol]
      simp only [hlow, hhigh, Bool.false_eq_true, if_false, Char.ofNat_toNat]
    exact hunicode
  | plain hquote hbackslash hcontrol =>
    rw [List.singleton_append, text, if_neg hquote, if_neg hbackslash, hcontrol, hrest]
    rfl

/-- Reading what is written of a string gives it back. -/
theorem text_escaped (s rest : List Char) :
    text ((s.flatMap fun c => (escaped c).toList) ++ '"' :: rest) = .ok (s, rest) := by
  induction s with
  | nil => rw [List.flatMap_nil, List.nil_append, text, if_pos rfl]
  | cons c s ih =>
    rw [List.flatMap_cons, List.append_assoc]
    exact text_escaping (escaping_escaped c) ih

/-- A string is written between quotation marks. -/
theorem toList_quoted (s : String) :
    (quoted s).toList = '"' :: ((s.toList.flatMap fun c => (escaped c).toList) ++ ['"']) := by
  rw [quoted, String.toList_append, String.toList_append, String.toList_join, List.flatMap_map]
  rfl

end ExprEmit.Json
