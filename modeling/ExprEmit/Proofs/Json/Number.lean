import ExprEmit.Proofs.Json.Reads
import Mathlib.Data.List.TakeDrop

/-!
# Integers as they are written

An integer is written by its decimal digits without leading zeros, and a negative one by a hyphen in
front of them.  Reading it gives it back, up to the limits of 64 bits (`reads_int64`, `reads_natural`).
-/

namespace ExprEmit.Json

open Json.Reader

/-! ### Digits -/

theorem le_ofDigitChars (n : Nat) (ds : List Char) : n ≤ Nat.ofDigitChars 10 ds n := by
  induction ds generalizing n with
  | nil => exact Nat.le_refl n
  | cons d ds ih =>
    have := ih (10 * n + (d.toNat - '0'.toNat))
    rw [Nat.ofDigitChars_cons]
    omega

/-- All digits are absorbed if the number stays below the limit. -/
theorem absorb_of_lt {limit n : Nat} {ds : List Char} (h : Nat.ofDigitChars 10 ds n < limit) :
    absorb limit n ds = (Nat.ofDigitChars 10 ds n, []) := by
  induction ds generalizing n with
  | nil => rfl
  | cons d ds ih =>
    rw [Nat.ofDigitChars_cons] at h ⊢
    -- the number only grows with its digits, so it stays below the limit at each of them
    have hle := le_ofDigitChars (10 * n + digitValue d) ds
    have hfits : 10 * n + digitValue d < limit := Nat.lt_of_le_of_lt hle h
    rw [absorb, if_pos hfits]
    exact ih h

/-- The digits of a number other than zero do not start with zero. -/
theorem head?_toDigits_ne {n : Nat} (h : n ≠ 0) : (Nat.toDigits 10 n).head? ≠ some '0' := by
  induction n using Nat.strongRecOn with
  | ind n ih =>
    by_cases hlt : n < 10
    · have hdigit : ∀ n < 10, n ≠ 0 → Nat.digitChar n ≠ '0' := by decide
      rw [Nat.toDigits_of_lt_base hlt]
      exact fun heq => hdigit n hlt h (Option.some.inj heq)
    · have hrest := ih (n / 10) (by omega) (by omega)
      rw [Nat.toDigits_of_base_le (by decide) (by omega)]
      cases hdigits : Nat.toDigits 10 (n / 10) with
      | nil => exact absurd hdigits Nat.toDigits_ne_nil
      | cons d ds =>
        rw [hdigits] at hrest
        exact hrest

theorem not_isDigit_of_stops {rest : List Char} (h : Stops rest) :
    rest.head?.any Char.isDigit = false := by
  cases rest with
  | nil => rfl
  | cons c rest =>
    rcases h c rfl with rfl | rfl | rfl <;> rfl

theorem span_toDigits (n : Nat) {rest : List Char} (h : Stops rest) :
    (Nat.toDigits 10 n ++ rest).span Char.isDigit = (Nat.toDigits 10 n, rest) := by
  have hdigits : ∀ c ∈ Nat.toDigits 10 n, c.isDigit = true :=
    fun c hc => Nat.isDigit_of_mem_toDigits (by decide) (by decide) hc
  have hstop := not_isDigit_of_stops h
  rw [List.span_eq_takeWhile_dropWhile, List.takeWhile_append_of_pos hdigits,
    List.dropWhile_append_of_pos hdigits]
  cases rest with
  | nil => rw [List.takeWhile_nil, List.dropWhile_nil, List.append_nil]
  | cons c rest =>
    have hc : c.isDigit = false := hstop
    rw [List.takeWhile_cons_of_neg (by simp [hc]), List.dropWhile_cons_of_neg (by simp [hc]),
      List.append_nil]

/-! ### Numbers -/

/-- Behind the digits of an integer nothing belongs to it. -/
theorem numberTail_toDigits (isNegative : Bool) {n : Nat} (hn : n < UInt64.size) {rest : List Char}
    (h : Stops rest) :
    numberTail isNegative (Nat.toDigits 10 n) rest = .ok (.ofInteger isNegative n, rest) := by
  have habsorb : absorb significandLimit 0 (Nat.toDigits 10 n) = (n, []) := by
    rw [absorb_of_lt (by rw [Nat.ofDigitChars_ten_toDigits]; exact hn),
      Nat.ofDigitChars_ten_toDigits]
  rw [numberTail, habsorb]
  cases rest with
  | nil => rfl
  | cons c rest => rcases h c rfl with rfl | rfl | rfl <;> rfl

theorem number_toDigits (isNegative : Bool) {n : Nat} (hn : n < UInt64.size) {rest : List Char}
    (h : Stops rest) :
    number isNegative (Nat.toDigits 10 n ++ rest) = .ok (.ofInteger isNegative n, rest) := by
  have htail := numberTail_toDigits isNegative hn h
  -- a zero in front is read as the whole number
  by_cases hzero : n = 0
  · subst hzero
    have hstop := not_isDigit_of_stops h
    rw [Nat.toDigits_zero] at htail ⊢
    rw [List.singleton_append, number, if_pos rfl, hstop, if_neg Bool.false_ne_true]
    exact htail
  · cases hdigits : Nat.toDigits 10 n with
    | nil => exact absurd hdigits Nat.toDigits_ne_nil
    | cons c cs =>
      have hc : c.isDigit = true :=
        Nat.isDigit_of_mem_toDigits (by decide) (by decide) (hdigits ▸ List.mem_cons_self)
      have hfirst : c ≠ '0' := by
        intro heq
        apply head?_toDigits_ne hzero
        rw [hdigits, heq]
        rfl
      have hspan := span_toDigits n h
      rw [hdigits, List.cons_append] at hspan
      rw [List.cons_append, number, if_neg hfirst, if_pos hc, hspan, ← hdigits]
      exact htail

/-! ### Integers -/

theorem isBlank_of_startsNumber {c : Char} (h : Reader.startsNumber c = true) : isBlank c = false := by
  cases hblank : isBlank c with
  | false => rfl
  | true =>
    simp only [isBlank, Bool.or_eq_true, beq_iff_eq] at hblank
    rcases hblank with ((rfl | rfl) | rfl) | rfl <;> exact absurd h (by decide)

variable {α : Type} {wanted : String} {accept : Int → Option α} {a : α}

/-- A natural number within 64 bits is read if it is accepted. -/
theorem reads_natural {n : Nat} (hn : n < UInt64.size) (ha : accept n = some a) :
    Reads (integer wanted accept) (Nat.toDigits 10 n) a := by
  intro rest hrest
  have hnumber := number_toDigits false hn hrest
  cases hdigits : Nat.toDigits 10 n with
  | nil => exact absurd hdigits Nat.toDigits_ne_nil
  | cons c cs =>
    have hdigit : c.isDigit = true :=
      Nat.isDigit_of_mem_toDigits (by decide) (by decide) (hdigits ▸ List.mem_cons_self)
    have hstarts : Reader.startsNumber c = true := by rw [Reader.startsNumber, hdigit, Bool.or_true]
    have hhyphen : c ≠ '-' := fun heq => absurd (heq ▸ hdigit) (by decide)
    rw [hdigits, List.cons_append] at hnumber
    have hfrom : numberFrom c (c :: (cs ++ rest)) = .ok (.natural n) rest := by
      rw [numberFrom, if_neg hhyphen, ofStep, hnumber]
      rfl
    rw [List.cons_append, integer, value_cons (isBlank_of_startsNumber hstarts), if_pos hstarts]
    refine (bind_of_ok hfrom).trans ?_
    show integer.taken wanted accept n rest = _
    rw [integer.taken, ha]
    rfl

/-- A negative number within 64 bits is read if it is accepted. -/
theorem reads_negative {n : Nat} (hzero : n ≠ 0) (hn : n ≤ Nat.pow 2 63)
    (ha : accept (-n) = some a) : Reads (integer wanted accept) ('-' :: Nat.toDigits 10 n) a := by
  intro rest hrest
  have hnumber := number_toDigits true (Nat.lt_of_le_of_lt hn (by decide)) hrest
  have hinteger : Number.ofInteger true n = .negative (-n) := by
    rw [Number.ofInteger, if_pos rfl, if_pos ⟨hzero, hn⟩]
  have hfrom : numberFrom '-' ('-' :: (Nat.toDigits 10 n ++ rest)) = .ok (.negative (-n)) rest := by
    rw [numberFrom, if_pos rfl, advance_bind, ofStep, hnumber, hinteger]
  have hstarts : Reader.startsNumber '-' = true := rfl
  rw [List.cons_append, integer, value_cons rfl, if_pos hstarts]
  refine (bind_of_ok hfrom).trans ?_
  show integer.taken wanted accept (-n) rest = _
  rw [integer.taken, ha]
  rfl

theorem toList_toString (n : Nat) : (toString n).toList = Nat.toDigits 10 n := by
  rw [Nat.toString_eq_ofList_toDigits, String.toList_ofList]

theorem reads_int64 (n : Int64) : Reads int64 (toString n.toInt).toList n := by
  have hlower := n.le_toInt
  have hupper := n.toInt_lt
  have hlimit : Nat.pow 2 63 = 9223372036854775808 := rfl
  have hsize : UInt64.size = 18446744073709551616 := rfl
  have haccept : (if Int64.minValue.toInt ≤ n.toInt ∧ n.toInt ≤ Int64.maxValue.toInt then
      some (Int64.ofInt n.toInt) else none) = some n := by
    have hmin : Int64.minValue.toInt = -2 ^ 63 := rfl
    have hmax : Int64.maxValue.toInt = 2 ^ 63 - 1 := rfl
    rw [if_pos (by omega), Int64.ofInt_toInt]
  cases hn : n.toInt with
  | ofNat m =>
    rw [hn] at haccept
    have htext : (toString (Int.ofNat m)).toList = Nat.toDigits 10 m := toList_toString m
    have hm : n.toInt = (m : Int) := hn
    rw [htext]
    exact reads_natural (by omega) haccept
  | negSucc m =>
    rw [hn] at haccept
    have htext : (toString (Int.negSucc m)).toList = '-' :: Nat.toDigits 10 (m + 1) := by
      rw [← toList_toString]
      exact String.toList_append
    rw [htext]
    exact reads_negative (by omega) (by omega) haccept

theorem natural64?_toNat (n : UInt64) : natural64? n.toNat = some n := by
  have hn := n.toNat_lt
  rw [natural64?, if_pos ⟨by omega, by exact_mod_cast hn⟩, Int.toNat_natCast, UInt64.ofNat_toNat]

theorem reads_uint64 (n : UInt64) : Reads uint64 (toString n.toNat).toList n := by
  rw [toList_toString]
  exact reads_natural n.toNat_lt (natural64?_toNat n)

theorem reads_count (n : UInt64) : Reads count (toString n.toNat).toList n := by
  rw [toList_toString]
  exact reads_natural n.toNat_lt (natural64?_toNat n)

end ExprEmit.Json
