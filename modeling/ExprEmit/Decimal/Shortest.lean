/-!
# Shortest decimals

The shortest decimal that reads back as a given binary floating-point number.  The number is taken
apart into `m · 2 ^ q`; every real in its rounding interval reads back as it.  For 1, 2, … digits the
two neighbours of the number on that decimal grid are tested, in exact arithmetic, and the first grid
with a hit gives the answer.
-/

namespace ExprEmit.Decimal

/-- A double-precision number taken apart. -/
inductive Double where
  | nan
  | infinite (negative : Bool)
  /-- `± m · 2 ^ q`. -/
  | finite (negative : Bool) (m : Nat) (q : Int)
deriving DecidableEq, Inhabited

/-- Takes apart the bits of a double: one of sign, 11 of exponent, 52 of fraction. -/
def Double.ofBits (bits : UInt64) : Double :=
  let n := bits.toNat
  let negative := n / Nat.pow 2 63 == 1
  let exponent := n / Nat.pow 2 52 % Nat.pow 2 11
  let fraction := n % Nat.pow 2 52
  if exponent == 2047 then
    if fraction == 0 then .infinite negative else .nan
  else if exponent == 0 then .finite negative fraction (-1074)
  else .finite negative (Nat.pow 2 52 + fraction) (Int.ofNat exponent - 1075)

/-- The decimal `digits · 10 ^ exponent`. -/
structure Scaled where
  digits : Nat
  exponent : Int
deriving DecidableEq, Inhabited

/-- Which of two equally near decimals is taken. -/
inductive Tie where
  /-- The greater one. -/
  | up
  /-- The one whose last digit is even. -/
  | even
deriving DecidableEq, Inhabited

/-! ### Grids -/

/-- The number `x · 2 ^ q`, seen on the decimal grid of step `10 ^ e`, as a quotient. -/
def onGrid (x : Nat) (q e : Int) : Nat × Nat :=
  (x * Nat.pow 2 q.toNat * Nat.pow 10 (-e).toNat, Nat.pow 2 (-q).toNat * Nat.pow 10 e.toNat)

/-- The least `d` with `m · 2 ^ q < 10 ^ d`, for a positive double. -/
def magnitude (m : Nat) (q : Int) : Int :=
  let shift : Nat := 350
  let scaled := onGrid m q (-shift)
  ((Nat.toDigits 10 (scaled.1 / scaled.2)).length : Int) - shift

/-- The ends of the rounding interval of `m · 2 ^ q`, in units of `2 ^ (q - 2)`: half a unit to each
side, but a quarter below where the doubles get denser. -/
def interval (m : Nat) (q : Int) : Nat × Nat :=
  (4 * m - (if m = Nat.pow 2 52 ∧ -1074 < q then 1 else 2), 4 * m + 2)

/-- Whether the grid point `c` of step `10 ^ e` reads back as `m · 2 ^ q`. -/
def readsBack (m : Nat) (q e : Int) (c : Nat) : Bool :=
  let ends := interval m q
  let lower := onGrid ends.1 (q - 2) e
  let upper := onGrid ends.2 (q - 2) e
  if m % 2 = 0 then lower.1 ≤ c * lower.2 && c * upper.2 ≤ upper.1
  else lower.1 < c * lower.2 && c * upper.2 < upper.1

/-- The grid point next to `m · 2 ^ q` that reads back as it, the nearer one if both do. -/
def neighbour? (tie : Tie) (m : Nat) (q e : Int) : Option Nat :=
  let v := onGrid m q e
  let low := v.1 / v.2
  match readsBack m q e low && low != 0, readsBack m q e (low + 1) with
  | false, false => none
  | true, false => some low
  | false, true => some (low + 1)
  | true, true =>
    let twice := 2 * v.1
    let middle := (2 * low + 1) * v.2
    if twice < middle then some low
    else if middle < twice then some (low + 1)
    else
      match tie with
      | .up => some (low + 1)
      | .even => if low % 2 = 0 then some low else some (low + 1)

/-! ### The shortest decimal -/

/-- The first hit on the grids of `n`, `n + 1`, … digits, trying `fuel` of them. -/
def firstHit (tie : Tie) (m : Nat) (q : Int) (d : Int) : (n fuel : Nat) → Scaled
  | _, 0 => ⟨0, 0⟩
  | n, fuel + 1 =>
    match neighbour? tie m q (d - n) with
    | some c => ⟨c, d - n⟩
    | none => firstHit tie m q d (n + 1) fuel

/-- Moves the zeros at the end of the digits into the exponent. -/
def stripZeros (s : Scaled) : Scaled :=
  if h : s.digits ≠ 0 ∧ s.digits % 10 = 0 then stripZeros ⟨s.digits / 10, s.exponent + 1⟩ else s
termination_by s.digits
decreasing_by omega

/-- The shortest decimal that reads back as the positive double `m · 2 ^ q`.  Seventeen digits are
always enough. -/
def shortest (tie : Tie) (m : Nat) (q : Int) : Scaled :=
  stripZeros (firstHit tie m q (magnitude m q) 1 17)

end ExprEmit.Decimal
