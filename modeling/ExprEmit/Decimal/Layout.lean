import ExprEmit.Decimal.Shortest

/-!
# Layouts of decimals

How a floating-point number is laid out as text: with a point in its place while the exponent of its
first digit stays within bounds, and otherwise with that exponent written behind.
-/

namespace ExprEmit.Decimal

/-- A way to write finite doubles. -/
structure Layout where
  /-- The least exponent of the first digit that is written with a point in place. -/
  least : Int
  /-- The greatest such exponent. -/
  greatest : Int
  /-- Whether a positive exponent has a sign. -/
  plus : Bool
  /-- Which of two equally near decimals is written. -/
  tie : Tie

namespace Layout

/-- `n` zeros. -/
def zeros (n : Nat) : String := String.ofList (List.replicate n '0')

/-- Digits with the point after the digit of exponent 0; the first digit has exponent `e`. -/
def positional (digits : List Char) (e : Int) : String :=
  if e < 0 then "0." ++ zeros (-e - 1).toNat ++ String.ofList digits
  else
    let whole := (e + 1).toNat
    let fraction := digits.drop whole
    String.ofList (digits.take whole) ++ zeros (whole - digits.length) ++ "." ++
      if fraction.isEmpty then "0" else String.ofList fraction

/-- Digits with the point after the first one, and the exponent `e` of that digit. -/
def scientific (plus : Bool) (digits : List Char) (e : Int) : String :=
  let fraction := digits.drop 1
  String.ofList (digits.take 1) ++
    (if fraction.isEmpty then "" else "." ++ String.ofList fraction) ++
    "e" ++ (if e < 0 then "-" else if plus then "+" else "") ++ toString e.natAbs

/-- The text of the double `± m · 2 ^ q`. -/
def text (l : Layout) (negative : Bool) (m : Nat) (q : Int) : String :=
  let sign := if negative then "-" else ""
  if m = 0 then sign ++ "0.0"
  else
    let s := shortest l.tie m q
    let digits := Nat.toDigits 10 s.digits
    let e := s.exponent + digits.length - 1
    sign ++ if l.least ≤ e ∧ e ≤ l.greatest then positional digits e
      else scientific l.plus digits e

end Layout

end ExprEmit.Decimal
