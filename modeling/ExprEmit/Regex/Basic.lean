import ExprEmit.Text.Blank
import ExprEmit.Text.Casing
import ExprEmit.Text.Digit
import ExprEmit.Text.Word

/-!
# Regular expressions

A regular expression describes texts: sets of characters, conditions on the place between two
characters, and sequences, choices and repetitions of these.  `Regex.occursIn` asks whether some
stretch of a text fits; `Regex.reach` finds where stretches that start at given places end.
-/

namespace ExprEmit

/-! ### Characters -/

/-- A set of characters. -/
inductive CharSet where
  /-- The characters of some ranges, given by their first and last code points. -/
  | ranges (rs : List (Nat × Nat))
  | union (a b : CharSet)
  | common (a b : CharSet)
  | without (a b : CharSet)
  /-- What is in one of two sets only. -/
  | either (a b : CharSet)
  | others (a : CharSet)
  /-- A set with the other cases of its letters. -/
  | caseless (a : CharSet)
deriving Inhabited

namespace CharSet

/-- Whether the set holds a code point. -/
def holds : CharSet → Nat → Bool
  | ranges rs, c => rs.any fun r => r.1 ≤ c && c ≤ r.2
  | union a b, c => a.holds c || b.holds c
  | common a b, c => a.holds c && b.holds c
  | without a b, c => a.holds c && !b.holds c
  | either a b, c => a.holds c != b.holds c
  | others a, c => !a.holds c
  | caseless a, c => a.holds c || (Text.alike c).any a.holds

/-- No character. -/
def none : CharSet := ranges []

/-- One character. -/
def single (c : Char) : CharSet := ranges [(c.toNat, c.toNat)]

/-- The decimal digits. -/
def digits : CharSet := ranges Text.digitRanges

/-- White space. -/
def blanks : CharSet := ranges Text.blankRanges

/-- The word characters below U+0080. -/
def asciiWord : CharSet := ranges [(0x30, 0x39), (0x41, 0x5A), (0x5F, 0x5F), (0x61, 0x7A)]

/-- The word characters. -/
def word : CharSet := union asciiWord (ranges Text.wordRanges)

end CharSet

/-! ### Places -/

/-- A condition on the place between two characters. -/
inductive Look where
  | textStart
  | textEnd
  | lineStart
  | lineEnd
  /-- The start of a line, where a carriage return ends lines too. -/
  | lineStartAny
  /-- The end of a line, where a carriage return ends lines too. -/
  | lineEndAny
  /-- Conditions on the word characters before and after the place. -/
  | word (chars : CharSet) (fits : Bool → Bool → Bool)

/-- Whether the condition is met between two characters, or at an end of the text. -/
def Look.meets (before after : Option Char) : Look → Bool
  | textStart => before.isNone
  | textEnd => after.isNone
  | lineStart => before.all (· == '\n')
  | lineEnd => after.all (· == '\n')
  | lineStartAny => before.all fun c => c == '\n' || (c == '\r' && after != some '\n')
  | lineEndAny => after.all fun c => c == '\r' || (c == '\n' && before != some '\r')
  | word chars fits => fits (before.any (chars.holds ·.toNat)) (after.any (chars.holds ·.toNat))

/-! ### Expressions -/

/-- A regular expression. -/
inductive Regex where
  | empty
  | chars (s : CharSet)
  | look (l : Look)
  | cat (a b : Regex)
  | alt (a b : Regex)
  /-- At least `least` and at most `most` times. -/
  | times (a : Regex) (least : Nat) (most : Option Nat)

namespace Regex

instance : Inhabited Regex := ⟨empty⟩

/-- Adds places to those that have been seen, as often as there are new ones, at most `fuel` times. -/
def spread (next : List Nat → List Nat) : (fuel : Nat) → (seen new : List Nat) → List Nat
  | 0, seen, _ => seen
  | _, seen, [] => seen
  | fuel + 1, seen, new =>
    let found := ((next new).filter fun i => !seen.contains i).eraseDups
    spread next fuel (seen ++ found) found

/-- The places that are reached from some places in `n` steps. -/
def stepped (next : List Nat → List Nat) : (n : Nat) → List Nat → List Nat
  | 0, ps => ps
  | n + 1, ps => stepped next n (next ps)

/-- Adds places that are reached in at most `n` steps more. -/
def steppedUpTo (next : List Nat → List Nat) : (n : Nat) → List Nat → List Nat
  | 0, ps => ps
  | n + 1, ps => (ps ++ steppedUpTo next n (next ps)).eraseDups

/-- The places of a text, counted in characters, where stretches that fit end, if they start at one of
the places `ps`.  More steps than the text has places reach nothing new. -/
def reach (text : Array Char) : Regex → (ps : List Nat) → List Nat
  | empty, ps => ps
  | chars s, ps => (ps.filter fun i => text[i]?.any (s.holds ·.toNat)).map (· + 1)
  | look l, ps =>
    ps.filter fun i => l.meets (if i = 0 then none else text[i - 1]?) text[i]?
  | cat a b, ps => reach text b (reach text a ps)
  | alt a b, ps => (reach text a ps ++ reach text b ps).eraseDups
  | times a least most, ps =>
    let enough := text.size + 1
    let first := stepped (reach text a) (min least enough) ps
    match most with
    | none => spread (reach text a) enough first first
    | some most => steppedUpTo (reach text a) (min (most - least) enough) first

/-- Whether a stretch of the text fits the expression. -/
def occursIn (r : Regex) (text : String) : Bool :=
  let chars := text.toList.toArray
  !(r.reach chars (List.range (chars.size + 1))).isEmpty

end Regex

end ExprEmit
