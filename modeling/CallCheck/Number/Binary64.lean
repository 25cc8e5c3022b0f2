/-!
# Finite binary floating-point numbers of 64 bits

A finite double is a sign and `significand * 2 ^ exponent`. Every such number is a whole multiple of
the least positive one, `2 ^ -1074`, so `Binary64.units` maps the doubles into the integers, and the
comparisons, the remainder and the test for a whole number are integer arithmetic on that view.

`Binary64.ofRatio?` rounds a quotient of natural numbers to the nearest double, a tie to the even
significand; decimal literals and integers are read through it.
-/

namespace CallCheck

/-- A finite double: `significand * 2 ^ exponent` with a sign, where the significand is below
`2 ^ 53` and the exponent is the least one unless the significand is at least `2 ^ 52`. -/
structure Binary64 where
  negative : Bool
  significand : Nat
  exponent : Int
  deriving DecidableEq, Inhabited

namespace Binary64

def leastExponent : Int := -1074

def greatestExponent : Int := 971

def zero (negative : Bool) : Binary64 := ⟨negative, 0, leastExponent⟩

/-- How many times the least positive double goes into the magnitude. -/
def magnitude (b : Binary64) : Nat :=
  b.significand * Nat.pow 2 (b.exponent - leastExponent).toNat

/-- The number as a multiple of the least positive double; both zeros give `0`. -/
def units (b : Binary64) : Int :=
  if b.negative then -(b.magnitude : Int) else b.magnitude

/-- How many units make one. -/
def one : Nat := Nat.pow 2 1074

/-- Equality by value: the two zeros are equal, and a number equals itself. -/
def sameValue (a b : Binary64) : Bool := a.units == b.units

theorem sameValue_iff {a b : Binary64} : a.sameValue b = true ↔ a.units = b.units := by
  simp [sameValue]

def isWhole (b : Binary64) : Bool := b.magnitude % one == 0

/-- The quotient of two natural numbers rounded to the nearest one, a half to the even neighbour. -/
def roundQuotient (num den : Nat) : Nat :=
  let q := num / den
  let r := num % den
  if 2 * r < den then q else if den < 2 * r then q + 1 else q + q % 2

/-- The greatest `l` with `2 ^ l ≤ num / den`, for positive `num` and `den`. -/
def binade (num den : Nat) : Int :=
  let l : Int := (Nat.log2 num : Int) - Nat.log2 den
  if den * Nat.pow 2 l.toNat ≤ num * Nat.pow 2 (-l).toNat then l else l - 1

/-- The double nearest to `num / den`, a tie to the even significand; `none` where that is beyond
the largest double. -/
def ofRatio? (negative : Bool) (num den : Nat) : Option Binary64 :=
  if num = 0 then
    some (zero negative)
  else
    let e := max (binade num den - 52) leastExponent
    let m := roundQuotient (num * Nat.pow 2 (-e).toNat) (den * Nat.pow 2 e.toNat)
    let (m, e) := if m = Nat.pow 2 53 then (Nat.pow 2 52, e + 1) else (m, e)
    if greatestExponent < e then none else some ⟨negative, m, e⟩

/-- The double nearest to an integer below `2 ^ 1023` in magnitude. -/
def ofInt (i : Int) : Binary64 :=
  (ofRatio? (decide (i < 0)) i.natAbs 1).getD (zero (decide (i < 0)))

/-- The double nearest to `digits * 10 ^ exponent`. The two early answers keep the powers of ten
small: beyond `10 ^ 400` everything overflows, and below `2 ^ -1100` everything is zero. -/
def ofDecimal? (negative : Bool) (digits : Nat) (exponent : Int) : Option Binary64 :=
  if digits = 0 then
    some (zero negative)
  else if 400 < exponent then
    none
  else if (Nat.log2 digits : Int) + 1 + 3 * exponent < -1100 then
    some (zero negative)
  else
    ofRatio? negative (digits * Nat.pow 10 exponent.toNat) (Nat.pow 10 (-exponent).toNat)

end Binary64

end CallCheck
