import CallCheck.Number.Binary64

/-!
# Shortest decimal digits of a double

`Binary64.shortest` gives the fewest decimal digits that read back as the same double, and of those
the nearest to it. The reals that round to a double form an interval around it; for 1, 2, … 17
digits the two neighbours of the double on that decimal grid are tried against the interval in exact
arithmetic, and the first grid with a hit wins.

Two ways of writing the digits follow: `Binary64.plain` never uses an exponent, and
`Binary64.scientific` does outside the decimal exponents `-5 … 15`.
-/

namespace CallCheck

/-- The number `digits * 10 ^ exponent`. -/
structure Decimal where
  digits : Nat
  exponent : Int
  deriving DecidableEq, Inhabited

namespace Decimal

/-- Moves the zeros at the end of the digits into the exponent, at most `fuel` of them. -/
def stripZeros : Nat → Decimal → Decimal
  | 0, d => d
  | fuel + 1, d =>
    if d.digits ≠ 0 ∧ d.digits % 10 = 0 then stripZeros fuel ⟨d.digits / 10, d.exponent + 1⟩ else d

end Decimal

namespace Binary64

/-- The interval of the reals that round to a double, in quarters of its last place: its lower end,
the double and its upper end are `low`, `mid` and `high` times `num / den`. The interval holds its
ends when the significand is even. -/
structure Surroundings where
  low : Nat
  mid : Nat
  high : Nat
  num : Nat
  den : Nat
  closed : Bool

/-- The surroundings of a double. The lower neighbour is half as far away at a power of two. -/
def surroundings (b : Binary64) : Surroundings :=
  let m := b.significand
  let near := m = Nat.pow 2 52 ∧ leastExponent < b.exponent
  { low := if near then 4 * m - 1 else 4 * m - 2
    mid := 4 * m
    high := 4 * m + 2
    num := Nat.pow 2 (b.exponent - 2).toNat
    den := Nat.pow 2 (2 - b.exponent).toNat
    closed := m % 2 = 0 }

namespace Surroundings

def holds (s : Surroundings) (d : Decimal) : Bool :=
  let x := d.digits * Nat.pow 10 d.exponent.toNat * s.den
  let unit := s.num * Nat.pow 10 (-d.exponent).toNat
  if s.closed then s.low * unit ≤ x && x ≤ s.high * unit
  else s.low * unit < x && x < s.high * unit

/-- The greatest grid point `digits * 10 ^ exponent` that is at most the double. -/
def below (s : Surroundings) (exponent : Int) : Decimal :=
  ⟨s.mid * s.num * Nat.pow 10 (-exponent).toNat / (Nat.pow 10 exponent.toNat * s.den), exponent⟩

/-- The nearer of the two neighbours of the double on the grid of `10 ^ exponent` that lie in the
interval; of two equally near ones the even one. -/
def nearest (s : Surroundings) (exponent : Int) : Option Decimal :=
  let lower := s.below exponent
  let upper : Decimal := ⟨lower.digits + 1, exponent⟩
  match s.holds lower, s.holds upper with
  | false, false => none
  | true, false => some lower
  | false, true => some upper
  | true, true =>
    let twice := 2 * (s.mid * s.num * Nat.pow 10 (-exponent).toNat)
    let middle := (2 * lower.digits + 1) * (Nat.pow 10 exponent.toNat * s.den)
    if twice < middle then some lower
    else if middle < twice then some upper
    else some (if lower.digits % 2 = 0 then lower else upper)

def search (s : Surroundings) : Nat → Int → Decimal
  | 0, exponent => s.below exponent
  | fuel + 1, exponent => (s.nearest exponent).getD (search s fuel (exponent - 1))

/-- The greatest `k` with `10 ^ k` at most the double, found from an estimate that is too small by
at most two. -/
def leadingPlace (s : Surroundings) : Int :=
  let estimate : Int :=
    ((Nat.log2 (s.mid * s.num) : Int) - Nat.log2 s.den - 1) * 30103 / 100000 - 1
  let reaches (k : Int) : Bool :=
    Nat.pow 10 k.toNat * s.den ≤ s.mid * s.num * Nat.pow 10 (-k).toNat
  if reaches (estimate + 2) then estimate + 2
  else if reaches (estimate + 1) then estimate + 1
  else estimate

end Surroundings

/-- The fewest digits that read back as the double, without zeros at the end. -/
def shortest (b : Binary64) : Decimal :=
  if b.significand = 0 then ⟨0, 0⟩
  else
    let s := b.surroundings
    (s.search 17 s.leadingPlace).stripZeros 20

def sign (b : Binary64) : String := if b.negative then "-" else ""

def zeros (n : Nat) : String := String.ofList (List.replicate n '0')

/-- The digits with a point after the first `n` of them. -/
def pointAfter (digits : List Char) (n : Nat) : String :=
  String.ofList (digits.take n ++ '.' :: digits.drop n)

/-- Positional notation at every magnitude, without a fraction for a whole number. -/
def plain (b : Binary64) : String :=
  let d := b.shortest
  let digits := (Nat.toDigits 10 d.digits)
  let point := (digits.length : Int) + d.exponent
  b.sign ++
    if 0 ≤ d.exponent then String.ofList digits ++ zeros d.exponent.toNat
    else if 0 < point then pointAfter digits point.toNat
    else "0." ++ zeros (-point).toNat ++ String.ofList digits

/-- Positional notation with at least one place while the decimal exponent is in `-5 … 15`, and one
digit, a fraction and a signed exponent beyond. -/
def scientific (b : Binary64) : String :=
  let d := b.shortest
  let digits := (Nat.toDigits 10 d.digits)
  let point := (digits.length : Int) + d.exponent
  b.sign ++
    if 0 ≤ d.exponent ∧ point ≤ 16 then String.ofList digits ++ zeros d.exponent.toNat ++ ".0"
    else if 0 < point ∧ point ≤ 16 then pointAfter digits point.toNat
    else if -5 < point ∧ point ≤ 0 then
      "0." ++ zeros (-point).toNat ++ String.ofList digits
    else
      let mantissa := if digits.length = 1 then String.ofList digits else pointAfter digits 1
      let e := point - 1
      mantissa ++ "e" ++ (if 0 < e then "+" else "") ++ toString e

def withFraction (b : Binary64) : String :=
  if b.isWhole then b.plain ++ ".0" else b.plain

end Binary64

end CallCheck
