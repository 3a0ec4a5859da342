/-!
# Binary64 values

Finite IEEE 754 double-precision values, kept as a sign, a biased exponent and a 52-bit
fraction. Every operation here is exact rational arithmetic followed by one rounding to the
nearest value, a tie going to the value with an even significand. Reading decimal numbers and
writing the shortest decimal text both reduce to these operations, so no hardware float is
involved and every result can be evaluated in proofs.
-/

namespace MonolithSplit.Json

/-- A finite binary64 value: its sign, its biased exponent (`0` for zero and subnormal values,
at most `2046`) and its 52-bit fraction. -/
structure Binary64 where
  negative : Bool
  exponent : Nat
  fraction : Nat
  deriving DecidableEq, Repr, Inhabited

namespace Binary64

/-- Positive zero. -/
def zero : Binary64 := ⟨false, 0, 0⟩

/-- The integer significand: the fraction, with the hidden bit for normal values. -/
def significand (x : Binary64) : Nat :=
  if x.exponent = 0 then x.fraction else Nat.pow 2 52 + x.fraction

/-- The power of two that scales the significand: the magnitude is `significand * 2 ^ power`. -/
def power (x : Binary64) : Int :=
  (if x.exponent = 0 then (1 : Int) else (x.exponent : Int)) - 1075

/-- Whether the value is a zero of either sign. -/
def isZero (x : Binary64) : Bool :=
  x.exponent == 0 && x.fraction == 0

/-- The same magnitude with the other sign. -/
def negate (x : Binary64) : Binary64 :=
  { x with negative := !x.negative }

/-- The magnitude as a fraction `numerator / denominator` of natural numbers. -/
def magnitude (x : Binary64) : Nat × Nat :=
  if 0 ≤ x.power then (x.significand * Nat.pow 2 x.power.toNat, 1)
  else (x.significand, Nat.pow 2 (-x.power).toNat)

/-- Whether `num / den ≥ 2 ^ e`. -/
def ratioAtLeastPow (num den : Nat) (e : Int) : Bool :=
  if 0 ≤ e then decide (den * Nat.pow 2 e.toNat ≤ num) else decide (den ≤ num * Nat.pow 2 (-e).toNat)

/-- The exponent `e` with `2 ^ e ≤ num / den < 2 ^ (e + 1)`, for `num` and `den` positive. -/
def floorLog2 (num den : Nat) : Int :=
  let e := (num.log2 : Int) - (den.log2 : Int)
  if ratioAtLeastPow num den e then e else e - 1

/-- `n / d` rounded to the nearest natural number, a tie going to the even one. -/
def roundHalfEven (n d : Nat) : Nat :=
  let q := n / d
  let r := n % d
  if d < 2 * r || (2 * r == d && q % 2 == 1) then q + 1 else q

/-- A value from a significand `m ≤ 2 ^ 53` and a power `q ≥ -1074` that are already rounded:
a significand that carried into `2 ^ 53` moves to the next binade; `none` past the largest
finite value. -/
def pack (negative : Bool) (m : Nat) (q : Int) : Option Binary64 :=
  let (m, q) := if m = Nat.pow 2 53 then (Nat.pow 2 52, q + 1) else (m, q)
  if 971 < q then none
  else if m < Nat.pow 2 52 then some ⟨negative, 0, m⟩
  else some ⟨negative, (q + 1075).toNat, m - Nat.pow 2 52⟩

/-- The binary64 value nearest to `num / den` with the given sign, a tie going to the even
significand; `none` when the magnitude rounds past the largest finite value. -/
def nearest (negative : Bool) (num den : Nat) : Option Binary64 :=
  if num = 0 ∨ den = 0 then some ⟨negative, 0, 0⟩
  else
    let q := max (floorLog2 num den - 52) (-1074)
    let (n, d) := if 0 ≤ q then (num, den * Nat.pow 2 q.toNat) else (num * Nat.pow 2 (-q).toNat, den)
    pack negative (roundHalfEven n d) q

/-- The value nearest to a natural number. -/
def ofNat (n : Nat) : Option Binary64 :=
  nearest false n 1

/-- The rounded product. -/
def mul (x y : Binary64) : Option Binary64 :=
  let (a, b) := x.magnitude
  let (c, d) := y.magnitude
  nearest (x.negative != y.negative) (a * c) (b * d)

/-- The rounded quotient; dividing by zero gives zero. -/
def div (x y : Binary64) : Option Binary64 :=
  let (a, b) := x.magnitude
  let (c, d) := y.magnitude
  nearest (x.negative != y.negative) (a * d) (b * c)

/-- The binary64 value nearest to `10 ^ k`. -/
def tenPow (k : Nat) : Binary64 :=
  (nearest false (Nat.pow 10 k) 1).getD zero

/-- Scales `f` by `10 ^ e` the way a JSON reader does it: one multiplication or division by
the value nearest to `10 ^ |e|` when `|e| ≤ 308`; otherwise zero stays zero, a positive
exponent overflows, and a negative one divides by `1e308` first. -/
def scaleByTen : Nat → Binary64 → Int → Option Binary64
  | 0, f, _ => some f
  | fuel + 1, f, e =>
    if e.natAbs ≤ 308 then
      if 0 ≤ e then f.mul (tenPow e.natAbs) else f.div (tenPow e.natAbs)
    else if f.isZero then some f
    else if 0 ≤ e then none
    else
      match f.div (tenPow 308) with
      | some g => scaleByTen fuel g (e + 308)
      | none => none

/-- The value a JSON reader gives the decimal `significand * 10 ^ exponent` (the significand
below `2 ^ 64`): the significand is rounded to binary64 first and then scaled; `none` when the
result overflows. -/
def ofDecimal (positive : Bool) (significand : Nat) (exponent : Int) : Option Binary64 :=
  match ofNat significand with
  | none => none
  | some f =>
    match scaleByTen (exponent.natAbs / 308 + 2) f exponent with
    | none => none
    | some g => some (if positive then g else g.negate)

end Binary64

end MonolithSplit.Json
