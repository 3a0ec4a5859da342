import MonolithSplit.Json.Binary64

/-!
# Shortest decimal digits

The shortest decimal that reads back as a given nonzero binary64 value. A decimal reads back
when it lies in the rounding interval of the value: halfway to each neighbour, the ends
included exactly when the significand is even. The grids `10 ^ k` are tried from coarse to
fine; the first grid with a point in the interval gives the fewest digits, and of its points
the one nearest the value wins, a tie going to the even digit string.
-/

namespace MonolithSplit.Json

namespace Binary64

/-- The rounding interval of a value, in units of `2 ^ (power - 2)`: the value `4m`, the lower
end (a quarter unit closer at the bottom of a binade), the upper end, and whether the ends
themselves read back. -/
structure Interval where
  low : Nat
  mid : Nat
  high : Nat
  scale : Int
  closed : Bool

/-- The rounding interval of a nonzero value's magnitude. -/
def interval (x : Binary64) : Interval :=
  let m := x.significand
  let shift := if x.fraction ≠ 0 ∨ x.exponent ≤ 1 then 1 else 0
  { low := 4 * m - 1 - shift, mid := 4 * m, high := 4 * m + 2, scale := x.power - 2,
    closed := m % 2 == 0 }

/-- Integer division rounded up. -/
def ceilDiv (n d : Nat) : Nat := (n + d - 1) / d

/-- The point of the grid `10 ^ k` in the interval nearest its value, if the grid has one.
All quantities are brought to the common unit `2 ^ min(scale, 0) * 10 ^ min(k, 0)`. -/
def gridHit (i : Interval) (k : Int) : Option Nat :=
  let up := Nat.pow 2 i.scale.toNat * Nat.pow 10 (-k).toNat
  let step := Nat.pow 10 k.toNat * Nat.pow 2 (-i.scale).toNat
  let lo := i.low * up
  let hi := i.high * up
  let v := i.mid * up
  let first := if i.closed then ceilDiv lo step else lo / step + 1
  let last := if i.closed then hi / step else ceilDiv hi step - 1
  if first ≤ last then
    let d := roundHalfEven v step
    some (if d < first then first else if last < d then last else d)
  else none

/-- Tries the grids `10 ^ k`, `10 ^ (k - 1)`, … until one has a point in the interval. -/
def firstHit (i : Interval) : Nat → Int → Nat × Int
  | 0, k => (0, k)
  | fuel + 1, k =>
    match gridHit i k with
    | some d => (d, k)
    | none => firstHit i fuel (k - 1)

/-- The shortest digits `d` and exponent `k` with `d * 10 ^ k` reading back as the nonzero
value `x`, of those the nearest to `x`. -/
def shortest (x : Binary64) : Nat × Int :=
  let i := x.interval
  let top := i.high * Nat.pow 2 i.scale.toNat
  let bottom := Nat.pow 2 (-i.scale).toNat
  let start := ((Nat.toDigits 10 top).length : Int) - ((Nat.toDigits 10 bottom).length : Int) + 1
  firstHit i 40 start

end Binary64

end MonolithSplit.Json
