import MonolithSplit.Json.Shortest

/-!
# JSON numbers

A number read from JSON text is kept in one of three forms: an unsigned integer below `2 ^ 64`,
a negative integer of at least `-2 ^ 63`, or a binary64 value for everything else. Integers are
written in decimal. A binary64 value is written with its shortest digits: positionally when the
decimal point falls within the first sixteen places or up to four zeros after it, otherwise in
exponent form without a plus sign; a written float always shows a point or an exponent.
-/

namespace MonolithSplit.Json

/-- A JSON number as it was read. -/
inductive Number where
  /-- An integer from `0` to `2 ^ 64 - 1`. -/
  | unsigned (n : Nat)
  /-- An integer from `-2 ^ 63` to `-1`. -/
  | signed (n : Int)
  /-- Any other number. -/
  | float (x : Binary64)
  deriving DecidableEq, Repr, Inhabited

/-- `n` zeros. -/
def zeros (n : Nat) : String :=
  String.ofList (List.replicate n '0')

/-- The decimal text of an exponent, always signed: `e-7`, `e+21`. -/
def exponentText (e : Int) : String :=
  if e < 0 then "-" ++ toString e.natAbs else "+" ++ toString e.natAbs

/-- The shortest text of a binary64 value. -/
def Binary64.text (x : Binary64) : String :=
  let sign := if x.negative then "-" else ""
  if x.isZero then sign ++ "0.0"
  else
    let (d, k) := x.shortest
    let digits := toString d
    let length := (digits.length : Int)
    let point := length + k
    let body :=
      if 0 ≤ k ∧ point ≤ 16 then digits ++ zeros k.toNat ++ ".0"
      else if 0 < point ∧ point ≤ 16 then
        String.ofList (digits.toList.take point.toNat) ++ "." ++
          String.ofList (digits.toList.drop point.toNat)
      else if -5 < point ∧ point ≤ 0 then "0." ++ zeros (-point).toNat ++ digits
      else if length = 1 then digits ++ "e" ++ exponentText (point - 1)
      else
        String.ofList (digits.toList.take 1) ++ "." ++ String.ofList (digits.toList.drop 1) ++ "e" ++
          exponentText (point - 1)
    sign ++ body

/-- The text of a number. -/
def Number.text : Number → String
  | .unsigned n => toString n
  | .signed n => toString n
  | .float x => x.text

/-- A natural number as a JSON number: exact below `2 ^ 64`, rounded above. -/
def Number.ofNat (n : Nat) : Number :=
  if n < Nat.pow 2 64 then .unsigned n else .float ((Binary64.ofNat n).getD Binary64.zero)

end MonolithSplit.Json
