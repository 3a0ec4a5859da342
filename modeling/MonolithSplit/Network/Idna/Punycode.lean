/-!
# Punycode

The Bootstring encoding of RFC 3492 with the Punycode parameters, which writes a label of
Unicode code points with ASCII letters, digits and hyphens. The code points below U+0080 are
copied first, followed by a hyphen when there are any; each other code point is then written as
a variable-length number giving how far its value and its place are from those of the one
before, in order of value.

Decoding follows the procedure of the RFC, with its limits: a number that passes 32 bits fails,
as does a code point that is a surrogate or beyond U+10FFFF. Every loop here consumes input or
shrinks a number, which is what makes each definition total.
-/

namespace MonolithSplit.Network.Idna.Punycode

/-- The number base. -/
def base : Nat := 36

/-- The smallest digit threshold. -/
def tmin : Nat := 1

/-- The largest digit threshold. -/
def tmax : Nat := 26

/-- The bias damping of the first adaptation. -/
def damp : Nat := 700

/-- The bias skew. -/
def skew : Nat := 38

/-- The bias to start from. -/
def initialBias : Nat := 72

/-- The code point to start from: the first that is not basic. -/
def initialN : Nat := 0x80

/-- The bound that every number met while decoding stays below. -/
def limit : Nat := Nat.pow 2 32

/-- The value of a digit: `a` to `z` (in either case) are 0 to 25, `0` to `9` are 26 to 35. -/
def digitValue? (c : Char) : Option Nat :=
  if 'a' ≤ c && c ≤ 'z' then some (c.toNat - 0x61)
  else if 'A' ≤ c && c ≤ 'Z' then some (c.toNat - 0x41)
  else if '0' ≤ c && c ≤ '9' then some (c.toNat - 0x30 + 26)
  else none

/-- The character of a digit value below 36, as lowercase. -/
def digitChar (d : Nat) : Char :=
  if d < 26 then Char.ofNat (0x61 + d) else Char.ofNat (0x30 + d - 26)

/-- The threshold of the digit at position `k` (a multiple of the base). -/
def threshold (k bias : Nat) : Nat :=
  if k ≤ bias + tmin then tmin else if bias + tmax ≤ k then tmax else k - bias

theorem threshold_pos (k bias : Nat) : 0 < threshold k bias := by
  unfold threshold tmin tmax
  split
  · omega
  · split <;> omega

theorem threshold_le (k bias : Nat) : threshold k bias ≤ 26 := by
  unfold threshold tmin tmax
  split
  · omega
  · split <;> omega

/-- Divides a delta by `base - tmin` until it is small, counting the steps in `k`. -/
def scaleDown (delta k : Nat) : Nat × Nat :=
  if (base - tmin) * tmax / 2 < delta then scaleDown (delta / (base - tmin)) (k + base)
  else (delta, k)
termination_by delta
decreasing_by
  unfold base tmin tmax at *
  omega

/-- The bias after a code point, from the delta that wrote it and the number of code points
written so far. -/
def adapt (delta numPoints : Nat) (firstTime : Bool) : Nat :=
  let delta := if firstTime then delta / damp else delta / 2
  let delta := delta + delta / numPoints
  let (delta, k) := scaleDown delta 0
  k + (base - tmin + 1) * delta / (delta + skew)

/-! ## Decoding -/

/-- Reads one variable-length number, adding it with weight `w` to `i`: the new `i` and what
follows the number, or none when the digits run out, a character is not a digit, or a number
passes the limit. `k` is the position of the digit being read. -/
def readNumber (bias : Nat) : List Char → Nat → Nat → Nat → Option (Nat × List Char)
  | [], _, _, _ => none
  | c :: rest, k, w, i =>
    match digitValue? c with
    | none => none
    | some d =>
      let i := i + d * w
      if limit ≤ i then none
      else
        let t := threshold k bias
        if d < t then some (i, rest)
        else
          let w := w * (base - t)
          if limit ≤ w then none else readNumber bias rest (k + base) w i

theorem readNumber_shorter (bias : Nat) :
    ∀ (cs : List Char) (k w i : Nat) (r : Nat × List Char),
      readNumber bias cs k w i = some r → r.2.length < cs.length
  | [], _, _, _, _, h => by simp [readNumber] at h
  | c :: rest, k, w, i, r, h => by
    unfold readNumber at h
    split at h
    · simp at h
    · simp only at h
      split at h
      · simp at h
      · split at h
        · cases h
          simp
        · split at h
          · simp at h
          · have := readNumber_shorter bias rest (k + base) _ _ r h
            simp only [List.length_cons]
            omega

/-- Whether a number is a Unicode scalar value: not a surrogate, not beyond U+10FFFF. -/
def isScalar (n : Nat) : Bool :=
  n < 0xD800 || (0xDFFF < n && n < 0x110000)

/-- Inserts the code points the numbers of `cs` stand for into `out`; `n`, `i` and `bias` are
the decoder's state. -/
def insertAll (bias n i : Nat) (out : List Char) (cs : List Char) : Option (List Char) :=
  match cs with
  | [] => some out
  | c :: rest =>
    match _hread : readNumber bias (c :: rest) base 1 i with
    | none => none
    | some (i', after) =>
      let points := out.length + 1
      let n' := n + i' / points
      if limit ≤ n' || !isScalar n' then none
      else
        insertAll (adapt (i' - i) points (i == 0)) n' (i' % points + 1)
          (out.insertIdx (i' % points) (Char.ofNat n')) after
termination_by cs.length
decreasing_by
  exact readNumber_shorter bias (c :: rest) base 1 i (i', after) _hread

/-- The basic code points before the last hyphen, and the digits after it; with no hyphen, or
one only at the start, there are no basic code points and everything is digits. -/
def splitBasic (cs : List Char) : List Char × List Char :=
  match cs.reverse.span (· != '-') with
  | (_, []) => ([], cs)
  | (digitsRev, _ :: basicRev) =>
    if basicRev.isEmpty then ([], cs) else (basicRev.reverse, digitsRev.reverse)

/-- The longest Punycode text that is decoded: longer ones are refused, which bounds the work
of decoding by a quadratic in a small number. -/
def maxDecodedLength : Nat := 2000

/-- The longest label that is encoded, in code points. -/
def maxEncodedLength : Nat := 1000

/-- Decodes a Punycode label (without its `xn--`), or none when it is not valid Punycode or is
longer than `maxDecodedLength`. -/
def decode (cs : List Char) : Option (List Char) :=
  let (basic, digits) := splitBasic cs
  if cs.length > maxDecodedLength || basic.any (·.toNat ≥ 0x80) then none
  else insertAll initialBias initialN 0 basic digits

/-! ## Encoding -/

/-- The digits of a delta `q`, from position `k`. -/
def numberDigits (bias k q : Nat) : List Char :=
  let t := threshold k bias
  if q < t then [digitChar q]
  else digitChar (t + (q - t) % (base - t)) :: numberDigits bias (k + base) ((q - t) / (base - t))
termination_by q
decreasing_by
  have h1 := threshold_pos k bias
  have h2 := threshold_le k bias
  have : (q - threshold k bias) / (base - threshold k bias) ≤ q - threshold k bias :=
    Nat.div_le_self _ _
  omega

/-- The encoder's state: the digits written, the delta, the bias and how many code points are
written. -/
structure Encoder where
  out : List Char
  delta : Nat
  bias : Nat
  done : Nat

/-- Passes one code point of the input while writing the code points of value `m`: a smaller
one adds to the delta, one of value `m` is written. `basicCount` is the number of basic code
points. -/
def Encoder.pass (basicCount m : Nat) (e : Encoder) (c : Char) : Encoder :=
  if c.toNat < m then { e with delta := e.delta + 1 }
  else if c.toNat = m then
    { out := e.out ++ numberDigits e.bias base e.delta, delta := 0,
      bias := adapt e.delta (e.done + 1) (e.done == basicCount), done := e.done + 1 }
  else e

/-- Writes the code points of each value in `values` (increasing), from the value `n` on. -/
def encodeValues (input : List Char) (basicCount : Nat) : List Nat → Nat → Encoder → Encoder
  | [], _, e => e
  | m :: rest, n, e =>
    let e := { e with delta := e.delta + (m - n) * (e.done + 1) }
    let e := input.foldl (Encoder.pass basicCount m) e
    encodeValues input basicCount rest (m + 1) { e with delta := e.delta + 1 }

/-- The distinct values of the code points that are not basic, in increasing order. -/
def nonBasicValues (cs : List Char) : List Nat :=
  ((cs.filter (·.toNat ≥ 0x80)).map Char.toNat).mergeSort (· ≤ ·) |>.eraseDups

/-- Encodes a label as Punycode (without the `xn--`); none when it is longer than
`maxEncodedLength`. -/
def encode (cs : List Char) : Option (List Char) :=
  if cs.length > maxEncodedLength then none else
  let basic := cs.filter (·.toNat < 0x80)
  let e := encodeValues cs basic.length (nonBasicValues cs) initialN
    ⟨[], 0, initialBias, basic.length⟩
  some (basic ++ (if basic.isEmpty then [] else ['-']) ++ e.out)

end MonolithSplit.Network.Idna.Punycode
