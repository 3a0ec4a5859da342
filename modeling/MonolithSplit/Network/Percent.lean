/-!
# Percent-encoding

URLs write bytes outside an allowed set as `%` and two uppercase hexadecimal digits, a
character outside ASCII being written as the bytes of its UTF-8 encoding. Decoding turns each
`%` with two hexadecimal digits after it back into a byte and leaves every other `%` as it
is; the bytes are then read as UTF-8, a byte that does not begin a well-formed sequence being
read as U+FFFD.
-/

namespace MonolithSplit.Network

/-- The UTF-8 bytes of a character. -/
def utf8Bytes (c : Char) : List Nat :=
  let n := c.toNat
  if n < 0x80 then [n]
  else if n < 0x800 then [0xC0 + n / 64, 0x80 + n % 64]
  else if n < 0x10000 then [0xE0 + n / 4096, 0x80 + n / 64 % 64, 0x80 + n % 64]
  else [0xF0 + n / 262144, 0x80 + n / 4096 % 64, 0x80 + n / 64 % 64, 0x80 + n % 64]

/-- An uppercase hexadecimal digit. -/
def upperHex (n : Nat) : Char :=
  if n < 10 then Char.ofNat (48 + n) else Char.ofNat (55 + n)

/-- The value of a hexadecimal digit, in either case. -/
def hexDigitValue? (c : Char) : Option Nat :=
  if '0' ≤ c && c ≤ '9' then some (c.toNat - 48)
  else if 'a' ≤ c && c ≤ 'f' then some (c.toNat - 87)
  else if 'A' ≤ c && c ≤ 'F' then some (c.toNat - 55)
  else none

/-- A character percent-encoded when it is in `set` or not ASCII. -/
def encodeChar (set : Char → Bool) (c : Char) : List Char :=
  if c.toNat < 0x80 && !set c then [c]
  else (utf8Bytes c).flatMap fun b => ['%', upperHex (b / 16), upperHex (b % 16)]

/-- The C0 controls and delete, which every set encodes. -/
def isControl (c : Char) : Bool := c.toNat < 0x20 || c.toNat == 0x7F

/-- The bytes of a text with its `%XX` escapes decoded. -/
def percentDecodeBytes : List Char → List Nat
  | '%' :: a :: b :: rest =>
    match hexDigitValue? a, hexDigitValue? b with
    | some x, some y => (16 * x + y) :: percentDecodeBytes rest
    | _, _ => 0x25 :: percentDecodeBytes (a :: b :: rest)
  | c :: rest => utf8Bytes c ++ percentDecodeBytes rest
  | [] => []

/-- Whether a byte continues a UTF-8 sequence. -/
def isContinuation (b : Nat) : Bool := 0x80 ≤ b && b < 0xC0

/-- The character a well-formed UTF-8 sequence starting with byte `b` encodes, with the number
of bytes after `b` that it takes; none when the bytes are not such a sequence. -/
def sequenceAt (b : Nat) (rest : List Nat) : Option (Char × Nat) :=
  match rest with
  | c :: d :: e :: _ =>
    if 0xC2 ≤ b && b ≤ 0xDF && isContinuation c then
      some (Char.ofNat ((b - 0xC0) * 64 + (c - 0x80)), 1)
    else if 0xE0 ≤ b && b ≤ 0xEF && isContinuation c && isContinuation d &&
        (b != 0xE0 || 0xA0 ≤ c) && (b != 0xED || c < 0xA0) then
      some (Char.ofNat ((b - 0xE0) * 4096 + (c - 0x80) * 64 + (d - 0x80)), 2)
    else if 0xF0 ≤ b && b ≤ 0xF4 && isContinuation c && isContinuation d && isContinuation e &&
        (b != 0xF0 || 0x90 ≤ c) && (b != 0xF4 || c < 0x90) then
      some (Char.ofNat ((b - 0xF0) * 262144 + (c - 0x80) * 4096 + (d - 0x80) * 64 + (e - 0x80)), 3)
    else none
  | [c, d] =>
    if 0xC2 ≤ b && b ≤ 0xDF && isContinuation c then
      some (Char.ofNat ((b - 0xC0) * 64 + (c - 0x80)), 1)
    else if 0xE0 ≤ b && b ≤ 0xEF && isContinuation c && isContinuation d &&
        (b != 0xE0 || 0xA0 ≤ c) && (b != 0xED || c < 0xA0) then
      some (Char.ofNat ((b - 0xE0) * 4096 + (c - 0x80) * 64 + (d - 0x80)), 2)
    else none
  | [c] =>
    if 0xC2 ≤ b && b ≤ 0xDF && isContinuation c then
      some (Char.ofNat ((b - 0xC0) * 64 + (c - 0x80)), 1)
    else none
  | [] => none

/-- The replacement character. -/
def replacementChar : Char := Char.ofNat 0xFFFD

/-- Reads bytes as UTF-8; a byte that does not begin a well-formed sequence reads as U+FFFD. -/
def decodeUtf8 (bytes : List Nat) : List Char :=
  match bytes with
  | [] => []
  | b :: rest =>
    if b < 0x80 then Char.ofNat b :: decodeUtf8 rest
    else
      match sequenceAt b rest with
      | some (c, n) => c :: decodeUtf8 (rest.drop n)
      | none => replacementChar :: decodeUtf8 rest
termination_by bytes.length
decreasing_by
  all_goals simp only [List.length_cons, List.length_drop]
  all_goals omega

/-- Reads bytes as UTF-8; none when they are not well-formed throughout. -/
def decodeUtf8? (bytes : List Nat) : Option (List Char) :=
  match bytes with
  | [] => some []
  | b :: rest =>
    if b < 0x80 then (decodeUtf8? rest).map (Char.ofNat b :: ·)
    else
      match sequenceAt b rest with
      | some (c, n) => (decodeUtf8? (rest.drop n)).map (c :: ·)
      | none => none
termination_by bytes.length
decreasing_by
  all_goals simp only [List.length_cons, List.length_drop]
  all_goals omega

end MonolithSplit.Network
