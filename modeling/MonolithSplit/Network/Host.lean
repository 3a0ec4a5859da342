import MonolithSplit.Network.Percent
import MonolithSplit.Network.Idna

/-!
# Hosts

The host of a URL, as the URL standard reads it. A host in brackets is an IPv6 address. For
the special schemes any other host is percent-decoded, read as UTF-8 and converted to ASCII by
domain-name processing; a name whose last label is a number is then an IPv4 address, given in
decimal, octal (a leading `0`) or hexadecimal (a leading `0x`), in one to four parts, the last
part filling the bytes the others leave. For other schemes the host is opaque: it is kept as
written, with controls and non-ASCII characters percent-encoded, and only a few characters are
refused.

IPv6 addresses are written back in lowercase hexadecimal with the longest run of two or more
zero pieces (the first, if several are as long) written `::`.
-/

namespace MonolithSplit.Network

/-- Why a text is not a URL. -/
inductive UrlError where
  /-- The text does not start with a scheme. -/
  | noScheme
  /-- A host is needed and missing, or a port or user information has no host. -/
  | emptyHost
  /-- A port that is not a number below 65536. -/
  | invalidPort
  /-- A host that is not a valid IPv4 address though its last label is a number. -/
  | invalidIpv4Address
  /-- A bracketed host that is not a valid IPv6 address. -/
  | invalidIpv6Address
  /-- An opaque host holding a character no host may hold. -/
  | invalidDomainCharacter
  /-- A domain that domain-name processing refuses. -/
  | idnaError
  deriving DecidableEq, Repr

/-- A host. -/
inductive Host where
  /-- A domain name, or the opaque host of a scheme that is not special. -/
  | domain (name : String)
  /-- An IPv4 address as a 32-bit number. -/
  | ipv4 (address : Nat)
  /-- An IPv6 address as its eight 16-bit pieces. -/
  | ipv6 (pieces : List Nat)
  deriving DecidableEq, Repr

/-! ## IPv4 -/

/-- Reads digits in a base: none when one is not a digit of that base. -/
def digitsIn (radix : Nat) (ds : List Char) : Option Nat :=
  ds.foldl (fun acc d => acc.bind fun n =>
    (hexDigitValue? d).bind fun v => if v < radix then some (n * radix + v) else none) (some 0)

/-- A number of an IPv4 address: hexadecimal after `0x` or `0X`, octal after a leading `0`,
decimal otherwise. `some none` is a valid number too large for 32 bits; none is not a number. -/
def ipv4Number? (part : List Char) : Option (Option Nat) :=
  if part.isEmpty then none
  else
    let (radix, digits) := match part with
      | '0' :: x :: rest => if x == 'x' || x == 'X' then (16, rest) else (8, x :: rest)
      | _ => (10, part)
    if digits.isEmpty then some (some 0)
    else
      match digitsIn radix digits with
      | none => none
      | some n => some (if n < Nat.pow 2 32 then some n else none)

/-- Splits a text at full stops. -/
def splitAtDots (cs : List Char) : List (List Char) :=
  ((String.ofList cs).splitOn ".").map String.toList

/-- Whether a domain's last label (before a final full stop) is a number, which makes the
domain an IPv4 address. -/
def endsInNumber (domain : List Char) : Bool :=
  let parts := (splitAtDots domain).reverse
  let last := match parts with
    | [] :: before :: _ => some before
    | [[]] => none
    | last :: _ => some last
    | [] => none
  match last with
  | none => false
  | some last => (!last.isEmpty && last.all Char.isDigit) || (ipv4Number? last).isSome

/-- Reads an IPv4 address. -/
def parseIpv4 (domain : List Char) : Except UrlError Nat := do
  let parts := splitAtDots domain
  let parts := if parts.getLast? == some [] then parts.dropLast else parts
  if parts.length > 4 then throw .invalidIpv4Address
  let numbers ← parts.mapM fun p =>
    match ipv4Number? p with
    | some (some n) => .ok n
    | _ => .error UrlError.invalidIpv4Address
  match numbers.reverse with
  | [] => throw .invalidIpv4Address
  | last :: restRev =>
    let front := restRev.reverse
    if last ≥ Nat.pow 256 (4 - front.length) then throw .invalidIpv4Address
    if front.any (· > 255) then throw .invalidIpv4Address
    return front.zipIdx.foldl (fun acc (n, i) => acc + n * Nat.pow 256 (3 - i)) last

/-- An IPv4 address in dotted decimal. -/
def ipv4Text (address : Nat) : String :=
  String.intercalate "." ((List.range 4).map fun i => toString (address / Nat.pow 256 (3 - i) % 256))

/-! ## IPv6 -/

/-- The state of reading an IPv6 address: the pieces read so far, in order, and the place
just after `::`, counted in pieces. The `::` itself counts as a zero piece, so that it always
stands for at least one. -/
structure Ipv6Reader where
  pieces : List Nat
  compress : Option Nat

/-- Reads up to four hexadecimal digits: their value and how many there were. -/
def hexPiece (cs : List Char) : Nat × Nat :=
  let ds := (cs.take 4).takeWhile fun c => (hexDigitValue? c).isSome
  (ds.foldl (fun n d => 16 * n + (hexDigitValue? d).getD 0) 0, ds.length)

/-- Reads the decimal parts of an IPv4 address ending an IPv6 one: four numbers below 256,
without leading zeros, separated by full stops. -/
def embeddedIpv4 (cs : List Char) : Option (List Nat) :=
  let parts := splitAtDots cs
  if parts.length != 4 then none
  else parts.mapM fun p =>
    if p.isEmpty || !p.all Char.isDigit || (p.length > 1 && p.head? == some '0') then none
    else
      let n := p.foldl (fun n d => 10 * n + (d.toNat - 48)) 0
      if n > 255 then none else some n

/-- Reads the pieces of an IPv6 address after any leading `::`, with `fuel` bounding the
steps. -/
def ipv6Pieces : Nat → Ipv6Reader → List Char → Option Ipv6Reader
  | 0, _, _ => none
  | _ + 1, r, [] => some r
  | fuel + 1, r, cs@(c :: rest) =>
    if r.pieces.length == 8 then none
    else if c == ':' then
      if r.compress.isSome then none
      else ipv6Pieces fuel ⟨r.pieces ++ [0], some (r.pieces.length + 1)⟩ rest
    else
      let (value, count) := hexPiece cs
      match cs.drop count with
      | '.' :: _ =>
        if count == 0 || r.pieces.length > 6 then none
        else
          match embeddedIpv4 cs with
          | some [a, b, c, d] => some { r with pieces := r.pieces ++ [a * 256 + b, c * 256 + d] }
          | _ => none
      | ':' :: after =>
        if after.isEmpty then none
        else ipv6Pieces fuel { r with pieces := r.pieces ++ [value] } after
      | [] => some { r with pieces := r.pieces ++ [value] }
      | _ => none

/-- Reads an IPv6 address, the text between the brackets. -/
def parseIpv6 (cs : List Char) : Except UrlError (List Nat) :=
  let start : Option (Ipv6Reader × List Char) :=
    match cs with
    | ':' :: ':' :: rest => some (⟨[0], some 1⟩, rest)
    | ':' :: _ => none
    | _ => some (⟨[], none⟩, cs)
  if cs.length < 2 then .error .invalidIpv6Address
  else
    match start.bind fun (r, rest) => ipv6Pieces (rest.length + 1) r rest with
    | none => .error .invalidIpv6Address
    | some r =>
      match r.compress with
      | some at_ =>
        .ok (r.pieces.take at_ ++ List.replicate (8 - r.pieces.length) 0 ++ r.pieces.drop at_)
      | none => if r.pieces.length == 8 then .ok r.pieces else .error .invalidIpv6Address

/-- The start and length of the longest run of zero pieces, the first of the longest; none
when no run is two pieces or longer. -/
def longestZeroRun (pieces : List Nat) : Option (Nat × Nat) :=
  let step := fun (acc : Option (Nat × Nat) × Option Nat) (pi : Nat × Nat) =>
    let (best, start) := acc
    let (p, i) := pi
    if p == 0 then
      let s := start.getD i
      let len := i + 1 - s
      let best := match best with
        | some (_, l) => if len > l then some (s, len) else best
        | none => some (s, len)
      (best, some s)
    else (best, none)
  match (pieces.zipIdx.foldl step (none, none)).1 with
  | some (s, l) => if l ≥ 2 then some (s, l) else none
  | none => none

/-- A piece in lowercase hexadecimal without leading zeros. -/
def pieceText (n : Nat) : String :=
  String.ofList ((Nat.toDigits 16 n).map Char.toLower)

/-- An IPv6 address written back, without brackets. -/
def ipv6Text (pieces : List Nat) : String :=
  let texts := pieces.map pieceText
  match longestZeroRun pieces with
  | some (s, l) =>
    String.intercalate ":" (texts.take s) ++ "::" ++ String.intercalate ":" (texts.drop (s + l))
  | none => String.intercalate ":" texts

/-! ## Hosts -/

/-- A host as written in a URL. -/
def Host.text : Host → String
  | .domain name => name
  | .ipv4 address => ipv4Text address
  | .ipv6 pieces => "[" ++ ipv6Text pieces ++ "]"

/-- The text between brackets, when a host is bracketed: none when it does not start with `[`,
and an error when it starts with one but does not end with `]`. -/
def bracketed (cs : List Char) : Option (Except UrlError (List Char)) :=
  match cs with
  | '[' :: rest =>
    match rest.reverse with
    | ']' :: innerRev => some (.ok innerRev.reverse)
    | _ => some (.error .invalidIpv6Address)
  | _ => none

/-- The host of a URL with a special scheme. An empty host is an error. -/
def Host.parse (cs : List Char) : Except UrlError Host :=
  match bracketed cs with
  | some inner => do return .ipv6 (← parseIpv6 (← inner))
  | none =>
    match Idna.toAscii (decodeUtf8 (percentDecodeBytes cs)) with
    | none => .error .idnaError
    | some ascii =>
      if ascii.isEmpty then .error .emptyHost
      else if endsInNumber ascii.toList then (parseIpv4 ascii.toList).map .ipv4
      else .ok (.domain ascii)

/-- Characters no host may hold. -/
def isForbiddenInHost (c : Char) : Bool :=
  "\x00\t\n\r #/:<>?@[\\]^|".toList.contains c

/-- The host of a URL whose scheme is not special: an IPv6 address, or the text with its
controls and non-ASCII characters percent-encoded. -/
def Host.parseOpaque (cs : List Char) : Except UrlError Host :=
  match bracketed cs with
  | some inner => do return .ipv6 (← parseIpv6 (← inner))
  | none =>
    if cs.any isForbiddenInHost then .error .invalidDomainCharacter
    else .ok (.domain (String.ofList (cs.flatMap (encodeChar isControl))))

end MonolithSplit.Network
