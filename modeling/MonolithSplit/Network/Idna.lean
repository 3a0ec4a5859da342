import MonolithSplit.Network.Idna.Mapping
import MonolithSplit.Network.Idna.Properties
import MonolithSplit.Network.Idna.Punycode
import MonolithSplit.Text.Canonical

/-!
# Domain names to ASCII

Converts a domain name to its ASCII form the way URL hosts are converted: Unicode IDNA
Compatibility Processing (UTS #46) with nontransitional processing, joiner and bidirectional
checks, no hyphen checks, no STD3 rules and no length limits, followed by the URL standard's
check for forbidden code points.

The steps:
* every code point is mapped by the table: valid ones kept, mapped ones replaced, ignored ones
  dropped; a disallowed one fails the name;
* the result is brought to Normalization Form C and split into labels at full stops;
* a label starting with `xn--` must be ASCII and its remainder valid Punycode of at most 2000
  characters, decoding to a label that is not empty and not all ASCII, that is in
  Normalization Form C, whose code points are all valid and which does not itself start with
  `xn--` or hold a full stop;
* no label may start with a combining mark, and a zero-width joiner or non-joiner must stand
  where the joiner rules of RFC 5892 allow it;
* when some label holds a right-to-left character, every label must satisfy the
  bidirectional rule of RFC 5893;
* each label that is not ASCII is written as `xn--` and its Punycode, which fails for a label
  of more than 1000 code points, and the labels are joined with full stops; the name fails if
  the result holds a code point that no domain may hold: a C0 control, a space, one of
  `#%/:<>?@[\]^|`, or delete.
-/

namespace MonolithSplit.Network.Idna

open MonolithSplit.Text

/-- The zero-width non-joiner. -/
def zeroWidthNonJoiner : Char := Char.ofNat 0x200C

/-- The zero-width joiner. -/
def zeroWidthJoiner : Char := Char.ofNat 0x200D

/-- A name's code points after mapping, or none when one of them is disallowed. -/
def mapChars : List Char → Option (List Char)
  | [] => some []
  | c :: rest =>
    match status c with
    | .valid => (mapChars rest).map (c :: ·)
    | .mapped replacement => (mapChars rest).map (replacement ++ ·)
    | .ignored => mapChars rest
    | .disallowed => none

/-- Splits a name into labels at full stops. -/
def splitLabels : List Char → List (List Char)
  | [] => [[]]
  | c :: rest =>
    match splitLabels rest with
    | label :: labels => if c = '.' then [] :: label :: labels else (c :: label) :: labels
    | [] => [[c]]

/-- Whether a label starts with the ACE prefix `xn--`. -/
def hasAcePrefix (label : List Char) : Bool :=
  label.take 4 == ['x', 'n', '-', '-']

/-- Whether a character is ASCII. -/
def isAscii (c : Char) : Bool := c.toNat < 0x80

/-- Whether a joining type may stand on the left of a non-joiner. -/
def joinsLeft (t : JoiningType) : Bool := t == .leftJoining || t == .dualJoining

/-- Whether a joining type may stand on the right of a non-joiner. -/
def joinsRight (t : JoiningType) : Bool := t == .rightJoining || t == .dualJoining

/-- Whether the first character past the transparent ones has a joining type `ok` accepts. -/
def joinsAcross (ok : JoiningType → Bool) (cs : List Char) : Bool :=
  match cs.dropWhile (joiningType · == .transparent) with
  | c :: _ => ok (joiningType c)
  | [] => false

/-- Whether every joiner of a label stands where the joiner rules allow it. `before` holds the
characters already passed, nearest first. A joiner must follow a virama; a non-joiner may also
stand between a left- or dual-joining character and a right- or dual-joining one, with only
transparent characters between. -/
def joinersAllowed (before : List Char) : List Char → Bool
  | [] => true
  | c :: rest =>
    let afterVirama := match before with
      | b :: _ => isVirama b
      | [] => false
    let ok :=
      if c = zeroWidthJoiner then afterVirama
      else if c = zeroWidthNonJoiner then
        afterVirama || (joinsAcross joinsLeft before && joinsAcross joinsRight rest)
      else true
    ok && joinersAllowed (c :: before) rest

/-- Whether a label meets the rules that do not depend on the other labels: it does not start
with a combining mark, and its joiners are allowed. -/
def labelAllowed (label : List Char) : Bool :=
  (match label with
    | c :: _ => !isMark c
    | [] => true) &&
  joinersAllowed [] label

/-- The Unicode form of a mapped label: the decoding of an `xn--` label, or the label itself;
none when the label breaks a rule of its own. -/
def unicodeLabel (label : List Char) : Option (List Char) :=
  if hasAcePrefix label then
    if !label.all isAscii then none
    else
      match Punycode.decode (label.drop 4) with
      | none => none
      | some decoded =>
        if decoded.isEmpty || decoded.all isAscii || !isNfc decoded || hasAcePrefix decoded
          || decoded.contains '.' || !decoded.all (status · == .valid) || !labelAllowed decoded
        then none
        else some decoded
  else if labelAllowed label then some label
  else none

/-- Whether a character is written right to left: its class is right-to-left, Arabic letter or
Arabic number. -/
def isRightToLeft (c : Char) : Bool :=
  let b := bidiClass c
  b == .rightToLeft || b == .arabicLetter || b == .arabicNumber

/-- The classes a right-to-left label may hold. -/
def rightToLeftClasses : List BidiClass :=
  [.rightToLeft, .arabicLetter, .arabicNumber, .europeanNumber, .europeanSeparator,
    .commonSeparator, .europeanTerminator, .otherNeutral, .boundaryNeutral, .nonspacingMark]

/-- The classes a left-to-right label may hold. -/
def leftToRightClasses : List BidiClass :=
  [.leftToRight, .europeanNumber, .europeanSeparator, .commonSeparator, .europeanTerminator,
    .otherNeutral, .boundaryNeutral, .nonspacingMark]

/-- Whether a label satisfies the bidirectional rule: it starts with a left-to-right or a
right-to-left character; a right-to-left label holds only the classes allowed there, ends
(before any nonspacing marks) with a right-to-left character, a European or an Arabic number,
and does not mix the two kinds of numbers; a left-to-right label holds only the classes allowed
there and ends (before any nonspacing marks) with a left-to-right character or a European
number. An empty label satisfies it. -/
def bidiRuleHolds (label : List Char) : Bool :=
  let classes := label.map bidiClass
  let last := (classes.reverse.dropWhile (· == .nonspacingMark)).head?
  match classes with
  | [] => true
  | first :: _ =>
    if first == .rightToLeft || first == .arabicLetter then
      classes.all (rightToLeftClasses.contains ·) &&
      (last == some .rightToLeft || last == some .arabicLetter ||
        last == some .europeanNumber || last == some .arabicNumber) &&
      !(classes.contains .europeanNumber && classes.contains .arabicNumber)
    else if first == .leftToRight then
      classes.all (leftToRightClasses.contains ·) &&
      (last == some .leftToRight || last == some .europeanNumber)
    else false

/-- The ASCII form of a label in Unicode form; none when it is too long to encode. -/
def asciiLabel (label : List Char) : Option (List Char) :=
  if label.all isAscii then some label else (Punycode.encode label).map (['x', 'n', '-', '-'] ++ ·)

/-- Whether no domain may hold a code point: C0 controls, space, `#%/:<>?@[\]^|` and delete. -/
def isForbiddenInDomain (c : Char) : Bool :=
  c.toNat ≤ 0x20 || c.toNat == 0x7F || "#%/:<>?@[\\]^|".toList.contains c

/-- The ASCII form of a domain name, or none when it cannot be converted. -/
def toAscii (name : List Char) : Option String := do
  let mapped ← mapChars name
  let labels ← (splitLabels (nfc mapped)).mapM unicodeLabel
  if labels.any (·.any isRightToLeft) && !labels.all bidiRuleHolds then none
  let asciiLabels ← labels.mapM asciiLabel
  let ascii := String.intercalate "." (asciiLabels.map String.ofList)
  if ascii.any isForbiddenInDomain then none
  return ascii

end MonolithSplit.Network.Idna
