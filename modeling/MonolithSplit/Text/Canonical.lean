import MonolithSplit.Text.Canonical.Tables

/-!
# Normalization Form C

Brings a text to Normalization Form C, the canonical composition of Unicode Standard Annex
#15, in three steps:

* every code point is replaced by its full canonical decomposition; a Hangul syllable
  decomposes into its leading consonant, vowel and trailing consonant by arithmetic;
* every run of non-starters (combining class other than zero) is sorted by combining class,
  keeping the order of code points of equal class (canonical ordering);
* going left to right, each code point is composed with the last starter when the pair has a
  primary composite and no code point between them blocks it: one that is a starter or has a
  class at least its own. A leading consonant and a vowel compose to a Hangul syllable, and
  such a syllable with a trailing consonant to a longer one.
-/

namespace MonolithSplit.Text

/-! ## Hangul syllables -/

/-- The first Hangul syllable. -/
def hangulFirst : Nat := 0xAC00

/-- The number of Hangul syllables. -/
def hangulCount : Nat := 11172

/-- The first leading consonant, vowel and trailing consonant jamo; the trailing ones start
one past `trailingBase`. -/
def leadingBase : Nat := 0x1100
/-- The first vowel jamo. -/
def vowelBase : Nat := 0x1161
/-- One before the first trailing consonant jamo. -/
def trailingBase : Nat := 0x11A7

/-- How many vowels and trailing consonants (with none) there are. -/
def vowelCount : Nat := 21
/-- How many trailing consonants there are, counting the absence of one. -/
def trailingCount : Nat := 28

/-- The jamo of a Hangul syllable, or none for another code point. -/
def hangulJamo? (c : Char) : Option (List Char) :=
  let n := c.toNat
  if hangulFirst ≤ n && n < hangulFirst + hangulCount then
    let index := n - hangulFirst
    let leading := Char.ofNat (leadingBase + index / (vowelCount * trailingCount))
    let vowel := Char.ofNat (vowelBase + (index % (vowelCount * trailingCount)) / trailingCount)
    let trailing := index % trailingCount
    some (if trailing == 0 then [leading, vowel]
      else [leading, vowel, Char.ofNat (trailingBase + trailing)])
  else none

/-- The Hangul syllable two jamo compose to: a leading consonant with a vowel, or a syllable
without a trailing consonant with one. -/
def hangulComposite? (first second : Char) : Option Char :=
  let a := first.toNat
  let b := second.toNat
  if leadingBase ≤ a && a < leadingBase + 19 && vowelBase ≤ b && b < vowelBase + vowelCount then
    some (Char.ofNat (hangulFirst +
      ((a - leadingBase) * vowelCount + (b - vowelBase)) * trailingCount))
  else if hangulFirst ≤ a && a < hangulFirst + hangulCount && (a - hangulFirst) % trailingCount == 0 &&
      trailingBase < b && b < trailingBase + trailingCount then
    some (Char.ofNat (a + (b - trailingBase)))
  else none

/-! ## Decomposition and ordering -/

/-- The full canonical decomposition of a code point: itself when it has none. -/
def decompose (c : Char) : List Char :=
  match hangulJamo? c with
  | some jamo => jamo
  | none => (decomposition? c).getD [c]

/-- Sorts runs of non-starters by combining class, keeping equal classes in order; `run` holds
the non-starters read since the last starter, in order. -/
def orderRuns (run : List Char) : List Char → List Char
  | [] => run.mergeSort (fun a b => combiningClass a ≤ combiningClass b)
  | c :: rest =>
    if combiningClass c == 0 then
      run.mergeSort (fun a b => combiningClass a ≤ combiningClass b) ++ c :: orderRuns [] rest
    else orderRuns (run ++ [c]) rest

/-- The canonical decomposition of a text, canonically ordered (Normalization Form D). -/
def canonicalDecomposition (cs : List Char) : List Char :=
  orderRuns [] (cs.flatMap decompose)

/-! ## Composition -/

/-- The primary composite of two code points, Hangul included. -/
def compose? (first second : Char) : Option Char :=
  match hangulComposite? first second with
  | some c => some c
  | none => composite? first second

/-- What composition has written so far: the text before the last starter, last code point
first; the last starter, if one came; and the code points after it that stayed, last first. -/
structure Composing where
  done : List Char
  starter : Option Char
  after : List Char

/-- The code points composition has written, in order. -/
def Composing.text (s : Composing) : List Char :=
  (s.after ++ s.starter.toList ++ s.done).reverse

/-- Takes the next code point of a canonically ordered text: it composes with the last
starter when no code point between them blocks it, and otherwise stays, becoming the last
starter if it is one. -/
def Composing.push (s : Composing) (c : Char) : Composing :=
  let cls := combiningClass c
  let unblocked := match s.after with
    | [] => true
    | b :: _ => combiningClass b < cls
  match s.starter with
  | some st =>
    match (if unblocked then compose? st c else none) with
    | some composite => { s with starter := some composite }
    | none =>
      if cls == 0 then ⟨s.after ++ st :: s.done, some c, []⟩
      else { s with after := c :: s.after }
  | none =>
    if cls == 0 then { s with starter := some c } else { s with done := c :: s.done }

/-- The canonical composition of a canonically ordered text. -/
def canonicalComposition (cs : List Char) : List Char :=
  (cs.foldl Composing.push ⟨[], none, []⟩).text

/-- A text in Normalization Form C. -/
def nfc (cs : List Char) : List Char :=
  canonicalComposition (canonicalDecomposition cs)

/-- Whether a text is in Normalization Form C. -/
def isNfc (cs : List Char) : Bool := nfc cs == cs

end MonolithSplit.Text
