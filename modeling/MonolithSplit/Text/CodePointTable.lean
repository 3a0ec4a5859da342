/-!
# Tables of code points

Character properties are kept as tables written in text and read into arrays once. A table is
a list of spans, each a run of consecutive code points sharing one value, in increasing order.
A span is written as the distance of its first code point from the previous span's last, a
`+`, its length less one, both in lowercase hexadecimal, and for a table with values a `:`
and the value's letters. Spans are separated by semicolons, and a table is split into lines
between spans.

Looking a code point up is a binary search for the last span starting at or before it.
-/

namespace MonolithSplit.Text

/-- The value of a lowercase hexadecimal digit. -/
def hexValue? (c : Char) : Option Nat :=
  if '0' ≤ c && c ≤ '9' then some (c.toNat - 48)
  else if 'a' ≤ c && c ≤ 'f' then some (c.toNat - 87)
  else none

/-- Whether a character is a lowercase hexadecimal digit. -/
def isHexDigit (c : Char) : Bool := (hexValue? c).isSome

/-- The number written by lowercase hexadecimal digits; zero when there are none. -/
def hexNumber (cs : List Char) : Nat :=
  cs.foldl (fun n c => 16 * n + (hexValue? c).getD 0) 0

/-- The code points written in hexadecimal and separated by commas. -/
def hexCodePoints (cs : List Char) : List Char :=
  ((String.ofList cs).splitOn ",").map fun h => Char.ofNat (hexNumber h.toList)

/-- A span of code points, from `first` to `last`, sharing a value. -/
structure Span (α : Type) where
  first : Nat
  last : Nat
  value : α
  deriving Repr, Inhabited

/-- Reads the spans of a table text; `last` is the last code point of the previous span, and
`valueOf` reads a span's value from the letters after its numbers and colon. -/
def readSpans {α : Type} (valueOf : List Char → α) (last : Nat) : List String → List (Span α)
  | [] => []
  | span :: rest =>
    if span.isEmpty then readSpans valueOf last rest else
    let cs := span.toList
    let gap := cs.takeWhile isHexDigit
    let afterGap := (cs.drop gap.length).drop 1
    let length := afterGap.takeWhile isHexDigit
    let first := last + hexNumber gap
    let spanLast := first + hexNumber length
    ⟨first, spanLast, valueOf ((afterGap.drop length.length).drop 1)⟩ :: readSpans valueOf spanLast rest

/-- The spans of a table written as lines of text, in increasing order. -/
def spansOf {α : Type} (valueOf : List Char → α) (lines : List String) : Array (Span α) :=
  (readSpans valueOf 0 (lines.flatMap (·.splitOn ";"))).toArray

/-- The index of the last span, among spans `lo` to `hi - 1`, that starts at or before `n`,
given that span `lo` does. -/
def lastSpanFrom {α : Type} [Inhabited α] (spans : Array (Span α)) (n lo hi : Nat) : Nat :=
  if lo + 1 < hi then
    let mid := (lo + hi) / 2
    if (spans.getD mid default).first ≤ n then lastSpanFrom spans n mid hi
    else lastSpanFrom spans n lo mid
  else lo
termination_by hi - lo

/-- The value of the span that holds a code point, if one does. -/
def spanValue? {α : Type} [Inhabited α] (spans : Array (Span α)) (n : Nat) : Option α :=
  let s := spans.getD (lastSpanFrom spans n 0 spans.size) default
  if s.first ≤ n && n ≤ s.last then some s.value else none

end MonolithSplit.Text
