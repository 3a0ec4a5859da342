import MonolithSplit.Schema.FromText
import MonolithSplit.Schema.FromValue
import MonolithSplit.Json.Write

/-!
# Recommendations as generated

A recommendation is what a generator answers: services, each with a name, a functionality and
the names of the data models it should own. Nothing about the names is checked yet.

A generator's text is read after removing white space at both ends and one Markdown code fence:
when the text starts with three backticks and has a line break, everything up to the first line
break goes, the rest is cut at the last three backticks (if any) and trimmed again.

White space is the characters with the Unicode White_Space property. Besides the ASCII blanks and
controls from tab to carriage return, they are the next line control, the no-break space, the
ogham space mark, the en quad to hair spaces, the line and paragraph separators, the narrow
no-break space, the medium mathematical space and the ideographic space. The byte order mark is
not white space.
-/

namespace MonolithSplit.Text

/-- Whether a character has the White_Space property. -/
def isWhite (c : Char) : Bool :=
  let n := c.toNat
  (0x09 ≤ n && n ≤ 0x0D) || n == 0x20 || n == 0x85 || n == 0xA0 || n == 0x1680 ||
    (0x2000 ≤ n && n ≤ 0x200A) || n == 0x2028 || n == 0x2029 || n == 0x202F || n == 0x205F ||
    n == 0x3000

/-- The characters without the white space at both ends. -/
def trimWhite (cs : List Char) : List Char :=
  ((cs.dropWhile isWhite).reverse.dropWhile isWhite).reverse

/-- The ASCII white space that core knows is white space here too. -/
theorem isWhite_of_isWhitespace (c : Char) (h : c.isWhitespace = true) : isWhite c = true := by
  simp only [Char.isWhitespace, Bool.or_eq_true, decide_eq_true_eq] at h
  rcases h with ((rfl | rfl) | rfl) | rfl <;> decide

end MonolithSplit.Text

namespace MonolithSplit.Proposal

open MonolithSplit.Json MonolithSplit.Schema

/-- A proposed service, unchecked. -/
structure ServiceDraft where
  name : String
  functionality : String
  dataModels : List String
  deriving Repr, DecidableEq

/-- A generator's recommendation, unchecked. -/
structure Recommendation where
  services : List ServiceDraft
  deriving Repr, DecidableEq

namespace ServiceDraft

/-- How a proposed service is read. -/
def shape : Shape :=
  .record "RawMicroservice"
    [required "name" .text, defaulted "functionality" .text (.string ""),
      required "dataModels" (.list .text)]

/-- A proposed service from its normalised value. -/
def ofDecoded (j : Value) : ServiceDraft :=
  ⟨(j.slot 0).asText, (j.slot 1).asText, (j.slot 2).asItems.map Value.asText⟩

/-- The JSON form of a proposed service. -/
def toJson (d : ServiceDraft) : Value :=
  .object [("name", .string d.name), ("functionality", .string d.functionality),
    ("dataModels", .array (d.dataModels.map .string))]

end ServiceDraft

namespace Recommendation

/-- How a recommendation is read. -/
def shape : Shape :=
  .record "RawRecommendationOutput" [required "microservices" (.list ServiceDraft.shape)]

/-- A recommendation from its normalised value. -/
def ofDecoded (j : Value) : Recommendation :=
  ⟨(j.slot 0).asItems.map ServiceDraft.ofDecoded⟩

/-- The JSON form of a recommendation. -/
def toJson (r : Recommendation) : Value :=
  .object [("microservices", .array (r.services.map ServiceDraft.toJson))]

/-- Reads a recommendation from a parsed value. -/
def decode (j : Value) : Except DecodeError Recommendation :=
  (shape.decode j).map ofDecoded

end Recommendation

/-- The three backticks that open and close a code fence. -/
def fence : List Char := ['`', '`', '`']

/-- Whether a text starts with the fence. -/
def startsWithFence (cs : List Char) : Bool := cs.take 3 == fence

/-- The start of the last occurrence of the fence at or after place `i`, where `cs` is the text
from place `i` on and `found` the last start seen before it. -/
def lastFenceFrom : Nat → List Char → Option Nat → Option Nat
  | _, [], found => found
  | i, c :: rest, found =>
    lastFenceFrom (i + 1) rest (if startsWithFence (c :: rest) then some i else found)

/-- The start of the last occurrence of the fence in a text, found in one pass. -/
def lastFence (cs : List Char) : Option Nat :=
  lastFenceFrom 0 cs none

/-- The text inside a code fence, or the trimmed text itself when it is not fenced. -/
def unfence (cs : List Char) : List Char :=
  let t := Text.trimWhite cs
  if t.take 3 = fence then
    match t.idxOf? '\n' with
    | none => t
    | some nl =>
      let after := t.drop (nl + 1)
      match lastFence after with
      | some close => Text.trimWhite (after.take close)
      | none => Text.trimWhite after
  else t

/-- Reads a generator's text as a recommendation. -/
def Recommendation.read (raw : String) : Except DecodeError Recommendation :=
  (Recommendation.shape.readText (String.ofList (unfence raw.toList))).map Recommendation.ofDecoded

end MonolithSplit.Proposal
