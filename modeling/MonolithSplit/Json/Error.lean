import MonolithSplit.Json.Value
import MonolithSplit.Text.Printable

/-!
# Why JSON could not be read

Reading JSON into a typed shape fails for one of two kinds of cause. A `Fault` is in the text
itself: it is not JSON. A `Complaint` is about the data: the text is JSON, but a value has the
wrong kind, a field is missing or repeated, or a name is not one of the expected ones. A
failure read from text carries the line and column where it was noticed; one found in an
already parsed value carries none.
-/

namespace MonolithSplit.Json

/-- A place in a text: lines count from 1, columns count the bytes before it on its line. -/
structure Position where
  line : Nat
  column : Nat
  deriving DecidableEq, Repr

/-- A way a text fails to be JSON. -/
inductive Fault where
  | eofInList
  | eofInObject
  | eofInString
  | eofInValue
  | expectedColon
  | expectedListCommaOrEnd
  | expectedObjectCommaOrEnd
  | expectedIdent
  | expectedValue
  | invalidEscape
  | invalidNumber
  | numberOutOfRange
  | controlCharacter
  | keyNotString
  | loneSurrogate
  | trailingComma
  | trailingCharacters
  | unfinishedSurrogatePair
  | tooDeep
  deriving DecidableEq, Repr

/-- The wording of a fault. -/
def Fault.message : Fault → String
  | .eofInList => "EOF while parsing a list"
  | .eofInObject => "EOF while parsing an object"
  | .eofInString => "EOF while parsing a string"
  | .eofInValue => "EOF while parsing a value"
  | .expectedColon => "expected `:`"
  | .expectedListCommaOrEnd => "expected `,` or `]`"
  | .expectedObjectCommaOrEnd => "expected `,` or `\x7d`"
  | .expectedIdent => "expected ident"
  | .expectedValue => "expected value"
  | .invalidEscape => "invalid escape"
  | .invalidNumber => "invalid number"
  | .numberOutOfRange => "number out of range"
  | .controlCharacter => "control character (\\u0000-\\u001F) found while parsing a string"
  | .keyNotString => "key must be a string"
  | .loneSurrogate => "lone leading surrogate in hex escape"
  | .trailingComma => "trailing comma"
  | .trailingCharacters => "trailing characters"
  | .unfinishedSurrogatePair => "unexpected end of hex escape"
  | .tooDeep => "recursion limit exceeded"

/-- What was found where something else was expected. -/
inductive Unexpected where
  | null
  | bool (b : Bool)
  | unsigned (n : Nat)
  | signed (n : Int)
  | float (x : Binary64)
  | string (s : String)
  | sequence
  | map
  deriving Repr

/-- The wording of what was found. -/
def Unexpected.describe : Unexpected → String
  | .null => "null"
  | .bool b => "boolean `" ++ (if b then "true" else "false") ++ "`"
  | .unsigned n => "integer `" ++ toString n ++ "`"
  | .signed n => "integer `" ++ toString n ++ "`"
  | .float x => "floating point `" ++ x.text ++ "`"
  | .string s => "string " ++ Text.literal s
  | .sequence => "sequence"
  | .map => "map"

/-- What a number is, as found. -/
def Number.unexpected : Number → Unexpected
  | .unsigned n => .unsigned n
  | .signed n => .signed n
  | .float x => .float x

/-- What was found, for a parsed value. -/
def Value.unexpected : Value → Unexpected
  | .null => .null
  | .bool b => .bool b
  | .number n => n.unexpected
  | .string s => .string s
  | .array _ => .sequence
  | .object _ => .map

mutual
/-- The number of nodes of a value, a bound on the steps that walk it. -/
def Value.weight : Value → Nat
  | .array xs => 1 + Value.itemsWeight xs
  | .object ms => 1 + Value.membersWeight ms
  | _ => 1

/-- The number of nodes of some items. -/
def Value.itemsWeight : List Value → Nat
  | [] => 0
  | x :: xs => x.weight + Value.itemsWeight xs

/-- The number of nodes of some members' values. -/
def Value.membersWeight : List (String × Value) → Nat
  | [] => 0
  | (_, v) :: ms => v.weight + Value.membersWeight ms
end

/-- A way JSON data fails to fit the expected shape. -/
inductive Complaint where
  | invalidType (found : Unexpected) (expected : String)
  | invalidValue (found : Unexpected) (expected : String)
  | invalidLength (length : Nat) (expected : String)
  | missingField (name : String)
  | duplicateField (name : String)
  | unknownVariant (name : String) (expected : List String)
  deriving Repr

/-- Names in backticks, as a choice: "`a`", "`a` or `b`", "one of `a`, `b`, `c`". -/
def oneOf (names : List String) : String :=
  let ticked := names.map fun n => "`" ++ n ++ "`"
  match ticked with
  | [a] => a
  | [a, b] => a ++ " or " ++ b
  | _ => "one of " ++ String.intercalate ", " ticked

/-- The wording of a complaint. -/
def Complaint.message : Complaint → String
  | .invalidType found expected => "invalid type: " ++ found.describe ++ ", expected " ++ expected
  | .invalidValue found expected => "invalid value: " ++ found.describe ++ ", expected " ++ expected
  | .invalidLength n expected => "invalid length " ++ toString n ++ ", expected " ++ expected
  | .missingField name => "missing field `" ++ name ++ "`"
  | .duplicateField name => "duplicate field `" ++ name ++ "`"
  | .unknownVariant name [] => "unknown variant `" ++ name ++ "`, there are no variants"
  | .unknownVariant name expected => "unknown variant `" ++ name ++ "`, expected " ++ oneOf expected

/-- A fault of the text or a complaint about the data. -/
inductive Problem where
  | malformed (fault : Fault)
  | data (complaint : Complaint)
  deriving Repr

/-- The wording of a problem. -/
def Problem.message : Problem → String
  | .malformed f => f.message
  | .data c => c.message

/-- A problem and, when it was read from text, where. -/
structure DecodeError where
  problem : Problem
  position : Option Position
  deriving Repr

/-- The wording of a decoding error: the problem, then its place if it has one. -/
def DecodeError.message (e : DecodeError) : String :=
  match e.position with
  | some p => e.problem.message ++ " at line " ++ toString p.line ++ " column " ++ toString p.column
  | none => e.problem.message

/-- A complaint found in a parsed value, which has no place. -/
def DecodeError.ofComplaint (c : Complaint) : DecodeError :=
  ⟨.data c, none⟩

end MonolithSplit.Json
