import MonolithSplit.Schema.Shape
import MonolithSplit.Json.Reader

/-!
# Reading typed data from JSON text

Reads data of a `Shape` straight from text, one token at a time, so that the first problem in
reading order is the one reported, with its place. Data of a different kind is reported as such
("invalid type: map, expected a sequence"), except where a name from a fixed list is expected:
there anything but a string or a one-member object is not a value at all. Members of a record
that name no field are skipped after checking their form only.
-/

namespace MonolithSplit.Schema

open MonolithSplit.Json
open MonolithSplit.Json.Reader

/-- Reports the kind of the value ahead as unexpected, after reading a scalar whole. -/
def invalidAhead {α : Type} (expected : String) : Reader α := placed do
  match ← peek with
  | none => failAhead .expectedValue
  | some ch =>
    if ch = 'n' then do advance; ident ['u', 'l', 'l']; complain (.invalidType .null expected)
    else if ch = 't' then do
      advance; ident ['r', 'u', 'e']; complain (.invalidType (.bool true) expected)
    else if ch = 'f' then do
      advance; ident ['a', 'l', 's', 'e']; complain (.invalidType (.bool false) expected)
    else if ch = '-' then do
      advance; let n ← number false; complain (.invalidType n.unexpected expected)
    else if isDigit ch then do let n ← number true; complain (.invalidType n.unexpected expected)
    else if ch = '"' then do
      advance; let s ← stringBody; complain (.invalidType (.string s) expected)
    else if ch = '[' then complain (.invalidType .sequence expected)
    else if ch = '{' then complain (.invalidType .map expected)
    else failAhead .expectedValue

/-- Lifts a complaint about a read value into reading. -/
def orComplain {α : Type} : Except Complaint α → Reader α
  | .ok a => pure a
  | .error k => complain k

/-- Reads a string. -/
def readText : Reader Value := placed do
  match ← blanks with
  | none => failAhead .eofInValue
  | some ch =>
    if ch = '"' then do advance; let s ← stringBody; pure (.string s)
    else invalidAhead "a string"

/-- Reads a 32-bit count. -/
def readCount32 : Reader Value := placed do
  match ← blanks with
  | none => failAhead .eofInValue
  | some ch =>
    if ch = '-' then do advance; let n ← number false; orComplain (count32Of n)
    else if isDigit ch then do let n ← number true; orComplain (count32Of n)
    else invalidAhead "u32"

/-- Reads a name from `names` written as a string. -/
def readName (names : List String) : Reader Value := placed do
  match ← blanks with
  | none => failAhead .eofInValue
  | some ch =>
    if ch = '"' then do
      advance
      let s ← stringBody
      if names.contains s then pure (.string s) else complain (.unknownVariant s names)
    else invalidAhead "variant identifier"

/-- Reads the `null` that follows a name written as a one-member object. -/
def readUnit : Reader Unit := placed do
  match ← blanks with
  | none => failAhead .eofInValue
  | some ch =>
    if ch = 'n' then do advance; ident ['u', 'l', 'l']
    else invalidAhead "unit"

/-- Reads a name from `names`: a string, or an object with the name as its one key and
`null` as its value. -/
def readChoice (names : List String) : Reader Value := do
  match ← blanks with
  | none => failAhead .eofInValue
  | some ch =>
    if ch = '"' then readName names
    else if ch = '{' then
      nested do
        advance
        let v ← readName names
        objectColon
        readUnit
        match ← blanks with
        | some '}' => do advance; pure v
        | some _ => failHere .expectedValue
        | none => failHere .eofInObject
    else failAhead .expectedValue

mutual
/-- Reads data of a shape. -/
def readShape : Nat → Shape → Reader Value
  | 0, _ => failHere .eofInValue
  | _ + 1, .text => readText
  | _ + 1, .count32 => readCount32
  | fuel + 1, .any => anyValue fuel
  | fuel + 1, .optional inner => do
    match ← blanks with
    | some 'n' => do advance; ident ['u', 'l', 'l']; pure .null
    | _ => readShape fuel inner
  | fuel + 1, .list item => placed do
    match ← blanks with
    | none => failAhead .eofInValue
    | some ch =>
      if ch = '[' then
        nested (closedBy (do advance; let xs ← readItems fuel item true []; pure (.array xs)) endArray)
      else invalidAhead "a sequence"
  | fuel + 1, .dictionary item => placed do
    match ← blanks with
    | none => failAhead .eofInValue
    | some ch =>
      if ch = '{' then
        nested (closedBy (do advance; let ms ← readEntries fuel item true []; pure (.object ms))
          endObject)
      else invalidAhead "a map"
  | fuel + 1, .record name fields => placed do
    match ← blanks with
    | none => failAhead .eofInValue
    | some ch =>
      if ch = '[' then
        nested (closedBy (do
          advance
          let vs ← readFieldItems fuel (recordArity name fields.length) fields 0 true []
          pure (.array vs)) endArray)
      else if ch = '{' then
        nested (closedBy (do
          advance
          let got ← readFieldMembers fuel fields true (fields.map fun _ => none)
          let vs ← orComplain (completeRecord fields got)
          pure (.array vs)) endObject)
      else invalidAhead ("struct " ++ name)
  | _ + 1, .choice names => readChoice names

/-- Reads the items of an array of one shape. -/
def readItems : Nat → Shape → Bool → List Value → Reader (List Value)
  | 0, _, _, acc => pure acc.reverse
  | fuel + 1, item, first, acc => do
    if ← hasNextItem first then do
      let x ← readShape fuel item
      readItems fuel item false (x :: acc)
    else pure acc.reverse

/-- Reads the entries of a map of one shape, sorted by key, a repeated key keeping its last
value. -/
def readEntries : Nat → Shape → Bool → List (String × Value) → Reader (List (String × Value))
  | 0, _, _, acc => pure (Value.sortedMembers acc.reverse)
  | fuel + 1, item, first, acc => do
    if ← hasNextKey first then do
      let k ← key
      objectColon
      let v ← readShape fuel item
      readEntries fuel item false ((k, v) :: acc)
    else pure (Value.sortedMembers acc.reverse)

/-- Reads a record written as an array: the fields in order, a default for each field left out
at the end. -/
def readFieldItems : Nat → String → List (String × Shape × Option Value) → Nat → Bool →
    List Value → Reader (List Value)
  | 0, _, _, _, _, acc => pure acc.reverse
  | _ + 1, _, [], _, _, acc => pure acc.reverse
  | fuel + 1, arity, (_, shape, dflt) :: rest, index, first, acc => do
    if ← hasNextItem first then do
      let x ← readShape fuel shape
      readFieldItems fuel arity rest (index + 1) false (x :: acc)
    else
      match dflt with
      | some d => readFieldItems fuel arity rest (index + 1) first (d :: acc)
      | none => complain (.invalidLength index arity)

/-- Reads the members of a record written as an object, in any order; a field named twice is a
complaint, a member naming no field is skipped. -/
def readFieldMembers : Nat → List (String × Shape × Option Value) → Bool → List (Option Value) →
    Reader (List (Option Value))
  | 0, _, _, got => pure got
  | fuel + 1, fields, first, got => do
    if ← hasNextKey first then do
      let k ← key
      match fieldIndex k fields with
      | some i =>
        if slotFilled i got then complain (.duplicateField k)
        else do
          objectColon
          let shape := (fields[i]?.map fun f => f.2.1).getD .any
          let v ← readShape fuel shape
          readFieldMembers fuel fields false (setSlot i v got)
      | none => do
        objectColon
        skipValue
        readFieldMembers fuel fields false got
    else pure got
end

/-- Reads a whole text as data of a shape. -/
def Shape.readText (shape : Shape) (text : String) : Except DecodeError Value :=
  (withFuel fun fuel => readShape fuel shape).runText text

end MonolithSplit.Schema
