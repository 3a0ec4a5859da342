import MonolithSplit.Schema.Shape

/-!
# Reading typed data from a parsed JSON value

Checks an already parsed value against a `Shape` and normalises it, with the same rules as
reading from text. A parsed object holds each key once, in sorted order, so members are visited
in key order and no field can be repeated. A record written as an array must not have more
items than fields. A name from a fixed list may be a string, or an object with exactly one
member whose value is `null`.
-/

namespace MonolithSplit.Schema

open MonolithSplit.Json

mutual
/-- Checks and normalises a value against a shape. -/
def decodeValue : Nat → Shape → Value → Except Complaint Value
  | 0, _, _ => .error (.invalidType .null "a value")
  | _ + 1, .text, .string s => .ok (.string s)
  | _ + 1, .text, v => .error (.invalidType v.unexpected "a string")
  | _ + 1, .count32, .number n => count32Of n
  | _ + 1, .count32, v => .error (.invalidType v.unexpected "u32")
  | _ + 1, .any, v => .ok v
  | _ + 1, .optional _, .null => .ok .null
  | fuel + 1, .optional inner, v => decodeValue fuel inner v
  | fuel + 1, .list item, .array xs => (decodeItems fuel item xs).map .array
  | _ + 1, .list _, v => .error (.invalidType v.unexpected "a sequence")
  | fuel + 1, .dictionary item, .object ms => (decodeEntries fuel item ms).map .object
  | _ + 1, .dictionary _, v => .error (.invalidType v.unexpected "a map")
  | fuel + 1, .record name fields, .array xs =>
    match decodeFieldItems fuel (recordArity name fields.length) fields 0 xs with
    | .ok (vs, []) => .ok (.array vs)
    | .ok (_, _ :: _) => .error (.invalidLength xs.length "fewer elements in array")
    | .error k => .error k
  | fuel + 1, .record _ fields, .object ms =>
    match decodeFieldMembers fuel fields ms (fields.map fun _ => none) with
    | .ok got => (completeRecord fields got).map .array
    | .error k => .error k
  | _ + 1, .record name _, v => .error (.invalidType v.unexpected ("struct " ++ name))
  | _ + 1, .choice names, .string s =>
    if names.contains s then .ok (.string s) else .error (.unknownVariant s names)
  | _ + 1, .choice names, .object [(k, v)] =>
    if names.contains k then
      match v with
      | .null => .ok (.string k)
      | other => .error (.invalidType other.unexpected "unit")
    else .error (.unknownVariant k names)
  | _ + 1, .choice _, .object _ => .error (.invalidValue .map "map with a single key")
  | _ + 1, .choice _, v => .error (.invalidType v.unexpected "string or map")

/-- Checks each item of an array. -/
def decodeItems : Nat → Shape → List Value → Except Complaint (List Value)
  | 0, _, _ => .ok []
  | _ + 1, _, [] => .ok []
  | fuel + 1, item, x :: xs =>
    match decodeValue fuel item x with
    | .ok y => (decodeItems fuel item xs).map (y :: ·)
    | .error k => .error k

/-- Checks each value of a map. -/
def decodeEntries : Nat → Shape → List (String × Value) →
    Except Complaint (List (String × Value))
  | 0, _, _ => .ok []
  | _ + 1, _, [] => .ok []
  | fuel + 1, item, (k, v) :: ms =>
    match decodeValue fuel item v with
    | .ok y => (decodeEntries fuel item ms).map (Value.insertMember k y ·)
    | .error e => .error e

/-- Checks the items of a record written as an array, in field order; gives the field values
and the items left over. -/
def decodeFieldItems : Nat → String → List (String × Shape × Option Value) → Nat → List Value →
    Except Complaint (List Value × List Value)
  | 0, _, _, _, xs => .ok ([], xs)
  | _ + 1, _, [], _, xs => .ok ([], xs)
  | fuel + 1, arity, (_, _, dflt) :: rest, index, [] =>
    match dflt with
    | some d =>
      (decodeFieldItems fuel arity rest (index + 1) []).map fun (vs, left) => (d :: vs, left)
    | none => .error (.invalidLength index arity)
  | fuel + 1, arity, (_, shape, _) :: rest, index, x :: xs =>
    match decodeValue fuel shape x with
    | .ok y =>
      (decodeFieldItems fuel arity rest (index + 1) xs).map fun (vs, left) => (y :: vs, left)
    | .error k => .error k

/-- Checks the members of a record written as an object, in member order; members naming no
field are ignored. -/
def decodeFieldMembers : Nat → List (String × Shape × Option Value) → List (String × Value) →
    List (Option Value) → Except Complaint (List (Option Value))
  | 0, _, _, got => .ok got
  | _ + 1, _, [], got => .ok got
  | fuel + 1, fields, (k, v) :: ms, got =>
    match fieldIndex k fields with
    | some i =>
      match decodeValue fuel ((fields[i]?.map fun f => f.2.1).getD .any) v with
      | .ok y => decodeFieldMembers fuel fields ms (setSlot i y got)
      | .error e => .error e
    | none => decodeFieldMembers fuel fields ms got
end

/-- Checks a parsed value against a shape; a complaint has no place. -/
def Shape.decode (shape : Shape) (v : Value) : Except DecodeError Value :=
  (decodeValue (4 * v.weight + 16) shape v).mapError DecodeError.ofComplaint

end MonolithSplit.Schema
