import MonolithSplit.Json.Value
import MonolithSplit.Json.Error

/-!
# Shapes of typed JSON data

A `Shape` says what JSON data must look like to be read as a value of some type: a string, a
32-bit count, any value, an optional value, a list, a map with string keys, a record with named
fields, or one of a fixed set of names. Reading data against a shape gives a normalised value:
a record comes back as the array of its field values in field order, absent fields filled in
from their defaults; a map comes back with its keys sorted. Each type of the library turns that
normalised value into itself.

A record may also be written as an array of its field values in field order; trailing fields
with defaults may then be left out.
-/

namespace MonolithSplit.Schema

open MonolithSplit.Json

/-- What JSON data must look like. -/
inductive Shape where
  /-- A string. -/
  | text
  /-- A whole number from `0` to `2 ^ 32 - 1`. -/
  | count32
  /-- Any JSON value. -/
  | any
  /-- `null`, or data of the inner shape. -/
  | optional (inner : Shape)
  /-- An array, each item of the same shape. -/
  | list (item : Shape)
  /-- An object, each value of the same shape. -/
  | dictionary (item : Shape)
  /-- A record: named fields, each with a shape and, if it may be left out, a default. -/
  | record (name : String) (fields : List (String × Shape × Option Value))
  /-- One of a fixed list of names. -/
  | choice (names : List String)

/-- A field that must be present. -/
def required (key : String) (shape : Shape) : String × Shape × Option Value :=
  (key, shape, none)

/-- A field that takes `value` when left out. -/
def defaulted (key : String) (shape : Shape) (value : Value) : String × Shape × Option Value :=
  (key, shape, some value)

/-- What a record written as an array must hold: "struct R with 3 elements". -/
def recordArity (name : String) (count : Nat) : String :=
  "struct " ++ name ++ " with " ++ toString count ++ (if count = 1 then " element" else " elements")

/-- The position of a field in a record's field list. -/
def fieldIndex (key : String) : List (String × Shape × Option Value) → Option Nat
  | [] => none
  | (k, _, _) :: rest => if k = key then some 0 else (fieldIndex key rest).map (· + 1)

/-- A 32-bit count from a number, or the complaint about it. -/
def count32Of (n : Number) : Except Complaint Value :=
  match n with
  | .unsigned k => if k < Nat.pow 2 32 then .ok (.number n) else .error (.invalidValue (.unsigned k) "u32")
  | .signed k => .error (.invalidValue (.signed k) "u32")
  | .float x => .error (.invalidType (.float x) "u32")

/-- The record's field values in order from what was found: a missing field takes its default,
or is the first missing required field. -/
def completeRecord : List (String × Shape × Option Value) → List (Option Value) →
    Except Complaint (List Value)
  | [], _ => .ok []
  | (key, _, dflt) :: rest, got =>
    let here := got.head?.bind id
    match here.orElse fun _ => dflt with
    | some v => (completeRecord rest got.tail).map (v :: ·)
    | none => .error (.missingField key)

/-- Sets the `i`-th slot of a list of found values. -/
def setSlot (i : Nat) (v : Value) (got : List (Option Value)) : List (Option Value) :=
  got.set i (some v)

/-- Whether the `i`-th slot is already filled. -/
def slotFilled (i : Nat) (got : List (Option Value)) : Bool :=
  match got[i]? with
  | some (some _) => true
  | _ => false

end MonolithSplit.Schema

namespace MonolithSplit.Json.Value

/-! ### Reading normalised values

A value that passed a shape check has the shape's form, so these accessors only fall back to
an empty value on forms that cannot occur. -/

/-- The text of a normalised string. -/
def asText : Value → String
  | .string s => s
  | _ => ""

/-- The count of a normalised 32-bit count. -/
def asCount : Value → Nat
  | .number (.unsigned n) => n
  | _ => 0

/-- The items of a normalised list. -/
def asItems : Value → List Value
  | .array xs => xs
  | _ => []

/-- The entries of a normalised map. -/
def asEntries : Value → List (String × Value)
  | .object ms => ms
  | _ => []

/-- A normalised optional value. -/
def asOption : Value → Option Value
  | .null => none
  | j => some j

/-- The `i`-th field value of a normalised record. -/
def slot (j : Value) (i : Nat) : Value :=
  (j.asItems[i]?).getD .null

end MonolithSplit.Json.Value
