import MonolithSplit.Json.Number

/-!
# JSON values

A JSON value is a tree of nulls, booleans, numbers, strings, arrays and objects. An object keeps
its members as a list of pairs. Where an object is a map of free keys, its members are kept
sorted by key with each key once (`Value.insertMember`); where it is a record written out, the
members stand in the record's field order.
-/

namespace MonolithSplit.Json

/-- A JSON value. -/
inductive Value where
  | null
  | bool (b : Bool)
  | number (n : Number)
  | string (s : String)
  | array (items : List Value)
  | object (members : List (String × Value))
  deriving Repr, Inhabited

namespace Value

/-- Puts `key ↦ value` into members sorted by key: a present key takes the new value. -/
def insertMember (key : String) (value : Value) : List (String × Value) → List (String × Value)
  | [] => [(key, value)]
  | (k, v) :: rest =>
    if key = k then (key, value) :: rest
    else if key < k then (key, value) :: (k, v) :: rest
    else (k, v) :: insertMember key value rest

/-- Of each run of members with one key, the last; `kept` holds the members kept so far, last
first. -/
def lastOfRuns : List (String × Value) → List (String × Value) → List (String × Value)
  | [], kept => kept.reverse
  | m :: rest, kept =>
    match rest with
    | n :: _ => if m.1 = n.1 then lastOfRuns rest kept else lastOfRuns rest (m :: kept)
    | [] => lastOfRuns rest (m :: kept)

/-- The sorted members holding each key of `members` once, the last value of a key winning.
The sort is stable, so the members of one key stay in their order and the last of each run is
the last one given: the same members as inserting them one by one with `insertMember`. -/
def sortedMembers (members : List (String × Value)) : List (String × Value) :=
  lastOfRuns (members.mergeSort fun a b => decide (a.1 ≤ b.1)) []

/-- The value of the first member named `key`. -/
def lookup (key : String) : List (String × Value) → Option Value
  | [] => none
  | (k, v) :: rest => if k = key then some v else lookup key rest

/-- The member `key` of an object, if the value is an object that has it. -/
def field? (j : Value) (key : String) : Option Value :=
  match j with
  | .object ms => lookup key ms
  | _ => none

/-- The text of a string value. -/
def string? : Value → Option String
  | .string s => some s
  | _ => none

mutual
/-- The same value with the members of every object sorted by key, at every depth. -/
def sortKeys : Value → Value
  | .array xs => .array (sortKeysList xs)
  | .object ms => .object ((sortKeysMembers ms).mergeSort (fun a b => decide (a.1 ≤ b.1)))
  | j => j

/-- `sortKeys` on each item. -/
def sortKeysList : List Value → List Value
  | [] => []
  | x :: xs => sortKeys x :: sortKeysList xs

/-- `sortKeys` on each member's value. -/
def sortKeysMembers : List (String × Value) → List (String × Value)
  | [] => []
  | (k, v) :: ms => (k, sortKeys v) :: sortKeysMembers ms
end

/-- A natural number as a value. -/
def ofNat (n : Nat) : Value := .number (Number.ofNat n)

/-- An optional string: `null` when absent. -/
def ofOption : Option String → Value
  | some s => .string s
  | none => .null

/-- Members whose value is present, in order. -/
def presentMembers (members : List (String × Option Value)) : List (String × Value) :=
  members.filterMap fun kv => kv.2.map fun v => (kv.1, v)

end Value

end MonolithSplit.Json
