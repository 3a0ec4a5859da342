import MonolithSplit.Json.Write
import MonolithSplit.Json.Error

/-!
# Answers

Every request is answered by one JSON line: `{"ok": value}`, or an error object naming the kind
of error, its message, and for some kinds extra members. Keys are sorted at every depth, so
that answers do not depend on the order in which maps were built.

A request the line protocol itself cannot use (not JSON, a needed member missing or of the
wrong type) is answered with the kind `DriverInput`.
-/

namespace MonolithSplit.Protocol

open MonolithSplit.Json

/-- The answer to one request. -/
inductive Answer where
  | ok (value : Value)
  | error (kind : String) (message : String) (extra : List (String × Value))

/-- An error answer without extra members. -/
def Answer.failure (kind message : String) : Answer :=
  .error kind message []

/-- The JSON form of an answer. -/
def Answer.toJson : Answer → Value
  | .ok v => .object [("ok", v)]
  | .error kind message extra =>
    .object ([("error", .string kind), ("message", .string message)] ++ extra)

/-- The answer line: compact, keys sorted. -/
def Answer.line (a : Answer) : String :=
  a.toJson.sortKeys.compact

/-- A problem with the request itself. -/
structure InputError where
  message : String

/-- The answer to a request the protocol cannot use. -/
def InputError.answer (e : InputError) : Answer :=
  .failure "DriverInput" e.message

/-- Steps that may fail with an answer. -/
abbrev Answering (α : Type) := Except Answer α

/-- A request member, which must be present. -/
def member (req : Value) (key : String) : Answering Value :=
  match req.field? key with
  | some v => .ok v
  | none => .error (InputError.answer ⟨"missing field '" ++ key ++ "'"⟩)

/-- A request member that may be absent or `null`. -/
def optionalMember (req : Value) (key : String) : Option Value :=
  match req.field? key with
  | some .null => none
  | other => other

/-- Decodes a member with a decoder whose complaints are answered under `kind`. -/
def decodeAs {α : Type} (kind : String) (decoder : Value → Except DecodeError α) (v : Value) :
    Answering α :=
  match decoder v with
  | .ok a => .ok a
  | .error e => .error (.failure kind e.message)

/-- A string member of the request, which must be present and a string. -/
def textMember (req : Value) (key : String) : Answering String :=
  match req.field? key with
  | none => .error (InputError.answer ⟨"missing field '" ++ key ++ "'"⟩)
  | some (.string s) => .ok s
  | some _ => .error (InputError.answer ⟨"field '" ++ key ++ "' must be a string"⟩)

/-- A string member with a fallback for when it is absent or not a string. -/
def textMemberOr (req : Value) (key : String) (fallback : String) : String :=
  match req.field? key with
  | some (.string s) => s
  | _ => fallback

/-- An optional string member: absent or `null` is none, anything else but a string is refused. -/
def optionalText (req : Value) (key : String) : Answering (Option String) :=
  match optionalMember req key with
  | none => .ok none
  | some (.string s) => .ok (some s)
  | some _ => .error (InputError.answer ⟨key ++ " must be a string"⟩)

/-- A boolean member: true only when it is `true`. -/
def flagMember (req : Value) (key : String) : Bool :=
  match req.field? key with
  | some (.bool b) => b
  | _ => false

/-- An array member, which must be present and an array. -/
def arrayMember (req : Value) (key : String) : Answering (List Value) := do
  match ← member req key with
  | .array items => .ok items
  | _ => .error (InputError.answer ⟨key ++ " must be an array"⟩)

end MonolithSplit.Protocol
