import MonolithSplit.Json.Value

/-!
# Job aliases

Job ids are random UUIDs, so answers name jobs by aliases instead: `job-1`, `job-2`, … in the
order their ids are first seen. Requests may use the aliases; an alias that is not known is
passed on as it is written.

A UUID is written as 36 characters: five groups of 8, 4, 4, 4 and 12 lowercase hexadecimal
digits joined by hyphens; a text with an uppercase digit is not taken for one. In a response, such a text is replaced by its alias when it names a job, aliases
being given in order of first appearance.
-/

namespace MonolithSplit.Protocol

open MonolithSplit.Json

/-- Aliases given so far, with the ids they stand for, in the order given. -/
structure Aliases where
  pairs : List (String × String)
  deriving Repr

/-- No alias given yet. -/
def Aliases.empty : Aliases := ⟨[]⟩

namespace Aliases

/-- The alias of an id, if it has one. -/
def aliasOf? (a : Aliases) (id : String) : Option String :=
  (a.pairs.find? (·.2 = id)).map (·.1)

/-- The id an alias stands for, or the text itself when it is not an alias. -/
def resolve (a : Aliases) (s : String) : String :=
  ((a.pairs.find? (·.1 = s)).map (·.2)).getD s

/-- The alias of an id, given now if it has none. -/
def name (a : Aliases) (id : String) : Aliases × String :=
  match a.aliasOf? id with
  | some label => (a, label)
  | none =>
    let label := "job-" ++ toString (a.pairs.length + 1)
    (⟨a.pairs ++ [(label, id)]⟩, label)

end Aliases

/-- Whether a character is a lowercase hexadecimal digit, as the digits of a UUID are
written. -/
def isHexChar (c : Char) : Bool :=
  c.isDigit || ('a' ≤ c && c ≤ 'f')

/-- Whether a character may stand at place `i` of a UUID: a hyphen closes each of the first
four groups, every other place holds a hexadecimal digit. -/
def fitsUuidAt (i : Nat) (c : Char) : Bool :=
  if i == 8 || i == 13 || i == 18 || i == 23 then c == '-' else isHexChar c

/-- Whether the characters from place `i` on complete a UUID: the check stops at the first
character that does not fit, so a scan over a text looks at few characters per place. -/
def uuidFrom (i : Nat) : List Char → Bool
  | [] => 36 ≤ i
  | c :: rest => 36 ≤ i || (fitsUuidAt i c && uuidFrom (i + 1) rest)

/-- Whether a text starts with a UUID. -/
def startsWithUuid (cs : List Char) : Bool := uuidFrom 0 cs

/-- Replaces the UUIDs of a text that `known` accepts by their aliases, giving aliases as
needed, and keeps the others as written; `done` holds what is already written, last character
first. A UUID is read whole before the scan goes on after it. -/
def maskChars (known : String → Bool) :
    Nat → Aliases → List Char → List Char → Aliases × List Char
  | 0, a, cs, done => (a, done.reverse ++ cs)
  | _ + 1, a, [], done => (a, done.reverse)
  | fuel + 1, a, c :: rest, done =>
    if startsWithUuid (c :: rest) then
      let uuid := (c :: rest).take 36
      if known (String.ofList uuid) then
        let (a, label) := a.name (String.ofList uuid)
        maskChars known fuel a ((c :: rest).drop 36) (label.toList.reverse ++ done)
      else maskChars known fuel a ((c :: rest).drop 36) (uuid.reverse ++ done)
    else maskChars known fuel a rest (c :: done)

/-- Replaces the UUIDs of a text that `known` accepts by their aliases. -/
def Aliases.maskText (known : String → Bool) (a : Aliases) (s : String) : Aliases × String :=
  let (a, cs) := maskChars known (s.length + 1) a s.toList []
  (a, String.ofList cs)

/-- Gives an alias to every UUID of a text that has none yet, in order of appearance. -/
def Aliases.noteAll (a : Aliases) (s : String) : Aliases :=
  (a.maskText (fun _ => true) s).1

mutual
/-- Replaces the UUIDs that `known` accepts in the strings of a value by their aliases, in the
order they are met. -/
def Aliases.maskJson (known : String → Bool) (a : Aliases) : Value → Aliases × Value
  | .string s => let (a, t) := a.maskText known s; (a, .string t)
  | .array xs => let (a, ys) := Aliases.maskItems known a xs; (a, .array ys)
  | .object ms => let (a, ns) := Aliases.maskMembers known a ms; (a, .object ns)
  | j => (a, j)

/-- Masks the items of an array in order. -/
def Aliases.maskItems (known : String → Bool) (a : Aliases) : List Value → Aliases × List Value
  | [] => (a, [])
  | x :: xs =>
    let (a, y) := a.maskJson known x
    let (a, ys) := Aliases.maskItems known a xs
    (a, y :: ys)

/-- Masks the values of members in order. -/
def Aliases.maskMembers (known : String → Bool) (a : Aliases) :
    List (String × Value) → Aliases × List (String × Value)
  | [] => (a, [])
  | (k, v) :: ms =>
    let (a, w) := a.maskJson known v
    let (a, ns) := Aliases.maskMembers known a ms
    (a, (k, w) :: ns)
end

mutual
/-- Replaces every string of a value that is an alias by the id it stands for. -/
def Aliases.resolveJson (a : Aliases) : Value → Value
  | .string s => .string (a.resolve s)
  | .array xs => .array (Aliases.resolveItems a xs)
  | .object ms => .object (Aliases.resolveMembers a ms)
  | j => j

/-- Resolves the items of an array. -/
def Aliases.resolveItems (a : Aliases) : List Value → List Value
  | [] => []
  | x :: xs => a.resolveJson x :: Aliases.resolveItems a xs

/-- Resolves the values of members. -/
def Aliases.resolveMembers (a : Aliases) : List (String × Value) → List (String × Value)
  | [] => []
  | (k, v) :: ms => (k, a.resolveJson v) :: Aliases.resolveMembers a ms
end

end MonolithSplit.Protocol
