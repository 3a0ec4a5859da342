import MonolithSplit.Json.Value

/-!
# Writing JSON text

Two layouts of the same text. The compact layout has no blanks at all. The pretty layout puts
each item and member on its own line, indented two spaces per level, with `": "` after a key;
an empty array or object stays `[]` or `{}`. In a string, the quote, the backslash and the
control characters are escaped: seven of them by a letter, the rest as `\u00XX` in lower-case
hex. Every other character, non-ASCII ones included, is written as it is.
-/

namespace MonolithSplit.Json

/-- The lower-case hexadecimal digit of a number below 16. -/
def hexDigit (n : Nat) : Char :=
  if n < 10 then Char.ofNat (48 + n) else Char.ofNat (87 + n)

/-- How one character is written inside a JSON string. -/
def escapeChar (c : Char) : List Char :=
  if c = '"' then ['\\', '"']
  else if c = '\\' then ['\\', '\\']
  else if c = '\n' then ['\\', 'n']
  else if c = '\r' then ['\\', 'r']
  else if c = '\t' then ['\\', 't']
  else if c.toNat = 8 then ['\\', 'b']
  else if c.toNat = 12 then ['\\', 'f']
  else if c.toNat < 32 then ['\\', 'u', '0', '0', hexDigit (c.toNat / 16), hexDigit (c.toNat % 16)]
  else [c]

/-- A string as a quoted JSON string literal. -/
def quote (s : String) : String :=
  String.ofList ('"' :: (s.toList.flatMap escapeChar ++ ['"']))

/-- Items joined by a separator, appended from the left so that the text built so far is
extended in place rather than copied for every item. -/
def joinWith (sep : String) : List String → String
  | [] => ""
  | x :: xs => xs.foldl (fun acc y => acc ++ sep ++ y) x

namespace Value

mutual
/-- The compact text of a value. -/
def compact : Value → String
  | .null => "null"
  | .bool true => "true"
  | .bool false => "false"
  | .number n => n.text
  | .string s => quote s
  | .array xs => "[" ++ joinWith "," (compactItems xs) ++ "]"
  | .object ms => "\x7b" ++ joinWith "," (compactMembers ms) ++ "\x7d"

/-- The compact texts of items. -/
def compactItems : List Value → List String
  | [] => []
  | x :: xs => compact x :: compactItems xs

/-- The compact texts of members. -/
def compactMembers : List (String × Value) → List String
  | [] => []
  | (k, v) :: ms => (quote k ++ ":" ++ compact v) :: compactMembers ms
end

/-- Two spaces per level. -/
def indentation (level : Nat) : String :=
  String.ofList (List.replicate (2 * level) ' ')

mutual
/-- The pretty text of a value standing at indentation `level`. -/
def pretty (level : Nat) : Value → String
  | .array [] => "[]"
  | .object [] => "{}"
  | .array xs =>
    "[\n" ++ joinWith ",\n" (prettyItems (level + 1) xs) ++ "\n" ++ indentation level ++ "]"
  | .object ms =>
    "\x7b\n" ++ joinWith ",\n" (prettyMembers (level + 1) ms) ++ "\n" ++ indentation level ++ "\x7d"
  | j => compact j

/-- Each item on its own line at `level`. -/
def prettyItems (level : Nat) : List Value → List String
  | [] => []
  | x :: xs => (indentation level ++ pretty level x) :: prettyItems level xs

/-- Each member on its own line at `level`. -/
def prettyMembers (level : Nat) : List (String × Value) → List String
  | [] => []
  | (k, v) :: ms => (indentation level ++ quote k ++ ": " ++ pretty level v) :: prettyMembers level ms
end

/-- The pretty text of a value at the top level. -/
def prettyText (j : Value) : String := pretty 0 j

end Value

end MonolithSplit.Json
