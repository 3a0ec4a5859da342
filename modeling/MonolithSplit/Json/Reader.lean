import MonolithSplit.Json.Value
import MonolithSplit.Json.Error

/-!
# Reading JSON text

A `Reader` walks the characters of a text and counts the bytes it has read, so that a problem
can name the line and column where it was noticed. Two places are used: `failHere` names the
byte reached, `failAhead` the byte after the next one (what a reader that has only peeked at a
character sees). A complaint about data is raised without a place; `placed` gives it the place
reached when it leaves a value, after any closing bracket has been checked.

This module holds the lexical layer: blanks, literals, strings with their escapes, numbers, and
skipping a value that nothing needs. Numbers follow the integer-first rule: an integer that fits
in 64 bits stays exact; anything else is a binary64 value computed by `Binary64.ofDecimal`.
-/

namespace MonolithSplit.Json

/-- Where reading stands: the characters left, the bytes read, how many more arrays or
objects may open before the nesting limit, and a bound on the steps of any one scan, fixed from
the length of the whole text when reading starts. -/
structure Cursor where
  rest : List Char
  offset : Nat
  depth : Nat
  budget : Nat

/-- The result of a reading step: a value and the cursor after it, or a problem with the byte
offset where it was noticed (if known) and the cursor where reading stopped. -/
inductive Outcome (α : Type) where
  | done (value : α) (next : Cursor)
  | fail (problem : Problem) (offset : Option Nat) (next : Cursor)

/-- A reading step. -/
def Reader (α : Type) : Type := Cursor → Outcome α

namespace Reader

/-- Sequencing of reading steps: a failure stops the rest. -/
def andThen {α β : Type} (r : Reader α) (f : α → Reader β) : Reader β := fun c =>
  match r c with
  | .done a c' => f a c'
  | .fail p o c' => .fail p o c'

instance : Monad Reader where
  pure a := fun c => .done a c
  bind := andThen

/-- The next character, left unread. -/
def peek : Reader (Option Char) := fun c => .done c.rest.head? c

/-- Reads past the next character, if there is one. -/
def advance : Reader Unit := fun c =>
  match c.rest with
  | [] => .done () c
  | ch :: rest => .done () { c with rest := rest, offset := c.offset + ch.utf8Size }

/-- Reads the next character, if there is one. -/
def next : Reader (Option Char) := fun c =>
  match c.rest with
  | [] => .done none c
  | ch :: rest => .done (some ch) { c with rest := rest, offset := c.offset + ch.utf8Size }

/-- Reads the next character where only an ASCII one can follow. The text is read a byte at a
time, so a character outside ASCII is where reading fails, one byte into it; an ASCII character
is one byte, so on success this is `next`. -/
def nextByte : Reader (Option Char) := fun c =>
  match c.rest with
  | [] => .done none c
  | ch :: rest => .done (some ch) { c with rest := rest, offset := c.offset + 1 }

/-- Reads past one byte of the next character, before failing on it. -/
def advanceByte : Reader Unit := fun c =>
  match c.rest with
  | [] => .done () c
  | _ :: rest => .done () { c with rest := rest, offset := c.offset + 1 }

/-- Fails with a fault placed at the byte reached. -/
def failHere {α : Type} (f : Fault) : Reader α := fun c => .fail (.malformed f) (some c.offset) c

/-- Fails with a fault placed one byte past the byte reached, or at the end of the text. -/
def failAhead {α : Type} (f : Fault) : Reader α := fun c =>
  .fail (.malformed f) (some (if c.rest.isEmpty then c.offset else c.offset + 1)) c

/-- Fails with a complaint that has no place yet. -/
def complain {α : Type} (k : Complaint) : Reader α := fun c => .fail (.data k) none c

/-- Gives a failure without a place the place reached when it leaves `r`. -/
def placed {α : Type} (r : Reader α) : Reader α := fun c =>
  match r c with
  | .fail p none c' => .fail p (some c'.offset) c'
  | o => o

/-- Runs `body`, then `close` whatever `body` gave: a failure of `body` wins over one of
`close`, but the place reached by `close` stays. -/
def closedBy {α : Type} (body : Reader α) (close : Reader Unit) : Reader α := fun c =>
  match body c with
  | .done a c' =>
    match close c' with
    | .done _ c'' => .done a c''
    | .fail p o c'' => .fail p o c''
  | .fail p o c' =>
    match close c' with
    | .done _ c'' => .fail p o c''
    | .fail _ _ c'' => .fail p o c''

/-- Runs `r` one nesting level deeper; fails when the limit is reached. -/
def nested {α : Type} (r : Reader α) : Reader α := fun c =>
  if c.depth ≤ 1 then failAhead .tooDeep c
  else
    match r { c with depth := c.depth - 1 } with
    | .done a c' => .done a { c' with depth := c.depth }
    | .fail p o c' => .fail p o { c' with depth := c.depth }

/-- Passes the cursor's bound on the number of steps a scan may take. -/
def withFuel {α : Type} (f : Nat → Reader α) : Reader α := fun c =>
  f c.budget c

end Reader

open Reader

/-- Whether a character is a JSON blank. -/
def isBlank (ch : Char) : Bool :=
  ch == ' ' || ch == '\n' || ch == '\t' || ch == '\r'

/-- The characters and offset after the leading blanks. -/
def dropBlanks : List Char → Nat → List Char × Nat
  | ch :: rest, off => if isBlank ch then dropBlanks rest (off + 1) else (ch :: rest, off)
  | [], off => ([], off)

/-- Reads past blanks and shows the next character. -/
def blanks : Reader (Option Char) := fun c =>
  let (r, o) := dropBlanks c.rest c.offset
  .done r.head? { c with rest := r, offset := o }

/-- The value of a decimal digit. -/
def digitValue? (ch : Char) : Option Nat :=
  if '0' ≤ ch ∧ ch ≤ '9' then some (ch.toNat - 48) else none

/-- Whether a character is a decimal digit. -/
def isDigit (ch : Char) : Bool := (digitValue? ch).isSome

/-- The value of a hexadecimal digit. -/
def hexValue? (ch : Char) : Option Nat :=
  if '0' ≤ ch ∧ ch ≤ '9' then some (ch.toNat - 48)
  else if 'a' ≤ ch ∧ ch ≤ 'f' then some (ch.toNat - 87)
  else if 'A' ≤ ch ∧ ch ≤ 'F' then some (ch.toNat - 55)
  else none

/-- Reads the rest of a literal word such as the `ull` of `null`. -/
def ident : List Char → Reader Unit
  | [] => pure ()
  | e :: es => do
    match ← nextByte with
    | none => failHere .eofInValue
    | some ch => if ch = e then ident es else failHere .expectedIdent

/-- The number of bytes in a list of characters. -/
def byteLength (cs : List Char) : Nat :=
  cs.foldl (fun n ch => n + ch.utf8Size) 0

/-- The four hex digits of a `\u` escape, read as four bytes. -/
def hexEscape : Reader Nat := fun c =>
  let four := c.rest.take 4
  let ascii := four.length = 4 ∧ four.all (fun ch => ch.toNat < 128)
  if ascii then
    let value := four.foldl (fun acc ch => acc.bind fun a => (hexValue? ch).map (16 * a + ·)) (some 0)
    let c' := { c with rest := c.rest.drop 4, offset := c.offset + 4 }
    match value with
    | some n => .done n c'
    | none => .fail (.malformed .invalidEscape) (some c'.offset) c'
  else if four.length = 4 ∨ 4 ≤ byteLength four then
    .fail (.malformed .invalidEscape) (some (c.offset + 4)) c
  else
    let c' := { c with rest := [], offset := c.offset + byteLength four }
    .fail (.malformed .eofInString) (some c'.offset) c'

/-- The character of a `\u` escape, joining a surrogate pair written as two escapes. -/
def unicodeEscape : Reader Char := do
  let n ← hexEscape
  if 0xDC00 ≤ n ∧ n ≤ 0xDFFF then failHere .loneSurrogate
  else if n < 0xD800 ∨ 0xDBFF < n then pure (Char.ofNat n)
  else do
    match ← peek with
    | none => failHere .eofInString
    | some ch => if ch = '\\' then advance else do advanceByte; failHere .unfinishedSurrogatePair
    match ← peek with
    | none => failHere .eofInString
    | some ch => if ch = 'u' then advance else do advanceByte; failHere .unfinishedSurrogatePair
    let low ← hexEscape
    if low < 0xDC00 ∨ 0xDFFF < low then failHere .loneSurrogate
    else pure (Char.ofNat ((n - 0xD800) * 1024 + (low - 0xDC00) + 0x10000))

/-- The character an escape stands for, after its backslash. -/
def escape : Reader Char := do
  match ← nextByte with
  | none => failHere .eofInString
  | some ch =>
    if ch = '"' then pure '"'
    else if ch = '\\' then pure '\\'
    else if ch = '/' then pure '/'
    else if ch = 'b' then pure (Char.ofNat 8)
    else if ch = 'f' then pure (Char.ofNat 12)
    else if ch = 'n' then pure '\n'
    else if ch = 'r' then pure '\r'
    else if ch = 't' then pure '\t'
    else if ch = 'u' then unicodeEscape
    else failHere .invalidEscape

/-- Reads the characters of a string up to its closing quote, the opening quote already read. -/
def stringChars : Nat → List Char → Reader String
  | 0, _ => failHere .eofInString
  | fuel + 1, acc => do
    match ← peek with
    | none => failHere .eofInString
    | some ch =>
      if ch = '"' then do advance; pure (String.ofList acc.reverse)
      else if ch = '\\' then do
        advance
        let e ← escape
        stringChars fuel (e :: acc)
      else if ch.toNat < 32 then do advance; failHere .controlCharacter
      else do advance; stringChars fuel (ch :: acc)

/-- Reads a string after its opening quote. -/
def stringBody : Reader String := withFuel fun fuel => stringChars fuel []

/-- Checks an escape that is skipped, after its backslash. -/
def skipEscape : Reader Unit := do
  match ← nextByte with
  | none => failHere .eofInString
  | some ch =>
    if "\"\\/bfnrt".toList.contains ch then pure ()
    else if ch = 'u' then do let _ ← hexEscape; pure ()
    else failHere .invalidEscape

/-- Skips the rest of a string, the opening quote already read. -/
def skipStringChars : Nat → Reader Unit
  | 0 => failHere .eofInString
  | fuel + 1 => do
    match ← peek with
    | none => failHere .eofInString
    | some ch =>
      if ch = '"' then advance
      else if ch = '\\' then do advance; skipEscape; skipStringChars fuel
      else if ch.toNat < 32 then failHere .controlCharacter
      else do advance; skipStringChars fuel

/-- Skips a string after its opening quote. -/
def skipString : Reader Unit := withFuel skipStringChars

/-- Reads decimal digits, returning how many there were. -/
def skipDigits : Nat → Nat → Reader Nat
  | 0, n => pure n
  | fuel + 1, n => do
    match ← peek with
    | some ch => if isDigit ch then do advance; skipDigits fuel (n + 1) else pure n
    | none => pure n

/-- Whether appending digit `d` to `n` passes `2 ^ 64 - 1`. -/
def passesU64 (n d : Nat) : Bool :=
  1844674407370955161 ≤ n && (1844674407370955161 < n || 5 < d)

/-- Whether appending digit `d` to `n` passes `2 ^ 31 - 1`. -/
def passesI32 (n d : Nat) : Bool :=
  214748364 ≤ n && (214748364 < n || 7 < d)

/-- An exponent limited to the 32-bit range. -/
def clampExponent (e : Int) : Int :=
  max (-2147483648) (min 2147483647 e)

/-- The binary64 value of `significand * 10 ^ exponent` with a sign, or an overflow fault. -/
def decimalValue (positive : Bool) (significand : Nat) (exponent : Int) : Reader Number :=
  match Binary64.ofDecimal positive significand exponent with
  | some x => pure (.float x)
  | none => failHere .numberOutOfRange

/-- The digits of an exponent after its first digit. -/
def exponentDigits (positive : Bool) (significand : Nat) (start : Int) (up : Bool) :
    Nat → Nat → Reader Number
  | 0, e => decimalValue positive significand (clampExponent (if up then start + e else start - e))
  | fuel + 1, e => do
    match ← peek with
    | some ch =>
      match digitValue? ch with
      | some d =>
        advance
        if passesI32 e d then
          if significand ≠ 0 ∧ up then failHere .numberOutOfRange
          else do
            let _ ← skipDigits fuel 0
            pure (.float { Binary64.zero with negative := !positive })
        else exponentDigits positive significand start up fuel (10 * e + d)
      | none =>
        decimalValue positive significand (clampExponent (if up then start + e else start - e))
    | none => decimalValue positive significand (clampExponent (if up then start + e else start - e))

/-- Reads an exponent part, at its `e`. -/
def exponentPart (positive : Bool) (significand : Nat) (start : Int) : Reader Number := do
  advance
  let up ← do
    match ← peek with
    | some '+' => do advance; pure true
    | some '-' => do advance; pure false
    | _ => pure true
  match ← nextByte with
  | none => failHere .eofInValue
  | some ch =>
    match digitValue? ch with
    | none => failHere .invalidNumber
    | some d => withFuel fun fuel => exponentDigits positive significand start up fuel d

/-- Reads on after a number's digits: an exponent part, or the end. -/
def afterDigits (positive : Bool) (significand : Nat) (exponent : Int) : Reader Number := do
  match ← peek with
  | some ch =>
    if ch = 'e' ∨ ch = 'E' then exponentPart positive significand exponent
    else decimalValue positive significand exponent
  | none => decimalValue positive significand exponent

/-- The fraction digits of a number; digits past 64 bits are dropped. -/
def fractionDigits (positive : Bool) (before : Int) : Nat → Nat → Nat → Reader Number
  | 0, significand, count => afterDigits positive significand (before - count)
  | fuel + 1, significand, count => do
    match ← peek with
    | some ch =>
      match digitValue? ch with
      | some d =>
        if passesU64 significand d then do
          let _ ← skipDigits fuel 0
          afterDigits positive significand (before - count)
        else do advance; fractionDigits positive before fuel (10 * significand + d) (count + 1)
      | none =>
        if count = 0 then failAhead .invalidNumber
        else afterDigits positive significand (before - count)
    | none =>
      if count = 0 then failAhead .eofInValue
      else afterDigits positive significand (before - count)

/-- Reads a fraction part, at its point. -/
def fractionPart (positive : Bool) (significand : Nat) (before : Int) : Reader Number := do
  advance
  withFuel fun fuel => fractionDigits positive before fuel significand 0

/-- Reads on after the integer digits: a fraction, an exponent, or the integer itself. -/
def integerTail (positive : Bool) (significand : Nat) : Reader Number := do
  match ← peek with
  | some '.' => fractionPart positive significand 0
  | some ch =>
    if ch = 'e' ∨ ch = 'E' then exponentPart positive significand 0
    else pure (integerNumber positive significand)
  | none => pure (integerNumber positive significand)
where
  /-- An integer that ended: exact when it fits, negative zero and large negatives as floats. -/
  integerNumber (positive : Bool) (significand : Nat) : Number :=
    if positive then .unsigned significand
    else if significand = 0 then .float { Binary64.zero with negative := true }
    else if significand ≤ Nat.pow 2 63 then .signed (-(significand : Int))
    else .float (((Binary64.ofNat significand).getD Binary64.zero).negate)

/-- Integer digits past 64 bits: counted as powers of ten. -/
def longDigits (positive : Bool) (significand : Nat) : Nat → Nat → Reader Number
  | 0, extra => decimalValue positive significand extra
  | fuel + 1, extra => do
    match ← peek with
    | some ch =>
      if isDigit ch then do advance; longDigits positive significand fuel (extra + 1)
      else if ch = '.' then fractionPart positive significand extra
      else if ch = 'e' ∨ ch = 'E' then exponentPart positive significand extra
      else decimalValue positive significand extra
    | none => decimalValue positive significand extra

/-- Integer digits after the first. -/
def integerDigits (positive : Bool) : Nat → Nat → Reader Number
  | 0, significand => integerTail positive significand
  | fuel + 1, significand => do
    match ← peek with
    | some ch =>
      match digitValue? ch with
      | some d =>
        if passesU64 significand d then withFuel fun f => longDigits positive significand f 0
        else do advance; integerDigits positive fuel (10 * significand + d)
      | none => integerTail positive significand
    | none => integerTail positive significand

/-- Reads a number after its optional minus sign. -/
def number (positive : Bool) : Reader Number := do
  match ← nextByte with
  | none => failHere .eofInValue
  | some ch =>
    match digitValue? ch with
    | some 0 => do
      match ← peek with
      | some c2 => if isDigit c2 then failAhead .invalidNumber else integerTail positive 0
      | none => integerTail positive 0
    | some d => withFuel fun fuel => integerDigits positive fuel d
    | none => failHere .invalidNumber

/-- Skips the exponent part of a skipped number, at its `e`. -/
def skipExponent : Reader Unit := do
  advance
  match ← peek with
  | some ch => if ch = '+' ∨ ch = '-' then advance else pure ()
  | none => pure ()
  match ← nextByte with
  | some ch =>
    if isDigit ch then do let _ ← withFuel fun f => skipDigits f 0; pure ()
    else failHere .invalidNumber
  | none => failHere .invalidNumber

/-- Skips what may follow the integer digits of a skipped number. -/
def skipNumberTail : Reader Unit := do
  match ← peek with
  | some '.' => do
    advance
    let n ← withFuel fun f => skipDigits f 0
    if n = 0 then failAhead .invalidNumber
    else do
      match ← peek with
      | some ch => if ch = 'e' ∨ ch = 'E' then skipExponent else pure ()
      | none => pure ()
  | some ch => if ch = 'e' ∨ ch = 'E' then skipExponent else pure ()
  | none => pure ()

/-- Skips a number after its optional minus sign, checking only its form. -/
def skipNumber : Reader Unit := do
  match ← nextByte with
  | some ch =>
    if ch = '0' then do
      match ← peek with
      | some c2 => if isDigit c2 then failAhead .invalidNumber else skipNumberTail
      | none => skipNumberTail
    else if isDigit ch then do let _ ← withFuel fun f => skipDigits f 0; skipNumberTail
    else failHere .invalidNumber
  | none => failHere .invalidNumber

/-- Reads the colon between a key and its value. -/
def objectColon : Reader Unit := do
  match ← blanks with
  | some ':' => advance
  | some _ => failAhead .expectedColon
  | none => failAhead .eofInObject

/-- Reads the end of an array whose items were all read. -/
def endArray : Reader Unit := do
  match ← blanks with
  | some ']' => advance
  | some ',' => do
    advance
    match ← blanks with
    | some ']' => failAhead .trailingComma
    | _ => failAhead .trailingCharacters
  | some _ => failAhead .trailingCharacters
  | none => failAhead .eofInList

/-- Reads the end of an object whose members were all read. -/
def endObject : Reader Unit := do
  match ← blanks with
  | some '}' => advance
  | some ',' => failAhead .trailingComma
  | some _ => failAhead .trailingCharacters
  | none => failAhead .eofInObject

/-- Whether another item follows in an array; `first` for the first question. -/
def hasNextItem (first : Bool) : Reader Bool := do
  match ← blanks with
  | none => failAhead .eofInList
  | some ch =>
    if ch = ']' then pure false
    else if ch = ',' ∧ !first then do
      advance
      match ← blanks with
      | some ']' => failAhead .trailingComma
      | some _ => pure true
      | none => failAhead .eofInValue
    else if first then pure true
    else failAhead .expectedListCommaOrEnd

/-- Checks that a key starts at the character shown. -/
def keyStarts : Option Char → Reader Bool
  | some '"' => pure true
  | some '}' => failAhead .trailingComma
  | some _ => failAhead .keyNotString
  | none => failAhead .eofInValue

/-- Whether another member follows in an object; `first` for the first question. -/
def hasNextKey (first : Bool) : Reader Bool := do
  match ← blanks with
  | none => failAhead .eofInObject
  | some ch =>
    if ch = '}' then pure false
    else if ch = ',' ∧ !first then do advance; keyStarts (← blanks)
    else if first then keyStarts (some ch)
    else failAhead .expectedObjectCommaOrEnd

/-- Reads a key, at its opening quote. -/
def key : Reader String := do
  advance
  stringBody

mutual
/-- One step of skipping a value: read a scalar or open an array or object. `stack` holds the
open brackets further out, `inner` the innermost one. -/
def skipStep : Nat → List Char → Option Char → Reader Unit
  | 0, _, _ => failHere .eofInValue
  | fuel + 1, stack, inner => do
    let opened ← do
      match ← blanks with
      | none => failAhead .eofInValue
      | some ch =>
        if ch = 'n' then do advance; ident ['u', 'l', 'l']; pure none
        else if ch = 't' then do advance; ident ['r', 'u', 'e']; pure none
        else if ch = 'f' then do advance; ident ['a', 'l', 's', 'e']; pure none
        else if ch = '-' then do advance; skipNumber; pure none
        else if isDigit ch then do skipNumber; pure none
        else if ch = '"' then do advance; skipString; pure none
        else if ch = '[' ∨ ch = '{' then do advance; pure (some ch)
        else failAhead .expectedValue
    match opened with
    | some frame => skipClose fuel (inner.toList ++ stack) frame false
    | none =>
      match inner with
      | some frame => skipClose fuel stack frame true
      | none =>
        match stack with
        | frame :: rest => skipClose fuel rest frame true
        | [] => pure ()

/-- After a value inside `frame`: a comma, the closing bracket, or the first item. -/
def skipClose : Nat → List Char → Char → Bool → Reader Unit
  | 0, _, _, _ => failHere .eofInValue
  | fuel + 1, stack, frame, afterItem => do
    match ← blanks with
    | none => failAhead (if frame = '[' then .eofInList else .eofInObject)
    | some ch =>
      if ch = ',' ∧ afterItem then do advance; skipKey fuel stack frame
      else if (ch = ']' ∧ frame = '[') ∨ (ch = '}' ∧ frame = '{') then do
        advance
        match stack with
        | [] => pure ()
        | outer :: rest => skipClose fuel rest outer true
      else if afterItem then
        failAhead (if frame = '[' then .expectedListCommaOrEnd else .expectedObjectCommaOrEnd)
      else skipKey fuel stack frame

/-- Before an item inside `frame`: in an object, its key and colon. -/
def skipKey : Nat → List Char → Char → Reader Unit
  | 0, _, _ => failHere .eofInValue
  | fuel + 1, stack, frame => do
    if frame = '{' then do
      match ← blanks with
      | some '"' => advance
      | some _ => failAhead .keyNotString
      | none => failAhead .eofInObject
      skipString
      match ← blanks with
      | some ':' => advance
      | some _ => failAhead .expectedColon
      | none => failAhead .eofInObject
    skipStep fuel stack (some frame)
end

/-- Skips one value, checking its form but not converting it; no nesting limit applies. -/
def skipValue : Reader Unit := withFuel fun fuel => skipStep fuel [] none

mutual
/-- Reads any value. -/
def anyValue : Nat → Reader Value
  | 0 => failHere .eofInValue
  | fuel + 1 => do
    match ← blanks with
    | none => failAhead .eofInValue
    | some ch =>
      if ch = 'n' then do advance; ident ['u', 'l', 'l']; pure .null
      else if ch = 't' then do advance; ident ['r', 'u', 'e']; pure (.bool true)
      else if ch = 'f' then do advance; ident ['a', 'l', 's', 'e']; pure (.bool false)
      else if ch = '-' then do advance; let n ← number false; pure (.number n)
      else if isDigit ch then do let n ← number true; pure (.number n)
      else if ch = '"' then do advance; let s ← stringBody; pure (.string s)
      else if ch = '[' then
        nested (closedBy (do advance; let xs ← anyItems fuel true []; pure (.array xs)) endArray)
      else if ch = '{' then
        nested (closedBy (do advance; let ms ← anyMembers fuel true []; pure (.object ms)) endObject)
      else failAhead .expectedValue

/-- Reads the items of an array. -/
def anyItems : Nat → Bool → List Value → Reader (List Value)
  | 0, _, acc => pure acc.reverse
  | fuel + 1, first, acc => do
    if ← hasNextItem first then do
      let x ← anyValue fuel
      anyItems fuel false (x :: acc)
    else pure acc.reverse

/-- Reads the members of an object, sorted by key, a repeated key keeping its last value. -/
def anyMembers : Nat → Bool → List (String × Value) → Reader (List (String × Value))
  | 0, _, acc => pure (Value.sortedMembers acc.reverse)
  | fuel + 1, first, acc => do
    if ← hasNextKey first then do
      let k ← key
      objectColon
      let v ← anyValue fuel
      anyMembers fuel false ((k, v) :: acc)
    else pure (Value.sortedMembers acc.reverse)
end

/-- Reads any value, with a step bound from the text left. -/
def readAny : Reader Value := withFuel anyValue

/-- Checks that only blanks are left. -/
def endOfText : Reader Unit := do
  match ← blanks with
  | some _ => failAhead .trailingCharacters
  | none => pure ()

/-- The line and column of a byte offset in a text. -/
def positionIn : List Char → Nat → Nat → Nat → Position
  | [], _, line, column => ⟨line, column⟩
  | ch :: rest, n, line, column =>
    if n = 0 then ⟨line, column⟩
    else if ch.utf8Size ≤ n then
      if ch = '\n' then positionIn rest (n - 1) (line + 1) 0
      else positionIn rest (n - ch.utf8Size) line (column + ch.utf8Size)
    else ⟨line, column + n⟩

/-- The nesting limit of arrays and objects that are read into values. -/
def nestingLimit : Nat := 128

/-- Reads a whole text with `r`: only blanks may follow what it reads. -/
def Reader.runText {α : Type} (r : Reader α) (text : String) : Except DecodeError α :=
  let input := text.toList
  match (do let a ← r; endOfText; pure a) ⟨input, 0, nestingLimit, 4 * input.length + 4⟩ with
  | .done a _ => .ok a
  | .fail p o _ => .error ⟨p, o.map fun off => positionIn input off 1 0⟩

/-- Parses a whole text as a JSON value. -/
def parseText (text : String) : Except DecodeError Value :=
  readAny.runText text

end MonolithSplit.Json
