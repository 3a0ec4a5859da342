import MonolithSplit.Network.Host

/-!
# URLs

Reads a URL as the URL standard does, with no base URL, and writes it back. The reader builds
the written form as it goes, and the path rules work on that text, the way the standard's
reference readers do; this is what gives their particular answers for paths such as
`foo:/a/..//x` (written `foo:/.//x`, so that it is not read back with a host) and for Windows
drive letters in `file` URLs.

* Leading and trailing C0 controls and spaces are removed, and tabs and newlines dropped
  everywhere. The reader takes a path's characters in runs between the places they leave: a
  `file` path that is so far only a drive letter and a colon gets a `/` before the run that
  continues it, so `file:c:` with a tab and `x` is `file:///c:/x`, where `file:c:x` stays.
* The scheme is an ASCII letter followed by letters, digits, `+`, `-` and `.`, then `:`; it is
  lowercased. The special schemes are `http`, `https`, `ws`, `wss`, `ftp` and `file`.
* A special scheme other than `file` skips any run of `/` and `\` and reads an authority: user
  information up to the last `@`, a host (never empty) and a port. Another scheme reads an
  authority only after `//`; with a single `/` it has a path and no host, and otherwise an
  opaque path.
* Path segments `.` and `..`, also written with `%2e`, are resolved; characters outside each
  part's allowed set are percent-encoded, as UTF-8 bytes.
* A `file` URL's host is dropped when it is `localhost`, and when a Windows drive letter opens
  the path.
-/

namespace MonolithSplit.Network

/-- A URL: its written form, its scheme, its host if it has one, and the user name and password
of its authority as written (percent-encoded, empty when not given). -/
structure Url where
  text : String
  scheme : String
  host : Option Host
  username : String := ""
  password : String := ""
  deriving DecidableEq, Repr

/-- The kinds of scheme the reader tells apart. -/
inductive SchemeKind where
  /-- The `file` scheme. -/
  | file
  /-- A special scheme other than `file`. -/
  | special
  /-- Any other scheme. -/
  | other
  deriving DecidableEq, Repr

/-- The kind of a scheme. -/
def schemeKind (scheme : String) : SchemeKind :=
  if scheme == "file" then .file
  else if ["http", "https", "ws", "wss", "ftp"].contains scheme then .special
  else .other

/-- Whether a kind of scheme is special. -/
def SchemeKind.isSpecial : SchemeKind → Bool
  | .other => false
  | _ => true

/-- The port a scheme uses when none is written. -/
def defaultPort : String → Option Nat
  | "http" => some 80
  | "https" => some 443
  | "ws" => some 80
  | "wss" => some 443
  | "ftp" => some 21
  | _ => none

/-! ## Percent-encode sets -/

/-- Characters a fragment percent-encodes. -/
def inFragmentSet (c : Char) : Bool :=
  isControl c || " \"<>`".toList.contains c

/-- Characters a query percent-encodes; special schemes add the apostrophe. -/
def inQuerySet (special : Bool) (c : Char) : Bool :=
  isControl c || " \"#<>".toList.contains c || (special && c == '\'')

/-- Characters a path percent-encodes. -/
def inPathSet (c : Char) : Bool :=
  inFragmentSet c || "#?\x7b\x7d".toList.contains c

/-- Characters a user name or password percent-encodes. -/
def inUserinfoSet (c : Char) : Bool :=
  inPathSet c || "/:;=@[\\]^|".toList.contains c

/-- Appends characters to the written form, percent-encoding those in `set`. -/
def appendEncoded (set : Char → Bool) (out : Array Char) (cs : List Char) : Array Char :=
  cs.foldl (fun out c => out.appendList (encodeChar set c)) out

/-! ## Scheme -/

/-- Whether a character is a tab or a newline, which the reader drops. -/
def isTabOrNewline (c : Char) : Bool := c == '\t' || c == '\n' || c == '\r'

/-- Drops tabs and newlines, noting the breaks they leave: for each character that directly
follows dropped ones, the number of characters from it to the end. `afterBreak` says whether
some were dropped just before. -/
def dropTabs : Bool → List Char → List Char × List Nat
  | _, [] => ([], [])
  | afterBreak, c :: rest =>
    if isTabOrNewline c then dropTabs true rest
    else
      let (cs, breaks) := dropTabs false rest
      (c :: cs, if afterBreak then (cs.length + 1) :: breaks else breaks)

/-- Leading and trailing C0 controls and spaces removed, and tabs and newlines dropped, with the
breaks they leave. -/
def prepare (s : String) : List Char × List Nat :=
  let trimmed := ((s.toList.dropWhile (·.toNat ≤ 0x20)).reverse.dropWhile (·.toNat ≤ 0x20)).reverse
  dropTabs false trimmed

/-- A character that may follow the first letter of a scheme. -/
def isSchemeChar (c : Char) : Bool :=
  c.isAlphanum || c == '+' || c == '-' || c == '.'

/-- The scheme, lowercased, and what follows its colon. -/
def splitScheme (cs : List Char) : Option (String × List Char) :=
  match cs with
  | c :: rest =>
    if c.isAlpha then
      let body := rest.takeWhile isSchemeChar
      match rest.drop body.length with
      | ':' :: after => some (String.ofList ((c :: body).map Char.toLower), after)
      | _ => none
    else none
  | [] => none

/-! ## Windows drive letters -/

/-- Whether a text starts with a drive letter: an ASCII letter, then `:` or `|`, then nothing
or one of `/`, `\`, `?`, `#`. -/
def startsWithDriveLetter : List Char → Bool
  | [a, b] => a.isAlpha && (b == ':' || b == '|')
  | a :: b :: c :: _ => a.isAlpha && (b == ':' || b == '|') && "/\\?#".toList.contains c
  | _ => false

/-- Whether a segment is a drive letter: a letter and `:` or `|`. -/
def isDriveLetter (s : List Char) : Bool :=
  s.length == 2 && startsWithDriveLetter s

/-- Whether a segment is a normalized drive letter: a letter and `:`. -/
def isNormalizedDriveLetter (s : List Char) : Bool :=
  isDriveLetter s && s.getLast? == some ':'

/-- Whether a text is a separator followed by a drive letter. -/
def pathStartsWithDriveLetter : List Char → Bool
  | c :: rest => "/\\?#".toList.contains c && startsWithDriveLetter rest
  | [] => false

/-! ## Paths -/

/-- The written characters from place `start` on. -/
def suffixFrom (out : Array Char) (start : Nat) : List Char :=
  (out.extract start out.size).toList

/-- The place of the last `/` among the first `n` written characters. -/
def lastSlashBefore (out : Array Char) (n : Nat) : Option Nat :=
  ((out.extract 0 n).toList.reverse.findIdx? (· == '/')).map fun k => n - 1 - k

/-- Whether the `/` ending the written form may be removed when `..` is resolved: the `/`
before it lies in the path and does not open a drive letter. -/
def lastSlashRemovable (out : Array Char) (pathStart : Nat) : Bool :=
  match lastSlashBefore out (out.size - 1) with
  | some k => pathStart ≤ k && !pathStartsWithDriveLetter (suffixFrom out k)
  | none => false

/-- Removes the last segment of the path, unless it is a drive letter of a `file` URL. -/
def popPath (kind : SchemeKind) (pathStart : Nat) (out : Array Char) : Array Char :=
  if pathStart < out.size then
    match ((suffixFrom out pathStart).reverse.findIdx? (· == '/')) with
    | some k =>
      let segmentStart := out.size - k
      if kind == .file && isNormalizedDriveLetter (suffixFrom out segmentStart) then out
      else out.extract 0 segmentStart
    | none => out
  else out

/-- Shortens the path by one segment: nothing when it is empty, or when it is only the drive
letter of a `file` URL. -/
def shortenPath (kind : SchemeKind) (pathStart : Nat) (out : Array Char) : Array Char :=
  if out.size == pathStart then out
  else if kind == .file && isNormalizedDriveLetter (suffixFrom out pathStart) then out
  else popPath kind pathStart out

/-- Whether a segment is `..`, also written with `%2e`. -/
def isDoubleDot (segment : List Char) : Bool :=
  let s := String.ofList (segment.map Char.toLower)
  s == ".." || s == ".%2e" || s == "%2e." || s == "%2e%2e"

/-- Whether a segment is `.`, also written `%2e`. -/
def isSingleDot (segment : List Char) : Bool :=
  let s := String.ofList (segment.map Char.toLower)
  s == "." || s == "%2e"

/-- One path segment read: the written form with its characters, where the segment starts,
whether a separator ended it, and the rest of the input. -/
structure SegmentRead where
  out : Array Char
  segmentStart : Nat
  endsWithSlash : Bool
  rest : List Char

/-- Whether a `file` path written from place `pathStart` is, so far, only a drive letter with
its colon. -/
def isBareDrive (out : Array Char) (pathStart : Nat) : Bool :=
  out.size == pathStart + 3 && out[pathStart + 2]? == some ':' &&
    (out[pathStart + 1]?.map Char.isAlpha).getD false

/-- Reads one segment up to a separator (written `/`), or up to `?`, `#` or the end. The
characters are taken in runs between the breaks that dropped tabs and newlines leave, and a run
that continues a `file` path which is so far only a drive letter is put after a separator of
its own, in a new segment. -/
def readSegment (kind : SchemeKind) (breaks : List Nat) (pathStart : Nat) (out : Array Char)
    (segmentStart : Nat) : List Char → SegmentRead
  | [] => ⟨out, segmentStart, false, []⟩
  | c :: rest =>
    if c == '/' || (kind.isSpecial && c == '\\') then ⟨out.push '/', segmentStart, true, rest⟩
    else if c == '?' || c == '#' then ⟨out, segmentStart, false, c :: rest⟩
    else if kind == .file && breaks.contains (rest.length + 1) && isBareDrive out pathStart then
      readSegment kind breaks pathStart (appendEncoded inPathSet (out.push '/') [c]) (out.size + 1) rest
    else readSegment kind breaks pathStart (appendEncoded inPathSet out [c]) segmentStart rest

/-- Resolves a segment just read: `..` removes it and the segment before, `.` removes it, and
a drive letter opening a `file` URL's path is written with `:` and drops the host. Gives the
written form and whether the URL keeps its host. -/
def finishSegment (kind : SchemeKind) (pathStart : Nat) (hasHost : Bool) (r : SegmentRead) :
    Array Char × Bool :=
  let segmentEnd := if r.endsWithSlash then r.out.size - 1 else r.out.size
  let segment := (r.out.extract r.segmentStart segmentEnd).toList
  let before := r.out.extract 0 r.segmentStart
  if isDoubleDot segment then
    let out := if before.back? == some '/' && lastSlashRemovable before pathStart then before.pop
      else before
    let out := shortenPath kind pathStart out
    (if r.endsWithSlash && out.back? != some '/' then out.push '/' else out, hasHost)
  else if isSingleDot segment then
    (if before.back? != some '/' then before.push '/' else before, hasHost)
  else if kind == .file && r.segmentStart == pathStart + 1 && isDriveLetter segment then
    let out := (before.appendList (segment.take 1)).push ':'
    (if r.endsWithSlash then out.push '/' else out, false)
  else (r.out, hasHost)

/-- Reads path segments until one is not ended by a separator; `fuel` bounds the segments. -/
def readSegments (kind : SchemeKind) (breaks : List Nat) (pathStart : Nat) :
    Nat → Bool → Array Char → List Char → Array Char × Bool × List Char
  | 0, hasHost, out, input => (out, hasHost, input)
  | fuel + 1, hasHost, out, input =>
    let r := readSegment kind breaks pathStart out out.size input
    let (out, hasHost) := finishSegment kind pathStart hasHost r
    if r.endsWithSlash then readSegments kind breaks pathStart fuel hasHost out r.rest
    else (out, hasHost, r.rest)

/-- Reads a path starting at place `pathStart` of the written form. A `file` URL's path keeps
a single leading `/`. -/
def parsePath (kind : SchemeKind) (breaks : List Nat) (hasHost : Bool) (pathStart : Nat)
    (out : Array Char) (input : List Char) : Array Char × Bool × List Char :=
  let (out, hasHost, rest) := readSegments kind breaks pathStart (input.length + 1) hasHost out input
  if kind == .file then
    let path := (suffixFrom out pathStart).dropWhile (· == '/')
    (((out.extract 0 pathStart).push '/').appendList path, hasHost, rest)
  else (out, hasHost, rest)

/-- Reads the path after an authority. A special URL's path always starts with `/`; another
URL's path is empty when `?`, `#` or the end follows. -/
def parsePathStart (kind : SchemeKind) (breaks : List Nat) (hasHost : Bool) (out : Array Char)
    (input : List Char) : Array Char × Bool × List Char :=
  let pathStart := out.size
  if kind.isSpecial then
    if out.back? != some '/' then
      match input with
      | c :: rest =>
        if c == '/' || c == '\\' then parsePath kind breaks hasHost pathStart (out.push '/') rest
        else parsePath kind breaks hasHost pathStart (out.push '/') input
      | [] => parsePath kind breaks hasHost pathStart (out.push '/') input
    else parsePath kind breaks hasHost pathStart out input
  else
    match input with
    | c :: _ =>
      if c == '?' || c == '#' then (out, hasHost, input)
      else parsePath kind breaks hasHost pathStart (if c != '/' then out.push '/' else out) input
    | [] => parsePath kind breaks hasHost pathStart out input

/-- Reads an opaque path, up to `?` or `#`, percent-encoding only controls. -/
def opaquePath (out : Array Char) : List Char → Array Char × List Char
  | [] => (out, [])
  | c :: rest =>
    if c == '?' || c == '#' then (out, c :: rest)
    else opaquePath (appendEncoded isControl out [c]) rest

/-! ## Query and fragment -/

/-- Writes a fragment. -/
def writeFragment (out : Array Char) (fragment : List Char) : Array Char :=
  appendEncoded inFragmentSet (out.push '#') fragment

/-- Writes the query and fragment that follow the path. -/
def queryAndFragment (kind : SchemeKind) (out : Array Char) : List Char → Array Char
  | '?' :: rest =>
    let query := rest.takeWhile (· != '#')
    let out := appendEncoded (inQuerySet kind.isSpecial) (out.push '?') query
    match rest.drop query.length with
    | '#' :: fragment => writeFragment out fragment
    | _ => out
  | '#' :: fragment => writeFragment out fragment
  | _ => out

/-- The finished URL: a path with no host that starts with `//` gets `/.` in front of it, so
that it is not read back as an authority; then the query and fragment. -/
def finish (scheme : String) (kind : SchemeKind) (out : Array Char) (host : Option Host)
    (pathStart : Nat) (rest : List Char) : Url :=
  let out :=
    if pathStart == scheme.length + 1 && (suffixFrom out pathStart).take 2 == ['/', '/'] then
      ((out.extract 0 pathStart).appendList ['/', '.']).appendList (suffixFrom out pathStart)
    else out
  { text := String.ofList (queryAndFragment kind out rest).toList, scheme, host }

/-! ## Authority -/

/-- Whether a character ends an authority. -/
def endsAuthority (special : Bool) (c : Char) : Bool :=
  c == '/' || c == '?' || c == '#' || (special && c == '\\')

/-- Reads user information up to the last `@` of the authority and writes it as
`user:password@` (the colon only with a password, nothing when both are empty). An `@`
opening the authority, with more of it following, leaves the host empty. -/
def parseUserinfo (kind : SchemeKind) (out : Array Char) (input : List Char) :
    Except UrlError (Array Char × List Char) :=
  let authority := input.takeWhile fun c => !endsAuthority kind.isSpecial c
  match authority.reverse.findIdx? (· == '@') with
  | none => .ok (out, input)
  | some k =>
    let at_ := authority.length - 1 - k
    let remaining := input.drop (at_ + 1)
    if at_ == 0 then
      match remaining with
      | c :: _ => if endsAuthority kind.isSpecial c then .error .emptyHost else .ok (out, remaining)
      | [] => .ok (out, remaining)
    else
      let userinfo := input.take at_
      let user := userinfo.takeWhile (· != ':')
      let password := userinfo.drop (user.length + 1)
      let out := appendEncoded inUserinfoSet out user
      let out := if password.isEmpty then out else appendEncoded inUserinfoSet (out.push ':') password
      .ok (if user.isEmpty && password.isEmpty then out else out.push '@', remaining)

/-- The user name and password in written user information `user:password@`. Both are
percent-encoded there, so the first `:` divides them. -/
def splitUserinfo (written : List Char) : String × String :=
  let userinfo := written.takeWhile (· != '@')
  let user := userinfo.takeWhile (· != ':')
  (String.ofList user, String.ofList (userinfo.drop (user.length + 1)))

/-- Splits a host from what follows it: it ends at `:` outside brackets, at `/`, `?`, `#`, and
at `\` for special schemes. -/
def splitHost (special : Bool) : Bool → List Char → List Char × List Char
  | _, [] => ([], [])
  | inside, c :: rest =>
    if (c == ':' && !inside) || endsAuthority special c then ([], c :: rest)
    else
      let (h, r) := splitHost special (if c == '[' then true else if c == ']' then false else inside) rest
      (c :: h, r)

/-- Reads a port: decimal digits up to `/`, `\`, `?`, `#` or the end, at most 65535; the
scheme's default port and an empty port give none. -/
def parsePort (scheme : String) (digits : Nat) (port : Nat) :
    List Char → Except UrlError (Option Nat × List Char)
  | c :: rest =>
    if c.isDigit then
      let port := 10 * port + (c.toNat - 48)
      if port > 65535 then .error .invalidPort else parsePort scheme (digits + 1) port rest
    else if "/\\?#".toList.contains c then
      .ok (if digits == 0 || defaultPort scheme == some port then none else some port, c :: rest)
    else .error .invalidPort
  | [] => .ok (if digits == 0 || defaultPort scheme == some port then none else some port, [])

/-- Reads the host and port and writes them. An empty host is no host, and then no port may
follow. -/
def parseHostAndPort (scheme : String) (kind : SchemeKind) (out : Array Char) (input : List Char) :
    Except UrlError (Array Char × Option Host × List Char) := do
  let (hostChars, rest) := splitHost kind.isSpecial false input
  if kind == .special && hostChars.isEmpty then throw .emptyHost
  let host ← if kind.isSpecial then Host.parse hostChars else Host.parseOpaque hostChars
  let out := out.appendList host.text.toList
  if host == .domain "" then
    if rest.head? == some ':' then throw .emptyHost
    return (out, none, rest)
  let (port, rest) ← match rest with
    | ':' :: after => parsePort scheme 0 0 after
    | _ => pure (none, rest)
  let out := match port with
    | some p => (out.push ':').appendList (toString p).toList
    | none => out
  return (out, some host, rest)

/-- Reads what follows `//`: the authority, then the path, query and fragment. -/
def afterDoubleSlash (scheme : String) (kind : SchemeKind) (breaks : List Nat) (out : Array Char)
    (input : List Char) : Except UrlError Url := do
  let out := (out.push '/').push '/'
  let before := out.size
  let (out, rest) ← parseUserinfo kind out input
  let hasAuthority := out.size != before
  let (username, password) := splitUserinfo (out.extract before out.size).toList
  let (out, host, rest) ← parseHostAndPort scheme kind out rest
  if host.isNone && hasAuthority then throw .emptyHost
  let pathStart := out.size
  let (out, _, rest) := parsePathStart kind breaks true out rest
  return { finish scheme kind out host pathStart rest with username, password }

/-! ## File URLs -/

/-- The written start of every `file` URL. -/
def fileStart : Array Char := "file://".toList.toArray

/-- A `file` URL after `file://`: a host (none when empty, `localhost` or a drive letter), then
the path; a drive letter opening the path drops the host. -/
def fileWithHost (breaks : List Nat) (input : List Char) : Except UrlError Url := do
  let hostChars := input.takeWhile fun c => !"/\\?#".toList.contains c
  let (hostChars, remaining) :=
    if isDriveLetter hostChars then ([], input) else (hostChars, input.drop hostChars.length)
  let host ← if hostChars.isEmpty then pure none
    else do
      let h ← Host.parse hostChars
      pure (if h == .domain "localhost" then none else some h)
  let out := match host with
    | some h => fileStart.appendList h.text.toList
    | none => fileStart
  let hostEnd := out.size
  let (out, hasHost, rest) :=
    if host.isSome then parsePathStart .file breaks true out remaining
    else parsePath .file breaks false out.size (out.push '/') remaining
  let (out, host) :=
    if hasHost then (out, host)
    else (fileStart.appendList (suffixFrom out hostEnd), none)
  return { text := String.ofList (queryAndFragment .file out rest).toList, scheme := "file", host }

/-- A `file` URL with no host: its path from place 7, after `file://`. -/
def fileWithoutHost (breaks : List Nat) (input : List Char) : Url :=
  let (out, _, rest) := parsePath .file breaks false fileStart.size (fileStart.push '/') input
  { text := String.ofList (queryAndFragment .file out rest).toList, scheme := "file", host := none }

/-- A `file` URL after its colon. -/
def parseFile (breaks : List Nat) (input : List Char) : Except UrlError Url :=
  let isSlash := fun c => c == '/' || c == '\\'
  match input with
  | a :: b :: rest =>
    if isSlash a && isSlash b then fileWithHost breaks rest
    else if isSlash a then .ok (fileWithoutHost breaks (b :: rest))
    else .ok (fileWithoutHost breaks input)
  | [a] => if isSlash a then .ok (fileWithoutHost breaks []) else .ok (fileWithoutHost breaks [a])
  | [] => .ok (fileWithoutHost breaks [])

/-! ## Reading a URL -/

/-- A URL whose scheme is not special, after its colon. -/
def parseOther (scheme : String) (breaks : List Nat) (out : Array Char) (input : List Char) :
    Except UrlError Url :=
  match input with
  | '/' :: '/' :: rest => afterDoubleSlash scheme .other breaks out rest
  | '/' :: rest =>
    let pathStart := out.size
    let (out, _, rest) := parsePath .other breaks false pathStart (out.push '/') rest
    .ok (finish scheme .other out none pathStart rest)
  | _ =>
    let pathStart := out.size
    let (out, rest) := opaquePath out input
    .ok (finish scheme .other out none pathStart rest)

/-- Reads a URL. -/
def Url.parse (s : String) : Except UrlError Url :=
  let (chars, breaks) := prepare s
  match splitScheme chars with
  | none => .error .noScheme
  | some (scheme, rest) =>
    let out := (scheme ++ ":").toList.toArray
    match schemeKind scheme with
    | .file => parseFile breaks rest
    | .special =>
      afterDoubleSlash scheme .special breaks out (rest.dropWhile fun c => c == '/' || c == '\\')
    | .other => parseOther scheme breaks out rest

end MonolithSplit.Network
