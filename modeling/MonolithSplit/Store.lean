import MonolithSplit.Settings
import MonolithSplit.Model.Resource
import MonolithSplit.Json.Write

/-!
# The resource store

Resources are kept one per file, `<id>.json`, in one directory. An id is non-empty and made of
ASCII letters, digits, `_` and `-`; any other id is refused before the directory is touched.
Reading a missing file finds no resource; reading a directory where the file should be is an
I/O error; a file that is not a valid resource is a serialization error with its place.

The listing reads every file named `<valid id>.json`, in byte order of the id, and stops at the
first one that cannot be read. It gives each resource's own id and name (from the file's
content) and its number of live entities.

A resource is written as its pretty JSON text and read back by decoding that text, as any other
file is. A number that the decimal text does not carry exactly therefore reads back as the
decimal reading gives it.

The directory itself is made by the first write, and it stays even when that write then
fails. A file name takes at most 255 bytes: reading a longer name fails once the directory is
there (before, the file is simply missing), and writing one fails after the directory is made.

Files and directories may also be planted by name. A name with a NUL byte or of more than 255
bytes fails; the empty name stands for the directory itself. Planting a file where a directory
stands fails, as does planting a directory where a file stands; planting a directory again does
nothing.
-/

namespace MonolithSplit.Store

open MonolithSplit.Json MonolithSplit.Model

/-- What stands under a file name in the store's directory. -/
inductive Entry where
  /-- A file with this text. -/
  | file (content : String)
  /-- A directory. -/
  | directory
  deriving Repr

/-- The store's directory: file names and what stands under them, and whether the directory
has been made. -/
structure ResourceStore where
  entries : List (String × Entry)
  made : Bool
  deriving Repr

/-- A store that has never been written to. -/
def ResourceStore.empty : ResourceStore := ⟨[], false⟩

/-- Why the store failed. -/
inductive StoreError where
  | io (reason : String)
  | serialization (e : DecodeError)
  | invalidId (id : String)
  deriving Repr

/-- The wording of a store error. -/
def StoreError.message : StoreError → String
  | .io reason => "schema store I/O error: " ++ reason
  | .serialization e => "schema store serialization error: " ++ e.message
  | .invalidId id => "invalid resource id '" ++ id ++ "'"

/-- Whether a text may be a resource id: non-empty, ASCII letters, digits, `_` and `-`. -/
def isValidId (id : String) : Bool :=
  !id.isEmpty && id.all fun c => c.isAlphanum || c == '_' || c == '-'

/-- The file a resource is kept in. -/
def fileName (id : String) : String := id ++ ".json"

/-- The id a file name stands for, when it is `<valid id>.json`. -/
def idOfFileName? (name : String) : Option String :=
  if name.endsWith ".json" then
    let id := String.ofList (name.toList.take (name.length - 5))
    if isValidId id then some id else none
  else none

/-- A summary of a stored resource for listings. -/
structure Summary where
  id : String
  name : String
  entityCount : Nat
  deriving Repr, DecidableEq

/-- The JSON form of a summary. -/
def Summary.toJson (s : Summary) : Value :=
  .object [("id", .string s.id), ("name", .string s.name), ("entityCount", .ofNat s.entityCount)]

/-- The summary of a resource: its live entities counted. -/
def Resource.summary (r : Resource) : Summary :=
  ⟨r.id, r.name, r.liveEntities.length⟩

/-- The text a resource is written as. -/
def storedText (r : Resource) : String :=
  r.toJson.prettyText

/-- The failure to make a directory where a file stands. -/
def fileExists : String := "File exists (os error 17)"

/-- The longest file name the file system takes, in bytes. -/
def maxNameBytes : Nat := 255

/-- The failure to use a file name longer than the file system takes. -/
def nameTooLong : String := "File name too long (os error 36)"

/-- The failure to use a file name holding a NUL byte, which no system call can carry. -/
def nulInName : String := "file name contained an unexpected NUL byte"

/-- Whether a file name is longer than the file system takes. -/
def isTooLong (name : String) : Bool := name.utf8ByteSize > maxNameBytes

/-- Why a file name cannot be used at all, if it cannot: a NUL byte is found before the name
reaches the file system, and a name too long when it does. -/
def nameProblem? (name : String) : Option String :=
  if name.any (· == '\x00') then some nulInName
  else if isTooLong name then some nameTooLong
  else none

/-- The resource an entry holds. -/
def Entry.read : Entry → Except StoreError Resource
  | .file content => (Resource.readText content).mapError .serialization
  | .directory => .error (.io isADirectory)

namespace ResourceStore

/-- What stands under a file name. -/
def entryAt? (s : ResourceStore) (name : String) : Option Entry :=
  (s.entries.find? (·.1 = name)).map (·.2)

/-- Sets what stands under a file name, replacing what stood there. -/
def setEntry (s : ResourceStore) (name : String) (e : Entry) : ResourceStore :=
  { s with entries := (name, e) :: s.entries.filter (·.1 ≠ name) }

/-- The store with its directory made. -/
def opened (s : ResourceStore) : ResourceStore := { s with made := true }

@[simp] theorem entryAt?_opened (s : ResourceStore) (name : String) :
    s.opened.entryAt? name = s.entryAt? name := rfl

@[simp] theorem entryAt?_setEntry (s : ResourceStore) (name : String) (e : Entry) :
    (s.setEntry name e).entryAt? name = some e := by
  simp [setEntry, entryAt?]

theorem entryAt?_setEntry_of_ne (s : ResourceStore) {name other : String} (e : Entry)
    (h : other ≠ name) : (s.setEntry name e).entryAt? other = s.entryAt? other := by
  simp only [setEntry, entryAt?, List.find?_cons, List.find?_filter]
  have hp : (fun a : String × Entry => !decide (a.fst = name) && decide (a.fst = other)) =
      fun a => decide (a.fst = other) := by
    funext a
    by_cases ha : a.fst = other
    · simp [ha, h]
    · simp [ha]
  simp [Ne.symm h, hp]

/-- Looks a resource up by id: none when its file is missing, and a name too long is missing
while the directory is. -/
def get (s : ResourceStore) (id : String) : Except StoreError (Option Resource) :=
  if isValidId id then
    if isTooLong (fileName id) then
      if s.made then .error (.io nameTooLong) else .ok none
    else
      match s.entryAt? (fileName id) with
      | none => .ok none
      | some e => e.read.map some
  else .error (.invalidId id)

/-- Writes a resource's text under its id, replacing any file there. The directory is made
first, so it stands even when the write then fails: for a name too long, or a directory in the
way. Gives the store after the attempt, and the failure if there was one. -/
def write (s : ResourceStore) (r : Resource) : ResourceStore × Option StoreError :=
  if isValidId r.id then
    if isTooLong (fileName r.id) then (s.opened, some (.io nameTooLong))
    else
      match s.entryAt? (fileName r.id) with
      | some .directory => (s.opened, some (.io isADirectory))
      | _ => (s.opened.setEntry (fileName r.id) (.file (storedText r)), none)
  else (s, some (.invalidId r.id))

/-- Writes a resource's text under its id, giving the store only when the write succeeds. -/
def put (s : ResourceStore) (r : Resource) : Except StoreError ResourceStore :=
  match s.write r with
  | (s', none) => .ok s'
  | (_, some e) => .error e

theorem get_of_not_valid (s : ResourceStore) {id : String} (h : isValidId id = false) :
    s.get id = .error (.invalidId id) := by
  simp [get, h]

/-- A write that succeeds was of a valid id whose file name fits, and made the directory and
put the resource's text under that name. -/
theorem put_eq_ok {s s' : ResourceStore} {r : Resource} (h : s.put r = .ok s') :
    isValidId r.id = true ∧ isTooLong (fileName r.id) = false ∧
      s' = s.opened.setEntry (fileName r.id) (.file (storedText r)) := by
  unfold put at h
  split at h
  · rename_i hw
    cases h
    unfold write at hw
    split at hw
    · rename_i hv
      split at hw
      · cases hw
      · rename_i hlong
        split at hw
        · cases hw
        · cases hw
          exact ⟨hv, by simpa using hlong, rfl⟩
    · cases hw
  · cases h

/-- A resource written under its id reads back as the decoding of its written text. -/
theorem get_put {s s' : ResourceStore} {r : Resource} (h : s.put r = .ok s') :
    s'.get r.id = ((Resource.readText (storedText r)).mapError .serialization).map some := by
  obtain ⟨hv, hlong, rfl⟩ := put_eq_ok h
  simp [get, hv, hlong, Entry.read]

/-- Writing a resource leaves every other id whose file name fits as it was. -/
theorem get_put_of_ne {s s' : ResourceStore} {r : Resource} {id : String} (h : s.put r = .ok s')
    (hne : id ≠ r.id) (hfit : isTooLong (fileName id) = false) : s'.get id = s.get id := by
  have hfile : fileName id ≠ fileName r.id := fun e => hne ((String.append_left_inj _).mp e)
  obtain ⟨-, -, rfl⟩ := put_eq_ok h
  simp [get, hfit, entryAt?_setEntry_of_ne _ _ hfile]

/-- The ids of the resource files, sorted. -/
def ids (s : ResourceStore) : List String :=
  (s.entries.filterMap fun kv => idOfFileName? kv.1).mergeSort fun a b => decide (a ≤ b)

/-- Summaries of every stored resource, by id; the first unreadable file fails the listing. -/
def list (s : ResourceStore) : Except StoreError (List Summary) :=
  (s.ids).mapM fun id =>
    match s.entryAt? (fileName id) with
    | some e => e.read.map Resource.summary
    | none => .error (.io "No such file or directory (os error 2)")

/-- Plants a file with the given text, replacing a file of that name; the directory is made
first. A directory in the way fails, and so does the empty name, which stands for the
directory itself. -/
def plantFile (s : ResourceStore) (name content : String) : ResourceStore × Option String :=
  match nameProblem? name with
  | some problem => (s.opened, some problem)
  | none =>
    if name.isEmpty then (s.opened, some isADirectory)
    else
      match s.entryAt? name with
      | some .directory => (s.opened, some isADirectory)
      | _ => (s.opened.setEntry name (.file content), none)

/-- Plants a directory; the directory is made first. One already there is kept, and so is the
directory itself under the empty name; a file in the way fails. -/
def plantDirectory (s : ResourceStore) (name : String) : ResourceStore × Option String :=
  match nameProblem? name with
  | some problem => (s.opened, some problem)
  | none =>
    if name.isEmpty then (s.opened, none)
    else
      match s.entryAt? name with
      | some (.file _) => (s.opened, some fileExists)
      | some .directory => (s.opened, none)
      | none => (s.opened.setEntry name .directory, none)

end ResourceStore

end MonolithSplit.Store
