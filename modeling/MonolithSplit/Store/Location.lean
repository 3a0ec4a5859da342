import MonolithSplit.Store

/-!
# Where the store keeps its files

A store rooted at a directory keeps its resources in that directory's `resources`, one file
`<id>.json` per resource. The path of a resource's file is the store's directory joined with the
file name; an id that is not valid has no path and is refused with the id.

Paths are joined as on Unix: a path that starts with `/` replaces the one it is joined to, and
otherwise the two are put together with one `/` between them, none when the first is empty or
already ends in `/`.

A path is read as its components. Repeated separators, a trailing separator and a `.` inside the
path give no component; a path that starts with `/` has the root as its first component, and
one whose first part is `.` keeps that part as the current directory; `..` is the parent.
-/

namespace MonolithSplit.Store

/-- A component of a path. -/
inductive PathComponent where
  /-- The root, first in a path that starts with `/`. -/
  | rootDir
  /-- `.` as the first part of a path. -/
  | curDir
  /-- `..`, the parent. -/
  | parentDir
  /-- Any other name. -/
  | normal (name : String)
  deriving Repr, DecidableEq

/-- The separator between the parts of a path. -/
def separator : Char := '/'

/-- The parts of a path's text between separators, empty parts included. -/
def splitParts : List Char → List (List Char)
  | [] => [[]]
  | c :: cs =>
    if c = separator then [] :: splitParts cs
    else
      match splitParts cs with
      | [] => [[c]]
      | p :: ps => (c :: p) :: ps

/-- A part after the first, as a component: an empty part and `.` are none. -/
def partComponent? (part : List Char) : Option PathComponent :=
  if part = [] ∨ part = ['.'] then none
  else if part = ['.', '.'] then some .parentDir
  else some (.normal (String.ofList part))

/-- The first part, as a component: an empty first part is the root when other parts follow
it, and nothing in the empty path; a `.` stays, as the current directory. -/
def leadingComponent? (first : List Char) (rest : List (List Char)) : Option PathComponent :=
  if first = [] then (if rest = [] then none else some .rootDir)
  else if first = ['.'] then some .curDir
  else partComponent? first

/-- The components of a path. -/
def components (p : String) : List PathComponent :=
  match splitParts p.toList with
  | [] => []
  | first :: rest => (leadingComponent? first rest).toList ++ rest.filterMap partComponent?

/-- A path joined with another. -/
def joinPath (base p : String) : String :=
  if p.startsWith "/" then p
  else if base.isEmpty || base.endsWith "/" then base ++ p
  else base ++ "/" ++ p

/-- The directory a store rooted at `root` keeps its resources in. -/
def resourcesDir (root : String) : String :=
  joinPath root "resources"

/-- The path of the file a resource is kept in, in the store's directory `dir`. -/
def pathFor (dir id : String) : Except StoreError String :=
  if isValidId id then .ok (joinPath dir (fileName id)) else .error (.invalidId id)

end MonolithSplit.Store
