import MonolithSplit.Store

/-!
# Writing a resource through a staging file

A resource is written in three steps. The put checks the id, makes the directory and creates an
empty staging file under a fresh name in it; it writes the resource's text into that file; and it
renames the file onto the resource's own, `<id>.json`, replacing whatever file stood there. A
rename onto a name the file system does not take, or onto a directory, fails, and the staging
file is then removed. A put whose id is not valid is refused before the directory is touched.

Puts run concurrently: the steps of any number of them interleave in any order, and each step
happens only when it can. The file system gives each staging file a name that is fresh in the
directory and does not end in `.json`; a put is known by its staging file's name while it is on
its way.

A rename is atomic, and a renamed file is never written again, so a lookup of `<id>.json`, and
each file a listing reads, sees one whole file: reads stand between two steps, and are the
store's own `get` and `list` on the directory as it then is.
-/

namespace MonolithSplit.Store

open MonolithSplit.Model

namespace ResourceStore

/-- Removes what stands under a file name. -/
def removeEntry (s : ResourceStore) (name : String) : ResourceStore :=
  { s with entries := s.entries.filter (·.1 ≠ name) }

end ResourceStore

/-- A put on its way: its resource, its staging file, and whether the resource's text is written
there yet. -/
structure StagedPut where
  resource : Resource
  temp : String
  written : Bool
  deriving Repr

/-- The store's directory while puts are on their way: the puts, the resources renamed onto their
files in order, and the puts that have ended, each with its failure if it failed. -/
structure Staging where
  dir : ResourceStore
  staged : List StagedPut
  renamed : List Resource
  finished : List (Resource × Option StoreError)
  deriving Repr

/-- One step of a put. -/
inductive StagingStep where
  /-- A put of `r` begins, staging in a new file named `temp`. -/
  | create (r : Resource) (temp : String)
  /-- The put staging in `temp` writes its resource's text there. -/
  | write (temp : String)
  /-- The put staging in `temp` renames it onto its resource's file. -/
  | rename (temp : String)
  deriving Repr

/-- The resources the steps begin to put. -/
def StagingStep.resources (steps : List StagingStep) : List Resource :=
  steps.filterMap fun
    | .create r _ => some r
    | _ => none

/-- The steps a put on its way has left. -/
def StagedPut.remaining (p : StagedPut) : List StagingStep :=
  (if p.written then [] else [.write p.temp]) ++ [.rename p.temp]

/-- The steps of a put of `r` staging in `temp`, when nothing comes between them. -/
def putSteps (r : Resource) (temp : String) : List StagingStep :=
  .create r temp :: if isValidId r.id then [.write temp, .rename temp] else []

namespace Staging

/-- A directory with no put on its way. -/
def ofStore (dir : ResourceStore) : Staging := ⟨dir, [], [], []⟩

/-- The put staging in a file, if one is. -/
def staged? (st : Staging) (temp : String) : Option StagedPut :=
  st.staged.find? (·.temp = temp)

/-- Ends a put on its way with the directory it leaves and its failure, if it failed. -/
def finish (st : Staging) (dir : ResourceStore) (p : StagedPut) (failure : Option StoreError) :
    Staging :=
  { st with
    dir := dir
    staged := st.staged.filter (·.temp ≠ p.temp)
    finished := st.finished ++ [(p.resource, failure)] }

/-- A put begins: an invalid id ends it at once; otherwise the directory is made and an empty
staging file created, under a name no file has and that does not end in `.json`. -/
def create (st : Staging) (r : Resource) (temp : String) : Option Staging :=
  if isValidId r.id then
    if (st.dir.entryAt? temp).isNone && !temp.endsWith ".json" then
      some { st with
        dir := st.dir.opened.setEntry temp (.file "")
        staged := st.staged ++ [⟨r, temp, false⟩] }
    else none
  else some { st with finished := st.finished ++ [(r, some (.invalidId r.id))] }

/-- The put staging in `temp` writes its resource's text there, once. -/
def write (st : Staging) (temp : String) : Option Staging :=
  match st.staged? temp with
  | some p =>
    if p.written then none
    else some { st with
      dir := st.dir.setEntry temp (.file (storedText p.resource))
      staged := st.staged.map fun q => if q.temp = temp then { q with written := true } else q }
  | none => none

/-- The put staging in `temp`, its text written, renames the staging file onto its resource's
file: what the staging file holds replaces what stood there. A name too long, or a directory in
the way, fails the put, and the staging file is removed. -/
def rename (st : Staging) (temp : String) : Option Staging :=
  match st.staged? temp, st.dir.entryAt? temp with
  | some p, some e =>
    if p.written then
      let target := fileName p.resource.id
      let dir := st.dir.removeEntry temp
      if isTooLong target then some (st.finish dir p (some (.io nameTooLong)))
      else
        match st.dir.entryAt? target with
        | some .directory => some (st.finish dir p (some (.io isADirectory)))
        | _ => some { st.finish (dir.setEntry target e) p none with
            renamed := st.renamed ++ [p.resource] }
    else none
  | _, _ => none

/-- The state after a step, if the step can happen. -/
def step (st : Staging) : StagingStep → Option Staging
  | .create r temp => st.create r temp
  | .write temp => st.write temp
  | .rename temp => st.rename temp

/-- The state after steps in order, if each can happen. -/
def run (st : Staging) : List StagingStep → Option Staging
  | [] => some st
  | s :: ss => (st.step s).bind fun st' => st'.run ss

end Staging

end MonolithSplit.Store
