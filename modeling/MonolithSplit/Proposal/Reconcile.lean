import MonolithSplit.Proposal.Recommendation
import MonolithSplit.Model.Snapshot

/-!
# Reconciling a recommendation with a snapshot

A recommendation names data models freely; the proposal made of it names only live entities of
the snapshot, each in exactly one service, with the entity's id. Services are visited largest
first (by the number of names they list, ties in their order), and within a service the names
in their order. A name that occurs more than once in the whole recommendation is *duplicated*:
the first visit to it claims it, whether or not it names an entity, and later visits drop it.
Names that are no entity's are dropped; a name shared by several entities takes the id of the
last. Services left with no data model are removed.
-/

namespace MonolithSplit.Proposal

open MonolithSplit.Json MonolithSplit.Model

/-- A data model of a proposal: an entity's name and its id. -/
structure Assignment where
  name : String
  originalEntityId : String
  deriving Repr, DecidableEq

/-- A service of a proposal. -/
structure Service where
  name : String
  functionality : String
  dataModels : List Assignment
  deriving Repr, DecidableEq

/-- A proposal: services that share no data model. -/
structure Decomposition where
  services : List Service
  deriving Repr, DecidableEq

/-- One step of finding repeated names: the names seen so far, and those seen again. -/
def repeatStep (acc : List String × List String) (name : String) : List String × List String :=
  if acc.1.contains name then (acc.1, acc.2 ++ [name]) else (name :: acc.1, acc.2)

/-- The names that occur again after their first occurrence, once per repeat. -/
def repeatedNames (names : List String) : List String :=
  (names.foldl repeatStep ([], [])).2

/-- The names occurring more than once, each once, sorted. -/
def duplicatedNames (names : List String) : List String :=
  ((repeatedNames names).mergeSort (fun a b => decide (a ≤ b))).eraseDups

/-- The id of the last entity of the snapshot with the given name. -/
def entityIdByName (s : Snapshot) (name : String) : Option String :=
  (s.entities.reverse.find? (·.name == name)).map LiveEntity.id

/-- One name of a service: claims it when duplicated, and keeps it when it names an entity
and was not claimed before. -/
def assignStep (duplicated : List String) (s : Snapshot) (acc : List String × List Assignment)
    (name : String) : List String × List Assignment :=
  let already := acc.1.contains name
  let claimed := if duplicated.contains name then name :: acc.1 else acc.1
  match entityIdByName s name with
  | none => (claimed, acc.2)
  | some id => if already then (claimed, acc.2) else (claimed, acc.2 ++ [⟨name, id⟩])

/-- The data models a service keeps, and the names claimed after it. -/
def assignService (duplicated : List String) (s : Snapshot) (claimed : List String)
    (d : ServiceDraft) : List String × Service :=
  let (claimed', kept) := d.dataModels.foldl (assignStep duplicated s) (claimed, [])
  (claimed', ⟨d.name, d.functionality, kept⟩)

/-- The services largest first, ties in their order. -/
def largestFirst (ds : List ServiceDraft) : List ServiceDraft :=
  ds.mergeSort fun a b => decide (b.dataModels.length ≤ a.dataModels.length)

/-- One service of the walk: assign it, keep it if it has a data model left. -/
def reconcileStep (duplicated : List String) (s : Snapshot)
    (acc : List String × List Service) (d : ServiceDraft) : List String × List Service :=
  let (claimed, service) := assignService duplicated s acc.1 d
  if service.dataModels.isEmpty then (claimed, acc.2) else (claimed, acc.2 ++ [service])

/-- The proposal a recommendation gives against a snapshot. -/
def reconcile (r : Recommendation) (s : Snapshot) : Decomposition :=
  let duplicated := repeatedNames (r.services.flatMap ServiceDraft.dataModels)
  ⟨((largestFirst r.services).foldl (reconcileStep duplicated s) ([], [])).2⟩

/-- The JSON form of an assignment. -/
def Assignment.toJson (a : Assignment) : Value :=
  .object [("name", .string a.name), ("originalEntityId", .string a.originalEntityId)]

/-- The JSON form of a service. -/
def Service.toJson (v : Service) : Value :=
  .object [("name", .string v.name), ("functionality", .string v.functionality),
    ("dataModels", .array (v.dataModels.map Assignment.toJson))]

/-- The JSON form of a proposal. -/
def Decomposition.toJson (p : Decomposition) : Value :=
  .object [("microservices", .array (p.services.map Service.toJson))]

end MonolithSplit.Proposal
