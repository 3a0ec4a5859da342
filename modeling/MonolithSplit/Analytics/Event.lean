import MonolithSplit.Model.Snapshot

/-!
# Analytics events

The three moments of a redesign that are reported, and the event sent for each: who acted,
which moment, and properties naming the resource and the caller's plan. Extra properties are
merged in last, so they may replace the standard ones.
-/

namespace MonolithSplit.Analytics

open MonolithSplit.Json MonolithSplit.Model

/-- A reported moment of the redesign flow. -/
inductive EventKind where
  /-- A resource's data model was shown for confirmation. -/
  | startRedesign
  /-- A resource was submitted for decomposition. -/
  | startBreakTheMonolith
  /-- A decomposition was delivered. -/
  | completed
  deriving DecidableEq, Repr

namespace EventKind

/-- Every kind of event. -/
def all : List EventKind := [.startRedesign, .startBreakTheMonolith, .completed]

/-- The name an event is reported under. -/
def name : EventKind → String
  | .startRedesign => "ArchitectureRedesignStartRedesign"
  | .startBreakTheMonolith => "ArchitectureRedesignStartBreakTheMonolith"
  | .completed => "ArchitectureRedesignCompleted"

/-- The kind reported under a name, if any. -/
def ofName? (s : String) : Option EventKind :=
  all.find? (·.name = s)

end EventKind

/-- The resource an event is about. -/
structure Subject where
  projectId : Option String
  resourceId : String
  resourceName : String
  deriving Repr, DecidableEq

/-- The subject of events about a snapshot's resource. -/
def Subject.ofSnapshot (s : Snapshot) : Subject :=
  ⟨s.projectId, s.id, s.name⟩

/-- A reported event; `properties` is sorted by key. -/
structure TrackEvent where
  userId : String
  event : String
  properties : List (String × Value)
  deriving Repr

/-- The properties of an event: the project (or `null`), the resource, its name and the plan,
then the extra properties, each replacing a standard one of the same key. -/
def eventProperties (subject : Subject) (plan : String) (extra : List (String × Value)) :
    List (String × Value) :=
  let standard : List (String × Value) :=
    [("projectId", Value.ofOption subject.projectId), ("resourceId", .string subject.resourceId),
      ("serviceName", .string subject.resourceName), ("plan", .string plan)]
  (standard ++ extra).foldl (fun acc kv => Value.insertMember kv.1 kv.2 acc) []

/-- The event reporting `kind` for `user` about `subject`, on `plan`. -/
def TrackEvent.build (user : User) (subject : Subject) (kind : EventKind) (plan : String)
    (extra : List (String × Value)) : TrackEvent :=
  ⟨user.id, kind.name, eventProperties subject plan extra⟩

/-- The JSON form of an event. -/
def TrackEvent.toJson (e : TrackEvent) : Value :=
  .object [("userId", .string e.userId), ("event", .string e.event),
    ("properties", .object e.properties)]

end MonolithSplit.Analytics
