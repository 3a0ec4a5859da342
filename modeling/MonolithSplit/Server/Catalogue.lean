import MonolithSplit.Model.DataType
import MonolithSplit.Prompt.Guidelines

/-!
# What the server publishes

The tools the redesign server offers, each with its description and the JSON Schema of its
arguments, and what the server says about itself when a client connects: the protocol version,
its name and version, that it has tools, and instructions describing the workflow followed by
the decomposition guidelines.
-/

namespace MonolithSplit.Server

open MonolithSplit.Json MonolithSplit.Model MonolithSplit.Prompt

/-- A tool of the server. -/
inductive Tool where
  | finalizeBreakTheMonolith
  | importResource
  | listResources
  | startRedesign
  | triggerBreakTheMonolith
  deriving DecidableEq, Repr

namespace Tool

/-- Every tool, in the order of their names. -/
def all : List Tool :=
  [.finalizeBreakTheMonolith, .importResource, .listResources, .startRedesign,
    .triggerBreakTheMonolith]

/-- The name a tool is called by. -/
def name : Tool → String
  | .finalizeBreakTheMonolith => "finalize_break_the_monolith"
  | .importResource => "import_resource"
  | .listResources => "list_resources"
  | .startRedesign => "start_redesign"
  | .triggerBreakTheMonolith => "trigger_break_the_monolith"

/-- The tool called by a name, if any. -/
def ofName? (s : String) : Option Tool :=
  all.find? (·.name = s)

/-- What a tool does, as clients are told. -/
def description : Tool → String
  | .listResources =>
    "List all resources (services) available for redesign, with their live entity counts"
  | .importResource =>
    "Create or overwrite a resource and its data model. Use this to load a monolith before " ++
    "redesigning it."
  | .startRedesign =>
    "Start a redesign: returns the resource's current data model (live entities, baseline " ++
    "fields) so it can be confirmed before breaking it into microservices."
  | .triggerBreakTheMonolith =>
    "Ask the AI to propose a microservice decomposition of a resource. Returns immediately " ++
    "with a job handle \x7bid, lifecycle, ...\x7d; poll finalize_break_the_monolith with the " ++
    "job id until status is Completed or Failed."
  | .finalizeBreakTheMonolith =>
    "Check a break-the-monolith job. Returns \x7bstatus: Running|Completed|Failed, " ++
    "originalResourceId, data\x7d. While Running, data is null; call again later. When " ++
    "Completed, data is \x7bmicroservices: [\x7bname, functionality, dataModels: [\x7bname, " ++
    "originalEntityId\x7d]\x7d]\x7d where every entity exists in the resource and belongs to " ++
    "exactly one microservice."

end Tool

/-- The JSON Schema dialect of the argument schemas. -/
def schemaDialect : String := "https://json-schema.org/draft/2020-12/schema"

/-- A schema of one type, with more keywords. -/
def typed (t : String) (more : List (String × Value)) : Value :=
  .object (more ++ [("type", .string t)])

/-- A reference to a schema defined alongside. -/
def definedRef (name : String) : Value :=
  .object [("$ref", .string ("#/$defs/" ++ name))]

/-- A list of names as a JSON array. -/
def names (ns : List String) : Value := .array (ns.map .string)

/-- The schema of an object with these properties, some required. -/
def objectSchema (properties : List (String × Value)) (required : List String)
    (more : List (String × Value)) : Value :=
  typed "object" (more ++ [("properties", .object properties), ("required", names required)])

/-- The schema of a tool's arguments, with its title and the definitions it refers to. -/
def requestSchema (title : String) (defs : List (String × Value))
    (properties : List (String × Value)) (required : List String) : Value :=
  let head := if defs.isEmpty then [] else [("$defs", .object defs)]
  objectSchema properties required (head ++ [("$schema", .string schemaDialect), ("title", .string title)])

/-- A text with a default of `""`. -/
def textWithDefault : Value := typed "string" [("default", .string "")]

/-- A list of defined things, empty by default. -/
def listOf (name : String) : Value :=
  typed "array" [("default", .array []), ("items", definedRef name)]

/-- The schemas a resource is described by. -/
def resourceDefinitions : List (String × Value) :=
  [("DataType", typed "string"
      [("description", .string "Field data types a data model entity can declare."),
        ("enum", names (DataType.all.map DataType.name))]),
    ("Entity", objectSchema
      [("deletedAt", typed "string"
          [("description", .string "Set when the entity has been soft-deleted"), ("nullable", .bool true)]),
        ("displayName", textWithDefault), ("id", typed "string" []), ("name", typed "string" []),
        ("versions", listOf "EntityVersion")]
      ["id", "name"] []),
    ("EntityField", objectSchema
      [("dataType", definedRef "DataType"), ("displayName", textWithDefault),
        ("name", typed "string" []),
        ("properties", typed "object"
          [("additionalProperties", .bool true), ("default", .object []),
            ("description", .string ("Free-form field properties, e.g. " ++
              "`\x7b\"relatedEntityId\": \"...\"\x7d` for lookups"))])]
      ["name", "dataType"] []),
    ("EntityVersion", objectSchema
      [("fields", listOf "EntityField"),
        ("versionNumber", typed "integer"
          [("format", .string "uint32"), ("minimum", .ofNat 0)])]
      ["versionNumber"] []),
    ("Project", objectSchema [("id", typed "string" []), ("name", textWithDefault)] ["id"] []),
    ("Resource", objectSchema
      [("entities", listOf "Entity"), ("id", typed "string" []), ("name", typed "string" []),
        ("project", .object [("anyOf", .array
          [definedRef "Project", .object [("const", .null), ("nullable", .bool true)]])])]
      ["id", "name"] [("description", .string "A service resource together with its data model.")])]

/-- How a resource to import is described to clients. -/
def importedResourceDescription : String :=
  "The complete resource: \x7bid, name, project?: \x7bid, name\x7d, entities: [\x7bid, name, " ++
  "displayName, deletedAt?, versions: [\x7bversionNumber, fields: [\x7bname, displayName, " ++
  "dataType, properties\x7d]\x7d]\x7d]\x7d. Lookup fields reference their target with " ++
  "properties.relatedEntityId."

/-- The schema of the arguments naming a resource. -/
def resourceRequestSchema : Value :=
  requestSchema "ResourceRequest" []
    [("resource_id", typed "string" [("description",
      .string "ID of the resource (service) whose data model should be redesigned")])]
    ["resource_id"]

/-- The schema of a tool's arguments. -/
def Tool.inputSchema : Tool → Value
  | .listResources => .object [("properties", .object []), ("type", .string "object")]
  | .importResource =>
    requestSchema "ImportResourceRequest" resourceDefinitions
      [("resource", .object [("$ref", .string "#/$defs/Resource"),
        ("description", .string importedResourceDescription)])]
      ["resource"]
  | .startRedesign => resourceRequestSchema
  | .triggerBreakTheMonolith => resourceRequestSchema
  | .finalizeBreakTheMonolith =>
    requestSchema "FinalizeRequest" []
      [("job_id", typed "string"
        [("description", .string "Job ID returned by trigger_break_the_monolith")])]
      ["job_id"]

/-- A tool as listed: its name, description and argument schema. -/
def Tool.toJson (t : Tool) : Value :=
  .object [("name", .string t.name), ("description", .string t.description),
    ("inputSchema", t.inputSchema)]

/-- The tool listing, by name. -/
def toolListing : Value :=
  .object [("tools", .array (Tool.all.map Tool.toJson))]

/-- How the workflow is explained to clients. -/
def workflowInstructions : String :=
  "This server proposes how to break a monolithic service into microservices.\n" ++
  "\n" ++
  "Workflow:\n" ++
  "1. `list_resources` to find the monolith, or `import_resource` to load one.\n" ++
  "2. `start_redesign` to review its data model.\n" ++
  "3. `trigger_break_the_monolith` to submit it; keep the returned job id.\n" ++
  "4. `finalize_break_the_monolith` with that id. While the status is Running, wait and call " ++
  "it again. Once Completed, `data` holds the proposal.\n" ++
  "\n" ++
  "Proposals only contain entities that exist in the resource at finalize time, and each " ++
  "entity appears in exactly one microservice. If finalize reports a bad format, the AI " ++
  "produced unusable output; trigger a new job."

/-- The instructions: the workflow, then the decomposition guidelines under their heading. -/
def instructions : String :=
  workflowInstructions ++ "\n\n## Decomposition Guidelines\n" ++ guidelines

/-- The protocol version the server speaks. -/
def protocolVersion : String := "2025-03-26"

/-- What the server answers a client that connects. -/
def serverIntroduction : Value :=
  .object [("protocolVersion", .string protocolVersion),
    ("capabilities", .object [("tools", .object [])]),
    ("serverInfo", .object [("name", .string "rmcp"), ("version", .string "0.15.0")]),
    ("instructions", .string instructions)]

end MonolithSplit.Server
