import MonolithSplit.Server.Tools

/-!
# Answering requests

The server answers each request by its method: the introduction to `initialize`, an empty
result to `ping`, the tool listing, tool calls, empty listings of prompts, resources and
resource templates, which it has none of, and no completions. Any other method is not found, and the error's
message is the method's name. A tool call whose parameters do not name a tool, or whose
arguments are not an object, is not taken for a tool call either: it too is a method not
found, and so is a completion request whose parameters do not have their form.
-/

namespace MonolithSplit.Server

open MonolithSplit.Json MonolithSplit.Model MonolithSplit.Jobs MonolithSplit.Analytics

/-- The server's answer to a request. -/
inductive Response where
  | result (value : Value)
  | failure (e : RpcError)
  deriving Repr

/-- The JSON form of a response. -/
def Response.toJson : Response → Value
  | .result v => .object [("result", v)]
  | .failure e => .object [("error", e.toJson)]

/-- A response, the state after it, and the events the sink recorded. -/
structure Served where
  response : Response
  state : Redesign
  recorded : List TrackEvent

/-- The name and arguments of a tool call, when its parameters have that form: a string
`name`, and `arguments` that are an object, or `null` or absent for no arguments. -/
def toolCall? (params : Value) : Option (String × Value) :=
  match params.field? "name", params.field? "arguments" with
  | some (.string name), none => some (name, .object [])
  | some (.string name), some .null => some (name, .object [])
  | some (.string name), some (.object ms) => some (name, .object ms)
  | _, _ => none

/-- Whether a request's parameters can be read at all: `ping` takes none and ignores any, and
every other method takes them absent, `null` or an object. A request with any other parameters
is not a message the server understands, and it closes the connection. -/
def readableParams (method : String) : Option Value → Bool
  | none => true
  | some .null => true
  | some (.object _) => true
  | some _ => method == "ping"

/-- Whether a member, when present and not `null`, is a string. -/
def optionalText (params : Value) (key : String) : Bool :=
  match params.field? key with
  | none | some .null | some (.string _) => true
  | some _ => false

/-- Whether a member is a string. -/
def textField (params : Value) (key : String) : Bool :=
  match params.field? key with
  | some (.string _) => true
  | _ => false

/-- Whether the parameters of a completion request have their form: a reference to a prompt by
`name` or to a resource by `uri`, tagged by `type`; the `argument` being completed, with a
`name` and a `value`; and optionally a `context` whose `arguments` map names to strings. -/
def completionParams (params : Value) : Bool :=
  let reference := match params.field? "ref" with
    | some r =>
      match r.field? "type" with
      | some (.string "ref/prompt") => textField r "name" && optionalText r "title"
      | some (.string "ref/resource") => textField r "uri"
      | _ => false
    | none => false
  let argument := match params.field? "argument" with
    | some a => textField a "name" && textField a "value"
    | none => false
  let context := match params.field? "context" with
    | none | some .null => true
    | some (.object _) =>
      match (params.field? "context").bind (·.field? "arguments") with
      | none | some .null => true
      | some (.object ms) => ms.all fun (_, v) => match v with
        | .string _ => true
        | _ => false
      | some _ => false
    | some _ => false
  reference && argument && context

/-- Answers one request. -/
def serve (r : Redesign) (user : User) (generator : Generator) (hold : Bool) (method : String)
    (params : Value) : Served :=
  let answer (v : Value) : Served := ⟨.result v, r, []⟩
  match method with
  | "initialize" => answer serverIntroduction
  | "ping" => answer (.object [])
  | "tools/list" => answer toolListing
  | "prompts/list" => answer (.object [("prompts", .array [])])
  | "resources/list" => answer (.object [("resources", .array [])])
  | "resources/templates/list" => answer (.object [("resourceTemplates", .array [])])
  | "completion/complete" =>
    if completionParams params then
      answer (.object [("completion", .object [("values", .array [])])])
    else ⟨.failure (methodNotFound method), r, []⟩
  | "tools/call" =>
    match toolCall? params with
    | some (name, arguments) =>
      let called := callTool r user generator hold name arguments
      match called.reply with
      | .ok text => ⟨.result text.toJson, called.state, called.recorded⟩
      | .error e => ⟨.failure e, called.state, called.recorded⟩
    | none => ⟨.failure (methodNotFound "tools/call"), r, []⟩
  | other => ⟨.failure (methodNotFound other), r, []⟩

end MonolithSplit.Server
