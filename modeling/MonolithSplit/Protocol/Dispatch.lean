import MonolithSplit.Protocol.Queries
import MonolithSplit.Protocol.Track
import MonolithSplit.Protocol.Session
import MonolithSplit.Protocol.Process
import MonolithSplit.Json.Reader

/-!
# Answering a request line

A request is one JSON object whose `op` member names the operation; the other members are its
arguments. A line that is not JSON, or has no string `op`, or names no known operation, is
answered with a `DriverInput` error.

An `llm_generate` request generates with the AI settings it gives, from a system prompt and a
user message (both empty by default, also when not strings). With the Ollama provider, the
answer lists the requests the local server received, and it receives none.
-/

namespace MonolithSplit.Protocol

open MonolithSplit.Json MonolithSplit.Generation

/-! ## Generating with configured AI settings -/

/-- Whether generating would call a hosted provider over the network: a known provider that
needs a key, given one. -/
def callsHostedProvider (ai : AiSettings) : Bool :=
  match Provider.ofKey? ai.provider with
  | some p => p.needsKey && !ai.apiKey.isEmpty
  | none => false

/-- Generates text with the request's AI settings. A hosted provider with a key is refused, as
it would reach the network. With the Ollama provider the answer lists the requests the local
server received. -/
def answerGenerate (req : Value) : Answering Value := do
  let ai ← decodeAs "InvalidAiSettings" AiSettings.decode (← member req "ai")
  if callsHostedProvider ai then
    throw (.failure "DriverRefused" "hosted providers would reach the network")
  let system := textMemberOr req "system" ""
  let user := textMemberOr req "user" ""
  let requests : List (String × Value) :=
    if ai.provider == Provider.ollama.key then [("requests", .array [])] else []
  match generate ai system user with
  | .ok text => return .object ([("text", .string text)] ++ requests)
  | .error e => throw (generationAnswer e requests)

/-! ## Operations by name -/

/-- Answers an operation by name, with the values `fresh` made up for it. -/
def answerOp (fresh : Fresh) (op : String) (req : Value) : Answer :=
  let result : Answering Value :=
    match op with
    | "parse" => answerParse req
    | "project" => answerProject req
    | "prompt" => answerPrompt req
    | "primitive_type" => answerPrimitive req
    | "data_types" => .ok answerDataTypes
    | "system_prompt" => .ok answerSystemPrompt
    | "duplicates" => answerDuplicates req
    | "reconcile" => answerReconcile req
    | "ai_configured" => answerAiConfigured req
    | "read_settings" => answerReadSettings req
    | "subscription" => answerSubscription req
    | "track" => answerTrack req fresh
    | "llm_generate" => answerGenerate req
    | "session" => answerSession req fresh
    | "mcp_process" => answerProcess req fresh
    | _ => .error (InputError.answer ⟨"unknown op '" ++ op ++ "'"⟩)
  match result with
  | .ok v => .ok (Value.maskPorts fresh.port v)
  | .error (.error kind message extra) =>
    .error kind (maskPort fresh.port message)
      (extra.map fun kv => (kv.1, Value.maskPorts fresh.port kv.2))
  | .error a => a

/-- Answers a parsed request, with the values `fresh` made up for it. -/
def answerRequest (fresh : Fresh) (req : Value) : Answer :=
  match req.field? "op" with
  | none => InputError.answer ⟨"missing field 'op'"⟩
  | some (.string op) => answerOp fresh op req
  | some _ => InputError.answer ⟨"field 'op' must be a string"⟩

/-- Answers one request line with one answer line. -/
def answerLine (line : String) : String :=
  match parseText line with
  | .ok req => (answerRequest (Fresh.avoiding line) req).line
  | .error e => (InputError.answer ⟨e.message⟩).line

end MonolithSplit.Protocol
