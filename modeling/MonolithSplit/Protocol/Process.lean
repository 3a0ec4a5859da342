import MonolithSplit.Protocol.Session

/-!
# The server as a program

The server program reads its settings from the user's settings file (defaults when the file is
missing or unreadable), keeps resources in the user's data directory, and generates with the
configured AI provider. A request describes the settings file (where `{ANALYTICS}` stands for
the loopback analytics endpoint when that server runs), the files already in the data directory, and the messages
sent to the program after the connection is set up. Each message is answered on its own; job
ids are replaced by aliases in order of first appearance in the program's output. The program exits cleanly when its
input ends.
-/

namespace MonolithSplit.Protocol

open MonolithSplit.Json MonolithSplit.Model MonolithSplit.Store MonolithSplit.Jobs
open MonolithSplit.Analytics MonolithSplit.Generation MonolithSplit.Server

/-- Where the settings text names the loopback analytics endpoint. -/
def analyticsPlaceholder : String := "\x7bANALYTICS\x7d"

/-- The settings the program runs with: those of its file, or the defaults when there is no
file or it cannot be read. When the loopback analytics server runs at `loopback`, the
placeholder in the text stands for it; otherwise it is left as written. -/
def programSettings (text : Option String) (loopback : Option String) : Settings :=
  let file := match text with
    | some t =>
      SettingsFile.text (match loopback with
        | some endpoint => t.replace analyticsPlaceholder endpoint
        | none => t)
    | none => .absent
  match file.read with
  | .ok s => s
  | .error _ => Settings.default

/-- The settings text of a request: absent unless it is a string. -/
def settingsMember (req : Value) : Option String :=
  match req.field? "settings" with
  | some (.string t) => some t
  | _ => none

/-- Whether a name may be given to a file written before the program starts: no leading dot and
no slash. -/
def isVisibleFileName (name : String) : Bool :=
  !name.startsWith "." && !name.any (· == '/')

/-- The data directory with the request's files in it, made when `files` is an object; a file
whose content is not a string is written empty. -/
def filesMember (req : Value) : Answering ResourceStore := do
  match req.field? "files" with
  | some (.object files) =>
    files.foldlM (fun store (name, content) => do
      if !isVisibleFileName name then throw (InputError.answer ⟨"bad file name"⟩)
      let text := match content with
        | .string text => text
        | _ => ""
      match store.plantFile name text with
      | (store, none) => return store
      | (_, some reason) => throw (InputError.answer ⟨reason⟩))
      ResourceStore.empty.opened
  | _ => return ResourceStore.empty

/-- The program's state between messages. -/
structure Program where
  redesign : Redesign
  user : User
  generator : Generator
  aliases : Aliases

/-- Answers one message. `initialize` is answered with the introduction the program gave when
the connection was set up. The job ids in the response line, as the program writes it, are
given aliases in order; then every UUID in the response's strings is replaced by its alias. A
message whose parameters the program cannot read makes it close the connection. -/
def Program.answer (p : Program) (message : Value) : Answering (Program × Value) := do
  let method ← textMember message "method"
  if method == "initialize" then return (p, .object [("result", serverIntroduction)])
  if !readableParams method (message.field? "params") then throw closedServerAnswer
  let params := p.aliases.resolveJson ((optionalMember message "params").getD (.object []))
  let served := serve p.redesign p.user p.generator false method params
  let line := served.response.toJson.compact
  let (aliases, response) := (p.aliases.noteAll line).maskJson (fun _ => true) served.response.toJson
  return ({ p with redesign := served.state, aliases }, response)

/-- Answers messages in order. -/
def Program.run (p : Program) : List Value → Answering (List Value)
  | [] => .ok []
  | message :: rest => do
    let (p, response) ← p.answer message
    let responses ← p.run rest
    return response :: responses

/-- Runs the program over the request's messages; `fresh` holds the loopback server's port and
the first group of job ids. -/
def answerProcess (req : Value) (fresh : Fresh) : Answering Value := do
  let analytics := (req.field? "analytics").isSome
  let settings := programSettings (settingsMember req)
    (if analytics then some (loopbackEndpoint fresh.port) else none)
  let store ← filesMember req
  let messages ← arrayMember req "messages"
  let emitter : Emitter :=
    ⟨.configured settings.billing, Sink.ofSettings settings.analytics, settings.analytics.policy⟩
  let program : Program :=
    ⟨⟨store, JobStore.empty fresh.jobGroup, emitter⟩, settings.user.toUser,
      fun system user => Attempt.ofResult (generate settings.ai system user), Aliases.empty⟩
  let steps ← program.run messages
  let servers : List (String × Value) :=
    (if analytics then [("analyticsRequests", .array [])] else []) ++
    (if (req.field? "ollama").isSome then [("ollamaRequests", .array [])] else [])
  return .object ([("steps", .array steps), ("exitSuccess", .bool true)] ++ servers)

end MonolithSplit.Protocol
