import MonolithSplit.Server.Rpc
import MonolithSplit.Json.Reader

/-!
# A connection to the server

The server speaks JSON-RPC 2.0, one message per line. A request carries an id and is answered
with a line holding the same id and the result or the error; a notification carries no id and
is not answered, and neither is a line that is not JSON. A request whose parameters are
neither an object nor `null` ends the connection. The server starts with the settings it
is given, an empty resource store and no jobs, and generates with the configured provider.
-/

namespace MonolithSplit.Server

open MonolithSplit.Json MonolithSplit.Model MonolithSplit.Store MonolithSplit.Jobs
open MonolithSplit.Analytics MonolithSplit.Generation

/-- The server's state on a connection. -/
structure Connection where
  redesign : Redesign
  user : User
  generator : Generator

/-- A fresh server running with the given settings; its job ids start with `idGroup`. -/
def Connection.start (settings : Settings) (idGroup : String) : Connection :=
  ⟨⟨ResourceStore.empty, JobStore.empty idGroup,
      ⟨.configured settings.billing, Sink.ofSettings settings.analytics, settings.analytics.policy⟩⟩,
    settings.user.toUser, fun system user => Attempt.ofResult (generate settings.ai system user)⟩

/-- The line answering a request with this id. -/
def responseLine (id : Value) (response : Response) : String :=
  let body := match response with
    | .result v => ("result", v)
    | .failure e => ("error", e.toJson)
  (Value.object [("jsonrpc", .string "2.0"), ("id", id), body]).compact

/-- What the server does with a line it receives. -/
inductive Reception where
  /-- Nothing: the line is a notification, or not a request. -/
  | ignored
  /-- It writes this line in answer. -/
  | answered (line : String)
  /-- It cannot read the request and closes the connection. -/
  | closes

/-- Receives one line: the state after it, and what the server does. -/
def Connection.receive (c : Connection) (line : String) : Connection × Reception :=
  match parseText line with
  | .error _ => (c, .ignored)
  | .ok message =>
    match message.field? "id", message.field? "method" with
    | some id, some (.string method) =>
      if readableParams method (message.field? "params") then
        let served := serve c.redesign c.user c.generator false method
          ((message.field? "params").getD (.object []))
        ({ c with redesign := served.state }, .answered (responseLine id served.response))
      else (c, .closes)
    | _, _ => (c, .ignored)

end MonolithSplit.Server
