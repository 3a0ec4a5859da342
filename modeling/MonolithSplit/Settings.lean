import MonolithSplit.Model.Resource

/-!
# Settings

What a user configures: the AI provider, who they are, billing plans and where analytics go.
Every part has defaults, so a settings file may leave any part out: no AI provider, the user
`local-user` in the workspace `local-workspace`, the plan `Free` for every workspace, and
analytics written to the log under the strict policy. Within the AI part every key is
required; within the user part the id is.

AI is configured when a provider and a model are named and either the provider is `ollama`
(which runs locally and needs no key) or an API key is given.
-/

namespace MonolithSplit

open MonolithSplit.Json MonolithSplit.Schema MonolithSplit.Model

/-- The AI provider to generate with. -/
structure AiSettings where
  provider : String
  apiKey : String
  model : String
  deriving Repr, DecidableEq

/-- Who the user is. -/
structure UserSettings where
  id : String
  workspaceId : Option String
  deriving Repr, DecidableEq

/-- Billing plans: a default one, and overrides keyed by workspace id (sorted by key). -/
structure BillingSettings where
  defaultPlan : String
  workspaces : List (String × String)
  deriving Repr, DecidableEq

/-- What happens when an analytics event cannot be recorded. -/
inductive Policy where
  /-- The operation that emitted the event fails. -/
  | strict
  /-- The failure is logged and the operation goes on. -/
  | bestEffort
  deriving Repr, DecidableEq

/-- Where analytics events go: an HTTP endpoint, or the log when there is none. -/
structure AnalyticsSettings where
  endpoint : Option String
  writeKey : String
  policy : Policy
  deriving Repr, DecidableEq

/-- All settings. -/
structure Settings where
  ai : AiSettings
  user : UserSettings
  billing : BillingSettings
  analytics : AnalyticsSettings
  deriving Repr, DecidableEq

namespace AiSettings

/-- How AI settings are read. -/
def shape : Shape :=
  .record "AiSettings" [required "provider" .text, required "apiKey" .text, required "model" .text]

/-- AI settings from their normalised value. -/
def ofDecoded (j : Value) : AiSettings :=
  ⟨(j.slot 0).asText, (j.slot 1).asText, (j.slot 2).asText⟩

/-- Reads AI settings from a parsed value. -/
def decode (j : Value) : Except DecodeError AiSettings :=
  (shape.decode j).map ofDecoded

/-- The JSON form of AI settings. -/
def toJson (a : AiSettings) : Value :=
  .object [("provider", .string a.provider), ("apiKey", .string a.apiKey), ("model", .string a.model)]

/-- No provider, key or model. -/
def default : AiSettings := ⟨"", "", ""⟩

/-- Whether generation can be attempted: provider and model named, and a key unless the
provider is `ollama`. -/
def configured (a : AiSettings) : Bool :=
  !a.provider.isEmpty && !a.model.isEmpty && (a.provider == "ollama" || !a.apiKey.isEmpty)

end AiSettings

namespace UserSettings

/-- How user settings are read. -/
def shape : Shape :=
  .record "UserSettings" [required "id" .text, defaulted "workspaceId" (.optional .text) .null]

/-- User settings from their normalised value. -/
def ofDecoded (j : Value) : UserSettings :=
  ⟨(j.slot 0).asText, (j.slot 1).asOption.map Value.asText⟩

/-- The JSON form of user settings; no workspace is left out. -/
def toJson (u : UserSettings) : Value :=
  .object (Value.presentMembers [("id", some (.string u.id)), ("workspaceId", u.workspaceId.map .string)])

/-- The local user in the local workspace. -/
def default : UserSettings := ⟨"local-user", some "local-workspace"⟩

/-- The user these settings describe. -/
def toUser (u : UserSettings) : User := ⟨u.id, u.workspaceId⟩

end UserSettings

namespace BillingSettings

/-- How billing settings are read. -/
def shape : Shape :=
  .record "BillingSettings"
    [defaulted "defaultPlan" .text (.string "Free"), defaulted "workspaces" (.dictionary .text) (.object [])]

/-- Billing settings from their normalised value. -/
def ofDecoded (j : Value) : BillingSettings :=
  ⟨(j.slot 0).asText, (j.slot 1).asEntries.map fun kv => (kv.1, kv.2.asText)⟩

/-- Reads billing settings from a parsed value. -/
def decode (j : Value) : Except DecodeError BillingSettings :=
  (shape.decode j).map ofDecoded

/-- The JSON form of billing settings. -/
def toJson (b : BillingSettings) : Value :=
  .object [("defaultPlan", .string b.defaultPlan),
    ("workspaces", .object (b.workspaces.map fun kv => (kv.1, .string kv.2)))]

/-- The plan `Free` everywhere. -/
def default : BillingSettings := ⟨"Free", []⟩

/-- The plan of a workspace: its override if it has one, else the default plan. -/
def planFor (b : BillingSettings) (workspace : Option String) : String :=
  match workspace with
  | some w => ((b.workspaces.find? (·.1 == w)).map Prod.snd).getD b.defaultPlan
  | none => b.defaultPlan

end BillingSettings

namespace Policy

/-- The names of the policies. -/
def names : List String := ["strict", "bestEffort"]

/-- How a policy is read. -/
def shape : Shape := .choice names

/-- A policy from its normalised value. -/
def ofDecoded (j : Value) : Policy :=
  if j.asText == "bestEffort" then .bestEffort else .strict

/-- Reads a policy from a parsed value. -/
def decode (j : Value) : Except DecodeError Policy :=
  (shape.decode j).map ofDecoded

/-- The name of a policy. -/
def name : Policy → String
  | .strict => "strict"
  | .bestEffort => "bestEffort"

end Policy

namespace AnalyticsSettings

/-- How analytics settings are read. -/
def shape : Shape :=
  .record "AnalyticsSettings"
    [defaulted "endpoint" (.optional .text) .null, defaulted "writeKey" .text (.string ""),
      defaulted "policy" Policy.shape (.string "strict")]

/-- Analytics settings from their normalised value. -/
def ofDecoded (j : Value) : AnalyticsSettings :=
  ⟨(j.slot 0).asOption.map Value.asText, (j.slot 1).asText, Policy.ofDecoded (j.slot 2)⟩

/-- Reads analytics settings from a parsed value. -/
def decode (j : Value) : Except DecodeError AnalyticsSettings :=
  (shape.decode j).map ofDecoded

/-- The JSON form of analytics settings; no endpoint is left out. -/
def toJson (a : AnalyticsSettings) : Value :=
  .object (Value.presentMembers
    [("endpoint", a.endpoint.map .string), ("writeKey", some (.string a.writeKey)),
      ("policy", some (.string a.policy.name))])

/-- Events go to the log, under the strict policy. -/
def default : AnalyticsSettings := ⟨none, "", .strict⟩

end AnalyticsSettings

namespace Settings

/-- Every part at its default. -/
def default : Settings :=
  ⟨AiSettings.default, UserSettings.default, BillingSettings.default, AnalyticsSettings.default⟩

/-- How settings are read; every part may be left out. -/
def shape : Shape :=
  .record "Settings"
    [defaulted "ai" AiSettings.shape (.array [.string "", .string "", .string ""]),
      defaulted "user" UserSettings.shape (.array [.string "local-user", .string "local-workspace"]),
      defaulted "billing" BillingSettings.shape (.array [.string "Free", .object []]),
      defaulted "analytics" AnalyticsSettings.shape (.array [.null, .string "", .string "strict"])]

/-- Settings from their normalised value. -/
def ofDecoded (j : Value) : Settings :=
  ⟨AiSettings.ofDecoded (j.slot 0), UserSettings.ofDecoded (j.slot 1),
    BillingSettings.ofDecoded (j.slot 2), AnalyticsSettings.ofDecoded (j.slot 3)⟩

/-- The JSON form of settings. -/
def toJson (s : Settings) : Value :=
  .object [("ai", s.ai.toJson), ("user", s.user.toJson), ("billing", s.billing.toJson),
    ("analytics", s.analytics.toJson)]

/-- Reads settings from JSON text. -/
def readText (text : String) : Except DecodeError Settings :=
  (shape.readText text).map ofDecoded

end Settings

/-- What stands at the place of the settings file. -/
inductive SettingsFile where
  | absent
  | directory
  | text (content : String)

/-- Why settings could not be read. -/
inductive SettingsError where
  /-- The file could not be read; the text says why. -/
  | io (reason : String)
  /-- The file is not valid JSON for settings. -/
  | serialization (e : DecodeError)

/-- The wording of a settings error. -/
def SettingsError.message : SettingsError → String
  | .io reason => "settings I/O error: " ++ reason
  | .serialization e => "settings file is not valid JSON: " ++ e.message

/-- The reason given when a directory stands where a file is read. -/
def isADirectory : String := "Is a directory (os error 21)"

/-- The settings a file holds: defaults when there is none. -/
def SettingsFile.read : SettingsFile → Except SettingsError Settings
  | .absent => .ok Settings.default
  | .directory => .error (.io isADirectory)
  | .text content => (Settings.readText content).mapError .serialization

end MonolithSplit
