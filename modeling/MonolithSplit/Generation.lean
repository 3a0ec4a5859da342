import MonolithSplit.Settings
import MonolithSplit.Network.Http
import MonolithSplit.Text.Printable

/-!
# Generating text

A generator turns a system prompt and a user message into text. The configured generator
names a provider: a hosted one needs an API key, and the local Ollama server needs none. Every
provider is reached over HTTP, and no server answers, so a generation that gets as far as
sending its request fails there.

A generator may also fail outright, or crash; a crash is reported as an aborted task whose
number is written `N`.
-/

namespace MonolithSplit.Generation

open MonolithSplit.Network

/-- Why a generation produced no text. -/
inductive GenerationError where
  | unknownProvider (name : String)
  | build (reason : String)
  | chat (reason : String)
  /-- The answer held no text (`"no text"`) or only blanks (`"empty text"`). -/
  | emptyResponse (what : String)
  deriving DecidableEq, Repr

/-- The wording of a generation failure. -/
def GenerationError.message : GenerationError → String
  | .unknownProvider name => "unknown provider: " ++ name
  | .build reason => "build LLM: " ++ reason
  | .chat reason => "chat: " ++ reason
  | .emptyResponse what => "LLM returned " ++ what

/-- A provider of generated text. -/
inductive Provider where
  | openai
  | anthropic
  | google
  | ollama
  | groq
  | mistral
  | deepseek
  deriving DecidableEq, Repr

namespace Provider

/-- Every provider. -/
def all : List Provider := [.openai, .anthropic, .google, .ollama, .groq, .mistral, .deepseek]

/-- The name a provider is configured by; names are case-sensitive. -/
def key : Provider → String
  | .openai => "openai"
  | .anthropic => "anthropic"
  | .google => "google"
  | .ollama => "ollama"
  | .groq => "groq"
  | .mistral => "mistral"
  | .deepseek => "deepseek"

/-- The provider configured by a name, if any. -/
def ofKey? (s : String) : Option Provider :=
  all.find? (·.key = s)

/-- The name a provider is shown by. -/
def title : Provider → String
  | .openai => "OpenAI"
  | .anthropic => "Anthropic"
  | .google => "Google"
  | .ollama => "Ollama"
  | .groq => "Groq"
  | .mistral => "Mistral"
  | .deepseek => "DeepSeek"

/-- The endpoint chat requests are posted to. -/
def chatEndpoint (model : String) : Provider → String
  | .openai => "https://api.openai.com/v1/chat/completions"
  | .anthropic => "https://api.anthropic.com/v1/messages"
  | .google =>
    "https://generativelanguage.googleapis.com/v1beta/models/" ++ model ++ ":generateContent"
  | .ollama => "http://localhost:11434/api/chat"
  | .groq => "https://api.groq.com/openai/v1/chat/completions"
  | .mistral => "https://api.mistral.ai/v1/chat/completions"
  | .deepseek => "https://api.deepseek.com/v1/chat/completions"

/-- Whether the provider needs an API key. -/
def needsKey (p : Provider) : Bool := p != .ollama

end Provider

/-- Generates with the configured provider: an unknown provider and a hosted provider without a
key fail before any request; otherwise the chat request fails to reach its server. -/
def generate (ai : AiSettings) (_system _user : String) : Except GenerationError String :=
  match Provider.ofKey? ai.provider with
  | none => .error (.unknownProvider ai.provider)
  | some p =>
    if p.needsKey && ai.apiKey.isEmpty then
      .error (.build ("Invalid request: No API key provided for " ++ p.title))
    else
      match send (p.chatEndpoint ai.model) with
      | .ok () => .error (.emptyResponse "no text")
      | .error e => .error (.chat ("HTTP error: " ++ e.message))

/-- What a generator does when it is called. -/
inductive Attempt where
  /-- It returns this text. -/
  | answers (text : String)
  /-- It fails. -/
  | fails (e : GenerationError)
  /-- It crashes with this message. -/
  | crashes (message : String)
  deriving DecidableEq, Repr

/-- The attempt of a generation whose outcome is known. -/
def Attempt.ofResult : Except GenerationError String → Attempt
  | .ok text => .answers text
  | .error e => .fails e

/-- The outcome of an attempt: its text, or the job error it leaves. -/
def Attempt.outcome : Attempt → Except String String
  | .answers text => .ok text
  | .fails e => .error e.message
  | .crashes message =>
    .error ("generation aborted: task N panicked with message " ++ Text.literal message)

end MonolithSplit.Generation
