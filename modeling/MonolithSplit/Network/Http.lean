import MonolithSplit.Network.Url

/-!
# HTTP requests

What becomes of a request sent to an endpoint given as text. A text that is not a URL cannot
make a request; neither can a URL without a host, or one whose scheme is not `http` or
`https`. A user name and password in the URL travel with the request apart from it, so the
URL a request names has none. A request that can be made is sent, and no server answers it:
every endpoint is unreachable, so sending fails naming the URL.
-/

namespace MonolithSplit.Network

/-- Why a request failed. -/
inductive HttpError where
  /-- The request could not be built; the URL, when the text was one. -/
  | builder (url : Option String)
  /-- The request was sent and nothing answered. -/
  | unreachable (url : String)
  deriving DecidableEq, Repr

/-- The wording of a request failure. -/
def HttpError.message : HttpError → String
  | .builder none => "builder error"
  | .builder (some url) => "builder error for url (" ++ url ++ ")"
  | .unreachable url => "error sending request for url (" ++ url ++ ")"

/-- The credentials a request takes out of its URL, to send them apart from it: the user name
and the password, percent-decoded. They are taken when the user name decodes as UTF-8 and it is
not empty or a password decodes; a password that does not decode counts as none. -/
def Url.credentials? (u : Url) : Option (String × Option String) := do
  let user ← decodeUtf8? (percentDecodeBytes u.username.toList)
  let password :=
    if u.password.isEmpty then none else decodeUtf8? (percentDecodeBytes u.password.toList)
  if user.isEmpty && password.isNone then none
  else some (String.ofList user, password.map String.ofList)

/-- The URL a request names once its credentials are taken out: the user information after
`scheme://` is removed from the written form. -/
def Url.withoutCredentials (u : Url) : Url :=
  match u.credentials? with
  | none => u
  | some _ =>
    let written := u.username.length + (if u.password.isEmpty then 0 else u.password.length + 1) + 1
    let rest := u.text.toList.drop (u.scheme.length + 3 + written)
    { u with text := u.scheme ++ "://" ++ String.ofList rest, username := "", password := "" }

/-- The URL a request to `endpoint` goes to, if one can be built: the text must be a URL with a
host, and its scheme `http` or `https`. A URL without a host is refused as written; otherwise
the request's credentials are first taken out of the URL. -/
def requestTarget (endpoint : String) : Except HttpError Url :=
  match Url.parse endpoint with
  | .error _ => .error (.builder none)
  | .ok u =>
    if u.host.isNone then .error (.builder (some u.text))
    else
      let u := u.withoutCredentials
      if u.scheme == "http" || u.scheme == "https" then .ok u
      else .error (.builder (some u.text))

/-- Whether an endpoint is a URL, of any scheme, that names a host. -/
def namesHost (endpoint : String) : Bool :=
  match Url.parse endpoint with
  | .ok u => u.host.isSome
  | .error _ => false

/-- Sends a request to `endpoint`: it fails to be built, or finds nobody to answer it. -/
def send (endpoint : String) : Except HttpError Unit := do
  let target ← requestTarget endpoint
  throw (.unreachable target.text)

end MonolithSplit.Network
