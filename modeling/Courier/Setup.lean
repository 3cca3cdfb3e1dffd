import Courier.Error

/-!
# Setting up a client

A setup collects an address, settings, a store of cookies and a connector. It is checked as
a whole and in one order: the settings, the connector or else the address, the name of the
session cookie, and the runtime.
-/

namespace Courier

/-- Checks the settings. -/
def Config.check (c : Config) : Except Error Unit :=
  if c.isValid then .ok () else .error (.config (.backoffTooShort c.maxBackoff))

/-- The session of the cookie with the given name, if a cookie can have that name and the
name is not too long to look for. -/
def Session.open (cookieName : String) : Except Error Session :=
  if !Session.isValidName cookieName then .error (.config (.cookieName cookieName))
  else if Session.matcherLimit < Session.matcherSize cookieName then
    .error (.config .cookieNameTooLong)
  else .ok (.new cookieName)

/-- The address of a WebSocket endpoint. -/
def Url.endpoint (text : String) : Except Error Url :=
  match Url.parse text with
  | .error fault => .error (.config (.urlMalformed text fault))
  | .ok url =>
    if url.scheme = "ws" ∨ url.scheme = "wss" then .ok url
    else .error (.config (.urlScheme url.scheme))

/-- A client in the making. -/
structure Setup where
  url : Option String
  config : Config
  hasStore : Bool
  hasConnector : Bool

namespace Setup

/-- Nothing is said yet. -/
def empty : Setup := ⟨none, .standard, false, false⟩

/-- Checks that there is something to connect to; a connector needs no address. -/
def checkTarget (s : Setup) : Except Error Unit :=
  if s.hasConnector then .ok () else
    match s.url with
    | none => .error (.config .urlMissing)
    | some url => (Url.endpoint url).map fun _ => ()

/-- The session that a client with this setup starts with. -/
def build (s : Setup) (inRuntime : Bool) : Except Error Session := do
  s.config.check
  s.checkTarget
  let session ← Session.open s.config.cookieName
  if inRuntime then .ok session else .error (.config .noRuntime)

/-- A setup as it stands in a message. -/
def render (s : Setup) : String :=
  "RouterBuilder \x7b url: " ++ quoteOption quote s.url ++ ", config: " ++ s.config.render
    ++ ", cookie_store: " ++ (if s.hasStore then "true" else "false")
    ++ ", connector: " ++ (if s.hasConnector then "true" else "false") ++ " \x7d"

end Setup

end Courier
