/-
`Environment`, `ApiConfig` and `DiscoverySettings`: where the service is, how long to wait for it,
and how candidates are paged.

A deployment is named on the command line by one of several spellings, and it gives the base URL
that every path is put behind. The timeouts are handed to the HTTP client and decide nothing here.
-/
import Rendezvous.Text.Blank

set_option autoImplicit false

namespace Rendezvous.Service

/-- The path of the base URL in every deployment. -/
def pathStart : String := "/api/v1"

/-- A deployment of the service. -/
inductive Environment
  | development
  | staging
  | production
deriving Repr, DecidableEq

namespace Environment

/-- The deployment that a build profile selects: a build with debug assertions talks to a service on
the same machine, and any other build to the one that members use. -/
def ofProfile (debug : Bool) : Environment :=
  if debug then development else production

/-- The deployment that is meant when none is named (`Environment::current`). Which one it is
depends on how the program was built, and that is fixed here to a debug build, the one that the
tests are run with; a release build would have `ofProfile false`. -/
def current : Environment := ofProfile true

/-- The name of a deployment, as `Display` writes it. -/
def name : Environment → String
  | development => "development"
  | staging => "staging"
  | production => "production"

/-- `api_base_url`. -/
def address (e : Environment) : String :=
  (match e with
    | development => "http://localhost"
    | staging => "https://staging-api.zoekdeware.app"
    | production => "https://api.zoekdeware.app") ++ pathStart

/-- The spellings that `from_str` accepts, in lower case. -/
def spellings : List (String × Environment) :=
  [("development", development), ("dev", development), ("local", development),
    ("staging", staging), ("production", production), ("prod", production)]

/-- The wording of the error of `from_str`. -/
def unknownMessage (name : String) : String :=
  "Unknown environment '" ++ name ++ "'"

/-- `from_str`. White space around the name and the case of ASCII letters do not count; an unknown
name is given back trimmed and in lower case, the way it was looked for. -/
def parse (text : String) : Except String Environment :=
  let name := Text.asciiLower (Text.trimmed text)
  match spellings.lookup name with
  | some e => .ok e
  | none => .error name

end Environment

/-- `ApiConfig`, with times in milliseconds. -/
structure Connection where
  /-- the base URL -/
  address : String
  /-- until the connection stands -/
  connectTimeout : Nat := 30000
  /-- until the response is complete -/
  exchangeTimeout : Nat := 60000
deriving Repr, DecidableEq

/-- `ApiConfig` of a deployment, with the timeouts that none of them changes. -/
def Environment.connection (e : Environment) : Connection :=
  { address := e.address }

/-- `DiscoverySettings`: how `DiscoveryController` asks for candidates. -/
structure Paging where
  /-- how many candidates are asked for at a time -/
  pageSize : UInt32 := 10
  /-- the next page is asked for when no more candidates than this are left -/
  threshold : Nat := 2
deriving Repr, DecidableEq

end Rendezvous.Service
