/-
`HttpRequest`, `HttpResponse` and `HttpMethod`, as far as the client looks into them.

The transport between them is no part of the program: an operation hands a request over and takes up
an answer, and what happens on the way is not modelled.
-/
import Rendezvous.Text.Blank
import Rendezvous.Web.Url

set_option autoImplicit false

namespace Rendezvous.Web

/-- `HttpMethod`. -/
inductive Method
  | get
  | post
  | put
  | patch
  | delete
deriving Repr, DecidableEq

namespace Method

/-- Every method. -/
def all : List Method := [get, post, put, patch, delete]

/-- The name in a request. -/
def name : Method → String
  | get => "GET"
  | post => "POST"
  | put => "PUT"
  | patch => "PATCH"
  | delete => "DELETE"

/-- The method with a name. -/
def named? (name : String) : Option Method :=
  all.find? fun m => m.name == name

end Method

/-- Names and values, in the order they are sent. -/
abbrev Headers : Type :=
  List (String × String)

/-- `HttpRequest::header`: the value of the first header with a name; the case of ASCII letters does
not count. -/
def Headers.value? (headers : Headers) (name : String) : Option String :=
  (headers.find? fun h => Text.sameIgnoringAsciiCase h.1 name).map Prod.snd

/-- `HttpRequest`: a request that is ready to be sent. -/
structure Request where
  method : Method
  url : Url
  headers : Headers
  body : Option String
deriving DecidableEq

/-- `HttpResponse`. Its headers are not kept, since nothing asks for them. -/
structure Response where
  status : UInt16
  body : List UInt8
deriving DecidableEq

/-- `is_success`: 200 to 299 and nothing else. -/
def isSuccess (status : UInt16) : Bool :=
  200 ≤ status && status ≤ 299

end Rendezvous.Web
