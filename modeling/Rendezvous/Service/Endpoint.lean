/-
`Endpoint`: the requests that the service understands, and how `ApiClient` writes one.

An endpoint is a value: what is asked for, and nothing about when or over which connection. Its
method, its path and its body follow from it. The four enums `AuthEndpoint`, `ProfileEndpoint`,
`DiscoverEndpoint` and `ChatEndpoint` are one type here, since nothing depends on which of them an
endpoint comes from.

The path is put behind the base URL as it is, so an identifier takes part in the reading of the
whole URL: a slash, a question mark or a dot segment in it is read as such.
-/
import Rendezvous.Service.Failure
import Rendezvous.Wire.Chat
import Rendezvous.Wire.Discovery
import Rendezvous.Wire.Profile

set_option autoImplicit false

namespace Rendezvous.Service

open Web (Method Url Request Headers)

/-- An endpoint of any of the four enums, with what its request carries. One type is enough, since
`execute` treats them all alike. -/
inductive Endpoint
  | register (credentials : Wire.Credentials)
  | logIn (credentials : Wire.Credentials)
  /-- `AuthEndpoint::Refresh` -/
  | renew (renewal : Wire.Renewal)
  | profile
  | updateProfile (update : Wire.ProfileUpdate)
  /-- `DiscoverEndpoint::Profiles`: the next candidates, at most this many -/
  | candidates (limit : UInt32)
  | swipe (decision : Wire.Swipe)
  | matchList
  | conversations
  | conversation (id : String)
  /-- `ChatEndpoint::SendMessage` -/
  | send (conversationId : String) (draft : Wire.Draft)
deriving DecidableEq

namespace Endpoint

/-- `Endpoint::method`. -/
def method : Endpoint → Method
  | register _ | logIn _ | renew _ | swipe _ | send .. => .post
  | updateProfile _ => .put
  | profile | candidates _ | matchList | conversations | conversation _ => .get

/-- `Endpoint::path`: what comes behind the base URL. An identifier is not escaped, so a slash or a
question mark in it changes the route. -/
def path : Endpoint → String
  | register _ => "/auth/register"
  | logIn _ => "/auth/login"
  | renew _ => "/auth/refresh"
  | profile | updateProfile _ => "/profile"
  | candidates limit => "/discover?limit=" ++ String.ofList (Nat.toDigits 10 limit.toNat)
  | swipe _ => "/swipe"
  | matchList => "/matches"
  | conversations => "/conversations"
  | conversation id => "/conversations/" ++ id
  | send id _ => "/conversations/" ++ id ++ "/messages"

/-! The paths that have something of the endpoint in them. -/

theorem toList_path_candidates (limit : UInt32) :
    (candidates limit).path.toList = "/discover?limit=".toList ++ Nat.toDigits 10 limit.toNat :=
  String.toList_append.trans (congrArg _ String.toList_ofList)

theorem toList_path_conversation (id : String) :
    (conversation id).path.toList = "/conversations/".toList ++ id.toList :=
  String.toList_append

theorem toList_path_send (id : String) (draft : Wire.Draft) :
    (send id draft).path.toList =
      "/conversations/".toList ++ (id.toList ++ "/messages".toList) := by
  have hpath : (send id draft).path = "/conversations/" ++ id ++ "/messages" := rfl
  rw [hpath, String.toList_append, String.toList_append, List.append_assoc]

/-- `Endpoint::body`. A body goes through a JSON value before it is written, so its members are in
the order of their names and not in the order of the fields. -/
def body : Endpoint → Option Json
  | register credentials | logIn credentials =>
    some (Wire.Credentials.codec.toJson credentials).sorted
  | renew renewal => some (Wire.Renewal.codec.toJson renewal).sorted
  | updateProfile update => some (Wire.ProfileUpdate.codec.toJson update).sorted
  | swipe decision => some (Wire.Swipe.codec.toJson decision).sorted
  | send _ draft => some (Wire.Draft.codec.toJson draft).sorted
  | profile | candidates _ | matchList | conversations | conversation _ => none

end Endpoint

/-- `trim_end_matches('/')`. -/
def withoutEndSlashes (text : List Char) : List Char :=
  (text.reverse.dropWhile (· == '/')).reverse

/-- The text that `resolve` has parsed: the base URL without the slashes at its end, and the path.
The whole text is parsed at once rather than joined to a parsed base, which would drop the path of
the base. -/
def addressText (base : String) (e : Endpoint) : String :=
  String.ofList (withoutEndSlashes base.toList ++ e.path.toList)

/-- `ApiClient::resolve`. A text that is no URL is an error that names the text and the reason. -/
def resolve (base : String) (e : Endpoint) : Except Failure Url :=
  match Url.parse (addressText base e).toList with
  | .ok url => .ok url
  | .error why => .error (.badAddress (addressText base e ++ ": " ++ why.message))

/-- The headers that `build_request` puts on every request. The token of the session comes last, if
there is one; without a token the request is sent all the same. -/
def headers (token : Option String) : Headers :=
  [("Content-Type", "application/json"), ("Accept", "application/json")] ++
    match token with
    | some t => [("Authorization", "Bearer " ++ t)]
    | none => []

/-- The request of `build_request` for an endpoint whose URL has been resolved. -/
def requestAt (url : Url) (token : Option String) (e : Endpoint) : Request where
  method := e.method
  url := url
  headers := headers token
  body := e.body.map Json.text

end Rendezvous.Service
