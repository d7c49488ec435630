/-
`DiscoverProfile`, `SwipeRequest`, `Match` and the records they travel in.

Candidates come in pages. A swipe names one candidate and a direction, and its answer carries a
match if the liking was mutual; the member is called `match` on the wire and may be absent.
-/
import Rendezvous.Wire.Instant

set_option autoImplicit false

namespace Rendezvous.Wire

open Json (Codec Field Fields)

/-- `DiscoverProfile`. -/
structure Candidate where
  id : String
  displayName : String
  age : UInt32
  bio : Option String
  /-- addresses of photos, the first one first -/
  photos : List String
  /-- any number of the wire; it is shown with one digit after the point -/
  distanceKm : Option Float

/-- `DiscoverResponse`. -/
structure Page where
  profiles : List Candidate

/-- `SwipeDirection`. -/
inductive Direction
  | like
  | pass
  | superLike
deriving Repr, DecidableEq

namespace Direction

/-- Every direction. -/
def all : List Direction := [like, pass, superLike]

/-- The name on the wire. -/
def name : Direction → String
  | like => "like"
  | pass => "pass"
  | superLike => "super_like"

def codec : Codec Direction := .choice name all

end Direction

/-- `SwipeRequest`. -/
structure Swipe where
  swipedId : String
  direction : Direction
deriving Repr, DecidableEq

/-- `Match`. -/
structure Match where
  id : String
  /-- the other member -/
  memberId : String
  displayName : String
  photoUrl : Option String
  matchedAt : Time.Timestamp
deriving DecidableEq

/-- `SwipeResponse`. -/
structure SwipeResult where
  matched : Option Match
deriving DecidableEq

/-- `MatchesResponse`. -/
structure MatchList where
  found : List Match
deriving DecidableEq

/-- A candidate without photos may leave the member out; a candidate without a distance may, too. -/
def Candidate.codec : Codec Candidate :=
  .record "DiscoverProfile"
    (.more (.required "id" .text) <| .more (.required "display_name" .text) <|
      .more (.required "age" .u32) <| .more (.optional "bio" .text) <|
      .more (.defaulted "photos" (.list .text) []) <| .more (.optional "distance_km" .f64) .done)
    (fun (id, displayName, age, bio, photos, distanceKm, ()) =>
      ⟨id, displayName, age, bio, photos, distanceKm⟩)
    (fun c => (c.id, c.displayName, c.age, c.bio, c.photos, c.distanceKm, ()))

def Page.codec : Codec Page :=
  .record "DiscoverResponse" (.more (.required "profiles" (.list Candidate.codec)) .done)
    (fun (profiles, ()) => ⟨profiles⟩)
    (fun p => (p.profiles, ()))

def Swipe.codec : Codec Swipe :=
  .record "SwipeRequest"
    (.more (.required "swiped_id" .text) <| .more (.required "direction" Direction.codec) .done)
    (fun (swipedId, direction, ()) => ⟨swipedId, direction⟩)
    (fun s => (s.swipedId, s.direction, ()))

def Match.codec : Codec Match :=
  .record "Match"
    (.more (.required "id" .text) <| .more (.required "member_id" .text) <|
      .more (.required "display_name" .text) <| .more (.optional "photo_url" .text) <|
      .more (.required "matched_at" instant) .done)
    (fun (id, memberId, displayName, photoUrl, matchedAt, ()) =>
      ⟨id, memberId, displayName, photoUrl, matchedAt⟩)
    (fun m => (m.id, m.memberId, m.displayName, m.photoUrl, m.matchedAt, ()))

def SwipeResult.codec : Codec SwipeResult :=
  .record "SwipeResponse" (.more (.defaulted "match" Match.codec.nullable none) .done)
    (fun (matched, ()) => ⟨matched⟩)
    (fun r => (r.matched, ()))

def MatchList.codec : Codec MatchList :=
  .record "MatchesResponse" (.more (.required "matches" (.list Match.codec)) .done)
    (fun (found, ()) => ⟨found⟩)
    (fun l => (l.found, ()))

end Rendezvous.Wire
