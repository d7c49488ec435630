/-
`UserProfile` and `ProfileUpdate`: the own profile, and the changes to it that can be asked for.

The identifier and the email address belong to the server, so an update has no field for them. An
update names only what it sets: a field that is not set is left out of the body, since a `null`
there would clear it.
-/
import Rendezvous.Wire.Instant

set_option autoImplicit false

namespace Rendezvous.Wire

open Json (Codec Field Fields)

/-- `Gender`. -/
inductive Gender
  | male
  | female
  | other
deriving Repr, DecidableEq

namespace Gender

/-- Every gender, in the order they are offered. -/
def all : List Gender := [male, female, other]

/-- The name on the wire. -/
def name : Gender → String
  | male => "male"
  | female => "female"
  | other => "other"

/-- `display_name`: the label that a user sees. -/
def label : Gender → String
  | male => "Male"
  | female => "Female"
  | other => "Other"

def codec : Codec Gender := .choice name all

end Gender

/-- `UserProfile`. -/
structure Profile where
  id : String
  email : String
  displayName : Option String
  bio : Option String
  birthDate : Option Time.Timestamp
  gender : Option Gender
  interests : List String
  photos : List String
deriving DecidableEq

/-- `age_on`: the age in whole years on a day. There is none without a birth date, and none before
it. -/
def Profile.ageOn (p : Profile) (today : Time.Date) : Option Nat :=
  p.birthDate.bind fun t => today.yearsSince t.date

def Profile.codec : Codec Profile :=
  .record "UserProfile"
    (.more (.required "id" .text) <| .more (.required "email" .text) <|
      .more (.optional "display_name" .text) <| .more (.optional "bio" .text) <|
      .more (.optional "birth_date" instant) <| .more (.optional "gender" Gender.codec) <|
      .more (.defaulted "interests" (.list .text) []) <|
      .more (.defaulted "photos" (.list .text) []) .done)
    (fun (id, email, displayName, bio, birthDate, gender, interests, photos, ()) =>
      ⟨id, email, displayName, bio, birthDate, gender, interests, photos⟩)
    (fun p => (p.id, p.email, p.displayName, p.bio, p.birthDate, p.gender, p.interests,
      p.photos, ()))

/-- `ProfileUpdate`: `none` leaves a field of the profile as it is. -/
structure ProfileUpdate where
  displayName : Option String := none
  bio : Option String := none
  birthDate : Option Time.Timestamp := none
  gender : Option Gender := none
  interests : Option (List String) := none
deriving DecidableEq

/-- A field that is `none` is left out when it is written (`skip_serializing_if`). -/
def ProfileUpdate.codec : Codec ProfileUpdate :=
  .record "ProfileUpdate"
    (.more (.ifSet "display_name" .text) <| .more (.ifSet "bio" .text) <|
      .more (.ifSet "birth_date" instant) <| .more (.ifSet "gender" Gender.codec) <|
      .more (.ifSet "interests" (.list .text)) .done)
    (fun (displayName, bio, birthDate, gender, interests, ()) =>
      ⟨displayName, bio, birthDate, gender, interests⟩)
    (fun u => (u.displayName, u.bio, u.birthDate, u.gender, u.interests, ()))

end Rendezvous.Wire
