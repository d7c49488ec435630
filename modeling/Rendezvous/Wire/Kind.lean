/-
The kinds of value that travel, by name.

What holds for every record (a value is recovered from its encoding, the order of members does not
matter) is stated once, over this list, and so are the operations that are told a kind by its name.
-/
import Rendezvous.Wire.Account
import Rendezvous.Wire.Chat
import Rendezvous.Wire.Discovery
import Rendezvous.Wire.Profile

set_option autoImplicit false

namespace Rendezvous.Wire

/-- A kind of value that travels: one of the records of `models`, or one of its two enumerations. -/
inductive Kind
  | credentials
  | renewal
  | tokenPair
  | gender
  | profile
  | profileUpdate
  | candidate
  | page
  | direction
  | swipe
  | swipeResult
  | matched
  | matchList
  | participant
  | conversation
  | message
  | conversationList
  | transcript
  | draft
deriving Repr, DecidableEq

namespace Kind

/-- Every kind. -/
def all : List Kind :=
  [credentials, renewal, tokenPair, gender, profile, profileUpdate, candidate, page, direction,
    swipe, swipeResult, matched, matchList, participant, conversation, message, conversationList,
    transcript, draft]

/-- The name of a kind: that of its type, which error messages of the reader use as well. -/
def name : Kind → String
  | credentials => "CredentialsRequest"
  | renewal => "RefreshRequest"
  | tokenPair => "AuthResponse"
  | gender => "Gender"
  | profile => "UserProfile"
  | profileUpdate => "ProfileUpdate"
  | candidate => "DiscoverProfile"
  | page => "DiscoverResponse"
  | direction => "SwipeDirection"
  | swipe => "SwipeRequest"
  | swipeResult => "SwipeResponse"
  | matched => "Match"
  | matchList => "MatchesResponse"
  | participant => "ConversationParticipant"
  | conversation => "Conversation"
  | message => "Message"
  | conversationList => "ConversationsResponse"
  | transcript => "ConversationResponse"
  | draft => "SendMessageRequest"

/-- The kind with a name. -/
def named? (name : String) : Option Kind :=
  all.find? fun k => k.name == name

/-- The type of the values of a kind. -/
@[reducible]
def Carrier : Kind → Type
  | credentials => Credentials
  | renewal => Renewal
  | tokenPair => TokenPair
  | gender => Gender
  | profile => Profile
  | profileUpdate => ProfileUpdate
  | candidate => Candidate
  | page => Page
  | direction => Direction
  | swipe => Swipe
  | swipeResult => SwipeResult
  | matched => Match
  | matchList => MatchList
  | participant => Participant
  | conversation => Conversation
  | message => Message
  | conversationList => ConversationList
  | transcript => Transcript
  | draft => Draft

/-- How the values of a kind are written and read. -/
def codec : (k : Kind) → Json.Codec k.Carrier
  | credentials => Credentials.codec
  | renewal => Renewal.codec
  | tokenPair => TokenPair.codec
  | gender => Gender.codec
  | profile => Profile.codec
  | profileUpdate => ProfileUpdate.codec
  | candidate => Candidate.codec
  | page => Page.codec
  | direction => Direction.codec
  | swipe => Swipe.codec
  | swipeResult => SwipeResult.codec
  | matched => Match.codec
  | matchList => MatchList.codec
  | participant => Participant.codec
  | conversation => Conversation.codec
  | message => Message.codec
  | conversationList => ConversationList.codec
  | transcript => Transcript.codec
  | draft => Draft.codec

end Kind

end Rendezvous.Wire
