/-
How the screens look in the terminal.

A view is text without a line break at its end. The error of a screen, if it has one, stands on a
line of its own below the data, which is still there: an error never hides what was loaded before.
-/
import Rendezvous.Client.Screens
import Rendezvous.Decimal.Places

set_option autoImplicit false

namespace Rendezvous.Terminal

open Client (Deck Inbox OwnProfile Session Thread)

/-- `with_error`. -/
def withError (view : String) : Option String → String
  | some error => view ++ "\nError: " ++ error
  | none => view

/-- Lines, or another text if there are none. -/
def listed (none : String) (lines : List String) : String :=
  if lines.isEmpty then none else String.intercalate "\n" lines

/-- A text on an indented line of its own, if it is there. -/
def below : Option String → String
  | some text => "\n  " ++ text
  | none => ""

/-- `App::status`. -/
def statusView (s : Session) (address : String) : String :=
  (if s.authenticated then "Logged in" else "Logged out") ++ " (" ++ address ++ ")"

/-- `App::session_result`: what a login, a logout or a refresh came to. -/
def sessionView (success : String) (s : Session) : String :=
  match s.error with
  | some error => "Error: " ++ error
  | none => success

/-- `render_candidate`, with the number of cards from this one on. -/
def candidateView (c : Wire.Candidate) (remaining : Nat) : String :=
  let distance := match c.distanceKm with
    | some km => " (" ++ Decimal.fixed 1 km ++ " km)"
    | none => ""
  c.displayName ++ ", " ++ toString c.age.toNat ++ distance ++ below c.bio ++
    "\n  [" ++ toString remaining ++ " left in deck]"

/-- `App::deck`: the card on top, below the news of a match that has not been acknowledged. -/
def deckView (d : Deck) : String :=
  let news := match d.pendingMatch with
    | some m => "It's a match with " ++ m.displayName ++ "! Type 'dismiss' to continue\n"
    | none => ""
  let top := match d.current? with
    | some c => candidateView c d.remaining
    | none =>
      if d.loading then "Loading more profiles..."
      else "No more profiles. Type 'deck' to check again"
  withError (news ++ top) d.error

/-- A line of `render_matches`. -/
def matchLine (m : Wire.Match) : String :=
  "  " ++ m.displayName ++ " (since " ++ String.ofList m.matchedAt.date.text ++ ")"

/-- `render_matches`, with the error of the screen. -/
def matchesView (d : Deck) : String :=
  withError (listed "No matches yet" (d.foundMatches.map matchLine)) d.error

/-- A line of `render_conversations`: what is unread, and what was said last. -/
def conversationLine (c : Wire.Conversation) : String :=
  let unread := if c.unreadCount = 0 then "" else " [" ++ toString c.unreadCount.toNat ++ "]"
  "  " ++ c.id ++ "  " ++ c.participant.displayName ++ unread ++ ": " ++
    (c.lastMessage.map Wire.Message.content).getD ""

/-- `render_conversations`, with the error of the screen. -/
def inboxView (i : Inbox) : String :=
  withError (listed "No conversations" (i.conversations.map conversationLine)) i.error

/-- A line of `render_messages`. The clock is the one in UTC, since nothing is known of where the
sender lives. -/
def messageLine (m : Wire.Message) : String :=
  "  [" ++ String.ofList m.sentAt.clock ++ "] " ++ m.senderId ++ ": " ++ m.content

/-- `render_messages`, with the error of the screen. -/
def threadView (t : Thread) : String :=
  withError (listed "No messages" (t.messages.map messageLine)) t.error

/-- `render_profile`, with the day on which the age is counted. The day is an argument here, where
`render_profile` asks the clock for it. -/
def profileText (today : Time.Date) (p : Wire.Profile) : String :=
  let age := match p.ageOn today with
    | some years => ", " ++ toString years
    | none => ""
  let gender := match p.gender with
    | some g => " (" ++ g.label ++ ")"
    | none => ""
  let interests :=
    if p.interests.isEmpty then none
    else some ("Interests: " ++ String.intercalate ", " p.interests)
  p.displayName.getD p.email ++ age ++ gender ++ below p.bio ++ below interests

/-- `App::profile_view`. -/
def ownView (today : Time.Date) (o : OwnProfile) : String :=
  withError ((o.profile.map (profileText today)).getD "No profile loaded") o.error

end Rendezvous.Terminal
