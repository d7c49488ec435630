/-
The states of the five controllers: `SessionState`, `DiscoveryState`, `ChatListState`,
`ChatDetailState` and `ProfileState`.

Each of them has data, one or two loading flags, and the message of what went wrong last. A request
raises its flag and drops the message; its end lowers the flag and either brings data or leaves a
message. The functions here are those transitions, one for each closure that a controller passes to
`StateCell::update`, each from a whole state to a whole state. They are kept apart from the
operations that make them, because the invariants of a screen are facts about these few functions,
and not about their callers.
-/
import Rendezvous.Wire.Chat
import Rendezvous.Wire.Discovery
import Rendezvous.Wire.Profile

set_option autoImplicit false

namespace Rendezvous.Client

/-! ## The session -/

/-- `SessionState`. The flag says that an access token was there when the store was last looked at
or written to; it is not derived from the store, and that the two agree is a theorem about the runs
of a client. -/
structure Session where
  authenticated : Bool := false
  loading : Bool := false
  error : Option String := none
deriving Repr, DecidableEq

namespace Session

/-- Tokens are there. -/
def opened (s : Session) : Session :=
  { s with authenticated := true }

/-- Tokens are being asked for. -/
def asking (s : Session) : Session :=
  { s with loading := true, error := none }

/-- Tokens came and have been stored. -/
def granted (s : Session) : Session :=
  { s with authenticated := true, loading := false }

/-- No tokens came. -/
def denied (message : String) (s : Session) : Session :=
  { s with error := some message, loading := false }

/-- An operation was not even begun: there is no refresh token. No flag was raised for it, so none
is lowered. -/
def blocked (message : String) (s : Session) : Session :=
  { s with error := some message }

/-- The tokens were forgotten, or could not be. The flag goes down either way, which is what
`logout` promises to the person at the terminal. -/
def closed (problem : Option String) (s : Session) : Session :=
  { s with authenticated := false, error := problem }

end Session

/-! ## The deck of candidates -/

/-- `DiscoveryState`: a page of candidates, and how far it has been decided about. -/
structure Deck where
  /-- the page at hand -/
  candidates : List Wire.Candidate := []
  /-- how many of them have been decided about; a page is worked through from its first card on -/
  cursor : Nat := 0
  loading : Bool := false
  error : Option String := none
  /-- a new match, until it has been acknowledged -/
  pendingMatch : Option Wire.Match := none
  foundMatches : List Wire.Match := []
  loadingMatches : Bool := false

namespace Deck

/-- `DiscoveryState::current_profile`: the candidate to decide about next. There is none when the
page has been worked through, and none before the first page. -/
def current? (d : Deck) : Option Wire.Candidate :=
  d.candidates[d.cursor]?

/-- `DiscoveryState::remaining`. The subtraction is one of natural numbers, and it is never cut off:
the cursor stays within the page (`deck_follows_history`). -/
def remaining (d : Deck) : Nat :=
  d.candidates.length - d.cursor

/-- `begin_loading`: raise the flag of the page, unless it is up. The test and the change are one
transition of the cell, so of two callers only one gets the page. -/
def claim? (d : Deck) : Option Deck :=
  if d.loading then none else some { d with loading := true, error := none }

/-- A page came. It replaces the one that was there, decided or not, and the cursor starts again. -/
def dealt (page : Wire.Page) (d : Deck) : Deck :=
  { d with candidates := page.profiles, cursor := 0, loading := false }

/-- No page came. -/
def notDealt (message : String) (d : Deck) : Deck :=
  { d with error := some message, loading := false }

/-- A decision is on its way. It has no flag, so decisions may overlap. -/
def deciding (d : Deck) : Deck :=
  { d with error := none }

/-- A decision did not arrive. -/
def undecided (message : String) (d : Deck) : Deck :=
  { d with error := some message }

/-- A decision about a candidate arrived. The deck moves on only if that candidate is still on top:
another page may have come meanwhile, and then the decision was about none of its cards. -/
def decided (candidateId : String) (result : Wire.SwipeResult) (d : Deck) : Deck :=
  { d with
    pendingMatch := result.matched.or d.pendingMatch
    cursor :=
      if (d.current?.map Wire.Candidate.id) = some candidateId then d.cursor + 1 else d.cursor }

/-- The new match was acknowledged (`dismiss_match`). -/
def noted (d : Deck) : Deck :=
  { d with pendingMatch := none }

/-- The matches are being asked for. -/
def askingMatches (d : Deck) : Deck :=
  { d with loadingMatches := true, error := none }

/-- The matches came. -/
def matchesCame (list : Wire.MatchList) (d : Deck) : Deck :=
  { d with foundMatches := list.found, loadingMatches := false }

/-- The matches did not come. -/
def matchesStayedAway (message : String) (d : Deck) : Deck :=
  { d with error := some message, loadingMatches := false }

end Deck

/-! ## The conversations -/

/-- `ChatListState`: all conversations, as the last answer had them. -/
structure Inbox where
  conversations : List Wire.Conversation := []
  loading : Bool := false
  error : Option String := none
deriving DecidableEq

namespace Inbox

/-- The conversations are being asked for. -/
def asking (i : Inbox) : Inbox :=
  { i with loading := true, error := none }

/-- The conversations came. Every load is a full snapshot, so nothing is merged. -/
def filled (list : Wire.ConversationList) (i : Inbox) : Inbox :=
  { i with conversations := list.conversations, loading := false }

/-- The conversations did not come. -/
def notFilled (message : String) (i : Inbox) : Inbox :=
  { i with error := some message, loading := false }

end Inbox

/-! ## One conversation -/

/-- `ChatDetailState`: one conversation with its messages. Loading and sending have a flag each,
since a message may be sent while the conversation is being loaded again. -/
structure Thread where
  conversation : Option Wire.Conversation := none
  messages : List Wire.Message := []
  loading : Bool := false
  sending : Bool := false
  error : Option String := none
deriving DecidableEq

namespace Thread

/-- The conversation is being asked for. -/
def asking (t : Thread) : Thread :=
  { t with loading := true, error := none }

/-- The conversation came. Its messages replace those that were there, including any that have been
sent since it was asked for. -/
def shown (transcript : Wire.Transcript) (t : Thread) : Thread :=
  { t with
    conversation := some transcript.conversation
    messages := transcript.messages
    loading := false }

/-- The conversation did not come. -/
def notShown (message : String) (t : Thread) : Thread :=
  { t with error := some message, loading := false }

/-- A message is on its way. -/
def posting (t : Thread) : Thread :=
  { t with sending := true, error := none }

/-- A message was accepted. It is appended the way the server returned it, and before that it is
nowhere: there is no local echo. -/
def posted (m : Wire.Message) (t : Thread) : Thread :=
  { t with messages := t.messages ++ [m], sending := false }

/-- A message did not arrive. -/
def notPosted (message : String) (t : Thread) : Thread :=
  { t with error := some message, sending := false }

end Thread

/-! ## The own profile -/

/-- `ProfileState`: the member's own profile. Loading and updating share one flag, since both end in
the same way. -/
structure OwnProfile where
  profile : Option Wire.Profile := none
  loading : Bool := false
  error : Option String := none
deriving DecidableEq

namespace OwnProfile

/-- The profile is being asked for, or a change to it. -/
def asking (o : OwnProfile) : OwnProfile :=
  { o with loading := true, error := none }

/-- The profile came. -/
def adopted (p : Wire.Profile) (o : OwnProfile) : OwnProfile :=
  { o with profile := some p, loading := false }

/-- The profile did not come. -/
def notAdopted (message : String) (o : OwnProfile) : OwnProfile :=
  { o with error := some message, loading := false }

end OwnProfile

end Rendezvous.Client
