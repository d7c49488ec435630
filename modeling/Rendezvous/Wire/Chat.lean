/-
`Conversation`, `Message` and the records they travel in.

A conversation in a list is only its header: the other member, the last message and the number of
unread ones. All its messages come with `ConversationResponse`, and a message that was sent comes
back as the server has stored it.
-/
import Rendezvous.Wire.Instant

set_option autoImplicit false

namespace Rendezvous.Wire

open Json (Codec Field Fields)

/-- `ConversationParticipant`: the other member of a conversation. -/
structure Participant where
  id : String
  displayName : String
  photoUrl : Option String
deriving Repr, DecidableEq

/-- `Message`. -/
structure Message where
  id : String
  senderId : String
  content : String
  sentAt : Time.Timestamp
  /-- when the other member read it, if that has happened -/
  readAt : Option Time.Timestamp
deriving DecidableEq

/-- `is_read`. -/
def Message.isRead (m : Message) : Bool :=
  m.readAt.isSome

/-- `Conversation`: the header of a conversation. -/
structure Conversation where
  id : String
  participant : Participant
  lastMessage : Option Message
  unreadCount : UInt32
deriving DecidableEq

/-- `ConversationsResponse`. -/
structure ConversationList where
  conversations : List Conversation
deriving DecidableEq

/-- `ConversationResponse`: a conversation with all its messages, the oldest one first. -/
structure Transcript where
  conversation : Conversation
  messages : List Message
deriving DecidableEq

/-- `SendMessageRequest`. -/
structure Draft where
  content : String
deriving Repr, DecidableEq

def Participant.codec : Codec Participant :=
  .record "ConversationParticipant"
    (.more (.required "id" .text) <| .more (.required "display_name" .text) <|
      .more (.optional "photo_url" .text) .done)
    (fun (id, displayName, photoUrl, ()) => ⟨id, displayName, photoUrl⟩)
    (fun p => (p.id, p.displayName, p.photoUrl, ()))

def Message.codec : Codec Message :=
  .record "Message"
    (.more (.required "id" .text) <| .more (.required "sender_id" .text) <|
      .more (.required "content" .text) <| .more (.required "sent_at" instant) <|
      .more (.optional "read_at" instant) .done)
    (fun (id, senderId, content, sentAt, readAt, ()) => ⟨id, senderId, content, sentAt, readAt⟩)
    (fun m => (m.id, m.senderId, m.content, m.sentAt, m.readAt, ()))

def Conversation.codec : Codec Conversation :=
  .record "Conversation"
    (.more (.required "id" .text) <| .more (.required "participant" Participant.codec) <|
      .more (.optional "last_message" Message.codec) <|
      .more (.required "unread_count" .u32) .done)
    (fun (id, participant, lastMessage, unreadCount, ()) =>
      ⟨id, participant, lastMessage, unreadCount⟩)
    (fun c => (c.id, c.participant, c.lastMessage, c.unreadCount, ()))

def ConversationList.codec : Codec ConversationList :=
  .record "ConversationsResponse"
    (.more (.required "conversations" (.list Conversation.codec)) .done)
    (fun (conversations, ()) => ⟨conversations⟩)
    (fun l => (l.conversations, ()))

def Transcript.codec : Codec Transcript :=
  .record "ConversationResponse"
    (.more (.required "conversation" Conversation.codec) <|
      .more (.required "messages" (.list Message.codec)) .done)
    (fun (conversation, messages, ()) => ⟨conversation, messages⟩)
    (fun t => (t.conversation, t.messages, ()))

def Draft.codec : Codec Draft :=
  .record "SendMessageRequest" (.more (.required "content" .text) .done)
    (fun (content, ()) => ⟨content⟩)
    (fun d => (d.content, ()))

end Rendezvous.Wire
