/-
An exchange: what has come in a conversation since it was opened.

`Talk` follows the messages of a conversation along the history of the client. Here the same is told
from the outside, from what was asked and what was answered, and without a word on how the client
keeps it: an exchange begins empty, a transcript replaces its messages, a message that has arrived
is put behind them, and an answer that brings nothing leaves its error until something else is
asked. An answer counts only if it was asked for this conversation.

`Recounts` says that an open conversation shows an exchange. `load_conversation` and `send_message`
keep it (`Recounts.loadThread`, `Recounts.send`), and so does every answer to them
(`Recounts.conclude`); nothing else touches it. And a message is in an exchange only because an
answer has brought it there (`Exchange.mem_hear`).
-/
import Rendezvous.Proofs.Client.Failing
import Rendezvous.Proofs.Client.Talk

set_option autoImplicit false

namespace Rendezvous.Client

open Credential (Storage)
open Service (Endpoint Failure)
open Web (Response)

variable {σ : Type} {c c' : Client σ} {room : Nat}

/-! ## Exchanges -/

/-- The conversation that an endpoint is about. -/
def about? : Endpoint → Option String
  | .conversation id | .send id _ => some id
  | _ => none

/-- An answer brings a message: it is the message that was sent, or in the transcript that was asked
for. -/
def Brings (e : Endpoint) (result : Except Failure Response) (m : Wire.Message) : Prop :=
  match e with
  | .conversation _ => ∃ transcript, received Wire.Transcript.codec result = some transcript ∧
      m ∈ transcript.messages
  | .send .. => received Wire.Message.codec result = some m
  | _ => False

/-- What has come in a conversation, and what went wrong last. -/
structure Exchange where
  conversationId : String
  messages : List Wire.Message := []
  error : Option String := none

namespace Exchange

/-- An answer that has brought a value, or none. -/
def take {α : Type} (add : α → List Wire.Message → List Wire.Message) (r : Except Failure α)
    (x : Exchange) : Exchange :=
  match r with
  | .ok a => { x with messages := add a x.messages }
  | .error why => { x with error := some why.userMessage }

/-- An endpoint is answered. An answer about another conversation changes nothing in this one. -/
def hear (e : Endpoint) (result : Except Failure Response) (x : Exchange) : Exchange :=
  if about? e = some x.conversationId then
    match e with
    | .conversation _ =>
      x.take (fun transcript _ => transcript.messages) (reading Wire.Transcript.codec result)
    | .send .. => x.take (fun m old => old ++ [m]) (reading Wire.Message.codec result)
    | _ => x
  else x

/-- An endpoint is asked for. If its URL cannot be resolved, that is the answer. -/
def ask (address : String) (e : Endpoint) (x : Exchange) : Exchange :=
  match Service.resolve address e with
  | .ok _ => { x with error := none }
  | .error why => { x with error := none }.hear e (.error why)

variable {x : Exchange}

theorem conversationId_take {α : Type} (add : α → List Wire.Message → List Wire.Message)
    (r : Except Failure α) (x : Exchange) : (x.take add r).conversationId = x.conversationId := by
  rcases r with why | a
  · rfl
  · rfl

theorem conversationId_hear (e : Endpoint) (result : Except Failure Response) (x : Exchange) :
    (x.hear e result).conversationId = x.conversationId := by
  unfold hear
  split
  · split
    · exact conversationId_take ..
    · exact conversationId_take ..
    · rfl
  · rfl

theorem conversationId_ask (address : String) (e : Endpoint) (x : Exchange) :
    (x.ask address e).conversationId = x.conversationId := by
  unfold ask
  split
  · rfl
  · exact conversationId_hear ..

/-- An answer to something else is not heard. -/
theorem hear_of_not_about {e : Endpoint} (h : about? e ≠ some x.conversationId)
    (result : Except Failure Response) : x.hear e result = x :=
  if_neg h

/-- **A message is there only if an answer brought it**, one that was asked for the conversation.
This is the step of the induction that traces a printed message back to the answer it came with. -/
theorem mem_hear {e : Endpoint} {result : Except Failure Response} {m : Wire.Message}
    (hm : m ∈ (x.hear e result).messages) :
    m ∈ x.messages ∨ about? e = some x.conversationId ∧ Brings e result m := by
  by_cases habout : about? e = some x.conversationId
  · unfold hear at hm
    rw [if_pos habout] at hm
    cases e with
    -- a transcript takes the place of all messages, and a sent message is added to them
    | conversation id =>
      rcases hreading : reading Wire.Transcript.codec result with why | transcript
      · rw [hreading] at hm
        exact .inl hm
      · rw [hreading] at hm
        exact .inr ⟨habout, transcript, received_of_reading hreading, hm⟩
    | send id draft =>
      rcases hreading : reading Wire.Message.codec result with why | m'
      · rw [hreading] at hm
        exact .inl hm
      · rw [hreading] at hm
        rcases List.mem_append.mp hm with hm | hm
        · exact .inl hm
        · rw [List.mem_singleton.mp hm]
          exact .inr ⟨habout, received_of_reading hreading⟩
    | _ => cases habout
  · rw [hear_of_not_about habout] at hm
    exact .inl hm

/-- Asking for something brings no message. -/
theorem messages_ask (address : String) (e : Endpoint) (x : Exchange) :
    (x.ask address e).messages = x.messages := by
  unfold ask hear
  split
  · rfl
  · split
    · cases e <;> rfl
    · rfl

end Exchange

/-! ## Recounting an exchange -/

/-- An open conversation shows an exchange. -/
def Recounts (room : Nat) (x : Exchange) (c : Client σ) : Prop :=
  ∃ r, c.rooms[room]? = some r ∧ r.conversationId = x.conversationId ∧
    r.thread.value.messages = x.messages ∧ r.thread.value.error = x.error

/-- What is asked for a conversation, and what the answer is for. -/
inductive Asks (room : Nat) (id : String) : Purpose → Endpoint → Prop
  | thread : Asks room id (.thread room) (.conversation id)
  | message (draft : Wire.Draft) : Asks room id (.message room) (.send id draft)

variable {x : Exchange}

theorem Asks.about {id : String} {purpose : Purpose} {e : Endpoint}
    (h : Asks room id purpose e) : about? e = some id := by
  cases h with
  | thread => rfl
  | message draft => rfl

/-- Asking for the conversation asks about it. -/
theorem asks_loadThread [Storage σ] {id : String} (hid : c.roomId room = id) {p : Pending}
    (he : (Operation.loadThread room).endpoint? c = some p.endpoint)
    (hb : p.purpose.business? = (Operation.loadThread room).business?) :
    Asks room id p.purpose p.endpoint := by
  obtain ⟨purpose, e, request⟩ := p
  obtain rfl : Endpoint.conversation (c.roomId room) = e := Option.some.inj he
  obtain rfl := Purpose.business?_eq_thread.mp hb
  rw [hid]
  exact .thread

/-- Sending a message asks about the conversation. -/
theorem asks_send [Storage σ] {id text : String} (hid : c.roomId room = id) {p : Pending}
    (he : (Operation.send room text).endpoint? c = some p.endpoint)
    (hb : p.purpose.business? = (Operation.send room text).business?) :
    Asks room id p.purpose p.endpoint := by
  obtain ⟨purpose, e, request⟩ := p
  simp only [Operation.endpoint?] at he
  split at he
  · cases he
  · obtain rfl : Endpoint.send (c.roomId room) ⟨Text.trimmed text⟩ = e := Option.some.inj he
    obtain rfl := Purpose.business?_eq_message.mp hb
    rw [hid]
    exact .message _

namespace Recounts

theorem roomId (h : Recounts room x c) : c.roomId room = x.conversationId := by
  obtain ⟨r, hr, hid, -, -⟩ := h
  rw [Client.roomId, hr]
  exact hid

theorem of_rooms_eq (h : Recounts room x c) (heq : c'.rooms[room]? = c.rooms[room]?) :
    Recounts room x c' := by
  obtain ⟨r, hr, hrest⟩ := h
  exact ⟨r, heq.trans hr, hrest⟩

theorem of_notes (h : Recounts room x c) (hn : Notes c c') : Recounts room x c' :=
  h.of_rooms_eq (by rw [hn.rooms])

/-- Publishing on the conversation. -/
theorem onThread (h : Recounts room x c) {f : Thread → Thread} {x' : Exchange}
    (hid : x'.conversationId = x.conversationId)
    (hf : ∀ t : Thread, t.messages = x.messages → t.error = x.error →
      (f t).messages = x'.messages ∧ (f t).error = x'.error) :
    Recounts room x' (c.onThread room f) := by
  obtain ⟨r, hr, hroom, hmessages, herror⟩ := h
  obtain ⟨hmessages', herror'⟩ := hf r.thread.value hmessages herror
  refine ⟨{ r with thread := r.thread.modify f }, ?_, hroom.trans hid.symm, hmessages', herror'⟩
  rw [getElem?_onThread_self, hr]
  rfl

variable [Storage σ]

/-- **An answer about the conversation** does to its state what it does to the exchange: the state
of `ChatDetailController` is the one that its own requests and their answers account for. -/
theorem conclude (h : Recounts room x c) {purpose : Purpose} {e : Endpoint}
    (ha : Asks room x.conversationId purpose e) (result : Except Failure Response) :
    Recounts room (x.hear e result) (c.conclude purpose e result).1 := by
  unfold Exchange.hear
  rw [if_pos ha.about]
  obtain ⟨c₁, hn, hn', _⟩ := conclude_spec purpose e result c
  refine of_notes ?_ hn'
  replace h := h.of_notes hn
  -- the account and the thread take in the same reading, and what cannot be read is an error in
  -- both
  cases ha with
  | thread =>
    rw [Purpose.reply]
    rcases reading Wire.Transcript.codec result with why | transcript
    · exact h.onThread (f := Thread.notShown why.userMessage) rfl fun t hm _ => ⟨hm, rfl⟩
    · exact h.onThread (f := Thread.shown transcript) rfl fun t _ he => ⟨rfl, he⟩
  | message draft =>
    rw [Purpose.reply]
    rcases reading Wire.Message.codec result with why | m
    · exact h.onThread (f := Thread.notPosted why.userMessage) rfl fun t hm _ => ⟨hm, rfl⟩
    · exact h.onThread (f := Thread.posted m) rfl fun t hm he => ⟨congrArg (· ++ [m]) hm, he⟩

/-- Asking drops the error of before, and if the URL cannot be resolved, there is a new one at
once. -/
theorem ask (h : Recounts room x c) {f : Thread → Thread}
    (hf : ∀ t, (f t).messages = t.messages ∧ (f t).error = none) {purpose : Purpose} {e : Endpoint}
    (ha : Asks room x.conversationId purpose e) :
    Recounts room (x.ask c.address e) ((c.onThread room f).ask e purpose).1 := by
  have hasked : Recounts room { x with error := none } (c.onThread room f) :=
    h.onThread rfl fun t hm _ => ⟨(hf t).1.trans hm, (hf t).2⟩
  rw [Exchange.ask]
  rcases ask_cases e purpose (c.onThread room f) with ⟨c', url, hn, hurl, hask⟩ | ⟨why, hwhy, hask⟩
  · have hurl : Service.resolve c.address e = .ok url := hurl
    rw [hask, hurl]
    exact hasked.of_notes hn
  · have hwhy : Service.resolve c.address e = .error why := hwhy
    rw [hask, hwhy]
    exact hasked.conclude ha (.error why)

theorem loadThread (h : Recounts room x c) :
    Recounts room (x.ask c.address (.conversation x.conversationId))
      (c.begin (.loadThread room)).1 := by
  simp only [begin]
  rw [h.roomId]
  exact h.ask (f := Thread.asking) (fun _ => ⟨rfl, rfl⟩) .thread

theorem send (h : Recounts room x c) {text : String}
    (hblank : (Text.trimmed text).isEmpty = false) :
    Recounts room (x.ask c.address (.send x.conversationId ⟨Text.trimmed text⟩))
      (c.begin (.send room text)).1 := by
  simp only [begin]
  rw [if_neg (by simp [hblank]), h.roomId]
  exact h.ask (f := Thread.posting) (fun _ => ⟨rfl, rfl⟩) (.message _)

/-- A message of which nothing is left is not asked about. -/
theorem send_blank (h : Recounts room x c) {text : String}
    (hblank : (Text.trimmed text).isEmpty = true) :
    Recounts room x (c.begin (.send room text)).1 := by
  simp only [begin]
  rw [if_pos hblank]
  exact h

end Recounts

/-- A conversation that has just been opened has nothing to recount. -/
theorem recounts_openRoom (id : String) (c : Client σ) :
    Recounts (c.openRoom id).2 ⟨id, [], none⟩ (c.openRoom id).1 :=
  ⟨{ conversationId := id }, List.getElem?_concat_length, rfl, rfl, rfl⟩

end Rendezvous.Client
