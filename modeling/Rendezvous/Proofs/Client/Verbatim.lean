/-
A conversation says what came, and sends what was typed.

`Talk` follows the messages of a conversation along a history. Here the header is followed too, and
it does not go its own way: whenever something is there to be said, header and first messages are
those of one transcript, the one that came last, and behind them stand the messages that arrived
since (`recollection`). The flags and the error are no part of this, so asking for something, and
failing to get it, leaves no trace.

The other direction is about what leaves the client. `send_message` sends a text without the white
space around it, and `Text.stripped_iff` says that this is one text and no other; if nothing is left
of it, the client stays exactly as it is. `load_conversation` is the only other thing that a
conversation asks for, and that posts nothing.
-/
import Rendezvous.Proofs.Client.Bearer
import Rendezvous.Proofs.Client.Talk
import Rendezvous.Proofs.Text.Blank

set_option autoImplicit false

namespace Rendezvous.Client

open Credential (Storage)
open Service (Endpoint Failure)
open Web (Request Response)

variable {σ : Type} {c c' : Client σ} {room : Nat}

/-! ## What a conversation remembers -/

/-- What a history leaves a conversation to say: the transcript that came last, with the messages
behind it that arrived since. -/
def recollection (room : Nat) (h : List Happening) : Talk where
  conversation := (latest (Happening.transcript? room) h).map Wire.Transcript.conversation
  messages := loaded room h ++ sentSince room h

/-- What a happening does to the header is what it does to the history. -/
theorem conversation_after {k : Talk} {h : List Happening}
    (hk : k.conversation = (recollection room h).conversation) (x : Option Happening) :
    (k.after room x).conversation = (recollection room (h ++ x.toList)).conversation := by
  rw [recollection, latest_concat, Talk.after]
  rcases x.bind (Happening.transcript? room) with _ | transcript
  · rw [Option.none_or]
    exact hk
  · rfl

/-- A conversation is open and says, as a whole, what the history leads to. -/
structure Remembers (room : Nat) (h : List Happening) (c : Client σ) : Prop
    extends Recalls room h c where
  conversation : (c.threadCell room).value.conversation = (recollection room h).conversation

theorem Remembers.talk {h : List Happening} (hr : Remembers room h c) :
    (c.threadCell room).value.talk = recollection room h := by
  rw [Thread.talk, hr.conversation, hr.messages]
  rfl

theorem eq_of_transcript? {x : Happening} {transcript : Wire.Transcript}
    (h : x.transcript? room = some transcript) : x = .brought (.thread room transcript) := by
  unfold Happening.transcript? at h
  split at h
  · rename_i n brought
    by_cases hn : n = room
    · rw [if_pos hn] at h
      rw [hn, Option.some.inj h]
    · rw [if_neg hn] at h
      cases h
  · cases h

theorem eq_of_message? {x : Happening} {m : Wire.Message} (h : x.message? room = some m) :
    x = .brought (.message room m) := by
  unfold Happening.message? at h
  split at h
  · rename_i n arrived
    by_cases hn : n = room
    · rw [if_pos hn] at h
      rw [hn, Option.some.inj h]
    · rw [if_neg hn] at h
      cases h
  · cases h

/-- Whatever is said came with a transcript, or arrived by itself. Nothing else adds to a
conversation, in particular not the text of a message that has not been confirmed yet. -/
theorem brought_of_mem_recollection {h : List Happening} {m : Wire.Message}
    (hm : m ∈ (recollection room h).messages) :
    .brought (.message room m) ∈ h ∨
      ∃ transcript, .brought (.thread room transcript) ∈ h ∧ m ∈ transcript.messages := by
  rcases List.mem_append.mp hm with hm | hm
  · -- the messages of the last transcript, if there was one
    right
    rw [loaded] at hm
    rcases hlast : latest (Happening.transcript? room) h with _ | transcript
    · rw [hlast] at hm
      cases hm
    · rw [hlast] at hm
      obtain ⟨x, hx, htranscript⟩ := List.exists_of_findSome?_eq_some hlast
      refine ⟨transcript, ?_, hm⟩
      rw [← eq_of_transcript? htranscript]
      exact List.mem_reverse.mp hx
  · left
    obtain ⟨x, hx, hmessage⟩ := List.mem_filterMap.mp ((since_sublist _ _ h).subset hm)
    rw [← eq_of_message? hmessage]
    exact hx

section

variable [Storage σ]

/-- **One event.** -/
theorem Remembers.step {h : List Happening} {t : Traffic σ} (hr : Remembers room h t.client)
    (e : Event σ) : Remembers room (h ++ (t.happening? e).toList) (t.step e).client where
  toRecalls := hr.toRecalls.step e
  conversation := by
    have htalk : ((t.step e).client.threadCell room).value.talk = _ :=
      (step_talk hr.opened e).value
    rw [← conversation_after (k := (t.client.threadCell room).value.talk) hr.conversation, ← htalk]
    rfl

/-- **Every run** from the opening of a conversation on shows what the history of that conversation
says. The room is named by its number, so the same identifier may be opened again meanwhile. -/
theorem remembers_run (t : Traffic σ) (id : String) (es : List (Event σ)) :
    Remembers t.client.rooms.length ((t.step (.openRoom id)).history es)
      ((t.step (.openRoom id)).run es).client := by
  refine Traffic.run_invariant (fun _ => True)
    (P := fun h t' => Remembers t.client.rooms.length h t'.client) ?_
    (fun _ _ e _ hr => hr.step e) es fun _ _ => trivial
  -- a conversation that has just been opened has no header either
  refine ⟨recalls_openRoom t id, ?_⟩
  have hroom : (t.step (.openRoom id)).client.rooms[t.client.rooms.length]? =
      some { conversationId := id } := List.getElem?_concat_length
  rw [threadCell, hroom]
  rfl

/-- The conversation that was opened keeps its identifier. It is given to the controller when it is
made, and the controller has no way to change it. -/
theorem roomId_run (t : Traffic σ) (id : String) (es : List (Event σ)) :
    ((t.step (.openRoom id)).run es).client.roomId t.client.rooms.length = id := by
  have hroom : (t.step (.openRoom id)).client.roomIds[t.client.rooms.length]? = some id := by
    rw [roomIds, List.getElem?_map]
    exact congrArg (Option.map Room.conversationId) List.getElem?_concat_length
  obtain ⟨later, hstays⟩ := Traffic.roomIds_run (t.step (.openRoom id)) es
  have hlater : ((t.step (.openRoom id)).run es).client.roomIds[t.client.rooms.length]? =
      some id := by
    rw [← hstays, List.getElem?_append_left (List.getElem?_eq_some_iff.mp hroom).1, hroom]
  rw [roomIds, List.getElem?_map] at hlater
  obtain ⟨r, hr, hid⟩ := Option.map_eq_some_iff.mp hlater
  rw [roomId, hr]
  exact hid

/-! ## What it sends -/

/-- A blank text is not sent, and nothing else happens to the client. -/
theorem begin_send_blank {text : String} (hblank : ∀ x ∈ text.toList, Text.isBlank x = true)
    (c : Client σ) : c.begin (.send room text) = (c, .ended .plain) := by
  have hnone : Text.trimmed text = "" := by
    rw [Text.trimmed, (Text.trim_eq_nil_iff text.toList).mpr hblank]
  simp only [begin, hnone]
  rfl

/-- A message that goes out is the text without the white space around it, and something is left.
That the content is `trim`ed is said by `Stripped`, which does not mention how the text is
searched. -/
theorem request_of_send {text : String} {p : Pending}
    (h : (c.begin (.send room text)).2 = .waiting p) :
    ∃ content url token, Text.Stripped text.toList content.toList ∧ content ≠ "" ∧
      p.request = Service.requestAt url token (.send (c.roomId room) ⟨content⟩) := by
  obtain ⟨e, url, he, _, rfl⟩ := begin_waiting h
  simp only [Operation.endpoint?] at he
  by_cases hempty : (Text.trimmed text).isEmpty = true
  · rw [if_pos hempty] at he
    cases he
  · rw [if_neg hempty] at he
    obtain rfl := Option.some.inj he
    refine ⟨Text.trimmed text, url, _, ?_, ?_, rfl⟩
    · rw [Text.stripped_iff, Text.trimmed, String.toList_ofList]
    · rintro hnone
      rw [hnone] at hempty
      exact hempty rfl

/-- Of the two things that a conversation asks for, only a message is posted. So a `POST` on this
screen identifies the operation, and with it the text that was typed. -/
theorem send_of_posts {t : Traffic σ} {op : Operation} {request : Request}
    (hop : op.screen? = some (.thread room)) (hsent : t.sent? (.begin op) = some request)
    (hpost : request.method = .post) :
    ∃ text content url token, op = .send room text ∧
      Text.Stripped text.toList content.toList ∧ content ≠ "" ∧
      request = Service.requestAt url token (.send (t.client.roomId room) ⟨content⟩) := by
  simp only [Traffic.sent?, Traffic.begin] at hsent
  obtain ⟨p, hp, rfl⟩ := Traffic.waiting_of_sent hsent
  cases op with
  | loadThread n =>
    -- what is asked for here is only looked at
    obtain ⟨e, url, he, _, rfl⟩ := begin_waiting hp
    obtain rfl := Option.some.inj he
    cases hpost
  | send n text =>
    obtain rfl := Screen.thread.inj (Option.some.inj hop)
    obtain ⟨content, url, token, hstripped, hne, hrequest⟩ := request_of_send hp
    exact ⟨text, content, url, token, rfl, hstripped, hne, hrequest⟩
  | logIn | register | renew | loadPage | swipe | loadMatches | loadConversations => cases hop
  | loadProfile | updateProfile | plain => cases hop

/-! ## Every conversation -/

/-- **A conversation says what came, and sends what was typed.** Open a conversation, and let
anything happen, in any order. It says what its history leads to, and so does everything that it
shows in the next step: header and first messages from the transcript that came last, and behind
them what has arrived since, in that order; so nothing is there that had not come. If something is
posted for the conversation, it is a message, to the conversation that was opened, with what is left
of the text without the white space around it; and if nothing is left, then nothing is sent and
nothing is published. -/
theorem conversation_follows_history (t : Traffic σ) (id : String) (es : List (Event σ)) :
    let room := t.client.rooms.length
    let opened := t.step (.openRoom id)
    let before := opened.run es
    (before.client.threadCell room).value.talk = recollection room (opened.history es) ∧
    (∀ e, ∀ thread ∈ Cell.shown (before.client.threadCell room)
        ((before.step e).client.threadCell room),
      let heard := opened.history (es ++ [e])
      thread.talk = recollection room heard ∧
      ∀ m ∈ thread.messages, .brought (.message room m) ∈ heard ∨
        ∃ transcript, .brought (.thread room transcript) ∈ heard ∧ m ∈ transcript.messages) ∧
    (∀ op request, op.screen? = some (.thread room) →
      before.sent? (.begin op) = some request → request.method = .post →
      ∃ text content url token, op = .send room text ∧
        Text.Stripped text.toList content.toList ∧ content ≠ "" ∧
        request = Service.requestAt url token (.send id ⟨content⟩)) ∧
    ∀ text : String, (∀ x ∈ text.toList, Text.isBlank x = true) →
      before.sent? (.begin (.send room text)) = none ∧
      before.step (.begin (.send room text)) = { before with next := before.next + 1 } := by
  intro room opened before
  have hbefore : Remembers room (opened.history es) before.client := remembers_run t id es
  refine ⟨hbefore.talk, ?_, ?_, ?_⟩
  · intro e thread hthread heard
    have hheard : heard = opened.history es ++ (before.happening? e).toList :=
      Traffic.history_concat _ _ _
    -- what is shown on the way says the same as what is shown at the end
    have htalk : thread.talk = recollection room heard := by
      have hshown := (step_talk hbefore.opened e).of_mem_shown hthread
      have hend : ((before.step e).client.threadCell room).value.talk = _ :=
        (step_talk hbefore.opened e).value
      rw [hshown, hheard, ← (hbefore.step e).talk, hend]
    refine ⟨htalk, ?_⟩
    intro m hm
    apply brought_of_mem_recollection
    rw [← htalk]
    exact hm
  · intro op request hop hsent hpost
    have hid : before.client.roomId room = id := roomId_run t id es
    rw [← hid]
    exact send_of_posts hop hsent hpost
  · intro text hblank
    have hbegin : before.client.begin (.send room text) = (before.client, .ended .plain) :=
      begin_send_blank hblank before.client
    constructor
    · simp only [Traffic.sent?, Traffic.begin, hbegin]
      rfl
    · simp only [Traffic.step, Traffic.begin, hbegin]
      rfl

/-- A message with blanks around it, as it is typed after the conversation has come. -/
example : (((chatting.run [.begin (.loadThread 0), .answer 0 withoutMessage]).sent?
    (.begin (.send 0 " \u3000hi\n"))).bind Request.body) = some "\x7b\"content\":\"hi\"\x7d" := by
  decide +kernel

end

end Rendezvous.Client
