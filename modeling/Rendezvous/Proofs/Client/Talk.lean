/-
What `ChatDetailState` says, when loading the conversation and sending in it overlap.

`load_conversation` loads the conversation as a whole and replaces whatever was there;
`send_message` puts the message that has arrived at the end. Neither looks at the other. So what the
conversation says follows from the order in which the answers come, and the order in which they were
asked for does not matter: it is the transcript that came last, with every message behind it that
arrived since (`thread_follows_history`).

Two things follow that one may not expect of a conversation. A transcript that was written before a
message arrived, and comes afterwards, takes the message away again. And a transcript that was
written after a message, but comes before the answer to it, has the message twice in the end. Both
are shown on a run (`confirmed_message_overtaken`), and the theorem says that nothing else can
happen: a message that has arrived stays until a transcript comes, and an identifier that is there
twice is in the transcript and belongs to a message that arrived behind it.

Of the state only the header and the messages matter here, its `talk`; the flags and the error are
another matter.
-/
import Mathlib.Data.List.Nodup
import Rendezvous.Proofs.Client.Confined
import Rendezvous.Proofs.Client.Hand
import Rendezvous.Proofs.Client.Lasting
import Rendezvous.Proofs.Client.LogOut

set_option autoImplicit false

namespace Rendezvous.Client

open Credential (Storage)
open Service (Endpoint Failure)
open Web (Response)

variable {σ : Type} {c c' : Client σ} {room : Nat}

/-! ## What a history says -/

namespace Happening

/-- The transcript of a conversation that came, if one came. -/
def transcript? (room : Nat) : Happening → Option Wire.Transcript
  | brought (.thread n transcript) => if n = room then some transcript else none
  | _ => none

/-- The message in a conversation that arrived, if one arrived. -/
def message? (room : Nat) : Happening → Option Wire.Message
  | brought (.message n m) => if n = room then some m else none
  | _ => none

end Happening

/-- The messages of the transcript that came last, or none if none came. -/
def loaded (room : Nat) (h : List Happening) : List Wire.Message :=
  (latest (Happening.transcript? room) h).elim [] Wire.Transcript.messages

/-- The messages that arrived after the last transcript, in the order of arrival. -/
def sentSince (room : Nat) (h : List Happening) : List Wire.Message :=
  since (Happening.transcript? room) (Happening.message? room) h

/-- The service keeps its identifiers apart: within a transcript, and between the messages that it
has accepted. This is an assumption about the other side, so it is one about the history. -/
def DistinctIds (room : Nat) (h : List Happening) : Prop :=
  (∀ transcript ∈ h.filterMap (Happening.transcript? room),
    (transcript.messages.map Wire.Message.id).Nodup) ∧
  ((h.filterMap (Happening.message? room)).map Wire.Message.id).Nodup

instance (room : Nat) (h : List Happening) : Decidable (DistinctIds room h) :=
  inferInstanceAs (Decidable (_ ∧ _))

theorem payload_elsewhere {x : Payload} (hs : x.business.screen ≠ .thread room) :
    Happening.transcript? room (.brought x) = none ∧
      Happening.message? room (.brought x) = none := by
  cases x with
  | thread n transcript =>
    have hn : n ≠ room := fun h => hs (congrArg Screen.thread h)
    exact ⟨if_neg hn, rfl⟩
  | message n m =>
    have hn : n ≠ room := fun h => hs (congrArg Screen.thread h)
    exact ⟨rfl, if_neg hn⟩
  | _ => exact ⟨rfl, rfl⟩

/-- What is brought to another screen says nothing about a conversation. -/
theorem payload?_elsewhere {purpose : Purpose} (hs : purpose.screen? ≠ some (.thread room))
    (e : Endpoint) (result : Except Failure Response) :
    ((purpose.payload? e result).map .brought).bind (Happening.transcript? room) = none ∧
      ((purpose.payload? e result).map .brought).bind (Happening.message? room) = none := by
  rcases hpayload : purpose.payload? e result with _ | x
  · exact ⟨rfl, rfl⟩
  · refine payload_elsewhere fun h => hs ?_
    rw [Purpose.screen?, Purpose.business?_of_payload? hpayload, Option.map_some, h]

/-! ## What is said -/

/-- What a happening makes of a talk. -/
def Talk.after (room : Nat) (x : Option Happening) (k : Talk) : Talk :=
  match x.bind (Happening.transcript? room) with
  | some transcript => ⟨some transcript.conversation, transcript.messages⟩
  | none => { k with messages := k.messages ++ (x.bind (Happening.message? room)).toList }

namespace Talk

theorem after_thread (transcript : Wire.Transcript) (k : Talk) :
    k.after room (some (.brought (.thread room transcript))) =
      ⟨some transcript.conversation, transcript.messages⟩ := by
  have htranscript : Happening.transcript? room (.brought (.thread room transcript)) =
      some transcript := if_pos rfl
  rw [after, Option.bind_some, htranscript]

theorem after_message (m : Wire.Message) (k : Talk) :
    k.after room (some (.brought (.message room m))) =
      ⟨k.conversation, k.messages ++ [m]⟩ := by
  have hmessage : Happening.message? room (.brought (.message room m)) = some m := if_pos rfl
  rw [after, Option.bind_some, Option.bind_some, hmessage]
  rfl

/-- What is not about a conversation leaves it as it is. -/
theorem after_of_none {x : Option Happening}
    (h : x.bind (Happening.transcript? room) = none ∧ x.bind (Happening.message? room) = none)
    (k : Talk) : k.after room x = k := by
  obtain ⟨htranscript, hmessage⟩ := h
  rw [after, htranscript, hmessage]
  simp only [Option.toList_none, List.append_nil]

/-- **What a happening does to the messages** is what it does to the history: a transcript takes the
place of all of them, and a message that was sent is put at the end. -/
theorem messages_after {k : Talk} {h : List Happening}
    (hk : k.messages = loaded room h ++ sentSince room h) (x : Option Happening) :
    (k.after room x).messages =
      loaded room (h ++ x.toList) ++ sentSince room (h ++ x.toList) := by
  rw [loaded, sentSince, latest_concat, since_concat, after]
  rcases x.bind (Happening.transcript? room) with _ | transcript
  · -- a message is put behind the others
    rw [Option.none_or]
    simp only [Option.isSome_none, Bool.false_eq_true, if_false, hk]
    exact List.append_assoc ..
  · -- a transcript starts afresh
    simp only [Option.some_or, Option.isSome_some, if_true, List.append_nil]
    rfl

end Talk

/-! ## One step -/

section

variable [Storage σ]

/-- Carrying out a payload for a conversation leaves it with what the payload makes of what was said
before. -/
theorem says_apply (hopen : room < c.rooms.length) {x : Payload}
    (hs : x.business.screen = .thread room) :
    Says ((c.threadCell room).value.talk.after room (some (.brought x)))
      (c.threadCell room) ((c.apply x.reply).1.threadCell room) := by
  cases x with
  | thread n transcript =>
    obtain rfl := Screen.thread.inj hs
    rw [Talk.after_thread]
    exact says_onThread hopen rfl
  | message n m =>
    obtain rfl := Screen.thread.inj hs
    rw [Talk.after_message]
    exact says_onThread hopen rfl
  | _ => cases hs

/-- **What an answer does to a conversation.** Every state published when an operation is concluded
says what the payload makes of the one before. -/
theorem conclude_talk (hopen : room < c.rooms.length) (purpose : Purpose) (e : Endpoint)
    (result : Except Failure Response) :
    Says ((c.threadCell room).value.talk.after room ((purpose.payload? e result).map .brought))
      (c.threadCell room) ((c.conclude purpose e result).1.threadCell room) := by
  by_cases hs : purpose.screen? = some (.thread room)
  · -- a decision is published elsewhere, so what the request names does not matter here
    have hid : NamesCandidate purpose e := by
      rintro id rfl
      cases hs
    have hverdict := purpose.verdict result
    obtain ⟨c₁, hn, hn', _⟩ := conclude_spec purpose e result c
    have hprepared (hdiscreet : (purpose.reply result).Discreet) :=
      (Prepared.conclude hdiscreet e c).talk room hopen
    generalize purpose.reply result = reply at hverdict hn' hprepared
    cases hverdict with
    | unseen _ hx =>
      rw [hx e, Option.map_none, Talk.after_of_none ⟨rfl, rfl⟩]
      exact hprepared trivial
    | @refused b why _ _ hx =>
      rw [hx e, Option.map_none, Talk.after_of_none ⟨rfl, rfl⟩]
      exact hprepared (b.discreet_report _)
    | @brought x hb hx =>
      have hopen₁ : room < c₁.rooms.length := by rwa [hn.rooms]
      have hscreen : x.business.screen = .thread room := by
        rw [Purpose.screen?, hb] at hs
        exact Option.some.inj hs
      have hbefore : c₁.threadCell room = c.threadCell room := threadCell_congr (by rw [hn.rooms])
      have hafter : (c.conclude purpose e result).1.threadCell room =
          (c₁.apply x.reply).1.threadCell room := threadCell_congr (by rw [hn'.rooms])
      rw [hx e hid, hafter, ← hbefore]
      exact says_apply hopen₁ hscreen
  · rw [Talk.after_of_none (payload?_elsewhere hs e result)]
    exact says_of_rooms_eq ((confined_conclude purpose e result c).rooms room hs)

/-- **What a step does to a conversation.** Every thread published in a step says what the
happening of the step makes of the one before. -/
theorem step_talk {t : Traffic σ} (hopen : room < t.client.rooms.length) (e : Event σ) :
    Says ((t.client.threadCell room).value.talk.after room (t.happening? e))
      (t.client.threadCell room) ((t.step e).client.threadCell room) := by
  -- what happens on another screen, and amounts to nothing here
  have elsewhere (hs : t.screen? e ≠ some (.thread room))
      (hx : (t.happening? e).bind (Happening.transcript? room) = none ∧
        (t.happening? e).bind (Happening.message? room) = none) :
      Says ((t.client.threadCell room).value.talk.after room (t.happening? e))
        (t.client.threadCell room) ((t.step e).client.threadCell room) := by
    rw [Talk.after_of_none hx]
    exact says_of_rooms_eq ((confined_step t e).rooms room hs)
  cases e with
  | begin op =>
    have hx : t.happening? (.begin op) = none := rfl
    rw [Traffic.begin_client, hx, Talk.after_of_none ⟨rfl, rfl⟩]
    exact (Prepared.begin op t.client).talk room hopen
  | answer ticket result =>
    rcases Traffic.answer_cases ticket result t with ⟨hlookup, heq⟩ | ⟨p, hlookup, heq, _⟩
    · rw [heq, Traffic.happening?, hlookup, Option.bind_none, Talk.after_of_none ⟨rfl, rfl⟩]
      exact Cell.Grows.refl rfl
    · rw [heq, Traffic.happening?, hlookup]
      exact conclude_talk hopen p.purpose p.endpoint result
  | openRoom id =>
    apply elsewhere
    · -- the conversation that is opened is another one
      intro hs
      have heq : t.client.rooms.length = room := Screen.thread.inj (Option.some.inj hs)
      omega
    · exact ⟨rfl, rfl⟩
  | fetchDue | resume | logOut | dismissMatch | drift =>
    exact elsewhere (by simp [Traffic.screen?]) ⟨rfl, rfl⟩

/-! ## Every run -/

/-- A conversation is open and says what the history leads to. -/
structure Recalls (room : Nat) (h : List Happening) (c : Client σ) : Prop where
  opened : room < c.rooms.length
  messages : (c.threadCell room).value.messages = loaded room h ++ sentSince room h

/-- A conversation that has just been opened says nothing. -/
theorem recalls_openRoom (t : Traffic σ) (id : String) :
    Recalls t.client.rooms.length [] (t.step (.openRoom id)).client := by
  have hroom : (t.step (.openRoom id)).client.rooms[t.client.rooms.length]? =
      some { conversationId := id } := List.getElem?_concat_length
  refine ⟨(List.getElem?_eq_some_iff.mp hroom).1, ?_⟩
  rw [threadCell, hroom]
  rfl

/-- **One event** keeps the messages of the conversation in line with the history, also in the
states that are published on the way. -/
theorem Recalls.step {h : List Happening} {t : Traffic σ} (hr : Recalls room h t.client)
    (e : Event σ) : Recalls room (h ++ (t.happening? e).toList) (t.step e).client where
  opened := by
    -- conversations stay open
    have hlength := (Traffic.roomIds_step t e).length_le
    rw [length_roomIds, length_roomIds] at hlength
    exact Nat.lt_of_lt_of_le hr.opened hlength
  messages := by
    have htalk : ((t.step e).client.threadCell room).value.talk = _ :=
      (step_talk hr.opened e).value
    have hmessages := congrArg Talk.messages htalk
    rw [Talk.messages_after hr.messages] at hmessages
    exact hmessages

theorem recalls_run (t : Traffic σ) (id : String) (es : List (Event σ)) :
    Recalls t.client.rooms.length ((t.step (.openRoom id)).history es)
      ((t.step (.openRoom id)).run es).client :=
  Traffic.run_invariant (fun _ => True) (P := fun h t' => Recalls t.client.rooms.length h t'.client)
    (recalls_openRoom t id) (fun _ _ e _ hr => hr.step e) es fun _ _ => trivial

end

/-! ## Nothing lost, nothing twice -/

/-- What was said after the last time of something else is still there. It is stated about any two
readings of the history, and used with sent messages and transcripts. -/
theorem mem_since {α β : Type} {f : Happening → Option α} {g : Happening → Option β}
    {h₁ h₂ : List Happening} {x : Happening} {b : β} (hg : g x = some b) (hf : f x = none)
    (hlater : ∀ y ∈ h₂, f y = none) : b ∈ since f g (h₁ ++ x :: h₂) := by
  have hnone : ∀ y ∈ h₂.reverse ++ [x], (f y).isNone = true := by
    intro y hy
    rw [Option.isNone_iff_eq_none]
    rcases List.mem_append.mp hy with hy | hy
    · exact hlater y (List.mem_reverse.mp hy)
    · rw [List.mem_singleton.mp hy]
      exact hf
  have hreverse : (h₁ ++ x :: h₂).reverse = (h₂.reverse ++ [x]) ++ h₁.reverse := by
    simp only [List.reverse_append, List.reverse_cons]
  rw [since, hreverse, List.takeWhile_append_of_pos hnone, List.mem_reverse, List.filterMap_append]
  apply List.mem_append_left
  rw [List.mem_filterMap]
  exact ⟨x, List.mem_append_right _ (List.mem_singleton_self x), hg⟩

theorem since_sublist {α β : Type} (f : Happening → Option α) (g : Happening → Option β)
    (h : List Happening) : (since f g h).Sublist (h.filterMap g) := by
  have hkept := (List.takeWhile_prefix (l := h.reverse) fun x => (f x).isNone).sublist
  have hreverse := (hkept.filterMap g).reverse
  rwa [List.filterMap_reverse, List.reverse_reverse] at hreverse

/-- If a service keeps its identifiers apart, the last transcript has no identifier twice. -/
theorem nodup_loaded {h : List Happening} (hids : DistinctIds room h) :
    ((loaded room h).map Wire.Message.id).Nodup := by
  rw [loaded]
  rcases hlast : latest (Happening.transcript? room) h with _ | transcript
  · exact List.nodup_nil
  · obtain ⟨x, hx, htranscript⟩ := List.exists_of_findSome?_eq_some hlast
    exact hids.1 transcript (List.mem_filterMap.mpr ⟨x, List.mem_reverse.mp hx, htranscript⟩)

/-- If a service keeps its identifiers apart, an identifier that is there twice is the one of a
message that arrived behind a transcript that has it already. -/
theorem not_nodup_iff {h : List Happening} (hids : DistinctIds room h) :
    ¬ ((loaded room h ++ sentSince room h).map Wire.Message.id).Nodup ↔
      ∃ m ∈ sentSince room h, m.id ∈ (loaded room h).map Wire.Message.id := by
  have hsent : ((sentSince room h).map Wire.Message.id).Nodup :=
    hids.2.sublist ((since_sublist _ _ h).map _)
  rw [List.map_append, List.nodup_append]
  constructor
  · intro htwice
    by_contra hnone
    apply htwice
    refine ⟨nodup_loaded hids, hsent, ?_⟩
    rintro id hid other hother rfl
    obtain ⟨m, hm, rfl⟩ := List.mem_map.mp hother
    exact hnone ⟨m, hm, hid⟩
  · rintro ⟨m, hm, hid⟩ ⟨_, _, hapart⟩
    exact hapart m.id hid m.id (List.mem_map_of_mem hm) rfl

/-- **The conversation follows the history.** Open a conversation, let anything happen, in any
order, and then one thing more, and let the service keep its identifiers apart. Whatever the
conversation shows in this last step has the messages of the transcript that came last, and those
that arrived since behind it. So a message that has arrived is there until the next transcript
comes, whenever that one was asked for, and then the transcript is all there is; and an identifier
is there twice exactly if a message arrived that the transcript before it has already. -/
theorem thread_follows_history [Storage σ] (t : Traffic σ) (id : String) (es : List (Event σ))
    (e : Event σ)
    (hids : DistinctIds t.client.rooms.length ((t.step (.openRoom id)).history (es ++ [e]))) :
    let room := t.client.rooms.length
    let before := (t.step (.openRoom id)).run es
    let heard := (t.step (.openRoom id)).history (es ++ [e])
    ∀ thread ∈ Cell.shown (before.client.threadCell room) ((before.step e).client.threadCell room),
      thread.messages = loaded room heard ++ sentSince room heard ∧
      (∀ h₁ h₂ m, heard = h₁ ++ .brought (.message room m) :: h₂ →
        (∀ x ∈ h₂, x.transcript? room = none) → m ∈ thread.messages) ∧
      (∀ transcript, before.happening? e = some (.brought (.thread room transcript)) →
        thread.messages = transcript.messages) ∧
      (¬ (thread.messages.map Wire.Message.id).Nodup ↔
        ∃ m ∈ sentSince room heard, m.id ∈ (loaded room heard).map Wire.Message.id) := by
  intro room before heard thread hthread
  have hrecalls : Recalls room ((t.step (.openRoom id)).history es) before.client :=
    recalls_run t id es
  have htalk : thread.talk =
      (before.client.threadCell room).value.talk.after room (before.happening? e) :=
    (step_talk hrecalls.opened e).of_mem_shown hthread
  have hmessages : thread.messages = loaded room heard ++ sentSince room heard := by
    have hafter := Talk.messages_after (k := (before.client.threadCell room).value.talk)
      hrecalls.messages (before.happening? e)
    rw [show heard = _ from Traffic.history_concat _ _ _, ← hafter]
    exact congrArg Talk.messages htalk
  refine ⟨hmessages, ?_, ?_, ?_⟩
  · -- no transcript has come since the message, so it is among those sent since the last one
    intro h₁ h₂ m hheard hlater
    rw [hmessages]
    apply List.mem_append_right
    rw [hheard]
    exact mem_since (if_pos rfl) rfl hlater
  · -- a transcript that has just come is all there is
    intro transcript hx
    rw [hx, Talk.after_thread] at htalk
    exact congrArg Talk.messages htalk
  · rw [hmessages]
    exact not_nodup_iff hids

/-! ## Answers that overtake each other -/

/-- A client in which one conversation has just been opened. -/
def chatting : Traffic Credential.Entries :=
  fresh.step (.openRoom "c")

/-- The service has accepted a message. -/
def accepted : Except Failure Response :=
  answering "[\"m\",\"ada\",\"hi\",\"1970-01-01T00:00:00Z\",null]"

/-- The conversation without a message in it. -/
def withoutMessage : Except Failure Response :=
  answering "[[\"c\",[\"b\",\"B\",null],null,0],[]]"

/-- The conversation with that message in it. -/
def withMessage : Except Failure Response :=
  answering
    "[[\"c\",[\"b\",\"B\",null],null,0],[[\"m\",\"ada\",\"hi\",\"1970-01-01T00:00:00Z\",null]]]"

/-- The conversation is loaded, and then a message is sent. -/
def inTurn : List (Event Credential.Entries) :=
  [.begin (.loadThread 0), .answer 0 withoutMessage, .begin (.send 0 "hi")]

/-- One after the other, and the message is there: the transcript is answered before the message is
sent, so nothing is overtaken and the identifiers are distinct. -/
theorem thread_follows_history_inTurn :
    DistinctIds 0 (chatting.history (inTurn ++ [.answer 1 accepted])) ∧
    ∀ thread ∈ Cell.shown ((chatting.run inTurn).client.threadCell 0)
        (((chatting.run inTurn).step (.answer 1 accepted)).client.threadCell 0),
      thread.messages.map Wire.Message.id = ["m"] := by
  have hids : DistinctIds 0 (chatting.history (inTurn ++ [.answer 1 accepted])) := by
    decide +kernel
  have hheard : (loaded 0 (chatting.history (inTurn ++ [.answer 1 accepted])) ++
      sentSince 0 (chatting.history (inTurn ++ [.answer 1 accepted]))).map Wire.Message.id =
        ["m"] := by decide +kernel
  refine ⟨hids, ?_⟩
  intro thread hthread
  have hfollows := thread_follows_history fresh "c" inTurn (.answer 1 accepted) hids thread hthread
  exact (congrArg (List.map Wire.Message.id) hfollows.1).trans hheard

/-- The conversation is asked for, and before it comes, a message is sent. -/
def overtaking : List (Event Credential.Entries) :=
  [.begin (.loadThread 0), .begin (.send 0 "hi")]

/-- A message is sent, and before the answer, the conversation is asked for and comes, with the
message in it. -/
def anticipating : List (Event Credential.Entries) :=
  [.begin (.send 0 "hi"), .begin (.loadThread 0),
    .answer 1 withMessage, .answer 0 accepted]

/-- A message that has arrived does not always stay until a transcript comes that was asked for
afterwards: one that was asked for before takes it away. And an identifier may be there twice. -/
theorem confirmed_message_overtaken :
    (¬ ∀ (es es' : List (Event Credential.Entries)) (e : Event Credential.Entries)
        (m : Wire.Message),
      DistinctIds 0 (chatting.history (es ++ e :: es')) →
      ((chatting.run es).happening? e).bind (Happening.message? 0) = some m →
      (∀ ticket result, Event.answer ticket result ∈ es' →
        ticket < ((chatting.run es).step e).next) →
      m ∈ ((((chatting.run es).step e).run es').client.threadCell 0).value.messages) ∧
    ¬ ∀ es : List (Event Credential.Entries), DistinctIds 0 (chatting.history es) →
      (((chatting.run es).client.threadCell 0).value.messages.map Wire.Message.id).Nodup := by
  constructor
  · intro h
    have hids : DistinctIds 0
        (chatting.history (overtaking ++ .answer 1 accepted :: [.answer 0 withoutMessage])) := by
      decide +kernel
    have hcame : (((chatting.run overtaking).happening? (.answer 1 accepted)).bind
        (Happening.message? 0)).isSome = true := by decide +kernel
    have hgone : ((((chatting.run overtaking).step (.answer 1 accepted)).run
        [.answer 0 withoutMessage]).client.threadCell 0).value.messages = [] := by decide +kernel
    obtain ⟨m, hm⟩ := Option.isSome_iff_exists.mp hcame
    have hstays := h overtaking [.answer 0 withoutMessage] (.answer 1 accepted) m hids hm ?_
    · rw [hgone] at hstays
      cases hstays
    · -- the transcript was asked for first
      intro ticket result hmem
      obtain ⟨rfl, _⟩ := Event.answer.inj (List.mem_singleton.mp hmem)
      decide +kernel
  · intro h
    have hids : DistinctIds 0 (chatting.history anticipating) := by decide +kernel
    have htwice : (((chatting.run anticipating).client.threadCell 0).value.messages.map
        Wire.Message.id) = ["m", "m"] := by decide +kernel
    have hnodup := h anticipating hids
    rw [htwice] at hnodup
    exact absurd hnodup (by decide)

end Rendezvous.Client
