/-
Runs of a client: what can happen to it, one thing after the other, and what it amounts to.

The controllers are asynchronous. A client with its requests on the way changes in steps, and an
`Event` is one of them: an operation begins and goes as far as its request, a claimed page is asked
for, a request is answered, or something happens at once (`check_existing`, `logout`,
`dismiss_match`, a new `ChatDetailController`). Between two events any other may come, so a list of
events is one interleaving of everything that was begun, and a statement about every list is a
statement about every interleaving. The backend of the tokens may change on its own between two
requests to it (`drift`); what it may change into is for a statement to say.

What the screens show does not follow from the events alone, since an answer may be a refusal or
unreadable. `happening?` is what an event amounts to: the payload that an answer brought, if it
brought one. The list of them is the `history` of a run, and invariants are stated against it.
`run_invariant` is the one induction over runs; everything else is about a single step.
-/
import Rendezvous.Client.Traffic

set_option autoImplicit false

namespace Rendezvous.Client

open Credential (Storage)
open Service (Endpoint Failure)
open Web (Response)

variable {σ : Type}

/-! ## What an answer brings -/

/-- The value that an answer holds, if its status is one of success and its body can be decoded. -/
def received {α : Type} (codec : Json.Codec α) (result : Except Failure Response) : Option α :=
  match result with
  | .error _ => none
  | .ok r => if Web.isSuccess r.status then (codec.decode r.body).toOption else none

/-- An answer with status 200 and this text. -/
def answering (text : String) : Except Failure Response :=
  .ok ⟨200, Text.Utf8.bytes text⟩

/-- What was asked for and came: the decoded body of a successful answer, with what the operation
remembered. -/
inductive Payload
  | tokens (way : Admission) (pair : Wire.TokenPair)
  | page (page : Wire.Page)
  /-- the answer to a decision; whom it is about is what the request named -/
  | decision (candidateId : String) (answer : Wire.SwipeResult)
  | matchList (list : Wire.MatchList)
  | conversations (list : Wire.ConversationList)
  | thread (room : Nat) (transcript : Wire.Transcript)
  | message (room : Nat) (message : Wire.Message)
  | profile (profile : Wire.Profile)

/-- Whom a decision is about, as it stands in the request. Only a swipe names a candidate. -/
def decidedId : Endpoint → String
  | .swipe s => s.swipedId
  | _ => ""

/-- What an answer brings to an operation that asked an endpoint for a purpose. It goes by the
answer and the request alone, so a history says nothing about the state of the client. -/
def Purpose.payload? (purpose : Purpose) (e : Endpoint) (result : Except Failure Response) :
    Option Payload :=
  match purpose with
  | .tokens way => (received Wire.TokenPair.codec result).map (.tokens way)
  | .page => (received Wire.Page.codec result).map .page
  | .decision _ => (received Wire.SwipeResult.codec result).map (.decision (decidedId e))
  | .matchList => (received Wire.MatchList.codec result).map .matchList
  | .conversations => (received Wire.ConversationList.codec result).map .conversations
  | .thread room => (received Wire.Transcript.codec result).map (.thread room)
  | .message room => (received Wire.Message.codec result).map (.message room)
  | .profile => (received Wire.Profile.codec result).map .profile
  | .plain _ => none

/-- What `receive` returns is the value that the answer holds. The error that it returns otherwise
is not looked at here. -/
theorem toOption_receive {α : Type} (codec : Json.Codec α) (e : Endpoint)
    (result : Except Failure Response) (c : Client σ) :
    (c.receive codec e result).2.toOption = received codec result := by
  rcases result with why | r
  · rfl
  · simp only [receive, accept, received]
    by_cases hr : Web.isSuccess r.status = true
    · simp only [hr, if_true]
      rcases codec.decode r.body with why | a <;> rfl
    · simp only [hr]
      rfl

/-- The value that an answer holds is what reading it gives. -/
theorem receive_of_received {α : Type} {codec : Json.Codec α} {result : Except Failure Response}
    {a : α} (h : received codec result = some a) (e : Endpoint) (c : Client σ) :
    (c.receive codec e result).2 = .ok a := by
  rw [← toOption_receive codec e result c] at h
  rcases hr : (c.receive codec e result).2 with why | a'
  · rw [hr] at h
    cases h
  · rw [hr] at h
    exact congrArg Except.ok (Option.some.inj h)

/-! ## Events -/

/-- One thing that happens to a client and its requests. Operations are cut in two at their only
`await`, so a list of events is any interleaving of them. -/
inductive Event (σ : Type)
  | begin (op : Operation)
  /-- the spawned task of `prefetch` asks for the page that was claimed -/
  | fetchDue
  | answer (ticket : Ticket) (result : Except Failure Response)
  /-- `check_existing` -/
  | resume
  | logOut
  | dismissMatch
  | openRoom (conversationId : String)
  /-- the backend of the tokens changes on its own, as when another process writes the same file -/
  | drift (f : σ → σ)

/-- What an event amounts to, as far as a history is concerned. -/
inductive Happening
  | brought (payload : Payload)
  | loggedOut
  | dismissed

/-! ## Reading a history -/

section

variable {α β : Type}

/-- What the last happening that says something of a kind says. -/
def latest (f : Happening → Option α) (h : List Happening) : Option α :=
  h.reverse.findSome? f

/-- What was said of one kind since the last time that something was said of another, in order.
Messages since the last transcript are the example. -/
def since (f : Happening → Option α) (g : Happening → Option β) (h : List Happening) : List β :=
  ((h.reverse.takeWhile fun x => (f x).isNone).filterMap g).reverse

/-- One happening more: it is the latest one of its kind, or it says nothing and the latest one
stays. -/
theorem latest_concat (f : Happening → Option α) (h : List Happening) (x : Option Happening) :
    latest f (h ++ x.toList) = (x.bind f).or (latest f h) := by
  rcases x with _ | x
  · rw [Option.toList_none, List.append_nil]
    rfl
  · rw [latest, Option.toList_some, List.reverse_append]
    rcases hx : f x with _ | a
    · simp [hx, latest]
    · simp [hx]

/-- One happening more: it starts the list again, or it is put at its end. With this equation a
history is taken apart at its end, as a run is. -/
theorem since_concat (f : Happening → Option α) (g : Happening → Option β) (h : List Happening)
    (x : Option Happening) :
    since f g (h ++ x.toList) =
      if (x.bind f).isSome then [] else since f g h ++ (x.bind g).toList := by
  rcases x with _ | x
  · simp only [Option.toList_none, List.append_nil, Option.bind_none]
    rfl
  · rw [since, Option.toList_some, List.reverse_append]
    rcases hf : f x with _ | a
    · rcases hg : g x with _ | b
      · simp [hf, hg, since]
      · simp [hf, hg, since]
    · simp [hf]

end

namespace Traffic

/-- A client that has just been opened, with nothing on its way. -/
def started [Storage σ] (address : String) (paging : Service.Paging)
    (store : Credential.Store σ) : Traffic σ where
  client := opened address paging store

/-- What one event does. -/
def step [Storage σ] (t : Traffic σ) : Event σ → Traffic σ
  | .begin op => (t.begin op).1
  | .fetchDue => t.fetchDue.1
  | .answer ticket result => (t.answer ticket result).1
  | .resume => t.locally Client.resume
  | .logOut => t.locally Client.logOut
  | .dismissMatch => t.locally Client.dismissMatch
  | .openRoom id => t.locally fun c => (c.openRoom id).1
  | .drift f => t.locally fun c => { c with store.vault := f c.store.vault }

/-- What a list of events does, one after the other. -/
def run [Storage σ] (t : Traffic σ) (es : List (Event σ)) : Traffic σ :=
  es.foldl step t

/-- What an event amounts to in the state that it finds. An answer whose ticket nothing waits for is
nothing. -/
def happening? (t : Traffic σ) : Event σ → Option Happening
  | .answer ticket result =>
    (t.waiting.lookup ticket).bind fun p =>
      (p.purpose.payload? p.endpoint result).map .brought
  | .logOut => some .loggedOut
  | .dismissMatch => some .dismissed
  | _ => none

/-- What a run amounts to, the first thing first. -/
def history [Storage σ] (t : Traffic σ) : List (Event σ) → List Happening
  | [] => []
  | e :: es => (t.happening? e).toList ++ history (t.step e) es

variable [Storage σ]

@[simp]
theorem run_nil (t : Traffic σ) : t.run [] = t := rfl

@[simp]
theorem run_cons (t : Traffic σ) (e : Event σ) (es : List (Event σ)) :
    t.run (e :: es) = (t.step e).run es := rfl

theorem run_concat (t : Traffic σ) (es : List (Event σ)) (e : Event σ) :
    t.run (es ++ [e]) = (t.run es).step e := by
  simp only [run, List.foldl_append, List.foldl_cons, List.foldl_nil]

theorem run_append (t : Traffic σ) (es es' : List (Event σ)) :
    t.run (es ++ es') = (t.run es).run es' :=
  List.foldl_append

/-- The history of a run with one event more. Runs are followed by their last event, histories are
defined by their first one, and this lemma stands between the two. -/
theorem history_concat (t : Traffic σ) (es : List (Event σ)) (e : Event σ) :
    t.history (es ++ [e]) = t.history es ++ ((t.run es).happening? e).toList := by
  induction es generalizing t with
  | nil => simp [history]
  | cons e' es ih => simp only [List.cons_append, history, ih, run_cons, List.append_assoc]

/-- **Induction over a run.** What holds at the start, and is kept by every single event that
may occur together with what the event amounts to, holds after every run. -/
theorem run_invariant (May : Event σ → Prop) {P : List Happening → Traffic σ → Prop}
    {t : Traffic σ} (start : P [] t)
    (next : ∀ h t e, May e → P h t → P (h ++ (t.happening? e).toList) (t.step e))
    (es : List (Event σ)) (hes : ∀ e ∈ es, May e) : P (t.history es) (t.run es) := by
  -- from the left the history so far has to be carried along
  suffices H : ∀ h t, P h t → P (h ++ t.history es) (t.run es) from H [] t start
  induction es with
  | nil =>
    intro h t ht
    simpa only [history, List.append_nil, run_nil] using ht
  | cons e es ih =>
    intro h t ht
    have he := next h t e (hes e (List.mem_cons_self ..)) ht
    have hrest := ih (fun e' he' => hes e' (List.mem_cons_of_mem e he')) _ _ he
    simpa only [history, run_cons, List.append_assoc] using hrest

end Traffic

end Rendezvous.Client
