/-
Every request of a run of the terminal, and what it is for.

Which calls a run makes is written down here a second time, without a word on how the client works:
a table says what each command calls for (`Command.call?`), and an account is kept of the pages that
are owed, which are to be fetched ahead because of a decision and have not been asked for yet
(`Sitting.owedAfter`). Together they give the calls of any run, the first one first
(`Sitting.calls`). `every_request_accounted_for` states that the requests that are handed to the
transport are these, one for one, and that there are no others.

The table is written with methods, paths and bodies of its own and not with `Endpoint`, so that a
wrong route in the program would not be repeated in it.

What ties the account to the client is `AccountAgrees`: the pages that are owed are those that are
due, and a page is pending in the account exactly if the flag of the deck says that one has been
claimed. Each move keeps the account and sends what its call says (`AccountAgrees.step`).
-/
import Rendezvous.Proofs.Client.Asked
import Rendezvous.Proofs.Terminal.Afterwards
import Rendezvous.Proofs.Text.Blank

set_option autoImplicit false

namespace Rendezvous.Terminal

open Client (Call Event Makes Operation Pending Sends Ticket Traffic)
open Credential (Storage)
open Service (Endpoint Failure)
open Web (Request Response)

variable {σ : Type}

/-! ## What is sent -/

/-- The request that a command sends. -/
def Turn.request? : Turn → Option Request
  | .waits _ request _ => some request
  | _ => none

namespace Sitting

/-- The request that a move sends. -/
def sent [Storage σ] (s : Sitting σ) : Move → Option Request
  | .command command => if s.pending.isNone then (s.app.begin command).2.request? else none
  | .fetch => s.app.traffic.sent? .fetchDue
  | .reply _ => none
  | .background _ _ => none

/-- The requests of a run, the first one first. -/
def trace [Storage σ] (s : Sitting σ) : List Move → List Request
  | [] => []
  | move :: moves => (s.sent move).toList ++ (s.step move).trace moves

end Sitting

/-! ## What is called for -/

/-- The call for the next page. -/
def pageCall (paging : Service.Paging) : Call :=
  .get ("/discover?limit=" ++ String.ofList (Nat.toDigits 10 paging.pageSize.toNat))

/-- What a command calls for, if so many pages are pending. `deck` calls for nothing while one is, a
swipe needs a card, and a message needs a conversation and a text that is not blank. -/
def Command.call? [Storage σ] (paging : Service.Paging) (pages : Nat) (a : App σ) :
    Command → Option Call
  | .logIn credentials => some (.post "/auth/login" (Wire.Credentials.codec.toJson credentials))
  | .register credentials =>
    some (.post "/auth/register" (Wire.Credentials.codec.toJson credentials))
  | .renew =>
    (a.client.store.token .refresh).1.map fun token =>
      .post "/auth/refresh" (Wire.Renewal.codec.toJson ⟨token⟩)
  | .deck => if pages = 0 then some (pageCall paging) else none
  | .swipe direction =>
    a.client.deck.value.current?.map fun candidate =>
      .post "/swipe" (Wire.Swipe.codec.toJson ⟨candidate.id, direction⟩)
  | .matchList => some (.get "/matches")
  | .chats => some (.get "/conversations")
  | .openChat id => some (.get ("/conversations/" ++ id))
  | .send text =>
    if text.toList.all Text.isBlank then none
    else a.chat.map fun room =>
      .post ("/conversations/" ++ a.client.roomId room ++ "/messages")
        (Wire.Draft.codec.toJson ⟨Text.trimmed text⟩)
  | .profile => some (.get "/profile")
  | .name text =>
    some (.put "/profile" (Wire.ProfileUpdate.codec.toJson { displayName := some text }))
  | .bio text => some (.put "/profile" (Wire.ProfileUpdate.codec.toJson { bio := some text }))
  | .logOut | .dismiss | .status | .help | .quit => none

namespace Sitting

variable (paging : Service.Paging) (owed : Nat) (s : Sitting σ)

/-- How many pages are pending: those that are owed, and those that have been asked for. -/
def pages : Nat :=
  owed + s.app.traffic.waiting.countP fun w => Client.asksPage w.2.endpoint

/-- What the command that waits has asked for. -/
def asked? : Option Endpoint :=
  s.pending.bind fun w => (s.app.traffic.waiting.lookup w.1).map Pending.endpoint

variable [Storage σ]

/-- The condition of `prefetch`: the answer is for a decision, the decision has arrived, few
candidates are left, and no page is pending. -/
def FetchesAhead (result : Except Failure Response) : Prop :=
  s.asked?.any Client.takesDecision = true ∧
    (Client.received Wire.SwipeResult.codec result).isSome = true ∧
    (s.step (.reply result)).app.client.deck.value.remaining ≤ paging.threshold ∧
    s.pages owed = 0

instance (result : Except Failure Response) : Decidable (s.FetchesAhead paging owed result) :=
  inferInstanceAs (Decidable (_ ∧ _ ∧ _ ∧ _))

/-- What a move calls for. -/
def call? : Move → Option Call
  | .command command =>
    if s.pending.isNone then command.call? paging (s.pages owed) s.app else none
  | .fetch => if owed = 0 then none else some (pageCall paging)
  | .reply _ => none
  | .background _ _ => none

/-- How many pages are owed after a move. A fetch that finds none owed is no fetch. -/
def owedAfter : Move → Nat
  | .reply result => if s.FetchesAhead paging owed result then owed + 1 else owed
  | .fetch => owed - 1
  | .command _ => owed
  | .background _ _ => owed

/-- The calls of a run, the first one first. -/
def calls (owed : Nat) (s : Sitting σ) : List Move → List Call
  | [] => []
  | move :: moves =>
    (s.call? paging owed move).toList ++
      calls (s.owedAfter paging owed move) (s.step move) moves

/-! ### Answers -/

variable {s}

/-- The command that waits is answered. -/
theorem traffic_reply {ticket : Ticket} {view : View} (h : s.pending = some (ticket, view))
    (result : Except Failure Response) :
    (s.step (.reply result)).app.traffic = s.app.traffic.step (.answer ticket result) := by
  simp only [step, h]
  exact App.present_traffic view _

/-- An answer to a request that was not made leaves no page owed. -/
theorem owedAfter_of_not_asked (h : s.asked? = none) (result : Except Failure Response) :
    s.owedAfter paging owed (.reply result) = owed := by
  rw [owedAfter, if_neg]
  intro hahead
  have hasked := hahead.1
  rw [h] at hasked
  cases hasked

end Sitting

/-! ## Commands -/

namespace App

/-- Every operation of the terminal has a business, since the terminal asks for nothing plainly. -/
theorem business?_of_task {a : App σ} {command : Command} {op : Operation} {view : View}
    (h : a.task command = .starts op view) : op.business?.isSome := by
  cases command with
  | send text =>
    simp only [task] at h
    split at h
    · rw [← (Task.starts.inj h).1]
      rfl
    · cases h
  | quit | help | status | logOut | dismiss => cases h
  | _ =>
    rw [← (Task.starts.inj h).1]
    rfl

variable [Storage σ]

/-- **What commands call for.** The table of the calls is what the operation asks for that the
command starts, on the terminal that is ready for it. -/
theorem call?_eq {paging : Service.Paging} {pages : Nat} {a : App σ}
    (hpaging : a.client.paging = paging) (hpages : pages = a.client.claims) (command : Command) :
    command.call? paging pages a =
      ((a.task command).operation?.bind fun op =>
        op.endpoint? (a.ready command).client).map Call.of := by
  cases command with
  | renew =>
    simp only [Command.call?, task, Task.operation?, Option.bind_some, Operation.endpoint?,
      Option.map_map]
    rfl
  | deck =>
    -- a page is pending exactly if the deck says that one has been claimed
    simp only [Command.call?, task, Task.operation?, Option.bind_some, Operation.endpoint?, ready]
    rw [hpages, Client.claims, ← hpaging]
    rcases Bool.eq_false_or_eq_true a.client.deck.value.loading with hloading | hloading
    · simp only [hloading]
      rfl
    · simp only [hloading]
      rfl
  | swipe direction =>
    simp only [Command.call?, task, Task.operation?, Option.bind_some, Operation.endpoint?, ready,
      Option.map_map]
    rfl
  | openChat id =>
    have hroom := Client.roomId_openRoom id a.client
    simp only [Command.call?, task, Task.operation?, Option.bind_some, Operation.endpoint?]
    exact congrArg (fun room => some (Call.of (.conversation room))) hroom.symm
  | send text =>
    simp only [Command.call?, task, ready]
    rcases a.chat with _ | room
    · simp only [Option.map_none, ite_self, Task.operation?, Option.bind_none]
    · simp only [Task.operation?, Option.bind_some, Operation.endpoint?]
      rw [Text.isEmpty_trimmed]
      split
      · rfl
      · rfl
  | _ => rfl

/-- A command that starts nothing sends nothing. -/
theorem request?_begin {a : App σ} {command : Command}
    (h : (a.task command).operation? = none) : (a.begin command).2.request? = none := by
  rw [begin]
  cases htask : a.task command with
  | starts op view =>
    rw [htask] at h
    cases h
  | _ => rfl

/-- Starting an operation sends the request of its first half. -/
theorem request?_start (op : Operation) (view : View) (a : App σ) :
    (a.start op view).2.request? = (a.traffic.client.begin op).2.request? := by
  obtain ⟨_, ⟨p, hp, hturn⟩ | ⟨⟨e, he⟩, text, hturn, _⟩⟩ := start_cases op view a
  · rw [hturn, hp]
    rfl
  · rw [hturn, he]
    rfl

end App

/-! ## The account

The agreement of the account with the client, and that every move keeps it. -/

/-- The account agrees with the client, if so many pages are owed: they are due, every answer will
be taken for what was asked, and a decision is on the way only for the command that waits. -/
structure AccountAgrees (address : String) (paging : Service.Paging) (owed : Nat) (s : Sitting σ) :
    Prop where
  single : s.app.traffic.Single
  due : s.app.traffic.due = owed
  fitting : s.app.traffic.Fitting
  cursor : ∃ sights, CursorAtLastSight sights s
  address : s.app.client.address = address
  paging : s.app.client.paging = paging

namespace AccountAgrees

variable {address : String} {paging : Service.Paging} {owed : Nat} {s : Sitting σ}

/-- The pages that are pending in the account are the ones that the flag of the deck says have been
claimed. -/
theorem pages_eq (h : AccountAgrees address paging owed s) :
    s.pages owed = s.app.client.claims := by
  have hpending := h.fitting.pagesPending
  rw [h.single.pending, h.due] at hpending
  exact hpending.symm

variable [Storage σ]

/-- What every move keeps. What is left to see for one of them is how many pages are owed, and what
is on the way. -/
theorem of_step (h : AccountAgrees address paging owed s) (move : Move) {owed' : Nat}
    (hdue : (s.step move).app.traffic.due = owed') (hfitting : (s.step move).app.traffic.Fitting) :
    AccountAgrees address paging owed' (s.step move) := by
  have hcontinues := s.continues_step move
  obtain ⟨es, hes⟩ := hcontinues.traffic
  obtain ⟨haddress, hpaging, _⟩ := hcontinues.settings
  obtain ⟨sights, hcursor⟩ := h.cursor
  exact {
    single := by
      rw [hes]
      exact h.single.run es
    due := hdue
    fitting := hfitting
    cursor := ⟨_, hcursor.step move⟩
    address := haddress.trans h.address
    paging := hpaging.trans h.paging }

/-- A move that changes nothing. -/
theorem of_idle (h : AccountAgrees address paging owed s) {move : Move} (hstep : s.step move = s) :
    AccountAgrees address paging owed (s.step move) := by
  rw [hstep]
  exact h

/-! ### Moves -/

/-- A command that is given sends what it calls for. At most one request is handed over at once;
what a command leads to later is accounted for at that later move. -/
theorem command (h : AccountAgrees address paging owed s) (command : Command) :
    Sends address (s.call? paging owed (.command command)) (s.sent (.command command)) ∧
      AccountAgrees address paging owed (s.step (.command command)) := by
  rcases hp : s.pending with _ | w
  · -- nothing waits, so it is given
    have hready := App.readied command s.app
    have hcall := App.call?_eq h.paging h.pages_eq command
    rcases hop : (s.app.task command).operation? with _ | op
    · have hafter : (s.step (.command command)).app.traffic = (s.app.ready command).traffic := by
        rw [Sitting.step_command hp]
        exact App.traffic_begin hop
      refine ⟨?_, h.of_step _ ?_ ?_⟩
      · simp only [Sitting.call?, Sitting.sent, hp, Option.isNone_none, if_true]
        rw [hcall, hop, App.request?_begin hop]
        exact Client.sends_none address
      · rw [hafter, hready.due, h.due]
      · intro w hw
        rw [hafter, hready.waiting] at hw
        exact h.fitting w hw
    · obtain ⟨view, htask⟩ := Task.operation?_eq_some.mp hop
      have hbegin := App.begin_of_task htask
      have hbegun := Client.begin_begun (App.business?_of_task htask) (s.app.ready command).client
      have hafter : (s.step (.command command)).app.traffic =
          ((s.app.ready command).traffic.proceed ((s.app.ready command).client.begin op)).1 := by
        rw [Sitting.step_command hp, hbegin]
        exact (App.start_cases op view _).1
      have hfitting : (s.app.ready command).traffic.Fitting := by
        intro w hw
        rw [hready.waiting] at hw
        exact h.fitting w hw
      refine ⟨?_, h.of_step _ ?_ ?_⟩
      · simp only [Sitting.call?, Sitting.sent, hp, Option.isNone_none, if_true]
        rw [hcall, hop, hbegin, App.request?_start, ← h.address, ← hready.address]
        exact hbegun.sends
      · rw [hafter, Traffic.due_proceed hbegun, hready.due, h.due]
      · rw [hafter]
        exact hfitting.proceed hbegun
  · -- one at a time
    have hstep : s.step (.command command) = s := by
      simp only [Sitting.step, hp]
    refine ⟨?_, h.of_idle hstep⟩
    simp only [Sitting.call?, Sitting.sent, hp]
    exact Client.sends_none address

/-- A page that is owed is asked for, and is owed no longer. A fetch with nothing owed is no fetch,
and then nothing is sent. -/
theorem fetch (h : AccountAgrees address paging owed s) :
    Sends address (s.call? paging owed .fetch) (s.sent .fetch) ∧
      AccountAgrees address paging (owed - 1) (s.step .fetch) := by
  rcases owed with _ | n
  · -- none is owed
    have hfetch := Traffic.fetchDue_of_none h.due
    have hstep : s.step .fetch = s := by
      simp only [Sitting.step, Traffic.step, hfetch]
    refine ⟨?_, h.of_idle hstep⟩
    simp only [Sitting.call?, Sitting.sent, Traffic.sent?, hfetch, if_true, Option.bind_none]
    exact Client.sends_none address
  · obtain ⟨hdue, hfitting, hsends⟩ := Traffic.fetchDue_of_succ h.due h.fitting
    refine ⟨?_, h.of_step .fetch hdue hfitting⟩
    rw [Sitting.call?, if_neg (Nat.succ_ne_zero n), Sitting.sent, ← h.address, ← h.paging]
    exact hsends

/-- The condition of the account is the one of the client: an answer has the next page fetched ahead
exactly if it leaves a page due. -/
theorem fetchesAhead_iff (h : AccountAgrees address paging owed s) {ticket : Ticket} {view : View}
    (hpending : s.pending = some (ticket, view)) {p : Pending}
    (hp : s.app.traffic.waiting.lookup ticket = some p) (result : Except Failure Response) :
    s.FetchesAhead paging owed result ↔
      (s.app.traffic.client.settle p result).2.fetchDue = true := by
  have hasked : s.asked?.any Client.takesDecision = p.purpose.isDecision := by
    rw [Sitting.asked?, hpending, Option.bind_some, hp,
      (h.fitting _ (Traffic.mem_waiting_of_lookup hp)).decision]
    rfl
  -- a request is under way, so the second of the two cases for an answer is the one at hand
  have hafter : (s.step (.reply result)).app.client =
      (s.app.traffic.client.settle p result).1 := by
    rcases Traffic.answer_cases ticket result s.app.traffic with ⟨hno, _⟩ | ⟨q, hq, hclient, _⟩
    · rw [hp] at hno
      cases hno
    · obtain rfl := Option.some.inj (hp.symm.trans hq)
      rw [App.client, Sitting.traffic_reply hpending, hclient]
  rw [Client.settle, Client.fetchDue_conclude_iff, Sitting.FetchesAhead, hasked, hafter, h.pages_eq,
    ← h.paging]
  rfl

/-- The command that waits is answered: if that has the next page fetched ahead, it is owed. One
page is added to the account then, and the next `fetch` takes it off again. -/
theorem reply (h : AccountAgrees address paging owed s) (result : Except Failure Response) :
    AccountAgrees address paging (s.owedAfter paging owed (.reply result))
      (s.step (.reply result)) := by
  rcases hpending : s.pending with _ | ⟨ticket, view⟩
  · have hasked : s.asked? = none := by
      rw [Sitting.asked?, hpending, Option.bind_none]
    have hstep : s.step (.reply result) = s := by
      simp only [Sitting.step, hpending]
    rw [Sitting.owedAfter_of_not_asked _ _ hasked]
    exact h.of_idle hstep
  · have htraffic := Sitting.traffic_reply hpending result
    refine h.of_step _ ?_ (htraffic ▸ h.fitting.answer ticket result)
    rw [htraffic]
    -- the reply is to no request, and nothing changes, or it settles the one that is pending
    rcases hp : s.app.traffic.waiting.lookup ticket with _ | p
    · have hasked : s.asked? = none := by
        rw [Sitting.asked?, hpending, Option.bind_some, hp, Option.map_none]
      rw [Sitting.owedAfter_of_not_asked _ _ hasked, Traffic.step, Traffic.answer, hp]
      exact h.due
    · have hahead := h.fetchesAhead_iff hpending hp result
      rw [Sitting.owedAfter, Traffic.due_answer hp, h.due]
      by_cases hdue : (s.app.traffic.client.settle p result).2.fetchDue = true
      · rw [if_pos (hahead.mpr hdue), hdue]
        rfl
      · rw [if_neg (mt hahead.mp hdue), (Bool.not_eq_true _).mp hdue]
        rfl

/-- An answer in the background is not for a decision, so no page is owed because of it. Decisions
are waited for, since `swipe` holds the terminal until its answer comes. -/
theorem background (h : AccountAgrees address paging owed s) (ticket : Ticket)
    (result : Except Failure Response) :
    AccountAgrees address paging owed (s.step (.background ticket result)) := by
  by_cases hticket : s.pending.map Prod.fst = some ticket
  · have hstep : s.step (.background ticket result) = s := by
      simp only [Sitting.step, if_pos hticket]
    exact h.of_idle hstep
  · have htraffic : (s.step (.background ticket result)).app.traffic =
        s.app.traffic.step (.answer ticket result) := by
      simp only [Sitting.step, if_neg hticket]
    refine h.of_step _ ?_ (htraffic ▸ h.fitting.answer ticket result)
    rw [htraffic]
    rcases hp : s.app.traffic.waiting.lookup ticket with _ | p
    · rw [Traffic.step, Traffic.answer, hp]
      exact h.due
    · have hother : p.purpose.isDecision = false := by
        -- a decision would be under the ticket of the command that waits
        refine eq_false_of_ne_true fun hdecision => ?_
        obtain ⟨id, hpurpose⟩ := Client.Purpose.isDecision_iff.mp hdecision
        obtain ⟨sights, hcursor⟩ := h.cursor
        have hwaits := hcursor.decisions _ (Traffic.mem_waiting_of_lookup hp) id hpurpose
        exact hticket (by rw [hwaits]; rfl)
      rw [Traffic.due_answer hp, Client.settle, Client.fetchDue_conclude hother]
      exact h.due

theorem step (h : AccountAgrees address paging owed s) (move : Move) :
    Sends address (s.call? paging owed move) (s.sent move) ∧
      AccountAgrees address paging (s.owedAfter paging owed move) (s.step move) := by
  cases move with
  | command command => exact h.command command
  | reply result => exact ⟨Client.sends_none address, h.reply result⟩
  | fetch => exact h.fetch
  | background ticket result => exact ⟨Client.sends_none address, h.background ticket result⟩

/-- The calls that have somewhere to go are made, one for one. -/
theorem run (h : AccountAgrees address paging owed s) (moves : List Move) :
    List.Forall₂ (Makes address)
      ((s.calls paging owed moves).filter fun call => (call.url? address).isSome)
      (s.trace moves) := by
  induction moves generalizing owed s with
  | nil => exact .nil
  | cons move moves ih =>
    obtain ⟨hsends, hagrees⟩ := h.step move
    rw [Sitting.calls, Sitting.trace, List.filter_append]
    exact List.rel_append hsends (ih hagrees)

end AccountAgrees

variable [Storage σ]

theorem accountAgrees_started (address : String) (paging : Service.Paging)
    (store : Credential.Store σ) (today : Time.Date) :
    AccountAgrees address paging 0 (Sitting.started address paging store today) where
  single := Traffic.single_started address paging store
  due := rfl
  fitting := fun _ hw => nomatch hw
  cursor := ⟨_, cursorAtLastSight_run address paging store today []⟩
  address := (Client.confined_resume ({ address, paging, store } : Client σ)).address
  paging := (Client.confined_resume ({ address, paging, store } : Client σ)).paging

/-- **Every request is accounted for.** Let the terminal be used in any way, with any answers to
whatever is asked and with the pages that are fetched ahead asked for and answered at any time. If
the URL of every call can be resolved, the requests that are handed to the transport make these
calls, one for one and in this order: those of the commands, and one for each page that is owed and
whose turn has come. -/
theorem every_request_accounted_for (address : String) (paging : Service.Paging)
    (store : Credential.Store σ) (today : Time.Date) (moves : List Move)
    (hurl : ∀ call ∈ (Sitting.started address paging store today).calls paging 0 moves,
      (call.url? address).isSome = true) :
    List.Forall₂ (Makes address)
      ((Sitting.started address paging store today).calls paging 0 moves)
      ((Sitting.started address paging store today).trace moves) := by
  have hrun := (accountAgrees_started address paging store today).run moves
  rw [List.filter_eq_self.mpr hurl] at hrun
  exact hrun

/-- A login, and a refresh that fails; three candidates, and decisions about two of them while the
next page is fetched, which fails; then a conversation that does not come, and two messages to it,
one of them blank. -/
def busy : List Move :=
  [.command (.logIn ⟨"ada", "secret"⟩),
    .reply (agreed "[\"a\",\"r\",7]"),
    .command .renew, .reply (.ok ⟨503, []⟩),
    .command .deck, .reply (agreed
      "[[[\"a\",\"A\",30,null,[],null],[\"b\",\"B\",30,null,[],null],[\"c\",\"C\",30,null,[],null]]]"),
    .command (.swipe .like), .reply (agreed "\x7b\x7d"),
    .command .deck, .fetch, .fetch,
    .command (.swipe .pass), .reply (agreed "\x7b\x7d"),
    .background 5 (.ok ⟨500, []⟩), .command .dismiss,
    .command (.openChat "x"), .reply (.ok ⟨404, []⟩),
    .command (.send " "), .command (.send " hello "), .reply (.ok ⟨503, []⟩),
    .command .logOut, .command (.send "hello"), .command .renew, .command .quit]

/-- The calls of a run with a login, a refresh, two decisions and a message. The second page is
fetched ahead because of the first decision, between the two. -/
theorem every_request_accounted_for_busy :
    (∀ call ∈ freshSitting.calls {} 0 busy, (call.url? "http://host").isSome = true) ∧
    (freshSitting.calls {} 0 busy).map (fun call => (call.method, call.path)) =
      [(.post, "/auth/login"), (.post, "/auth/refresh"), (.get, "/discover?limit=10"),
        (.post, "/swipe"), (.get, "/discover?limit=10"), (.post, "/swipe"),
        (.get, "/conversations/x"), (.post, "/conversations/x/messages")] ∧
    List.Forall₂ (Makes "http://host") (freshSitting.calls {} 0 busy)
      (freshSitting.trace busy) := by
  have hurl : ∀ call ∈ freshSitting.calls {} 0 busy,
      (call.url? "http://host").isSome = true := by
    decide +kernel
  refine ⟨hurl, ?_, every_request_accounted_for _ _ _ _ busy hurl⟩
  decide +kernel

end Rendezvous.Terminal
