/-
Where `App::dispatch` sends a message, and what its `chat_view` shows of a conversation.

`App` keeps one `ChatDetailController` at most, in its field `chat`. A person who reads the output
cannot see that field: `open ID` sets it although the transcript may then fail to load, other
commands leave it alone, and `logout` sets it to `None`. What can be seen is which commands were
given and which answers came, and from these two things are computed here. `latestOpened` is the id
of the last `open` that no `logout` followed. `Sitting.exchange` is an account of what was heard in
that conversation (`Client.Exchange`): it begins empty with every `open`, of the same conversation
too, takes in the answers to the command that waits, and ends with a `logout`.

`messages_keep_to_their_conversation` shows that the program goes by these two. `Endpoint::Send` is
executed exactly if a `send` is given whose text is not blank while a conversation is open, and it
names that conversation; and what is printed of a conversation is the account, in which every
message was brought by an answer for that conversation since it was opened. The invariant that
carries it is `RoomTellsAccount`: between two moves the screen that `chat` points to holds what the
account holds, and the only request under way that can change it is the one the command waits for.
-/
import Rendezvous.Proofs.Client.Exchange
import Rendezvous.Proofs.Client.Flags
import Rendezvous.Proofs.Terminal.Requests

set_option autoImplicit false

namespace Rendezvous.Terminal

open Client (Asks Brings Exchange Operation Pending Recounts Ticket Traffic about?)
open Credential (Storage)
open Service (Endpoint Failure)
open Web (Response)

variable {σ : Type}

/-! ## From the outside

What follows is computed from the commands that are given and from the answers to them. Neither
`App` nor a controller occurs in it. -/

/-- Whether a command prints `chat_view` when it is done. `open` and `send` do; the `chats` list
shows previews and no transcript. -/
def Command.talks : Command → Bool
  | .openChat _ | .send _ => true
  | _ => false

/-- The conversation that is open after a command. An `open` counts from the moment it is given,
whether its transcript can be loaded or not. -/
def Command.leavesOpen (id : Option String) : Command → Option String
  | .openChat id' => some id'
  | .logOut => none
  | _ => id

/-- The conversation that was opened last, if no `logout` has followed. -/
def latestOpened (commands : List Command) : Option String :=
  commands.foldl Command.leavesOpen none

/-- What a command makes of the account of the open conversation. An `open` begins it anew, since a
new `ChatDetailController` is made each time; a `send` asks in the account that there is, and a
blank one asks nothing. -/
def Command.exchange (address : String) (x : Option Exchange) : Command → Option Exchange
  | .openChat id => some (Exchange.ask address (.conversation id) ⟨id, [], none⟩)
  | .logOut => none
  | .send text => x.map fun x =>
      if text.toList.all Text.isBlank then x
      else x.ask address (.send x.conversationId ⟨Text.trimmed text⟩)
  | _ => x

namespace Sitting

/-- The account after a move. Only the answer to the command that waits adds to it. -/
def exchangeAfter (address : String) (s : Sitting σ) (x : Option Exchange) :
    Move → Option Exchange
  | .command command => if s.pending.isNone then command.exchange address x else x
  | .reply result =>
    match s.asked? with
    | some e => x.map (Exchange.hear e result)
    | none => x
  | .fetch => x
  | .background _ _ => x

/-- The account after a run. -/
def exchange [Storage σ] (address : String) (s : Sitting σ) (x : Option Exchange) :
    List Move → Option Exchange
  | [] => x
  | move :: moves => (s.step move).exchange address (s.exchangeAfter address x move) moves

variable [Storage σ]

theorem exchange_concat (address : String) (s : Sitting σ) (x : Option Exchange)
    (moves : List Move) (move : Move) :
    s.exchange address x (moves ++ [move]) =
      (s.run moves).exchangeAfter address (s.exchange address x moves) move := by
  induction moves generalizing s x with
  | nil => rfl
  | cons move' moves ih =>
    have hrun : s.run (move' :: moves) = (s.step move').run moves := rfl
    simp only [List.cons_append, exchange, ih, hrun]

theorem given_append (s : Sitting σ) (moves moves' : List Move) :
    s.given (moves ++ moves') = s.given moves ++ (s.run moves).given moves' := by
  induction moves generalizing s with
  | nil => rfl
  | cons move moves ih =>
    have hrun : s.run (move :: moves) = (s.step move).run moves := rfl
    simp only [List.cons_append, given, ih, hrun, List.append_assoc]

theorem given_concat (s : Sitting σ) (moves : List Move) (move : Move) :
    s.given (moves ++ [move]) = s.given moves ++ ((s.run moves).given? move).toList := by
  rw [given_append]
  simp only [given, List.append_nil]

end Sitting

/-! ## What is asked

An endpoint is executed whether or not its URL can be built, so that "what is asked" is not the same
as "what goes out". The first is read off the command here; `MessagesKeep.goesOut` joins the two. -/

/-- The conversation that a view shows, as an index into the rooms of the client. -/
def View.room? : View → Option Nat
  | .opening room | .thread room => some room
  | _ => none

/-- The endpoint that a move executes, whether or not there is a URL to send it to. -/
def Sitting.executes? [Storage σ] (s : Sitting σ) : Move → Option Endpoint
  | .command command =>
    if s.pending.isNone then
      (s.app.task command).operation?.bind fun op => op.endpoint? (s.app.ready command).client
    else none
  | .fetch =>
    if s.app.traffic.due = 0 then none
    else some (.candidates s.app.client.paging.pageSize)
  | .reply _ => none
  | .background _ _ => none

namespace App

variable [Storage σ]

/-- A command that starts nothing waits for nothing, and sends nothing. -/
theorem begin_of_no_operation {a : App σ} {command : Command}
    (h : (a.task command).operation? = none) :
    (a.begin command).2.waits? = none ∧
      (a.begin command).1.traffic.waiting = a.traffic.waiting := by
  refine ⟨?_, (congrArg Traffic.waiting (traffic_begin h)).trans (readied command a).waiting⟩
  rw [begin]
  cases htask : a.task command with
  | starts op view =>
    rw [htask] at h
    cases h
  | _ => rfl

omit [Storage σ] in
/-- A message that starts nothing has no conversation to go to. -/
theorem chat_of_no_operation {a : App σ} {text : String}
    (h : (a.task (.send text)).operation? = none) : a.chat = none := by
  simp only [task] at h
  split at h
  · cases h
  · assumption

/-- Without a conversation a person is told so, and that is all. -/
theorem begin_send_closed {a : App σ} (h : a.chat = none) (text : String) :
    a.begin (.send text) = (a, .replies "No conversation open. Use 'open ID' first") := by
  simp only [begin, task, h]
  rfl

/-- The conversation that is open once a view has been shown. -/
def chatAfter (view : View) (chat : Option Nat) : Option Nat :=
  match view with
  | .opening room => some room
  | _ => chat

omit [Storage σ] in
theorem chat_present (view : View) (a : App σ) :
    (a.present view).1.chat = chatAfter view a.chat := by
  cases view <;> rfl

omit [Storage σ] in
theorem text_present {view : View} {room : Nat} (h : view.room? = some room) (a : App σ) :
    (a.present view).2 = (a.present view).1.threadShown room := by
  cases view with
  | opening room' | thread room' =>
    obtain rfl := Option.some.inj h
    rfl
  | _ => cases h

/-- **Starting an operation** either leaves its request under way, and then the view is shown with
the answer, or ends it at once, and then the view is shown with it. Which of the two happens depends
on the guards of the controller, and no caller needs to know. -/
theorem start_spec (op : Operation) (view : View) (a : App σ) :
    (a.start op view).1.traffic = a.traffic.step (.begin op) ∧
      ((∃ p, (a.client.begin op).2 = .waiting p ∧
          (a.start op view).2.waits? = some (a.traffic.next, view) ∧
          (a.start op view).2.text? = none ∧ (a.start op view).1.chat = a.chat) ∨
        ((a.start op view).2.waits? = none ∧ (a.start op view).1.chat = chatAfter view a.chat ∧
          (a.start op view).1.traffic.waiting = a.traffic.waiting ∧
          ∀ room, view.room? = some room →
            (a.start op view).2.text? = some ((a.start op view).1.threadShown room))) := by
  refine ⟨(start_cases op view a).1, ?_⟩
  -- the operation waits for a reply, and nothing is shown yet, or it has ended and its view is
  -- shown
  rcases Traffic.proceed_cases (a.client.begin op) a.traffic with
    ⟨p, hp, hstatus, _⟩ | ⟨e, _, hstatus, hwaiting⟩
  · have hstatus : (a.traffic.begin op).2 = (a.traffic.next, .sent p.request) := hstatus
    simp only [start, hstatus]
    exact .inl ⟨p, hp, rfl, rfl, trivial⟩
  · have hstatus : (a.traffic.begin op).2 = (a.traffic.next, .ended e.outcome) := hstatus
    simp only [start, hstatus]
    exact .inr ⟨rfl, chat_present view _,
      (congrArg Traffic.waiting (present_traffic view _)).trans hwaiting,
      fun room hroom => congrArg some (text_present hroom _)⟩

end App

/-! ## What waits -/

/-- The conversation that is open, or is being opened. `App::dispatch` sets `chat` after the
transcript has been loaded, so while `open` waits it is the view that names the new conversation. -/
def Sitting.room? (s : Sitting σ) : Option Nat :=
  match s.pending with
  | some (_, .opening room) => some room
  | _ => s.app.chat

/-- No request under way is about a conversation. -/
def Quiet (t : Traffic σ) : Prop :=
  ∀ w ∈ t.waiting, ∀ room, w.2.purpose.screen? ≠ some (.thread room)

/-- **A sitting after an operation has been started**: the view is shown or will be, and what waits
then is what the operation asks for. It is stated once here so that `open`, `send` and the commands
that are about no conversation can each cite it. -/
structure Sitting.Starts [Storage σ] (a : App σ) (op : Operation) (view : View) (s : Sitting σ) :
    Prop where
  traffic : s.app.traffic = a.traffic.step (.begin op)
  room : s.room? = App.chatAfter view a.chat
  pending : ∀ {ticket view'}, s.pending = some (ticket, view') → view' = view ∧
    ∃ p, (ticket, p) ∈ s.app.traffic.waiting ∧ op.endpoint? a.client = some p.endpoint ∧
      p.purpose.business? = op.business?
  alone : Quiet a.traffic → ∀ w ∈ s.app.traffic.waiting, ∀ room,
    w.2.purpose.screen? = some (.thread room) → s.pending.map Prod.fst = some w.1

theorem Sitting.starts [Storage σ] (a : App σ) (op : Operation) (view : View) :
    Starts a op view ⟨(a.start op view).1, (a.start op view).2.waits?⟩ := by
  obtain ⟨htraffic, ⟨p, hp, hwaits, -, hchat⟩ | ⟨hwaits, hchat, hwaiting, -⟩⟩ :=
    App.start_spec op view a
  · have hwaiting : (a.traffic.next, p) ∈ (a.start op view).1.traffic.waiting := by
      rw [htraffic]
      exact Traffic.mem_waiting_of_waiting (r := a.traffic.client.begin op) hp
    refine ⟨htraffic, ?_, ?_, ?_⟩
    · rw [room?, hwaits, hchat]
      cases view <;> rfl
    · intro ticket view' h
      obtain ⟨rfl, rfl⟩ := Prod.mk.inj (Option.some.inj (hwaits.symm.trans h))
      exact ⟨rfl, p, hwaiting, Client.endpoint_of_begin hp⟩
    · intro hquiet w hw room hroom
      show (a.start op view).2.waits?.map Prod.fst = some w.1
      rw [htraffic] at hw
      -- what is under way was so before, or is the request that has just been handed over
      rcases Traffic.mem_waiting_proceed hw with hold | ⟨hticket, _⟩
      · exact absurd hroom (hquiet w hold room)
      · rw [hwaits, hticket]
        rfl
  · refine ⟨htraffic, ?_, ?_, ?_⟩
    · rw [room?, hwaits]
      exact hchat
    · intro ticket view' h
      rw [hwaits] at h
      cases h
    · intro hquiet w hw room hroom
      rw [hwaiting] at hw
      exact absurd hroom (hquiet w hw room)

/-- A command that is given starts what it starts. -/
theorem Sitting.starts_of_command [Storage σ] {s : Sitting σ} (hp : s.pending = none)
    {command : Command} {op : Operation} {view : View}
    (h : s.app.task command = .starts op view) :
    (s.step (.command command)).Starts (s.app.ready command) op view := by
  rw [step_command hp, App.begin_of_task h]
  exact starts (s.app.ready command) op view

/-- The request that a view waits for agrees with the view: if it shows a conversation, the request
is about the one of the account, and if it shows none, the request is about none. -/
def Awaits (x : Option Exchange) (talks : Bool) (view : View) (p : Pending) : Prop :=
  match view.room? with
  | some room => talks = true ∧ ∃ y, x = some y ∧ Asks room y.conversationId p.purpose p.endpoint
  | none => talks = false ∧ about? p.endpoint = none ∧
      ∀ room, p.purpose.screen? ≠ some (.thread room)

/-- **The room that is open tells the account**, after these commands and with this account `x` of
what was heard. This is the invariant of the module. `alone` is what makes it survive an answer to a
request in the background: only the command that waits has asked about a conversation. -/
structure RoomTellsAccount (address : String) (commands : List Command) (x : Option Exchange)
    (s : Sitting σ) : Prop where
  /-- the base address is the one the program was started with -/
  address : s.app.client.address = address
  single : s.app.traffic.Single
  /-- the account is of the conversation that was opened last -/
  named : x.map Exchange.conversationId = latestOpened commands
  closed : x = none → s.room? = none
  /-- the screen of the open conversation holds what the account holds -/
  recounts : ∀ y, x = some y → ∃ room, s.room? = some room ∧ Recounts room y s.app.client
  /-- a command that waits has a request under way, for the view it will show -/
  waits : ∀ ticket view, s.pending = some (ticket, view) →
    ∃ command p, commands.getLast? = some command ∧ (ticket, p) ∈ s.app.traffic.waiting ∧
      (∀ room, view.room? = some room → s.room? = some room) ∧ Awaits x command.talks view p
  /-- only the command that waits has asked about a conversation -/
  alone : ∀ w ∈ s.app.traffic.waiting, ∀ room, w.2.purpose.screen? = some (.thread room) →
    s.pending.map Prod.fst = some w.1

/-- A command that neither shows a conversation nor closes it, so that it changes neither of the two
accounts. -/
structure Command.Aside (command : Command) : Prop where
  talks : command.talks = false
  stays : command ≠ .logOut

theorem Command.Aside.exchange {command : Command} (h : command.Aside) (address : String)
    (x : Option Exchange) : command.exchange address x = x := by
  cases command with
  | openChat | send => cases h.talks
  | logOut => exact absurd rfl h.stays
  | _ => rfl

theorem Command.Aside.leavesOpen {command : Command} (h : command.Aside) (id : Option String) :
    command.leavesOpen id = id := by
  cases command with
  | openChat | send => cases h.talks
  | logOut => exact absurd rfl h.stays
  | _ => rfl

theorem latestOpened_concat (commands : List Command) (command : Command) :
    latestOpened (commands ++ [command]) = command.leavesOpen (latestOpened commands) := by
  simp only [latestOpened, List.foldl_append, List.foldl_cons, List.foldl_nil]

/-- **How commands start operations.** One opens a conversation, one sends a message to the one that
is open, and the others are about none. It is the only place where the sixteen commands are told
apart; the invariant is proved from these three cases. -/
theorem App.task_cases [Storage σ] {a : App σ} {command : Command} {op : Operation} {view : View}
    (h : a.task command = .starts op view) :
    (∃ id, command = .openChat id ∧ op = .loadThread (a.client.openRoom id).2 ∧
      view = .opening (a.client.openRoom id).2) ∨
    (∃ text room, command = .send text ∧ a.chat = some room ∧ op = .send room text ∧
      view = .thread room) ∨
    (command.Aside ∧ a.ready command = a ∧ view.room? = none ∧
      (∀ room, op.screen? ≠ some (.thread room)) ∧
      ∀ e, op.endpoint? a.client = some e → about? e = none) := by
  cases command with
  | openChat id =>
    cases h
    exact .inl ⟨id, rfl, rfl, rfl⟩
  | send text =>
    simp only [task] at h
    split at h
    · rename_i room hchat
      cases h
      exact .inr (.inl ⟨text, room, rfl, hchat, rfl, rfl⟩)
    · cases h
  -- these are answered at once and start no operation
  | logOut | dismiss | status | help | quit => cases h
  -- the commands from here on concern no conversation; what is left is that their endpoint does not
  -- either
  | renew =>
    cases h
    refine .inr (.inr ⟨⟨rfl, fun h => (by cases h)⟩, rfl, rfl, fun room h => (by cases h),
      fun e he => ?_⟩)
    obtain ⟨token, -, rfl⟩ := Option.map_eq_some_iff.mp he
    rfl
  | deck =>
    cases h
    refine .inr (.inr ⟨⟨rfl, fun h => (by cases h)⟩, rfl, rfl, fun room h => (by cases h),
      fun e he => ?_⟩)
    simp only [Operation.endpoint?] at he
    split at he
    · cases he
    · cases he
      rfl
  | swipe direction =>
    cases h
    refine .inr (.inr ⟨⟨rfl, fun h => (by cases h)⟩, rfl, rfl, fun room h => (by cases h),
      fun e he => ?_⟩)
    obtain ⟨candidate, -, rfl⟩ := Option.map_eq_some_iff.mp he
    rfl
  | _ =>
    cases h
    refine .inr (.inr ⟨⟨rfl, fun h => (by cases h)⟩, rfl, rfl, fun room h => (by cases h),
      fun e he => ?_⟩)
    cases he
    rfl

namespace RoomTellsAccount

variable {address : String} {commands : List Command} {x : Option Exchange} {s : Sitting σ}

/-- While no command waits, nothing under way is about a conversation: by `alone` it would be what
the command waits for. -/
theorem quiet (h : RoomTellsAccount address commands x s) (hp : s.pending = none) :
    Quiet s.app.traffic := by
  intro w hw room hroom
  have hwaits := h.alone w hw room hroom
  rw [hp] at hwaits
  cases hwaits

theorem room?_of_idle (hp : s.pending = none) : s.room? = s.app.chat := by
  rw [Sitting.room?, hp]

theorem room?_of_waits {ticket : Ticket} {view : View} (hp : s.pending = some (ticket, view)) :
    s.room? = App.chatAfter view s.app.chat := by
  rw [Sitting.room?, hp]
  cases view <;> rfl

variable [Storage σ]

/-- The conversation that is being opened is open once the answer is there. -/
theorem room?_reply {ticket : Ticket} {view : View} (hp : s.pending = some (ticket, view))
    (result : Except Failure Response) : (s.step (.reply result)).room? = s.room? := by
  have hnone : (s.step (.reply result)).pending = none := by
    simp only [Sitting.step, hp]
  rw [room?_of_idle hnone, room?_of_waits hp]
  simp only [Sitting.step, hp]
  exact App.chat_present view _

/-- The two parts of the invariant that every move preserves, whatever it is about. -/
theorem settings (h : RoomTellsAccount address commands x s) (move : Move) :
    (s.step move).app.client.address = address ∧ (s.step move).app.traffic.Single := by
  have hcontinues := s.continues_step move
  obtain ⟨es, hes⟩ := hcontinues.traffic
  refine ⟨hcontinues.settings.1.trans h.address, ?_⟩
  rw [hes]
  exact h.single.run es

/-! ### Commands -/

/-- A command that shows a conversation starts an operation of it. `open` and `send` differ in the
operation and in the account; everything else that the invariant asks is the same for both. -/
theorem talking (h : RoomTellsAccount address commands x s) {command : Command}
    (htalks : command.talks = true) {a₁ : App σ} {op : Operation} {view : View} {room : Nat}
    {y : Exchange} (hstarts : (s.step (.command command)).Starts a₁ op view)
    (hquiet : Quiet a₁.traffic) (hroom : view.room? = some room)
    (hchat : App.chatAfter view a₁.chat = some room)
    (hasks : ∀ p : Pending, op.endpoint? a₁.client = some p.endpoint →
      p.purpose.business? = op.business? → Asks room y.conversationId p.purpose p.endpoint)
    (hrecounts : Recounts room y (a₁.client.begin op).1)
    (hnamed : command.leavesOpen (latestOpened commands) = some y.conversationId) :
    RoomTellsAccount address (commands ++ [command]) (some y) (s.step (.command command)) := by
  obtain ⟨haddress, hsingle⟩ := h.settings (.command command)
  have hafter : (s.step (.command command)).room? = some room := hstarts.room.trans hchat
  exact {
    address := haddress
    single := hsingle
    -- the command names the conversation that the account is about from now on
    named := by
      rw [latestOpened_concat, hnamed]
      rfl
    closed := nofun
    recounts := by
      rintro _ ⟨⟩
      refine ⟨room, hafter, ?_⟩
      rw [App.client, hstarts.traffic, Traffic.begin_client]
      exact hrecounts
    -- what is pending is what the command has just started
    waits := by
      intro ticket view' hpending
      obtain ⟨rfl, p, hp, hendpoint, hbusiness⟩ := hstarts.pending hpending
      refine ⟨command, p, List.getLast?_concat, hp, fun room' hroom' => ?_, ?_⟩
      · rw [hafter, ← hroom, hroom']
      · rw [Awaits, hroom]
        exact ⟨htalks, y, rfl, hasks p hendpoint hbusiness⟩
    alone := hstarts.alone hquiet }

/-- A conversation is opened: its account starts empty, its room is the newest one, and its
transcript is what the command waits for. -/
theorem openChat (h : RoomTellsAccount address commands x s) (hp : s.pending = none) (id : String) :
    RoomTellsAccount address (commands ++ [.openChat id])
      (Command.exchange address x (.openChat id))
      (s.step (.command (.openChat id))) := by
  have hfresh := (Client.recounts_openRoom id s.app.client).loadThread
  rw [show (s.app.client.openRoom id).1.address = address from h.address] at hfresh
  refine h.talking rfl (Sitting.starts_of_command hp rfl) (h.quiet hp) rfl rfl ?_ hfresh
    (congrArg some (Exchange.conversationId_ask address (.conversation id) ⟨id, [], none⟩).symm)
  intro p he hb
  rw [Exchange.conversationId_ask]
  exact Client.asks_loadThread (Client.roomId_openRoom id s.app.client) he hb

/-- A message is sent to the conversation that is open. Blank text is not sent, and the account says
so too: it looks at the same trimmed text as the controller. -/
theorem send (h : RoomTellsAccount address commands x s) (hp : s.pending = none) {room : Nat}
    (hchat : s.app.chat = some room) (text : String) :
    RoomTellsAccount address (commands ++ [.send text]) (Command.exchange address x (.send text))
      (s.step (.command (.send text))) := by
  have htask : s.app.task (.send text) = .starts (.send room text) (.thread room) := by
    simp only [App.task, hchat]
  -- a conversation is shown, so the account is not empty
  obtain ⟨y, rfl⟩ : ∃ y, x = some y := by
    rcases x with _ | y
    · have hclosed := h.closed rfl
      rw [room?_of_idle hp, hchat] at hclosed
      cases hclosed
    · exact ⟨y, rfl⟩
  obtain ⟨room', hroom', hrecounts⟩ := h.recounts y rfl
  rw [room?_of_idle hp, hchat] at hroom'
  obtain rfl := Option.some.inj hroom'
  have hnamed : latestOpened commands = some y.conversationId := h.named.symm
  simp only [Command.exchange, Option.map_some]
  rw [← Text.isEmpty_trimmed]
  -- blank text asks nothing, and the account stays as it is
  by_cases hblank : (Text.trimmed text).isEmpty = true
  · rw [if_pos hblank]
    exact h.talking rfl (Sitting.starts_of_command hp htask) (h.quiet hp) rfl hchat
      (fun p he hb => Client.asks_send hrecounts.roomId he hb) (hrecounts.send_blank hblank) hnamed
  · rw [if_neg hblank]
    have hasked := hrecounts.send (eq_false_of_ne_true hblank)
    rw [show s.app.client.address = address from h.address] at hasked
    refine h.talking rfl (Sitting.starts_of_command hp htask) (h.quiet hp) rfl hchat ?_ hasked
      (hnamed.trans (congrArg some (Exchange.conversationId_ask ..).symm))
    intro p he hb
    rw [Exchange.conversationId_ask]
    exact Client.asks_send hrecounts.roomId he hb

/-- A move that leaves every conversation alone preserves the invariant, if what it leaves waiting
is what the view waits for. -/
theorem elsewhere (h : RoomTellsAccount address commands x s) {move : Move}
    {commands' : List Command} (hlatest : latestOpened commands' = latestOpened commands)
    (hroom : (s.step move).room? = s.room?)
    (hrooms : ∀ room : Nat,
      (s.step move).app.client.rooms[room]? = s.app.client.rooms[room]?)
    (hwaits : ∀ ticket view, (s.step move).pending = some (ticket, view) →
      ∃ command p, commands'.getLast? = some command ∧
        (ticket, p) ∈ (s.step move).app.traffic.waiting ∧
        (∀ room, view.room? = some room → s.room? = some room) ∧
        Awaits x command.talks view p)
    (halone : ∀ w ∈ (s.step move).app.traffic.waiting, ∀ room,
      w.2.purpose.screen? = some (.thread room) →
        (s.step move).pending.map Prod.fst = some w.1) :
    RoomTellsAccount address commands' x (s.step move) := by
  obtain ⟨haddress, hsingle⟩ := h.settings move
  exact {
    address := haddress
    single := hsingle
    named := h.named.trans hlatest.symm
    closed := fun hx => hroom.trans (h.closed hx)
    -- the room shown and its thread are untouched, so it goes on telling the account
    recounts := by
      intro y hy
      obtain ⟨room, hopen, hrecounts⟩ := h.recounts y hy
      exact ⟨room, hroom.trans hopen, hrecounts.of_rooms_eq (hrooms room)⟩
    waits := by
      rw [hroom]
      exact hwaits
    alone := halone }

/-- A command that is carried out at once and leaves the conversations alone: `dismiss`, `status`,
`help`, `quit`, and a `send` without a conversation. -/
theorem atOnce (h : RoomTellsAccount address commands x s) (hp : s.pending = none)
    {command : Command}
    (hop : (s.app.task command).operation? = none) (hlatest : ∀ id, command.leavesOpen id = id)
    (hchat : (s.app.begin command).1.chat = s.app.chat)
    (hrooms : (s.app.begin command).1.client.rooms = s.app.client.rooms) :
    RoomTellsAccount address (commands ++ [command]) x (s.step (.command command)) := by
  obtain ⟨hnone, hwaiting⟩ := App.begin_of_no_operation hop
  have hstep := Sitting.step_command hp command
  -- nothing was started, so the terminal is idle again with the room it had
  rw [hnone] at hstep
  refine h.elsewhere (by rw [latestOpened_concat, hlatest]) ?_ ?_ ?_ ?_
  · rw [room?_of_idle hp, hstep]
    exact hchat
  · intro room
    rw [hstep]
    exact congrArg (fun rooms : List Client.Room => rooms[room]?) hrooms
  · intro ticket view hpending
    rw [hstep] at hpending
    cases hpending
  · intro w hw room hroom
    rw [hstep] at hw
    rw [show (⟨(s.app.begin command).1, none⟩ : Sitting σ).app.traffic.waiting =
      s.app.traffic.waiting from hwaiting] at hw
    exact absurd hroom (h.quiet hp w hw room)

/-- A command that starts an operation which is about no conversation. The account stays as it is,
and the request that is handed over is none that the account waits for. -/
theorem startsAside (h : RoomTellsAccount address commands x s) (hp : s.pending = none)
    {command : Command} (hcommand : command.Aside) {op : Operation} {view : View}
    (htask : s.app.task command = .starts op view) (hready : s.app.ready command = s.app)
    (hview : view.room? = none)
    (hscreen : ∀ room, op.screen? ≠ some (.thread room))
    (habout : ∀ e, op.endpoint? s.app.client = some e → about? e = none) :
    RoomTellsAccount address (commands ++ [command]) x (s.step (.command command)) := by
  have hafter := Sitting.starts_of_command hp htask
  rw [hready] at hafter
  refine h.elsewhere (by rw [latestOpened_concat, hcommand.leavesOpen]) ?_ ?_ ?_
    (hafter.alone (h.quiet hp))
  · -- a view of no room leaves the room shown as it was
    rw [hafter.room, room?_of_idle hp]
    cases view with
    | opening room => cases hview
    | _ => rfl
  · intro room
    rw [App.client, hafter.traffic, Traffic.begin_client]
    exact (Client.confined_begin op s.app.client).rooms room (hscreen room)
  · intro ticket view' hpending
    obtain ⟨rfl, p, hwaiting, hendpoint, hbusiness⟩ := hafter.pending hpending
    refine ⟨command, p, List.getLast?_concat, hwaiting, fun room hroom => ?_, ?_⟩
    · rw [hview] at hroom
      cases hroom
    · rw [Awaits, hview]
      refine ⟨hcommand.talks, habout p.endpoint hendpoint, fun room => ?_⟩
      rw [Client.Purpose.screen?, hbusiness]
      exact hscreen room

/-- Logging out closes the conversation that is open: `dispatch` sets `chat` to `None` after the
session is closed, whether or not the tokens could be deleted. -/
theorem logOut (h : RoomTellsAccount address commands x s) (hp : s.pending = none) :
    RoomTellsAccount address (commands ++ [.logOut]) none (s.step (.command .logOut)) := by
  obtain ⟨haddress, hsingle⟩ := h.settings (.command .logOut)
  exact {
    address := haddress
    single := hsingle
    named := (latestOpened_concat commands .logOut).symm
    closed := by
      rw [Sitting.step_logOut hp]
      exact fun _ => rfl
    recounts := nofun
    waits := by
      rw [Sitting.step_logOut hp]
      nofun
    alone := by
      rw [Sitting.step_logOut hp]
      exact fun w hw room hroom => absurd hroom (h.quiet hp w hw room) }

/-- **A command that is given** preserves the invariant. The cases are those of `task_cases`: a
conversation is opened, a message is sent, or the command is about neither. -/
theorem given (h : RoomTellsAccount address commands x s) (hp : s.pending = none)
    (command : Command) :
    RoomTellsAccount address (commands ++ [command]) (command.exchange address x)
      (s.step (.command command)) := by
  rcases hop : (s.app.task command).operation? with _ | op
  · cases command with
    | send text =>
      -- no conversation is open, and none is in the account
      have hchat := App.chat_of_no_operation hop
      obtain rfl : x = none := by
        rcases x with _ | y
        · rfl
        · obtain ⟨room, hroom, -⟩ := h.recounts y rfl
          rw [room?_of_idle hp, hchat] at hroom
          cases hroom
      have hbegin := App.begin_send_closed hchat text
      exact h.atOnce hp hop (fun _ => rfl) (by rw [hbegin]) (by rw [hbegin])
    | logOut => exact h.logOut hp
    | dismiss | status | help | quit => exact h.atOnce hp hop (fun _ => rfl) rfl rfl
    | _ => cases hop
  · obtain ⟨view, htask⟩ := Task.operation?_eq_some.mp hop
    rcases App.task_cases htask with ⟨id, rfl, -⟩ | ⟨text, room, rfl, hchat, -⟩ |
      ⟨haside, hready, hview, hscreen, habout⟩
    · exact h.openChat hp id
    · exact h.send hp hchat text
    · rw [haside.exchange]
      exact h.startsAside hp haside htask hready hview hscreen habout

/-! ### Answers -/

/-- What a move that is no command finds waiting, waits still if it is on the way. It is shared by
the moves in the background, which change neither the command nor the room. -/
theorem awaited (h : RoomTellsAccount address commands x s) {move : Move}
    (hpending : (s.step move).pending = s.pending)
    (hwaiting : ∀ w ∈ s.app.traffic.waiting, s.pending.map Prod.fst = some w.1 →
      w ∈ (s.step move).app.traffic.waiting) (ticket : Ticket) (view : View)
    (hwaits : (s.step move).pending = some (ticket, view)) :
    ∃ command p, commands.getLast? = some command ∧
      (ticket, p) ∈ (s.step move).app.traffic.waiting ∧
      (∀ room, view.room? = some room → s.room? = some room) ∧ Awaits x command.talks view p := by
  rw [hpending] at hwaits
  obtain ⟨command, p, hlast, hp, hrest⟩ := h.waits ticket view hwaits
  exact ⟨command, p, hlast, hwaiting _ hp (by rw [hwaits]; rfl), hrest⟩

/-- A prefetch that `maybe_prefetch` has scheduled is about the deck. It may put a request under
way, but none that a command waits for. -/
theorem fetch (h : RoomTellsAccount address commands x s) :
    RoomTellsAccount address commands x (s.step .fetch) := by
  have htraffic : (s.step .fetch).app.traffic = s.app.traffic.step .fetchDue := rfl
  have hpending : (s.step .fetch).pending = s.pending := rfl
  have hconfined := Client.confined_step s.app.traffic .fetchDue
  refine h.elsewhere rfl rfl (fun room => hconfined.rooms room nofun)
    (h.awaited hpending fun w hw _ => ?_) fun w hw room hroom => ?_
  · rw [htraffic]
    rcases Traffic.fetchDue_cases s.app.traffic with heq | ⟨n, _, heq⟩
    · rw [heq]
      exact hw
    · rw [heq]
      have hrest : w ∈ ({ s.app.traffic with due := n } : Traffic σ).waiting := hw
      exact Traffic.mem_waiting_of_proceed s.app.traffic.client.fetchPage hrest
  · rw [htraffic] at hw
    rcases Traffic.fetchDue_cases s.app.traffic with heq | ⟨n, _, heq⟩
    · rw [heq] at hw
      exact h.alone w hw room hroom
    · rw [heq] at hw
      rcases Traffic.mem_waiting_proceed hw with hold | ⟨_, hnew⟩
      · exact h.alone w hold room hroom
      · -- a page is on another screen
        rw [(Client.fetchPage_waiting hnew).1] at hroom
        cases hroom

/-- An answer that no command waits for leaves the open conversation alone, since only the command
that waits has asked about one. -/
theorem background (h : RoomTellsAccount address commands x s) (ticket : Ticket)
    (result : Except Failure Response) :
    RoomTellsAccount address commands x (s.step (.background ticket result)) := by
  by_cases hticket : s.pending.map Prod.fst = some ticket
  · have hstep : s.step (.background ticket result) = s := by
      simp only [Sitting.step, if_pos hticket]
    rw [hstep]
    exact h
  have hstep : s.step (.background ticket result) =
      { s with app.traffic := s.app.traffic.step (.answer ticket result) } := by
    simp only [Sitting.step, if_neg hticket]
  have hconfined := Client.confined_step s.app.traffic (.answer ticket result)
  -- a ticket whose request were about a conversation would be the one that the command waits for
  have hscreen (room : Nat) :
      s.app.traffic.screen? (.answer ticket result) ≠ some (.thread room) := by
    rw [Traffic.screen?]
    rcases hp : s.app.traffic.waiting.lookup ticket with _ | p
    · exact (Option.some_ne_none _).symm
    · exact fun hroom => hticket (h.alone _ (Traffic.mem_waiting_of_lookup hp) room hroom)
  refine h.elsewhere rfl ?_ (fun room => ?_) (h.awaited ?_ fun w hw hwaits => ?_)
    fun w hw room hroom => ?_
  · rw [hstep]
    rfl
  · rw [hstep]
    exact hconfined.rooms room (hscreen room)
  · rw [hstep]
  · rw [hstep]
    rcases Traffic.answer_cases ticket result s.app.traffic with ⟨_, heq⟩ | ⟨p, _, _, hwaiting⟩
    · rw [heq]
      exact hw
    · show w ∈ (s.app.traffic.step (.answer ticket result)).waiting
      rw [hwaiting]
      refine List.mem_filter.mpr ⟨hw, bne_iff_ne.mpr fun heq => hticket ?_⟩
      rw [hwaits, heq]
  · rw [hstep] at hw ⊢
    exact h.alone w (CursorAtLastSight.waiting_answer hw).1 room hroom

/-- The answer is taken in for the request that waits. -/
theorem client_reply {ticket : Ticket} {view : View} (hpending : s.pending = some (ticket, view))
    {p : Client.Pending} (hlookup : s.app.traffic.waiting.lookup ticket = some p)
    (result : Except Failure Response) :
    (s.step (.reply result)).app.client =
      (s.app.client.conclude p.purpose p.endpoint result).1 := by
  rw [App.client, Sitting.traffic_reply hpending result]
  rcases Traffic.answer_cases ticket result s.app.traffic with ⟨hno, _⟩ | ⟨p', hp', hclient, _⟩
  · rw [hlookup] at hno
    cases hno
  · obtain rfl := Option.some.inj (hp'.symm.trans hlookup)
    exact hclient

/-- Once the command that waits is answered, nothing under way is about a conversation. -/
theorem quiet_reply (h : RoomTellsAccount address commands x s) {ticket : Ticket} {view : View}
    (hpending : s.pending = some (ticket, view)) (result : Except Failure Response) :
    Quiet (s.step (.reply result)).app.traffic := by
  intro w hw room hroom
  rw [Sitting.traffic_reply hpending result] at hw
  obtain ⟨hold, hne⟩ := CursorAtLastSight.waiting_answer hw
  have hwaits := h.alone w hold room hroom
  rw [hpending] at hwaits
  exact hne (Option.some.inj hwaits).symm

/-- The answer that the command waits for. If it is about the open conversation, the account and the
screen take in the same answer (`Recounts.conclude`); if it is about none, neither of them moves. -/
theorem reply (h : RoomTellsAccount address commands x s) (result : Except Failure Response) :
    RoomTellsAccount address commands (s.exchangeAfter address x (.reply result))
      (s.step (.reply result)) := by
  rcases hpending : s.pending with _ | ⟨ticket, view⟩
  · have hasked : s.asked? = none := by
      rw [Sitting.asked?, hpending, Option.bind_none]
    have hstep : s.step (.reply result) = s := by
      simp only [Sitting.step, hpending]
    rw [hstep, Sitting.exchangeAfter, hasked]
    exact h
  obtain ⟨command, p, hlast, hp, hview, hawaits⟩ := h.waits ticket view hpending
  have hlookup := h.single.distinct.lookup hp
  have hasked : s.asked? = some p.endpoint := by
    rw [Sitting.asked?, hpending, Option.bind_some, hlookup, Option.map_some]
  have hnone : (s.step (.reply result)).pending = none := by
    simp only [Sitting.step, hpending]
  have hroom := room?_reply hpending result
  have hclient := client_reply hpending hlookup result
  have halone := h.quiet_reply hpending result
  rw [Sitting.exchangeAfter, hasked]
  rcases hshown : view.room? with _ | room
  · -- nothing was asked about a conversation
    rw [Awaits, hshown] at hawaits
    obtain ⟨-, habout, hscreen⟩ := hawaits
    have hsame : x.map (Exchange.hear p.endpoint result) = x := by
      rcases x with _ | y
      · rfl
      · have hother : about? p.endpoint ≠ some y.conversationId := by
          rw [habout]
          exact (Option.some_ne_none _).symm
        exact congrArg some (Exchange.hear_of_not_about hother result)
    simp only [hsame]
    refine h.elsewhere rfl hroom (fun room => ?_) (fun ticket view hwaits => ?_)
      fun w hw room hroom => absurd hroom (halone w hw room)
    · rw [hclient]
      exact (Client.confined_conclude p.purpose p.endpoint result s.app.client).rooms room
        (hscreen room)
    · rw [hnone] at hwaits
      cases hwaits
  · -- the answer is for the conversation that is open
    rw [Awaits, hshown] at hawaits
    obtain ⟨-, y, rfl, hasks⟩ := hawaits
    obtain ⟨room', hopen, hrecounts⟩ := h.recounts y rfl
    obtain rfl : room = room' := Option.some.inj ((hview room hshown).symm.trans hopen)
    obtain ⟨haddress, hsingle⟩ := h.settings (.reply result)
    exact {
      address := haddress
      single := hsingle
      named := by
        rw [← h.named]
        exact congrArg some (Exchange.conversationId_hear ..)
      closed := fun hnone => (by cases hnone)
      recounts := by
        rintro _ ⟨⟩
        rw [hclient]
        exact ⟨room, hroom.trans hopen, hrecounts.conclude hasks result⟩
      waits := by
        intro ticket view hwaits
        rw [hnone] at hwaits
        cases hwaits
      alone := fun w hw room hroom => absurd hroom (halone w hw room) }

/-- **One move** preserves the invariant. Only a command that is given and the answer to it move the
account on; what comes in the background is about the deck. -/
theorem step (h : RoomTellsAccount address commands x s) (move : Move) :
    RoomTellsAccount address (commands ++ (s.given? move).toList) (s.exchangeAfter address x move)
      (s.step move) := by
  cases move with
  | command command =>
    rcases hp : s.pending with _ | w
    · simp only [Sitting.given?, Sitting.exchangeAfter, hp, Option.isNone_none, if_true,
        Option.toList_some]
      exact h.given hp command
    · -- a command waits, so this one is not given
      have hstep : s.step (.command command) = s := by
        simp only [Sitting.step, hp]
      rw [hstep]
      simp only [Sitting.given?, Sitting.exchangeAfter, hp, Option.isNone_some,
        Bool.false_eq_true, if_false, Option.toList_none, List.append_nil]
      exact h
  | reply result =>
    simp only [Sitting.given?, Option.toList_none, List.append_nil]
    exact h.reply result
  | fetch =>
    simp only [Sitting.given?, Option.toList_none, List.append_nil]
    exact h.fetch
  | background ticket result =>
    simp only [Sitting.given?, Option.toList_none, List.append_nil]
    exact h.background ticket result

end RoomTellsAccount

/-! ## Every run -/

section

variable [Storage σ] {address : String} {commands commands' : List Command}
  {x x' : Option Exchange} {s : Sitting σ}

theorem roomTellsAccount_started (address : String) (paging : Service.Paging)
    (store : Credential.Store σ) (today : Time.Date) :
    RoomTellsAccount address [] none (Sitting.started address paging store today) where
  address := (Client.confined_resume ({ address, paging, store } : Client σ)).address
  single := Traffic.single_started address paging store
  named := rfl
  closed := fun _ => rfl
  recounts := nofun
  waits := fun _ _ h => nomatch h
  alone := fun _ hw => nomatch hw

/-- **A whole run** preserves the invariant, by induction on the moves. -/
theorem RoomTellsAccount.run (h : RoomTellsAccount address commands x s) (moves : List Move) :
    RoomTellsAccount address (commands ++ s.given moves) (s.exchange address x moves)
      (s.run moves) := by
  induction moves generalizing commands x s with
  | nil =>
    rw [Sitting.given, List.append_nil]
    exact h
  | cons move moves ih =>
    rw [Sitting.given, ← List.append_assoc]
    exact ih (h.step move)

/-! ### What is asked -/

omit [Storage σ] in
/-- Without a conversation in the account none is open. -/
theorem RoomTellsAccount.chat_of_closed (h : RoomTellsAccount address commands x s)
    (hp : s.pending = none) (hclosed : latestOpened commands = none) : s.app.chat = none := by
  rw [← h.named] at hclosed
  rw [← RoomTellsAccount.room?_of_idle hp]
  exact h.closed (Option.map_eq_none_iff.mp hclosed)

omit [Storage σ] in
/-- With no conversation open there is none in the account. -/
theorem RoomTellsAccount.closed_of_chat (h : RoomTellsAccount address commands x s)
    (hp : s.pending = none) (hchat : s.app.chat = none) : latestOpened commands = none := by
  rw [← h.named]
  rcases x with _ | y
  · rfl
  · obtain ⟨room, hroom, -⟩ := h.recounts y rfl
    rw [RoomTellsAccount.room?_of_idle hp, hchat] at hroom
    cases hroom

omit [Storage σ] in
/-- The conversation that is open is the one that was opened last. An idle terminal shows it through
`chat`, and the account remembers it by its identifier. -/
theorem RoomTellsAccount.roomId_of_chat (h : RoomTellsAccount address commands x s)
    (hp : s.pending = none) {room : Nat} (hchat : s.app.chat = some room) :
    latestOpened commands = some (s.app.client.roomId room) := by
  rcases x with _ | y
  · have hclosed := h.closed rfl
    rw [RoomTellsAccount.room?_of_idle hp, hchat] at hclosed
    cases hclosed
  · obtain ⟨room', hroom, hrecounts⟩ := h.recounts y rfl
    rw [RoomTellsAccount.room?_of_idle hp, hchat] at hroom
    obtain rfl := Option.some.inj hroom
    rw [← h.named, hrecounts.roomId]
    rfl

/-- A message in the open conversation is sent unless it is blank, and it goes to the conversation
that was opened last. The text is trimmed first, as `ChatDetailController::send` does. -/
theorem RoomTellsAccount.endpoint?_send (h : RoomTellsAccount address commands x s)
    (hp : s.pending = none)
    {room : Nat} (hchat : s.app.chat = some room) (text id : String) (draft : Wire.Draft) :
    (Operation.send room text).endpoint? s.app.client = some (.send id draft) ↔
      ¬ text.toList.all Text.isBlank = true ∧ latestOpened commands = some id ∧
        draft = ⟨Text.trimmed text⟩ := by
  rw [h.roomId_of_chat hp hchat]
  simp only [Operation.endpoint?]
  rw [Text.isEmpty_trimmed]
  split
  · -- blank text is sent nowhere
    rename_i hblank
    exact ⟨fun he => (by cases he), fun hsent => absurd hblank hsent.1⟩
  · rename_i hblank
    constructor
    · intro he
      obtain ⟨rfl, rfl⟩ := Endpoint.send.inj (Option.some.inj he)
      exact ⟨hblank, rfl, rfl⟩
    · rintro ⟨-, hid, rfl⟩
      rw [Option.some.inj hid]

/-- **Where a message goes.** `Endpoint::Send` is executed exactly if a `send` is given whose text
is not blank, and then to the conversation that was opened last. -/
theorem RoomTellsAccount.executes_send (h : RoomTellsAccount address commands x s) (move : Move)
    (id : String) (draft : Wire.Draft) :
    s.executes? move = some (.send id draft) ↔
      ∃ text, s.given? move = some (.send text) ∧ ¬ text.toList.all Text.isBlank = true ∧
        latestOpened commands = some id ∧ draft = ⟨Text.trimmed text⟩ := by
  cases move with
  | reply result => simp [Sitting.executes?, Sitting.given?]
  | background ticket result => simp [Sitting.executes?, Sitting.given?]
  | fetch =>
    constructor
    · intro he
      simp only [Sitting.executes?] at he
      split at he
      · cases he
      · cases he
    · rintro ⟨text, htext, -⟩
      cases htext
  | command command =>
    rcases hp : s.pending with _ | w
    case some => simp [Sitting.executes?, Sitting.given?, hp]
    simp only [Sitting.executes?, Sitting.given?, hp, Option.isNone_none, if_true,
      Option.some.injEq]
    rcases hop : (s.app.task command).operation? with _ | op
    · refine ⟨fun he => (by cases he), ?_⟩
      rintro ⟨text, rfl, -, hopened, -⟩
      -- with a conversation open a message starts something
      rw [h.closed_of_chat hp (App.chat_of_no_operation hop)] at hopened
      cases hopened
    · obtain ⟨view, htask⟩ := Task.operation?_eq_some.mp hop
      rw [Option.bind_some]
      rcases App.task_cases htask with ⟨id', rfl, rfl, -⟩ |
        ⟨text, room, rfl, hchat, rfl, -⟩ | ⟨haside, hready, -, -, habout⟩
      · refine ⟨fun he => (by cases he), ?_⟩
        rintro ⟨text, htext, -⟩
        cases htext
      · show (Operation.send room text).endpoint? s.app.client = _ ↔ _
        rw [h.endpoint?_send hp hchat]
        constructor
        · exact fun hsent => ⟨text, rfl, hsent⟩
        · rintro ⟨text', htext, hsent⟩
          obtain rfl := Command.send.inj htext
          exact hsent
      · constructor
        · intro he
          rw [hready] at he
          cases habout _ he
        · rintro ⟨text, rfl, -⟩
          cases haside.talks

omit [Storage σ] in
/-- A command that is given is given when none waits. -/
theorem Sitting.command_of_given {move : Move} {command : Command}
    (h : s.given? move = some command) : move = .command command ∧ s.pending = none := by
  cases move with
  | command command' =>
    simp only [given?] at h
    split at h
    · rename_i hp
      rw [Option.some.inj h]
      exact ⟨rfl, Option.isNone_iff_eq_none.mp hp⟩
    · cases h
  | _ => cases h

/-- Without a conversation `send` executes nothing, changes nothing and prints what to do first. The
text is that of `dispatch`, whatever the message was. -/
theorem RoomTellsAccount.send_closed (h : RoomTellsAccount address commands x s) {move : Move}
    {text : String}
    (hgiven : s.given? move = some (.send text)) (hclosed : latestOpened commands = none) :
    s.executes? move = none ∧ s.step move = s ∧
      s.prints move = some "No conversation open. Use 'open ID' first" := by
  obtain ⟨rfl, hp⟩ := Sitting.command_of_given hgiven
  have hchat := h.chat_of_closed hp hclosed
  have hop : (s.app.task (.send text)).operation? = none := by
    simp only [App.task, hchat, Task.operation?]
  have hbegin := App.begin_send_closed hchat text
  obtain ⟨a, pending⟩ := s
  -- an idle terminal with no room shown: the command is carried out, and all it does is print
  obtain rfl : pending = none := hp
  refine ⟨?_, ?_, ?_⟩
  · simp only [Sitting.executes?, hop, Option.bind_none, ite_self]
  · rw [Sitting.step_command rfl, hbegin]
    rfl
  · simp only [Sitting.prints, Option.isNone_none, if_true]
    rw [hbegin]
    rfl

/-- Every request under way was under way before or is the one that this move executes, so nothing
goes out unasked. -/
theorem Sitting.executes_of_waiting {move : Move} {w : Ticket × Pending}
    (hw : w ∈ (s.step move).app.traffic.waiting) :
    w ∈ s.app.traffic.waiting ∨ s.executes? move = some w.2.endpoint := by
  cases move with
  -- of the moves only a command and a page that is due hand a request over
  | command command =>
    rcases hp : s.pending with _ | _
    · rw [step_command hp] at hw
      -- a task without an operation leaves the traffic alone
      rcases hop : (s.app.task command).operation? with _ | op
      · rw [(App.begin_of_no_operation hop).2] at hw
        exact .inl hw
      · obtain ⟨view, htask⟩ := Task.operation?_eq_some.mp hop
        rw [App.begin_of_task htask, (App.start_spec op view _).1] at hw
        rcases Traffic.mem_waiting_proceed hw with hold | ⟨-, hnew⟩
        · rw [(App.readied command s.app).waiting] at hold
          exact .inl hold
        · right
          simp only [executes?, hp, Option.isNone_none, if_true, hop, Option.bind_some]
          exact (Client.endpoint_of_begin hnew).1
    · simp only [step, hp] at hw
      exact .inl hw
  | reply result =>
    rcases hp : s.pending with _ | ⟨ticket, view⟩
    · simp only [step, hp] at hw
      exact .inl hw
    · rw [traffic_reply hp] at hw
      exact .inl (CursorAtLastSight.waiting_answer hw).1
  | fetch =>
    have hw : w ∈ (s.app.traffic.step .fetchDue).waiting := hw
    rcases Traffic.fetchDue_cases s.app.traffic with heq | ⟨n, hdue, heq⟩
    · rw [heq] at hw
      exact .inl hw
    · rw [heq] at hw
      rcases Traffic.mem_waiting_proceed hw with hold | ⟨-, hnew⟩
      · exact .inl hold
      · right
        rw [executes?, hdue, if_neg (Nat.succ_ne_zero n), (Client.fetchPage_waiting hnew).2]
        rfl
  | background ticket result =>
    simp only [step] at hw
    split at hw
    · exact .inl hw
    · exact .inl (CursorAtLastSight.waiting_answer hw).1

/-- The converse: what is executed is under way, unless its URL could not be built. The exception is
real, since a base address may be set that no path can be resolved against. -/
theorem RoomTellsAccount.waiting_of_executes (h : RoomTellsAccount address commands x s)
    {move : Move} {e : Endpoint} (he : s.executes? move = some e) :
    (∃ w ∈ (s.step move).app.traffic.waiting, w.2.endpoint = e) ∨
      ∃ why, Service.resolve address e = .error why := by
  cases move with
  | reply result => cases he
  | background ticket result => cases he
  | command command =>
    rcases hp : s.pending with _ | _
    case some => simp [Sitting.executes?, hp] at he
    simp only [Sitting.executes?, hp, Option.isNone_none, if_true] at he
    obtain ⟨op, hop, he⟩ := Option.bind_eq_some_iff.mp he
    obtain ⟨view, htask⟩ := Task.operation?_eq_some.mp hop
    rw [← h.address, ← (App.readied command s.app).address]
    -- an operation with an endpoint asks it, unless no URL comes out of its path
    rcases Client.begin_of_endpoint he with ⟨p, hp', rfl⟩ | hno
    · left
      rw [Sitting.step_command hp, App.begin_of_task htask, (App.start_spec op view _).1]
      exact ⟨_, Traffic.mem_waiting_of_waiting
        (r := (s.app.ready command).traffic.client.begin op) hp', rfl⟩
    · exact .inr hno
  | fetch =>
    simp only [Sitting.executes?] at he
    split at he
    · cases he
    · rename_i hdue
      obtain rfl := Option.some.inj he
      obtain ⟨n, hn⟩ := Nat.exists_eq_succ_of_ne_zero hdue
      have hfetch : (s.step .fetch).app.traffic =
          (Traffic.proceed s.app.client.fetchPage { s.app.traffic with due := n }).1 := by
        simp only [Sitting.step, Traffic.step, Traffic.fetchDue, hn]
        rfl
      rw [← h.address, hfetch]
      rcases Client.ask_cases (.candidates s.app.client.paging.pageSize) .page s.app.client with
        ⟨c', url, _, _, hask⟩ | ⟨why, hwhy, _⟩
      · have hwaits := congrArg Prod.snd hask
        exact .inl ⟨_, Traffic.mem_waiting_of_waiting (r := s.app.client.fetchPage) hwaits, rfl⟩
      · exact .inr ⟨why, hwhy⟩

/-! ### What is shown -/

omit [Storage σ] in
/-- A conversation that tells an exchange is shown with its messages and what went wrong. -/
theorem App.threadShown_of_recounts {a : App σ} {room : Nat} {y : Exchange}
    (h : Recounts room y a.client) :
    a.threadShown room = threadView { messages := y.messages, error := y.error } := by
  obtain ⟨r, hr, -, hmessages, herror⟩ := h
  rw [threadShown, hr, Option.elim_some, threadView, hmessages, herror]
  rfl

omit [Storage σ] in
/-- The conversation of the account is shown as the account has it. -/
theorem RoomTellsAccount.threadShown (h : RoomTellsAccount address commands x s) {room : Nat}
    (hroom : s.room? = some room) :
    ∃ y, x = some y ∧
      s.app.threadShown room = threadView { messages := y.messages, error := y.error } := by
  rcases x with _ | y
  · rw [h.closed rfl] at hroom
    cases hroom
  · obtain ⟨room', hopen, hrecounts⟩ := h.recounts y rfl
    obtain rfl := Option.some.inj (hroom.symm.trans hopen)
    exact ⟨y, rfl, App.threadShown_of_recounts hrecounts⟩

/-- What a command shows at once of a conversation is the account of it. A `send` without a
conversation is the exception: it prints a sentence of its own. -/
theorem RoomTellsAccount.shows_given (h : RoomTellsAccount address commands x s)
    (hp : s.pending = none)
    {command : Command} {text : String} (hprints : s.prints (.command command) = some text)
    (htalks : command.talks = true) :
    (latestOpened commands = none ∧ ∃ message, command = .send message) ∨
      ∃ y, s.exchangeAfter address x (.command command) = some y ∧
        text = threadView { messages := y.messages, error := y.error } := by
  have hafter := h.step (.command command)
  simp only [Sitting.prints, hp, Option.isNone_none, if_true] at hprints
  rcases hop : (s.app.task command).operation? with _ | op
  · cases command with
    | send message =>
      exact .inl ⟨h.closed_of_chat hp (App.chat_of_no_operation hop), message, rfl⟩
    | openChat id => cases hop
    | _ => cases htalks
  right
  obtain ⟨view, htask⟩ := Task.operation?_eq_some.mp hop
  have hstarted := Sitting.starts_of_command hp htask
  have hstep := Sitting.step_command hp command
  rw [App.begin_of_task htask] at hprints hstep
  obtain ⟨room, hview, hroom⟩ : ∃ room, view.room? = some room ∧
      (s.step (.command command)).room? = some room := by
    rw [hstarted.room]
    rcases App.task_cases htask with ⟨id, -, -, rfl⟩ | ⟨_, room, rfl, hchat, -, rfl⟩ | ⟨haside, -⟩
    · exact ⟨_, rfl, rfl⟩
    · exact ⟨room, rfl, hchat⟩
    · rw [haside.talks] at htalks
      cases htalks
  -- either it waits, and prints nothing yet, or it shows the conversation as it now stands
  obtain ⟨-, ⟨_, -, -, hsilent, -⟩ | ⟨-, -, -, hshown⟩⟩ :=
    App.start_spec op view (s.app.ready command)
  · rw [hsilent] at hprints
    cases hprints
  · rw [hshown room hview] at hprints
    rw [← Option.some.inj hprints]
    have hthread := hafter.threadShown hroom
    rw [hstep] at hthread
    exact hthread

/-- What a command shows once it is answered is the account with that answer taken in. The
conversation cannot have changed in between, because no other command is given until then. -/
theorem RoomTellsAccount.shows_answer (h : RoomTellsAccount address commands x s)
    {result : Except Failure Response} {text : String}
    (hprints : s.prints (.reply result) = some text)
    (htalks : commands.getLast?.any Command.talks = true) :
    ∃ y, s.exchangeAfter address x (.reply result) = some y ∧
      text = threadView { messages := y.messages, error := y.error } := by
  have hafter := h.step (.reply result)
  rcases hp : s.pending with _ | ⟨ticket, view⟩
  · simp [Sitting.prints, hp] at hprints
  obtain ⟨command, p, hlast, _, hview, hawaits⟩ := h.waits ticket view hp
  simp only [hlast, Option.any_some] at htalks
  simp only [Sitting.prints, hp, Option.map_some, Option.some.injEq] at hprints
  -- a view of no room belongs to a command that does not talk
  rcases hshown : view.room? with _ | room
  · rw [Awaits, hshown, htalks] at hawaits
    cases hawaits.1
  · have hroom := (RoomTellsAccount.room?_reply hp result).trans (hview room hshown)
    have hthread := hafter.threadShown hroom
    rw [← hprints, App.answer, App.text_present hshown]
    simp only [Sitting.step, hp] at hthread
    exact hthread

/-- **What a command shows of a conversation is the account of it**, both when it is given and when
it is answered. The one exception is `send` without a conversation, which prints a hint. -/
theorem RoomTellsAccount.shows (h : RoomTellsAccount address commands x s) {move : Move}
    {text : String} (hprints : s.prints move = some text)
    (htalks : (commands ++ (s.given? move).toList).getLast?.any Command.talks = true) :
    (latestOpened commands = none ∧ ∃ message, s.given? move = some (.send message)) ∨
      ∃ y, s.exchangeAfter address x move = some y ∧
        text = threadView { messages := y.messages, error := y.error } := by
  cases move with
  -- only a command and the reply it waits for print
  | fetch => cases hprints
  | background ticket result => cases hprints
  | command command =>
    rcases hp : s.pending with _ | _
    case some => simp [Sitting.prints, hp] at hprints
    simp only [Sitting.given?, hp, Option.isNone_none, if_true, Option.toList_some,
      List.getLast?_concat, Option.any_some, Option.some.injEq] at htalks ⊢
    exact h.shows_given hp hprints htalks
  | reply result =>
    simp only [Sitting.given?, Option.toList_none, List.append_nil] at htalks
    exact .inr (h.shows_answer hprints htalks)

omit [Storage σ] in
/-- A command brings no message: what is in the account after it was there before, and it was not an
`open`, which leaves nothing of the old account. -/
theorem Command.mem_exchange {command : Command} {y : Exchange}
    (hy : command.exchange address x = some y) {m : Wire.Message} (hm : m ∈ y.messages) :
    command.opens = false ∧ command ≠ .logOut ∧
      ∃ y', x = some y' ∧ y'.conversationId = y.conversationId ∧ m ∈ y'.messages := by
  cases command with
  -- a conversation that has just been opened starts with no messages
  | openChat id =>
    obtain rfl := Option.some.inj hy
    rw [Exchange.messages_ask] at hm
    cases hm
  | logOut => cases hy
  | send text =>
    obtain ⟨y', rfl, hsent⟩ := Option.map_eq_some_iff.mp hy
    refine ⟨rfl, nofun, y', rfl, ?_⟩
    split at hsent
    · rw [hsent]
      exact ⟨rfl, hm⟩
    · rw [← hsent, Exchange.messages_ask] at hm
      rw [← hsent, Exchange.conversationId_ask]
      exact ⟨rfl, hm⟩
  | _ => exact ⟨rfl, nofun, y, hy, rfl, hm⟩

omit [Storage σ] in
/-- **Where a message in the account comes from**: the answer that has just been taken in brought
it, or it was there before and the move neither opened a conversation nor logged out. -/
theorem mem_exchangeAfter {move : Move} {y : Exchange}
    (hy : s.exchangeAfter address x move = some y) {m : Wire.Message} (hm : m ∈ y.messages) :
    (∃ result e, move = .reply result ∧ s.asked? = some e ∧
        about? e = some y.conversationId ∧ Brings e result m) ∨
      (∀ command, s.given? move = some command → command.opens = false ∧ command ≠ .logOut) ∧
        ∃ y', x = some y' ∧ y'.conversationId = y.conversationId ∧ m ∈ y'.messages := by
  cases move with
  | command command =>
    right
    rcases hp : s.pending with _ | _
    · simp only [Sitting.exchangeAfter, hp, Option.isNone_none, if_true] at hy
      obtain ⟨hopens, hstays, hold⟩ := Command.mem_exchange hy hm
      simp only [Sitting.given?, hp, Option.isNone_none, if_true, Option.some.injEq]
      refine ⟨?_, hold⟩
      rintro _ rfl
      exact ⟨hopens, hstays⟩
    · simp only [Sitting.exchangeAfter, hp] at hy
      simp only [Sitting.given?, hp]
      exact ⟨fun command h => (by cases h), y, hy, rfl, hm⟩
  | reply result =>
    rcases hasked : s.asked? with _ | e
    · simp only [Sitting.exchangeAfter, hasked] at hy
      exact .inr ⟨fun command h => (by cases h), y, hy, rfl, hm⟩
    · simp only [Sitting.exchangeAfter, hasked] at hy
      obtain ⟨y', rfl, rfl⟩ := Option.map_eq_some_iff.mp hy
      rw [Exchange.conversationId_hear]
      -- a message was there before the reply, or the reply has brought it
      rcases Exchange.mem_hear hm with hold | ⟨habout, hbrings⟩
      · exact .inr ⟨fun command h => (by cases h), y', rfl, rfl, hold⟩
      · exact .inl ⟨result, e, rfl, rfl, habout, hbrings⟩
  | fetch => exact .inr ⟨fun command h => (by cases h), y, hy, rfl, hm⟩
  | background ticket result => exact .inr ⟨fun command h => (by cases h), y, hy, rfl, hm⟩

/-- The message was heard in the conversation of an account: an answer that was asked for this
conversation brought it, with no opening and no logout since. -/
def HeardSince (start : Sitting σ) (moves : List Move) (y : Exchange) (m : Wire.Message) : Prop :=
  ∃ before result later e, moves = before ++ .reply result :: later ∧
    (start.run before).asked? = some e ∧ about? e = some y.conversationId ∧ Brings e result m ∧
    ∀ command ∈ (start.run (before ++ [.reply result])).given later,
      command.opens = false ∧ command ≠ .logOut

/-- **Every message was brought** by an answer for the conversation since it was opened. The
induction is on the moves from the end, as the last move is the one that `mem_exchangeAfter` speaks
of. -/
theorem heard (start : Sitting σ) (moves : List Move) {y : Exchange}
    (hy : start.exchange address none moves = some y) {m : Wire.Message} (hm : m ∈ y.messages) :
    HeardSince start moves y m := by
  induction moves using List.reverseRecOn generalizing y with
  | nil => cases hy
  | append_singleton moves move ih =>
    rw [Sitting.exchange_concat] at hy
    rcases mem_exchangeAfter hy hm with ⟨result, e, rfl, hasked, habout, hbrings⟩ |
      ⟨hquiet, y', hy', hid, hm'⟩
    · exact ⟨moves, result, [], e, rfl, hasked, habout, hbrings, nofun⟩
    · obtain ⟨before, result, later, e, rfl, hasked, habout, hbrings, hlater⟩ := ih hy' hm'
      -- the reply is the one found for the moves before, and the new move does not close the
      -- conversation
      refine ⟨before, result, later ++ [move], e, by simp, hasked, hid ▸ habout, hbrings, ?_⟩
      intro command hcommand
      rw [Sitting.given_concat, List.mem_append] at hcommand
      rcases hcommand with hcommand | hcommand
      · exact hlater command hcommand
      · have hrun : (start.run (before ++ [.reply result])).run later =
            start.run (before ++ .reply result :: later) := by
          simp only [Sitting.run, List.foldl_append, List.foldl_cons, List.foldl_nil]
        rw [hrun] at hcommand
        exact hquiet command (Option.mem_toList.mp hcommand)

/-- One more move of a sitting keeps messages to their conversation. What is stated of
`Endpoint::Send` is stated of the endpoint that is executed, whether or not there is a URL for it
(`executes?`), and then what is executed is tied to the requests that are under way. -/
structure MessagesKeep (address : String) (start : Sitting σ) (moves : List Move) (move : Move) :
    Prop where
  /-- a message is executed exactly if one is given that is not blank while a conversation is open,
  which is the one that was opened last, and it goes to that one -/
  sends : ∀ id draft, (start.run moves).executes? move = some (.send id draft) ↔
    ∃ text, (start.run moves).given? move = some (.send text) ∧
      ¬ text.toList.all Text.isBlank = true ∧
      latestOpened (start.given moves) = some id ∧ draft = ⟨Text.trimmed text⟩
  /-- without one nothing is executed and nothing changes, and what is printed tells what to do -/
  closed : ∀ text, (start.run moves).given? move = some (.send text) →
    latestOpened (start.given moves) = none →
    (start.run moves).executes? move = none ∧ (start.run moves).step move = start.run moves ∧
      (start.run moves).prints move = some "No conversation open. Use 'open ID' first"
  /-- nothing goes out that is not executed -/
  executed : ∀ w ∈ ((start.run moves).step move).app.traffic.waiting,
    w ∈ (start.run moves).app.traffic.waiting ∨
      (start.run moves).executes? move = some w.2.endpoint
  /-- and what is executed goes out, if there is a URL for it -/
  goesOut : ∀ e, (start.run moves).executes? move = some e →
    (∃ w ∈ ((start.run moves).step move).app.traffic.waiting, w.2.endpoint = e) ∨
      ∃ why, Service.resolve address e = .error why
  /-- what a command shows of a conversation is the account of it, and each of its messages was
  heard in it -/
  shown : ∀ text, (start.run moves).prints move = some text →
    (start.given (moves ++ [move])).getLast?.any Command.talks = true →
    (latestOpened (start.given moves) = none ∧
        ∃ message, (start.run moves).given? move = some (.send message)) ∨
      ∃ y, start.exchange address none (moves ++ [move]) = some y ∧
        latestOpened (start.given (moves ++ [move])) = some y.conversationId ∧
        text = threadView { messages := y.messages, error := y.error } ∧
        ∀ m ∈ y.messages, HeardSince start (moves ++ [move]) y m

/-- **Messages keep to their conversation.** Let the terminal be used in any way, with any answers,
and let one more move follow. The account that the screen is compared with is made of the commands
and the answers alone, so an answer that was asked for under an earlier `open` cannot get into it;
that it cannot get onto the screen either is what `RoomTellsAccount` carries from move to move. -/
theorem messages_keep_to_their_conversation (address : String) (paging : Service.Paging)
    (store : Credential.Store σ) (today : Time.Date) (moves : List Move) (move : Move) :
    MessagesKeep address (Sitting.started address paging store today) moves move := by
  have hstart := roomTellsAccount_started address paging store today
  -- from here on only the invariant speaks of the fresh app
  generalize Sitting.started address paging store today = start at hstart
  have hs : RoomTellsAccount address (start.given moves) (start.exchange address none moves)
      (start.run moves) := hstart.run moves
  have hafter : RoomTellsAccount address (start.given (moves ++ [move]))
      (start.exchange address none (moves ++ [move])) (start.run (moves ++ [move])) :=
    hstart.run (moves ++ [move])
  exact {
    sends := hs.executes_send move
    closed := fun text => hs.send_closed
    executed := fun w => Sitting.executes_of_waiting
    goesOut := fun e => hs.waiting_of_executes
    shown := by
      intro text hprints htalks
      rw [Sitting.given_concat] at htalks
      rcases hs.shows hprints htalks with hclosed | ⟨y, hy, htext⟩
      · exact .inl hclosed
      · rw [← Sitting.exchange_concat] at hy
        have hnamed := hafter.named
        rw [hy] at hnamed
        exact .inr ⟨y, hy, hnamed.symm, htext, fun m => heard start (moves ++ [move]) hy⟩ }

end

/-- One conversation is read and another one cannot be loaded. It is the second that is open
then. -/
def readThenOther : List Move :=
  readMessage ++ [.command (.openChat "d"), .reply (.ok ⟨404, []⟩)]

theorem messages_keep_to_their_conversation_readThenOther :
    (freshSitting.run readThenOther).executes? (.command (.send " hi ")) =
      some (.send "d" ⟨"hi"⟩) ∧
    ∃ y, freshSitting.exchange "http://host" none readThenOther = some y ∧
      y.conversationId = "d" ∧
      (freshSitting.run (readMessage ++ [.command (.openChat "d")])).prints
          (.reply (.ok ⟨404, []⟩)) =
        some (threadView { messages := y.messages, error := y.error }) := by
  have hsplit : readThenOther =
      (readMessage ++ [.command (.openChat "d")]) ++ [.reply (.ok ⟨404, []⟩)] := rfl
  let store : Credential.Store Credential.Entries := { vault := [] }
  -- one instance for the message that is sent next, and one for the reply that has just been
  -- printed
  have hsent := messages_keep_to_their_conversation "http://host" {} store
    ⟨2024, 5, 1⟩ readThenOther (.command (.send " hi "))
  have hread := messages_keep_to_their_conversation "http://host" {} store
    ⟨2024, 5, 1⟩ (readMessage ++ [.command (.openChat "d")]) (.reply (.ok ⟨404, []⟩))
  have hgiven : (freshSitting.run readThenOther).given? (.command (.send " hi ")) =
      some (.send " hi ") := by decide +kernel
  have hopened : latestOpened (freshSitting.given readThenOther) = some "d" := by decide +kernel
  refine ⟨(hsent.sends "d" ⟨"hi"⟩).mpr ⟨" hi ", hgiven, by decide, hopened, by decide⟩, ?_⟩
  obtain ⟨text, htext⟩ : ∃ text,
      (freshSitting.run (readMessage ++ [.command (.openChat "d")])).prints
        (.reply (.ok ⟨404, []⟩)) = some text := Option.isSome_iff_exists.mp (by decide +kernel)
  have htalks : (freshSitting.given readThenOther).getLast?.any Command.talks = true := by
    decide +kernel
  rcases hread.shown text htext htalks with ⟨-, message, hno⟩ | ⟨y, hy, hid, hshown, -⟩
  · cases hno
  · rw [← hsplit] at hid
    refine ⟨y, hy, Option.some.inj (hid.symm.trans hopened), ?_⟩
    rw [htext, hshown]

end Rendezvous.Terminal
