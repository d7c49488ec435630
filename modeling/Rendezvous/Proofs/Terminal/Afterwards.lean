/-
What is printed after a logout.

A terminal goes on with the controllers that it had. `dispatch` of a logout removes the tokens,
closes the open conversation and renders the session, and that is all that it does: the deck with
its matches, the list of conversations and the own profile are still there, with their error
messages, and later commands print them (`screens_outlive_logout`). The next user of the terminal
sees what the last one left.

Nothing else is left. Take two runs in which the same commands were given but the service answered
differently, and let both log out when nothing is on the way. If those three screens are the same
then, and the backends cannot be told apart, the two print the same from there on, whatever is done
(`printed_after_logout`). The messages of the conversations that were open, the session and its
error, what was logged, how many pages were fetched ahead: none of it comes back.

The proof is a relation that every move keeps (`Sitting.Indistinguishable.step`). It is the one on
clients, from the next conversation on, with the tickets of the two counted from where they were at
the logout, since one client may have fetched more pages than the other.
-/
import Rendezvous.Proofs.Client.Alike
import Rendezvous.Proofs.Client.Lasting
import Rendezvous.Proofs.Terminal.Sight

set_option autoImplicit false

namespace Rendezvous.Terminal

open Client (Event Operation Ticket Traffic)
open Credential (Storage)
open Service (Failure)
open Web (Response)

variable {σ : Type} {R : σ → σ → Prop} {n : Nat} {told : Bool} {b b' : Ticket}

/-! ## What is printed -/

/-- What a command prints at once. -/
def Turn.text? : Turn → Option String
  | .replies text => some text
  | _ => none

/-- What a command waits for. -/
def Turn.waits? : Turn → Option (Ticket × View)
  | .waits ticket _ view => some (ticket, view)
  | _ => none

/-- A command that waits, with its ticket counted from `b` on. -/
def Turn.since (b : Ticket) : Turn → Turn
  | .waits ticket request view => .waits (b + ticket) request view
  | turn => turn

/-- A move with its ticket counted from `b` on. -/
def Move.since (b : Ticket) : Move → Move
  | .background ticket result => .background (b + ticket) result
  | move => move

namespace Sitting

/-- The command that is given in a move; one that comes while another one waits is not. -/
def given? (s : Sitting σ) : Move → Option Command
  | .command command => if s.pending.isNone then some command else none
  | _ => none

/-- What a move prints. -/
def prints [Storage σ] (s : Sitting σ) : Move → Option String
  | .command command => if s.pending.isNone then (s.app.begin command).2.text? else none
  | .reply result => s.pending.map fun w => (s.app.answer w.1 result w.2).2
  | .fetch => none
  | .background _ _ => none

/-- The commands that are given in a run, the first one first. -/
def given [Storage σ] (s : Sitting σ) : List Move → List Command
  | [] => []
  | move :: moves => (s.given? move).toList ++ (s.step move).given moves

/-- What is printed in a run, move by move. -/
def printed [Storage σ] (s : Sitting σ) : List Move → List (Option String)
  | [] => []
  | move :: moves => s.prints move :: (s.step move).printed moves

/-- No command waits, no request is on the way, and no page is due. -/
structure Idle (s : Sitting σ) : Prop where
  pending : s.pending = none
  waiting : s.app.traffic.waiting = []
  due : s.app.traffic.due = 0

end Sitting

/-! ## A sitting is a run of its client -/

/-- Whether a command opens a conversation. -/
def Command.opens : Command → Bool
  | .openChat _ => true
  | _ => false

namespace App

theorem today_present (view : View) (a : App σ) : (a.present view).1.today = a.today := by
  cases view <;> rfl

variable [Storage σ] {a a' a'' : App σ} {k k' : Nat}

/-- How many conversations have been opened. -/
def opened (a : App σ) : Nat :=
  a.client.rooms.length

/-- Only opening a conversation opens one. -/
theorem opened_of_traffic {e : Event σ} (he : e.opened? = none)
    (h : a'.traffic = a.traffic.step e) : a'.opened = a.opened := by
  have hrooms := congrArg List.length (Traffic.roomIds_step_eq a.traffic e)
  rw [he, Option.toList_none, List.append_nil, Client.length_roomIds, Client.length_roomIds,
    ← h] at hrooms
  exact hrooms

/-- The second terminal is the first one after something has happened to its client, and `k`
conversations have been opened in between. -/
structure Continues (k : Nat) (a a' : App σ) : Prop where
  traffic : ∃ es, a'.traffic = a.traffic.run es
  today : a'.today = a.today
  opened : a'.opened = a.opened + k

theorem Continues.refl (a : App σ) : Continues 0 a a :=
  ⟨⟨[], rfl⟩, rfl, rfl⟩

theorem Continues.trans (h : Continues k a a') (h' : Continues k' a' a'') :
    Continues (k + k') a a'' := by
  obtain ⟨es, hes⟩ := h.traffic
  obtain ⟨es', hes'⟩ := h'.traffic
  refine ⟨⟨es ++ es', ?_⟩, h'.today.trans h.today, ?_⟩
  · rw [Traffic.run_append, hes', hes]
  · rw [h'.opened, h.opened, Nat.add_assoc]

/-- The base URL, the paging and whether the store can be used are settled from the start. -/
theorem Continues.settings (h : Continues k a a') :
    a'.client.address = a.client.address ∧ a'.client.paging = a.client.paging ∧
      a'.client.store.poisoned = a.client.store.poisoned := by
  obtain ⟨es, hes⟩ := h.traffic
  rw [client, client, hes]
  exact Client.settings_run a.traffic es

theorem Continues.step {e : Event σ} (he : e.opened? = none)
    (ht : a'.traffic = a.traffic.step e) (htoday : a'.today = a.today) : Continues 0 a a' :=
  ⟨⟨[e], ht⟩, htoday, opened_of_traffic he ht⟩

theorem continues_start (op : Operation) (view : View) (a : App σ) :
    Continues 0 a (a.start op view).1 := by
  refine .step (e := .begin op) rfl (start_cases op view a).1 ?_
  simp only [start]
  rcases (a.traffic.begin op).2.2 with request | outcome
  · rfl
  · exact today_present ..

theorem continues_answer (ticket : Ticket) (result : Except Failure Response) (view : View)
    (a : App σ) : Continues 0 a (a.answer ticket result view).1 :=
  .step (e := .answer ticket result) rfl (present_traffic view _) (today_present view _)

/-- The terminal is made ready for a command by one event of its client at most, and only a command
that opens a conversation opens one. -/
theorem continues_ready (command : Command) (a : App σ) :
    Continues command.opens.toNat a (a.ready command) := by
  cases command with
  | openChat id => exact ⟨⟨[.openRoom id], rfl⟩, rfl, List.length_append⟩
  | logOut => exact .step (e := .logOut) rfl rfl rfl
  | dismiss => exact .step (e := .dismissMatch) rfl rfl rfl
  | _ => exact .refl a

theorem continues_carryOut (task : Task) (a : App σ) : Continues 0 a (a.carryOut task).1 := by
  cases task with
  | quits => exact .refl a
  | tells text => exact .refl a
  | shows view =>
    have htraffic := present_traffic view a
    exact ⟨⟨[], htraffic⟩, today_present view a, congrArg (fun t => t.client.rooms.length) htraffic⟩
  | starts op view => exact continues_start op view a

/-- A command opens one conversation or none. -/
theorem continues_begin (command : Command) (a : App σ) :
    Continues command.opens.toNat a (a.begin command).1 :=
  (continues_ready command a).trans (continues_carryOut (a.task command) (a.ready command))

end App

namespace Sitting

variable [Storage σ]

/-- A command that is given is begun. -/
theorem step_command {s : Sitting σ} (h : s.pending = none) (command : Command) :
    s.step (.command command) = ⟨(s.app.begin command).1, (s.app.begin command).2.waits?⟩ := by
  simp only [step, h]
  rcases s.app.begin command with ⟨a, _ | _ | ⟨ticket, request, view⟩⟩
  · rfl
  · rfl
  · rfl

/-- Only the commands that are given open conversations. A command that is typed while an answer is
awaited is not given, and neither answers nor prefetches open one. -/
theorem continues_step (s : Sitting σ) (move : Move) :
    s.app.Continues ((s.given? move).toList.countP Command.opens) (s.step move).app := by
  cases move with
  | command command =>
    rcases hp : s.pending with _ | w
    · have hcount : [command].countP Command.opens = command.opens.toNat := by
        rw [List.countP_singleton]
        rcases command.opens with _ | _
        · rfl
        · rfl
      -- a command at an idle terminal is carried out, and counts if it opens a conversation
      rw [step_command hp, given?, hp]
      simp only [Option.isNone_none, if_true, Option.toList_some]
      rw [hcount]
      exact App.continues_begin command s.app
    · -- a command while a reply is awaited is not read
      simp only [step, given?, hp]
      exact .refl _
  | reply result =>
    rcases hp : s.pending with _ | w
    · simp only [step, hp]
      exact .refl _
    · simp only [step, hp]
      exact App.continues_answer ..
  | fetch => exact .step (e := .fetchDue) rfl rfl rfl
  | background ticket result =>
    simp only [step]
    split
    · exact .refl _
    · exact .step (e := .answer ticket result) rfl rfl rfl

/-- **A run of the terminal is a run of its client**, whatever is typed and whatever is answered,
and the commands that are given tell how many conversations are opened in it. -/
theorem continues_run (s : Sitting σ) (moves : List Move) :
    s.app.Continues ((s.given moves).countP Command.opens) (s.run moves).app := by
  induction moves generalizing s with
  | nil => exact .refl _
  | cons move moves ih =>
    rw [given, List.countP_append]
    exact (s.continues_step move).trans (ih (s.step move))

end Sitting

/-! ## The relation -/

/-- A view looks the same on both: it shows no conversation below `n`, and nothing of the session
that is not `told`. -/
def View.SeenAlike (n : Nat) (told : Bool) : View → Prop
  | .session _ => told = true
  | .opening room | .thread room => n ≤ room
  | _ => True

/-- What a task renders, or will render, looks the same on both. Asking for tokens publishes an
error or none, so nothing has to be told of it before. -/
def Task.SeenAlike (n : Nat) (told : Bool) : Task → Prop
  | .shows view => view.SeenAlike n told
  | .starts op view => op.Beyond n ∧ view.SeenAlike n (op.isAdmission || told)
  | .quits | .tells _ => True

/-- What a command will show looks the same on both. -/
def Turn.SeenAlike (n : Nat) (told : Bool) : Turn → Prop
  | .waits _ _ view => view.SeenAlike n told
  | _ => True

namespace App

/-- Two terminals that cannot be told apart. -/
structure SameViews (R : σ → σ → Prop) (n : Nat) (told : Bool) (b b' : Ticket) (a a' : App σ) :
    Prop where
  traffic : a.traffic.SameFlight R n told b b' a'.traffic
  chat : a'.chat = a.chat
  beyond : ∀ room, a.chat = some room → n ≤ room
  opened : n ≤ a.opened
  today : a'.today = a.today

/-- Two terminals that have begun a command and cannot be told apart, with what has become of the
command. -/
structure Turned (R : σ → σ → Prop) (n : Nat) (told : Bool) (b b' : Ticket)
    (r r' : App σ × Turn) : Prop where
  app : r.1.SameViews R n told b b' r'.1
  turn : ∃ turn : Turn, r.2 = turn.since b ∧ r'.2 = turn.since b' ∧ turn.SeenAlike n told

variable {a a' : App σ}

theorem threadShown_eq_face (room : Nat) (a : App σ) :
    a.threadShown room = threadView ((a.client.face? room).elim {} Prod.snd) := by
  rw [threadShown, Client.face?]
  rcases a.client.rooms[room]? with _ | r
  · rfl
  · rfl

/-- A view of what they share is the same text. Each view reads one screen, and the screens that a
view reads are equal or, for a conversation, known to both. -/
theorem SameViews.present (h : a.SameViews R n told b b' a') {view : View}
    (hv : view.SeenAlike n told) :
    (a'.present view).2 = (a.present view).2 ∧
      (a.present view).1.SameViews R n told b b' (a'.present view).1 := by
  have hclient : Client.SameScreens R n told a.client a'.client := h.traffic.client
  cases view with
  | session success =>
    simp only [App.present, sessionView]
    rw [hclient.error hv]
    exact ⟨rfl, h⟩
  | deck =>
    simp only [App.present]
    rw [hclient.deck]
    exact ⟨rfl, h⟩
  | matchList =>
    simp only [App.present]
    rw [hclient.deck]
    exact ⟨rfl, h⟩
  | inbox =>
    simp only [App.present]
    rw [hclient.inbox]
    exact ⟨rfl, h⟩
  -- the only view that changes the app: from here on the room shown is one that both know
  | opening room =>
    simp only [App.present, threadShown_eq_face]
    rw [hclient.rooms room hv]
    refine ⟨rfl, h.traffic, rfl, ?_, h.opened, h.today⟩
    rintro _ ⟨⟩
    exact hv
  | thread room =>
    simp only [App.present, threadShown_eq_face]
    rw [hclient.rooms room hv]
    exact ⟨rfl, h⟩
  | profile =>
    simp only [App.present]
    rw [hclient.own, h.today]
    exact ⟨rfl, h⟩

theorem SameViews.sayAtOnce (h : a.SameViews R n told b b' a') {view : View}
    (hv : view.SeenAlike n told) :
    Turned R n told b b' (a.sayAtOnce view) (a'.sayAtOnce view) := by
  obtain ⟨htext, hpresent⟩ := h.present hv
  refine ⟨hpresent, .replies (a.present view).2, rfl, ?_, trivial⟩
  simp only [App.sayAtOnce]
  rw [htext]
  rfl

variable [Storage σ]

/-- **Operations of the terminal** start alike: the same request goes out, or the same text is
printed at once. The requests are equal and the tickets are those of the two flights. -/
theorem SameViews.start (h : a.SameViews R n told b b' a') (hR : Storage.Respects R)
    (op : Operation)
    (hop : op.Beyond n) {view : View} (hv : view.SeenAlike n (op.isAdmission || told)) :
    Turned R n (op.isAdmission || told) b b' (a.start op view) (a'.start op view) := by
  obtain ⟨hbegun, k, status, hstatus, hstatus'⟩ :=
    h.traffic.proceed (h.traffic.client.begin hR hop)
  have hstatus : (a.traffic.begin op).2 = (b + k, status) := hstatus
  have hstatus' : (a'.traffic.begin op).2 = (b' + k, status) := hstatus'
  -- an operation opens no room, so the rooms counted by `n` stay the same
  have hopened : ({ a with traffic := (a.traffic.begin op).1 } : App σ).opened = a.opened :=
    opened_of_traffic (e := .begin op) rfl rfl
  have happ : App.SameViews R n (op.isAdmission || told) b b'
      { a with traffic := (a.traffic.begin op).1 }
      { a' with traffic := (a'.traffic.begin op).1 } :=
    ⟨hbegun, h.chat, h.beyond, by rw [hopened]; exact h.opened, h.today⟩
  simp only [App.start, hstatus, hstatus']
  -- both wait for the same request under shifted tickets, or both have printed the same text
  rcases status with request | outcome
  · exact ⟨happ, .waits k request view, rfl, rfl, hv⟩
  · exact happ.sayAtOnce hv

/-- **Tasks** are carried out alike. -/
theorem SameViews.carryOut (h : a.SameViews R n told b b' a') (hR : Storage.Respects R)
    {task : Task} (htask : task.SeenAlike n told) :
    ∃ told', Turned R n told' b b' (a.carryOut task) (a'.carryOut task) := by
  cases task with
  | quits => exact ⟨told, h, .quits, rfl, rfl, trivial⟩
  | tells text => exact ⟨told, h, .replies text, rfl, rfl, trivial⟩
  | shows view => exact ⟨told, h.sayAtOnce htask⟩
  | starts op view => exact ⟨_, h.start hR op htask.1 htask.2⟩

/-- **The terminals are made ready** for a command alike, and its task is the same on both. A logout
publishes the session anew, so from then on it may be looked at. -/
theorem SameViews.ready (h : a.SameViews R n told b b' a') (hR : Storage.Respects R)
    (command : Command) :
    ∃ told', (a.ready command).SameViews R n told' b b' (a'.ready command) ∧
      a'.task command = a.task command ∧ (a.task command).SeenAlike n told' := by
  have hclient : Client.SameScreens R n told a.client a'.client := h.traffic.client
  have hopened : n ≤ (a.ready command).opened := by
    rw [(continues_ready command a).opened]
    exact Nat.le_add_right_of_le h.opened
  cases command with
  | logOut =>
    exact ⟨true, {
      traffic := h.traffic.withClient (hclient.logOut hR)
      chat := rfl
      beyond := nofun
      opened := hopened
      today := h.today }, rfl, rfl⟩
  | dismiss =>
    exact ⟨told, {
      traffic := h.traffic.withClient hclient.dismissMatch
      chat := h.chat
      beyond := h.beyond
      opened := hopened
      today := h.today }, rfl, trivial⟩
  | openChat id =>
    have hopen := hclient.openRoom id
    have hroom : n ≤ (a.client.openRoom id).2 := h.opened
    refine ⟨told, {
      traffic := h.traffic.withClient hopen.alike
      chat := h.chat
      beyond := h.beyond
      opened := hopened
      today := h.today }, ?_, hroom, hroom⟩
    simp only [task]
    rw [hopen.same]
  | send text =>
    -- the conversation that is open is one that both have
    refine ⟨told, h, ?_⟩
    simp only [task]
    rw [h.chat]
    rcases hchat : a.chat with _ | room
    · exact ⟨rfl, trivial⟩
    · exact ⟨rfl, h.beyond room hchat, h.beyond room hchat⟩
  | status =>
    refine ⟨told, h, ?_, trivial⟩
    simp only [task, statusView]
    rw [hclient.authenticated, hclient.address]
  | quit | help => exact ⟨told, h, rfl, trivial⟩
  | logIn | register | renew => exact ⟨told, h, rfl, trivial, rfl⟩
  | deck | swipe | matchList | chats => exact ⟨told, h, rfl, trivial, trivial⟩
  | profile | name | bio => exact ⟨told, h, rfl, trivial, trivial⟩

/-- **Commands** begin alike. -/
theorem SameViews.begin (h : a.SameViews R n told b b' a') (hR : Storage.Respects R)
    (command : Command) :
    ∃ told', Turned R n told' b b' (a.begin command) (a'.begin command) := by
  obtain ⟨told', hready, htask, hseen⟩ := h.ready hR command
  rw [App.begin, App.begin, htask]
  exact hready.carryOut hR hseen

/-- Something has happened to the clients below, and they still cannot be told apart. The parts that
belong to the terminal itself are untouched by events of the client. -/
theorem SameViews.withTraffic (h : a.SameViews R n told b b' a') {e e' : Event σ}
    (ht : (a.traffic.step e).SameFlight R n told b b' (a'.traffic.step e')) :
    App.SameViews R n told b b' { a with traffic := a.traffic.step e }
      { a' with traffic := a'.traffic.step e' } where
  traffic := ht
  chat := h.chat
  beyond := h.beyond
  opened := by
    -- conversations stay open
    have hlength := (Traffic.roomIds_step a.traffic e).length_le
    rw [Client.length_roomIds, Client.length_roomIds] at hlength
    exact Nat.le_trans h.opened hlength
  today := h.today

/-- The answer that a command waits for is shown alike. -/
theorem SameViews.answer (h : a.SameViews R n told b b' a') (hR : Storage.Respects R)
    (ticket : Ticket)
    (result : Except Failure Response) {view : View} (hv : view.SeenAlike n told) :
    (a'.answer (b' + ticket) result view).2 = (a.answer (b + ticket) result view).2 ∧
      (a.answer (b + ticket) result view).1.SameViews R n told b b'
        (a'.answer (b' + ticket) result view).1 :=
  (h.withTraffic (e := .answer (b + ticket) result) (h.traffic.answer hR ticket result)).present hv

end App

/-! ## Two sittings -/

namespace Sitting

/-- Two runs that cannot be told apart: the same command waits, if one does, and what it will render
looks the same. -/
structure Indistinguishable (R : σ → σ → Prop) (n : Nat) (told : Bool) (b b' : Ticket)
    (waits : Option (Ticket × View)) (s s' : Sitting σ) : Prop where
  app : s.app.SameViews R n told b b' s'.app
  pending : s.pending = waits.map (Traffic.later b)
  pending' : s'.pending = waits.map (Traffic.later b')
  seen : ∀ w, waits = some w → w.2.SeenAlike n told

variable {s s' : Sitting σ} {waits : Option (Ticket × View)}

theorem waits?_since (b : Ticket) (turn : Turn) :
    (turn.since b).waits? = turn.waits?.map (Traffic.later b) := by
  cases turn with
  | replies text => rfl
  | quits => rfl
  | waits ticket request view => rfl

theorem text?_since (b : Ticket) (turn : Turn) : (turn.since b).text? = turn.text? := by
  cases turn with
  | replies text => rfl
  | quits => rfl
  | waits ticket request view => rfl

theorem seenAlike_of_waits? {turn : Turn} (h : turn.SeenAlike n told) {w : Ticket × View}
    (hw : turn.waits? = some w) : w.2.SeenAlike n told := by
  cases turn with
  | waits ticket request view =>
    obtain rfl := Option.some.inj hw
    exact h
  | replies text => cases hw
  | quits => cases hw

/-- Who waits does not depend on where the tickets are counted from. -/
theorem waiting_since (waits : Option (Ticket × View)) (b ticket : Ticket) :
    (waits.map (Traffic.later b)).map Prod.fst = some (b + ticket) ↔
      waits.map Prod.fst = some ticket := by
  rcases waits with _ | w
  · exact ⟨nofun, nofun⟩
  · simp only [Option.map_some, Traffic.later, Option.some.injEq]
    exact Nat.add_left_cancel_iff

variable [Storage σ]

/-- **One move.** Two sittings that cannot be told apart print the same, and cannot be told apart
afterwards. -/
theorem Indistinguishable.step (h : s.Indistinguishable R n told b b' waits s')
    (hR : Storage.Respects R) (move : Move) :
    s'.prints (move.since b') = s.prints (move.since b) ∧
      ∃ told' waits', (s.step (move.since b)).Indistinguishable R n told' b b' waits'
        (s'.step (move.since b')) := by
  cases move with
  | command command =>
    rcases waits with _ | w
    · have hp : s.pending = none := h.pending
      have hp' : s'.pending = none := h.pending'
      obtain ⟨told', happ, turn, hturn, hturn', hseen⟩ := h.app.begin hR command
      simp only [Move.since, prints, hp, hp', Option.isNone_none, if_true]
      rw [step_command hp, step_command hp', hturn, hturn', text?_since, text?_since,
        waits?_since, waits?_since]
      exact ⟨rfl, told', turn.waits?, happ, rfl, rfl, fun w hw => seenAlike_of_waits? hseen hw⟩
    · -- a command waits, so no other one is given
      simp only [Move.since, prints, Sitting.step, h.pending, h.pending', Option.map_some]
      exact ⟨rfl, told, some w, h⟩
  | reply result =>
    rcases waits with _ | ⟨ticket, view⟩
    · simp only [Move.since, prints, Sitting.step, h.pending, h.pending', Option.map_none]
      exact ⟨trivial, told, none, h⟩
    · obtain ⟨htext, happ⟩ := h.app.answer hR ticket result (h.seen (ticket, view) rfl)
      simp only [Move.since, prints, Sitting.step, h.pending, h.pending', Option.map_some,
        Traffic.later]
      refine ⟨congrArg some htext, told, none, happ, rfl, rfl, ?_⟩
      rintro _ ⟨⟩
  | fetch =>
    exact ⟨rfl, told, waits, h.app.withTraffic (e := .fetchDue) (h.app.traffic.fetchDue hR),
      h.pending, h.pending', h.seen⟩
  | background ticket result =>
    refine ⟨rfl, told, waits, ?_⟩
    simp only [Move.since, Sitting.step, h.pending, h.pending', waiting_since]
    by_cases hwaits : waits.map Prod.fst = some ticket
    · rw [if_pos hwaits, if_pos hwaits]
      exact h
    · rw [if_neg hwaits, if_neg hwaits]
      exact ⟨h.app.withTraffic (h.app.traffic.answer hR ticket result), rfl, rfl, h.seen⟩

/-- **Every run.** Two runs that cannot be told apart print the same for ever. -/
theorem Indistinguishable.printed (h : s.Indistinguishable R n told b b' waits s')
    (hR : Storage.Respects R) (moves : List Move) :
    s'.printed (moves.map (Move.since b')) = s.printed (moves.map (Move.since b)) := by
  -- what may be told and who waits change from move to move, so they are general
  induction moves generalizing s s' told waits with
  | nil => rfl
  | cons move moves ih =>
    obtain ⟨hprints, told', waits', hstep⟩ := h.step hR move
    simp only [List.map_cons, Sitting.printed]
    rw [hprints, ih hstep]

/-! ## Logging out -/

/-- Logging out of a sitting where nothing waits. -/
theorem step_logOut (h : s.pending = none) :
    s.step (.command .logOut) =
      ⟨{ s.app with traffic := s.app.traffic.locally Client.logOut, chat := none }, none⟩ := by
  rw [step_command h]
  rfl

/-- **What a logout leaves.** Two runs have begun alike and the same commands were given in them,
but what was answered may be different. They log out when nothing is on the way. If the three
screens that stay are the same then, and the backends cannot be told apart, neither can the runs,
from the next conversation on. -/
theorem indistinguishable_logOut (start : Sitting σ) (moves moves' : List Move)
    (hgiven : start.given moves' = start.given moves)
    (hidle : (start.run moves).Idle) (hidle' : (start.run moves').Idle)
    (hvault : R ((start.run moves).step (.command .logOut)).app.client.store.vault
      ((start.run moves').step (.command .logOut)).app.client.store.vault)
    (hdeck : (start.run moves').app.client.deck.value = (start.run moves).app.client.deck.value)
    (hinbox : (start.run moves').app.client.inbox.value = (start.run moves).app.client.inbox.value)
    (hown : (start.run moves').app.client.own.value = (start.run moves).app.client.own.value) :
    ((start.run moves).step (.command .logOut)).Indistinguishable R (start.run moves).app.opened
      false (start.run moves).app.traffic.next (start.run moves').app.traffic.next none
      ((start.run moves').step (.command .logOut)) := by
  have hcontinues := start.continues_run moves
  have hcontinues' := start.continues_run moves'
  -- the same commands have opened the same number of rooms, which the logout closes in both
  have hopened : (start.run moves').app.opened = (start.run moves).app.opened := by
    rw [hcontinues'.opened, hcontinues.opened, hgiven]
  obtain ⟨haddress, hpaging, hpoisoned⟩ := hcontinues.settings
  obtain ⟨haddress', hpaging', hpoisoned'⟩ := hcontinues'.settings
  rw [step_logOut hidle.pending] at hvault ⊢
  rw [step_logOut hidle'.pending] at hvault ⊢
  exact {
    app := {
      traffic := {
        client := Client.sameScreens_logOut (haddress'.trans haddress.symm)
          (hpaging'.trans hpaging.symm) (hpoisoned'.trans hpoisoned.symm) hvault hdeck hinbox hown
          hopened
        due := hidle'.due.trans hidle.due.symm
        flight := ⟨0, [], rfl, rfl, hidle.waiting, hidle'.waiting⟩ }
      chat := rfl
      beyond := by
        rintro _ ⟨⟩
      opened := Nat.le_of_eq (Client.length_rooms_logOut _).symm
      today := hcontinues'.today.trans hcontinues.today.symm }
    pending := rfl
    pending' := rfl
    seen := by
      rintro _ ⟨⟩ }

/-- **After a logout nothing else is left.** Two runs have begun alike and the same commands were
given in them, but what was answered may be different, and so may the moments at which pages came in
the background. They log out when nothing is on the way. If the deck, the list of conversations and
the own profile are the same then, and the backends cannot be told apart, then all that is printed
from there on is the same, whatever is done and whatever is answered. -/
theorem printed_after_logout (hR : Storage.Respects R) (start : Sitting σ)
    (moves moves' after : List Move) (hgiven : start.given moves' = start.given moves)
    (hidle : (start.run moves).Idle) (hidle' : (start.run moves').Idle)
    (hvault : R ((start.run moves).step (.command .logOut)).app.client.store.vault
      ((start.run moves').step (.command .logOut)).app.client.store.vault)
    (hdeck : (start.run moves').app.client.deck.value = (start.run moves).app.client.deck.value)
    (hinbox : (start.run moves').app.client.inbox.value = (start.run moves).app.client.inbox.value)
    (hown : (start.run moves').app.client.own.value = (start.run moves).app.client.own.value) :
    ((start.run moves').step (.command .logOut)).printed
        (after.map (Move.since (start.run moves').app.traffic.next)) =
      ((start.run moves).step (.command .logOut)).printed
        (after.map (Move.since (start.run moves).app.traffic.next)) :=
  (indistinguishable_logOut start moves moves' hgiven hidle hidle' hvault hdeck hinbox
    hown).printed hR after

end Sitting

/-! ## Two examples

Two runs that differ in what a conversation held, and print the same; and two that differ in the
deck, and do not. -/

/-- Whether nothing waits, is on the way or is due. -/
def Sitting.isIdle (s : Sitting σ) : Bool :=
  s.pending.isNone && s.app.traffic.waiting.isEmpty && s.app.traffic.due == 0

theorem Sitting.idle_of_isIdle {s : Sitting σ} (h : s.isIdle = true) : s.Idle := by
  rw [isIdle, Bool.and_eq_true, Bool.and_eq_true, beq_iff_eq] at h
  obtain ⟨⟨hpending, hwaiting⟩, hdue⟩ := h
  exact ⟨Option.isNone_iff_eq_none.mp hpending, List.isEmpty_iff.mp hwaiting, hdue⟩

/-- A deck without candidates is determined by the rest of it. Candidates hold floats, which are not
compared. -/
theorem deck_eq_of_no_candidates {d : Client.Deck} (hnone : d.candidates.isEmpty = true)
    (hrest : (d.cursor, d.loading, d.error, d.pendingMatch, d.foundMatches, d.loadingMatches) =
      (0, false, none, none, [], false)) : d = {} := by
  obtain ⟨candidates, cursor, loading, error, pendingMatch, foundMatches, loadingMatches⟩ := d
  obtain rfl := List.isEmpty_iff.mp hnone
  cases hrest
  rfl

/-- A conversation is opened that has a message in it. -/
def readMessage : List Move :=
  [.command (.openChat "c"), .reply (agreed
    "[[\"c\",[\"b\",\"B\",null],null,0],[[\"m\",\"b\",\"hi\",\"1970-01-01T00:00:00Z\",null]]]")]

/-- A conversation is opened that cannot be loaded. -/
def readNothing : List Move :=
  [.command (.openChat "c"), .reply (.ok ⟨404, []⟩)]

/-- What was in a conversation is not printed after a logout. One of the two runs has read a message
and the other has not; what is printed after the logout is the same. -/
theorem printed_after_logout_readMessage :
    freshSitting.given readNothing = freshSitting.given readMessage ∧
    (freshSitting.run readMessage).Idle ∧ (freshSitting.run readNothing).Idle ∧
    ((freshSitting.run readMessage).step (.command .logOut)).app.client.store.vault =
      ((freshSitting.run readNothing).step (.command .logOut)).app.client.store.vault ∧
    ((freshSitting.run readNothing).step (.command .logOut)).printed
        ([.command (.send "hi"), .command .status].map
          (Move.since (freshSitting.run readNothing).app.traffic.next)) =
      ((freshSitting.run readMessage).step (.command .logOut)).printed
        ([.command (.send "hi"), .command .status].map
          (Move.since (freshSitting.run readMessage).app.traffic.next)) := by
  have hgiven : freshSitting.given readNothing = freshSitting.given readMessage := by
    decide +kernel
  have hidle : (freshSitting.run readMessage).Idle := Sitting.idle_of_isIdle (by decide +kernel)
  have hidle' : (freshSitting.run readNothing).Idle := Sitting.idle_of_isIdle (by decide +kernel)
  have hvault : ((freshSitting.run readMessage).step (.command .logOut)).app.client.store.vault =
      ((freshSitting.run readNothing).step (.command .logOut)).app.client.store.vault := by
    decide +kernel
  -- no page has come in either run, so the two decks are the empty one
  have hdeck : (freshSitting.run readMessage).app.client.deck.value = {} :=
    deck_eq_of_no_candidates (by decide +kernel) (by decide +kernel)
  have hdeck' : (freshSitting.run readNothing).app.client.deck.value = {} :=
    deck_eq_of_no_candidates (by decide +kernel) (by decide +kernel)
  exact ⟨hgiven, hidle, hidle', hvault, Sitting.printed_after_logout Storage.respects_eq
    freshSitting readMessage readNothing [.command (.send "hi"), .command .status] hgiven hidle
    hidle' hvault (hdeck'.trans hdeck.symm) (by decide +kernel) (by decide +kernel)⟩

/-- A page of one candidate comes. -/
def dealtOne : List Move :=
  [.command .deck, .reply (agreed "[[[\"a\",\"A\",30,null,[],null]]]")]

/-- An empty page comes. -/
def dealtNone : List Move :=
  [.command .deck, .reply (agreed "[[]]")]

/-- What is printed after a logout is not always the same: the deck is still there, and `dismiss`
prints it. -/
theorem screens_outlive_logout :
    ¬ ∀ moves moves' after : List Move,
      freshSitting.given moves' = freshSitting.given moves →
      (freshSitting.run moves).Idle → (freshSitting.run moves').Idle →
      ((freshSitting.run moves).step (.command .logOut)).app.client.store.vault =
        ((freshSitting.run moves').step (.command .logOut)).app.client.store.vault →
      ((freshSitting.run moves').step (.command .logOut)).printed
          (after.map (Move.since (freshSitting.run moves').app.traffic.next)) =
        ((freshSitting.run moves).step (.command .logOut)).printed
          (after.map (Move.since (freshSitting.run moves).app.traffic.next)) := by
  intro h
  have hgiven : freshSitting.given dealtNone = freshSitting.given dealtOne := by decide +kernel
  have hidle : (freshSitting.run dealtOne).Idle := Sitting.idle_of_isIdle (by decide +kernel)
  have hidle' : (freshSitting.run dealtNone).Idle := Sitting.idle_of_isIdle (by decide +kernel)
  have hvault : ((freshSitting.run dealtOne).step (.command .logOut)).app.client.store.vault =
      ((freshSitting.run dealtNone).step (.command .logOut)).app.client.store.vault := by
    decide +kernel
  -- one run was dealt a card and the other none, and `dismiss` prints the deck
  have hsame := h dealtOne dealtNone [.command .dismiss] hgiven hidle hidle' hvault
  exact absurd hsame (by decide +kernel)

end Rendezvous.Terminal
