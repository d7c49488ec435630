/-
Whom a decision at the terminal is about.

Who types a decision has the last view of the deck in front of them. The view does not tell the
whole story: a page that was fetched ahead replaces the deck when it comes, and nothing is printed
then. A `Sight` is either of the two, a view of the deck or a page that came, and the last one
decides: its candidate is the one under the cursor whenever a command can be given
(`CursorAtLastSight.current`). While a command waits that will show the deck anyway, the cursor may
be elsewhere, since its answer moves it on; what keeps this apart from all other answers is that a
decision is only ever on the way for the command that waits (`CursorAtLastSight.decisions`).
-/
import Mathlib.Data.List.Induction
import Rendezvous.Proofs.Client.Deck
import Rendezvous.Proofs.Terminal.Sitting

set_option autoImplicit false

namespace Rendezvous.Terminal

open Client (Event Hand Happening Operation Pending Purpose Ticket Traffic)
open Credential (Storage)
open Service (Failure)
open Web (Request Response)

variable {σ : Type}

/-! ## Sights -/

/-- What decides which candidate is under the cursor. -/
inductive Sight
  /-- a view of the deck was printed -/
  | view (text : String) (deck : Client.Deck)
  /-- a page came -/
  | page (page : Wire.Page)

namespace Sight

/-- The candidate that a sight is about. -/
def candidate? : Sight → Option Wire.Candidate
  | view _ deck => deck.current?
  | page p => p.profiles.head?

end Sight

/-- The candidate of the last sight. -/
def lastCandidate? (sights : List Sight) : Option Wire.Candidate :=
  sights.getLast?.bind Sight.candidate?

/-- The page that an answer brings. -/
def arrivals (t : Traffic σ) (ticket : Ticket) (result : Except Failure Response) : List Sight :=
  (((t.happening? (.answer ticket result)).bind Happening.page?).map .page).toList

namespace Sitting

/-- What comes into view with a move: a rendered deck, a page that arrives, or nothing. A page
counts as a sight because the next decision is about its first candidate, shown or not. -/
def sights [Storage σ] (s : Sitting σ) : Move → List Sight
  | .command command =>
    match s.pending with
    | some _ => []
    | none =>
      match s.app.begin command with
      | (a, .replies text) => if command.showsDeck then [.view text a.client.deck.value] else []
      | _ => []
  | .reply result =>
    match s.pending with
    | some (ticket, .deck) =>
      let r := s.app.answer ticket result .deck
      arrivals s.app.traffic ticket result ++ [.view r.2 r.1.client.deck.value]
    | some (ticket, _) => arrivals s.app.traffic ticket result
    | none => []
  | .fetch => []
  | .background ticket result =>
    if s.pending.map Prod.fst = some ticket then [] else arrivals s.app.traffic ticket result

/-- The sights of a run, the first one first. -/
def seen [Storage σ] (s : Sitting σ) : List Move → List Sight
  | [] => []
  | move :: moves => s.sights move ++ (s.step move).seen moves

theorem seen_concat [Storage σ] (s : Sitting σ) (moves : List Move) (move : Move) :
    s.seen (moves ++ [move]) = s.seen moves ++ (s.run moves).sights move := by
  induction moves generalizing s with
  | nil => simp [seen, run]
  | cons move' moves ih =>
    have hrun : s.run (move' :: moves) = (s.step move').run moves := rfl
    simp only [List.cons_append, seen, ih, hrun, List.append_assoc]

end Sitting

/-! ## What an answer does to the cursor -/

/-- Only the answer to a decision brings a decision, and it can be traced to a request that was
waiting for it. -/
theorem waiting_of_decision {t : Traffic σ} {ticket : Ticket} {result : Except Failure Response}
    {id : String} {answer : Wire.SwipeResult}
    (h : t.happening? (.answer ticket result) = some (.brought (.decision id answer))) :
    ∃ p id', (ticket, p) ∈ t.waiting ∧ p.purpose = .decision id' := by
  obtain ⟨p, hlookup, hp⟩ := Option.bind_eq_some_iff.mp h
  have hmem : (ticket, p) ∈ t.waiting := Traffic.mem_waiting_of_lookup hlookup
  obtain ⟨payload, hpayload, hdecision⟩ := Option.map_eq_some_iff.mp hp
  rw [Happening.brought.inj hdecision] at hpayload
  obtain ⟨id', hpurpose⟩ :=
    Purpose.business?_eq_decision.mp (Purpose.business?_of_payload? hpayload)
  exact ⟨p, id', hmem, hpurpose⟩

/-- An answer that is not for a decision leaves the cursor to the last sight: a page that arrives
puts its first candidate there, and everything else leaves the deck alone. -/
theorem current?_answer [Storage σ] {t : Traffic σ} (hf : t.Faithful) {sights : List Sight}
    {ticket : Ticket} (result : Except Failure Response)
    (hp : ∀ p id, (ticket, p) ∈ t.waiting → p.purpose ≠ .decision id)
    (hs : t.client.deck.value.current? = lastCandidate? sights) :
    (t.step (.answer ticket result)).client.deck.value.current? =
      lastCandidate? (sights ++ arrivals t ticket result) := by
  -- the cursor moves with the history of the deck, and without a decision only a page moves it
  have hhand := (Client.step_deck hf (.answer ticket result)).value
  have hafter := Hand.current?_after t.client.deck.value.hand
    (x := t.happening? (.answer ticket result)) fun id answer h => by
      obtain ⟨p, id', hmem, hpurpose⟩ := waiting_of_decision h
      exact hp p id' hmem hpurpose
  rw [← hhand] at hafter
  have hafter : (t.step (.answer ticket result)).client.deck.value.current? = _ := hafter
  rw [hafter, arrivals]
  rcases (t.happening? (.answer ticket result)).bind Happening.page? with _ | page
  · rw [Option.map_none, Option.toList_none, List.append_nil]
    exact hs
  · rw [Option.map_some, Option.toList_some, lastCandidate?, List.getLast?_concat]
    rfl

/-! ## The invariant -/

/-- The cursor is at the candidate of the last sight whenever a command can be given. -/
structure CursorAtLastSight (sights : List Sight) (s : Sitting σ) : Prop where
  faithful : s.app.traffic.Faithful
  /-- a decision is on the way only for the command that waits -/
  decisions : ∀ w ∈ s.app.traffic.waiting, ∀ id, w.2.purpose = .decision id →
    s.pending = some (w.1, .deck)
  current : (∀ ticket, s.pending ≠ some (ticket, .deck)) →
    s.app.client.deck.value.current? = lastCandidate? sights
  views : ∀ text deck, .view text deck ∈ sights → text = deckView deck

namespace CursorAtLastSight

variable {s : Sitting σ} {sights : List Sight}

/-- A view at the end is the last sight. -/
theorem lastCandidate?_view (sights : List Sight) (text : String) (deck : Client.Deck) :
    lastCandidate? (sights ++ [.view text deck]) = deck.current? := by
  rw [lastCandidate?, List.getLast?_concat]
  rfl

theorem views_arrivals (h : CursorAtLastSight sights s) (ticket : Ticket)
    (result : Except Failure Response) {text : String} {deck : Client.Deck}
    (hmem : .view text deck ∈ sights ++ arrivals s.app.traffic ticket result) :
    text = deckView deck := by
  rcases List.mem_append.mp hmem with hmem | hmem
  · exact h.views text deck hmem
  · obtain ⟨page, _, hpage⟩ := Option.map_eq_some_iff.mp (Option.mem_toList.mp hmem)
    cases hpage

/-- With no command waiting, no decision is on the way. -/
theorem no_decision (h : CursorAtLastSight sights s) (hp : s.pending = none) {w : Ticket × Pending}
    (hw : w ∈ s.app.traffic.waiting) (id : String) : w.2.purpose ≠ .decision id := by
  intro hid
  have hpending := h.decisions w hw id hid
  rw [hp] at hpending
  cases hpending

/-- What leaves the cursor alone keeps the invariant. -/
theorem readied {a a₁ : App σ} (h : CursorAtLastSight sights ⟨a, none⟩) (hs : App.Readied a a₁) :
    CursorAtLastSight sights ⟨a₁, none⟩ where
  faithful := by
    intro w hw
    rw [hs.waiting] at hw
    exact h.faithful w hw
  decisions := by
    intro w hw
    rw [hs.waiting] at hw
    exact h.decisions w hw
  current hp := hs.current.trans (h.current hp)
  views := h.views

/-- The deck has just been rendered, so the last sight is the deck as it is. This re-establishes the
invariant whatever the cursor was before, as long as no decision is under way. -/
theorem viewed {a : App σ} (hf : a.traffic.Faithful)
    (hd : ∀ w ∈ a.traffic.waiting, ∀ id, w.2.purpose ≠ .decision id)
    (hv : ∀ text deck, .view text deck ∈ sights → text = deckView deck) :
    CursorAtLastSight (sights ++ [.view (deckView a.client.deck.value) a.client.deck.value])
      ⟨a, none⟩ where
  faithful := hf
  decisions w hw id hid := absurd hid (hd w hw id)
  current _ := (lastCandidate?_view ..).symm
  views := by
    intro text deck hmem
    rcases List.mem_append.mp hmem with hmem | hmem
    · exact hv text deck hmem
    · obtain ⟨rfl, rfl⟩ := Sight.view.inj (List.mem_singleton.mp hmem)
      rfl

/-- A command that has printed something: if it renders the deck, that was a view of it. -/
theorem said {a : App σ} (h : CursorAtLastSight sights ⟨a, none⟩) {text : String} {shows : Bool}
    (htext : shows = true → text = deckView a.client.deck.value) :
    CursorAtLastSight (sights ++ if shows then [.view text a.client.deck.value] else [])
      ⟨a, none⟩ := by
  rcases shows with _ | _
  · rw [if_neg Bool.false_ne_true, List.append_nil]
    exact h
  · rw [if_pos rfl, htext rfl]
    exact viewed h.faithful (fun w hw id => h.no_decision rfl hw id) h.views

variable [Storage σ]

/-- Starting an operation leaves the cursor where it is. -/
theorem current?_begin {t : Traffic σ} (hf : t.Faithful) (op : Operation) :
    (t.step (.begin op)).client.deck.value.current? = t.client.deck.value.current? :=
  congrArg Hand.current? (Client.step_deck hf (.begin op)).value

/-- What waits after an operation has begun waited before, unless it is the request of that
operation. -/
theorem waiting_begin {t : Traffic σ} {op : Operation} {w : Ticket × Pending} {id : String}
    (hw : w ∈ (t.step (.begin op)).waiting) (hid : w.2.purpose = .decision id) :
    w ∈ t.waiting ∨
      (t.client.begin op).2 = .waiting w.2 ∧ w.1 = t.next ∧ ∃ direction, op = .swipe direction := by
  rcases Traffic.mem_waiting_proceed hw with hw | ⟨hticket, hw⟩
  · exact .inl hw
  · refine .inr ⟨hw, hticket, ?_⟩
    obtain ⟨_, hbusiness⟩ := Client.endpoint_of_begin hw
    rw [Purpose.business?_eq_decision.mpr ⟨id, hid⟩] at hbusiness
    exact Operation.business?_eq_decision.mp hbusiness.symm

/-- What has been answered is not on the way any more. -/
theorem waiting_answer {t : Traffic σ} {ticket : Ticket} {result : Except Failure Response}
    {w : Ticket × Pending} (hw : w ∈ (t.step (.answer ticket result)).waiting) :
    w ∈ t.waiting ∧ w.1 ≠ ticket := by
  rcases Traffic.answer_cases ticket result t with ⟨hlookup, heq⟩ | ⟨p, _, _, hwaiting⟩
  · rw [heq] at hw
    have hne := List.lookup_eq_none_iff.mp hlookup w hw
    exact ⟨hw, fun h => by simp [h] at hne⟩
  · rw [hwaiting] at hw
    obtain ⟨hw, hne⟩ := List.mem_filter.mp hw
    exact ⟨hw, by simpa using hne⟩

/-- Starting an operation keeps the invariant, if a decision makes a command wait that will render
the deck. -/
theorem of_begin {a a' : App σ} (h : CursorAtLastSight sights ⟨a, none⟩) {op : Operation}
    (htraffic : a'.traffic = a.traffic.step (.begin op)) {pending : Option (Ticket × View)}
    (hpending : ∀ p direction, (a.traffic.client.begin op).2 = .waiting p →
      op = .swipe direction → pending = some (a.traffic.next, .deck)) :
    CursorAtLastSight sights ⟨a', pending⟩ where
  faithful := by
    show a'.traffic.Faithful
    rw [htraffic]
    exact h.faithful.step _
  decisions := by
    intro w hw id hid
    rw [htraffic] at hw
    -- no decision was under way before, so this one is the swipe that has just begun
    rcases waiting_begin hw hid with hw | ⟨hp, hticket, direction, hop⟩
    · exact absurd hid (h.no_decision rfl hw id)
    · rw [hticket]
      exact hpending w.2 direction hp hop
  current := by
    intro _
    show a'.traffic.client.deck.value.current? = _
    rw [htraffic]
    exact (current?_begin h.faithful op).trans (h.current nofun)
  views := h.views

/-! ## Moves -/

theorem command (h : CursorAtLastSight sights s) (command : Command) :
    CursorAtLastSight (sights ++ s.sights (.command command)) (s.step (.command command)) := by
  obtain ⟨a, waiting⟩ := s
  rcases waiting with _ | pending
  case some => simpa only [Sitting.sights, Sitting.step, List.append_nil] using h
  have h₁ := h.readied (App.readied command a)
  have hshows : command.showsDeck = true → _ := (App.view?_task_of_showsDeck · a)
  have hswipe := @App.view_of_swipe σ a command
  simp only [Sitting.sights, Sitting.step, App.begin]
  generalize a.ready command = a₁ at h₁
  generalize a.task command = task at hshows hswipe
  cases task with
  | quits =>
    simp only [App.carryOut, List.append_nil]
    exact h₁
  | tells text => exact h₁.said fun hshown => nomatch hshows hshown
  | shows view =>
    refine (h₁.readied (App.readied_present view a₁)).said fun hshown => ?_
    obtain rfl : view = .deck := Option.some.inj (hshows hshown)
    rfl
  | starts op view =>
    obtain ⟨htraffic, ⟨p, hp, hturn⟩ | ⟨⟨e, he⟩, text, hturn, htext⟩⟩ :=
      App.start_cases op view a₁
    · have hstart : a₁.start op view =
          ((a₁.start op view).1, .waits a₁.traffic.next p.request view) := by rw [← hturn]
      simp only [App.carryOut]
      rw [hstart]
      simp only [List.append_nil]
      exact h₁.of_begin htraffic fun _ direction _ hop => by
        subst hop
        rw [hswipe rfl]
    · have hstart : a₁.start op view = ((a₁.start op view).1, .replies text) := by rw [← hturn]
      simp only [App.carryOut]
      rw [hstart]
      -- it has ended, so it is not on the way, as a decision or as anything else
      have h₂ : CursorAtLastSight sights ⟨(a₁.start op view).1, none⟩ :=
        h₁.of_begin htraffic fun p _ hp _ => by
          rw [he] at hp
          cases hp
      exact h₂.said fun hshown => htext (Option.some.inj (hshows hshown))

/-- The waiting command is answered: no decision is on the way any more. If it was one, its answer
has moved the cursor, and the view that is printed shows the new candidate. -/
theorem reply (h : CursorAtLastSight sights s) (result : Except Failure Response) :
    CursorAtLastSight (sights ++ s.sights (.reply result)) (s.step (.reply result)) := by
  obtain ⟨a, waiting⟩ := s
  rcases waiting with _ | ⟨ticket, view⟩
  · simpa only [Sitting.sights, Sitting.step, List.append_nil] using h
  have htraffic : (a.answer ticket result view).1.traffic =
      a.traffic.step (.answer ticket result) := App.present_traffic view _
  have hfaithful : (a.answer ticket result view).1.traffic.Faithful := by
    rw [htraffic]
    exact h.faithful.step _
  have hdecisions : ∀ w ∈ (a.answer ticket result view).1.traffic.waiting, ∀ id,
      w.2.purpose ≠ .decision id := by
    intro w hw id hid
    rw [htraffic] at hw
    obtain ⟨hw, hne⟩ := waiting_answer hw
    have hpending := h.decisions w hw id hid
    exact hne (congrArg Prod.fst (Option.some.inj hpending)).symm
  -- the answer may have moved the cursor, but if it has, the deck is shown now
  by_cases hview : view = .deck
  · subst hview
    simp only [Sitting.sights, Sitting.step]
    rw [← List.append_assoc]
    exact viewed hfaithful hdecisions fun text deck => h.views_arrivals ticket result
  · have hsights : Sitting.sights ⟨a, some (ticket, view)⟩ (.reply result) =
        arrivals a.traffic ticket result := by
      cases view with
      | deck => exact absurd rfl hview
      | _ => rfl
    rw [hsights]
    exact {
      faithful := hfaithful
      decisions := fun w hw id hid => absurd hid (hdecisions w hw id)
      current := by
        intro _
        show (a.answer ticket result view).1.traffic.client.deck.value.current? = _
        rw [htraffic]
        refine current?_answer h.faithful result ?_ (h.current ?_)
        · intro p id hw hid
          have hpending := h.decisions (ticket, p) hw id hid
          exact hview (congrArg Prod.snd (Option.some.inj hpending))
        · intro ticket' hpending
          exact hview (congrArg Prod.snd (Option.some.inj hpending))
      views := fun text deck => h.views_arrivals ticket result }

theorem fetch (h : CursorAtLastSight sights s) :
    CursorAtLastSight (sights ++ s.sights .fetch) (s.step .fetch) := by
  simp only [Sitting.sights, Sitting.step, List.append_nil]
  exact {
    faithful := h.faithful.step .fetchDue
    decisions := by
      intro w hw id hid
      have hw : w ∈ (s.app.traffic.step .fetchDue).waiting := hw
      -- a page is asked for ahead, or none is due; neither is a decision
      rcases Traffic.fetchDue_cases s.app.traffic with heq | ⟨n, _, heq⟩
      · rw [heq] at hw
        exact h.decisions w hw id hid
      · rw [heq] at hw
        rcases Traffic.mem_waiting_proceed hw with hw | ⟨_, hw⟩
        · exact h.decisions w hw id hid
        · cases (Client.fetchPage_waiting hw).1.symm.trans hid
    current := fun hpending =>
      (congrArg Hand.current? (Client.step_deck h.faithful .fetchDue).value).trans
        (h.current hpending)
    views := h.views }

/-- What comes in the background is not a decision. It may be a page that was fetched ahead, and
then its first candidate becomes the current one. -/
theorem background (h : CursorAtLastSight sights s) (ticket : Ticket)
    (result : Except Failure Response) :
    CursorAtLastSight (sights ++ s.sights (.background ticket result))
      (s.step (.background ticket result)) := by
  by_cases hticket : s.pending.map Prod.fst = some ticket
  · simpa only [Sitting.sights, Sitting.step, if_pos hticket, List.append_nil] using h
  · simp only [Sitting.sights, Sitting.step, if_neg hticket]
    exact {
      faithful := h.faithful.step _
      decisions := fun w hw => h.decisions w (waiting_answer hw).1
      current := by
        intro hpending
        refine current?_answer h.faithful result ?_ (h.current hpending)
        -- a decision would be under the ticket of the command that waits
        intro p id hw hid
        have hwaits := h.decisions (ticket, p) hw id hid
        exact hticket (by rw [hwaits]; rfl)
      views := fun text deck => h.views_arrivals ticket result }

theorem step (h : CursorAtLastSight sights s) (move : Move) :
    CursorAtLastSight (sights ++ s.sights move) (s.step move) := by
  cases move with
  | command c => exact h.command c
  | reply result => exact h.reply result
  | fetch => exact h.fetch
  | background ticket result => exact h.background ticket result

end CursorAtLastSight

variable [Storage σ]

theorem cursorAtLastSight_run (address : String) (paging : Service.Paging)
    (store : Credential.Store σ) (today : Time.Date) (moves : List Move) :
    CursorAtLastSight ((Sitting.started address paging store today).seen moves)
      ((Sitting.started address paging store today).run moves) := by
  -- the last move is the one to peel off, since the sights grow at the end
  induction moves using List.reverseRecOn with
  | nil =>
    have hdeck : (Traffic.started address paging store).client.deck = ⟨{}, []⟩ :=
      Client.resume_deck _
    exact {
      faithful := fun _ hw => nomatch hw
      decisions := fun _ hw => nomatch hw
      current := fun _ => by
        show (Traffic.started address paging store).client.deck.value.current? = none
        rw [hdeck]
        rfl
      views := fun _ _ hmem => nomatch hmem }
  | append_singleton moves move ih =>
    rw [Sitting.seen_concat, Sitting.run_concat]
    exact ih.step move

/-- A decision that goes out from the terminal is about the candidate under the cursor: `swipe`
takes the current card of the deck and reads nothing of what was printed. -/
theorem swipe_sent {a : App σ} {direction : Wire.Direction} {ticket : Ticket} {request : Request}
    {view : View} (hsent : (a.begin (.swipe direction)).2 = .waits ticket request view) :
    ∃ candidate url token, a.client.deck.value.current? = some candidate ∧
      request = Service.requestAt url token (.swipe ⟨candidate.id, direction⟩) := by
  obtain ⟨_, ⟨p, hp, hturn⟩ | ⟨_, text, hturn, _⟩⟩ := App.start_cases (.swipe direction) .deck a
  · have hturn : (a.begin (.swipe direction)).2 = .waits a.traffic.next p.request .deck := hturn
    rw [hturn] at hsent
    obtain ⟨_, url, he, _, rfl⟩ := Client.begin_waiting hp
    obtain ⟨candidate, hcurrent, rfl⟩ := Option.map_eq_some_iff.mp he
    exact ⟨candidate, url, (a.client.store.token .access).1, hcurrent,
      (Turn.waits.inj hsent).2.1.symm⟩
  · have hturn : (a.begin (.swipe direction)).2 = .replies text := hturn
    rw [hturn] at hsent
    cases hsent

/-- **Which candidate a decision is about.** Let any moves be made in any order. If a decision is
then typed and a request goes out, it is about the candidate who was under the cursor in the last
view of the deck, as long as no page has come since; if one has, it is about the first candidate of
the page that came last. -/
theorem swipe_decides_on_last_sight (address : String) (paging : Service.Paging)
    (store : Credential.Store σ) (today : Time.Date) (moves : List Move)
    (direction : Wire.Direction) {ticket : Ticket} {request : Request} {view : View}
    (hidle : ((Sitting.started address paging store today).run moves).pending = none)
    (hsent : (((Sitting.started address paging store today).run moves).app.begin
      (.swipe direction)).2 = .waits ticket request view) :
    ∃ candidate url token,
      request = Service.requestAt url token (.swipe ⟨candidate.id, direction⟩) ∧
      ((∃ text deck,
          ((Sitting.started address paging store today).seen moves).getLast? =
            some (.view text deck) ∧
          text = deckView deck ∧ deck.current? = some candidate) ∨
        ∃ page,
          ((Sitting.started address paging store today).seen moves).getLast? =
            some (.page page) ∧
          page.profiles.head? = some candidate) := by
  have hcursor := cursorAtLastSight_run address paging store today moves
  -- from here on only the invariant speaks of the run
  generalize (Sitting.started address paging store today).run moves = s at hcursor hidle hsent
  generalize (Sitting.started address paging store today).seen moves = sights at hcursor
  obtain ⟨candidate, url, token, hcurrent, hrequest⟩ := swipe_sent hsent
  have hlast := (hcursor.current (by rw [hidle]; exact nofun)).symm.trans hcurrent
  obtain ⟨sight, hsight, hcandidate⟩ := Option.bind_eq_some_iff.mp hlast
  refine ⟨candidate, url, token, hrequest, ?_⟩
  rcases sight with ⟨text, deck⟩ | page
  · exact .inl ⟨text, deck, hsight,
      hcursor.views text deck (List.mem_of_getLast? hsight), hcandidate⟩
  · exact .inr ⟨page, hsight, hcandidate⟩

/-! ## A page that came unseen -/

/-- An answer that says yes. -/
def agreed (text : String) : Except Failure Response :=
  .ok ⟨200, Text.Utf8.bytes text⟩

/-- The deck is asked for, and two candidates come. -/
def dealtTwo : List Move :=
  [.command .deck, .reply (agreed
    "\x7b\"profiles\":[[\"a\",\"A\",30,null,[],null],[\"b\",\"B\",30,null,[],null]]\x7d")]

/-- The first one is decided about, and the next page comes when the second one is on view. -/
def dealtUnseen : List Move :=
  dealtTwo ++ [.command (.swipe .like), .reply (agreed "\x7b\x7d"), .fetch,
    .background 2 (agreed "\x7b\"profiles\":[[\"c\",\"C\",30,null,[],null]]\x7d")]

/-- A terminal over memory without tokens. -/
def freshSitting : Sitting Credential.Entries :=
  Sitting.started "http://host" {} { vault := [] } ⟨2024, 5, 1⟩

/-- The deck in the last view of it. -/
def lastView? (sights : List Sight) : Option Client.Deck :=
  sights.reverse.findSome? fun
    | .view _ deck => some deck
    | .page _ => none

/-- Whether a command has sent a request. -/
def Turn.sends : Turn → Bool
  | .waits .. => true
  | _ => false

theorem Turn.exists_waits (turn : Turn) (h : turn.sends = true) :
    ∃ ticket request view, turn = .waits ticket request view := by
  rcases turn with _ | _ | ⟨ticket, request, view⟩
  · cases h
  · cases h
  · exact ⟨ticket, request, view, rfl⟩

/-- A decision about the candidate on view, as it is typed right after the first page. Both
hypotheses are met: the terminal is idle, and the command sends a request. -/
theorem swipe_decides_on_last_sight_dealtTwo :
    (freshSitting.run dealtTwo).pending = none ∧
    ∃ ticket request view candidate url token,
      ((freshSitting.run dealtTwo).app.begin (.swipe .like)).2 = .waits ticket request view ∧
      request = Service.requestAt url token (.swipe ⟨candidate.id, .like⟩) ∧
      ((∃ text deck, (freshSitting.seen dealtTwo).getLast? = some (.view text deck) ∧
          text = deckView deck ∧ deck.current? = some candidate) ∨
        ∃ page, (freshSitting.seen dealtTwo).getLast? = some (.page page) ∧
          page.profiles.head? = some candidate) := by
  have hidle : (freshSitting.run dealtTwo).pending = none :=
    Option.isNone_iff_eq_none.mp (by decide +kernel)
  obtain ⟨ticket, request, view, hsent⟩ := Turn.exists_waits
    ((freshSitting.run dealtTwo).app.begin (.swipe .like)).2 (by decide +kernel)
  obtain ⟨candidate, url, token, hrequest, hsight⟩ :=
    swipe_decides_on_last_sight _ _ _ _ dealtTwo .like hidle hsent
  exact ⟨hidle, ticket, request, view, candidate, url, token, hsent, hrequest, hsight⟩

/-- How a decision is written: two members, in the order of their names. -/
theorem swipe_body (id : String) (direction : Wire.Direction) :
    (Service.Endpoint.swipe ⟨id, direction⟩).body =
      some (.obj [("direction", Wire.Direction.codec.toJson direction),
        ("swiped_id", .str id)]) := by
  have hsort : ([("swiped_id", .str id),
      ("direction", (Wire.Direction.codec.toJson direction).sorted)] :
        List (String × Json)).mergeSort (fun a b => a.1 ≤ b.1) =
      [("direction", (Wire.Direction.codec.toJson direction).sorted), ("swiped_id", .str id)] := by
    have hle : ¬ "swiped_id" ≤ "direction" := by decide
    simp [List.mergeSort, List.MergeSort.Internal.splitInTwo, hle]
  refine (congrArg (fun members => some (Json.obj members)) hsort).trans ?_
  cases direction <;> rfl

/-- A decision is not always about the candidate in the last view of the deck: `b` is on view
when the page comes that `c` is on, and the decision is about `c`. -/
theorem swipe_not_always_on_last_view :
    ¬ ∀ (moves : List Move) (direction : Wire.Direction) (ticket : Ticket) (request : Request)
        (view : View),
      (freshSitting.run moves).pending = none →
      ((freshSitting.run moves).app.begin (.swipe direction)).2 = .waits ticket request view →
      ∃ deck candidate url token, lastView? (freshSitting.seen moves) = some deck ∧
        deck.current? = some candidate ∧
        request = Service.requestAt url token (.swipe ⟨candidate.id, direction⟩) := by
  intro h
  have hidle : (freshSitting.run dealtUnseen).pending = none :=
    Option.isNone_iff_eq_none.mp (by decide +kernel)
  obtain ⟨ticket, request, view, hsent⟩ := Turn.exists_waits
    ((freshSitting.run dealtUnseen).app.begin (.swipe .like)).2 (by decide +kernel)
  -- the top card is the one of the later page, while the screen still shows the earlier page
  have htop : (freshSitting.run dealtUnseen).app.client.deck.value.current?.map
      Wire.Candidate.id = some "c" := by decide +kernel
  have hview : (lastView? (freshSitting.seen dealtUnseen)).bind
      (fun deck => deck.current?.map Wire.Candidate.id) = some "b" := by decide +kernel
  obtain ⟨deck, shown, url, token, hdeck, hshown, hrequest⟩ := h _ _ _ _ _ hidle hsent
  obtain ⟨chosen, url', token', hchosen, hrequest'⟩ := swipe_sent hsent
  have hshownId : shown.id = "b" := by
    rw [hdeck, Option.bind_some, hshown, Option.map_some] at hview
    exact Option.some.inj hview
  have hchosenId : chosen.id = "c" := by
    rw [hchosen, Option.map_some] at htop
    exact Option.some.inj htop
  -- the two requests carry different ids in their bodies
  have hbody := congrArg Request.body (hrequest.symm.trans hrequest')
  rw [hshownId, hchosenId] at hbody
  simp only [Service.requestAt, swipe_body, Option.map_some] at hbody
  exact absurd hbody (by decide +kernel)

end Rendezvous.Terminal
