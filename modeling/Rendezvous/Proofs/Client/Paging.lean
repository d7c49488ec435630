/-
One page at a time, and none forgotten (`begin_loading`, `fetch_page` and `prefetch` together).

A page is claimed in two ways, by `load_profiles` and by a decision that leaves too few candidates,
and the claim is given up in many: the page comes, or it is refused, or it cannot be decoded, or its
URL cannot be resolved. In between, the claim is a page that is due or a request for a page on the
way. `pagesPending` counts both, and `Single` says that the count is one while the flag of the deck
is up and zero otherwise.

That it survives every order of events is an account of each half of an operation: what it adds to
the flag is what it hands on to be fetched (`begin_claims`, `conclude_claims`). The one event that
takes a claim off the count is the end of its request, and for that the tickets have to be distinct,
or answering a request might take another one along.
-/
import Mathlib.Data.List.Nodup
import Rendezvous.Proofs.Client.Confined
import Rendezvous.Proofs.Client.Hand
import Rendezvous.Proofs.Client.Lasting

set_option autoImplicit false

namespace Rendezvous.Client

open Credential (Storage)
open Service (Endpoint Failure)
open Web (Response)

variable {σ : Type} {c : Client σ}

/-! ## Claims -/

/-- Whether an answer is a page. -/
def Purpose.isPage : Purpose → Bool
  | .page => true
  | _ => false

/-- How many pages the first half of an operation leaves to be fetched. -/
def Progress.pages : Progress → Nat
  | .waiting p => p.purpose.isPage.toNat
  | .ended e => e.fetchDue.toNat

/-- How many pages have been claimed, as the deck has it: one if its flag is up. -/
def claims (c : Client σ) : Nat :=
  c.deck.value.loading.toNat

theorem Purpose.isPage_iff {purpose : Purpose} :
    purpose.isPage = true ↔ purpose.business? = some .page := by
  cases purpose <;> simp [isPage, business?]

theorem Purpose.business?_ne_page {purpose : Purpose} (h : purpose.isPage = false) :
    purpose.business? ≠ some .page := by
  intro hb
  rw [isPage_iff.mpr hb] at h
  cases h

theorem Notes.claims {c' : Client σ} (h : Notes c c') : c'.claims = c.claims := by
  rw [Client.claims, Client.claims, h.deck]

/-- A publication that leaves the flag of the page alone claims nothing. -/
theorem claims_publish {u : Publication} (hu : u.KeepsFlag .page) (c : Client σ) :
    (c.publish u).claims = c.claims := by
  cases u with
  | deck f => exact congrArg Bool.toNat (hu.1 rfl c.deck.value)
  | _ => rfl

/-- `prefetch` claims what it hands on. -/
theorem claims_claimAhead (c : Client σ) :
    c.claimAhead.1.claims = c.claims + c.claimAhead.2.toNat := by
  rcases claimAhead_cases c with ⟨_, hdown, hclaim⟩ | ⟨_, hnothing⟩
  · rw [hclaim, claims, claims, hdown]
    rfl
  · rw [hnothing]
    rfl

/-- After `prefetch` a page is claimed if few candidates are left; otherwise it has claimed none.
The threshold is compared with the deck as it is then. -/
theorem claimAhead_spec (c : Client σ) :
    (c.claimAhead.1.deck.value.remaining ≤ c.paging.threshold → c.claimAhead.1.claims = 1) ∧
      (c.paging.threshold < c.claimAhead.1.deck.value.remaining → c.claimAhead.2 = false) := by
  rcases claimAhead_cases c with ⟨hfew, _, hclaim⟩ | ⟨hup, hnothing⟩
  · -- raising the flag deals no cards
    rw [hclaim]
    have hsame : ((c.publish Business.page.announcement).note .fetchingAhead).deck.value.remaining =
        c.deck.value.remaining := rfl
    rw [hsame]
    exact ⟨fun _ => rfl, fun hmany => absurd hfew (Nat.not_le_of_lt hmany)⟩
  · rw [hnothing]
    refine ⟨fun hfew => ?_, fun _ => rfl⟩
    rw [claims, hup hfew]
    rfl

/-! ## The second half -/

section

variable [Storage σ]

/-- A reply that is not about the page claims what it hands on. -/
theorem claims_apply {reply : Reply} (h : reply.KeepsFlag .page) (c : Client σ) :
    (c.apply reply).1.claims = c.claims + (c.apply reply).2.toNat := by
  cases reply with
  | shown u => exact claims_publish h c
  | tokens pair =>
    simp only [apply, claims, deck_takeTokens]
    rfl
  | decision id answer => exact claims_claimAhead (c.onDeck (Deck.decided id answer))
  | unseen => rfl

/-- **An answer that is no page** leaves the flag of the deck as it is, but for a decision that
claims the next page, and that one is handed on. -/
theorem conclude_claims {purpose : Purpose} (hp : purpose.isPage = false) (e : Endpoint)
    (result : Except Failure Response) (c : Client σ) :
    (c.conclude purpose e result).1.claims =
      c.claims + (c.conclude purpose e result).2.fetchDue.toNat := by
  obtain ⟨c₁, hn, hn', hdue⟩ := conclude_spec purpose e result c
  have happly := claims_apply (purpose.keepsFlag_reply (Purpose.business?_ne_page hp) result) c₁
  rw [hn'.claims, happly, hn.claims, ← hdue]

/-- **A decision that arrives** leaves a page claimed if few candidates are left, and claims none
otherwise; a decision that does not arrive claims none either. -/
theorem conclude_decision (id : String) (e : Endpoint) (result : Except Failure Response)
    (c : Client σ) :
    (∀ answer, received Wire.SwipeResult.codec result = some answer →
      ((c.conclude (.decision id) e result).1.deck.value.remaining ≤ c.paging.threshold →
        (c.conclude (.decision id) e result).1.claims = 1) ∧
      (c.paging.threshold < (c.conclude (.decision id) e result).1.deck.value.remaining →
        (c.conclude (.decision id) e result).2.fetchDue = false)) ∧
    (received Wire.SwipeResult.codec result = none →
      (c.conclude (.decision id) e result).2.fetchDue = false) := by
  obtain ⟨c₁, hn, hn', hdue⟩ := conclude_spec (.decision id) e result c
  rw [hn'.claims, hn'.deck, hdue, received_eq_toOption, ← hn.paging]
  rw [Purpose.reply]
  rcases reading Wire.SwipeResult.codec result with why | answer
  · refine ⟨fun answer hno => ?_, fun _ => rfl⟩
    cases hno
  · refine ⟨fun _ _ => claimAhead_spec (c₁.onDeck (Deck.decided id answer)), fun hno => ?_⟩
    cases hno

/-- A page that comes, or does not come, is not claimed any longer. -/
theorem conclude_page (e : Endpoint) (result : Except Failure Response) (c : Client σ) :
    (c.conclude .page e result).1.claims = 0 ∧
      (c.conclude .page e result).2.fetchDue = false := by
  obtain ⟨c₁, _, hn', hdue⟩ := conclude_spec .page e result c
  rw [hn'.claims, hdue, Purpose.reply]
  rcases reading Wire.Page.codec result with why | page
  · exact ⟨rfl, rfl⟩
  · exact ⟨rfl, rfl⟩

/-- An operation that ends without an answer claims nothing. -/
theorem fetchDue_conclude_error (purpose : Purpose) (e : Endpoint) (why : Failure)
    (c : Client σ) : (c.conclude purpose e (.error why)).2.fetchDue = false := by
  cases purpose <;> rfl

/-! ## The first half -/

/-- Asking for something that is no page claims none. -/
theorem ask_claims (purpose : Purpose) (hp : purpose.isPage = false) (e : Endpoint)
    (c : Client σ) : (c.ask e purpose).1.claims = c.claims ∧ (c.ask e purpose).2.pages = 0 := by
  rcases ask_cases e purpose c with ⟨c', url, hn, _, hask⟩ | ⟨why, _, hask⟩
  · rw [hask]
    simp only [hn.claims, Progress.pages, hp]
    exact ⟨trivial, rfl⟩
  · have hdue := fetchDue_conclude_error purpose e why c
    rw [hask, conclude_claims hp, Progress.pages, hdue]
    exact ⟨rfl, rfl⟩

/-- A page that has been claimed is asked for, or its URL cannot be resolved and it is claimed no
longer. -/
theorem fetchPage_claims (h : c.claims = 1) :
    c.fetchPage.1.claims = c.fetchPage.2.pages := by
  simp only [fetchPage]
  rcases ask_cases (.candidates c.paging.pageSize) .page c with
    ⟨c', url, hn, _, hask⟩ | ⟨why, _, hask⟩
  · rw [hask]
    simp only [claims, hn.deck]
    exact h
  · obtain ⟨hclaims, hdue⟩ := conclude_page (.candidates c.paging.pageSize) (.error why) c
    rw [hask, hclaims, Progress.pages, hdue]
    rfl

/-- Only `load_profiles` claims a page in its first half. A decision about a candidate may lead to a
page as well, but only in its second half and through `maybe_prefetch`. -/
theorem begin_claims_nothing {op : Operation} (hop : op.business? ≠ some .page) (c : Client σ) :
    (c.begin op).1.claims = c.claims ∧ (c.begin op).2.pages = 0 := by
  obtain ⟨c₁, hn, ⟨_, hbegin⟩ | ⟨e, _, hbegin⟩⟩ := begin_inversion op c
  · -- what is reported when nothing is asked is no page either
    have hexcuse : (c₁.publish? op.reportUnasked?).claims = c₁.claims :=
      congrArg Bool.toNat (op.raised_reportUnasked? (b := .page) c₁)
    rw [hbegin, hexcuse, hn.claims]
    exact ⟨rfl, rfl⟩
  · have hpage : (op.purpose c).isPage = false := by
      refine eq_false_of_ne_true fun h => hop ?_
      rw [← op.business?_purpose c]
      exact Purpose.isPage_iff.mp h
    have hannounced :
        (c₁.publish? (op.business?.map Business.announcement)).claims = c₁.claims := by
      rcases hb : op.business? with _ | b
      · rfl
      · exact claims_publish (Business.keepsFlag_announcement fun h => hop (h ▸ hb)) c₁
    rw [hbegin, ← hn.claims, ← hannounced]
    exact ask_claims _ hpage e _

/-- **The first half of an operation** claims what it leaves to be fetched. The two sides are
counted apart, the flag on the left and the request on the right, so that none of them can be
lost. -/
theorem begin_claims (op : Operation) (c : Client σ) :
    (c.begin op).1.claims = c.claims + (c.begin op).2.pages := by
  by_cases hop : op.business? = some .page
  · obtain rfl : op = .loadPage := by
      cases op <;> first | rfl | cases hop
    rcases hl : c.deck.value.loading with _ | _
    · have hnone : c.claims = 0 := by rw [claims, hl]; rfl
      simp only [begin, claimPage_of_down hl]
      rw [fetchPage_claims rfl, hnone]
      exact (Nat.zero_add _).symm
    · simp only [begin, claimPage_of_up hl]
      rfl
  · obtain ⟨hclaims, hpages⟩ := begin_claims_nothing hop c
    rw [hclaims, hpages]
    rfl

end

/-! ## The count -/

namespace Traffic

variable {t : Traffic σ}

/-- How many pages have been claimed and have not come to an end: those that are due, and those
that have been asked for. -/
def pagesPending (t : Traffic σ) : Nat :=
  t.due + t.waiting.countP fun w => w.2.purpose.isPage

theorem pagesPending_withDue (b : Bool) (t : Traffic σ) :
    (t.withDue b).pagesPending = t.pagesPending + b.toNat := by
  rcases b with _ | _
  · rfl
  · simp only [withDue, if_true, pagesPending, Bool.toNat_true]
    omega

theorem pagesPending_proceed (r : Client σ × Progress) (t : Traffic σ) :
    (t.proceed r).1.pagesPending = t.pagesPending + r.2.pages := by
  obtain ⟨c, p | e⟩ := r
  · simp only [proceed, pagesPending, Progress.pages, List.countP_append, List.countP_cons,
      List.countP_nil]
    rcases p.purpose.isPage with _ | _
    · rfl
    · rfl
  · exact pagesPending_withDue e.fetchDue _

/-- No two requests on the way have the same ticket. -/
def Distinct (t : Traffic σ) : Prop :=
  (t.waiting.map Prod.fst).Nodup

/-- Taking away what waits under a ticket takes away one request. This is where the tickets have to
be distinct. -/
theorem countP_answered {l : List (Ticket × Pending)} (hl : (l.map Prod.fst).Nodup)
    {ticket : Ticket} {p : Pending} (hp : l.lookup ticket = some p)
    (q : Ticket × Pending → Bool) :
    (l.filter (·.1 != ticket)).countP q + (q (ticket, p)).toNat = l.countP q := by
  obtain ⟨before, later, rfl, hbefore⟩ := List.lookup_eq_some_iff.mp hp
  rw [List.map_append, List.map_cons, List.nodup_middle, List.nodup_cons] at hl
  -- whatever else waits has another ticket, so it is kept
  have hkept : ∀ w ∈ before ++ later, (w.1 != ticket) = true := by
    intro w hw
    rw [bne_iff_ne]
    intro heq
    have hmem : w.1 ∈ before.map Prod.fst ++ later.map Prod.fst := by
      rw [← List.map_append]
      exact List.mem_map_of_mem hw
    rw [heq] at hmem
    exact hl.1 hmem
  have hfilter : (before ++ (ticket, p) :: later).filter (·.1 != ticket) = before ++ later := by
    rw [List.filter_append, List.filter_cons_of_neg (by simp), ← List.filter_append]
    exact List.filter_eq_self.mpr hkept
  rw [hfilter]
  simp only [List.countP_append, List.countP_cons]
  rcases q (ticket, p) with _ | _
  · rfl
  · simp only [Bool.toNat_true, if_true]
    omega

variable [Storage σ]

theorem Distinct.step (h : t.Distinct) (hn : t.Numbered) (e : Event σ) :
    (t.step e).Distinct := by
  have proceeds (r : Client σ × Progress) {t₀ : Traffic σ} (hnext : t₀.next = t.next)
      (hwaiting : t₀.waiting = t.waiting) : (t₀.proceed r).1.Distinct := by
    unfold Distinct
    rcases proceed_cases r t₀ with ⟨p, _, _, hw⟩ | ⟨e, _, _, hw⟩
    · rw [hw, hwaiting, hnext, List.map_append, List.map_singleton, List.nodup_append]
      refine ⟨h, List.nodup_singleton _, ?_⟩
      intro ticket hticket next hmem
      rw [List.mem_singleton.mp hmem]
      obtain ⟨w, hw, rfl⟩ := List.mem_map.mp hticket
      -- whatever waits was begun before, under a smaller ticket
      exact Nat.ne_of_lt (hn w hw)
    · rw [hw, hwaiting]
      exact h
  cases e with
  | begin op => exact proceeds _ rfl rfl
  | fetchDue =>
    rcases fetchDue_cases t with heq | ⟨n, _, heq⟩
    · rw [heq]
      exact h
    · rw [heq]
      exact proceeds _ rfl rfl
  | answer ticket result =>
    unfold Distinct
    rcases answer_cases ticket result t with ⟨_, heq⟩ | ⟨p, _, _, hwaiting⟩
    · rw [heq]
      exact h
    · rw [hwaiting]
      exact h.sublist (List.filter_sublist.map _)
  | resume => exact h
  | logOut => exact h
  | dismissMatch => exact h
  | openRoom id => exact h
  | drift f => exact h

/-- What answering a request does to the count: its own page is off it, and a page that it claims is
on it. -/
theorem pagesPending_answer (h : t.Distinct) {ticket : Ticket} {p : Pending}
    (hp : t.waiting.lookup ticket = some p) (result : Except Failure Response) :
    (t.step (.answer ticket result)).pagesPending + p.purpose.isPage.toNat =
      t.pagesPending + (t.client.settle p result).2.fetchDue.toNat := by
  have hcount : (t.waiting.filter (·.1 != ticket)).countP (fun w => w.2.purpose.isPage) +
      p.purpose.isPage.toNat = t.waiting.countP fun w => w.2.purpose.isPage :=
    countP_answered h hp fun w => w.2.purpose.isPage
  simp only [step, Traffic.answer, hp]
  rw [pagesPending_withDue]
  simp only [pagesPending]
  omega

/-! ## Every run -/

/-- The pages that are pending are the ones that the flag of the deck says are, so there is one at
most. -/
structure Single (t : Traffic σ) : Prop where
  distinct : t.Distinct
  numbered : t.Numbered
  pending : t.pagesPending = t.client.claims

/-- **One event** keeps the flag in line with what is pending. An answer takes away one page and the
flag with it; a page that is begun is let through only if the flag is down. -/
theorem Single.step (h : t.Single) (e : Event σ) : (t.step e).Single where
  distinct := h.distinct.step h.numbered e
  numbered := h.numbered.step e
  pending := by
    have hpending := h.pending
    -- what happens elsewhere changes neither side
    have elsewhere {t' : Traffic σ} (hcount : t'.pagesPending = t.pagesPending)
        (hdeck : t'.client.deck = t.client.deck) : t'.pagesPending = t'.client.claims := by
      rw [hcount, hpending, claims, claims, hdeck]
    cases e with
    | begin op =>
      rw [begin_client, begin_claims, ← hpending]
      exact pagesPending_proceed _ t
    | fetchDue =>
      rcases fetchDue_cases t with heq | ⟨n, hdue, heq⟩
      · rw [heq]
        exact hpending
      · -- what is due has been claimed, and it is the only one
        have hone : t.client.claims = 1 ∧
            pagesPending { t with due := n } = 0 := by
          have hle : t.client.claims ≤ 1 := Bool.toNat_le _
          simp only [pagesPending] at hpending ⊢
          omega
        rw [heq, pagesPending_proceed, proceed_client, fetchPage_claims hone.1, hone.2]
        exact Nat.zero_add _
    | answer ticket result =>
      rcases answer_cases ticket result t with ⟨_, heq⟩ | ⟨p, hp, hclient, _⟩
      · rw [heq]
        exact hpending
      · have hcount := pagesPending_answer h.distinct hp result
        rw [hclient]
        rcases hpage : p.purpose.isPage with _ | _
        · rw [hpage] at hcount
          rw [settle, conclude_claims hpage, ← hpending]
          exact hcount
        · -- the page was claimed, or it could not have been asked for
          have hpurpose : p.purpose = .page :=
            Purpose.business?_eq_page.mp (Purpose.isPage_iff.mp hpage)
          obtain ⟨hclaims, hdue⟩ := conclude_page p.endpoint result t.client
          have hle : t.client.claims ≤ 1 := Bool.toNat_le _
          rw [settle, hpurpose, hdue] at hcount
          rw [settle, hpurpose, hclaims]
          simp only [Purpose.isPage, Bool.toNat_true, Bool.toNat_false] at hcount
          omega
    | resume => exact elsewhere rfl (resume_deck _)
    | logOut => exact elsewhere rfl (logOut_deck _)
    | dismissMatch => exact hpending
    | openRoom id => exact elsewhere rfl rfl
    | drift f => exact elsewhere rfl rfl

theorem Single.run (h : t.Single) (es : List (Event σ)) : (t.run es).Single := by
  induction es generalizing t with
  | nil => exact h
  | cons e es ih => exact ih (h.step e)

theorem single_started (address : String) (paging : Service.Paging)
    (store : Credential.Store σ) : (started address paging store).Single where
  distinct := List.nodup_nil
  numbered := numbered_run address paging store []
  pending := by
    have hdeck : (started address paging store).client.deck = ⟨{}, []⟩ := resume_deck _
    rw [claims, hdeck]
    rfl

theorem single_run (address : String) (paging : Service.Paging) (store : Credential.Store σ)
    (es : List (Event σ)) : ((started address paging store).run es).Single :=
  (single_started address paging store).run es

/-- Page fetches of a deck exclude each other, and none is forgotten. A page is pending from when it
is claimed, by `begin_loading`, until its answer has been dealt with, so one that is due and has not
been asked for yet counts too (`pagesPending`). -/
structure OnePageAtATime (paging : Service.Paging) (t : Traffic σ) : Prop where
  /-- the flag is up exactly while a page is pending -/
  loading_iff : t.client.deck.value.loading = true ↔ t.pagesPending = 1
  /-- and there are never two -/
  le_one : t.pagesPending ≤ 1
  /-- asking for candidates meanwhile changes nothing and sends nothing -/
  guarded : t.pagesPending = 1 →
    t.begin .loadPage = ({ t with next := t.next + 1 }, t.next, .ended .shown)
  /-- a decision that is only made has no page fetched -/
  swipe : ∀ direction, (t.step (.begin (.swipe direction))).pagesPending = t.pagesPending
  /-- a decision that has arrived has one fetched exactly if few candidates are left then, whatever
  page they are on -/
  decided : ∀ ticket p id result answer, t.waiting.lookup ticket = some p →
    p.purpose = .decision id → received Wire.SwipeResult.codec result = some answer →
    let after := t.step (.answer ticket result)
    (after.client.deck.value.remaining ≤ paging.threshold → after.pagesPending = 1) ∧
      (paging.threshold < after.client.deck.value.remaining → after.pagesPending = t.pagesPending)
  /-- one that has not arrived has none fetched -/
  undecided : ∀ ticket p id result, t.waiting.lookup ticket = some p → p.purpose = .decision id →
    received Wire.SwipeResult.codec result = none →
    (t.step (.answer ticket result)).pagesPending = t.pagesPending

/-- What the answer to a decision leaves: its page is on the count, and it has come out of
`conclude`. -/
theorem Single.answer_decision {t : Traffic σ} (ht : t.Single) {ticket : Ticket} {p : Pending}
    {id : String} (hp : t.waiting.lookup ticket = some p) (hpurpose : p.purpose = .decision id)
    (result : Except Failure Response) :
    (t.step (.answer ticket result)).client =
        (t.client.conclude (.decision id) p.endpoint result).1 ∧
      (t.step (.answer ticket result)).pagesPending = t.pagesPending +
        (t.client.conclude (.decision id) p.endpoint result).2.fetchDue.toNat := by
  constructor
  · rcases answer_cases ticket result t with ⟨hno, _⟩ | ⟨p', hp', hclient, _⟩
    · rw [hp] at hno
      cases hno
    · obtain rfl := Option.some.inj (hp.symm.trans hp')
      rw [hclient, settle, hpurpose]
  · -- a decision is no page, so what comes off the count with it is nothing
    have hanswer := pagesPending_answer ht.distinct hp result
    rw [settle, hpurpose] at hanswer
    exact hanswer

/-- **One page at a time, and none forgotten.** Let anything happen to a client, in any order and
with any answers. The flag and the count say the same because every step moves them together
(`Single`), and the rest is what the flag does: `loadPage` looks at it, and a decision that has
arrived claims the page itself if it is down. -/
theorem one_page_at_a_time (address : String) (paging : Service.Paging)
    (store : Credential.Store σ) (es : List (Event σ)) :
    ((started address paging store).run es).OnePageAtATime paging := by
  have ht : ((started address paging store).run es).Single := single_run address paging store es
  have hpaging : paging = ((started address paging store).run es).client.paging := by
    rw [(settings_run (started address paging store) es).2.1]
    exact (confined_resume ({ address, paging, store } : Client σ)).paging.symm
  -- from here on only the invariant speaks of the run
  generalize (started address paging store).run es = t at ht hpaging
  have hpending := ht.pending
  exact {
    loading_iff := by
      rw [hpending, claims]
      exact Bool.toNat_eq_one.symm
    le_one := by
      rw [hpending, claims]
      exact Bool.toNat_le _
    guarded := by
      intro hone
      rw [hpending, claims] at hone
      have hup : t.client.deck.value.loading = true := Bool.toNat_eq_one.mp hone
      simp only [Traffic.begin, Client.begin, claimPage_of_up hup]
      rfl
    swipe := by
      intro direction
      have hswipe : (Operation.swipe direction).business? ≠ some .page := by
        rintro ⟨⟩
      have hproceed := pagesPending_proceed (t.client.begin (.swipe direction)) t
      rw [(begin_claims_nothing hswipe t.client).2] at hproceed
      exact hproceed
    decided := by
      intro ticket p id result answer hp hpurpose hanswer after
      obtain ⟨hclient, hcount⟩ := ht.answer_decision hp hpurpose result
      have hafter : after.pagesPending = after.client.claims :=
        (ht.step (.answer ticket result)).pending
      have harrived := (conclude_decision id p.endpoint result t.client).1
      rw [← hclient, ← hpaging] at harrived
      obtain ⟨hfew, hmany⟩ := harrived answer hanswer
      refine ⟨fun h => hafter.trans (hfew h), fun h => ?_⟩
      rw [hcount, hmany h]
      rfl
    undecided := by
      intro ticket p id result hp hpurpose hnone
      rw [(ht.answer_decision hp hpurpose result).2,
        (conclude_decision id p.endpoint result t.client).2 hnone]
      rfl }

/-- The only candidate is decided about, and the next page is claimed ahead. -/
example :
    ((started "http://host" {} ({ vault := [] } : Credential.Store Credential.Entries)).run
      [.begin .loadPage,
        .answer 0 (answering "[[[\"a\",\"A\",30,null,[],null]]]"),
        .begin (.swipe .like),
        .answer 1 (answering "[null]")]).pagesPending = 1 := by
  decide +kernel

end Traffic

end Rendezvous.Client
