/-
What `SessionController::logout` achieves, and for how long.

A user who logs out is logged out at once, and whatever happens afterwards keeps it so, for one step
after the other (`LoggedOut.step`): a step that changes the session takes up tokens that are stored,
or stores a pair that has just come, and there are none. So it lasts until a pair comes.

What counts is that tokens come and not that they were asked for. There is no cancellation: a
request for tokens that was on the way at the logout is concluded like any other, its pair is
stored, and the session is open again.
-/
import Mathlib.Data.List.Induction
import Rendezvous.Proofs.Client.Session
import Rendezvous.Proofs.Wire.RoundTrip

set_option autoImplicit false

namespace Rendezvous.Client

open Credential (Storage Token)
open Service (Endpoint Failure)
open Web (Response)

variable {σ : Type} [Storage σ] [Storage.Lawful σ] {c c' : Client σ}

/-- The session is closed, no token is stored, and the store can be used. -/
structure LoggedOut (c : Client σ) : Prop where
  usable : c.store.poisoned = false
  kept : ∀ t, c.kept t = none
  session : c.session.value.authenticated = false

/-- Logging out over a backend that does not refuse. -/
theorem logOut_closes [Storage.Willing σ] (hp : c.store.poisoned = false) :
    (∀ t, c.logOut.kept t = none) ∧ Shows false c c.logOut := by
  have hclear : c.store.clear.2.1 = .ok () := Credential.Store.clear_ok hp
  have hlogOut : c.logOut = (c.forgetTokens.1.note .loggedOut).onSession (Session.closed none) := by
    simp only [logOut, forgetTokens, hclear]
  rw [hlogOut]
  refine ⟨Credential.Store.kept_clear hclear, ?_, c.store.poisoned_clear, Cell.Grows.modify rfl⟩
  exact (List.prefix_append _ _).trans (List.prefix_append _ _)

/-- **One step.** As long as no tokens come, no session is shown as open, not even between two
publications of one step. -/
theorem LoggedOut.step {x : Option Happening} (h : LoggedOut c) (ht : SessionStep x c c')
    (hx : ∀ way pair, x ≠ some (.brought (.tokens way pair))) :
    LoggedOut c' ∧ Shows false c c' := by
  have hstays (hkept : ∀ t, c'.kept t = none) (hs : Shows false c c') :
      LoggedOut c' ∧ Shows false c c' :=
    ⟨⟨hs.poisoned.trans h.usable, hkept, hs.session.value⟩, hs⟩
  cases ht with
  | quiet hq =>
    have hs : Shows c.session.value.authenticated c c' := hq.shows
    rw [h.session] at hs
    exact hstays (fun t => (congrFun hq.kept t).trans (h.kept t)) hs
  | resumed _ htoken _ => exact absurd (h.kept .access) htoken
  | granted way pair hbrought _ _ _ => exact absurd hbrought (hx way pair)
  | closed hgone hs => exact hstays hgone hs
  | closedAnyway hkept _ hs => exact hstays (fun t => (congrFun hkept t).trans (h.kept t)) hs

/-- One more happening may bring a pair. -/
theorem pairsBrought_concat (h : List Happening) (x : Option Happening) :
    pairsBrought (h ++ x.toList) =
      pairsBrought h ++ (x.bind Happening.tokens?).toList := by
  rw [pairsBrought, List.filterMap_append]
  rcases x with _ | x
  · rfl
  · rw [Option.toList_some, List.filterMap_cons, List.filterMap_nil, Option.bind_some]
    rcases x.tokens? with _ | pair <;> rfl

theorem ne_tokens_of_pairsBrought_nil {h : List Happening} {x : Option Happening}
    (hnil : pairsBrought (h ++ x.toList) = []) (way : Admission) (pair : Wire.TokenPair) :
    x ≠ some (.brought (.tokens way pair)) := by
  rintro rfl
  rw [pairsBrought_concat] at hnil
  exact absurd (List.append_eq_nil_iff.mp hnil).2 (List.cons_ne_nil pair [])

/-- **A whole run.** As long as no tokens come, the session stays closed. Requests may be under way
and may be answered in any order, as long as no answer is a pair of tokens. -/
theorem LoggedOut.run {t : Traffic σ} (h : LoggedOut t.client) (es : List (Event σ))
    (hes : ∀ e ∈ es, e.Harmless) (hnil : pairsBrought (t.history es) = []) :
    LoggedOut (t.run es).client := by
  -- the last event is the one to peel off, since the history grows at the end
  induction es using List.reverseRecOn with
  | nil => exact h
  | append_singleton es e ih =>
    rw [Traffic.history_concat] at hnil
    rw [Traffic.run_concat]
    have hfirst : pairsBrought (t.history es) = [] := by
      rw [pairsBrought_concat] at hnil
      exact (List.append_eq_nil_iff.mp hnil).1
    have hbefore := ih (fun e' he' => hes e' (List.mem_append_left _ he')) hfirst
    have hstep := sessionStep_step hbefore.usable e
      (hes e (List.mem_append_right _ (List.mem_singleton_self e)))
    exact (hbefore.step hstep (ne_tokens_of_pairsBrought_nil hnil)).1

/-! ## Until tokens come -/

/-- Tokens come only to an operation that asked for them. -/
theorem purpose_of_tokens {purpose : Purpose} {e : Endpoint} {result : Except Failure Response}
    {way : Admission} {pair : Wire.TokenPair}
    (h : purpose.payload? e result = some (.tokens way pair)) :
    purpose = .tokens way ∧ received Wire.TokenPair.codec result = some pair := by
  obtain ⟨way', rfl⟩ := Purpose.screen?_eq_session.mp
    (by rw [Purpose.screen?, Purpose.business?_of_payload? h]; rfl)
  obtain ⟨pair', hpair, heq⟩ := Option.map_eq_some_iff.mp h
  obtain ⟨rfl, rfl⟩ := Payload.tokens.inj heq
  exact ⟨rfl, hpair⟩

/-- A pair that comes to a backend that does not refuse is stored as a pair, and the session is
open. -/
theorem granted_concludeTokens [Storage.Willing σ] (hp : c.store.poisoned = false)
    (way : Admission) (pair : Wire.TokenPair) :
    (c.concludeTokens way (.ok pair)).kept .access = some pair.accessToken ∧
      (c.concludeTokens way (.ok pair)).kept .refresh = some pair.refreshToken ∧
      (c.concludeTokens way (.ok pair)).session.value.authenticated = true := by
  have hsave : (c.store.save pair.accessToken pair.refreshToken).2.1 = .ok () :=
    Credential.Store.save_ok hp _ _
  obtain ⟨haccess, hrefresh⟩ := Credential.Store.kept_save hsave
  have hconclude : c.concludeTokens way (.ok pair) =
      ((c.keepTokens pair.accessToken pair.refreshToken).1.note (.tokensStored way)).onSession
        Session.granted := by
    simp only [concludeTokens, keepTokens, hsave]
  rw [hconclude]
  exact ⟨haccess, hrefresh, rfl⟩

/-- Tokens that come are stored and open the session, whenever they were asked for. The controllers
do not compare the moment of the request with that of the last logout. -/
theorem granted_of_tokens [Storage.Willing σ] {t : Traffic σ}
    (hp : t.client.store.poisoned = false) {e : Event σ} {way : Admission} {pair : Wire.TokenPair}
    (hx : t.happening? e = some (.brought (.tokens way pair))) :
    (t.step e).client.kept .access = some pair.accessToken ∧
      (t.step e).client.kept .refresh = some pair.refreshToken ∧
      (t.step e).client.session.value.authenticated = true := by
  cases e with
  -- only an answer brings tokens, and only one to a login, a registration or a refresh
  | answer ticket result =>
    rcases Traffic.answer_cases ticket result t with ⟨hlookup, _⟩ | ⟨p, hlookup, heq, _⟩
    · rw [Traffic.happening?, hlookup] at hx
      cases hx
    · rw [Traffic.happening?, hlookup] at hx
      obtain ⟨payload, hpayload, hbrought⟩ := Option.map_eq_some_iff.mp hx
      obtain rfl := Happening.brought.inj hbrought
      obtain ⟨hpurpose, hreceived⟩ := purpose_of_tokens hpayload
      have hn := notes_receive (c := t.client) Wire.TokenPair.codec p.endpoint result
      have hread := receive_of_received hreceived p.endpoint t.client
      have hconclude : (t.client.settle p result).1 =
          (t.client.receive Wire.TokenPair.codec p.endpoint result).1.concludeTokens way
            (.ok pair) := by
        rw [← hread, settle, hpurpose]
        rfl
      rw [heq, hconclude]
      exact granted_concludeTokens (by rw [hn.store]; exact hp) way pair
  | begin op => cases hx
  | fetchDue => cases hx
  | resume => cases hx
  | logOut => cases hx
  | dismissMatch => cases hx
  | openRoom id => cases hx
  | drift f => cases hx

/-- **How long logging out lasts.** Over a backend that does not refuse, let anything happen,
then a logout, then anything again, and then one thing more. At the logout and from then on no
session is shown as open and no token is stored, as long as no tokens have come since. The first
ones that come are stored and open the session, whether they were asked for afterwards or were on
the way already. -/
theorem logout_lasts_until_tokens_come [Storage.Willing σ] (address : String)
    (paging : Service.Paging) (vault : σ) (es es' : List (Event σ)) (e : Event σ)
    (hes : ∀ e' ∈ es ++ es' ++ [e], e'.Harmless) :
    let loggedIn := (Traffic.started address paging
      ({ vault := vault } : Credential.Store σ)).run es
    let loggedOut := loggedIn.step .logOut
    let before := loggedOut.run es'
    let after := before.step e
    ((∀ s ∈ Cell.shown loggedIn.client.session loggedOut.client.session,
        s.authenticated = false) ∧ ∀ t, loggedOut.client.kept t = none) ∧
    (pairsBrought (loggedOut.history (es' ++ [e])) = [] →
      (∀ s ∈ Cell.shown before.client.session after.client.session, s.authenticated = false) ∧
        ∀ t, after.client.kept t = none) ∧
    ∀ way pair, before.happening? e = some (.brought (.tokens way pair)) →
      after.client.session.value.authenticated = true ∧
        after.client.kept .access = some pair.accessToken ∧
        after.client.kept .refresh = some pair.refreshToken := by
  intro loggedIn loggedOut before after
  have hfirst : ∀ e' ∈ es, e'.Harmless := fun e' he' =>
    hes e' (List.mem_append_left _ (List.mem_append_left _ he'))
  have hsecond : ∀ e' ∈ es', e'.Harmless := fun e' he' =>
    hes e' (List.mem_append_left _ (List.mem_append_right _ he'))
  have hlast : e.Harmless := hes e (List.mem_append_right _ (List.mem_singleton_self e))
  have husable : loggedIn.client.store.poisoned = false :=
    (agrees_run address paging vault es hfirst).usable
  obtain ⟨hgone, hs⟩ := logOut_closes husable
  have hout : LoggedOut loggedOut.client := ⟨hs.poisoned.trans husable, hgone, hs.session.value⟩
  refine ⟨⟨fun s hmem => hs.session.of_mem_shown hmem, hgone⟩, fun hnil => ?_,
    fun way pair hx => ?_⟩
  · rw [Traffic.history_concat] at hnil
    have hbefore : LoggedOut before.client := by
      refine hout.run es' hsecond ?_
      rw [pairsBrought_concat] at hnil
      exact (List.append_eq_nil_iff.mp hnil).1
    obtain ⟨hafter, hshows⟩ := hbefore.step (sessionStep_step hbefore.usable e hlast)
      (ne_tokens_of_pairsBrought_nil hnil)
    exact ⟨fun s hmem => hshows.session.of_mem_shown hmem, hafter.kept⟩
  · -- the store is usable after the whole run, which is all that the coming pair needs
    have hrun : ∀ e' ∈ es ++ .logOut :: es', e'.Harmless := by
      intro e' he'
      rcases List.mem_append.mp he' with he' | he'
      · exact hfirst e' he'
      · rcases List.mem_cons.mp he' with rfl | he'
        · trivial
        · exact hsecond e' he'
    have hagrees := agrees_run address paging vault (es ++ .logOut :: es') hrun
    rw [Traffic.run_append] at hagrees
    obtain ⟨haccess, hrefresh, htold⟩ := granted_of_tokens (t := before) hagrees.usable hx
    exact ⟨htold, haccess, hrefresh⟩

/-! ## Tokens that were on the way -/

/-- A client over memory without tokens. -/
def fresh : Traffic Credential.Entries :=
  Traffic.started "http://host" {} { vault := [] }

/-- A login has begun. -/
def loggingIn : List (Event Credential.Entries) :=
  [.begin (.logIn ⟨"ada", "secret"⟩)]

/-- The service refuses a login that was on the way at the logout, and the session stays closed. The
answer is the one thing that decides: with tokens in it, the same run opens the session again. -/
theorem logout_lasts_until_tokens_come_refused :
    (∀ e ∈ loggingIn ++ [] ++ [.answer 0 (.ok ⟨401, []⟩)], e.Harmless) ∧
    pairsBrought (((fresh.run loggingIn).step .logOut).history
      ([] ++ [.answer 0 (.ok ⟨401, []⟩)])) = [] ∧
    ∀ t, (((fresh.run loggingIn).step .logOut).step (.answer 0 (.ok ⟨401, []⟩))).client.kept t
      = none := by
  have hes : ∀ e ∈ loggingIn ++ [] ++ [.answer 0 (.ok ⟨401, []⟩)], e.Harmless := by
    intro e he
    simp only [loggingIn, List.append_nil, List.cons_append, List.nil_append, List.mem_cons,
      List.not_mem_nil, or_false] at he
    rcases he with rfl | rfl
    · trivial
    · trivial
  have hnil : pairsBrought (((fresh.run loggingIn).step .logOut).history
      ([] ++ [.answer 0 (.ok ⟨401, []⟩)])) = [] :=
    List.isEmpty_iff.mp (by decide +kernel)
  exact ⟨hes, hnil, ((logout_lasts_until_tokens_come "http://host" {} [] loggingIn []
    (.answer 0 (.ok ⟨401, []⟩)) hes).2.1 hnil).2⟩

/-- An answer with tokens. -/
def handedOut : Except Failure Response :=
  .ok ⟨200, Text.Utf8.bytes (Wire.TokenPair.codec.encode ⟨"a", "r", 0⟩)⟩

/-- The login that was on the way is answered. -/
def tokensComing : List (Event Credential.Entries) :=
  [.answer 0 handedOut]

/-- Logging out is not final for what was on the way: the only request that is answered afterwards
was sent before, and it opens the session again. -/
theorem logout_not_final :
    ¬ ∀ es es' : List (Event Credential.Entries),
      (∀ e ∈ es ++ es', e.Harmless) →
      (∀ ticket result, Event.answer ticket result ∈ es' →
        ticket < ((fresh.run es).step .logOut).next) →
      ((((fresh.run es).step .logOut).run es').client.session.value.authenticated = false ∧
        ∀ t, (((fresh.run es).step .logOut).run es').client.kept t = none) := by
  intro h
  have hes : ∀ e ∈ loggingIn ++ tokensComing, e.Harmless := by
    intro e he
    simp only [loggingIn, tokensComing, List.cons_append, List.nil_append, List.mem_cons,
      List.not_mem_nil, or_false] at he
    rcases he with rfl | rfl
    · trivial
    · trivial
  -- the request was under way before the logout
  have hbefore : ∀ ticket result, Event.answer ticket result ∈ tokensComing →
      ticket < ((fresh.run loggingIn).step .logOut).next := by
    intro ticket result hmem
    obtain ⟨rfl, _⟩ := Event.answer.inj (List.mem_singleton.mp hmem)
    decide +kernel
  have hflag : (((fresh.run loggingIn).step .logOut).run
      tokensComing).client.session.value.authenticated = true := by decide +kernel
  exact absurd ((h loggingIn tokensComing hes hbefore).1.symm.trans hflag) Bool.false_ne_true

end Rendezvous.Client
