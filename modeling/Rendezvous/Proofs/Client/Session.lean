/-
`is_authenticated`, and what is stored.

The flag of the session and the tokens in the backend are changed by different steps, and the
backend may refuse any of them. `SessionStep` lists everything that one step of the client can do to
the two together: nothing, take up what is stored, store a pair that has just come and open the
session, remove the tokens and close it, or fail to remove them and close it all the same. No step
does only one half of a login or of a logout, whatever was begun before and is answered afterwards,
so the agreement of the two survives every order of answers.

The backend may only change by itself in ways that do not show in what it holds; otherwise there
would be another writer.
-/
import Rendezvous.Proofs.Client.Steps
import Rendezvous.Proofs.Credential.Contract

set_option autoImplicit false

namespace Rendezvous.Client

open Credential (Storage Token)
open Service (Endpoint Failure)
open Web (Response)

variable {σ : Type} {c c' c'' : Client σ}

/-- Whether the backend has refused something so far. The store logs exactly that. -/
def Refused (c : Client σ) : Prop :=
  ∃ n, Notice.credential n ∈ c.notices

/-- A refusal stays in the log. -/
theorem Refused.of_notices (h : c.Refused) (hn : c.notices <+: c'.notices) : c'.Refused := by
  obtain ⟨n, hmem⟩ := h
  exact ⟨n, hn.subset hmem⟩

variable [Storage σ] [Storage.Lawful σ]

/-- The tokens that are really stored. -/
def kept (c : Client σ) : Token → Option String :=
  c.store.kept

/-! ## Steps that leave the session alone -/

/-- From `c` on every session that was published has the flag `b`; nothing that was logged is lost,
and the store is as usable as it was. -/
structure Shows (b : Bool) (c c' : Client σ) : Prop where
  notices : c.notices <+: c'.notices
  poisoned : c'.store.poisoned = c.store.poisoned
  session : Cell.Grows (fun s => s.authenticated = b) c.session c'.session

/-- Nothing has happened to the session and to what is stored. -/
structure Quiet (c c' : Client σ) : Prop where
  kept : c'.kept = c.kept
  shows : Shows c.session.value.authenticated c c'

theorem Quiet.of_prepared (h : Prepared c c') : Quiet c c' where
  kept := congrArg Credential.Store.kept h.store
  shows := ⟨h.notices, congrArg Credential.Store.poisoned h.store, h.session⟩

theorem Quiet.of_notes (h : Notes c c') : Quiet c c' :=
  .of_prepared (.of_notes h)

theorem Quiet.trans (h : Quiet c c') (h' : Quiet c' c'') : Quiet c c'' where
  kept := h'.kept.trans h.kept
  shows := {
    notices := h.shows.notices.trans h'.shows.notices
    poisoned := h'.shows.poisoned.trans h.shows.poisoned
    session := by
      have hsession := h'.shows.session
      rw [show c'.session.value.authenticated = c.session.value.authenticated from
        h.shows.session.value] at hsession
      exact h.shows.session.trans hsession }

/-- What happens on another screen. -/
theorem Quiet.elsewhere (hs : c'.store = c.store) (hn : c'.notices = c.notices)
    (hse : c'.session = c.session) : Quiet c c' where
  kept := congrArg Credential.Store.kept hs
  shows := ⟨hn ▸ List.prefix_rfl, congrArg Credential.Store.poisoned hs,
    hse ▸ Cell.Grows.refl rfl⟩

/-- What is published on another screen. -/
theorem quiet_publish {u : Publication} (hu : u.screen ≠ .session) (c : Client σ) :
    Quiet c (c.publish u) := by
  cases u with
  | session f => exact absurd rfl hu
  | _ => exact .elsewhere rfl rfl rfl

theorem quiet_apply {reply : Reply} (h : reply.screen? ≠ some .session) (c : Client σ) :
    Quiet c (c.apply reply).1 := by
  cases reply with
  | shown u => exact quiet_publish (fun hu => h (congrArg some hu)) c
  | tokens pair => exact absurd rfl h
  | decision id answer =>
    -- fetching ahead is only claimed here, the request is an event of its own
    exact (quiet_publish (u := .deck (Deck.decided id answer)) nofun c).trans
      (.of_prepared (.claimAhead _))
  | unseen => exact .of_notes .refl

/-- The answer to anything but a request for tokens leaves the session alone. -/
theorem quiet_conclude {purpose : Purpose} (hp : purpose.screen? ≠ some .session) (e : Endpoint)
    (result : Except Failure Response) (c : Client σ) :
    Quiet c (c.conclude purpose e result).1 := by
  obtain ⟨c₁, hn, hn', _⟩ := conclude_spec purpose e result c
  have happly : Quiet c₁ (c₁.apply (purpose.reply result)).1 :=
    quiet_apply (fun h => hp (Purpose.screen_reply h)) c₁
  exact ((Quiet.of_notes hn).trans happly).trans (.of_notes hn')

/-! ## One step -/

/-- Everything that a step can do to the flag of the session and the stored tokens. The flag goes up
only with a token in the store, which is half of what the session promises. -/
inductive SessionStep (x : Option Happening) (c c' : Client σ) : Prop
  | quiet (h : Quiet c c')
  /-- `check_existing` finds an access token -/
  | resumed (hkept : c'.kept = c.kept) (htoken : c.kept .access ≠ none) (h : Shows true c c')
  /-- a pair came, and it is stored -/
  | granted (way : Admission) (pair : Wire.TokenPair) (hx : x = some (.brought (.tokens way pair)))
      (haccess : c'.kept .access = some pair.accessToken)
      (hrefresh : c'.kept .refresh = some pair.refreshToken) (h : Shows true c c')
  /-- the tokens are removed -/
  | closed (hkept : ∀ t, c'.kept t = none) (h : Shows false c c')
  /-- the tokens could not be removed; the session is closed without that -/
  | closedAnyway (hkept : c'.kept = c.kept) (hrefused : c'.Refused) (h : Shows false c c')

/-- What was logged before a step does not matter to what it does. Reading the store may log a
warning first, so most steps come with such a prelude. -/
theorem SessionStep.after_notes {x : Option Happening} (h : SessionStep x c' c'')
    (hn : Notes c c') :
    SessionStep x c c'' := by
  have hkept : c'.kept = c.kept := congrArg Credential.Store.kept hn.store
  have hshows {b : Bool} (hs : Shows b c' c'') : Shows b c c'' := {
    notices := hn.notices.trans hs.notices
    poisoned := hs.poisoned.trans (congrArg Credential.Store.poisoned hn.store)
    session := hn.session ▸ hs.session }
  cases h with
  | quiet h => exact .quiet ((Quiet.of_notes hn).trans h)
  | resumed hkept' htoken h => exact .resumed (hkept'.trans hkept) (hkept ▸ htoken) (hshows h)
  | granted way pair hx ha hr h => exact .granted way pair hx ha hr (hshows h)
  | closed hgone h => exact .closed hgone (hshows h)
  | closedAnyway hkept' hrefused h =>
    exact .closedAnyway (hkept'.trans hkept) hrefused (hshows h)

/-- `authenticate` with an answer: the pair is stored and the session is open, or nothing has
changed. -/
theorem sessionStep_concludeTokens (way : Admission) (result : Except Failure Wire.TokenPair)
    (c : Client σ) :
    SessionStep ((result.toOption.map (.tokens way)).map .brought) c
      (c.concludeTokens way result) := by
  rcases result with why | pair
  · exact .quiet ((Quiet.of_notes (notes_note (.tokensFailed way why))).trans
      (.of_prepared (.publish (Business.tokens.discreet_report _) _)))
  have hpoisoned := c.store.poisoned_save pair.accessToken pair.refreshToken
  simp only [concludeTokens, keepTokens]
  rcases hsave : (c.store.save pair.accessToken pair.refreshToken).2.1 with why | ⟨⟩
  · -- the pair came and is lost; the session goes on as it was
    exact .quiet {
      kept := Credential.Store.kept_save_error hsave
      shows := ⟨List.prefix_append _ _, hpoisoned, Cell.Grows.modify rfl⟩ }
  · obtain ⟨haccess, hrefresh⟩ := Credential.Store.kept_save hsave
    exact .granted way pair rfl haccess hrefresh
      ⟨(List.prefix_append _ _).trans (List.prefix_append _ _), hpoisoned, Cell.Grows.modify rfl⟩

/-- **What an answer does to the session.** Only tokens are about it; every other purpose leaves the
flag and the store as they were. -/
theorem sessionStep_conclude (purpose : Purpose) (e : Endpoint) (result : Except Failure Response)
    (c : Client σ) :
    SessionStep ((purpose.payload? e result).map .brought) c (c.conclude purpose e result).1 := by
  by_cases hp : purpose.screen? = some .session
  · obtain ⟨way, rfl⟩ := Purpose.screen?_eq_session.mp hp
    have hr := notes_receive (c := c) Wire.TokenPair.codec e result
    have hstep := sessionStep_concludeTokens way (c.receive Wire.TokenPair.codec e result).2
      (c.receive Wire.TokenPair.codec e result).1
    rw [toOption_receive] at hstep
    exact hstep.after_notes hr
  · exact .quiet (quiet_conclude hp e result c)

theorem sessionStep_resume (c : Client σ) (x : Option Happening) : SessionStep x c c.resume := by
  have hn := notes_token (c := c) .access
  rcases htoken : (c.store.token .access).1 with _ | value
  · have hresume : c.resume = (c.token .access).1 := by
      simp only [resume, token, htoken]
    rw [hresume]
    exact .quiet (.of_notes hn)
  · have hresume : c.resume = ((c.token .access).1.note .resumed).onSession Session.opened := by
      simp only [resume, token, htoken]
    have hthere : c.kept .access = some value := Credential.Store.kept_of_token htoken
    rw [hresume]
    exact .resumed rfl (by rw [hthere]; exact Option.some_ne_none value)
      ⟨(hn.trans (notes_note _)).notices, rfl, Cell.Grows.modify rfl⟩

/-- `logout` removes the tokens; if it cannot, that is logged, as long as the store can be used at
all. -/
theorem sessionStep_logOut (hp : c.store.poisoned = false) (x : Option Happening) :
    SessionStep x c c.logOut := by
  have hpoisoned := c.store.poisoned_clear
  -- the flag goes down in both cases; whether the tokens go is up to the storage
  rcases hclear : c.store.clear.2.1 with why | ⟨⟩
  · have hlogOut : c.logOut = (c.forgetTokens.1.note .loggedOut).onSession
        (Session.closed (some (Trouble.storage why).userMessage)) := by
      simp only [logOut, forgetTokens, hclear]
    have hnoted : c.store.clear.2.2 ≠ [] := by
      rw [ne_eq, Credential.Store.notices_clear hp, hclear]
      exact nofun
    obtain ⟨n, hn⟩ := List.exists_mem_of_ne_nil _ hnoted
    rw [hlogOut]
    refine .closedAnyway (Credential.Store.kept_clear_error hclear) ⟨n, ?_⟩
      ⟨(List.prefix_append _ _).trans (List.prefix_append _ _), hpoisoned, Cell.Grows.modify rfl⟩
    exact List.mem_append_left _ (List.mem_append_right _ (List.mem_map_of_mem hn))
  · have hlogOut : c.logOut =
        (c.forgetTokens.1.note .loggedOut).onSession (Session.closed none) := by
      simp only [logOut, forgetTokens, hclear]
    rw [hlogOut]
    exact .closed (Credential.Store.kept_clear hclear)
      ⟨(List.prefix_append _ _).trans (List.prefix_append _ _), hpoisoned, Cell.Grows.modify rfl⟩

/-- Whether an event leaves it to the client to change what the backend holds. An outage may begin
and end. -/
def Event.Harmless : Event σ → Prop
  | .drift f => ∀ s, Storage.Lawful.held (f s) = Storage.Lawful.held s
  | _ => True

/-- **What a step does to the session.** There are five outcomes, each named for what has happened,
and the agreement with storage takes one case for each of them. -/
theorem sessionStep_step {t : Traffic σ} (hp : t.client.store.poisoned = false) (e : Event σ)
    (he : e.Harmless) : SessionStep (t.happening? e) t.client (t.step e).client := by
  cases e with
  | begin op =>
    rw [Traffic.begin_client]
    exact .quiet (.of_prepared (.begin op t.client))
  | fetchDue =>
    rcases Traffic.fetchDue_cases t with heq | ⟨n, _, heq⟩
    · rw [heq]
      exact .quiet (.of_notes Notes.refl)
    · rw [heq, Traffic.proceed_client, fetchPage]
      exact .quiet (.of_prepared (.ask _ .page t.client))
  | answer ticket result =>
    rcases Traffic.answer_cases ticket result t with ⟨hlookup, heq⟩ | ⟨p, hlookup, heq, _⟩
    · rw [heq]
      exact .quiet (.of_notes Notes.refl)
    · rw [heq, Traffic.happening?, hlookup]
      exact sessionStep_conclude p.purpose p.endpoint result t.client
  | resume => exact sessionStep_resume t.client none
  | logOut => exact sessionStep_logOut hp (some .loggedOut)
  | dismissMatch => exact .quiet (quiet_publish (u := .deck Deck.noted) nofun _)
  | openRoom id => exact .quiet (.elsewhere rfl rfl rfl)
  -- a harmless change by the platform leaves what is held as it is
  | drift f =>
    exact .quiet {
      kept := funext fun token => congrFun (he t.client.store.vault) token.key
      shows := ⟨List.prefix_rfl, rfl, Cell.Grows.refl rfl⟩ }

/-! ## Every run -/

/-- The tokens that a happening brought. -/
def Happening.tokens? : Happening → Option Wire.TokenPair
  | brought (.tokens _ pair) => some pair
  | _ => none

/-- The pairs of tokens that came, in the order in which they came. -/
def pairsBrought (h : List Happening) : List Wire.TokenPair :=
  h.filterMap Happening.tokens?

/-- Session and store agree, given what came so far and what was stored at the start. The two
implications between flag and token are separate fields, since only one of them survives a
refusal. -/
structure Agrees (initial : Token → Option String) (h : List Happening) (c : Client σ) : Prop where
  usable : c.store.poisoned = false
  pair : (∀ t, c.kept t = none) ∨ c.kept = initial ∨ ∃ pair ∈ pairsBrought h,
    c.kept .access = some pair.accessToken ∧ c.kept .refresh = some pair.refreshToken
  /-- an open session has its token -/
  told : c.session.value.authenticated = true → c.kept .access ≠ none
  /-- the converse, as long as the backend has refused nothing -/
  exact : ¬ c.Refused → c.kept .access ≠ none → c.session.value.authenticated = true

/-- All sessions that are published in one step have one flag, so no subscriber sees a flag in
between that is neither the old nor the new one. -/
theorem SessionStep.shown {x : Option Happening} (h : SessionStep x c c') {s : Session}
    (hs : s ∈ Cell.shown c.session c'.session) :
    s.authenticated = c'.session.value.authenticated := by
  have hshows {b : Bool} (h : Shows b c c') :
      s.authenticated = c'.session.value.authenticated :=
    (h.session.of_mem_shown hs).trans h.session.value.symm
  cases h with
  | quiet h => exact hshows h.shows
  | resumed _ _ h => exact hshows h
  | granted _ _ _ _ _ h => exact hshows h
  | closed _ h => exact hshows h
  | closedAnyway _ _ h => exact hshows h

theorem Agrees.step {initial : Token → Option String} {h : List Happening}
    {x : Option Happening} (ha : Agrees initial h c) (ht : SessionStep x c c') :
    Agrees initial (h ++ x.toList) c' := by
  -- as long as the stored tokens stay, so does where they are from
  have hpair (hkept : c'.kept = c.kept) : (∀ t, c'.kept t = none) ∨ c'.kept = initial ∨
      ∃ pair ∈ pairsBrought (h ++ x.toList),
        c'.kept .access = some pair.accessToken ∧ c'.kept .refresh = some pair.refreshToken := by
    rw [hkept]
    rcases ha.pair with hnone | hinitial | ⟨pair, hmem, hstored⟩
    · exact .inl hnone
    · exact .inr (.inl hinitial)
    · refine .inr (.inr ⟨pair, ?_, hstored⟩)
      rw [pairsBrought, List.filterMap_append]
      exact List.mem_append_left _ hmem
  have husable {b : Bool} (hs : Shows b c c') : c'.store.poisoned = false :=
    hs.poisoned.trans ha.usable
  cases ht with
  | quiet hq =>
    have hflag : c'.session.value.authenticated = c.session.value.authenticated :=
      hq.shows.session.value
    exact {
      usable := husable hq.shows
      pair := hpair hq.kept
      told := by rw [hflag, hq.kept]; exact ha.told
      exact := by
        intro hclean
        rw [hflag, hq.kept]
        exact ha.exact fun hrefused => hclean (hrefused.of_notices hq.shows.notices) }
  | resumed hkept htoken hs =>
    exact {
      usable := husable hs
      pair := hpair hkept
      told := fun _ => hkept ▸ htoken
      exact := fun _ _ => hs.session.value }
  | granted way pair hx haccess hrefresh hs =>
    exact {
      usable := husable hs
      pair := by
        refine .inr (.inr ⟨pair, ?_, haccess, hrefresh⟩)
        rw [hx, pairsBrought, List.filterMap_append]
        exact List.mem_append_right _ (List.mem_singleton_self pair)
      told := by
        intro _
        rw [haccess]
        exact Option.some_ne_none _
      exact := fun _ _ => hs.session.value }
  | closed hgone hs =>
    exact {
      usable := husable hs
      pair := .inl hgone
      told := fun hflag => absurd (hs.session.value.symm.trans hflag) Bool.false_ne_true
      exact := fun _ hthere => absurd (hgone .access) hthere }
  | closedAnyway hkept hrefused hs =>
    exact {
      usable := husable hs
      pair := hpair hkept
      told := fun hflag => absurd (hs.session.value.symm.trans hflag) Bool.false_ne_true
      exact := fun hclean => absurd hrefused hclean }

/-- A client that has just been opened shows what it has read (`SessionController::new`). A vault
that refuses the reading counts as one without a token, as the constructor treats it. -/
theorem agrees_opened (address : String) (paging : Service.Paging) (vault : σ) :
    Agrees (fun t => Storage.Lawful.held vault t.key) []
      (opened address paging ({ vault := vault } : Credential.Store σ)) := by
  have hpair {c : Client σ} (hkept : c.kept = fun t => Storage.Lawful.held vault t.key) :
      (∀ t, c.kept t = none) ∨ c.kept = (fun t => Storage.Lawful.held vault t.key) ∨
        ∃ pair ∈ pairsBrought [],
          c.kept .access = some pair.accessToken ∧ c.kept .refresh = some pair.refreshToken :=
    .inr (.inl hkept)
  generalize hstore : ({ vault := vault } : Credential.Store σ) = store
  have husable : store.poisoned = false := by rw [← hstore]
  have hkept : store.kept = fun t => Storage.Lawful.held vault t.key := by rw [← hstore]; rfl
  -- what is read decides what is shown, and if nothing was noted, it was really read
  rcases htoken : (store.token .access).1 with _ | value
  · have hopened : opened address paging store = (token .access
        ({ address := address, paging := paging, store := store } : Client σ)).1 := by
      simp only [opened, resume, token, htoken]
    rw [hopened]
    exact {
      usable := husable
      pair := hpair hkept
      told := nofun
      exact := by
        intro hclean hthere
        refine absurd (Credential.Store.kept_of_token_none htoken ?_) hthere
        rw [List.eq_nil_iff_forall_not_mem]
        intro n hn
        exact hclean ⟨n, List.mem_append_right _ (List.mem_map_of_mem hn)⟩ }
  · have hopened : opened address paging store = ((token .access
        ({ address := address, paging := paging, store := store } : Client σ)).1.note
          .resumed).onSession Session.opened := by
      simp only [opened, resume, token, htoken]
    have hthere : store.kept .access = some value := Credential.Store.kept_of_token htoken
    rw [hopened]
    exact {
      usable := husable
      pair := hpair hkept
      told := by
        intro _
        show store.kept .access ≠ none
        rw [hthere]
        exact Option.some_ne_none value
      exact := fun _ _ => rfl }

theorem agrees_run (address : String) (paging : Service.Paging) (vault : σ)
    (es : List (Event σ)) (hes : ∀ e ∈ es, e.Harmless) :
    Agrees (fun t => Storage.Lawful.held vault t.key)
      ((Traffic.started address paging ({ vault := vault } : Credential.Store σ)).history es)
      ((Traffic.started address paging ({ vault := vault } : Credential.Store σ)).run es).client :=
  Traffic.run_invariant Event.Harmless (P := fun h t => Agrees _ h t.client)
    (agrees_opened address paging vault)
    (fun _ _ e he ha => ha.step (sessionStep_step ha.usable e he)) es hes

/-- **The session and the stored tokens agree.** Over any backend that keeps the contract of the
trait, but may refuse whatever it is asked for, and that holds both tokens or neither at the start:
let anything happen, in any order, and then one thing more. Either no token is stored, or both are,
and then they came together or are the pair from the start. If a session is shown as open, an access
token is stored, and as long as the backend has refused nothing, it is shown as open exactly if one
is. -/
theorem session_agrees_with_store (address : String) (paging : Service.Paging) (vault : σ)
    (hvault : Storage.Lawful.held vault Token.access.key = none ↔
      Storage.Lawful.held vault Token.refresh.key = none)
    (es : List (Event σ)) (e : Event σ) (hes : ∀ e' ∈ es ++ [e], e'.Harmless) :
    let start := Traffic.started address paging ({ vault := vault } : Credential.Store σ)
    let before := start.run es
    let after := before.step e
    ((after.client.kept .access = none ∧ after.client.kept .refresh = none) ∨
      ∃ access refresh,
        after.client.kept .access = some access ∧ after.client.kept .refresh = some refresh ∧
        ((Storage.Lawful.held vault Token.access.key = some access ∧
            Storage.Lawful.held vault Token.refresh.key = some refresh) ∨
          ∃ pair ∈ pairsBrought (start.history (es ++ [e])),
            pair.accessToken = access ∧ pair.refreshToken = refresh)) ∧
    ∀ s ∈ Cell.shown before.client.session after.client.session,
      (s.authenticated = true → after.client.kept .access ≠ none) ∧
      (¬ after.client.Refused → (s.authenticated = true ↔ after.client.kept .access ≠ none)) := by
  intro start before after
  have hbefore := agrees_run address paging vault es fun e' he' =>
    hes e' (List.mem_append_left _ he')
  have hstep := sessionStep_step hbefore.usable e
    (hes e (List.mem_append_right _ (List.mem_singleton_self e)))
  have hafter := agrees_run address paging vault (es ++ [e]) hes
  rw [Traffic.run_concat] at hafter
  refine ⟨?_, fun s hs => ?_⟩
  · rcases hafter.pair with hnone | hinitial | ⟨pair, hmem, haccess, hrefresh⟩
    · exact .inl ⟨hnone .access, hnone .refresh⟩
    · -- the pair from the start is whole
      rw [show after.client.kept = _ from hinitial]
      rcases haccess : Storage.Lawful.held vault Token.access.key with _ | access
      · exact .inl ⟨haccess, hvault.mp haccess⟩
      · rcases hrefresh : Storage.Lawful.held vault Token.refresh.key with _ | refresh
        · exact absurd (haccess.symm.trans (hvault.mpr hrefresh)) (Option.some_ne_none access)
        · exact .inr ⟨access, refresh, haccess, hrefresh, .inl ⟨rfl, rfl⟩⟩
    · exact .inr ⟨_, _, haccess, hrefresh, .inr ⟨pair, hmem, rfl, rfl⟩⟩
  · rw [hstep.shown hs]
    exact ⟨hafter.told, fun hclean => ⟨hafter.told, hafter.exact hclean⟩⟩

/-- The agreement on one run: a login, then an outage in which the tokens cannot be removed, a
logout within it, and a start that takes up the tokens that are still stored. -/
theorem session_agrees_with_store_through_outage :
    let vault : Credential.Vault Credential.Entries := { medium := [] }
    let es : List (Event (Credential.Vault Credential.Entries)) :=
      [.begin (.logIn ⟨"ada", "secret"⟩),
        .answer 0 (.ok ⟨200, Text.Utf8.bytes (Wire.TokenPair.codec.encode ⟨"a", "r", 0⟩)⟩),
        .drift fun v => { v with outage := { deletes := some "busy" } }, .logOut]
    (Storage.Lawful.held vault Token.access.key = none ↔
      Storage.Lawful.held vault Token.refresh.key = none) ∧
    (∀ e ∈ es ++ [.resume], e.Harmless) ∧
    ∀ s ∈ Cell.shown
        ((Traffic.started "http://host" {} ({ vault := vault } : Credential.Store _)).run
          es).client.session
        (((Traffic.started "http://host" {} ({ vault := vault } : Credential.Store _)).run
          es).step .resume).client.session,
      s.authenticated = true →
        (((Traffic.started "http://host" {} ({ vault := vault } : Credential.Store _)).run
          es).step .resume).client.kept .access ≠ none := by
  intro vault es
  have hvault : Storage.Lawful.held vault Token.access.key = none ↔
      Storage.Lawful.held vault Token.refresh.key = none := ⟨fun _ => rfl, fun _ => rfl⟩
  have hes : ∀ e ∈ es ++ [.resume], e.Harmless := by
    intro e he
    simp only [es, List.cons_append, List.nil_append, List.mem_cons, List.not_mem_nil,
      or_false] at he
    -- an outage changes what the vault refuses, and not what it holds
    rcases he with rfl | rfl | rfl | rfl | rfl
    · trivial
    · trivial
    · exact fun _ => rfl
    · trivial
    · trivial
  exact ⟨hvault, hes, fun s hs =>
    ((session_agrees_with_store "http://host" {} vault hvault es .resume hes).2 s hs).1⟩

end Rendezvous.Client
