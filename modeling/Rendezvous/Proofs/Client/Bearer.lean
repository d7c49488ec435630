/-
The token that a request is sent with.

`build_request` writes every request with the access token that is stored at that moment, and
nothing is remembered of the tokens before. What is stored is in turn determined by the history of
the run alone, as long as the backend does not refuse: it is what the last login, registration,
refresh or logout has left there, or what was there at the start (`accessLeft`). So the header
follows the history, however the requests and their answers overlap, and a request that is written
between two of those events carries the token of the first one.

The two facts are proved apart. `holdsLastAccess_run` is about what is stored, by induction over the
run; the one step that needs looking into is an answer to a request for tokens, which may bring
none. `request_of_sent` is about one request and knows nothing of the run.
-/
import Rendezvous.Proofs.Client.LogOut

set_option autoImplicit false

namespace Rendezvous.Client

open Credential (Storage Token)
open Service (Endpoint Failure)
open Web (Request Response)

variable {σ : Type} {c c' : Client σ}

/-! ## What a history says -/

/-- What a happening leaves stored as the access token, if it decides about that. -/
def Happening.access? : Happening → Option (Option String)
  | brought (.tokens _ pair) => some (some pair.accessToken)
  | loggedOut => some none
  | _ => none

/-- A happening that decides about the access token has brought tokens or is a logout. -/
theorem Happening.access?_cases {x : Happening} {left : Option String}
    (h : x.access? = some left) :
    (∃ way pair, x = .brought (.tokens way pair) ∧ left = some pair.accessToken) ∨
      x = .loggedOut ∧ left = none := by
  unfold Happening.access? at h
  split at h
  · rename_i way pair
    exact .inl ⟨way, pair, rfl, (Option.some.inj h).symm⟩
  · exact .inr ⟨rfl, (Option.some.inj h).symm⟩
  · cases h

/-- The access token that the last login, registration, renewal or logout has left, or the one that
was there at the start. -/
def accessLeft (initial : Option String) (h : List Happening) : Option String :=
  (latest Happening.access? h).getD initial

/-- One more happening may decide about the access token. -/
theorem accessLeft_concat (initial : Option String) (h : List Happening) (x : Option Happening) :
    accessLeft initial (h ++ x.toList) =
      (x.bind Happening.access?).getD (accessLeft initial h) := by
  rw [accessLeft, latest_concat]
  rcases x.bind Happening.access? with _ | left
  · rfl
  · rfl

/-- Only logging out amounts to a logout. No answer does, not even one with status 401, which is an
error like any other and leaves the stored tokens alone. -/
theorem logOut_of_loggedOut {t : Traffic σ} {e : Event σ}
    (h : t.happening? e = some .loggedOut) : e = .logOut := by
  cases e with
  | logOut => rfl
  -- an answer brings a payload or nothing, and neither is a logout
  | answer ticket result =>
    rw [Traffic.happening?] at h
    rcases hlookup : t.waiting.lookup ticket with _ | p
    · rw [hlookup] at h
      cases h
    · rw [hlookup, Option.bind_some] at h
      obtain ⟨payload, _, hbrought⟩ := Option.map_eq_some_iff.mp h
      cases hbrought
  | begin op => cases h
  | fetchDue => cases h
  | resume => cases h
  | dismissMatch => cases h
  | openRoom id => cases h
  | drift f => cases h

/-! ## What a request says -/

/-- The values that a request gives for who sends it. The case of ASCII letters does not count in
the name of a header. -/
def authorizations (request : Request) : List String :=
  (request.headers.filter fun h => Text.sameIgnoringAsciiCase h.1 "Authorization").map Prod.snd

/-- A request that is written with a token has one header for it, and a request that is written
without has none. -/
theorem authorizations_requestAt (url : Web.Url) (token : Option String) (e : Endpoint) :
    authorizations (Service.requestAt url token e) =
      (token.map fun a => "Bearer " ++ a).toList := by
  have htype : Text.sameIgnoringAsciiCase "Content-Type" "Authorization" = false := by
    decide +kernel
  have haccept : Text.sameIgnoringAsciiCase "Accept" "Authorization" = false := by
    decide +kernel
  have hself : Text.sameIgnoringAsciiCase "Authorization" "Authorization" = true := by
    decide +kernel
  unfold authorizations Service.requestAt Service.headers
  rcases token with _ | a
  · simp [htype, haccept]
  · simp [htype, haccept, hself]

/-- The request that is on the way when an operation has come to something. -/
def Status.request? : Status → Option Request
  | .sent request => some request
  | .ended _ => none

/-- The request that an event hands over to be sent, if any. -/
def Traffic.sent? [Storage σ] (t : Traffic σ) : Event σ → Option Request
  | .begin op => (t.begin op).2.2.request?
  | .fetchDue => t.fetchDue.2.bind fun r => r.2.request?
  | _ => none

/-- What is sent is what the first half of an operation waits for. -/
theorem Traffic.waiting_of_sent {r : Client σ × Progress} {t : Traffic σ} {request : Request}
    (h : (t.proceed r).2.2.request? = some request) :
    ∃ p, r.2 = .waiting p ∧ p.request = request := by
  rcases proceed_cases r t with ⟨p, hp, hstatus, _⟩ | ⟨e, _, hstatus, _⟩
  · rw [hstatus] at h
    exact ⟨p, hp, Option.some.inj h⟩
  · rw [hstatus] at h
    cases h

section

variable [Storage σ]

/-- **One request.** It is written with the token that is stored when it is sent:
`ApiClient::build_request` reads the store in the step that hands the request over, so the token
cannot be an older one. -/
theorem request_of_sent {t : Traffic σ} {e : Event σ} {request : Request}
    (h : t.sent? e = some request) :
    ∃ url endpoint, request = Service.requestAt url (t.client.store.token .access).1 endpoint := by
  -- only what starts an operation, or a page that is due, hands a request over
  cases e with
  | begin op =>
    simp only [Traffic.sent?, Traffic.begin] at h
    obtain ⟨p, hp, rfl⟩ := Traffic.waiting_of_sent h
    obtain ⟨e, url, _, _, rfl⟩ := begin_waiting hp
    exact ⟨url, e, rfl⟩
  | fetchDue =>
    simp only [Traffic.sent?, Traffic.fetchDue] at h
    rcases hdue : t.due with _ | n
    · rw [hdue] at h
      cases h
    · simp only [hdue, Option.bind_some] at h
      obtain ⟨p, hp, rfl⟩ := Traffic.waiting_of_sent h
      obtain ⟨url, _, rfl⟩ := ask_waiting hp
      exact ⟨url, _, rfl⟩
  | answer ticket result => cases h
  | resume => cases h
  | logOut => cases h
  | dismissMatch => cases h
  | openRoom id => cases h
  | drift f => cases h

end

/-! ## What is stored -/

variable [Storage σ]

/-- Taking up a session reads the tokens and writes none. -/
theorem store_resume (c : Client σ) : c.resume.store = c.store := by
  have ht := notes_token (c := c) .access
  unfold resume
  generalize c.token .access = r at ht
  obtain ⟨c₁, _ | token⟩ := r
  · exact ht.store
  · exact ht.store

variable [Storage.Lawful σ]

/-- A storage that does not refuse tells what it holds. -/
theorem token_eq_kept [Storage.Willing σ] (hp : c.store.poisoned = false) (t : Token) :
    (c.store.token t).1 = c.kept t := by
  obtain ⟨value, hget⟩ := Storage.Willing.get_ok c.store.vault t.key
  have hkept : c.kept t = value := Storage.Lawful.get_ok hget
  rw [Credential.Store.token, if_neg (by rw [hp]; exact Bool.false_ne_true), hget, hkept]

/-- The second half of an operation that brings no tokens leaves the stored ones alone. -/
theorem quiet_conclude_of_no_tokens {purpose : Purpose} {e : Endpoint}
    {result : Except Failure Response}
    (hnone : ∀ way pair, purpose.payload? e result ≠ some (.tokens way pair)) (c : Client σ) :
    Quiet c (c.conclude purpose e result).1 := by
  by_cases hs : purpose.screen? = some .session
  · obtain ⟨way, rfl⟩ := Purpose.screen?_eq_session.mp hs
    refine .of_prepared (.conclude ?_ e c)
    rw [Purpose.reply]
    rcases hreading : reading Wire.TokenPair.codec result with why | pair
    · exact Business.tokens.discreet_report _
    · refine absurd ?_ (hnone way pair)
      rw [Purpose.payload?, received_of_reading hreading]
      rfl
  · exact quiet_conclude hs e result c

/-- An event that brings no tokens, and that is no logout, leaves the stored ones alone. Together
with the two events that do change them, this is all that the history has to tell. -/
theorem kept_step {t : Traffic σ} {e : Event σ} (he : e.Harmless)
    (hnone : (t.happening? e).bind Happening.access? = none) :
    (t.step e).client.kept = t.client.kept := by
  cases e with
  | begin op =>
    rw [Traffic.begin_client]
    exact congrArg Credential.Store.kept (Prepared.begin op t.client).store
  | fetchDue =>
    rcases Traffic.fetchDue_cases t with heq | ⟨n, _, heq⟩
    · rw [heq]
    · rw [heq, Traffic.proceed_client, fetchPage]
      exact congrArg Credential.Store.kept (Prepared.ask _ .page t.client).store
  | answer ticket result =>
    rcases Traffic.answer_cases ticket result t with ⟨_, heq⟩ | ⟨p, hlookup, heq, _⟩
    · rw [heq]
    · -- the answer has brought no tokens, since those would be a new access token
      rw [Traffic.happening?, hlookup] at hnone
      rw [heq]
      apply Quiet.kept
      apply quiet_conclude_of_no_tokens
      intro way pair hpayload
      rw [Option.bind_some, hpayload] at hnone
      cases hnone
  | resume => exact congrArg Credential.Store.kept (store_resume t.client)
  | logOut => cases hnone
  | dismissMatch => rfl
  | openRoom id => rfl
  | drift f =>
    funext token
    exact congrFun (he t.client.store.vault) token.key

/-- The store can be used, and it holds the access token that the history says. -/
structure HoldsLastAccess (initial : Option String) (h : List Happening) (c : Client σ) : Prop where
  usable : c.store.poisoned = false
  access : c.kept .access = accessLeft initial h

variable [Storage.Willing σ]

/-- **One event** keeps what is stored in line with the history. Three cases are told apart: new
tokens, a logout, and everything else, which leaves the store as it was. -/
theorem HoldsLastAccess.step {initial : Option String} {h : List Happening} {t : Traffic σ}
    (hb : HoldsLastAccess initial h t.client) {e : Event σ} (he : e.Harmless) :
    HoldsLastAccess initial (h ++ (t.happening? e).toList) (t.step e).client where
  usable := by
    have hstep := sessionStep_step hb.usable e he
    have hshows : ∃ b, Shows b t.client (t.step e).client := by
      cases hstep with
      | quiet hq => exact ⟨_, hq.shows⟩
      | resumed _ _ hs => exact ⟨_, hs⟩
      | granted _ _ _ _ _ hs => exact ⟨_, hs⟩
      | closed _ hs => exact ⟨_, hs⟩
      | closedAnyway _ _ hs => exact ⟨_, hs⟩
    obtain ⟨b, hs⟩ := hshows
    exact hs.poisoned.trans hb.usable
  access := by
    rw [accessLeft_concat]
    rcases hx : (t.happening? e).bind Happening.access? with _ | left
    · rw [kept_step he hx, hb.access]
      rfl
    · -- either tokens came, or it was a logout
      obtain ⟨x, hhappening, hleft⟩ := Option.bind_eq_some_iff.mp hx
      rcases Happening.access?_cases hleft with ⟨way, pair, rfl, rfl⟩ | ⟨rfl, rfl⟩
      · exact (granted_of_tokens hb.usable hhappening).1
      · obtain rfl := logOut_of_loggedOut hhappening
        exact (logOut_closes hb.usable).1 .access

/-- **Every run** keeps what is stored in line with the last event of the credentials, from a client
over any vault on. The induction takes one more event at the end, as the history does. -/
theorem holdsLastAccess_run (address : String) (paging : Service.Paging) (vault : σ)
    (es : List (Event σ)) (hes : ∀ e ∈ es, e.Harmless) :
    HoldsLastAccess (Storage.Lawful.held vault Token.access.key)
      ((Traffic.started address paging ({ vault := vault } : Credential.Store σ)).history es)
      ((Traffic.started address paging
        ({ vault := vault } : Credential.Store σ)).run es).client := by
  refine Traffic.run_invariant Event.Harmless (P := fun h t => HoldsLastAccess _ h t.client) ?_
    (fun _ _ _ he hb => hb.step he) es hes
  -- opening the client has only read the tokens
  have hstore : (Traffic.started address paging
      ({ vault := vault } : Credential.Store σ)).client.store = { vault := vault } :=
    store_resume _
  exact {
    usable := congrArg Credential.Store.poisoned hstore
    access := congrArg (fun s => Credential.Store.kept s .access) hstore }

/-- **The bearer follows the history.** Over a backend that does not refuse and that has no other
writer, let anything happen to a client, in any order, and then let a request be handed to the
transport. If the last login, registration, refresh or logout, or else the start, has left an access
token, the request has exactly one `Authorization` header and it names that token; otherwise it has
none. -/
theorem bearer_follows_history (address : String) (paging : Service.Paging) (vault : σ)
    (es : List (Event σ)) (e : Event σ) (request : Request) (hes : ∀ e' ∈ es, e'.Harmless)
    (hsent : ((Traffic.started address paging
      ({ vault := vault } : Credential.Store σ)).run es).sent? e = some request) :
    authorizations request =
      ((accessLeft (Storage.Lawful.held vault Token.access.key)
        ((Traffic.started address paging ({ vault := vault } : Credential.Store σ)).history
          es)).map fun a => "Bearer " ++ a).toList := by
  have hholds := holdsLastAccess_run address paging vault es hes
  obtain ⟨url, endpoint, rfl⟩ := request_of_sent hsent
  rw [authorizations_requestAt, token_eq_kept hholds.usable, hholds.access]

/-- After a login the own profile is asked for, with the token that came with the login. The run
shows that the hypothesis of the theorem is met by an ordinary start of the client. -/
theorem bearer_follows_history_loggedIn :
    (∀ e' ∈ loggingIn ++ tokensComing, e'.Harmless) ∧
    ∃ request, (fresh.run (loggingIn ++ tokensComing)).sent? (.begin .loadProfile) = some request ∧
      authorizations request = ["Bearer a"] := by
  have hes : ∀ e' ∈ loggingIn ++ tokensComing, e'.Harmless := by
    intro e' he'
    simp only [loggingIn, tokensComing, List.cons_append, List.nil_append, List.mem_cons,
      List.not_mem_nil, or_false] at he'
    rcases he' with rfl | rfl
    · trivial
    · trivial
  obtain ⟨request, hsent⟩ := Option.isSome_iff_exists.mp (show
    ((fresh.run (loggingIn ++ tokensComing)).sent? (.begin .loadProfile)).isSome = true by
      decide +kernel)
  -- the last event of the credentials is the login
  have hleft : accessLeft (Storage.Lawful.held ([] : Credential.Entries) Token.access.key)
      (fresh.history (loggingIn ++ tokensComing)) = some "a" := by decide +kernel
  have hbearer := bearer_follows_history "http://host" {} ([] : Credential.Entries)
    (loggingIn ++ tokensComing) (.begin .loadProfile) request hes hsent
  exact ⟨hes, request, hsent, hbearer.trans
    (congrArg (fun left : Option String => (left.map fun a => "Bearer " ++ a).toList) hleft)⟩

end Rendezvous.Client
