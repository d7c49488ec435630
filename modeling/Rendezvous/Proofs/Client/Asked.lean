/-
What the client asks of the service, and when a page is due.

A `Call` is a request without the deployment: method, path and body. Where its URL can be resolved,
the request that goes out makes the call and nothing is added to it; where it cannot, nothing goes
out (`Sends`). The first half of an operation makes the call of the one endpoint that the operation
asks for, or none, and never leaves a page due (`begin_begun`).

A page becomes due in the second half alone, and only when a decision has arrived: then exactly if
few candidates are left and no page is claimed (`fetchDue_conclude_iff`), which is the condition of
`prefetch`.
-/
import Rendezvous.Proofs.Client.Bearer
import Rendezvous.Proofs.Client.Failing
import Rendezvous.Proofs.Client.Paging

set_option autoImplicit false

namespace Rendezvous.Client

open Credential (Storage)
open Service (Endpoint Failure)
open Web (Request Response Url)

variable {σ : Type}

/-! ## Calls -/

/-- A request before the base URL is put in front of its path. -/
structure Call where
  method : Web.Method
  path : String
  body : Option Json

namespace Call

def get (path : String) : Call :=
  ⟨.get, path, none⟩

def post (path : String) (body : Json) : Call :=
  ⟨.post, path, some body.sorted⟩

def put (path : String) (body : Json) : Call :=
  ⟨.put, path, some body.sorted⟩

/-- Where a call goes, if its URL can be resolved. -/
def url? (address : String) (call : Call) : Option Url :=
  (Url.parse (Service.withoutEndSlashes address.toList ++ call.path.toList)).toOption

/-- The call of an endpoint. -/
def of (e : Endpoint) : Call :=
  ⟨e.method, e.path, e.body⟩

theorem url?_of (address : String) (e : Endpoint) :
    (Call.of e).url? address = (Service.resolve address e).toOption := by
  have htext : (Service.addressText address e).toList =
      Service.withoutEndSlashes address.toList ++ e.path.toList := String.toList_ofList
  simp only [url?, of, Service.resolve, htext]
  rcases Url.parse (Service.withoutEndSlashes address.toList ++ e.path.toList) with why | url
  · rfl
  · rfl

end Call

/-- A request makes a call: its method, its URL and its body are those of the call. -/
structure Makes (address : String) (call : Call) (request : Request) : Prop where
  method : request.method = call.method
  url : call.url? address = some request.url
  body : request.body = call.body.map Json.text

/-- A call is made, if there is one and its URL can be resolved; otherwise nothing is sent. Stated
as a relation of lists, so that the requests of a run are compared with its calls one by one. -/
def Sends (address : String) (call? : Option Call) (request? : Option Request) : Prop :=
  List.Forall₂ (Makes address) (call?.toList.filter fun call => (call.url? address).isSome)
    request?.toList

theorem sends_none (address : String) : Sends address none none :=
  .nil

theorem sends_of_url {address : String} {e : Endpoint} {url : Url}
    (hurl : Service.resolve address e = .ok url) (token : Option String) :
    Sends address (some (Call.of e)) (some (Service.requestAt url token e)) := by
  have hurl? : (Call.of e).url? address = some url := by
    rw [Call.url?_of, hurl]
    rfl
  have hmakes : Makes address (Call.of e) (Service.requestAt url token e) := ⟨rfl, hurl?, rfl⟩
  rw [Sends, Option.toList_some, List.filter_cons_of_pos (by rw [hurl?]; rfl)]
  exact .cons hmakes .nil

theorem sends_of_no_url {address : String} {e : Endpoint} {why : Failure}
    (hurl : Service.resolve address e = .error why) : Sends address (some (Call.of e)) none := by
  have hurl? : (Call.of e).url? address = none := by
    rw [Call.url?_of, hurl]
    rfl
  rw [Sends, Option.toList_some, List.filter_cons_of_neg (by rw [hurl?]; exact Bool.false_ne_true)]
  exact .nil

/-! ## What an answer is for -/

/-- Whether an endpoint asks for a page of candidates. -/
def asksPage : Endpoint → Bool
  | .candidates _ => true
  | _ => false

/-- Whether an endpoint is a decision. -/
def takesDecision : Endpoint → Bool
  | .swipe _ => true
  | _ => false

/-- Whether an answer is for a decision. -/
def Purpose.isDecision : Purpose → Bool
  | .decision _ => true
  | _ => false

/-- An answer is taken for a page, or for that of a decision, only if that was asked for. -/
structure Purpose.Fits (purpose : Purpose) (e : Endpoint) : Prop where
  page : purpose.isPage = asksPage e
  decision : purpose.isDecision = takesDecision e

/-- The request of an operation that waits. -/
def Progress.request? : Progress → Option Request
  | .waiting p => some p.request
  | .ended _ => none

/-- Whether the first half of an operation leaves a page due. -/
def Progress.due : Progress → Bool
  | .waiting _ => false
  | .ended e => e.fetchDue

/-- The first half of an operation makes a call, or none; no page is due after it, and the answer
will be taken for what was asked. -/
structure Begun (address : String) (call? : Option Call) (r : Progress) : Prop where
  sends : Sends address call? r.request?
  due : r.due = false
  fits : ∀ p, r = .waiting p → p.purpose.Fits p.endpoint

theorem begun_ended (address : String) : Begun address none (.ended .plain) where
  sends := sends_none address
  due := rfl
  fits := fun _ hp => nomatch hp

/-- The conversation with the next number is the one that has just been opened. -/
theorem roomId_openRoom (id : String) (c : Client σ) :
    (c.openRoom id).1.roomId (c.openRoom id).2 = id := by
  simp only [roomId, openRoom, List.getElem?_concat_length, Option.elim_some]

section

variable [Storage σ]

/-- Asking for an endpoint makes its call. -/
theorem begun_ask {e : Endpoint} {purpose : Purpose} (hfits : purpose.Fits e) (c : Client σ) :
    Begun c.address (some (Call.of e)) (c.ask e purpose).2 := by
  rcases ask_cases e purpose c with ⟨c', url, _, hurl, hask⟩ | ⟨why, hurl, hask⟩
  · rw [hask]
    refine ⟨sends_of_url hurl _, rfl, fun p hp => ?_⟩
    rw [← Progress.waiting.inj hp]
    exact hfits
  · rw [hask]
    exact ⟨sends_of_no_url hurl, fetchDue_conclude_error purpose e why c, fun _ hp => nomatch hp⟩

/-- What an operation asks for is what its answer is for: a page if and only if the endpoint is that
of a page, and a decision likewise. So the reference account can go by endpoints alone. -/
theorem fits_purpose {op : Operation} (hop : op.business?.isSome) {c : Client σ} {e : Endpoint}
    (he : op.endpoint? c = some e) : (op.purpose c).Fits e := by
  cases op with
  | renew | swipe =>
    obtain ⟨_, _, rfl⟩ := Option.map_eq_some_iff.mp he
    exact ⟨rfl, rfl⟩
  | loadPage | send =>
    -- there is something to ask for, so it is the one thing
    simp only [Operation.endpoint?] at he
    split at he
    · cases he
    · rw [← Option.some.inj he]
      exact ⟨rfl, rfl⟩
  | plain => cases hop
  | logIn | register | loadMatches | loadConversations | loadThread | loadProfile
  | updateProfile =>
    rw [← Option.some.inj he]
    exact ⟨rfl, rfl⟩

/-- **The first half of an operation** makes the call of the endpoint that the operation asks for,
or none if there is nothing to ask for. -/
theorem begin_begun {op : Operation} (hop : op.business?.isSome) (c : Client σ) :
    Begun c.address ((op.endpoint? c).map Call.of) (c.begin op).2 := by
  obtain ⟨c', hprep, ⟨hnone, hbegin⟩ | ⟨e, he, hbegin⟩⟩ := begin_cases op c
  · rw [hbegin, hnone]
    exact begun_ended c.address
  · rw [hbegin, he, ← hprep.address]
    exact begun_ask (fits_purpose hop he) c'

/-- A page that is due is asked for with the call of a page. -/
theorem fetchPage_begun (c : Client σ) :
    Begun c.address (some (Call.of (.candidates c.paging.pageSize))) c.fetchPage.2 :=
  begun_ask ⟨rfl, rfl⟩ c

/-! ## When a page is due -/

/-- Only a decision leaves a page due. -/
theorem fetchDue_conclude {purpose : Purpose} (hp : purpose.isDecision = false) (e : Endpoint)
    (result : Except Failure Response) (c : Client σ) :
    (c.conclude purpose e result).2.fetchDue = false := by
  cases purpose with
  | decision id => cases hp
  | _ => rfl

theorem Purpose.isDecision_iff {purpose : Purpose} :
    purpose.isDecision = true ↔ ∃ id, purpose = .decision id := by
  cases purpose <;> simp [isDecision]

/-- **When a page is due.** The second half of an operation leaves one due exactly if it is that
of a decision, the decision has arrived, few candidates are left then, and no page was claimed
before. -/
theorem fetchDue_conclude_iff (purpose : Purpose) (e : Endpoint)
    (result : Except Failure Response) (c : Client σ) :
    (c.conclude purpose e result).2.fetchDue = true ↔
      purpose.isDecision = true ∧ (received Wire.SwipeResult.codec result).isSome = true ∧
        (c.conclude purpose e result).1.deck.value.remaining ≤ c.paging.threshold ∧
        c.claims = 0 := by
  rcases hpurpose : purpose.isDecision with _ | _
  · rw [fetchDue_conclude hpurpose]
    simp
  obtain ⟨id, rfl⟩ := Purpose.isDecision_iff.mp hpurpose
  obtain ⟨harrived, hlost⟩ := conclude_decision id e result c
  -- the flag after it is the flag before it and the claim that is handed on
  have hclaims : (c.conclude (.decision id) e result).1.claims =
      c.claims + (c.conclude (.decision id) e result).2.fetchDue.toNat :=
    conclude_claims rfl e result c
  rcases hreceived : received Wire.SwipeResult.codec result with _ | answer
  · rw [hlost hreceived]
    simp
  obtain ⟨hfew, hmany⟩ := harrived answer hreceived
  by_cases hleft : (c.conclude (.decision id) e result).1.deck.value.remaining ≤
      c.paging.threshold
  · rw [hfew hleft] at hclaims
    simp only [Option.isSome_some, hleft, true_and]
    rcases hdue : (c.conclude (.decision id) e result).2.fetchDue with _ | _
    · rw [hdue, Bool.toNat_false] at hclaims
      simp only [Bool.false_eq_true, false_iff]
      omega
    · rw [hdue, Bool.toNat_true] at hclaims
      simp only [true_iff]
      omega
  · rw [hmany (Nat.lt_of_not_le hleft)]
    simp [hleft]

end

/-! ## What is on the way -/

namespace Traffic

variable {t : Traffic σ}

/-- Every answer will be taken for what was asked. -/
def Fitting (t : Traffic σ) : Prop :=
  ∀ w ∈ t.waiting, w.2.purpose.Fits w.2.endpoint

theorem request?_proceed (r : Client σ × Progress) (t : Traffic σ) :
    (t.proceed r).2.2.request? = r.2.request? := by
  obtain ⟨c, p | e⟩ := r
  · rfl
  · rfl

theorem due_withDue (b : Bool) (t : Traffic σ) : (t.withDue b).due = t.due + b.toNat := by
  rcases b with _ | _
  · rfl
  · rfl

theorem due_proceed {address : String} {call? : Option Call} {r : Client σ × Progress}
    (h : Begun address call? r.2) (t : Traffic σ) : (t.proceed r).1.due = t.due := by
  obtain ⟨c, p | e⟩ := r
  · rfl
  · have hdue : e.fetchDue = false := h.due
    simp only [proceed]
    rw [due_withDue, hdue]
    rfl

theorem Fitting.proceed {address : String} {call? : Option Call} {r : Client σ × Progress}
    (ht : t.Fitting) (h : Begun address call? r.2) : (t.proceed r).1.Fitting := by
  intro w hw
  rcases mem_waiting_proceed hw with hw | ⟨_, hw⟩
  · exact ht w hw
  · exact h.fits w.2 hw

/-- The pages that are pending can be counted by the endpoints that have been asked for. -/
theorem Fitting.pagesPending (ht : t.Fitting) :
    t.pagesPending = t.due + t.waiting.countP fun w => asksPage w.2.endpoint := by
  rw [Traffic.pagesPending]
  congr 1
  refine List.countP_congr fun w hw => ?_
  rw [(ht w hw).page]

variable [Storage σ]

/-- No page is due, so none is asked for. -/
theorem fetchDue_of_none (h : t.due = 0) : t.fetchDue = (t, none) := by
  simp only [Traffic.fetchDue, h]

/-- A page that is due is asked for with the call of a page, and is due no longer. It is the one
request that is not handed over by a command, so it is accounted for on its own. -/
theorem fetchDue_of_succ {n : Nat} (h : t.due = n + 1) (hfitting : t.Fitting) :
    t.fetchDue.1.due = n ∧ t.fetchDue.1.Fitting ∧
      Sends t.client.address (some (Call.of (.candidates t.client.paging.pageSize)))
        (t.sent? .fetchDue) := by
  have hbegun := fetchPage_begun t.client
  have hfetch : t.fetchDue = ((Traffic.proceed t.client.fetchPage { t with due := n }).1,
      some (Traffic.proceed t.client.fetchPage { t with due := n }).2) := by
    simp only [Traffic.fetchDue, h]
  rw [sent?, hfetch]
  generalize t.client.fetchPage = r at hbegun
  have hrest : Fitting { t with due := n } := hfitting
  refine ⟨due_proceed hbegun _, hrest.proceed hbegun, ?_⟩
  rw [Option.bind_some, request?_proceed]
  exact hbegun.sends

/-- Answering a request leaves one page more due if its second half says so. -/
theorem due_answer {ticket : Ticket} {p : Pending} (hp : t.waiting.lookup ticket = some p)
    (result : Except Failure Response) :
    (t.step (.answer ticket result)).due =
      t.due + (t.client.settle p result).2.fetchDue.toNat := by
  simp only [step, Traffic.answer, hp]
  exact due_withDue _ _

theorem Fitting.answer (ht : t.Fitting) (ticket : Ticket) (result : Except Failure Response) :
    (t.step (.answer ticket result)).Fitting := by
  intro w hw
  rcases answer_cases ticket result t with ⟨_, heq⟩ | ⟨p, _, _, hwaiting⟩
  · rw [heq] at hw
    exact ht w hw
  · rw [hwaiting] at hw
    exact ht w (List.mem_filter.mp hw).1

end Traffic

end Rendezvous.Client
