/-
An operation that comes to nothing overwrites nothing.

There are many ways for an operation to come to nothing. Before its request is sent, its URL may not
be resolved or the session may lack a refresh token (`Unable`). After that, the transport may fail,
the service may refuse, the body may not be decoded, or the backend may not store the tokens
(`Falls`). Whichever it is, what the operation has published by then and publishes now is the flag
of its business and an error message (`begin_spares`, `conclude_of_falls`). A screen never loses
what it has loaded because of a failure.

The two halves of an operation are apart in time, and anything may happen in between. What ties the
second half to the first is the ticket: it is given out once, so what waits under it can only be the
request of that operation (`Traffic.of_mem_waiting_run`).
-/
import Rendezvous.Proofs.Client.Lasting
import Rendezvous.Proofs.Client.Spared

set_option autoImplicit false

namespace Rendezvous.Client

open Credential (Storage)
open Service (Endpoint Failure)
open Web (Response)

variable {σ : Type} {c c' : Client σ} {b : Business}

/-- Conversations that were open are open. -/
theorem Business.Open.of_prefix (h : c.roomIds <+: c'.roomIds) (hopen : b.Open c) : b.Open c' := by
  have hlength := h.length_le
  rw [length_roomIds, length_roomIds] at hlength
  cases b with
  | thread room => exact Nat.lt_of_lt_of_le hopen hlength
  | message room => exact Nat.lt_of_lt_of_le hopen hlength
  | _ => trivial

/-! ## Coming to nothing -/

section

variable [Storage σ]

/-- The second half of an operation comes to nothing, and why: the answer brings nothing, or it
brings tokens that the backend does not store. -/
inductive Falls (c : Client σ) (result : Except Failure Response) : Business → Trouble → Prop
  | refused {b : Business} {why : Failure} (h : b.Refuses result why) :
      Falls c result b (.service why)
  | notKept {pair : Wire.TokenPair} {why : Credential.Failure}
      (hpair : received Wire.TokenPair.codec result = some pair)
      (hsave : (c.store.save pair.accessToken pair.refreshToken).2.1 = .error why) :
      Falls c result .tokens (.storage why)

/-- The first half of an operation comes to nothing, and why. -/
inductive Unable (c : Client σ) : Operation → Trouble → Prop
  | address {op : Operation} {e : Endpoint} {why : Failure} (he : op.endpoint? c = some e)
      (haddress : Service.resolve c.address e = .error why) : Unable c op (.service why)
  | refreshToken (h : (c.token .refresh).2 = none) : Unable c .renew noRefreshToken

end

/-! ## What a person is told -/

/-- A text is not blank if it begins with something that is not. -/
theorem trim_append_ne_nil {start : String} {x : Char} (hx : x ∈ start.toList)
    (hblank : Text.isBlank x = false) (text : String) :
    Text.trim (start ++ text).toList ≠ [] := by
  intro h
  rw [String.toList_append, Text.trim_eq_nil_iff] at h
  have hall := h x (List.mem_append_left _ hx)
  rw [hblank] at hall
  cases hall

/-- The client's own wording is never blank: each begins with a word. -/
theorem trim_message_ne_nil (why : Failure) : Text.trim why.message.toList ≠ [] := by
  cases why with
  | badAddress detail => exact trim_append_ne_nil (x := 'I') (by decide) (by decide) _
  | unanswered detail => exact trim_append_ne_nil (x := 'I') (by decide) (by decide) _
  | refused status body => exact trim_append_ne_nil (x := 'H') (by decide) (by decide) _
  | undecodable e => exact trim_append_ne_nil (x := 'D') (by decide) (by decide) _
  | unencodable e => exact trim_append_ne_nil (x := 'F') (by decide) (by decide) _

/-- An explanation of the service is never blank, since `user_message` falls back to the status when
nothing is left of the message after trimming. -/
theorem trim_explanation_ne_nil {why : Failure} {text : String} (h : why.explanation? = some text) :
    Text.trim text.toList ≠ [] := by
  unfold Failure.explanation? at h
  split at h
  · split at h
    · split at h
      · cases h
      · rename_i hblank
        rw [← Option.some.inj h]
        exact fun hnil => hblank (List.isEmpty_iff.mpr hnil)
    · cases h
  · cases h

theorem trim_userMessage_ne_nil (why : Failure) : Text.trim why.userMessage.toList ≠ [] := by
  unfold Failure.userMessage
  rcases h : why.explanation? with _ | text
  · exact trim_message_ne_nil why
  · exact trim_explanation_ne_nil h

/-- An explanation that is not blank is what the user is told (`user_message`). -/
theorem userMessage_of_explained {status : UInt16} {body : List UInt8} {complaint : Wire.Complaint}
    (hbody : Wire.Complaint.codec.decode body = .ok complaint)
    (hblank : Text.trim complaint.message.toList ≠ []) :
    (Failure.refused status body).userMessage = complaint.message := by
  have hempty : ¬ (Text.trim complaint.message.toList).isEmpty = true := by
    rw [List.isEmpty_iff]
    exact hblank
  simp only [Failure.userMessage, Failure.explanation?, hbody, if_neg hempty, Option.getD_some]

/-- Without an explanation the message names the status. The hypothesis covers both ways to have
none: a body that is no error document, and one whose message is blank. -/
theorem userMessage_of_unexplained {status : UInt16} {body : List UInt8}
    (hbody : ∀ complaint, Wire.Complaint.codec.decode body = .ok complaint →
      Text.trim complaint.message.toList = []) :
    (Failure.refused status body).userMessage = "HTTP error: " ++ toString status.toNat := by
  rcases hdecode : Wire.Complaint.codec.decode body with e | complaint
  · simp only [Failure.userMessage, Failure.explanation?, hdecode]
    rfl
  · have hempty : (Text.trim complaint.message.toList).isEmpty = true := by
      rw [List.isEmpty_iff]
      exact hbody complaint hdecode
    simp only [Failure.userMessage, Failure.explanation?, hdecode, if_pos hempty]
    rfl

/-- The screen of a business shows an error for what went wrong: not a blank one, and for a refusal
the explanation of the service, if it has given one, and otherwise the status. -/
structure Tells (b : Business) (why : Trouble) (c : Client σ) (m : String) : Prop where
  shown : c.error? b = some m
  user : m = why.userMessage
  notBlank : Text.trim m.toList ≠ []
  explained : ∀ {status body complaint}, why = .service (.refused status body) →
    Wire.Complaint.codec.decode body = .ok complaint →
    Text.trim complaint.message.toList ≠ [] → m = complaint.message
  unexplained : ∀ {status body}, why = .service (.refused status body) →
    (∀ complaint, Wire.Complaint.codec.decode body = .ok complaint →
      Text.trim complaint.message.toList = []) →
    m = "HTTP error: " ++ toString status.toNat

theorem tells_of_shown {why : Trouble} (hshown : c.error? b = some why.userMessage)
    (hblank : Text.trim why.userMessage.toList ≠ []) : Tells b why c why.userMessage where
  shown := hshown
  user := rfl
  notBlank := hblank
  explained := by
    rintro status body complaint rfl hbody hcomplaint
    exact userMessage_of_explained hbody hcomplaint
  unexplained := by
    rintro status body rfl hbody
    exact userMessage_of_unexplained hbody

variable [Storage σ]

theorem Falls.trim_userMessage_ne_nil {result : Except Failure Response} {why : Trouble}
    (h : Falls c result b why) : Text.trim why.userMessage.toList ≠ [] := by
  cases h with
  | refused h => exact Client.trim_userMessage_ne_nil _
  | notKept _ _ => exact trim_append_ne_nil (x := 'C') (by decide) (by decide) _

theorem Unable.trim_userMessage_ne_nil {op : Operation} {why : Trouble} (h : Unable c op why) :
    Text.trim why.userMessage.toList ≠ [] := by
  cases h with
  | address _ _ => exact Client.trim_userMessage_ne_nil _
  | refreshToken _ => decide

/-! ## The second half -/

variable [Storage.Lawful σ]

/-- What is left of an operation that has come to nothing: its flag is down and the error is on the
screen, and the rest is as it was. -/
structure Reports (b : Business) (why : Trouble) (c c' : Client σ) : Prop where
  spares : Spares b c c'
  lowered : c'.raised b = false
  shown : c'.error? b = some why.userMessage

theorem Reports.of_spares {why : Trouble} {c'' : Client σ} (hs : Spares b c c')
    (h : Reports b why c' c'') : Reports b why c c'' :=
  ⟨hs.trans h.spares, h.lowered, h.shown⟩

/-- What a business reports is left of its operation. -/
theorem reports_report (hopen : b.Open c) (why : Trouble) :
    Reports b why c (c.publish (b.report why.userMessage)) where
  spares := spares_publish (b.leavesRest_report _) c
  lowered := raised_publish (b.lowersFlag_report _) c
  shown := error?_report hopen

/-- What is noted afterwards is not seen. -/
theorem Reports.then_notes {why : Trouble} {c'' : Client σ} (h : Reports b why c c')
    (hn : Notes c' c'') : Reports b why c c'' := by
  refine ⟨h.spares.trans (.of_notes hn), ?_, ?_⟩
  · rw [← h.lowered]
    obtain ⟨ns, rfl⟩ := hn
    cases b <;> rfl
  · rw [← h.shown]
    obtain ⟨ns, rfl⟩ := hn
    cases b <;> rfl

/-- A pair that came and could not be stored. -/
theorem reports_notKept {pair : Wire.TokenPair} {why : Credential.Failure}
    (hsave : (c.store.save pair.accessToken pair.refreshToken).2.1 = .error why) :
    Reports .tokens (.storage why) c (c.takeTokens pair) := by
  have hkeep : c.keepTokens pair.accessToken pair.refreshToken =
      ((c.keepTokens pair.accessToken pair.refreshToken).1, .error why) :=
    Prod.ext rfl hsave
  unfold takeTokens
  rw [hkeep]
  exact (reports_report (b := .tokens) trivial _).of_spares (spares_keepTokens hsave)

/-- An answer that brings nothing is reported on the screen of what was asked for. -/
theorem conclude_of_refuses {purpose : Purpose} {result : Except Failure Response} {why : Failure}
    (hb : purpose.business? = some b) (hopen : b.Open c) (h : b.Refuses result why)
    (e : Endpoint) : Reports b (.service why) c (c.conclude purpose e result).1 := by
  obtain ⟨c₁, hn, hn', _⟩ := conclude_spec purpose e result c
  have hs : Spares b c c₁ := .of_notes hn
  rw [Purpose.reply_of_refuses hb h] at hn'
  exact ((reports_report (hs.open hopen) (.service why)).of_spares hs).then_notes hn'

/-- **The second half of an operation that comes to nothing**: it lowers its flag, says why, and
leaves everything else alone. -/
theorem conclude_of_falls {purpose : Purpose} {result : Except Failure Response} {why : Trouble}
    (hb : purpose.business? = some b) (hopen : b.Open c) (h : Falls c result b why) (e : Endpoint) :
    Reports b why c (c.conclude purpose e result).1 := by
  cases h with
  | refused h => exact conclude_of_refuses hb hopen h e
  | @notKept pair why hpair hsave =>
    obtain ⟨way, rfl⟩ : ∃ way, purpose = .tokens way :=
      Purpose.screen?_eq_session.mp (by rw [Purpose.screen?, hb]; rfl)
    obtain ⟨c₁, hn, hn', _⟩ := conclude_spec (.tokens way) e result c
    -- reading the answer leaves the store as it is
    rw [← hn.store] at hsave
    rw [Purpose.reply, reading_of_received hpair] at hn'
    exact ((reports_notKept hsave).of_spares (.of_notes hn)).then_notes hn'

/-! ## The first half -/

/-- **How an operation with a business begins.** It has nothing to ask for and ends, or it publishes
that it is under way and asks. -/
theorem begin_asks {op : Operation} (hb : op.business? = some b) (c : Client σ) :
    (op.endpoint? c = none ∧ ∃ c', c.begin op = (c', .ended .plain) ∧ Spares b c c' ∧
      c'.raised b = c.raised b ∧ (op = .renew → c'.error? b = some noRefreshToken.userMessage)) ∨
    ∃ e c', op.endpoint? c = some e ∧ Spares b c c' ∧ c'.address = c.address ∧
      c.begin op = c'.ask e (op.purpose c) := by
  obtain ⟨c₁, hn, ⟨hnone, hbegin⟩ | ⟨e, he, hbegin⟩⟩ := begin_inversion op c
  · refine .inl ⟨hnone, _, hbegin,
      (Spares.of_notes hn).trans (op.spares_reportUnasked? hb c₁), ?_, ?_⟩
    · -- the flag is not touched where nothing is asked for
      rw [Operation.raised_reportUnasked?]
      obtain ⟨ns, rfl⟩ := hn
      cases b <;> rfl
    · rintro rfl
      obtain rfl := Option.some.inj hb
      rfl
  · rw [hb] at hbegin
    exact .inr ⟨e, _, he, (Spares.of_notes hn).trans (spares_publish b.leavesRest_announcement c₁),
      (address_publish _ c₁).trans hn.address, hbegin⟩

/-- Without a URL there is nothing to wait for: the operation ends at once, and the error is on its
screen with the flag down again. -/
theorem ask_of_no_address {e : Endpoint} {purpose : Purpose} {why : Failure}
    (hb : purpose.business? = some b) (hopen : b.Open c)
    (haddress : Service.resolve c.address e = .error why) :
    Reports b (.service why) c (c.ask e purpose).1 ∧
      ∃ ending, (c.ask e purpose).2 = .ended ending := by
  rcases ask_cases e purpose c with ⟨c', url, _, hurl, _⟩ | ⟨why', hwhy, hask⟩
  · rw [haddress] at hurl
    cases hurl
  · obtain rfl : why = why' := Except.error.inj (haddress.symm.trans hwhy)
    have hrefuses : b.Refuses (.error why) why := by
      cases b <;> exact .unanswered why
    rw [hask]
    exact ⟨conclude_of_refuses hb hopen hrefuses e, _, rfl⟩

/-- The first half of an operation leaves alone what it is not about, and if its request is on the
way, then for its own purpose. -/
theorem begin_spares {op : Operation} (hb : op.business? = some b) (hopen : b.Open c) :
    Spares b c (c.begin op).1 ∧
      ∀ p, (c.begin op).2 = .waiting p → p.purpose.business? = some b := by
  constructor
  · rcases begin_asks hb c with ⟨_, c', hbegin, hs, _⟩ | ⟨e, c', _, hs, _, hbegin⟩
    · rw [hbegin]
      exact hs
    · rw [hbegin]
      rcases ask_cases e (op.purpose c) c' with ⟨c'', url, hn, _, hask⟩ | ⟨why, hwhy, _⟩
      · rw [hask]
        exact hs.trans (.of_notes hn)
      · have hpurpose : (op.purpose c).business? = some b := (op.business?_purpose c).trans hb
        exact hs.trans (ask_of_no_address hpurpose (hs.open hopen) hwhy).1.spares
  · intro p hp
    obtain ⟨e, url, _, _, rfl⟩ := begin_waiting hp
    exact (op.business?_purpose c).trans hb

/-- **The first half of an operation that comes to nothing**: the operation has ended, the screen
says why, and a flag that was down is down. -/
theorem begin_of_unable {op : Operation} {why : Trouble} (hb : op.business? = some b)
    (hopen : b.Open c) (h : Unable c op why) :
    (∃ ending, (c.begin op).2 = .ended ending) ∧
      (c.begin op).1.error? b = some why.userMessage ∧
      (c.raised b = false → (c.begin op).1.raised b = false) := by
  -- nothing is asked for want of a refresh token, or there is no URL to ask at
  rcases begin_asks hb c with ⟨hnone, c', hbegin, hs, hraised, hrenew⟩ |
    ⟨e, c', he, hs, haddress, hbegin⟩
  · cases h with
    | address he _ =>
      rw [hnone] at he
      cases he
    | refreshToken _ =>
      rw [hbegin]
      exact ⟨⟨_, rfl⟩, hrenew rfl, fun hdown => hraised.trans hdown⟩
  · cases h with
    | @address _ e' why he' hwhy =>
      obtain rfl : e = e' := Option.some.inj (he.symm.trans he')
      rw [← haddress] at hwhy
      obtain ⟨hreports, hended⟩ :=
        ask_of_no_address ((op.business?_purpose c).trans hb) (hs.open hopen) hwhy
      rw [hbegin]
      exact ⟨hended, hreports.shown, fun _ => hreports.lowered⟩
    | refreshToken hnone =>
      rw [Operation.endpoint?, hnone] at he
      cases he

/-! ## Both halves -/

/-- What waits under the ticket of an operation is the request of that operation, whatever has
happened since. -/
theorem business_of_waiting {t : Traffic σ} (ht : t.Numbered) {op : Operation}
    (hb : op.business? = some b) (hopen : b.Open t.client) {es : List (Event σ)} {p : Pending}
    (hp : ((t.step (.begin op)).run es).waiting.lookup t.next = some p) :
    p.purpose.business? = some b := by
  have hmem : (t.next, p) ∈ ((t.step (.begin op)).run es).waiting :=
    Traffic.mem_waiting_of_lookup hp
  have hgiven : t.next < (t.step (.begin op)).next :=
    Nat.lt_of_lt_of_eq (Nat.lt_succ_self _) (Traffic.next_proceed _ t).symm
  -- the ticket has been given out, so what waits under it has waited since the operation began
  have hfirst := Traffic.of_mem_waiting_run hmem hgiven
  rcases Traffic.mem_waiting_proceed hfirst with hold | ⟨_, hnew⟩
  · exact (Nat.lt_irrefl _ (ht _ hold)).elim
  · exact (begin_spares hb hopen).2 p hnew

/-- **An operation that comes to nothing overwrites nothing.** Take any operation that is begun in
any state that a client gets into. What it publishes when it begins is its flag and its error
message, and if it comes to nothing there, its screen says why. If its request is on the way and
comes to nothing after whatever else may have happened, it publishes its flag, which is down, and
the message that says why. Everything else on every screen stays as it was, and so do the stored
tokens; if nothing else has happened in between, that is so over the whole operation. -/
theorem failure_overwrites_nothing (address : String) (paging : Service.Paging)
    (store : Credential.Store σ) (es : List (Event σ)) {op : Operation}
    (hb : op.business? = some b) {t begun : Traffic σ}
    (ht : t = (Traffic.started address paging store).run es) (hopen : b.Open t.client)
    (hbegun : begun = t.step (.begin op)) :
    Spares b t.client begun.client ∧
      (∀ why, Unable t.client op why →
        (∃ outcome, (t.begin op).2 = (t.next, .ended outcome)) ∧
        (∃ m, Tells b why begun.client m) ∧
        (t.client.raised b = false → begun.client.raised b = false)) ∧
      ∀ es' p result why, (begun.run es').waiting.lookup t.next = some p →
        Falls (begun.run es').client result b why →
        ∃ last, last = (begun.run es').step (.answer t.next result) ∧
          Spares b (begun.run es').client last.client ∧
          (∃ m, Tells b why last.client m) ∧
          last.client.raised b = false ∧
          (es' = [] → Spares b t.client last.client) := by
  have hfirst := begin_spares hb hopen
  have hclient := Traffic.begin_client op t
  rw [← hbegun] at hclient
  refine ⟨?_, fun why hunable => ?_, fun es' p result why hp hfalls => ?_⟩
  · rw [hclient]
    exact hfirst.1
  · obtain ⟨⟨ending, hended⟩, hshown, hlowered⟩ := begin_of_unable hb hopen hunable
    rw [hclient]
    refine ⟨?_, ⟨_, tells_of_shown hshown hunable.trim_userMessage_ne_nil⟩, hlowered⟩
    rcases Traffic.proceed_cases (t.client.begin op) t with ⟨p, hp, _⟩ | ⟨ending', _, hout, _⟩
    · rw [hended] at hp
      cases hp
    · exact ⟨_, hout⟩
  · -- whatever has happened meanwhile, it is this operation that is concluded, and its
    -- conversation, if it has one, is still open
    have hnumbered : t.Numbered := by
      rw [ht]
      exact Traffic.numbered_run address paging store es
    have hlasting : t.client.roomIds <+: (begun.run es').client.roomIds := by
      rw [hbegun, ← Traffic.run_cons]
      exact Traffic.roomIds_run t _
    have hpurpose : p.purpose.business? = some b := by
      rw [hbegun] at hp
      exact business_of_waiting hnumbered hb hopen hp
    have hreports := conclude_of_falls hpurpose (hopen.of_prefix hlasting) hfalls p.endpoint
    refine ⟨_, rfl, ?_⟩
    rcases Traffic.answer_cases t.next result (begun.run es') with ⟨hnone, _⟩ | ⟨p', hp', heq, _⟩
    · rw [hnone] at hp
      cases hp
    · obtain rfl : p' = p := Option.some.inj (hp'.symm.trans hp)
      rw [heq]
      refine ⟨hreports.spares, ⟨_, tells_of_shown hreports.shown hfalls.trim_userMessage_ne_nil⟩,
        hreports.lowered, ?_⟩
      -- nothing has happened in between, so the two halves follow each other
      rintro rfl
      refine Spares.trans ?_ hreports.spares
      rw [Traffic.run_nil, hclient]
      exact hfirst.1

/-- A client over memory without tokens. -/
def unknownMember : Traffic Credential.Entries :=
  Traffic.started "http://host" {} { vault := [] }

/-- The service refuses a login and says why. -/
def notKnown : Response :=
  ⟨401, Text.Utf8.bytes (Wire.Complaint.codec.encode ⟨"no such member"⟩)⟩

/-- The matches are asked for while the login is on the way. -/
def meanwhile : List (Event Credential.Entries) :=
  [.begin .loadMatches]

theorem failure_overwrites_nothing_notKnown :
    ∃ begun last p, begun = unknownMember.step (.begin (.logIn ⟨"ada", "secret"⟩)) ∧
      (begun.run meanwhile).waiting.lookup 0 = some p ∧
      Falls (begun.run meanwhile).client (.ok notKnown) .tokens
        (.service (.refused 401 notKnown.body)) ∧
      last = (begun.run meanwhile).step (.answer 0 (.ok notKnown)) ∧
      Spares .tokens (begun.run meanwhile).client last.client ∧
      last.client.error? .tokens = some "no such member" := by
  have hfalls {c : Client Credential.Entries} :
      Falls c (.ok notKnown) .tokens (.service (.refused 401 notKnown.body)) :=
    .refused (.refused (by decide))
  obtain ⟨p, hp⟩ : ∃ p, ((unknownMember.step (.begin (.logIn ⟨"ada", "secret"⟩))).run
      meanwhile).waiting.lookup 0 = some p :=
    Option.isSome_iff_exists.mp (by decide +kernel)
  have hb : (Operation.logIn ⟨"ada", "secret"⟩).business? = some .tokens := rfl
  -- the login is the first thing that happens, over an empty store
  have ht : unknownMember = (Traffic.started "http://host" {} { vault := [] }).run [] := rfl
  obtain ⟨-, -, hanswer⟩ :=
    failure_overwrites_nothing "http://host" {} { vault := [] } [] hb ht trivial rfl
  obtain ⟨last, hlast, hspares, ⟨m, htells⟩, -, -⟩ := hanswer meanwhile p _ _ hp hfalls
  have hm : m = "no such member" := htells.user.trans (by decide +kernel)
  rw [hm] at htells
  exact ⟨_, last, p, rfl, hp, hfalls, hlast, hspares, htells.shown⟩

end Rendezvous.Client
