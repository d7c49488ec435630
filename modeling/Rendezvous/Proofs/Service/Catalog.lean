/-
What an `Endpoint` holds can be recovered from the request that `build_request` makes of it.

`Endpoint::body` goes through `serde_json::to_value`: the record becomes a tree, whose objects keep
their members sorted by name, and only then is there a text. What the service decodes is that text,
so each of the five kinds of bodies is an instance of `Json.decode_sorted`, with the fields that are
recovered one by one already. The birth date of an update is an instant. It is recovered if a leap
second in it ends a minute, and otherwise not, for two updates may be written alike
(`updates_written_alike`): what is decoded is always the update with its normal birth date.

That no two endpoints are written alike follows from reading them back. `Endpoint.of?` is the
inverse: the method limits the paths, the path determines the endpoint up to what the body holds,
and the body gives the rest. An identifier is whatever stands behind `/conversations/`, slashes
included; what is in it does not matter here, as no other path begins that way.

* `catalog_lossless`: a body is sent by six kinds of endpoints, it holds what they hold, and two
  endpoints with one method, path and body are equal, all of this up to leap seconds that do not end
  a minute.
* `members_update`: a field is in the body of an update if and only if it is set.
* `of?_rendered`: an endpoint is read back, as its normal one.
-/
import Mathlib.Data.List.Basic
import Rendezvous.Client.Operation
import Rendezvous.Proofs.Json.Reordered
import Rendezvous.Proofs.Wire.RoundTrip

set_option autoImplicit false

namespace Rendezvous.Service

open Credential (Storage)
open Json (Codec Field Fields)
open Web (Method Request Url)

/-! ## What a body says

A body is compared with a value by decoding it, so what is proved here is what the service receives
and not how the text was made. -/

/-- The body of a request is the text of an object with its members in the order of their names:
the tree is built from a map that keeps its keys sorted. -/
def IsSorted (body : Option String) : Prop :=
  ∃ ms : List (String × Json), body = some (Json.obj ms).text ∧ (ms.map Prod.fst).Pairwise (· < ·)

/-- The body of a request carries a value: it is the text of an object with its members in the order
of their names, and decoding it gives the value. -/
def Carries {α : Type} (codec : Codec α) (a : α) (body : Option String) : Prop :=
  ∃ ms : List (String × Json), body = some (Json.obj ms).text ∧
    (ms.map Prod.fst).Pairwise (· < ·) ∧
    codec.decode (Text.Utf8.bytes (Json.obj ms).text) = .ok a

theorem Carries.isSorted {α : Type} {codec : Codec α} {a : α} {body : Option String}
    (h : Carries codec a body) : IsSorted body := by
  obtain ⟨ms, hbody, hpairwise, -⟩ := h
  exact ⟨ms, hbody, hpairwise⟩

/-- A record whose fields are recovered, and whose values are unchanged by sorting, is carried by
its sorted text. The five kinds of bodies are instances of it. -/
theorem carries_record {α : Type} {αs : List Type} {name : String} {fs : Fields αs}
    {make : Json.Values αs → α} {parts : α → Json.Values αs} {a : α} (hnames : fs.names.Nodup)
    (hmake : make (parts a) = a) (h : fs.Recovers (parts a)) (htidy : fs.Writes Json.Tidy) :
    Carries (.record name fs make parts) a
      ((some ((Codec.record name fs make parts).toJson a).sorted).map Json.text) := by
  have hdecode : (Codec.record name fs make parts).decode
      (Text.Utf8.bytes (Json.obj (fs.members (parts a))).sorted.text) = .ok a :=
    Json.decode_sorted hnames hmake h htidy
  obtain ⟨ms, hsorted, hpairwise, -⟩ := Json.exists_sorted_members hnames htidy (parts a)
  rw [hsorted] at hdecode
  exact ⟨ms, congrArg (fun v : Json => some v.text) hsorted, hpairwise, hdecode⟩

theorem carries_credentials (c : Wire.Credentials) :
    Carries Wire.Credentials.codec c
      ((some (Wire.Credentials.codec.toJson c).sorted).map Json.text) := by
  apply carries_record
  · decide
  · rfl
  · exact ⟨Field.recovers_required (Json.recovers_text _),
      Field.recovers_required (Json.recovers_text _), trivial⟩
  · exact ⟨fun a _ => Json.tidy_str a, fun a _ => Json.tidy_str a, trivial⟩

theorem carries_renewal (r : Wire.Renewal) :
    Carries Wire.Renewal.codec r ((some (Wire.Renewal.codec.toJson r).sorted).map Json.text) := by
  apply carries_record
  · decide
  · rfl
  · exact ⟨Field.recovers_required (Json.recovers_text _), trivial⟩
  · exact ⟨fun a _ => Json.tidy_str a, trivial⟩

theorem carries_swipe (s : Wire.Swipe) :
    Carries Wire.Swipe.codec s ((some (Wire.Swipe.codec.toJson s).sorted).map Json.text) := by
  apply carries_record
  · decide
  · rfl
  · exact ⟨Field.recovers_required (Json.recovers_text _),
      Field.recovers_required (Wire.recovers_direction _), trivial⟩
  · exact ⟨fun a _ => Json.tidy_str a, fun d _ => Json.tidy_str d.name, trivial⟩

theorem carries_draft (d : Wire.Draft) :
    Carries Wire.Draft.codec d ((some (Wire.Draft.codec.toJson d).sorted).map Json.text) := by
  apply carries_record
  · decide
  · rfl
  · exact ⟨Field.recovers_required (Json.recovers_text _), trivial⟩
  · exact ⟨fun a _ => Json.tidy_str a, trivial⟩

/-! ## Updates of the profile -/

/-- The fields of an update, all of which are written only if they are set (`skip_serializing_if =
"Option::is_none"`). -/
def updateFields : Fields
    [Option String, Option String, Option Time.Timestamp, Option Wire.Gender,
      Option (List String)] :=
  .more (.ifSet "display_name" .text) <| .more (.ifSet "bio" .text) <|
    .more (.ifSet "birth_date" Wire.instant) <| .more (.ifSet "gender" Wire.Gender.codec) <|
    .more (.ifSet "interests" (.list .text)) .done

/-- An update sets the field with this name. -/
def Sets (u : Wire.ProfileUpdate) (name : String) : Prop :=
  (name, true) ∈ [("display_name", u.displayName.isSome), ("bio", u.bio.isSome),
    ("birth_date", u.birthDate.isSome), ("gender", u.gender.isSome),
    ("interests", u.interests.isSome)]

theorem mem_shown_update (u : Wire.ProfileUpdate) (name : String) :
    name ∈ updateFields.shown (u.displayName, u.bio, u.birthDate, u.gender, u.interests, ()) ↔
      Sets u name := by
  rw [updateFields, Json.mem_shown_ifSet, Json.mem_shown_ifSet, Json.mem_shown_ifSet,
    Json.mem_shown_ifSet, Json.mem_shown_ifSet]
  simp [Sets, Fields.shown, @eq_comm Bool true]

/-- The value of a member of an update is a text or a list of texts. -/
theorem writes_update {p : Json → Prop} (htext : ∀ a, p (.str a))
    (htexts : ∀ as : List String, p (.arr (as.map Json.str))) : updateFields.Writes p := by
  have hset : ∀ {α : Type} {c : Codec α} (_ : ∀ a, p (c.toJson a)) (a : Option α),
      a.isNone = false → p (c.nullable.toJson a) := by
    intro α c hc a ha
    rcases a with _ | a
    · cases ha
    · exact hc a
  exact ⟨hset fun _ => htext _, hset fun _ => htext _, hset fun _ => htext _,
    hset fun _ => htext _, hset htexts, trivial⟩

theorem tidy_update : updateFields.Writes Json.Tidy := by
  apply writes_update
  · exact Json.tidy_str
  · intro as
    apply Json.tidy_arr
    intro v hv
    obtain ⟨a, -, rfl⟩ := List.mem_map.mp hv
    exact Json.tidy_str a

/-- The body of an update carries it with its normal birth date. The birth date is the one field of
a payload that the text may change. -/
theorem carries_update (u : Wire.ProfileUpdate) :
    Carries Wire.ProfileUpdate.codec u.normal
      ((some (Wire.ProfileUpdate.codec.toJson u).sorted).map Json.text) := by
  have hleap : ∀ t ∈ u.normal.instants, t.LeapEndsMinute :=
    Wire.Kind.leapEndsMinute_normal .profileUpdate u
  rw [← Wire.toJson_profileUpdate_normal u]
  apply carries_record
  · decide
  · rfl
  · exact ⟨Field.recovers_ifSet (Wire.recovers_text_of_some _),
      Field.recovers_ifSet (Wire.recovers_text_of_some _),
      Field.recovers_ifSet (Wire.recovers_instant_of_some hleap),
      Field.recovers_ifSet (Wire.recovers_gender_of_some _),
      Field.recovers_ifSet fun as _ => ⟨Wire.recovers_texts as, nofun⟩, trivial⟩
  · exact tidy_update

/-- **A field is in the body of an update if and only if it is set**, and it is never null there. A
field that is absent tells the service to leave the profile alone in it. -/
theorem members_update (u : Wire.ProfileUpdate) :
    ∃ ms, (Endpoint.updateProfile u).body = some (.obj ms) ∧
      (∀ name, name ∈ ms.map Prod.fst ↔ Sets u name) ∧ ∀ m ∈ ms, m.2 ≠ .null := by
  obtain ⟨ms, hsorted, -, hperm⟩ := Json.exists_sorted_members (by decide) tidy_update
    (u.displayName, u.bio, u.birthDate, u.gender, u.interests, ())
  refine ⟨ms, ?_, ?_, ?_⟩
  · exact congrArg some hsorted
  · intro name
    rw [(hperm.map Prod.fst).mem_iff, Json.map_fst_members]
    exact mem_shown_update u name
  · intro m hm
    have hwrites : updateFields.Writes (· ≠ Json.null) :=
      writes_update (fun _ => nofun) (fun _ => nofun)
    exact hwrites.of_mem (hperm.mem_iff.mp hm)

/-! ## What a request says

`method`, `path` and `body` of an `Endpoint`, and what `build_request` adds to them. -/

/-- The endpoints that have a body. -/
def Endpoint.Sends : Endpoint → Prop
  | .register _ | .logIn _ | .renew _ | .updateProfile _ | .swipe _ | .send .. => True
  | .profile | .candidates _ | .matchList | .conversations | .conversation _ => False

/-- A leap second in an endpoint ends a minute. Only an update of the profile can have one, as the
birth date. -/
def Endpoint.LeapEndsMinute : Endpoint → Prop
  | .updateProfile update => ∀ t ∈ update.instants, t.LeapEndsMinute
  | _ => True

/-- The endpoint with its birth date normal, if it is an update that sets one. -/
def Endpoint.normal : Endpoint → Endpoint
  | .updateProfile update => .updateProfile update.normal
  | e => e

/-- The body that belongs to an endpoint: for the six that send something, what they send, and for
the others none. -/
def Endpoint.Conveyed : Endpoint → Option String → Prop
  | .register credentials, body | .logIn credentials, body =>
    Carries Wire.Credentials.codec credentials body
  | .renew renewal, body => Carries Wire.Renewal.codec renewal body
  | .updateProfile update, body => Carries Wire.ProfileUpdate.codec update body
  | .swipe decision, body => Carries Wire.Swipe.codec decision body
  | .send _ draft, body => Carries Wire.Draft.codec draft body
  | .profile, body | .candidates _, body | .matchList, body | .conversations, body
  | .conversation _, body => body = none

/-- The body of an endpoint carries what its normal one holds. -/
theorem conveyed_body (e : Endpoint) : e.normal.Conveyed (e.body.map Json.text) := by
  cases e with
  | register credentials => exact carries_credentials credentials
  | logIn credentials => exact carries_credentials credentials
  | renew renewal => exact carries_renewal renewal
  | updateProfile update => exact carries_update update
  | swipe decision => exact carries_swipe decision
  | send _ draft => exact carries_draft draft
  | profile => rfl
  | candidates _ => rfl
  | matchList => rfl
  | conversations => rfl
  | conversation _ => rfl

/-- There is a body exactly for the endpoints that send something, and its members are sorted, as
they come out of `to_value`. -/
theorem isSorted_body (e : Endpoint) :
    (e.Sends → IsSorted (e.body.map Json.text)) ∧ (¬e.Sends → e.body.map Json.text = none) := by
  have hbody := conveyed_body e
  cases e with
  | register credentials => exact ⟨fun _ => hbody.isSorted, absurd trivial⟩
  | logIn credentials => exact ⟨fun _ => hbody.isSorted, absurd trivial⟩
  | renew renewal => exact ⟨fun _ => hbody.isSorted, absurd trivial⟩
  | updateProfile update => exact ⟨fun _ => hbody.isSorted, absurd trivial⟩
  | swipe decision => exact ⟨fun _ => hbody.isSorted, absurd trivial⟩
  | send _ draft => exact ⟨fun _ => hbody.isSorted, absurd trivial⟩
  | profile => exact ⟨nofun, fun _ => hbody⟩
  | candidates _ => exact ⟨nofun, fun _ => hbody⟩
  | matchList => exact ⟨nofun, fun _ => hbody⟩
  | conversations => exact ⟨nofun, fun _ => hbody⟩
  | conversation _ => exact ⟨nofun, fun _ => hbody⟩

/-- An endpoint is written as a request to an address: the request has its method, and a body with
its members sorted exactly if the endpoint sends something. The body says what the normal endpoint
holds, which is the endpoint if a leap second in it ends a minute. -/
structure Endpoint.WrittenAs (e : Endpoint) (url : Url) (request : Request) : Prop where
  method_eq : request.method = e.method
  url_eq : request.url = url
  body_eq : request.body = e.body.map Json.text
  sorted_of_sends : e.Sends → IsSorted request.body
  none_of_not_sends : ¬e.Sends → request.body = none
  conveyed : e.normal.Conveyed request.body

/-- `build_request` fails only where the URL cannot be parsed; otherwise there is a request that the
endpoint is written as. -/
theorem writtenAs_request {σ : Type} [Storage σ] (c : Client σ) (e : Endpoint) :
    (∃ why, resolve c.address e = .error why ∧ (c.request e).2 = .error why) ∨
      ∃ url request, resolve c.address e = .ok url ∧ (c.request e).2 = .ok request ∧
        e.WrittenAs url request := by
  rw [Client.request]
  rcases hresolve : resolve c.address e with why | url
  · exact .inl ⟨why, rfl, rfl⟩
  · refine .inr ⟨url, requestAt url (c.token .access).2 e, rfl, rfl, ?_⟩
    exact
      { method_eq := rfl
        url_eq := rfl
        body_eq := rfl
        sorted_of_sends := (isSorted_body e).1
        none_of_not_sends := (isSorted_body e).2
        conveyed := conveyed_body e }

/-! ## Reading an endpoint back

The inverse of `Endpoint::method`, `path` and `body` together. Nothing in the program needs it; it
is here so that injectivity can be proved by giving the endpoint back. -/

/-- What the path of every conversation begins with. -/
def conversationStart : List Char := "/conversations/".toList

/-- What the path of a page of candidates begins with. -/
def candidatesStart : List Char := "/discover?limit=".toList

/-- What the path of the messages of a conversation ends with. -/
def messagesEnd : List Char := "/messages".toList

/-- The value that a body holds. -/
def payload {α : Type} (codec : Codec α) (body : Option String) : Option α :=
  body.bind fun text => (codec.decode (Text.Utf8.bytes text)).toOption

/-- The endpoint that a method, a path and a body were written for. It is what makes rendering
injective: an endpoint can be read back from the three, up to the normal birth date. -/
def Endpoint.of? : Method → String → Option String → Option Endpoint
  | .get, path, _ =>
    match path.toList.dropPrefix? conversationStart, path.toList.dropPrefix? candidatesStart with
    | some id, _ => some (.conversation (String.ofList id))
    | none, some digits => some (.candidates (.ofNat (Nat.ofDigitChars 10 digits 0)))
    | none, none =>
      if path = "/profile" then some .profile
      else if path = "/matches" then some .matchList
      else if path = "/conversations" then some .conversations
      else none
  | .put, path, body =>
    if path = "/profile" then (payload Wire.ProfileUpdate.codec body).map .updateProfile else none
  | .post, path, body =>
    match path.toList.dropPrefix? conversationStart with
    | some rest =>
      (rest.dropSuffix? messagesEnd).bind fun id =>
        (payload Wire.Draft.codec body).map (.send (String.ofList id))
    | none =>
      if path = "/auth/register" then (payload Wire.Credentials.codec body).map .register
      else if path = "/auth/login" then (payload Wire.Credentials.codec body).map .logIn
      else if path = "/auth/refresh" then (payload Wire.Renewal.codec body).map .renew
      else if path = "/swipe" then (payload Wire.Swipe.codec body).map .swipe
      else none
  | .patch, _, _ | .delete, _, _ => none

theorem payload_of_carries {α : Type} {codec : Codec α} {a : α} {body : Option String}
    (h : Carries codec a body) : payload codec body = some a := by
  obtain ⟨ms, rfl, -, hdecode⟩ := h
  rw [payload, Option.bind_some, hdecode]
  rfl

theorem dropPrefix?_conversation (id : String) :
    ("/conversations/" ++ id).toList.dropPrefix? conversationStart = some id.toList := by
  rw [String.toList_append]
  exact List.dropPrefix?_append_of_beq _ (beq_self_eq_true conversationStart)

/-- The path of a page of candidates is not that of a conversation. -/
theorem dropPrefix?_candidates (digits : List Char) :
    ("/discover?limit=" ++ String.ofList digits).toList.dropPrefix? conversationStart = none ∧
      ("/discover?limit=" ++ String.ofList digits).toList.dropPrefix? candidatesStart =
        some digits := by
  rw [String.toList_append]
  constructor
  · rfl
  · change (candidatesStart ++ (String.ofList digits).toList).dropPrefix? candidatesStart = _
    rw [String.toList_ofList]
    exact List.dropPrefix?_append_of_beq _ (beq_self_eq_true candidatesStart)

theorem dropSuffix?_messages (id : String) :
    (id ++ "/messages").toList.dropSuffix? messagesEnd = some id.toList := by
  rw [String.toList_append, List.dropSuffix?_eq_some_iff]
  exact ⟨messagesEnd, rfl, beq_self_eq_true _⟩

/-- What is posted to a path that is not that of a conversation. -/
theorem of?_post {path : String} (h : path.toList.dropPrefix? conversationStart = none)
    (body : Option String) :
    Endpoint.of? .post path body =
      if path = "/auth/register" then (payload Wire.Credentials.codec body).map .register
      else if path = "/auth/login" then (payload Wire.Credentials.codec body).map .logIn
      else if path = "/auth/refresh" then (payload Wire.Renewal.codec body).map .renew
      else if path = "/swipe" then (payload Wire.Swipe.codec body).map .swipe
      else none := by
  simp only [Endpoint.of?, h]

/-- **An endpoint can be read back** from its method, its path and its body, as its normal one. The
proof follows the endpoints: for each, the tests of `Endpoint.of?` that its path fails and the one
it passes. -/
theorem of?_rendered (e : Endpoint) :
    Endpoint.of? e.method e.path (e.body.map Json.text) = some e.normal := by
  have hbody := conveyed_body e
  cases e with
  | register credentials =>
    show Endpoint.of? .post "/auth/register" _ = _
    rw [of?_post rfl, if_pos rfl, payload_of_carries hbody]
    rfl
  | logIn credentials =>
    show Endpoint.of? .post "/auth/login" _ = _
    rw [of?_post rfl, if_neg (by decide), if_pos rfl, payload_of_carries hbody]
    rfl
  | renew renewal =>
    show Endpoint.of? .post "/auth/refresh" _ = _
    rw [of?_post rfl, if_neg (by decide), if_neg (by decide), if_pos rfl, payload_of_carries hbody]
    rfl
  | swipe decision =>
    show Endpoint.of? .post "/swipe" _ = _
    rw [of?_post rfl, if_neg (by decide), if_neg (by decide), if_neg (by decide), if_pos rfl,
      payload_of_carries hbody]
    rfl
  -- an identifier may itself end in "/messages"; only the last one is taken off
  | send id draft =>
    show Endpoint.of? .post ("/conversations/" ++ id ++ "/messages") _ = _
    rw [String.append_assoc]
    simp only [Endpoint.of?, dropPrefix?_conversation]
    rw [dropSuffix?_messages, Option.bind_some, payload_of_carries hbody, String.ofList_toList]
    rfl
  | updateProfile update =>
    show Endpoint.of? .put "/profile" _ = _
    simp only [Endpoint.of?, if_true]
    rw [payload_of_carries hbody]
    rfl
  | candidates limit =>
    show Endpoint.of? .get
      ("/discover?limit=" ++ String.ofList (Nat.toDigits 10 limit.toNat)) _ = _
    simp only [Endpoint.of?, dropPrefix?_candidates]
    rw [Nat.ofDigitChars_ten_toDigits, UInt32.ofNat_toNat]
    rfl
  | conversation id =>
    show Endpoint.of? .get ("/conversations/" ++ id) _ = _
    simp only [Endpoint.of?, dropPrefix?_conversation]
    rw [String.ofList_toList]
    rfl
  | profile => rfl
  | matchList => rfl
  | conversations => rfl

/-! ## The catalog

The whole of `Endpoint`, over all its variants and all that they can hold. -/

/-- What of a request follows from its endpoint, apart from the base address and the stored
token. -/
def Endpoint.rendered (e : Endpoint) : Method × String × Option String :=
  (e.method, e.path, e.body.map Json.text)

/-- An endpoint is its normal one if and only if a leap second in it ends a minute. -/
theorem Endpoint.normal_eq_iff {e : Endpoint} : e.normal = e ↔ e.LeapEndsMinute := by
  cases e with
  | updateProfile update =>
    have hround := Wire.Kind.normal_eq_iff (k := .profileUpdate) (v := update) trivial
    constructor
    · intro h
      exact hround.mp (Endpoint.updateProfile.inj h)
    · intro h
      exact congrArg Endpoint.updateProfile (hround.mpr h)
  | _ => exact ⟨fun _ => trivial, fun _ => rfl⟩

/-- Normal endpoints are written alike. -/
theorem Endpoint.rendered_normal (e : Endpoint) : e.normal.rendered = e.rendered := by
  cases e with
  | updateProfile update =>
    exact congrArg (fun tree : Json => (Method.put, "/profile", some tree.sorted.text))
      (Wire.toJson_profileUpdate_normal update)
  | _ => rfl

/-- **Two endpoints are written alike if and only if they are the same** up to their normal birth
dates. -/
theorem Endpoint.rendered_eq_iff {e e' : Endpoint} :
    e.rendered = e'.rendered ↔ e.normal = e'.normal := by
  constructor
  · intro h
    have hmethod : e.method = e'.method := congrArg (·.1) h
    have hpath : e.path = e'.path := congrArg (·.2.1) h
    have hbody : e.body.map Json.text = e'.body.map Json.text := congrArg (·.2.2) h
    have hread := of?_rendered e
    rw [hmethod, hpath, hbody, of?_rendered e'] at hread
    exact (Option.some.inj hread).symm
  · intro h
    rw [← e.rendered_normal, h, e'.rendered_normal]

/-- **The catalog is lossless**, but for leap seconds that do not end a minute. For every endpoint
there is a request, unless its address cannot be read. The six kinds of endpoints that send
something have a body, with its members sorted, and the others have none; the body is decoded as
what the normal endpoint holds. A field of an update is in the body if and only if it is set, and is
not null there. Endpoints with the same method, path and body have one normal endpoint, and an
endpoint is its normal one if and only if a leap second in it ends a minute. -/
theorem catalog_lossless {σ : Type} [Storage σ] (c : Client σ) :
    (∀ e : Endpoint, (∃ why, resolve c.address e = .error why ∧ (c.request e).2 = .error why) ∨
      ∃ url request, resolve c.address e = .ok url ∧ (c.request e).2 = .ok request ∧
        e.WrittenAs url request) ∧
    (∀ u : Wire.ProfileUpdate, ∃ ms, (Endpoint.updateProfile u).body = some (.obj ms) ∧
      (∀ name, name ∈ ms.map Prod.fst ↔ Sets u name) ∧ ∀ m ∈ ms, m.2 ≠ .null) ∧
    (∀ e e' : Endpoint, e.rendered = e'.rendered ↔ e.normal = e'.normal) ∧
    ∀ e : Endpoint, e.normal = e ↔ e.LeapEndsMinute :=
  ⟨writtenAs_request c, members_update, fun _ _ => Endpoint.rendered_eq_iff,
    fun _ => Endpoint.normal_eq_iff⟩

/-- Updates that set the birth date alone. -/
def birthAt (t : Time.Timestamp) : Wire.ProfileUpdate :=
  { birthDate := some t }

/-- All that is written of a birth date is its text. -/
theorem body_birthAt {t u : Time.Timestamp} (h : t.text = u.text) :
    (Endpoint.updateProfile (birthAt t)).body = (Endpoint.updateProfile (birthAt u)).body := by
  have htree (t : Time.Timestamp) : (Endpoint.updateProfile (birthAt t)).body =
      some (Json.obj [("birth_date", .str t.text)]).sorted := rfl
  rw [htree, htree, h]

/-- **Without the condition two endpoints may be written alike.** A birth date one and a half
seconds behind 12:00:30 and one at 12:00:31.5 make the same request, and what is decoded from its
body is the second one. -/
theorem updates_written_alike :
    (Endpoint.updateProfile (birthAt .pastHalfMinute)).rendered =
        (Endpoint.updateProfile (birthAt .nextHalfSecond)).rendered ∧
      Endpoint.updateProfile (birthAt .pastHalfMinute) ≠
        Endpoint.updateProfile (birthAt .nextHalfSecond) ∧
      ¬Carries Wire.ProfileUpdate.codec (birthAt .pastHalfMinute)
        ((Endpoint.updateProfile (birthAt .pastHalfMinute)).body.map Json.text) := by
  obtain ⟨htext, hne⟩ := Time.Timestamp.text_pastHalfMinute
  have hbody := body_birthAt htext
  have hnormal : (birthAt .nextHalfSecond).normal = birthAt .nextHalfSecond := rfl
  have hbirth : birthAt .pastHalfMinute ≠ birthAt .nextHalfSecond := by
    intro h
    exact hne (Option.some.inj (congrArg Wire.ProfileUpdate.birthDate h))
  refine ⟨?_, ?_, ?_⟩
  · exact congrArg (fun body => (Method.put, "/profile", body.map Json.text)) hbody
  · intro h
    exact hbirth (Endpoint.updateProfile.inj h)
  · intro h
    -- the one body would say both
    rw [hbody] at h
    have hread := payload_of_carries h
    have hread' := payload_of_carries (carries_update (birthAt .nextHalfSecond))
    rw [hnormal] at hread'
    exact hbirth (Option.some.inj (hread.symm.trans hread'))

end Rendezvous.Service
