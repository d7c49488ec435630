/-
What `ApiClient::resolve` makes of a base address and an endpoint.

The URL of an endpoint is made as a text: the slashes at the end of the base are trimmed, the path
of the endpoint, which begins with one, is appended, and the whole is parsed by `Url::parse`. Its
comment promises that the path prefix of the base is kept. Where the base is an origin and ordinary
segments, and the identifier in the endpoint is ordinary too, the outcome is the same as appending
segments to segments (`resolve_eq_below`). However many slashes the base ended with, none is left to
make an empty segment, and no segment of the endpoint removes one of the base.

That "ordinary" cannot be left out for the identifier is the subject of `conversation_route_iff`.
-/
import Rendezvous.Proofs.Text.Blank
import Rendezvous.Proofs.Web.Ordinary
import Rendezvous.Service.Endpoint

set_option autoImplicit false

namespace Rendezvous.Service

open Web (Url WebScheme IsSegment IsLabel isSolid codedInSpecialQuery slashed marked)

/-! ## The paths of endpoints -/

namespace Endpoint

/-- The conversation that an endpoint names. It is the only free text in a path. -/
def conversationId? : Endpoint → Option String
  | conversation id | send id _ => some id
  | _ => none

/-- How many candidates an endpoint asks for. -/
def limit? : Endpoint → Option UInt32
  | candidates limit => some limit
  | _ => none

/-- The segments of the path of an endpoint, as `Endpoint::path` joins them with slashes. An
identifier counts as one segment here, which holds for the plain ones. -/
def segments : Endpoint → List (List Char)
  | register _ => ["auth".toList, "register".toList]
  | logIn _ => ["auth".toList, "login".toList]
  | renew _ => ["auth".toList, "refresh".toList]
  | profile | updateProfile _ => ["profile".toList]
  | candidates _ => ["discover".toList]
  | swipe _ => ["swipe".toList]
  | matchList => ["matches".toList]
  | conversations => ["conversations".toList]
  | conversation id => ["conversations".toList, id.toList]
  | send id _ => ["conversations".toList, id.toList, "messages".toList]

/-- The query of an endpoint. Only a page of candidates has one. -/
def query (e : Endpoint) : Option (List Char) :=
  e.limit?.map fun limit => "limit=".toList ++ Nat.toDigits 10 limit.toNat

theorem segments_ne_nil (e : Endpoint) : e.segments ≠ [] := by
  cases e with
  | register _ | logIn _ | renew _ | profile | updateProfile _ | candidates _ | swipe _
  | matchList | conversations | conversation _ | send _ _ => exact List.cons_ne_nil _ _

/-- **The text of a path is its segments**, with the query behind them if there is one.
`Endpoint::path` puts the text together; the segments are what the URL has to show in the end. -/
theorem toList_path (e : Endpoint) : e.path.toList = slashed e.segments ++ marked '?' e.query := by
  cases e with
  | candidates limit => exact toList_path_candidates limit
  | conversation id =>
    have hslashed : slashed (conversation id).segments =
        "/conversations/".toList ++ (id.toList ++ []) := rfl
    rw [toList_path_conversation, hslashed, List.append_nil]
    exact (List.append_nil _).symm
  | send id draft =>
    rw [toList_path_send]
    exact (List.append_nil _).symm
  | register _ | logIn _ | renew _ | profile | updateProfile _ | swipe _ | matchList
  | conversations =>
    -- the text is computed, so the endpoint must be gone from it first
    delta path
    dsimp only
    rfl

/-- The segments of a path are ordinary if the identifier among them is: the others are fixed
names. -/
theorem isSegment_of_mem {e : Endpoint} (h : ∀ id ∈ e.conversationId?, IsSegment id.toList) :
    ∀ s ∈ e.segments, IsSegment s := by
  cases e with
  | conversation id =>
    rw [segments, List.forall_mem_cons, List.forall_mem_singleton]
    exact ⟨by decide, h id rfl⟩
  | send id draft =>
    rw [segments, List.forall_mem_cons, List.forall_mem_cons, List.forall_mem_singleton]
    exact ⟨by decide, h id rfl, by decide⟩
  | register _ | logIn _ | renew _ | profile | updateProfile _ | candidates _ | swipe _
  | matchList | conversations =>
    rw [segments]
    decide

/-- No character of a query is encoded, or ends it. The only query is that of a page, and its limit
is written in digits. -/
theorem isSolid_query (e : Endpoint) :
    ∀ q ∈ e.query, ∀ c ∈ q, isSolid c = true ∧ codedInSpecialQuery c = false := by
  intro q hq c hc
  obtain ⟨limit, -, rfl⟩ := Option.map_eq_some_iff.mp hq
  rcases List.mem_append.mp hc with hc | hc
  · have hname : ∀ c ∈ "limit=".toList, isSolid c = true ∧ codedInSpecialQuery c = false := by
      decide
    exact hname c hc
  · have hdigit := Nat.isDigit_of_mem_toDigits (by decide) (by decide) hc
    have hunreserved := Web.isUnreserved_of_isDigit hdigit
    exact ⟨Web.isSolid_of_isUnreserved hunreserved,
      Web.codedInSpecialQuery_of_isUnreserved hunreserved⟩

/-- The segments are what stands in front of the query. -/
theorem takeWhile_path {e : Endpoint} (h : ∀ id ∈ e.conversationId?, IsSegment id.toList) :
    e.path.toList.takeWhile (· != '?') = slashed e.segments := by
  have hfront : ∀ c ∈ slashed e.segments, (c != '?') = true := by
    intro c hc
    rw [bne_iff_ne]
    exact (Web.isSolid_iff.mp (Web.isSolid_slashed (isSegment_of_mem h) c hc)).2.1
  rw [toList_path, List.takeWhile_append_of_pos hfront]
  cases e.query with
  | none => exact List.append_nil _
  | some q => exact List.append_nil _

end Endpoint

/-! ## Addresses of the service

The base address may be given by the person who starts the program, so it is described by its
grammar and not by the three deployments. -/

/-- A base address as it may be written: an origin, segments, and any number of slashes at the
end. -/
structure Base extends Web.Origin where
  segments : List (List Char)
  slashes : Nat
  isSegment : ∀ s ∈ segments, IsSegment s

namespace Base

def text (b : Base) : String :=
  String.ofList (b.toOrigin.text ++ slashed b.segments ++ List.replicate b.slashes '/')

/-- The URL of an endpoint below a base, made by appending segments instead of texts. -/
def below (b : Base) (e : Endpoint) : Url where
  scheme := b.scheme.name
  authority := some b.authority
  path := .segments (b.segments ++ e.segments)
  query := e.query
  fragment := none

end Base

/-! ## Reading -/

/-- The slashes at the end are trimmed, and nothing else. The part in front of them must not be
empty or contain a slash itself, or more would be trimmed. -/
theorem withoutEndSlashes_append {part : List Char} (hne : part ≠ []) (h : '/' ∉ part)
    (front : List Char) (n : Nat) :
    withoutEndSlashes (front ++ part ++ List.replicate n '/') = front ++ part := by
  apply Text.reverse_dropWhile_append
  · intro c hc
    rw [List.eq_of_mem_replicate hc, beq_self_eq_true]
  · intro c hc
    rw [List.getLast?_append, List.getLast?_eq_some_getLast hne, Option.some_or,
      ← List.getLast?_eq_some_getLast hne] at hc
    rw [beq_eq_false_iff_ne]
    rintro rfl
    exact h (List.mem_of_getLast? hc)

theorem withoutEndSlashes_text (b : Base) :
    withoutEndSlashes b.text.toList = b.toOrigin.text ++ slashed b.segments := by
  rw [Base.text, String.toList_ofList]
  rcases List.eq_nil_or_concat b.segments with hnil | ⟨init, last, hlast⟩
  · -- the host or the port stands at the end
    have htext : b.toOrigin.text ++ slashed b.segments =
        b.scheme.name.toList ++ [':', '/', '/'] ++ b.who := by
      have hnothing : slashed b.segments = [] := by
        rw [hnil]
        rfl
      rw [hnothing, List.append_nil, List.append_assoc]
      rfl
    rw [htext]
    apply withoutEndSlashes_append b.who_ne_nil
    intro hmem
    exact absurd ((b.isSolid_who hmem).2 80) (by decide)
  · rw [List.concat_eq_append] at hlast
    have hsegment : IsSegment last := by
      apply b.isSegment
      rw [hlast]
      exact List.mem_append_right init List.mem_cons_self
    have htext : b.toOrigin.text ++ slashed b.segments =
        b.toOrigin.text ++ (slashed init ++ ['/']) ++ last := by
      rw [hlast, slashed, List.flatMap_append, List.flatMap_singleton,
        ← slashed, List.append_assoc, List.append_assoc]
      rfl
    rw [htext]
    exact withoutEndSlashes_append hsegment.nonempty (hsegment.not_mem (by decide)) _ _

/-- **An endpoint is resolved below its base**: parsing the joined text gives what appending
segments gives. -/
theorem resolve_eq_below (b : Base) {e : Endpoint}
    (h : ∀ id ∈ e.conversationId?, IsSegment id.toList) : resolve b.text e = .ok (b.below e) := by
  have htext : (addressText b.text e).toList =
      b.toOrigin.text ++ (slashed (b.segments ++ e.segments) ++ marked '?' e.query) := by
    rw [addressText, String.toList_ofList, withoutEndSlashes_text, e.toList_path, slashed,
      slashed, slashed, List.flatMap_append, List.append_assoc, List.append_assoc]
  have hsegments : ∀ s ∈ b.segments ++ e.segments, IsSegment s := by
    intro s hs
    rcases List.mem_append.mp hs with hs | hs
    · exact b.isSegment s hs
    · exact Endpoint.isSegment_of_mem h s hs
  have hne : b.segments ++ e.segments ≠ [] :=
    List.append_ne_nil_of_right_ne_nil _ e.segments_ne_nil
  rw [resolve, htext, b.parse_text hne hsegments e.isSolid_query]
  rfl

/-- **Origin and path of the base are kept.** Below a base of an origin, ordinary segments and any
number of slashes, every endpoint whose identifier is ordinary has a URL. It has the scheme, the
host and the port of the base, except that the default port of the scheme is left out; its path is
the path of the base with the one of the endpoint behind it; its query is that of the endpoint, and
it has no fragment. -/
theorem resolve_keeps_base (b : Base) (e : Endpoint)
    (h : ∀ id ∈ e.conversationId?, IsSegment id.toList) :
    ∃ url, resolve b.text e = .ok url ∧
      url.scheme = b.scheme.name ∧
      url.authority = some ⟨[], [], .domain b.host, b.keptPort⟩ ∧
      url.path.text = slashed b.segments ++ e.path.toList.takeWhile (· != '?') ∧
      url.query = e.limit?.map (fun limit => "limit=".toList ++ Nat.toDigits 10 limit.toNat) ∧
      url.fragment = none := by
  refine ⟨b.below e, resolve_eq_below b h, rfl, rfl, ?_, rfl, rfl⟩
  rw [Endpoint.takeWhile_path h]
  exact List.flatMap_append

/-- A port that is not the default is kept, and slashes at the end make no difference. The base has
a prefix of two segments and two slashes, which is where a plain join would go wrong. -/
theorem resolve_keeps_base_port : ∃ b : Base,
    b.text = "https://api.zoekdeware.app:8443/api/v1//" ∧
      ∃ url, resolve b.text (.conversation "c42") = .ok url ∧
        url.text = "https://api.zoekdeware.app:8443/api/v1/conversations/c42" := by
  refine ⟨
    { scheme := .https
      labels := ["api".toList, "zoekdeware".toList, "app".toList]
      port := some "8443".toList
      labels_ne_nil := by decide
      isLabel := by decide
      isPort := by rintro _ ⟨⟩; decide
      segments := ["api".toList, "v1".toList]
      slashes := 2
      isSegment := by decide }, ?_, ?_⟩
  · apply String.toList_inj.mp
    rw [Base.text, String.toList_ofList]
    rfl
  · -- the scheme and the authority come from the base, so only the path has to be evaluated
    obtain ⟨url, hresolve, hscheme, hauthority, hpath, hquery, hfragment⟩ :=
      resolve_keeps_base _ (.conversation "c42") (by rintro _ ⟨⟩; decide)
    refine ⟨url, hresolve, ?_⟩
    have hpath' : url.path.text = "/api/v1/conversations/c42".toList := by
      rw [hpath]
      rfl
    rw [Url.text, hscheme, hauthority, hpath', hquery, hfragment]
    rfl

end Rendezvous.Service
