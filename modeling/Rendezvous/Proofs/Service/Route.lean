/-
Where the identifier of a conversation leads.

`Endpoint::path` splices the identifier into the path as it is, and `ApiClient::resolve` parses the
whole text as a URL. So the identifier is parsed with it: a slash in it makes two segments of it,
dot segments disappear and take the segment before with them, a question mark ends the path, and a
percent code in it is decoded by the service. What cannot happen is that it reaches back over the
host: scheme, host and port are those of the deployment whatever the identifier is.

The identifiers that stay in their route are the plain ones, and no others
(`conversation_route_iff`). That the plain ones stay is proved by following the parser. That no
others do is proved by counting: each segment that is left is an encoded piece of the path, decoding
does not make it longer, and the identifier is at least as long as any piece of what is parsed of
it. So if a segment is decoded as the identifier, nothing of the identifier has been lost.
-/
import Rendezvous.Proofs.Web.Address
import Rendezvous.Service.Endpoint
import Rendezvous.Service.Environment

set_option autoImplicit false

namespace Rendezvous.Service

open Text (Utf8.encode)
open Web (Url PathRules percentEncode percentDecode codedInPath CodeFree Keeps isNameChar
  isOuterBlank isInnerBlank isSolid readable splitMark)

/-! ## Below the address of a deployment

The three base addresses of `Environment`. All of them have the form of `exists_address_eq`, and
nothing else of them is used. -/

/-- A deployment has a web scheme, a host name, and the path `/api/v1`. The three environments are
looked at here once, and nowhere else. -/
theorem exists_address_eq (env : Environment) :
    ∃ scheme port who, Web.schemeKind scheme = .web port ∧ Web.IsName who ∧
      env.address.toList =
        scheme.toList ++ ':' :: '/' :: '/' :: (who ++ '/' :: "api/v1".toList) := by
  cases env with
  | development =>
    exact ⟨"http", 80, "localhost".toList, rfl, ⟨by decide, by decide, by decide, by decide⟩, rfl⟩
  | staging =>
    exact ⟨"https", 443, "staging-api.zoekdeware.app".toList, rfl,
      ⟨by decide, by decide, by decide, by decide⟩, rfl⟩
  | production =>
    exact ⟨"https", 443, "api.zoekdeware.app".toList, rfl,
      ⟨by decide, by decide, by decide, by decide⟩, rfl⟩

theorem withoutEndSlashes_address (env : Environment) :
    withoutEndSlashes env.address.toList = env.address.toList := by
  cases env with
  | development => rfl
  | staging => rfl
  | production => rfl

/-- The URL of a deployment itself. -/
def IsHome (env : Environment) (home : Url) : Prop :=
  Url.parse env.address.toList = .ok home

/-- **Every endpoint is below its deployment.** Scheme, host and port are those of the deployment;
what the endpoint determines are the path, the query and the fragment. -/
theorem exists_resolve_eq (env : Environment) : ∃ home, IsHome env home ∧
    ∀ {e : Endpoint} {path tail : List Char}, e.path.toList = '/' :: (path ++ tail) →
      (∀ c ∈ path, isSolid c = true) →
      resolve env.address e = .ok
        { home with
          path := .segments (PathRules.web.resolved ("api/v1/".toList ++ path ++
            (splitMark '?' (splitMark '#' (readable tail)).1).1))
          query := (splitMark '?' (splitMark '#' (readable tail)).1).2.map
            (percentEncode Web.codedInSpecialQuery)
          fragment := (splitMark '#' (readable tail)).2.map
            (percentEncode Web.codedInFragment) } := by
  obtain ⟨scheme, port, who, hscheme, hname, haddress⟩ := exists_address_eq env
  -- no character of the host name ends the authority, so the identifier is in the path
  have hwho : ∀ c ∈ who, isSolid c = true ∧ Web.endsAuthority (.web port) c = false := by
    intro c hc
    have hchar := hname.chars c hc
    have hbounds := Web.toNat_of_isNameChar hchar
    constructor
    · rw [Web.isSolid_iff, Web.isOuterBlank, decide_eq_false_iff_not]
      exact ⟨by omega, Web.ne_of_isNameChar hchar (by decide),
        Web.ne_of_isNameChar hchar (by decide)⟩
    · rw [Web.endsAuthority, Bool.or_eq_false_iff, Bool.and_eq_false_iff, beq_eq_false_iff_ne,
        beq_eq_false_iff_ne]
      exact ⟨Web.ne_of_isNameChar hchar (by decide), .inr (Web.ne_of_isNameChar hchar (by decide))⟩
  have hparse := @Web.parse_web scheme port hscheme who _ hname.nonempty hwho
    (Web.readAuthority_name hname port)
  refine ⟨⟨scheme, some ⟨[], [], .domain who, none⟩, .segments ["api".toList, "v1".toList], none,
    none⟩, ?_, ?_⟩
  · rw [IsHome, haddress]
    exact @hparse "api/v1".toList (by decide) []
  · intro e path tail hpath hsolid
    have htext : (addressText env.address e).toList = scheme.toList ++ ':' :: '/' :: '/' ::
        (who ++ '/' :: (("api/v1/".toList ++ path) ++ tail)) := by
      rw [addressText, String.toList_ofList, withoutEndSlashes_address, haddress, hpath]
      simp
    have hbegin : ∀ c ∈ "api/v1/".toList, isSolid c = true := by decide
    rw [resolve, htext, hparse]
    intro c hc
    rcases List.mem_append.mp hc with hc | hc
    · exact hbegin c hc
    · exact hsolid c hc

/-! ## Plain identifiers -/

/-- An identifier of which nothing is lost in a URL: it has no character that ends a segment or the
path, or that the parser drops, no percent code, and is not made of one dot or two. -/
structure Plain (id : String) : Prop where
  chars : ∀ c ∈ id.toList, c ∉ ['/', '\\', '?', '#', '\t', '\n', '\r']
  codeFree : CodeFree id.toList
  notDot : id ≠ "."
  notDots : id ≠ ".."

theorem Plain.not_mem {id : String} (h : Plain id) {c : Char}
    (hc : c ∈ ['/', '\\', '?', '#', '\t', '\n', '\r']) : c ∉ id.toList :=
  fun hmem => h.chars c hmem hc

theorem Plain.not_separates {id : String} (h : Plain id) :
    ∀ c ∈ id.toList, PathRules.web.separates c = false := by
  intro c hc
  rw [← Bool.not_eq_true]
  intro hseparates
  rw [PathRules.separates, Bool.or_eq_true, Bool.and_eq_true, beq_iff_eq, beq_iff_eq] at hseparates
  rcases hseparates with rfl | ⟨-, rfl⟩
  · exact h.not_mem (by decide) hc
  · exact h.not_mem (by decide) hc

theorem Plain.not_isInnerBlank {id : String} (h : Plain id) :
    ∀ c ∈ id.toList, isInnerBlank c = false := by
  intro c hc
  rw [← Bool.not_eq_true]
  intro hinner
  rw [isInnerBlank, Bool.or_eq_true, Bool.or_eq_true, beq_iff_eq, beq_iff_eq, beq_iff_eq] at hinner
  rcases hinner with (rfl | rfl) | rfl
  · exact h.not_mem (by decide) hc
  · exact h.not_mem (by decide) hc
  · exact h.not_mem (by decide) hc

/-- The identifier does not end in a blank, which the parser would drop where it ends the URL. -/
def EndsVisibly (id : String) : Prop :=
  ∀ c, id.toList.getLast? = some c → isOuterBlank c = false

/-- The URL has the identifier in its place: behind `conversations`, as one segment that is decoded
as the identifier, with nothing behind it but these segments. -/
structure InRoute (url : Url) (id : String) (behind : List (List Char)) : Prop where
  query : url.query = none
  fragment : url.fragment = none
  path : ∃ segment, url.path =
      .segments (["api".toList, "v1".toList, "conversations".toList, segment] ++ behind) ∧
    '/' ∉ segment ∧ percentDecode segment = Text.Utf8.bytes id

/-- The URL is at the deployment: scheme, host and port are its own. -/
def AtHome (env : Environment) (url : Url) : Prop :=
  ∃ home, IsHome env home ∧ url.scheme = home.scheme ∧ url.authority = home.authority

/-- A name of letters, digits and hyphens is plain, so the condition on identifiers is met by all
that have the usual form. -/
theorem plain_name {id : String} (h : ∀ c ∈ id.toList, isNameChar c = true ∧ c ≠ '.') :
    Plain id ∧ EndsVisibly id := by
  have hother : ∀ c ∈ id.toList, ∀ d, isNameChar d = false → c ≠ d := fun c hc d hd =>
    Web.ne_of_isNameChar (h c hc).1 hd
  -- no separator, no percent code, neither of the dot segments, and no blank at the end
  refine ⟨⟨?_, ?_, ?_, ?_⟩, ?_⟩
  · intro c hc hmem
    have hlist : ∀ d ∈ ['/', '\\', '?', '#', '\t', '\n', '\r'], isNameChar d = false := by decide
    exact hother c hc c (hlist c hmem) rfl
  · apply Web.codeFree_of_not_mem
    intro hmem
    exact hother '%' hmem '%' (by decide) rfl
  · rintro rfl
    exact (h '.' (by decide)).2 rfl
  · rintro rfl
    exact (h '.' (by decide)).2 rfl
  · intro c hc
    have hbounds := Web.toNat_of_isNameChar (h c (List.mem_of_getLast? hc)).1
    rw [isOuterBlank, decide_eq_false_iff_not]
    omega

theorem plain_empty : Plain "" ∧ EndsVisibly "" :=
  plain_name nofun

/-- A piece of what is parsed of an identifier is decoded as the identifier only if it is the
identifier. It is the counting argument: encoding and decoding cannot make up for a character that
was dropped. -/
theorem eq_of_percentDecode_piece {id kept piece : List Char} (hkept : kept.Sublist id)
    (hpiece : piece ∈ PathRules.web.split kept) (hdecode : percentDecode piece = Utf8.encode id) :
    piece = id ∧ kept = id := by
  have hsublist : piece.Sublist id := (PathRules.sublist_of_mem_split hpiece).1.trans hkept
  have hpieceId : piece = id := by
    rcases Text.Utf8.eq_or_length_encode_lt hsublist with heq | hlt
    · exact heq
    · exfalso
      have hle := Web.length_percentDecode_le piece
      rw [hdecode] at hle
      omega
  refine ⟨hpieceId, ?_⟩
  subst hpieceId
  exact hkept.eq_of_length_le (PathRules.sublist_of_mem_split hpiece).1.length_le

/-- **Only a plain identifier is a piece of what is parsed of it.** Blanks may have been cut away, a
query split off, or the text cut at a slash; if a piece still decodes to the whole, none of this has
happened. -/
theorem plain_of_piece {id : String} {kept piece : List Char} (hkept : kept.Sublist id.toList)
    (hquestion : '?' ∉ kept) (hhash : '#' ∉ kept) (hinner : ∀ c ∈ kept, isInnerBlank c = false)
    (hpiece : piece ∈ PathRules.web.split kept) (hkeeps : Keeps (percentEncode codedInPath piece))
    (hdecode : percentDecode (percentEncode codedInPath piece) = Text.Utf8.bytes id) :
    Plain id ∧ kept = id.toList := by
  rw [Web.percentDecode_percentEncode Web.sparesCodes_path] at hdecode
  -- the piece decodes to the whole id, so nothing of it was cut away before or beside the piece
  obtain ⟨hid, hall⟩ := eq_of_percentDecode_piece hkept hpiece hdecode
  have hseparates := (PathRules.sublist_of_mem_split hpiece).2
  rw [hid] at hseparates hdecode hkeeps
  rw [hall] at hquestion hhash hinner
  have hcodeFree : CodeFree id.toList := (Web.percentDecode_eq_encode_iff _).mp hdecode
  -- without percent codes, a segment is dropped only if it is spelled with plain dots
  obtain ⟨hdot, hdots⟩ := (Web.keeps_percentEncode_iff hcodeFree).mp hkeeps
  refine ⟨⟨?_, hcodeFree, ?_, ?_⟩, hall⟩
  · intro c hc hmem
    have hslash := hseparates c hc
    have hblank := hinner c hc
    simp only [List.mem_cons, List.not_mem_nil, or_false] at hmem
    rcases hmem with rfl | rfl | rfl | rfl | rfl | rfl | rfl
    · cases hslash
    · cases hslash
    · exact hquestion hc
    · exact hhash hc
    · cases hblank
    · cases hblank
    · cases hblank
  · rintro rfl
    exact hdot rfl
  · rintro rfl
    exact hdots rfl

/-! ## The routes of a conversation

`Endpoint::Conversation` ends with the identifier and `Endpoint::Send` has `/messages` behind it.
Both are `routeAt` with their own tail, so one proof in each direction serves both. -/

/-- The names in the path of a conversation and of its messages. -/
def routeNames : List (List Char) :=
  ["api".toList, "v1".toList, "conversations".toList, "messages".toList]

/-- One of the names may be the identifier itself: `messages` is a plain identifier too, so a match
with a fixed segment does not yet contradict anything. -/
theorem plain_of_routeName {id : String} {piece : List Char} (hpiece : piece ∈ routeNames)
    (hdecode : percentDecode (percentEncode codedInPath piece) = Text.Utf8.bytes id) :
    Plain id ∧ EndsVisibly id := by
  have hnames : ∀ name ∈ routeNames, ∀ c ∈ name, isNameChar c = true ∧ c ≠ '.' := by decide
  have hid : piece = id.toList := by
    apply Text.Utf8.encode_injective
    rw [Web.percentDecode_percentEncode Web.sparesCodes_path] at hdecode
    rw [← Text.Utf8.bytes, ← hdecode]
    symm
    rw [Web.percentDecode_eq_encode_iff]
    apply Web.codeFree_of_not_mem
    intro hmem
    exact Web.ne_of_isNameChar (hnames piece hpiece _ hmem).1 (by decide) rfl
  apply plain_name
  rw [← hid]
  exact hnames piece hpiece

theorem split_route (text : List Char) :
    PathRules.web.split ("api/v1/".toList ++ "conversations/".toList ++ text) =
      "api".toList :: "v1".toList :: "conversations".toList :: PathRules.web.split text := rfl

theorem path_conversation (id : String) :
    (Endpoint.conversation id).path.toList = '/' :: ("conversations/".toList ++ id.toList) :=
  Endpoint.toList_path_conversation id

theorem path_send (id : String) (draft : Wire.Draft) :
    (Endpoint.send id draft).path.toList =
      '/' :: ("conversations/".toList ++ (id.toList ++ "/messages".toList)) :=
  Endpoint.toList_path_send id draft

/-- The URL of an endpoint whose path begins with `/conversations/`. -/
def routeAt (home : Url) (tail : List Char) : Url :=
  { home with
    path := .segments (PathRules.web.resolved ("api/v1/".toList ++ "conversations/".toList ++
      (splitMark '?' (splitMark '#' (readable tail)).1).1))
    query := (splitMark '?' (splitMark '#' (readable tail)).1).2.map
      (percentEncode Web.codedInSpecialQuery)
    fragment := (splitMark '#' (readable tail)).2.map (percentEncode Web.codedInFragment) }

/-- An identifier that is in its route has neither a query nor a fragment behind it, and is decoded
from a piece of the path. -/
theorem exists_piece_of_inRoute {home : Url} {tail : List Char} {id : String} (hid : id ≠ "")
    {behind : List (List Char)} (h : InRoute (routeAt home tail) id behind) :
    '#' ∉ readable tail ∧ '?' ∉ readable tail ∧
      ∃ piece, (piece ∈ routeNames ∨ piece ∈ PathRules.web.split (readable tail)) ∧
        Keeps (percentEncode codedInPath piece) ∧
        percentDecode (percentEncode codedInPath piece) = Text.Utf8.bytes id := by
  obtain ⟨hfront, hhash⟩ := Web.splitMark_eq_none (Option.map_eq_none_iff.mp h.fragment)
  have hquery := h.query
  obtain ⟨segment, hpath, -, hdecode⟩ := h.path
  rw [routeAt] at hquery hpath
  dsimp only at hquery hpath
  rw [hfront] at hquery hpath
  obtain ⟨hwhole, hquestion⟩ := Web.splitMark_eq_none (Option.map_eq_none_iff.mp hquery)
  rw [hwhole] at hpath
  refine ⟨hhash, hquestion, ?_⟩
  have hmem : segment ∈ PathRules.web.resolved
      ("api/v1/".toList ++ "conversations/".toList ++ readable tail) := by
    rw [Web.Path.segments.inj hpath]
    simp
  rcases PathRules.mem_resolved hmem with rfl | ⟨piece, hpiece, rfl, hkeeps⟩
  · -- an empty segment is decoded as nothing
    exfalso
    apply hid
    rw [percentDecode] at hdecode
    exact String.toList_inj.mp (Text.Utf8.encode_injective hdecode.symm)
  · refine ⟨piece, ?_, hkeeps, hdecode⟩
    rw [split_route, List.mem_cons, List.mem_cons, List.mem_cons] at hpiece
    rcases hpiece with rfl | rfl | rfl | hpiece
    · exact .inl (by decide)
    · exact .inl (by decide)
    · exact .inl (by decide)
    · exact .inr hpiece

/-- **A plain identifier is in its route**, if nothing of it is lost at the end of the URL. The
parser is followed step by step: no mark is found, no segment is a dot segment, and the segment is
decoded as the identifier. -/
theorem inRoute_of_plain {home : Url} {tail : List Char} {id : String} (h : Plain id)
    (rest : List Char) (hread : readable tail = id.toList ++ rest) {behind : List (List Char)}
    (hsplit : PathRules.web.split (id.toList ++ rest) = id.toList :: behind)
    (hbehind : ∀ name ∈ behind, name ∈ routeNames) (hrest : '#' ∉ rest ∧ '?' ∉ rest) :
    InRoute (routeAt home tail) id behind := by
  have hnames : ∀ name ∈ routeNames, Keeps (percentEncode codedInPath name) ∧
      percentEncode codedInPath name = name := by decide
  have hhash : splitMark '#' (readable tail) = (id.toList ++ rest, none) := by
    rw [hread]
    apply Web.splitMark_of_not_mem
    rw [List.mem_append, not_or]
    exact ⟨h.not_mem (by decide), hrest.1⟩
  have hquestion : splitMark '?' (id.toList ++ rest) = (id.toList ++ rest, none) := by
    apply Web.splitMark_of_not_mem
    rw [List.mem_append, not_or]
    exact ⟨h.not_mem (by decide), hrest.2⟩
  have hkeeps : Keeps (percentEncode codedInPath id.toList) := by
    rw [Web.keeps_percentEncode_iff h.codeFree]
    exact ⟨fun heq => h.notDot (String.toList_inj.mp heq),
      fun heq => h.notDots (String.toList_inj.mp heq)⟩
  -- every segment is kept, so the path is what it was split into
  have hresolved : PathRules.web.resolved
      ("api/v1/".toList ++ "conversations/".toList ++ (id.toList ++ rest)) =
      ["api".toList, "v1".toList, "conversations".toList,
        percentEncode codedInPath id.toList] ++ behind := by
    rw [PathRules.resolved_of_forall, split_route, hsplit]
    · rw [List.map_cons, List.map_cons, List.map_cons, List.map_cons,
        List.map_congr_left fun name hname => (hnames name (hbehind name hname)).2, List.map_id']
      rfl
    · intro piece hpiece
      rw [split_route, hsplit, List.mem_cons, List.mem_cons, List.mem_cons, List.mem_cons] at hpiece
      rcases hpiece with rfl | rfl | rfl | rfl | hpiece
      · decide
      · decide
      · decide
      · exact hkeeps
      · exact (hnames piece (hbehind piece hpiece)).1
  rw [routeAt, hhash]
  dsimp only
  rw [hquestion]
  refine ⟨rfl, rfl, percentEncode codedInPath id.toList, ?_, ?_, ?_⟩
  · exact congrArg Web.Path.segments hresolved
  · intro hmem
    rcases Web.mem_percentEncode hmem with hmem | hmem | hmem
    · exact h.not_mem (by decide) hmem
    · cases hmem
    · exact hmem (by decide)
  · rw [Web.percentDecode_percentEncode Web.sparesCodes_path,
      (Web.percentDecode_eq_encode_iff _).mpr h.codeFree, Text.Utf8.bytes]

/-- **Which identifiers a transcript is asked for by.** The last character counts as well here,
because nothing follows the identifier and the URL parser trims the end of its input. -/
theorem inRoute_conversation_iff (home : Url) (id : String) :
    InRoute (routeAt home id.toList) id [] ↔ Plain id ∧ EndsVisibly id := by
  constructor
  · intro h
    by_cases hid : id = ""
    · subst hid
      exact plain_empty
    · obtain ⟨hhash, hquestion, piece, hpiece | hpiece, hkeeps, hdecode⟩ :=
        exists_piece_of_inRoute hid h
      · exact plain_of_routeName hpiece hdecode
      · obtain ⟨hplain, hall⟩ := plain_of_piece (Web.readable_sublist id.toList) hquestion hhash
          (fun c hc => Web.not_isInnerBlank_of_mem_filter hc) hpiece hkeeps hdecode
        refine ⟨hplain, ?_⟩
        intro c hlast
        -- a blank at the end would have been lost
        rw [← Bool.not_eq_true]
        intro hblank
        obtain ⟨front, hfront⟩ := List.getLast?_eq_some_iff.mp hlast
        rw [hfront, Web.readable_concat hblank] at hall
        have hlength := (Web.readable_sublist front).length_le
        rw [hall, List.length_append, List.length_singleton] at hlength
        omega
  · rintro ⟨hplain, hvisible⟩
    apply inRoute_of_plain hplain []
    · rw [List.append_nil]
      exact Web.readable_eq_self hplain.not_isInnerBlank hvisible
    · rw [List.append_nil]
      exact PathRules.split_of_forall hplain.not_separates
    · exact nofun
    · exact ⟨nofun, nofun⟩

/-- **Which identifiers a message is sent to.** Blanks at the end do not matter here, for
`/messages` follows. -/
theorem inRoute_send_iff (home : Url) (id : String) :
    InRoute (routeAt home (id.toList ++ "/messages".toList)) id ["messages".toList] ↔ Plain id := by
  have hread : readable (id.toList ++ "/messages".toList) =
      id.toList.filter (!isInnerBlank ·) ++ '/' :: "messages".toList :=
    Web.readable_append (by decide) (by decide) id.toList
  constructor
  · intro h
    by_cases hid : id = ""
    · subst hid
      exact plain_empty.1
    · obtain ⟨hhash, hquestion, piece, hpiece, hkeeps, hdecode⟩ := exists_piece_of_inRoute hid h
      rw [hread, List.mem_append, not_or] at hhash hquestion
      -- the piece is one of the fixed names, or comes from the identifier
      have hcases : piece ∈ routeNames ∨
          piece ∈ PathRules.web.split (id.toList.filter (!isInnerBlank ·)) := by
        rcases hpiece with hpiece | hpiece
        · exact .inl hpiece
        · rw [hread, PathRules.split_append_cons (by rfl)] at hpiece
          rcases List.mem_append.mp hpiece with hpiece | hpiece
          · exact .inr hpiece
          · rw [List.mem_singleton.mp hpiece]
            exact .inl (by decide)
      rcases hcases with hpiece | hpiece
      · exact (plain_of_routeName hpiece hdecode).1
      · have hinner : ∀ c ∈ id.toList.filter (!isInnerBlank ·), isInnerBlank c = false :=
          fun c hc => Web.not_isInnerBlank_of_mem_filter hc
        exact (plain_of_piece List.filter_sublist hquestion.1 hhash.1 hinner hpiece hkeeps
          hdecode).1
  · intro hplain
    have hfilter : id.toList.filter (!isInnerBlank ·) = id.toList :=
      Web.filter_isInnerBlank hplain.not_isInnerBlank
    apply inRoute_of_plain hplain ('/' :: "messages".toList)
    · rw [hread, hfilter]
    · rw [PathRules.split_append_cons (by rfl), PathRules.split_of_forall hplain.not_separates]
      rfl
    · decide
    · decide

/-! ## Other endpoints

The paths without an identifier. Their URLs are compared with those of conversations, so that a URL
in a route names one endpoint only. -/

/-- The path of an endpoint without an identifier, up to its query. -/
def Endpoint.fixedPath? : Endpoint → Option String
  | .register _ => some "auth/register"
  | .logIn _ => some "auth/login"
  | .renew _ => some "auth/refresh"
  | .profile | .updateProfile _ => some "profile"
  | .candidates _ => some "discover"
  | .swipe _ => some "swipe"
  | .matchList => some "matches"
  | .conversations => some "conversations"
  | .conversation _ | .send .. => none

/-- A URL is in the route of one conversation only, and either of its transcript or of its
messages. -/
theorem InRoute.unique {url : Url} {id id' : String} {behind behind' : List (List Char)}
    (h : InRoute url id behind) (h' : InRoute url id' behind') : id = id' ∧ behind = behind' := by
  obtain ⟨segment, hpath, -, hdecode⟩ := h.path
  obtain ⟨segment', hpath', -, hdecode'⟩ := h'.path
  rw [hpath] at hpath'
  have hsegments := Web.Path.segments.inj hpath'
  simp only [List.cons_append, List.nil_append, List.cons.injEq, true_and] at hsegments
  obtain ⟨rfl, rfl⟩ := hsegments
  rw [hdecode] at hdecode'
  exact ⟨String.toList_inj.mp (Text.Utf8.encode_injective hdecode'), rfl⟩

/-- The fixed paths. -/
def fixedPaths : List String :=
  ["auth/register", "auth/login", "auth/refresh", "profile", "discover", "swipe", "matches",
    "conversations"]

theorem mem_fixedPaths {e : Endpoint} {path : String} (h : e.fixedPath? = some path) :
    path ∈ fixedPaths := by
  cases e with
  | register _ | logIn _ | renew _ | profile | updateProfile _ | candidates _ | swipe _
  | matchList | conversations =>
    rw [← Option.some.inj h]
    decide
  | conversation _ | send _ _ => cases h

/-- The query of an endpoint does not belong to its path. The tail is what is split off before the
segments are looked at, whatever the values in the query are. -/
theorem exists_tail_of_fixedPath? {e : Endpoint} {path : String} (h : e.fixedPath? = some path) :
    ∃ tail, e.path.toList = '/' :: (path.toList ++ tail) ∧
      (splitMark '?' (splitMark '#' (readable tail)).1).1 = [] := by
  cases e with
  | candidates limit =>
    refine ⟨'?' :: ("limit=".toList ++ Nat.toDigits 10 limit.toNat), ?_, ?_⟩
    · rw [← Option.some.inj h, Endpoint.toList_path_candidates]
      rfl
    · rw [← List.singleton_append, Web.readable_append_tail (by decide),
        Web.splitMark_append (by decide)]
      rfl
  | register _ | logIn _ | renew _ | profile | updateProfile _ | swipe _ | matchList
  | conversations =>
    refine ⟨[], ?_, rfl⟩
    rw [← Option.some.inj h]
    -- the text is computed, so the endpoint must be gone from it first
    delta Endpoint.path
    dsimp only
    rfl
  | conversation _ | send _ _ => cases h

/-- **The URL of another endpoint is in no route of a conversation.** So a request in such a route
belongs to a conversation, and to the one with the identifier of the route. -/
theorem not_inRoute_of_fixedPath? {env : Environment} {e : Endpoint} {path : String}
    (h : e.fixedPath? = some path) {url : Url} (hresolve : resolve env.address e = .ok url)
    (id : String) (behind : List (List Char)) : ¬InRoute url id behind := by
  have hsolid : ∀ path ∈ fixedPaths, ∀ c ∈ path.toList, isSolid c = true := by decide
  -- a fixed path has another third segment, or nothing behind it
  have hother : ∀ path ∈ fixedPaths,
      (PathRules.web.resolved ("api/v1/".toList ++ path.toList))[2]? ≠
          some "conversations".toList ∨
        (PathRules.web.resolved ("api/v1/".toList ++ path.toList)).length = 3 := by decide
  obtain ⟨home, -, heq⟩ := exists_resolve_eq env
  obtain ⟨tail, hpath, hfront⟩ := exists_tail_of_fixedPath? h
  have hmem := mem_fixedPaths h
  intro hroute
  obtain ⟨segment, hsegments, -, -⟩ := hroute.path
  rw [heq hpath (hsolid path hmem), hfront, List.append_nil] at hresolve
  rw [← Except.ok.inj hresolve] at hsegments
  have hresolved := Web.Path.segments.inj hsegments
  -- the route has `conversations` third and a fourth segment, so either way the two differ
  rcases hother path hmem with hthird | hlength
  · rw [hresolved] at hthird
    exact hthird rfl
  · rw [hresolved] at hlength
    simp at hlength

/-! ## Routes -/

/-- The identifier in an endpoint, if there is one, stays in its place. -/
def Endpoint.Stays : Endpoint → Prop
  | .conversation id => Plain id ∧ EndsVisibly id
  | .send id _ => Plain id
  | _ => True

/-- **An identifier stays in its route if and only if it is plain.** The URL of a transcript, and
the one that a message is sent to, are always parsed, and are always at the deployment. They have
the identifier in its place, as one segment that is decoded as the identifier, without a query and a
fragment, if and only if the identifier is plain, and does not end in a blank where it ends the URL.
Among such endpoints the URL determines which conversation it is, and no other endpoint has it. -/
theorem conversation_route_iff (env : Environment) (id : String) (draft : Wire.Draft) :
    (∃ url, resolve env.address (.conversation id) = .ok url ∧ AtHome env url ∧
      (InRoute url id [] ↔ Plain id ∧ EndsVisibly id)) ∧
    (∃ url, resolve env.address (.send id draft) = .ok url ∧ AtHome env url ∧
      (InRoute url id ["messages".toList] ↔ Plain id)) ∧
    (Plain id → EndsVisibly id → ∀ e : Endpoint, e.Stays →
      resolve env.address e = resolve env.address (.conversation id) → e = .conversation id) ∧
    (Plain id → ∀ e : Endpoint, e.Stays →
      resolve env.address e = resolve env.address (.send id draft) →
        ∃ draft', e = .send id draft') := by
  obtain ⟨home, hhome, hresolve⟩ := exists_resolve_eq env
  have hsolid : ∀ c ∈ "conversations/".toList, isSolid c = true := by decide
  have hconversation : ∀ id, resolve env.address (.conversation id) =
      .ok (routeAt home id.toList) := fun id => hresolve (path_conversation id) hsolid
  have hsend : ∀ id draft, resolve env.address (.send id draft) =
      .ok (routeAt home (id.toList ++ "/messages".toList)) := fun id draft =>
    hresolve (path_send id draft) hsolid
  -- the address of an endpoint that stays says what endpoint it is
  have hunique : ∀ {url : Url} {behind : List (List Char)}, InRoute url id behind →
      ∀ e : Endpoint, e.Stays → resolve env.address e = .ok url →
        e = .conversation id ∧ behind = [] ∨
          (∃ draft', e = .send id draft') ∧ behind = ["messages".toList] := by
    intro url behind hroute e hstays hurl
    cases hfixed : e.fixedPath? with
    | some path => exact absurd hroute (not_inRoute_of_fixedPath? hfixed hurl id behind)
    | none =>
      cases e with
      | conversation id' =>
        have hroute' := (inRoute_conversation_iff home id').mpr hstays
        rw [hconversation] at hurl
        rw [Except.ok.inj hurl] at hroute'
        obtain ⟨rfl, rfl⟩ := hroute.unique hroute'
        exact .inl ⟨rfl, rfl⟩
      | send id' draft' =>
        have hroute' := (inRoute_send_iff home id').mpr hstays
        rw [hsend] at hurl
        rw [Except.ok.inj hurl] at hroute'
        obtain ⟨rfl, rfl⟩ := hroute.unique hroute'
        exact .inr ⟨⟨draft', rfl⟩, rfl⟩
      | register _ | logIn _ | renew _ | profile | updateProfile _ | candidates _ | swipe _
      | matchList | conversations => cases hfixed
  refine ⟨⟨_, hconversation id, ⟨home, hhome, rfl, rfl⟩, inRoute_conversation_iff home id⟩,
    ⟨_, hsend id draft, ⟨home, hhome, rfl, rfl⟩, inRoute_send_iff home id⟩, ?_, ?_⟩
  · intro hplain hvisible e hstays heq
    rw [hconversation] at heq
    have hroute := (inRoute_conversation_iff home id).mpr ⟨hplain, hvisible⟩
    rcases hunique hroute e hstays heq with ⟨he, -⟩ | ⟨-, hbehind⟩
    · exact he
    · cases hbehind
  · intro hplain e hstays heq
    rw [hsend] at heq
    have hroute := (inRoute_send_iff home id).mpr hplain
    rcases hunique hroute e hstays heq with ⟨-, hbehind⟩ | ⟨he, -⟩
    · cases hbehind
    · exact he

/-- **An identifier may leave its route.** With dot segments in it, it leads to the profile; more of
them would remove the path prefix of the base, which the comment on `resolve` promises to keep. -/
theorem conversation_leaves_route :
    resolve Environment.development.address (.conversation "../profile") =
      resolve Environment.development.address .profile := by
  obtain ⟨home, -, hresolve⟩ := exists_resolve_eq .development
  have hprofile : Endpoint.profile.path.toList = '/' :: ("profile".toList ++ []) := by
    show "/profile".toList = _
    rfl
  rw [hresolve (path_conversation "../profile") (by decide), hresolve hprofile (by decide)]
  rfl

end Rendezvous.Service
