/-
What the kinds of value consist of.

Each kind but the two that are enums of names is a struct, which travels as an object of known
members. Its outline lists them: the name of a member, whether it may be left out, and whether there
are structs in its value. The codecs are part of the program, and each follows its outline
(`Kind.outlined`): it has a field for each entry, in order, which reads from each document one value
or nothing, and which has without a member the value that it would have with the spare one. What is
proved about records in general then holds of every kind by its outline alone.
-/
import Rendezvous.Proofs.Json.Members
import Rendezvous.Wire.Kind

set_option autoImplicit false

namespace Rendezvous.Wire

open Json

variable {α : Type} {αs : List Type}

/-! ## Outlines

What a reader of the protocol would write down about each struct, without looking at its codec. -/

/-- What is in the value of a member. -/
inductive Content
  /-- no object of known members -/
  | plain
  /-- a value of a kind -/
  | one (k : Kind)
  /-- a value of a kind, or `null` -/
  | maybe (k : Kind)
  /-- a list of values of a kind -/
  | many (k : Kind)

/-- Whether a member may be left out: the attributes of its field. -/
inductive Presence
  /-- it may not -/
  | needed
  /-- it may be `null`, or be left out -/
  | nullable
  /-- it is a list that may be left out if it is empty -/
  | listed

/-- The value with which a member may as well be left out. -/
def Presence.spare? : Presence → Option Doc
  | needed => none
  | nullable => some .null
  | listed => some (.list [])

/-- A known member. -/
structure Entry where
  name : String
  presence : Presence
  content : Content

/-- Kinds that travel as objects of known members, and not as names to choose from. -/
def Kind.IsRecord (k : Kind) : Prop :=
  k ≠ gender ∧ k ≠ direction

/-- The known members of a kind, in the order of the fields. The table repeats the attributes of the
wire types in plain terms, and `Kind.outlined` proves that the codecs follow it. -/
def Kind.outline : Kind → List Entry
  | credentials => [⟨"email", .needed, .plain⟩, ⟨"password", .needed, .plain⟩]
  | renewal => [⟨"refresh_token", .needed, .plain⟩]
  | tokenPair =>
    [⟨"access_token", .needed, .plain⟩, ⟨"refresh_token", .needed, .plain⟩,
      ⟨"expires_at", .needed, .plain⟩]
  | gender => []
  | profile =>
    [⟨"id", .needed, .plain⟩, ⟨"email", .needed, .plain⟩, ⟨"display_name", .nullable, .plain⟩,
      ⟨"bio", .nullable, .plain⟩, ⟨"birth_date", .nullable, .plain⟩,
      ⟨"gender", .nullable, .plain⟩, ⟨"interests", .listed, .plain⟩,
      ⟨"photos", .listed, .plain⟩]
  | profileUpdate =>
    [⟨"display_name", .nullable, .plain⟩, ⟨"bio", .nullable, .plain⟩,
      ⟨"birth_date", .nullable, .plain⟩, ⟨"gender", .nullable, .plain⟩,
      ⟨"interests", .nullable, .plain⟩]
  | candidate =>
    [⟨"id", .needed, .plain⟩, ⟨"display_name", .needed, .plain⟩, ⟨"age", .needed, .plain⟩,
      ⟨"bio", .nullable, .plain⟩, ⟨"photos", .listed, .plain⟩,
      ⟨"distance_km", .nullable, .plain⟩]
  | page => [⟨"profiles", .needed, .many candidate⟩]
  | direction => []
  | swipe => [⟨"swiped_id", .needed, .plain⟩, ⟨"direction", .needed, .plain⟩]
  | swipeResult => [⟨"match", .nullable, .maybe matched⟩]
  | matched =>
    [⟨"id", .needed, .plain⟩, ⟨"member_id", .needed, .plain⟩, ⟨"display_name", .needed, .plain⟩,
      ⟨"photo_url", .nullable, .plain⟩, ⟨"matched_at", .needed, .plain⟩]
  | matchList => [⟨"matches", .needed, .many matched⟩]
  | participant =>
    [⟨"id", .needed, .plain⟩, ⟨"display_name", .needed, .plain⟩,
      ⟨"photo_url", .nullable, .plain⟩]
  | conversation =>
    [⟨"id", .needed, .plain⟩, ⟨"participant", .needed, .one participant⟩,
      ⟨"last_message", .nullable, .maybe message⟩, ⟨"unread_count", .needed, .plain⟩]
  | message =>
    [⟨"id", .needed, .plain⟩, ⟨"sender_id", .needed, .plain⟩, ⟨"content", .needed, .plain⟩,
      ⟨"sent_at", .needed, .plain⟩, ⟨"read_at", .nullable, .plain⟩]
  | conversationList => [⟨"conversations", .needed, .many conversation⟩]
  | transcript =>
    [⟨"conversation", .needed, .one conversation⟩, ⟨"messages", .needed, .many message⟩]
  | draft => [⟨"content", .needed, .plain⟩]

theorem Kind.isRecord_of_mem {k : Kind} {e : Entry} (h : e ∈ k.outline) : k.IsRecord := by
  constructor
  all_goals
    rintro rfl
    exact absurd h List.not_mem_nil

/-! ## Codecs that follow an outline

The relation between an outline and the codec that runs. It is checked kind by kind at the end. -/

/-- A codec reads what the outline gives as the value of a member. -/
inductive Content.Fits : Content → {α : Type} → Codec α → Prop
  | plain {α : Type} (c : Codec α) : Content.Fits .plain c
  | one (k : Kind) : Content.Fits (.one k) k.codec
  | maybe (k : Kind) : Content.Fits (.maybe k) k.codec.nullable
  | many (k : Kind) : Content.Fits (.many k) k.codec.list

/-- A field is as its entry describes it. `missing_eq` is where an outline makes a promise about
texts with a member left out. -/
structure Entry.Fits (e : Entry) (f : Json.Field α) : Prop where
  name_eq : f.name = e.name
  definite : f.codec.Definite
  missing_eq : f.missing = e.presence.spare?.bind f.codec.value?
  content : e.content.Fits f.codec

/-- Fields are as the entries describe them, each in its place. -/
def Follow : List Entry → {αs : List Type} → Fields αs → Prop
  | [], _, .done => True
  | e :: es, _, .more f rest => e.Fits f ∧ Follow es rest
  | _, _, _ => False

/-- A codec is a record of fields as the entries describe them, with no name twice. -/
def Outlined (c : Codec α) (es : List Entry) : Prop :=
  ∃ (αs : List Type) (fs : Fields αs) (name : String) (make : Values αs → α)
    (parts : α → Values αs),
    c = .record name fs make parts ∧ Follow es fs ∧ fs.names.Nodup

theorem Follow.names_eq {es : List Entry} {fs : Fields αs} (h : Follow es fs) :
    fs.names = es.map Entry.name := by
  induction fs generalizing es with
  | done =>
    cases es with
    | nil => rfl
    | cons e es => exact h.elim
  | more f rest ih =>
    cases es with
    | nil => exact h.elim
    | cons e es => rw [Fields.names, List.map_cons, ih h.2, h.1.name_eq]

theorem Follow.definite {es : List Entry} {fs : Fields αs} (h : Follow es fs) : fs.Definite := by
  induction fs generalizing es with
  | done => trivial
  | more f rest ih =>
    cases es with
    | nil => exact h.elim
    | cons e es => exact ⟨h.1.definite, ih h.2⟩

/-- There is a field for each entry, in the same place. The type of the field is hidden in the
fields, so it comes out of the theorem together with the field. -/
theorem Follow.exists_at {es : List Entry} {fs : Fields αs} (h : Follow es fs) {i : Nat}
    {e : Entry} (he : es[i]? = some e) :
    ∃ (α : Type) (f : Json.Field α), fs.At f i ∧ e.Fits f := by
  induction fs generalizing es i with
  | done =>
    cases es with
    | nil => cases he
    | cons e' es => exact h.elim
  | more g rest ih =>
    cases es with
    | nil => exact h.elim
    | cons e' es =>
      -- the entry is the one of this field or of a later one
      cases i with
      | zero =>
        obtain rfl := Option.some.inj he
        exact ⟨_, g, .first, h.1⟩
      | succ i =>
        obtain ⟨α, f, hf, hfits⟩ := ih h.2 he
        exact ⟨α, f, .later hf, hfits⟩

theorem Follow.exists_at_of_mem {es : List Entry} {fs : Fields αs} (h : Follow es fs) {e : Entry}
    (he : e ∈ es) : ∃ (i : Nat) (α : Type) (f : Json.Field α), fs.At f i ∧ e.Fits f := by
  obtain ⟨i, hi⟩ := List.mem_iff_getElem?.mp he
  exact ⟨i, h.exists_at hi⟩

/-! ## What is read by an outline

The facts about records (`ofMembers_perm` and the others), with the outline in the place of the
fields. -/

namespace Outlined

variable {c : Codec α} {es : List Entry} {e : Entry}

theorem definite (h : Outlined c es) : c.Definite := by
  obtain ⟨αs, fs, name, make, parts, rfl, hfs, hnames⟩ := h
  exact (reads_record hfs.definite hnames name make parts).definite

/-- The order of the members makes no difference. -/
theorem value?_perm (h : Outlined c es) {ms ms' : Members} (hperm : ms.Perm ms') :
    c.value? (.object ms) = c.value? (.object ms') := by
  obtain ⟨αs, fs, name, make, parts, rfl, hfs, hnames⟩ := h
  rw [value?_object hfs.definite hnames, value?_object hfs.definite hnames,
    ofMembers_perm fs _ hperm]

/-- A member that the outline does not list makes no difference. -/
theorem value?_insert (h : Outlined c es) {key : List Piece} {name : String}
    (hkey : text? key = some name) (hname : name ∉ es.map Entry.name) (d : Doc)
    (before after : Members) :
    c.value? (.object (before ++ (key, d) :: after)) = c.value? (.object (before ++ after)) := by
  obtain ⟨αs, fs, _, make, parts, rfl, hfs, hnames⟩ := h
  rw [← hfs.names_eq] at hname
  rw [value?_object hfs.definite hnames, value?_object hfs.definite hnames,
    ofMembers_insert hkey hname]

/-- A member that has the spare value of its entry may be left out. What is spare depends on the
attributes of the field: `null` for an `Option`, and an empty list for a `default`. -/
theorem value?_leave_out (h : Outlined c es) (he : e ∈ es) {key : List Piece}
    (hkey : text? key = some e.name) {d : Doc} (hd : e.presence.spare? = some d)
    {before after : Members} (hfound : Members.found (before ++ after) e.name = []) :
    c.value? (.object (before ++ (key, d) :: after)) = c.value? (.object (before ++ after)) := by
  obtain ⟨αs, fs, name, make, parts, rfl, hfs, hnames⟩ := h
  obtain ⟨i, α, f, hf, hfits⟩ := hfs.exists_at_of_mem he
  have hmissing : f.missing = f.codec.value? d := by
    rw [hfits.missing_eq, hd, Option.bind_some]
  rw [← hfits.name_eq] at hkey hfound
  rw [value?_object hfs.definite hnames, value?_object hfs.definite hnames,
    ofMembers_leave_out hnames hf hkey hmissing hfound]

/-- Nothing is read if a known member comes twice. -/
theorem value?_twice (h : Outlined c es) (he : e ∈ es) {ms : Members}
    (htwice : 2 ≤ (ms.found e.name).length) : c.value? (.object ms) = none := by
  obtain ⟨αs, fs, name, make, parts, rfl, hfs, hnames⟩ := h
  obtain ⟨i, α, f, hf, hfits⟩ := hfs.exists_at_of_mem he
  rw [← hfits.name_eq] at htwice
  rw [value?_object hfs.definite hnames, ofMembers_twice hf htwice]
  rfl

/-- Nothing is read if a required member is missing. -/
theorem value?_missing (h : Outlined c es) (he : e ∈ es) (hneeded : e.presence = .needed)
    {ms : Members} (hfound : ms.found e.name = []) : c.value? (.object ms) = none := by
  obtain ⟨αs, fs, name, make, parts, rfl, hfs, hnames⟩ := h
  obtain ⟨i, α, f, hf, hfits⟩ := hfs.exists_at_of_mem he
  have hmissing : f.missing = none := by
    rw [hfits.missing_eq, hneeded]
    rfl
  rw [← hfits.name_eq] at hfound
  rw [value?_object hfs.definite hnames, ofMembers_missing hf hmissing hfound]
  rfl

/-- The value of a known member is a part of the object. -/
theorem exists_within_member (h : Outlined c es) (he : e ∈ es) {key : List Piece}
    (hkey : text? key = some e.name) (before after : Members) :
    ∃ (β : Type) (part : Codec β), e.content.Fits part ∧
      part.Within c fun d => .object (before ++ (key, d) :: after) := by
  obtain ⟨αs, fs, name, make, parts, rfl, hfs, hnames⟩ := h
  obtain ⟨i, β, f, hf, hfits⟩ := hfs.exists_at_of_mem he
  rw [← hfits.name_eq] at hkey
  exact ⟨β, f.codec, hfits.content,
    within_member hfs.definite hnames name make parts hf hkey before after⟩

/-- An element is a part of the row. -/
theorem exists_within_row (h : Outlined c es) {before : List Doc}
    (he : es[before.length]? = some e) (after : List Doc) :
    ∃ (β : Type) (part : Codec β), e.content.Fits part ∧
      part.Within c fun d => .list (before ++ d :: after) := by
  obtain ⟨αs, fs, name, make, parts, rfl, hfs, hnames⟩ := h
  obtain ⟨β, f, hf, hfits⟩ := hfs.exists_at he
  exact ⟨β, f.codec, hfits.content, within_row hfs.definite hnames name make parts hf after⟩

end Outlined

/-! ## Fields -/

section Fields

variable {name : String} {content : Content} {c : Codec α}

theorem fits_required (h : c.Definite) (hcontent : content.Fits c) :
    Entry.Fits ⟨name, .needed, content⟩ (.required name c) :=
  ⟨rfl, h, rfl, hcontent⟩

theorem definite_nullable (h : c.Definite) : c.nullable.Definite :=
  (reads_nullable h).definite

theorem definite_list (h : c.Definite) : c.list.Definite :=
  (reads_list h).definite

theorem value?_nullable_null (h : c.Definite) : c.nullable.value? .null = some none := by
  rw [(reads_nullable h).value?]
  rfl

theorem value?_list_nil (h : c.Definite) : c.list.value? (.list []) = some [] := by
  rw [(reads_list h).value?]
  rfl

theorem fits_optional (h : c.Definite) (hcontent : content.Fits c.nullable) :
    Entry.Fits ⟨name, .nullable, content⟩ (.optional name c) :=
  ⟨rfl, definite_nullable h, (value?_nullable_null h).symm, hcontent⟩

theorem fits_ifSet (h : c.Definite) (hcontent : content.Fits c.nullable) :
    Entry.Fits ⟨name, .nullable, content⟩ (.ifSet name c) :=
  ⟨rfl, definite_nullable h, (value?_nullable_null h).symm, hcontent⟩

theorem fits_defaulted_none (h : c.Definite) (hcontent : content.Fits c.nullable) :
    Entry.Fits ⟨name, .nullable, content⟩ (.defaulted name c.nullable none) :=
  ⟨rfl, definite_nullable h, (value?_nullable_null h).symm, hcontent⟩

theorem fits_defaulted_nil (h : c.Definite) (hcontent : content.Fits c.list) :
    Entry.Fits ⟨name, .listed, content⟩ (.defaulted name c.list []) :=
  ⟨rfl, definite_list h, (value?_list_nil h).symm, hcontent⟩

end Fields

/-! ## The kinds

Each codec is unfolded once here, and nowhere else. -/

theorem definite_instant : instant.Definite :=
  definite_ofString ..

theorem definite_texts : Codec.text.list.Definite :=
  definite_list definite_text

theorem definite_gender : Gender.codec.Definite :=
  (reads_choice ..).definite

theorem definite_direction : Direction.codec.Definite :=
  (reads_choice ..).definite

theorem outlined_credentials : Outlined Credentials.codec (Kind.outline .credentials) :=
  ⟨_, _, _, _, _, rfl,
    ⟨fits_required definite_text (.plain _), fits_required definite_text (.plain _), trivial⟩,
    by decide⟩

theorem outlined_renewal : Outlined Renewal.codec (Kind.outline .renewal) :=
  ⟨_, _, _, _, _, rfl, ⟨fits_required definite_text (.plain _), trivial⟩, by decide⟩

theorem outlined_tokenPair : Outlined TokenPair.codec (Kind.outline .tokenPair) :=
  ⟨_, _, _, _, _, rfl,
    ⟨fits_required definite_text (.plain _), fits_required definite_text (.plain _),
      fits_required definite_i64 (.plain _), trivial⟩,
    by decide⟩

theorem outlined_profile : Outlined Profile.codec (Kind.outline .profile) :=
  ⟨_, _, _, _, _, rfl,
    ⟨fits_required definite_text (.plain _), fits_required definite_text (.plain _),
      fits_optional definite_text (.plain _), fits_optional definite_text (.plain _),
      fits_optional definite_instant (.plain _), fits_optional definite_gender (.plain _),
      fits_defaulted_nil definite_text (.plain _), fits_defaulted_nil definite_text (.plain _),
      trivial⟩,
    by decide⟩

theorem outlined_profileUpdate : Outlined ProfileUpdate.codec (Kind.outline .profileUpdate) :=
  ⟨_, _, _, _, _, rfl,
    ⟨fits_ifSet definite_text (.plain _), fits_ifSet definite_text (.plain _),
      fits_ifSet definite_instant (.plain _), fits_ifSet definite_gender (.plain _),
      fits_ifSet definite_texts (.plain _), trivial⟩,
    by decide⟩

theorem outlined_candidate : Outlined Candidate.codec (Kind.outline .candidate) :=
  ⟨_, _, _, _, _, rfl,
    ⟨fits_required definite_text (.plain _), fits_required definite_text (.plain _),
      fits_required definite_u32 (.plain _), fits_optional definite_text (.plain _),
      fits_defaulted_nil definite_text (.plain _), fits_optional definite_f64 (.plain _), trivial⟩,
    by decide⟩

theorem outlined_page : Outlined Page.codec (Kind.outline .page) :=
  ⟨_, _, _, _, _, rfl,
    ⟨fits_required (definite_list outlined_candidate.definite) (.many .candidate), trivial⟩,
    by decide⟩

theorem outlined_swipe : Outlined Swipe.codec (Kind.outline .swipe) :=
  ⟨_, _, _, _, _, rfl,
    ⟨fits_required definite_text (.plain _), fits_required definite_direction (.plain _), trivial⟩,
    by decide⟩

theorem outlined_matched : Outlined Match.codec (Kind.outline .matched) :=
  ⟨_, _, _, _, _, rfl,
    ⟨fits_required definite_text (.plain _), fits_required definite_text (.plain _),
      fits_required definite_text (.plain _), fits_optional definite_text (.plain _),
      fits_required definite_instant (.plain _), trivial⟩,
    by decide⟩

theorem outlined_swipeResult : Outlined SwipeResult.codec (Kind.outline .swipeResult) :=
  ⟨_, _, _, _, _, rfl,
    ⟨fits_defaulted_none outlined_matched.definite (.maybe .matched), trivial⟩, by decide⟩

theorem outlined_matchList : Outlined MatchList.codec (Kind.outline .matchList) :=
  ⟨_, _, _, _, _, rfl,
    ⟨fits_required (definite_list outlined_matched.definite) (.many .matched), trivial⟩,
    by decide⟩

theorem outlined_participant : Outlined Participant.codec (Kind.outline .participant) :=
  ⟨_, _, _, _, _, rfl,
    ⟨fits_required definite_text (.plain _), fits_required definite_text (.plain _),
      fits_optional definite_text (.plain _), trivial⟩,
    by decide⟩

theorem outlined_message : Outlined Message.codec (Kind.outline .message) :=
  ⟨_, _, _, _, _, rfl,
    ⟨fits_required definite_text (.plain _), fits_required definite_text (.plain _),
      fits_required definite_text (.plain _), fits_required definite_instant (.plain _),
      fits_optional definite_instant (.plain _), trivial⟩,
    by decide⟩

theorem outlined_conversation : Outlined Conversation.codec (Kind.outline .conversation) :=
  ⟨_, _, _, _, _, rfl,
    ⟨fits_required definite_text (.plain _),
      fits_required outlined_participant.definite (.one .participant),
      fits_optional outlined_message.definite (.maybe .message),
      fits_required definite_u32 (.plain _), trivial⟩,
    by decide⟩

theorem outlined_conversationList :
    Outlined ConversationList.codec (Kind.outline .conversationList) :=
  ⟨_, _, _, _, _, rfl,
    ⟨fits_required (definite_list outlined_conversation.definite) (.many .conversation), trivial⟩,
    by decide⟩

theorem outlined_transcript : Outlined Transcript.codec (Kind.outline .transcript) :=
  ⟨_, _, _, _, _, rfl,
    ⟨fits_required outlined_conversation.definite (.one .conversation),
      fits_required (definite_list outlined_message.definite) (.many .message), trivial⟩,
    by decide⟩

theorem outlined_draft : Outlined Draft.codec (Kind.outline .draft) :=
  ⟨_, _, _, _, _, rfl, ⟨fits_required definite_text (.plain _), trivial⟩, by decide⟩

/-- **Every kind follows its outline**, but for the choices. A choice is an enum and is written as a
name, so it has no members to list. -/
theorem Kind.outlined {k : Kind} (h : k.IsRecord) : Outlined k.codec k.outline := by
  cases k with
  | credentials => exact outlined_credentials
  | renewal => exact outlined_renewal
  | tokenPair => exact outlined_tokenPair
  | gender => exact absurd rfl h.1
  | profile => exact outlined_profile
  | profileUpdate => exact outlined_profileUpdate
  | candidate => exact outlined_candidate
  | page => exact outlined_page
  | direction => exact absurd rfl h.2
  | swipe => exact outlined_swipe
  | swipeResult => exact outlined_swipeResult
  | matched => exact outlined_matched
  | matchList => exact outlined_matchList
  | participant => exact outlined_participant
  | conversation => exact outlined_conversation
  | message => exact outlined_message
  | conversationList => exact outlined_conversationList
  | transcript => exact outlined_transcript
  | draft => exact outlined_draft

/-- **What is read of a kind depends on the document alone**, and not on how it is spelled. -/
theorem Kind.definite (k : Kind) : k.codec.Definite := by
  by_cases h : k.IsRecord
  · exact (Kind.outlined h).definite
  · cases k with
    | gender => exact definite_gender
    | direction => exact definite_direction
    | _ => exact absurd ⟨nofun, nofun⟩ h

end Rendezvous.Wire
