/-
Every value that travels arrives as it was sent, as far as its text determines it.

`SPEC_FULL.md` asks that encoding to wire JSON and decoding yield an equal object for every modeled
entity. Each kind is a record (or an enum of names), so its values are recovered as soon as the
values of its fields are: texts, numbers and names always are, instants by
`Time.Timestamp.parse_text`, and the rest are records again. The one float on the wire is the
distance of a candidate. It is left open here: a candidate is recovered when it has none.

An instant is recovered if and only if a leap second in it ends a minute, so this is asked of all
the instants of a value (`Kind.instants`). It cannot be left out: a message may be decoded as one
that was sent at another time (`message_pastHalfMinute_is_lost`). What any value is decoded as is
its normal value, which has the same text (`Kind.toJson_normal`) and is recovered.

* `Kind.round_trip`: a value of any kind is decoded from its own text as its normal value, and this
  is the value itself exactly under the condition.
-/
import Rendezvous.Proofs.Json.Record
import Rendezvous.Proofs.Wire.Normal

set_option autoImplicit false

namespace Rendezvous.Wire

open Json
open Time (Timestamp)

/-! ## Parts

The values that fields hold, with the two forms in which a field may be optional. -/

theorem recovers_instant {t : Timestamp} (h : t.LeapEndsMinute) : instant.Recovers t := by
  refine recovers_ofString ?_
  rw [Timestamp.parse_text h]

/-- An instant that may be missing. -/
theorem recovers_instant_of_some {t : Option Timestamp}
    (h : ∀ u ∈ t.toList, u.LeapEndsMinute) :
    ∀ u, t = some u → instant.Recovers u ∧ instant.toJson u ≠ .null :=
  fun u hu => ⟨recovers_instant (h u (by rw [hu]; exact List.mem_singleton_self u)), nofun⟩

/-- A text that may be missing. -/
theorem recovers_text_of_some (a : Option String) :
    ∀ b, a = some b → Codec.text.Recovers b ∧ Codec.text.toJson b ≠ .null :=
  fun b _ => ⟨recovers_text b, nofun⟩

theorem recovers_texts (as : List String) : Codec.text.list.Recovers as :=
  recovers_list fun a _ => recovers_text a

theorem recovers_gender (g : Gender) : Gender.codec.Recovers g := by
  refine recovers_choice ?_
  cases g with
  | male => rfl
  | female => rfl
  | other => rfl

/-- A gender that may be missing. -/
theorem recovers_gender_of_some (g : Option Gender) :
    ∀ b, g = some b → Gender.codec.Recovers b ∧ Gender.codec.toJson b ≠ .null :=
  fun b _ => ⟨recovers_gender b, nofun⟩

theorem recovers_direction (d : Direction) : Direction.codec.Recovers d := by
  refine recovers_choice ?_
  cases d with
  | like => rfl
  | pass => rfl
  | superLike => rfl

/-! ## Accounts -/

theorem recovers_credentials (c : Credentials) : Credentials.codec.Recovers c :=
  recovers_record (by decide) rfl
    ⟨Field.recovers_required (recovers_text _), Field.recovers_required (recovers_text _), trivial⟩

theorem recovers_renewal (r : Renewal) : Renewal.codec.Recovers r :=
  recovers_record (by decide) rfl ⟨Field.recovers_required (recovers_text _), trivial⟩

theorem recovers_tokenPair (t : TokenPair) : TokenPair.codec.Recovers t :=
  recovers_record (by decide) rfl
    ⟨Field.recovers_required (recovers_text _), Field.recovers_required (recovers_text _),
      Field.recovers_required (recovers_i64 _), trivial⟩

/-! ## Profiles -/

theorem recovers_profile {p : Profile} (h : ∀ t ∈ p.instants, t.LeapEndsMinute) :
    Profile.codec.Recovers p :=
  recovers_record (by decide) rfl
    ⟨Field.recovers_required (recovers_text _), Field.recovers_required (recovers_text _),
      Field.recovers_optional (recovers_text_of_some _),
      Field.recovers_optional (recovers_text_of_some _),
      Field.recovers_optional (recovers_instant_of_some h),
      Field.recovers_optional (recovers_gender_of_some _),
      Field.recovers_defaulted (recovers_texts _), Field.recovers_defaulted (recovers_texts _),
      trivial⟩

/-- What an update leaves out is filled in as `None`, and that is what it was. -/
theorem recovers_profileUpdate {u : ProfileUpdate} (h : ∀ t ∈ u.instants, t.LeapEndsMinute) :
    ProfileUpdate.codec.Recovers u :=
  recovers_record (by decide) rfl
    ⟨Field.recovers_ifSet (recovers_text_of_some _), Field.recovers_ifSet (recovers_text_of_some _),
      Field.recovers_ifSet (recovers_instant_of_some h),
      Field.recovers_ifSet (recovers_gender_of_some _),
      Field.recovers_ifSet fun as _ => ⟨recovers_texts as, nofun⟩, trivial⟩

/-! ## Discovery -/

theorem recovers_candidate {c : Candidate} (h : c.distanceKm = none) :
    Candidate.codec.Recovers c := by
  refine recovers_record (by decide) rfl
    ⟨Field.recovers_required (recovers_text _), Field.recovers_required (recovers_text _),
      Field.recovers_required (recovers_u32 _), Field.recovers_optional (recovers_text_of_some _),
      Field.recovers_defaulted (recovers_texts _), Field.recovers_optional fun d hd => ?_, trivial⟩
  cases h.symm.trans hd

theorem recovers_page {p : Page} (h : ∀ c ∈ p.profiles, c.distanceKm = none) :
    Page.codec.Recovers p :=
  recovers_record (by decide) rfl
    ⟨Field.recovers_required (recovers_list fun c hc => recovers_candidate (h c hc)), trivial⟩

theorem recovers_swipe (s : Swipe) : Swipe.codec.Recovers s :=
  recovers_record (by decide) rfl
    ⟨Field.recovers_required (recovers_text _), Field.recovers_required (recovers_direction _),
      trivial⟩

theorem recovers_match {m : Match} (h : ∀ t ∈ m.instants, t.LeapEndsMinute) :
    Match.codec.Recovers m :=
  recovers_record (by decide) rfl
    ⟨Field.recovers_required (recovers_text _), Field.recovers_required (recovers_text _),
      Field.recovers_required (recovers_text _), Field.recovers_optional (recovers_text_of_some _),
      Field.recovers_required (recovers_instant (h _ (List.mem_singleton_self _))), trivial⟩

theorem recovers_swipeResult {r : SwipeResult} (h : ∀ t ∈ r.instants, t.LeapEndsMinute) :
    SwipeResult.codec.Recovers r := by
  refine recovers_record (by decide) rfl ⟨Field.recovers_defaulted ?_, trivial⟩
  obtain ⟨matched⟩ := r
  cases matched with
  | none => exact recovers_none _
  | some m =>
    refine recovers_some (recovers_match ?_) nofun
    exact leapEndsMinute_of_mem h (List.mem_singleton_self m)

theorem recovers_matchList {l : MatchList} (h : ∀ t ∈ l.instants, t.LeapEndsMinute) :
    MatchList.codec.Recovers l :=
  recovers_record (by decide) rfl
    ⟨Field.recovers_required (recovers_list fun _ hm =>
      recovers_match (leapEndsMinute_of_mem h hm)), trivial⟩

/-! ## Conversations -/

theorem recovers_participant (p : Participant) : Participant.codec.Recovers p :=
  recovers_record (by decide) rfl
    ⟨Field.recovers_required (recovers_text _), Field.recovers_required (recovers_text _),
      Field.recovers_optional (recovers_text_of_some _), trivial⟩

theorem recovers_message {m : Message} (h : ∀ t ∈ m.instants, t.LeapEndsMinute) :
    Message.codec.Recovers m :=
  recovers_record (by decide) rfl
    ⟨Field.recovers_required (recovers_text _), Field.recovers_required (recovers_text _),
      Field.recovers_required (recovers_text _),
      Field.recovers_required (recovers_instant (h _ (List.mem_cons_self ..))),
      Field.recovers_optional (recovers_instant_of_some fun t ht => h t (.tail _ ht)), trivial⟩

theorem recovers_conversation {c : Conversation} (h : ∀ t ∈ c.instants, t.LeapEndsMinute) :
    Conversation.codec.Recovers c := by
  refine recovers_record (by decide) rfl
    ⟨Field.recovers_required (recovers_text _), Field.recovers_required (recovers_participant _),
      Field.recovers_optional fun m hm => ⟨recovers_message ?_, nofun⟩,
      Field.recovers_required (recovers_u32 _), trivial⟩
  exact leapEndsMinute_of_mem h (Option.mem_toList.mpr hm)

theorem recovers_conversationList {l : ConversationList}
    (h : ∀ t ∈ l.instants, t.LeapEndsMinute) : ConversationList.codec.Recovers l :=
  recovers_record (by decide) rfl
    ⟨Field.recovers_required (recovers_list fun _ hc =>
      recovers_conversation (leapEndsMinute_of_mem h hc)), trivial⟩

theorem recovers_transcript {t : Transcript} (h : ∀ u ∈ t.instants, u.LeapEndsMinute) :
    Transcript.codec.Recovers t := by
  obtain ⟨hconversation, hmessages⟩ := List.forall_mem_append.mp h
  exact recovers_record (by decide) rfl
    ⟨Field.recovers_required (recovers_conversation hconversation),
      Field.recovers_required (recovers_list fun _ hm =>
        recovers_message (leapEndsMinute_of_mem hmessages hm)), trivial⟩

theorem recovers_draft (d : Draft) : Draft.codec.Recovers d :=
  recovers_record (by decide) rfl ⟨Field.recovers_required (recovers_text _), trivial⟩

/-! ## Every kind

The proofs above put together, with `Kind` to quantify over them. -/

/-- A value without a distance, which is the only float that travels. -/
def Kind.WithoutDistance : (k : Kind) → k.Carrier → Prop
  | candidate, c => c.distanceKm = none
  | page, p => ∀ c ∈ p.profiles, c.distanceKm = none
  | _, _ => True

/-- A value of any kind is recovered if every leap second in it ends a minute. The distance is taken
to be absent: it is a floating-point number, for which there is no round trip here. -/
theorem Kind.recovers (k : Kind) (v : k.Carrier) (hdistance : k.WithoutDistance v)
    (hleap : ∀ t ∈ k.instants v, t.LeapEndsMinute) : k.codec.Recovers v := by
  cases k with
  | credentials => exact recovers_credentials v
  | renewal => exact recovers_renewal v
  | tokenPair => exact recovers_tokenPair v
  | gender => exact recovers_gender v
  | profile => exact recovers_profile hleap
  | profileUpdate => exact recovers_profileUpdate hleap
  | candidate => exact recovers_candidate hdistance
  | page => exact recovers_page hdistance
  | direction => exact recovers_direction v
  | swipe => exact recovers_swipe v
  | swipeResult => exact recovers_swipeResult hleap
  | matched => exact recovers_match hleap
  | matchList => exact recovers_matchList hleap
  | participant => exact recovers_participant v
  | conversation => exact recovers_conversation hleap
  | message => exact recovers_message hleap
  | conversationList => exact recovers_conversationList hleap
  | transcript => exact recovers_transcript hleap
  | draft => exact recovers_draft v

/-- The normal value has no distance either: it differs in instants alone. -/
theorem Kind.withoutDistance_normal {k : Kind} {v : k.Carrier} (h : k.WithoutDistance v) :
    k.WithoutDistance (k.normal v) := by
  cases k with
  | candidate => exact h
  | page => exact h
  | _ => trivial

/-- Any value is decoded as its normal value, for the two have one text. -/
theorem Kind.decode_encode {k : Kind} {v : k.Carrier} (h : k.WithoutDistance v) :
    k.codec.decode (Text.Utf8.bytes (k.codec.encode v)) = .ok (k.normal v) := by
  have hencode : k.codec.encode v = k.codec.encode (k.normal v) :=
    congrArg Json.text (k.toJson_normal v).symm
  rw [hencode]
  exact (k.recovers _ (withoutDistance_normal h) (k.leapEndsMinute_normal v)).decode_encode

/-- A value is its normal one if and only if every leap second in it ends a minute. With this the
condition of the round trip is not only enough but needed. -/
theorem Kind.normal_eq_iff {k : Kind} {v : k.Carrier} (h : k.WithoutDistance v) :
    k.normal v = v ↔ ∀ t ∈ k.instants v, t.LeapEndsMinute := by
  constructor
  · intro hnormal
    rw [← hnormal]
    exact k.leapEndsMinute_normal v
  · intro hleap
    -- both are what the one text is decoded as
    have hself := (k.recovers v h hleap).decode_encode
    rw [decode_encode h] at hself
    exact Except.ok.inj hself

/-- **Round trip.** A value of any kind is decoded from the text that it is encoded to, as its
normal value. This is the value, exactly, if and only if every leap second in it ends a minute; any
text, any number and any list may be in it, and instants of negative years, of years with five
digits, with nanoseconds and in a leap second. -/
theorem Kind.round_trip (k : Kind) (v : k.Carrier) (h : k.WithoutDistance v) :
    k.codec.decode (Text.Utf8.bytes (k.codec.encode v)) = .ok (k.normal v) ∧
      (k.normal v = v ↔ ∀ t ∈ k.instants v, t.LeapEndsMinute) :=
  ⟨decode_encode h, normal_eq_iff h⟩

/-- A message that was sent in the last leap second of 2016, a quarter of a second into it, and was
read a nanosecond before the year 10000 ended. -/
def leapSecondMessage : Message :=
  ⟨"m1", "u1", "at \"midnight\"\n", ⟨1483228799, 1250000000, by decide, by decide, by decide⟩,
    some ⟨253433923199, 999999999, by decide, by decide, by decide⟩⟩

/-- Two instants that are out of the ordinary: one a leap second, one at the end of the year
9999. -/
theorem Kind.round_trip_leapSecond :
    Kind.message.WithoutDistance leapSecondMessage ∧
      Message.codec.decode (Text.Utf8.bytes (Message.codec.encode leapSecondMessage)) =
        .ok leapSecondMessage := by
  have hround := Kind.round_trip .message leapSecondMessage trivial
  have hleap : ∀ t ∈ Kind.message.instants leapSecondMessage, t.LeapEndsMinute := by decide
  exact ⟨trivial, hround.1.trans (congrArg Except.ok (hround.2.mpr hleap))⟩

/-- A message that was sent at this time and has not been read. -/
def messageAt (sentAt : Timestamp) : Message :=
  ⟨"m1", "u1", "hello", sentAt, none⟩

/-- All that is written of the time is its text. -/
theorem encode_messageAt {t u : Timestamp} (h : t.text = u.text) :
    Message.codec.encode (messageAt t) = Message.codec.encode (messageAt u) := by
  have htree (t : Timestamp) : Message.codec.encode (messageAt t) =
      (Json.obj [("id", .str "m1"), ("sender_id", .str "u1"), ("content", .str "hello"),
        ("sent_at", .str t.text), ("read_at", .null)]).text := rfl
  rw [htree, htree, h]

/-- **Without the condition a value may be lost.** A message that was sent one and a half seconds
behind 12:00:30 is written with 12:00:31.5 for its time, and it is decoded as the message that was
sent then. -/
theorem message_pastHalfMinute_is_lost :
    Kind.message.WithoutDistance (messageAt .pastHalfMinute) ∧
      Kind.message.codec.decode
          (Text.Utf8.bytes (Kind.message.codec.encode (messageAt .pastHalfMinute))) =
        .ok (messageAt .nextHalfSecond) ∧
      messageAt .pastHalfMinute ≠ messageAt .nextHalfSecond := by
  obtain ⟨htext, hne⟩ := Timestamp.text_pastHalfMinute
  have hleap : ∀ t ∈ (messageAt .nextHalfSecond).instants, t.LeapEndsMinute := by decide
  refine ⟨trivial, ?_, ?_⟩
  · show Message.codec.decode (Text.Utf8.bytes (Message.codec.encode _)) = _
    rw [encode_messageAt htext]
    exact (recovers_message hleap).decode_encode
  · intro h
    exact hne (congrArg Message.sentAt h)

end Rendezvous.Wire
