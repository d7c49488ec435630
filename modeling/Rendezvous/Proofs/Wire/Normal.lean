/-
What the text of a value shows of the instants in it.

Only instants are written so that two of them share a text: `chrono` writes a part of one second and
more behind any second but 59 as the next second. Each instant has a normal one that the text shows
(`Time.Timestamp.normal`). The normal value of a kind has all its instants normal and everything
else as it was. It is written alike (`Kind.toJson_normal`), field by field: a field is in the object
or skipped as before, and has the same tree. So whatever is proved of the text of values with normal
instants holds of all values, with the normal value in the place of the value.

The kinds are those that have a birth date, the time of a match, or the times at which a message was
sent and read.
-/
import Rendezvous.Proofs.Time.Timestamp
import Rendezvous.Wire.Kind

set_option autoImplicit false

namespace Rendezvous.Json

/-! ## Written alike

Two values have one text as soon as each field has one tree. -/

/-- Two values are written alike: every field is skipped in both or in neither, and has one tree. -/
def Fields.WrittenAlike {αs : List Type} : Fields αs → Values αs → Values αs → Prop
  | .done, _, _ => True
  | .more f rest, (a, b), (a', b') =>
    (f.hidden a = f.hidden a' ∧ f.codec.toJson a = f.codec.toJson a') ∧ rest.WrittenAlike b b'

theorem Fields.members_congr {αs : List Type} {fs : Fields αs} {b b' : Values αs}
    (h : fs.WrittenAlike b b') : fs.members b = fs.members b' := by
  induction fs with
  | done => rfl
  | more f rest ih =>
    obtain ⟨⟨hhidden, htree⟩, hrest⟩ := h
    rw [Fields.members, Fields.members, hhidden, htree, ih hrest]

theorem toJson_record_congr {α : Type} {αs : List Type} {name : String} {fs : Fields αs}
    {make : Values αs → α} {parts : α → Values αs} {a a' : α}
    (h : fs.WrittenAlike (parts a) (parts a')) :
    (Codec.record name fs make parts).toJson a = (Codec.record name fs make parts).toJson a' :=
  congrArg Json.obj (Fields.members_congr h)

/-- A list is written as its elements are. -/
theorem toJson_list_map {α : Type} {c : Codec α} {f : α → α}
    (h : ∀ a, c.toJson (f a) = c.toJson a) (as : List α) :
    c.list.toJson (as.map f) = c.list.toJson as := by
  show Json.arr ((as.map f).map c.toJson) = .arr (as.map c.toJson)
  rw [List.map_map]
  exact congrArg Json.arr (List.map_congr_left fun a _ => h a)

/-- Something that may be missing is written as it is if it is there. -/
theorem toJson_nullable_map {α : Type} {c : Codec α} {f : α → α}
    (h : ∀ a, c.toJson (f a) = c.toJson a) (a : Option α) :
    c.nullable.toJson (a.map f) = c.nullable.toJson a := by
  cases a with
  | none => rfl
  | some a => exact h a

end Rendezvous.Json

namespace Rendezvous.Wire

open Json
open Time (Timestamp)

/-! ## The instants of a value

All the instants, so that a condition on them can be stated for a value of any kind at once. -/

def Profile.instants (p : Profile) : List Timestamp := p.birthDate.toList

def ProfileUpdate.instants (u : ProfileUpdate) : List Timestamp := u.birthDate.toList

def Match.instants (m : Match) : List Timestamp := [m.matchedAt]

def SwipeResult.instants (r : SwipeResult) : List Timestamp :=
  r.matched.toList.flatMap Match.instants

def MatchList.instants (l : MatchList) : List Timestamp := l.found.flatMap Match.instants

def Message.instants (m : Message) : List Timestamp := m.sentAt :: m.readAt.toList

def Conversation.instants (c : Conversation) : List Timestamp :=
  c.lastMessage.toList.flatMap Message.instants

def ConversationList.instants (l : ConversationList) : List Timestamp :=
  l.conversations.flatMap Conversation.instants

def Transcript.instants (t : Transcript) : List Timestamp :=
  t.conversation.instants ++ t.messages.flatMap Message.instants

/-- All the instants in a value, wherever they stand in it. The kinds that are not listed have
none. -/
def Kind.instants : (k : Kind) → k.Carrier → List Timestamp
  | profile, p => p.instants
  | profileUpdate, u => u.instants
  | swipeResult, r => r.instants
  | matched, m => m.instants
  | matchList, l => l.instants
  | conversation, c => c.instants
  | message, m => m.instants
  | conversationList, l => l.instants
  | transcript, t => t.instants
  | _, _ => []

/-- The instants of a part are among those of the list of parts. -/
theorem leapEndsMinute_of_mem {α : Type} {instants : α → List Timestamp} {as : List α}
    (h : ∀ t ∈ as.flatMap instants, t.LeapEndsMinute) {a : α} (ha : a ∈ as) :
    ∀ t ∈ instants a, t.LeapEndsMinute :=
  fun t ht => h t (List.mem_flatMap.mpr ⟨a, ha, ht⟩)

/-! ## The normal value

The same records with `Timestamp.normal` at each of those places. -/

def Profile.normal (p : Profile) : Profile :=
  { p with birthDate := p.birthDate.map Timestamp.normal }

def ProfileUpdate.normal (u : ProfileUpdate) : ProfileUpdate :=
  { u with birthDate := u.birthDate.map Timestamp.normal }

def Match.normal (m : Match) : Match := { m with matchedAt := m.matchedAt.normal }

def SwipeResult.normal (r : SwipeResult) : SwipeResult := ⟨r.matched.map Match.normal⟩

def MatchList.normal (l : MatchList) : MatchList := ⟨l.found.map Match.normal⟩

def Message.normal (m : Message) : Message :=
  { m with sentAt := m.sentAt.normal, readAt := m.readAt.map Timestamp.normal }

def Conversation.normal (c : Conversation) : Conversation :=
  { c with lastMessage := c.lastMessage.map Message.normal }

def ConversationList.normal (l : ConversationList) : ConversationList :=
  ⟨l.conversations.map Conversation.normal⟩

def Transcript.normal (t : Transcript) : Transcript :=
  ⟨t.conversation.normal, t.messages.map Message.normal⟩

/-- The value with all its instants normal. A kind without an instant is left as it is; they are
listed one by one, so that a new kind cannot be forgotten. -/
def Kind.normal : (k : Kind) → k.Carrier → k.Carrier
  | profile, p => p.normal
  | profileUpdate, u => u.normal
  | swipeResult, r => r.normal
  | matched, m => m.normal
  | matchList, l => l.normal
  | conversation, c => c.normal
  | message, m => m.normal
  | conversationList, l => l.normal
  | transcript, t => t.normal
  | credentials, v | renewal, v | tokenPair, v | gender, v | candidate, v | page, v | direction, v
  | swipe, v | participant, v | draft, v => v

/-! ## Its instants -/

/-- Parts that are made normal one by one have normal instants. -/
theorem instants_flatMap_map {α : Type} {instants : α → List Timestamp} {normal : α → α}
    (h : ∀ a, instants (normal a) = (instants a).map Timestamp.normal) (as : List α) :
    (as.map normal).flatMap instants = (as.flatMap instants).map Timestamp.normal := by
  rw [List.flatMap_map, List.map_flatMap]
  exact congrArg (List.flatMap · as) (funext h)

/-- So it is with a part that may be missing. -/
theorem instants_option_map {α : Type} {instants : α → List Timestamp} {normal : α → α}
    (h : ∀ a, instants (normal a) = (instants a).map Timestamp.normal) (a : Option α) :
    (a.map normal).toList.flatMap instants = (a.toList.flatMap instants).map Timestamp.normal := by
  rw [Option.toList_map]
  exact instants_flatMap_map h a.toList

theorem Match.instants_normal (m : Match) :
    m.normal.instants = m.instants.map Timestamp.normal :=
  rfl

theorem Message.instants_normal (m : Message) :
    m.normal.instants = m.instants.map Timestamp.normal :=
  congrArg (m.sentAt.normal :: ·) Option.toList_map

theorem Conversation.instants_normal (c : Conversation) :
    c.normal.instants = c.instants.map Timestamp.normal :=
  instants_option_map Message.instants_normal c.lastMessage

theorem Transcript.instants_normal (t : Transcript) :
    t.normal.instants = t.instants.map Timestamp.normal := by
  show t.conversation.normal.instants ++
    (t.messages.map Message.normal).flatMap Message.instants = _
  rw [t.conversation.instants_normal, instants_flatMap_map Message.instants_normal,
    ← List.map_append]
  rfl

/-- The instants of the normal value are those of the value, each made normal; nothing else in the
value is changed. -/
theorem Kind.instants_normal (k : Kind) (v : k.Carrier) :
    k.instants (k.normal v) = (k.instants v).map Timestamp.normal := by
  cases k with
  | profile => exact Option.toList_map
  | profileUpdate => exact Option.toList_map
  | swipeResult => exact instants_option_map Match.instants_normal v.matched
  | matched => rfl
  | matchList => exact instants_flatMap_map Match.instants_normal v.found
  | conversation => exact v.instants_normal
  | message => exact v.instants_normal
  | conversationList => exact instants_flatMap_map Conversation.instants_normal v.conversations
  | transcript => exact v.instants_normal
  | _ => rfl

theorem Kind.leapEndsMinute_normal (k : Kind) (v : k.Carrier) :
    ∀ t ∈ k.instants (k.normal v), t.LeapEndsMinute := by
  intro t ht
  rw [k.instants_normal] at ht
  obtain ⟨u, -, rfl⟩ := List.mem_map.mp ht
  exact u.leapEndsMinute_normal

/-! ## Its text -/

theorem toJson_instant_normal (t : Timestamp) : instant.toJson t.normal = instant.toJson t :=
  congrArg Json.str t.text_normal

theorem toJson_profile_normal (p : Profile) :
    Profile.codec.toJson p.normal = Profile.codec.toJson p :=
  toJson_record_congr ⟨⟨rfl, rfl⟩, ⟨rfl, rfl⟩, ⟨rfl, rfl⟩, ⟨rfl, rfl⟩,
    ⟨rfl, toJson_nullable_map toJson_instant_normal _⟩, ⟨rfl, rfl⟩, ⟨rfl, rfl⟩, ⟨rfl, rfl⟩, trivial⟩

/-- The one field that might be skipped is so in both. -/
theorem toJson_profileUpdate_normal (u : ProfileUpdate) :
    ProfileUpdate.codec.toJson u.normal = ProfileUpdate.codec.toJson u :=
  toJson_record_congr ⟨⟨rfl, rfl⟩, ⟨rfl, rfl⟩,
    ⟨Option.isNone_map, toJson_nullable_map toJson_instant_normal _⟩, ⟨rfl, rfl⟩, ⟨rfl, rfl⟩,
    trivial⟩

theorem toJson_match_normal (m : Match) : Match.codec.toJson m.normal = Match.codec.toJson m :=
  toJson_record_congr ⟨⟨rfl, rfl⟩, ⟨rfl, rfl⟩, ⟨rfl, rfl⟩, ⟨rfl, rfl⟩,
    ⟨rfl, toJson_instant_normal _⟩, trivial⟩

theorem toJson_message_normal (m : Message) :
    Message.codec.toJson m.normal = Message.codec.toJson m :=
  toJson_record_congr ⟨⟨rfl, rfl⟩, ⟨rfl, rfl⟩, ⟨rfl, rfl⟩, ⟨rfl, toJson_instant_normal _⟩,
    ⟨rfl, toJson_nullable_map toJson_instant_normal _⟩, trivial⟩

theorem toJson_conversation_normal (c : Conversation) :
    Conversation.codec.toJson c.normal = Conversation.codec.toJson c :=
  toJson_record_congr ⟨⟨rfl, rfl⟩, ⟨rfl, rfl⟩, ⟨rfl, toJson_nullable_map toJson_message_normal _⟩,
    ⟨rfl, rfl⟩, trivial⟩

/-- **The normal value is written as the value**, kind by kind. So the two cannot be told apart on
the wire, which is why the round trip fails for one of them. -/
theorem Kind.toJson_normal (k : Kind) (v : k.Carrier) :
    k.codec.toJson (k.normal v) = k.codec.toJson v := by
  cases k with
  | profile => exact toJson_profile_normal v
  | profileUpdate => exact toJson_profileUpdate_normal v
  | swipeResult =>
    exact toJson_record_congr ⟨⟨rfl, toJson_nullable_map toJson_match_normal _⟩, trivial⟩
  | matched => exact toJson_match_normal v
  | matchList => exact toJson_record_congr ⟨⟨rfl, toJson_list_map toJson_match_normal _⟩, trivial⟩
  | conversation => exact toJson_conversation_normal v
  | message => exact toJson_message_normal v
  | conversationList =>
    exact toJson_record_congr ⟨⟨rfl, toJson_list_map toJson_conversation_normal _⟩, trivial⟩
  | transcript =>
    exact toJson_record_congr ⟨⟨rfl, toJson_conversation_normal _⟩,
      ⟨rfl, toJson_list_map toJson_message_normal _⟩, trivial⟩
  | _ => rfl

end Rendezvous.Wire
