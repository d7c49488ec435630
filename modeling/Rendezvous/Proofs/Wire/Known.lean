/-
What is decoded depends on the known members alone.

None of the structs of the service denies unknown fields, and most optional ones have a
`serde(default)`. So a text may be reworded in ways that make no difference: blanks between the
tokens, the order of the members, members that no field has the name of, and members left out whose
value is `null` or an empty list. All that may happen at any depth where a value of a kind stands
(`Kind.Inside`), and as often as one likes. And a text in which a known member comes twice, or a
required one is missing, is refused, at whatever depth.

A key is a text here: one that spells no text, for half of a surrogate pair stands alone in it, is
refused wherever a key is read. The value of a member that is not known may be anything, such halves
included.
-/
import Mathlib.Logic.Relation
import Rendezvous.Proofs.Wire.Outline
import Rendezvous.Proofs.Wire.RoundTrip

set_option autoImplicit false

namespace Rendezvous.Wire

open Json

/-! ## Where values stand

A value is reached from the whole document through members and elements. Each step is a
`Codec.Within`, and so is the whole way. -/

/-- Where in the value of a member a value of a kind stands. -/
inductive Content.Holds (k : Kind) : Content → (Doc → Doc) → Prop
  | one : Content.Holds k (.one k) fun d => d
  | maybe : Content.Holds k (.maybe k) fun d => d
  | many (before after : List Doc) :
      Content.Holds k (.many k) fun d => .list (before ++ d :: after)

/-- Where in a document of a kind a value of another one stands: it is the document, or it stands in
a known member of an object, or in an element in the place of a known member. -/
inductive Kind.Inside (k : Kind) : Kind → (Doc → Doc) → Prop
  | whole : Kind.Inside k k fun d => d
  | member {outer middle : Kind} {e : Entry} {key : List Piece} {place around : Doc → Doc}
      (before after : Members) (he : e ∈ outer.outline) (hkey : text? key = some e.name)
      (hplace : e.content.Holds middle place) (h : Kind.Inside k middle around) :
      Kind.Inside k outer fun d => .object (before ++ (key, place (around d)) :: after)
  | element {outer middle : Kind} {e : Entry} {place around : Doc → Doc} (before after : List Doc)
      (he : outer.outline[before.length]? = some e) (hplace : e.content.Holds middle place)
      (h : Kind.Inside k middle around) :
      Kind.Inside k outer fun d => .list (before ++ place (around d) :: after)

theorem Content.Holds.within {k : Kind} {content : Content} {place : Doc → Doc} {α : Type}
    {c : Codec α} (h : content.Holds k place) (hfits : content.Fits c) :
    k.codec.Within c place := by
  cases h with
  | one =>
    cases hfits
    exact within_self _
  | maybe =>
    cases hfits
    exact within_nullable k.definite
  | many before after =>
    cases hfits
    exact within_list k.definite before after

/-- **What is read from a document depends on what is read from the values in it.** The induction is
on the way from the document to the value. -/
theorem Kind.Inside.within {k outer : Kind} {around : Doc → Doc} (h : k.Inside outer around) :
    k.codec.Within outer.codec around := by
  -- outwards, from the value to what it stands in
  induction h with
  | whole => exact within_self _
  | member before after he hkey hplace _ ih =>
    have hout := Kind.outlined (Kind.isRecord_of_mem he)
    obtain ⟨β, part, hfits, hmember⟩ := hout.exists_within_member he hkey before after
    exact ih.trans ((hplace.within hfits).trans hmember)
  | element before after he hplace _ ih =>
    have hout := Kind.outlined (Kind.isRecord_of_mem (List.mem_of_getElem? he))
    obtain ⟨β, part, hfits, hrow⟩ := hout.exists_within_row he after
    exact ih.trans ((hplace.within hfits).trans hrow)

/-! ## What makes no difference, and what is refused -/

/-- Members are changed in a way that makes no difference. These are the three promises of the
attributes of the wire types: order does not matter, unknown members are ignored, and some members
may be missing. -/
inductive Kind.Change (k : Kind) : Members → Members → Prop
  /-- they come in another order -/
  | reorder {ms ms' : Members} (h : ms.Perm ms') : Kind.Change k ms ms'
  /-- there is one more, which is not known -/
  | insert {key : List Piece} {name : String} (d : Doc) (before after : Members)
      (hkey : text? key = some name) (hname : name ∉ k.outline.map Entry.name) :
      Kind.Change k (before ++ after) (before ++ (key, d) :: after)
  /-- a known one is left out that may be, and no other one has its name -/
  | leaveOut {e : Entry} {key : List Piece} {d : Doc} (before after : Members)
      (he : e ∈ k.outline) (hkey : text? key = some e.name) (hd : e.presence.spare? = some d)
      (hfound : Members.found (before ++ after) e.name = []) :
      Kind.Change k (before ++ (key, d) :: after) (before ++ after)

/-- Members cannot be those of a value. -/
inductive Kind.Flaw (k : Kind) (ms : Members) : Prop
  /-- a known one comes twice -/
  | twice {e : Entry} (he : e ∈ k.outline) (h : 2 ≤ (ms.found e.name).length)
  /-- one that has to be there is missing -/
  | missing {e : Entry} (he : e ∈ k.outline) (hneeded : e.presence = .needed)
      (h : ms.found e.name = [])

/-- A document of a kind is another one but for a change that makes no difference, at some depth. -/
inductive Kind.Reworded (k : Kind) : Doc → Doc → Prop
  | change {inner : Kind} {around : Doc → Doc} {ms ms' : Members} (hrecord : inner.IsRecord)
      (hinside : inner.Inside k around) (h : inner.Change ms ms') :
      Kind.Reworded k (around (.object ms)) (around (.object ms'))

/-- A document of a kind has a flaw, at some depth. -/
inductive Kind.Flawed (k : Kind) : Doc → Prop
  | flaw {inner : Kind} {around : Doc → Doc} {ms : Members} (hinside : inner.Inside k around)
      (h : inner.Flaw ms) : Kind.Flawed k (around (.object ms))

theorem Kind.Change.value?_eq {k : Kind} {ms ms' : Members} (hrecord : k.IsRecord)
    (h : k.Change ms ms') : k.codec.value? (.object ms) = k.codec.value? (.object ms') := by
  have hout := Kind.outlined hrecord
  cases h with
  | reorder h => exact hout.value?_perm h
  | insert d before after hkey hname =>
    exact (hout.value?_insert hkey hname d before after).symm
  | leaveOut before after he hkey hd hfound => exact hout.value?_leave_out he hkey hd hfound

theorem Kind.Flaw.value?_eq_none {k : Kind} {ms : Members} (h : k.Flaw ms) :
    k.codec.value? (.object ms) = none := by
  cases h with
  | twice he h => exact (Kind.outlined (Kind.isRecord_of_mem he)).value?_twice he h
  | missing he hneeded h =>
    exact (Kind.outlined (Kind.isRecord_of_mem he)).value?_missing he hneeded h

theorem Kind.Reworded.value?_eq {k : Kind} {d d' : Doc} (h : k.Reworded d d') :
    k.codec.value? d = k.codec.value? d' := by
  obtain ⟨hrecord, hinside, h⟩ := h
  exact hinside.within.value?_eq (object_ne_null _) (object_ne_null _) (h.value?_eq hrecord)

theorem Kind.Flawed.value?_eq_none {k : Kind} {d : Doc} (h : k.Flawed d) :
    k.codec.value? d = none := by
  obtain ⟨hinside, h⟩ := h
  exact hinside.within.value?_eq_none (object_ne_null _) h.value?_eq_none

/-- However many changes there are, in either direction. -/
theorem Kind.value?_eq_of_eqvGen {k : Kind} {d d' : Doc} (h : Relation.EqvGen k.Reworded d d') :
    k.codec.value? d = k.codec.value? d' := by
  induction h with
  | rel d d' h => exact h.value?_eq
  | refl d => rfl
  | symm d d' _ ih => exact ih.symm
  | trans d₁ d₂ d₃ _ _ ih ih' => exact ih.trans ih'

/-- **Decoding depends only on the known members.** Texts of documents that are the same but for
changes that make no difference are read as the same value, or are both refused; and the texts of a
document with a flaw are refused. -/
theorem Kind.decode_goes_by_known_members (k : Kind) :
    (∀ {d d' : Doc} {t t' : List UInt8}, Relation.EqvGen k.Reworded d d' → d.Writes t →
      d'.Writes t' → (k.codec.decode t).toOption = (k.codec.decode t').toOption) ∧
    (∀ {d : Doc} {t : List UInt8}, k.Flawed d → d.Writes t →
      ∃ why, k.codec.decode t = .error why) := by
  constructor
  · intro d d' t t' h ht ht'
    rw [k.definite.decode ht, k.definite.decode ht', value?_eq_of_eqvGen h]
  · intro d t h ht
    have hnone : (k.codec.decode t).toOption = none :=
      (k.definite.decode ht).trans h.value?_eq_none
    cases hdecode : k.codec.decode t with
    | error why => exact ⟨why, rfl⟩
    | ok a =>
      rw [hdecode] at hnone
      cases hnone

theorem decode_goes_by_known_members_swipeResult :
    (Kind.swipeResult.codec.decode
      (Doc.object [(plainPieces ['s', 'e', 'e', 'n'] (by decide), .list [.null])]).text).toOption =
        some ⟨none⟩ ∧
    ∃ why, Kind.swipeResult.codec.decode
      (Doc.object [(plainPieces ['m', 'a', 't', 'c', 'h'] (by decide), .object [])]).text =
        .error why := by
  generalize hseen : plainPieces ['s', 'e', 'e', 'n'] (by decide) = seen
  generalize hmatch : plainPieces ['m', 'a', 't', 'c', 'h'] (by decide) = key
  have hname : text? seen = some "seen" := by
    rw [← hseen]
    decide
  have hkey : text? key = some "match" := by
    rw [← hmatch]
    decide
  constructor
  · -- both might as well have no members at all
    have hrecord : Kind.swipeResult.IsRecord := ⟨by decide, by decide⟩
    have hinsert : Kind.swipeResult.Change [] [(seen, .list [.null])] :=
      .insert _ [] [] hname (by decide)
    have hleave : Kind.swipeResult.Change [(key, .null)] [] :=
      .leaveOut [] [] (List.mem_cons_self ..) hkey rfl rfl
    have hsame : Relation.EqvGen Kind.swipeResult.Reworded (.object [(seen, .list [.null])])
        (.object [(key, .null)]) :=
      .trans _ _ _ (.symm _ _ (.rel _ _ (.change hrecord .whole hinsert)))
        (.symm _ _ (.rel _ _ (.change hrecord .whole hleave)))
    have hwritten : (Doc.object [(key, .null)]).text =
        Text.Utf8.bytes (SwipeResult.codec.encode ⟨none⟩) := by
      rw [← hmatch]
      decide
    rw [Kind.swipeResult.decode_goes_by_known_members.1 hsame (Doc.writes_text _)
      (Doc.writes_text _), hwritten]
    have hnone : ∀ t ∈ (SwipeResult.mk none).instants, t.LeapEndsMinute :=
      fun _ ht => absurd ht List.not_mem_nil
    show (SwipeResult.codec.decode _).toOption = _
    rw [(recovers_swipeResult hnone).decode_encode]
    rfl
  · have hinside : Kind.matched.Inside .swipeResult fun d => .object ([] ++ (key, d) :: []) :=
      .member [] [] (List.mem_cons_self ..) hkey .maybe .whole
    have hflaw : Kind.matched.Flaw [] := .missing (List.mem_cons_self ..) rfl rfl
    exact Kind.swipeResult.decode_goes_by_known_members.2 (.flaw hinside hflaw)
      (Doc.writes_text _)

end Rendezvous.Wire
