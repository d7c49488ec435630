/-
What a record writes, it reads.

A derived `Deserialize` reads the members of an object one after the other into slots, each by the
field that has its name. The induction over the fields needs the reader to be about the fields that
are left, while the reader that runs always has all of them. So what a list of members does to the
slots is a relation of its own, `Fields.Reads`, which is preserved by putting one more field in
front whose name none of the members has (`reads_more`). Once the slots are what the writer left in
them (`Fields.written`), a field that was left out of the text is filled in with its default.
-/
import Rendezvous.Json.Record
import Rendezvous.Proofs.Json.Codec

set_option autoImplicit false

namespace Rendezvous.Json

open Text (Utf8.encode)

/-- The text of a member, in bytes. -/
def memberBytes (m : String × Json) : List UInt8 :=
  ascii '"' :: (Utf8.encode (m.1.toList.flatMap escaped) ++
    ascii '"' :: ascii ':' :: bytes m.2)

theorem memberBytes_append (key : String) (v : Json) (s : List UInt8) :
    memberBytes (key, v) ++ s =
      ascii '"' :: (Utf8.encode (key.toList.flatMap escaped) ++
        ascii '"' :: ascii ':' :: (bytes v ++ s)) := by
  simp only [memberBytes, List.cons_append, List.append_assoc]

/-- The members of an object: the first one, and every other behind a comma. In this form the bytes
match the two ways in which the reader looks for the next member. -/
theorem encode_renderMembers (m : String × Json) (ms : List (String × Json)) :
    Utf8.encode (renderMembers (m :: ms)) =
      memberBytes m ++ ms.flatMap fun m => ascii ',' :: memberBytes m := by
  have hmember (k : String) (v : Json) (cs : List Char) :
      Utf8.encode (quoted k ++ ':' :: render v ++ cs) = memberBytes (k, v) ++ Utf8.encode cs := by
    rw [List.append_assoc, List.cons_append, Text.Utf8.encode_append, encode_quoted,
      encode_ascii (by decide), Text.Utf8.encode_append, memberBytes, bytes]
    simp only [List.cons_append, List.append_assoc, List.nil_append]
  induction ms generalizing m with
  | nil =>
    obtain ⟨k, v⟩ := m
    rw [renderMembers, List.flatMap_nil, List.append_nil, ← List.append_nil (':' :: render v),
      ← List.append_assoc, hmember, Text.Utf8.encode_nil, List.append_nil]
  | cons m' ms ih =>
    obtain ⟨k, v⟩ := m
    rw [renderMembers, hmember, encode_ascii (by decide), ih, List.flatMap_cons, List.cons_append]

/-! ## What reading a list of members does -/

variable {α : Type} {αs : List Type}

/-- Members that are read one after the other take the slots from one state to another. Each is
followed by any text that may follow a value, as the next member is. -/
def Fields.Reads (fs : Fields αs) : List (String × Json) → Slots αs → Slots αs → Prop
  | [], x, y => x = y
  | (key, v) :: ms, x, z =>
    ∃ y, (∀ s, Ends s → fs.readMember key x (ascii ':' :: (bytes v ++ s)) = .ok (y, s)) ∧
      fs.Reads ms y z

theorem readColon_colon (s : List UInt8) : readColon (ascii ':' :: s) = .ok s := by
  rw [readColon, skipBlanks_cons (by decide)]
  dsimp only
  rw [if_pos rfl]

/-- A field that no member has the name of is left alone. It is the step of the induction over
fields. -/
theorem reads_more {f : Field α} {fs : Fields αs} {ms : List (String × Json)} {slot : Option α}
    {x z : Slots αs} (h : fs.Reads ms x z) (hname : ∀ m ∈ ms, m.1 ≠ f.name) :
    (Fields.more f fs).Reads ms (slot, x) (slot, z) := by
  induction ms generalizing x with
  | nil =>
    obtain rfl : x = z := h
    rfl
  | cons m ms ih =>
    obtain ⟨key, v⟩ := m
    obtain ⟨y, hread, hrest⟩ := h
    have hkey : key ≠ f.name := hname (key, v) (List.mem_cons_self ..)
    refine ⟨(slot, y), fun s hs => ?_, ih hrest fun m hm => hname m (List.mem_cons_of_mem _ hm)⟩
    rw [Fields.readMember, if_neg hkey, hread s hs]

/-! ## Reading the members of an object -/

theorem readMembers_closed {fs : Fields αs} {first : Bool} {slots : Slots αs} {s r : List UInt8}
    {b : Values αs} (h : Fields.nextMember first s = .ok (.closed r))
    (hfill : fs.fill slots = .ok b) : fs.readMembers first slots s = .ok (b, r) := by
  rw [Fields.readMembers]
  split
  · rename_i heq
    cases h.symm.trans heq
  · rename_i heq
    obtain rfl := Next.closed.inj (Except.ok.inj (h.symm.trans heq))
    rw [hfill]
  · rename_i heq
    cases Except.ok.inj (h.symm.trans heq)

theorem readMembers_item {fs : Fields αs} {first : Bool} {slots slots' : Slots αs} {key : String}
    {s start s' r : List UInt8} (h : Fields.nextMember first s = .ok (.item start))
    (hkey : readString start = .ok (key, s'))
    (hread : fs.readMember key slots s' = .ok (slots', r)) :
    fs.readMembers first slots s = fs.readMembers false slots' r := by
  rw [Fields.readMembers]
  -- the three hypotheses decide the three matches, and every other branch contradicts one of them
  split
  · rename_i heq
    cases h.symm.trans heq
  · rename_i heq
    cases Except.ok.inj (h.symm.trans heq)
  · rename_i heq
    obtain rfl := Next.item.inj (Except.ok.inj (h.symm.trans heq))
    split
    · rename_i heq
      cases hkey.symm.trans heq
    · rename_i heq
      obtain ⟨rfl, rfl⟩ := Prod.mk.inj (Except.ok.inj (hkey.symm.trans heq))
      split
      · rename_i heq
        cases hread.symm.trans heq
      · rename_i heq
        obtain ⟨rfl, rfl⟩ := Prod.mk.inj (Except.ok.inj (hread.symm.trans heq))
        rfl

theorem nextMember_closed (first : Bool) (s : List UInt8) :
    Fields.nextMember first (ascii '\x7D' :: s) = .ok (.closed s) := by
  rw [Fields.nextMember, skipBlanks_cons (by decide)]
  dsimp only
  rw [if_pos rfl]

theorem nextMember_first (s : List UInt8) :
    Fields.nextMember true (ascii '"' :: s) = .ok (.item s) := by
  rw [Fields.nextMember, skipBlanks_cons (by decide)]
  dsimp only
  rw [if_neg (by decide), if_pos rfl, if_pos rfl]

theorem nextMember_comma (s : List UInt8) :
    Fields.nextMember false (ascii ',' :: ascii '"' :: s) = .ok (.item s) := by
  rw [Fields.nextMember, skipBlanks_cons (by decide)]
  dsimp only
  rw [if_neg (by decide), if_neg Bool.false_ne_true, if_pos rfl, skipBlanks_cons (by decide)]
  dsimp only
  rw [if_pos rfl]

/-- What follows a member: the closing brace, or a comma. -/
theorem ends_members (ms : List (String × Json)) (s : List UInt8) :
    Ends (ms.flatMap (fun m => ascii ',' :: memberBytes m) ++ ascii '\x7D' :: s) := by
  cases ms with
  | nil => exact ends_brace s
  | cons m ms => exact ends_comma _

/-- The members behind the first one. -/
theorem readMembers_rest {fs : Fields αs} {ms : List (String × Json)} {x z : Slots αs}
    {b : Values αs} (h : fs.Reads ms x z) (hfill : fs.fill z = .ok b) (s : List UInt8) :
    fs.readMembers false x
        (ms.flatMap (fun m => ascii ',' :: memberBytes m) ++ ascii '\x7D' :: s) = .ok (b, s) := by
  induction ms generalizing x with
  | nil =>
    obtain rfl : x = z := h
    rw [List.flatMap_nil, List.nil_append, readMembers_closed (nextMember_closed false s) hfill]
  | cons m ms ih =>
    obtain ⟨key, v⟩ := m
    obtain ⟨y, hread, hrest⟩ := h
    rw [List.flatMap_cons, List.append_assoc, List.cons_append, memberBytes_append,
      readMembers_item (nextMember_comma _) (readString_quoted key _) (hread _ (ends_members ms s))]
    exact ih hrest

/-- **Members that fill the slots are read**, up to the closing brace. -/
theorem readMembers_of_reads {fs : Fields αs} {ms : List (String × Json)} {x z : Slots αs}
    {b : Values αs} (h : fs.Reads ms x z) (hfill : fs.fill z = .ok b) (s : List UInt8) :
    fs.readMembers true x (Utf8.encode (renderMembers ms) ++ ascii '\x7D' :: s) = .ok (b, s) := by
  cases ms with
  | nil =>
    obtain rfl : x = z := h
    rw [renderMembers, Text.Utf8.encode_nil, List.nil_append,
      readMembers_closed (nextMember_closed true s) hfill]
  | cons m ms =>
    obtain ⟨key, v⟩ := m
    obtain ⟨y, hread, hrest⟩ := h
    rw [encode_renderMembers, List.append_assoc, memberBytes_append,
      readMembers_item (nextMember_first _) (readString_quoted key _)
        (hread _ (ends_members ms s))]
    exact readMembers_rest hrest hfill s

/-! ## Records that are recovered -/

/-- A field gives a value back: from its member if it is written, and from its default if it is
skipped. -/
structure Field.Recovers (f : Field α) (a : α) : Prop where
  shown : f.hidden a = false → f.codec.Recovers a
  left : f.hidden a = true → f.missing = some a

theorem Field.recovers_required {name : String} {c : Codec α} {a : α} (h : c.Recovers a) :
    (Field.required name c).Recovers a :=
  ⟨fun _ => h, nofun⟩

theorem Field.recovers_optional {name : String} {c : Codec α} {a : Option α}
    (h : ∀ b, a = some b → c.Recovers b ∧ c.toJson b ≠ .null) :
    (Field.optional name c).Recovers a := by
  refine ⟨fun _ => ?_, nofun⟩
  cases a with
  | none => exact recovers_none c
  | some b => exact recovers_some (h b rfl).1 (h b rfl).2

theorem Field.recovers_defaulted {name : String} {c : Codec α} {value a : α} (h : c.Recovers a) :
    (Field.defaulted name c value).Recovers a :=
  ⟨fun _ => h, nofun⟩

theorem Field.recovers_ifSet {name : String} {c : Codec α} {a : Option α}
    (h : ∀ b, a = some b → c.Recovers b ∧ c.toJson b ≠ .null) :
    (Field.ifSet name c).Recovers a := by
  refine ⟨fun hshown => ?_, fun hleft => ?_⟩
  · cases a with
    | none => cases hshown
    | some b => exact recovers_some (h b rfl).1 (h b rfl).2
  · cases a with
    | none => rfl
    | some b => cases hleft

/-- Every field gives its value back. -/
def Fields.Recovers {αs : List Type} : Fields αs → Values αs → Prop
  | .done, _ => True
  | .more f rest, (a, b) => f.Recovers a ∧ rest.Recovers b

/-- What has been read once all members that were written have been: a slot is empty exactly if its
field was skipped. -/
def Fields.written {αs : List Type} : Fields αs → Values αs → Slots αs
  | .done, _ => ()
  | .more f rest, (a, b) => (if f.hidden a then none else some a, rest.written b)

/-- A member has the name of a field. -/
theorem fst_mem_names {fs : Fields αs} {b : Values αs} {m : String × Json}
    (hm : m ∈ fs.members b) : m.1 ∈ fs.names := by
  induction fs with
  | done => cases hm
  | more f rest ih =>
    obtain ⟨a, b⟩ := b
    rw [Fields.members] at hm
    split at hm
    · exact List.mem_cons_of_mem _ (ih hm)
    · rcases List.mem_cons.mp hm with rfl | hm
      · exact List.mem_cons_self ..
      · exact List.mem_cons_of_mem _ (ih hm)

/-- The members that are written are read back, field by field. The names have to be distinct, or a
member would be taken by the wrong field. -/
theorem reads_members {fs : Fields αs} {b : Values αs} (hnames : fs.names.Nodup)
    (h : fs.Recovers b) : fs.Reads (fs.members b) (Slots.none αs) (fs.written b) := by
  induction fs with
  | done => rfl
  | more f rest ih =>
    obtain ⟨a, b⟩ := b
    obtain ⟨hf, hrest⟩ := h
    obtain ⟨hnot, hnodup⟩ := List.nodup_cons.mp hnames
    have hother : ∀ m ∈ rest.members b, m.1 ≠ f.name := fun m hm heq =>
      hnot (heq ▸ fst_mem_names hm)
    have hreads : (Fields.more f rest).Reads (rest.members b)
        (if f.hidden a then none else some a, Slots.none _)
        (if f.hidden a then none else some a, rest.written b) :=
      reads_more (ih hnodup hrest) hother
    cases hhidden : f.hidden a with
    | true =>
      -- there is no member for this field, and its slot stays empty
      rw [hhidden, if_pos rfl] at hreads
      rw [Fields.members, Fields.written, hhidden, if_pos rfl, if_pos rfl]
      exact hreads
    | false =>
      rw [hhidden, if_neg Bool.false_ne_true] at hreads
      rw [Fields.members, Fields.written, hhidden, if_neg Bool.false_ne_true,
        if_neg Bool.false_ne_true]
      -- its member comes first, and the slot is still empty then
      refine ⟨(some a, Slots.none _), fun s hs => ?_, hreads⟩
      rw [Slots.none, Fields.readMember, if_pos rfl, if_neg (by exact Bool.false_ne_true),
        readColon_colon]
      dsimp only
      rw [(hf.shown hhidden).read_bytes s hs]

/-- What is left out is filled in. -/
theorem fill_written {fs : Fields αs} {b : Values αs} (h : fs.Recovers b) :
    fs.fill (fs.written b) = .ok b := by
  induction fs with
  | done => rfl
  | more f rest ih =>
    obtain ⟨a, b⟩ := b
    obtain ⟨hf, hrest⟩ := h
    have hslot : (if f.hidden a then none else some a).or f.missing = some a := by
      cases hhidden : f.hidden a with
      | true => exact hf.left hhidden
      | false => rfl
    rw [Fields.written, Fields.fill, hslot]
    dsimp only
    rw [ih hrest]

/-- A record is read from an object whose members take the slots to what was written. The members
need not be in the order of the fields, which `read_record_of_perm` makes use of. -/
theorem readRecord_obj {name : String} {fs : Fields αs} {b : Values αs} (h : fs.Recovers b)
    {ms : List (String × Json)} (hreads : fs.Reads ms (Slots.none αs) (fs.written b))
    (s : List UInt8) : readRecord name fs ((Json.obj ms).bytes ++ s) = .ok (b, s) := by
  have hread := readMembers_of_reads hreads (fill_written h) s
  rw [bytes_obj, List.cons_append, readRecord, skipBlanks_cons (by decide)]
  dsimp only
  rw [if_neg (by decide), if_pos rfl, List.append_assoc, List.singleton_append, hread]

/-- **A record is recovered if its fields are**, each by its own name. Two fields of one name would
read each other's member. -/
theorem recovers_record {name : String} {fs : Fields αs} {make : Values αs → α}
    {parts : α → Values αs} {a : α} (hnames : fs.names.Nodup) (hmake : make (parts a) = a)
    (h : fs.Recovers (parts a)) : (Codec.record name fs make parts).Recovers a where
  whole _ := nofun
  read_bytes s _ := by
    have hrecord : readRecord name fs ((Json.obj (fs.members (parts a))).bytes ++ s) =
        .ok (parts a, s) := readRecord_obj h (reads_members hnames h) s
    simp only [Codec.record, hrecord, hmake]

end Rendezvous.Json
