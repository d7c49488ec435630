/-
What a record reads from an object, and from a list.

A derived `Deserialize` takes an object or a list. From an object every field takes the members that
have its name. If there is one, the field has its value; if there is none, it has its default, if it
has one; if there are two or more, the record is refused (`Field.settle`). Of the other members only
the keys are looked at, which have to be texts. Nothing in that depends on the order of the members
or on what stands between them, and it is what reading the members one after the other comes to
(`toOption_readMembers`).

From a list every field takes the element in its place.
-/
import Rendezvous.Json.Record
import Rendezvous.Proofs.Json.Definite

set_option autoImplicit false

namespace Rendezvous.Json

variable {α : Type} {αs : List Type}

/-! ## What is gathered

`Fields.gather` looks at all members at once, for each field in turn. `Fields.put` looks at one
member, as the reader does. `gather_cons` is the bridge. -/

/-- The values of the members with a name, in their order. -/
def Members.found (ms : Members) (name : String) : List Doc :=
  ms.filterMap fun m => if text? m.1 = some name then some m.2 else none

/-- Every key is a text: none has half of a surrogate pair standing alone. The key of an unknown
member is read too, and refused if it has no text. -/
def Members.Keyed (ms : Members) : Prop :=
  ∀ m ∈ ms, (text? m.1).isSome = true

theorem keyed_nil : Members.Keyed [] :=
  List.forall_mem_nil _

instance (ms : Members) : Decidable ms.Keyed :=
  inferInstanceAs (Decidable (∀ m ∈ ms, (text? m.1).isSome = true))

/-- The value of a field, from what has been read of it already and from the members with its name
that are still to come. Two of them, or one more than has been read, are a duplicate. -/
def Field.settle (f : Field α) : Option α → List Doc → Option α
  | slot, [] => slot.or f.missing
  | none, [d] => f.codec.value? d
  | _, _ => none

/-- The values of all fields, from what has been read already and from the members that are still to
come. -/
def Fields.gather {αs : List Type} : Fields αs → Slots αs → Members → Option (Values αs)
  | .done, _, _ => some ()
  | .more f rest, (slot, slots), ms =>
    (f.settle slot (ms.found f.name)).bind fun a =>
      (rest.gather slots ms).map fun b => (a, b)

/-- The value of a field from a member, if none has been read yet. -/
def Field.take (f : Field α) (slot : Option α) (d : Doc) : Option α :=
  if slot.isSome then none else f.codec.value? d

/-- What a member does to what has been read: it fills the slot of its name, or no slot. -/
def Fields.put {αs : List Type} : Fields αs → String → Slots αs → Doc → Option (Slots αs)
  | .done, _, slots, _ => some slots
  | .more f rest, key, (slot, slots), d =>
    if key = f.name then (f.take slot d).map fun a => (some a, slots)
    else (rest.put key slots d).map fun slots => (slot, slots)

/-- Every field has a definite codec. -/
def Fields.Definite {αs : List Type} : Fields αs → Prop
  | .done => True
  | .more f rest => f.codec.Definite ∧ rest.Definite

theorem found_cons_self {key : List Piece} {name : String} (h : text? key = some name) (d : Doc)
    (ms : Members) : Members.found ((key, d) :: ms) name = d :: Members.found ms name := by
  rw [Members.found, List.filterMap_cons, if_pos h]
  rfl

theorem found_cons_ne {key : List Piece} {name other : String} (h : text? key = some name)
    (hne : name ≠ other) (d : Doc) (ms : Members) :
    Members.found ((key, d) :: ms) other = Members.found ms other := by
  have hkey : text? key ≠ some other := by
    rw [h]
    exact fun heq => hne (Option.some.inj heq)
  rw [Members.found, List.filterMap_cons, if_neg hkey]
  rfl

/-- A field is settled member by member. The first member takes the place of what the slot held, and
is refused if the slot was not empty: duplicates are an error. -/
theorem settle_cons (f : Field α) (slot : Option α) (d : Doc) (ds : List Doc) :
    f.settle slot (d :: ds) = (f.take slot d).bind fun a => f.settle (some a) ds := by
  rw [Field.take]
  cases slot with
  | some a => cases ds <;> rfl
  | none =>
    rw [if_neg (by exact Bool.false_ne_true)]
    cases ds with
    | nil =>
      rw [Field.settle]
      cases f.codec.value? d <;> rfl
    | cons d' ds =>
      -- a second one is one too many, whatever the first one was
      cases f.codec.value? d with
      | none => rfl
      | some a => cases ds <;> rfl

/-- A member that no field has the name of makes no difference. -/
theorem gather_cons_of_not_mem {fs : Fields αs} {key : List Piece} {name : String}
    (hkey : text? key = some name) (hname : name ∉ fs.names) (slots : Slots αs) (d : Doc)
    (ms : Members) : fs.gather slots ((key, d) :: ms) = fs.gather slots ms := by
  induction fs with
  | done => rfl
  | more f rest ih =>
    obtain ⟨slot, slots⟩ := slots
    have hne : name ≠ f.name := List.ne_of_not_mem_cons hname
    have hrest : name ∉ rest.names := List.not_mem_of_not_mem_cons hname
    rw [Fields.gather, Fields.gather, found_cons_ne hkey hne, ih hrest]

/-- **Gathering goes member by member**, so that the reader, which meets one at a time, gathers. The
induction is on the fields; the name of the member belongs to one of them at most. -/
theorem gather_cons {fs : Fields αs} (hnames : fs.names.Nodup) {key : List Piece} {name : String}
    (hkey : text? key = some name) (slots : Slots αs) (d : Doc) (ms : Members) :
    fs.gather slots ((key, d) :: ms) =
      (fs.put name slots d).bind fun slots => fs.gather slots ms := by
  induction fs with
  | done => rfl
  | more f rest ih =>
    obtain ⟨slot, slots⟩ := slots
    obtain ⟨hnot, hrest⟩ := List.nodup_cons.mp hnames
    rw [Fields.gather, Fields.put]
    by_cases hname : name = f.name
    · -- the member belongs to this field, and then to none of the rest
      subst hname
      rw [if_pos rfl, found_cons_self hkey, gather_cons_of_not_mem hkey hnot, settle_cons]
      cases f.take slot d with
      | none => rfl
      | some a => rfl
    · rw [if_neg hname, found_cons_ne hkey hname, ih hrest]
      cases rest.put name slots d with
      | some slots' => rfl
      | none =>
        cases f.settle slot (Members.found ms f.name) with
        | none => rfl
        | some a => rfl

/-! ## Reading an object -/

/-- **A member is read** into its slot, passed over, or refused. The place of the field does not
matter, since each name occurs once among the fields. -/
theorem toOption_readMember {fs : Fields αs} (h : fs.Definite) {d : Doc} {t : List UInt8}
    (ht : d.Spells t) {e e₁ : List UInt8} (he : Blank e) (he₁ : Blank e₁) {r : List UInt8}
    (hr : Apart r) (name : String) (slots : Slots αs) :
    (fs.readMember name slots (e ++ ascii ':' :: (e₁ ++ (t ++ r)))).toOption =
      (fs.put name slots d).map fun slots => (slots, r) := by
  induction fs with
  -- no field has the name: the value is skipped, whatever it is
  | done =>
    rw [Fields.readMember, readColon_append he]
    dsimp only
    rw [skipValue_append ht he₁ hr]
    rfl
  | more f rest ih =>
    obtain ⟨slot, slots⟩ := slots
    rw [Fields.readMember, Fields.put]
    by_cases hname : name = f.name
    · rw [if_pos hname, if_pos hname, Field.take]
      cases slot with
      | some a =>
        -- the field has been read already, so the member is a duplicate
        rw [if_pos (by rfl), if_pos (by rfl)]
        rfl
      | none =>
        rw [if_neg (by exact Bool.false_ne_true), if_neg (by exact Bool.false_ne_true),
          readColon_append he]
        dsimp only
        have hread := h.1.reads.toOption_read ht he₁ hr
        rcases error_or_ok hread with ⟨hnone, why, hwhy⟩ | ⟨a, ha, hok⟩
        · rw [hwhy, hnone]
          rfl
        · rw [hok, ha]
          rfl
    · rw [if_neg hname, if_neg hname]
      rcases error_or_ok (ih h.2 slots) with ⟨hnone, why, hwhy⟩ | ⟨slots', hslots, hok⟩
      · rw [hwhy, hnone]
        rfl
      · rw [hok, hslots]
        rfl

/-- What is left when no members are left: each empty slot falls back to the default of its field,
and a field without one makes the record fail. -/
theorem toOption_fill (fs : Fields αs) (slots : Slots αs) :
    (fs.fill slots).toOption = fs.gather slots [] := by
  induction fs with
  | done => rfl
  | more f rest ih =>
    obtain ⟨slot, slots⟩ := slots
    rw [Fields.fill, Fields.gather]
    show _ = (slot.or f.missing).bind _
    cases slot.or f.missing with
    | none => rfl
    | some a =>
      rw [Option.bind_some, ← ih]
      dsimp only
      cases rest.fill slots with
      | error name => rfl
      | ok b => rfl

theorem nextMember_closing (first : Bool) {e : List UInt8} (he : Blank e) (s : List UInt8) :
    Fields.nextMember first (e ++ ascii '\x7D' :: s) = .ok (.closed s) := by
  rw [Fields.nextMember, skipBlanks_append he, skipBlanks_cons (by decide)]
  dsimp only
  rw [if_pos rfl]

theorem nextMember_opening {e : List UInt8} (he : Blank e) (s : List UInt8) :
    Fields.nextMember true (e ++ ascii '"' :: s) = .ok (.item s) := by
  rw [Fields.nextMember, skipBlanks_append he, skipBlanks_cons (by decide)]
  dsimp only
  rw [if_neg (by decide), if_pos rfl, if_pos rfl]

theorem nextMember_further {e e₀ : List UInt8} (he : Blank e) (he₀ : Blank e₀)
    (s : List UInt8) :
    Fields.nextMember false (e ++ ascii ',' :: (e₀ ++ ascii '"' :: s)) = .ok (.item s) := by
  rw [Fields.nextMember, skipBlanks_append he, skipBlanks_cons (by decide)]
  dsimp only
  rw [if_neg (by decide), if_neg Bool.false_ne_true, if_pos rfl, skipBlanks_append he₀,
    skipBlanks_cons (by decide)]
  dsimp only
  rw [if_pos rfl]

/-- At the closing brace nothing is to come, and the defaults are filled in. -/
theorem toOption_readMembers_closed {fs : Fields αs} {first : Bool} {slots : Slots αs}
    {s r : List UInt8} (h : Fields.nextMember first s = .ok (.closed r)) :
    (fs.readMembers first slots s).toOption = (fs.gather slots []).map fun b => (b, r) := by
  rw [← toOption_fill, Fields.readMembers]
  split
  · rename_i heq
    cases h.symm.trans heq
  · rename_i heq
    obtain rfl := Next.closed.inj (Except.ok.inj (h.symm.trans heq))
    cases fs.fill slots with
    | error name => rfl
    | ok b => rfl
  · rename_i heq
    cases Except.ok.inj (h.symm.trans heq)

/-- The next member is read, or the object is refused. The key comes first and may be refused on its
own, even if no field would have taken it. -/
theorem toOption_readMembers_item {fs : Fields αs} {first : Bool} {slots : Slots αs}
    {s start : List UInt8} (h : Fields.nextMember first s = .ok (.item start)) :
    (fs.readMembers first slots s).toOption =
      (readString start).toOption.bind fun p =>
        (fs.readMember p.1 slots p.2).toOption.bind fun q =>
          (fs.readMembers false q.1 q.2).toOption := by
  rw [Fields.readMembers]
  split
  · rename_i heq
    cases h.symm.trans heq
  · rename_i heq
    cases Except.ok.inj (h.symm.trans heq)
  · rename_i heq
    -- only this branch agrees with what comes next in the text
    obtain rfl := Next.item.inj (Except.ok.inj (h.symm.trans heq))
    split
    · rename_i heq
      rw [heq]
      rfl
    · rename_i heq
      rw [heq]
      show _ = (fs.readMember _ slots _).toOption.bind _
      split
      · rename_i heq
        rw [heq]
        rfl
      · rename_i heq
        rw [heq]
        rfl

/-- What a record reads from the members of an object. -/
def Fields.ofMembers (fs : Fields αs) (slots : Slots αs) (ms : Members) : Option (Values αs) :=
  if ms.Keyed then fs.gather slots ms else none

theorem ofMembers_cons {fs : Fields αs} (hnames : fs.names.Nodup) (key : List Piece) (d : Doc)
    (ms : Members) (slots : Slots αs) :
    fs.ofMembers slots ((key, d) :: ms) =
      (text? key).bind fun name =>
        (fs.put name slots d).bind fun slots => fs.ofMembers slots ms := by
  have hkeyed : Members.Keyed ((key, d) :: ms) ↔ (text? key).isSome = true ∧ ms.Keyed :=
    List.forall_mem_cons
  cases hkey : text? key with
  | none =>
    -- the first key has no text, and the object is refused whatever follows
    have hnot : ¬ Members.Keyed ((key, d) :: ms) := by
      rw [hkeyed, hkey]
      exact fun h => Bool.false_ne_true h.1
    rw [Fields.ofMembers, if_neg hnot]
    rfl
  | some name =>
    rw [Option.bind_some]
    simp only [Fields.ofMembers]
    by_cases hms : ms.Keyed
    · have hall : Members.Keyed ((key, d) :: ms) := hkeyed.mpr ⟨by rw [hkey]; rfl, hms⟩
      simp only [if_pos hall, if_pos hms]
      exact gather_cons hnames hkey slots d ms
    · have hnot : ¬ Members.Keyed ((key, d) :: ms) := fun h => hms (hkeyed.mp h).2
      simp only [if_neg hnot, if_neg hms]
      cases fs.put name slots d with
      | none => rfl
      | some slots' => rfl

/-- A member, and what follows it. The key is refused, the value is refused, or the reading goes on
with the slots that the value has been put into. -/
theorem toOption_readMembers_member {fs : Fields αs} (h : fs.Definite) {first : Bool}
    {slots : Slots αs} {s : List UInt8} {key : List Piece} {d : Doc} {t w : List UInt8}
    (ht : d.Spells t) {e e₁ : List UInt8} (he : Blank e) (he₁ : Blank e₁) (hw : Apart w)
    (hnext : Fields.nextMember first s =
      .ok (.item (pieceBytes key ++ ascii '"' :: (e ++ ascii ':' :: (e₁ ++ (t ++ w)))))) :
    (fs.readMembers first slots s).toOption =
      (text? key).bind fun name => (fs.put name slots d).bind fun slots =>
        (fs.readMembers false slots w).toOption := by
  rw [toOption_readMembers_item hnext, toOption_readString, Option.bind_map]
  refine congrArg (Option.bind (text? key)) (funext fun name => ?_)
  rw [Function.comp_apply, toOption_readMember h ht he he₁ hw, Option.bind_map]
  rfl

/-- The members behind the first one, by induction on them. The slots are general in it: they hold
what has been read so far. -/
theorem toOption_readMembers_rest {fs : Fields αs} (h : fs.Definite) (hnames : fs.names.Nodup)
    {ms : Members} {u : List UInt8} (hms : SpellsMembers ms u) (slots : Slots αs)
    (r : List UInt8) :
    (fs.readMembers false slots (u ++ r)).toOption =
      (fs.ofMembers slots ms).map fun b => (b, r) := by
  induction ms generalizing slots u with
  | nil =>
    obtain ⟨e, he, rfl⟩ := hms
    rw [List.append_assoc, List.singleton_append,
      toOption_readMembers_closed (nextMember_closing false he r), Fields.ofMembers,
      if_pos keyed_nil]
  | cons m ms ih =>
    obtain ⟨key, d⟩ := m
    obtain ⟨e, e₀, e₁, e₂, t, u, he, he₀, he₁, he₂, ht, hu, rfl⟩ := hms
    -- behind a member that was read stands a comma, and then the next key
    have hnext := nextMember_further he he₀
      (pieceBytes key ++ ascii '"' :: (e₁ ++ ascii ':' :: (e₂ ++ (t ++ (u ++ r)))))
    simp only [stringBytes, List.append_assoc, List.cons_append, List.nil_append]
    rw [toOption_readMembers_member h ht he₁ he₂ (apart_members hu r) hnext,
      ofMembers_cons hnames]
    cases text? key with
    | none => rfl
    | some name =>
      rw [Option.bind_some, Option.bind_some]
      cases fs.put name slots d with
      | none => rfl
      -- the value went into its slot; the members behind it are read with what has been kept so far
      | some slots' => exact ih hu slots'

/-- **An object is read member by member** as what is gathered from all of them. The first member
has no comma before it; everything else is the theorem about the members behind. -/
theorem toOption_readMembers {fs : Fields αs} (h : fs.Definite) (hnames : fs.names.Nodup)
    {ms : Members} {t : List UInt8} (hms : (Doc.object ms).Spells (ascii '\x7B' :: t))
    (slots : Slots αs) (r : List UInt8) :
    (fs.readMembers true slots (t ++ r)).toOption =
      (fs.ofMembers slots ms).map fun b => (b, r) := by
  cases ms with
  | nil =>
    obtain ⟨e, he, heq⟩ := hms
    obtain ⟨-, rfl⟩ := List.cons.inj heq
    rw [List.append_assoc, List.singleton_append,
      toOption_readMembers_closed (nextMember_closing true he r), Fields.ofMembers,
      if_pos keyed_nil]
  | cons m ms =>
    obtain ⟨key, d⟩ := m
    obtain ⟨e, e₁, e₂, t', u, he, he₁, he₂, ht, hu, heq⟩ := hms
    obtain ⟨-, rfl⟩ := List.cons.inj heq
    -- the first member follows the brace without a comma, and the rest is the theorem before
    have hnext := nextMember_opening he
      (pieceBytes key ++ ascii '"' :: (e₁ ++ ascii ':' :: (e₂ ++ (t' ++ (u ++ r)))))
    simp only [stringBytes, List.append_assoc, List.cons_append, List.nil_append]
    rw [toOption_readMembers_member h ht he₁ he₂ (apart_members hu r) hnext,
      ofMembers_cons hnames]
    cases text? key with
    | none => rfl
    | some name =>
      rw [Option.bind_some, Option.bind_some]
      cases fs.put name slots d with
      | none => rfl
      | some slots' => exact toOption_readMembers_rest h hnames hu slots' r

/-! ## Reading a list

A derived `Deserialize` also takes a sequence, with the fields in the order of their declaration.
The program's own texts never use it, but an answer may. -/

/-- What a record reads from the elements of a list. Fields beyond its end have their defaults, and
elements beyond the fields are refused. -/
def Fields.ofRow {αs : List Type} : Fields αs → List Doc → Option (Values αs)
  | .done, [] => some ()
  | .done, _ :: _ => none
  | .more f rest, [] => ((Fields.more f rest).fillBeyond 0).toOption
  | .more f rest, d :: ds =>
    (f.codec.value? d).bind fun a => (rest.ofRow ds).map fun b => (a, b)

/-- Elements up to the closing bracket, with or without a comma before the next one. -/
def SpellsRow (first : Bool) (ds : List Doc) (s : List UInt8) : Prop :=
  if first then (Doc.list ds).Spells (ascii '[' :: s) else SpellsElements ds s

theorem spellsRow_nil {first : Bool} {s : List UInt8} (h : SpellsRow first [] s) :
    ∃ e, Blank e ∧ s = e ++ [ascii ']'] := by
  cases first with
  | true =>
    obtain ⟨e, he, heq⟩ := h
    exact ⟨e, he, (List.cons.inj heq).2⟩
  | false => exact h

/-- The next element of a row, and what follows it. Whether a comma stands in front of it depends on
whether it is the first, as for the members of an object. -/
theorem nextElement_row {first : Bool} {d : Doc} {ds : List Doc} {s : List UInt8}
    (h : SpellsRow first (d :: ds) s) (r : List UInt8) :
    ∃ t u, d.Spells t ∧ SpellsRow false ds u ∧
      nextElement first (s ++ r) = .ok (.item (t ++ (u ++ r))) := by
  cases first with
  | true =>
    obtain ⟨e, t, u, he, ht, hu, heq⟩ := h
    obtain ⟨-, rfl⟩ := List.cons.inj heq
    refine ⟨t, u, ht, hu, ?_⟩
    rw [List.append_assoc, List.append_assoc]
    exact nextElement_opening ht he (u ++ r)
  | false =>
    obtain ⟨e, e₁, t, u, he, he₁, ht, hu, rfl⟩ := h
    refine ⟨t, u, ht, hu, ?_⟩
    simp only [List.append_assoc, List.cons_append]
    exact nextElement_further ht he he₁ (u ++ r)

/-- A row with more elements than fields is refused. The error depends on what stands there, but
that there is one does not. -/
theorem exists_readEndOfList_error {first : Bool} {d : Doc} {ds : List Doc} {s : List UInt8}
    (h : SpellsRow first (d :: ds) s) (r : List UInt8) :
    ∃ why, Fields.readEndOfList (s ++ r) = .error why := by
  cases first with
  | true =>
    obtain ⟨e, t, u, he, ht, hu, heq⟩ := h
    obtain ⟨-, rfl⟩ := List.cons.inj heq
    obtain ⟨b, t, rfl, hb, hblanks⟩ := ht.skipBlanks_eq he (u ++ r)
    -- a value starts with neither of the two bytes that are asked for
    have hne : b ≠ ascii ']' ∧ b ≠ ascii ',' := by
      constructor
      all_goals
        rintro rfl
        exact hb.not_mem_separators (by decide)
    rw [Fields.readEndOfList, List.append_assoc, List.append_assoc, hblanks]
    dsimp only
    rw [if_neg hne.1, if_neg hne.2]
    exact ⟨_, rfl⟩
  | false =>
    obtain ⟨e, e₁, t, u, he, he₁, ht, hu, rfl⟩ := h
    rw [Fields.readEndOfList, List.append_assoc, List.cons_append, skipBlanks_append he,
      skipBlanks_cons (by decide)]
    dsimp only
    -- the comma is no end; which error it is depends on whether anything stands behind it
    rw [if_neg (by decide), if_pos rfl]
    cases skipBlanks (e₁ ++ (t ++ u) ++ r) with
    | nil => exact ⟨_, rfl⟩
    | cons b r' => exact ⟨_, rfl⟩

/-- What is filled in does not depend on where the list ends; only the message would. The message
tells the number of elements, which the reader counts and the specification does not. -/
theorem toOption_fillBeyond (fs : Fields αs) (i j : Nat) :
    (fs.fillBeyond i).toOption = (fs.fillBeyond j).toOption := by
  induction fs generalizing i j with
  | done => rfl
  | more f rest ih =>
    rw [Fields.fillBeyond, Fields.fillBeyond]
    cases f.beyond with
    | none => rfl
    | some a =>
      have hrest := ih (i + 1) (j + 1)
      dsimp only
      -- the position is only told in the error, so the rest is filled from both or from neither
      cases hi : rest.fillBeyond (i + 1) with
      | error why =>
        cases hj : rest.fillBeyond (j + 1) with
        | error why' => rfl
        | ok b =>
          rw [hi, hj] at hrest
          cases hrest
      | ok b =>
        cases hj : rest.fillBeyond (j + 1) with
        | error why' =>
          rw [hi, hj] at hrest
          cases hrest
        | ok b' =>
          rw [hi, hj] at hrest
          rw [Option.some.inj hrest]

/-- **A list is read element by element**, each by the field in its place. `serde` accepts a record
in this form too, so a decoder that is specified for all texts has to cover it. -/
theorem toOption_readRow {fs : Fields αs} (h : fs.Definite) (expected : String) {index : Nat}
    {ds : List Doc} {s : List UInt8} (hs : SpellsRow (index == 0) ds s) (r : List UInt8) :
    (fs.readRow expected index (s ++ r)).toOption = (fs.ofRow ds).map fun b => (b, r) := by
  induction fs generalizing index ds s with
  | done =>
    rw [Fields.readRow]
    cases ds with
    | nil =>
      obtain ⟨e, he, rfl⟩ := spellsRow_nil hs
      rw [Fields.readEndOfList, List.append_assoc, skipBlanks_append he, List.singleton_append,
        skipBlanks_cons (by decide)]
      dsimp only
      rw [if_pos rfl]
      rfl
    | cons d ds =>
      obtain ⟨why, hwhy⟩ := exists_readEndOfList_error hs r
      rw [hwhy]
      rfl
  | more f rest ih =>
    rw [Fields.readRow]
    cases ds with
    -- the list is too short
    | nil =>
      obtain ⟨e, he, rfl⟩ := spellsRow_nil hs
      rw [List.append_assoc, List.singleton_append, nextElement_closing _ he]
      dsimp only
      rw [Fields.ofRow, toOption_fillBeyond _ 0 index]
      cases (Fields.more f rest).fillBeyond index with
      | error i => rfl
      | ok b => rfl
    | cons d ds =>
      obtain ⟨t, u, ht, hu, hnext⟩ := nextElement_row hs r
      have hread := h.1.reads.toOption_read ht blank_nil (apart_elements hu r)
      rw [List.nil_append] at hread
      rw [hnext, Fields.ofRow]
      dsimp only
      rcases error_or_ok hread with ⟨hnone, why, hwhy⟩ | ⟨a, ha, hok⟩
      · rw [hwhy, hnone]
        rfl
      · have hu : SpellsRow (index + 1 == 0) ds u := hu
        rw [hok, ha, Option.bind_some]
        dsimp only
        rcases error_or_ok (ih h.2 hu) with ⟨hnone, why, hwhy⟩ | ⟨b, hb, hok⟩
        · rw [hwhy, hnone]
          rfl
        · rw [hok, hb]
          rfl

/-! ## Records -/

/-- What the fields of a record are in a document. -/
def Fields.ofDoc (fs : Fields αs) : Doc → Option (Values αs)
  | .object ms => fs.ofMembers (Slots.none αs) ms
  | .list ds => fs.ofRow ds
  | _ => none

/-- **A record reads an object by what is gathered from its members**, and a list by places. Any
other document is refused, because the first byte settles which of the two readers is called. -/
theorem reads_record {fs : Fields αs} (h : fs.Definite) (hnames : fs.names.Nodup) (name : String)
    (make : Values αs → α) (parts : α → Values αs) :
    (Codec.record name fs make parts).Reads fun d => (fs.ofDoc d).map make := by
  refine ⟨fun {d s} hs {e r} he hr => ?_⟩
  have hrecord : (readRecord name fs (e ++ (s ++ r))).toOption =
      (fs.ofDoc d).map fun b => (b, r) := by
    -- the first byte decides between an object and a list
    obtain ⟨b, t, rfl, hb, hblanks⟩ := hs.skipBlanks_eq he r
    rw [readRecord, hblanks]
    dsimp only
    by_cases hlist : b = ascii '['
    · subst hlist
      obtain ⟨ds, rfl⟩ := hb.exists_list
      rw [if_pos rfl]
      have hrow : SpellsRow (0 == 0) ds t := hs
      exact toOption_readRow h _ hrow r
    by_cases hobject : b = ascii '\x7B'
    · subst hobject
      obtain ⟨ms, rfl⟩ := hb.exists_object
      rw [if_neg hlist, if_pos rfl]
      exact toOption_readMembers h hnames hs (Slots.none αs) r
    · have hnone : fs.ofDoc d = none := by
        rcases d with _ | c | n | ps | ds | ms
        case list => exact absurd hb hlist
        case object => exact absurd hb hobject
        all_goals rfl
      rw [if_neg hlist, if_neg hobject, hnone]
      rfl
  rw [Codec.record]
  dsimp only
  rcases error_or_ok hrecord with ⟨hnone, why, hwhy⟩ | ⟨b, hb, hok⟩
  · rw [hwhy, hnone]
    rfl
  · rw [hok, hb]
    rfl

end Rendezvous.Json
