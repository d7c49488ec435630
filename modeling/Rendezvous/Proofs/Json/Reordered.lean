/-
The members of an object may come in any order.

A record is written with its members in the order of its fields, but `Endpoint::body` goes through a
`Value`, whose objects keep their members sorted by name. The service reads the body all the same.
Each member fills the slot that has its name and looks at no other, so two members with different
names may change places (`readsOne_swap`), and from there every rearrangement reads the same
(`Fields.Reads.perm`).

Sorting a tree goes down into its values as well. The values that are members of a body here are
texts and lists of texts, which it leaves as they are (`Tidy`); a record whose members hold other
records would need more.
-/
import Mathlib.Data.List.Nodup
import Mathlib.Data.String.Basic
import Rendezvous.Proofs.Json.Record

set_option autoImplicit false

namespace Rendezvous.Json

open Text (Utf8.encode)

variable {α : Type} {αs : List Type}

/-! ## One member -/

/-- Reading one member takes the slots from one state to another. -/
def Fields.ReadsOne (fs : Fields αs) (key : String) (v : Json) (x y : Slots αs) : Prop :=
  ∀ s, Ends s → fs.readMember key x (ascii ':' :: (bytes v ++ s)) = .ok (y, s)

/-- A member with the name of the first field fills its slot, which was empty, and nothing else. The
equivalence is needed in both directions: one to take a reading apart and one to build the other
reading. -/
theorem readsOne_self {f : Field α} {rest : Fields αs} {v : Json} {slot slot' : Option α}
    {x y : Slots αs} :
    (Fields.more f rest).ReadsOne f.name v (slot, x) (slot', y) ↔
      slot = none ∧ x = y ∧
        ∃ a, slot' = some a ∧ ∀ s, Ends s → f.codec.read (bytes v ++ s) = .ok (a, s) := by
  constructor
  · intro h
    -- the text with nothing behind it settles the slots, and they settle the rest
    have hone := h [] ends_nil
    rw [Fields.readMember, if_pos rfl, readColon_colon] at hone
    rcases slot with _ | b
    · rw [if_neg (by exact Bool.false_ne_true)] at hone
      dsimp only at hone
      rcases hread : f.codec.read (bytes v ++ []) with why | ⟨a, r⟩
      · rw [hread] at hone
        cases hone
      · rw [hread] at hone
        obtain ⟨hslots, -⟩ := Prod.mk.inj (Except.ok.inj hone)
        obtain ⟨rfl, rfl⟩ := Prod.mk.inj hslots
        refine ⟨rfl, rfl, a, rfl, ?_⟩
        intro s hs
        have hmember := h s hs
        rw [Fields.readMember, if_pos rfl, readColon_colon,
          if_neg (by exact Bool.false_ne_true)] at hmember
        dsimp only at hmember
        rcases hread' : f.codec.read (bytes v ++ s) with why | ⟨a', r'⟩
        · rw [hread'] at hmember
          cases hmember
        · rw [hread'] at hmember
          obtain ⟨hslots, rfl⟩ := Prod.mk.inj (Except.ok.inj hmember)
          rw [Option.some.inj (Prod.mk.inj hslots).1]
    · rw [if_pos (by rfl)] at hone
      cases hone
  · rintro ⟨rfl, rfl, a, rfl, hread⟩ s hs
    rw [Fields.readMember, if_pos rfl, if_neg (by exact Bool.false_ne_true), readColon_colon]
    dsimp only
    rw [hread s hs]

/-- A member with another name is for the other fields. Reading is compared in front of every end,
which is how the members behind it come in. -/
theorem readsOne_other {f : Field α} {rest : Fields αs} {key : String} (hkey : key ≠ f.name)
    {v : Json} {slot slot' : Option α} {x y : Slots αs} :
    (Fields.more f rest).ReadsOne key v (slot, x) (slot', y) ↔
      slot = slot' ∧ rest.ReadsOne key v x y := by
  constructor
  · intro h
    -- the slots do not depend on what follows, so reading with nothing behind gives them
    have hone := h [] ends_nil
    rw [Fields.readMember, if_neg hkey] at hone
    rcases hread : rest.readMember key x (ascii ':' :: (bytes v ++ [])) with why | ⟨x', r⟩
    · rw [hread] at hone
      cases hone
    · rw [hread] at hone
      obtain ⟨hslots, -⟩ := Prod.mk.inj (Except.ok.inj hone)
      obtain ⟨rfl, -⟩ := Prod.mk.inj hslots
      -- with the slots known, the same member is read in front of any end
      refine ⟨rfl, ?_⟩
      intro s hs
      have hmember := h s hs
      rw [Fields.readMember, if_neg hkey] at hmember
      rcases hread' : rest.readMember key x (ascii ':' :: (bytes v ++ s)) with why | ⟨y', r'⟩
      · rw [hread'] at hmember
        cases hmember
      · rw [hread'] at hmember
        obtain ⟨hslots, rfl⟩ := Prod.mk.inj (Except.ok.inj hmember)
        rw [(Prod.mk.inj hslots).2]
  · rintro ⟨rfl, hread⟩ s hs
    rw [Fields.readMember, if_neg hkey, hread s hs]

/-- **Two members with different names may change places.** At most one of them goes into the first
slot, so the swap is an induction over the fields. -/
theorem readsOne_swap {fs : Fields αs} {key key' : String} (hne : key ≠ key') {v v' : Json}
    {x y z : Slots αs} (h : fs.ReadsOne key v x y) (h' : fs.ReadsOne key' v' y z) :
    ∃ y', fs.ReadsOne key' v' x y' ∧ fs.ReadsOne key v y' z := by
  induction fs with
  | done => exact ⟨x, h', h⟩
  | more f rest ih =>
    obtain ⟨slot₁, x⟩ := x
    obtain ⟨slot₂, y⟩ := y
    obtain ⟨slot₃, z⟩ := z
    by_cases hkey : key = f.name
    · -- the first member is for this field, so the second one is not
      subst hkey
      rw [readsOne_other hne.symm] at h'
      obtain ⟨rfl, hrest⟩ := h'
      obtain ⟨rfl, rfl, a, rfl, hread⟩ := readsOne_self.mp h
      refine ⟨(none, z), ?_, ?_⟩
      · exact (readsOne_other hne.symm).mpr ⟨rfl, hrest⟩
      · exact readsOne_self.mpr ⟨rfl, rfl, a, rfl, hread⟩
    · rw [readsOne_other hkey] at h
      obtain ⟨rfl, hrest⟩ := h
      by_cases hkey' : key' = f.name
      · subst hkey'
        obtain ⟨rfl, rfl, a, rfl, hread⟩ := readsOne_self.mp h'
        refine ⟨(some a, x), ?_, ?_⟩
        · exact readsOne_self.mpr ⟨rfl, rfl, a, rfl, hread⟩
        · exact (readsOne_other hkey).mpr ⟨rfl, hrest⟩
      · rw [readsOne_other hkey'] at h'
        obtain ⟨rfl, hrest'⟩ := h'
        obtain ⟨y', hfirst, hsecond⟩ := ih hrest hrest'
        refine ⟨(slot₁, y'), ?_, ?_⟩
        · exact (readsOne_other hkey').mpr ⟨rfl, hfirst⟩
        · exact (readsOne_other hkey).mpr ⟨rfl, hsecond⟩

/-! ## All members -/

theorem reads_cons {fs : Fields αs} {m : String × Json} {ms : List (String × Json)}
    {x z : Slots αs} :
    fs.Reads (m :: ms) x z ↔ ∃ y, fs.ReadsOne m.1 m.2 x y ∧ fs.Reads ms y z :=
  Iff.rfl

/-- **Members may come in any order**, as long as no two have the same name. Request bodies pass
through a map with sorted keys, so they are not in the order of the fields. -/
theorem Fields.Reads.perm {fs : Fields αs} {ms ms' : List (String × Json)} (hperm : ms.Perm ms')
    (hnames : (ms.map Prod.fst).Nodup) {x z : Slots αs} (h : fs.Reads ms x z) :
    fs.Reads ms' x z := by
  induction hperm generalizing x z with
  | nil => exact h
  | cons m _ ih =>
    obtain ⟨y, hfirst, hrest⟩ := reads_cons.mp h
    rw [List.map_cons, List.nodup_cons] at hnames
    exact reads_cons.mpr ⟨y, hfirst, ih hnames.2 hrest⟩
  -- two neighbours with different names are read into different slots, in either order
  | swap m m' ms =>
    obtain ⟨y, hfirst, hrest⟩ := reads_cons.mp h
    obtain ⟨z', hsecond, hrest⟩ := reads_cons.mp hrest
    have hne : m'.1 ≠ m.1 := by
      rw [List.map_cons, List.nodup_cons] at hnames
      intro heq
      apply hnames.1
      rw [heq, List.map_cons]
      exact List.mem_cons_self ..
    obtain ⟨y', hfirst', hsecond'⟩ := readsOne_swap hne hfirst hsecond
    exact reads_cons.mpr ⟨y', hfirst', reads_cons.mpr ⟨z', hsecond', hrest⟩⟩
  | trans hperm _ ih ih' =>
    exact ih' ((hperm.map Prod.fst).nodup_iff.mp hnames) (ih hnames h)

/-! ## The names of the members -/

/-- The names of the fields that are written, in the order of the record. A field with
`skip_serializing_if` is left out if the condition holds. -/
def Fields.shown {αs : List Type} : Fields αs → Values αs → List String
  | .done, _ => []
  | .more f rest, (a, b) => if f.hidden a then rest.shown b else f.name :: rest.shown b

theorem map_fst_members (fs : Fields αs) (b : Values αs) :
    (fs.members b).map Prod.fst = fs.shown b := by
  induction fs with
  | done => rfl
  | more f rest ih =>
    obtain ⟨a, b⟩ := b
    rw [Fields.members, Fields.shown]
    split
    · exact ih b
    · rw [List.map_cons, ih b]

theorem shown_sublist (fs : Fields αs) (b : Values αs) : (fs.shown b).Sublist fs.names := by
  induction fs with
  | done => exact List.Sublist.refl _
  | more f rest ih =>
    obtain ⟨a, b⟩ := b
    rw [Fields.shown, Fields.names]
    split
    · exact (ih b).cons _
    · exact (ih b).cons_cons _

/-- A field that is written only if it is set has its name among the members if and only if it
is. -/
theorem mem_shown_ifSet {name : String} {c : Codec α} {rest : Fields αs} {a : Option α}
    {b : Values αs} {key : String} :
    key ∈ (Fields.more (.ifSet name c) rest).shown (a, b) ↔
      key = name ∧ a.isSome ∨ key ∈ rest.shown b := by
  rcases a with _ | a
  · simp [Fields.shown, Field.ifSet]
  · simp [Fields.shown, Field.ifSet]

/-- Whatever is written for a field that is shown has this property. -/
def Fields.Writes (p : Json → Prop) {αs : List Type} : Fields αs → Prop
  | .done => True
  | .more f rest => (∀ a, f.hidden a = false → p (f.codec.toJson a)) ∧ rest.Writes p

theorem Fields.Writes.of_mem {p : Json → Prop} {fs : Fields αs} (h : fs.Writes p)
    {b : Values αs} {m : String × Json} (hm : m ∈ fs.members b) : p m.2 := by
  induction fs with
  | done => cases hm
  | more f rest ih =>
    obtain ⟨a, b⟩ := b
    rw [Fields.members] at hm
    cases hhidden : f.hidden a with
    | true =>
      rw [hhidden, if_pos rfl] at hm
      exact ih h.2 hm
    | false =>
      rw [hhidden, if_neg Bool.false_ne_true] at hm
      rcases List.mem_cons.mp hm with rfl | hm
      · exact h.1 a hhidden
      · exact ih h.2 hm

/-! ## Any order -/

/-- A record is read from its members in any order. The names have to be distinct, since a member
that comes twice would be refused. -/
theorem read_record_of_perm {name : String} {fs : Fields αs} {make : Values αs → α}
    {parts : α → Values αs} {a : α} (hnames : fs.names.Nodup) (hmake : make (parts a) = a)
    (h : fs.Recovers (parts a)) {ms : List (String × Json)}
    (hperm : (fs.members (parts a)).Perm ms) (s : List UInt8) :
    (Codec.record name fs make parts).read ((Json.obj ms).bytes ++ s) = .ok (a, s) := by
  have hmembers : ((fs.members (parts a)).map Prod.fst).Nodup := by
    rw [map_fst_members]
    exact hnames.sublist (shown_sublist fs (parts a))
  have hreads : fs.Reads ms (Slots.none αs) (fs.written (parts a)) :=
    (reads_members hnames h).perm hperm hmembers
  simp only [Codec.record, readRecord_obj h hreads, hmake]

/-! ## Sorted members

A `Value` keeps the members of an object in a map that is ordered by name. -/

/-- A tree in which every object has its members in the order of their names already. -/
def Tidy (v : Json) : Prop :=
  v.sorted = v

theorem tidy_str (text : String) : (Json.str text).Tidy := by
  rw [Tidy, sorted]
  all_goals nofun

theorem sortedElements_of_tidy {vs : List Json} (h : ∀ v ∈ vs, v.Tidy) :
    sortedElements vs = vs := by
  induction vs with
  | nil => rw [sortedElements]
  | cons v vs ih =>
    rw [sortedElements, h v (List.mem_cons_self ..),
      ih fun w hw => h w (List.mem_cons_of_mem _ hw)]

theorem tidy_arr {vs : List Json} (h : ∀ v ∈ vs, v.Tidy) : (Json.arr vs).Tidy := by
  rw [Tidy, sorted, sortedElements_of_tidy h]

theorem sortedMembers_of_tidy {ms : List (String × Json)} (h : ∀ m ∈ ms, m.2.Tidy) :
    sortedMembers ms = ms := by
  induction ms with
  | nil => rw [sortedMembers]
  | cons m ms ih =>
    obtain ⟨key, v⟩ := m
    rw [sortedMembers, show v.sorted = v from h (key, v) (List.mem_cons_self ..),
      ih fun m' hm' => h m' (List.mem_cons_of_mem _ hm')]

/-- Members in the order of their names. -/
def byName (ms : List (String × Json)) : List (String × Json) :=
  ms.mergeSort fun m m' => m.1 ≤ m'.1

theorem sorted_obj_of_tidy {ms : List (String × Json)} (h : ∀ m ∈ ms, m.2.Tidy) :
    (Json.obj ms).sorted = .obj (byName ms) := by
  rw [sorted, sortedMembers_of_tidy h, byName]

theorem byName_perm (ms : List (String × Json)) : (byName ms).Perm ms :=
  List.mergeSort_perm ..

/-- Sorted members without a name twice have each name behind a smaller one: sorting alone gives
only that none is behind a greater one. -/
theorem pairwise_byName {ms : List (String × Json)} (hnames : (ms.map Prod.fst).Nodup) :
    ((byName ms).map Prod.fst).Pairwise (· < ·) := by
  have hle : (byName ms).Pairwise fun m m' => decide (m.1 ≤ m'.1) = true := by
    apply List.pairwise_mergeSort
    · intro m m' m'' h h'
      rw [decide_eq_true_eq] at h h' ⊢
      exact h.trans h'
    · intro m m'
      rw [Bool.or_eq_true, decide_eq_true_eq, decide_eq_true_eq]
      exact le_total m.1 m'.1
  have hnodup : ((byName ms).map Prod.fst).Nodup :=
    ((byName_perm ms).map Prod.fst).nodup_iff.mpr hnames
  have hle' : ((byName ms).map Prod.fst).Pairwise (· ≤ ·) := by
    rw [List.pairwise_map]
    exact hle.imp fun h => of_decide_eq_true h
  -- a smaller or equal name that is another one is smaller
  exact (hle'.and hnodup).imp fun h => lt_of_le_of_ne h.1 h.2

/-- The members of a record are sorted into an object that has each name behind a smaller one.
`to_value` goes through a map with ordered keys, so this is the order of every request body. -/
theorem exists_sorted_members {fs : Fields αs} (hnames : fs.names.Nodup)
    (htidy : fs.Writes Tidy) (b : Values αs) :
    ∃ ms, (Json.obj (fs.members b)).sorted = .obj ms ∧ (ms.map Prod.fst).Pairwise (· < ·) ∧
      ms.Perm (fs.members b) := by
  refine ⟨byName (fs.members b), ?_, ?_, byName_perm _⟩
  · apply sorted_obj_of_tidy
    intro m hm
    exact htidy.of_mem hm
  · apply pairwise_byName
    rw [map_fst_members]
    exact hnames.sublist (shown_sublist fs b)

/-- **A record is decoded from its sorted text**, if sorting leaves its members as they are. Every
body that the program sends is a case of it. -/
theorem decode_sorted {name : String} {fs : Fields αs} {make : Values αs → α}
    {parts : α → Values αs} {a : α} (hnames : fs.names.Nodup) (hmake : make (parts a) = a)
    (h : fs.Recovers (parts a)) (htidy : fs.Writes Tidy) :
    (Codec.record name fs make parts).decode (Text.Utf8.bytes
      (Json.obj (fs.members (parts a))).sorted.text) = .ok a := by
  obtain ⟨ms, hsorted, -, hperm⟩ := exists_sorted_members hnames htidy (parts a)
  have hread : (Codec.record name fs make parts).read ((Json.obj ms).bytes ++ []) = .ok (a, []) :=
    read_record_of_perm hnames hmake h hperm.symm []
  have hbytes : Text.Utf8.bytes (Json.obj ms).text = (Json.obj ms).bytes := by
    rw [Text.Utf8.bytes, Json.text, String.toList_ofList, Json.bytes]
  rw [List.append_nil] at hread
  rw [hsorted, Codec.decode, hbytes, hread]
  rfl

end Rendezvous.Json
