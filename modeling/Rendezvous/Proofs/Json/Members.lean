/-
Which members a record goes by.

The structs of the service have no `deny_unknown_fields`. Of the members of an object only those
count that have the name of a field, and only as many of each name as there are: they may come in
any order (`ofMembers_perm`), others may stand between them (`ofMembers_insert`), and one that has
the default of its field may be left out (`ofMembers_leave_out`). A name that comes twice, or a
field without a default that is missing, and nothing is read at all.

The same holds of an object inside of other values. What is read from the whole is what is read from
the part, taken further (`Codec.Within`): so the whole is the same if the part is, and is refused if
the part is.
-/
import Rendezvous.Proofs.Json.Gathered

set_option autoImplicit false

namespace Rendezvous.Json

variable {α β γ : Type} {αs : List Type}

/-! ## Fields by place -/

/-- A field stands in a place among fields. -/
inductive Fields.At (f : Field α) : Nat → {αs : List Type} → Fields αs → Prop
  | first {αs : List Type} {rest : Fields αs} : Fields.At f 0 (.more f rest)
  | later {i : Nat} {β : Type} {αs : List Type} {g : Field β} {rest : Fields αs}
      (h : Fields.At f i rest) : Fields.At f (i + 1) (.more g rest)

theorem Fields.At.name_mem {f : Field α} {i : Nat} {fs : Fields αs} (h : fs.At f i) :
    f.name ∈ fs.names := by
  induction h with
  | first => exact List.mem_cons_self ..
  | later _ ih => exact List.mem_cons_of_mem _ ih

/-- A field further on has another name. -/
theorem Fields.At.name_ne {f : Field α} {i : Nat} {fs : Fields αs} (h : fs.At f i)
    {name : String} (hnot : name ∉ fs.names) : f.name ≠ name := by
  rintro rfl
  exact hnot h.name_mem

/-! ## What is gathered -/

theorem Members.Keyed.perm {ms ms' : Members} (hperm : ms.Perm ms') : ms.Keyed ↔ ms'.Keyed :=
  ⟨fun h m hm => h m (hperm.mem_iff.mpr hm), fun h m hm => h m (hperm.mem_iff.mp hm)⟩

theorem keyed_cons {key : List Piece} {name : String} (hkey : text? key = some name) (d : Doc)
    (ms : Members) : Members.Keyed ((key, d) :: ms) ↔ ms.Keyed := by
  have hkeyed : Members.Keyed ((key, d) :: ms) ↔ (text? key).isSome = true ∧ ms.Keyed :=
    List.forall_mem_cons
  rw [hkeyed, hkey]
  exact and_iff_right rfl

/-- A field goes by how many members there are, and by the one if there is one. In either case the
order does not matter. -/
theorem settle_perm (f : Field α) (slot : Option α) {ds ds' : List Doc} (h : ds.Perm ds') :
    f.settle slot ds = f.settle slot ds' := by
  match ds, ds' with
  | [], ds' => rw [List.nil_perm.mp h]
  | [d], ds' => rw [List.singleton_perm.mp h]
  | d₁ :: d₂ :: ds, [] => exact absurd h.length_eq (by simp)
  | d₁ :: d₂ :: ds, [d] => exact absurd h.length_eq (by simp)
  | d₁ :: d₂ :: ds, d₁' :: d₂' :: ds' => cases slot <;> rfl

/-- The order of the members does not matter. -/
theorem gather_perm (fs : Fields αs) (slots : Slots αs) {ms ms' : Members} (h : ms.Perm ms') :
    fs.gather slots ms = fs.gather slots ms' := by
  induction fs with
  | done => rfl
  | more f rest ih =>
    obtain ⟨slot, slots⟩ := slots
    have hfound : (ms.found f.name).Perm (ms'.found f.name) := h.filterMap _
    rw [Fields.gather, Fields.gather, settle_perm f slot hfound, ih]

/-- **Members may come in any order.** -/
theorem ofMembers_perm (fs : Fields αs) (slots : Slots αs) {ms ms' : Members} (h : ms.Perm ms') :
    fs.ofMembers slots ms = fs.ofMembers slots ms' := by
  rw [Fields.ofMembers, Fields.ofMembers, gather_perm fs slots h]
  simp only [Members.Keyed.perm h]

/-- **Other members may stand between them**, whatever their values are: those are skipped without
being decoded. -/
theorem ofMembers_insert {fs : Fields αs} {key : List Piece} {name : String}
    (hkey : text? key = some name) (hname : name ∉ fs.names) (d : Doc) (slots : Slots αs)
    (before after : Members) :
    fs.ofMembers slots (before ++ (key, d) :: after) = fs.ofMembers slots (before ++ after) := by
  rw [ofMembers_perm fs slots List.perm_middle, Fields.ofMembers, Fields.ofMembers,
    gather_cons_of_not_mem hkey hname]
  simp only [keyed_cons hkey]

/-- A bind followed by a map is a bind. It is stated with the function that is bound under an
existential because no caller needs to see it. -/
theorem exists_further {δ : Type} (o : Option γ) (further : α → Option β) (put : γ → β → δ) :
    ∃ further' : α → Option δ, ∀ x : Option α,
      (o.bind fun c => (x.bind further).map (put c)) = x.bind further' := by
  cases o with
  | none => exact ⟨fun _ => none, fun x => by cases x <;> rfl⟩
  | some c => exact ⟨fun a => (further a).map (put c), fun x => by cases x <;> rfl⟩

/-- What one member has to do with the values of all fields: they are refused if its field refuses
it, and otherwise depend on it through that field alone. -/
theorem exists_gather_cons {fs : Fields αs} (hnames : fs.names.Nodup) {f : Field α} {i : Nat}
    (hf : fs.At f i) {key : List Piece} (hkey : text? key = some f.name) (ms : Members) :
    ∃ further : α → Option (Values αs), ∀ d,
      fs.gather (Slots.none αs) ((key, d) :: ms) = (f.codec.value? d).bind further := by
  induction hf with
  | @first αs rest =>
    obtain ⟨hnot, -⟩ := List.nodup_cons.mp hnames
    -- the field is the first one, and no later field looks at the member
    refine ⟨fun a => (f.settle (some a) (ms.found f.name)).bind fun a =>
      (rest.gather (Slots.none αs) ms).map fun b => (a, b), fun d => ?_⟩
    rw [Slots.none, Fields.gather, found_cons_self hkey, settle_cons,
      gather_cons_of_not_mem hkey hnot, Option.bind_assoc]
    rfl
  | @later i β αs g rest hf ih =>
    obtain ⟨hnot, hrest⟩ := List.nodup_cons.mp hnames
    obtain ⟨further, hfurther⟩ := ih hrest
    -- the first field has another name, so it is gathered from the members behind
    have hne := hf.name_ne hnot
    simp only [Slots.none, Fields.gather, found_cons_ne hkey hne, hfurther]
    obtain ⟨further', hfurther'⟩ :=
      exists_further (g.settle none (ms.found g.name)) further Prod.mk
    exact ⟨further', fun d => hfurther' (f.codec.value? d)⟩

/-- A field that is not settled leaves nothing of the record. -/
theorem gather_eq_none {fs : Fields αs} {f : Field α} {i : Nat} (hf : fs.At f i) {ms : Members}
    (hsettle : f.settle none (ms.found f.name) = none) : fs.gather (Slots.none αs) ms = none := by
  induction hf with
  | first =>
    rw [Slots.none, Fields.gather, hsettle]
    rfl
  | @later i β αs g rest hf ih =>
    rw [Slots.none, Fields.gather, ih]
    cases g.settle none (ms.found g.name) <;> rfl

/-- **A name may not come twice.** -/
theorem ofMembers_twice {fs : Fields αs} {f : Field α} {i : Nat} (hf : fs.At f i) {ms : Members}
    (htwice : 2 ≤ (ms.found f.name).length) : fs.ofMembers (Slots.none αs) ms = none := by
  have hsettle : f.settle none (ms.found f.name) = none := by
    match ms.found f.name, htwice with
    | d₁ :: d₂ :: ds, _ => rfl
  rw [Fields.ofMembers, gather_eq_none hf hsettle, ite_self]

/-- **A field that has to be there may not be missing.** -/
theorem ofMembers_missing {fs : Fields αs} {f : Field α} {i : Nat} (hf : fs.At f i)
    (hmissing : f.missing = none) {ms : Members} (hfound : ms.found f.name = []) :
    fs.ofMembers (Slots.none αs) ms = none := by
  have hsettle : f.settle none (ms.found f.name) = none := by
    rw [hfound, Field.settle, hmissing]
    rfl
  rw [Fields.ofMembers, gather_eq_none hf hsettle, ite_self]

/-- A field has the same value with the member as without, provided the member has the value that is
filled in for a missing one. Other fields do not look at the member at all. -/
theorem gather_leave_out {fs : Fields αs} (hnames : fs.names.Nodup) {f : Field α} {i : Nat}
    (hf : fs.At f i) {key : List Piece} (hkey : text? key = some f.name) {d : Doc}
    (hd : f.missing = f.codec.value? d) {ms : Members} (hfound : ms.found f.name = []) :
    fs.gather (Slots.none αs) ((key, d) :: ms) = fs.gather (Slots.none αs) ms := by
  induction hf with
  | @first αs rest =>
    obtain ⟨hnot, -⟩ := List.nodup_cons.mp hnames
    rw [Slots.none, Fields.gather, Fields.gather, found_cons_self hkey, hfound,
      gather_cons_of_not_mem hkey hnot, Field.settle, Field.settle, hd, Option.none_or]
  | @later i β αs g rest hf ih =>
    obtain ⟨hnot, hrest⟩ := List.nodup_cons.mp hnames
    rw [Slots.none, Fields.gather, Fields.gather, found_cons_ne hkey (hf.name_ne hnot), ih hrest]

/-- **A member may be left out** if its value is the default of its field. -/
theorem ofMembers_leave_out {fs : Fields αs} (hnames : fs.names.Nodup) {f : Field α} {i : Nat}
    (hf : fs.At f i) {key : List Piece} (hkey : text? key = some f.name) {d : Doc}
    (hd : f.missing = f.codec.value? d) {before after : Members}
    (hfound : Members.found (before ++ after) f.name = []) :
    fs.ofMembers (Slots.none αs) (before ++ (key, d) :: after) =
      fs.ofMembers (Slots.none αs) (before ++ after) := by
  rw [ofMembers_perm fs _ List.perm_middle, Fields.ofMembers, Fields.ofMembers,
    gather_leave_out hnames hf hkey hd hfound]
  simp only [keyed_cons hkey]

/-! ## Parts

An object deep inside of a document is reached through lists, members and optional values. Each of
these is one step of `Codec.Within`, and steps are put together by `Codec.Within.trans`. -/

/-- What is read from the whole is what is read from a part of it, taken further. A part that may be
null is left out of account: there, `null` is not a part but its absence. -/
structure Codec.Within (c : Codec α) (whole : Codec β) (around : Doc → Doc) : Prop where
  ne_null : ∀ {d : Doc}, d ≠ .null → around d ≠ .null
  value?_around : ∃ further : α → Option β, ∀ {d : Doc}, d ≠ .null →
    whole.value? (around d) = (c.value? d).bind further

/-- What is read from the whole does not change if what is read from the part does not. -/
theorem Codec.Within.value?_eq {c : Codec α} {whole : Codec β} {around : Doc → Doc}
    (h : c.Within whole around) {d d' : Doc} (hd : d ≠ .null) (hd' : d' ≠ .null)
    (heq : c.value? d = c.value? d') : whole.value? (around d) = whole.value? (around d') := by
  obtain ⟨further, hfurther⟩ := h.value?_around
  rw [hfurther hd, hfurther hd', heq]

/-- The whole is refused if the part is. -/
theorem Codec.Within.value?_eq_none {c : Codec α} {whole : Codec β} {around : Doc → Doc}
    (h : c.Within whole around) {d : Doc} (hd : d ≠ .null) (heq : c.value? d = none) :
    whole.value? (around d) = none := by
  obtain ⟨further, hfurther⟩ := h.value?_around
  rw [hfurther hd, heq]
  rfl

theorem object_ne_null (ms : Members) : Doc.object ms ≠ .null := nofun

theorem list_ne_null (ds : List Doc) : Doc.list ds ≠ .null := nofun

theorem within_self (c : Codec α) : c.Within c fun d => d :=
  ⟨fun hd => hd, some, fun {d} _ => (Option.bind_fun_some (c.value? d)).symm⟩

theorem Codec.Within.trans {c : Codec α} {middle : Codec β} {whole : Codec γ}
    {around around' : Doc → Doc} (h : c.Within middle around) (h' : middle.Within whole around') :
    c.Within whole fun d => around' (around d) := by
  obtain ⟨further, hfurther⟩ := h.value?_around
  obtain ⟨further', hfurther'⟩ := h'.value?_around
  refine ⟨fun hd => h'.ne_null (h.ne_null hd), fun a => (further a).bind further', fun {d} hd => ?_⟩
  rw [hfurther' (h.ne_null hd), hfurther hd, Option.bind_assoc]

theorem within_nullable {c : Codec α} (h : c.Definite) : c.Within c.nullable fun d => d := by
  refine ⟨fun hd => hd, fun a => some (some a), fun {d} hd => ?_⟩
  rw [(reads_nullable h).value?, ofNullable_of_ne hd]
  cases c.value? d <;> rfl

/-- An element of a list. -/
theorem exists_ofElements_around (of : Doc → Option α) (before after : List Doc) :
    ∃ further : α → Option (List α), ∀ d,
      ofElements of (before ++ d :: after) = (of d).bind further := by
  induction before with
  | nil => exact ⟨fun a => (ofElements of after).map (a :: ·), fun d => rfl⟩
  | cons b before ih =>
    obtain ⟨further, hfurther⟩ := ih
    simp only [List.cons_append, ofElements, hfurther]
    obtain ⟨further', hfurther'⟩ := exists_further (of b) further List.cons
    exact ⟨further', fun d => hfurther' (of d)⟩

theorem within_list {c : Codec α} (h : c.Definite) (before after : List Doc) :
    c.Within c.list fun d => .list (before ++ d :: after) := by
  obtain ⟨further, hfurther⟩ := exists_ofElements_around c.value? before after
  refine ⟨fun _ => list_ne_null _, further, fun {d} _ => ?_⟩
  rw [(reads_list h).value?]
  exact hfurther d

/-- An element of a row matters to the rest only through the value that is read from it, as a member
of an object does. -/
theorem exists_ofRow_around {fs : Fields αs} {f : Field α} {before : List Doc}
    (hf : fs.At f before.length) (after : List Doc) :
    ∃ further : α → Option (Values αs), ∀ d,
      fs.ofRow (before ++ d :: after) = (f.codec.value? d).bind further := by
  generalize hi : before.length = i at hf
  induction hf generalizing before with
  | @first αs rest =>
    obtain rfl := List.length_eq_zero_iff.mp hi
    exact ⟨fun a => (rest.ofRow after).map fun b => (a, b), fun d => rfl⟩
  | @later i γ αs g rest hf ih =>
    obtain ⟨b, before, rfl⟩ := List.exists_cons_of_length_eq_add_one hi
    obtain ⟨further, hfurther⟩ := ih (Nat.succ.inj hi)
    simp only [List.cons_append, Fields.ofRow, hfurther]
    obtain ⟨further', hfurther'⟩ := exists_further (g.codec.value? b) further Prod.mk
    exact ⟨further', fun d => hfurther' (f.codec.value? d)⟩

section Record

variable {fs : Fields αs} (h : fs.Definite) (hnames : fs.names.Nodup) {f : Field α}
  (name : String) (make : Values αs → β) (parts : β → Values αs)

include h hnames

theorem value?_object (ms : Members) : (Codec.record name fs make parts).value? (.object ms) =
    (fs.ofMembers (Slots.none αs) ms).map make := by
  rw [(reads_record h hnames name make parts).value?]
  rfl

theorem value?_row (ds : List Doc) : (Codec.record name fs make parts).value? (.list ds) =
    (fs.ofRow ds).map make := by
  rw [(reads_record h hnames name make parts).value?]
  rfl

/-- A member of an object. By `ofMembers_perm` it may be thought of as the first one, and there the
value of the field is all that the record takes from the member. -/
theorem within_member {i : Nat} (hf : fs.At f i) {key : List Piece}
    (hkey : text? key = some f.name) (before after : Members) :
    f.codec.Within (Codec.record name fs make parts)
      fun d => .object (before ++ (key, d) :: after) := by
  obtain ⟨further, hfurther⟩ := exists_gather_cons hnames hf hkey (before ++ after)
  have hmembers : ∀ d, fs.ofMembers (Slots.none αs) (before ++ (key, d) :: after) =
      if Members.Keyed (before ++ after) then (f.codec.value? d).bind further else none := by
    intro d
    rw [ofMembers_perm fs _ List.perm_middle, Fields.ofMembers, hfurther]
    simp only [keyed_cons hkey]
  refine ⟨fun _ => object_ne_null _,
    fun a => if Members.Keyed (before ++ after) then (further a).map make else none,
    fun {d} _ => ?_⟩
  rw [value?_object h hnames, hmembers]
  split
  · exact Option.map_bind
  · cases f.codec.value? d <;> rfl

theorem within_row {before : List Doc} (hf : fs.At f before.length) (after : List Doc) :
    f.codec.Within (Codec.record name fs make parts) fun d => .list (before ++ d :: after) := by
  obtain ⟨further, hfurther⟩ := exists_ofRow_around hf after
  refine ⟨fun _ => list_ne_null _, fun a => (further a).map make, fun {d} _ => ?_⟩
  rw [value?_row h hnames, hfurther]
  exact Option.map_bind

end Record

end Rendezvous.Json
