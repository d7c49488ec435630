/-
The entries of a `FileStorage`, and the text they are written as.

`read_map` and `write_map` go through a `BTreeMap`, so entries stand in the order of their keys,
each key once (`Ordered`), and every operation keeps it so. That order is what makes the file
lossless: it is read by inserting one entry after the other into an empty map, and since each one
belongs behind all the others, the entries come out as they went in (`ofBytes_toBytes`). A file that
was written by another program is read as an ordered map too, whatever the order in its text, and of
a key that comes twice the later value wins.
-/
import Rendezvous.Credential.Entries
import Rendezvous.Proofs.Credential.Contract
import Rendezvous.Proofs.Json.Dictionary

set_option autoImplicit false

namespace Rendezvous.Credential.Entries

/-! ## The order -/

/-- In the order of the keys, each key once, as a `BTreeMap` iterates. -/
def Ordered (es : Entries) : Prop :=
  es.Pairwise fun a b => a.1 < b.1

theorem ordered_nil : Ordered [] :=
  List.Pairwise.nil

/-- Of two different keys one comes before the other. -/
theorem lt_of_not_lt {a b : String} (hne : a ≠ b) (h : ¬ a < b) : b < a := by
  have hle : b ≤ a := String.not_lt.mp h
  exact String.not_le.mp fun hge => hne (String.le_antisymm hge hle)

/-- The entries after a value was put are the new one and some of those that were there. Only this
direction is needed: it carries any property of all entries over to the new map. -/
theorem mem_put {es : Entries} {key value : String} {e : String × String}
    (h : e ∈ es.put key value) : e.1 = key ∨ e ∈ es := by
  induction es with
  | nil => exact .inl (congrArg Prod.fst (List.mem_singleton.mp h))
  | cons e' rest ih =>
    obtain ⟨k, v⟩ := e'
    rw [put] at h
    split at h
    · -- the key was there, and its entry is replaced
      rcases List.mem_cons.mp h with rfl | h
      · exact .inl rfl
      · exact .inr (List.mem_cons_of_mem _ h)
    · split at h
      · rcases List.mem_cons.mp h with rfl | h
        · exact .inl rfl
        · exact .inr h
      · rcases List.mem_cons.mp h with rfl | h
        · exact .inr (List.mem_cons_self ..)
        · exact (ih h).imp_right (List.mem_cons_of_mem _)

theorem Ordered.put {es : Entries} (h : es.Ordered) (key value : String) :
    (es.put key value).Ordered := by
  induction es with
  | nil => exact List.pairwise_singleton _ _
  | cons e rest ih =>
    obtain ⟨k, v⟩ := e
    obtain ⟨hfirst, hrest⟩ := List.pairwise_cons.mp h
    rw [Entries.put]
    split
    · rename_i hk
      subst hk
      exact List.pairwise_cons.mpr ⟨hfirst, hrest⟩
    · rename_i hk
      split
      · rename_i hlt
        refine List.pairwise_cons.mpr ⟨fun e he => ?_, h⟩
        rcases List.mem_cons.mp he with rfl | he
        · -- the new entry stands in front of all others
          exact hlt
        · exact String.lt_trans hlt (hfirst e he)
      · rename_i hlt
        refine List.pairwise_cons.mpr ⟨fun e he => ?_, ih hrest⟩
        -- the entries behind the first one are the new one and old ones
        rcases mem_put he with heq | he
        · rw [heq]
          exact lt_of_not_lt (Ne.symm hk) hlt
        · exact hfirst e he

theorem Ordered.putAll {es : Entries} (h : es.Ordered) (added : List (String × String)) :
    (es.putAll added).Ordered := by
  induction added generalizing es with
  | nil => exact h
  | cons e added ih => exact ih (h.put e.1 e.2)

theorem Ordered.eraseAll {es : Entries} (h : es.Ordered) (keys : List String) :
    (es.eraseAll keys).Ordered := by
  induction keys generalizing es with
  | nil => exact h
  | cons key keys ih => exact ih (h.filter _)

/-- A key that comes after all others goes to the end. -/
theorem put_of_forall_lt {es : Entries} {key value : String} (h : ∀ e ∈ es, e.1 < key) :
    es.put key value = es ++ [(key, value)] := by
  induction es with
  | nil => rfl
  | cons e rest ih =>
    obtain ⟨k, v⟩ := e
    have hlt : k < key := h (k, v) (List.mem_cons_self ..)
    have hne : k ≠ key := by
      rintro rfl
      exact String.lt_irrefl k hlt
    rw [put, if_neg hne, if_neg (String.lt_asymm hlt),
      ih fun e he => h e (List.mem_cons_of_mem _ he), List.cons_append]

/-- Ordered entries that are put one after the other end up in their order. Reading a file that was
written by `write_map` is the case of no entries before. -/
theorem putAll_of_ordered {es added : Entries} (h : Ordered (es ++ added)) :
    es.putAll added = es ++ added := by
  induction added generalizing es with
  | nil => exact (List.append_nil es).symm
  | cons e added ih =>
    obtain ⟨k, v⟩ := e
    have hlast : ∀ e ∈ es, e.1 < k := fun e he =>
      (List.pairwise_append.mp h).2.2 e he (k, v) (List.mem_cons_self ..)
    have hput : es.putAll ((k, v) :: added) = (es.put k v).putAll added := rfl
    rw [List.append_cons] at h
    rw [hput, put_of_forall_lt hlast, ih h, List.append_assoc, List.singleton_append]

/-! ## The file -/

/-- A file that holds entries is not empty. An empty file is read as no entries, so this keeps the
two apart. -/
theorem toBytes_ne_nil (es : Entries) : toBytes es ≠ [] := by
  have hbytes : toBytes es = (Json.obj (Json.entryMembers .text es)).bytes := by
    rw [toBytes, Text.Utf8.bytes, Json.Codec.encode, Json.text, String.toList_ofList, Json.bytes]
    rfl
  rw [hbytes, Json.bytes_obj]
  exact List.cons_ne_nil _ _

/-- **What was written to a file is read from it**, whatever the keys and values. -/
theorem ofBytes_toBytes {es : Entries} (h : es.Ordered) : ofBytes (toBytes es) = .ok es := by
  have hread : codec.decode (toBytes es) = .ok es :=
    (Json.recovers_dictionary fun e _ => Json.recovers_text e.2).decode_encode
  have hput : putAll [] es = es := @putAll_of_ordered [] es h
  rw [ofBytes, if_neg (by rw [List.isEmpty_iff]; exact toBytes_ne_nil es), hread]
  dsimp only
  rw [hput]

/-- What is read from a file is ordered, whatever has written it. -/
theorem ordered_ofBytes {content : List UInt8} {es : Entries} (h : ofBytes content = .ok es) :
    es.Ordered := by
  unfold ofBytes at h
  split at h
  · rw [← Except.ok.inj h]
    exact ordered_nil
  · split at h
    · rw [← Except.ok.inj h]
      exact ordered_nil.putAll _
    · cases h

/-! ## Taking away what is not there

`delete_many` does not write the file again if none of the keys is in it. -/

theorem get?_eq_none_of_not_holdsAny {es : Entries} {keys : List String}
    (h : es.holdsAny keys = false) : ∀ key ∈ keys, es.get? key = none := by
  intro key hkey
  have hnot := List.any_eq_false.mp h key hkey
  exact Option.not_isSome_iff_eq_none.mp hnot

theorem erase_of_get?_eq_none {es : Entries} {key : String} (h : es.get? key = none) :
    es.erase key = es := by
  refine List.filter_eq_self.mpr fun e he => ?_
  rw [bne_iff_ne]
  rintro rfl
  have hall := List.lookup_eq_none_iff.mp h e he
  rw [bne_self_eq_false] at hall
  cases hall

/-- Keys that are not there can be removed, and nothing happens. -/
theorem eraseAll_of_not_holdsAny {es : Entries} {keys : List String}
    (h : es.holdsAny keys = false) : es.eraseAll keys = es := by
  have hnone := get?_eq_none_of_not_holdsAny h
  clear h
  induction keys with
  | nil => rfl
  | cons key keys ih =>
    have herase : es.eraseAll (key :: keys) = (es.erase key).eraseAll keys := rfl
    rw [herase, erase_of_get?_eq_none (hnone key (List.mem_cons_self ..))]
    exact ih fun key' hkey' => hnone key' (List.mem_cons_of_mem _ hkey')

end Rendezvous.Credential.Entries
