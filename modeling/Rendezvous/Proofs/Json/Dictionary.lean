/-
What a dictionary writes, it reads.

`FileStorage` keeps its entries as an object with arbitrary keys. It is read entry by entry, and
nothing is known beforehand about its keys: each is a string like any other, so it is read back
whatever is in it, and the same key may come twice. The induction is the one over the elements of a
list; an entry is a key, a colon and a value, and what follows it is a comma or the closing brace.
-/
import Rendezvous.Proofs.Json.Record

set_option autoImplicit false

namespace Rendezvous.Json

open Text (Utf8.encode)

variable {α : Type}

/-- The entries of a dictionary as the members of an object. -/
def entryMembers (c : Codec α) (es : List (String × α)) : List (String × Json) :=
  es.map fun e => (e.1, c.toJson e.2)

theorem entryMembers_nil (c : Codec α) : entryMembers c [] = [] := rfl

theorem entryMembers_cons (c : Codec α) (key : String) (a : α) (es : List (String × α)) :
    entryMembers c ((key, a) :: es) = (key, c.toJson a) :: entryMembers c es := rfl

theorem readEntriesOnto_closed {c : Codec α} {first : Bool} {seen : List (String × α)}
    {s r : List UInt8} (h : Fields.nextMember first s = .ok (.closed r)) :
    readEntriesOnto c first seen s = .ok (seen.reverse, r) := by
  rw [readEntriesOnto]
  split
  · rename_i heq
    cases h.symm.trans heq
  · rename_i heq
    obtain rfl := Next.closed.inj (Except.ok.inj (h.symm.trans heq))
    rfl
  · rename_i heq
    cases Except.ok.inj (h.symm.trans heq)

theorem readEntriesOnto_item {c : Codec α} {first : Bool} {seen : List (String × α)} {key : String}
    {a : α} {s start s' value r : List UInt8} (h : Fields.nextMember first s = .ok (.item start))
    (hkey : readString start = .ok (key, s')) (hcolon : readColon s' = .ok value)
    (hread : c.read value = .ok (a, r)) :
    readEntriesOnto c first seen s = readEntriesOnto c false ((key, a) :: seen) r := by
  rw [readEntriesOnto]
  split
  · rename_i heq
    cases h.symm.trans heq
  · rename_i heq
    cases Except.ok.inj (h.symm.trans heq)
  · rename_i heq
    -- of each step only the branch is left that agrees with its hypothesis
    obtain rfl := Next.item.inj (Except.ok.inj (h.symm.trans heq))
    split
    · rename_i heq
      cases hkey.symm.trans heq
    · rename_i heq
      obtain ⟨rfl, rfl⟩ := Prod.mk.inj (Except.ok.inj (hkey.symm.trans heq))
      split
      · rename_i heq
        cases hcolon.symm.trans heq
      · rename_i heq
        obtain rfl := Except.ok.inj (hcolon.symm.trans heq)
        split
        · rename_i heq
          cases hread.symm.trans heq
        · rename_i heq
          obtain ⟨rfl, rfl⟩ := Prod.mk.inj (Except.ok.inj (hread.symm.trans heq))
          rfl

/-- One entry, and whatever follows it. -/
theorem readEntriesOnto_entry {c : Codec α} {first : Bool} {seen : List (String × α)}
    {key : String} {a : α} (ha : c.Recovers a) {s r : List UInt8} (hr : Ends r)
    (h : Fields.nextMember first s = .ok (.item (Utf8.encode (key.toList.flatMap escaped) ++
      ascii '"' :: ascii ':' :: (bytes (c.toJson a) ++ r)))) :
    readEntriesOnto c first seen s = readEntriesOnto c false ((key, a) :: seen) r :=
  readEntriesOnto_item h (readString_quoted key _) (readColon_colon _) (ha.read_bytes r hr)

/-- The entries behind the first one, by induction on them. They come out in the order in which they
were written, since what has been read is kept in reverse and turned round at the end. -/
theorem readEntriesOnto_rest {c : Codec α} {es : List (String × α)}
    (hes : ∀ e ∈ es, c.Recovers e.2) (seen : List (String × α)) (s : List UInt8) :
    readEntriesOnto c false seen
        ((entryMembers c es).flatMap (fun m => ascii ',' :: memberBytes m) ++ ascii '\x7D' :: s) =
      .ok (seen.reverse ++ es, s) := by
  induction es generalizing seen with
  | nil =>
    rw [entryMembers_nil, List.flatMap_nil, List.nil_append,
      readEntriesOnto_closed (nextMember_closed false s), List.append_nil]
  | cons e es ih =>
    obtain ⟨key, a⟩ := e
    have hrest := ih fun e' he' => hes e' (List.mem_cons_of_mem _ he')
    rw [entryMembers_cons, List.flatMap_cons, List.append_assoc, List.cons_append,
      memberBytes_append, readEntriesOnto_entry (hes (key, a) (List.mem_cons_self ..))
        (ends_members (entryMembers c es) s) (nextMember_comma _), hrest, List.reverse_cons,
      List.append_assoc, List.singleton_append]

/-- **A dictionary is recovered if its values are**, whatever its keys. The map that the entries are
collected into is not part of it; `Entries.ofBytes_toBytes` takes that step. -/
theorem recovers_dictionary {c : Codec α} {es : List (String × α)}
    (hes : ∀ e ∈ es, c.Recovers e.2) : (Codec.dictionary c).Recovers es where
  whole _ := nofun
  read_bytes s _ := by
    show readDictionary c (bytes (.obj (entryMembers c es)) ++ s) = .ok (es, s)
    rw [bytes_obj, List.cons_append, readDictionary, skipBlanks_cons (by decide)]
    dsimp only
    rw [if_pos rfl, List.append_assoc, List.singleton_append]
    cases es with
    | nil =>
      rw [entryMembers_nil, renderMembers, Text.Utf8.encode_nil, List.nil_append,
        readEntriesOnto_closed (nextMember_closed true s), List.reverse_nil]
    | cons e es =>
      -- the first entry has no comma before it
      obtain ⟨key, a⟩ := e
      have hes' : ∀ e' ∈ es, c.Recovers e'.2 := fun e' he' => hes e' (List.mem_cons_of_mem _ he')
      have hrest := readEntriesOnto_rest hes'
      rw [entryMembers_cons, encode_renderMembers, List.append_assoc, memberBytes_append,
        readEntriesOnto_entry (hes (key, a) (List.mem_cons_self ..))
          (ends_members (entryMembers c es) s) (nextMember_first _), hrest]
      rfl

end Rendezvous.Json
