/-
What replacing `credentials.json` does to a directory.

`write_map` opens a temporary file beside the file, fills it and renames it. Two conditions on the
directory come up. A name that leads to a file leads to an inode that exists (`Grounded`); a
replacement in which every call succeeds needs no more than that. An attempt that may be broken off
also needs that the two names do not lead to the same inode (`Orderly`), for then what is done to
the temporary file does nothing to the file itself (`read_changeNode`), and the renaming is the one
moment at which the file changes.

What a request finds, and what it leaves behind, depends on little of a directory: on what stands
under the name of the file, and on whether a directory blocks the name of the temporary file.
`SameFile` is the agreement of two directories on that, and an update preserves it
(`SameFile.update`). A stale temporary file is of no consequence, since opening truncates it.
-/
import Rendezvous.Credential.Vault
import Rendezvous.Proofs.Credential.Entries

set_option autoImplicit false

namespace Rendezvous.Credential

/-- A directory stands where a file belongs, so that opening or renaming fails with `EISDIR`. -/
def Blocked (link : Option Link) : Prop :=
  ∃ mode, link = some (.folder mode)

theorem not_blocked_none : ¬ Blocked none := by
  rintro ⟨mode, hmode⟩
  cases hmode

theorem not_blocked_file (n : Nat) : ¬ Blocked (some (.file n)) := by
  rintro ⟨mode, hmode⟩
  cases hmode

namespace Directory

/-- Names of files lead to inodes that exist. It is what the model of a directory needs to make
sense, and every real directory has it. -/
structure Grounded (d : Directory) : Prop where
  main_lt : ∀ {n}, d.main = some (.file n) → n < d.nodes.length
  temp_lt : ∀ {n}, d.temp = some (.file n) → n < d.nodes.length

/-- Names of files lead to inodes that exist, and not both to the same one. Two hard links to one
inode are what it excludes: then opening the temporary file would truncate the file. -/
structure Orderly (d : Directory) : Prop extends Grounded d where
  apart : ∀ {n}, d.main = some (.file n) → d.temp ≠ some (.file n)

variable {d d' : Directory}

/-! ## Single steps -/

/-- The file depends on its name and on the inode that the name leads to, and on nothing else. -/
theorem read_congr (hmain : d'.main = d.main)
    (hnode : ∀ n, d.main = some (.file n) → d'.nodes[n]? = d.nodes[n]?) : d'.read = d.read := by
  unfold read
  rw [hmain]
  rcases h : d.main with _ | n | mode
  · rfl
  · dsimp only
    rw [hnode n h]
  · rfl

theorem getElem?_changeNode_ne {n m : Nat} (h : n ≠ m) (f : Node → Node) :
    (d.changeNode n f).nodes[m]? = d.nodes[m]? :=
  List.getElem?_modify_ne f d.nodes h

theorem getElem?_changeNode_self (n : Nat) (f : Node → Node) :
    (d.changeNode n f).nodes[n]? = d.nodes[n]?.map f :=
  List.getElem?_modify_eq ..

/-- Whatever is done to another inode, the file is as it was. -/
theorem read_changeNode {n : Nat} (h : d.main ≠ some (.file n)) (f : Node → Node) :
    (d.changeNode n f).read = d.read := by
  refine read_congr rfl fun m hm => getElem?_changeNode_ne ?_ f
  rintro rfl
  exact h hm

theorem Grounded.changeNode (h : d.Grounded) (n : Nat) (f : Node → Node) :
    (d.changeNode n f).Grounded where
  main_lt hm := by
    show _ < (d.nodes.modify n f).length
    rw [List.length_modify]
    exact h.main_lt hm
  temp_lt ht := by
    show _ < (d.nodes.modify n f).length
    rw [List.length_modify]
    exact h.temp_lt ht

theorem Orderly.changeNode (h : d.Orderly) (n : Nat) (f : Node → Node) :
    (d.changeNode n f).Orderly :=
  ⟨h.toGrounded.changeNode n f, h.apart⟩

/-- A temporary file has been opened: it is empty, and nothing else has changed. -/
structure Opened (d opened : Directory) (n : Nat) : Prop where
  main : opened.main = d.main
  temp : opened.temp = some (.file n)
  empty : ∃ mode, opened.nodes[n]? = some ⟨mode, []⟩
  grounded : opened.Grounded
  apart : d.Orderly → d.main ≠ some (.file n)
  read : d.Orderly → opened.read = d.read

theorem Opened.orderly {opened : Directory} {n : Nat} (ho : Opened d opened n) (h : d.Orderly) :
    opened.Orderly where
  toGrounded := ho.grounded
  apart {m} hm ht := by
    obtain rfl : n = m := Link.file.inj (Option.some.inj (ho.temp.symm.trans ht))
    exact ho.apart h (ho.main.symm.trans hm)

/-- Opening the temporary file succeeds unless a directory stands in its place. A stale temporary
file is no obstacle, because it is opened with `truncate`. -/
theorem openTemp_of_not_blocked (h : d.Grounded) (htemp : ¬ Blocked d.temp) :
    ∃ n opened, d.openTemp = .ok (n, opened) ∧ Opened d opened n := by
  rcases ht : d.temp with _ | n | mode
  · -- a new file gets an inode number that is not in use
    refine ⟨d.nodes.length, { d with
      nodes := d.nodes ++ [⟨privateFileMode, []⟩], temp := some (.file d.nodes.length) },
      by rw [openTemp, ht], ?_⟩
    have hlength (node : Node) : (d.nodes ++ [node]).length = d.nodes.length + 1 := by
      rw [List.length_append, List.length_singleton]
    exact {
      main := rfl
      temp := rfl
      empty := ⟨privateFileMode, List.getElem?_concat_length⟩
      grounded := {
        main_lt := fun hm => Nat.lt_of_lt_of_eq (Nat.lt_succ_of_lt (h.main_lt hm)) (hlength _).symm
        temp_lt := fun {m} hm => by
          obtain rfl : d.nodes.length = m := Link.file.inj (Option.some.inj hm)
          exact Nat.lt_of_lt_of_eq (Nat.lt_succ_self _) (hlength _).symm }
      apart := fun _ hm => Nat.lt_irrefl _ (h.main_lt hm)
      read := fun _ => read_congr rfl fun m hm => List.getElem?_append_left (h.main_lt hm) }
  · refine ⟨n, d.changeNode n fun node => { node with content := [] },
      by rw [openTemp, ht], ?_⟩
    exact {
      main := rfl
      temp := ht
      empty := by
        rw [getElem?_changeNode_self, List.getElem?_eq_getElem (h.temp_lt ht)]
        exact ⟨_, rfl⟩
      grounded := h.changeNode n _
      apart := fun h hm => h.apart hm ht
      read := fun h => read_changeNode (fun hm => h.apart hm ht) _ }
  · exact (htemp ⟨mode, ht⟩).elim

theorem openTemp_of_blocked (htemp : Blocked d.temp) : d.openTemp = .error .isADirectory := by
  obtain ⟨mode, ht⟩ := htemp
  rw [openTemp, ht]

/-- The name of the file goes over to the inode of the temporary file. -/
theorem rename_of_not_blocked {n : Nat} (hmain : ¬ Blocked d.main)
    (ht : d.temp = some (.file n)) :
    d.rename = .ok { d with main := some (.file n), temp := none } := by
  unfold rename
  rw [ht]
  rcases hm : d.main with _ | m | mode
  · rfl
  · rfl
  · exact (hmain ⟨mode, hm⟩).elim

/-- What the new file holds. -/
theorem read_renamed {n : Nat} {node : Node} (hn : d.nodes[n]? = some node) :
    read { d with main := some (.file n), temp := none } = .ok (some node.content) := by
  unfold read
  dsimp only
  rw [hn]
  rfl

theorem Grounded.renamed {n : Nat} (h : d.Grounded) (ht : d.temp = some (.file n)) :
    Orderly { d with main := some (.file n), temp := none } where
  main_lt hm := by
    obtain rfl := Link.file.inj (Option.some.inj hm)
    exact h.temp_lt ht
  temp_lt := nofun
  apart _ := nofun

/-! ## Replacing the file -/

/-- **The file is replaced** as a whole, if no directory stands under either name. Only `Grounded`
is asked: that the names do not lead to one inode is a consequence of the renaming, not a condition
of it. -/
theorem replace_of_not_blocked (h : d.Grounded) (hmain : ¬ Blocked d.main)
    (htemp : ¬ Blocked d.temp) (data : List UInt8) :
    (d.replace data).2 = .ok () ∧ (d.replace data).1.read = .ok (some data) ∧
      (d.replace data).1.Orderly ∧ (d.replace data).1.temp = none := by
  -- the three calls one after the other: open, fill, rename
  obtain ⟨n, opened, hopen, ho⟩ := openTemp_of_not_blocked h htemp
  obtain ⟨mode, hempty⟩ := ho.empty
  have hnode : ((opened.restrict n).write n data).nodes[n]? = some ⟨privateFileMode, data⟩ := by
    rw [write, getElem?_changeNode_self, restrict, getElem?_changeNode_self, hempty]
    simp only [Option.map_some, overwrite, List.drop_nil, List.append_nil]
  have hrename := rename_of_not_blocked (d := (opened.restrict n).write n data) (n := n)
    (by show ¬ Blocked opened.main; rw [ho.main]; exact hmain) ho.temp
  have hreplace : d.replace data =
      ({ (opened.restrict n).write n data with main := some (.file n), temp := none }, .ok ()) := by
    simp only [replace, hopen, hrename]
  rw [hreplace]
  exact ⟨rfl, read_renamed hnode, ((ho.grounded.changeNode n _).changeNode n _).renamed ho.temp,
    rfl⟩

/-- Nothing is replaced, and nothing is touched, if a directory stands under the name of the
temporary file. -/
theorem replace_of_blocked (htemp : Blocked d.temp) (data : List UInt8) :
    d.replace data = (d, .error .isADirectory) := by
  simp only [replace, openTemp_of_blocked htemp]

/-! ## Entries -/

theorem entries_of_read {content : List UInt8} (h : d.read = .ok (some content)) :
    d.entries = (Entries.ofBytes content).mapError .corrupt := by
  rw [entries, h]

/-- Entries that were written are found again. -/
theorem entries_of_toBytes {es : Entries} (hes : es.Ordered)
    (h : d.read = .ok (some es.toBytes)) : d.entries = .ok es := by
  rw [entries_of_read h, Entries.ofBytes_toBytes hes]
  rfl

/-- The entries of a directory are ordered, whatever has written the file: `read_map` collects them
into a `BTreeMap`. -/
theorem ordered_entries {es : Entries} (h : d.entries = .ok es) : es.Ordered := by
  unfold entries at h
  split at h
  · cases h
  · rw [← Except.ok.inj h]
    exact Entries.ordered_nil
  · rename_i content _
    rcases hbytes : Entries.ofBytes content with e | read
    · rw [hbytes] at h
      cases h
    · rw [hbytes] at h
      rw [← Except.ok.inj h]
      exact Entries.ordered_ofBytes hbytes

theorem not_blocked_of_entries {es : Entries} (h : d.entries = .ok es) : ¬ Blocked d.main := by
  rintro ⟨mode, hmain⟩
  rw [entries, read, hmain] at h
  cases h

/-! ## Updates -/

/-- Nothing is done if the entries cannot be read. -/
theorem update_of_error {why : Failure} (h : d.entries = .error why)
    (f : Entries → Option Entries) : d.update f = (d, .error why) := by
  rw [update, h]

/-- Nothing is done if there is nothing to change. -/
theorem update_of_none {before : Entries} (h : d.entries = .ok before)
    {f : Entries → Option Entries} (hf : f before = none) : d.update f = (d, .ok ()) := by
  rw [update, h]
  dsimp only
  rw [hf]

/-- Otherwise the file is replaced. -/
theorem update_of_some {before after : Entries} (h : d.entries = .ok before)
    {f : Entries → Option Entries} (hf : f before = some after) :
    d.update f = ((d.replace after.toBytes).1, (d.replace after.toBytes).2.mapError .disk) := by
  rw [update, h]
  dsimp only
  rw [hf]

/-! ## Directories that make no difference -/

/-- Two orderly directories that no request can tell apart: the file is the same, and the name of
the temporary file is blocked in both or in neither. -/
structure SameFile (d d' : Directory) : Prop where
  left : d.Orderly
  right : d'.Orderly
  read : d'.read = d.read
  temp : Blocked d'.temp ↔ Blocked d.temp

theorem SameFile.refl (h : d.Orderly) : SameFile d d :=
  ⟨h, h, rfl, Iff.rfl⟩

theorem SameFile.trans {d'' : Directory} (h : SameFile d d') (h' : SameFile d' d'') :
    SameFile d d'' where
  left := h.left
  right := h'.right
  read := h'.read.trans h.read
  temp := h'.temp.trans h.temp

theorem SameFile.entries (h : SameFile d d') : d'.entries = d.entries := by
  rw [Directory.entries, Directory.entries, h.read]

theorem SameFile.replace (h : SameFile d d') (hmain : ¬ Blocked d.main) (hmain' : ¬ Blocked d'.main)
    (data : List UInt8) :
    (d'.replace data).2 = (d.replace data).2 ∧
      SameFile (d.replace data).1 (d'.replace data).1 := by
  by_cases htemp : Blocked d.temp
  · rw [replace_of_blocked htemp, replace_of_blocked (h.temp.mpr htemp)]
    exact ⟨rfl, h⟩
  · obtain ⟨hok, hread, hd, ht⟩ := replace_of_not_blocked h.left.toGrounded hmain htemp data
    obtain ⟨hok', hread', hd', ht'⟩ :=
      replace_of_not_blocked h.right.toGrounded hmain' (fun hb => htemp (h.temp.mp hb)) data
    exact ⟨hok'.trans hok.symm, {
      left := hd
      right := hd'
      read := hread'.trans hread.symm
      temp := by rw [ht, ht'] }⟩

/-- **An update cannot tell them apart**, and what it leaves behind is again alike. Only
`credentials.json` is read, and the temporary file is truncated before it is written. -/
theorem SameFile.update (h : SameFile d d') (f : Entries → Option Entries) :
    (d'.update f).2 = (d.update f).2 ∧ SameFile (d.update f).1 (d'.update f).1 := by
  have hentries' := h.entries
  rcases hentries : d.entries with why | before
  · rw [hentries] at hentries'
    rw [update_of_error hentries, update_of_error hentries']
    exact ⟨rfl, h⟩
  · rw [hentries] at hentries'
    rcases hf : f before with _ | after
    · rw [update_of_none hentries hf, update_of_none hentries' hf]
      exact ⟨rfl, h⟩
    · obtain ⟨hresult, halike⟩ := h.replace (not_blocked_of_entries hentries)
        (not_blocked_of_entries hentries') after.toBytes
      rw [update_of_some hentries hf, update_of_some hentries' hf, hresult]
      exact ⟨rfl, halike⟩

end Directory

end Rendezvous.Credential
