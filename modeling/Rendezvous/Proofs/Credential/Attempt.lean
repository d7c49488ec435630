/-
A change of `credentials.json` through `FileStorage` is made as a whole or not at all.

`Directory.update` is `FileStorage::update` when nothing gets in its way. Here it is taken apart
into the calls that `read_map` and `write_map` make to the file system, one after the other
(`Phase`): the file is read, the temporary file is opened and truncated (`create_private_file`), its
mode is set, it is written to by `write_all` in as many pieces as the system likes, flushed by
`sync_all`, and renamed. Each call may succeed or fail, a write may fail with part of it done
(`Fortune`), and the process may be killed between any two of them. If every call succeeds, the
whole is `Directory.update` (`attempt_undisturbed`).

What holds at every step is `AttemptInvariant`: until the renaming only the temporary file has been
touched, so the directory is `SameFile` to the one it was, and the temporary file holds exactly what
has been written so far. The renaming then brings the complete file in one step. A later request
cannot tell directories apart that are `SameFile`, so what an unfinished attempt leaves behind has
no effect on anything that follows, over any number of attempts (`SameFile.attempts`).
-/
import Rendezvous.Proofs.Credential.Persistence

set_option autoImplicit false

namespace Rendezvous.Credential

/-! ## Changes -/

/-- A change of the entries: `set_many` and `delete_many`, of which `set` and `delete` are the cases
with one entry. -/
inductive Change
  | putAll (added : List (String × String))
  | eraseAll (keys : List String)

/-- The entries after a change, or `none` if there is nothing to change: the closure that `update`
is given returns whether it has changed the map. Putting always counts as a change, removing only if
a key was there. -/
def Change.after? : Change → Entries → Option Entries
  | putAll added, before => some (before.putAll added)
  | eraseAll keys, before => if before.holdsAny keys then some (before.eraseAll keys) else none

/-- The outcome of a change in which every call to the file system succeeds. -/
def Directory.apply (d : Directory) : Change → Directory × Except Failure Unit
  | .putAll added => d.putAll added
  | .eraseAll keys => d.eraseAll keys

theorem Directory.apply_eq_update (d : Directory) (change : Change) :
    d.apply change = d.update change.after? := by
  cases change with
  | putAll added => rfl
  | eraseAll keys => rfl

/-! ## Steps -/

/-- Write to a file from an offset on. A gap before the offset is filled with zeros; it arises when
another writer has truncated the file since the last write. -/
def Node.writeAt (offset : Nat) (data : List UInt8) (node : Node) : Node :=
  if data = [] then node
  else
    { node with
      content := node.content.take offset ++ List.replicate (offset - node.content.length) 0 ++
        data ++ node.content.drop (offset + data.length) }

/-- How far a change has got, named for the call to the file system that comes next. The file that
was opened is remembered by its inode `n` and not by its name, as a file handle does. -/
inductive Phase
  | reading
  | opening (data : List UInt8)
  | restricting (n : Nat) (data : List UInt8)
  /-- what is left is to be written to a file, from an offset on -/
  | writing (n offset : Nat) (left : List UInt8)
  | syncing
  | moving
  | ended (result : Except Failure Unit)

/-- What becomes of a call. A write that succeeds takes some number of bytes, which may be fewer
than it was given. -/
inductive Fortune
  | goes (bytes : Nat)
  | fails (why : DiskFault) (bytes : Nat)

namespace Phase

/-- A call that succeeds, and the phase that follows it. A write may take fewer bytes than it was
given, and then the same phase goes on with the rest, as `write_all` does. -/
def advance (change : Change) (bytes : Nat) (d : Directory) : Phase → Directory × Phase
  | reading =>
    match d.entries with
    | .error why => (d, ended (.error why))
    | .ok before =>
      match change.after? before with
      | none => (d, ended (.ok ()))
      | some after => (d, opening after.toBytes)
  | opening data =>
    match d.openTemp with
    | .error e => (d, ended (.error (.disk e)))
    | .ok (n, opened) => (opened, restricting n data)
  | restricting n data => (d.restrict n, writing n 0 data)
  | writing n offset left =>
    (d.changeNode n (Node.writeAt offset (left.take bytes)),
      if left.length ≤ bytes then syncing else writing n (offset + bytes) (left.drop bytes))
  | syncing => (d, moving)
  | moving =>
    match d.rename with
    | .error e => (d, ended (.error (.disk e)))
    | .ok renamed => (renamed, ended (.ok ()))
  | ended result => (d, ended result)

/-- A call that fails, and ends the change. Only a write may have been carried out in part. -/
def fail (why : DiskFault) (bytes : Nat) (d : Directory) : Phase → Directory × Phase
  | writing n offset left =>
    (d.changeNode n (Node.writeAt offset (left.take bytes)), ended (.error (.disk why)))
  | ended result => (d, ended result)
  | _ => (d, ended (.error (.disk why)))

/-- A step, as fortune has it. -/
def step (change : Change) (d : Directory) (phase : Phase) : Fortune → Directory × Phase
  | .goes bytes => phase.advance change bytes d
  | .fails why bytes => phase.fail why bytes d

/-- Several steps. -/
def steps (change : Change) (d : Directory) (phase : Phase) : List Fortune → Directory × Phase
  | [] => (d, phase)
  | fortune :: fortunes =>
    let next := phase.step change d fortune
    steps change next.1 next.2 fortunes

/-- Whether the change has been made. -/
def isDone : Phase → Bool
  | ended (.ok ()) => true
  | _ => false

theorem isDone_iff {phase : Phase} : phase.isDone = true ↔ phase = ended (.ok ()) := by
  constructor
  · intro h
    unfold isDone at h
    split at h
    · rfl
    · cases h
  · rintro rfl
    rfl

end Phase

/-- An attempt to make a change, broken off after as many calls as there are fortunes. A process
that is killed is an attempt with no further fortune. -/
def Directory.attempt (d : Directory) (change : Change) (fortunes : List Fortune) :
    Directory × Phase :=
  Phase.reading.steps change d fortunes

/-! ## Nothing in the way -/

theorem Node.writeAt_zero (data : List UInt8) : Node.writeAt 0 data = Directory.overwrite data := by
  funext node
  rw [writeAt, Directory.overwrite]
  split
  · rename_i hdata
    rw [hdata, List.length_nil, List.drop_zero, List.nil_append]
  · rw [List.take_zero, Nat.zero_sub, List.replicate_zero, List.nil_append, List.nil_append,
      Nat.zero_add]

/-- What is written at the end of a file is added to it. -/
theorem Node.writeAt_length (mode : Nat) (written data : List UInt8) :
    Node.writeAt written.length data ⟨mode, written⟩ = ⟨mode, written ++ data⟩ := by
  rw [writeAt]
  split
  · rename_i hdata
    rw [hdata, List.append_nil]
  · rw [List.take_length, Nat.sub_self, List.replicate_zero, List.append_nil,
      List.drop_eq_nil_of_le (Nat.le_add_right ..), List.append_nil]

namespace Directory

variable {d d' : Directory} {change : Change}

/-- What has come to an end stays there. -/
theorem steps_ended (result : Except Failure Unit) (fortunes : List Fortune) :
    (Phase.ended result).steps change d fortunes = (d, .ended result) := by
  induction fortunes with
  | nil => rfl
  | cons fortune fortunes ih =>
    cases fortune with
    | goes bytes => exact ih
    | fails why bytes => exact ih

/-- From the opening on, five calls that succeed replace the file, or leave it alone if a directory
stands in the way. -/
theorem steps_opening_undisturbed {data : List UInt8} {bytes : Nat} (hbytes : data.length ≤ bytes) :
    (Phase.opening data).steps change d (List.replicate 5 (.goes bytes)) =
      ((d.replace data).1, .ended ((d.replace data).2.mapError .disk)) := by
  simp only [List.replicate, Phase.steps, Phase.step]
  rcases hopen : d.openTemp with e | ⟨n, opened⟩
  · have hopening : (Phase.opening data).advance change bytes d =
        (d, .ended (.error (.disk e))) := by
      simp only [Phase.advance, hopen]
    have hreplace : d.replace data = (d, .error e) := by
      simp only [replace, hopen]
    rw [hopening, hreplace]
    rfl
  have hopening : (Phase.opening data).advance change bytes d = (opened, .restricting n data) := by
    simp only [Phase.advance, hopen]
  have hrestricting : (Phase.restricting n data).advance change bytes opened =
      (opened.restrict n, .writing n 0 data) := rfl
  -- everything is written in one piece
  have hwriting : (Phase.writing n 0 data).advance change bytes (opened.restrict n) =
      ((opened.restrict n).write n data, .syncing) := by
    rw [Phase.advance, if_pos hbytes, List.take_of_length_le hbytes, Node.writeAt_zero]
    rfl
  have hsyncing (d' : Directory) : Phase.syncing.advance change bytes d' = (d', .moving) := rfl
  rw [hopening, hrestricting, hwriting, hsyncing]
  rcases hrename : ((opened.restrict n).write n data).rename with e | renamed
  · have hreplace : d.replace data = ((opened.restrict n).write n data, .error e) := by
      simp only [replace, hopen, hrename]
    rw [hreplace, Phase.advance, hrename]
    rfl
  · have hreplace : d.replace data = (renamed, .ok ()) := by
      simp only [replace, hopen, hrename]
    rw [hreplace, Phase.advance, hrename]
    rfl

/-- **If all goes well, a change is what an update makes of it**, in six calls. It ties the phases
to `Directory.update`, on which every other statement about the storage rests. -/
theorem attempt_undisturbed {bytes : Nat}
    (hbytes : ∀ before after, d.entries = .ok before → change.after? before = some after →
      after.toBytes.length ≤ bytes) :
    d.attempt change (List.replicate 6 (.goes bytes)) =
      ((d.apply change).1, .ended (d.apply change).2) := by
  rw [apply_eq_update, attempt, List.replicate_succ, Phase.steps, Phase.step]
  -- the file cannot be read, or there is nothing to change, or it is replaced in five more calls
  rcases hentries : d.entries with why | before
  · have hread : Phase.reading.advance change bytes d = (d, .ended (.error why)) := by
      rw [Phase.advance, hentries]
    rw [hread, update_of_error hentries, steps_ended]
  rcases hafter : change.after? before with _ | after
  · have hread : Phase.reading.advance change bytes d = (d, .ended (.ok ())) := by
      simp only [Phase.advance, hentries, hafter]
    rw [hread, update_of_none hentries hafter, steps_ended]
  · have hread : Phase.reading.advance change bytes d = (d, .opening after.toBytes) := by
      simp only [Phase.advance, hentries, hafter]
    rw [hread, update_of_some hentries hafter,
      steps_opening_undisturbed (hbytes before after hentries hafter)]

/-! ## What holds at every step -/

/-- The change, made of what the directory holds, asks for the file to be replaced by this data. -/
def Asked (d : Directory) (change : Change) (data : List UInt8) : Prop :=
  ∃ before after, d.entries = .ok before ∧ change.after? before = some after ∧
    data = after.toBytes

/-- The temporary file is open and holds what has been written; for a request the directory is as it
was. -/
structure Midway (d d' : Directory) (n : Nat) (written : List UInt8) : Prop where
  alike : SameFile d d'
  temp : d'.temp = some (.file n)
  content : ∃ mode, d'.nodes[n]? = some ⟨mode, written⟩

/-- **The invariant of an attempt** on the directory `d`, with one case per phase. In all but the
last two the directory is still `SameFile` to `d`; `unneeded` is the change that had nothing to do,
and `replaced` the one that has been made. -/
inductive AttemptInvariant (d : Directory) (change : Change) : Directory × Phase → Prop
  | reading : AttemptInvariant d change (d, .reading)
  | opening {data : List UInt8} (hasked : Asked d change data) :
      AttemptInvariant d change (d, .opening data)
  | restricting {d' : Directory} {n : Nat} {data : List UInt8} (hasked : Asked d change data)
      (hmidway : Midway d d' n []) : AttemptInvariant d change (d', .restricting n data)
  | writing {d' : Directory} {n : Nat} {written left : List UInt8}
      (hasked : Asked d change (written ++ left)) (hmidway : Midway d d' n written) :
      AttemptInvariant d change (d', .writing n written.length left)
  | syncing {d' : Directory} {n : Nat} {data : List UInt8} (hasked : Asked d change data)
      (hmidway : Midway d d' n data) : AttemptInvariant d change (d', .syncing)
  | moving {d' : Directory} {n : Nat} {data : List UInt8} (hasked : Asked d change data)
      (hmidway : Midway d d' n data) : AttemptInvariant d change (d', .moving)
  | failed {d' : Directory} {why : Failure} (halike : SameFile d d') :
      AttemptInvariant d change (d', .ended (.error why))
  | unneeded {before : Entries} (hbefore : d.entries = .ok before)
      (hnone : change.after? before = none) : AttemptInvariant d change (d, .ended (.ok ()))
  | replaced {d' : Directory} {data : List UInt8} (hasked : Asked d change data)
      (hfree : ¬ Blocked d.temp) (horderly : d'.Orderly) (hread : d'.read = .ok (some data))
      (htemp : d'.temp = none) : AttemptInvariant d change (d', .ended (.ok ()))

variable {n : Nat} {written data : List UInt8}

theorem Midway.free (h : Midway d d' n written) : ¬ Blocked d.temp := by
  rw [← h.alike.temp, h.temp]
  exact not_blocked_file n

/-- What is done to the temporary file makes no difference to a request, since the names of the file
and of the temporary file do not lead to the same inode. -/
theorem Midway.changeNode (h : Midway d d' n written) {f : Node → Node} {written' : List UInt8}
    (hf : ∀ mode, ∃ mode', f ⟨mode, written⟩ = ⟨mode', written'⟩) :
    Midway d (d'.changeNode n f) n written' where
  alike := {
    left := h.alike.left
    right := h.alike.right.changeNode n f
    read := by
      rw [read_changeNode (fun hmain => h.alike.right.apart hmain h.temp) f]
      exact h.alike.read
    temp := h.alike.temp }
  temp := h.temp
  content := by
    obtain ⟨mode, hcontent⟩ := h.content
    obtain ⟨mode', hmode'⟩ := hf mode
    refine ⟨mode', ?_⟩
    rw [getElem?_changeNode_self, hcontent, Option.map_some, hmode']

theorem Midway.restrict (h : Midway d d' n written) : Midway d (d'.restrict n) n written :=
  h.changeNode fun _ => ⟨privateFileMode, rfl⟩

theorem Midway.write (h : Midway d d' n written) (data : List UInt8) :
    Midway d (d'.changeNode n (Node.writeAt written.length data)) n (written ++ data) :=
  h.changeNode fun mode => ⟨mode, Node.writeAt_length mode written data⟩

theorem midway_of_opened {opened : Directory} (h : d.Orderly) (hfree : ¬ Blocked d.temp)
    (ho : Opened d opened n) : Midway d opened n [] where
  alike := {
    left := h
    right := ho.orderly h
    read := ho.read h
    temp := by
      refine iff_of_false ?_ hfree
      rw [ho.temp]
      exact not_blocked_file n }
  temp := ho.temp
  content := ho.empty

/-- A call that succeeds preserves the invariant, case by case along the phases: the file is
read, then the temporary one is opened, restricted, written, synced and renamed (`update`,
`write_map`). -/
theorem AttemptInvariant.advance (h : d.Orderly) {phase : Phase}
    (hs : AttemptInvariant d change (d', phase))
    (bytes : Nat) : AttemptInvariant d change (phase.advance change bytes d') := by
  cases hs with
  | reading =>
    unfold Phase.advance
    rcases hentries : d.entries with why | before
    · exact .failed (.refl h)
    dsimp only
    rcases hafter : change.after? before with _ | after
    · exact .unneeded hentries hafter
    · exact .opening ⟨before, after, hentries, hafter, rfl⟩
  | opening hasked =>
    unfold Phase.advance
    by_cases hfree : Blocked d.temp
    · rw [openTemp_of_blocked hfree]
      exact .failed (.refl h)
    · obtain ⟨n, opened, hopen, ho⟩ := openTemp_of_not_blocked h.toGrounded hfree
      rw [hopen]
      exact .restricting hasked (midway_of_opened h hfree ho)
  | @restricting _ n data hasked hmidway =>
    -- nothing has been written yet
    have hwriting : AttemptInvariant d change
        (d'.restrict n, .writing n ([] : List UInt8).length data) :=
      .writing hasked hmidway.restrict
    exact hwriting
  | @writing _ n written left hasked hmidway =>
    have hwrite := hmidway.write (left.take bytes)
    rw [Phase.advance]
    split
    · -- this was the last piece
      rename_i hlength
      rw [List.take_of_length_le hlength] at hwrite ⊢
      exact .syncing hasked hwrite
    · rename_i hlength
      have hoffset : written.length + bytes = (written ++ left.take bytes).length := by
        rw [List.length_append, List.length_take, Nat.min_eq_left (Nat.le_of_not_le hlength)]
      rw [hoffset]
      refine .writing ?_ hwrite
      rwa [List.append_assoc, List.take_append_drop]
  | syncing hasked hmidway => exact .moving hasked hmidway
  | @moving _ n data hasked hmidway =>
    -- the entries could be read, so no directory stands where the file belongs
    have hmain : ¬ Blocked d'.main := by
      obtain ⟨before, after, hentries, -⟩ := hasked
      exact not_blocked_of_entries (hmidway.alike.entries.trans hentries)
    obtain ⟨mode, hcontent⟩ := hmidway.content
    unfold Phase.advance
    rw [rename_of_not_blocked hmain hmidway.temp]
    exact .replaced hasked hmidway.free (hmidway.alike.right.toGrounded.renamed hmidway.temp)
      (read_renamed hcontent) rfl
  | failed halike => exact .failed halike
  | unneeded hbefore hnone => exact .unneeded hbefore hnone
  | replaced hasked hfree horderly hread htemp => exact .replaced hasked hfree horderly hread htemp

/-- A call that fails preserves the invariant: it ends the change, and what it may have done in part
was done to the temporary file. -/
theorem AttemptInvariant.fail (h : d.Orderly) {phase : Phase}
    (hs : AttemptInvariant d change (d', phase))
    (why : DiskFault) (bytes : Nat) : AttemptInvariant d change (phase.fail why bytes d') := by
  cases hs with
  | reading => exact .failed (.refl h)
  | opening _ => exact .failed (.refl h)
  | restricting _ hmidway => exact .failed hmidway.alike
  | @writing _ _ _ left _ hmidway => exact .failed (hmidway.write (left.take bytes)).alike
  | syncing _ hmidway => exact .failed hmidway.alike
  | moving _ hmidway => exact .failed hmidway.alike
  | failed halike => exact .failed halike
  | unneeded hbefore hnone => exact .unneeded hbefore hnone
  | replaced hasked hfree horderly hread htemp => exact .replaced hasked hfree horderly hread htemp

/-- The invariant holds wherever an attempt is broken off, by induction on the calls that were
made. -/
theorem AttemptInvariant.steps (h : d.Orderly) {phase : Phase}
    (hs : AttemptInvariant d change (d', phase))
    (fortunes : List Fortune) : AttemptInvariant d change (phase.steps change d' fortunes) := by
  induction fortunes generalizing d' phase with
  | nil => exact hs
  | cons fortune fortunes ih =>
    refine ih ?_
    cases fortune with
    | goes bytes => exact hs.advance h bytes
    | fails why bytes => exact hs.fail h why bytes

theorem attemptInvariant_attempt (h : d.Orderly) (change : Change) (fortunes : List Fortune) :
    AttemptInvariant d change (d.attempt change fortunes) :=
  AttemptInvariant.steps h .reading fortunes

/-! ## What is left behind -/

/-- An attempt that has not succeeded has changed nothing that a request could notice. It may have
left a temporary file, which `SameFile` does not look at. -/
theorem AttemptInvariant.sameFile_of_not_done (h : d.Orderly) {phase : Phase}
    (hs : AttemptInvariant d change (d', phase)) (hphase : phase.isDone = false) :
    SameFile d d' := by
  cases hs with
  | reading => exact .refl h
  | opening _ => exact .refl h
  | restricting _ hmidway => exact hmidway.alike
  | writing _ hmidway => exact hmidway.alike
  | syncing _ hmidway => exact hmidway.alike
  | moving _ hmidway => exact hmidway.alike
  | failed halike => exact halike
  | unneeded _ _ => cases hphase
  | replaced _ _ _ _ _ => cases hphase

/-- An attempt that has succeeded found nothing to change or has replaced the file. There is no
third way to the end, since every error ends the attempt with `Err`. -/
theorem AttemptInvariant.of_done {phase : Phase} (hs : AttemptInvariant d change (d', phase))
    (hphase : phase.isDone = true) :
    (∃ before, d.entries = .ok before ∧ change.after? before = none ∧ d' = d) ∨
      ∃ before after, d.entries = .ok before ∧ change.after? before = some after ∧
        d'.read = .ok (some after.toBytes) ∧ ¬ Blocked d.temp ∧ d'.Orderly ∧ d'.temp = none := by
  cases hs with
  | reading => cases hphase
  | opening _ => cases hphase
  | restricting _ _ => cases hphase
  | writing _ _ => cases hphase
  | syncing _ _ => cases hphase
  | moving _ _ => cases hphase
  | failed _ => cases hphase
  | unneeded hbefore hnone => exact .inl ⟨_, hbefore, hnone, rfl⟩
  | replaced hasked hfree horderly hread htemp =>
    obtain ⟨before, after, hbefore, hafter, rfl⟩ := hasked
    exact .inr ⟨before, after, hbefore, hafter, hread, hfree, horderly, htemp⟩

/-- An attempt that has succeeded has made the change: the file is the one that the change in one
piece (`Directory.apply`) would have left. What is in the way of the temporary file is not
compared. -/
theorem AttemptInvariant.sameFile_of_done (h : d.Orderly) {phase : Phase}
    (hs : AttemptInvariant d change (d', phase))
    (hphase : phase.isDone = true) : SameFile (d.apply change).1 d' := by
  rw [apply_eq_update]
  rcases hs.of_done hphase with ⟨before, hbefore, hnone, rfl⟩ |
    ⟨before, after, hbefore, hafter, hread, hfree, horderly, htemp⟩
  · rw [update_of_none hbefore hnone]
    exact .refl h
  · obtain ⟨-, hread₁, horderly₁, htemp₁⟩ := replace_of_not_blocked h.toGrounded
      (not_blocked_of_entries hbefore) hfree after.toBytes
    rw [update_of_some hbefore hafter]
    exact {
      left := horderly₁
      right := horderly
      read := hread.trans hread₁.symm
      temp := by rw [htemp, htemp₁] }

/-! ## Later requests -/

theorem SameFile.apply (h : SameFile d d') (change : Change) :
    (d'.apply change).2 = (d.apply change).2 ∧
      SameFile (d.apply change).1 (d'.apply change).1 := by
  rw [apply_eq_update, apply_eq_update]
  exact h.update change.after?

/-- Directories that are `SameFile` cannot be told apart by calls, however many. So a stale
temporary file never comes to light later on. -/
theorem simulation_sameFile : Vault.Simulation fun v v' =>
    ∃ d d', v = Vault.onFile d ∧ v' = Vault.onFile d' ∧ SameFile d' d where
  get := by
    rintro _ _ key ⟨d, d', rfl, rfl, h⟩
    exact congrArg (Except.map fun entries => Entries.get? entries key) h.entries
  putAll := by
    rintro _ _ added ⟨d, d', rfl, rfl, h⟩
    obtain ⟨hresult, h'⟩ := h.apply (.putAll added)
    exact ⟨hresult, _, _, rfl, rfl, h'⟩
  eraseAll := by
    rintro _ _ keys ⟨d, d', rfl, rfl, h⟩
    obtain ⟨hresult, h'⟩ := h.apply (.eraseAll keys)
    exact ⟨hresult, _, _, rfl, rfl, h'⟩

/-- The directory after several attempts, and the changes of those that succeeded. -/
def attempts (d : Directory) : List (Change × List Fortune) → Directory × List Change
  | [] => (d, [])
  | (change, fortunes) :: later =>
    let first := d.attempt change fortunes
    let rest := first.1.attempts later
    (rest.1, if first.2.isDone then change :: rest.2 else rest.2)

/-- The directory after several changes in which every call succeeds. -/
def applyAll (d : Directory) (made : List Change) : Directory :=
  made.foldl (fun d change => (d.apply change).1) d

/-- **Attempts that did not succeed leave no trace.** The directory is as if only the others had
been made, with every call of theirs successful. -/
theorem SameFile.attempts (h : SameFile d d') (later : List (Change × List Fortune)) :
    SameFile (d.applyAll (d'.attempts later).2) (d'.attempts later).1 := by
  induction later generalizing d d' with
  | nil => exact h
  | cons first later ih =>
    obtain ⟨change, fortunes⟩ := first
    have hs := attemptInvariant_attempt h.right change fortunes
    rw [Directory.attempts]
    -- the directory to compare with makes a change only if the attempt got to its end
    by_cases hdone : (d'.attempt change fortunes).2.isDone = true
    · rw [if_pos hdone]
      exact ih ((h.apply change).2.trans (hs.sameFile_of_done h.right hdone))
    · rw [if_neg hdone]
      exact ih (h.trans (hs.sameFile_of_not_done h.right (eq_false_of_ne_true hdone)))

end Directory

/-! ## All or nothing -/

/-- **A change of the file is all or nothing.** Whatever is in the directory, and wherever an
attempt to make a change fails or is broken off: the file is as it was or is complete with the
change in it, and nothing else at any step. It is as it was if the attempt ends with a failure. If
it ends well, the change has been made, and if there was nothing to change the directory was not
touched. An attempt that did not end well makes no difference to what comes later, be it further
attempts, in whatever way they go, or any calls and their replies. -/
theorem change_all_or_nothing {d d' : Directory} {phase : Phase} (horderly : d.Orderly)
    (change : Change) (fortunes : List Fortune)
    (hattempt : d.attempt change fortunes = (d', phase)) :
    (d'.read = d.read ∨ ∃ before after, d.entries = .ok before ∧
        change.after? before = some after ∧ d'.read = .ok (some after.toBytes)) ∧
      (∀ why, phase = .ended (.error why) → d'.read = d.read) ∧
      (phase = .ended (.ok ()) → ∃ before, d.entries = .ok before ∧
        (change.after? before = none → d' = d) ∧
        ∀ after, change.after? before = some after → d'.read = .ok (some after.toBytes)) ∧
      (phase ≠ .ended (.ok ()) → ∀ later,
        (d'.attempts later).1.read = (d.applyAll (d'.attempts later).2).read ∧
        ∀ calls, ((Vault.onFile (d'.attempts later).1).answers calls).2 =
          ((Vault.onFile (d.applyAll (d'.attempts later).2)).answers calls).2) := by
  have hs : d.AttemptInvariant change (d', phase) := by
    rw [← hattempt]
    exact Directory.attemptInvariant_attempt horderly change fortunes
  refine ⟨?_, ?_, ?_, ?_⟩
  · -- the file: either the attempt has succeeded, or the invariant gives the file as it was
    by_cases hdone : phase.isDone = true
    · rcases hs.of_done hdone with ⟨before, hbefore, hnone, rfl⟩ |
        ⟨before, after, hbefore, hafter, hread, -⟩
      · exact .inl rfl
      · exact .inr ⟨before, after, hbefore, hafter, hread⟩
    · exact .inl (hs.sameFile_of_not_done horderly (eq_false_of_ne_true hdone)).read
  · rintro why rfl
    exact (hs.sameFile_of_not_done horderly rfl).read
  · rintro rfl
    rcases hs.of_done rfl with ⟨before, hbefore, hnone, rfl⟩ |
      ⟨before, after, hbefore, hafter, hread, -⟩
    · refine ⟨before, hbefore, fun _ => rfl, fun after hafter => ?_⟩
      rw [hnone] at hafter
      cases hafter
    · refine ⟨before, hbefore, fun hnone => ?_, fun after' hafter' => ?_⟩
      · rw [hnone] at hafter
        cases hafter
      · rw [hafter] at hafter'
        obtain rfl := Option.some.inj hafter'
        exact hread
  · intro hphase later
    -- what an unsuccessful attempt left behind is lost on everything that comes later
    have hdone : phase.isDone = false :=
      eq_false_of_ne_true fun hdone => hphase (Phase.isDone_iff.mp hdone)
    have halike := (hs.sameFile_of_not_done horderly hdone).attempts later
    refine ⟨halike.read, fun calls => ?_⟩
    exact (Directory.simulation_sameFile.answers ⟨_, _, rfl, rfl, halike⟩ calls).1

/-- A directory with a file, and with a temporary file that an earlier process has left there. -/
def leftOver : Directory where
  mode := Directory.privateMode
  nodes :=
    [{ mode := Directory.privateFileMode, content := Entries.toBytes [("a", "old")] },
     { mode := Directory.commonFileMode, content := [0x7b, 0x22] }]
  main := some (.file 0)
  temp := some (.file 1)

/-- A change for which there is no room: three bytes are written, then one, and no more. -/
def noRoom : List Fortune :=
  [.goes 0, .goes 0, .goes 0, .goes 3, .fails (.told "No space left on device (os error 28)") 1]

theorem change_all_or_nothing_noRoom :
    leftOver.Orderly ∧ ∃ d' phase,
      leftOver.attempt (.putAll [("a", "new"), ("b", "new")]) noRoom = (d', phase) ∧
        (d'.nodes[1]?).map Node.content = some (Text.Utf8.bytes "\x7b\"a\"") ∧
        phase ≠ .ended (.ok ()) ∧
        ∀ calls, ((Vault.onFile d').answers calls).2 =
          ((Vault.onFile leftOver).answers calls).2 := by
  have horderly : leftOver.Orderly := {
    main_lt := fun h => by
      obtain rfl := Link.file.inj (Option.some.inj h)
      exact Nat.zero_lt_two
    temp_lt := fun h => by
      obtain rfl := Link.file.inj (Option.some.inj h)
      exact Nat.one_lt_two
    apart := fun h => by
      obtain rfl := Link.file.inj (Option.some.inj h)
      decide }
  have hphase :
      (leftOver.attempt (.putAll [("a", "new"), ("b", "new")]) noRoom).2 ≠ .ended (.ok ()) := by
    intro hdone
    exact absurd (Phase.isDone_iff.mpr hdone) (by decide +kernel)
  obtain ⟨-, -, -, hlater⟩ := change_all_or_nothing horderly
    (.putAll [("a", "new"), ("b", "new")]) noRoom rfl
  refine ⟨horderly, _, _, rfl, by decide +kernel, hphase, ?_⟩
  -- no further attempt is made, so the calls are answered as by the directory it was
  exact (hlater hphase []).2

end Rendezvous.Credential
