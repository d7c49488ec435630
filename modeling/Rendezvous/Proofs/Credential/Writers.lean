/-
Several `FileStorage` values that have the same directory open.

The comment on `FileStorage` says that every write replaces the whole file through a temporary file
and a rename, so that a concurrent reader sees either the old map or the new one. A writer is one
value of that type. Its `lock` lets a change begin only when its last one has ended. The lock is the
writer's own, though: nothing keeps the changes of two writers apart, so their calls to the file
system come in any order (`Shared.next`), and all of them write to the one `credentials.tmp`.

As long as only one writer has that file open at any time (`Shared.Apart`), `credentials.json` is
always complete: what is written is in the temporary file, and the renaming brings it as a whole.
The invariant is `Sound`; what carries it is that the change which has the temporary file open finds
in it exactly what it has written so far (`Underway`). A single writer is always in this case, by
its lock.

Two writers need not be. A writer that opens the temporary file while another one has it open
truncates it, and holds the very inode that the other one is about to rename:
`whole_file_needs_apart` is such a run, in which the file is empty for a while, is then half
written, and at last holds the entries of a change that has failed.
-/
import Mathlib.Data.List.Induction
import Mathlib.Data.List.Infix
import Rendezvous.Proofs.Credential.Attempt

set_option autoImplicit false

namespace Rendezvous.Credential

/-! ## Writers and what they do -/

/-- The change has not ended; its writer holds the lock. -/
def Phase.isUnderway : Phase → Bool
  | ended _ => false
  | _ => true

/-- The temporary file has been opened by this change and not yet renamed. -/
def Phase.hasOpened : Phase → Bool
  | restricting .. => true
  | writing .. => true
  | syncing => true
  | moving => true
  | _ => false

/-- The error of the disk with which a change has ended. -/
def Phase.complaint? : Phase → Option DiskFault
  | ended (.error (.disk why)) => some why
  | _ => none

/-- A change that a writer is making, or has made. -/
structure Job (ι : Type) where
  writer : ι
  change : Change
  phase : Phase

/-- A directory that writers share, and their changes in the order in which they have begun. -/
structure Shared (ι : Type) where
  directory : Directory
  jobs : List (Job ι)

/-- What happens next. The order of the moments is the schedule, and it is arbitrary. -/
inductive Moment (ι : Type)
  /-- a writer begins a change -/
  | begin (writer : ι) (change : Change)
  /-- a change goes one step on -/
  | step (number : Nat) (fortune : Fortune)

namespace Shared

variable {ι : Type}

/-- A directory to which no change is being made. -/
def quiet (d : Directory) : Shared ι where
  directory := d
  jobs := []

/-- Whether a writer is making a change, so that its lock is taken. -/
def isBusy [DecidableEq ι] (s : Shared ι) (writer : ι) : Bool :=
  s.jobs.any fun job => job.writer = writer && job.phase.isUnderway

/-- What comes of a moment. A writer waits for its own lock, which here is to say that a change of
its does not begin while it is making another one. -/
def next [DecidableEq ι] (s : Shared ι) : Moment ι → Shared ι
  | .begin writer change =>
    if s.isBusy writer then s else { s with jobs := s.jobs ++ [⟨writer, change, .reading⟩] }
  | .step number fortune =>
    match s.jobs[number]? with
    | none => s
    | some job =>
      let r := job.phase.step job.change s.directory fortune
      { directory := r.1, jobs := s.jobs.set number { job with phase := r.2 } }

/-- What comes of several moments. -/
def after [DecidableEq ι] (s : Shared ι) (moments : List (Moment ι)) : Shared ι :=
  moments.foldl next s

/-- No two writers have the temporary file open at this moment. -/
def Apart (s : Shared ι) : Prop :=
  ∀ job ∈ s.jobs, ∀ other ∈ s.jobs, job.phase.hasOpened = true → other.phase.hasOpened = true →
    job.writer = other.writer

instance [DecidableEq ι] (s : Shared ι) : Decidable s.Apart :=
  inferInstanceAs (Decidable (∀ job ∈ s.jobs, ∀ other ∈ s.jobs, job.phase.hasOpened = true →
    other.phase.hasOpened = true → job.writer = other.writer))

/-! ## The lock of a writer -/

/-- No writer is making two changes. -/
def Locked (s : Shared ι) : Prop :=
  ∀ (i j : Nat) (job other : Job ι), s.jobs[i]? = some job → s.jobs[j]? = some other →
    job.phase.isUnderway = true → other.phase.isUnderway = true → job.writer = other.writer → i = j

theorem isUnderway_of_hasOpened {phase : Phase} (h : phase.hasOpened = true) :
    phase.isUnderway = true := by
  cases phase with
  | ended result => cases h
  | _ => rfl

/-- A change that has ended is not taken up again. -/
theorem isUnderway_of_step {change : Change} {d : Directory} {phase : Phase} {fortune : Fortune}
    (h : (phase.step change d fortune).2.isUnderway = true) : phase.isUnderway = true := by
  cases phase with
  | ended result =>
    cases fortune with
    | goes bytes => exact h
    | fails why bytes => exact h
  | _ => rfl

variable {s : Shared ι} {number : Nat} {job : Job ι}

/-- The changes after a step: the one that made it, and the others as they were. -/
theorem getElem?_set_cases {jobs : List (Job ι)} {i : Nat} {later found : Job ι}
    (h : (jobs.set number later)[i]? = some found) :
    (i = number ∧ found = later) ∨ (i ≠ number ∧ jobs[i]? = some found) := by
  by_cases hi : i = number
  · subst hi
    obtain ⟨hlt, hfound⟩ := List.getElem?_eq_some_iff.mp h
    rw [List.getElem_set_self] at hfound
    exact .inl ⟨rfl, hfound.symm⟩
  · rw [List.getElem?_set_ne (Ne.symm hi)] at h
    exact .inr ⟨hi, h⟩

/-- The changes after one has begun. -/
theorem getElem?_concat_cases {jobs : List (Job ι)} {i : Nat} {latest found : Job ι}
    (h : (jobs ++ [latest])[i]? = some found) :
    jobs[i]? = some found ∨ (i = jobs.length ∧ found = latest) := by
  rcases Nat.lt_trichotomy i jobs.length with hlt | heq | hgt
  · rw [List.getElem?_append_left hlt] at h
    exact .inl h
  · rw [heq, List.getElem?_concat_length] at h
    exact .inr ⟨heq, (Option.some.inj h).symm⟩
  · rw [List.getElem?_eq_none (by rw [List.length_append, List.length_singleton]; omega)] at h
    cases h

/-- While writers keep apart, one change at most has the temporary file open: two would be of one
writer, whose lock allows one. -/
theorem Locked.alone (h : s.Locked) (hapart : s.Apart) {i j : Nat} {other : Job ι}
    (hi : s.jobs[i]? = some job) (hj : s.jobs[j]? = some other)
    (hjob : job.phase.hasOpened = true) (hother : other.phase.hasOpened = true) : i = j :=
  h i j job other hi hj (isUnderway_of_hasOpened hjob) (isUnderway_of_hasOpened hother)
    (hapart job (List.mem_of_getElem? hi) other (List.mem_of_getElem? hj) hjob hother)

variable [DecidableEq ι]

theorem after_append (s : Shared ι) (moments later : List (Moment ι)) :
    s.after (moments ++ later) = (s.after moments).after later :=
  List.foldl_append

theorem after_concat (s : Shared ι) (moments : List (Moment ι)) (moment : Moment ι) :
    s.after (moments ++ [moment]) = (s.after moments).next moment := by
  rw [after_append, after, List.foldl_cons, List.foldl_nil]

theorem next_step (hjob : s.jobs[number]? = some job) (fortune : Fortune) :
    s.next (.step number fortune) =
      { directory := (job.phase.step job.change s.directory fortune).1
        jobs := s.jobs.set number
          { job with phase := (job.phase.step job.change s.directory fortune).2 } } := by
  rw [next, hjob]

theorem not_isUnderway_of_not_isBusy {writer : ι} (h : ¬ s.isBusy writer = true) {i : Nat}
    (hjob : s.jobs[i]? = some job) (hwriter : job.writer = writer) :
    job.phase.isUnderway = false := by
  rw [isBusy, List.any_eq_true] at h
  refine eq_false_of_ne_true fun hphase => h ⟨job, List.mem_of_getElem? hjob, ?_⟩
  rw [Bool.and_eq_true, decide_eq_true_eq]
  exact ⟨hwriter, hphase⟩

theorem Locked.next (h : s.Locked) (moment : Moment ι) : (s.next moment).Locked := by
  cases moment with
  | begin writer change =>
    rw [Shared.next]
    by_cases hbusy : s.isBusy writer = true
    · rw [if_pos hbusy]
      exact h
    · rw [if_neg hbusy]
      intro i j job other hi hj hjob hother hsame
      -- a writer that begins a change has no other one
      rcases getElem?_concat_cases hi with hi | ⟨rfl, rfl⟩
      · rcases getElem?_concat_cases hj with hj | ⟨rfl, rfl⟩
        · exact h i j job other hi hj hjob hother hsame
        · rw [not_isUnderway_of_not_isBusy hbusy hi hsame] at hjob
          cases hjob
      · rcases getElem?_concat_cases hj with hj | ⟨rfl, rfl⟩
        · rw [not_isUnderway_of_not_isBusy hbusy hj hsame.symm] at hother
          cases hother
        · rfl
  | step number fortune =>
    rcases hat : s.jobs[number]? with _ | at_
    · rw [Shared.next, hat]
      exact h
    · rw [next_step hat]
      intro i j job other hi hj hjob hother hsame
      rcases getElem?_set_cases hi with ⟨rfl, rfl⟩ | ⟨_, hi'⟩
      · rcases getElem?_set_cases hj with ⟨rfl, rfl⟩ | ⟨_, hj'⟩
        · rfl
        · exact h i j at_ other hat hj' (isUnderway_of_step hjob) hother hsame
      · rcases getElem?_set_cases hj with ⟨rfl, rfl⟩ | ⟨_, hj'⟩
        · exact h i j job at_ hi' hat hjob (isUnderway_of_step hother) hsame
        · exact h i j job other hi' hj' hjob hother hsame

/-- **A writer makes one change at a time**, whatever the others do. -/
theorem locked_after (d : Directory) (moments : List (Moment ι)) :
    ((quiet d).after moments).Locked := by
  induction moments using List.reverseRecOn with
  | nil =>
    intro i _ job _ hjob
    rw [after, List.foldl_nil, quiet, List.getElem?_nil] at hjob
    cases hjob
  | append_singleton moments moment ih =>
    rw [after_concat]
    exact ih.next moment

end Shared

/-! ## A change that has the temporary file open -/

namespace Directory

variable {d d' : Directory} {data content : List UInt8}

theorem not_blocked_of_read {content : Option (List UInt8)} (h : d.read = .ok content) :
    ¬ Blocked d.main := by
  rintro ⟨mode, hmain⟩
  rw [read, hmain] at h
  cases h

theorem Midway.rebase {n : Nat} (h : Midway d d' n content) : Midway d' d' n content :=
  ⟨.refl h.alike.right, h.temp, h.content⟩

/-- The temporary file holds what has been written of the data, and what is left is still to be
written. These are the phases of `AttemptInvariant` in which the file is open, without the demand
that the directory be as it was at the beginning of the change: other writers may have replaced the
file. -/
inductive Underway (d : Directory) : Directory × Phase → List UInt8 → Prop
  | restricting {d' : Directory} {n : Nat} {data : List UInt8} (hmidway : Midway d d' n []) :
      Underway d (d', .restricting n data) data
  | writing {d' : Directory} {n : Nat} {written left : List UInt8}
      (hmidway : Midway d d' n written) :
      Underway d (d', .writing n written.length left) (written ++ left)
  | syncing {d' : Directory} {n : Nat} {data : List UInt8} (hmidway : Midway d d' n data) :
      Underway d (d', .syncing) data
  | moving {d' : Directory} {n : Nat} {data : List UInt8} (hmidway : Midway d d' n data) :
      Underway d (d', .moving) data

/-- What a step comes to if no other writer has the temporary file open. -/
inductive Outcome (d : Directory) (data : List UInt8) : Directory × Phase → Prop
  | underway {d' : Directory} {phase : Phase} (hphase : phase.hasOpened = true)
      (h : Underway d (d', phase) data) : Outcome d data (d', phase)
  | failed {d' : Directory} {why : Failure} (halike : SameFile d d') :
      Outcome d data (d', .ended (.error why))
  | replaced {d' : Directory} (horderly : d'.Orderly) (hread : d'.read = .ok (some data)) :
      Outcome d data (d', .ended (.ok ()))

theorem Underway.alike {phase : Phase} (h : Underway d (d', phase) data) : SameFile d d' := by
  cases h with
  | restricting hmidway => exact hmidway.alike
  | writing hmidway => exact hmidway.alike
  | syncing hmidway => exact hmidway.alike
  | moving hmidway => exact hmidway.alike

theorem Underway.rebase {phase : Phase} (h : Underway d (d', phase) data) :
    Underway d' (d', phase) data := by
  cases h with
  | restricting hmidway => exact .restricting hmidway.rebase
  | writing hmidway => exact .writing hmidway.rebase
  | syncing hmidway => exact .syncing hmidway.rebase
  | moving hmidway => exact .moving hmidway.rebase

/-- A change that opens the temporary file finds it empty, since opening truncates it. With a
directory in its place it fails, and then nothing has been opened. -/
theorem step_opening (h : d.Orderly) (change : Change) (data : List UInt8) (fortune : Fortune) :
    (∃ why, (Phase.opening data).step change d fortune = (d, .ended (.error why))) ∨
      ((Phase.opening data).step change d fortune).2.hasOpened = true ∧
        Underway d ((Phase.opening data).step change d fortune) data := by
  cases fortune with
  | fails why bytes => exact .inl ⟨_, rfl⟩
  | goes bytes =>
    rw [Phase.step, Phase.advance]
    by_cases hfree : Blocked d.temp
    · rw [openTemp_of_blocked hfree]
      exact .inl ⟨_, rfl⟩
    · obtain ⟨n, opened, hopen, ho⟩ := openTemp_of_not_blocked h.toGrounded hfree
      rw [hopen]
      exact .inr ⟨rfl, .restricting (midway_of_opened h hfree ho)⟩

/-- A call that succeeds goes on with the temporary file, or renames it when it is complete.
`Underway` says that nothing else has touched the temporary file since it was opened; otherwise the
next call would write to a file with other contents. -/
theorem Underway.advance {phase : Phase} (h : Underway d (d', phase) data)
    (hread : d.read = .ok (some content)) (change : Change) (bytes : Nat) :
    Outcome d data (phase.advance change bytes d') := by
  cases h with
  | @restricting _ n data hmidway =>
    -- nothing has been written yet
    have hwriting : Underway d (d'.restrict n, .writing n ([] : List UInt8).length data) data :=
      .writing hmidway.restrict
    exact .underway rfl hwriting
  | @writing _ n written left hmidway =>
    have hwrite := hmidway.write (left.take bytes)
    rw [Phase.advance]
    split
    · -- this was the last piece
      rename_i hlength
      rw [List.take_of_length_le hlength] at hwrite ⊢
      exact .underway rfl (.syncing hwrite)
    · rename_i hlength
      have hoffset : written.length + bytes = (written ++ left.take bytes).length := by
        rw [List.length_append, List.length_take, Nat.min_eq_left (Nat.le_of_not_le hlength)]
      have hsplit : written ++ left = (written ++ left.take bytes) ++ left.drop bytes := by
        rw [List.append_assoc, List.take_append_drop]
      rw [hoffset, hsplit]
      exact .underway rfl (.writing hwrite)
  | syncing hmidway => exact .underway rfl (.moving hmidway)
  | @moving _ n data hmidway =>
    have hmain : ¬ Blocked d'.main := not_blocked_of_read (hmidway.alike.read.trans hread)
    obtain ⟨mode, hcontent⟩ := hmidway.content
    unfold Phase.advance
    rw [rename_of_not_blocked hmain hmidway.temp]
    exact .replaced (hmidway.alike.right.toGrounded.renamed hmidway.temp) (read_renamed hcontent)

/-- A call that fails ends the change and leaves the file alone. -/
theorem Underway.fail {phase : Phase} (h : Underway d (d', phase) data) (why : DiskFault)
    (bytes : Nat) : Outcome d data (phase.fail why bytes d') := by
  cases h with
  | restricting hmidway => exact .failed hmidway.alike
  | @writing _ _ _ left hmidway => exact .failed (hmidway.write (left.take bytes)).alike
  | syncing hmidway => exact .failed hmidway.alike
  | moving hmidway => exact .failed hmidway.alike

/-- **A step with the temporary file open** leaves the file as it is, or ends the change with the
complete data in it. -/
theorem Underway.step {phase : Phase} (h : Underway d (d', phase) data)
    (hread : d.read = .ok (some content)) (change : Change) (fortune : Fortune) :
    Outcome d data (phase.step change d' fortune) := by
  cases fortune with
  | goes bytes => exact h.advance hread change bytes
  | fails why bytes => exact h.fail why bytes

theorem Outcome.orderly {r : Directory × Phase} (h : Outcome d data r) : r.1.Orderly := by
  cases h with
  | underway _ h => exact h.alike.right
  | failed halike => exact halike.right
  | replaced horderly _ => exact horderly

theorem Outcome.read {r : Directory × Phase} (h : Outcome d data r) :
    r.1.read = d.read ∨ (r.2 = .ended (.ok ()) ∧ r.1.read = .ok (some data)) := by
  cases h with
  | underway _ h => exact .inl h.alike.read
  | failed halike => exact .inl halike.read
  | replaced _ hread => exact .inr ⟨rfl, hread⟩

/-- A change that still has the temporary file open after a step is underway in the directory that
the step has left. -/
theorem Outcome.underway_of_hasOpened {r : Directory × Phase} (h : Outcome d data r)
    (hphase : r.2.hasOpened = true) : Underway r.1 r data := by
  cases h with
  | underway _ h => exact h.rebase
  | failed _ => cases hphase
  | replaced _ _ => cases hphase

theorem Outcome.not_opening {r : Directory × Phase} (h : Outcome d data r) (data' : List UInt8) :
    r.2 ≠ .opening data' := by
  cases h with
  | underway hphase _ =>
    rintro rfl
    cases hphase
  | failed _ => nofun
  | replaced _ _ => nofun

end Directory

/-! ## All changes together -/

namespace Shared

variable {ι : Type} {s : Shared ι} {number : Nat} {job : Job ι} {start : Entries}

/-- The file is complete, and each change that has got so far will replace it by entries that it
means. `Meant` is left open here, because what a change means depends on what it has read and so on
the run; `Intends` fills it in. -/
structure Sound (Meant : Nat → Entries → Prop) (start : Entries) (s : Shared ι) : Prop where
  orderly : s.directory.Orderly
  file : ∃ es, (es = start ∨ ∃ number, Meant number es) ∧
    s.directory.read = .ok (some es.toBytes)
  opening : ∀ {number job data}, s.jobs[number]? = some job → job.phase = .opening data →
    ∃ es, Meant number es ∧ data = es.toBytes
  underway : ∀ {number job}, s.jobs[number]? = some job → job.phase.hasOpened = true →
    ∃ es, Meant number es ∧ s.directory.Underway (s.directory, job.phase) es.toBytes

variable {Meant Meant' : Nat → Entries → Prop}

theorem Sound.mono (h : Sound Meant start s)
    (hmono : ∀ number es, Meant number es → Meant' number es) : Sound Meant' start s where
  orderly := h.orderly
  file := by
    obtain ⟨es, hes, hread⟩ := h.file
    exact ⟨es, hes.imp_right fun ⟨number, hes⟩ => ⟨number, hmono number es hes⟩, hread⟩
  opening hjob hphase := by
    obtain ⟨es, hes, hdata⟩ := h.opening hjob hphase
    exact ⟨es, hmono _ es hes, hdata⟩
  underway hjob hphase := by
    obtain ⟨es, hes, hunderway⟩ := h.underway hjob hphase
    exact ⟨es, hmono _ es hes, hunderway⟩

/-- A change that has come to an end is left alone. -/
theorem step_ended (change : Change) (d : Directory) (result : Except Failure Unit)
    (fortune : Fortune) : (Phase.ended result).step change d fortune = (d, .ended result) := by
  cases fortune with
  | goes bytes => rfl
  | fails why bytes => rfl

/-- What a step that reads the file comes to. Whatever it is, the directory is left alone. -/
theorem step_reading (change : Change) (d : Directory) (fortune : Fortune) :
    (∃ result, Phase.reading.step change d fortune = (d, .ended result)) ∨
      ∃ bytes before after, fortune = .goes bytes ∧ d.entries = .ok before ∧
        change.after? before = some after ∧
        Phase.reading.step change d fortune = (d, .opening after.toBytes) := by
  cases fortune with
  | fails why bytes => exact .inl ⟨_, rfl⟩
  | goes bytes =>
    rw [Phase.step, Phase.advance]
    rcases hentries : d.entries with why | before
    · exact .inl ⟨_, rfl⟩
    dsimp only
    rcases hafter : change.after? before with _ | after
    · exact .inl ⟨_, rfl⟩
    · exact .inr ⟨bytes, before, after, rfl, rfl, hafter, rfl⟩

/-- **What a step of one of several changes can be.** It leaves the directory alone and has the
temporary file closed, or it has the temporary file open before or afterwards, and comes to what it
would come to without other changes. -/
theorem Sound.step_cases (h : Sound Meant start s) (hjob : s.jobs[number]? = some job)
    (fortune : Fortune)
    (hreads : ∀ bytes before after, fortune = .goes bytes → job.phase = .reading →
      s.directory.entries = .ok before → job.change.after? before = some after →
      Meant number after) {r : Directory × Phase}
    (hr : job.phase.step job.change s.directory fortune = r) :
    (r.1 = s.directory ∧ r.2.hasOpened = false ∧
        ∀ data, r.2 = .opening data → ∃ es, Meant number es ∧ data = es.toBytes) ∨
      ((job.phase.hasOpened = true ∨ r.2.hasOpened = true) ∧
        ∃ es, Meant number es ∧ s.directory.Outcome es.toBytes r) := by
  obtain ⟨_, _, hread⟩ := h.file
  by_cases hopened : job.phase.hasOpened = true
  · obtain ⟨es, hes, hunderway⟩ := h.underway hjob hopened
    exact .inr ⟨.inl hopened, es, hes, hr ▸ hunderway.step hread job.change fortune⟩
  rcases hphase : job.phase with _ | data | ⟨n, data⟩ | ⟨n, offset, left⟩ | _ | _ | result
  case reading =>
    rw [hphase] at hr
    rcases step_reading job.change s.directory fortune with ⟨result, hstep⟩ |
      ⟨bytes, before, after, hfortune, hbefore, hafter, hstep⟩
    · rw [← hr, hstep]
      exact .inl ⟨rfl, rfl, nofun⟩
    · rw [← hr, hstep]
      refine .inl ⟨rfl, rfl, fun data hdata => ⟨after, ?_, (Phase.opening.inj hdata).symm⟩⟩
      exact hreads bytes before after hfortune hphase hbefore hafter
  case opening =>
    obtain ⟨es, hes, rfl⟩ := h.opening hjob hphase
    rw [hphase] at hr
    rcases Directory.step_opening h.orderly job.change es.toBytes fortune with
      ⟨why, hstep⟩ | ⟨hafterwards, hunderway⟩
    · rw [← hr, hstep]
      exact .inl ⟨rfl, rfl, nofun⟩
    · rw [hr] at hafterwards hunderway
      exact .inr ⟨.inr hafterwards, es, hes, .underway hafterwards hunderway⟩
  case ended =>
    rw [hphase, step_ended] at hr
    rw [← hr]
    exact .inl ⟨rfl, rfl, nofun⟩
  -- the phases that remain have the temporary file open
  all_goals
    rw [hphase] at hopened
    exact absurd rfl hopened

/-- While writers keep apart, no other change has the temporary file open at a step of one that has
it open before or afterwards. -/
theorem Locked.no_other_hasOpened (hlocked : s.Locked) (hapart : s.Apart)
    (hjob : s.jobs[number]? = some job) {d : Directory} {later : Job ι}
    (hlocked' : Locked { directory := d, jobs := s.jobs.set number later })
    (hapart' : Apart { directory := d, jobs := s.jobs.set number later })
    (hopened : job.phase.hasOpened = true ∨ later.phase.hasOpened = true) {i : Nat} {other : Job ι}
    (hi : i ≠ number) (hother : s.jobs[i]? = some other) : other.phase.hasOpened = false := by
  refine eq_false_of_ne_true fun hphase => hi ?_
  rcases hopened with hopened | hopened
  · exact hlocked.alone hapart hother hjob hphase hopened
  · obtain ⟨hlt, _⟩ := List.getElem?_eq_some_iff.mp hjob
    exact hlocked'.alone hapart' ((List.getElem?_set_ne (Ne.symm hi)).trans hother)
      (List.getElem?_set_self hlt) hphase hopened

variable [DecidableEq ι]

theorem Sound.begin (h : Sound Meant start s) (writer : ι) (change : Change) :
    Sound Meant start (s.next (.begin writer change)) := by
  rw [Shared.next]
  by_cases hbusy : s.isBusy writer = true
  · rw [if_pos hbusy]
    exact h
  rw [if_neg hbusy]
  -- a change that has just begun has read nothing yet
  exact {
    orderly := h.orderly
    file := h.file
    opening := fun hjob hphase => by
      rcases getElem?_concat_cases hjob with hjob | ⟨_, rfl⟩
      · exact h.opening hjob hphase
      · cases hphase
    underway := fun hjob hphase => by
      rcases getElem?_concat_cases hjob with hjob | ⟨_, rfl⟩
      · exact h.underway hjob hphase
      · cases hphase }

/-- **While writers keep apart, a step keeps the file complete.** The writer that steps is the only
one with a temporary file under way, so what it renames is what it has written. -/
theorem Sound.step (h : Sound Meant start s) (hlocked : s.Locked) (hapart : s.Apart)
    {fortune : Fortune} (hapart' : (s.next (.step number fortune)).Apart)
    (hreads : ∀ job bytes before after, s.jobs[number]? = some job → fortune = .goes bytes →
      job.phase = .reading → s.directory.entries = .ok before →
      job.change.after? before = some after → Meant number after) :
    Sound Meant start (s.next (.step number fortune)) := by
  have hlocked' := hlocked.next (.step number fortune)
  rcases hjob : s.jobs[number]? with _ | job
  · rw [Shared.next, hjob]
    exact h
  have hcases := h.step_cases hjob fortune
    (fun bytes before after => hreads job bytes before after hjob) rfl
  rw [next_step hjob] at hlocked' hapart' ⊢
  generalize job.phase.step job.change s.directory fortune = r at hcases hlocked' hapart' ⊢
  rcases hcases with ⟨hdirectory, hshut, hopening⟩ | ⟨hopened, es, hes, houtcome⟩
  · -- the directory is untouched: what the other changes rely on still holds of it
    exact {
      orderly := hdirectory ▸ h.orderly
      file := hdirectory ▸ h.file
      opening := fun {i found data} hfound hphase => by
        rcases getElem?_set_cases hfound with ⟨rfl, rfl⟩ | ⟨_, hold⟩
        · exact hopening data hphase
        · exact h.opening hold hphase
      underway := fun {i found} hfound hphase => by
        rcases getElem?_set_cases hfound with ⟨rfl, rfl⟩ | ⟨_, hold⟩
        · rw [hshut] at hphase
          cases hphase
        · rw [hdirectory]
          exact h.underway hold hphase }
  · exact {
      orderly := houtcome.orderly
      file := by
        rcases houtcome.read with hread | ⟨_, hread⟩
        · rw [hread]
          exact h.file
        · exact ⟨es, .inr ⟨number, hes⟩, hread⟩
      opening := fun {i found data} hfound hphase => by
        rcases getElem?_set_cases hfound with ⟨rfl, rfl⟩ | ⟨_, hold⟩
        · exact absurd hphase (houtcome.not_opening data)
        · exact h.opening hold hphase
      underway := fun {i found} hfound hphase => by
        rcases getElem?_set_cases hfound with ⟨rfl, rfl⟩ | ⟨hi, hold⟩
        · exact ⟨es, hes, houtcome.underway_of_hasOpened hphase⟩
        · -- the temporary file may have changed, but no other change has it open
          rw [hlocked.no_other_hasOpened hapart hjob hlocked' hapart' hopened hi hold] at hphase
          cases hphase }

/-! ## Runs -/

/-- A change has read the file, and these are the entries that it makes of what it has found. -/
def Intends (d : Directory) (moments : List (Moment ι)) (number : Nat) (es : Entries) : Prop :=
  ∃ earlier bytes job before, earlier ++ [.step number (.goes bytes)] <+: moments ∧
    ((quiet d).after earlier).jobs[number]? = some job ∧ job.phase = .reading ∧
    ((quiet d).after earlier).directory.entries = .ok before ∧ job.change.after? before = some es

theorem intends_mono {d : Directory} {earlier moments : List (Moment ι)}
    (hearly : earlier <+: moments) {es : Entries} (h : Intends d earlier number es) :
    Intends d moments number es := by
  obtain ⟨first, bytes, job, before, hfirst, hrest⟩ := h
  exact ⟨first, bytes, job, before, hfirst.trans hearly, hrest⟩

/-- A change that reads the file means what it makes of it. -/
theorem intends_of_reading {d : Directory} {moments : List (Moment ι)} {fortune : Fortune}
    (job : Job ι) (bytes : Nat) (before after : Entries)
    (hjob : ((quiet d).after moments).jobs[number]? = some job) (hfortune : fortune = .goes bytes)
    (hphase : job.phase = .reading)
    (hbefore : ((quiet d).after moments).directory.entries = .ok before)
    (hafter : job.change.after? before = some after) :
    Intends d (moments ++ [.step number fortune]) number after := by
  rw [hfortune]
  exact ⟨moments, bytes, job, before, List.prefix_refl _, hjob, hphase, hbefore, hafter⟩

theorem ordered_of_after {change : Change} {before after : Entries} (h : before.Ordered)
    (hafter : change.after? before = some after) : after.Ordered := by
  cases change with
  | putAll added =>
    rw [← Option.some.inj hafter]
    exact h.putAll added
  | eraseAll keys =>
    rw [Change.after?] at hafter
    split at hafter
    · rw [← Option.some.inj hafter]
      exact h.eraseAll keys
    · cases hafter

theorem ordered_of_intends {d : Directory} {moments : List (Moment ι)} {es : Entries}
    (h : Intends d moments number es) : es.Ordered := by
  obtain ⟨_, _, _, _, _, _, _, hbefore, hafter⟩ := h
  exact ordered_of_after (Directory.ordered_entries hbefore) hafter

/-- **While writers keep apart, the file is complete.** The induction is on the moments from the
end, so that `Intends`, which grows with the run, can be carried along by `Sound.mono`. -/
theorem sound_after {d : Directory} (horderly : d.Orderly)
    (hread : d.read = .ok (some start.toBytes)) {moments : List (Moment ι)}
    (hapart : ∀ earlier, earlier <+: moments → ((quiet d).after earlier).Apart) :
    Sound (Intends d moments) start ((quiet d).after moments) := by
  induction moments using List.reverseRecOn with
  | nil =>
    exact {
      orderly := horderly
      file := ⟨start, .inl rfl, hread⟩
      opening := fun hjob => by
        rw [after, List.foldl_nil, quiet, List.getElem?_nil] at hjob
        cases hjob
      underway := fun hjob => by
        rw [after, List.foldl_nil, quiet, List.getElem?_nil] at hjob
        cases hjob }
  | append_singleton moments moment ih =>
    have hearly : moments <+: moments ++ [moment] := List.prefix_append ..
    have hsound := ih fun earlier hearlier => hapart earlier (hearlier.trans hearly)
    -- what the earlier moments meant is still meant after one more
    have hmono := hsound.mono fun number es => intends_mono hearly
    have hapart' := hapart _ (List.prefix_refl (moments ++ [moment]))
    rw [after_concat] at hapart' ⊢
    cases moment with
    | begin writer change => exact hmono.begin writer change
    | step number fortune =>
      exact hmono.step (locked_after d moments) (hapart moments hearly) hapart'
        intends_of_reading

/-- **Only the last step of a change that ends well changes the file.** Readers therefore see the
old entries up to the rename, and the complete new ones from then on. -/
theorem Sound.read_next {Meant : Nat → Entries → Prop} (h : Sound Meant start s)
    {fortune : Fortune}
    (hreads : ∀ job bytes before after, s.jobs[number]? = some job → fortune = .goes bytes →
      job.phase = .reading → s.directory.entries = .ok before →
      job.change.after? before = some after → Meant number after) :
    (s.next (.step number fortune)).directory.read = s.directory.read ∨
      ∃ job es, (s.next (.step number fortune)).jobs[number]? = some job ∧
        job.phase = .ended (.ok ()) ∧ Meant number es ∧
        (s.next (.step number fortune)).directory.read = .ok (some es.toBytes) := by
  rcases hjob : s.jobs[number]? with _ | job
  · rw [Shared.next, hjob]
    exact .inl rfl
  have hcases := h.step_cases hjob fortune
    (fun bytes before after => hreads job bytes before after hjob) rfl
  rw [next_step hjob]
  rcases hcases with ⟨hdirectory, -, -⟩ | ⟨-, es, hes, houtcome⟩
  · exact .inl (congrArg Directory.read hdirectory)
  rcases houtcome.read with hread | ⟨hphase, hread⟩
  · exact .inl hread
  · -- the file has changed, so the step was the renaming
    obtain ⟨hlt, _⟩ := List.getElem?_eq_some_iff.mp hjob
    exact .inr ⟨_, es, List.getElem?_set_self hlt, hphase, hes, hread⟩

/-- A change that has ended stays as it is, whatever else happens. A result that was returned to the
caller can thus be compared with the file at any later moment. -/
theorem ended_after {result : Except Failure Unit} (hjob : s.jobs[number]? = some job)
    (hphase : job.phase = .ended result) (moments : List (Moment ι)) :
    (s.after moments).jobs[number]? = some job := by
  induction moments using List.reverseRecOn with
  | nil => exact hjob
  | append_singleton moments moment ih =>
    rw [after_concat]
    generalize s.after moments = t at ih ⊢
    cases moment with
    | begin writer change =>
      rw [Shared.next]
      split
      · exact ih
      · -- a change that begins is added behind those that there are
        obtain ⟨hlt, _⟩ := List.getElem?_eq_some_iff.mp ih
        rw [List.getElem?_append_left hlt]
        exact ih
    | step n fortune =>
      rcases hat : t.jobs[n]? with _ | other
      · rw [Shared.next, hat]
        exact ih
      rw [next_step hat]
      by_cases hn : n = number
      · subst hn
        obtain ⟨hlt, _⟩ := List.getElem?_eq_some_iff.mp ih
        obtain rfl := Option.some.inj (hat.symm.trans ih)
        rw [List.getElem?_set_self hlt, hphase, step_ended, ← hphase]
      · rw [List.getElem?_set_ne hn]
        exact ih

/-- **A file that writers share is complete as long as they keep apart.** Any number of writers make
any number of changes, and their calls come in any order and succeed or fail; only, no two of them
have the temporary file open at the same time. Then, over a file with entries, the file holds at
every moment the complete entries that it held in the beginning, or those that a change has made of
what it found in the file, and a reader gets these. A change that ends with a failure has made no
difference to the file. -/
theorem file_complete_while_apart {d : Directory} {start : Entries} (horderly : d.Orderly)
    (hstart : start.Ordered) (hread : d.read = .ok (some start.toBytes))
    (moments : List (Moment ι))
    (hapart : ∀ earlier, earlier <+: moments → ((quiet d).after earlier).Apart) :
    (∃ es, (es = start ∨ ∃ number, Intends d moments number es) ∧
        ((quiet d).after moments).directory.read = .ok (some es.toBytes) ∧
        ((quiet d).after moments).directory.entries = .ok es) ∧
      ∀ number job why, ((quiet d).after moments).jobs[number]? = some job →
        job.phase = .ended (.error why) →
        ∀ earlier fortune, earlier ++ [.step number fortune] <+: moments →
          ((quiet d).after (earlier ++ [.step number fortune])).directory.read =
            ((quiet d).after earlier).directory.read := by
  constructor
  · obtain ⟨es, hes, hfile⟩ := (sound_after horderly hread hapart).file
    have hordered : es.Ordered := by
      rcases hes with rfl | ⟨number, hes⟩
      · exact hstart
      · exact ordered_of_intends hes
    exact ⟨es, hes, hfile, Directory.entries_of_toBytes hordered hfile⟩
  · rintro number job why hjob hphase earlier fortune ⟨later, rfl⟩
    have hearly : earlier <+: earlier ++ [.step number fortune] ++ later := by
      rw [List.append_assoc]
      exact List.prefix_append ..
    have hsound := sound_after horderly hread fun first hfirst =>
      hapart first (hfirst.trans hearly)
    have hmono := hsound.mono fun number es =>
      intends_mono (List.prefix_append earlier [.step number fortune])
    rw [after_concat]
    rcases hmono.read_next intends_of_reading with hsame | ⟨ended, _, hended, hdone, -⟩
    · exact hsame
    · -- then the change would have ended well, and would have stayed so
      have hlast := ended_after hended hdone later
      rw [← after_concat, ← after_append, hjob] at hlast
      rw [Option.some.inj hlast, hdone] at hphase
      cases hphase

end Shared

/-! ## Two writers -/

/-- A directory with a file. -/
def shelf : Directory where
  mode := Directory.privateMode
  nodes := [{ mode := Directory.privateFileMode, content := Entries.toBytes [("a", "old")] }]
  main := some (.file 0)
  temp := none

theorem orderly_shelf : shelf.Orderly where
  main_lt h := by
    obtain rfl := Link.file.inj (Option.some.inj h)
    exact Nat.zero_lt_one
  temp_lt := nofun
  apart _ := nofun

/-- Two writers read the file and replace it one after the other; the disk is full for the second
one. -/
def inTurn : List (Moment Bool) :=
  [.begin false (.putAll [("a", "new")]), .begin true (.putAll [("b", "new")]),
   .step 0 (.goes 0), .step 1 (.goes 0), .begin true (.eraseAll ["a"]),
   .step 0 (.goes 0), .step 0 (.goes 0), .step 0 (.goes 4), .step 0 (.goes 90), .step 0 (.goes 0),
   .step 0 (.goes 0),
   .step 1 (.goes 0), .step 1 (.goes 0), .step 1 (.goes 3),
   .step 1 (.fails (.told "No space left on device (os error 28)") 1)]

theorem file_complete_while_apart_inTurn :
    shelf.Orderly ∧ Entries.Ordered [("a", "old")] ∧
      shelf.read = .ok (some (Entries.toBytes [("a", "old")])) ∧
      (∀ earlier, earlier <+: inTurn → ((Shared.quiet shelf).after earlier).Apart) ∧
      ((Shared.quiet shelf).after inTurn).directory.read =
        .ok (some (Entries.toBytes [("a", "new")])) ∧
      ∃ es, ((Shared.quiet shelf).after inTurn).directory.entries = .ok es := by
  have hordered : Entries.Ordered [("a", "old")] := List.pairwise_singleton ..
  have hread : shelf.read = .ok (some (Entries.toBytes [("a", "old")])) := rfl
  have hapart : ∀ earlier ∈ inTurn.inits, ((Shared.quiet shelf).after earlier).Apart := by
    decide +kernel
  obtain ⟨⟨es, -, -, hes⟩, -⟩ := Shared.file_complete_while_apart orderly_shelf hordered hread
    inTurn fun earlier hearlier => hapart earlier ((List.mem_inits ..).mpr hearlier)
  exact ⟨orderly_shelf, hordered, hread,
    fun earlier hearlier => hapart earlier ((List.mem_inits ..).mpr hearlier),
    by decide +kernel, es, hes⟩

/-- Two writers again. When the first one is about to rename the temporary file, the second one
opens it. -/
def together : List (Moment Bool) :=
  [.begin false (.putAll [("a", "new")]), .begin true (.putAll [("b", "new")]),
   .step 0 (.goes 0), .step 1 (.goes 0),
   .step 0 (.goes 0), .step 0 (.goes 0), .step 0 (.goes 90), .step 0 (.goes 0),
   .step 1 (.goes 0), .step 0 (.goes 0),
   .step 1 (.goes 0), .step 1 (.goes 3), .step 1 (.goes 90), .step 1 (.goes 0), .step 1 (.goes 0)]

/-- **Two writers that do not keep apart break the file.** It is empty after ten moments and half
written after twelve, so that reading it fails; in the end the change of the second writer has
failed, as there is no temporary file to rename, and the file holds what it has written. -/
theorem whole_file_needs_apart :
    shelf.Orderly ∧ shelf.read = .ok (some (Entries.toBytes [("a", "old")])) ∧
      ((Shared.quiet shelf).after (together.take 10)).directory.read = .ok (some []) ∧
      ((Shared.quiet shelf).after (together.take 12)).directory.read =
        .ok (some (Text.Utf8.bytes "\x7b\"a")) ∧
      (∃ e, ((Shared.quiet shelf).after (together.take 12)).directory.entries =
        .error (.corrupt e)) ∧
      (((Shared.quiet shelf).after together).jobs[1]?.bind fun job => job.phase.complaint?) =
        some .notFound ∧
      ((Shared.quiet shelf).after together).directory.read =
        .ok (some (Entries.toBytes [("a", "old"), ("b", "new")])) := by
  have hhalf : ((Shared.quiet shelf).after (together.take 12)).directory.read =
      .ok (some (Text.Utf8.bytes "\x7b\"a")) := by decide +kernel
  -- an object that breaks off in its first key is not read
  have hcorrupt : ∃ e, ((Shared.quiet shelf).after (together.take 12)).directory.entries =
      .error (.corrupt e) := by
    have hnone : (Entries.ofBytes (Text.Utf8.bytes "\x7b\"a")).toOption = none := by decide +kernel
    rw [Directory.entries_of_read hhalf]
    rcases hbytes : Entries.ofBytes (Text.Utf8.bytes "\x7b\"a") with e | es
    · exact ⟨e, rfl⟩
    · rw [hbytes] at hnone
      cases hnone
  exact ⟨orderly_shelf, rfl, by decide +kernel, hhalf, hcorrupt, by decide +kernel,
    by decide +kernel⟩

end Rendezvous.Credential
