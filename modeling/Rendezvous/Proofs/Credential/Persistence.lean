/-
A `FileStorage` answers as a map that outlives the process.

`MemoryStorage` is the map: it holds entries, answers from them, and does what it is told. A
`FileStorage` holds a directory with a file, and every request reads the entries out of the bytes of
that file and leaves the changed ones behind as bytes. `file_answers_as_memory` states that the two
cannot be told apart by their answers, over any requests, with the directory closed and opened again
by `open_in` at any time.

The proof is a simulation. `Mirrors` relates a directory to the entries that memory would hold. The
three requests that a storage knows preserve the relation and are answered alike
(`simulation_mirrors`), so the same holds of every call and of many calls (`Simulation.answers`);
opening the directory again changes nothing but its mode. That the file is lossless is proved beside
the entries (`ofBytes_toBytes`).
-/
import Rendezvous.Proofs.Credential.Directory

set_option autoImplicit false

namespace Rendezvous.Credential

/-! ## Calls and what they answer -/

/-- A call of a method of `SecureStorage`. -/
inductive Call
  | get (key : String)
  | put (key value : String)
  | putAll (added : List (String × String))
  | erase (key : String)
  | eraseAll (keys : List String)

/-- The keys that a call is about. -/
def Call.names : Call → List String
  | get key => [key]
  | put key _ => [key]
  | putAll added => added.map Prod.fst
  | erase key => [key]
  | eraseAll keys => keys

/-- What a call returns: `get` a value that may be missing, and the others nothing. -/
inductive Reply
  | value (answer : Except Failure (Option String))
  | done (answer : Except Failure Unit)

namespace Vault

/-- A vault whose secrets are in a directory. -/
def onFile (d : Directory) : Vault where
  medium := .directory d

/-- A vault whose secrets are in memory. -/
def inMemory (entries : Entries) : Vault where
  medium := .memory entries

variable {μ : Type} [Storage μ]

/-- The vault after a call, and the reply. -/
def answer (v : Vault μ) : Call → Vault μ × Reply
  | .get key => (v, .value (v.get key))
  | .put key value => ((v.put key value).1, .done (v.put key value).2)
  | .putAll added => ((v.putAll added).1, .done (v.putAll added).2)
  | .erase key => ((v.erase key).1, .done (v.erase key).2)
  | .eraseAll keys => ((v.eraseAll keys).1, .done (v.eraseAll keys).2)

/-- The vault after several calls, and their replies. -/
def answers (v : Vault μ) : List Call → Vault μ × List Reply
  | [] => (v, [])
  | call :: calls =>
    let first := v.answer call
    let rest := first.1.answers calls
    (rest.1, first.2 :: rest.2)

theorem answers_cons (v : Vault μ) (call : Call) (calls : List Call) :
    v.answers (call :: calls) =
      (((v.answer call).1.answers calls).1,
        (v.answer call).2 :: ((v.answer call).1.answers calls).2) :=
  rfl

theorem answers_append (v : Vault μ) (calls later : List Call) :
    v.answers (calls ++ later) =
      (((v.answers calls).1.answers later).1,
        (v.answers calls).2 ++ ((v.answers calls).1.answers later).2) := by
  induction calls generalizing v with
  | nil => rfl
  | cons call calls ih =>
    rw [List.cons_append, answers_cons, answers_cons, ih]
    rfl

/-- A relation between vaults that no calls can tell apart: requests are answered alike, and the
vaults stay related. It is stated for the three requests that the five calls come down to. -/
structure Simulation {ν : Type} [Storage ν] (R : Vault μ → Vault ν → Prop) : Prop where
  get : ∀ {v w key}, R v w → v.get key = w.get key
  putAll : ∀ {v w added}, R v w →
    (v.putAll added).2 = (w.putAll added).2 ∧ R (v.putAll added).1 (w.putAll added).1
  eraseAll : ∀ {v w keys}, R v w →
    (v.eraseAll keys).2 = (w.eraseAll keys).2 ∧ R (v.eraseAll keys).1 (w.eraseAll keys).1

variable {ν : Type} [Storage ν] {R : Vault μ → Vault ν → Prop} {v : Vault μ} {w : Vault ν}

theorem Simulation.answer (hR : Simulation R) (h : R v w) (call : Call) :
    (v.answer call).2 = (w.answer call).2 ∧ R (v.answer call).1 (w.answer call).1 := by
  cases call with
  | get key => exact ⟨congrArg Reply.value (hR.get h), h⟩
  | put key value => exact (hR.putAll h).imp_left (congrArg Reply.done)
  | putAll added => exact (hR.putAll h).imp_left (congrArg Reply.done)
  | erase key => exact (hR.eraseAll h).imp_left (congrArg Reply.done)
  | eraseAll keys => exact (hR.eraseAll h).imp_left (congrArg Reply.done)

theorem Simulation.answers (hR : Simulation R) (h : R v w) (calls : List Call) :
    (v.answers calls).2 = (w.answers calls).2 ∧ R (v.answers calls).1 (w.answers calls).1 := by
  induction calls generalizing v w with
  | nil => exact ⟨rfl, h⟩
  | cons call calls ih =>
    obtain ⟨hreply, h'⟩ := hR.answer h call
    obtain ⟨hreplies, hend⟩ := ih h'
    rw [answers_cons, answers_cons]
    exact ⟨congrArg₂ List.cons hreply hreplies, hend⟩

/-- The vault after several sittings, and the replies in all of them. After each sitting the storage
is dropped and opened again with `open_in`. -/
def sittings (v : Vault) : List (List Call) → Vault × List Reply
  | [] => (v, [])
  | calls :: later =>
    let first := v.answers calls
    let rest := sittings { medium := first.1.medium.reopened } later
    (rest.1, first.2 ++ rest.2)

theorem sittings_cons (v : Vault) (calls : List Call) (later : List (List Call)) :
    v.sittings (calls :: later) =
      ((sittings { medium := (v.answers calls).1.medium.reopened } later).1,
        (v.answers calls).2 ++
          (sittings { medium := (v.answers calls).1.medium.reopened } later).2) :=
  rfl

end Vault

/-! ## What a directory holds -/

namespace Directory

/-- The entries that a directory is given with: none if there is no file or nothing in it, and the
members of the object that is in it, of which the last one of a name counts. -/
inductive Holds (d : Directory) : Entries → Prop
  | absent (h : d.read = .ok none) : Holds d []
  | blank (h : d.read = .ok (some [])) : Holds d []
  | object {content : List UInt8} {listed : List (String × String)}
      (h : d.read = .ok (some content)) (hlisted : Entries.codec.decode content = .ok listed) :
      Holds d (Entries.putAll [] listed)

/-- The directory holds what memory would hold, and no directory blocks a change of it. -/
structure Mirrors (d : Directory) (es : Entries) : Prop where
  grounded : d.Grounded
  free : ¬ Blocked d.temp
  entries : d.entries = .ok es

variable {d : Directory} {es : Entries}

theorem Holds.entries (h : d.Holds es) : d.entries = .ok es := by
  cases h with
  | absent h => rw [Directory.entries, h]
  | blank h =>
    rw [entries_of_read h]
    rfl
  | @object content listed h hlisted =>
    have hne : ¬ content.isEmpty = true := by
      rw [List.isEmpty_iff]
      rintro rfl
      -- an empty file is no object
      cases hlisted
    rw [entries_of_read h, Entries.ofBytes, if_neg hne, hlisted]
    rfl

/-! ## One call -/

/-- A change that memory makes succeeds in the directory, which then holds the changed entries. -/
theorem Mirrors.update (h : Mirrors d es) {f : Entries → Option Entries} {after : Entries}
    (hf : f es = some after) (hafter : after.Ordered) :
    (d.update f).2 = .ok () ∧ Mirrors (d.update f).1 after := by
  obtain ⟨hok, hread, horderly, htemp⟩ := replace_of_not_blocked h.grounded
    (not_blocked_of_entries h.entries) h.free after.toBytes
  rw [update_of_some h.entries hf, hok]
  refine ⟨rfl, horderly.toGrounded, ?_, entries_of_toBytes hafter hread⟩
  rw [htemp]
  exact not_blocked_none

theorem Mirrors.putAll (h : Mirrors d es) (added : List (String × String)) :
    (d.putAll added).2 = .ok () ∧ Mirrors (d.putAll added).1 (es.putAll added) :=
  h.update rfl ((ordered_entries h.entries).putAll added)

/-- Where there is nothing to remove, the directory is left alone. -/
theorem eraseAll_of_not_holdsAny (h : d.entries = .ok es) {keys : List String}
    (hkeys : es.holdsAny keys = false) : d.eraseAll keys = (d, .ok ()) := by
  have hf : (if es.holdsAny keys then some (es.eraseAll keys) else none) = none := by
    rw [hkeys]
    rfl
  exact update_of_none h hf

theorem Mirrors.eraseAll (h : Mirrors d es) (keys : List String) :
    (d.eraseAll keys).2 = .ok () ∧ Mirrors (d.eraseAll keys).1 (es.eraseAll keys) := by
  by_cases hkeys : es.holdsAny keys = true
  · exact h.update (if_pos hkeys) ((ordered_entries h.entries).eraseAll keys)
  · have hnone : es.holdsAny keys = false := eq_false_of_ne_true hkeys
    rw [eraseAll_of_not_holdsAny h.entries hnone, Entries.eraseAll_of_not_holdsAny hnone]
    exact ⟨rfl, h⟩

/-- Opening the directory again sets its mode and leaves what it holds. -/
theorem Mirrors.reopened (h : Mirrors d es) : Mirrors { d with mode := privateMode } es where
  grounded := ⟨h.grounded.main_lt, h.grounded.temp_lt⟩
  free := h.free
  entries := h.entries

theorem Mirrors.get (h : Mirrors d es) (key : String) :
    (Vault.onFile d).get key = (Vault.inMemory es).get key := by
  show d.entries.map (fun entries => Entries.get? entries key) = .ok (es.get? key)
  rw [h.entries]
  rfl

/-- **A directory that mirrors memory** answers as memory does, and goes on mirroring it. The
relation is re-established call by call, so the theorem holds for runs of any length. -/
theorem simulation_mirrors : Vault.Simulation fun file memory =>
    ∃ d es, file = Vault.onFile d ∧ memory = Vault.inMemory es ∧ Mirrors d es where
  get := by
    rintro _ _ key ⟨d, es, rfl, rfl, h⟩
    exact h.get key
  putAll := by
    rintro _ _ added ⟨d, es, rfl, rfl, h⟩
    obtain ⟨hok, h'⟩ := h.putAll added
    exact ⟨hok, _, _, rfl, rfl, h'⟩
  eraseAll := by
    rintro _ _ keys ⟨d, es, rfl, rfl, h⟩
    obtain ⟨hok, h'⟩ := h.eraseAll keys
    exact ⟨hok, _, _, rfl, rfl, h'⟩

/-! ## Many sittings -/

/-- Memory is used in one go, the directory in several sittings. The induction is on the sittings:
each one ends with a directory that mirrors memory, and opening that again preserves it. -/
theorem Mirrors.sittings (h : Mirrors d es) (sittings : List (List Call)) :
    ∃ d', (Vault.onFile d).sittings sittings =
        (Vault.onFile d', ((Vault.inMemory es).answers sittings.flatten).2) ∧
      ∃ es', Mirrors d' es' := by
  induction sittings generalizing d es with
  | nil => exact ⟨d, rfl, es, h⟩
  | cons calls later ih =>
    obtain ⟨hreplies, d₁, es₁, hfile, hmemory, h₁⟩ :=
      simulation_mirrors.answers ⟨d, es, rfl, rfl, h⟩ calls
    obtain ⟨d', hsittings, hmirrors⟩ := ih h₁.reopened
    refine ⟨d', ?_, hmirrors⟩
    have hopen : ({ medium := (Vault.onFile d₁).medium.reopened } : Vault) =
        Vault.onFile { d₁ with mode := privateMode } := rfl
    rw [Vault.sittings_cons, hfile, hopen, hsittings, hreplies, List.flatten_cons,
      Vault.answers_append, hmemory]

end Directory

/-! ## What a call leaves alone -/

theorem putInto_of_not_mem {held : String → Option String} {added : List (String × String)}
    {key : String} (h : key ∉ added.map Prod.fst) : putInto held added key = held key := by
  induction added generalizing held with
  | nil => rfl
  | cons e added ih =>
    obtain ⟨hne, hrest⟩ := List.ne_and_not_mem_of_not_mem_cons h
    have hcons : putInto held (e :: added) = putInto (Function.update held e.1 (some e.2)) added :=
      rfl
    rw [hcons, ih hrest, Function.update_of_ne hne]

theorem takenFrom_of_not_mem {held : String → Option String} {keys : List String} {key : String}
    (h : key ∉ keys) : takenFrom held keys key = held key :=
  if_neg h

/-- A call changes nothing about a key that it is not about. Stated of the memory only; the file
answers as the memory does, so it has the same property. -/
theorem Vault.get_answer_inMemory {es : Entries} {call : Call} {key : String}
    (h : key ∉ call.names) :
    ((Vault.inMemory es).answer call).1.get key = (Vault.inMemory es).get key := by
  -- putting one entry is putting several, and so with erasing
  have put (added : List (String × String)) (hkey : key ∉ added.map Prod.fst) :
      (Vault.inMemory (es.putAll added)).get key = (Vault.inMemory es).get key := by
    have hget : (es.putAll added).get? key = es.get? key := by
      rw [Entries.get?_putAll, putInto_of_not_mem hkey]
    exact congrArg Except.ok hget
  have erase (keys : List String) (hkey : key ∉ keys) :
      (Vault.inMemory (es.eraseAll keys)).get key = (Vault.inMemory es).get key := by
    have hget : (es.eraseAll keys).get? key = es.get? key := by
      rw [Entries.get?_eraseAll, takenFrom_of_not_mem hkey]
    exact congrArg Except.ok hget
  cases call with
  | get key' => rfl
  | put key' value => exact put [(key', value)] h
  | putAll added => exact put added h
  | erase key' => exact erase [key'] h
  | eraseAll keys => exact erase keys h

namespace Directory

variable {d : Directory} {es : Entries}

theorem Mirrors.get_answer (h : Mirrors d es) {call : Call} {key : String}
    (hkey : key ∉ call.names) :
    ((Vault.onFile d).answer call).1.get key = (Vault.onFile d).get key := by
  obtain ⟨-, h'⟩ := simulation_mirrors.answer ⟨d, es, rfl, rfl, h⟩ call
  rw [simulation_mirrors.get h', Vault.get_answer_inMemory hkey, h.get]

theorem Mirrors.eraseAll_of_get_none (h : Mirrors d es) {keys : List String}
    (hkeys : ∀ key ∈ keys, (Vault.onFile d).get key = .ok none) :
    (Vault.onFile d).eraseAll keys = (Vault.onFile d, .ok ()) := by
  have hnone : es.holdsAny keys = false := by
    refine List.any_eq_false.mpr fun key hkey => ?_
    have hget := hkeys key hkey
    rw [h.get] at hget
    have hget : es.get? key = none := Except.ok.inj hget
    rw [hget]
    exact Bool.false_ne_true
  have herase := eraseAll_of_not_holdsAny h.entries hnone
  exact congrArg (fun r : Directory × Except Failure Unit => (Vault.onFile r.1, r.2)) herase

end Directory

/-! ## The file as a map -/

/-- **Secrets in a file are a map that persists.** Over a directory that holds entries, whatever is
asked for in however many sittings, the replies are those of memory that starts with the same
entries and is asked for the same in one go. Wherever that ends, a call changes nothing about the
keys that it is not about, and removing what is not there leaves the directory as it is: no file is
created, and none is written again. -/
theorem file_answers_as_memory {d : Directory} {entries : Entries} (hgrounded : d.Grounded)
    (hfree : ¬ Blocked d.temp) (hholds : d.Holds entries) (sittings : List (List Call)) :
    ∃ d', (Vault.onFile d).sittings sittings =
        (Vault.onFile d', ((Vault.inMemory entries).answers sittings.flatten).2) ∧
      (∀ call key, key ∉ call.names →
        ((Vault.onFile d').answer call).1.get key = (Vault.onFile d').get key) ∧
      (∀ keys, (∀ key ∈ keys, (Vault.onFile d').get key = .ok none) →
        (Vault.onFile d').eraseAll keys = (Vault.onFile d', .ok ())) ∧
      ∀ key, (Vault.onFile d').get key = .ok none →
        (Vault.onFile d').erase key = (Vault.onFile d', .ok ()) := by
  have hmirrors : d.Mirrors entries := ⟨hgrounded, hfree, hholds.entries⟩
  obtain ⟨d', hreplies, es', h'⟩ := hmirrors.sittings sittings
  refine ⟨d', hreplies, fun call key hkey => h'.get_answer hkey,
    fun keys hkeys => h'.eraseAll_of_get_none hkeys, fun key hkey => ?_⟩
  refine h'.eraseAll_of_get_none fun key' hkey' => ?_
  rw [List.mem_singleton.mp hkey']
  exact hkey

/-- A directory with a file that was written by hand, in which one key stands twice. A stale
temporary file is there too, from a process that did not get far. -/
def writtenByHand : Directory where
  mode := Directory.commonMode
  nodes :=
    [{ mode := Directory.commonFileMode
       content := Text.Utf8.bytes "\x7b \"b\": \"2\", \"a\": \"1\", \"b\": \"3\" \x7d" },
     { mode := Directory.commonFileMode
       content := [0x7b] }]
  main := some (.file 0)
  temp := some (.file 1)

/-- Calls in three sittings, with an empty key, a value that has to be escaped, a key that is put
twice and one that is removed twice. -/
def threeSittings : List (List Call) :=
  [[.get "b", .putAll [("", "\"\n\\"), ("b", "4"), ("", "")]],
   [.erase "c", .get "", .get "b"],
   [.eraseAll ["b", "b"], .get "b", .get "a"]]

theorem file_answers_as_memory_writtenByHand :
    writtenByHand.Grounded ∧ ¬ Blocked writtenByHand.temp ∧
      writtenByHand.Holds [("a", "1"), ("b", "3")] ∧
      ∃ d', (Vault.onFile writtenByHand).sittings threeSittings =
          (Vault.onFile d', [.value (.ok (some "3")), .done (.ok ()), .done (.ok ()),
            .value (.ok (some "")), .value (.ok (some "4")), .done (.ok ()), .value (.ok none),
            .value (.ok (some "1"))]) ∧
        ((Vault.onFile d').answer (.put "d" "5")).1.get "a" = (Vault.onFile d').get "a" := by
  have hgrounded : writtenByHand.Grounded := {
    main_lt := fun h => by
      obtain rfl := Link.file.inj (Option.some.inj h)
      exact Nat.zero_lt_two
    temp_lt := fun h => by
      obtain rfl := Link.file.inj (Option.some.inj h)
      exact Nat.one_lt_two }
  have hfree : ¬ Blocked writtenByHand.temp := nofun
  -- the file is read as it was written by hand, blanks and duplicate included
  have hlisted : Entries.codec.decode (writtenByHand.nodes[0].content) =
      .ok [("b", "2"), ("a", "1"), ("b", "3")] := by
    have hread : (Entries.codec.decode (writtenByHand.nodes[0].content)).toOption =
        some [("b", "2"), ("a", "1"), ("b", "3")] := by decide +kernel
    rcases hdecode : Entries.codec.decode (writtenByHand.nodes[0].content) with e | listed
    · rw [hdecode] at hread
      cases hread
    · rw [hdecode] at hread
      exact congrArg Except.ok (Option.some.inj hread)
  have hholds : writtenByHand.Holds [("a", "1"), ("b", "3")] := .object rfl hlisted
  obtain ⟨d', hreplies, hothers, -, -⟩ :=
    file_answers_as_memory hgrounded hfree hholds threeSittings
  exact ⟨hgrounded, hfree, hholds, d', hreplies, hothers (.put "d" "5") "a" (by decide)⟩

end Rendezvous.Credential
