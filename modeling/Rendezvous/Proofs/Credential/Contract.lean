/-
What `SecureStorage` promises, and what `CredentialStore` makes of it.

The trait says that a missing key is `Ok(None)`, that `Err` is a failure of the backend, and that
`set_many` and `delete_many` act in one step, so that on `Err` nothing has been written or removed.
`Storage.Lawful` states this through `held`, what the storage really contains. No program can ask
for `held`, as every question may be refused, but a statement can speak of it. `MemoryStorage`
satisfies it, and a storage that satisfies it still does behind an outage.

`CredentialStore` inherits all of it: the pair is replaced as a whole, removed as a whole, or still
there. And it logs exactly what is refused, so that the log tells whether the storage has ever
failed it.
-/
import Mathlib.Logic.Function.Basic
import Rendezvous.Credential.Store

set_option autoImplicit false

namespace Rendezvous.Credential

/-! ## The promise

The laws are stated of any storage, so that what follows from them holds of the platform's own key
store as it does of a file or of memory. -/

/-- What is held after `set_many`. The entries are inserted one after the other, so that of a key
that comes twice the later value stays. -/
def putInto (held : String → Option String) (added : List (String × String)) :
    String → Option String :=
  added.foldl (fun m e => Function.update m e.1 (some e.2)) held

/-- What is held after `delete_many`. A key that was not there is no error. -/
def takenFrom (held : String → Option String) (keys : List String) : String → Option String :=
  fun key => if key ∈ keys then none else held key

/-- A storage that answers truly and carries out a request as a whole or not at all. It may refuse
any request at any time, so nothing is assumed about when it works; this is what the trait
`SecureStorage` asks of a backend. -/
class Storage.Lawful (σ : Type) [Storage σ] where
  /-- what the storage really holds -/
  held : σ → String → Option String
  get_ok : ∀ {s : σ} {key : String} {value : Option String},
    Storage.get s key = .ok value → held s key = value
  putAll_ok : ∀ {s : σ} {added : List (String × String)},
    (Storage.putAll s added).2 = .ok () → held (Storage.putAll s added).1 = putInto (held s) added
  putAll_error : ∀ {s : σ} {added : List (String × String)} {why : Failure},
    (Storage.putAll s added).2 = .error why → held (Storage.putAll s added).1 = held s
  eraseAll_ok : ∀ {s : σ} {keys : List String},
    (Storage.eraseAll s keys).2 = .ok () →
      held (Storage.eraseAll s keys).1 = takenFrom (held s) keys
  eraseAll_error : ∀ {s : σ} {keys : List String} {why : Failure},
    (Storage.eraseAll s keys).2 = .error why → held (Storage.eraseAll s keys).1 = held s

/-- A storage that never refuses. With it a statement about the store needs no case for failures. -/
class Storage.Willing (σ : Type) [Storage σ] : Prop where
  get_ok : ∀ (s : σ) (key : String), ∃ value, Storage.get s key = .ok value
  putAll_ok : ∀ (s : σ) (added : List (String × String)), (Storage.putAll s added).2 = .ok ()
  eraseAll_ok : ∀ (s : σ) (keys : List String), (Storage.eraseAll s keys).2 = .ok ()

/-! ## Memory keeps it -/

namespace Entries

theorem get?_cons (key value : String) (rest : Entries) :
    get? ((key, value) :: rest) = Function.update rest.get? key (some value) := by
  funext k
  rw [Function.update_apply]
  by_cases hk : k = key
  · simp [get?, hk]
  · have hbeq : (k == key) = false := beq_false_of_ne hk
    simp only [get?, List.lookup_cons, hbeq, if_neg hk]

theorem get?_put (entries : Entries) (key value : String) :
    (entries.put key value).get? = Function.update entries.get? key (some value) := by
  induction entries with
  | nil => exact get?_cons key value []
  | cons e rest ih =>
    obtain ⟨k, v⟩ := e
    by_cases hk : k = key
    · rw [put, if_pos hk, get?_cons, get?_cons, hk, Function.update_idem]
    · -- the entries stand in the order of their keys, so a new one may have to go in front
      by_cases hlt : key < k
      · rw [put, if_neg hk, if_pos hlt, get?_cons]
      · rw [put, if_neg hk, if_neg hlt, get?_cons, get?_cons, ih, Function.update_comm hk]

theorem get?_erase (entries : Entries) (key : String) :
    (entries.erase key).get? = takenFrom entries.get? [key] := by
  funext k
  simp only [takenFrom, List.mem_singleton]
  induction entries with
  | nil => simp [erase, get?]
  | cons e rest ih =>
    obtain ⟨k', v⟩ := e
    rw [get?_cons, Function.update_apply]
    -- the first entry is the one that is erased, or stays in front of the rest
    by_cases hk' : k' = key
    · have herase : erase ((k', v) :: rest) key = erase rest key := by simp [erase, hk']
      rw [herase, ih, hk']
      by_cases hk : k = key
      · rw [if_pos hk, if_pos hk]
      · rw [if_neg hk, if_neg hk, if_neg hk]
    · have herase : erase ((k', v) :: rest) key = (k', v) :: erase rest key := by
        simp [erase, hk']
      rw [herase, get?_cons, Function.update_apply, ih]
      by_cases hk : k = k'
      · rw [if_pos hk, if_pos hk, if_neg (hk ▸ hk')]
      · rw [if_neg hk, if_neg hk]

theorem get?_putAll (entries : Entries) (added : List (String × String)) :
    (entries.putAll added).get? = putInto entries.get? added := by
  induction added generalizing entries with
  | nil => rfl
  | cons e added ih =>
    rw [show entries.putAll (e :: added) = (entries.put e.1 e.2).putAll added from rfl, ih,
      get?_put]
    rfl

theorem get?_eraseAll (entries : Entries) (keys : List String) :
    (entries.eraseAll keys).get? = takenFrom entries.get? keys := by
  induction keys generalizing entries with
  | nil =>
    funext k
    simp [eraseAll, takenFrom]
  | cons key keys ih =>
    rw [show entries.eraseAll (key :: keys) = (entries.erase key).eraseAll keys from rfl, ih,
      get?_erase]
    funext k
    by_cases hk : k = key
    · simp [takenFrom, hk]
    · simp [takenFrom, hk]

end Entries

instance : Storage.Lawful Entries where
  held entries key := entries.get? key
  get_ok h := Except.ok.inj h
  putAll_ok _ := Entries.get?_putAll ..
  putAll_error h := nomatch h
  eraseAll_ok _ := Entries.get?_eraseAll ..
  eraseAll_error h := nomatch h

instance : Storage.Willing Entries where
  get_ok entries key := ⟨entries.get? key, rfl⟩
  putAll_ok _ _ := rfl
  eraseAll_ok _ _ := rfl

namespace Vault

variable {μ : Type} [Storage μ] [Storage.Lawful μ]

/-- An outage makes a storage refuse more, but it changes nothing about what is there. -/
instance : Storage.Lawful (Vault μ) where
  held v := Storage.Lawful.held v.medium
  get_ok {v key value} h := by
    have h : v.get key = .ok value := h
    unfold get at h
    split at h
    · cases h
    · exact Storage.Lawful.get_ok h
  putAll_ok {v added} h := by
    show Storage.Lawful.held (v.putAll added).1.medium = _
    have h : (v.putAll added).2 = .ok () := h
    unfold putAll at h ⊢
    split at h
    · cases h
    · exact Storage.Lawful.putAll_ok h
  putAll_error {v added why} h := by
    show Storage.Lawful.held (v.putAll added).1.medium = _
    have h : (v.putAll added).2 = .error why := h
    unfold putAll at h ⊢
    split at h
    · rfl
    · exact Storage.Lawful.putAll_error h
  eraseAll_ok {v keys} h := by
    show Storage.Lawful.held (v.eraseAll keys).1.medium = _
    have h : (v.eraseAll keys).2 = .ok () := h
    unfold eraseAll at h ⊢
    split at h
    · cases h
    · exact Storage.Lawful.eraseAll_ok h
  eraseAll_error {v keys why} h := by
    show Storage.Lawful.held (v.eraseAll keys).1.medium = _
    have h : (v.eraseAll keys).2 = .error why := h
    unfold eraseAll at h ⊢
    split at h
    · rfl
    · exact Storage.Lawful.eraseAll_error h

end Vault

/-! ## The store of the tokens -/

namespace Store

variable {σ : Type} [Storage σ]

/-- The store logs something about a removal exactly if the storage refuses it. -/
theorem notices_clear {s : Store σ} (hp : s.poisoned = false) :
    s.clear.2.2 = [] ↔ s.clear.2.1 = .ok () := by
  unfold clear
  rw [if_neg (by rw [hp]; exact Bool.false_ne_true)]
  dsimp only
  rcases (Storage.eraseAll s.vault _).2 with why | ⟨⟩
  · exact ⟨nofun, nofun⟩
  · exact ⟨fun _ => rfl, fun _ => rfl⟩

theorem poisoned_save (s : Store σ) (access refresh : String) :
    (s.save access refresh).1.poisoned = s.poisoned := by
  unfold save
  split <;> rfl

theorem poisoned_clear (s : Store σ) : s.clear.1.poisoned = s.poisoned := by
  unfold clear
  split <;> rfl

/-- Over a storage that never refuses, a pair is always stored. -/
theorem save_ok [Storage.Willing σ] {s : Store σ} (hp : s.poisoned = false)
    (access refresh : String) : (s.save access refresh).2.1 = .ok () := by
  unfold save
  rw [if_neg (by rw [hp]; exact Bool.false_ne_true)]
  exact Storage.Willing.putAll_ok s.vault _

/-- Over a storage that never refuses, the tokens are always removed. -/
theorem clear_ok [Storage.Willing σ] {s : Store σ} (hp : s.poisoned = false) :
    s.clear.2.1 = .ok () := by
  unfold clear
  rw [if_neg (by rw [hp]; exact Bool.false_ne_true)]
  exact Storage.Willing.eraseAll_ok s.vault _

variable [Storage.Lawful σ]

/-- The token that is really stored, whether or not reading it would be refused. -/
def kept (s : Store σ) (t : Token) : Option String :=
  Storage.Lawful.held s.vault t.key

/-- A token that is read is there. The converse fails: `CredentialStore::access_token` reads a
refusal as `None` and logs it. -/
theorem kept_of_token {s : Store σ} {t : Token} {value : String}
    (h : (s.token t).1 = some value) : s.kept t = some value := by
  unfold token at h
  split at h
  · cases h
  · rcases hget : Storage.get s.vault t.key with why | value'
    · rw [hget] at h
      cases h
    · rw [hget] at h
      exact (Storage.Lawful.get_ok hget).trans h

/-- If nothing is logged, a token that is not read is not there. Without the condition the backend
may have refused the reading, which `CredentialStore` reports by a warning only. -/
theorem kept_of_token_none {s : Store σ} {t : Token} (h : (s.token t).1 = none)
    (hn : (s.token t).2 = []) : s.kept t = none := by
  unfold token at h hn
  split at hn
  · cases hn
  · rcases hget : Storage.get s.vault t.key with why | value
    · rw [hget] at hn
      cases hn
    · rename_i hp
      rw [if_neg hp, hget] at h
      exact (Storage.Lawful.get_ok hget).trans h

/-- A pair that is stored replaces the one that was there. -/
theorem kept_save {s : Store σ} {access refresh : String}
    (h : (s.save access refresh).2.1 = .ok ()) :
    (s.save access refresh).1.kept .access = some access ∧
      (s.save access refresh).1.kept .refresh = some refresh := by
  unfold save at h ⊢
  split at h
  · cases h
  · rename_i hp
    have hput := Storage.Lawful.putAll_ok h
    rw [if_neg hp]
    unfold kept
    rw [hput]
    -- the keys of the two differ, so the second write leaves the first one standing
    exact ⟨rfl, rfl⟩

/-- A pair that could not be stored changes nothing: the documentation of `store` promises that the
pair from before is then intact. -/
theorem kept_save_error {s : Store σ} {access refresh : String} {why : Failure}
    (h : (s.save access refresh).2.1 = .error why) :
    (s.save access refresh).1.kept = s.kept := by
  unfold save at h ⊢
  funext t
  split at h
  · rename_i hp
    rw [if_pos hp]
  · rename_i hp
    rw [if_neg hp]
    exact congrFun (Storage.Lawful.putAll_error h) t.key

/-- Tokens that are removed are gone. -/
theorem kept_clear {s : Store σ} (h : s.clear.2.1 = .ok ()) (t : Token) :
    s.clear.1.kept t = none := by
  unfold clear at h ⊢
  split at h
  · cases h
  · rename_i hp
    have herase := Storage.Lawful.eraseAll_ok h
    rw [if_neg hp]
    unfold kept
    rw [herase]
    cases t <;> rfl

/-- Tokens that could not be removed are still there. -/
theorem kept_clear_error {s : Store σ} {why : Failure} (h : s.clear.2.1 = .error why) :
    s.clear.1.kept = s.kept := by
  unfold clear at h ⊢
  funext t
  split at h
  · rename_i hp
    rw [if_pos hp]
  · rename_i hp
    rw [if_neg hp]
    exact congrFun (Storage.Lawful.eraseAll_error h) t.key

end Store

end Rendezvous.Credential
