/-
The words of a text, as `split_ascii_whitespace` finds them, and the first word of a line.

A word is a run of characters that are no separators, and it cannot be made longer on either side.
`Parted` tells which words a text has, from the front on, without a word on how they are found, and
`runs` finds these and no others (`parted_iff`).

`Command::parse` trims a line, splits it at the first blank, and trims the rest. The first word and
what comes behind it are determined by the line in the same way (`FirstWord`). They may be looked
for in the line as it is, or once the blanks around it are gone (`firstWord_iff`), for what is lost
at the end of the line would be lost at the end of the rest.
-/
import Rendezvous.Proofs.Text.Blank

set_option autoImplicit false

namespace Rendezvous.Text

/-- A run ends where the next character does not belong to it. -/
theorem takeWhile_append_of_head {p : Char → Bool} {cs rest : List Char}
    (hcs : ∀ c ∈ cs, p c = true) (hrest : ∀ c, rest.head? = some c → p c = false) :
    (cs ++ rest).takeWhile p = cs := by
  rw [List.takeWhile_append_of_pos hcs]
  cases rest with
  | nil => exact List.append_nil cs
  | cons c rest =>
    have hc : ¬p c = true := Bool.eq_false_iff.mp (hrest c rfl)
    rw [List.takeWhile_cons_of_neg hc]
    exact List.append_nil cs

/-! ## All words -/

/-- The words of a text, in order, with separators around them. -/
inductive Parted (sep : Char → Bool) : List Char → List (List Char) → Prop
  | none {gap : List Char} : (∀ c ∈ gap, sep c = true) → Parted sep gap []
  | word {gap word rest : List Char} {words : List (List Char)} :
      (∀ c ∈ gap, sep c = true) → word ≠ [] → (∀ c ∈ word, sep c = false) →
      (∀ c, rest.head? = some c → sep c = true) → Parted sep rest words →
      Parted sep (gap ++ (word ++ rest)) (word :: words)

section

variable {sep : Char → Bool}

/-- What `runs` finds are the words of the text. `Parted` describes them from the outside: maximal
pieces without a separator, with separators or an end around each. -/
theorem parted_runs (cs : List Char) : Parted sep cs (runs sep cs) := by
  fun_induction runs sep cs with
  | case1 cs hnil => exact .none ((dropWhile_eq_nil_iff_forall sep cs).mp hnil)
  | case2 cs c rest hcons ih =>
    -- the first character behind the blanks starts a word
    have hstart : sep c = false := head?_dropWhile (by rw [hcons, List.head?_cons])
    have hword : ∀ d ∈ c :: rest.takeWhile (!sep ·), sep d = false := by
      intro d hd
      rcases List.mem_cons.mp hd with rfl | hd
      · exact hstart
      · have hnot := List.mem_takeWhile_imp hd
        rwa [Bool.not_eq_true'] at hnot
    -- and the word ends at a blank or at the end
    have hend : ∀ d, (rest.dropWhile (!sep ·)).head? = some d → sep d = true := by
      intro d hd
      have hnot := head?_dropWhile hd
      rwa [Bool.not_eq_false'] at hnot
    have hparted : Parted sep (cs.takeWhile sep ++ (c :: rest.takeWhile (!sep ·) ++
        rest.dropWhile (!sep ·))) _ :=
      .word (fun d hd => List.mem_takeWhile_imp hd) (List.cons_ne_nil _ _) hword hend ih
    rwa [List.cons_append, List.takeWhile_append_dropWhile, ← hcons,
      List.takeWhile_append_dropWhile] at hparted

/-- There are no others. The induction is on the words, and each is found where the gap before it
ends. -/
theorem runs_of_parted {cs : List Char} {words : List (List Char)} (h : Parted sep cs words) :
    runs sep cs = words := by
  induction h with
  | none hgap =>
    rw [runs]
    split
    · rfl
    · rename_i hcons
      rw [(dropWhile_eq_nil_iff_forall sep _).mpr hgap] at hcons
      cases hcons
  | @word gap word rest words hgap hne hword hrest _ ih =>
    obtain ⟨c, cs, rfl⟩ := List.exists_cons_of_ne_nil hne
    have hhead : ∀ d, (c :: cs ++ rest).head? = some d → sep d = false := by
      intro d hd
      exact hword d (by rw [← Option.some.inj hd]; exact List.mem_cons_self ..)
    -- cutting takes exactly the gap, then exactly the word
    have hdrop := dropWhile_append_of_head hgap hhead
    have hinside : ∀ d ∈ cs, (!sep d) = true := fun d hd => by
      rw [hword d (List.mem_cons_of_mem _ hd), Bool.not_false]
    have hend : ∀ d, rest.head? = some d → (!sep d) = false := fun d hd => by
      rw [hrest d hd, Bool.not_true]
    have htake := takeWhile_append_of_head hinside hend
    have hleft := dropWhile_append_of_head hinside hend
    rw [runs]
    split
    · rename_i hnil
      rw [hdrop] at hnil
      cases hnil
    · rename_i hcons
      rw [hdrop, List.cons_append] at hcons
      obtain ⟨rfl, rfl⟩ := List.cons.inj hcons
      rw [htake, hleft, ih]

/-- **The words of a text are the ones that are found.** -/
theorem parted_iff {cs : List Char} {words : List (List Char)} :
    Parted sep cs words ↔ runs sep cs = words := by
  refine ⟨runs_of_parted, ?_⟩
  rintro rfl
  exact parted_runs cs

end

/-! ## The first word -/

/-- The first word of a line, and what comes behind it without the blanks around it. A blank line
has no word, and nothing behind it. -/
structure FirstWord (line word argument : List Char) : Prop where
  around : ∃ front rest, line = front ++ (word ++ rest) ∧ (∀ c ∈ front, isBlank c = true) ∧
    (∀ c, rest.head? = some c → isBlank c = true) ∧ (word = [] → rest = []) ∧
    Stripped rest argument
  solid : ∀ c ∈ word, isBlank c = false

/-- Blanks at the end are looked for behind a word. A word has no blank in it, so trimming cannot go
past its last character. -/
theorem trimEnd_append_word {word : List Char} (hsolid : ∀ c ∈ word, isBlank c = false)
    (rest : List Char) : trimEnd (word ++ rest) = word ++ trimEnd rest := by
  have hlast : ∀ c, (word ++ trimEnd rest).getLast? = some c → isBlank c = false := by
    intro c hc
    cases hrest : (trimEnd rest).getLast? with
    | some d =>
      rw [List.getLast?_append, hrest, Option.some_or] at hc
      rw [← Option.some.inj hc]
      rw [trimEnd, List.getLast?_reverse] at hrest
      exact head?_dropWhile hrest
    | none =>
      rw [List.getLast?_append, hrest, Option.none_or] at hc
      exact hsolid c (List.mem_of_getLast? hc)
  have htrim := @trimEnd_append (rest.reverse.takeWhile isBlank).reverse (word ++ trimEnd rest)
    (fun c hc => List.mem_takeWhile_imp (List.mem_reverse.mp hc)) hlast
  rwa [List.append_assoc, trimEnd_append_takeWhile] at htrim

/-- It does not matter if the blanks at the end are taken off first. -/
theorem trim_trimEnd (cs : List Char) : trim (trimEnd cs) = trim cs := by
  obtain ⟨⟨front, back, heq, hfront, hback⟩, hhead, hlast⟩ := stripped_trim (trimEnd cs)
  apply stripped_iff.mp
  refine ⟨⟨front, back ++ (cs.reverse.takeWhile isBlank).reverse, ?_, hfront, ?_⟩, hhead, hlast⟩
  · rw [← List.append_assoc, ← heq, trimEnd_append_takeWhile]
  · intro c hc
    rcases List.mem_append.mp hc with hc | hc
    · exact hback c hc
    · exact List.mem_takeWhile_imp (List.mem_reverse.mp hc)

/-- Every line has a first word, if only the empty one. Its argument is what is left behind the
word, without the blanks around it. -/
theorem exists_firstWord (line : List Char) : ∃ word argument, FirstWord line word argument := by
  refine ⟨(trimStart line).takeWhile (!isBlank ·),
    trim ((trimStart line).dropWhile (!isBlank ·)),
    ⟨line.takeWhile isBlank, (trimStart line).dropWhile (!isBlank ·), ?_, ?_, ?_, ?_,
      stripped_trim _⟩, ?_⟩
  · rw [List.takeWhile_append_dropWhile, trimStart, List.takeWhile_append_dropWhile]
  · exact fun c hc => List.mem_takeWhile_imp hc
  · intro c hc
    have hnot := head?_dropWhile hc
    rwa [Bool.not_eq_false'] at hnot
  · -- what is left of the line does not begin with a blank
    intro hnone
    cases hstart : trimStart line with
    | nil => rfl
    | cons c cs =>
      have hc : isBlank c = false := head?_dropWhile (by rw [← trimStart, hstart, List.head?_cons])
      rw [hstart, List.takeWhile_cons_of_pos (by rw [hc, Bool.not_false])] at hnone
      cases hnone
  · intro c hc
    have hnot := List.mem_takeWhile_imp hc
    rwa [Bool.not_eq_true'] at hnot

theorem FirstWord.eq {line word argument : List Char} (h : FirstWord line word argument) :
    word = (trim line).takeWhile (!isBlank ·) ∧
      argument = trim ((trim line).dropWhile (!isBlank ·)) := by
  obtain ⟨⟨front, rest, rfl, hfront, hrest, hnone, hstripped⟩, hsolid⟩ := h
  by_cases hword : word = []
  · obtain rfl := hnone hword
    subst hword
    have hblank : trim (front ++ ([] ++ [])) = [] := by
      rw [trim_eq_nil_iff]
      intro c hc
      exact hfront c (by simpa using hc)
    rw [hblank]
    exact ⟨rfl, stripped_iff.mp hstripped⟩
  · have hstart : trimStart (front ++ (word ++ rest)) = word ++ rest := by
      apply trimStart_append hfront
      intro c hc
      obtain ⟨d, ds, rfl⟩ := List.exists_cons_of_ne_nil hword
      exact hsolid c (by rw [← Option.some.inj hc]; exact List.mem_cons_self ..)
    -- the rest begins with a blank, or nothing is left of it
    have hend : ∀ c, (trimEnd rest).head? = some c → (!isBlank c) = false := by
      intro c hc
      rw [hrest c, Bool.not_true]
      rw [← trimEnd_append_takeWhile rest, List.head?_append, hc]
      rfl
    have hinside : ∀ c ∈ word, (!isBlank c) = true := fun c hc => by
      rw [hsolid c hc, Bool.not_false]
    have htake := takeWhile_append_of_head hinside hend
    have hdrop := dropWhile_append_of_head hinside hend
    rw [trim, hstart, trimEnd_append_word hsolid, htake, hdrop, trim_trimEnd]
    exact ⟨rfl, stripped_iff.mp hstripped⟩

/-- **The first word of a line and what comes behind it** are found in the line without the blanks
around it, and there are no others. -/
theorem firstWord_iff {line word argument : List Char} :
    FirstWord line word argument ↔ word = (trim line).takeWhile (!isBlank ·) ∧
      argument = trim ((trim line).dropWhile (!isBlank ·)) := by
  refine ⟨FirstWord.eq, ?_⟩
  rintro ⟨rfl, rfl⟩
  obtain ⟨word, argument, h⟩ := exists_firstWord line
  obtain ⟨hword, hargument⟩ := h.eq
  rwa [← hword, ← hargument]

end Rendezvous.Text
