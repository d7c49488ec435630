/-
What is left of a text without the blanks around it: `str::trim`.

Trimming takes blanks off at one end and then at the other, and the order does not matter, since
what it leaves is determined by the text: it stands in the text between two stretches of blanks, and
it neither begins nor ends with a blank itself. `Stripped` states this without a word on how it is
found, and `stripped_iff` that trimming finds it and that nothing else is one.
-/
import Mathlib.Data.List.TakeWhile
import Rendezvous.Text.Blank

set_option autoImplicit false

namespace Rendezvous.Text

/-- The content is the text without the blanks around it. -/
structure Stripped (text content : List Char) : Prop where
  around : ∃ front back, text = front ++ content ++ back ∧
    (∀ c ∈ front, isBlank c = true) ∧ ∀ c ∈ back, isBlank c = true
  head : ∀ c, content.head? = some c → isBlank c = false
  last : ∀ c, content.getLast? = some c → isBlank c = false

/-! ## One end

Both ends are runs of characters with a property, dropped from a list or from its reverse. -/

/-- What is left once a run is dropped does not begin with a character of it. -/
theorem head?_dropWhile {p : Char → Bool} {cs : List Char} {c : Char}
    (h : (cs.dropWhile p).head? = some c) : p c = false := by
  have hnot := List.head?_dropWhile_not p cs
  rw [h] at hnot
  simpa using hnot

/-- A run in front is dropped, and nothing more if what is behind it does not go on with it. -/
theorem dropWhile_append_of_head {p : Char → Bool} {front cs : List Char}
    (hfront : ∀ c ∈ front, p c = true) (hhead : ∀ c, cs.head? = some c → p c = false) :
    (front ++ cs).dropWhile p = cs := by
  rw [List.dropWhile_append_of_pos hfront]
  cases cs with
  | nil => rfl
  | cons c cs => exact List.dropWhile_cons_of_neg (by rw [hhead c rfl]; exact Bool.false_ne_true)

/-- The same at the other end. -/
theorem reverse_dropWhile_append {p : Char → Bool} {back cs : List Char}
    (hback : ∀ c ∈ back, p c = true) (hlast : ∀ c, cs.getLast? = some c → p c = false) :
    ((cs ++ back).reverse.dropWhile p).reverse = cs := by
  have hreverse : (back.reverse ++ cs.reverse).dropWhile p = cs.reverse := by
    apply dropWhile_append_of_head
    · intro c hc
      exact hback c (List.mem_reverse.mp hc)
    · intro c hc
      rw [List.head?_reverse] at hc
      exact hlast c hc
  rw [List.reverse_append, hreverse, List.reverse_reverse]

/-- Blanks in front are dropped, and nothing else if there is none behind them. -/
theorem trimStart_append {front cs : List Char} (hfront : ∀ c ∈ front, isBlank c = true)
    (hhead : ∀ c, cs.head? = some c → isBlank c = false) : trimStart (front ++ cs) = cs :=
  dropWhile_append_of_head hfront hhead

theorem trimEnd_append {back cs : List Char} (hback : ∀ c ∈ back, isBlank c = true)
    (hlast : ∀ c, cs.getLast? = some c → isBlank c = false) : trimEnd (cs ++ back) = cs :=
  reverse_dropWhile_append hback hlast

/-- What is taken off the end, and what is left. -/
theorem trimEnd_append_takeWhile (cs : List Char) :
    trimEnd cs ++ (cs.reverse.takeWhile isBlank).reverse = cs := by
  rw [trimEnd, ← List.reverse_append, List.takeWhile_append_dropWhile, List.reverse_reverse]

/-! ## Both ends -/

/-- Trimming leaves the text without the blanks around it. The text is cut twice, at the front and
at the back, and both times as far as blanks go. -/
theorem stripped_trim (text : List Char) : Stripped text (trim text) := by
  have hsplit : trim text ++ ((trimStart text).reverse.takeWhile isBlank).reverse =
      trimStart text := trimEnd_append_takeWhile _
  refine ⟨⟨text.takeWhile isBlank, ((trimStart text).reverse.takeWhile isBlank).reverse,
    ?_, ?_, ?_⟩, ?_, ?_⟩
  · rw [List.append_assoc, hsplit]
    exact (List.takeWhile_append_dropWhile).symm
  · intro c hc
    exact List.mem_takeWhile_imp hc
  · intro c hc
    exact List.mem_takeWhile_imp (List.mem_reverse.mp hc)
  · -- the first character that is left was first when the front was done
    intro c hc
    refine @head?_dropWhile isBlank text c ?_
    rw [trimStart] at hsplit
    rw [← hsplit, List.head?_append, hc]
    rfl
  · intro c hc
    rw [trim, trimEnd, List.getLast?_reverse] at hc
    exact head?_dropWhile hc

/-- **Trimming** leaves the text without the blanks around it, and there is only one such text.
`Stripped` says what is left without saying how it is found, so it can stand in other statements. -/
theorem stripped_iff {text content : List Char} : Stripped text content ↔ content = trim text := by
  constructor
  · rintro ⟨⟨front, back, rfl, hfront, hback⟩, hhead, hlast⟩
    by_cases hempty : content = []
    · -- nothing is left, so all of it was blank
      subst hempty
      symm
      rw [trim_eq_nil_iff]
      intro c hc
      rw [List.append_nil] at hc
      rcases List.mem_append.mp hc with hc | hc
      · exact hfront c hc
      · exact hback c hc
    · have hstart : trimStart (front ++ content ++ back) = content ++ back := by
        rw [List.append_assoc]
        apply trimStart_append hfront
        intro c hc
        obtain ⟨d, rest, rfl⟩ := List.exists_cons_of_ne_nil hempty
        exact hhead c hc
      rw [trim, hstart, trimEnd_append hback hlast]
  · rintro rfl
    exact stripped_trim text

/-- Nothing is left of a text exactly if all of it is blank. It is by this test that a message is
not sent. -/
theorem isEmpty_trimmed (text : String) :
    (trimmed text).isEmpty = text.toList.all isBlank := by
  rw [Bool.eq_iff_iff, String.isEmpty_iff, trimmed, String.ofList_eq_empty_iff, trim_eq_nil_iff,
    List.all_eq_true]

end Rendezvous.Text
