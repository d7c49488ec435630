/-
Which segments are left of a path.

The parser splits a path of a web scheme at slashes and backslashes, encodes each piece, and then
lets the dot segments take effect. Two facts are all that is used of this. If no piece is a dot
segment, the pieces are the segments (`resolved_of_forall`). And whatever the pieces are, a segment
that is left is empty or one of them, encoded, and not a dot segment (`mem_resolved`): dot segments
remove segments and never make anything new.

A dot may be written as `%2e` or `%2E`, but it is decoded as a dot (`percentDecode_of_isSingleDot`).
So a text without codes is a dot segment only if it is one dot or two.
-/
import Rendezvous.Proofs.Web.Percent
import Rendezvous.Web.Path

set_option autoImplicit false

namespace Rendezvous.Web

open Text (Utf8.encode)

/-! ## Dots

A dot segment is recognised in any case and with any of its dots written as a code. -/

theorem toNat_toLower (c : Char) :
    c.toLower.toNat = if 65 ≤ c.toNat ∧ c.toNat ≤ 90 then c.toNat + 32 else c.toNat := by
  delta Char.toLower
  by_cases h : c.val ≥ 'A'.val ∧ c.val ≤ 'Z'.val
  · have hlow : 65 ≤ c.toNat := h.1
    have hhigh : c.toNat ≤ 90 := h.2
    rw [dif_pos h, if_pos ⟨hlow, hhigh⟩]
    change (c.val + 32).toNat = c.val.toNat + 32
    rw [UInt32.toNat_add]
    change (c.toNat + 32) % _ = c.toNat + 32
    omega
  · have hnot : ¬(65 ≤ c.toNat ∧ c.toNat ≤ 90) := h
    rw [dif_neg h, if_neg hnot]

/-- A character whose lower case is no letter is that character. -/
theorem eq_of_toLower_eq {c d : Char} (h : c.toLower = d) (hd : d.toNat < 97) : c = d := by
  have hnat := toNat_toLower c
  rw [h] at hnat
  split at hnat
  · omega
  · exact (Char.toNat_inj.mp hnat).symm

/-- The case of a hex digit makes no difference to its value. -/
theorem hexValue?_toLower (c : Char) : Text.hexValue? c.toLower = Text.hexValue? c := by
  have hnat := toNat_toLower c
  have hle : ∀ a b : Char, (a ≤ b) = (a.toNat ≤ b.toNat) := fun _ _ => rfl
  have hchars : '0'.toNat = 48 ∧ '9'.toNat = 57 ∧ 'a'.toNat = 97 ∧ 'f'.toNat = 102 ∧
      'A'.toNat = 65 ∧ 'F'.toNat = 70 := by decide
  simp only [Text.hexValue?, hle, hnat]
  grind

/-- A text that is a dot and more, but for case, is decoded as a dot and more. -/
theorem percentDecode_of_dot {s r : List Char} (h : s.map Char.toLower = '.' :: r) :
    ∃ s', s'.map Char.toLower = r ∧ percentDecode s = 0x2E :: percentDecode s' := by
  obtain ⟨c, s', rfl, hc, hs'⟩ := List.map_eq_cons_iff.mp h
  refine ⟨s', hs', ?_⟩
  rw [eq_of_toLower_eq hc (by decide), percentDecode_cons (by decide)]
  rfl

/-- So is one that begins with the code of a dot. -/
theorem percentDecode_of_dotCode {s r : List Char}
    (h : s.map Char.toLower = '%' :: '2' :: 'e' :: r) :
    ∃ s', s'.map Char.toLower = r ∧ percentDecode s = 0x2E :: percentDecode s' := by
  obtain ⟨percent, s₁, rfl, hpercent, h⟩ := List.map_eq_cons_iff.mp h
  obtain ⟨high, s₂, rfl, hhigh, h⟩ := List.map_eq_cons_iff.mp h
  obtain ⟨low, s', rfl, hlow, hs'⟩ := List.map_eq_cons_iff.mp h
  have hbyte : hexByte? high low = some 0x2E := by
    rw [hexByte?, ← hexValue?_toLower high, ← hexValue?_toLower low, hhigh, hlow]
    rfl
  refine ⟨s', hs', ?_⟩
  rw [eq_of_toLower_eq hpercent (by decide), percentDecode, hbyte]

theorem percentDecode_of_map_nil {s : List Char} (h : s.map Char.toLower = []) :
    percentDecode s = [] := by
  rw [List.map_eq_nil_iff.mp h, percentDecode]

/-- However one dot is written, it is decoded as a dot. -/
theorem percentDecode_of_isSingleDot {s : List Char} (h : isSingleDot s = true) :
    percentDecode s = [0x2E] := by
  rw [isSingleDot, List.contains_iff_mem, List.mem_cons, List.mem_singleton] at h
  rcases h with h | h
  · obtain ⟨s', hs', hdecode⟩ := percentDecode_of_dot (String.ofList_inj.mp h)
    rw [hdecode, percentDecode_of_map_nil hs']
  · obtain ⟨s', hs', hdecode⟩ := percentDecode_of_dotCode (String.ofList_inj.mp h)
    rw [hdecode, percentDecode_of_map_nil hs']

/-- However two dots are written, they are decoded as two dots. Each of them may be a dot or a code
with a small or a capital letter, which makes nine spellings. -/
theorem percentDecode_of_isDoubleDot {s : List Char} (h : isDoubleDot s = true) :
    percentDecode s = [0x2E, 0x2E] := by
  rw [isDoubleDot, List.contains_iff_mem, List.mem_cons, List.mem_cons, List.mem_cons,
    List.mem_singleton] at h
  rcases h with h | h | h | h
  · obtain ⟨s₁, hs₁, hfirst⟩ := percentDecode_of_dot (String.ofList_inj.mp h)
    obtain ⟨s₂, hs₂, hsecond⟩ := percentDecode_of_dot hs₁
    rw [hfirst, hsecond, percentDecode_of_map_nil hs₂]
  · obtain ⟨s₁, hs₁, hfirst⟩ := percentDecode_of_dot (String.ofList_inj.mp h)
    obtain ⟨s₂, hs₂, hsecond⟩ := percentDecode_of_dotCode hs₁
    rw [hfirst, hsecond, percentDecode_of_map_nil hs₂]
  · obtain ⟨s₁, hs₁, hfirst⟩ := percentDecode_of_dotCode (String.ofList_inj.mp h)
    obtain ⟨s₂, hs₂, hsecond⟩ := percentDecode_of_dot hs₁
    rw [hfirst, hsecond, percentDecode_of_map_nil hs₂]
  · obtain ⟨s₁, hs₁, hfirst⟩ := percentDecode_of_dotCode (String.ofList_inj.mp h)
    obtain ⟨s₂, hs₂, hsecond⟩ := percentDecode_of_dotCode hs₁
    rw [hfirst, hsecond, percentDecode_of_map_nil hs₂]

/-- A segment that the path keeps. -/
def Keeps (segment : List Char) : Prop :=
  isSingleDot segment = false ∧ isDoubleDot segment = false

instance (segment : List Char) : Decidable (Keeps segment) :=
  inferInstanceAs (Decidable (_ ∧ _))

/-- **A text without codes is kept if and only if it is neither one dot nor two.** A code could
spell a dot, so without that condition more texts would be dropped. -/
theorem keeps_percentEncode_iff {cs : List Char} (h : CodeFree cs) :
    Keeps (percentEncode codedInPath cs) ↔ cs ≠ ['.'] ∧ cs ≠ ['.', '.'] := by
  have hdecode : percentDecode (percentEncode codedInPath cs) = Utf8.encode cs := by
    rw [percentDecode_percentEncode sparesCodes_path, percentDecode_eq_encode_iff]
    exact h
  constructor
  · rintro ⟨hsingle, hdouble⟩
    constructor
    · rintro rfl
      revert hsingle
      decide
    · rintro rfl
      revert hdouble
      decide
  · -- an encoded dot would decode to a dot, and then the text itself would be one
    rintro ⟨hone, htwo⟩
    constructor
    · rw [← Bool.not_eq_true]
      intro hdot
      rw [percentDecode_of_isSingleDot hdot] at hdecode
      exact hone (Text.Utf8.encode_injective (hdecode.symm.trans (by rfl)))
    · rw [← Bool.not_eq_true]
      intro hdots
      rw [percentDecode_of_isDoubleDot hdots] at hdecode
      exact htwo (Text.Utf8.encode_injective (hdecode.symm.trans (by rfl)))

namespace PathRules

/-! ## Pieces

Splitting comes before encoding, so a separator that is written as a code does not separate. -/

section

variable {rules : PathRules}

theorem split_ne_nil (cs : List Char) : rules.split cs ≠ [] := by
  match cs with
  | [] => exact List.cons_ne_nil _ _
  | c :: cs =>
    rw [split]
    split
    · exact List.cons_ne_nil _ _
    · split
      · exact List.cons_ne_nil _ _
      · exact List.cons_ne_nil _ _

/-- Text without a separator is one piece. -/
theorem split_of_forall {cs : List Char} (h : ∀ c ∈ cs, rules.separates c = false) :
    rules.split cs = [cs] := by
  induction cs with
  | nil => rfl
  | cons c cs ih =>
    have hcs := ih fun d hd => h d (List.mem_cons_of_mem _ hd)
    rw [split, h c (List.mem_cons_self ..), if_neg Bool.false_ne_true, hcs]

/-- A separator cuts a text in two, and the pieces of the two parts are the pieces of the whole. An
empty part has one piece, the empty one. -/
theorem split_append_cons {mark : Char} (h : rules.separates mark = true) (cs ds : List Char) :
    rules.split (cs ++ mark :: ds) = rules.split cs ++ rules.split ds := by
  induction cs with
  | nil =>
    change rules.split (mark :: ds) = [] :: rules.split ds
    rw [split, if_pos h]
  | cons c cs ih =>
    rw [List.cons_append, split, split]
    by_cases hc : rules.separates c = true
    · rw [if_pos hc, if_pos hc, ih, List.cons_append]
    · rw [if_neg hc, if_neg hc, ih]
      obtain ⟨piece, pieces, heq⟩ := List.exists_cons_of_ne_nil (@split_ne_nil rules cs)
      rw [heq]
      rfl

/-- A piece is a part of the text, without separators. A sublist is enough here: where the piece
stands in the text is never asked. -/
theorem sublist_of_mem_split {cs piece : List Char} (h : piece ∈ rules.split cs) :
    piece.Sublist cs ∧ ∀ c ∈ piece, rules.separates c = false := by
  induction cs generalizing piece with
  | nil =>
    rw [List.mem_singleton.mp h]
    exact ⟨List.Sublist.refl _, nofun⟩
  | cons c cs ih =>
    rw [split] at h
    split at h
    · rcases List.mem_cons.mp h with rfl | h
      · exact ⟨List.nil_sublist _, nofun⟩
      · exact ⟨(ih h).1.cons c, (ih h).2⟩
    · rename_i hc
      -- no separator, so the character goes in front of the first piece
      obtain ⟨first, pieces, heq⟩ := List.exists_cons_of_ne_nil (@split_ne_nil rules cs)
      rw [heq] at h ih
      rcases List.mem_cons.mp h with rfl | h
      · obtain ⟨hsub, hfirst⟩ := ih (List.mem_cons_self ..)
        refine ⟨hsub.cons_cons c, ?_⟩
        intro d hd
        rcases List.mem_cons.mp hd with rfl | hd
        · exact Bool.eq_false_iff.mpr hc
        · exact hfirst d hd
      · have hpiece := ih (List.mem_cons_of_mem _ h)
        exact ⟨hpiece.1.cons c, hpiece.2⟩

end

/-! ## Segments that are left

Each segment is added to those before it, or removes the last of them. -/

theorem extend_of_keeps {before : List (List Char)} {last : Bool} {segment : List Char}
    (h : Keeps segment) : web.extend before last segment = before ++ [segment] := by
  have hkept : web.kept before segment = segment := by
    unfold kept
    split
    · rfl
    · rfl
  rw [extend, h.1, h.2, if_neg Bool.false_ne_true, if_neg Bool.false_ne_true, hkept]

/-- What one more segment leaves is what was there, an empty segment, or the segment itself. Nothing
is made up, so a segment found at the end was in the text. -/
theorem mem_extend {before : List (List Char)} {last : Bool} {segment s : List Char}
    (h : s ∈ web.extend before last segment) :
    s ∈ before ∨ s = [] ∨ s = segment ∧ Keeps segment := by
  by_cases hkeeps : Keeps segment
  · rw [extend_of_keeps hkeeps, List.mem_append, List.mem_singleton] at h
    rcases h with h | h
    · exact .inl h
    · exact .inr (.inr ⟨h, hkeeps⟩)
  · -- a dot segment adds at most an empty one, at the end of the path
    have hends : ∀ t ∈ (if last then [[]] else [] : List (List Char)), t = [] := by
      intro t ht
      split at ht
      · exact List.mem_singleton.mp ht
      · cases ht
    -- and two dots take one away
    have hshortened : ∀ t ∈ web.shortened before, t ∈ before := by
      intro t ht
      unfold shortened at ht
      split at ht
      · exact absurd ht List.not_mem_nil
      · exact List.dropLast_subset before ht
    rw [extend] at h
    split at h
    · rcases List.mem_append.mp h with h | h
      · exact .inl (hshortened s h)
      · exact .inr (.inl (hends s h))
    · rename_i hdouble
      split at h
      · rcases List.mem_append.mp h with h | h
        · exact .inl h
        · exact .inr (.inl (hends s h))
      · rename_i hsingle
        exact absurd ⟨Bool.eq_false_iff.mpr hsingle, Bool.eq_false_iff.mpr hdouble⟩ hkeeps

theorem extendAll_of_forall {before segments : List (List Char)} (h : ∀ s ∈ segments, Keeps s) :
    web.extendAll before segments = before ++ segments := by
  fun_induction extendAll web before segments with
  | case1 before => rw [List.append_nil]
  | case2 before segment => exact extend_of_keeps (h segment (List.mem_cons_self ..))
  | case3 before segment next rest ih =>
    rw [ih fun s hs => h s (List.mem_cons_of_mem _ hs),
      extend_of_keeps (h segment (List.mem_cons_self ..)), List.append_assoc,
      List.singleton_append]

theorem mem_extendAll {before segments : List (List Char)} {s : List Char}
    (h : s ∈ web.extendAll before segments) :
    s ∈ before ∨ s = [] ∨ s ∈ segments ∧ Keeps s := by
  fun_induction extendAll web before segments with
  | case1 before => exact .inl h
  | case2 before segment =>
    rcases mem_extend h with h | h | ⟨rfl, h⟩
    · exact .inl h
    · exact .inr (.inl h)
    · exact .inr (.inr ⟨List.mem_cons_self .., h⟩)
  | case3 before segment next rest ih =>
    -- what is kept at the end is what one step has kept, or one of the segments behind
    rcases ih h with h | h | h
    · rcases mem_extend h with h | h | ⟨rfl, h⟩
      · exact .inl h
      · exact .inr (.inl h)
      · exact .inr (.inr ⟨List.mem_cons_self .., h⟩)
    · exact .inr (.inl h)
    · exact .inr (.inr ⟨List.mem_cons_of_mem _ h.1, h.2⟩)

/-- **If no piece is a dot segment, the pieces are the segments.** -/
theorem resolved_of_forall {text : List Char}
    (h : ∀ piece ∈ web.split text, Keeps (percentEncode codedInPath piece)) :
    web.resolved text = (web.split text).map (percentEncode codedInPath) := by
  rw [resolved, extendAll_of_forall, List.nil_append]
  intro s hs
  obtain ⟨piece, hpiece, rfl⟩ := List.mem_map.mp hs
  exact h piece hpiece

/-- **A segment that is left is empty or one of the pieces**, and not a dot segment. -/
theorem mem_resolved {text s : List Char} (h : s ∈ web.resolved text) :
    s = [] ∨ ∃ piece ∈ web.split text, s = percentEncode codedInPath piece ∧ Keeps s := by
  rcases mem_extendAll h with h | h | ⟨h, hkeeps⟩
  · cases h
  · exact .inl h
  · obtain ⟨piece, hpiece, rfl⟩ := List.mem_map.mp h
    exact .inr ⟨piece, hpiece, rfl, hkeeps⟩

end PathRules

end Rendezvous.Web
