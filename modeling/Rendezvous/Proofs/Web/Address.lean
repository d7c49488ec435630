/-
What is parsed of a URL whose beginning is known.

`Url::parse` goes from left to right. The beginning of a URL of a web scheme, up to the slash behind
the host, is parsed on its own, and nothing behind that slash can change it: the authority ends
there, and neither blanks nor marks reach back over it (`parse_web`). What comes behind is the path,
up to a question mark or a number sign, once the blanks at the end of the URL and the tabs and line
breaks in it have been dropped.

A host name of small letters, digits, hyphens and points is parsed as it is written, unless one of
its labels is an internationalized one or the last one is a number (`IsName`).
-/
import Mathlib.Data.List.TakeWhile
import Rendezvous.Proofs.Web.Path
import Rendezvous.Web.Url

set_option autoImplicit false

namespace Rendezvous.Web

open Text (Utf8.encode)

/-! ## Names of hosts

The hosts that go through percent-decoding, IDNA and the test for an IPv4 address unchanged. -/

/-- A character of an ordinary host name. -/
def isNameChar (c : Char) : Bool :=
  c.isLower || c.isDigit || c == '-' || c == '.'

/-- A host name that is parsed as it is written. `unmarked` rules out labels with the prefix of
Punycode, and `word` rules out names that would be read as an IPv4 address. -/
structure IsName (name : List Char) : Prop where
  nonempty : name ≠ []
  chars : ∀ c ∈ name, isNameChar c = true
  unmarked : (Text.splitAt '.' name).any Domain.isMarked = false
  word : endsInNumber name = false

theorem toNat_of_isLower {c : Char} (h : c.isLower = true) : 97 ≤ c.toNat ∧ c.toNat ≤ 122 := by
  delta Char.isLower at h
  rwa [Bool.and_eq_true, decide_eq_true_eq, decide_eq_true_eq] at h

theorem toNat_of_isNameChar {c : Char} (h : isNameChar c = true) :
    97 ≤ c.toNat ∧ c.toNat ≤ 122 ∨ 48 ≤ c.toNat ∧ c.toNat ≤ 57 ∨ c.toNat = 45 ∨ c.toNat = 46 := by
  rw [isNameChar, Bool.or_eq_true, Bool.or_eq_true, Bool.or_eq_true, beq_iff_eq, beq_iff_eq] at h
  rcases h with ((h | h) | rfl) | rfl
  · exact .inl (toNat_of_isLower h)
  · exact .inr (.inl (Char.isDigit_iff_toNat.mp h))
  · exact .inr (.inr (.inl rfl))
  · exact .inr (.inr (.inr rfl))

/-- A character of a name is none that is not one. -/
theorem ne_of_isNameChar {c d : Char} (h : isNameChar c = true) (hd : isNameChar d = false) :
    c ≠ d := by
  rintro rfl
  rw [h] at hd
  cases hd

theorem not_forbidden_of_isNameChar {c : Char} (h : isNameChar c = true) :
    Domain.forbidden c = false := by
  have hbounds := toNat_of_isNameChar h
  have hlist : ∀ d ∈ ['%', '#', '/', ':', '<', '>', '?', '@', '[', '\\', ']', '^', '|'],
      isNameChar d = false := by decide
  rw [Domain.forbidden, Bool.or_eq_false_iff, Bool.or_eq_false_iff, decide_eq_false_iff_not,
    beq_eq_false_iff_ne, ← Bool.not_eq_true, List.contains_iff_mem]
  refine ⟨⟨by omega, by omega⟩, ?_⟩
  intro hmem
  exact ne_of_isNameChar h (hlist c hmem) rfl

/-- A name is in lower case. -/
theorem toLower_of_isNameChar {c : Char} (h : isNameChar c = true) : c.toLower = c := by
  have hbounds := toNat_of_isNameChar h
  apply Char.toNat_inj.mp
  rw [toNat_toLower, if_neg (by omega)]

theorem ofBytes?_name {name : List Char} (h : IsName name) :
    Domain.ofBytes? (percentDecode name) = some name := by
  -- an ordinary name is ASCII without a marker of an encoded label, which spares it the long way
  have hplain : Domain.isPlain name = true := by
    rw [Domain.isPlain, h.unmarked, Bool.not_false, Bool.and_true, Bool.not_eq_true',
      List.any_eq_false]
    intro c hc
    have hbounds := toNat_of_isNameChar (h.chars c hc)
    rw [Domain.isForeign, decide_eq_true_eq]
    omega
  have hforbidden : name.any Domain.forbidden = false := by
    rw [List.any_eq_false]
    intro c hc
    rw [not_forbidden_of_isNameChar (h.chars c hc)]
    exact Bool.false_ne_true
  -- it is in lower case, so lowering it changes nothing
  have hlower : name.map Char.toLower = name.map id :=
    List.map_congr_left fun c hc => toLower_of_isNameChar (h.chars c hc)
  have hdecode : percentDecode name = Utf8.encode name := by
    rw [percentDecode_eq_encode_iff]
    apply codeFree_of_not_mem
    intro hmem
    exact ne_of_isNameChar (h.chars _ hmem) (by decide) rfl
  rw [hdecode, Domain.ofBytes?, Text.Utf8.decode_encode]
  dsimp only
  rw [Domain.ofChars?, if_pos hplain, hforbidden, if_neg Bool.false_ne_true, hlower, List.map_id]

theorem parse_name {name : List Char} (h : IsName name) : Host.parse name = .ok (.domain name) := by
  have hbracket : bracketed? name = none := by
    unfold bracketed?
    split
    · exact absurd rfl (ne_of_isNameChar (h.chars '[' (List.mem_cons_self ..)) (by decide))
    · rfl
  obtain ⟨c, cs, rfl⟩ := List.exists_cons_of_ne_nil h.nonempty
  rw [Host.parse, hbracket]
  dsimp only
  rw [ofBytes?_name h]
  dsimp only
  rw [h.word, if_neg Bool.false_ne_true]

/-! ## The authority

No name has a character that would end the host or begin a user. -/

theorem splitUserInfo_of_not_mem {text : List Char} (h : '@' ∉ text) :
    splitUserInfo text = (none, text) := by
  have hdrop : text.reverse.dropWhile (· != '@') = [] := by
    rw [List.dropWhile_eq_nil_iff]
    intro c hc
    rw [bne_iff_ne]
    rintro rfl
    exact h (List.mem_reverse.mp hc)
  rw [splitUserInfo, hdrop]

/-- A text without colons and brackets is all host, up to a colon behind it. -/
theorem splitHost_append {text behind : List Char} (h : ∀ c ∈ text, c ≠ ':' ∧ c ≠ '[' ∧ c ≠ ']')
    (hbehind : ∀ c, behind.head? = some c → c = ':') :
    splitHost false (text ++ behind) = (text, behind) := by
  induction text with
  | nil =>
    cases behind with
    | nil => rfl
    | cons c cs =>
      rw [List.nil_append, splitHost, if_pos ⟨hbehind c rfl, rfl⟩]
  | cons c cs ih =>
    obtain ⟨hcolon, hopen, hclose⟩ := h c (List.mem_cons_self ..)
    rw [List.cons_append, splitHost, if_neg (fun hc => hcolon hc.1), if_neg hopen, if_neg hclose,
      ih fun d hd => h d (List.mem_cons_of_mem _ hd)]

/-- **A name is the host of an authority**, without a user; a port may stand behind it. The parser
looks for `@` first and for the colon afterwards, so both searches are followed here. -/
theorem readAuthority_name_append {name behind : List Char} (h : IsName name) {port : UInt16}
    {shown : Option UInt16} (hat : '@' ∉ behind) (hcolon : ∀ c, behind.head? = some c → c = ':')
    (hport : readPort (.web port) behind = .ok (shown, [])) :
    readAuthority (.web port) (name ++ behind) = .ok (⟨[], [], .domain name, shown⟩, []) := by
  -- there is no user part, since there is no `@`
  have huser : splitUserInfo (name ++ behind) = (none, name ++ behind) := by
    apply splitUserInfo_of_not_mem
    rw [List.mem_append, not_or]
    exact ⟨fun hmem => ne_of_isNameChar (h.chars _ hmem) (by decide) rfl, hat⟩
  have hhost : splitHost false (name ++ behind) = (name, behind) := by
    apply splitHost_append _ hcolon
    intro c hc
    exact ⟨ne_of_isNameChar (h.chars c hc) (by decide), ne_of_isNameChar (h.chars c hc) (by decide),
      ne_of_isNameChar (h.chars c hc) (by decide)⟩
  have hread : readHost (.web port) name = .ok (.domain name) := by
    rw [readHost, if_pos (by rfl), if_neg (by rw [List.isEmpty_iff]; exact h.nonempty),
      parse_name h]
    rfl
  -- only an empty host may not have a port
  have hnonempty : (Host.domain name).isEmpty = false := by
    rw [Host.isEmpty, Host.text, ← Bool.not_eq_true, List.isEmpty_iff]
    exact h.nonempty
  rw [readAuthority, huser]
  dsimp only
  rw [hhost, hread]
  dsimp only
  rw [hnonempty, hport, if_neg (by nofun), if_neg (by nofun)]
  rfl

/-- A name alone is the authority of a host, without a user and without a port. -/
theorem readAuthority_name {name : List Char} (h : IsName name) (port : UInt16) :
    readAuthority (.web port) name = .ok (⟨[], [], .domain name, none⟩, []) := by
  have hread := @readAuthority_name_append name [] h port none List.not_mem_nil nofun rfl
  rwa [List.append_nil] at hread

/-! ## Blanks and marks

The parser drops tabs and line breaks anywhere and blanks at both ends, and finds the query and the
fragment by their marks. Both are done to the whole URL, so it has to be shown that a known
beginning is not touched. -/

/-- A character that the parser neither drops nor takes for a mark. -/
def isSolid (c : Char) : Bool :=
  !isOuterBlank c && c != '?' && c != '#'

/-- What is parsed of a text at the end of a URL: the blanks at its end are dropped, and the tabs
and line breaks in it. -/
def readable (tail : List Char) : List Char :=
  (tail.reverse.dropWhile isOuterBlank).reverse.filter (!isInnerBlank ·)

theorem not_isInnerBlank {c : Char} (h : isOuterBlank c = false) : isInnerBlank c = false := by
  rw [← Bool.not_eq_true] at h ⊢
  intro hinner
  apply h
  rw [isInnerBlank, Bool.or_eq_true, Bool.or_eq_true, beq_iff_eq, beq_iff_eq, beq_iff_eq] at hinner
  rcases hinner with (rfl | rfl) | rfl
  · decide
  · decide
  · decide

/-- Nothing is lost of a text without tabs and line breaks. -/
theorem filter_isInnerBlank {cs : List Char} (h : ∀ c ∈ cs, isInnerBlank c = false) :
    cs.filter (!isInnerBlank ·) = cs := by
  rw [List.filter_eq_self]
  intro c hc
  rw [h c hc, Bool.not_false]

theorem not_isInnerBlank_of_mem_filter {cs : List Char} {c : Char}
    (h : c ∈ cs.filter (!isInnerBlank ·)) : isInnerBlank c = false := by
  have hkept := (List.mem_filter.mp h).2
  rwa [Bool.not_eq_true'] at hkept

/-- Tabs and line breaks in front of a text that ends visibly are all that is dropped. Blanks are
trimmed at the ends only, while these are dropped wherever they stand. -/
theorem readable_append {tail : List Char} (hne : tail ≠ [])
    (h : ∀ c ∈ tail, isOuterBlank c = false) (cs : List Char) :
    readable (cs ++ tail) = cs.filter (!isInnerBlank ·) ++ tail := by
  have hreverse : (cs ++ tail).reverse.dropWhile isOuterBlank = (cs ++ tail).reverse := by
    obtain ⟨c, ds, heq⟩ := List.exists_cons_of_ne_nil (List.reverse_ne_nil_iff.mpr hne)
    have hc : c ∈ tail := by
      rw [← List.mem_reverse, heq]
      exact List.mem_cons_self ..
    rw [List.reverse_append, heq, List.cons_append, List.dropWhile_cons, h c hc,
      if_neg Bool.false_ne_true]
  have hfilter : tail.filter (!isInnerBlank ·) = tail :=
    filter_isInnerBlank fun c hc => not_isInnerBlank (h c hc)
  rw [readable, hreverse, List.reverse_reverse, List.filter_append, hfilter]

theorem readable_of_forall {tail : List Char} (h : ∀ c ∈ tail, isOuterBlank c = false) :
    readable tail = tail := by
  by_cases hne : tail = []
  · subst hne
    rfl
  · exact readable_append hne h []

/-- A blank at the end is dropped. -/
theorem readable_concat {c : Char} (h : isOuterBlank c = true) (cs : List Char) :
    readable (cs ++ [c]) = readable cs := by
  rw [readable, List.reverse_append, List.reverse_singleton, List.singleton_append,
    List.dropWhile_cons, h, if_pos rfl, readable]

/-- What is parsed of a text is a part of it. -/
theorem readable_sublist (tail : List Char) : (readable tail).Sublist tail := by
  have hend : ((tail.reverse.dropWhile isOuterBlank).reverse).Sublist tail := by
    have hsublist := (List.dropWhile_sublist isOuterBlank (l := tail.reverse)).reverse
    rwa [List.reverse_reverse] at hsublist
  exact List.filter_sublist.trans hend

/-- A text without tabs and line breaks is parsed as it is, unless it ends in a blank. -/
theorem readable_eq_self {tail : List Char} (hinner : ∀ c ∈ tail, isInnerBlank c = false)
    (hlast : ∀ c, tail.getLast? = some c → isOuterBlank c = false) : readable tail = tail := by
  rcases List.eq_nil_or_concat tail with rfl | ⟨front, c, rfl⟩
  · rfl
  · rw [List.concat_eq_append] at hinner hlast ⊢
    have hc : isOuterBlank c = false := hlast c List.getLast?_concat
    have hfilter : front.filter (!isInnerBlank ·) = front :=
      filter_isInnerBlank fun d hd => hinner d (List.mem_append_left _ hd)
    rw [readable_append (List.cons_ne_nil c []), hfilter]
    intro d hd
    rw [List.mem_singleton.mp hd]
    exact hc

/-- Blanks are looked for in the tail only, if no character in front is one. The front is the text
of the base, which is known to have none. -/
theorem readable_append_tail {front : List Char}
    (h : ∀ c ∈ front, isOuterBlank c = false) (tail : List Char) :
    readable (front ++ tail) = front ++ readable tail := by
  by_cases hempty : tail.reverse.dropWhile isOuterBlank = []
  · -- nothing but blanks comes behind
    have htail : ((front ++ tail).reverse.dropWhile isOuterBlank).reverse =
        (front.reverse.dropWhile isOuterBlank).reverse := by
      rw [List.reverse_append, List.dropWhile_append, hempty, if_pos List.isEmpty_nil]
    have hfront : readable (front ++ tail) = readable front := by
      rw [readable, htail, readable]
    rw [hfront, readable_of_forall h, readable, hempty]
    exact (List.append_nil front).symm
  · have hfilter : front.filter (!isInnerBlank ·) = front :=
      filter_isInnerBlank fun c hc => not_isInnerBlank (h c hc)
    rw [readable, List.reverse_append, List.dropWhile_append,
      if_neg (by rwa [List.isEmpty_iff]), List.reverse_append, List.reverse_reverse,
      List.filter_append, hfilter, readable]

theorem withoutBlanks_append {front : List Char} (hne : front ≠ [])
    (h : ∀ c ∈ front, isOuterBlank c = false) (tail : List Char) :
    withoutBlanks (front ++ tail) = front ++ readable tail := by
  have hstart : (front ++ tail).dropWhile isOuterBlank = front ++ tail := by
    obtain ⟨c, cs, rfl⟩ := List.exists_cons_of_ne_nil hne
    rw [List.cons_append, List.dropWhile_cons_of_neg]
    rw [h c (List.mem_cons_self ..)]
    exact Bool.false_ne_true
  rw [← readable_append_tail h, withoutBlanks, hstart, readable]

/-- A mark is looked for in the tail only, if it is not in front. -/
theorem splitMark_append {mark : Char} {front : List Char} (h : mark ∉ front) (tail : List Char) :
    splitMark mark (front ++ tail) =
      (front ++ (splitMark mark tail).1, (splitMark mark tail).2) := by
  have hfront : ∀ c ∈ front, (c != mark) = true := by
    intro c hc
    rw [bne_iff_ne]
    rintro rfl
    exact h hc
  rw [splitMark, splitMark, List.dropWhile_append_of_pos hfront,
    List.takeWhile_append_of_pos hfront]
  rcases tail.dropWhile (· != mark) with _ | ⟨c, rest⟩
  · rfl
  · rfl

theorem splitMark_of_not_mem {mark : Char} {text : List Char} (h : mark ∉ text) :
    splitMark mark text = (text, none) := by
  have hsplit := splitMark_append h []
  rw [List.append_nil] at hsplit
  rw [hsplit]
  exact congrArg (·, none) (List.append_nil text)

/-- Where there is nothing behind a mark, the whole text is in front of it. -/
theorem splitMark_eq_none {mark : Char} {text : List Char} (h : (splitMark mark text).2 = none) :
    (splitMark mark text).1 = text ∧ mark ∉ text := by
  rw [splitMark] at h ⊢
  split at h
  · rename_i hdrop
    refine ⟨rfl, ?_⟩
    intro hmem
    have hne := List.dropWhile_eq_nil_iff.mp hdrop mark hmem
    rw [bne_self_eq_false] at hne
    cases hne
  · cases h

/-! ## Whole addresses

The parts put together, in the order in which the parser finds them. -/

theorem splitScheme_web {scheme : String} {port : UInt16} (h : schemeKind scheme = .web port)
    (rest : List Char) : splitScheme (scheme.toList ++ ':' :: rest) = some (scheme, rest) := by
  unfold schemeKind at h
  split at h
  · rfl
  · rfl
  · rfl
  · rfl
  · rfl
  · cases h
  · cases h

/-- Behind two slashes stands an authority, and its path behind the next one. More slashes would be
passed over as well, so the authority must not be empty. -/
theorem readRest_web {port : UInt16} {who : List Char} {a : Authority} (hne : who ≠ [])
    (hwho : ∀ c ∈ who, endsAuthority (.web port) c = false)
    (hread : readAuthority (.web port) who = .ok (a, [])) (path : List Char) :
    readRest (.web port) ('/' :: '/' :: (who ++ '/' :: path)) =
      .ok (some a, .segments (PathRules.web.resolved path)) := by
  -- the two slashes are passed over, up to the first character of the authority
  have hslashes : ('/' :: '/' :: (who ++ '/' :: path)).dropWhile (endsAuthority (.web port)) =
      who ++ '/' :: path := by
    obtain ⟨c, cs, rfl⟩ := List.exists_cons_of_ne_nil hne
    rw [List.dropWhile_cons_of_pos (by rfl), List.dropWhile_cons_of_pos (by rfl),
      List.cons_append, List.dropWhile_cons_of_neg]
    rw [hwho c (List.mem_cons_self ..)]
    exact Bool.false_ne_true
  have hinside : ∀ c ∈ who, (!endsAuthority (.web port) c) = true := by
    intro c hc
    rw [hwho c hc, Bool.not_false]
  have hslash : ¬(!endsAuthority (.web port) '/') = true := Bool.false_ne_true
  have htake : (who ++ '/' :: path).takeWhile (!endsAuthority (.web port) ·) = who := by
    rw [List.takeWhile_append_of_pos hinside, List.takeWhile_cons, if_neg hslash, List.append_nil]
  have hdrop : (who ++ '/' :: path).dropWhile (!endsAuthority (.web port) ·) = '/' :: path := by
    rw [List.dropWhile_append_of_pos hinside, List.dropWhile_cons, if_neg hslash]
  rw [readRest, hslashes, readAddressed, htake, hread, hdrop]
  rfl

/-- The five web schemes have ordinary names. -/
theorem isSolid_scheme {scheme : String} {port : UInt16} (h : schemeKind scheme = .web port) :
    ∀ c ∈ scheme.toList, isSolid c = true := by
  unfold schemeKind at h
  split at h
  · decide
  · decide
  · decide
  · decide
  · decide
  · cases h
  · cases h

theorem isSolid_iff {c : Char} : isSolid c = true ↔ isOuterBlank c = false ∧ c ≠ '?' ∧ c ≠ '#' := by
  rw [isSolid, Bool.and_eq_true, Bool.and_eq_true, Bool.not_eq_true', bne_iff_ne, bne_iff_ne,
    and_assoc]

/-- **The beginning of a URL is parsed on its own.** Whatever follows the slash behind the host, the
scheme and the authority are the ones that stand in front of it. -/
theorem parse_web {scheme : String} {port : UInt16} (hscheme : schemeKind scheme = .web port)
    {who : List Char} {a : Authority} (hne : who ≠ [])
    (hwho : ∀ c ∈ who, isSolid c = true ∧ endsAuthority (.web port) c = false)
    (hread : readAuthority (.web port) who = .ok (a, [])) {path : List Char}
    (hpath : ∀ c ∈ path, isSolid c = true) (tail : List Char) :
    Url.parse (scheme.toList ++ ':' :: '/' :: '/' :: (who ++ '/' :: (path ++ tail))) =
      .ok
        { scheme := scheme
          authority := some a
          path := .segments (PathRules.web.resolved
            (path ++ (splitMark '?' (splitMark '#' (readable tail)).1).1))
          query := (splitMark '?' (splitMark '#' (readable tail)).1).2.map
            (percentEncode codedInSpecialQuery)
          fragment := (splitMark '#' (readable tail)).2.map (percentEncode codedInFragment) } := by
  have hfront : ∀ c ∈ '/' :: '/' :: (who ++ '/' :: path), isSolid c = true := by
    intro c hc
    rw [List.mem_cons, List.mem_cons, List.mem_append, List.mem_cons] at hc
    rcases hc with rfl | rfl | hc | rfl | hc
    · rfl
    · rfl
    · exact (hwho c hc).1
    · rfl
    · exact hpath c hc
  have hblanks : withoutBlanks
      ((scheme.toList ++ ':' :: '/' :: '/' :: (who ++ '/' :: path)) ++ tail) =
      (scheme.toList ++ ':' :: '/' :: '/' :: (who ++ '/' :: path)) ++ readable tail := by
    apply withoutBlanks_append
    · exact List.append_ne_nil_of_right_ne_nil _ (List.cons_ne_nil _ _)
    · intro c hc
      rcases List.mem_append.mp hc with hc | hc
      · exact (isSolid_iff.mp (isSolid_scheme hscheme c hc)).1
      · rcases List.mem_cons.mp hc with rfl | hc
        · rfl
        · exact (isSolid_iff.mp (hfront c hc)).1
  -- neither mark is in front of the tail
  have hquestion : '?' ∉ '/' :: '/' :: (who ++ '/' :: path) := fun hmem =>
    (isSolid_iff.mp (hfront _ hmem)).2.1 rfl
  have hhash : '#' ∉ '/' :: '/' :: (who ++ '/' :: path) := fun hmem =>
    (isSolid_iff.mp (hfront _ hmem)).2.2 rfl
  have htext : scheme.toList ++ ':' :: '/' :: '/' :: (who ++ '/' :: (path ++ tail)) =
      (scheme.toList ++ ':' :: '/' :: '/' :: (who ++ '/' :: path)) ++ tail := by
    simp only [List.append_assoc, List.cons_append]
  rw [htext, Url.parse, hblanks, List.append_assoc, List.cons_append, splitScheme_web hscheme]
  dsimp only
  rw [hscheme, splitMark_append hhash]
  dsimp only
  rw [splitMark_append hquestion]
  dsimp only
  rw [List.cons_append, List.cons_append, List.append_assoc, List.cons_append,
    readRest_web hne (fun c hc => (hwho c hc).2) hread]
  rfl

end Rendezvous.Web
