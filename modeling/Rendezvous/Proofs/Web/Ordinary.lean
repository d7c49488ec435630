/-
URLs that are parsed as they are written.

An origin is a web scheme, a host of ordinary labels, and perhaps a port. Behind it come segments of
unreserved characters, and perhaps a query. Every step of the parser leaves such a URL alone, each
for a reason of its own: no label has the prefix of Punycode, and the last label begins with a
letter, so the host is a name and no number; the digits of a port end with the authority; no
character of a segment is encoded, separates segments or begins a query, and no segment is one dot
or two. What is parsed is therefore what was written, except that the default port of the scheme is
left out (`Origin.parse_text`).
-/
import Mathlib.Data.List.Induction
import Rendezvous.Proofs.Web.Address

set_option autoImplicit false

namespace Rendezvous.Web

/-! ## Unreserved characters

Those of RFC 3986. They are ASCII, so most facts about them are bounds on their numbers. -/

/-- A character that means itself wherever it stands behind an authority. -/
def isUnreserved (c : Char) : Bool :=
  c.isAlphanum || ['-', '_', '.', '~'].contains c

theorem isUnreserved_of_isDigit {c : Char} (h : c.isDigit = true) : isUnreserved c = true := by
  rw [isUnreserved, Char.isAlphanum, h, Bool.or_true, Bool.true_or]

theorem toNat_of_isAlphanum {c : Char} (h : c.isAlphanum = true) :
    48 ≤ c.toNat ∧ c.toNat ≤ 122 := by
  delta Char.isAlphanum Char.isAlpha at h
  rw [Bool.or_eq_true, Bool.or_eq_true] at h
  rcases h with (h | h) | h
  · delta Char.isUpper at h
    obtain ⟨hlow, hhigh⟩ : 65 ≤ c.toNat ∧ c.toNat ≤ 90 := of_decide_eq_true h
    omega
  · have hbounds := toNat_of_isLower h
    omega
  · obtain ⟨hlow, hhigh⟩ : 48 ≤ c.toNat ∧ c.toNat ≤ 57 := Char.isDigit_iff_toNat.mp h
    omega

theorem toNat_of_isUnreserved {c : Char} (h : isUnreserved c = true) :
    45 ≤ c.toNat ∧ c.toNat ≤ 126 := by
  rw [isUnreserved, Bool.or_eq_true, List.contains_iff_mem] at h
  rcases h with h | h
  · have hbounds := toNat_of_isAlphanum h
    omega
  · have hlist : ∀ d ∈ ['-', '_', '.', '~'], 45 ≤ d.toNat ∧ d.toNat ≤ 126 := by decide
    exact hlist c h

/-- An unreserved character is none that is not one. -/
theorem ne_of_isUnreserved {c d : Char} (h : isUnreserved c = true)
    (hd : isUnreserved d = false) : c ≠ d := by
  rintro rfl
  rw [h] at hd
  cases hd

theorem isSolid_of_isUnreserved {c : Char} (h : isUnreserved c = true) : isSolid c = true := by
  have hbounds := toNat_of_isUnreserved h
  rw [isSolid_iff, isOuterBlank, decide_eq_false_iff_not]
  exact ⟨by omega, ne_of_isUnreserved h (by decide), ne_of_isUnreserved h (by decide)⟩

/-- An unreserved character is not in a set of characters to encode that adds none of them. -/
theorem not_coded_of_isUnreserved {c : Char} (h : isUnreserved c = true) {others : List Char}
    (hothers : ∀ d ∈ others, isUnreserved d = false) :
    (codedAnywhere c || others.contains c) = false := by
  have hbounds := toNat_of_isUnreserved h
  rw [codedAnywhere, Bool.or_eq_false_iff, Bool.or_eq_false_iff, decide_eq_false_iff_not,
    decide_eq_false_iff_not, ← Bool.not_eq_true, List.contains_iff_mem]
  refine ⟨⟨by omega, by omega⟩, ?_⟩
  intro hmem
  exact ne_of_isUnreserved h (hothers c hmem) rfl

theorem codedInPath_of_isUnreserved {c : Char} (h : isUnreserved c = true) :
    codedInPath c = false := by
  have hrest : c ∉ ['#', '?', '\x7B', '\x7D'] := fun hmem =>
    ne_of_isUnreserved h ((by decide : ∀ d ∈ ['#', '?', '\x7B', '\x7D'],
      isUnreserved d = false) c hmem) rfl
  rw [codedInPath, codedInFragment, not_coded_of_isUnreserved h (by decide), Bool.false_or,
    ← Bool.not_eq_true, List.contains_iff_mem]
  exact hrest

theorem codedInSpecialQuery_of_isUnreserved {c : Char} (h : isUnreserved c = true) :
    codedInSpecialQuery c = false := by
  rw [codedInSpecialQuery, codedInQuery, not_coded_of_isUnreserved h (by decide), Bool.false_or,
    beq_eq_false_iff_ne]
  exact ne_of_isUnreserved h (by decide)

/-! ## Segments

A segment is ordinary if it comes through splitting, encoding and dot segments unchanged. -/

/-- An ordinary segment: unreserved characters, at least one, and not a dot segment. -/
structure IsSegment (text : List Char) : Prop where
  nonempty : text ≠ []
  chars : ∀ c ∈ text, isUnreserved c = true
  notDot : text ≠ ['.']
  notDots : text ≠ ['.', '.']

namespace IsSegment

instance (text : List Char) : Decidable (IsSegment text) :=
  decidable_of_iff (text ≠ [] ∧ (∀ c ∈ text, isUnreserved c = true) ∧ text ≠ ['.'] ∧
      text ≠ ['.', '.'])
    ⟨fun h => ⟨h.1, h.2.1, h.2.2.1, h.2.2.2⟩, fun h => ⟨h.nonempty, h.chars, h.notDot, h.notDots⟩⟩

variable {text : List Char}

theorem not_mem (h : IsSegment text) {c : Char} (hc : isUnreserved c = false) : c ∉ text :=
  fun hmem => ne_of_isUnreserved (h.chars c hmem) hc rfl

theorem not_separates (h : IsSegment text) : ∀ c ∈ text, PathRules.web.separates c = false := by
  intro c hc
  rw [PathRules.separates, Bool.or_eq_false_iff, Bool.and_eq_false_iff, beq_eq_false_iff_ne,
    beq_eq_false_iff_ne]
  exact ⟨ne_of_isUnreserved (h.chars c hc) (by decide),
    .inr (ne_of_isUnreserved (h.chars c hc) (by decide))⟩

theorem percentEncode_eq (h : IsSegment text) : percentEncode codedInPath text = text :=
  percentEncode_of_forall fun c hc => codedInPath_of_isUnreserved (h.chars c hc)

theorem keeps (h : IsSegment text) : Keeps (percentEncode codedInPath text) := by
  rw [keeps_percentEncode_iff (codeFree_of_not_mem (h.not_mem (by decide)))]
  exact ⟨h.notDot, h.notDots⟩

end IsSegment

/-- What stands in front of the first slash is the first piece of a path. -/
theorem split_append_slashed {text : List Char} {segments : List (List Char)}
    (htext : ∀ c ∈ text, PathRules.web.separates c = false)
    (h : ∀ s ∈ segments, ∀ c ∈ s, PathRules.web.separates c = false) :
    PathRules.web.split (text ++ slashed segments) = text :: segments := by
  -- any piece may stand in front, for the next segment stands in front of the others
  induction segments generalizing text with
  | nil =>
    have hnil : text ++ slashed [] = text := List.append_nil text
    rw [hnil, PathRules.split_of_forall htext]
  | cons s segments ih =>
    have hcons : slashed (s :: segments) = '/' :: (s ++ slashed segments) := rfl
    rw [hcons, PathRules.split_append_cons (by rfl), PathRules.split_of_forall htext,
      ih (h s List.mem_cons_self) fun t ht => h t (List.mem_cons_of_mem _ ht),
      List.singleton_append]

/-- **Ordinary segments are the segments of their path.** None of them is a dot segment, so none is
resolved away, and none has a character that is encoded. -/
theorem resolved_append_slashed {text : List Char} {segments : List (List Char)}
    (htext : IsSegment text) (h : ∀ s ∈ segments, IsSegment s) :
    PathRules.web.resolved (text ++ slashed segments) = text :: segments := by
  have hsplit := split_append_slashed htext.not_separates fun s hs => (h s hs).not_separates
  have hall : ∀ s ∈ text :: segments, IsSegment s := by
    intro s hs
    rcases List.mem_cons.mp hs with rfl | hs
    · exact htext
    · exact h s hs
  rw [PathRules.resolved_of_forall, hsplit,
    List.map_congr_left fun s hs => (hall s hs).percentEncode_eq, List.map_id']
  rw [hsplit]
  exact fun s hs => (hall s hs).keeps

/-- Characters of a path are slashes and characters of its segments. -/
theorem mem_slashed {segments : List (List Char)} {c : Char} (h : c ∈ slashed segments) :
    c = '/' ∨ ∃ s ∈ segments, c ∈ s := by
  obtain ⟨s, hs, hc⟩ := List.mem_flatMap.mp h
  rcases List.mem_cons.mp hc with rfl | hc
  · exact .inl rfl
  · exact .inr ⟨s, hs, hc⟩

theorem isSolid_slashed {segments : List (List Char)} (h : ∀ s ∈ segments, IsSegment s) :
    ∀ c ∈ slashed segments, isSolid c = true := by
  intro c hc
  rcases mem_slashed hc with rfl | ⟨s, hs, hc⟩
  · rfl
  · exact isSolid_of_isUnreserved ((h s hs).chars c hc)

/-! ## Hosts

Labels are described one by one, and joined to a name with points. -/

/-- A character of an ordinary label. -/
def isLabelChar (c : Char) : Bool :=
  c.isLower || c.isDigit || c == '-'

/-- An ordinary label of a host: it begins with a small letter and does not have the prefix of
Punycode, `xn--`. -/
structure IsLabel (label : List Char) : Prop where
  first : label.head?.any Char.isLower = true
  chars : ∀ c ∈ label, isLabelChar c = true
  unmarked : ¬"xn--".toList <+: label

instance (label : List Char) : Decidable (IsLabel label) :=
  decidable_of_iff (label.head?.any Char.isLower = true ∧
      (∀ c ∈ label, isLabelChar c = true) ∧ ¬"xn--".toList <+: label)
    ⟨fun h => ⟨h.1, h.2.1, h.2.2⟩, fun h => ⟨h.first, h.chars, h.unmarked⟩⟩

theorem IsLabel.exists_cons {label : List Char} (h : IsLabel label) :
    ∃ c cs, label = c :: cs ∧ c.isLower = true := by
  cases label with
  | nil => cases h.first
  | cons c cs => exact ⟨c, cs, rfl, h.first⟩

theorem isNameChar_of_isLabelChar {c : Char} (h : isLabelChar c = true) : isNameChar c = true := by
  rw [isLabelChar] at h
  rw [isNameChar, h, Bool.true_or]

theorem IsLabel.not_isMarked {label : List Char} (h : IsLabel label) :
    Domain.isMarked label = false := by
  have hlower : (label.take 4).map Char.toLower = (label.take 4).map id :=
    List.map_congr_left fun c hc =>
      toLower_of_isNameChar (isNameChar_of_isLabelChar (h.chars c (List.mem_of_mem_take hc)))
  rw [Domain.isMarked, decide_eq_false_iff_not, hlower, List.map_id]
  intro hmark
  apply h.unmarked
  rw [List.prefix_iff_eq_take]
  exact hmark.symm

/-- A small letter is no decimal digit, though it may be one in base 16. The test for IPv4 addresses
reads numbers in three bases, and an ordinary label is none in any. -/
theorem le_of_hexValue?_lower {c : Char} (h : c.isLower = true) {d : Nat}
    (hd : Text.hexValue? c = some d) : 10 ≤ d := by
  have hbounds := toNat_of_isLower h
  rw [Text.hexValue?] at hd
  split at hd
  · rename_i hdigit
    have hle : c.toNat ≤ 57 := hdigit.2
    omega
  · split at hd
    · rw [← Option.some.inj hd]
      omega
    · split at hd
      · rename_i hupper
        have hle : c.toNat ≤ 70 := hupper.2
        omega
      · cases hd

/-- A text whose first character is no digit of a base is no number of that base. -/
theorem number?_cons_eq_none {base : Nat} {c : Char}
    (hc : ∀ d, Text.hexValue? c = some d → base ≤ d) (cs : List Char) :
    Text.number? base (c :: cs) = none := by
  -- a number is read with one digit more at the end, so this is where the text grows
  induction cs using List.reverseRecOn with
  | nil =>
    rw [← List.nil_append [c], Text.number?_append_singleton]
    cases hvalue : Text.hexValue? c with
    | none => rfl
    | some d => exact if_neg (Nat.not_lt.mpr (hc d hvalue))
  | append_singleton cs d ih =>
    rw [← List.cons_append, Text.number?_append_singleton, ih, Option.bind_none]

/-- A label is no number, since it begins with a letter. A host whose last label is a number would
be parsed as an IPv4 address. -/
theorem IsLabel.not_number {label : List Char} (h : IsLabel label) :
    (!label.isEmpty && label.all Char.isDigit || (ipv4Number? label).isSome) = false := by
  -- its first character is a letter, which no decimal, octal or hexadecimal number starts with
  obtain ⟨c, cs, rfl, hc⟩ := h.exists_cons
  have hdigit : c.isDigit = false := by
    rw [← Bool.not_eq_true]
    intro hdigit
    have hlow := (toNat_of_isLower hc).1
    have hhigh : c.toNat ≤ 57 := (Char.isDigit_iff_toNat.mp hdigit).2
    omega
  have hzero : c ≠ '0' := by
    rintro rfl
    cases hdigit
  have hnone : ipv4Number? (c :: cs) = none := by
    have hnumber := number?_cons_eq_none (fun d => le_of_hexValue?_lower hc) cs
    unfold ipv4Number?
    split
    · rfl
    · exact absurd (List.cons.inj ‹_›).1 hzero
    · exact absurd (List.cons.inj ‹_›).1 hzero
    · exact absurd (List.cons.inj ‹_›).1 hzero
    · exact hnumber
  rw [hnone, List.all_cons, hdigit, Bool.false_and, Bool.and_false]
  rfl

/-- **Ordinary labels make a host name.** Each part of the test for a name is about the characters
or about the last label, and both are read off the labels. -/
theorem isName_of_labels {labels : List (List Char)} (hne : labels ≠ [])
    (h : ∀ label ∈ labels, IsLabel label) : IsName (['.'].intercalate labels) := by
  -- no label has a point in it
  have hparts : Text.splitAt '.' (['.'].intercalate labels) = labels := by
    apply Text.splitAt_intercalate hne
    intro label hlabel hmem
    exact absurd ((h label hlabel).chars '.' hmem) (by decide)
  have hnil : [] ∉ labels := by
    intro hmem
    obtain ⟨c, cs, hcons, -⟩ := (h [] hmem).exists_cons
    cases hcons
  refine ⟨?_, ?_, ?_, ?_⟩
  · -- nothing would be one part, and an empty one
    intro hempty
    rw [hempty] at hparts
    apply hnil
    rw [← hparts]
    exact List.mem_cons_self
  · intro c hc
    rcases Text.mem_intercalate hc with rfl | ⟨label, hlabel, hc⟩
    · rfl
    · exact isNameChar_of_isLabelChar ((h label hlabel).chars c hc)
  · rw [hparts, List.any_eq_false]
    intro label hlabel
    rw [(h label hlabel).not_isMarked]
    exact Bool.false_ne_true
  · have hlast : labels.getLast? ≠ some [] := fun heq => hnil (List.mem_of_getLast? heq)
    rw [endsInNumber, domainParts, hparts, if_neg hlast]
    cases heq : labels.getLast? with
    | none => rfl
    | some label => exact (h label (List.mem_of_getLast? heq)).not_number

/-! ## Ports

Digits with a value below 65536, with any number of zeros in front. -/

/-- A port as it is written. -/
structure IsPort (digits : List Char) : Prop where
  nonempty : digits ≠ []
  chars : ∀ c ∈ digits, c.isDigit = true
  bound : Decimal.value digits < 65536

instance (digits : List Char) : Decidable (IsPort digits) :=
  decidable_of_iff (digits ≠ [] ∧ (∀ c ∈ digits, c.isDigit = true) ∧ Decimal.value digits < 65536)
    ⟨fun h => ⟨h.1, h.2.1, h.2.2⟩, fun h => ⟨h.nonempty, h.chars, h.bound⟩⟩

theorem IsPort.not_mem {digits : List Char} (h : IsPort digits) {c : Char}
    (hc : c.isDigit = false) : c ∉ digits := by
  intro hmem
  rw [h.chars c hmem] at hc
  cases hc

/-- A port is parsed as its number, and dropped if it is the default of the scheme. Leading zeros
are allowed, so the number is compared and not the text. -/
theorem readPort_digits {digits : List Char} (h : IsPort digits) (port : UInt16) :
    readPort (.web port) (':' :: digits) =
      .ok ((some (UInt16.ofNat (Decimal.value digits))).filter (· != port), []) := by
  have hinside : ∀ c ∈ digits, (c != '\\') = true := by
    intro c hc
    rw [bne_iff_ne]
    rintro rfl
    exact h.not_mem (by decide) hc
  have htake : digits.takeWhile (· != '\\') = digits := List.takeWhile_eq_self_iff.mpr hinside
  have hdrop : digits.dropWhile (· != '\\') = [] := List.dropWhile_eq_nil_iff.mpr hinside
  have hnumber : portNumber? digits = .ok (some (UInt16.ofNat (Decimal.value digits))) := by
    rw [portNumber?, if_neg (by rw [List.isEmpty_iff]; exact h.nonempty),
      if_pos ⟨List.all_eq_true.mpr h.chars, h.bound⟩]
  rw [readPort, htake, hdrop, hnumber]
  dsimp only
  rw [SchemeKind.defaultPort]
  -- the default port of the scheme is not shown, any other is
  by_cases heq : UInt16.ofNat (Decimal.value digits) = port
  · have hsame : (UInt16.ofNat (Decimal.value digits) != port) = false := by
      rw [heq, bne_self_eq_false]
    rw [if_pos (congrArg some heq), Option.filter, hsame, if_neg Bool.false_ne_true]
  · have hother : (UInt16.ofNat (Decimal.value digits) != port) = true := bne_iff_ne.mpr heq
    rw [if_neg fun hsome => heq (Option.some.inj hsome), Option.filter, hother, if_pos rfl]

/-! ## Origins

`http` and `https`, which are the schemes that the program's requests can go to. -/

/-- The schemes that an origin may have. -/
inductive WebScheme
  | http
  | https
deriving DecidableEq

namespace WebScheme

def name : WebScheme → String
  | http => "http"
  | https => "https"

/-- The default port. -/
def port : WebScheme → UInt16
  | http => 80
  | https => 443

theorem schemeKind_name (scheme : WebScheme) : schemeKind scheme.name = .web scheme.port := by
  cases scheme with
  | http => rfl
  | https => rfl

end WebScheme

/-- An origin as it is written: a scheme, the labels of a host, and perhaps the digits of a port. -/
structure Origin where
  scheme : WebScheme
  labels : List (List Char)
  port : Option (List Char)
  labels_ne_nil : labels ≠ []
  isLabel : ∀ label ∈ labels, IsLabel label
  isPort : ∀ digits ∈ port, IsPort digits

namespace Origin

variable (o : Origin)

/-- The labels with points between them. -/
def host : List Char :=
  ['.'].intercalate o.labels

/-- What stands behind the slashes of the scheme. -/
def who : List Char :=
  o.host ++ marked ':' o.port

def text : List Char :=
  o.scheme.name.toList ++ ':' :: '/' :: '/' :: o.who

/-- The port, unless it is the default of the scheme. -/
def keptPort : Option UInt16 :=
  (o.port.map fun digits => UInt16.ofNat (Decimal.value digits)).filter (· != o.scheme.port)

/-- The authority that an origin is parsed to. -/
def authority : Authority :=
  ⟨[], [], .domain o.host, o.keptPort⟩

theorem isName_host : IsName o.host :=
  isName_of_labels o.labels_ne_nil o.isLabel

theorem who_ne_nil : o.who ≠ [] :=
  List.append_ne_nil_of_left_ne_nil o.isName_host.nonempty _

/-- An origin is made of the characters of names and a colon. -/
theorem mem_who {c : Char} (h : c ∈ o.who) : isNameChar c = true ∨ c = ':' := by
  rcases List.mem_append.mp h with h | h
  · exact .inl (o.isName_host.chars c h)
  · cases hport : o.port with
    | none =>
      rw [hport] at h
      cases h
    | some digits =>
      rw [hport] at h
      rcases List.mem_cons.mp h with rfl | h
      · exact .inr rfl
      · left
        rw [isNameChar, (o.isPort digits hport).chars c h, Bool.or_true, Bool.true_or, Bool.true_or]

theorem isSolid_who {c : Char} (h : c ∈ o.who) :
    isSolid c = true ∧ ∀ port, endsAuthority (.web port) c = false := by
  rcases o.mem_who h with hc | rfl
  · have hbounds := toNat_of_isNameChar hc
    rw [isSolid_iff, isOuterBlank, decide_eq_false_iff_not]
    refine ⟨⟨by omega, ne_of_isNameChar hc (by decide), ne_of_isNameChar hc (by decide)⟩, ?_⟩
    intro port
    rw [endsAuthority, Bool.or_eq_false_iff, Bool.and_eq_false_iff, beq_eq_false_iff_ne,
      beq_eq_false_iff_ne]
    exact ⟨ne_of_isNameChar hc (by decide), .inr (ne_of_isNameChar hc (by decide))⟩
  · exact ⟨rfl, fun _ => rfl⟩

/-- **An origin is parsed as its host and its port.** With a port there is a colon behind the name,
and without one there is nothing; both go through the lemma about names. -/
theorem readAuthority_who :
    readAuthority (.web o.scheme.port) o.who = .ok (o.authority, []) := by
  rw [who, authority, keptPort]
  cases hport : o.port with
  | none => exact readAuthority_name_append o.isName_host List.not_mem_nil nofun rfl
  | some digits =>
    have hdigits := o.isPort digits hport
    apply readAuthority_name_append o.isName_host
    · intro hmem
      rcases List.mem_cons.mp hmem with hcolon | hmem
      · cases hcolon
      · exact hdigits.not_mem (by decide) hmem
    · exact fun c hc => (Option.some.inj hc).symm
    · exact readPort_digits hdigits o.scheme.port

/-- **An ordinary URL is parsed as it is written.** Nothing is escaped, lowered, resolved or
dropped, since every part is made of characters that the parser keeps. -/
theorem parse_text {segments : List (List Char)} (hne : segments ≠ [])
    (hsegments : ∀ s ∈ segments, IsSegment s) {query : Option (List Char)}
    (hquery : ∀ q ∈ query, ∀ c ∈ q, isSolid c = true ∧ codedInSpecialQuery c = false) :
    Url.parse (o.text ++ (slashed segments ++ marked '?' query)) =
      .ok ⟨o.scheme.name, some o.authority, .segments segments, query, none⟩ := by
  obtain ⟨first, rest, rfl⟩ := List.exists_cons_of_ne_nil hne
  have hfirst := hsegments first List.mem_cons_self
  have hrest : ∀ s ∈ rest, IsSegment s := fun s hs => hsegments s (List.mem_cons_of_mem _ hs)
  have htext : o.text ++ (slashed (first :: rest) ++ marked '?' query) =
      o.scheme.name.toList ++ ':' :: '/' :: '/' :: (o.who ++ '/' ::
        ((first ++ slashed rest) ++ marked '?' query)) := by
    have hcons : slashed (first :: rest) = '/' :: (first ++ slashed rest) := rfl
    rw [text, hcons, List.append_assoc, List.cons_append, List.cons_append, List.cons_append,
      List.cons_append]
  have hsolid : ∀ c ∈ first ++ slashed rest, isSolid c = true := by
    intro c hc
    rcases List.mem_append.mp hc with hc | hc
    · exact isSolid_of_isUnreserved (hfirst.chars c hc)
    · exact isSolid_slashed hrest c hc
  have hparse := @parse_web _ _ o.scheme.schemeKind_name o.who _ o.who_ne_nil
    (fun c hc => ⟨(o.isSolid_who hc).1, (o.isSolid_who hc).2 _⟩) o.readAuthority_who _ hsolid
  rw [htext, hparse]
  cases query with
  | none =>
    have hmarks : splitMark '?' (splitMark '#' (readable (marked '?' none))).1 = ([], none) ∧
        (splitMark '#' (readable (marked '?' none))).2 = none := ⟨rfl, rfl⟩
    rw [hmarks.1, hmarks.2, List.append_nil, resolved_append_slashed hfirst hrest]
    rfl
  | some q =>
    -- the query is the tail: nothing of it is lost, and no number sign ends it
    have hq := hquery q rfl
    have hread : readable ('?' :: q) = '?' :: q := by
      apply readable_of_forall
      intro c hc
      rcases List.mem_cons.mp hc with rfl | hc
      · rfl
      · exact (isSolid_iff.mp (hq c hc).1).1
    have hhash : splitMark '#' ('?' :: q) = ('?' :: q, none) := by
      apply splitMark_of_not_mem
      intro hmem
      rcases List.mem_cons.mp hmem with hmark | hmem
      · cases hmark
      · exact (isSolid_iff.mp (hq _ hmem).1).2.2 rfl
    have hquestion : splitMark '?' ('?' :: q) = ([], some q) := rfl
    have hcode : percentEncode codedInSpecialQuery q = q :=
      percentEncode_of_forall fun c hc => (hq c hc).2
    rw [marked, hread, hhash]
    dsimp only
    rw [hquestion, List.append_nil, resolved_append_slashed hfirst hrest, Option.map_some, hcode]
    rfl

end Origin

end Rendezvous.Web
