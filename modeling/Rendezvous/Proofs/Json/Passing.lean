/-
Any value is skipped, however it is written.

The value of an unknown member is read as `IgnoredAny`: it is checked against the grammar and
dropped. Nothing that the grammar allows is refused: strings with any escapes, numbers of any size,
brackets of any depth.

`serde_json` does not skip brackets by a call for each of them but keeps a stack. What a value
leaves behind is the brackets around it, so the statement that goes through the document is about a
value inside of brackets, and asserts that after it everything goes on as after any value (`goOn`).
-/
import Rendezvous.Proofs.Json.Document

set_option autoImplicit false

namespace Rendezvous.Json

/-! ## Strings

A string that is skipped need not have a text: halves of surrogate pairs are not paired up. -/

theorem readHex_of_isSome {b₁ b₂ b₃ b₄ : UInt8} (h : (hexValue? b₁ b₂ b₃ b₄).isSome = true)
    (s : List UInt8) :
    ∃ n, hexValue? b₁ b₂ b₃ b₄ = some n ∧ readHex (b₁ :: b₂ :: b₃ :: b₄ :: s) = .ok (n, s) := by
  obtain ⟨n, hn⟩ := Option.isSome_iff_exists.mp h
  exact ⟨n, hn, by rw [readHex, hn]⟩

/-- An escape that is skipped leaves nothing behind. -/
theorem skipString_escape {s r : List UInt8} (h : skipEscape s = .ok r) :
    skipString (ascii '\\' :: s) = skipString r := by
  rw [skipString, if_neg (by decide), if_pos rfl]
  split
  · rename_i heq
    cases h.symm.trans heq
  · rename_i heq
    rw [Except.ok.inj (h.symm.trans heq)]

/-- Bytes that stand for themselves. -/
theorem skipString_bytes {bs : List UInt8} (hbs : ∀ b ∈ bs,
      b ≠ ascii '"' ∧ b ≠ ascii '\\' ∧ ¬ b < 0x20) (s : List UInt8) :
    skipString (bs ++ s) = skipString s := by
  induction bs with
  | nil => rfl
  | cons b bs ih =>
    obtain ⟨hquote, hslash, hcontrol⟩ := hbs b (List.mem_cons_self ..)
    rw [List.cons_append, skipString, if_neg hquote, if_neg hslash, if_neg hcontrol,
      ih fun b' hb' => hbs b' (List.mem_cons_of_mem b hb')]

/-- A part of a string. -/
theorem skipString_piece (p : Piece) (s : List UInt8) :
    skipString (p.bytes ++ s) = skipString s := by
  cases p with
  | plain c h =>
    obtain ⟨hquote, hslash, hcontrol⟩ := h
    exact skipString_bytes (fun b hb => plain_of_mem_encodeChar hquote hslash hcontrol hb) s
  | letter b h =>
    have hskip : skipEscape (b :: s) = .ok s := by rw [skipEscape, if_pos h]
    exact skipString_escape hskip
  | code b₁ b₂ b₃ b₄ h =>
    obtain ⟨n, _, hread⟩ := readHex_of_isSome h s
    have hletter : ¬ (letterEscape? (ascii 'u')).isSome = true := by decide
    have hskip : skipEscape (ascii 'u' :: b₁ :: b₂ :: b₃ :: b₄ :: s) = .ok s := by
      rw [skipEscape, if_neg hletter, if_pos rfl, hread]
    exact skipString_escape hskip

/-- **Any string is passed over.** -/
theorem skipString_pieces (ps : List Piece) (s : List UInt8) :
    skipString (pieceBytes ps ++ ascii '"' :: s) = .ok s := by
  induction ps with
  | nil => rw [pieceBytes, List.flatMap_nil, List.nil_append, skipString, if_pos rfl]
  | cons p ps ih =>
    rw [pieceBytes, List.flatMap_cons, List.append_assoc, skipString_piece]
    exact ih

/-! ## Numbers -/

/-- What keeps apart from a value is nothing that a number could go on with. -/
theorem Apart.cases {s : List UInt8} (h : Apart s) :
    s = [] ∨ ∃ b r, s = b :: r ∧ digit? b = none ∧ b ≠ ascii '.' ∧ isExponentMark b = false ∧
      b ≠ ascii '+' ∧ b ≠ ascii '-' := by
  have hsep : ∀ b ∈ separators, digit? b = none ∧ b ≠ ascii '.' ∧ isExponentMark b = false ∧
      b ≠ ascii '+' ∧ b ≠ ascii '-' := by decide +kernel
  rcases h with rfl | ⟨b, r, rfl, hb⟩
  · exact .inl rfl
  · exact .inr ⟨b, r, rfl, hsep b hb⟩

theorem startsWithDigit_of_apart {s : List UInt8} (h : Apart s) : startsWithDigit s = false := by
  rcases h.cases with rfl | ⟨b, r, rfl, hb, -⟩
  · rfl
  · rw [startsWithDigit, hb]
    rfl

theorem skipDigits_digitBytes (ds : List (Fin 10)) (count : Nat) {s : List UInt8}
    (hs : startsWithDigit s = false) :
    skipDigits count (digitBytes ds ++ s) = (count + ds.length, s) := by
  induction ds generalizing count with
  | nil =>
    cases s with
    | nil => rfl
    | cons b s =>
      have hb : (digit? b).isSome = false := hs
      show skipDigits count (b :: s) = _
      rw [skipDigits, hb, if_neg Bool.false_ne_true]
      rfl
  | cons d ds ih =>
    have hd : (digit? (digitByte d)).isSome = true := by rw [digit?_digitByte]; rfl
    show skipDigits count (digitByte d :: (digitBytes ds ++ s)) = _
    rw [skipDigits, if_pos hd, ih, List.length_cons, Nat.add_assoc, Nat.add_comm 1]

/-- The exponent of a number is in front. -/
theorem exponentSign_signBytes (sign : Option Bool) (d : Fin 10) (s : List UInt8) :
    exponentSign (signBytes sign ++ digitByte d :: s) = (sign.getD false, digitByte d :: s) := by
  have hplus : digitByte d ≠ ascii '+' := digitByte_ne d (by decide)
  have hminus : digitByte d ≠ ascii '-' := digitByte_ne d (by decide)
  rcases sign with _ | _ | _
  · show exponentSign (digitByte d :: s) = _
    rw [exponentSign, if_neg hplus, if_neg hminus]
    rfl
  · rfl
  · rfl

/-- The exponent of a number, behind its mark. -/
theorem skipExponent_bytes (e : Exponent) {s : List UInt8} (hs : Apart s) :
    skipExponent (signBytes e.sign ++ (digitBytes (e.first :: e.rest) ++ s)) = .ok s := by
  have hsign := exponentSign_signBytes e.sign e.first (digitBytes e.rest ++ s)
  have hd : (digit? (digitByte e.first)).isSome = true := by rw [digit?_digitByte]; rfl
  show skipExponent (signBytes e.sign ++ digitByte e.first :: (digitBytes e.rest ++ s)) = _
  rw [skipExponent, hsign]
  dsimp only
  rw [if_pos hd, skipDigits_digitBytes _ _ (startsWithDigit_of_apart hs)]

theorem isExponentMark_mark (capital : Bool) :
    isExponentMark (ascii (if capital then 'E' else 'e')) = true := by
  cases capital with
  | true => decide
  | false => decide

/-- What comes behind the digits of a number does not go on with a digit. -/
theorem startsWithDigit_exponentBytes (e : Option Exponent) {s : List UInt8} (hs : Apart s) :
    startsWithDigit (Numeral.exponentBytes e ++ s) = false := by
  cases e with
  | none => exact startsWithDigit_of_apart hs
  | some e =>
    obtain ⟨capital, sign, d, ds⟩ := e
    cases capital with
    | true => rfl
    | false => rfl

theorem startsWithDigit_placesBytes (p : Option (Fin 10 × List (Fin 10))) {s : List UInt8}
    (hs : startsWithDigit s = false) : startsWithDigit (Numeral.placesBytes p ++ s) = false := by
  cases p with
  | none => exact hs
  | some p => rfl

theorem skipPlaces_bytes (d : Fin 10) (ds : List (Fin 10)) (e : Option Exponent)
    {s : List UInt8} (hs : Apart s) :
    skipPlaces (digitBytes (d :: ds) ++ (Numeral.exponentBytes e ++ s)) = .ok s := by
  rw [skipPlaces, skipDigits_digitBytes _ _ (startsWithDigit_exponentBytes e hs), Nat.zero_add,
    List.length_cons]
  cases e with
  | none =>
    rcases hs.cases with rfl | ⟨b, r, rfl, _, _, hmark, _⟩
    · rfl
    · show (if isExponentMark b then skipExponent r else .ok (b :: r)) = _
      rw [hmark, if_neg Bool.false_ne_true]
  | some e =>
    show (if isExponentMark (ascii (if e.capital then 'E' else 'e')) then
      skipExponent (signBytes e.sign ++ digitBytes (e.first :: e.rest) ++ s) else _) = _
    rw [if_pos (isExponentMark_mark e.capital), List.append_assoc, skipExponent_bytes e hs]

/-- Places and an exponent, if there are any. What follows must be apart from the number, since a
digit behind it would be passed over as well. -/
theorem skipAfterDigits_bytes (p : Option (Fin 10 × List (Fin 10))) (e : Option Exponent)
    {s : List UInt8} (hs : Apart s) :
    skipAfterDigits (Numeral.placesBytes p ++ (Numeral.exponentBytes e ++ s)) = .ok s := by
  rcases p with _ | ⟨d, ds⟩
  · cases e with
    | none =>
      -- no point and no exponent: what stands behind the number must not look like either
      rcases hs.cases with rfl | ⟨b, r, rfl, _, hpoint, hmark, _⟩
      · rfl
      · show skipAfterDigits (b :: r) = _
        rw [skipAfterDigits, if_neg hpoint, hmark, if_neg Bool.false_ne_true]
    | some e =>
      -- no point, so the mark of the exponent is what comes next
      have hpoint : ascii (if e.capital then 'E' else 'e') ≠ ascii '.' := by
        cases e.capital with
        | true => decide
        | false => decide
      show skipAfterDigits (ascii (if e.capital then 'E' else 'e') ::
        (signBytes e.sign ++ digitBytes (e.first :: e.rest) ++ s)) = _
      rw [skipAfterDigits, if_neg hpoint, if_pos (isExponentMark_mark e.capital),
        List.append_assoc, skipExponent_bytes e hs]
  · show skipAfterDigits (ascii '.' :: (digitBytes (d :: ds) ++ (Numeral.exponentBytes e ++ s))) = _
    rw [skipAfterDigits, if_pos rfl, skipPlaces_bytes d ds e hs]

theorem startsWithDigit_fraction (n : Numeral) {s : List UInt8} (hs : Apart s) :
    startsWithDigit (Numeral.placesBytes n.places ++ (Numeral.exponentBytes n.exponent ++ s)) =
      false :=
  startsWithDigit_placesBytes n.places (startsWithDigit_exponentBytes n.exponent hs)

/-- The digits before the point. -/
theorem skipUnsigned_wholeBytes (w : Option (Fin 9 × List (Fin 10))) {s : List UInt8}
    (hs : startsWithDigit s = false) :
    skipUnsigned (Numeral.wholeBytes w ++ s) = skipAfterDigits s := by
  rcases w with _ | ⟨d, ds⟩
  · have hzero : digit? (ascii '0') = some 0 := by decide
    show skipUnsigned (ascii '0' :: s) = _
    rw [skipUnsigned, hzero]
    show (if startsWithDigit s then _ else skipAfterDigits s) = _
    rw [hs, if_neg Bool.false_ne_true]
  · show skipUnsigned (digitByte d.succ :: (digitBytes ds ++ s)) = _
    rw [skipUnsigned, digit?_digitByte, Fin.val_succ]
    show skipAfterDigits (skipDigits 0 (digitBytes ds ++ s)).2 = _
    rw [skipDigits_digitBytes _ _ hs]

/-- **Any number is passed over**, behind its sign. -/
theorem skipUnsigned_bytes (n : Numeral) {s : List UInt8} (hs : Apart s) :
    skipUnsigned (n.unsignedBytes ++ s) = .ok s := by
  rw [Numeral.unsignedBytes, List.append_assoc, List.append_assoc,
    skipUnsigned_wholeBytes _ (startsWithDigit_fraction n hs), skipAfterDigits_bytes _ _ hs]

/-! ## Words -/

theorem readWord_letters (word : List Char) (s : List UInt8) :
    readWord word (letters word ++ s) = .ok s := by
  induction word with
  | nil => rfl
  | cons c word ih =>
    show readWord (c :: word) (ascii c :: (letters word ++ s)) = _
    rw [readWord, if_pos rfl, ih]

/-! ## Values without brackets -/

/-- A value that has no brackets. -/
def Doc.IsScalar : Doc → Prop
  | .list _ => False
  | .object _ => False
  | _ => True

theorem skipScalar_number (n : Numeral) {b : UInt8} {t s : List UInt8} (h : n.bytes = b :: t)
    (hs : Apart s) : skipScalar b (t ++ s) = .ok s := by
  rw [Numeral.bytes] at h
  cases hnegative : n.negative with
  | true =>
    rw [hnegative, if_pos rfl] at h
    obtain ⟨rfl, rfl⟩ := List.cons.inj h
    rw [skipScalar, if_neg (by decide), if_neg (by decide), if_neg (by decide),
      if_neg (by decide), if_pos rfl, skipUnsigned_bytes n hs]
  | false =>
    rw [hnegative, if_neg Bool.false_ne_true] at h
    -- a number without a sign starts with a digit, which is none of the bytes asked for before
    obtain ⟨d, t', heq⟩ := n.unsignedBytes_eq_cons
    obtain ⟨rfl, rfl⟩ := List.cons.inj (h.symm.trans heq)
    have hd : (digit? (digitByte d)).isSome = true := by rw [digit?_digitByte]; rfl
    have hother {b : UInt8} (hb : digit? b = none) : digitByte d ≠ b := digitByte_ne d hb
    rw [skipScalar, if_neg (hother (by decide)), if_neg (hother (by decide)),
      if_neg (hother (by decide)), if_neg (hother (by decide)), if_neg (hother (by decide)),
      if_pos hd, ← List.cons_append, ← heq, skipUnsigned_bytes n hs]

/-- A value without brackets is passed over. Brackets are excluded because the skipper counts them
and does not call itself, so they need another induction. -/
theorem skipScalar_of_isScalar {d : Doc} (hd : d.IsScalar) {b : UInt8} {t s : List UInt8}
    (h : d.Spells (b :: t)) (hs : Apart s) : skipScalar b (t ++ s) = .ok s := by
  -- the tests come in the order `null`, `true`, `false`, string, number
  rcases d with _ | c | n | ps | ds | ms
  case null =>
    obtain ⟨rfl, rfl⟩ := List.cons.inj (show b :: t = letters ['n', 'u', 'l', 'l'] from h)
    rw [skipScalar, if_pos rfl]
    exact readWord_letters ['u', 'l', 'l'] s
  case bool =>
    cases c with
    | true =>
      obtain ⟨rfl, rfl⟩ := List.cons.inj (show b :: t = letters ['t', 'r', 'u', 'e'] from h)
      rw [skipScalar, if_neg (by decide), if_pos rfl]
      exact readWord_letters ['r', 'u', 'e'] s
    | false =>
      obtain ⟨rfl, rfl⟩ := List.cons.inj (show b :: t = letters ['f', 'a', 'l', 's', 'e'] from h)
      rw [skipScalar, if_neg (by decide), if_neg (by decide), if_pos rfl]
      exact readWord_letters ['a', 'l', 's', 'e'] s
  case number => exact skipScalar_number n (show b :: t = n.bytes from h).symm hs
  case string =>
    obtain ⟨rfl, rfl⟩ := List.cons.inj (show b :: t = stringBytes ps from h)
    rw [skipScalar, if_neg (by decide), if_neg (by decide), if_neg (by decide), if_pos rfl,
      List.append_assoc]
    exact skipString_pieces ps s
  case list => exact hd.elim
  case object => exact hd.elim

/-! ## Brackets

The stack holds the brackets that are open, the innermost first. -/

/-- The byte that opens a bracket. -/
def Bracket.opening : Bracket → UInt8
  | .list => ascii '['
  | .object => ascii '\x7B'

/-- Skip the next value, if there are brackets that it stands in. -/
def onward : Except Fault (List Bracket × List UInt8) → Except Fault (List UInt8)
  | .error e => .error e
  | .ok ([], r) => .ok r
  | .ok (k :: outer, r) => skipValueIn (k :: outer) r

/-- What is done after a value inside of brackets: a comma leads to the next value, a closing
bracket to what comes after the value that it closes. -/
def goOn (brackets : List Bracket) (s : List UInt8) : Except Fault (List UInt8) :=
  onward (leave true brackets s)

/-- Passing over the first part of a value and what follows it. It is the equation of the loop, with
the blanks taken out of the way. -/
theorem skipValueIn_of_skipBlanks {brackets : List Bracket} {b : UInt8} {s r : List UInt8}
    (h : skipBlanks s = b :: r) : skipValueIn brackets s = onward (skipStart brackets b r) := by
  rw [skipValueIn]
  split
  · rename_i heq
    cases h.symm.trans heq
  · rename_i heq
    obtain ⟨rfl, rfl⟩ := List.cons.inj (h.symm.trans heq)
    split
    all_goals
      rename_i heq
      rw [heq, onward]

/-- A bracket is opened, behind blanks. -/
theorem skipValueIn_opening (k : Bracket) (outer : List Bracket) {e : List UInt8} (he : Blank e)
    (s : List UInt8) :
    skipValueIn outer (e ++ k.opening :: s) = onward (leave false (k :: outer) s) := by
  have hblank : isBlank k.opening = false := by cases k <;> decide
  rw [skipValueIn_of_skipBlanks (skipBlanks_append he _ ▸ skipBlanks_cons hblank s), skipStart]
  cases k with
  | list => rw [if_pos (by rfl)]
  | object => rw [if_neg (by decide), if_pos (by rfl)]

/-- The closing bracket, behind blanks. -/
theorem leave_closing (afterValue : Bool) (k : Bracket) (outer : List Bracket) {e : List UInt8}
    (he : Blank e) (s : List UInt8) :
    leave afterValue (k :: outer) (e ++ k.closing :: s) = leave true outer s := by
  have hcomma : k.closing ≠ ascii ',' := by cases k <;> decide
  have hblank : isBlank k.closing = false := by cases k <;> decide
  rw [leave, skipBlanks_append he, skipBlanks_cons hblank]
  dsimp only
  rw [if_neg (fun h => hcomma h.1), if_pos rfl]

/-- A comma after a value, behind blanks. -/
theorem leave_comma (k : Bracket) (outer : List Bracket) {e : List UInt8} (he : Blank e)
    {s r : List UInt8} (h : k.enter s = .ok r) :
    leave true (k :: outer) (e ++ ascii ',' :: s) = .ok (k :: outer, r) := by
  rw [leave, skipBlanks_append he, skipBlanks_cons (by decide)]
  dsimp only
  rw [if_pos ⟨rfl, rfl⟩, h]

/-- The first value of a bracket. -/
theorem leave_first (k : Bracket) (outer : List Bracket) {b : UInt8} {s t r : List UInt8}
    (hb : skipBlanks s = b :: t) (hclosing : b ≠ k.closing) (h : k.enter (b :: t) = .ok r) :
    leave false (k :: outer) s = .ok (k :: outer, r) := by
  rw [leave, hb]
  dsimp only
  rw [if_neg (fun h => Bool.false_ne_true h.2), if_neg hclosing, if_neg Bool.false_ne_true, h]

/-- A key and its colon, with blanks around them. -/
theorem skipKey_stringBytes {e e₁ : List UInt8} (he : Blank e) (he₁ : Blank e₁) (key : List Piece)
    (s : List UInt8) :
    skipKey (e ++ (stringBytes key ++ (e₁ ++ ascii ':' :: s))) = .ok s := by
  rw [skipKey, skipBlanks_append he, stringBytes, List.cons_append, skipBlanks_cons (by decide)]
  dsimp only
  rw [if_pos rfl, List.append_assoc, List.singleton_append, skipString_pieces]
  dsimp only
  rw [readColon, skipBlanks_append he₁, skipBlanks_cons (by decide)]
  dsimp only
  rw [if_pos rfl]

/-- A document is skipped inside of any brackets, and then everything goes on as after any value.
The brackets are arbitrary so that the statement can be used for the elements of the document
itself. -/
def Doc.Passes (d : Doc) : Prop :=
  ∀ {s : List UInt8}, d.Spells s → ∀ {e r : List UInt8}, Blank e → Apart r →
    ∀ brackets, skipValueIn brackets (e ++ (s ++ r)) = goOn brackets r

theorem goOn_closing (k : Bracket) (outer : List Bracket) {e : List UInt8} (he : Blank e)
    (s : List UInt8) : goOn (k :: outer) (e ++ k.closing :: s) = goOn outer s := by
  rw [goOn, leave_closing true k outer he, goOn]

theorem goOn_comma (k : Bracket) (outer : List Bracket) {e : List UInt8} (he : Blank e)
    {s r : List UInt8} (h : k.enter s = .ok r) :
    goOn (k :: outer) (e ++ ascii ',' :: s) = skipValueIn (k :: outer) r := by
  rw [goOn, leave_comma k outer he h, onward]

/-- The elements behind the first one, up to the closing bracket. The brackets around it are any, so
that the lemma can be used inside another value. -/
theorem goOn_elements {ds : List Doc} (hds : ∀ d ∈ ds, d.Passes) {u : List UInt8}
    (h : SpellsElements ds u) (outer : List Bracket) (r : List UInt8) :
    goOn (.list :: outer) (u ++ r) = goOn outer r := by
  induction ds generalizing u with
  | nil =>
    obtain ⟨e, he, rfl⟩ := h
    rw [List.append_assoc]
    exact goOn_closing .list outer he r
  | cons d ds ih =>
    obtain ⟨e, e₁, t, u, he, he₁, ht, hu, rfl⟩ := h
    rw [List.append_assoc, List.cons_append, goOn_comma .list outer he rfl, List.append_assoc,
      List.append_assoc, hds d (List.mem_cons_self ..) ht he₁ (apart_elements hu r)]
    exact ih (fun d' hd' => hds d' (List.mem_cons_of_mem _ hd')) hu

/-- The members behind the first one, up to the closing brace, with any brackets around them as for
elements. -/
theorem goOn_members {ms : Members} (hms : ∀ m ∈ ms, m.2.Passes) {u : List UInt8}
    (h : SpellsMembers ms u) (outer : List Bracket) (r : List UInt8) :
    goOn (.object :: outer) (u ++ r) = goOn outer r := by
  induction ms generalizing u with
  | nil =>
    obtain ⟨e, he, rfl⟩ := h
    rw [List.append_assoc]
    exact goOn_closing .object outer he r
  | cons m ms ih =>
    obtain ⟨e, e₀, e₁, e₂, t, u, he, he₀, he₁, he₂, ht, hu, rfl⟩ := h
    have hkey := skipKey_stringBytes he₀ he₁ m.1 (e₂ ++ (t ++ (u ++ r)))
    simp only [List.append_assoc, List.cons_append] at hkey ⊢
    rw [goOn_comma .object outer he hkey,
      hms m (List.mem_cons_self ..) ht he₂ (apart_members hu r)]
    exact ih (fun m' hm' => hms m' (List.mem_cons_of_mem _ hm')) hu

/-- A value without brackets leaves the brackets around it as they are. It is the base case of the
induction over documents. -/
theorem passes_of_isScalar {d : Doc} (hd : d.IsScalar) : d.Passes := by
  intro s h e r he hr brackets
  obtain ⟨b, t, rfl, hb, hblanks⟩ := h.skipBlanks_eq he r
  -- a scalar opens no bracket, so the pass is over with the value itself
  have hbracket : b ≠ ascii '[' ∧ b ≠ ascii '\x7B' := by
    rcases d with _ | c | n | ps | ds | ms
    case null => obtain rfl := hb; decide
    case bool => cases c <;> (obtain rfl := hb; decide)
    case number =>
      rcases hb with rfl | hb
      · decide
      · obtain ⟨d, rfl⟩ := exists_digitByte hb
        exact ⟨digitByte_ne d (by decide), digitByte_ne d (by decide)⟩
    case string => obtain rfl := hb; decide
    case list => exact hd.elim
    case object => exact hd.elim
  rw [skipValueIn_of_skipBlanks hblanks, skipStart, if_neg hbracket.1, if_neg hbracket.2,
    skipScalar_of_isScalar hd h hr]
  rfl

/-- **Every document is skipped**, inside of any brackets. The induction is on the document; a list
or an object pushes its bracket, goes through its elements, and pops it. -/
theorem passes (d : Doc) : d.Passes := by
  induction d using Doc.induct with
  | null => exact passes_of_isScalar (d := .null) trivial
  | bool b => exact passes_of_isScalar (d := .bool b) trivial
  | number n => exact passes_of_isScalar (d := .number n) trivial
  | string ps => exact passes_of_isScalar (d := .string ps) trivial
  | list ds ih =>
    intro s h e r he hr brackets
    have hopening (t : List UInt8) := skipValueIn_opening .list brackets he t
    cases ds with
    | nil =>
      obtain ⟨e₁, he₁, rfl⟩ := h
      have hclosing := leave_closing false .list brackets he₁ r
      rw [List.cons_append, List.append_assoc]
      exact (hopening _).trans (congrArg onward hclosing)
    | cons d ds =>
      -- the bracket, then the first element, then those behind a comma
      obtain ⟨e₁, t, u, he₁, ht, hu, rfl⟩ := h
      obtain ⟨b, t, rfl, hb, hblanks⟩ := ht.skipBlanks_eq he₁ (u ++ r)
      have hne : b ≠ Bracket.list.closing := by
        rintro rfl
        exact hb.not_mem_separators (by decide)
      have hfirst := leave_first .list brackets hblanks hne rfl
      have hpass := ih d (List.mem_cons_self ..) ht blank_nil (apart_elements hu r)
        (.list :: brackets)
      have hrest := goOn_elements (fun d' hd' => ih d' (List.mem_cons_of_mem _ hd')) hu brackets r
      simp only [List.append_assoc, List.cons_append] at hfirst ⊢
      exact (hopening _).trans ((congrArg onward hfirst).trans (hpass.trans hrest))
  | object ms ih =>
    intro s h e r he hr brackets
    have hopening (t : List UInt8) := skipValueIn_opening .object brackets he t
    cases ms with
    | nil =>
      obtain ⟨e₁, he₁, rfl⟩ := h
      have hclosing := leave_closing false .object brackets he₁ r
      rw [List.cons_append, List.append_assoc]
      exact (hopening _).trans (congrArg onward hclosing)
    | cons m ms =>
      obtain ⟨e₁, e₂, e₃, t, u, he₁, he₂, he₃, ht, hu, rfl⟩ := h
      have hkey := skipKey_stringBytes blank_nil he₂ m.1 (e₃ ++ (t ++ (u ++ r)))
      have hblanks (v : List UInt8) : skipBlanks (e₁ ++ (stringBytes m.1 ++ v)) =
          stringBytes m.1 ++ v := by
        rw [skipBlanks_append he₁, stringBytes, List.cons_append, skipBlanks_cons (by decide)]
      have hfirst := leave_first .object brackets (hblanks _) (by decide) hkey
      have hpass := ih m (List.mem_cons_self ..) ht he₃ (apart_members hu r)
        (.object :: brackets)
      have hrest := goOn_members (fun m' hm' => ih m' (List.mem_cons_of_mem _ hm')) hu brackets r
      simp only [List.append_assoc, List.cons_append] at hfirst ⊢
      exact (hopening _).trans ((congrArg onward hfirst).trans (hpass.trans hrest))

/-- **Any value of an unknown member is skipped**, and nothing more. No bracket is open there. -/
theorem skipValue_append {d : Doc} {s : List UInt8} (h : d.Spells s) {e r : List UInt8}
    (he : Blank e) (hr : Apart r) : skipValue (e ++ (s ++ r)) = .ok r := by
  rw [skipValue, passes d h he hr []]
  rfl

end Rendezvous.Json
