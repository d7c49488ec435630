/-
What a codec reads from a document.

A codec reads a text, and a document has many texts. The codecs here are definite: what they read
from a document is one value, or nothing, in whatever way its tokens are set apart and whatever
follows it. That value is `Codec.value?`. Each way to put a codec together keeps definite codecs
definite, and gives what is read from which document (`Codec.Reads`): from a string what it is
parsed to, from a list its elements, from `null` the absence of an optional value, and nothing from
a document of another shape.

Why a text is refused is left out of account here. The messages of `serde_json` name a line and a
column, which do depend on the spelling.
-/
import Rendezvous.Proofs.Json.Tokens

set_option autoImplicit false

namespace Rendezvous.Json

variable {α : Type}

/-! ## Reading a document -/

/-- A codec reads from each document what a function gives, however it is spelled and whatever keeps
apart from it. -/
structure Codec.Reads (c : Codec α) (of : Doc → Option α) : Prop where
  toOption_read : ∀ {d : Doc} {s : List UInt8}, d.Spells s → ∀ {e r : List UInt8}, Blank e →
    Apart r → (c.read (e ++ (s ++ r))).toOption = (of d).map fun a => (a, r)

/-- What a codec reads from a document. It is defined by one spelling; for a definite codec it is
what is read from all of them. -/
def Codec.value? (c : Codec α) (d : Doc) : Option α :=
  (c.read d.text).toOption.map Prod.fst

/-- A codec reads from each document one value or nothing. -/
def Codec.Definite (c : Codec α) : Prop :=
  c.Reads c.value?

theorem Codec.Definite.reads {c : Codec α} (h : c.Definite) : c.Reads c.value? := h

theorem Codec.Reads.value? {c : Codec α} {of : Doc → Option α} (h : c.Reads of) :
    c.value? = of := by
  funext d
  have htext := h.toOption_read d.spells_text blank_nil apart_nil
  rw [List.nil_append, List.append_nil] at htext
  rw [Codec.value?, htext, Option.map_map]
  exact congrFun Option.map_id (of d)

theorem Codec.Reads.definite {c : Codec α} {of : Doc → Option α} (h : c.Reads of) :
    c.Definite := by
  rw [Codec.Definite, h.value?]
  exact h

/-- **All texts of a document decode alike**: to the value that is read from it, or not at all.
Which error is reported does depend on the text, by its line and column. -/
theorem Codec.Definite.decode {c : Codec α} (h : c.Definite) {d : Doc} {text : List UInt8}
    (htext : d.Writes text) : (c.decode text).toOption = c.value? d := by
  obtain ⟨e, s, e', he, hs, he', rfl⟩ := htext
  have hread := h.reads.toOption_read hs he (apart_blank he')
  rw [Codec.decode]
  rcases error_or_ok hread with ⟨hnone, why, hwhy⟩ | ⟨a, ha, hok⟩
  · rw [hwhy, hnone]
    rfl
  · rw [hok, ha]
    dsimp only
    rw [skipBlanks_blank he']
    rfl

/-! ## Telling documents apart

A reader decides by the first byte, so the first byte has to determine the shape of the document. -/

theorem Doc.Begins.eq_null {d : Doc} (h : d.Begins (ascii 'n')) : d = .null := by
  rcases d with _ | b | n | ps | ds | ms
  case null => exact rfl
  case bool => cases b <;> exact absurd (show ascii 'n' = _ from h) (by decide)
  case number =>
    have hdigit : ascii 'n' = ascii '-' ∨ (digit? (ascii 'n')).isSome = true := h
    exact absurd hdigit (by decide)
  all_goals exact absurd (show ascii 'n' = _ from h) (by decide)

theorem Doc.Begins.exists_string {d : Doc} (h : d.Begins (ascii '"')) : ∃ ps, d = .string ps := by
  rcases d with _ | b | n | ps | ds | ms
  case string => exact ⟨ps, rfl⟩
  case bool => cases b <;> exact absurd (show ascii '"' = _ from h) (by decide)
  case number =>
    have hdigit : ascii '"' = ascii '-' ∨ (digit? (ascii '"')).isSome = true := h
    exact absurd hdigit (by decide)
  all_goals exact absurd (show ascii '"' = _ from h) (by decide)

theorem Doc.Begins.exists_list {d : Doc} (h : d.Begins (ascii '[')) : ∃ ds, d = .list ds := by
  rcases d with _ | b | n | ps | ds | ms
  case list => exact ⟨ds, rfl⟩
  case bool => cases b <;> exact absurd (show ascii '[' = _ from h) (by decide)
  case number =>
    have hdigit : ascii '[' = ascii '-' ∨ (digit? (ascii '[')).isSome = true := h
    exact absurd hdigit (by decide)
  all_goals exact absurd (show ascii '[' = _ from h) (by decide)

theorem Doc.Begins.exists_object {d : Doc} (h : d.Begins (ascii '\x7B')) :
    ∃ ms, d = .object ms := by
  rcases d with _ | b | n | ps | ds | ms
  case object => exact ⟨ms, rfl⟩
  case bool => cases b <;> exact absurd (show ascii '\x7B' = _ from h) (by decide)
  case number =>
    have hdigit : ascii '\x7B' = ascii '-' ∨ (digit? (ascii '\x7B')).isSome = true := h
    exact absurd hdigit (by decide)
  all_goals exact absurd (show ascii '\x7B' = _ from h) (by decide)

theorem Doc.Begins.exists_number {d : Doc} {b : UInt8} (h : d.Begins b)
    (hb : b = ascii '-' ∨ (digit? b).isSome = true) : ∃ n, d = .number n := by
  rcases d with _ | c | n | ps | ds | ms
  case number => exact ⟨n, rfl⟩
  case bool => cases c <;> (obtain rfl := h; exact absurd hb (by decide))
  all_goals
    obtain rfl := h
    exact absurd hb (by decide)

/-! ## Texts and numbers -/

/-- What is read from a string. -/
def ofString (parse : String → Except Cause α) : Doc → Option α
  | .string ps => (text? ps).bind fun text => (parse text).toOption
  | _ => none

theorem toOption_readQuotedAs (parse : String → Except Cause α) (ps : List Piece)
    (s : List UInt8) :
    (readQuotedAs parse (pieceBytes ps ++ ascii '"' :: s)).toOption =
      ((text? ps).bind fun text => (parse text).toOption).map fun a => (a, s) := by
  have hread := toOption_readString ps s
  rw [readQuotedAs]
  rcases error_or_ok hread with ⟨hnone, why, hwhy⟩ | ⟨text, htext, hok⟩
  · rw [hwhy, hnone]
    rfl
  · rw [hok, htext, Option.bind_some]
    dsimp only
    cases parse text with
    | error why => rfl
    | ok a => rfl

theorem reads_ofString (expected : String) (write : α → String)
    (parse : String → Except Cause α) :
    (Codec.ofString expected write parse).Reads (ofString parse) := by
  refine ⟨fun {d s} h {e r} he hr => ?_⟩
  obtain ⟨b, t, rfl, hb, hblanks⟩ := h.skipBlanks_eq he r
  show (readStringAs expected parse (e ++ (b :: t ++ r))).toOption = _
  rw [readStringAs, hblanks]
  dsimp only
  by_cases hquote : b = ascii '"'
  · subst hquote
    -- a value that begins with a quote is a string
    obtain ⟨ps, rfl⟩ := hb.exists_string
    obtain ⟨-, rfl⟩ := List.cons.inj (show ascii '"' :: t = stringBytes ps from h)
    rw [if_pos rfl, List.append_assoc]
    exact toOption_readQuotedAs parse ps r
  · -- a document of another shape is refused by its first byte
    have hnone : ofString parse d = none := by
      rcases d with _ | c | n | ps | ds | ms
      case string => exact absurd hb hquote
      all_goals rfl
    rw [if_neg hquote, hnone]
    rfl

theorem definite_ofString (expected : String) (write : α → String)
    (parse : String → Except Cause α) : (Codec.ofString expected write parse).Definite :=
  (reads_ofString expected write parse).definite

theorem definite_text : Codec.text.Definite :=
  definite_ofString ..

/-- What is read from a number. -/
def ofNumber (accept : Number → Except Cause α) : Doc → Option α
  | .number n => n.value?.bind fun x => (accept x).toOption
  | _ => none

theorem reads_ofNumber {c : Codec α} {expected : String} {accept : Number → Except Cause α}
    (hc : c.read = readNumberAs expected accept) : c.Reads (ofNumber accept) := by
  refine ⟨fun {d s} h {e r} he hr => ?_⟩
  obtain ⟨b, t, rfl, hb, hblanks⟩ := h.skipBlanks_eq he r
  rw [hc, readNumberAs, hblanks]
  dsimp only
  by_cases hnumber : b = ascii '-' ∨ (digit? b).isSome = true
  · -- a value that begins with a sign or a digit is a number; it may be too large, or not be
    -- accepted
    obtain ⟨n, rfl⟩ := hb.exists_number hnumber
    have hread := toOption_readNumber (show b :: t = n.bytes from h).symm hr
    rw [if_pos hnumber, ofNumber]
    rcases error_or_ok hread with ⟨hnone, why, hwhy⟩ | ⟨x, hx, hok⟩
    · rw [hwhy, hnone]
      rfl
    · rw [hok, hx, Option.bind_some]
      dsimp only
      cases accept x with
      | error why => rfl
      | ok a => rfl
  · have hnone : ofNumber accept d = none := by
      rcases d with _ | c | n | ps | ds | ms
      case number => exact absurd hb hnumber
      all_goals rfl
    rw [if_neg hnumber, hnone]
    rfl

theorem definite_u32 : Codec.u32.Definite :=
  (reads_ofNumber (c := .u32) rfl).definite

theorem definite_i64 : Codec.i64.Definite :=
  (reads_ofNumber (c := .i64) rfl).definite

theorem definite_f64 : Codec.f64.Definite := by
  have hread : Codec.f64.read = readNumberAs "f64" fun x => .ok x.toFloat := rfl
  exact (reads_ofNumber hread).definite

/-! ## Choices

A unit variant of an enum is written as its name. `serde` also reads it from an object with that
name for its only key and `null` for its value, and this has to be followed too. -/

/-- What is read from a name, or from an object with that name for its only key and `null` for its
value. -/
def ofCase (cases : List (String × α)) : Doc → Option α
  | .string ps => (text? ps).bind fun name => cases.lookup name
  | .object [(key, .null)] => (text? key).bind fun name => cases.lookup name
  | _ => none

theorem toOption_caseOf (cases : List (String × α)) (name : String) :
    (caseOf cases name).toOption = cases.lookup name := by
  rw [caseOf]
  cases cases.lookup name with
  | none => rfl
  | some a => rfl

theorem toOption_readQuotedAs_caseOf (cases : List (String × α)) (ps : List Piece)
    (s : List UInt8) :
    (readQuotedAs (caseOf cases) (pieceBytes ps ++ ascii '"' :: s)).toOption =
      ((text? ps).bind fun name => cases.lookup name).map fun a => (a, s) := by
  rw [toOption_readQuotedAs]
  simp only [toOption_caseOf]

/-- The key of the only member, behind blanks. -/
theorem toOption_readCaseKey (cases : List (String × α)) {e : List UInt8} (he : Blank e)
    (key : List Piece) (s : List UInt8) :
    (readCaseKey cases (e ++ (stringBytes key ++ s))).toOption =
      ((text? key).bind fun name => cases.lookup name).map fun a => (a, s) := by
  rw [readCaseKey, skipBlanks_append he, stringBytes, List.cons_append,
    skipBlanks_cons (by decide)]
  dsimp only
  rw [if_pos rfl, List.append_assoc]
  exact toOption_readQuotedAs_caseOf cases key s

/-- The colon behind a key, with blanks before it. -/
theorem readColon_append {e : List UInt8} (he : Blank e) (s : List UInt8) :
    readColon (e ++ ascii ':' :: s) = .ok s := by
  rw [readColon, skipBlanks_append he, skipBlanks_cons (by decide)]
  dsimp only
  rw [if_pos rfl]

/-- `null` is read where nothing else may stand. -/
theorem readUnit_null {e : List UInt8} (he : Blank e) (r : List UInt8) :
    readUnit (e ++ (letters ['n', 'u', 'l', 'l'] ++ r)) = .ok r := by
  have hword := readWord_letters ['u', 'l', 'l'] r
  have hblanks : skipBlanks (letters ['n', 'u', 'l', 'l'] ++ r) =
      ascii 'n' :: (letters ['u', 'l', 'l'] ++ r) := skipBlanks_cons (by decide) _
  rw [readUnit, skipBlanks_append he, hblanks]
  dsimp only
  rw [if_pos rfl, hword]

/-- Anything but `null` is refused there. -/
theorem exists_readUnit_error {d : Doc} (hd : d ≠ .null) {s : List UInt8} (h : d.Spells s)
    {e : List UInt8} (he : Blank e) (r : List UInt8) :
    ∃ why, readUnit (e ++ (s ++ r)) = .error why := by
  obtain ⟨b, t, rfl, hb, hblanks⟩ := h.skipBlanks_eq he r
  have hn : b ≠ ascii 'n' := by
    rintro rfl
    exact hd hb.eq_null
  rw [readUnit, hblanks]
  dsimp only
  rw [if_neg hn]
  exact ⟨_, rfl⟩

/-- The rest of an object of one member, behind its key. -/
def readCaseEnd (a : α) (s : List UInt8) : Except Fault (α × List UInt8) :=
  match readColon s with
  | .error e => .error e
  | .ok r =>
    match readUnit r with
    | .error e => .error e
    | .ok r =>
      match skipBlanks r with
      | [] => .error (.on .endInObject [])
      | b :: r => if b = ascii '\x7D' then .ok (a, r) else .error (.after .expectedValue (b :: r))

theorem readCaseEnd_null (a : α) {e e₁ e₂ : List UInt8} (he : Blank e) (he₁ : Blank e₁)
    (he₂ : Blank e₂) (r : List UInt8) :
    readCaseEnd a (e ++ ascii ':' :: (e₁ ++ (letters ['n', 'u', 'l', 'l'] ++
      (e₂ ++ ascii '\x7D' :: r)))) = .ok (a, r) := by
  have hblanks : skipBlanks (e₂ ++ ascii '\x7D' :: r) = ascii '\x7D' :: r := by
    rw [skipBlanks_append he₂, skipBlanks_cons (by decide)]
  rw [readCaseEnd, readColon_append he]
  dsimp only
  rw [readUnit_null he₁]
  dsimp only
  rw [hblanks]
  dsimp only
  rw [if_pos rfl]

/-- The value has to be `null`, and the member has to be the only one. This is how `serde` reads a
unit variant in the form of an object, and the one form that is not just its name. -/
theorem exists_readCaseEnd_error (a : α) {d : Doc} {ms : Members}
    (hd : ¬ (d = .null ∧ ms = [])) {t u : List UInt8} (ht : d.Spells t) (hu : SpellsMembers ms u)
    {e e₁ : List UInt8} (he : Blank e) (he₁ : Blank e₁) (r : List UInt8) :
    ∃ why, readCaseEnd a (e ++ ascii ':' :: (e₁ ++ (t ++ (u ++ r)))) = .error why := by
  rw [readCaseEnd, readColon_append he]
  dsimp only
  by_cases hnull : d = .null
  · subst hnull
    obtain rfl : t = letters ['n', 'u', 'l', 'l'] := ht
    rw [readUnit_null he₁]
    rcases ms with _ | ⟨m, ms⟩
    · exact absurd ⟨rfl, rfl⟩ hd
    · -- another member follows
      obtain ⟨e₂, e₃, e₄, e₅, t, u, he₂, -, -, -, -, -, rfl⟩ := hu
      rw [List.append_assoc, List.cons_append]
      dsimp only
      rw [skipBlanks_append he₂, skipBlanks_cons (by decide)]
      dsimp only
      rw [if_neg (by decide)]
      exact ⟨_, rfl⟩
  · obtain ⟨why, hwhy⟩ := exists_readUnit_error hnull ht he₁ (u ++ r)
    rw [hwhy]
    exact ⟨_, rfl⟩

theorem ofCase_of_not {cases : List (String × α)} {key : List Piece} {d : Doc} {ms : Members}
    (h : ¬ (d = .null ∧ ms = [])) : ofCase cases (.object ((key, d) :: ms)) = none := by
  rcases d with _ | c | n | ps | ds | ms'
  case null =>
    rcases ms with _ | ⟨m, ms⟩
    · exact absurd ⟨rfl, rfl⟩ h
    · rfl
  all_goals
    cases ms with
    | nil => rfl
    | cons m ms => rfl

/-- An object where a name is expected, after its opening brace. -/
theorem readCase_brace (cases : List (String × α)) {e : List UInt8} (he : Blank e)
    (s : List UInt8) :
    readCase cases (e ++ ascii '\x7B' :: s) =
      match readCaseKey cases s with
      | .error e => .error e
      | .ok (a, r) => readCaseEnd a r := by
  rw [readCase, skipBlanks_append he, skipBlanks_cons (by decide)]
  dsimp only
  rw [if_neg (by decide), if_pos rfl]
  rfl

/-- An object where a name is expected is read by its only member, if that is `null`. With no
member, with two, or with another value, both sides refuse. -/
theorem toOption_readCase_object (cases : List (String × α)) {ms : Members} {t : List UInt8}
    (h : (Doc.object ms).Spells (ascii '\x7B' :: t)) {e : List UInt8} (he : Blank e)
    (r : List UInt8) :
    (readCase cases (e ++ ascii '\x7B' :: (t ++ r))).toOption =
      (ofCase cases (.object ms)).map fun a => (a, r) := by
  rw [readCase_brace cases he]
  rcases ms with _ | ⟨⟨key, d⟩, ms⟩
  · obtain ⟨e₁, he₁, heq⟩ := h
    obtain ⟨-, rfl⟩ := List.cons.inj heq
    rw [readCaseKey, List.append_assoc, skipBlanks_append he₁, List.singleton_append,
      skipBlanks_cons (by decide)]
    rfl
  obtain ⟨e₁, e₂, e₃, t, u, he₁, he₂, he₃, ht, hu, heq⟩ := h
  obtain ⟨-, rfl⟩ := List.cons.inj heq
  have hkey := toOption_readCaseKey cases he₁ key (e₂ ++ ascii ':' :: (e₃ ++ (t ++ (u ++ r))))
  simp only [List.append_assoc, List.cons_append]
  -- the key may be no name, and behind it there may be more than a `null`
  by_cases hd : d = .null ∧ ms = []
  · obtain ⟨rfl, rfl⟩ := hd
    obtain rfl : t = letters ['n', 'u', 'l', 'l'] := ht
    obtain ⟨e₄, he₄, rfl⟩ := hu
    rw [ofCase]
    rcases error_or_ok hkey with ⟨hnone, why, hwhy⟩ | ⟨a, ha, hok⟩
    · rw [hwhy, hnone]
      rfl
    · rw [hok, ha, List.append_assoc, List.singleton_append]
      dsimp only
      rw [readCaseEnd_null a he₂ he₃ he₄]
      rfl
  · rw [ofCase_of_not hd]
    rcases error_or_ok hkey with ⟨-, why, hwhy⟩ | ⟨a, -, hok⟩
    · rw [hwhy]
      rfl
    · obtain ⟨why, hwhy⟩ := exists_readCaseEnd_error a hd ht hu he₂ he₃ r
      rw [hok]
      dsimp only
      rw [hwhy]
      rfl

theorem reads_choice (name : α → String) (values : List α) :
    (Codec.choice name values).Reads (ofCase (values.map fun a => (name a, a))) := by
  generalize hcases : values.map (fun a => (name a, a)) = cases
  refine ⟨fun {d s} h {e r} he hr => ?_⟩
  -- the first byte decides between a string and an object
  obtain ⟨b, t, rfl, hb, hblanks⟩ := h.skipBlanks_eq he r
  show (readCase (values.map fun a => (name a, a)) (e ++ (b :: t ++ r))).toOption = _
  rw [hcases]
  by_cases hquote : b = ascii '"'
  · subst hquote
    obtain ⟨ps, rfl⟩ := hb.exists_string
    obtain ⟨-, rfl⟩ := List.cons.inj (show ascii '"' :: t = stringBytes ps from h)
    rw [readCase, hblanks]
    dsimp only
    rw [if_pos rfl, List.append_assoc]
    exact toOption_readQuotedAs_caseOf cases ps r
  by_cases hbrace : b = ascii '\x7B'
  · subst hbrace
    obtain ⟨ms, rfl⟩ := hb.exists_object
    exact toOption_readCase_object cases h he r
  · have hnone : ofCase cases d = none := by
      rcases d with _ | c | n | ps | ds | ms
      case string => exact absurd hb hquote
      case object => exact absurd hb hbrace
      all_goals rfl
    rw [readCase, hblanks]
    dsimp only
    rw [if_neg hquote, if_neg hbrace, hnone]
    rfl

/-! ## Values that may be null -/

/-- What is read from `null`, or from a value. -/
def ofNullable (of : Doc → Option α) : Doc → Option (Option α)
  | .null => some none
  | d => (of d).map some

theorem ofNullable_of_ne {of : Doc → Option α} {d : Doc} (h : d ≠ .null) :
    ofNullable of d = (of d).map some := by
  rcases d with _ | c | n | ps | ds | ms
  case null => exact absurd rfl h
  all_goals rfl

theorem reads_nullable {c : Codec α} {of : Doc → Option α} (hc : c.Reads of) :
    c.nullable.Reads (ofNullable of) := by
  refine ⟨fun {d s} h {e r} he hr => ?_⟩
  obtain ⟨b, t, rfl, hb, hblanks⟩ := h.skipBlanks_eq he r
  show (readNullable c (e ++ (b :: t ++ r))).toOption = _
  rw [readNullable, hblanks]
  dsimp only
  by_cases hn : b = ascii 'n'
  · subst hn
    -- a value that begins with an `n` is `null`
    obtain rfl := hb.eq_null
    obtain ⟨-, rfl⟩ := List.cons.inj (show ascii 'n' :: t = letters ['n', 'u', 'l', 'l'] from h)
    have hword : readWord ['u', 'l', 'l'] (['u', 'l', 'l'].map ascii ++ r) = .ok r :=
      readWord_letters ['u', 'l', 'l'] r
    rw [if_pos rfl, hword]
    rfl
  · have hne : d ≠ .null := by
      rintro rfl
      exact hn hb
    have hread := hc.toOption_read h blank_nil hr
    rw [List.nil_append, List.cons_append] at hread
    rw [if_neg hn, ofNullable_of_ne hne]
    rcases error_or_ok hread with ⟨hnone, why, hwhy⟩ | ⟨a, ha, hok⟩
    · rw [hwhy, hnone]
      rfl
    · rw [hok, ha]
      rfl

/-! ## Lists -/

/-- The elements that are read from a list: all of them, or none if one is refused. -/
def ofElements (of : Doc → Option α) : List Doc → Option (List α)
  | [] => some []
  | d :: ds => (of d).bind fun a => (ofElements of ds).map (a :: ·)

/-- What is read from a list. -/
def ofList (of : Doc → Option α) : Doc → Option (List α)
  | .list ds => ofElements of ds
  | _ => none

theorem nextElement_closing (first : Bool) {e : List UInt8} (he : Blank e) (s : List UInt8) :
    nextElement first (e ++ ascii ']' :: s) = .ok (.closed s) := by
  rw [nextElement, skipBlanks_append he, skipBlanks_cons (by decide)]
  dsimp only
  rw [if_pos rfl]

theorem nextElement_opening {d : Doc} {s : List UInt8} (h : d.Spells s) {e : List UInt8}
    (he : Blank e) (r : List UInt8) : nextElement true (e ++ (s ++ r)) = .ok (.item (s ++ r)) := by
  obtain ⟨b, t, rfl, hb, hblanks⟩ := h.skipBlanks_eq he r
  have hne : b ≠ ascii ']' := by
    rintro rfl
    exact hb.not_mem_separators (by decide)
  rw [nextElement, hblanks]
  dsimp only
  rw [if_neg hne, if_pos rfl, List.cons_append]

theorem nextElement_further {d : Doc} {s : List UInt8} (h : d.Spells s) {e e₁ : List UInt8}
    (he : Blank e) (he₁ : Blank e₁) (r : List UInt8) :
    nextElement false (e ++ ascii ',' :: (e₁ ++ (s ++ r))) = .ok (.item (s ++ r)) := by
  obtain ⟨b, t, rfl, hb, hblanks⟩ := h.skipBlanks_eq he₁ r
  have hne : b ≠ ascii ']' := by
    rintro rfl
    exact hb.not_mem_separators (by decide)
  rw [nextElement, skipBlanks_append he, skipBlanks_cons (by decide)]
  dsimp only
  rw [if_neg (by decide), if_neg Bool.false_ne_true, if_pos rfl, hblanks]
  dsimp only
  rw [if_neg hne, List.cons_append]

/-- The next element is read, or the list is refused. The elements already read are not looked at
again. -/
theorem toOption_readElementsOnto_item {c : Codec α} {first : Bool} {seen : List α}
    {s start : List UInt8} (h : nextElement first s = .ok (.item start)) :
    (readElementsOnto c first seen s).toOption =
      (c.read start).toOption.bind fun p =>
        (readElementsOnto c false (p.1 :: seen) p.2).toOption := by
  rcases hread : c.read start with why | ⟨a, r⟩
  · rw [readElementsOnto]
    split
    · rename_i heq
      cases h.symm.trans heq
    · rename_i heq
      cases Except.ok.inj (h.symm.trans heq)
    · rename_i heq
      -- only this branch agrees with what comes next in the text
      obtain rfl := Next.item.inj (Except.ok.inj (h.symm.trans heq))
      split
      · rfl
      · rename_i heq
        cases hread.symm.trans heq
  · rw [readElementsOnto_item h hread]
    rfl

/-- The elements behind the first one, by induction on them. What has been read so far is carried
along in reverse, as the reader keeps it. -/
theorem toOption_readElementsOnto {c : Codec α} {of : Doc → Option α} (hc : c.Reads of)
    {ds : List Doc} {u : List UInt8} (h : SpellsElements ds u) (seen : List α) (r : List UInt8) :
    (readElementsOnto c false seen (u ++ r)).toOption =
      (ofElements of ds).map fun as => (seen.reverse ++ as, r) := by
  induction ds generalizing seen u with
  | nil =>
    obtain ⟨e, he, rfl⟩ := h
    rw [List.append_assoc, List.singleton_append,
      readElementsOnto_closed (nextElement_closing false he r), ofElements, Option.map_some,
      List.append_nil]
    rfl
  | cons d ds ih =>
    obtain ⟨e, e₁, t, u, he, he₁, ht, hu, rfl⟩ := h
    -- what follows the element is the rest of the list, which keeps apart from it
    have hread := hc.toOption_read ht blank_nil (apart_elements hu r)
    rw [List.nil_append] at hread
    simp only [List.append_assoc, List.cons_append]
    rw [toOption_readElementsOnto_item (nextElement_further ht he he₁ (u ++ r)), hread, ofElements]
    cases of d with
    | none => rfl
    | some a =>
      rw [Option.map_some, Option.bind_some, Option.bind_some, ih hu, Option.map_map]
      refine congrArg (fun f => Option.map f (ofElements of ds)) (funext fun as => ?_)
      rw [Function.comp_apply, List.reverse_cons, List.append_assoc, List.singleton_append]

theorem reads_list {c : Codec α} {of : Doc → Option α} (hc : c.Reads of) :
    c.list.Reads (ofList of) := by
  refine ⟨fun {d s} h {e r} he hr => ?_⟩
  obtain ⟨b, t, rfl, hb, hblanks⟩ := h.skipBlanks_eq he r
  show (readList c (e ++ (b :: t ++ r))).toOption = _
  rw [readList, hblanks]
  dsimp only
  -- a list is read if the document is one, and refused by its first byte otherwise
  by_cases hopening : b = ascii '['
  · subst hopening
    obtain ⟨ds, rfl⟩ := hb.exists_list
    rw [if_pos rfl, ofList]
    cases ds with
    | nil =>
      obtain ⟨e₁, he₁, heq⟩ := h
      obtain ⟨-, rfl⟩ := List.cons.inj heq
      rw [List.append_assoc, List.singleton_append,
        readElementsOnto_closed (nextElement_closing true he₁ r)]
      rfl
    | cons d ds =>
      obtain ⟨e₁, t, u, he₁, ht, hu, heq⟩ := h
      obtain ⟨-, rfl⟩ := List.cons.inj heq
      have hread := hc.toOption_read ht blank_nil (apart_elements hu r)
      rw [List.nil_append] at hread
      simp only [List.append_assoc]
      rw [toOption_readElementsOnto_item (nextElement_opening ht he₁ (u ++ r)), hread, ofElements]
      cases of d with
      | none => rfl
      | some a =>
        rw [Option.map_some, Option.bind_some, Option.bind_some, toOption_readElementsOnto hc hu,
          Option.map_map]
        rfl
  · have hnone : ofList of d = none := by
      rcases d with _ | c | n | ps | ds | ms
      case list => exact absurd hb hopening
      all_goals rfl
    rw [if_neg hopening, hnone]
    rfl

end Rendezvous.Json
