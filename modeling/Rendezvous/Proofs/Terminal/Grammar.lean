/-
What a line must look like to be a command (`parse_command`).

The grammar is a table of words. Most words are commands by themselves, whatever comes behind them;
two take the rest of the line as a text, two take it as a text that must not be empty, and two take
an email address and a password. `Spells` is the grammar of what is a command and `Refuses` of what
is none, and why; both speak of a word and an argument, and neither says how these are found. Every
word with an argument falls under one of them (`spells_or_refuses`), and what falls under one of
them is read as it says, so the reader accepts the grammar and nothing else.

Written out again, a command is read back from any line on which its word and its argument stand,
with white space around them (`Written`).
-/
import Rendezvous.Proofs.Text.Words
import Rendezvous.Terminal.Command

set_option autoImplicit false

namespace Rendezvous.Terminal.Command

open Text (isBlank isAsciiBlank Parted FirstWord Stripped)

/-! ## The grammar -/

/-- The words that are commands by themselves. -/
def alone : List (String × Command) :=
  [("logout", logOut), ("refresh", renew), ("deck", deck), ("load", deck), ("like", swipe .like),
    ("pass", swipe .pass), ("super", swipe .superLike), ("superlike", swipe .superLike),
    ("matches", matchList), ("dismiss", dismiss), ("chats", chats), ("profile", profile),
    ("status", status), ("help", help), ("?", help), ("quit", quit), ("exit", quit)]

/-- The words that take an email address and a password. -/
def withCredentials : List (String × (Wire.Credentials → Command)) :=
  [("login", logIn), ("register", register)]

/-- The words that take any text. -/
def withText : List (String × (String → Command)) :=
  [("send", send), ("bio", bio)]

/-- The words that take a text which must not be empty, and how they are used. -/
def withArgument : List (String × String × (String → Command)) :=
  [("open", "open ID", openChat), ("name", "name TEXT", name)]

/-- The words that name a command: those of the four tables, and no others. -/
def words : List String :=
  alone.map Prod.fst ++ withCredentials.map Prod.fst ++ withText.map Prod.fst ++
    withArgument.map Prod.fst

/-- A word and its argument are a command. One constructor for each table, so a word that is added
to a table is in the grammar. -/
inductive Spells : Command → String → List Char → Prop
  | alone {c : Command} {word : String} {argument : List Char} :
      (word, c) ∈ alone → Spells c word argument
  | credentials {make : Wire.Credentials → Command} {word email password : String}
      {argument : List Char} : (word, make) ∈ withCredentials →
      Parted isAsciiBlank argument [email.toList, password.toList] →
      Spells (make ⟨email, password⟩) word argument
  | text {make : String → Command} {word text : String} :
      (word, make) ∈ withText → Spells (make text) word text.toList
  | argument {make : String → Command} {word usage text : String} :
      (word, usage, make) ∈ withArgument → text ≠ "" → Spells (make text) word text.toList

/-- A word and its argument are no command; `line` is what was typed. -/
inductive Refuses (line : String) : Refusal → String → List Char → Prop
  | credentials {make : Wire.Credentials → Command} {word : String} {argument : List Char} :
      (word, make) ∈ withCredentials →
      (¬∃ email password, Parted isAsciiBlank argument [email, password]) →
      Refuses line (.missingCredentials word) word argument
  | argument {make : String → Command} {word usage : String} :
      (word, usage, make) ∈ withArgument → Refuses line (.missingArgument usage) word []
  | word {word : String} {argument : List Char} :
      word ∉ words → Refuses line (.unrecognized line) word argument

/-- A word that is a command with some argument is in the table that it is spelled by. -/
theorem Spells.mem_words {c : Command} {word : String} {argument : List Char}
    (h : Spells c word argument) : word ∈ words := by
  simp only [words, List.mem_append]
  cases h with
  | alone h => exact .inl (.inl (.inl (List.mem_map_of_mem h)))
  | credentials h => exact .inl (.inl (.inr (List.mem_map_of_mem h)))
  | text h => exact .inl (.inr (List.mem_map_of_mem h))
  | argument h => exact .inr (List.mem_map_of_mem h)

/-- **Every word with an argument is a command or is refused.** The two relations are defined
independently of the parser, so this is the half of totality that does not come from the parser
being a function. -/
theorem spells_or_refuses (line word : String) (argument : List Char) :
    (∃ c, Spells c word argument) ∨ ∃ why, Refuses line why word argument := by
  by_cases hword : word ∈ words
  · simp only [words, List.mem_append, List.mem_map] at hword
    -- one case for each of the four tables
    rcases hword with ((⟨⟨_, c⟩, h, rfl⟩ | ⟨⟨_, make⟩, h, rfl⟩) | ⟨⟨_, make⟩, h, rfl⟩) |
      ⟨⟨_, usage, make⟩, h, rfl⟩
    · exact .inl ⟨c, .alone h⟩
    · by_cases hparted : ∃ email password, Parted isAsciiBlank argument [email, password]
      · obtain ⟨email, password, hparted⟩ := hparted
        refine .inl ⟨make ⟨String.ofList email, String.ofList password⟩, .credentials h ?_⟩
        rwa [String.toList_ofList, String.toList_ofList]
      · exact .inr ⟨_, .credentials h hparted⟩
    · have hspells := @Spells.text make _ (String.ofList argument) h
      rw [String.toList_ofList] at hspells
      exact .inl ⟨_, hspells⟩
    · by_cases hnil : argument = []
      · subst hnil
        exact .inr ⟨_, .argument h⟩
      · have hne : String.ofList argument ≠ "" := mt String.ofList_eq_empty_iff.mp hnil
        have hspells := Spells.argument h hne
        rw [String.toList_ofList] at hspells
        exact .inl ⟨_, hspells⟩
  · exact .inr ⟨_, .word hword⟩

/-! ## The reader -/

variable {line word argument : List Char}

section

variable {make : Wire.Credentials → Command} {name : String}

theorem ofCredentials_of_parted {email password : String}
    (h : Parted isAsciiBlank argument [email.toList, password.toList]) :
    ofCredentials make name argument = .ok (make ⟨email, password⟩) := by
  rw [ofCredentials, Text.asciiWords, Text.parted_iff.mp h]
  dsimp only
  rw [String.ofList_toList, String.ofList_toList]

theorem ofCredentials_of_not_parted
    (h : ¬∃ email password, Parted isAsciiBlank argument [email, password]) :
    ofCredentials make name argument = .error (.missingCredentials name) := by
  rw [ofCredentials]
  split
  · rename_i email password heq
    exact absurd ⟨email, password, Text.parted_iff.mpr heq⟩ h
  · rfl

end

theorem ofArgument_of_ne {make : String → Command} {usage text : String} (h : text ≠ "") :
    ofArgument make usage text.toList = .ok (make text) := by
  rw [ofArgument, if_neg, String.ofList_toList]
  rw [List.isEmpty_iff, String.toList_eq_nil_iff]
  exact h

/-! The reader on the words of each table. The tables are finite, so it is run on their rows one by
one, with any argument. -/

theorem ofWord_of_mem_alone (line argument : List Char) :
    ∀ p ∈ alone, ofWord line p.1.toList argument = .ok p.2 := by
  simp [alone, ofWord]

theorem ofWord_of_mem_withCredentials (line argument : List Char) :
    ∀ p ∈ withCredentials, ofWord line p.1.toList argument = ofCredentials p.2 p.1 argument := by
  simp [withCredentials, ofWord]

theorem ofWord_of_mem_withText (line argument : List Char) :
    ∀ p ∈ withText, ofWord line p.1.toList argument = .ok (p.2 (String.ofList argument)) := by
  simp [withText, ofWord]

theorem ofWord_of_mem_withArgument (line argument : List Char) :
    ∀ p ∈ withArgument, ofWord line p.1.toList argument = ofArgument p.2.2 p.2.1 argument := by
  simp [withArgument, ofWord]

theorem ofWord_of_spells {c : Command} (h : Spells c (String.ofList word) argument) :
    ofWord line word argument = .ok c := by
  obtain ⟨name, rfl⟩ : ∃ name : String, word = name.toList :=
    ⟨String.ofList word, String.toList_ofList.symm⟩
  rw [String.ofList_toList] at h
  cases h with
  | alone h => exact ofWord_of_mem_alone line argument _ h
  | credentials h hparted =>
    exact (ofWord_of_mem_withCredentials line argument _ h).trans (ofCredentials_of_parted hparted)
  | @text make _ text h =>
    refine (ofWord_of_mem_withText line text.toList _ h).trans ?_
    rw [String.ofList_toList]
  | @argument make _ _ text h hne =>
    exact (ofWord_of_mem_withArgument line text.toList _ h).trans (ofArgument_of_ne hne)

theorem ofWord_of_refuses {why : Refusal}
    (h : Refuses (String.ofList line) why (String.ofList word) argument) :
    ofWord line word argument = .error why := by
  obtain ⟨name, rfl⟩ : ∃ name : String, word = name.toList :=
    ⟨String.ofList word, String.toList_ofList.symm⟩
  rw [String.ofList_toList] at h
  cases h with
  | credentials h hnone =>
    exact (ofWord_of_mem_withCredentials line argument _ h).trans
      (ofCredentials_of_not_parted hnone)
  | argument h => exact (ofWord_of_mem_withArgument line [] _ h).trans rfl
  | word h =>
    -- every other branch of the reader is for one of the words
    unfold ofWord
    rw [String.ofList_toList]
    split
    case h_24 => rfl
    all_goals exact absurd (by decide) h

/-- **The reader accepts the commands of the grammar**, and no others. -/
theorem ofWord_eq_ok_iff {c : Command} :
    ofWord line word argument = .ok c ↔ Spells c (String.ofList word) argument := by
  refine ⟨fun h => ?_, ofWord_of_spells⟩
  rcases spells_or_refuses (String.ofList line) (String.ofList word) argument with
    ⟨c', hspells⟩ | ⟨why, hrefuses⟩
  · rw [ofWord_of_spells hspells] at h
    rwa [← Except.ok.inj h]
  · rw [ofWord_of_refuses hrefuses] at h
    cases h

/-- **The reader refuses everything else**, for the reason that the grammar gives. -/
theorem ofWord_eq_error_iff {why : Refusal} :
    ofWord line word argument = .error why ↔
      Refuses (String.ofList line) why (String.ofList word) argument := by
  refine ⟨fun h => ?_, ofWord_of_refuses⟩
  rcases spells_or_refuses (String.ofList line) (String.ofList word) argument with
    ⟨c, hspells⟩ | ⟨why', hrefuses⟩
  · rw [ofWord_of_spells hspells] at h
    cases h
  · rw [ofWord_of_refuses hrefuses] at h
    rwa [← Except.error.inj h]

/-- A line is refused for its word exactly if no command has this name. -/
theorem refuses_unrecognized_iff {line word : String} {argument : List Char} :
    Refuses line (.unrecognized line) word argument ↔ word ∉ words := by
  constructor
  · intro h
    cases h with
    | word h => exact h
  · exact .word

/-! ## Written commands -/

/-- A command is written on a line: its word stands there and its argument behind blanks, verbatim,
with blanks around them. -/
inductive Written (c : Command) : List Char → Prop
  | intro {front word gap argument back : List Char} :
      (∀ x ∈ front ++ gap ++ back, isBlank x = true) → (argument ≠ [] → gap ≠ []) →
      (∀ x, argument.head? = some x → isBlank x = false) →
      (∀ x, argument.getLast? = some x → isBlank x = false) →
      Spells c (String.ofList word) argument →
      Written c (front ++ (word ++ (gap ++ argument ++ back)))

/-- Where a command is written, its word is the first one and its argument comes behind it. It needs
that no word of the tables has a blank in it or is empty. -/
theorem firstWord_of_written {c : Command} {line : List Char} (h : Written c line) :
    ∃ word argument, FirstWord line word argument ∧ Spells c (String.ofList word) argument := by
  have hwords : ∀ word ∈ words, word ≠ "" ∧ ∀ c ∈ word.toList, isBlank c = false := by decide
  obtain @⟨front, word, gap, argument, back, hblank, hgap, hhead, hlast, hspells⟩ := h
  obtain ⟨hne, hsolid⟩ := hwords _ hspells.mem_words
  rw [String.toList_ofList] at hsolid
  have hmem : ∀ x, x ∈ front ∨ x ∈ gap ∨ x ∈ back → isBlank x = true := by
    rintro x (hx | hx | hx)
    · exact hblank x (List.mem_append_left _ (List.mem_append_left _ hx))
    · exact hblank x (List.mem_append_left _ (List.mem_append_right _ hx))
    · exact hblank x (List.mem_append_right _ hx)
  refine ⟨word, argument, ⟨⟨front, gap ++ argument ++ back, rfl, ?_, ?_, ?_, ?_⟩, hsolid⟩, hspells⟩
  · exact fun x hx => hmem x (.inl hx)
  · intro x hx
    cases gap with
    | cons y gap =>
      rw [← Option.some.inj hx]
      exact hmem y (.inr (.inl List.mem_cons_self))
    | nil =>
      -- no blank stands before the argument, so there is none
      have hnone : argument = [] := Decidable.not_not.mp fun hargument => hgap hargument rfl
      subst hnone
      exact hmem x (.inr (.inr (List.mem_of_head? hx)))
  · intro hnil
    exact absurd (congrArg String.ofList hnil) hne
  · exact ⟨⟨gap, back, rfl, fun x hx => hmem x (.inr (.inl hx)),
      fun x hx => hmem x (.inr (.inr hx))⟩, hhead, hlast⟩

theorem written_of_firstWord {c : Command} {line word argument : List Char}
    (h : FirstWord line word argument) (hspells : Spells c (String.ofList word) argument) :
    Written c line := by
  obtain ⟨⟨front, rest, rfl, hfront, hrest, -, ⟨gap, back, rfl, hgap, hback⟩, hhead, hlast⟩, -⟩ := h
  refine .intro ?_ ?_ hhead hlast hspells
  · intro x hx
    rw [List.mem_append, List.mem_append] at hx
    rcases hx with (hx | hx) | hx
    · exact hfront x hx
    · exact hgap x hx
    · exact hback x hx
  · -- the rest begins with a blank, and the argument does not
    rintro hargument rfl
    obtain ⟨x, xs, rfl⟩ := List.exists_cons_of_ne_nil hargument
    have hblank := hrest x rfl
    rw [hhead x rfl] at hblank
    cases hblank

/-- **A line is a command if and only if the grammar has it.** The first word of a line and what
comes behind it, without the blanks around it, are settled by the line. The line is refused as not
recognized if and only if the word is none of the words; otherwise the word and what comes behind it
are the command that the grammar has for them, or are refused as it says. So a line is read as a
command if and only if the command is written on it. -/
theorem parse_follows_grammar (text : String) :
    ∃ word argument : List Char,
      (∀ w a, FirstWord text.toList w a ↔ w = word ∧ a = argument) ∧
      (parse text = .error (.unrecognized (Text.trimmed text)) ↔ String.ofList word ∉ words) ∧
      (∀ c, parse text = .ok c ↔ Spells c (String.ofList word) argument) ∧
      (∀ why, parse text = .error why ↔
        Refuses (Text.trimmed text) why (String.ofList word) argument) ∧
      ∀ c, parse text = .ok c ↔ Written c text.toList := by
  have hfirst := @Text.firstWord_iff text.toList
  have hok : ∀ c, parse text = .ok c ↔ _ := fun c => ofWord_eq_ok_iff
  have herror : ∀ why, parse text = .error why ↔ _ := fun why => ofWord_eq_error_iff
  refine ⟨_, _, fun w a => hfirst, ?_, hok, herror, ?_⟩
  · exact (herror _).trans refuses_unrecognized_iff
  · intro c
    rw [hok]
    -- a rendering has the first word and the argument of the line, so the tables speak of the same
    -- pair
    constructor
    · exact written_of_firstWord (hfirst.mpr ⟨rfl, rfl⟩)
    · intro h
      obtain ⟨word, argument, hword, hspells⟩ := firstWord_of_written h
      obtain ⟨rfl, rfl⟩ := hfirst.mp hword
      exact hspells

end Rendezvous.Terminal.Command
