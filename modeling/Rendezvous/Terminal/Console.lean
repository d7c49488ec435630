/-
`main` and `run`: a session at the console, from the first prompt to the last.

Input is bytes. A line ends at a line feed or where the input ends, and a carriage return in front
of its end does not belong to it; a line that is not UTF-8 breaks the session off. Blank lines are
passed over. The password is asked for in the same input, before the first prompt, and what was
typed counts without the white space around it.

A session that breaks off has an error and perhaps the causes of it, from the nearest to the
furthest; they are printed below the error, with numbers if there are several.
-/
import Rendezvous.Terminal.App
import Rendezvous.Terminal.Options
import Rendezvous.Text.Utf8

set_option autoImplicit false

namespace Rendezvous.Terminal

open Service (Failure)
open Web (Request Response)

/-- Why a session broke off: what `run` returns as its error. -/
inductive Breakdown
  | options (why : Options.Refusal)
  | storage (why : Credential.Failure)
  /-- a line is not UTF-8 -/
  | line (damage : Text.Utf8.Damage) (length : Nat)
  /-- what was typed as a password is not UTF-8 (a different reader is used there, with another
  wording) -/
  | password

namespace Breakdown

/-- The wording of the error. -/
def message : Breakdown → String
  | options why => why.message
  | storage _ => "Failed to open credential storage"
  | line damage length =>
    let place := toString (length - damage.left)
    match damage.length with
    | some n => "invalid utf-8 sequence of " ++ toString n ++ " bytes from index " ++ place
    | none => "incomplete utf-8 byte sequence from index " ++ place
  | password => "stream did not contain valid UTF-8"

/-- The causes of the error, the nearest one first. A failure of the file system is wrapped once
more than the others. -/
def causes : Breakdown → List String
  | storage (.disk fault) => [(Credential.Failure.disk fault).message, fault.message]
  | storage why => [why.message]
  | _ => []

/-- What is printed about the error. -/
def report (b : Breakdown) : String :=
  let listed := match b.causes with
    | [] => ""
    | [cause] => "\n\nCaused by:\n    " ++ cause
    | causes =>
      "\n\nCaused by:" ++ String.join (causes.zipIdx.map fun c =>
        "\n    " ++ toString c.2 ++ ": " ++ c.1)
  "Error: " ++ b.message ++ listed ++ "\n"

end Breakdown

/-! ## Lines -/

/-- A line feed. -/
def lineFeed : UInt8 := 0x0A

/-- A carriage return. -/
def carriageReturn : UInt8 := 0x0D

/-- The next line with its end, and the input behind it; `none` where the input ends. -/
def takeLine (input : List UInt8) : Option (List UInt8 × List UInt8) :=
  match input with
  | [] => none
  | _ =>
    let line := input.takeWhile (· != lineFeed)
    match input.dropWhile (· != lineFeed) with
    | [] => some (line, [])
    | _ :: rest => some (line ++ [lineFeed], rest)

theorem length_lt_of_takeLine {input line rest : List UInt8}
    (h : takeLine input = some (line, rest)) : rest.length < input.length := by
  have hd := (List.dropWhile_suffix (l := input) (· != lineFeed)).length_le
  unfold takeLine at h
  split at h
  · cases h
  · rename_i hne
    split at h
    · cases h
      cases input with
      | nil => exact absurd rfl hne
      | cons b bs => simp
    · rename_i heq
      cases h
      rw [heq] at hd
      simp only [List.length_cons] at hd
      omega

/-- A line without its end. -/
def withoutLineEnd (line : List Char) : List Char :=
  match line.reverse with
  | '\n' :: '\r' :: rest => rest.reverse
  | '\n' :: rest => rest.reverse
  | _ => line

/-! ## Commands -/

/-- A service that answers at once. The console waits for every answer before it reads the next
line, so nothing can come between the two halves of a command but the pages that are due. -/
abbrev Service : Type :=
  Request → Except Failure Response

/-- Fetch the pages that have been claimed. The task that `prefetch` spawns runs beside the console;
here it runs before the next line is read. -/
def fetchDue (service : Service) (a : App) : App :=
  (List.range a.traffic.due).foldl
    (fun a _ =>
      let r := a.traffic.fetchDue
      match r.2 with
      | some (ticket, .sent request) =>
        { a with traffic := (r.1.answer ticket (service request)).1 }
      | _ => { a with traffic := r.1 })
    a

/-- Carry a command out: `dispatch`, with the answer of the service. The result is what is printed,
or `none` if the command ends the session. -/
def perform (service : Service) (command : Command) (a : App) : App × Option String :=
  match a.begin command with
  | (a, .quits) => (a, none)
  | (a, .replies text) => (fetchDue service a, some text)
  | (a, .waits ticket request view) =>
    let r := a.answer ticket (service request) view
    (fetchDue service r.1, some r.2)

/-- What a line leads to. -/
inductive Reaction
  | prints (text : String)
  | passes
  | leaves
  | breaks (b : Breakdown)

/-- One turn of the loop of `run`. -/
def react (service : Service) (line : List UInt8) (a : App) : App × Reaction :=
  match Text.Utf8.decode line with
  | .error damage => (a, .breaks (.line damage line.length))
  | .ok cs =>
    let text := withoutLineEnd cs
    if (Text.trim text).isEmpty then (a, .passes)
    else
      match Command.parse (String.ofList text) with
      | .error why => (a, .prints (why.message ++ "\n"))
      | .ok command =>
        match perform service command a with
        | (a, some said) => (a, .prints (said ++ "\n"))
        | (a, none) => (a, .leaves)

/-! ## Sessions -/

/-- How a session went. -/
structure Transcript where
  output : String
  failure : Option Breakdown
  /-- the client at the end, if it was started -/
  app : Option App

/-- What stands in front of every line. -/
def promptText : String := "> "

/-- The loop of `run`: react to line after line, behind what has been printed. -/
def converse (service : Service) (printed : String) (input : List UInt8) (a : App) : Transcript :=
  match _h : takeLine input with
  | none => ⟨printed ++ promptText, none, some a⟩
  | some (line, rest) =>
    match react service line a with
    | (a, .prints text) => converse service (printed ++ promptText ++ text) rest a
    | (a, .passes) => converse service (printed ++ promptText) rest a
    | (a, .leaves) => ⟨printed ++ promptText, none, some a⟩
    | (a, .breaks b) => ⟨printed ++ promptText, some b, some a⟩
termination_by input.length
decreasing_by all_goals exact length_lt_of_takeLine _h

/-- What is printed before the password is typed. -/
def passwordPrompt : String := "Password: "

/-- `prompt`, unless the password was given: the first line of the input. The answer is what is
printed, the password, and the input that is left. -/
def findPassword (given : Option String) (input : List UInt8) :
    String × Except Breakdown String × List UInt8 :=
  match given with
  | some password => ("", .ok password, input)
  | none =>
    let r := (takeLine input).getD ([], [])
    match Text.Utf8.decode r.1 with
    | .ok cs => (passwordPrompt, .ok (String.ofList (Text.trim cs)), r.2)
    | .error _ => (passwordPrompt, .error .password, r.2)

/-- What is printed before the first prompt. -/
def welcome : String :=
  "Type 'help' to see available commands\n"

/-- `run` from the point where the client stands: log in if an address was given, and take
commands. -/
def converseFrom (service : Service) (o : Options) (input : List UInt8) (a : App) : Transcript :=
  match o.email with
  | none =>
    let greeting := if a.authenticated then "Resuming stored session\n" else ""
    converse service (greeting ++ welcome) input a
  | some email =>
    match findPassword o.password input with
    | (asked, .error b, _) => ⟨asked, some b, some a⟩
    | (asked, .ok password, rest) =>
      match perform service (.logIn ⟨email, password⟩) a with
      | (a, said) =>
        converse service (asked ++ (said.map (· ++ "\n")).getD "" ++ welcome) rest a

/-- What stands in the file system where the credential directory may be. -/
structure Places where
  /-- what stands at the path of `--credentials-dir` -/
  chosen : String → Credential.Site
  /-- what stands at the default path, if the platform has one -/
  usual : Option Credential.Site

/-- Open the credential storage: `open_in` for a path that was given, `open_default` otherwise. -/
def Places.open (places : Places) (o : Options) : Except Credential.Failure Credential.Directory :=
  match o.directory with
  | some path => (places.chosen path).open
  | none =>
    match places.usual with
    | some site => site.open
    | none => .error .noPlace

/-- The client that the options ask for. -/
def start (o : Options) (d : Credential.Directory) (today : Time.Date) : App where
  traffic :=
    { client :=
        Client.opened o.connection.address {}
          { vault := { medium := .directory d } } }
  today := today

/-- A whole session, from the arguments to the end of the input. -/
def run (service : Service) (arguments : List String) (places : Places) (today : Time.Date)
    (input : List UInt8) : Transcript :=
  if Options.asksForHelp arguments then ⟨Options.helpText, none, none⟩
  else
    match Options.parse arguments with
    | .error why => ⟨"", some (.options why), none⟩
    | .ok o =>
      match places.open o with
      | .error why => ⟨"", some (.storage why), none⟩
      | .ok d => converseFrom service o input (start o d today)

end Rendezvous.Terminal
