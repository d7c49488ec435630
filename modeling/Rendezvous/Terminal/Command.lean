/-
`Command` and `parse_command`: what is typed at the prompt.

White space around a line does not count. The first word names the command and the rest of the line,
again without white space around it, is its argument, taken verbatim. Only `login` and `register`
cut their argument into words (`parse_credentials`), and they cut it at ASCII blanks alone, so a
password may hold any other white space.

That `send` and `bio` take an empty argument is intended: the rule that a message must not be blank
belongs to `send_message`, and an empty biography is a biography.
-/
import Rendezvous.Text.Blank
import Rendezvous.Wire.Account
import Rendezvous.Wire.Discovery

set_option autoImplicit false

namespace Rendezvous.Terminal

/-- `Command`: a line that has been understood, with its argument as it was typed. -/
inductive Command
  | logIn (credentials : Wire.Credentials)
  | register (credentials : Wire.Credentials)
  | logOut
  | renew
  | deck
  | swipe (direction : Wire.Direction)
  | matchList
  | dismiss
  | chats
  | openChat (id : String)
  | send (text : String)
  | profile
  | name (text : String)
  | bio (text : String)
  | status
  | help
  | quit
deriving DecidableEq

/-- `ParseError`: why a line is not a command. -/
inductive Command.Refusal
  /-- the command of this name takes an email address and a password -/
  | missingCredentials (word : String)
  /-- the command with this usage takes an argument -/
  | missingArgument (usage : String)
  /-- no command has this name; the whole line is kept, to be shown again -/
  | unrecognized (line : String)
deriving Repr, DecidableEq

/-- The wording of a refusal, as `Display` writes it. -/
def Command.Refusal.message : Command.Refusal → String
  | .missingCredentials word =>
    "'" ++ word ++ "' requires an email and a password (e.g., '" ++ word ++
      " ada@example.com hunter22')"
  | .missingArgument usage => "Missing argument. Usage: " ++ usage
  | .unrecognized line =>
    "Unrecognized command '" ++ line ++ "'. Type 'help' to see available commands"

namespace Command

/-- `parse_credentials`: exactly two words, or the line is refused. -/
def ofCredentials (make : Wire.Credentials → Command) (word : String) (argument : List Char) :
    Except Refusal Command :=
  match Text.asciiWords argument with
  | [email, password] => .ok (make ⟨String.ofList email, String.ofList password⟩)
  | _ => .error (.missingCredentials word)

/-- `required`: an argument that must not be empty. -/
def ofArgument (make : String → Command) (usage : String) (argument : List Char) :
    Except Refusal Command :=
  if argument.isEmpty then .error (.missingArgument usage)
  else .ok (make (String.ofList argument))

/-- The command of a word and its argument. The line is needed only for the refusal of an unknown
word, which shows it. -/
def ofWord (line word argument : List Char) : Except Refusal Command :=
  match String.ofList word with
  | "login" => ofCredentials logIn "login" argument
  | "register" => ofCredentials register "register" argument
  | "logout" => .ok logOut
  | "refresh" => .ok renew
  | "deck" | "load" => .ok deck
  | "like" => .ok (swipe .like)
  | "pass" => .ok (swipe .pass)
  | "super" | "superlike" => .ok (swipe .superLike)
  | "matches" => .ok matchList
  | "dismiss" => .ok dismiss
  | "chats" => .ok chats
  | "open" => ofArgument openChat "open ID" argument
  | "send" => .ok (send (String.ofList argument))
  | "profile" => .ok profile
  | "name" => ofArgument name "name TEXT" argument
  | "bio" => .ok (bio (String.ofList argument))
  | "status" => .ok status
  | "help" | "?" => .ok help
  | "quit" | "exit" => .ok quit
  | _ => .error (.unrecognized (String.ofList line))

/-- **`parse_command`.** The line is trimmed before it is cut, so the first word is empty only if
the whole line is blank. -/
def parse (text : String) : Except Refusal Command :=
  let line := Text.trim text.toList
  let word := line.takeWhile (!Text.isBlank ·)
  ofWord line word (Text.trim (line.dropWhile (!Text.isBlank ·)))

/-- `COMMANDS_HELP`. -/
def helpText : String :=
  "login EMAIL PASSWORD     Log in and store the session\n" ++
  "  register EMAIL PASSWORD  Create an account and log in\n" ++
  "  logout                   Forget the stored session\n" ++
  "  refresh                  Exchange the refresh token for a new pair\n" ++
  "  deck                     Load a page of candidates\n" ++
  "  like | pass | super      Swipe on the current candidate\n" ++
  "  matches                  List matches\n" ++
  "  dismiss                  Acknowledge a new match\n" ++
  "  chats                    List conversations\n" ++
  "  open ID                  Open a conversation\n" ++
  "  send TEXT                Send a message to the open conversation\n" ++
  "  profile                  Show your profile\n" ++
  "  name TEXT                Change your display name\n" ++
  "  bio TEXT                 Change your bio\n" ++
  "  status                   Show session state\n" ++
  "  help                     Show this list\n" ++
  "  quit                     Exit\n"

end Command

end Rendezvous.Terminal
