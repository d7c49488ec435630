/-
`{:?}` of a string: text between quotes, as an error message shows it.

A reader of the message has to be able to tell which characters the text holds, so the quote and the
backslash are escaped, the common control characters get their letter, and every other character
without a mark of its own is shown by its number in braces. An apostrophe stands as it is.
-/
import Rendezvous.Text.Concealed

set_option autoImplicit false

namespace Rendezvous.Text

/-- A character as it stands in a quoted text. -/
def shown (c : Char) : List Char :=
  if c = '\x00' then ['\\', '0']
  else if c = '\t' then ['\\', 't']
  else if c = '\r' then ['\\', 'r']
  else if c = '\n' then ['\\', 'n']
  else if c = '\\' then ['\\', '\\']
  else if c = '"' then ['\\', '"']
  else if isConcealed c then
    ['\\', 'u', '\x7B'] ++ Nat.toDigits 16 c.toNat ++ ['\x7D']
  else [c]

/-- The text with its quotes. -/
def shownQuoted (s : String) : String :=
  String.ofList ('"' :: s.toList.flatMap shown ++ ['"'])

end Rendezvous.Text
