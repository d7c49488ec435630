/-
Why a JSON text is refused, and where: the `Error` of `serde_json`.

A reader works on the bytes that are left, so it knows a place only by how many bytes follow it: a
`Fault` is a cause and that number. Two kinds of place occur. A fault *after* some bytes counts
everything up to the last consumed byte; a fault *on* a byte that was only looked at counts that
byte too, and at the end of the text the two are the same. Only when a whole text has been refused
is the number turned into a line and a column, by `Place.of`.

Causes are data. `Cause.message` holds all the wording, and `Cause.category` says whether the text
ended early, broke the grammar of JSON, or was JSON of the wrong shape.
-/
import Rendezvous.Json.Value
import Rendezvous.Text.Quoted

set_option autoImplicit false

namespace Rendezvous.Json

/-- What was found where something else was expected. -/
inductive Found
  | integer (i : Int)
  | float (f : Float)
  | string (s : String)
  | boolean (b : Bool)
  | null
  | sequence
  | map

/-- How a message names what was found. -/
def Found.description : Found → String
  | .integer i => "integer `" ++ toString i ++ "`"
  | .float f => "floating point `" ++ floatText f ++ "`"
  | .string s => "string " ++ Text.shownQuoted s
  | .boolean true => "boolean `true`"
  | .boolean false => "boolean `false`"
  | .null => "null"
  | .sequence => "sequence"
  | .map => "map"

/-- The reasons for refusing a text (`ErrorCode`). Those of the shape of a value carry what their
wording needs. -/
inductive Cause
  | endInList
  | endInObject
  | endInString
  | endInValue
  | expectedColon
  | expectedCommaOrEndOfList
  | expectedCommaOrEndOfObject
  | expectedWord
  | expectedValue
  | invalidEscape
  | invalidNumber
  | numberOutOfRange
  | invalidCodePoint
  | controlCharacter
  | keyMustBeString
  | loneSurrogate
  | unexpectedEndOfHexEscape
  | trailingComma
  | trailingCharacters
  | missingField (name : String)
  | duplicateField (name : String)
  | unknownVariant (name : String) (allowed : List String)
  | invalidLength (length : Nat) (expected : String)
  | invalidType (found : Found) (expected : String)
  | invalidValue (found : Found) (expected : String)
  /-- a type's own reason for refusing a string -/
  | rejected (reason : String)

/-- The three kinds of refusal (`Category`): the text ended early, is no JSON, or is JSON of another
shape. -/
inductive Category
  | ended
  | grammar
  | shape
deriving Repr, DecidableEq

/-- The kind of a refusal. -/
def Cause.category : Cause → Category
  | .endInList | .endInObject | .endInString | .endInValue => .ended
  | .missingField _ | .duplicateField _ | .unknownVariant .. | .invalidLength ..
  | .invalidType .. | .invalidValue .. | .rejected _ => .shape
  | _ => .grammar

/-- A name between backquotes. -/
def marked (name : String) : String :=
  "`" ++ name ++ "`"

/-- How a message lists the accepted names. -/
def oneOf : List String → String
  | [] => "there are no variants"
  | [a] => "expected " ++ marked a
  | [a, b] => "expected " ++ marked a ++ " or " ++ marked b
  | names => "expected one of " ++ String.intercalate ", " (names.map marked)

/-- The wording of a refusal, without its place. -/
def Cause.message : Cause → String
  | .endInList => "EOF while parsing a list"
  | .endInObject => "EOF while parsing an object"
  | .endInString => "EOF while parsing a string"
  | .endInValue => "EOF while parsing a value"
  | .expectedColon => "expected `:`"
  | .expectedCommaOrEndOfList => "expected `,` or `]`"
  | .expectedCommaOrEndOfObject => "expected `,` or `\x7D`"
  | .expectedWord => "expected ident"
  | .expectedValue => "expected value"
  | .invalidEscape => "invalid escape"
  | .invalidNumber => "invalid number"
  | .numberOutOfRange => "number out of range"
  | .invalidCodePoint => "invalid unicode code point"
  | .controlCharacter =>
    "control character (\\u0000-\\u001F) found while parsing a string"
  | .keyMustBeString => "key must be a string"
  | .loneSurrogate => "lone leading surrogate in hex escape"
  | .unexpectedEndOfHexEscape => "unexpected end of hex escape"
  | .trailingComma => "trailing comma"
  | .trailingCharacters => "trailing characters"
  | .missingField name => "missing field " ++ marked name
  | .duplicateField name => "duplicate field " ++ marked name
  | .unknownVariant name allowed => "unknown variant " ++ marked name ++ ", " ++ oneOf allowed
  | .invalidLength n expected => "invalid length " ++ toString n ++ ", expected " ++ expected
  | .invalidType found expected =>
    "invalid type: " ++ found.description ++ ", expected " ++ expected
  | .invalidValue found expected =>
    "invalid value: " ++ found.description ++ ", expected " ++ expected
  | .rejected reason => reason

/-- A refusal, and how many bytes follow the place it is about. -/
structure Fault where
  cause : Cause
  left : Nat

/-- A fault found once everything before `rest` was consumed. -/
def Fault.after (cause : Cause) (rest : List UInt8) : Fault :=
  ⟨cause, rest.length⟩

/-- A fault found by looking at the first byte of `rest` (or at its being empty). -/
def Fault.on (cause : Cause) (rest : List UInt8) : Fault :=
  ⟨cause, rest.length - 1⟩

/-- A place in a text: lines count from one, columns count the bytes of a line. -/
structure Place where
  line : Nat
  column : Nat
deriving Repr, DecidableEq

/-- The place that `left` bytes of the text follow. Columns count bytes and not characters. -/
def Place.of (text : List UInt8) (left : Nat) : Place :=
  let before := (text.take (text.length - left)).reverse
  let lineFeed : UInt8 := 0x0A
  { line := before.count lineFeed + 1
    column := (before.takeWhile (· != lineFeed)).length }

/-- A refusal of a whole text. -/
structure DecodeError where
  cause : Cause
  place : Place

/-- The wording of a refusal, with its place. -/
def DecodeError.message (e : DecodeError) : String :=
  e.cause.message ++ " at line " ++ toString e.place.line ++ " column " ++ toString e.place.column

end Rendezvous.Json
