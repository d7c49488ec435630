/-
URLs, and `Url::parse`.

A URL has a scheme, perhaps an authority, a path, and perhaps a query and a fragment. Six schemes
are special. Five of them need a host that is not empty, take any number of slashes of either kind
in front of it, and have a default port, which is not kept when it is written out; the sixth is for
files, whose host may be empty. With any other scheme two slashes announce a host, one slash a path
of segments, and anything else is a path without structure.

Blanks and control characters around a URL are dropped, tabs and line breaks within it too. Whatever
part is being read, the first `?` ends everything before the query and the first `#` everything
before the fragment.
-/
import Rendezvous.Decimal.Digits
import Rendezvous.Web.Host
import Rendezvous.Web.Path

set_option autoImplicit false

namespace Rendezvous.Web

/-- Who is addressed, and as whom. -/
structure Authority where
  /-- the name of a user, percent coded -/
  user : List Char
  /-- a password, percent coded; empty if there is none -/
  password : List Char
  host : Host
  /-- a port, if it is not the one that goes without saying -/
  port : Option UInt16
deriving DecidableEq

/-- The address of a resource. -/
structure Url where
  /-- the scheme, in lower case -/
  scheme : String
  authority : Option Authority
  path : Path
  query : Option (List Char)
  fragment : Option (List Char)
deriving DecidableEq

/-- Why a text is not an address. -/
inductive Url.Refusal
  | noScheme
  | badPort
  | badHost (why : Host.Refusal)
deriving Repr, DecidableEq

/-- The wording of a refusal. -/
def Url.Refusal.message : Url.Refusal → String
  | .noScheme => "relative URL without a base"
  | .badPort => "invalid port number"
  | .badHost .empty => "empty host"
  | .badHost .invalidIpv4 => "invalid IPv4 address"
  | .badHost .invalidIpv6 => "invalid IPv6 address"
  | .badHost .invalidDomain => "invalid international domain name"
  | .badHost .invalidCharacter => "invalid domain character"

/-! ## Schemes -/

/-- The kinds of scheme. -/
inductive SchemeKind
  | file
  /-- special, with the port that goes without saying -/
  | web (port : UInt16)
  | other
deriving Repr, DecidableEq

/-- The kind of a scheme. -/
def schemeKind (scheme : String) : SchemeKind :=
  match scheme with
  | "http" => .web 80
  | "https" => .web 443
  | "ws" => .web 80
  | "wss" => .web 443
  | "ftp" => .web 21
  | "file" => .file
  | _ => .other

namespace SchemeKind

/-- Whether a scheme is special. -/
def isSpecial : SchemeKind → Bool
  | .other => false
  | _ => true

/-- The port that goes without saying. -/
def defaultPort : SchemeKind → Option UInt16
  | .web port => some port
  | _ => none

/-- How paths are read. -/
def pathRules : SchemeKind → PathRules
  | .file => .file
  | .web _ => .web
  | .other => .general

end SchemeKind

/-- Whether a scheme may hold a character behind its first. -/
def isSchemeChar (c : Char) : Bool :=
  c.isAlphanum || c == '+' || c == '-' || c == '.'

/-- The scheme in front of a colon, in lower case, and what follows the colon. -/
def splitScheme (text : List Char) : Option (String × List Char) :=
  match text with
  | [] => none
  | c :: _ =>
    if c.isAlpha then
      match text.dropWhile isSchemeChar with
      | ':' :: rest => some (String.ofList ((text.takeWhile isSchemeChar).map Char.toLower), rest)
      | _ => none
    else none

/-! ## Query and fragment -/

/-- What stands in front of a mark, and what follows it if it is there. -/
def splitMark (mark : Char) (text : List Char) : List Char × Option (List Char) :=
  match text.dropWhile (· != mark) with
  | [] => (text, none)
  | _ :: rest => (text.takeWhile (· != mark), some rest)

/-! ## Authority -/

/-- Whether a character ends the authority. -/
def endsAuthority (kind : SchemeKind) (c : Char) : Bool :=
  c == '/' || (kind.isSpecial && c == '\\')

/-- What stands in front of the last `@`, if there is one, and what follows it. -/
def splitUserInfo (text : List Char) : Option (List Char) × List Char :=
  match text.reverse.dropWhile (· != '@') with
  | [] => (none, text)
  | _ :: before => (some before.reverse, (text.reverse.takeWhile (· != '@')).reverse)

/-- The text of the host: up to the first colon outside brackets. -/
def splitHost (inside : Bool) : List Char → List Char × List Char
  | [] => ([], [])
  | c :: cs =>
    if c = ':' ∧ inside = false then ([], c :: cs)
    else
      let rest := splitHost (if c = '[' then true else if c = ']' then false else inside) cs
      (c :: rest.1, rest.2)

/-- The number that the digits of a port stand for. Nothing stands for no port. -/
def portNumber? (digits : List Char) : Except Url.Refusal (Option UInt16) :=
  if digits.isEmpty then .ok none
  else if digits.all Char.isDigit ∧ Decimal.value digits < 65536 then
    .ok (some (UInt16.ofNat (Decimal.value digits)))
  else .error .badPort

/-- The port behind the host, if it is not the one that goes without saying. A backslash ends
it, and what is left is no longer part of the authority. -/
def readPort (kind : SchemeKind) : List Char → Except Url.Refusal (Option UInt16 × List Char)
  | ':' :: rest =>
    match portNumber? (rest.takeWhile (· != '\\')) with
    | .error e => .error e
    | .ok port =>
      .ok (if port = kind.defaultPort then none else port, rest.dropWhile (· != '\\'))
  | _ => .ok (none, [])

/-- The name of a user and a password, percent coded. -/
def readUserInfo (info : List Char) : List Char × List Char :=
  let parts := splitMark ':' info
  (percentEncode codedInUserInfo parts.1, percentEncode codedInUserInfo (parts.2.getD []))

/-- A host as its scheme understands it. -/
def readHost (kind : SchemeKind) (text : List Char) : Except Url.Refusal Host :=
  if kind.isSpecial then
    if text.isEmpty then .error (.badHost .empty) else (Host.parse text).mapError .badHost
  else (Host.parsePlain text).mapError .badHost

/-- Read the text of an authority; what is left of it begins the path. -/
def readAuthority (kind : SchemeKind) (text : List Char) :
    Except Url.Refusal (Authority × List Char) :=
  let info := splitUserInfo text
  let parts := splitHost false info.2
  if info.1 = some [] ∧ info.2 = [] then .error (.badHost .empty)
  else
    match readHost kind parts.1 with
    | .error e => .error e
    | .ok host =>
      let user := readUserInfo (info.1.getD [])
      if host.isEmpty ∧ (parts.2 ≠ [] ∨ user.1 ≠ [] ∨ user.2 ≠ []) then
        .error (.badHost .empty)
      else
        match readPort kind parts.2 with
        | .error e => .error e
        | .ok (port, left) => .ok (⟨user.1, user.2, host, port⟩, left)

/-! ## Authority and path -/

/-- The text of a path without the slash in front. -/
def withoutSlash (kind : SchemeKind) : List Char → List Char
  | [] => []
  | c :: rest => if endsAuthority kind c then rest else c :: rest

/-- The path behind an authority. Only special schemes have one where nothing is written. -/
def pathBehind (kind : SchemeKind) (text : List Char) : Path :=
  if text.isEmpty ∧ kind.isSpecial = false then .segments []
  else .segments (kind.pathRules.segments (withoutSlash kind text))

/-- Read what follows the slashes that announce an authority. -/
def readAddressed (kind : SchemeKind) (text : List Char) :
    Except Url.Refusal (Option Authority × Path) :=
  match readAuthority kind (text.takeWhile (!endsAuthority kind ·)) with
  | .error e => .error e
  | .ok (authority, left) =>
    .ok (some authority, pathBehind kind (left ++ text.dropWhile (!endsAuthority kind ·)))

/-- The authority of a file on the machine itself: no host, and no user or port either. -/
def emptyAuthority : Authority := ⟨[], [], .plain [], none⟩

/-- The machine that holds a file; this machine goes without saying. -/
def fileHost (text : List Char) : Except Url.Refusal Host :=
  if text.isEmpty then .ok (.plain [])
  else
    match Host.parse text with
    | .error e => .error (.badHost e)
    | .ok host => .ok (if host.text = "localhost".toList then .plain [] else host)

/-- Whether a path on a machine names a drive; then the machine does not count. -/
def namesDrive (text : List Char) : Bool :=
  match (PathRules.file.resolved (withoutSlash .file text)).head? with
  | some first => isDrive first
  | none => false

/-- Read what follows the scheme of a file. -/
def readFile (text : List Char) : Except Url.Refusal (Option Authority × Path) :=
  match text with
  | a :: b :: rest =>
    if endsAuthority .file a ∧ endsAuthority .file b then
      let machine := rest.takeWhile (!endsAuthority .file ·)
      let path := rest.dropWhile (!endsAuthority .file ·)
      if isDrive machine then .ok (some emptyAuthority, pathBehind .file rest)
      else
        match fileHost machine with
        | .error e => .error e
        | .ok host =>
          .ok (some
              (if namesDrive path then emptyAuthority else { emptyAuthority with host := host }),
            pathBehind .file path)
    else .ok (some emptyAuthority, pathBehind .file text)
  | _ => .ok (some emptyAuthority, pathBehind .file text)

/-- Read what follows a scheme, up to the query. -/
def readRest (kind : SchemeKind) (text : List Char) :
    Except Url.Refusal (Option Authority × Path) :=
  match kind with
  | .file => readFile text
  | .web _ => readAddressed kind (text.dropWhile (endsAuthority kind))
  | .other =>
    match text with
    | '/' :: '/' :: rest => readAddressed kind rest
    | '/' :: rest => .ok (none, .segments (PathRules.general.segments rest))
    | _ => .ok (none, .flat (percentEncode codedAnywhere text))

/-! ## Whole addresses -/

/-- A control character or a space. -/
def isOuterBlank (c : Char) : Bool :=
  c.toNat ≤ 0x20

/-- A tab or a line break. -/
def isInnerBlank (c : Char) : Bool :=
  c == '\t' || c == '\n' || c == '\r'

/-- A text without what an address does not count. -/
def withoutBlanks (text : List Char) : List Char :=
  let front := text.dropWhile isOuterBlank
  ((front.reverse.dropWhile isOuterBlank).reverse).filter (!isInnerBlank ·)

/-- Read an address. -/
def Url.parse (text : List Char) : Except Url.Refusal Url :=
  match splitScheme (withoutBlanks text) with
  | none => .error .noScheme
  | some (scheme, rest) =>
    let kind := schemeKind scheme
    let behind := splitMark '#' rest
    let front := splitMark '?' behind.1
    match readRest kind front.1 with
    | .error e => .error e
    | .ok (authority, path) =>
      .ok
        { scheme := scheme
          authority := authority
          path := path
          query := front.2.map
            (percentEncode (if kind.isSpecial then codedInSpecialQuery else codedInQuery))
          fragment := behind.2.map (percentEncode codedInFragment) }

/-! ## Text -/

/-- The text of an authority, behind its slashes. -/
def Authority.text (a : Authority) : List Char :=
  let info :=
    if a.user.isEmpty ∧ a.password.isEmpty then []
    else a.user ++ (if a.password.isEmpty then [] else ':' :: a.password) ++ ['@']
  let port := match a.port with
    | none => []
    | some port => ':' :: Nat.toDigits 10 port.toNat
  info ++ a.host.text ++ port

/-- A part of an address behind its mark, if it is there. -/
def marked (mark : Char) : Option (List Char) → List Char
  | none => []
  | some part => mark :: part

/-- The text of an address. Without an authority, a path that begins with two slashes gets a
dot in front, for else it would read as one. -/
def Url.text (u : Url) : String :=
  let authority := match u.authority with
    | some a => '/' :: '/' :: a.text
    | none =>
      match u.path with
      | .segments ([] :: _ :: _) => ['/', '.']
      | _ => []
  u.scheme ++ ":" ++ String.ofList
    (authority ++ u.path.text ++ marked '?' u.query ++ marked '#' u.fragment)

end Rendezvous.Web
