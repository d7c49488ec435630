/-
Hosts: a domain, an IP address of either kind, or a text that only its scheme understands.

A name that ends in a number is an IPv4 address or nothing, so that no name can pass for one. Its
parts may be decimal, octal (a leading zero) or hexadecimal, and the last part fills all the bytes
that the others leave. An IPv6 address is written between brackets: eight pieces of sixteen bits, of
which one run of zeros may be left out and the last two may be written like an IPv4 address.
-/
import Rendezvous.Text.Numeral
import Rendezvous.Text.Split
import Rendezvous.Web.Domain
import Rendezvous.Web.Percent

set_option autoImplicit false

namespace Rendezvous.Web

/-- Who is addressed. -/
inductive Host
  /-- a name, in its ASCII form -/
  | domain (name : List Char)
  | ipv4 (address : UInt32)
  /-- the eight pieces, the first one first -/
  | ipv6 (pieces : List UInt16)
  /-- a text that is passed on as it is -/
  | plain (text : List Char)
deriving Repr, DecidableEq

/-- Why a host is refused. -/
inductive Host.Refusal
  | empty
  | invalidIpv4
  | invalidIpv6
  | invalidDomain
  | invalidCharacter
deriving Repr, DecidableEq

/-! ## Short numeric addresses -/

/-- The number that a part of a short address stands for. -/
def ipv4Number? : List Char → Option Nat
  | [] => none
  | '0' :: 'x' :: digits => Text.number? 16 digits
  | '0' :: 'X' :: digits => Text.number? 16 digits
  | '0' :: d :: digits => Text.number? 8 (d :: digits)
  | digits => Text.number? 10 digits

/-- The parts of a name; an empty part at the very end does not count. -/
def domainParts (name : List Char) : List (List Char) :=
  let parts := Text.splitAt '.' name
  if parts.getLast? = some [] then parts.dropLast else parts

/-- Whether the last part of a name is a number. -/
def endsInNumber (name : List Char) : Bool :=
  match (domainParts name).getLast? with
  | none => false
  | some part => (!part.isEmpty && part.all Char.isDigit) || (ipv4Number? part).isSome

/-- The address that numbers stand for: each but the last is one byte, and the last fills
what is left. -/
def ipv4OfNumbers : (bytesLeft : Nat) → List Nat → Option Nat
  | _, [] => none
  | bytesLeft, [n] => if n < Nat.pow 256 bytesLeft then some n else none
  | bytesLeft, n :: ns =>
    if n < 256 ∧ 0 < bytesLeft then
      (ipv4OfNumbers (bytesLeft - 1) ns).map (n * Nat.pow 256 (bytesLeft - 1) + ·)
    else none

/-- The short address that a name stands for. -/
def ipv4? (name : List Char) : Option UInt32 :=
  let parts := domainParts name
  if parts.length ≤ 4 then
    ((parts.mapM ipv4Number?).bind (ipv4OfNumbers 4)).map UInt32.ofNat
  else none

/-- Four numbers with points between them. -/
def ipv4Text (address : UInt32) : List Char :=
  let byte (k : Nat) : List Char := Nat.toDigits 10 (address.toNat / Nat.pow 256 k % 256)
  byte 3 ++ '.' :: byte 2 ++ '.' :: byte 1 ++ '.' :: byte 0

/-! ## Long numeric addresses -/

/-- A piece: one to four hex digits. -/
def piece? (digits : List Char) : Option UInt16 :=
  if digits.isEmpty || 4 < digits.length then none
  else (Text.number? 16 digits).map UInt16.ofNat

/-- A byte in decimal, without a leading zero. -/
def decimalByte? (digits : List Char) : Option Nat :=
  if digits.isEmpty || (digits.length != 1 && digits.head? == some '0') then none
  else (Text.number? 10 digits).bind fun n => if n < 256 then some n else none

/-- The two pieces that a short address within a long one stands for. -/
def embedded? (text : List Char) : Option (List UInt16) :=
  match (Text.splitAt '.' text).mapM decimalByte? with
  | some [a, b, c, d] => some [UInt16.ofNat (a * 256 + b), UInt16.ofNat (c * 256 + d)]
  | _ => none

/-- The pieces of one side of an address. Only where `last` holds may the final part be a
short address. -/
def pieces? (last : Bool) : List (List Char) → Option (List UInt16)
  | [] => some []
  | [part] =>
    if last && part.contains '.' then embedded? part else (piece? part).map ([·])
  | part :: parts =>
    match piece? part, pieces? last parts with
    | some p, some ps => some (p :: ps)
    | _, _ => none

/-- One side of the gap: nothing at all, or pieces with colons between them. -/
def side? (last : Bool) (text : List Char) : Option (List UInt16) :=
  if text.isEmpty then some [] else pieces? last (Text.splitAt ':' text)

/-- What stands before the first pair of colons and after it. -/
def splitGap : List Char → Option (List Char × List Char)
  | [] => none
  | [_] => none
  | ':' :: ':' :: rest => some ([], rest)
  | c :: rest => (splitGap rest).map fun (before, after) => (c :: before, after)

/-- The long address that a text stands for. A gap stands for at least one piece. -/
def ipv6? (text : List Char) : Option (List UInt16) :=
  match splitGap text with
  | none => (side? true text).bind fun ps => if ps.length = 8 then some ps else none
  | some (before, after) =>
    match side? false before, side? true after with
    | some front, some back =>
      if front.length + back.length < 8 then
        some (front ++ List.replicate (8 - front.length - back.length) 0 ++ back)
      else none
    | _, _ => none

/-- The length of the run of zeros in front. -/
def zeroRun (pieces : List UInt16) : Nat :=
  (pieces.takeWhile (· == 0)).length

/-- The longest run of zeros, as its start and its length; the first of several. -/
def longestZeroRun (start : Nat) : List UInt16 → Nat × Nat
  | [] => (start, 0)
  | p :: ps =>
    let here := zeroRun (p :: ps)
    let later := longestZeroRun (start + 1) ps
    if later.2 ≤ here then (start, here) else later

/-- Pieces with colons between them, in lower-case hex. -/
def colonText (pieces : List UInt16) : List Char :=
  [':'].intercalate (pieces.map fun p => Nat.toDigits 16 p.toNat)

/-- The text of a long address: the longest run of at least two zeros is left out. -/
def ipv6Text (pieces : List UInt16) : List Char :=
  let gap := longestZeroRun 0 pieces
  if 2 ≤ gap.2 then
    colonText (pieces.take gap.1) ++ [':', ':'] ++ colonText (pieces.drop (gap.1 + gap.2))
  else colonText pieces

/-! ## Hosts -/

/-- The address between brackets, if the text is one. -/
def bracketed? : List Char → Option (Except Host.Refusal Host)
  | '[' :: rest =>
    match rest.getLast?, ipv6? rest.dropLast with
    | some ']', some pieces => some (.ok (.ipv6 pieces))
    | _, _ => some (.error .invalidIpv6)
  | _ => none

/-- The host of a special scheme. -/
def Host.parse (text : List Char) : Except Host.Refusal Host :=
  match bracketed? text with
  | some r => r
  | none =>
    match Domain.ofBytes? (percentDecode text) with
    | none => .error .invalidDomain
    | some [] => .error .empty
    | some name =>
      if endsInNumber name then
        match ipv4? name with
        | some address => .ok (.ipv4 address)
        | none => .error .invalidIpv4
      else .ok (.domain name)

/-- The characters that no host may hold. -/
def forbiddenInHost (c : Char) : Bool :=
  ['\x00', '\t', '\n', '\r', ' ', '#', '/', ':', '<', '>', '?', '@', '[', '\\', ']', '^',
    '|'].contains c

/-- The host of any other scheme. -/
def Host.parsePlain (text : List Char) : Except Host.Refusal Host :=
  match bracketed? text with
  | some r => r
  | none =>
    if text.any forbiddenInHost then .error .invalidCharacter
    else .ok (.plain (percentEncode codedAnywhere text))

/-- The text of a host. -/
def Host.text : Host → List Char
  | .domain name => name
  | .ipv4 address => ipv4Text address
  | .ipv6 pieces => '[' :: ipv6Text pieces ++ [']']
  | .plain text => text

/-- Whether the host is empty, as it may be in a `file` URL. -/
def Host.isEmpty (h : Host) : Bool :=
  h.text.isEmpty

end Rendezvous.Web
