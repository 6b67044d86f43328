/-
This file checks the hosts of web addresses: names, and addresses of the fourth and the sixth
version of the internet protocol.
-/

import TypedClient.Text.Blank
import TypedClient.Text.Case
import TypedClient.Text.Hexadecimal
import TypedClient.Text.Piece
import TypedClient.Web.Punycode

namespace TypedClient.Web

/-- What is wrong with a web address. -/
inductive AddressError
  | relative
  | emptyHost
  | domainName
  | domainChar
  | port
  | fourthVersion
  | sixthVersion
  deriving DecidableEq, Repr, Inhabited

/-- The text of an error. -/
def AddressError.message : AddressError → String
  | relative => "relative URL without a base"
  | emptyHost => "empty host"
  | domainName => "invalid international domain name"
  | domainChar => "invalid domain character"
  | port => "invalid port number"
  | fourthVersion => "invalid IPv4 address"
  | sixthVersion => "invalid IPv6 address"

namespace Host

/-- The value of a byte that is a hexadecimal digit. -/
def hexByte? (byte : UInt8) : Option Nat :=
  Text.hexValue? (Char.ofNat byte.toNat)

/-- The byte that a percent sign and the two digits behind it stand for. -/
def encodedByte? (first : UInt8) : List UInt8 → Option UInt8
  | high :: low :: _ => do
    let value := 16 * (← hexByte? high) + (← hexByte? low)
    if first == 37 then some (UInt8.ofNat value) else none
  | _ => none

/-- The bytes of a text in which a percent sign and two hexadecimal digits stand for a byte. The
first `skipped` bytes have been read. -/
def percentDecoded (skipped : Nat) : List UInt8 → List UInt8
  | [] => []
  | first :: rest =>
    match skipped, encodedByte? first rest with
    | more + 1, _ => percentDecoded more rest
    | 0, some byte => byte :: percentDecoded 2 rest
    | 0, none => first :: percentDecoded 0 rest

/-- Tells whether an ASCII character may not stand in a host name. -/
def isDeniedAscii (c : Char) : Bool :=
  c.toNat ≤ 32 || c.toNat == 127 || "%#/:<>?@[\\]^|".toList.contains c

/-- Tells whether a character beyond ASCII may not stand in a host name: controls, blanks, accents
that stand on a blank, marks of the writing direction, and codes without a common meaning. -/
def isDeniedBeyond (c : Char) : Bool :=
  let code := c.toNat
  let within (low high : Nat) : Bool := low ≤ code && code ≤ high
  within 0x80 0x9f || Text.isBlank c || [0xa8, 0xaf, 0xb4, 0xb8].contains code ||
    within 0x2d8 0x2dd || within 0x200c 0x200f || within 0x202a 0x202e || within 0x2061 0x2063 ||
    within 0x2065 0x206f || within 0xe000 0xf8ff || within 0xfdd0 0xfdef ||
    within 0xfff9 0xffff || code % 0x10000 ≥ 0xfffe || within 0xe0000 0xe00ff || code ≥ 0xf0000

/-- Tells whether a character is left out of host names. -/
def isIgnored (c : Char) : Bool :=
  let code := c.toNat
  [0xad, 0x34f, 0x180f, 0x200b, 0x2060, 0x2064, 0xfeff].contains code ||
    (0x180b ≤ code && code ≤ 0x180d) || (0xfe00 ≤ code && code ≤ 0xfe0f) ||
    (0xe0100 ≤ code && code ≤ 0xe01ef)

/-- The plain form of a character: wide forms of ASCII characters and of the point become narrow,
and letters become small. -/
def plainForm (c : Char) : List Char :=
  let code := c.toNat
  if 0xff01 ≤ code && code ≤ 0xff5e then [(Char.ofNat (code - 0xfee0)).toLower]
  else if code == 0x3002 || code == 0xff61 then ['.']
  else Text.lowerForm c

def nameChars? (c : Char) : Option (List Char) :=
  if isIgnored c then some []
  else if isDeniedBeyond c then none
  else
    let plain := plainForm c
    if plain.any isDeniedAscii then none else some plain

/-- Tells whether a character is its own form in a host name. -/
def isNameChar (c : Char) : Bool :=
  nameChars? c == some [c]

/-- Tells whether a character is an accent that combines with the one in front. -/
def isCombining (c : Char) : Bool :=
  0x300 ≤ c.toNat && c.toNat ≤ 0x36f

/-- Tells whether a part of a host name between points is valid. An encoded part has to stand for
one that needs the encoding. -/
def isLabel (label : List Char) : Bool :=
  match Text.dropStart? "xn--".toList label with
  | none => !(label.head?.any isCombining)
  | some encoded =>
    match Punycode.decode? encoded with
    | none => false
    | some chars =>
      chars.all isNameChar && chars.any (fun c => c.toNat ≥ 128) &&
        !(chars.head?.any isCombining)

/-- The number that a part of an address stands for. A number behind `0x` is hexadecimal, and one
behind another zero is octal. -/
def partNumber? (part : List Char) : Option Nat :=
  match part with
  | [] => none
  | '0' :: 'x' :: digits => Text.numberTo? 16 digits
  | '0' :: 'X' :: digits => Text.numberTo? 16 digits
  | '0' :: digit :: digits => Text.numberTo? 8 (digit :: digits)
  | digits => Text.numberTo? 10 digits

/-- The parts of a name, without an empty one at the end. -/
def parts (name : List Char) : List (List Char) :=
  let all := Text.splitAt '.' name
  if all.getLast? == some [] then all.dropLast else all

/-- Tells whether the last part of a name is a number, so that the name has to be an address. -/
def endsInNumber (name : List Char) : Bool :=
  match (parts name).getLast? with
  | none => false
  | some last => (!last.isEmpty && last.all Char.isDigit) || (partNumber? last).isSome

/-- Tells whether a name is an address of the fourth version: at most four numbers, of which the
last stands for all bytes that have no number of their own. -/
def isFourthVersion (name : List Char) : Bool :=
  let pieces := parts name
  match pieces.mapM partNumber? with
  | none => false
  | some numbers =>
    pieces.length ≤ 4 && numbers.dropLast.all (· ≤ 255) &&
      numbers.getLast?.any (· < Nat.pow 256 (5 - numbers.length))

/-- Tells whether a text is a byte in decimal, without zeros in front. -/
def isByte (digits : List Char) : Bool :=
  !digits.isEmpty && digits.all Char.isDigit && digits.length ≤ 3 &&
    (digits.length == 1 || digits.head? != some '0') &&
    (partNumber? digits).any (· ≤ 255)

/-- Tells whether a text is four bytes with points between them. -/
def isDotted (text : List Char) : Bool :=
  let pieces := Text.splitAt '.' text
  pieces.length == 4 && pieces.all isByte

/-- The number of groups of 16 bits that a text between colons stands for. Only the last piece may
be four bytes, which are two groups. -/
def groupCount? (mayEndDotted : Bool) : List (List Char) → Option Nat
  | [] => some 0
  | piece :: rest =>
    let isGroup := piece.all fun c => (Text.hexValue? c).isSome
    if isGroup && 1 ≤ piece.length && piece.length ≤ 4 then
      (groupCount? mayEndDotted rest).map (· + 1)
    else if mayEndDotted && rest.isEmpty && isDotted piece then some 2
    else none

/-- The number of groups of a text; an empty text has none. -/
def groups? (mayEndDotted : Bool) (text : List Char) : Option Nat :=
  if text.isEmpty then some 0 else groupCount? mayEndDotted (Text.splitAt ':' text)

/-- Tells whether a text is an address of the sixth version: eight groups, or fewer of them around
two colons. -/
def isSixthVersion (text : List Char) : Bool :=
  match Text.cutFirst? [':', ':'] text with
  | none => groups? true text == some 8
  | some (before, behind) =>
    match groups? false before, groups? true behind with
    | some left, some right => left + right ≤ 7
    | _, _ => false

def checkBrackets (host : List Char) : Except AddressError Unit :=
  match Text.dropEnd? [']'] (host.drop 1) with
  | none => .error .sixthVersion
  | some inner => if isSixthVersion inner then .ok () else .error .sixthVersion

/-- The name that a text stands for once it is decoded. -/
def name? (host : List Char) : Option (List Char) := do
  let bytes := percentDecoded 0 (String.ofList host).toUTF8.toList
  let decoded ← String.fromUTF8? (ByteArray.mk bytes.toArray)
  let chars ← decoded.toList.mapM nameChars?
  let name := chars.flatten
  if (Text.splitAt '.' name).all isLabel then some name else none

/-- Checks the host of an address whose scheme knows about host names. -/
def check (host : List Char) : Except AddressError Unit :=
  if host.head? == some '[' then checkBrackets host
  else
    match name? host with
    | none => .error .domainName
    | some name =>
      if name.isEmpty then .error .emptyHost
      else if endsInNumber name && !isFourthVersion name then .error .fourthVersion
      else .ok ()

/-- Tells whether a character may not stand in a host of a scheme that knows nothing about it. -/
def isDeniedOpaque (c : Char) : Bool :=
  c.toNat == 0 || "\t\n\r #/:<>?@[\\]^|".toList.contains c

/-- Checks the host of an address whose scheme knows nothing about host names. -/
def checkOpaque (host : List Char) : Except AddressError Unit :=
  if host.head? == some '[' then checkBrackets host
  else if host.any isDeniedOpaque then .error .domainChar
  else .ok ()

end Host

end TypedClient.Web
