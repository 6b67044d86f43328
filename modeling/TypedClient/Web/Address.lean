/-
This file checks the addresses that a client may have in front of its routes: nothing, a path from
the root of the site, or a web address.
-/

import TypedClient.Web.Host

namespace TypedClient.Web

namespace Address

/-- The characters of an address that count: blanks and controls at the ends, and tabs and line
ends everywhere, do not. -/
def significant (address : String) : List Char :=
  let isControl (c : Char) : Bool := c.toNat ≤ 32
  let inner := Text.dropEndWhile isControl (address.toList.dropWhile isControl)
  inner.filter fun c => !"\t\n\r".toList.contains c

/-- Tells whether a character may stand in a scheme behind its first letter. -/
def isSchemeChar (c : Char) : Bool :=
  c.isAlphanum || c == '+' || c == '-' || c == '.'

/-- The scheme of an address in small letters, and what follows its colon. -/
def scheme? (address : List Char) : Option (String × List Char) :=
  let scheme := address.takeWhile isSchemeChar
  match address.dropWhile isSchemeChar with
  | ':' :: rest =>
    if scheme.head?.any Char.isAlpha then
      some (Text.lowerAscii (String.ofList scheme), rest)
    else none
  | _ => none

/-- Tells whether a character is a slash; a backslash is one too where a scheme knows about host
names. -/
def isSlash (isSpecial : Bool) (c : Char) : Bool :=
  c == '/' || (isSpecial && c == '\\')

/-- Tells whether a character ends the part of an address that names the host. -/
def endsAuthority (isSpecial : Bool) (c : Char) : Bool :=
  isSlash isSpecial c || c == '?' || c == '#'

/-- The part that names the user, if there is one, and what follows its last at sign. -/
def user? (isSpecial : Bool) (rest : List Char) : Option (List Char) × List Char :=
  let authority := rest.takeWhile fun c => !endsAuthority isSpecial c
  match Text.cutLast? '@' authority with
  | none => (none, rest)
  | some (user, _) => (some user, rest.drop (user.length + 1))

/-- The number of characters up to a colon outside of brackets. -/
def hostLength (inBrackets : Bool) : List Char → Nat
  | [] => 0
  | c :: rest =>
    if c == ':' && !inBrackets then 0
    else 1 + hostLength (c == '[' || (inBrackets && c != ']')) rest

def checkPort (isEnd : Char → Bool) (rest : List Char) : Except AddressError Unit :=
  let port := rest.takeWhile fun c => !isEnd c
  let digits := port.takeWhile Char.isDigit
  if (Text.numberTo? 10 digits).any (· ≤ 65535) && digits.length == port.length then .ok ()
  else .error .port

/-- Checks the part of an address that names a user, a host and a port. -/
def checkAuthority (isSpecial : Bool) (rest : List Char) : Except AddressError Unit := do
  let (user, behind) := user? isSpecial rest
  if user == some [] && behind.head?.any (endsAuthority isSpecial) then throw .emptyHost
  let authority := behind.takeWhile fun c => !endsAuthority isSpecial c
  let length := hostLength false authority
  let host := authority.take length
  let port := behind.drop length
  if isSpecial then
    if host.isEmpty then throw .emptyHost
    Host.check host
  else
    Host.checkOpaque host
    if host.isEmpty && port.head? == some ':' then throw .emptyHost
  if port.head? == some ':' then
    checkPort (fun c => endsAuthority true c) (port.drop 1)
  if host.isEmpty && user.any (fun name => name != [] && name != [':']) then throw .emptyHost

/-- Tells whether a text names a drive. -/
def isDrive : List Char → Bool
  | [letter, mark] => letter.isAlpha && (mark == ':' || mark == '|')
  | _ => false

def checkFile : List Char → Except AddressError Unit
  | first :: second :: rest =>
    if isSlash true first && isSlash true second then
      let host := rest.takeWhile fun c => !endsAuthority true c
      if host.isEmpty || isDrive host then .ok () else Host.check host
    else .ok ()
  | _ => .ok ()

/-- Checks what follows the scheme of an address. -/
def checkBehindScheme (scheme : String) (rest : List Char) : Except AddressError Unit :=
  if scheme == "file" then checkFile rest
  else if ["http", "https", "ws", "wss", "ftp"].contains scheme then
    checkAuthority true (rest.dropWhile (isSlash true))
  else
    match Text.dropStart? ['/', '/'] rest with
    | some authority => checkAuthority false authority
    | none => .ok ()

def scheme (address : String) : Except AddressError String :=
  match scheme? (significant address) with
  | none => .error .relative
  | some (scheme, rest) => (checkBehindScheme scheme rest).map fun _ => scheme

/-- Why an address cannot stand in front of the routes of a client. -/
def refusal? (address : String) : Option String :=
  if address.isEmpty || address.toList.head? == some '/' then none
  else
    match scheme address with
    | .error error => some error.message
    | .ok name =>
      if name == "http" || name == "https" then none
      else some ("unsupported scheme '" ++ name ++ "'")

end Address

end TypedClient.Web
