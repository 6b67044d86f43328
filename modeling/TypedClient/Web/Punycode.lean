/-
This file decodes Punycode, the ASCII form of the labels of international host names. The ASCII
characters of a label stand in front of the last hyphen. Behind it stand numbers that tell which
other characters are inserted where.
-/

namespace TypedClient.Web.Punycode

def digitValue? (c : Char) : Option Nat :=
  if 'a' ≤ c ∧ c ≤ 'z' then some (c.toNat - 'a'.toNat)
  else if 'A' ≤ c ∧ c ≤ 'Z' then some (c.toNat - 'A'.toNat)
  else if c.isDigit then some (c.toNat - '0'.toNat + 26)
  else none

/-- The least value that a digit has if another one follows it. -/
def threshold (position bias : Nat) : Nat :=
  if position ≤ bias then 1 else min 26 (position - bias)

/-- Divides a distance until it is small, and counts the divisions in steps of 36. -/
def scaleDown : Nat → Nat → Nat × Nat
  | 0, delta => (0, delta)
  | steps + 1, delta =>
    if delta > 455 then
      let (count, rest) := scaleDown steps (delta / 35)
      (count + 36, rest)
    else (0, delta)

/-- The bias for the next number. -/
def adapt (delta length : Nat) (isFirst : Bool) : Nat :=
  let start := if isFirst then delta / 700 else delta / 2
  let (count, rest) := scaleDown delta (start + start / length)
  count + 36 * rest / (rest + 38)

/-- Where a decoder stands: the characters so far, and where and what it inserts next. -/
structure Progress where
  chars : List Char
  code : Nat := 128
  place : Nat := 0
  bias : Nat := 72

/-- Inserts the character that a number stands for. -/
def Progress.insert? (progress : Progress) (number : Nat) : Option Progress :=
  let length := progress.chars.length + 1
  let total := progress.place + number
  let code := progress.code + total / length
  let place := total % length
  if code.isValidChar then
    some { chars := progress.chars.take place ++ Char.ofNat code :: progress.chars.drop place
           code := code
           place := place + 1
           bias := adapt number length (progress.place == 0) }
  else none

/-- Decodes digits. A number has `value` so far, its next digit has the given weight, and the digit
stands at the given position. -/
def decodeDigits (progress : Progress) (value weight position : Nat) :
    List Char → Option (List Char)
  | [] => if position == 36 then some progress.chars else none
  | c :: rest =>
    match digitValue? c with
    | none => none
    | some digit =>
      let number := value + digit * weight
      let least := threshold position progress.bias
      if digit < least then
        match progress.insert? number with
        | none => none
        | some next => decodeDigits next 0 1 36 rest
      else decodeDigits progress number (weight * (36 - least)) (position + 36) rest

/-- The parts of a label before and behind its last hyphen. -/
def parts (label : List Char) : List Char × List Char :=
  let behind := (label.reverse.takeWhile (· != '-')).reverse
  (label.take (label.length - behind.length - 1), behind)

def decode? (label : List Char) : Option (List Char) :=
  let (ascii, digits) := parts label
  decodeDigits { chars := ascii } 0 1 36 digits

end TypedClient.Web.Punycode
