/-
This file says what literals of the client language stand for: texts in single quotes, and templates
whose holes put the values of variables into an address. Values are rows of UTF-16 code units.
-/

import Mathlib.Data.List.TakeWhile
import TypedClient.Client.Function
import TypedClient.Proofs.CaseForms
import TypedClient.Proofs.NestedText
import TypedClient.Proofs.Pieces
import TypedClient.Text.Hexadecimal

namespace TypedClient.Script

open Text

def codeUnits (code : Nat) : List Nat :=
  if code < 0x10000 then [code]
  else [0xd800 + (code - 0x10000) / 0x400, 0xdc00 + (code - 0x10000) % 0x400]

def textUnits (cs : List Char) : List Nat :=
  cs.flatMap fun c => codeUnits c.toNat

@[simp]
theorem textUnits_nil : textUnits [] = [] := rfl

@[simp]
theorem textUnits_cons (c : Char) (rest : List Char) :
    textUnits (c :: rest) = codeUnits c.toNat ++ textUnits rest :=
  List.flatMap_cons

@[simp]
theorem textUnits_append (front behind : List Char) :
    textUnits (front ++ behind) = textUnits front ++ textUnits behind :=
  List.flatMap_append

theorem length_codeUnits (code : Nat) :
    1 ≤ (codeUnits code).length ∧ (codeUnits code).length ≤ 2 := by
  unfold codeUnits
  split <;> simp

theorem length_le_length_textUnits (cs : List Char) : cs.length ≤ (textUnits cs).length := by
  induction cs with
  | nil => exact Nat.le_refl 0
  | cons c rest inductionHypothesis =>
      have positive := (length_codeUnits c.toNat).1
      rw [textUnits_cons, List.length_append, List.length_cons]
      omega

section Escapes

/-- Tells whether a character ends a line. -/
def endsLine (c : Char) : Bool :=
  c == '\n' || c == '\r' || c == '\u2028' || c == '\u2029'

/-- The letters that stand for control characters behind a backslash. -/
def controls : List (Char × Nat) :=
  [('b', 8), ('t', 9), ('n', 10), ('v', 11), ('f', 12), ('r', 13)]

/-- The value of a fixed number of hexadecimal digits, and the text behind them. -/
def hexNumber? (count : Nat) (cs : List Char) : Option (Nat × List Char) :=
  if cs.length < count then none
  else (numberTo? 16 (cs.take count)).map fun value => (value, cs.drop count)

/-- What four hexadecimal digits stand for, or any number of them in braces. -/
def codePoint? : List Char → Option (List Nat × List Char)
  | '{' :: rest => do
    let (digits, behind) ← cutFirst? ['}'] rest
    let code ← numberTo? 16 digits
    if digits.isEmpty || 0x110000 ≤ code then none else some (codeUnits code, behind)
  | rest => (hexNumber? 4 rest).map fun found => ([found.1], found.2)

/-- The text behind a carriage return; a line feed there belongs to the same end of a line. -/
def behindReturn (cs : List Char) : List Char :=
  (dropStart? ['\n'] cs).getD cs

/-- What the text behind a backslash stands for, and the text behind the escape. The end of a line
stands for nothing, and a character without a meaning of its own for itself. -/
def escape? : List Char → Option (List Nat × List Char)
  | [] => none
  | c :: rest =>
    if c == 'x' then (hexNumber? 2 rest).map fun found => ([found.1], found.2)
    else if c == 'u' then codePoint? rest
    else if c == '\r' then some ([], behindReturn rest)
    else if endsLine c then some ([], rest)
    else if c == '0' then if rest.head?.any Char.isDigit then none else some ([0], rest)
    else if c.isDigit then none
    else some (codeUnits ((controls.lookup c).getD c.toNat), rest)

end Escapes

/-- The code units of a literal behind its opening single quote, in at most the given number of
steps. -/
def quotedWithin? : Nat → List Char → Option (List Nat)
  | 0, _ => none
  | _, [] => none
  | steps + 1, c :: rest =>
    if c == '\'' then if rest.isEmpty then some [] else none
    else if c == '\\' then do
      let (units, behind) ← escape? rest
      (quotedWithin? steps behind).map (units ++ ·)
    else if c == '\n' || c == '\r' then none
    else (quotedWithin? steps rest).map (codeUnits c.toNat ++ ·)

section Addresses

/-- Tells whether a character stands for itself in a component of an address. -/
def isUnreserved (c : Char) : Bool :=
  c.isAlphanum || "-_.!~*'()".toList.contains c

/-- A byte as a percent sign and two hexadecimal digits. -/
def percentByte (byte : UInt8) : List Char :=
  ['%', (Nat.digitChar (byte.toNat / 16)).toUpper, (Nat.digitChar (byte.toNat % 16)).toUpper]

/-- A text as a component of an address: the bytes of the characters that do not stand for
themselves are written with percent signs. -/
def encodedComponent (text : List Char) : List Char :=
  text.flatMap fun c =>
    if isUnreserved c then [c] else (String.utf8EncodeChar c).flatMap percentByte

/-- A text as components of an address that slashes separate. -/
def encodedSegments (text : List Char) : List Char :=
  ['/'].intercalate ((splitAt '/' text).map encodedComponent)

end Addresses

/-- A part of the value of a template: a code unit, or the value of a variable as a component of an
address or as several of them. -/
inductive Fragment
  | unit (code : Nat)
  | component (name : String)
  | segments (name : String)
  deriving DecidableEq, Repr

section Templates

/-- Tells whether a character may stand in the name of a variable in a hole. -/
def isNamePart (c : Char) : Bool :=
  !decide (IsSign c) || c == '_'

/-- The variable between two given texts, and the text behind them. -/
def call? (front back : String) (cs : List Char) : Option (String × List Char) := do
  let inside ← dropStart? front.toList cs
  let behind ← dropStart? back.toList (inside.dropWhile isNamePart)
  some (String.ofList (inside.takeWhile isNamePart), behind)

/-- Reads a hole of a template behind its opening, with its closing brace. A hole with other code
than the two calls has no meaning here. -/
def hole? (cs : List Char) : Option (Fragment × List Char) :=
  ((call? "encodeURIComponent(" ")\x7d" cs).map fun found => (.component found.1, found.2)).or
    ((call? "String(" ").split('/').map(encodeURIComponent).join('/')\x7d" cs).map fun found =>
      (.segments found.1, found.2))

/-- The fragments of a template behind its opening backquote, in at most the given number of
steps. -/
def templateWithin? : Nat → List Char → Option (List Fragment)
  | 0, _ => none
  | _, [] => none
  | steps + 1, c :: rest =>
    if c == '\x60' then if rest.isEmpty then some [] else none
    else if c == '\\' then do
      let (units, behind) ← escape? rest
      (templateWithin? steps behind).map (units.map .unit ++ ·)
    else if c == '\r' then
      (templateWithin? steps (behindReturn rest)).map (.unit 10 :: ·)
    else match if c == '$' then dropStart? ['{'] rest else none with
      | some inside => do
        let (fragment, behind) ← hole? inside
        (templateWithin? steps behind).map (fragment :: ·)
      | none => (templateWithin? steps rest).map ((codeUnits c.toNat).map .unit ++ ·)

namespace Fragment

/-- The functions that the code of a fragment calls. -/
def calls : Fragment → List String
  | unit _ => []
  | component _ => ["encodeURIComponent"]
  | segments _ => ["String", "encodeURIComponent"]

/-- The code units of a fragment where `scope` gives the variables their values. A variable with the
name of a function that the fragment calls hides the function. -/
def value? (scope : String → Option String) (fragment : Fragment) : Option (List Nat) :=
  if fragment.calls.any fun function => (scope function).isSome then none
  else match fragment with
    | unit code => some [code]
    | component name => (scope name).map fun text => textUnits (encodedComponent text.toList)
    | segments name => (scope name).map fun text => textUnits (encodedSegments text.toList)

end Fragment

end Templates

/-- The code units of a literal in single quotes or of a template, where `scope` gives the variables
their values. -/
def evaluate? (scope : String → Option String) (code : String) : Option (List Nat) :=
  match code.toList with
  | '\'' :: rest => quotedWithin? rest.length rest
  | '\x60' :: rest => do
    let fragments ← templateWithin? rest.length rest
    let values ← fragments.mapM (Fragment.value? scope)
    some values.flatten
  | _ => none

/-- No character of a text is a dollar sign or a backquote. -/
def Markless (cs : List Char) : Prop :=
  ∀ c ∈ cs, c ≠ '$' ∧ c ≠ '\x60'

instance : DecidablePred Markless :=
  fun cs => List.decidableBAll _ cs

section Escapes

theorem isSome_hexValue?_of_numberTo? {base value : Nat} {digits : List Char}
    (read : numberTo? base digits = some value) : ∀ c ∈ digits, (hexValue? c).isSome := by
  obtain ⟨values, found, -⟩ := Option.bind_eq_some_iff.mp read
  clear read
  induction digits generalizing values with
  | nil => simp
  | cons c rest inductionHypothesis =>
      simp only [List.mapM_cons, Option.pure_def, Option.bind_eq_bind,
        Option.bind_eq_some_iff] at found
      obtain ⟨digit, here, others, later, -⟩ := found
      exact List.forall_mem_cons.mpr ⟨by simp [here], inductionHypothesis others later⟩

theorem markless_of_digits {digits : List Char} (known : ∀ c ∈ digits, (hexValue? c).isSome) :
    Markless digits := by
  intro c member
  have value := known c member
  refine ⟨?_, ?_⟩ <;> (rintro rfl; exact absurd value (by decide))

/-- A number of so many digits stands in front of the text behind it. -/
theorem exists_digits_of_hexNumber? {count value : Nat} {cs behind : List Char}
    (read : hexNumber? count cs = some (value, behind)) :
    ∃ digits, cs = digits ++ behind ∧ Markless digits := by
  unfold hexNumber? at read
  split at read
  · contradiction
  · obtain ⟨number, found, same⟩ := Option.map_eq_some_iff.mp read
    obtain ⟨rfl, rfl⟩ := Prod.mk.inj same
    exact ⟨cs.take count, (List.take_append_drop count cs).symm,
      markless_of_digits (isSome_hexValue?_of_numberTo? found)⟩

/-- A code point stands in front of the text behind it, in so many characters that one more is no
fewer than it has code units. -/
theorem exists_used_of_codePoint? {cs behind : List Char} {units : List Nat}
    (read : codePoint? cs = some (units, behind)) :
    ∃ used, cs = used ++ behind ∧ units.length ≤ used.length + 1 ∧ Markless used := by
  unfold codePoint? at read
  split at read
  · obtain ⟨⟨digits, found⟩, cut, counted⟩ := Option.bind_eq_some_iff.mp read
    obtain ⟨code, value, checked⟩ := Option.bind_eq_some_iff.mp counted
    obtain ⟨rfl, -⟩ := cutFirst?_singleton_eq_some.mp cut
    clear read counted
    split at checked
    · contradiction
    · obtain ⟨rfl, rfl⟩ := Prod.mk.inj (Option.some.inj checked)
      have short := (length_codeUnits code).2
      have inside := markless_of_digits (isSome_hexValue?_of_numberTo? value)
      have closing : Markless ['}'] := by decide
      refine ⟨'{' :: (digits ++ ['}']), by simp, by simp; omega, ?_⟩
      exact List.forall_mem_cons.mpr
        ⟨by decide, List.forall_mem_append.mpr ⟨inside, closing⟩⟩
  · obtain ⟨⟨code, found⟩, number, same⟩ := Option.map_eq_some_iff.mp read
    obtain ⟨rfl, rfl⟩ := Prod.mk.inj same
    obtain ⟨digits, rfl, markless⟩ := exists_digits_of_hexNumber? number
    exact ⟨digits, rfl, by simp, markless⟩

theorem length_control (c : Char) :
    (codeUnits ((controls.lookup c).getD c.toNat)).length ≤ (codeUnits c.toNat).length := by
  have small : ∀ entry ∈ controls, (codeUnits entry.2).length = 1 := by decide
  have positive := (length_codeUnits c.toNat).1
  cases found : controls.lookup c with
  | none => exact Nat.le_refl _
  | some code =>
      obtain ⟨before, behind, same, -⟩ := List.lookup_eq_some_iff.mp found
      rw [Option.getD_some, small (c, code) (by simp [same])]
      exact positive

/-- Behind a carriage return at most a line feed is left out. -/
theorem exists_feed_of_behindReturn (cs : List Char) :
    ∃ feed, cs = feed ++ behindReturn cs ∧ Markless feed := by
  cases found : dropStart? ['\n'] cs with
  | none => exact ⟨[], by simp [behindReturn, found], by decide⟩
  | some rest =>
      exact ⟨['\n'], by simpa [behindReturn, found] using dropStart?_eq_some.mp found, by decide⟩

/-- An escape stands in front of the text behind it, and has no more code units than it. It is a
single character, or none of its characters is a mark. -/
theorem exists_used_of_escape? {cs behind : List Char} {units : List Nat}
    (read : escape? cs = some (units, behind)) :
    ∃ used, cs = used ++ behind ∧ units.length ≤ (textUnits used).length ∧
      ((∃ c, used = [c]) ∨ Markless used) := by
  cases cs with
  | nil => simp [escape?] at read
  | cons c rest =>
      have single {value : List Nat} (short : value.length ≤ (codeUnits c.toNat).length)
          (same : some (value, rest) = some (units, behind)) :
          ∃ used, c :: rest = used ++ behind ∧ units.length ≤ (textUnits used).length ∧
            ((∃ d, used = [d]) ∨ Markless used) := by
        obtain ⟨rfl, rfl⟩ := Prod.mk.inj (Option.some.inj same)
        exact ⟨[c], rfl, by simpa using short, .inl ⟨c, rfl⟩⟩
      have several {used : List Char} (split : rest = used ++ behind)
          (short : units.length ≤ used.length + 1) (markless : Markless (c :: used)) :
          ∃ used, c :: rest = used ++ behind ∧ units.length ≤ (textUnits used).length ∧
            ((∃ d, used = [d]) ∨ Markless used) :=
        ⟨c :: used, by rw [split]; rfl, Nat.le_trans short (length_le_length_textUnits (c :: used)),
          .inr markless⟩
      -- The cases are the kinds of escapes in the order in which they are tried.
      simp only [escape?] at read
      split at read
      case isTrue letter =>
        obtain rfl := eq_of_beq letter
        obtain ⟨⟨code, found⟩, number, same⟩ := Option.map_eq_some_iff.mp read
        obtain ⟨rfl, rfl⟩ := Prod.mk.inj same
        obtain ⟨digits, split, markless⟩ := exists_digits_of_hexNumber? number
        exact several split (by simp) (List.forall_mem_cons.mpr ⟨by decide, markless⟩)
      split at read
      case isTrue letter =>
        obtain rfl := eq_of_beq letter
        obtain ⟨used, split, short, markless⟩ := exists_used_of_codePoint? read
        exact several split short (List.forall_mem_cons.mpr ⟨by decide, markless⟩)
      split at read
      case isTrue letter =>
        obtain rfl := eq_of_beq letter
        obtain ⟨rfl, rfl⟩ := Prod.mk.inj (Option.some.inj read)
        obtain ⟨feed, split, markless⟩ := exists_feed_of_behindReturn rest
        exact several split (Nat.zero_le _) (List.forall_mem_cons.mpr ⟨by decide, markless⟩)
      split at read
      · exact single (by simp) read
      split at read
      · split at read
        · contradiction
        · exact @single [0] (length_codeUnits c.toNat).1 read
      split at read
      · contradiction
      · exact single (length_control c) read

end Escapes

section Holes

variable {front back : String} {cs behind : List Char} {name : String}

theorem markless_of_name {word : List Char} (named : ∀ c ∈ word, isNamePart c = true) :
    Markless word := by
  intro c member
  have part := named c member
  refine ⟨?_, ?_⟩ <;> (rintro rfl; exact absurd part (by decide))

/-- A variable that is found stands between the given texts. -/
theorem exists_used_of_call? (markless : Markless front.toList ∧ Markless back.toList)
    (read : call? front back cs = some (name, behind)) :
    ∃ used, cs = used ++ behind ∧ Markless used := by
  obtain ⟨inside, first, later⟩ := Option.bind_eq_some_iff.mp read
  obtain ⟨found, second, same⟩ := Option.bind_eq_some_iff.mp later
  obtain ⟨rfl, rfl⟩ := Prod.mk.inj (Option.some.inj same)
  refine ⟨front.toList ++ inside.takeWhile isNamePart ++ back.toList, ?split, ?markless⟩
  case split =>
    rw [dropStart?_eq_some.mp first, List.append_assoc, List.append_assoc,
      ← dropStart?_eq_some.mp second, List.takeWhile_append_dropWhile]
  case markless =>
    have word : Markless (inside.takeWhile isNamePart) :=
      markless_of_name fun c member => List.mem_takeWhile_imp member
    exact List.forall_mem_append.mpr
      ⟨List.forall_mem_append.mpr ⟨markless.1, word⟩, markless.2⟩

theorem exists_used_of_hole? {fragment : Fragment} (read : hole? cs = some (fragment, behind)) :
    ∃ used, cs = used ++ behind ∧ Markless used := by
  rcases Option.or_eq_some_iff.mp read with here | ⟨-, here⟩
  all_goals
    obtain ⟨⟨name, found⟩, call, same⟩ := Option.map_eq_some_iff.mp here
    obtain ⟨rfl, rfl⟩ := Prod.mk.inj same
    exact exists_used_of_call? (by decide) call

/-- A variable between the given texts is found. -/
theorem call?_append (named : ∀ c ∈ name.toList, isNamePart c = true)
    (closes : back.toList.head? = some ')') :
    call? front back (front.toList ++ (name.toList ++ (back.toList ++ behind))) =
      some (name, behind) := by
  have stop : isNamePart ')' = false := by decide
  obtain ⟨rest, closing⟩ := List.head?_eq_some_iff.mp closes
  have opened : dropStart? front.toList (front.toList ++ (name.toList ++ (back.toList ++ behind))) =
      some (name.toList ++ (back.toList ++ behind)) := dropStart?_eq_some.mpr rfl
  have closed : dropStart? back.toList (back.toList ++ behind) = some behind :=
    dropStart?_eq_some.mpr rfl
  have taken : (name.toList ++ (back.toList ++ behind)).takeWhile isNamePart = name.toList := by
    rw [List.takeWhile_append_of_pos named, closing, List.cons_append,
      List.takeWhile_cons_of_neg (by simp [stop]), List.append_nil]
  have dropped : (name.toList ++ (back.toList ++ behind)).dropWhile isNamePart =
      back.toList ++ behind := by
    rw [List.dropWhile_append_of_pos named, closing, List.cons_append,
      List.dropWhile_cons_of_neg (by simp [stop])]
  simp [call?, opened, taken, dropped, closed, String.ofList_toList]

end Holes

end TypedClient.Script
