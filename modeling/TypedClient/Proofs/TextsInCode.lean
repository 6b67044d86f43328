/-
This file shows that texts stand unchanged in the code of a client, wherever a name or an address is
written as a key or as a literal: in objects, in routes, in forms, in the keys of queries, and in
the address of the host.
-/

import TypedClient.Client.Hook
import TypedClient.Client.SupportModule
import TypedClient.Proofs.CallArguments
import TypedClient.Proofs.QuotedTexts
import TypedClient.Proofs.TemplateReading

namespace TypedClient

open Text

namespace Script

section Definitions

/-- Tells whether a character goes on with a name. -/
def isKeyPart (c : Char) : Bool :=
  isNamePart c || c == '$'

/-- The name that some code begins with, and the code behind it. -/
def name? (code : List Char) : Option (List Char × List Char) :=
  if (code.takeWhile isKeyPart).isEmpty then none
  else some (code.takeWhile isKeyPart, code.dropWhile isKeyPart)

/-- Tells whether a name may be a key: it consists of characters of ASCII, and is no number. -/
def isPlainName (name : List Char) : Bool :=
  name.all (fun c => c.isAlphanum || c == '_' || c == '$') && !name.head?.any Char.isDigit

/-- The code units of the key that some code begins with, a name or a literal, and the code behind
it. Other names and numbers have no meaning here. -/
def key? (code : List Char) : Option (List Nat × List Char) :=
  match name? code with
  | none => literal? code
  | some (name, behind) => if isPlainName name then some (textUnits name, behind) else none

/-- A member of an object: a key with the variable of its value, or a variable whose properties all
become members. -/
inductive Member
  | property (key : List Nat) (source : List Char)
  | spread (source : List Char)
  deriving DecidableEq, Repr

/-- The member that some code begins with, and the code behind it. A key without a value takes the
variable of its name. -/
def member? (code : List Char) : Option (Member × List Char) :=
  match dropStart? "...".toList code with
  | some rest => (name? rest).map fun found => (.spread found.1, found.2)
  | none => do
    let (key, behind) ← key? code
    (name? ((dropStart? ": ".toList behind).getD code)).map fun found =>
      (.property key found.1, found.2)

/-- At most the given number of members with a comma and a blank between them, and the code behind
the brace that closes the object. -/
def membersWithin? : Nat → List Char → Option (List Member × List Char)
  | 0, _ => none
  | steps + 1, code => do
    let (member, behind) ← member? code
    match dropStart? ", ".toList behind with
    | some rest => (membersWithin? steps rest).map fun found => (member :: found.1, found.2)
    | none => (dropStart? " \x7d".toList behind).map fun rest => ([member], rest)

/-- The members of the object in a line of code, under the given key. -/
def members? (key : String) (line : List Char) : Option (List Member) := do
  let inside ← dropStart? (key ++ ": \x7b ").toList line
  let (members, behind) ← membersWithin? inside.length inside
  if behind = [','] then some members else none

/-- The code units of the literals in some code, from left to right. Other kinds of literals and
comments have no meaning here. -/
def literals? : List Char → Option (List (List Nat))
  | [] => some []
  | c :: rest =>
    if c == '\'' then
      match _read : untilQuote? rest with
      | none => none
      | some (units, behind) => (literals? behind).map (units :: ·)
    else if ['"', '\x60', '/'].contains c then none
    else literals? rest
termination_by code => code.length
decreasing_by
  · exact Nat.lt_succ_of_lt (length_lt_of_untilQuote? _read)
  · simp

/-- Code is a key for a name: it is read as the name in front of whatever code does not go on with
a name. -/
def IsKeyOf (code name : String) : Prop :=
  ∀ behind, (∀ c ∈ behind.head?, isKeyPart c = false) →
    key? (code.toList ++ behind) = some (textUnits name.toList, behind)

/-- Code begins and ends no literal and no comment. -/
def IsPlain (code : List Char) : Prop :=
  ∀ c ∈ code, c ∉ ['\'', '"', '\x60', '/']

instance : DecidablePred IsPlain :=
  fun code => List.decidableBAll _ code

end Definitions

section Names

/-- A name of characters that may stand in the name of a variable. -/
structure IsName (name : List Char) : Prop where
  filled : name ≠ []
  named : ∀ c ∈ name, isNamePart c = true

theorem isName_identifier (name : String) : IsName (Name.identifier name).toList where
  filled := by
    have kept {safe : String} (filled : safe.toList ≠ []) :
        (if Name.reserved.contains safe then safe ++ "_" else safe).toList ≠ [] := by
      split
      · simp
      · exact filled
    rw [Name.identifier]
    refine kept ?_
    split
    case isTrue => simp
    case isFalse letter =>
      intro empty
      simp [empty] at letter
  named := isNamePart_of_mem_identifier

/-- A name of key characters is read up to code that does not go on with it. -/
theorem name?_append {name behind : List Char} (filled : name ≠ [])
    (inside : ∀ c ∈ name, isKeyPart c = true) (ends : ∀ c ∈ behind.head?, isKeyPart c = false) :
    name? (name ++ behind) = some (name, behind) := by
  have stops : behind.takeWhile isKeyPart = [] ∧ behind.dropWhile isKeyPart = behind := by
    cases behind with
    | nil => simp
    | cons c rest => simp [ends c rfl]
  simp [name?, List.takeWhile_append_of_pos inside, List.dropWhile_append_of_pos inside, stops,
    filled]

theorem IsName.read {name behind : List Char} (isName : IsName name)
    (ends : ∀ c ∈ behind.head?, isKeyPart c = false) :
    name? (name ++ behind) = some (name, behind) :=
  name?_append isName.filled (fun c member => by simp [isKeyPart, isName.named c member]) ends

theorem IsName.isPlain {name : List Char} (isName : IsName name) : IsPlain name := by
  have other : ['\'', '"', '\x60', '/'].all (fun mark => !isNamePart mark) = true := by decide
  intro c member mark
  have unnamed := List.all_eq_true.mp other c mark
  rw [isName.named c member] at unnamed
  contradiction

end Names

section Keys

theorem isDigit_eq_false_of_startsIdentifier {c : Char}
    (begins : Name.startsIdentifier c = true) : c.isDigit = false := by
  have each : ∀ code < 58, 48 ≤ code → Name.startsIdentifier (Char.ofNat code) = false := by decide
  by_contra digit
  obtain ⟨lower, upper⟩ := Char.isDigit_iff_toNat.mp ((Bool.not_eq_false _).mp digit)
  have known := each c.toNat (Nat.lt_succ_of_le upper) lower
  rw [Char.ofNat_toNat, begins] at known
  contradiction

/-- A character of an identifier is an ASCII letter or digit, or one of two signs. -/
theorem part_of_identifier {c : Char}
    (part : (Name.startsIdentifier c || c.isDigit) = true) :
    (c.isAlphanum || c == '_' || c == '$') = true := by
  simp only [Name.startsIdentifier, Bool.or_eq_true] at part
  simp only [Char.isAlphanum, Bool.or_eq_true]
  tauto

/-- An ASCII letter or digit and the two signs of identifiers go on with a name. -/
theorem isKeyPart_of_part {c : Char} (part : (c.isAlphanum || c == '_' || c == '$') = true) :
    isKeyPart c = true := by
  simp only [Bool.or_eq_true, beq_iff_eq] at part
  rcases part with (letter | rfl) | rfl
  · simp [isKeyPart, isNamePart, IsSign, letter]
  · decide
  · decide

theorem isPlainName_of_isIdentifier {name : String} (legal : Name.isIdentifier name = true) :
    name.toList ≠ [] ∧ isPlainName name.toList = true := by
  unfold Name.isIdentifier at legal
  split at legal
  case h_1 => contradiction
  case h_2 c rest characters =>
    rw [Bool.and_eq_true, List.all_eq_true] at legal
    obtain ⟨begins, continues⟩ := legal
    have parts : ∀ d ∈ c :: rest, (Name.startsIdentifier d || d.isDigit) = true :=
      List.forall_mem_cons.mpr ⟨by simp [begins], continues⟩
    rw [characters, isPlainName, Bool.and_eq_true, List.all_eq_true]
    exact ⟨List.cons_ne_nil c rest, fun d member => part_of_identifier (parts d member),
      by simp [isDigit_eq_false_of_startsIdentifier begins]⟩

theorem isKeyOf_propertyKey (name : String) : IsKeyOf (Name.propertyKey name) name := by
  intro behind ends
  rw [Name.propertyKey]
  split
  case isTrue legal =>
    obtain ⟨filled, plain⟩ := isPlainName_of_isIdentifier legal
    have parts := List.all_eq_true.mp (Bool.and_eq_true_iff.mp plain).1
    have read := name?_append filled (fun c member => isKeyPart_of_part (parts c member)) ends
    simp [key?, read, plain]
  case isFalse =>
    have unnamed : isKeyPart '\'' = false := by decide
    have code : name? ((Name.quote name).toList ++ behind) = none := by
      simp [toList_quote, name?, unnamed]
    rw [key?, code]
    exact (isLiteralOf_quote name).read behind

end Keys

section Members

/-- The member that an argument becomes in an object. -/
def memberOf (argument : Argument) : Member :=
  if argument.isSpread then .spread argument.identifier.toList
  else .property (textUnits argument.wireName.toList) argument.identifier.toList

/-- A key does not look like a variable whose properties all become members. -/
theorem dropStart?_propertyKey (name : String) (behind : List Char) :
    dropStart? "...".toList ((Name.propertyKey name).toList ++ behind) = none := by
  have first : ∃ c rest, (Name.propertyKey name).toList = c :: rest ∧ c ≠ '.' := by
    rw [Name.propertyKey]
    split
    case isTrue legal =>
      obtain ⟨filled, plain⟩ := isPlainName_of_isIdentifier legal
      obtain ⟨c, rest, characters⟩ := List.exists_cons_of_ne_nil filled
      refine ⟨c, rest, characters, ?_⟩
      rintro rfl
      simp [characters, isPlainName] at plain
    case isFalse => exact ⟨'\'', _, toList_quote name, by decide⟩
  obtain ⟨c, rest, characters, other⟩ := first
  simp [characters, dropStart?, Ne.symm other]

/-- Code that begins with a key is read as a member with the variable behind a colon, or else with
the variable of the name. -/
theorem member?_of_key {code behind : List Char} {key : List Nat}
    (single : dropStart? "...".toList code = none) (read : key? code = some (key, behind)) :
    member? code = (name? ((dropStart? ": ".toList behind).getD code)).map fun found =>
      (.property key found.1, found.2) := by
  simp only [member?, single, read, Option.bind_eq_bind, Option.bind_some]

/-- The field of an argument is read as its member in front of a comma or a blank. -/
theorem member?_field {argument : Argument} (isName : IsName argument.identifier.toList)
    {behind : List Char} (ends : ∀ c ∈ behind.head?, c = ',' ∨ c = ' ') :
    member? (argument.field.toList ++ behind) = some (memberOf argument, behind) := by
  have nameEnds : ∀ c ∈ behind.head?, isKeyPart c = false := by
    intro c member
    rcases ends c member with rfl | rfl <;> decide
  have unvalued : dropStart? ": ".toList behind = none := by
    cases behind with
    | nil => rfl
    | cons c rest => rcases ends c rfl with rfl | rfl <;> rfl
  have source := isName.read nameEnds
  rw [Argument.field, memberOf]
  split
  case isTrue =>
    have spread : dropStart? "...".toList
        ("...".toList ++ (argument.identifier.toList ++ behind)) =
        some (argument.identifier.toList ++ behind) := dropStart?_eq_some.mpr rfl
    rw [String.toList_append, List.append_assoc, member?, spread]
    simp [source]
  case isFalse =>
    split
    case isTrue same =>
      have key := isKeyOf_propertyKey argument.wireName behind nameEnds
      rw [member?_of_key (dropStart?_propertyKey _ _) key, unvalued, Option.getD_none,
        eq_of_beq same, source]
      rfl
    case isFalse =>
      have key := isKeyOf_propertyKey argument.wireName
        (": ".toList ++ (argument.identifier.toList ++ behind)) (by simp; decide)
      have valued : dropStart? ": ".toList (": ".toList ++ (argument.identifier.toList ++ behind)) =
          some (argument.identifier.toList ++ behind) := dropStart?_eq_some.mpr rfl
      rw [String.toList_append, String.toList_append, List.append_assoc, List.append_assoc,
        member?_of_key (dropStart?_propertyKey _ _) key, valued, Option.getD_some, source]
      rfl

theorem membersWithin?_last (steps : Nat) {code behind : List Char} {member : Member}
    (read : member? code = some (member, " \x7d".toList ++ behind)) :
    membersWithin? (steps + 1) code = some ([member], behind) := by
  simp [membersWithin?, read, dropStart?]

/-- Other members follow behind a comma. -/
theorem membersWithin?_more (steps : Nat) {code rest : List Char} {member : Member}
    (read : member? code = some (member, ", ".toList ++ rest)) :
    membersWithin? (steps + 1) code =
      (membersWithin? steps rest).map fun found => (member :: found.1, found.2) := by
  simp [membersWithin?, read, dropStart?]

/-- The fields of arguments with commas between them. -/
def fieldsCode (arguments : List Argument) : List Char :=
  ", ".toList.intercalate (arguments.map fun argument => argument.field.toList)

@[simp]
theorem fieldsCode_singleton (argument : Argument) :
    fieldsCode [argument] = argument.field.toList :=
  List.intercalate_singleton

theorem fieldsCode_cons_cons (first second : Argument) (rest : List Argument) :
    fieldsCode (first :: second :: rest) =
      first.field.toList ++ (", ".toList ++ fieldsCode (second :: rest)) := by
  rw [fieldsCode, List.map_cons, List.map_cons, List.intercalate_cons_cons, List.append_assoc]
  rfl

/-- There is at most one more field than there are characters. -/
theorem length_le_length_fieldsCode (arguments : List Argument) :
    arguments.length ≤ (fieldsCode arguments).length + 1 := by
  have comma : ", ".toList.length = 2 := rfl
  induction arguments with
  | nil => exact Nat.zero_le _
  | cons first rest inductionHypothesis =>
      cases rest with
      | nil => simp
      | cons second others =>
          rw [fieldsCode_cons_cons, List.length_append, List.length_append, List.length_cons]
          omega

/-- Fields with commas between them are read as their members up to the closing brace. -/
theorem membersWithin?_fieldsCode {arguments : List Argument} (filled : arguments ≠ [])
    (named : ∀ argument ∈ arguments, IsName argument.identifier.toList) (behind : List Char)
    {steps : Nat} (enough : arguments.length ≤ steps) :
    membersWithin? steps (fieldsCode arguments ++ (" \x7d".toList ++ behind)) =
      some (arguments.map memberOf, behind) := by
  induction arguments generalizing steps with
  | nil => contradiction
  | cons first rest inductionHypothesis =>
      obtain ⟨firstNamed, restNamed⟩ := List.forall_mem_cons.mp named
      obtain ⟨steps, rfl⟩ := Nat.exists_eq_add_of_le' (Nat.le_of_add_left_le enough)
      cases rest with
      | nil =>
          have last := @member?_field first firstNamed (" \x7d".toList ++ behind) (by simp)
          rw [fieldsCode_singleton]
          exact membersWithin?_last steps last
      | cons second others =>
          have later := inductionHypothesis (List.cons_ne_nil _ _) restNamed
            (Nat.le_of_succ_le_succ enough)
          rw [fieldsCode_cons_cons, List.append_assoc, List.append_assoc,
            membersWithin?_more steps (member?_field firstNamed (by simp)), later]
          rfl

end Members

section Literals

/-- Plain code in front of other code has no literals. -/
theorem literals?_append {front : List Char} (plain : IsPlain front) (behind : List Char) :
    literals? (front ++ behind) = literals? behind := by
  induction front with
  | nil => rfl
  | cons c front inductionHypothesis =>
      obtain ⟨here, later⟩ := List.forall_mem_cons.mp plain
      simp only [List.mem_cons, List.not_mem_nil, or_false, not_or] at here
      rw [List.cons_append, literals?, ← inductionHypothesis later]
      simp [here]

theorem literals?_quote (text : String) (behind : List Char) :
    literals? ((Name.quote text).toList ++ behind) =
      (literals? behind).map (textUnits text.toList :: ·) := by
  have read := untilQuote?_quoted text.toList behind
  rw [toList_quote, List.cons_append, List.append_assoc, List.singleton_append, literals?]
  simp only [beq_self_eq_true, if_true]
  split <;> simp_all

theorem literals?_of_isPlain {code : List Char} (plain : IsPlain code) :
    literals? code = some [] := by
  have whole := literals?_append plain []
  rwa [List.append_nil, literals?] at whole

theorem literals?_quote_of_isPlain (text : String) {behind : List Char} (plain : IsPlain behind) :
    literals? ((Name.quote text).toList ++ behind) = some [textUnits text.toList] := by
  rw [literals?_quote, literals?_of_isPlain plain]
  rfl

/-- In a list, a text in single quotes in front of plain code is the only literal. -/
theorem literals?_intercalate (text : String) {codes : List (List Char)}
    (plain : ∀ code ∈ codes, IsPlain code) :
    literals? (", ".toList.intercalate ((Name.quote text).toList :: codes)) =
      some [textUnits text.toList] := by
  have comma : IsPlain ", ".toList := by decide
  cases codes with
  | nil => simpa using literals?_quote_of_isPlain text (by decide : IsPlain [])
  | cons first rest =>
      rw [List.intercalate_cons_cons, List.append_assoc]
      refine literals?_quote_of_isPlain text (List.forall_mem_append.mpr ⟨comma, ?_⟩)
      exact forall_mem_intercalate comma plain

end Literals

end Script

open Script

namespace ClientFunction

/-- The texts that a function sends stand unchanged in its code: a route without tokens, the names
of the fields of a form, the keys of objects beside the variables of their values, and the two
texts in the key of a query. -/
structure KeepsTexts (function : ClientFunction) : Prop where
  route : Route.tokens function.endpoint.route = [] →
    IsLiteralOf (routeCode function.endpoint.route) function.endpoint.route
  form : (function.formLines.mapM fun line => literals? line.toList).map List.flatten =
    some ((function.argumentsAt .form).map fun argument => textUnits argument.wireName.toList)
  objects : ∀ key place, ((objectLine key (function.argumentsAt place)).mapM fun line =>
      members? key line.toList).map List.flatten =
    some ((function.argumentsAt place).map memberOf)
  queryKey : ∀ stem, literals? (function.queryKey stem).toList =
    some [textUnits stem.toList, textUnits function.name.toList]

section Arguments

variable {argument : Argument}

theorem literals?_appendCode (isName : IsName argument.identifier.toList) :
    literals? (appendCode argument).toList = some [textUnits argument.wireName.toList] := by
  have plain := isName.isPlain
  have enclosed {front back : List Char} (known : IsPlain front ∧ IsPlain back) :
      IsPlain (front ++ (argument.identifier.toList ++ back)) :=
    List.forall_mem_append.mpr ⟨known.1, List.forall_mem_append.mpr ⟨plain, known.2⟩⟩
  -- The name stands behind the variable in a loop over files, and in front of it elsewhere.
  have leading {front back : List Char} (known : IsPlain front ∧ IsPlain back) :
      literals? ("form.append(".toList ++ ((Name.quote argument.wireName).toList ++
        (front ++ (argument.identifier.toList ++ back)))) =
        some [textUnits argument.wireName.toList] := by
    rw [literals?_append (by decide)]
    exact literals?_quote_of_isPlain _ (enclosed known)
  simp only [appendCode]
  repeat' split
  all_goals simp only [String.toList_append, List.append_assoc]
  · rw [literals?_append (by decide), literals?_append plain, literals?_append (by decide)]
    exact literals?_quote_of_isPlain _ (by decide)
  · exact leading ⟨by decide, by decide⟩
  · exact leading ⟨by decide, by decide⟩
  · exact leading ⟨by decide, by decide⟩

theorem literals?_appendLine (isName : IsName argument.identifier.toList) :
    literals? (appendLine argument).toList = some [textUnits argument.wireName.toList] := by
  rw [appendLine]
  split
  case isTrue =>
    simp only [String.toList_append, List.append_assoc]
    rw [literals?_append (by decide), literals?_append isName.isPlain,
      literals?_append (by decide), literals?_appendCode isName]
  case isFalse => exact literals?_appendCode isName

/-- Fields in the braces of an object are read as the members of their arguments. -/
theorem members?_fields {arguments : List Argument} (filled : arguments ≠ [])
    (named : ∀ argument ∈ arguments, IsName argument.identifier.toList) (key : String) :
    members? key (key ++ ": \x7b " ++ ", ".intercalate (arguments.map Argument.field) ++
      " \x7d,").toList = some (arguments.map memberOf) := by
  have opened : dropStart? (key ++ ": \x7b ").toList (key ++ ": \x7b " ++
      ", ".intercalate (arguments.map Argument.field) ++ " \x7d,").toList =
      some (fieldsCode arguments ++ (" \x7d".toList ++ [','])) := by
    rw [dropStart?_eq_some]
    simp [fieldsCode, String.toList_intercalate, Function.comp_def]
  have enough : arguments.length ≤
      (fieldsCode arguments ++ (" \x7d".toList ++ [','])).length := by
    have short := length_le_length_fieldsCode arguments
    rw [List.length_append, List.length_append, List.length_singleton]
    omega
  rw [members?, opened]
  simp only [Option.bind_eq_bind, Option.bind_some,
    membersWithin?_fieldsCode filled named [','] enough, if_true]

theorem mapM_objectLine {arguments : List Argument}
    (named : ∀ argument ∈ arguments, IsName argument.identifier.toList) (key : String) :
    ((objectLine key arguments).mapM fun line => members? key line.toList).map List.flatten =
      some (arguments.map memberOf) := by
  rw [objectLine]
  split
  case isTrue none => simp [List.isEmpty_iff.mp none]
  case isFalse filled =>
    rw [List.mapM_cons, members?_fields (by simpa using filled) named]
    simp

theorem mapM_appendLine {arguments : List Argument}
    (named : ∀ argument ∈ arguments, IsName argument.identifier.toList) :
    (arguments.map appendLine).mapM (fun line => literals? line.toList) =
      some (arguments.map fun argument => [textUnits argument.wireName.toList]) := by
  induction arguments with
  | nil => rfl
  | cons first rest inductionHypothesis =>
      obtain ⟨here, later⟩ := List.forall_mem_cons.mp named
      simp [List.mapM_cons, literals?_appendLine here, inductionHypothesis later]

end Arguments

variable {context : Context} {endpoint : Endpoint}

theorem isName_of_mem_arguments :
    ∀ argument ∈ (ofEndpoint context endpoint).arguments, IsName argument.identifier.toList := by
  intro argument member
  rcases mem_arguments.mp member with ⟨token, -, rfl⟩ | ⟨parameter, -, -, rfl⟩
  · rw [identifier_routeArgument]
    exact isName_identifier token.name
  · rw [identifier_parameterArgument]
    exact isName_identifier parameter.name

/-- A client function keeps the texts that it sends. -/
theorem keepsTexts_ofEndpoint (context : Context) (endpoint : Endpoint) :
    (ofEndpoint context endpoint).KeepsTexts := by
  have named := @isName_of_mem_arguments context endpoint
  have namedAt (place : ParameterPlace) :
      ∀ argument ∈ (ofEndpoint context endpoint).argumentsAt place,
        IsName argument.identifier.toList :=
    fun argument member => named argument (List.mem_filter.mp member).1
  refine ⟨?route, ?form, ?objects, ?queryKey⟩
  case route =>
    intro none
    rw [routeCode, none]
    exact isLiteralOf_quote _
  case form =>
    rw [formLines]
    split
    case isTrue unformed => simp [List.isEmpty_iff.mp unformed]
    case isFalse =>
      have opened : literals? "const form = new FormData();".toList = some [] :=
        literals?_of_isPlain (by decide)
      rw [List.mapM_cons, opened, mapM_appendLine (namedAt .form)]
      simp [← List.flatMap_def, ← List.map_eq_flatMap]
  case objects => exact fun key place => mapM_objectLine (namedAt place) key
  case queryKey =>
    intro stem
    rw [queryKey, String.toList_intercalate]
    simp only [List.map_cons]
    rw [List.intercalate_cons_cons, List.append_assoc, literals?_quote,
      literals?_append (by decide), literals?_intercalate]
    · rfl
    · intro code member
      obtain ⟨_, inIdentifiers, rfl⟩ := List.mem_map.mp member
      obtain ⟨argument, inArguments, rfl⟩ := List.mem_map.mp inIdentifiers
      exact (named argument inArguments).isPlain

end ClientFunction

/-- A text in single quotes is one complete literal for the text and for no other, and the key for a
name is read as the name. Hence the texts that the functions of a client send stand unchanged in
their code, and the address of the host in the module that sends requests. -/
theorem quoted_texts_kept :
    (∀ text, IsLiteralOf (Name.quote text) text) ∧
      (∀ name, IsKeyOf (Name.propertyKey name) name) ∧
      (∀ context endpoint, (ClientFunction.ofEndpoint context endpoint).KeepsTexts) ∧
      ∀ baseUrl, ∃ line, (SupportModule.clientArtifact baseUrl).module.body =
          SupportModule.linesBeforeAddress ++ line :: SupportModule.linesBehindAddress ∧
        literals? line.toList = some [textUnits baseUrl.toList] := by
  refine ⟨isLiteralOf_quote, isKeyOf_propertyKey, ClientFunction.keepsTexts_ofEndpoint, ?address⟩
  case address =>
    intro baseUrl
    refine ⟨_, List.append_assoc _ _ _, ?_⟩
    simp only [String.toList_append, List.append_assoc]
    rw [literals?_append (by decide)]
    exact literals?_quote_of_isPlain baseUrl (by decide)

end TypedClient
