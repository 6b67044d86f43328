/-
This file says for which routes the code of a path gives the path: each token is replaced by the
encoded value of its variable, and everything else stays as it is, exactly where no text between the
tokens has a meaning of its own in a template and no variable hides a function that is called.
-/

import TypedClient.Proofs.QuotedTexts
import TypedClient.Proofs.RouteRanges
import TypedClient.Proofs.TemplateReading

namespace TypedClient

open Text

namespace Script

/-- The code units of a fragment for given values of the variables. -/
def Fragment.units (values : String → String) : Fragment → List Nat
  | unit code => [code]
  | component name => textUnits (encodedComponent (values name).toList)
  | segments name => textUnits (encodedSegments (values name).toList)

section Values

/-- For some values two fragments begin with different code units. -/
def Differ (first second : Fragment) : Prop :=
  ∃ values one two, one ≠ two ∧ (first.units values).head? = some one ∧
    (second.units values).head? = some two

theorem Differ.symm {first second : Fragment} : Differ first second → Differ second first
  | ⟨values, one, two, other, here, there⟩ => ⟨values, two, one, other.symm, there, here⟩

/-- A code unit differs from every other fragment: a variable may begin with another letter. -/
theorem differ_unit {code : Nat} {fragment : Fragment} (other : .unit code ≠ fragment) :
    Differ (.unit code) fragment := by
  have letter : ∃ text : String, ∃ unit, code ≠ unit ∧
      (textUnits (encodedComponent text.toList)).head? = some unit ∧
      (textUnits (encodedSegments text.toList)).head? = some unit := by
    rcases eq_or_ne code 97 with rfl | different
    · exact ⟨"b", 98, by decide, rfl, rfl⟩
    · exact ⟨"a", 97, different, rfl, rfl⟩
  obtain ⟨text, unit, different, component, segments⟩ := letter
  cases fragment with
  | unit second => exact ⟨fun _ => text, code, second, by simpa using other, rfl, rfl⟩
  | component name => exact ⟨fun _ => text, code, unit, different, rfl, component⟩
  | segments name => exact ⟨fun _ => text, code, unit, different, rfl, segments⟩

/-- A component differs from every other fragment: the names may have different values, and only
segments keep a slash. -/
theorem differ_component {name : String} {fragment : Fragment}
    (other : .component name ≠ fragment) : Differ (.component name) fragment := by
  cases fragment with
  | unit code => exact (differ_unit other.symm).symm
  | component second =>
      have different : second ≠ name := fun same => other (by rw [same])
      exact ⟨fun word => if word = name then "a" else "b", 97, 98, by decide,
        by simp [Fragment.units]; rfl, by simp [Fragment.units, different]; rfl⟩
  | segments second =>
      have lost : (textUnits (encodedComponent "/".toList)).head? = some 37 := by decide +kernel
      have kept : (textUnits (encodedSegments "/".toList)).head? = some 47 := by decide +kernel
      exact ⟨fun _ => "/", 37, 47, by decide, lost, kept⟩

theorem differ_of_ne {first second : Fragment} (other : first ≠ second) : Differ first second := by
  cases first with
  | unit code => exact differ_unit other
  | component name => exact differ_component other
  | segments name =>
      cases second with
      | unit code => exact (differ_unit other.symm).symm
      | component second => exact (differ_component other.symm).symm
      | segments second =>
          have different : second ≠ name := fun same => other (by rw [same])
          exact ⟨fun word => if word = name then "a" else "b", 97, 98, by decide,
            by simp [Fragment.units]; rfl, by simp [Fragment.units, different]; rfl⟩

/-- For some values every fragment gives code units. -/
theorem units_ne_nil (fragment : Fragment) : fragment.units (fun _ => "a") ≠ [] := by
  have component : textUnits (encodedComponent "a".toList) ≠ [] := by decide
  have segments : textUnits (encodedSegments "a".toList) ≠ [] := by decide
  cases fragment with
  | unit code => exact List.cons_ne_nil _ _
  | component name => exact component
  | segments name => exact segments

/-- Fragments that give the same code units for all values are the same. -/
theorem eq_of_units {first second : List Fragment}
    (same : ∀ values, first.flatMap (Fragment.units values) =
      second.flatMap (Fragment.units values)) : first = second := by
  induction first generalizing second with
  | nil =>
      cases second with
      | nil => rfl
      | cons fragment rest => exact absurd (same fun _ => "a").symm (by simp [units_ne_nil])
  | cons fragment rest inductionHypothesis =>
      cases second with
      | nil => exact absurd (same fun _ => "a") (by simp [units_ne_nil])
      | cons other others =>
          have begins : fragment = other := by
            by_contra different
            obtain ⟨values, one, two, unequal, here, there⟩ := differ_of_ne different
            have heads := congrArg List.head? (same values)
            simp [here, there, unequal] at heads
          subst begins
          simp only [List.flatMap_cons, List.append_cancel_left_eq] at same
          rw [inductionHypothesis same]

end Values

section Scope

variable {scope : String → Option String} {values : String → String}

/-- A fragment that has a value has the one for the values of the variables. -/
theorem eq_units_of_value? (agree : ∀ name text, scope name = some text → text = values name)
    {fragment : Fragment} {found : List Nat} (known : fragment.value? scope = some found) :
    found = fragment.units values := by
  unfold Fragment.value? at known
  split at known
  · contradiction
  · cases fragment with
    | unit code => exact (Option.some.inj known).symm
    | component name =>
        obtain ⟨text, here, rfl⟩ := Option.map_eq_some_iff.mp known
        rw [agree name text here]
        rfl
    | segments name =>
        obtain ⟨text, here, rfl⟩ := Option.map_eq_some_iff.mp known
        rw [agree name text here]
        rfl

theorem flatten_of_mapM (agree : ∀ name text, scope name = some text → text = values name)
    {fragments : List Fragment} {found : List (List Nat)}
    (known : fragments.mapM (Fragment.value? scope) = some found) :
    found.flatten = fragments.flatMap (Fragment.units values) := by
  induction fragments generalizing found with
  | nil => rw [← Option.some.inj known]; rfl
  | cons fragment rest inductionHypothesis =>
      rw [List.mapM_cons] at known
      obtain ⟨here, first, later⟩ := Option.bind_eq_some_iff.mp known
      obtain ⟨others, second, same⟩ := Option.bind_eq_some_iff.mp later
      rw [← Option.some.inj same, List.flatten_cons, List.flatMap_cons,
        inductionHypothesis second, eq_units_of_value? agree first]

theorem exists_mapM_of_forall {fragments : List Fragment}
    (known : ∀ fragment ∈ fragments, (fragment.value? scope).isSome) :
    ∃ found, fragments.mapM (Fragment.value? scope) = some found := by
  induction fragments with
  | nil => exact ⟨[], rfl⟩
  | cons fragment rest inductionHypothesis =>
      obtain ⟨here, later⟩ := List.forall_mem_cons.mp known
      obtain ⟨first, begins⟩ := Option.isSome_iff_exists.mp here
      obtain ⟨others, continues⟩ := inductionHypothesis later
      exact ⟨first :: others, by simp [List.mapM_cons, begins, continues]⟩

/-- Fragments have values together only where each of them has one. -/
theorem isSome_of_mapM {fragments : List Fragment} {found : List (List Nat)}
    (known : fragments.mapM (Fragment.value? scope) = some found) :
    ∀ fragment ∈ fragments, (fragment.value? scope).isSome := by
  induction fragments generalizing found with
  | nil => simp
  | cons fragment rest inductionHypothesis =>
      rw [List.mapM_cons] at known
      obtain ⟨here, first, later⟩ := Option.bind_eq_some_iff.mp known
      obtain ⟨others, second, -⟩ := Option.bind_eq_some_iff.mp later
      exact List.forall_mem_cons.mpr ⟨by simp [first], inductionHypothesis second⟩

end Scope

section Texts

/-- A text that stands for itself inside a template: it holds no backquote, no backslash, no
carriage return and no opening of a hole. -/
def IsTemplateText (cs : List Char) : Prop :=
  (∀ c ∈ cs, c ∉ ['\x60', '\\', '\r']) ∧ ¬['$', '{'] <:+: cs

def partPieces : RoutePart → List PathPiece
  | .plain text => text.toList.map .char
  | .token token => [.token token]

@[simp]
theorem isTemplateText_nil : IsTemplateText [] :=
  ⟨by simp, by simp⟩

/-- A character in front of a text of a template must not be special, nor open a hole with it. -/
theorem isTemplateText_cons {c : Char} {cs : List Char} :
    IsTemplateText (c :: cs) ↔
      c ∉ ['\x60', '\\', '\r'] ∧ (c = '$' → cs.head? ≠ some '{') ∧ IsTemplateText cs := by
  have opens : ['$', '{'] <+: c :: cs ↔ c = '$' ∧ cs.head? = some '{' := by
    cases cs with
    | nil => simp [List.cons_prefix_cons]
    | cons d rest => simp [List.cons_prefix_cons, eq_comm]
  rw [IsTemplateText, IsTemplateText, List.forall_mem_cons, List.infix_cons_iff, opens]
  tauto

/-- A character in front of faithful pieces must not be special, nor open a hole with them. -/
theorem faithful_char_cons {c : Char} {rest : List PathPiece} :
    Faithful (.char c :: rest) ↔
      c ∉ ['\x60', '\\', '\r'] ∧ (c = '$' → rest.head? ≠ some (.char '{')) ∧ Faithful rest := by
  constructor
  · intro faithful
    cases faithful with
    | char ordinary noHole behind => exact ⟨ordinary, noHole, behind⟩
  · rintro ⟨ordinary, noHole, behind⟩
    exact .char ordinary noHole behind

/-- Characters in front of a token or of the end are faithful where they are a text of a
template. -/
theorem faithful_append {cs : List Char} {rest : List PathPiece}
    (ends : ∀ c, rest.head? ≠ some (.char c)) :
    Faithful (cs.map .char ++ rest) ↔ IsTemplateText cs ∧ Faithful rest := by
  induction cs with
  | nil => simp
  | cons c cs inductionHypothesis =>
      have head :
          (cs.map PathPiece.char ++ rest).head? ≠ some (.char '{') ↔ cs.head? ≠ some '{' := by
        cases cs with
        | nil => simp [ends]
        | cons d others => simp
      rw [List.map_cons, List.cons_append, faithful_char_cons, inductionHypothesis, head,
        isTemplateText_cons]
      tauto

theorem faithful_parts {parts : List RoutePart} (alternates : Route.Alternates parts) :
    Faithful (parts.flatMap partPieces) ↔
      ∀ text, .plain text ∈ parts → IsTemplateText text.toList := by
  have token {found : RouteToken} {rest : List PathPiece} :
      Faithful (.token found :: rest) ↔ Faithful rest :=
    ⟨fun | .token behind => behind, .token⟩
  induction alternates with
  | nil => simp [Faithful.nil]
  | plain text =>
      have whole := @faithful_append text.toList [] (by simp)
      simpa [partPieces, Faithful.nil] using whole
  | token behind inductionHypothesis =>
      simpa [partPieces, token] using inductionHypothesis
  | @plainToken text found rest behind inductionHypothesis =>
      have whole := @faithful_append text.toList (.token found :: rest.flatMap partPieces) (by simp)
      have texts := whole.trans (and_congr_right fun _ => token.trans inductionHypothesis)
      simpa [partPieces] using texts

end Texts

end Script

namespace Route

open Script

/-- The value of a variable as it stands for a token: a catch-all keeps the slashes. -/
def encodedValue (token : String) (value : String) : String :=
  String.ofList (if startsWith "\x7b*".toList token.toList then encodedSegments value.toList
    else encodedComponent value.toList)

/-- A route in which the bytes of each token are replaced by the value of its variable. -/
def filled? (route : String) (values : String → String) : Option String :=
  assemble? route id (fun parameter => (slice? route parameter.start parameter.stop).map
    fun token => encodedValue token (values (Name.identifier parameter.name))) 0 (parameters route)

/-- The variables of a route with their values. -/
def scope (route : String) (values : String → String) (name : String) : Option String :=
  if (tokens route).any fun token => Name.identifier token.name == name then some (values name)
  else none

def pieces (route : String) : List PathPiece :=
  (parts route).flatMap partPieces

section Parts

variable {route : String} {values : String → String}

/-- The text that replaces a token. -/
def word (values : String → String) (token : RouteToken) : String :=
  encodedValue token.text (values (Name.identifier token.name))

theorem textUnits_word (values : String → String) (token : RouteToken) :
    textUnits (word values token).toList = (tokenFragment token).units values := by
  rw [word, encodedValue, String.toList_ofList, tokenFragment]
  unfold RouteToken.isCatchAll
  split <;> rfl

/-- The code units of parts with the values of the variables are those of their pieces. -/
theorem textUnits_changed (values : String → String) (found : List RoutePart) :
    textUnits (String.join (found.map (changedText id (word values)))).toList =
      (pieceFragments (found.flatMap partPieces)).flatMap (Fragment.units values) := by
  have plain (units : List Nat) : (units.map .unit).flatMap (Fragment.units values) = units := by
    rw [List.flatMap_map]
    exact List.flatMap_singleton' units
  induction found with
  | nil => rfl
  | cons part rest inductionHypothesis =>
      rw [List.map_cons, String.join_cons, String.toList_append, textUnits_append,
        inductionHypothesis, List.flatMap_cons, pieceFragments_append, List.flatMap_append]
      cases part with
      | plain text => rw [partPieces, pieceFragments_chars, plain]; rfl
      | token token => simp [partPieces, changedText, textUnits_word]

theorem exists_filled (route : String) (values : String → String) :
    ∃ filled, filled? route values = some filled ∧ textUnits filled.toList =
      (pieceFragments (pieces route)).flatMap (Fragment.units values) := by
  refine ⟨_, assemble?_parameters rfl fun front token behind split => ?_, textUnits_changed _ _⟩
  have cut : slice? route (joined front).utf8ByteSize
      ((joined front).utf8ByteSize + token.text.utf8ByteSize) = some token.text := by
    conv_lhs => rw [eq_of_parts split]
    exact slice?_append _ _ _
  simp only [cut]
  rfl

theorem toList_join_partCode (found : List RoutePart) :
    (String.join (found.map ClientFunction.partCode)).toList =
      (found.flatMap partPieces).flatMap PathPiece.code := by
  induction found with
  | nil => rfl
  | cons part rest inductionHypothesis =>
      rw [List.map_cons, String.join_cons, String.toList_append, inductionHypothesis,
        List.flatMap_cons, List.flatMap_append]
      cases part with
      | plain text => simp [partPieces, ClientFunction.partCode, PathPiece.code, List.flatMap_map]
      | token token => simp [partPieces, ClientFunction.partCode, PathPiece.code]

theorem toList_routeCode (some : tokens route ≠ []) :
    (ClientFunction.routeCode route).toList =
      '\x60' :: templateCode (pieces route) := by
  have mark : "`".toList = ['\x60'] := rfl
  rw [ClientFunction.routeCode, if_neg (by simpa using some), String.toList_append,
    String.toList_append, toList_join_partCode, mark]
  rfl

theorem mem_tokens {token : RouteToken} : token ∈ tokens route ↔ .token token ∈ parts route := by
  rw [tokens, List.mem_filterMap]
  constructor
  · rintro ⟨part, member, same⟩
    cases part with
    | plain text => contradiction
    | token found => rwa [← Option.some.inj same]
  · exact fun member => ⟨.token token, member, rfl⟩

theorem mem_pieceFragments {fragment : Fragment}
    (member : fragment ∈ pieceFragments (pieces route)) :
    (∃ code, fragment = .unit code) ∨ ∃ token ∈ tokens route, fragment = tokenFragment token := by
  obtain ⟨piece, inPieces, inside⟩ := List.mem_flatMap.mp member
  obtain ⟨part, inParts, inPart⟩ := List.mem_flatMap.mp inPieces
  cases piece with
  | char c =>
      obtain ⟨code, -, rfl⟩ := List.mem_map.mp inside
      exact .inl ⟨code, rfl⟩
  | token token =>
      cases part with
      | plain text => simp [partPieces] at inPart
      | token found =>
          obtain rfl := PathPiece.token.inj (List.mem_singleton.mp inPart)
          exact .inr ⟨token, mem_tokens.mpr inParts, List.mem_singleton.mp inside⟩

theorem tokenFragment_mem {token : RouteToken} (member : token ∈ tokens route) :
    tokenFragment token ∈ pieceFragments (pieces route) :=
  List.mem_flatMap.mpr ⟨.token token,
    List.mem_flatMap.mpr ⟨.token token, mem_tokens.mp member, List.mem_singleton_self _⟩,
    List.mem_singleton_self _⟩

/-- A variable has no value other than the given one. -/
theorem eq_of_scope {name text : String} (known : scope route values name = some text) :
    text = values name := by
  unfold scope at known
  split at known
  · exact (Option.some.inj known).symm
  · contradiction

/-- The fragment of a token has a value where no variable hides a function that it calls. -/
theorem isSome_value?_tokenFragment {token : RouteToken} (member : token ∈ tokens route) :
    ((tokenFragment token).value? (scope route values)).isSome ↔
      ∀ function ∈ (tokenFragment token).calls,
        ∀ other ∈ tokens route, Name.identifier other.name ≠ function := by
  have known : scope route values (Name.identifier token.name) =
      some (values (Name.identifier token.name)) := by
    rw [scope, if_pos]
    exact List.any_eq_true.mpr ⟨token, member, beq_self_eq_true _⟩
  have visible : ((tokenFragment token).calls.any fun function =>
      (scope route values function).isSome) = false ↔
      ∀ function ∈ (tokenFragment token).calls,
        ∀ other ∈ tokens route, Name.identifier other.name ≠ function := by
    simp [scope]
  have kinds : tokenFragment token = .segments (Name.identifier token.name) ∨
      tokenFragment token = .component (Name.identifier token.name) := by
    unfold tokenFragment
    split
    · exact .inl rfl
    · exact .inr rfl
  rw [← visible, Fragment.value?.eq_def]
  cases hidden : (tokenFragment token).calls.any fun function =>
      (scope route values function).isSome with
  | true => simp
  | false => rcases kinds with same | same <;> simp [same, known]

theorem evaluate?_eq {scope : String → Option String} {code : String} {pieces : List PathPiece}
    (same : code.toList = '\x60' :: templateCode pieces) :
    evaluate? scope code = (templateWithin? (templateCode pieces).length (templateCode pieces)).bind
      fun fragments => (fragments.mapM (Fragment.value? scope)).map List.flatten := by
  rw [evaluate?, same]
  simp only [Option.map_eq_bind]
  rfl

/-- The code of a route with tokens gives what is meant if the fragments that are read from it have
the values that the pieces of the route stand for. -/
theorem evaluates_iff (tokened : tokens route ≠ []) (values : String → String) :
    (∃ filled, filled? route values = some filled ∧
      evaluate? (scope route values) (ClientFunction.routeCode route) =
        some (textUnits filled.toList)) ↔
    ∃ fragments found,
      templateWithin? (templateCode (pieces route)).length (templateCode (pieces route)) =
        some fragments ∧
      fragments.mapM (Fragment.value? (scope route values)) = some found ∧
      found.flatten = (pieceFragments (pieces route)).flatMap (Fragment.units values) := by
  obtain ⟨filled, given, units⟩ := exists_filled route values
  rw [evaluate?_eq (toList_routeCode tokened), ← units]
  constructor
  · rintro ⟨other, expected, whole⟩
    obtain rfl := Option.some.inj (given.symm.trans expected)
    obtain ⟨fragments, read, valued⟩ := Option.bind_eq_some_iff.mp whole
    obtain ⟨found, together, same⟩ := Option.map_eq_some_iff.mp valued
    exact ⟨fragments, found, read, together, same⟩
  · rintro ⟨fragments, found, read, together, same⟩
    exact ⟨filled, given, by rw [read, Option.bind_some, together, Option.map_some, same]⟩

theorem filled?_of_nil (none : tokens route = []) : filled? route values = some route := by
  have empty : parameters route = [] := by
    simpa [none] using @names_parameters route
  have whole := slice?_append_end "" route
  rw [String.empty_append] at whole
  rw [filled?, empty, assemble?, Option.map_id]
  exact whole

end Parts

end Route

open Route Script

/-- For whatever values of the variables, the code of a route gives the route with the encoded
values in place of the tokens exactly if the route has no tokens, or if each text between them
stands for itself inside a template and no variable hides a function that the code calls. -/
theorem evaluate?_routeCode_iff (route : String) :
    (∀ values, ∃ filled, filled? route values = some filled ∧
      evaluate? (scope route values) (ClientFunction.routeCode route) =
        some (textUnits filled.toList)) ↔
    tokens route = [] ∨
      (∀ text, .plain text ∈ parts route → IsTemplateText text.toList) ∧
      ∀ caller ∈ tokens route, ∀ function ∈ (tokenFragment caller).calls,
        ∀ token ∈ tokens route, Name.identifier token.name ≠ function := by
  rcases eq_or_ne (tokens route) [] with none | tokened
  · refine iff_of_true (fun values => ⟨route, filled?_of_nil none, ?_⟩) (.inl none)
    rw [ClientFunction.routeCode, none]
    exact evaluate?_quote _ _
  · simp only [tokened, false_or, evaluates_iff tokened]
    rw [← faithful_parts (alternates_parts route)]
    constructor
    · intro evaluated
      obtain ⟨fragments, _, read, -, -⟩ := evaluated id
      have valued (values : String → String) : ∃ found,
          fragments.mapM (Fragment.value? (scope route values)) = some found ∧
          found.flatten = (pieceFragments (pieces route)).flatMap (Fragment.units values) := by
        obtain ⟨others, found, again, together, units⟩ := evaluated values
        obtain rfl := Option.some.inj (read.symm.trans again)
        exact ⟨found, together, units⟩
      have same : fragments = pieceFragments (pieces route) := by
        refine eq_of_units fun values => ?_
        obtain ⟨found, together, units⟩ := valued values
        rw [← units, flatten_of_mapM (fun _ _ => eq_of_scope) together]
      subst same
      refine ⟨(settles_of_steps _ (pieces route) [] read).2, fun caller inRoute => ?_⟩
      obtain ⟨found, together, -⟩ := valued id
      exact (isSome_value?_tokenFragment inRoute).mp
        (isSome_of_mapM together _ (tokenFragment_mem inRoute))
    · rintro ⟨faithful, visible⟩ values
      have known : ∀ fragment ∈ pieceFragments (pieces route),
          (fragment.value? (scope route values)).isSome := by
        intro fragment member
        rcases mem_pieceFragments member with ⟨code, rfl⟩ | ⟨token, inRoute, rfl⟩
        · rfl
        · exact (isSome_value?_tokenFragment inRoute).mpr (visible token inRoute)
      obtain ⟨found, together⟩ := exists_mapM_of_forall known
      exact ⟨_, found, templateWithin?_of_faithful faithful (Nat.le_refl _), together,
        flatten_of_mapM (fun _ _ => eq_of_scope) together⟩

/-- A backslash in front of a character is lost from a route with a token. -/
theorem evaluate?_routeCode_backslash :
    let route := "/a\\c/\x7bid\x7d"
    let values := fun _ : String => "7"
    filled? route values = some "/a\\c/7" ∧
      evaluate? (scope route values) (ClientFunction.routeCode route) =
        some (textUnits "/ac/7".toList) ∧
      textUnits "/ac/7".toList ≠ textUnits "/a\\c/7".toList := by
  decide +kernel

end TypedClient
