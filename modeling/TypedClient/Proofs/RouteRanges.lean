/-
This file shows that the tokens of a route can be cut out of it by their byte ranges: the ranges lie
on boundaries of characters and follow each other, and the name and the code of a route are put
together from the texts between them.
-/

import Mathlib.Data.String.Basic
import TypedClient.Backend.Registration
import TypedClient.Client.Function
import TypedClient.Proofs.Pieces

namespace TypedClient

namespace Text

/-- The text between two byte offsets. It can be taken only where the offsets are in order and on
boundaries of characters. -/
def slice? (text : String) (start stop : Nat) : Option String :=
  if start ≤ stop ∧ String.Pos.Raw.IsValid text ⟨start⟩ ∧ String.Pos.Raw.IsValid text ⟨stop⟩ then
    some (String.Pos.Raw.extract text ⟨start⟩ ⟨stop⟩)
  else none

theorem isValid_append (before behind : String) :
    String.Pos.Raw.IsValid (before ++ behind) ⟨before.utf8ByteSize⟩ :=
  String.Pos.Raw.isValid_iff_exists_append.mpr ⟨before, behind, rfl, rfl⟩

/-- A text that stands between two others is the slice at its place. -/
theorem slice?_append (before piece behind : String) :
    slice? (before ++ piece ++ behind) before.utf8ByteSize
      (before.utf8ByteSize + piece.utf8ByteSize) = some piece := by
  have first := isValid_append before (piece ++ behind)
  have second := isValid_append (before ++ piece) behind
  rw [← String.append_assoc] at first
  rw [String.utf8ByteSize_append] at second
  have cut := String.extract_of_valid before.toList piece.toList behind.toList
  have sizes (text : String) : String.utf8Len text.toList = text.utf8ByteSize := by
    rw [← String.utf8ByteSize_ofList, String.ofList_toList]
  have whole : String.ofList (before.toList ++ piece.toList ++ behind.toList) =
      before ++ piece ++ behind := by
    simp [String.ofList_append, String.append_assoc]
  rw [whole, sizes, sizes, String.ofList_toList] at cut
  rw [slice?, if_pos ⟨Nat.le_add_right _ _, first, second⟩, cut]

theorem slice?_append_end (before piece : String) :
    slice? (before ++ piece) before.utf8ByteSize (before ++ piece).utf8ByteSize = some piece := by
  have cut := slice?_append before piece ""
  rwa [String.append_empty, ← String.utf8ByteSize_append] at cut

/-- Between a place and itself there is the empty slice. -/
theorem slice?_append_self (before behind : String) :
    slice? (before ++ behind) before.utf8ByteSize before.utf8ByteSize = some "" := by
  have cut := slice?_append before "" behind
  rwa [String.append_empty] at cut

end Text

open Text

namespace Route

/-- A route put together again from slices: each text between its parameters after a change, and
for each parameter what is given for it. There is no result where a slice cannot be taken. -/
def assemble? (route : String) (plain : String → String)
    (inside? : RouteParameter → Option String) (offset : Nat) :
    List RouteParameter → Option String
  | [] => (slice? route offset route.utf8ByteSize).map plain
  | parameter :: rest => do
    let before ← slice? route offset parameter.start
    let inside ← inside? parameter
    let behind ← assemble? route plain inside? parameter.stop rest
    some (plain before ++ inside ++ behind)

/-- The texts of parts behind each other. -/
def joined (parts : List RoutePart) : String :=
  String.join (parts.map RoutePart.text)

@[simp]
theorem joined_nil : joined [] = "" := rfl

@[simp]
theorem joined_cons (part : RoutePart) (rest : List RoutePart) :
    joined (part :: rest) = part.text ++ joined rest :=
  String.join_cons

section Scan

/-- What closes a token stands behind its body. -/
theorem eq_of_closeToken? {depth : Nat} {cs body behind : List Char}
    (closed : closeToken? depth cs = some (body, behind)) : cs = body ++ '}' :: behind := by
  induction cs generalizing depth body behind with
  | nil => simp [closeToken?] at closed
  | cons c rest inductionHypothesis =>
      have longer {inner : Nat} (later : (closeToken? inner rest).map
          (fun parts => (c :: parts.1, parts.2)) = some (body, behind)) :
          c :: rest = body ++ '}' :: behind := by
        obtain ⟨⟨front, back⟩, found, same⟩ := Option.map_eq_some_iff.mp later
        obtain ⟨rfl, rfl⟩ := Prod.mk.inj same
        rw [inductionHypothesis found]
        rfl
      simp only [closeToken?] at closed
      split at closed
      · exact longer closed
      · split at closed
        · rename_i closing
          cases depth with
          | zero =>
              obtain ⟨rfl, rfl⟩ := Prod.mk.inj (Option.some.inj closed)
              rw [eq_of_beq closing]
              rfl
          | succ depth => exact longer closed
        · exact longer closed

theorem text_tokenOf_append (body behind : List Char) :
    (tokenOf body).text ++ String.ofList behind =
      String.ofList ('{' :: (body ++ '}' :: behind)) := by
  have text : (tokenOf body).text = String.ofList ('{' :: (body ++ ['}'])) := rfl
  rw [text, ← String.ofList_append]
  simp

theorem joined_consPlain (cs : List Char) (parts : List RoutePart) :
    joined (RoutePart.consPlain cs parts) = String.ofList cs ++ joined parts := by
  unfold RoutePart.consPlain
  split <;> simp [RoutePart.text, String.ofList_append, String.append_assoc]

/-- The parts of a route have its text. -/
theorem joined_partsWithin {steps : Nat} {cs : List Char} (enough : cs.length ≤ steps) :
    joined (partsWithin steps cs) = String.ofList cs := by
  fun_induction partsWithin steps cs with
  | case1 => simp_all
  | case2 => simp
  | case3 steps rest inductionHypothesis =>
      rw [joined_consPlain, inductionHypothesis (by simp at enough; omega), ← String.ofList_append]
      rfl
  | case4 => simp [RoutePart.text]
  | case5 steps rest _ body behind closed _ _ inductionHypothesis =>
      have parts := eq_of_closeToken? closed
      have short : behind.length ≤ steps := by simp [parts] at enough; omega
      rw [joined_consPlain, inductionHypothesis short, parts, String.ofList_toList]
      exact text_tokenOf_append body behind
  | case6 steps rest _ body behind closed _ _ inductionHypothesis =>
      have parts := eq_of_closeToken? closed
      have short : behind.length ≤ steps := by simp [parts] at enough; omega
      rw [joined_cons, inductionHypothesis short, parts]
      exact text_tokenOf_append body behind
  | case7 steps c rest _ _ inductionHypothesis =>
      rw [joined_consPlain, inductionHypothesis (by simp at enough; omega), ← String.ofList_append]
      rfl

/-- No two texts of parts stand beside each other. -/
inductive Alternates : List RoutePart → Prop
  | nil : Alternates []
  | plain (text : String) : Alternates [.plain text]
  | token {token : RouteToken} {rest : List RoutePart} (behind : Alternates rest) :
      Alternates (.token token :: rest)
  | plainToken (text : String) {token : RouteToken} {rest : List RoutePart}
      (behind : Alternates rest) : Alternates (.plain text :: .token token :: rest)

/-- Plain characters in front go into a text that stands there. -/
theorem Alternates.consPlain {parts : List RoutePart} (alternates : Alternates parts)
    (cs : List Char) : Alternates (RoutePart.consPlain cs parts) := by
  cases alternates with
  | nil => exact .plain _
  | plain => exact .plain _
  | token behind => exact .plainToken _ behind
  | plainToken _ behind => exact .plainToken _ behind

theorem alternates_partsWithin (steps : Nat) (cs : List Char) :
    Alternates (partsWithin steps cs) := by
  fun_induction partsWithin steps cs with
  | case1 => exact .nil
  | case2 => exact .nil
  | case3 _ _ inductionHypothesis => exact inductionHypothesis.consPlain _
  | case4 => exact .plain _
  | case5 _ _ _ _ _ _ _ _ inductionHypothesis => exact inductionHypothesis.consPlain _
  | case6 _ _ _ _ _ _ _ _ inductionHypothesis => exact inductionHypothesis.token
  | case7 _ _ _ _ _ inductionHypothesis => exact inductionHypothesis.consPlain _

theorem token_mem_consPlain {token : RouteToken} {cs : List Char} {parts : List RoutePart} :
    .token token ∈ RoutePart.consPlain cs parts ↔ .token token ∈ parts := by
  unfold RoutePart.consPlain
  split <;> simp

/-- A token of a route is read from a body that gives it a name. -/
theorem exists_body_of_mem_partsWithin {steps : Nat} {cs : List Char} {token : RouteToken}
    (member : .token token ∈ partsWithin steps cs) :
    ∃ body, token = tokenOf body ∧ token.name.isEmpty = false := by
  fun_induction partsWithin steps cs with
  | case1 => simp at member
  | case2 => simp at member
  | case3 _ _ inductionHypothesis => exact inductionHypothesis (token_mem_consPlain.mp member)
  | case4 => simp at member
  | case5 _ _ _ _ _ _ _ _ inductionHypothesis =>
      exact inductionHypothesis (token_mem_consPlain.mp member)
  | case6 _ _ _ body _ _ _ named inductionHypothesis =>
      rcases List.mem_cons.mp member with here | later
      · obtain rfl := RoutePart.token.inj here
        exact ⟨body, rfl, (Bool.not_eq_true _).mp named⟩
      · exact inductionHypothesis later
  | case7 _ _ _ _ _ inductionHypothesis =>
      exact inductionHypothesis (token_mem_consPlain.mp member)

end Scan

section Ranges

/-- The parameters among some parts stand behind the place where the parts begin. -/
theorem le_start_of_mem {start : Nat} {parts : List RoutePart} {parameter : RouteParameter}
    (member : parameter ∈ parametersFrom start parts) : start ≤ parameter.start := by
  induction parts generalizing start with
  | nil => simp [parametersFrom] at member
  | cons part rest inductionHypothesis =>
      cases part with
      | plain text => exact (Nat.le_add_right _ _).trans (inductionHypothesis member)
      | token token =>
          rcases List.mem_cons.mp member with rfl | later
          · exact Nat.le_refl _
          · exact (Nat.le_add_right _ _).trans (inductionHypothesis later)

/-- Each parameter ends before the ones behind it begin. -/
theorem pairwise_parametersFrom (start : Nat) (parts : List RoutePart) :
    (parametersFrom start parts).Pairwise fun first second => first.stop ≤ second.start := by
  induction parts generalizing start with
  | nil => exact .nil
  | cons part rest inductionHypothesis =>
      cases part with
      | plain text => exact inductionHypothesis _
      | token token =>
          exact .cons (fun second member => le_start_of_mem member) (inductionHypothesis _)

/-- A parameter takes the bytes of its token, behind those of the parts in front of it. -/
theorem exists_token_of_mem {start : Nat} {parts : List RoutePart} {parameter : RouteParameter}
    (member : parameter ∈ parametersFrom start parts) :
    ∃ front token behind, parts = front ++ .token token :: behind ∧
      parameter = ⟨token.name, token.constraint, start + (joined front).utf8ByteSize,
        start + (joined front).utf8ByteSize + token.text.utf8ByteSize⟩ := by
  induction parts generalizing start with
  | nil => simp [parametersFrom] at member
  | cons part rest inductionHypothesis =>
      have later (here : parameter ∈ parametersFrom (start + part.text.utf8ByteSize) rest) :
          ∃ front token behind, part :: rest = front ++ .token token :: behind ∧
            parameter = ⟨token.name, token.constraint, start + (joined front).utf8ByteSize,
              start + (joined front).utf8ByteSize + token.text.utf8ByteSize⟩ := by
        obtain ⟨front, token, behind, rfl, rfl⟩ := inductionHypothesis here
        exact ⟨part :: front, token, behind, rfl, by simp [Nat.add_assoc]⟩
      cases part with
      | plain text => exact later member
      | token token =>
          rcases List.mem_cons.mp member with rfl | behind
          · exact ⟨[], token, rest, rfl, by simp⟩
          · exact later behind

def changedText (plain : String → String) (word : RouteToken → String) : RoutePart → String
  | .plain text => plain text
  | .token token => word token

/-- A parameter is put behind the text in front of it. -/
theorem assemble?_cons {route : String} {plain : String → String}
    {inside? : RouteParameter → Option String} {offset : Nat} {parameter : RouteParameter}
    {rest : List RouteParameter} {before inside behind : String}
    (cut : slice? route offset parameter.start = some before)
    (known : inside? parameter = some inside)
    (later : assemble? route plain inside? parameter.stop rest = some behind) :
    assemble? route plain inside? offset (parameter :: rest) =
      some (plain before ++ inside ++ behind) := by
  simp [assemble?, cut, known, later]

/-- Parts are put together again from the slices of the text in which they stand. -/
theorem assemble?_of_alternates {route : String} {plain : String → String} (empty : plain "" = "")
    {inside? : RouteParameter → Option String} {word : RouteToken → String}
    {before : String} {parts : List RoutePart} (alternates : Alternates parts)
    (whole : route = before ++ joined parts)
    (known : ∀ front token behind, parts = front ++ .token token :: behind →
      inside? ⟨token.name, token.constraint, before.utf8ByteSize + (joined front).utf8ByteSize,
        before.utf8ByteSize + (joined front).utf8ByteSize + token.text.utf8ByteSize⟩ =
          some (word token)) :
    assemble? route plain inside? before.utf8ByteSize
        (parametersFrom before.utf8ByteSize parts) =
      some (String.join (parts.map (changedText plain word))) := by
  -- The offsets count from the start of the route, so what stands in front of the parts varies.
  induction alternates generalizing before with
  | nil =>
      have cut : slice? route before.utf8ByteSize route.utf8ByteSize = some "" := by
        rw [whole]
        exact slice?_append_end before ""
      simp [parametersFrom, assemble?, cut, empty]
  | plain text =>
      have cut : slice? route before.utf8ByteSize route.utf8ByteSize = some text := by
        rw [whole, joined_cons, joined_nil, String.append_empty]
        exact slice?_append_end before text
      simp [parametersFrom, assemble?, cut, changedText]
  | @token token rest _ inductionHypothesis =>
      have cut : slice? route before.utf8ByteSize before.utf8ByteSize = some "" := by
        rw [whole]
        exact slice?_append_self before _
      have here := known [] token rest rfl
      rw [joined_nil, String.utf8ByteSize_empty, Nat.add_zero] at here
      have later := @inductionHypothesis (before ++ token.text)
        (by rw [whole, joined_cons, String.append_assoc]; rfl) fun front other behind same => by
          have there := known (.token token :: front) other behind (by rw [same]; rfl)
          simpa [RoutePart.text, Nat.add_assoc] using there
      rw [String.utf8ByteSize_append] at later
      rw [parametersFrom, assemble?_cons cut here later, List.map_cons, String.join_cons, empty]
      simp [changedText]
  | @plainToken text token rest _ inductionHypothesis =>
      have cut : slice? route before.utf8ByteSize (before.utf8ByteSize + text.utf8ByteSize) =
          some text := by
        rw [whole, joined_cons, ← String.append_assoc]
        exact slice?_append before text _
      have here := known [.plain text] token rest rfl
      have later := @inductionHypothesis (before ++ text ++ token.text)
        (by simp [whole, RoutePart.text, String.append_assoc]) fun front other behind same => by
          have there := known (.plain text :: .token token :: front) other behind
            (by rw [same]; rfl)
          simpa [RoutePart.text, Nat.add_assoc] using there
      simp only [String.utf8ByteSize_append] at later
      simp only [joined_cons, joined_nil, String.append_empty, RoutePart.text] at here
      rw [parametersFrom, parametersFrom, assemble?_cons cut here later]
      simp [changedText, String.append_assoc]

end Ranges

section Whole

variable (route : String)

theorem joined_parts : joined (parts route) = route := by
  rw [parts, joined_partsWithin (by rw [String.length_toList]; omega), String.ofList_toList]

theorem alternates_parts : Alternates (parts route) :=
  alternates_partsWithin _ _

variable {route}

theorem eq_of_parts {front behind : List RoutePart} {token : RouteToken}
    (split : parts route = front ++ .token token :: behind) :
    route = joined front ++ token.text ++ joined behind := by
  have whole := joined_parts route
  rw [split] at whole
  rw [← whole]
  simp [joined, RoutePart.text, String.append_assoc]

theorem exists_body_of_parts {front behind : List RoutePart} {token : RouteToken}
    (split : parts route = front ++ .token token :: behind) :
    ∃ body, token = tokenOf body ∧ token.name.isEmpty = false :=
  exists_body_of_mem_partsWithin (split ▸ List.mem_append_right front List.mem_cons_self)

/-- A route is put together again from its slices. -/
theorem assemble?_parameters {plain : String → String} (empty : plain "" = "")
    {inside? : RouteParameter → Option String} {word : RouteToken → String}
    (known : ∀ front token behind, parts route = front ++ .token token :: behind →
      inside? ⟨token.name, token.constraint, (joined front).utf8ByteSize,
        (joined front).utf8ByteSize + token.text.utf8ByteSize⟩ = some (word token)) :
    assemble? route plain inside? 0 (parameters route) =
      some (String.join ((parts route).map (changedText plain word))) := by
  have whole : route = "" ++ joined (parts route) := by rw [joined_parts, String.empty_append]
  exact assemble?_of_alternates empty (alternates_parts route) whole (by simpa using known)

theorem names_parameters : (parameters route).map RouteParameter.name =
    (tokens route).map RouteToken.name := by
  rw [parameters, tokens]
  generalize parts route = found, 0 = start
  induction found generalizing start with
  | nil => rfl
  | cons part rest inductionHypothesis =>
      cases part with
      | plain text => exact inductionHypothesis _
      | token token => exact congrArg (token.name :: ·) (inductionHypothesis _)

end Whole

/-- The bytes of a parameter can be cut out of a route, and what is cut out is a token that gives
the parameter its name and its constraint. -/
structure Holds (route : String) (parameter : RouteParameter) : Prop where
  front : String.Pos.Raw.IsValid route ⟨parameter.start⟩
  back : String.Pos.Raw.IsValid route ⟨parameter.stop⟩
  bounds : parameter.start < parameter.stop ∧ parameter.stop ≤ route.utf8ByteSize
  braces : ∃ body, slice? route parameter.start parameter.stop = some ("\x7b" ++ body ++ "\x7d") ∧
    parameter.name = (tokenOf body.toList).name ∧
    parameter.constraint = (tokenOf body.toList).constraint

/-- Each parameter of a route holds a token. -/
theorem holds_of_mem {route : String} {parameter : RouteParameter}
    (member : parameter ∈ parameters route) : Holds route parameter := by
  obtain ⟨front, token, behind, split, rfl⟩ := exists_token_of_mem member
  obtain ⟨body, rfl, -⟩ := exists_body_of_parts split
  have whole := eq_of_parts split
  have text : (tokenOf body).text = "\x7b" ++ String.ofList body ++ "\x7d" := by
    rw [← String.toList_inj]
    simp [tokenOf]
  have positive : 0 < (tokenOf body).text.utf8ByteSize := by
    have brace : ("\x7b" : String).utf8ByteSize = 1 := rfl
    rw [text, String.utf8ByteSize_append, String.utf8ByteSize_append, brace]
    omega
  simp only [Nat.zero_add]
  refine ⟨?front, ?back, ?bounds, String.ofList body, ?slice, ?name⟩
  case front =>
    rw [whole, String.append_assoc]
    exact isValid_append _ _
  case back =>
    rw [whole, ← String.utf8ByteSize_append]
    exact isValid_append _ _
  case bounds =>
    have size := congrArg String.utf8ByteSize whole
    simp only [String.utf8ByteSize_append] at size
    simp only
    omega
  case slice =>
    rw [← text]
    rw [whole]
    exact slice?_append _ _ _
  case name => simp

/-- The code of a parameter, chosen by the text of the route from its token on. -/
def parameterCode? (route : String) (parameter : RouteParameter) : Option String :=
  (slice? route parameter.start route.utf8ByteSize).map fun rest =>
    ClientFunction.tokenCode ⟨rest, parameter.name, parameter.constraint⟩

/-- The text behind a token does not change its code. -/
theorem tokenCode_append {token : RouteToken} {body : List Char} (read : token = tokenOf body)
    (named : token.name.isEmpty = false) (behind : String) :
    ClientFunction.tokenCode ⟨token.text ++ behind, token.name, token.constraint⟩ =
      ClientFunction.tokenCode token := by
  subst read
  have same : RouteToken.isCatchAll ⟨(tokenOf body).text ++ behind, (tokenOf body).name,
      (tokenOf body).constraint⟩ = (tokenOf body).isCatchAll := by
    cases body with
    | nil => exact absurd named (by decide)
    | cons c rest =>
        simp only [RouteToken.isCatchAll, startsWith, tokenOf, String.toList_append,
          String.toList_ofList, List.cons_append]
        rcases eq_or_ne '*' c with rfl | other
        · simp [dropStart?]
        · simp [dropStart?, other]
  rw [ClientFunction.tokenCode, ClientFunction.tokenCode, same]

theorem parameterCode?_of_parts {route : String} {front behind : List RoutePart}
    {token : RouteToken} (split : parts route = front ++ .token token :: behind) :
    parameterCode? route ⟨token.name, token.constraint, (joined front).utf8ByteSize,
        (joined front).utf8ByteSize + token.text.utf8ByteSize⟩ =
      some (ClientFunction.tokenCode token) := by
  obtain ⟨body, read, named⟩ := exists_body_of_parts split
  have rest : slice? route (joined front).utf8ByteSize route.utf8ByteSize =
      some (token.text ++ joined behind) := by
    conv_lhs => rw [eq_of_parts split, String.append_assoc]
    exact slice?_append_end _ _
  rw [parameterCode?, rest, Option.map_some, tokenCode_append read named]

end Route

open Route

/-- The parameters of a route take bytes from one boundary of characters to another, from an opening
brace to a closing one, and each ends before the next begins. So the texts between them and their
own can be cut out of the route; together they are the route, and the name and the code that follow
from the route are put together from them. -/
theorem route_ranges_tile (route : String) :
    let found := parameters route
    (∀ parameter ∈ found, Holds route parameter) ∧
    (found.Pairwise fun first second => first.stop ≤ second.start) ∧
    assemble? route id (fun parameter => slice? route parameter.start parameter.stop) 0 found =
      some route ∧
    (∃ words, assemble? route Registration.segmentWords
        (fun parameter => some ("By" ++ upperCamel parameter.name)) 0 found = some words ∧
      Registration.nameOfRoute route = if words.isEmpty then "Root" else words) ∧
    ∃ code, assemble? route id (parameterCode? route) 0 found = some code ∧
      ClientFunction.routeCode route =
        if found.isEmpty then Name.quote route else "`" ++ code ++ "`" := by
  intro found
  refine ⟨fun _ => holds_of_mem, pairwise_parametersFrom _ _, ?slices, ?name, ?code⟩
  case slices =>
    have texts : changedText id RouteToken.text = RoutePart.text := by
      funext part
      cases part <;> rfl
    have whole : String.join ((parts route).map (changedText id RouteToken.text)) = route := by
      rw [texts]
      exact joined_parts route
    rw [assemble?_parameters rfl fun front token behind split => ?_, whole]
    conv_lhs => rw [eq_of_parts split]
    exact slice?_append _ _ _
  case name =>
    have words : changedText Registration.segmentWords
        (fun token => "By" ++ upperCamel token.name) = Registration.partWord := by
      funext part
      cases part <;> rfl
    refine ⟨String.join ((parts route).map Registration.partWord), ?_, rfl⟩
    rw [← words]
    exact assemble?_parameters (by decide) fun _ _ _ _ => rfl
  case code =>
    have codes : changedText id ClientFunction.tokenCode = ClientFunction.partCode := by
      funext part
      cases part <;> rfl
    have empty : found.isEmpty = (tokens route).isEmpty := by
      simpa using congrArg List.isEmpty (@names_parameters route)
    refine ⟨String.join ((parts route).map ClientFunction.partCode), ?_, by rw [empty]; rfl⟩
    rw [← codes]
    exact assemble?_parameters rfl fun front token behind => parameterCode?_of_parts

end TypedClient
