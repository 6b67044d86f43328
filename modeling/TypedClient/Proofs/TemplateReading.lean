/-
This file reads templates again: the code of plain characters and of tokens stands for them exactly
where no character looks like an escape, a hole or the end of the template.
-/

import TypedClient.Proofs.ScriptLiterals

namespace TypedClient

open Text Script ClientFunction

namespace Script

/-- A piece of a path: a character that stands for itself, or a token. -/
inductive PathPiece
  | char (c : Char)
  | token (token : RouteToken)
  deriving DecidableEq, Repr

/-- The fragment that the code of a token stands for. -/
def tokenFragment (token : RouteToken) : Fragment :=
  if token.isCatchAll then .segments (Name.identifier token.name)
  else .component (Name.identifier token.name)

namespace PathPiece

/-- The code of a piece inside a template. -/
def code : PathPiece → List Char
  | char c => [c]
  | token found => (tokenCode found).toList

def fragments : PathPiece → List Fragment
  | char c => (codeUnits c.toNat).map .unit
  | token found => [tokenFragment found]

end PathPiece

@[simp]
theorem PathPiece.fragments_token (token : RouteToken) :
    (PathPiece.token token).fragments = [tokenFragment token] := rfl

/-- The code of pieces up to the end of the template. -/
def templateCode (pieces : List PathPiece) : List Char :=
  pieces.flatMap PathPiece.code ++ ['\x60']

def pieceFragments (pieces : List PathPiece) : List Fragment :=
  pieces.flatMap PathPiece.fragments

/-- A text without special characters stands for itself in a template. -/
def Inert (cs : List Char) : Prop :=
  ∀ c ∈ cs, c ∉ ['$', '\x60', '\\', '\r']

instance : DecidablePred Inert :=
  fun cs => List.decidableBAll _ cs

/-- Pieces whose code stands for them: no character is special, and no dollar sign stands in front
of an opening brace. -/
inductive Faithful : List PathPiece → Prop
  | nil : Faithful []
  | char {c : Char} {rest : List PathPiece} (ordinary : c ∉ ['\x60', '\\', '\r'])
      (noHole : c = '$' → rest.head? ≠ some (.char '{')) (behind : Faithful rest) :
      Faithful (.char c :: rest)
  | token {token : RouteToken} {rest : List PathPiece} (behind : Faithful rest) :
      Faithful (.token token :: rest)

section Pieces

@[simp]
theorem templateCode_cons (piece : PathPiece) (rest : List PathPiece) :
    templateCode (piece :: rest) = piece.code ++ templateCode rest := by
  simp [templateCode]

@[simp]
theorem pieceFragments_nil : pieceFragments [] = [] := rfl

@[simp]
theorem pieceFragments_cons (piece : PathPiece) (rest : List PathPiece) :
    pieceFragments (piece :: rest) = piece.fragments ++ pieceFragments rest :=
  List.flatMap_cons

@[simp]
theorem pieceFragments_append (front behind : List PathPiece) :
    pieceFragments (front ++ behind) = pieceFragments front ++ pieceFragments behind :=
  List.flatMap_append

theorem pieceFragments_chars (cs : List Char) :
    pieceFragments (cs.map .char) = (textUnits cs).map .unit := by
  induction cs with
  | nil => rfl
  | cons c rest inductionHypothesis =>
      rw [List.map_cons, pieceFragments_cons, inductionHypothesis, textUnits_cons, List.map_append]
      rfl

/-- The code of pieces is never empty. -/
theorem templateCode_ne_nil (pieces : List PathPiece) : templateCode pieces ≠ [] :=
  List.append_ne_nil_of_right_ne_nil _ (by decide)

end Pieces

section Tokens

/-- An identifier consists of characters that may stand in the name of a variable. -/
theorem isNamePart_of_mem_identifier {name : String} :
    ∀ c ∈ (Name.identifier name).toList, isNamePart c = true := by
  intro c member
  have either : c ∈ (lowerCamel name).toList ∨ c = '_' := by
    have line : "_".toList = ['_'] := rfl
    simp only [Name.identifier] at member
    split at member <;> split at member <;> grind [String.toList_append]
  rcases either with camel | rfl
  · simp [isNamePart, not_isSign_of_mem_lowerCamel c camel]
  · decide

theorem inert_of_name {word : List Char} (named : ∀ c ∈ word, isNamePart c = true) :
    Inert word := by
  have other : ['$', '\x60', '\\', '\r'].all (fun mark => !isNamePart mark) = true := by decide
  intro c member special
  have none := List.all_eq_true.mp other c special
  rw [named c member] at none
  contradiction

/-- A variable between texts without special characters has none of them. -/
theorem inert_of_call {front back word : List Char} (known : Inert front ∧ Inert back)
    (named : ∀ c ∈ word, isNamePart c = true) : Inert (front ++ (word ++ back)) :=
  List.forall_mem_append.mpr ⟨known.1, List.forall_mem_append.mpr ⟨inert_of_name named, known.2⟩⟩

/-- The code of a token is a hole that stands for the value of the token. -/
theorem exists_hole_of_token (token : RouteToken) :
    ∃ inside, (tokenCode token).toList = '$' :: '{' :: inside ∧
      (∀ behind, hole? (inside ++ behind) = some (tokenFragment token, behind)) ∧ Inert inside := by
  have named : ∀ c ∈ (Name.identifier token.name).toList, isNamePart c = true :=
    isNamePart_of_mem_identifier
  unfold tokenCode tokenFragment
  split
  case isTrue =>
    let back := ").split('/').map(encodeURIComponent).join('/')\x7d"
    refine ⟨"String(".toList ++ ((Name.identifier token.name).toList ++ back.toList),
      by simp [back], fun behind => ?_, inert_of_call (by decide) named⟩
    have read := @call?_append "String(" back behind _ named (by simp [back])
    have other : call? "encodeURIComponent(" ")\x7d"
        ("String(".toList ++ ((Name.identifier token.name).toList ++ (back.toList ++ behind))) =
          none := rfl
    rw [hole?, List.append_assoc, List.append_assoc, other, read]
    rfl
  case isFalse =>
    let back := ")\x7d"
    refine ⟨"encodeURIComponent(".toList ++ ((Name.identifier token.name).toList ++ back.toList),
      by simp [back], fun behind => ?_, inert_of_call (by decide) named⟩
    have read := @call?_append "encodeURIComponent(" back behind _ named (by simp [back])
    rw [hole?, List.append_assoc, List.append_assoc, read]
    rfl

end Tokens

section Reading

/-- A character without a special meaning is read as its code units. -/
theorem templateWithin?_ordinary (steps : Nat) {c : Char} (ordinary : c ∉ ['\x60', '\\', '\r'])
    {behind : List Char} (noHole : c = '$' → behind.head? ≠ some '{') :
    templateWithin? (steps + 1) (c :: behind) =
      (templateWithin? steps behind).map ((codeUnits c.toNat).map .unit ++ ·) := by
  simp only [List.mem_cons, List.not_mem_nil, or_false, not_or] at ordinary
  have closed : (if c = '$' then dropStart? ['{'] behind else none) = none := by
    split
    case isTrue dollar =>
      cases behind with
      | nil => rfl
      | cons d rest =>
          have other : '{' ≠ d := fun same => noHole dollar (congrArg some same.symm)
          simp [dropStart?, other]
    case isFalse => rfl
  simp only [templateWithin?, beq_iff_eq, ordinary, if_false]
  simp only [closed]

theorem templateWithin?_token (steps : Nat) (token : RouteToken) (behind : List Char) :
    templateWithin? (steps + 1) ((tokenCode token).toList ++ behind) =
      (templateWithin? steps behind).map (tokenFragment token :: ·) := by
  obtain ⟨inside, code, read, -⟩ := exists_hole_of_token token
  simp [code, templateWithin?, dropStart?, read]

/-- A text without marks at the beginning of the code of pieces consists of the first of them. -/
theorem exists_rest_of_markless {used behind : List Char} (markless : Markless used)
    {pieces : List PathPiece} (split : templateCode pieces = used ++ behind) :
    ∃ rest, pieces = used.map .char ++ rest ∧ behind = templateCode rest := by
  induction used generalizing pieces with
  | nil => exact ⟨pieces, rfl, split.symm⟩
  | cons c used inductionHypothesis =>
      obtain ⟨here, later⟩ := List.forall_mem_cons.mp markless
      cases pieces with
      | nil => exact absurd (List.cons.inj split).1.symm here.2
      | cons piece rest =>
          rw [templateCode_cons] at split
          cases piece with
          | char d =>
              obtain ⟨rfl, others⟩ := List.cons.inj split
              obtain ⟨last, rfl, same⟩ := inductionHypothesis later others
              exact ⟨last, rfl, same⟩
          | token token =>
              obtain ⟨inside, code, -, -⟩ := exists_hole_of_token token
              rw [PathPiece.code, code] at split
              exact absurd (List.cons.inj split).1.symm here.1

/-- A text without special characters is read as its code units. -/
theorem read_of_inert {text behind : List Char} (inert : Inert text) {steps : Nat}
    {found : List Fragment} (read : templateWithin? steps (text ++ behind) = some found) :
    ∃ fewer ≤ steps, ∃ later, templateWithin? fewer behind = some later ∧
      found = (textUnits text).map .unit ++ later := by
  induction text generalizing steps found with
  | nil => exact ⟨steps, Nat.le_refl _, found, read, rfl⟩
  | cons c rest inductionHypothesis =>
      obtain ⟨ordinary, others⟩ := List.forall_mem_cons.mp inert
      obtain ⟨noDollar, ordinary⟩ := not_or.mp (List.mem_cons.not.mp ordinary)
      cases steps with
      | zero => contradiction
      | succ steps =>
          rw [List.cons_append, templateWithin?_ordinary steps ordinary
            fun dollar => absurd dollar noDollar] at read
          obtain ⟨following, continued, rfl⟩ := Option.map_eq_some_iff.mp read
          obtain ⟨fewer, less, later, behindRead, rfl⟩ := inductionHypothesis others continued
          exact ⟨fewer, Nat.le_succ_of_le less, later, behindRead, by simp⟩

/-- In so many steps the code of pieces is read as what they stand for only if they are faithful,
and only if nothing is to be read in addition. -/
def Settles (steps : Nat) : Prop :=
  ∀ pieces delayed, templateWithin? steps (templateCode pieces) =
    some (delayed ++ pieceFragments pieces) → delayed = [] ∧ Faithful pieces

variable {steps fewer : Nat} {front rest : List PathPiece} {delayed given later : List Fragment}

/-- Where the first pieces give no more than they stand for, they give exactly that. -/
theorem eq_of_settles (settles : Settles fewer)
    (continued : templateWithin? fewer (templateCode rest) = some later)
    (whole : given ++ later = delayed ++ pieceFragments (front ++ rest))
    (short : given.length ≤ (delayed ++ pieceFragments front).length) :
    given = delayed ++ pieceFragments front ∧ Faithful rest := by
  rw [pieceFragments_append, ← List.append_assoc] at whole
  obtain ⟨missing, same, rfl⟩ : ∃ missing, delayed ++ pieceFragments front = given ++ missing ∧
      later = missing ++ pieceFragments rest := by
    rcases List.append_eq_append_iff.mp whole with found | ⟨surplus, same, others⟩
    · exact found
    · have none : surplus = [] := by
        rw [same, List.length_append] at short
        exact List.length_eq_zero_iff.mp (by omega)
      subst none
      exact ⟨[], by simpa using same.symm, others.symm⟩
  obtain ⟨rfl, faithful⟩ := settles rest missing continued
  exact ⟨by simpa using same.symm, faithful⟩

/-- Where the first pieces give less than they stand for, the others cannot make up for it. -/
theorem false_of_settles (settles : Settles fewer)
    (continued : templateWithin? fewer (templateCode rest) = some later)
    (whole : given ++ later = delayed ++ pieceFragments (front ++ rest))
    (short : given.length < (delayed ++ pieceFragments front).length) : False := by
  obtain ⟨same, -⟩ := eq_of_settles settles continued whole (Nat.le_of_lt short)
  rw [same] at short
  exact Nat.lt_irrefl _ short

/-- Behind the end of a text nothing is read. -/
theorem templateWithin?_nil (steps : Nat) : templateWithin? steps [] = none := by
  cases steps <;> rfl

/-- Code units cannot make up for a token. -/
theorem length_lt_of_token {token : RouteToken} {units : List Nat} {others : List Fragment}
    (whole : units.map .unit ++ later = delayed ++ tokenFragment token :: others) :
    units.length < (delayed ++ [tokenFragment token]).length := by
  by_contra long
  have front : delayed ++ [tokenFragment token] <+: units.map .unit :=
    List.prefix_of_prefix_length_le ⟨others, by simp [whole]⟩ (List.prefix_append _ later)
      (by simpa using long)
  have member : tokenFragment token ∈ units.map .unit := front.subset (by simp)
  obtain ⟨code, -, same⟩ := List.mem_map.mp member
  unfold tokenFragment at same
  split at same <;> contradiction

/-- A token whose dollar sign is escaped is read as plain text, and so does not stand for itself. -/
theorem false_of_escapedToken (settles : ∀ fewer ≤ steps, Settles fewer) {token : RouteToken}
    {inside : List Char} (inert : Inert inside) {units : List Nat}
    (found : templateWithin? steps ('{' :: (inside ++ templateCode rest)) = some later)
    (whole : units.map .unit ++ later =
      delayed ++ pieceFragments (.char '\\' :: .token token :: rest)) : False := by
  have plain : Inert ('{' :: inside) := List.forall_mem_cons.mpr ⟨by decide, inert⟩
  obtain ⟨fewer, less, last, continued, rfl⟩ := read_of_inert plain found
  have mark : (PathPiece.char '\\').fragments = [.unit 92] := rfl
  have front : (units ++ textUnits ('{' :: inside)).map .unit ++ last =
      (delayed ++ [.unit 92]) ++ tokenFragment token :: pieceFragments rest := by
    simpa [mark] using whole
  have short := length_lt_of_token front
  refine @false_of_settles fewer [.char '\\', .token token] rest delayed
    ((units ++ textUnits ('{' :: inside)).map .unit) last (settles fewer less) continued
    (by simpa [mark] using front) ?_
  simpa [mark] using short

/-- A backslash does not stand for itself. -/
theorem false_of_backslash (settles : ∀ fewer ≤ steps, Settles fewer) {pieces : List PathPiece}
    (read : templateWithin? (steps + 1) ('\\' :: templateCode pieces) =
      some (delayed ++ pieceFragments (.char '\\' :: pieces))) : False := by
  obtain ⟨⟨units, behind⟩, escape, continued⟩ := Option.bind_eq_some_iff.mp read
  obtain ⟨later, found, whole⟩ := Option.map_eq_some_iff.mp continued
  obtain ⟨used, split, short, kind⟩ := exists_used_of_escape? escape
  -- What an escape uses up is missing from the fragments of the pieces behind it.
  have consumed (rest : List PathPiece) (same : pieces = used.map .char ++ rest)
      (code : behind = templateCode rest) : False := by
    subst same code
    have one : (PathPiece.char '\\').fragments.length = 1 := rfl
    rw [← List.cons_append] at whole
    refine false_of_settles (settles steps (Nat.le_refl _)) found whole ?_
    rw [pieceFragments_cons, pieceFragments_chars]
    simp [one]
    omega
  rcases kind with ⟨c, rfl⟩ | markless
  · cases pieces with
    | nil =>
        obtain rfl := (List.cons.inj split).2
        rw [templateWithin?_nil] at found
        contradiction
    | cons piece rest =>
        rw [templateCode_cons] at split
        cases piece with
        | char d =>
            obtain ⟨rfl, rfl⟩ := List.cons.inj split
            exact consumed rest rfl rfl
        | token token =>
            obtain ⟨inside, code, -, inert⟩ := exists_hole_of_token token
            rw [PathPiece.code, code] at split
            obtain ⟨rfl, rfl⟩ := List.cons.inj split
            exact false_of_escapedToken settles inert found whole
  · obtain ⟨rest, same, code⟩ := exists_rest_of_markless markless split
    exact consumed rest same code

/-- A carriage return does not stand for itself. -/
theorem false_of_return (settles : ∀ fewer ≤ steps, Settles fewer) {pieces : List PathPiece}
    (read : templateWithin? (steps + 1) ('\r' :: templateCode pieces) =
      some (delayed ++ pieceFragments (.char '\r' :: pieces))) : False := by
  obtain ⟨later, found, whole⟩ := Option.map_eq_some_iff.mp read
  obtain ⟨feed, split, markless⟩ := exists_feed_of_behindReturn (templateCode pieces)
  obtain ⟨rest, rfl, code⟩ := exists_rest_of_markless markless split
  rw [code] at found
  rw [← List.cons_append] at whole
  have mark : (PathPiece.char '\r').fragments = [.unit 13] := rfl
  obtain ⟨same, -⟩ := @eq_of_settles steps (.char '\r' :: feed.map .char) rest delayed [.unit 10]
    later (settles steps (Nat.le_refl _)) found whole (by simp [mark]; omega)
  cases delayed <;> simp [mark] at same

/-- The opening of a hole does not stand for itself. -/
theorem false_of_hole (settles : ∀ fewer ≤ steps, Settles fewer) {pieces : List PathPiece}
    (read : templateWithin? (steps + 1) ('$' :: '{' :: templateCode pieces) =
      some (delayed ++ pieceFragments (.char '$' :: .char '{' :: pieces))) : False := by
  obtain ⟨⟨fragment, behind⟩, hole, continued⟩ := Option.bind_eq_some_iff.mp read
  obtain ⟨later, found, whole⟩ := Option.map_eq_some_iff.mp continued
  obtain ⟨used, split, markless⟩ := exists_used_of_hole? hole
  obtain ⟨rest, rfl, rfl⟩ := exists_rest_of_markless markless split
  rw [← List.cons_append, ← List.cons_append] at whole
  have marks : (PathPiece.char '$').fragments = [.unit 36] ∧
    (PathPiece.char '{').fragments = [.unit 123] := ⟨rfl, rfl⟩
  exact @false_of_settles steps (.char '$' :: .char '{' :: used.map .char) rest delayed [fragment]
    later (settles steps (Nat.le_refl _)) found whole (by simp [marks]; omega)

/-- The code of pieces begins with an opening brace only where the first of them is one. -/
theorem exists_rest_of_brace {pieces : List PathPiece}
    (brace : (templateCode pieces).head? = some '{') : ∃ rest, pieces = .char '{' :: rest := by
  cases pieces with
  | nil => contradiction
  | cons piece rest =>
      rw [templateCode_cons] at brace
      cases piece with
      | char c => exact ⟨rest, by rw [Option.some.inj brace]⟩
      | token token =>
          obtain ⟨inside, code, -, -⟩ := exists_hole_of_token token
          rw [PathPiece.code, code] at brace
          exact absurd (Option.some.inj brace) (by decide)

/-- Where the first piece gives what it stands for, there is no room for delayed fragments. -/
theorem alone_of_settles (piece : PathPiece) (settles : Settles fewer)
    (found : templateWithin? fewer (templateCode rest) = some later)
    (whole : piece.fragments ++ later = delayed ++ pieceFragments (piece :: rest)) :
    delayed = [] ∧ Faithful rest := by
  obtain ⟨same, faithful⟩ := @eq_of_settles fewer [piece] rest delayed piece.fragments later
    settles found whole (by simp)
  exact ⟨by simpa using same, faithful⟩

/-- A character is read as what it stands for only if it is faithful. -/
theorem settled_of_char (settles : ∀ fewer ≤ steps, Settles fewer) {c : Char}
    (read : templateWithin? (steps + 1) (c :: templateCode rest) =
      some (delayed ++ pieceFragments (.char c :: rest))) :
    delayed = [] ∧ Faithful (.char c :: rest) := by
  by_cases special : c ∈ ['\x60', '\\', '\r']
  · simp only [List.mem_cons, List.not_mem_nil, or_false] at special
    rcases special with rfl | rfl | rfl
    · simp [templateWithin?, templateCode_ne_nil] at read
    · exact (false_of_backslash settles read).elim
    · exact (false_of_return settles read).elim
  · by_cases hole : c = '$' ∧ (templateCode rest).head? = some '{'
    · obtain ⟨rfl, brace⟩ := hole
      obtain ⟨others, rfl⟩ := exists_rest_of_brace brace
      exact (false_of_hole settles read).elim
    · have noHole := not_and.mp hole
      rw [templateWithin?_ordinary steps special noHole] at read
      obtain ⟨later, found, whole⟩ := Option.map_eq_some_iff.mp read
      obtain ⟨none, faithful⟩ :=
        alone_of_settles (.char c) (settles steps (Nat.le_refl _)) found whole
      refine ⟨none, faithful.char special fun dollar brace => noHole dollar ?_⟩
      obtain ⟨others, rfl⟩ := List.head?_eq_some_iff.mp brace
      rfl

/-- The code of pieces is read as what they stand for only if they are faithful, in however many
steps. -/
theorem settles_of_steps (steps : Nat) : Settles steps := by
  induction steps using Nat.strong_induction_on with
  | _ steps inductionHypothesis =>
    intro pieces delayed read
    cases steps with
    | zero => contradiction
    | succ steps =>
        have settles : ∀ fewer ≤ steps, Settles fewer :=
          fun fewer less => inductionHypothesis fewer (Nat.lt_succ_of_le less)
        cases pieces with
        | nil =>
            have same : [] = delayed ++ pieceFragments [] := Option.some.inj read
            exact ⟨(List.append_eq_nil_iff.mp same.symm).1, .nil⟩
        | cons piece rest =>
            rw [templateCode_cons] at read
            cases piece with
            | char c => exact settled_of_char settles read
            | token token =>
                rw [PathPiece.code, templateWithin?_token] at read
                obtain ⟨later, found, whole⟩ := Option.map_eq_some_iff.mp read
                obtain ⟨none, faithful⟩ :=
                  alone_of_settles (.token token) (settles steps (Nat.le_refl _)) found whole
                exact ⟨none, faithful.token⟩

/-- Faithful pieces are read from their code. -/
theorem templateWithin?_of_faithful {pieces : List PathPiece} (faithful : Faithful pieces)
    {steps : Nat} (enough : (templateCode pieces).length ≤ steps) :
    templateWithin? steps (templateCode pieces) = some (pieceFragments pieces) := by
  induction faithful generalizing steps with
  | nil =>
      obtain ⟨steps, rfl⟩ := Nat.exists_eq_add_of_le' enough
      rfl
  | @char c rest ordinary noHole _ inductionHypothesis =>
      rw [templateCode_cons, PathPiece.code, List.singleton_append, List.length_cons] at enough
      obtain ⟨steps, rfl⟩ := Nat.exists_eq_add_of_le' (by omega : 1 ≤ steps)
      have closed : c = '$' → (templateCode rest).head? ≠ some '{' := by
        intro dollar brace
        obtain ⟨others, rfl⟩ := exists_rest_of_brace brace
        exact noHole dollar rfl
      rw [templateCode_cons, PathPiece.code, List.singleton_append,
        templateWithin?_ordinary steps ordinary closed, inductionHypothesis (by omega)]
      rfl
  | @token token rest _ inductionHypothesis =>
      obtain ⟨inside, code, -, -⟩ := exists_hole_of_token token
      rw [templateCode_cons, List.length_append, PathPiece.code, code, List.length_cons] at enough
      obtain ⟨steps, rfl⟩ := Nat.exists_eq_add_of_le' (by omega : 1 ≤ steps)
      rw [templateCode_cons, PathPiece.code, templateWithin?_token,
        inductionHypothesis (by omega)]
      rfl

end Reading

end Script

end TypedClient
