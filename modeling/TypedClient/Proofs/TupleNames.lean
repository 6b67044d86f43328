/-
This file says when the names of tuple elements have no influence on the type that a display is read
as: the reader cuts the type of an element at its last space, and so an element without a name must
not end with an element that has one.
-/

import TypedClient.Proofs.WrittenTypes

namespace TypedClient

open Text

namespace WrittenType

section Spaces

/-- The last space of a type follows a comma, where no name of a tuple element stands behind it. -/
theorem IsWritten.spaced {type : WrittenType} (written : IsWritten type)
    (unnamed : ¬EndsNamed type) : Spaced type.text := by
  induction written with
  | name dotted => exact .of_dotted dotted
  | @generic word arguments dotted _ inductionHypothesis =>
      rw [text_generic]
      refine (Spaced.of_dotted dotted).append (.enclosed (by decide) fun text last => ?_)
      rw [List.getLast?_map] at last
      obtain ⟨argument, final, rfl⟩ := Option.map_eq_some_iff.mp last
      obtain ⟨front, rfl⟩ := List.getLast?_eq_some_iff.mp final
      exact inductionHypothesis argument (by simp) fun ends => unnamed (.generic ends)
  | array _ inductionHypothesis =>
      exact (inductionHypothesis fun ends => unnamed (.array ends)).append (.of_notMem (by simp))
  | nullable _ inductionHypothesis =>
      exact (inductionHypothesis fun ends => unnamed (.nullable ends)).append (.of_notMem (by simp))
  | @tuple elements _ labels inductionHypothesis =>
      rw [text_tuple]
      refine .enclosed (by decide) fun text last => ?_
      rw [List.getLast?_map] at last
      obtain ⟨⟨type, label⟩, final, rfl⟩ := Option.map_eq_some_iff.mp last
      obtain ⟨front, rfl⟩ := List.getLast?_eq_some_iff.mp final
      cases label with
      | some label => exact absurd (.named front type label) unnamed
      | none => exact inductionHypothesis (type, none) (by simp) fun ends => unnamed (.tuple ends)

end Spaces

section Cuts

/-- A text in which every closing bracket has its partner. -/
inductive Unclosed : List Char → Prop
  | nested {cs : List Char} (nested : Brackets.Nested (fun _ => True) cs) : Unclosed cs
  | opening {front rest : List Char} {bracket : Char}
      (nested : Brackets.Nested (fun _ => True) front) (opens : Brackets.opens bracket = true)
      (behind : Unclosed rest) : Unclosed (front ++ bracket :: rest)

/-- A nested text in front changes nothing. -/
theorem Unclosed.prepend {front cs : List Char} (nested : Brackets.Nested (fun _ => True) front)
    (unclosed : Unclosed cs) : Unclosed (front ++ cs) := by
  cases unclosed with
  | nested within => exact .nested (nested.append within)
  | opening within opens behind =>
      rw [← List.append_assoc]
      exact .opening (nested.append within) opens behind

/-- A text with a last space that follows neither a comma nor a blank, and the texts on its
sides. -/
structure Splits (cs inside behind : List Char) : Prop where
  whole : cs = inside ++ ' ' :: behind
  last : ' ' ∉ behind
  unclosed : Unclosed inside
  ends : ∃ c ∈ inside.getLast?, isBlank c = false ∧ c ≠ ','

/-- More text in front and behind does not move the last space. -/
theorem Splits.between {cs inside behind front back : List Char} (splits : Splits cs inside behind)
    (nested : Brackets.Nested (fun _ => True) front) (plain : ' ' ∉ back) :
    Splits (front ++ (cs ++ back)) (front ++ inside) (behind ++ back) where
  whole := by simp [splits.whole]
  last := by simp [splits.last, plain]
  unclosed := splits.unclosed.prepend nested
  ends := by
    obtain ⟨c, final, known⟩ := splits.ends
    exact ⟨c, by simp [List.getLast?_append, Option.mem_def.mp final], known⟩

/-- A text that is cut at its last space inside of a bracket; in front of the bracket stands nothing
or a name. -/
structure IsCut (cs base rest : List Char) (bracket : Char) : Prop where
  whole : cs = base ++ bracket :: rest
  named : base = [] ∨ ∃ name, IsDotted IsWord name ∧ base = name.toList
  opens : Brackets.opens bracket = true
  splits : ∃ inside behind, Splits rest inside behind

/-- Some bracket of a text is cut. -/
def HasCut (cs : List Char) : Prop :=
  ∃ base rest bracket, IsCut cs base rest bracket

theorem nested_of_named {base : List Char}
    (named : base = [] ∨ ∃ name, IsDotted IsWord name ∧ base = name.toList) :
    Brackets.Nested (fun _ => True) base := by
  rcases named with rfl | ⟨name, dotted, rfl⟩
  · exact .nil
  · exact (SourceType.IsDisplay.of_dotted dotted).nested.anywhere

/-- A text that is cut has its last space there. -/
theorem IsCut.outer {cs base rest inside behind : List Char} {bracket : Char}
    (cut : IsCut cs base rest bracket) (splits : Splits rest inside behind) :
    Splits cs (base ++ bracket :: inside) behind where
  whole := by simp [cut.whole, splits.whole]
  last := splits.last
  unclosed := .opening (nested_of_named cut.named) cut.opens splits.unclosed
  ends := by
    obtain ⟨c, final, known⟩ := splits.ends
    exact ⟨c, by simp [List.getLast?_append, List.getLast?_cons, Option.mem_def.mp final], known⟩

/-- A text that is cut has a last space. -/
theorem HasCut.splits {cs : List Char} (cut : HasCut cs) :
    ∃ inside behind, Splits cs inside behind := by
  obtain ⟨base, rest, bracket, isCut⟩ := cut
  obtain ⟨inside, behind, splits⟩ := isCut.splits
  exact ⟨_, _, isCut.outer splits⟩

/-- Text without spaces behind a cut text does not matter. -/
theorem HasCut.append {cs : List Char} (cut : HasCut cs) {back : List Char} (plain : ' ' ∉ back) :
    HasCut (cs ++ back) := by
  obtain ⟨base, rest, bracket, isCut⟩ := cut
  obtain ⟨inside, behind, splits⟩ := isCut.splits
  exact ⟨base, rest ++ back, bracket, {
    isCut with
    whole := by simp [isCut.whole]
    splits := ⟨inside, behind ++ back, splits.between .nil plain⟩ }⟩

/-- Where the last of several texts in brackets has its last space, all of them have. -/
theorem HasCut.enclosed {base last inside behind : List Char} {texts : List (List Char)}
    {opening closing : Char} (partner : (opening, closing) ∈ Brackets.partners)
    (named : base = [] ∨ ∃ name, IsDotted IsWord name ∧ base = name.toList)
    (nested : ∀ text ∈ texts, Brackets.Nested (fun _ => True) text)
    (splits : Splits last inside behind) :
    HasCut (base ++ opening :: ([',', ' '].intercalate (texts ++ [last]) ++ [closing])) := by
  have plain : ' ' ∉ [closing] := by
    have all : ∀ pair ∈ Brackets.partners, ' ' ∉ [pair.2] := by decide
    exact all (opening, closing) partner
  have joined : ∃ front, Brackets.Nested (fun _ => True) front ∧
      [',', ' '].intercalate (texts ++ [last]) = front ++ last := by
    induction texts with
    | nil => exact ⟨[], .nil, by simp⟩
    | cons text rest inductionHypothesis =>
        obtain ⟨here, later⟩ := List.forall_mem_cons.mp nested
        obtain ⟨front, within, same⟩ := inductionHypothesis later
        have separator : Brackets.Nested (fun _ => True) [',', ' '] :=
          .of_plain (by simp [Brackets.opens, Brackets.closes])
        refine ⟨text ++ [',', ' '] ++ front, (here.append separator).append within, ?_⟩
        have some : rest ++ [last] ≠ [] := by simp
        obtain ⟨second, others, split⟩ := List.exists_cons_of_ne_nil some
        rw [List.cons_append, split, List.intercalate_cons_cons, ← split, same]
        simp
  obtain ⟨front, within, same⟩ := joined
  refine ⟨base, _, opening, rfl, named, (Brackets.opens_of_partners partner).1, ?_⟩
  rw [same, List.append_assoc]
  exact ⟨_, _, splits.between within plain⟩

/-- A nested text ends with a bracket or with what is allowed outside of brackets. -/
theorem closes_or_of_getLast? {outside : Char → Prop} {cs : List Char}
    (nested : Brackets.Nested outside cs) :
    ∀ c ∈ cs.getLast?, Brackets.closes c = true ∨ outside c := by
  induction nested with
  | nil => simp
  | @plain _ c rest _ _ allowed _ inductionHypothesis =>
      cases rest with
      | nil => simpa using .inr allowed
      | cons d rest => simpa using inductionHypothesis
  | @pair _ _ closing inside rest partner _ _ _ inductionHypothesis =>
      cases rest with
      | nil =>
          have closes := (Brackets.opens_of_partners partner).2.2
          simpa [List.getLast?_cons, List.getLast?_append] using .inl closes
      | cons d rest => simpa [List.getLast?_cons, List.getLast?_append] using inductionHypothesis

/-- A display with a name behind it has its last space between the two. -/
theorem splits_of_label {cs : List Char} (display : SourceType.IsDisplay cs) {label : String}
    (word : IsWord label.toList) : Splits (cs ++ ' ' :: label.toList) cs label.toList where
  whole := rfl
  last := fun member => absurd (word.2 ' ' member).1 (by decide)
  unclosed := .nested display.nested.anywhere
  ends := by
    have final := List.getLast?_eq_some_getLast display.tight.some
    refine ⟨_, final, display.tight.back _ final, fun comma => ?_⟩
    rw [comma] at final
    rcases closes_or_of_getLast? display.nested _ final with closes | other
    · exact absurd closes (by decide)
    · exact other rfl

theorem nested_of_elements {elements : List (WrittenType × Option String)}
    (each : ∀ element ∈ elements, IsWritten element.1)
    (labels : ∀ element ∈ elements, ∀ label ∈ element.2, IsWord label.toList) :
    ∀ text ∈ elements.map elementText, Brackets.Nested (fun _ => True) text :=
  List.forall_mem_map.mpr fun element member =>
    (isDisplay_elementText (each element member).isDisplay (labels element member)).nested.anywhere

/-- What ends with a named tuple element is cut in front of the name. -/
theorem IsWritten.hasCut {type : WrittenType} (written : IsWritten type) (ends : EndsNamed type) :
    HasCut type.text := by
  induction ends with
  | @generic word front last _ inductionHypothesis =>
      cases written with
      | generic dotted each =>
          obtain ⟨inside, behind, splits⟩ := (inductionHypothesis (each last (by simp))).splits
          rw [text_generic, List.map_append]
          refine HasCut.enclosed (by decide) (.inr ⟨word, dotted, rfl⟩) ?_ splits
          exact List.forall_mem_map.mpr fun argument member =>
            (each argument (by simp [member])).isDisplay.nested.anywhere
  | array _ inductionHypothesis =>
      cases written with
      | array inside => exact (inductionHypothesis inside).append (by simp)
  | nullable _ inductionHypothesis =>
      cases written with
      | nullable inside => exact (inductionHypothesis inside).append (by simp)
  | @tuple front last _ inductionHypothesis =>
      cases written with
      | tuple each labels =>
          obtain ⟨inside, behind, splits⟩ :=
            (inductionHypothesis (each (last, none) (by simp))).splits
          rw [text_tuple, List.map_append]
          refine HasCut.enclosed (by decide) (.inl rfl) (nested_of_elements ?_ ?_) splits
          · exact fun element member => each element (by simp [member])
          · exact fun element member => labels element (by simp [member])
  | named front last label =>
      cases written with
      | tuple each labels =>
          have splits := splits_of_label (each (last, some label) (by simp)).isDisplay
            (labels (last, some label) (by simp) label rfl)
          rw [text_tuple, List.map_append]
          refine HasCut.enclosed (by decide) (.inl rfl) (nested_of_elements ?_ ?_) splits
          · exact fun element member => each element (by simp [member])
          · exact fun element member => labels element (by simp [member])

end Cuts

section Reading

open SourceType

/-- A label behind a display is taken off. -/
theorem elementType_of_splits {cs inside behind : List Char} (splits : Splits cs inside behind) :
    elementType cs = inside := by
  obtain ⟨c, final, -, other⟩ := splits.ends
  have cut : cutLast? ' ' cs = some (inside, behind) :=
    cutLast?_eq_some.mpr ⟨splits.whole, splits.last⟩
  have unended : endsWith [','] inside = false := by
    rw [endsWith, dropEnd?_eq_none rfl (by simpa [Option.mem_def.mp final] using other)]
    rfl
  have some : inside.isEmpty = false := by
    cases inside with
    | nil => contradiction
    | cons d rest => rfl
  simp [elementType, cut, unended, some]

/-- The outermost bracket that stays open is found behind a text in which every closing bracket has
its partner. -/
theorem firstUnmatched?_of_unclosed {cs : List Char} (unclosed : Unclosed cs)
    (innermost : Nat) (outer : List Nat) (place : Nat) :
    Brackets.firstUnmatched? (innermost :: outer) place cs = (innermost :: outer).getLast? := by
  induction unclosed generalizing innermost outer place with
  | nested nested =>
      have matched := nested.balanced.firstUnmatched?_append (innermost :: outer) place []
      rw [List.append_nil] at matched
      rw [matched]
      rfl
  | @opening front rest bracket nested opens _ inductionHypothesis =>
      rw [nested.balanced.firstUnmatched?_append, Brackets.firstUnmatched?_of_opens opens,
        inductionHypothesis]
      exact List.getLast?_cons_cons

/-- A text with a bracket that stays open counts up to that bracket. -/
theorem balancedStart_of_unclosed {base inside : List Char} {bracket : Char}
    (nested : Brackets.Nested (fun _ => True) base) (opens : Brackets.opens bracket = true)
    (unclosed : Unclosed inside) :
    Brackets.balancedStart (base ++ bracket :: inside) = trimEnd base := by
  have found : Brackets.firstUnmatched? [] 0 (base ++ bracket :: inside) = some base.length := by
    rw [nested.balanced.firstUnmatched?_append, Brackets.firstUnmatched?_of_opens opens,
      firstUnmatched?_of_unclosed unclosed]
    simp
  rw [Brackets.balancedStart, found]
  simp

/-- What a text is read as depends on what counts of it. -/
theorem ofDisplayWithin_congr {first second : List Char}
    (same : dropGlobal (Brackets.balancedStart (trim first)) =
      dropGlobal (Brackets.balancedStart (trim second))) (depth : Nat) :
    ofDisplayWithin (depth + 1) first = ofDisplayWithin (depth + 1) second := by
  simp only [ofDisplayWithin, same]

/-- What remains of a cut element is read as a type without arguments. -/
theorem arguments_of_cut {cs : List Char} (cut : HasCut cs) (depth : Nat) :
    (ofDisplayWithin depth (elementType cs)).arguments = [] := by
  obtain ⟨base, rest, bracket, isCut⟩ := cut
  obtain ⟨inside, behind, splits⟩ := isCut.splits
  have nested := nested_of_named isCut.named
  rw [elementType_of_splits (isCut.outer splits)]
  cases depth with
  | zero => rfl
  | succ depth =>
      obtain ⟨c, final, unblank, -⟩ := splits.ends
      obtain ⟨middle, rfl⟩ := List.getLast?_eq_some_iff.mp final
      have last : Tight [c] := .singleton unblank
      have balanced := balancedStart_of_unclosed nested isCut.opens splits.unclosed
      rcases isCut.named with rfl | ⟨name, dotted, rfl⟩
      · have first : Tight [bracket] := by
          have known := isCut.opens
          simp only [Brackets.opens, Bool.or_eq_true, beq_iff_eq] at known
          rcases known with ((rfl | rfl) | rfl) | rfl <;> exact .singleton (by decide)
        have tight : Tight ([] ++ bracket :: (middle ++ [c])) := first.enclose last middle
        have same := @ofDisplayWithin_congr ([] ++ bracket :: (middle ++ [c])) []
          (by rw [tight.trim, balanced]; rfl) depth
        rw [same]
        rfl
      · have tight : Tight (name.toList ++ bracket :: (middle ++ [c])) :=
          dotted.tight.enclose last (bracket :: middle)
        have same := @ofDisplayWithin_congr (name.toList ++ bracket :: (middle ++ [c])) name.toList
          (by rw [tight.trim, balanced, dotted.tight.trimEnd,
            (IsDisplay.of_dotted dotted).normalized,
            dropGlobal_of_notMem (IsDisplay.of_dotted dotted).uncolored]) depth
        rw [same, ofDisplayWithin_reference dotted]
        rfl

theorem arguments_nullable (type : SourceType) : type.nullable.arguments = type.arguments := by
  rw [SourceType.nullable]
  split <;> rfl

/-- What ends with a named tuple element has arguments. -/
theorem arguments_ne_nil {type : WrittenType} (ends : EndsNamed type) :
    type.meaning.arguments ≠ [] := by
  induction ends with
  | generic _ _ =>
      rw [meaning, argumentMeanings_eq]
      simp [SourceType.generic]
  | array _ _ =>
      rw [meaning]
      simp [SourceType.array]
  | nullable _ inductionHypothesis =>
      rw [meaning, arguments_nullable]
      exact inductionHypothesis
  | tuple _ _ =>
      rw [meaning, elementMeanings_eq]
      simp [SourceType.tuple, SourceType.generic]
  | named =>
      rw [meaning, elementMeanings_eq]
      simp [SourceType.tuple, SourceType.generic]

/-- In so many steps a type is read as what it means if it is clear, and otherwise as a type with
other arguments. -/
def ReadsAt (depth : Nat) (type : WrittenType) : Prop :=
  (Clear type → ofDisplayWithin depth type.text = type.meaning) ∧
    ((ofDisplayWithin depth type.text).arguments = type.meaning.arguments → Clear type)

theorem ReadsAt.eq_iff {depth : Nat} {type : WrittenType} (reads : ReadsAt depth type) :
    ofDisplayWithin depth type.text = type.meaning ↔ Clear type :=
  ⟨fun same => reads.2 (congrArg SourceType.arguments same), reads.1⟩

/-- A tuple element is read as what it means exactly if its type is clear and, where it has no name,
does not end with an element that has one. -/
theorem element_eq_iff {depth : Nat} {element : WrittenType × Option String}
    (written : IsWritten element.1) (labels : ∀ label ∈ element.2, IsWord label.toList)
    (reads : ReadsAt depth element.1) :
    ofDisplayWithin depth (elementType (elementText element)) = element.1.meaning ↔
      Clear element.1 ∧ (element.2 = none → ¬EndsNamed element.1) := by
  obtain ⟨type, _ | label⟩ := element
  · by_cases ends : EndsNamed type
    · have other := arguments_ne_nil ends
      have none := arguments_of_cut (written.hasCut ends) depth
      refine iff_of_false (fun same => other ?_) (fun known => known.2 rfl ends)
      rw [← same]
      exact none
    · have whole := elementType_of_spaced (written.spaced ends)
      simp [elementText, whole, reads.eq_iff, ends]
  · have cut := elementType_of_splits (splits_of_label written.isDisplay (labels label rfl))
    simp [elementText, cut, reads.eq_iff]

theorem length_text_le (element : WrittenType × Option String) :
    element.1.text.length ≤ (elementText element).length := by
  unfold elementText
  split <;> simp

/-- A part of a list in brackets is shorter than the text around it. -/
theorem length_lt_of_enclosed {texts : List (List Char)} {text front : List Char}
    {opening closing : Char} {depth : Nat} (member : text ∈ texts)
    (enough : (front ++ opening :: ([',', ' '].intercalate texts ++ [closing])).length <
      depth + 1) : text.length < depth := by
  have short := @length_le_length_intercalate [',', ' '] texts text member
  simp only [List.length_append, List.length_cons, List.length_nil] at enough
  omega

variable {depth : Nat}

/-- A generic application is read as its arguments are. -/
theorem readsAt_generic {word : String} {arguments : List WrittenType}
    (dotted : IsDotted IsWord word) (each : ∀ argument ∈ arguments, IsWritten argument)
    (reads : ∀ argument ∈ arguments, ReadsAt depth argument) :
    ReadsAt (depth + 1) (.generic word arguments) := by
  have read := ofDisplayWithin_generic dotted
    (List.forall_mem_map.mpr fun argument member => (each argument member).isDisplay) depth
  have same : arguments.map (fun argument => ofDisplayWithin depth argument.text) =
      arguments.map meaning ↔ Clear (.generic word arguments) := by
    rw [List.map_inj_left]
    constructor
    · exact fun all => .generic fun argument member =>
        (reads argument member).eq_iff.mp (all argument member)
    · intro clear argument member
      cases clear with
      | generic each => exact (reads argument member).eq_iff.mpr (each argument member)
  rw [ReadsAt, text_generic, read, meaning, argumentMeanings_eq, List.map_map]
  exact ⟨fun clear => congrArg (SourceType.generic word) (same.mpr clear), same.mp⟩

theorem readsAt_array {element : WrittenType} (commas : Nat) (written : IsWritten element)
    (reads : ReadsAt depth element) : ReadsAt (depth + 1) (.array commas element) := by
  rw [ReadsAt, text, ofDisplayWithin_array written.isDisplay, meaning]
  refine ⟨fun clear => ?_, fun same => .array (reads.eq_iff.mp (List.cons.inj same).1)⟩
  cases clear with
  | array clear => rw [reads.1 clear]

theorem readsAt_nullable {type : WrittenType} (written : IsWritten type)
    (reads : ReadsAt depth type) : ReadsAt (depth + 1) (.nullable type) := by
  rw [ReadsAt, text, ofDisplayWithin_nullable written.isDisplay, meaning, arguments_nullable,
    arguments_nullable]
  refine ⟨fun clear => ?_, fun same => .nullable (reads.2 same)⟩
  cases clear with
  | nullable clear => rw [reads.1 clear]

/-- A tuple is read as the types that remain of its elements are. -/
theorem readsAt_tuple {elements : List (WrittenType × Option String)}
    (each : ∀ element ∈ elements, IsWritten element.1)
    (labels : ∀ element ∈ elements, ∀ label ∈ element.2, IsWord label.toList)
    (reads : ∀ element ∈ elements, ReadsAt depth element.1) :
    ReadsAt (depth + 1) (.tuple elements) := by
  have read := ofDisplayWithin_tuple (List.forall_mem_map.mpr fun element member =>
    isDisplay_elementText (each element member).isDisplay (labels element member)) depth
  have one (element : WrittenType × Option String) (member : element ∈ elements) :=
    element_eq_iff (each element member) (labels element member) (reads element member)
  have same : elements.map (fun element =>
      ofDisplayWithin depth (elementType (elementText element))) =
      elements.map (fun element => element.1.meaning) ↔ Clear (.tuple elements) := by
    rw [List.map_inj_left]
    constructor
    · intro all
      exact .tuple (fun element member => ((one element member).mp (all element member)).1)
        fun element member => ((one element member).mp (all element member)).2
    · intro clear element member
      cases clear with
      | tuple clear whole =>
          exact (one element member).mpr ⟨clear element member, whole element member⟩
  rw [ReadsAt, text_tuple, read, meaning, elementMeanings_eq, List.map_map, List.map_map]
  exact ⟨fun clear => congrArg SourceType.tuple (same.mpr clear), same.mp⟩

/-- What is written is read as what it means where it is clear, and else as something else. -/
theorem IsWritten.readsAt {type : WrittenType} (written : IsWritten type)
    (enough : type.text.length < depth) : ReadsAt depth type := by
  -- The induction is on the steps, as each form takes away at least one character of the text.
  induction depth generalizing type with
  | zero => contradiction
  | succ depth inductionHypothesis =>
      cases written with
      | name dotted => exact ⟨fun _ => ofDisplayWithin_reference dotted depth, fun _ => .name _⟩
      | generic dotted each =>
          rw [text_generic] at enough
          exact readsAt_generic dotted each fun argument member =>
            inductionHypothesis (each argument member)
              (length_lt_of_enclosed (List.mem_map_of_mem member) enough)
      | @array commas element inside =>
          have short : element.text.length < depth := by
            simp [text] at enough
            omega
          exact readsAt_array commas inside (inductionHypothesis inside short)
      | @nullable type inside =>
          have short : type.text.length < depth := by
            simp [text] at enough
            omega
          exact readsAt_nullable inside (inductionHypothesis inside short)
      | @tuple elements each labels =>
          rw [text_tuple] at enough
          refine readsAt_tuple each labels fun element member => ?_
          have inside : (elementText element).length < depth :=
            @length_lt_of_enclosed _ _ [] '(' ')' depth (List.mem_map_of_mem member) enough
          exact inductionHypothesis (each element member)
            (Nat.lt_of_le_of_lt (length_text_le element) inside)

end Reading

end WrittenType

open WrittenType

/-- Without the names of tuple elements a display is read as the type that is meant. With them it is
read as the same type exactly if no tuple element without a name ends with one that has a name. -/
theorem ofDisplay_unnamed {type : WrittenType} (written : IsWritten type) :
    SourceType.ofDisplay type.unnamed.display = type.meaning ∧
      (SourceType.ofDisplay type.display = SourceType.ofDisplay type.unnamed.display ↔
        Clear type) := by
  have read {type : WrittenType} (written : IsWritten type) :
      SourceType.ofDisplay type.display = type.meaning ↔ Clear type := by
    have reads := written.readsAt (Nat.lt_succ_self type.text.length)
    rw [SourceType.ofDisplay, display, String.length_ofList, String.toList_ofList]
    exact reads.eq_iff
  obtain ⟨unlabeled, bare, same⟩ := written.unnamed
  have plain := (read unlabeled).mpr bare.clear
  rw [same] at plain
  exact ⟨plain, by rw [plain, read written]⟩

/-- A named pair of a list of named pairs and a truth value. -/
def namedList : WrittenType :=
  .tuple [(.generic "List" [.tuple [(.name "int", some "Id"), (.name "string", some "Name")]],
    some "Users"), (.name "bool", some "Found")]

/-- The names in the pair of a list and a truth value do not matter. -/
theorem ofDisplay_namedList :
    namedList.display = "(List<(int Id, string Name)> Users, bool Found)" ∧ IsWritten namedList ∧
      Clear namedList ∧ SourceType.ofDisplay namedList.display =
        SourceType.ofDisplay namedList.unnamed.display := by
  have dotted : ∀ word ∈ ["int", "string", "bool", "List"], IsDotted IsWord word := by
    intro word member
    have single : ∀ word ∈ ["int", "string", "bool", "List"], IsWord word.toList := by decide
    exact isDotted_of_isWord (single word member)
  have written : IsWritten namedList := by
    have pair : IsWritten (.tuple [(.name "int", some "Id"), (.name "string", some "Name")]) :=
      .tuple (List.forall_mem_cons.mpr ⟨.name (dotted _ (by decide)),
        List.forall_mem_singleton.mpr (.name (dotted _ (by decide)))⟩) (by decide)
    have list := IsWritten.generic (dotted "List" (by decide)) (List.forall_mem_singleton.mpr pair)
    exact .tuple (List.forall_mem_cons.mpr ⟨list,
      List.forall_mem_singleton.mpr (.name (dotted _ (by decide)))⟩) (by decide)
  have clear : Clear namedList := by
    have pair : Clear (.tuple [(.name "int", some "Id"), (.name "string", some "Name")]) :=
      .tuple (List.forall_mem_cons.mpr ⟨.name _, List.forall_mem_singleton.mpr (.name _)⟩) (by simp)
    exact .tuple (List.forall_mem_cons.mpr ⟨.generic (List.forall_mem_singleton.mpr pair),
      List.forall_mem_singleton.mpr (.name _)⟩) (by simp)
  exact ⟨by decide +kernel, written, clear, (ofDisplay_unnamed written).2.mpr clear⟩

/-- A pair of a named pair and a truth value, without names of its own. -/
def pairOfPair : WrittenType :=
  .tuple [(.tuple [(.name "int", some "Id"), (.name "string", some "Name")], none),
    (.name "bool", none)]

/-- A named pair is lost as the element of a pair. -/
theorem ofDisplay_pairOfPair :
    pairOfPair.display = "((int Id, string Name), bool)" ∧
      pairOfPair.unnamed.display = "((int, string), bool)" ∧
      (SourceType.ofDisplay pairOfPair.display).display = "(object, bool)" ∧
      (SourceType.ofDisplay pairOfPair.unnamed.display).display = "((int, string), bool)" := by
  decide +kernel

end TypedClient
