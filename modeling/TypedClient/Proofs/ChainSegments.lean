/-
This file shows that a validator chain is read segment by segment: a selection begins a segment, the
rules of a segment speak of the property that it selects, and they depend on no other segment.
-/

import TypedClient.Proofs.ChainedMessages

namespace TypedClient

/-- A selection in a validator chain, with the calls behind it up to the next selection. -/
structure ChainSegment where
  selection : ChainCall
  calls : List ChainCall
  selects : selection.isSelection = true
  silent : ∀ call ∈ calls, call.isSelection = false

namespace ChainSegment

def chain (segment : ChainSegment) : List ChainCall :=
  segment.selection :: segment.calls

/-- The property that the segment selects by `RuleFor`; the other selections have none. -/
def property? (segment : ChainSegment) : Option String :=
  if segment.selection.name = "RuleFor" then
    segment.selection.arguments[0]?.bind Rule.selectedProperty?
  else none

/-- The rules that the calls of the segment demand of its property. -/
def rules (typeName : String) (segment : ChainSegment) : List Rule :=
  match segment.property? with
  | some property => Rule.ofPropertyCalls typeName property segment.calls
  | none => []

end ChainSegment

namespace Rule

section Keys

variable {typeName property : String}

/-- Rules for a property stay rules for it when one more call is taken in. -/
theorem key_of_mem_addCall {rules : List Rule}
    (all : ∀ rule ∈ rules, rule.key = (typeName, property)) (call : ChainCall) :
    ∀ rule ∈ addCall typeName property rules call, rule.key = (typeName, property) := by
  rcases call_cases call with ⟨states, message, read⟩ | hides | other
  · rw [addCall_of_message rules states read]
    rcases List.eq_nil_or_concat' rules with rfl | ⟨before, last, rfl⟩
    · simp
    · obtain ⟨others, here⟩ := List.forall_mem_append.mp all
      rw [withLastMessage_concat]
      refine List.forall_mem_append.mpr ⟨others, List.forall_mem_singleton.mpr ?_⟩
      exact here last List.mem_cons_self
  · rw [addCall_of_hidesMessage rules hides]
    exact fun rule member => all rule ((List.dropLast_sublist rules).subset member)
  · rw [addCall_of_not_statesMessage rules other]
    exact List.forall_mem_append.mpr
      ⟨all, ChainCall.forall_mem_rules typeName property (fun _ _ _ => rfl) call⟩

/-- The calls behind a selection give rules for the selected property. -/
theorem key_of_mem_ofPropertyCalls (calls : List ChainCall) :
    ∀ rule ∈ ofPropertyCalls typeName property calls, rule.key = (typeName, property) := by
  have run (rules : List Rule) (all : ∀ rule ∈ rules, rule.key = (typeName, property)) :
      ∀ rule ∈ calls.foldl (addCall typeName property) rules, rule.key = (typeName, property) := by
    induction calls generalizing rules with
    | nil => exact all
    | cons call rest inductionHypothesis =>
        exact inductionHypothesis _ (key_of_mem_addCall all call)
  exact run [] (by simp)

end Keys

section Segments

variable (typeName : String)

theorem ofSegment_eq_rules (segment : ChainSegment) :
    ofSegment typeName segment.selection segment.calls = segment.rules typeName := by
  by_cases named : segment.selection.name = "RuleFor"
  · have property : segment.property? =
        segment.selection.arguments[0]?.bind selectedProperty? := if_pos named
    rw [ChainSegment.rules, property, ofSegment]
    exact if_pos (by simp [named])
  · have property : segment.property? = none := if_neg named
    rw [ChainSegment.rules, property, ofSegment]
    exact if_neg (by simp [named])

theorem ofChain_append_of_silent {calls : List ChainCall}
    (silent : ∀ call ∈ calls, call.isSelection = false) (rest : List ChainCall) :
    ofChain typeName (calls ++ rest) = ofChain typeName rest := by
  induction calls with
  | nil => rfl
  | cons call calls inductionHypothesis =>
      obtain ⟨here, later⟩ := List.forall_mem_cons.mp silent
      rw [List.cons_append, ofChain, if_neg (by simp [here]), inductionHypothesis later]

/-- A chain of segments is empty or begins with a selection, so a look ahead stops there. -/
theorem takeWhile_segments (segments : List ChainSegment) :
    (segments.flatMap ChainSegment.chain).takeWhile (fun call => !call.isSelection) = [] := by
  cases segments with
  | nil => rfl
  | cons segment rest => simp [ChainSegment.chain, segment.selects]

/-- In front of other segments a segment adds its rules. -/
theorem ofChain_chain_append (segment : ChainSegment) (rest : List ChainSegment) :
    ofChain typeName (segment.chain ++ rest.flatMap ChainSegment.chain) =
      segment.rules typeName ++ ofChain typeName (rest.flatMap ChainSegment.chain) := by
  have ahead : (segment.calls ++ rest.flatMap ChainSegment.chain).takeWhile
      (fun call => !call.isSelection) = segment.calls := by
    rw [List.takeWhile_append_of_pos (by simpa using segment.silent), takeWhile_segments,
      List.append_nil]
  rw [ChainSegment.chain, List.cons_append, ofChain, if_pos segment.selects, ahead,
    ofChain_append_of_silent typeName segment.silent, ofSegment_eq_rules]

/-- The rules of a chain are those of its segments, whatever stands before the first one. -/
theorem ofChain_segments {ahead : List ChainCall}
    (silent : ∀ call ∈ ahead, call.isSelection = false) (segments : List ChainSegment) :
    ofChain typeName (ahead ++ segments.flatMap ChainSegment.chain) =
      segments.flatMap (ChainSegment.rules typeName) := by
  rw [ofChain_append_of_silent typeName silent]
  induction segments with
  | nil => rfl
  | cons segment rest inductionHypothesis =>
      rw [List.flatMap_cons, List.flatMap_cons, ofChain_chain_append, inductionHypothesis]

end Segments

theorem exists_segments (calls : List ChainCall) :
    ∃ (ahead : List ChainCall) (segments : List ChainSegment),
      (∀ call ∈ ahead, call.isSelection = false) ∧
        calls = ahead ++ segments.flatMap ChainSegment.chain := by
  induction calls with
  | nil => exact ⟨[], [], by simp, rfl⟩
  | cons call rest inductionHypothesis =>
      obtain ⟨ahead, segments, silent, rfl⟩ := inductionHypothesis
      cases selects : call.isSelection with
      | true =>
          -- What stood ahead of the other segments belongs to the new one.
          exact ⟨[], ⟨call, ahead, selects, silent⟩ :: segments, by simp, rfl⟩
      | false =>
          exact ⟨call :: ahead, segments, List.forall_mem_cons.mpr ⟨selects, silent⟩, rfl⟩

/-- A chain that is empty or begins with a selection consists of segments. -/
theorem exists_segments_of_head {calls : List ChainCall}
    (starts : ∀ call ∈ calls.head?, call.isSelection = true) :
    ∃ segments : List ChainSegment, calls = segments.flatMap ChainSegment.chain := by
  obtain ⟨ahead, segments, silent, rfl⟩ := exists_segments calls
  cases ahead with
  | nil => exact ⟨segments, rfl⟩
  | cons call rest =>
      have selects := starts call rfl
      rw [silent call List.mem_cons_self] at selects
      contradiction

/-- A chain may be cut before any selection. Calls before the first selection and the segments of
other selections than `RuleFor` have no rules, and the rules of each segment are those of its calls
for the property that the segment itself selects. -/
theorem chain_read_by_segments (typeName : String) :
    (∀ front behind : List ChainCall,
        (∀ call ∈ behind.head?, call.isSelection = true) →
        ofChain typeName (front ++ behind) = ofChain typeName front ++ ofChain typeName behind) ∧
      (∀ calls : List ChainCall, ∃ (ahead : List ChainCall) (segments : List ChainSegment),
        (∀ call ∈ ahead, call.isSelection = false) ∧
          calls = ahead ++ segments.flatMap ChainSegment.chain) ∧
      (∀ (ahead : List ChainCall) (segments : List ChainSegment),
        (∀ call ∈ ahead, call.isSelection = false) →
        ofChain typeName (ahead ++ segments.flatMap ChainSegment.chain) =
          segments.flatMap (ChainSegment.rules typeName)) ∧
      ∀ segment : ChainSegment,
        (segment.selection.name ≠ "RuleFor" → segment.rules typeName = []) ∧
        ∀ rule ∈ segment.rules typeName,
          rule.typeName = typeName ∧ segment.property? = some rule.property := by
  refine ⟨?cut, exists_segments, fun ahead segments silent =>
    ofChain_segments typeName silent segments, fun segment => ⟨?other, ?property⟩⟩
  case cut =>
    intro front behind starts
    obtain ⟨ahead, segments, silent, rfl⟩ := exists_segments front
    obtain ⟨later, rfl⟩ := exists_segments_of_head starts
    have alone := @ofChain_segments typeName [] (by simp) later
    rw [List.append_assoc, ← List.flatMap_append, ofChain_segments typeName silent,
      ofChain_segments typeName silent, ← List.nil_append (later.flatMap _), alone,
      List.flatMap_append]
  case other =>
    intro other
    rw [ChainSegment.rules, ChainSegment.property?, if_neg other]
  case property =>
    intro rule member
    rw [ChainSegment.rules] at member
    split at member
    case h_1 property selected =>
      obtain ⟨rfl, rfl⟩ := Prod.mk.inj (key_of_mem_ofPropertyCalls segment.calls rule member)
      exact ⟨rfl, selected⟩
    case h_2 => simp at member

/-- A chain with a call ahead of its two segments, of which the second selects elements. -/
def nameChain : List ChainCall :=
  [{ name := "Include", arguments := ["new BaseValidator()"] },
    { name := "RuleFor", arguments := ["x => x.Name"] }, { name := "NotEmpty" },
    { name := "RuleForEach", arguments := ["x => x.Tags"] },
    { name := "MaximumLength", arguments := ["20"] }]

/-- A chain of one segment. -/
def ageChain : List ChainCall :=
  [{ name := "RuleFor", arguments := ["x => x.Age"] },
    { name := "InclusiveBetween", arguments := ["18", "120"] }]

/-- The two chains may be cut where the second one begins. -/
theorem nameChain_ageChain_cut :
    (∀ call ∈ ageChain.head?, call.isSelection = true) ∧
      ofChain "User" (nameChain ++ ageChain) =
        ofChain "User" nameChain ++ ofChain "User" ageChain ∧
      (ofChain "User" (nameChain ++ ageChain)).map key =
        [("User", "Name"), ("User", "Age"), ("User", "Age")] := by
  have starts : ∀ call ∈ ageChain.head?, call.isSelection = true := by decide
  exact ⟨starts, (chain_read_by_segments "User").1 nameChain ageChain starts, by decide +kernel⟩

end Rule

end TypedClient
