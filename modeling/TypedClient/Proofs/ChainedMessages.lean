/-
This file shows what the messages in a validator chain do to its rules: a message that can be read
goes to the last rule before it, and the chain keeps all its rules exactly where nothing is demanded
before a message that cannot be read.
-/

import Mathlib.Data.List.Basic
import TypedClient.Rule.Chained

namespace TypedClient

namespace ChainCall

/-- Tells whether a call states the message of a rule. -/
def statesMessage (call : ChainCall) : Bool :=
  call.name == "WithMessage"

/-- The message that a call states, where it is a text. -/
def message? (call : ChainCall) : Option String :=
  if call.statesMessage then call.text? 0 else none

/-- A call states a message that cannot be read. -/
def HidesMessage (call : ChainCall) : Prop :=
  call.statesMessage = true ∧ call.text? 0 = none

variable (typeName property : String)

/-- A message demands nothing. -/
theorem rules_of_statesMessage {call : ChainCall} (states : call.statesMessage = true) :
    call.rules typeName property = [] := by
  have name : call.name = "WithMessage" := by
    simpa [statesMessage] using states
  simp [rules, name]

/-- What holds of every new rule for a property holds of the rules that a call demands of it. -/
theorem forall_mem_rules {holds : Rule → Prop}
    (each : ∀ kind value metadata, holds { typeName, property, kind, value, metadata })
    (call : ChainCall) : ∀ rule ∈ call.rules typeName property, holds rule := by
  have one {Value : Type} (make : Value → Rule) (made : ∀ value, holds (make value))
      (value? : Option Value) : ∀ rule ∈ (value?.map make).toList, holds rule := by
    cases value? <;> simp [made]
  unfold rules
  extract_lets oneLength oneBound twoBounds
  have lengths (least greatest : Nat) :
      ∀ rule ∈ Rule.lengths typeName property least greatest, holds rule := by
    simp [Rule.lengths, Rule.length, each]
  have bounds (inclusive : Bool) : ∀ rule ∈ twoBounds inclusive, holds rule := by
    simp only [twoBounds]
    split <;> simp [Rule.bound, each]
  split
  case h_5 =>
    split
    · exact lengths _ _
    · split
      · exact lengths _ _
      · simp
    · simp
  all_goals first
    | exact bounds _
    | exact one _ (fun _ => each _ _ _) _
    | simp [Rule.flag, rules.custom, each]

theorem message_of_mem_rules (call : ChainCall) :
    ∀ rule ∈ call.rules typeName property, rule.message = none :=
  forall_mem_rules typeName property (fun _ _ _ => rfl) call

end ChainCall

namespace Rule

/-- What a rule demands, whatever its message. -/
def withoutMessage (rule : Rule) : Rule :=
  { rule with message := none }

/-- A rule with a new message, where one is given. -/
def withMessage (message? : Option String) (rule : Rule) : Rule :=
  { rule with message := message?.or rule.message }

/-- Rules of which the last one has a new message, where one is given. -/
def withLastMessage (message? : Option String) (rules : List Rule) : List Rule :=
  rules.dropLast ++ (rules.getLast?.map (withMessage message?)).toList

@[simp]
theorem withLastMessage_nil (message? : Option String) : withLastMessage message? [] = [] :=
  rfl

@[simp]
theorem withLastMessage_concat (message? : Option String) (before : List Rule) (last : Rule) :
    withLastMessage message? (before ++ [last]) = before ++ [withMessage message? last] := by
  simp [withLastMessage]

theorem withLastMessage_none (rules : List Rule) : withLastMessage none rules = rules := by
  rcases List.eq_nil_or_concat' rules with rfl | ⟨before, last, rfl⟩
  · rfl
  · simp [withMessage]

theorem withLastMessage_twice (later earlier : Option String) (rules : List Rule) :
    withLastMessage later (withLastMessage earlier rules) =
      withLastMessage (later.or earlier) rules := by
  rcases List.eq_nil_or_concat' rules with rfl | ⟨before, last, rfl⟩
  · rfl
  · simp [withMessage, Option.or_assoc]

/-- A message for the last of several rules does not concern those in front. -/
theorem withLastMessage_append (message? : Option String) (before : List Rule) {rules : List Rule}
    (nonempty : rules ≠ []) :
    withLastMessage message? (before ++ rules) = before ++ withLastMessage message? rules := by
  rcases List.eq_nil_or_concat' rules with rfl | ⟨between, last, rfl⟩
  · contradiction
  · rw [← List.append_assoc, withLastMessage_concat, withLastMessage_concat, List.append_assoc]

theorem map_withoutMessage_withLastMessage (message? : Option String) (rules : List Rule) :
    (withLastMessage message? rules).map withoutMessage = rules.map withoutMessage := by
  rcases List.eq_nil_or_concat' rules with rfl | ⟨before, last, rfl⟩
  · rfl
  · simp [withMessage, withoutMessage]

theorem length_withLastMessage (message? : Option String) (rules : List Rule) :
    (withLastMessage message? rules).length = rules.length := by
  simpa using congrArg List.length (map_withoutMessage_withLastMessage message? rules)

variable (typeName property : String)

/-- The message that calls state before they demand anything: the last one that can be read. -/
def messageAhead : List ChainCall → Option String
  | [] => none
  | call :: rest =>
    if (call.rules typeName property).isEmpty then (messageAhead rest).or call.message? else none

/-- The rules that calls demand one after the other. The last rule of a call has the message that
is stated for it. -/
def annotated : List ChainCall → List Rule
  | [] => []
  | call :: rest =>
    withLastMessage (messageAhead typeName property rest) (call.rules typeName property) ++
      annotated rest

/-- Nothing is demanded before a message that cannot be read. -/
def HiddenMessagesFirst (calls : List ChainCall) : Prop :=
  calls.Pairwise fun earlier later =>
    later.HidesMessage → earlier.rules typeName property = []

theorem map_withoutMessage_annotated (calls : List ChainCall) :
    (annotated typeName property calls).map withoutMessage =
      calls.flatMap (ChainCall.rules typeName property) := by
  induction calls with
  | nil => rfl
  | cons call rest inductionHypothesis =>
      have bare : (call.rules typeName property).map withoutMessage =
          call.rules typeName property := by
        refine (List.map_congr_left ?_).trans (List.map_id _)
        intro rule member
        rw [withoutMessage, ← ChainCall.message_of_mem_rules typeName property call rule member]
        rfl
      rw [annotated, List.map_append, map_withoutMessage_withLastMessage, inductionHypothesis,
        bare, List.flatMap_cons]

section Step

variable {typeName property} {call : ChainCall}

theorem addCall_of_message (rules : List Rule) (states : call.statesMessage = true)
    {message : String} (read : call.text? 0 = some message) :
    addCall typeName property rules call = withLastMessage call.message? rules := by
  have named : (call.name == "WithMessage") = true := states
  rw [addCall, if_pos named, read, ChainCall.message?, if_pos states, read]
  rcases List.eq_nil_or_concat' rules with rfl | ⟨before, last, rfl⟩
  · rfl
  · simp [withMessage]

theorem addCall_of_hidesMessage (rules : List Rule) (hides : call.HidesMessage) :
    addCall typeName property rules call = rules.dropLast := by
  have named : (call.name == "WithMessage") = true := hides.1
  rw [addCall, if_pos named, hides.2]

theorem addCall_of_not_statesMessage (rules : List Rule) (other : call.statesMessage = false) :
    addCall typeName property rules call = rules ++ call.rules typeName property := by
  have named : ¬(call.name == "WithMessage") = true := by
    simpa [ChainCall.statesMessage] using other
  rw [addCall, if_neg named]

end Step

/-- The calls of a chain fall into messages that can be read, messages that cannot, and others. -/
theorem call_cases (call : ChainCall) :
    (call.statesMessage = true ∧ ∃ message, call.text? 0 = some message) ∨ call.HidesMessage ∨
      call.statesMessage = false := by
  cases states : call.statesMessage
  · exact .inr (.inr rfl)
  · cases read : call.text? 0 with
    | none => exact .inr (.inl ⟨states, read⟩)
    | some message => exact .inl ⟨rfl, message, rfl⟩

/-- Where no rule stands before a message that cannot be read, the calls add their rules with
their messages, and a message in front goes to the rules that stand already. -/
theorem foldl_addCall (rules : List Rule) (calls : List ChainCall)
    (kept : rules ≠ [] → ∀ call ∈ calls, ¬call.HidesMessage)
    (first : HiddenMessagesFirst typeName property calls) :
    calls.foldl (addCall typeName property) rules =
      withLastMessage (messageAhead typeName property calls) rules ++
        annotated typeName property calls := by
  induction calls generalizing rules with
  | nil => simp [messageAhead, annotated, withLastMessage_none]
  | cons call rest inductionHypothesis =>
      obtain ⟨here, later⟩ := List.pairwise_cons.mp first
      rw [List.foldl_cons, annotated, messageAhead]
      rcases call_cases call with ⟨states, message, read⟩ | hides | other
      · -- The rules change only in their last message, so what may follow stays the same.
        have demands := ChainCall.rules_of_statesMessage typeName property states
        rw [addCall_of_message rules states read, inductionHypothesis _ ?_ later, demands,
          withLastMessage_twice]
        · rfl
        · intro nonempty behind member
          refine kept ?_ behind (List.mem_cons_of_mem _ member)
          rintro rfl
          exact nonempty rfl
      · have demands := ChainCall.rules_of_statesMessage typeName property hides.1
        have none : rules = [] := by
          by_contra nonempty
          exact kept nonempty call List.mem_cons_self hides
        subst none
        rw [addCall_of_hidesMessage [] hides, List.dropLast_nil, demands]
        simpa using inductionHypothesis [] (by simp) later
      · rw [addCall_of_not_statesMessage rules other]
        cases demands : call.rules typeName property with
        | nil =>
            rw [List.append_nil, inductionHypothesis rules ?_ later]
            · simp [ChainCall.message?, other]
            · intro nonempty behind member
              exact kept nonempty behind (List.mem_cons_of_mem _ member)
        | cons rule others =>
            have open_ : ∀ behind ∈ rest, ¬behind.HidesMessage := by
              intro behind member hides
              rw [here behind member hides] at demands
              contradiction
            rw [inductionHypothesis _ (fun _ => open_) later,
              withLastMessage_append _ _ (List.cons_ne_nil rule others)]
            simp [withLastMessage_none]

/-- A chain never has more rules than its calls demand. -/
theorem length_foldl_addCall_le (rules : List Rule) (calls : List ChainCall) :
    (calls.foldl (addCall typeName property) rules).length ≤
      rules.length + (calls.flatMap (ChainCall.rules typeName property)).length := by
  induction calls generalizing rules with
  | nil => simp
  | cons call rest inductionHypothesis =>
      rw [List.foldl_cons, List.flatMap_cons, List.length_append]
      have bound := inductionHypothesis (addCall typeName property rules call)
      have step : (addCall typeName property rules call).length ≤
          rules.length + (call.rules typeName property).length := by
        rcases call_cases call with ⟨states, message, read⟩ | hides | other
        · rw [addCall_of_message rules states read, length_withLastMessage]
          omega
        · rw [addCall_of_hidesMessage rules hides, List.length_dropLast]
          omega
        · exact Nat.le_of_eq (by rw [addCall_of_not_statesMessage rules other, List.length_append])
      omega

/-- A chain that has as many rules as its calls demand has lost none, so nothing was demanded
before a message that cannot be read. -/
theorem hiddenMessagesFirst_of_length (rules : List Rule) (calls : List ChainCall)
    (all : (calls.foldl (addCall typeName property) rules).length =
      rules.length + (calls.flatMap (ChainCall.rules typeName property)).length) :
    (rules ≠ [] → ∀ call ∈ calls, ¬call.HidesMessage) ∧
      HiddenMessagesFirst typeName property calls := by
  induction calls generalizing rules with
  | nil => simp [HiddenMessagesFirst]
  | cons call rest inductionHypothesis =>
      rw [List.foldl_cons, List.flatMap_cons, List.length_append] at all
      rw [HiddenMessagesFirst, List.pairwise_cons]
      rcases call_cases call with ⟨states, message, read⟩ | hides | other
      · have demands := ChainCall.rules_of_statesMessage typeName property states
        have same := length_withLastMessage call.message? rules
        rw [addCall_of_message rules states read, demands, ← same, List.length_nil,
          Nat.zero_add] at all
        obtain ⟨kept, first⟩ := inductionHypothesis _ all
        refine ⟨?_, fun _ _ _ => demands, first⟩
        intro nonempty
        refine List.forall_mem_cons.mpr ⟨?_, kept ?_⟩
        · rintro ⟨-, unread⟩
          rw [read] at unread
          contradiction
        · rwa [← List.length_pos_iff, same, List.length_pos_iff]
      · have demands := ChainCall.rules_of_statesMessage typeName property hides.1
        rw [addCall_of_hidesMessage rules hides, demands, List.length_nil, Nat.zero_add] at all
        have bound := length_foldl_addCall_le typeName property rules.dropLast rest
        have none : rules = [] := by
          rw [List.length_dropLast] at bound
          rw [← List.length_eq_zero_iff]
          omega
        subst none
        obtain ⟨-, first⟩ := inductionHypothesis [] all
        exact ⟨fun nonempty => absurd rfl nonempty, fun _ _ _ => demands, first⟩
      · rw [addCall_of_not_statesMessage rules other, ← Nat.add_assoc,
          ← List.length_append] at all
        obtain ⟨kept, first⟩ := inductionHypothesis _ all
        refine ⟨?_, ?_, first⟩
        · intro nonempty
          refine List.forall_mem_cons.mpr ⟨?_, kept (List.append_ne_nil_of_left_ne_nil nonempty _)⟩
          rintro ⟨states, -⟩
          rw [other] at states
          contradiction
        · intro later member hides
          by_contra demands
          exact kept (List.append_ne_nil_of_right_ne_nil _ demands) later member hides

theorem ofPropertyCalls_filter (calls : List ChainCall) :
    ofPropertyCalls typeName property (calls.filter fun call => !call.statesMessage) =
      calls.flatMap (ChainCall.rules typeName property) := by
  have general (rules : List Rule) :
      (calls.filter fun call => !call.statesMessage).foldl (addCall typeName property) rules =
        rules ++ calls.flatMap (ChainCall.rules typeName property) := by
    induction calls generalizing rules with
    | nil => simp
    | cons call rest inductionHypothesis =>
        cases states : call.statesMessage
        · simp [states, addCall_of_not_statesMessage rules states, inductionHypothesis]
        · simp [states, ChainCall.rules_of_statesMessage typeName property states,
            inductionHypothesis]
  exact general []

/-- Where nothing is demanded before a message that cannot be read, and only there, a chain has
the rules that it has without its messages; and there each message is that of the last rule before
it and of nothing else. -/
theorem chain_keeps_rules_iff (calls : List ChainCall) :
    ((ofPropertyCalls typeName property calls).map withoutMessage =
        ofPropertyCalls typeName property (calls.filter fun call => !call.statesMessage) ↔
      HiddenMessagesFirst typeName property calls) ∧
    (ofPropertyCalls typeName property calls = annotated typeName property calls ↔
      HiddenMessagesFirst typeName property calls) := by
  have demanded := map_withoutMessage_annotated typeName property calls
  have kept (first : HiddenMessagesFirst typeName property calls) :
      ofPropertyCalls typeName property calls = annotated typeName property calls := by
    rw [ofPropertyCalls, foldl_addCall typeName property [] calls (by simp) first]
    rfl
  have first_of_length (all : (ofPropertyCalls typeName property calls).length =
      (calls.flatMap (ChainCall.rules typeName property)).length) :
      HiddenMessagesFirst typeName property calls := by
    refine (hiddenMessagesFirst_of_length typeName property [] calls ?_).2
    rw [List.length_nil, Nat.zero_add]
    exact all
  rw [ofPropertyCalls_filter]
  refine ⟨⟨?_, ?_⟩, ?_, kept⟩
  · intro same
    exact first_of_length (by simpa using congrArg List.length same)
  · intro first
    rw [kept first, demanded]
  · intro same
    refine first_of_length ?_
    rw [same, ← demanded, List.length_map]

/-- A chain that demands content and then names its message by a symbol. -/
def hiddenMessageChain : List ChainCall :=
  [{ name := "NotEmpty" }, { name := "WithMessage", arguments := ["Messages.Required"] }]

/-- A message that cannot be read removes the rule before it. -/
theorem hiddenMessageChain_loses_rule :
    ofPropertyCalls "CreateUserRequest" "Email" hiddenMessageChain = [] ∧
      ofPropertyCalls "CreateUserRequest" "Email"
          (hiddenMessageChain.filter fun call => !call.statesMessage) =
        [flag "CreateUserRequest" "Email" .required] := by
  constructor <;> rfl

end Rule

end TypedClient
