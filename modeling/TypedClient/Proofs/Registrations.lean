/-
This file shows which registrations the chains of a method make, and which operations the
registrations declare.
-/

import TypedClient.Backend.Registration
import Mathlib.Data.List.Forall2

namespace TypedClient.Registration

namespace ChainState

def shown (state : ChainState) : List Registration :=
  state.closed ++ state.current.toList

theorem length_shown_step (chain : CallChain) (state : ChainState) (index : Nat)
    (call : ChainCall) :
    (state.step chain index call).shown.length =
      state.shown.length + [call].countP isMapCall := by
  cases verb : Verb.ofMapCall? call.name with
  | some found => simp [step, shown, isMapCall, verb, Nat.add_assoc]
  | none => cases current : state.current <;> simp [step, shown, isMapCall, verb, current]

theorem length_shown_run (chain : CallChain) (state : ChainState) (index : Nat)
    (calls : List ChainCall) :
    (run chain state index calls).shown.length =
      state.shown.length + calls.countP isMapCall := by
  induction calls generalizing state index with
  | nil => rfl
  | cons call rest inductionHypothesis =>
      rw [run, inductionHypothesis, length_shown_step, Nat.add_assoc, ← List.countP_append,
        List.singleton_append]

theorem shown_run_eq_nil_iff (chain : CallChain) (group : RouteGroup) :
    (run chain { group } 0 chain.calls).shown = [] ↔ chain.calls.any isMapCall = false := by
  rw [← List.length_eq_zero_iff, length_shown_run, List.any_eq_false, ← List.countP_eq_zero]
  simp [shown]

end ChainState

/-- The groups that variables stand for behind a chain: the result of a chain without an open
registration is a group. -/
def groupsBehind (groups : List (String × RouteGroup)) (chain : CallChain) (state : ChainState) :
    List (String × RouteGroup) :=
  match state.current, chain.boundTo with
  | none, some name => (name, state.group) :: groups
  | _, _ => groups

/-- The registrations of a chain on a group come before those of the chains behind it. -/
theorem ofChains_cons {groups : List (String × RouteGroup)} {chain : CallChain}
    {group : RouteGroup} (found : groups.lookup chain.root = some group) (rest : List CallChain) :
    let state := ChainState.run chain { group } 0 chain.calls
    ofChains groups (chain :: rest) =
      state.shown ++ ofChains (groupsBehind groups chain state) rest := by
  intro state
  rw [ofChains, found]
  change (match state.current, chain.boundTo with
    | none, some name => state.closed ++ ofChains ((name, state.group) :: groups) rest
    | current, _ => state.closed ++ current.toList ++ ofChains groups rest) = _
  cases current : state.current <;> cases bound : chain.boundTo <;>
    simp [ChainState.shown, groupsBehind, current, bound]

theorem keys_groupsBehind {groups : List (String × RouteGroup)} {chain : CallChain}
    {state : ChainState} (nothing : state.shown = []) :
    (groupsBehind groups chain state).map Prod.fst =
      chain.boundTo.toList ++ groups.map Prod.fst := by
  have closed : state.current = none := by
    simpa using (List.append_eq_nil_iff.mp nothing).2
  cases bound : chain.boundTo <;> simp [groupsBehind, closed, bound]

/-- Tells whether chains register an operation on the variables that stand for a group. A chain on
such a variable that registers nothing makes its result a group. -/
def registersOn (known : List String) : List CallChain → Bool
  | [] => false
  | chain :: rest =>
    if known.contains chain.root then
      chain.calls.any isMapCall || registersOn (chain.boundTo.toList ++ known) rest
    else registersOn known rest

/-- There are no registrations exactly where the chains register nothing on a group. -/
theorem ofChains_eq_nil_iff (groups : List (String × RouteGroup)) (chains : List CallChain) :
    ofChains groups chains = [] ↔ registersOn (groups.map Prod.fst) chains = false := by
  induction chains generalizing groups with
  | nil => simp [ofChains, registersOn]
  | cons chain rest inductionHypothesis =>
      cases found : groups.lookup chain.root with
      | none =>
          have unknown : (groups.map Prod.fst).contains chain.root = false := by
            rw [List.lookup_eq_none_iff] at found
            simpa using fun group member => bne_iff_ne.mp (found _ member) rfl
          rw [ofChains, found, registersOn, unknown]
          exact inductionHypothesis groups
      | some group =>
          have known : (groups.map Prod.fst).contains chain.root = true := by
            have isSome : (groups.lookup chain.root).isSome = true := by rw [found]; rfl
            simpa [List.lookup_isSome_iff] using isSome
          have shown := ChainState.shown_run_eq_nil_iff chain group
          rw [ofChains_cons found, registersOn, known, if_pos rfl, List.append_eq_nil_iff,
            Bool.or_eq_false_iff, ← shown]
          apply and_congr_right
          intro nothing
          rw [inductionHypothesis, keys_groupsBehind nothing]

/-- The variables that chains of a method may register on at first: its receiver. -/
def receivers (method : Method) : List String :=
  method.parameters.head?.toList.map MethodParameter.name

theorem ofMethod_eq_nil_iff (method : Method) :
    ofMethod method = [] ↔ registersOn (receivers method) method.chains = false := by
  rw [ofMethod, ofChains_eq_nil_iff, List.map_map]
  rfl

/-- Tells whether an export marker applies to a registration. -/
def isChosen (site : DeclarationSite) (registration : Registration) : Bool :=
  !(markers site (resolve? site registration)).isEmpty

theorem isChosen_of_marked {site : DeclarationSite}
    (marked : ExportMarker.isOn site.method.decorations = true) (registration : Registration) :
    isChosen site registration = true := by
  obtain ⟨marker, found⟩ := Option.isSome_iff_exists.mp marked
  unfold isChosen markers
  cases resolve? site registration <;> simp [found]

theorem isChosen_of_handler {site : DeclarationSite} {registration : Registration}
    {handler : ResolvedHandler} (resolved : resolve? site registration = some handler)
    (marked : ExportMarker.isOn handler.method.decorations = true) :
    isChosen site registration = true := by
  obtain ⟨marker, found⟩ := Option.isSome_iff_exists.mp marked
  simp [isChosen, markers, resolved, found]

/-- An operation is what a registration describes, under a name of its own and with what the
markers set. -/
def Declares (site : DeclarationSite) (registration : Registration) (endpoint : Endpoint) : Prop :=
  ∃ name, endpoint = ExportMarker.overlay
    { described site registration (resolve? site registration) with operation := name }
    (markers site (resolve? site registration))

/-- The registrations to which a marker applies declare one operation each, in order. -/
theorem endpointsFrom_declares (site : DeclarationSite) (taken : List String)
    (registrations : List Registration) :
    List.Forall₂ (Declares site) (registrations.filter (isChosen site))
      (endpointsFrom site taken registrations).value := by
  induction registrations generalizing taken with
  | nil => exact .nil
  | cons registration rest inductionHypothesis =>
      rw [endpointsFrom]
      by_cases unmarked : (markers site (resolve? site registration)).isEmpty = true
      · rw [List.filter_cons_of_neg (by simp [isChosen, unmarked]), if_pos unmarked]
        exact inductionHypothesis taken
      · rw [List.filter_cons_of_pos (by simp [isChosen, unmarked]), if_neg unmarked]
        exact .cons ⟨_, rfl⟩ (inductionHypothesis _)

/-- A registration to which a marker applies declares an operation. -/
theorem exists_declared {site : DeclarationSite} {registration : Registration}
    (member : registration ∈ ofMethod site.method) (chosen : isChosen site registration = true) :
    ∃ endpoint ∈ (endpoints site).value, Declares site registration endpoint := by
  obtain ⟨sameLength, declares⟩ :=
    List.forall₂_iff_get.mp (endpointsFrom_declares site [] (ofMethod site.method))
  obtain ⟨index, inside, rfl⟩ := List.getElem_of_mem (List.mem_filter.mpr ⟨member, chosen⟩)
  have alsoInside : index < (endpoints site).value.length := sameLength ▸ inside
  exact ⟨_, List.getElem_mem alsoInside, declares index inside alsoInside⟩

/-- All that is reported about registrations is that handlers are not found, which is an
information. -/
theorem severity_endpointsFrom {site : DeclarationSite} {taken : List String}
    {registrations : List Registration} {diagnostic : Diagnostic}
    (reported : diagnostic ∈ (endpointsFrom site taken registrations).diagnostics) :
    diagnostic.severity = .info := by
  induction registrations generalizing taken with
  | nil => contradiction
  | cons registration rest inductionHypothesis =>
      rw [endpointsFrom] at reported
      by_cases unmarked : (markers site (resolve? site registration)).isEmpty = true
      · rw [if_pos unmarked] at reported
        exact inductionHypothesis reported
      · rw [if_neg unmarked] at reported
        rcases List.mem_append.mp reported with here | behind
        · unfold reports at here
          split at here
          · rw [List.mem_singleton.mp here]
            rfl
          · contradiction
        · exact inductionHypothesis behind

end TypedClient.Registration
