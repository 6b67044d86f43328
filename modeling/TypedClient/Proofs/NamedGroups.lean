/-
This file shows that a group of routes may get a name of its own: where a chain begins with calls
that register nothing, these may be assigned to a new variable that the rest of the chain goes on
from, and the registrations stay the same.
-/

import TypedClient.Proofs.Registrations

namespace TypedClient.Registration

/-- The first calls of a chain, assigned to a variable. -/
def groupChain (chain : CallChain) (front : List ChainCall) (name : String) : CallChain :=
  { root := chain.root
    boundTo := some name
    calls := front
    functions := chain.functions.filter fun entry => entry.1 < front.length }

/-- The index of a call behind some first calls. -/
def shifted? (count : Nat) (entry : Nat × Method) : Option (Nat × Method) :=
  if entry.1 < count then none else some (entry.1 - count, entry.2)

/-- The other calls of a chain, on the variable that its first calls are assigned to. -/
def memberChain (chain : CallChain) (front back : List ChainCall) (name : String) : CallChain :=
  { root := name
    boundTo := chain.boundTo
    calls := back
    functions := chain.functions.filterMap (shifted? front.length) }

/-- A variable that a method does not use: it is not its receiver, no chain is on it, and none is
assigned to it. -/
structure IsUnused (name : String) (method : Method) : Prop where
  receiver : name ∉ receivers method
  roots : ∀ chain ∈ method.chains, chain.root ≠ name
  targets : ∀ chain ∈ method.chains, chain.boundTo ≠ some name

namespace ChainState

/-- The calls of a chain may be taken in two parts. -/
theorem run_append (chain : CallChain) (state : ChainState) (index : Nat)
    (front back : List ChainCall) :
    run chain state index (front ++ back) =
      run chain (run chain state index front) (index + front.length) back := by
  induction front generalizing state index with
  | nil => rfl
  | cons call rest inductionHypothesis =>
      rw [List.cons_append, run, run, inductionHypothesis, List.length_cons, Nat.add_right_comm,
        Nat.add_assoc]

theorem run_of_group (chain : CallChain) (group : RouteGroup) (index : Nat)
    {calls : List ChainCall} (plain : calls.any isMapCall = false) :
    run chain { group } index calls = { group := calls.foldl RouteGroup.apply group } := by
  induction calls generalizing group index with
  | nil => rfl
  | cons call rest inductionHypothesis =>
      obtain ⟨here, behind⟩ := Bool.or_eq_false_iff.mp plain
      have noVerb : Verb.ofMapCall? call.name = none := by simpa [isMapCall] using here
      rw [run, step, noVerb]
      exact inductionHypothesis (group.apply call) (index + 1) behind

end ChainState

/-- A call keeps its function argument when the calls in front of it move to another chain. -/
theorem functionOf?_memberChain (chain : CallChain) (front back : List ChainCall) (name : String)
    (index : Nat) :
    (memberChain chain front back name).functionOf? index =
      chain.functionOf? (index + front.length) := by
  unfold ChainOf.functionOf? memberChain
  dsimp only
  induction chain.functions with
  | nil => rfl
  | cons entry rest inductionHypothesis =>
      by_cases early : entry.1 < front.length
      · have other : (index + front.length == entry.1) = false := by
          rw [beq_eq_false_iff_ne]
          omega
        rw [List.filterMap_cons_none (by simp [shifted?, early]), inductionHypothesis,
          List.lookup_cons, other]
      · have same : (index == entry.1 - front.length) = (index + front.length == entry.1) := by
          rw [Bool.eq_iff_iff, beq_iff_eq, beq_iff_eq]
          omega
        rw [List.filterMap_cons_some (b := (entry.1 - front.length, entry.2))
            (by simp [shifted?, early]),
          List.lookup_cons, List.lookup_cons, same, inductionHypothesis]

/-- The calls of a chain go on in the same way on a variable that stands for the first ones. -/
theorem run_memberChain (chain : CallChain) (front back : List ChainCall) (name : String)
    (state : ChainState) (index : Nat) (calls : List ChainCall) :
    ChainState.run (memberChain chain front back name) state index calls =
      ChainState.run chain state (index + front.length) calls := by
  induction calls generalizing state index with
  | nil => rfl
  | cons call rest inductionHypothesis =>
      have handler : handlerOf (memberChain chain front back name) index call =
          handlerOf chain (index + front.length) call := by
        rw [handlerOf, handlerOf, functionOf?_memberChain]
      have same : state.step (memberChain chain front back name) index call =
          state.step chain (index + front.length) call := by
        simp only [ChainState.step, ofCall, handler]
      rw [ChainState.run, ChainState.run, same, inductionHypothesis, Nat.add_right_comm]

theorem ofChains_unknown {groups : List (String × RouteGroup)} (chain : CallChain)
    (unknown : groups.lookup chain.root = none) (rest : List CallChain) :
    ofChains groups (chain :: rest) = ofChains groups rest := by
  rw [ofChains, unknown]

/-- A chain that is assigned to another variable leaves a variable without a group. -/
theorem lookup_groupsBehind {name : String} {groups : List (String × RouteGroup)}
    {chain : CallChain} (unknown : groups.lookup name = none)
    (target : chain.boundTo ≠ some name) (state : ChainState) :
    (groupsBehind groups chain state).lookup name = none := by
  unfold groupsBehind
  split
  case h_1 other _ bound =>
    have different : name ≠ other := by
      rintro rfl
      exact target bound
    rw [List.lookup_cons, beq_false_of_ne different]
    exact unknown
  case h_2 => exact unknown

/-- Two assignments of groups to variables agree on all variables but one. -/
def AgreeExcept (name : String) (groups others : List (String × RouteGroup)) : Prop :=
  ∀ other ≠ name, groups.lookup other = others.lookup other

/-- What a chain assigns keeps an agreement. -/
theorem AgreeExcept.groupsBehind {name : String} {groups others : List (String × RouteGroup)}
    (agree : AgreeExcept name groups others) {chain other : CallChain}
    (target : chain.boundTo = other.boundTo) (state : ChainState) :
    AgreeExcept name (groupsBehind groups chain state) (groupsBehind others other state) := by
  unfold Registration.groupsBehind
  rw [target]
  split
  · intro asked different
    rw [List.lookup_cons, List.lookup_cons, agree asked different]
  · exact agree

/-- Chains that are not on a variable make the same registrations whatever it stands for. -/
theorem ofChains_of_agree {name : String} {groups others : List (String × RouteGroup)}
    (agree : AgreeExcept name groups others) {chains : List CallChain}
    (apart : ∀ chain ∈ chains, chain.root ≠ name) :
    ofChains groups chains = ofChains others chains := by
  induction chains generalizing groups others with
  | nil => rfl
  | cons chain rest inductionHypothesis =>
      obtain ⟨here, behind⟩ := List.forall_mem_cons.mp apart
      have same := agree chain.root here
      cases found : groups.lookup chain.root with
      | none =>
          rw [ofChains_unknown chain found, ofChains_unknown chain (same ▸ found)]
          exact inductionHypothesis agree behind
      | some group =>
          rw [ofChains_cons found, ofChains_cons (same ▸ found)]
          rw [inductionHypothesis (agree.groupsBehind rfl _) behind]

section Split

variable {chain : CallChain} {front back : List ChainCall} {name : String}
  (calls : chain.calls = front ++ back) (plain : front.any isMapCall = false)

include calls plain

/-- A chain shows what its calls show behind the group that the first ones lead to. -/
theorem run_split (group : RouteGroup) :
    ChainState.run (memberChain chain front back name)
        { group := front.foldl RouteGroup.apply group } 0 back =
      ChainState.run chain { group } 0 chain.calls := by
  rw [calls, ChainState.run_append, ChainState.run_of_group chain group 0 plain, run_memberChain]

/-- A chain may be split in front of any other chains. -/
theorem ofChains_split {groups : List (String × RouteGroup)} (unknown : groups.lookup name = none)
    {rest : List CallChain} (apart : ∀ other ∈ rest, other.root ≠ name) :
    ofChains groups (groupChain chain front name :: memberChain chain front back name :: rest) =
      ofChains groups (chain :: rest) := by
  cases found : groups.lookup chain.root with
  | none =>
      rw [ofChains_unknown chain found, ofChains_unknown (groupChain chain front name) found,
        ofChains_unknown (memberChain chain front back name) unknown]
  | some group =>
      -- The first chain binds the group that it reaches, and the second one starts from there.
      let reached := front.foldl RouteGroup.apply group
      have named : ofChains groups
          (groupChain chain front name :: memberChain chain front back name :: rest) =
            ofChains ((name, reached) :: groups) (memberChain chain front back name :: rest) := by
        have state : ChainState.run (groupChain chain front name) { group } 0
            (groupChain chain front name).calls = { group := reached } :=
          ChainState.run_of_group (groupChain chain front name) group 0 plain
        have known : groups.lookup (groupChain chain front name).root = some group := found
        rw [ofChains_cons known, state]
        rfl
      have bound : ((name, reached) :: groups).lookup (memberChain chain front back name).root =
          some reached :=
        List.lookup_cons_self
      have state : ChainState.run (memberChain chain front back name) { group := reached } 0
          (memberChain chain front back name).calls =
            ChainState.run chain { group } 0 chain.calls :=
        run_split calls plain group
      have agree : AgreeExcept name ((name, reached) :: groups) groups := by
        intro other different
        rw [List.lookup_cons, beq_false_of_ne different]
      have behind : ofChains (groupsBehind ((name, reached) :: groups)
            (memberChain chain front back name) (ChainState.run chain { group } 0 chain.calls)) rest =
          ofChains (groupsBehind groups chain
            (ChainState.run chain { group } 0 chain.calls)) rest :=
        ofChains_of_agree (agree.groupsBehind rfl _) apart
      rw [named, ofChains_cons bound, state, behind, ofChains_cons found]

/-- A chain may be split behind other chains that do not use the new variable. -/
theorem ofChains_append_split {groups : List (String × RouteGroup)} {before rest : List CallChain}
    (unknown : groups.lookup name = none)
    (roots : ∀ other ∈ before ++ rest, other.root ≠ name)
    (targets : ∀ other ∈ before, other.boundTo ≠ some name) :
    ofChains groups (before ++
        groupChain chain front name :: memberChain chain front back name :: rest) =
      ofChains groups (before ++ chain :: rest) := by
  induction before generalizing groups with
  | nil => exact ofChains_split calls plain unknown roots
  | cons first others inductionHypothesis =>
      obtain ⟨-, rootsBehind⟩ := List.forall_mem_cons.mp roots
      obtain ⟨target, targetsBehind⟩ := List.forall_mem_cons.mp targets
      rw [List.cons_append, List.cons_append]
      cases found : groups.lookup first.root with
      | none =>
          rw [ofChains_unknown first found, ofChains_unknown first found]
          exact inductionHypothesis unknown rootsBehind targetsBehind
      | some group =>
          rw [ofChains_cons found, ofChains_cons found]
          rw [inductionHypothesis (lookup_groupsBehind unknown target _) rootsBehind
            targetsBehind]

omit plain in
theorem any_split (before after : List CallChain) :
    (before ++ groupChain chain front name :: memberChain chain front back name :: after).any
        (fun other => other.calls.any isMapCall) =
      (before ++ chain :: after).any fun other => other.calls.any isMapCall := by
  have parts : ((groupChain chain front name).calls.any isMapCall ||
      (memberChain chain front back name).calls.any isMapCall) = chain.calls.any isMapCall := by
    rw [calls, List.any_append]
    rfl
  rw [List.any_append, List.any_append, List.any_cons, List.any_cons, List.any_cons,
    ← Bool.or_assoc ((groupChain chain front name).calls.any isMapCall), parts]

end Split

/-- A variable that is not the receiver of a method stands for no group at first. -/
theorem IsUnused.lookup_receivers {name : String} {method : Method}
    (unused : IsUnused name method) :
    (method.parameters.head?.toList.map fun receiver =>
      (receiver.name, ({} : RouteGroup))).lookup name = none := by
  rw [List.lookup_eq_none_iff]
  intro entry member
  obtain ⟨receiver, here, rfl⟩ := List.mem_map.mp member
  rw [bne_iff_ne]
  rintro rfl
  exact unused.receiver (List.mem_map_of_mem here)

/-- The first calls of a chain in a method, as far as they register nothing, may be assigned to a
variable that the method does not use, and the other calls made on it: the registrations in the
method stay the same. -/
theorem ofMethod_split {method : Method} {before after : List CallChain} {chain : CallChain}
    {front back : List ChainCall} {name : String}
    (body : method.chains = before ++ chain :: after) (calls : chain.calls = front ++ back)
    (plain : front.any isMapCall = false) (unused : IsUnused name method) :
    let split : Method :=
      { method with
        chains := before ++
          groupChain chain front name :: memberChain chain front back name :: after }
    ofMethod split = ofMethod method ∧
      isRegistrationMethod split = isRegistrationMethod method := by
  intro split
  refine ⟨?registrations, ?style⟩
  case registrations =>
    have roots : ∀ other ∈ before ++ after, other.root ≠ name := by
      intro other member
      apply unused.roots other
      rw [body]
      exact (List.sublist_cons_self chain after).append_left before |>.subset member
    have targets : ∀ other ∈ before, other.boundTo ≠ some name := fun other member =>
      unused.targets other (body ▸ List.mem_append_left _ member)
    rw [ofMethod, ofMethod, body]
    exact ofChains_append_split calls plain unused.lookup_receivers roots targets
  case style =>
    rw [isRegistrationMethod, isRegistrationMethod, body, any_split calls]

/-- A chain that makes a group and registers operations on it. -/
def usersChain : CallChain where
  root := "api"
  calls := [
    { name := "MapGroup", arguments := ["\"users\""] },
    { name := "RequireAuthorization" },
    { name := "MapGet", arguments := ["\"/\"", "ListUsers"] },
    { name := "WithTags", arguments := ["\"Users\""] },
    { name := "MapDelete", arguments := ["\"/\x7bid\x7d\"", "(int id) => Results.NoContent()"] }]
  functions := [(4, { parameters := [{ name := "id", type := .reference "int" }] })]

/-- A method with the chain between two others. -/
def mapUsers : Method where
  name := "MapUsers"
  parameters := [
    { name := "app", type := .reference "IEndpointRouteBuilder", isReceiver := true }]
  chains := [
    { root := "app"
      boundTo := some "api"
      calls := [{ name := "MapGroup", arguments := ["\"/api\""] }] },
    usersChain,
    { root := "api", calls := [{ name := "MapGet", arguments := ["\"/health\"", "Health"] }] }]

/-- The group of the chain may be assigned to a variable. -/
theorem ofMethod_mapUsers_split :
    let front := usersChain.calls.take 2
    let back := usersChain.calls.drop 2
    let split : Method :=
      { mapUsers with
        chains := mapUsers.chains.take 1 ++ groupChain usersChain front "users" ::
          memberChain usersChain front back "users" :: mapUsers.chains.drop 2 }
    front.any isMapCall = false ∧ IsUnused "users" mapUsers ∧
      ofMethod split = ofMethod mapUsers ∧
      isRegistrationMethod split = isRegistrationMethod mapUsers ∧
      (ofMethod mapUsers).map Registration.route =
        ["/api/users", "/api/users/\x7bid\x7d", "/api/health"] ∧
      (memberChain usersChain front back "users").functions.map Prod.fst = [2] := by
  intro front back split
  have plain : front.any isMapCall = false := by decide
  have unused : IsUnused "users" mapUsers := ⟨by decide, by decide, by decide⟩
  have body : mapUsers.chains =
      mapUsers.chains.take 1 ++ usersChain :: mapUsers.chains.drop 2 := rfl
  have calls : usersChain.calls = front ++ back := rfl
  obtain ⟨registrations, style⟩ := ofMethod_split body calls plain unused
  exact ⟨plain, unused, registrations, style, by decide, by decide⟩

end TypedClient.Registration
