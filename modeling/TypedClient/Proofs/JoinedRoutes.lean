/-
This file shows that it does not matter in which order routes are joined: the segments that nested
groups, containers and methods contribute stand between single slashes, and segments of slashes do
not count.
-/

import TypedClient.Backend.Attached
import TypedClient.Backend.Registration
import TypedClient.Proofs.NestedText
import TypedClient.Proofs.WholeNumbers

namespace TypedClient

namespace Text

theorem dropEndWhile_prefix (test : Char → Bool) (cs : List Char) :
    dropEndWhile test cs <+: cs := by
  have turned := List.reverse_prefix.mpr (@List.dropWhile_suffix _ cs.reverse test)
  rwa [List.reverse_reverse] at turned

/-- Nothing is dropped in front of a text whose first character stays. -/
theorem dropWhile_of_head {test : Char → Bool} {cs : List Char}
    (kept : ∀ c ∈ cs.head?, test c = false) : cs.dropWhile test = cs := by
  cases cs with
  | nil => rfl
  | cons c rest => exact List.dropWhile_cons_of_neg (by simp [kept c rfl])

/-- Parts that are not empty are joined to a text that is not empty. -/
theorem intercalate_ne_nil (separator : List Char) {parts : List (List Char)}
    (nonempty : ∀ part ∈ parts, part ≠ []) (some : parts ≠ []) :
    separator.intercalate parts ≠ [] := by
  obtain ⟨first, rest, rfl⟩ := List.exists_cons_of_ne_nil some
  obtain ⟨c, others, rfl⟩ := List.exists_cons_of_ne_nil (nonempty first List.mem_cons_self)
  exact List.ne_nil_of_mem (mem_intercalate List.mem_cons_self List.mem_cons_self)

/-- Joining two rows of parts is joining what the rows are joined to. -/
theorem intercalate_append {separator : List Char} {front behind : List (List Char)}
    (some : front ≠ []) (more : behind ≠ []) :
    separator.intercalate (front ++ behind) =
      separator.intercalate front ++ (separator ++ separator.intercalate behind) := by
  induction front with
  | nil => contradiction
  | cons first rest inductionHypothesis =>
      cases rest with
      | nil =>
          obtain ⟨second, others, rfl⟩ := List.exists_cons_of_ne_nil more
          simp
      | cons second rest =>
          have later := inductionHypothesis (List.cons_ne_nil second rest)
          rw [List.cons_append] at later
          simp [later]

end Text

namespace Route

open Text

/-- A segment without the slashes at its ends. -/
def slashless (segment : String) : String :=
  String.ofList (dropEndWhile (· == '/') (segment.toList.dropWhile (· == '/')))

/-- The route of segments in a row: what is left of them without the slashes at their ends, joined
by single slashes behind a slash. -/
def ofSegments (segments : List String) : String :=
  "/" ++ "/".intercalate ((segments.map slashless).filter (· ≠ ""))

/-- A text without blanks. -/
def IsUnblank (segment : String) : Prop :=
  ∀ c ∈ segment.toList, isBlank c = false

instance (segment : String) : Decidable (IsUnblank segment) :=
  List.decidableBAll _ segment.toList

/-- A way to join segments two by two. -/
inductive Nesting
  | segment (text : String)
  | join (front behind : Nesting)

namespace Nesting

/-- The segments from the first to the last. -/
def segments : Nesting → List String
  | segment text => [text]
  | join front behind => front.segments ++ behind.segments

/-- The path that the joins make. -/
def path : Nesting → String
  | segment text => text
  | join front behind => Route.join front.path behind.path

end Nesting

section Ends

variable {cs : List Char}

/-- A text without blanks that has no slash at its ends. -/
structure IsBare (cs : List Char) : Prop where
  unblank : ∀ c ∈ cs, isBlank c = false
  front : ∀ c ∈ cs.head?, c ≠ '/'
  back : ∀ c ∈ cs.getLast?, c ≠ '/'

/-- Without blanks only the slashes at the ends are dropped from a path. -/
theorem bare_of_unblank (unblank : ∀ c ∈ cs, isBlank c = false) :
    bare cs = dropEndWhile (· == '/') (cs.dropWhile (· == '/')) := by
  rw [bare, trim_of_unblank unblank]

/-- A path without blanks is made bare. -/
theorem isBare_bare (unblank : ∀ c ∈ cs, isBlank c = false) : IsBare (bare cs) := by
  rw [bare_of_unblank unblank]
  have front := dropEndWhile_prefix (· == '/') (cs.dropWhile (· == '/'))
  refine ⟨?unblank, ?front, ?back⟩
  case unblank =>
    intro c member
    exact unblank c (((front.sublist).trans (List.dropWhile_sublist _)).subset member)
  case front =>
    intro c first
    obtain ⟨rest, same⟩ := front
    have kept : c ∈ (cs.dropWhile (· == '/')).head? := by
      rw [← same, List.head?_append, first]
      rfl
    simpa using head_dropWhile c kept
  case back =>
    intro c last
    rw [dropEndWhile, List.getLast?_reverse] at last
    simpa using head_dropWhile c last

namespace IsBare

/-- A bare path is left when a slash in front of it is dropped. -/
theorem bare_cons (isBare : IsBare cs) : bare ('/' :: cs) = cs := by
  have unblank : ∀ c ∈ '/' :: cs, isBlank c = false :=
    List.forall_mem_cons.mpr ⟨by decide, isBare.unblank⟩
  rw [bare_of_unblank unblank, List.dropWhile_cons_of_pos (by simp),
    dropWhile_of_head (by simpa using isBare.front),
    dropEndWhile_of_last (by simpa using isBare.back)]

/-- Two bare paths with a slash between them make a bare path. -/
theorem append {front behind : List Char} (first : IsBare front) (second : IsBare behind)
    (some : front ≠ []) (more : behind ≠ []) : IsBare (front ++ '/' :: behind) where
  unblank := List.forall_mem_append.mpr
    ⟨first.unblank, List.forall_mem_cons.mpr ⟨by decide, second.unblank⟩⟩
  front c member := by
    obtain ⟨d, rest, rfl⟩ := List.exists_cons_of_ne_nil some
    exact first.front c member
  back c member := by
    rw [← List.singleton_append, ← List.append_assoc,
      List.getLast?_append_of_ne_nil _ more] at member
    exact second.back c member

end IsBare

end Ends

section Parts

/-- The bare paths that count where paths are joined. -/
def counted (paths : List (List Char)) : List (List Char) :=
  (paths.map bare).filter fun path => !path.isEmpty

/-- Paths that are joined by single slashes; empty paths do not count. -/
def inner (paths : List (List Char)) : List Char :=
  ['/'].intercalate (counted paths)

theorem counted_append (front behind : List (List Char)) :
    counted (front ++ behind) = counted front ++ counted behind := by
  rw [counted, List.map_append, List.filter_append]
  rfl

theorem ne_nil_of_mem_counted {paths : List (List Char)} : ∀ part ∈ counted paths, part ≠ [] := by
  intro part member
  simpa using (List.mem_filter.mp member).2

theorem isBare_intercalate {parts : List (List Char)}
    (all : ∀ part ∈ parts, part ≠ [] ∧ IsBare part) : IsBare (['/'].intercalate parts) := by
  induction parts with
  | nil => exact ⟨by simp, by simp, by simp⟩
  | cons first rest inductionHypothesis =>
      obtain ⟨⟨some, here⟩, later⟩ := List.forall_mem_cons.mp all
      cases rest with
      | nil => simpa using here
      | cons second rest =>
          have more := intercalate_ne_nil ['/'] (fun part member => (later part member).1)
            (List.cons_ne_nil second rest)
          rw [List.intercalate_cons_cons, List.append_assoc]
          exact here.append (inductionHypothesis later) some more

/-- Two joined rows of parts are joined to the row of all the parts; a row without parts does not
count. -/
theorem intercalate_rows {front behind : List (List Char)}
    (first : ∀ part ∈ front, part ≠ []) (second : ∀ part ∈ behind, part ≠ []) :
    ['/'].intercalate (([['/'].intercalate front, ['/'].intercalate behind]).filter
      fun path => !path.isEmpty) = ['/'].intercalate (front ++ behind) := by
  have left (rows : List (List Char)) (each : ∀ part ∈ rows, part ≠ []) :
      rows = [] ∨ rows ≠ [] ∧ ['/'].intercalate rows ≠ [] := by
    rcases eq_or_ne rows [] with none | some
    · exact .inl none
    · exact .inr ⟨some, intercalate_ne_nil ['/'] each some⟩
  rcases left front first with rfl | ⟨some, filled⟩ <;>
    rcases left behind second with rfl | ⟨more, filledToo⟩
  · rfl
  · simp [filledToo]
  · simp [filled]
  · simp [filled, filledToo, intercalate_append some more]

end Parts

section Joins

/-- Where two paths are rows of segments apart from slashes at their ends, they are joined to the
row of all the segments. -/
theorem toList_join {front behind : String} {first second : List (List Char)}
    (left : bare front.toList = inner first) (right : bare behind.toList = inner second) :
    (join front behind).toList = '/' :: inner (first ++ second) := by
  rw [join, String.toList_ofList, joinAll, List.map_cons, List.map_cons, List.map_nil, left, right,
    inner, inner, intercalate_rows ne_nil_of_mem_counted ne_nil_of_mem_counted, inner,
    counted_append]

/-- Segments without blanks make a bare path. -/
theorem isBare_inner {segments : List String} (unblank : ∀ segment ∈ segments, IsUnblank segment) :
    IsBare (inner (segments.map String.toList)) := by
  refine isBare_intercalate fun part member => ⟨ne_nil_of_mem_counted part member, ?_⟩
  obtain ⟨path, inside, rfl⟩ := List.mem_map.mp (List.mem_filter.mp member).1
  obtain ⟨segment, here, rfl⟩ := List.mem_map.mp inside
  exact isBare_bare (unblank segment here)

/-- The row of segments without blanks, behind a slash. -/
theorem toList_ofSegments {segments : List String}
    (unblank : ∀ segment ∈ segments, IsUnblank segment) :
    (ofSegments segments).toList = '/' :: inner (segments.map String.toList) := by
  have parts : ((segments.map slashless).filter (· ≠ "")).map String.toList =
      counted (segments.map String.toList) := by
    induction segments with
    | nil => rfl
    | cons segment rest inductionHypothesis =>
        obtain ⟨here, later⟩ := List.forall_mem_cons.mp unblank
        have same : (slashless segment).toList = bare segment.toList := by
          rw [slashless, String.toList_ofList, bare_of_unblank here]
        have nothing : slashless segment = "" ↔ bare segment.toList = [] := by
          rw [← same, String.toList_eq_nil_iff]
        have others := inductionHypothesis later
        rw [counted] at others ⊢
        by_cases none : slashless segment = ""
        · simpa [none, nothing.mp none] using others
        · simpa [none, nothing.not.mp none, same] using others
  rw [ofSegments, String.toList_append, String.toList_intercalate, parts]
  rfl

/-- A nest of joins makes the row of its segments, apart from slashes at the ends. -/
theorem bare_path {nesting : Nesting}
    (unblank : ∀ segment ∈ nesting.segments, IsUnblank segment) :
    bare nesting.path.toList = inner (nesting.segments.map String.toList) := by
  induction nesting with
  | segment text =>
      rcases eq_or_ne (bare text.toList) [] with none | some
      · simp [Nesting.path, Nesting.segments, inner, counted, none]
      · simp [Nesting.path, Nesting.segments, inner, counted, some]
  | join front behind left right =>
      obtain ⟨first, second⟩ := List.forall_mem_append.mp unblank
      rw [Nesting.path, toList_join (left first) (right second), ← List.map_append]
      exact (isBare_inner unblank).bare_cons

theorem join_path {front behind : Nesting}
    (unblank : ∀ segment ∈ front.segments ++ behind.segments, IsUnblank segment) :
    join front.path behind.path = ofSegments (front.segments ++ behind.segments) := by
  obtain ⟨first, second⟩ := List.forall_mem_append.mp unblank
  rw [← String.toList_inj, toList_join (bare_path first) (bare_path second),
    toList_ofSegments unblank, List.map_append]

theorem ofSegments_slashes {slashes : String} (only : ∀ c ∈ slashes.toList, c = '/')
    (before after : List String) :
    ofSegments (before ++ slashes :: after) = ofSegments (before ++ after) := by
  have nothing : slashless slashes = "" := by
    have dropped : slashes.toList.dropWhile (· == '/') = [] :=
      List.dropWhile_eq_nil_iff.mpr (by simpa using only)
    rw [slashless, dropped]
    rfl
  simp [ofSegments, nothing]

end Joins

end Route

namespace Registration

def statedSegment (call : ChainCall) : String :=
  (firstText? call).getD ""

def groupSegments (calls : List ChainCall) : List String :=
  (calls.filter (·.name == "MapGroup")).map statedSegment

theorem exists_nesting {group : RouteGroup} {nesting : Route.Nesting}
    (made : group.path = nesting.path) (calls : List ChainCall) :
    ∃ nested : Route.Nesting, (calls.foldl RouteGroup.apply group).path = nested.path ∧
      nested.segments = nesting.segments ++ groupSegments calls := by
  induction calls generalizing group nesting with
  | nil => exact ⟨nesting, made, by simp [groupSegments]⟩
  | cons call rest inductionHypothesis =>
      by_cases named : call.name = "MapGroup"
      · have applied : (group.apply call).path =
            (Route.Nesting.join nesting (.segment (statedSegment call))).path := by
          rw [RouteGroup.apply, named, made]
          rfl
        obtain ⟨nested, path, segments⟩ := inductionHypothesis applied
        refine ⟨nested, path, segments.trans ?_⟩
        simp [groupSegments, named, Route.Nesting.segments]
      · have applied : (group.apply call).path = nesting.path := by
          rw [RouteGroup.apply]
          split <;> simp_all
        obtain ⟨nested, path, segments⟩ := inductionHypothesis applied
        exact ⟨nested, path, segments.trans (by simp [groupSegments, named])⟩

theorem route_of_nesting {group : RouteGroup} {nesting : Route.Nesting}
    (made : group.path = nesting.path) {calls : List ChainCall} {call : ChainCall}
    (unblank : ∀ segment ∈ nesting.segments ++ groupSegments calls ++ [statedSegment call],
      Route.IsUnblank segment) (chain : CallChain) (index : Nat) (verb : Verb) :
    (ofCall chain (calls.foldl RouteGroup.apply group) index verb call).route =
      Route.ofSegments (nesting.segments ++ groupSegments calls ++ [statedSegment call]) := by
  obtain ⟨nested, path, segments⟩ := exists_nesting made calls
  rw [← segments] at unblank ⊢
  exact (congrArg (Route.join · (statedSegment call)) path).trans
    (@Route.join_path nested (.segment (statedSegment call)) unblank)

end Registration

/-- However segments without blanks are joined two by two, the path is the row of all of them, so
that joins are associative and segments of slashes do not count. The routes of operations are such
paths: of the segments of nested groups and a registration, or of a container and a method. -/
theorem nested_routes_flatten :
    (∀ front behind : Route.Nesting,
        (∀ segment ∈ front.segments ++ behind.segments, Route.IsUnblank segment) →
        (Route.Nesting.join front behind).path =
          Route.ofSegments (front.segments ++ behind.segments)) ∧
      (∀ slashes : String, (∀ c ∈ slashes.toList, c = '/') → ∀ before after : List String,
        Route.ofSegments (before ++ slashes :: after) = Route.ofSegments (before ++ after)) ∧
      (∀ (group : RouteGroup) (nesting : Route.Nesting), group.path = nesting.path →
        ∀ (calls : List ChainCall) (call : ChainCall),
        (∀ segment ∈ nesting.segments ++ Registration.groupSegments calls ++
          [Registration.statedSegment call], Route.IsUnblank segment) →
        ∀ (chain : CallChain) (index : Nat) (verb : Verb),
        (Registration.ofCall chain (calls.foldl RouteGroup.apply group) index verb call).route =
          Route.ofSegments (nesting.segments ++ Registration.groupSegments calls ++
            [Registration.statedSegment call])) ∧
      ∀ (marker : Decoration) (container : Container) (method : Method),
        let segments := [Attached.expand container method (Attached.containerTemplate container),
          Attached.expand container method (Attached.methodTemplate marker method)]
        (∀ segment ∈ segments, Route.IsUnblank segment) →
        Attached.route marker container method = Route.ofSegments segments := by
  refine ⟨?nests, ?slashes, ?groups, ?methods⟩
  case nests =>
    intro front behind unblank
    exact Route.join_path unblank
  case slashes =>
    intro slashes only before after
    exact Route.ofSegments_slashes only before after
  case groups =>
    intro group nesting made calls call unblank chain index verb
    exact Registration.route_of_nesting made unblank chain index verb
  case methods =>
    intro marker container method segments unblank
    exact @Route.join_path (.segment _) (.segment _) unblank

/-- The path of a group in another one, with slashes in many places. -/
def groupNesting : Route.Nesting :=
  .join (.join (.segment "") (.segment "/api//")) (.join (.segment "///") (.segment "v1/"))

/-- A controller with a route for its actions. -/
def usersController : Container where
  name := "UsersController"
  decorations := [{ name := "Route", arguments := [⟨none, "\"api/[controller]/\""⟩] }]

/-- A verb marker with the route of an action. -/
def userMarker : Decoration :=
  { name := "HttpGet", arguments := [⟨none, "\"/\x7bid\x7d\""⟩] }

/-- The routes of an operation in nested groups and of an action are rows of segments. -/
theorem userRoutes_flatten :
    let calls : List ChainCall :=
      [{ name := "WithTags", arguments := ["\"Users\""] },
        { name := "MapGroup", arguments := ["\"users/\""] }]
    let call : ChainCall := { name := "MapGet", arguments := ["\"/\x7bid\x7d/\""] }
    let registration := Registration.ofCall {} (calls.foldl RouteGroup.apply
      { path := groupNesting.path }) 2 .get call
    (∀ segment ∈ groupNesting.segments ++ ["users/"], Route.IsUnblank segment) ∧
      groupNesting.path = "/api/v1" ∧
      registration.route = Route.ofSegments
        ["", "/api//", "///", "v1/", "users/", "/\x7bid\x7d/"] ∧
      registration.route = Route.ofSegments ["", "/api//", "v1/", "users/", "/\x7bid\x7d/"] ∧
      registration.route = "/api/v1/users/\x7bid\x7d" ∧
      Attached.route userMarker usersController { name := "GetUser" } =
        Route.ofSegments ["api/Users/", "/\x7bid\x7d"] ∧
      Route.ofSegments ["api/Users/", "/\x7bid\x7d"] = "/api/Users/\x7bid\x7d" := by
  intro calls call registration
  obtain ⟨nests, slashes, groups, methods⟩ := nested_routes_flatten
  have unblank : ∀ segment ∈ groupNesting.segments ++ ["users/"], Route.IsUnblank segment := by
    decide +kernel
  have registered := groups { path := groupNesting.path } groupNesting rfl calls call
    (by decide +kernel) {} 2 .get
  have shorter := slashes "///" (by simp) ["", "/api//"] ["v1/", "users/", "/\x7bid\x7d/"]
  have attached := methods userMarker usersController { name := "GetUser" } (by decide +kernel)
  have route : registration.route = Route.ofSegments
      ["", "/api//", "///", "v1/", "users/", "/\x7bid\x7d/"] :=
    registered.trans (by decide +kernel)
  exact ⟨unblank, by decide +kernel, route, route.trans shorter, by decide +kernel,
    attached.trans (by decide +kernel), by decide +kernel⟩

end TypedClient
