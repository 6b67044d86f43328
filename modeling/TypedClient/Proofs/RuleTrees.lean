/-
This file shows what a tree of rules holds after records were put into it: every record is at the
end of its path, and there are no other places than those on the way to a record.
-/

import Mathlib.Data.List.Infix
import Mathlib.Data.List.Nodup
import TypedClient.Client.RuleTree
import TypedClient.Proofs.Pieces
import TypedClient.Proofs.SortedNames

namespace TypedClient.RuleTree

theorem pathOf_ne_nil (record : PropertyRules) : pathOf record ≠ [] := by
  rw [pathOf, Ne, List.map_eq_nil_iff]
  exact Text.splitWhere_ne_nil _

theorem pathOf_inj {first second : PropertyRules} :
    pathOf first = pathOf second ↔ first.property = second.property := by
  constructor
  · intro same
    have pieces := List.map_injective_iff.mpr (fun _ _ => String.ofList_injective) same
    have letters := congrArg ['.'].intercalate pieces
    rwa [Text.intercalate_splitAt, Text.intercalate_splitAt, String.toList_inj] at letters
  · intro same
    rw [pathOf, pathOf, same]

section Children

theorem lookup_cons (name other : String) (tree : RuleTree) (rest : List (String × RuleTree)) :
    ((other, tree) :: rest).lookup name = if other = name then some tree else rest.lookup name := by
  rw [List.lookup_cons]
  by_cases same : other = name
  · simp [same]
  · simp [same, beq_false_of_ne (Ne.symm same)]

theorem childNamed_eq (name : String) (children : List (String × RuleTree)) :
    childNamed name children = (children.lookup name).getD empty := by
  induction children with
  | nil => rfl
  | cons child rest inductionHypothesis =>
      obtain ⟨other, tree⟩ := child
      rw [childNamed, lookup_cons, inductionHypothesis]
      by_cases same : other = name <;> simp [same]

/-- Among trees of different names each is found under its name. -/
theorem lookup_eq_some {children : List (String × RuleTree)}
    (names : (children.map Prod.fst).Nodup) {name : String} {tree : RuleTree} :
    children.lookup name = some tree ↔ (name, tree) ∈ children := by
  induction children with
  | nil => simp
  | cons child rest inductionHypothesis =>
      obtain ⟨other, first⟩ := child
      rw [List.map_cons, List.nodup_cons] at names
      rw [lookup_cons, List.mem_cons, Prod.mk.injEq]
      split_ifs with same
      · have apart : (name, tree) ∉ rest := by
          intro behind
          have known : name ∈ rest.map Prod.fst := List.mem_map_of_mem behind
          exact names.1 (same ▸ known)
        simp [same, apart, eq_comm]
      · rw [inductionHypothesis names.2]
        simp [Ne.symm same]

/-- A tree is found under its name, and under another name what was there before. -/
theorem lookup_putChild (name other : String) (tree : RuleTree)
    (children : List (String × RuleTree)) :
    (putChild name tree children).lookup other =
      if name = other then some tree else children.lookup other := by
  induction children with
  | nil => rw [putChild, lookup_cons]
  | cons child rest inductionHypothesis =>
      obtain ⟨first, before⟩ := child
      rw [putChild]
      by_cases replaced : first = name
      · simp only [replaced, beq_self_eq_true, if_true, lookup_cons]
        split <;> rfl
      · simp only [replaced, beq_iff_eq, if_false, lookup_cons, inductionHypothesis]
        split_ifs with found same
        · exact absurd (found.trans same.symm) replaced
        · rfl
        · rfl
        · rfl

/-- A tree takes the place of the tree with its name, or the last place. -/
theorem names_putChild (name : String) (tree : RuleTree) (children : List (String × RuleTree)) :
    (putChild name tree children).map Prod.fst =
      if name ∈ children.map Prod.fst then children.map Prod.fst
      else children.map Prod.fst ++ [name] := by
  induction children with
  | nil => rfl
  | cons child rest inductionHypothesis =>
      obtain ⟨first, before⟩ := child
      rw [putChild]
      by_cases replaced : first = name
      · simp [replaced]
      · simp only [replaced, beq_iff_eq, if_false, List.map_cons, inductionHypothesis,
          List.mem_cons, Ne.symm replaced, false_or]
        split <;> rfl

/-- A tree that was put among others is there, and the others were there before. -/
theorem mem_putChild {name : String} {tree : RuleTree} {children : List (String × RuleTree)}
    {child : String × RuleTree} (member : child ∈ putChild name tree children) :
    child.2 = tree ∨ child ∈ children := by
  induction children with
  | nil =>
      obtain rfl := List.mem_singleton.mp member
      exact .inl rfl
  | cons first rest inductionHypothesis =>
      rw [putChild] at member
      split at member
      · rcases List.mem_cons.mp member with rfl | behind
        · exact .inl rfl
        · exact .inr (List.mem_cons_of_mem _ behind)
      · rcases List.mem_cons.mp member with rfl | behind
        · exact .inr List.mem_cons_self
        · exact (inductionHypothesis behind).imp_right (List.mem_cons_of_mem _)

end Children

/-- A tree has no two trees of one name at any of its places. -/
inductive Distinct : RuleTree → Prop
  | node {record : Option PropertyRules} {children : List (String × RuleTree)}
    (names : (children.map Prod.fst).Nodup) (below : ∀ child ∈ children, Distinct child.2) :
    Distinct (.node record children)

theorem distinct_empty : Distinct empty :=
  .node List.nodup_nil (by simp)

/-- The tree of a name has no more equal names than the trees that it is found among. -/
theorem distinct_childNamed {children : List (String × RuleTree)}
    (below : ∀ child ∈ children, Distinct child.2) (name : String) :
    Distinct (childNamed name children) := by
  induction children with
  | nil => exact distinct_empty
  | cons child rest inductionHypothesis =>
      obtain ⟨here, behind⟩ := List.forall_mem_cons.mp below
      rw [childNamed]
      split
      · exact here
      · exact inductionHypothesis behind

/-- A record does not bring a name in twice. -/
theorem Distinct.insertAt (record : PropertyRules) {tree : RuleTree} (distinct : Distinct tree)
    (path : List String) : Distinct (insertAt record path tree) := by
  induction path generalizing tree with
  | nil =>
      obtain ⟨names, below⟩ := distinct
      exact .node names below
  | cons name path inductionHypothesis =>
      obtain ⟨names, below⟩ := distinct
      refine .node ?_ ?_
      · rw [names_putChild]
        split_ifs with known
        · exact names
        · rw [← List.concat_eq_append]
          exact names.concat known
      · intro child member
        rcases mem_putChild member with same | before
        · rw [same]
          exact inductionHypothesis (distinct_childNamed below name)
        · exact below child before

section Lookup

/-- The tree that a path leads to, if it leads anywhere. -/
def at? : List String → RuleTree → Option RuleTree
  | [], tree => some tree
  | name :: path, tree => (tree.children.lookup name).bind (at? path)

def recordAt? (path : List String) (tree : RuleTree) : Option PropertyRules :=
  (at? path tree).bind record?

/-- Tells whether a path leads to a place of a tree. -/
def leads (path : List String) (tree : RuleTree) : Bool :=
  (at? path tree).isSome

/-- A path leads on from where its beginning leads to. -/
theorem at?_append (front behind : List String) (tree : RuleTree) :
    at? (front ++ behind) tree = (at? front tree).bind (at? behind) := by
  induction front generalizing tree with
  | nil => rfl
  | cons name front inductionHypothesis =>
      rw [List.cons_append, at?, at?, Option.bind_assoc]
      exact Option.bind_congr fun child _ => inductionHypothesis child

theorem at?_empty (path : List String) :
    at? path empty = if path = [] then some empty else none := by
  cases path <;> rfl

theorem at?_cons_insertAt (record : PropertyRules) (name other : String)
    (target path : List String) (tree : RuleTree) :
    at? (other :: path) (insertAt record (name :: target) tree) =
      if name = other then at? path (insertAt record target (childNamed name tree.children))
      else at? (other :: path) tree := by
  obtain ⟨own, trees⟩ := tree
  rw [insertAt, at?, children, lookup_putChild]
  split_ifs <;> rfl

theorem recordAt?_cons (name : String) (path : List String) (tree : RuleTree) :
    recordAt? (name :: path) tree = recordAt? path (childNamed name tree.children) := by
  rw [recordAt?, at?, childNamed_eq]
  cases tree.children.lookup name with
  | none => cases path <;> rfl
  | some child => rfl

/-- A record is found at the end of its path, and at the end of another path what was there. -/
theorem recordAt?_insertAt (record : PropertyRules) (target path : List String)
    (tree : RuleTree) :
    recordAt? path (insertAt record target tree) =
      if target = path then some record else recordAt? path tree := by
  induction target generalizing path tree with
  | nil =>
      obtain ⟨own, trees⟩ := tree
      cases path <;> rfl
  | cons name target inductionHypothesis =>
      obtain ⟨own, trees⟩ := tree
      cases path with
      | nil => rfl
      | cons other path =>
          by_cases same : name = other
          · rw [recordAt?, at?_cons_insertAt, if_pos same, ← recordAt?, inductionHypothesis, same,
              recordAt?_cons]
            simp only [List.cons.injEq, true_and]
          · rw [recordAt?, at?_cons_insertAt, if_neg same, ← recordAt?, if_neg]
            exact fun equal => same (List.cons.inj equal).1

/-- A record opens the way to it, and no other. -/
theorem leads_insertAt (record : PropertyRules) (target path : List String) (tree : RuleTree) :
    leads path (insertAt record target tree) = true ↔
      path <+: target ∨ leads path tree = true := by
  induction target generalizing path tree with
  | nil =>
      obtain ⟨own, trees⟩ := tree
      cases path with
      | nil => simp [leads, at?]
      | cons other path => simp [leads, at?, insertAt, children]
  | cons name target inductionHypothesis =>
      obtain ⟨own, trees⟩ := tree
      cases path with
      | nil => simp [leads, at?]
      | cons other path =>
          rw [leads, at?_cons_insertAt]
          by_cases same : name = other
          · rw [if_pos same, ← leads, inductionHypothesis, same, childNamed_eq]
            rw [List.cons_prefix_cons, leads, leads, at?]
            cases (node own trees).children.lookup other with
            -- A new name leads to its own place only, and each path goes on from there.
            | none => cases path <;> simp [at?_empty]
            | some child => simp
          · rw [if_neg same, ← leads, List.cons_prefix_cons]
            simp [Ne.symm same]

end Lookup

/-- A place of a tree: the names on the way to it, the record there, and whether it has trees
below it. -/
structure Place where
  path : List String
  record : Option PropertyRules
  isInner : Bool

def Place.under (name : String) (place : Place) : Place :=
  { place with path := name :: place.path }

mutual

def places : RuleTree → List Place
  | node record children => ⟨[], record, !children.isEmpty⟩ :: placesOfAll children

def placesOfAll : List (String × RuleTree) → List Place
  | [] => []
  | (name, child) :: rest => child.places.map (Place.under name) ++ placesOfAll rest

end

theorem mem_placesOfAll {place : Place} {children : List (String × RuleTree)} :
    place ∈ placesOfAll children ↔
      ∃ child ∈ children, ∃ inner ∈ child.2.places, inner.under child.1 = place := by
  induction children with
  | nil => simp [placesOfAll]
  | cons child rest inductionHypothesis =>
      obtain ⟨name, tree⟩ := child
      simp [placesOfAll, inductionHypothesis]

/-- The places of a tree are where a path leads. -/
theorem mem_places {place : Place} {tree : RuleTree} (distinct : Distinct tree) :
    place ∈ tree.places ↔ ∃ found, at? place.path tree = some found ∧
      place.record = found.record? ∧ place.isInner = !found.children.isEmpty := by
  obtain ⟨path, record, isInner⟩ := place
  -- The path says where to go in the tree, so that no induction on the tree is needed.
  induction path generalizing tree with
  | nil =>
      obtain ⟨own, trees⟩ := tree
      have elsewhere : (⟨[], record, isInner⟩ : Place) ∉ placesOfAll trees := by
        intro member
        obtain ⟨child, _, inner, _, same⟩ := mem_placesOfAll.mp member
        cases same
      simp [places, at?, elsewhere, record?, children]
  | cons name path inductionHypothesis =>
      obtain ⟨names, below⟩ := distinct
      rename_i own trees
      have outside : (⟨name :: path, record, isInner⟩ : Place) ≠ ⟨[], own, !trees.isEmpty⟩ := by
        simp
      rw [places, List.mem_cons, or_iff_right outside, mem_placesOfAll, at?, children]
      constructor
      · rintro ⟨⟨other, tree⟩, member, inner, inside, same⟩
        cases same
        obtain ⟨found, leads, here⟩ := (inductionHypothesis (below _ member)).mp inside
        exact ⟨found, by rw [(lookup_eq_some names).mpr member]; exact leads, here⟩
      · rintro ⟨found, leads, here⟩
        obtain ⟨tree, known, further⟩ := Option.bind_eq_some_iff.mp leads
        have member := (lookup_eq_some names).mp known
        exact ⟨(name, tree), member, ⟨path, record, isInner⟩,
          (inductionHypothesis (below _ member)).mpr ⟨found, further, here⟩, rfl⟩

theorem head_mem_of_mem_placesOfAll {path : List String} {children : List (String × RuleTree)}
    (member : path ∈ (placesOfAll children).map Place.path) :
    ∃ name ∈ children.map Prod.fst, ∃ behind, path = name :: behind := by
  obtain ⟨place, inside, rfl⟩ := List.mem_map.mp member
  obtain ⟨child, known, inner, _, rfl⟩ := mem_placesOfAll.mp inside
  exact ⟨child.1, List.mem_map_of_mem known, inner.path, rfl⟩

/-- Trees of different names have different paths if each of them has. -/
theorem nodup_paths_placesOfAll {children : List (String × RuleTree)}
    (names : (children.map Prod.fst).Nodup)
    (below : ∀ child ∈ children, (child.2.places.map Place.path).Nodup) :
    ((placesOfAll children).map Place.path).Nodup := by
  induction children with
  | nil => simp [placesOfAll]
  | cons child rest inductionHypothesis =>
      obtain ⟨name, tree⟩ := child
      obtain ⟨new, names⟩ := List.nodup_cons.mp names
      obtain ⟨here, below⟩ := List.forall_mem_cons.mp below
      have under : (tree.places.map (Place.under name)).map Place.path =
          (tree.places.map Place.path).map (name :: ·) := by
        rw [List.map_map, List.map_map]
        rfl
      rw [placesOfAll, List.map_append, under, List.nodup_append']
      refine ⟨here.map (List.cons_injective), inductionHypothesis names below, ?_⟩
      intro path inTree inRest
      obtain ⟨_, _, rfl⟩ := List.mem_map.mp inTree
      obtain ⟨other, known, behind, same⟩ := head_mem_of_mem_placesOfAll inRest
      obtain ⟨rfl, _⟩ := List.cons.inj same
      exact new known

theorem path_ne_nil {place : Place} {children : List (String × RuleTree)}
    (member : place ∈ placesOfAll children) : place.path ≠ [] := by
  obtain ⟨name, _, behind, path⟩ := head_mem_of_mem_placesOfAll (List.mem_map_of_mem member)
  simp [path]

/-- The places of the trees below are all but that of the tree itself. -/
theorem mem_placesOfAll_children {place : Place} {tree : RuleTree} :
    place ∈ placesOfAll tree.children ↔ place ∈ tree.places ∧ place.path ≠ [] := by
  obtain ⟨own, trees⟩ := tree
  rw [places, List.mem_cons, children]
  constructor
  · intro below
    exact ⟨.inr below, path_ne_nil below⟩
  · rintro ⟨rfl | below, some⟩
    · exact absurd rfl some
    · exact below

/-- Different places of a tree are at the ends of different paths. -/
theorem Distinct.nodup_paths {tree : RuleTree} (distinct : Distinct tree) :
    (tree.places.map Place.path).Nodup := by
  induction distinct with
  | node names _ inductionHypothesis =>
      rw [places, List.map_cons, List.nodup_cons]
      refine ⟨?_, nodup_paths_placesOfAll names inductionHypothesis⟩
      intro member
      obtain ⟨_, _, _, same⟩ := head_mem_of_mem_placesOfAll member
      cases same

/-- Some name leads on where there are trees below. -/
theorem exists_leads_iff {tree : RuleTree} :
    (∃ name, leads [name] tree = true) ↔ tree.children.isEmpty = false := by
  obtain ⟨own, trees⟩ := tree
  cases trees with
  | nil => simp [leads, at?, children]
  | cons child rest =>
      obtain ⟨name, first⟩ := child
      have found : leads [name] (node own ((name, first) :: rest)) = true := by
        rw [leads, at?, children, lookup_cons, if_pos rfl]
        rfl
      exact iff_of_true ⟨name, found⟩ rfl

theorem mem_places_iff {place : Place} {tree : RuleTree} (distinct : Distinct tree) :
    place ∈ tree.places ↔ leads place.path tree = true ∧
      place.record = recordAt? place.path tree ∧
      (place.isInner = true ↔ ∃ name, leads (place.path ++ [name]) tree = true) := by
  rw [mem_places distinct, leads, recordAt?]
  cases reached : at? place.path tree with
  | none => simp
  | some found =>
      have onward : (∃ name, leads (place.path ++ [name]) tree = true) ↔
          found.children.isEmpty = false := by
        simp only [leads, at?_append, reached, Option.bind_some, ← exists_leads_iff]
      simp only [Option.some.injEq, exists_eq_left', Option.isSome_some, true_and, onward,
        Option.bind_some]
      generalize found.children.isEmpty = ends
      cases ends <;> simp

theorem Distinct.nodup_paths_below {tree : RuleTree} (distinct : Distinct tree) :
    ((placesOfAll tree.children).map Place.path).Nodup := by
  have all := distinct.nodup_paths
  obtain ⟨own, trees⟩ := tree
  rw [places, List.map_cons] at all
  exact all.of_cons

mutual

theorem paths_eq : (tree : RuleTree) →
    tree.paths = (tree.places.filterMap Place.record).map PropertyRules.property
  | node record children => by
    rw [paths, places, pathsOfAll_eq children]
    cases record <;> simp

theorem pathsOfAll_eq : (children : List (String × RuleTree)) →
    pathsOfAll children = ((placesOfAll children).filterMap Place.record).map PropertyRules.property
  | [] => rfl
  | (name, child) :: rest => by
    rw [pathsOfAll, placesOfAll, paths_eq child, pathsOfAll_eq rest, List.filterMap_append,
      List.map_append, List.filterMap_map]
    rfl

end

section Records

variable {records : List PropertyRules}

theorem ofRecords_concat (before : List PropertyRules) (record : PropertyRules) :
    ofRecords (before ++ [record]) = insertAt record (pathOf record) (ofRecords before) := by
  rw [ofRecords, List.foldl_append]
  rfl

theorem distinct_ofRecords (records : List PropertyRules) : Distinct (ofRecords records) := by
  induction records using List.reverseRecOn with
  | nil => exact distinct_empty
  | append_singleton before record inductionHypothesis =>
      rw [ofRecords_concat]
      exact inductionHypothesis.insertAt record _

/-- At the end of a path is the last record with that path. -/
theorem recordAt?_ofRecords (path : List String) (records : List PropertyRules) :
    recordAt? path (ofRecords records) =
      records.reverse.find? fun record => pathOf record == path := by
  induction records using List.reverseRecOn with
  | nil => cases path <;> rfl
  | append_singleton before record inductionHypothesis =>
      rw [ofRecords_concat, recordAt?_insertAt, inductionHypothesis, List.reverse_append,
        List.reverse_singleton, List.singleton_append, List.find?_cons]
      by_cases same : pathOf record = path
      · simp [same]
      · simp [same, beq_false_of_ne]

theorem leads_ofRecords (path : List String) (records : List PropertyRules) :
    leads path (ofRecords records) = true ↔
      path = [] ∨ ∃ record ∈ records, path <+: pathOf record := by
  induction records using List.reverseRecOn with
  | nil => cases path <;> simp [leads, at?, ofRecords, empty, children]
  | append_singleton before record inductionHypothesis =>
      rw [ofRecords_concat, leads_insertAt, inductionHypothesis]
      simp only [List.mem_append, List.mem_singleton, or_and_right, exists_or, exists_eq_left]
      exact or_left_comm.trans (or_congr_right or_comm)

/-- The paths on the way to records: beginnings of their paths, but not all of them. -/
def ways (records : List PropertyRules) : List (List String) :=
  (records.flatMap fun record => (pathOf record).dropLast.inits).filter fun way => !way.isEmpty

/-- The paths on the way to records where there is no record. -/
def openWays (records : List PropertyRules) : List (List String) :=
  (ways records).eraseDups.filter fun way => !(records.map pathOf).contains way

/-- The place of a record among others. -/
def placeOf (records : List PropertyRules) (record : PropertyRules) : Place :=
  ⟨pathOf record, some record, (ways records).contains (pathOf record)⟩

/-- The place at the end of a path on the way to records where there is no record. -/
def openPlace (way : List String) : Place :=
  ⟨way, none, true⟩

/-- A path is on the way to a record where the path of the record goes on. -/
theorem mem_inits_dropLast {way path : List String} :
    way ∈ path.dropLast.inits ∧ path ≠ [] ↔ ∃ name, way ++ [name] <+: path := by
  rw [List.mem_inits]
  constructor
  · rintro ⟨⟨between, parts⟩, some⟩
    have whole := List.dropLast_append_getLast some
    rw [← parts, List.append_assoc] at whole
    obtain ⟨name, behind, split⟩ := List.exists_cons_of_ne_nil
      (List.append_ne_nil_of_right_ne_nil between (List.cons_ne_nil (path.getLast some) []))
    refine ⟨name, behind, ?_⟩
    rw [List.append_assoc, List.singleton_append, ← split, whole]
  · rintro ⟨name, behind, rfl⟩
    rw [List.append_assoc, List.singleton_append,
      List.dropLast_append_of_ne_nil (List.cons_ne_nil name behind)]
    exact ⟨List.prefix_append _ _, by simp⟩

theorem mem_ways {way : List String} {records : List PropertyRules} :
    way ∈ ways records ↔
      way ≠ [] ∧ ∃ record ∈ records, ∃ name, way ++ [name] <+: pathOf record := by
  simp only [← mem_inits_dropLast, ways]
  simp [pathOf_ne_nil, and_comm]

theorem mem_openWays {way : List String} :
    way ∈ openWays records ↔ way ∈ ways records ∧ way ∉ records.map pathOf := by
  rw [openWays, List.mem_filter, List.mem_eraseDups, Bool.not_eq_true', ← Bool.not_eq_true,
    List.contains_iff_mem]

theorem leads_iff {path : List String} (some : path ≠ []) :
    leads path (ofRecords records) = true ↔
      path ∈ records.map pathOf ∨ path ∈ ways records := by
  rw [leads_ofRecords, or_iff_right some, mem_ways, and_iff_right some]
  constructor
  · rintro ⟨record, member, behind, parts⟩
    cases behind with
    | nil => exact .inl (List.mem_map.mpr ⟨record, member, by rw [← parts, List.append_nil]⟩)
    | cons name behind => exact .inr ⟨record, member, name, behind, by simpa using parts⟩
  · rintro (own | ⟨record, member, name, further⟩)
    · obtain ⟨record, member, rfl⟩ := List.mem_map.mp own
      exact ⟨record, member, List.prefix_refl _⟩
    · exact ⟨record, member, (List.prefix_append _ _).trans further⟩

theorem exists_leads_concat_iff {path : List String} (some : path ≠ []) :
    (∃ name, leads (path ++ [name]) (ofRecords records) = true) ↔ path ∈ ways records := by
  rw [mem_ways, and_iff_right some]
  simp only [leads_ofRecords, List.append_eq_nil_iff, List.cons_ne_nil, and_false, false_or]
  exact ⟨fun ⟨name, record, member, further⟩ => ⟨record, member, name, further⟩,
    fun ⟨record, member, name, further⟩ => ⟨name, record, member, further⟩⟩

theorem paths_ofRecords (records : List PropertyRules) :
    (ofRecords records).paths = pathsOfAll (ofRecords records).children := by
  have root : recordAt? [] (ofRecords records) = none := by
    simp [recordAt?_ofRecords, pathOf_ne_nil]
  generalize ofRecords records = tree at root
  obtain ⟨own, trees⟩ := tree
  obtain rfl : own = none := root
  rfl

section Unlike

variable (distinct : (records.map PropertyRules.property).Nodup)

include distinct

theorem nodup_map_pathOf : (records.map pathOf).Nodup := by
  rw [List.nodup_map_iff_inj_on distinct.of_map]
  intro first inFirst second inSecond same
  exact List.inj_on_of_nodup_map distinct inFirst inSecond (pathOf_inj.mp same)

theorem recordAt?_eq_some {path : List String} {record : PropertyRules} :
    recordAt? path (ofRecords records) = some record ↔ record ∈ records ∧ pathOf record = path := by
  rw [recordAt?_ofRecords]
  constructor
  · intro found
    have same := List.find?_some found
    exact ⟨List.mem_reverse.mp (List.mem_of_find?_eq_some found), eq_of_beq same⟩
  · rintro ⟨member, rfl⟩
    have some : (records.reverse.find? fun other => pathOf other == pathOf record).isSome :=
      List.find?_isSome.mpr ⟨record, List.mem_reverse.mpr member, beq_self_eq_true _⟩
    obtain ⟨other, found⟩ := Option.isSome_iff_exists.mp some
    have same := List.find?_some found
    rw [found, List.inj_on_of_nodup_map (nodup_map_pathOf distinct)
      (List.mem_reverse.mp (List.mem_of_find?_eq_some found)) member (eq_of_beq same)]

theorem recordAt?_eq_none {path : List String} :
    recordAt? path (ofRecords records) = none ↔ path ∉ records.map pathOf := by
  rw [Option.eq_none_iff_forall_ne_some, List.mem_map]
  simp only [Ne, recordAt?_eq_some distinct, not_exists]

theorem mem_placesOfAll_ofRecords {place : Place} :
    place ∈ placesOfAll (ofRecords records).children ↔
      place ∈ records.map (placeOf records) ++ (openWays records).map openPlace := by
  rw [mem_placesOfAll_children, mem_places_iff (distinct_ofRecords records), List.mem_append,
    List.mem_map, List.mem_map]
  constructor
  · obtain ⟨path, own, isInner⟩ := place
    rintro ⟨⟨leads, here, inner⟩, some⟩
    dsimp only at leads here inner some
    rw [exists_leads_concat_iff some] at inner
    cases own with
    | some record =>
        obtain ⟨member, rfl⟩ := (recordAt?_eq_some distinct).mp here.symm
        refine .inl ⟨record, member, ?_⟩
        rw [placeOf, Place.mk.injEq, Bool.eq_iff_iff, List.contains_iff_mem]
        exact ⟨rfl, rfl, inner.symm⟩
    | none =>
        have alone := (recordAt?_eq_none distinct).mp here.symm
        have way := ((leads_iff some).mp leads).resolve_left alone
        exact .inr ⟨path, mem_openWays.mpr ⟨way, alone⟩, by rw [openPlace, inner.mpr way]⟩
  · rintro (⟨record, member, rfl⟩ | ⟨way, member, rfl⟩)
    · have some := pathOf_ne_nil record
      dsimp only [placeOf]
      rw [leads_iff some, exists_leads_concat_iff some, eq_comm, recordAt?_eq_some distinct,
        List.contains_iff_mem]
      exact ⟨⟨.inl (List.mem_map_of_mem member), ⟨member, rfl⟩, Iff.rfl⟩, some⟩
    · obtain ⟨onTheWay, alone⟩ := mem_openWays.mp member
      have some : way ≠ [] := (mem_ways.mp onTheWay).1
      dsimp only [openPlace]
      rw [leads_iff some, exists_leads_concat_iff some, eq_comm, recordAt?_eq_none distinct]
      exact ⟨⟨.inr onTheWay, alone, iff_of_true rfl onTheWay⟩, some⟩

theorem placesOfAll_perm :
    (placesOfAll (ofRecords records).children).Perm
      (records.map (placeOf records) ++ (openWays records).map openPlace) := by
  have paths : (records.map (placeOf records) ++ (openWays records).map openPlace).map Place.path =
      records.map pathOf ++ openWays records := by
    rw [List.map_append, List.map_map, List.map_map]
    exact congrArg _ (List.map_id _)
  have apart : (records.map pathOf ++ openWays records).Nodup := by
    rw [List.nodup_append']
    refine ⟨nodup_map_pathOf distinct, (Text.nodup_eraseDups _).filter _, ?_⟩
    exact fun path own onTheWay => (mem_openWays.mp onTheWay).2 own
  have below := (distinct_ofRecords records).nodup_paths_below
  rw [← paths] at apart
  exact (List.perm_ext_iff_of_nodup below.of_map apart.of_map).mpr fun _ =>
    mem_placesOfAll_ofRecords distinct

/-- A tree of records has the records that were put into it. -/
theorem paths_perm : (ofRecords records).paths.Perm (records.map PropertyRules.property) := by
  have places := ((placesOfAll_perm distinct).filterMap Place.record).map PropertyRules.property
  have own : ((records.map (placeOf records)).filterMap Place.record) = records := by
    rw [List.filterMap_map]
    exact List.filterMap_some
  have onTheWay : ((openWays records).map openPlace).filterMap Place.record = [] := by
    simp [openPlace]
  rw [← pathsOfAll_eq, List.filterMap_append, own, onTheWay, List.append_nil] at places
  rwa [paths_ofRecords]

end Unlike

end Records

end TypedClient.RuleTree
