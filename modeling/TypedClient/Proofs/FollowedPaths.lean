/-
This file shows where paths lead on a disk: each has a goal and a way of locations that have to be
directories, and both follow from the text of the path.
-/

import TypedClient.Disk.Access
import TypedClient.Proofs.PathNames

namespace TypedClient

namespace Text

/-- A text that is cut at a separator has the pieces of both parts. -/
theorem splitAt_append (separator : Char) (front behind : List Char) :
    splitAt separator (front ++ separator :: behind) =
      splitAt separator front ++ splitAt separator behind := by
  have joined {c : Char} {first second : List (List Char)} (some : first ≠ []) :
      consToFirst c (first ++ second) = consToFirst c first ++ second := by
    obtain ⟨piece, pieces, rfl⟩ := List.exists_cons_of_ne_nil some
    rfl
  induction front with
  | nil => simp [splitAt, splitWhere]
  | cons c rest inductionHypothesis =>
      simp only [splitAt, List.cons_append, splitWhere] at inductionHypothesis ⊢
      split
      · rw [inductionHypothesis, List.cons_append]
      · rw [inductionHypothesis, joined (splitWhere_ne_nil rest)]

end Text

namespace Path

/-- The texts between the slashes of a path. -/
def pieces (path : String) : List String :=
  (Text.splitAt '/' path.toList).map String.ofList

theorem join_cases {path : String} (relative : isAbsolute path = false) (base : String) :
    (base = "" ∧ join base path = path) ∨
    (∃ front, base.toList = front ++ ['/'] ∧ join base path = base ++ path) ∨
    (base ≠ "" ∧ join base path = base ++ "/" ++ path) := by
  by_cases empty : base = ""
  · exact .inl ⟨empty, by simp [join, empty]⟩
  · by_cases ends : base.toList.getLast? = some '/'
    · exact .inr (.inl ⟨_, (List.getLast?_eq_some_iff.mp ends).choose_spec,
        by simp [join, relative, empty, ends]⟩)
    · exact .inr (.inr ⟨empty, by simp [join, relative, empty, ends]⟩)

section Join

variable {names : List String} (some : names ≠ []) (files : ∀ name ∈ names, IsFileName name)

include some files

theorem pieces_names : isAbsolute ("/".intercalate names) = false ∧
    pieces ("/".intercalate names) = names := by
  obtain ⟨first, rest, rfl⟩ := List.exists_cons_of_ne_nil some
  have here := files first List.mem_cons_self
  exact ⟨isAbsolute_intercalate here.nonempty here.whole rest,
    pieces_intercalate some fun name member => (files name member).whole⟩

/-- Names that are joined to a base stand behind the pieces of the base; an empty piece at its end
is left out. -/
theorem pieces_join (base : String) :
    pieces (join base ("/".intercalate names)) = pieces base ++ names ∨
      ∃ front, pieces base = front ++ [""] ∧
        pieces (join base ("/".intercalate names)) = front ++ names := by
  obtain ⟨relative, own⟩ := pieces_names some files
  generalize "/".intercalate names = path at relative own ⊢
  rcases join_cases relative base with ⟨rfl, joined⟩ | ⟨front, ends, joined⟩ | ⟨_, joined⟩
  · exact .inr ⟨[], rfl, by rw [joined, own, List.nil_append]⟩
  · refine .inr ⟨(Text.splitAt '/' front).map String.ofList, ?_, ?_⟩
    · rw [pieces, ends, Text.splitAt_append, List.map_append]
      rfl
    · rw [pieces, joined, String.toList_append, ends, List.append_assoc, List.singleton_append,
        Text.splitAt_append, List.map_append]
      exact congrArg _ own
  · have letters : (base ++ "/" ++ path).toList = base.toList ++ '/' :: path.toList := by simp
    rw [pieces, joined, letters, Text.splitAt_append, List.map_append]
    exact .inl (congrArg _ own)

theorem isAbsolute_join (base : String) :
    isAbsolute (join base ("/".intercalate names)) = isAbsolute base ∧
      join base ("/".intercalate names) ≠ "" := by
  obtain ⟨relative, own⟩ := pieces_names some files
  have nonempty : "/".intercalate names ≠ "" := by
    intro empty
    obtain ⟨first, rest, rfl⟩ := List.exists_cons_of_ne_nil some
    rw [empty] at own
    exact (files first List.mem_cons_self).nonempty (List.cons.inj own).1.symm
  generalize "/".intercalate names = path at relative nonempty ⊢
  rcases join_cases relative base with ⟨rfl, joined⟩ | ⟨front, ends, joined⟩ | ⟨present, joined⟩
  · exact ⟨by rw [joined, relative]; rfl, by rwa [joined]⟩
  · refine ⟨?_, by simp [joined, nonempty]⟩
    rw [joined, isAbsolute, isAbsolute, String.toList_append, ends]
    cases front <;> rfl
  · refine ⟨?_, by simp [joined]⟩
    cases letters : base.toList with
    | nil => exact absurd (String.toList_eq_nil_iff.mp letters) present
    | cons c rest => simp [joined, isAbsolute, letters]

end Join

end Path

namespace Disk

/-- Where a piece of a path leads from a location. -/
def step (location : Location) (piece : String) : Location :=
  if piece == "" || piece == "." then location
  else if piece == ".." then location.dropLast
  else location ++ [piece]

/-- The location that pieces of a path lead to. -/
def goal (start : Location) (pieces : List String) : Location :=
  pieces.foldl step start

/-- The locations in front of each of some pieces of a path. -/
def way : Location → List String → List Location
  | _, [] => []
  | location, piece :: rest => location :: way (step location piece) rest

theorem follow_cons {disk : Disk} {start : Location} (piece : String) (rest : List String)
    (directory : disk.get? start = some .directory) :
    disk.follow start (piece :: rest) = disk.follow (step start piece) rest := by
  rw [follow, directory, step]
  split_ifs <;> rfl

theorem follow_eq_ok_iff {disk : Disk} {start location : Location} {pieces : List String} :
    disk.follow start pieces = .ok location ↔
      location = goal start pieces ∧
        ∀ passed ∈ way start pieces, disk.get? passed = some .directory := by
  induction pieces generalizing start with
  | nil => simp [follow, goal, way, eq_comm]
  | cons piece rest inductionHypothesis =>
      rw [way, List.forall_mem_cons, goal, List.foldl_cons, ← goal]
      by_cases directory : disk.get? start = some .directory
      · rw [follow_cons piece rest directory, inductionHypothesis]
        simp [directory]
      · rw [follow]
        split
        case h_1 | h_2 => simp [directory]
        case h_3 found => exact absurd found directory

/-- Pieces are followed one part after the other. -/
theorem follow_append (disk : Disk) (start : Location) (front behind : List String) :
    disk.follow start (front ++ behind) =
      (disk.follow start front).bind fun location => disk.follow location behind := by
  induction front generalizing start with
  | nil => rfl
  | cons piece rest inductionHypothesis =>
      by_cases directory : disk.get? start = some .directory
      · rw [List.cons_append, follow_cons _ _ directory, follow_cons _ _ directory,
          inductionHypothesis]
      · rw [List.cons_append, follow, follow]
        split
        case h_1 | h_2 => rfl
        case h_3 found => exact absurd found directory

/-- An empty piece in front of others makes no difference. -/
theorem follow_empty (disk : Disk) (start : Location) {pieces : List String} (some : pieces ≠ []) :
    disk.follow start ("" :: pieces) = disk.follow start pieces := by
  obtain ⟨piece, rest, rfl⟩ := List.exists_cons_of_ne_nil some
  by_cases directory : disk.get? start = Option.some .directory
  · exact follow_cons _ _ directory
  · rw [follow, follow]
    split
    case h_1 | h_2 => rfl
    case h_3 found => exact absurd found directory

def startOf (here : Location) (path : String) : Location :=
  if Path.isAbsolute path then [] else here

theorem locate_join (disk : Disk) (base : String) {names : List String} (some : names ≠ [])
    (files : ∀ name ∈ names, Path.IsFileName name) :
    disk.locate (Path.join base ("/".intercalate names)) =
      disk.follow (startOf disk.here base) (Path.pieces base ++ names) := by
  obtain ⟨absolute, nonempty⟩ := Path.isAbsolute_join some files base
  have present : (Path.join base ("/".intercalate names)).isEmpty = false := by simpa using nonempty
  rw [locate, present, if_neg Bool.false_ne_true, absolute]
  change disk.follow (startOf disk.here base) (Path.pieces _) = _
  rcases Path.pieces_join some files base with joined | ⟨front, own, joined⟩
  · rw [joined]
  · rw [joined, own, List.append_assoc, List.singleton_append, follow_append, follow_append]
    exact congrArg _ (funext fun location => (follow_empty disk location some).symm)

theorem step_name (location : Location) {name : String} (file : Path.IsFileName name) :
    step location name = location ++ [name] := by
  simp [step, file.nonempty, file.notCurrent, file.notParent]

/-- Names behind pieces lead downward from the goal of the pieces. -/
theorem goal_append_names (start : Location) (pieces : List String) {names : List String}
    (files : ∀ name ∈ names, Path.IsFileName name) :
    goal start (pieces ++ names) = goal start pieces ++ names := by
  rw [goal, goal, List.foldl_append]
  generalize pieces.foldl step start = location
  induction names generalizing location with
  | nil => simp
  | cons name rest inductionHypothesis =>
      obtain ⟨first, others⟩ := List.forall_mem_cons.mp files
      rw [List.foldl_cons, step_name location first, inductionHypothesis others,
        List.append_assoc, List.singleton_append]

/-- The way of two parts is that of the first and then that of the second. -/
theorem way_append (start : Location) (front behind : List String) :
    way start (front ++ behind) = way start front ++ way (goal start front) behind := by
  induction front generalizing start with
  | nil => rfl
  | cons piece rest inductionHypothesis =>
      rw [List.cons_append, way, way, inductionHypothesis, List.cons_append]
      rfl

/-- The way of names leads over the locations above their goal. -/
theorem mem_way_names {location passed : Location} {names : List String}
    (files : ∀ name ∈ names, Path.IsFileName name) :
    passed ∈ way location names ↔
      ∃ count < names.length, passed = location ++ names.take count := by
  induction names generalizing location with
  | nil => simp [way]
  | cons name rest inductionHypothesis =>
      obtain ⟨first, others⟩ := List.forall_mem_cons.mp files
      rw [way, List.mem_cons, step_name location first, inductionHypothesis others]
      constructor
      · rintro (rfl | ⟨count, short, rfl⟩)
        · exact ⟨0, Nat.succ_pos _, by simp⟩
        · exact ⟨count + 1, Nat.succ_lt_succ short, by simp⟩
      · rintro ⟨_ | count, short, rfl⟩
        · exact .inl (by simp)
        · exact .inr ⟨count, Nat.lt_of_succ_lt_succ short, by simp⟩

/-- Pieces that do not lead upward lead downward. -/
theorem prefix_goal {start : Location} {pieces : List String} (downward : ".." ∉ pieces) :
    start <+: goal start pieces := by
  induction pieces generalizing start with
  | nil => exact List.prefix_rfl
  | cons piece rest inductionHypothesis =>
      obtain ⟨first, others⟩ := not_or.mp (List.mem_cons.not.mp downward)
      have deeper : start <+: step start piece := by
        rw [step]
        split_ifs with nameless parent
        · exact List.prefix_rfl
        · exact absurd (beq_iff_eq.mp parent).symm first
        · exact List.prefix_append _ _
      exact deeper.trans (inductionHypothesis others)

/-- Pieces that do not lead upward lead over locations above their goal, or over the goal. -/
theorem prefix_goal_of_mem_way {start passed : Location} {pieces : List String}
    (downward : ".." ∉ pieces) (member : passed ∈ way start pieces) :
    passed <+: goal start pieces := by
  induction pieces generalizing start with
  | nil => contradiction
  | cons piece rest inductionHypothesis =>
      rcases List.mem_cons.mp member with rfl | later
      · exact prefix_goal downward
      · exact inductionHypothesis (fun inRest => downward (List.mem_cons_of_mem _ inRest)) later

theorem contains_iff {disk : Disk} {path : String} :
    disk.contains path = true ↔
      ∃ location, disk.locate path = .ok location ∧ disk.get? location ≠ none := by
  rw [contains, entryAt]
  cases disk.locate path with
  | error error => simp [bind, Except.bind, Except.toOption]
  | ok location =>
      cases found : disk.get? location <;> simp [bind, Except.bind, Except.toOption, found]

theorem read_eq_ok_iff {disk : Disk} {path text : String} :
    disk.read path = .ok text ↔
      ∃ location, disk.locate path = .ok location ∧
        disk.content? location = some (.text text) := by
  rw [read, entryAt]
  cases disk.locate path with
  | error error => simp [bind, Except.bind]
  | ok location =>
      rcases found : disk.get? location with _ | _ | _ | _ <;>
        simp [bind, Except.bind, content?, found]

end Disk

end TypedClient
