/-
This file describes bounds of numbers and the bound that is kept of several ones: it is the last of
the bounds with the tightest limit, whether this one is exclusive or not.
-/

import Mathlib
import TypedClient.Number.Binary64
import TypedClient.Rule.Basic

namespace TypedClient

namespace Binary64

/-- Numbers have a place in the order unless they are undefined. -/
theorem exists_place {number : Binary64} (defined : number ≠ .nan) :
    ∃ place, number.place? = some place := by
  cases number with
  | nan => contradiction
  | infinite negative => exact ⟨_, rfl⟩
  | finite negative units => exact ⟨_, rfl⟩

theorem same_comm (left right : Binary64) : left.same right = right.same left := by
  unfold same
  cases left.place? <;> cases right.place? <;> simp [eq_comm]

end Binary64

/-- The side on which a bound ends the numbers that it admits. -/
inductive Side
  | least
  | greatest
  deriving DecidableEq, Repr

namespace Side

instance : Fintype Side where
  elems := {least, greatest}
  complete := by rintro (_ | _) <;> decide

/-- The rules that state bounds of a side. -/
def kind : Side → RuleKind
  | least => .minimum
  | greatest => .maximum

/-- A place in the order of numbers, turned so that it grows away from the limit of a bound. -/
def turned : Side → Int → Int
  | least, place => place
  | greatest, place => -place

theorem turned_inj {side : Side} {left right : Int} :
    side.turned left = side.turned right ↔ left = right := by
  cases side <;> simp [turned]

end Side

/-- A bound of numbers; an exclusive one does not admit its limit. -/
structure NumberBound where
  side : Side
  limit : Binary64
  exclusive : Bool
  deriving DecidableEq, Repr

namespace NumberBound

/-- Tells whether a number lies behind the limit. -/
def isPassedBy (bound : NumberBound) (number : Binary64) : Bool :=
  match bound.side with
  | .least => bound.limit.less number
  | .greatest => number.less bound.limit

/-- Tells whether a number is the limit. -/
def isMetBy (bound : NumberBound) (number : Binary64) : Bool :=
  bound.limit.same number

/-- Tells whether a number is the limit or lies behind it. -/
def isReachedBy (bound : NumberBound) (number : Binary64) : Bool :=
  bound.isPassedBy number || bound.isMetBy number

/-- Tells whether a number satisfies the bound. -/
def admits (bound : NumberBound) (number : Binary64) : Bool :=
  bound.isPassedBy number || (!bound.exclusive && bound.isMetBy number)

section Order

variable {bound other : NumberBound} {number : Binary64} {place limit : Int}

theorem isPassedBy_iff (atLimit : bound.limit.place? = some limit)
    (atPlace : number.place? = some place) :
    bound.isPassedBy number = true ↔ bound.side.turned limit < bound.side.turned place := by
  cases side : bound.side <;>
    simp [isPassedBy, side, Side.turned, Binary64.less, atLimit, atPlace]

theorem isMetBy_iff (atLimit : bound.limit.place? = some limit)
    (atPlace : number.place? = some place) :
    bound.isMetBy number = true ↔ bound.side.turned limit = bound.side.turned place := by
  rw [Side.turned_inj]
  simp [isMetBy, Binary64.same, atLimit, atPlace]

theorem isReachedBy_iff (atLimit : bound.limit.place? = some limit)
    (atPlace : number.place? = some place) :
    bound.isReachedBy number = true ↔ bound.side.turned limit ≤ bound.side.turned place := by
  rw [isReachedBy, Bool.or_eq_true, isPassedBy_iff atLimit atPlace, isMetBy_iff atLimit atPlace]
  omega

theorem places_of_isReachedBy (reached : bound.isReachedBy number = true) :
    ∃ limit place, bound.limit.place? = some limit ∧ number.place? = some place := by
  have undefined (left right : Binary64) (none : left.place? = none ∨ right.place? = none) :
      left.less right = false ∧ left.same right = false := by
    rcases none with none | none <;> cases other : left.place? <;>
      simp_all [Binary64.less, Binary64.same]
  by_contra missing
  have none : bound.limit.place? = none ∨ number.place? = none := by
    rw [Option.eq_none_iff_forall_ne_some, Option.eq_none_iff_forall_ne_some]
    grind
  have forward := undefined bound.limit number none
  have backward := undefined number bound.limit none.symm
  cases side : bound.side <;>
    simp [isReachedBy, isPassedBy, isMetBy, side, forward, backward] at reached

theorem admits_iff : bound.admits number = true ↔
    bound.isReachedBy number = true ∧ (bound.isMetBy number = true → bound.exclusive = false) := by
  by_cases reached : bound.isReachedBy number = true
  · obtain ⟨limit, place, atLimit, atPlace⟩ := places_of_isReachedBy reached
    have order := (isReachedBy_iff atLimit atPlace).mp reached
    rw [admits, Bool.or_eq_true, Bool.and_eq_true, Bool.not_eq_true',
      isPassedBy_iff atLimit atPlace, isMetBy_iff atLimit atPlace, and_iff_right reached]
    by_cases met : bound.side.turned limit = bound.side.turned place
    · simp [met]
    · simp [met, lt_of_le_of_ne order met]
  · have apart : bound.isPassedBy number = false ∧ bound.isMetBy number = false := by
      simpa [isReachedBy] using reached
    simp [admits, reached, apart]

theorem isReachedBy_trans (sides : bound.side = other.side)
    (within : bound.isReachedBy other.limit = true) (reached : other.isReachedBy number = true) :
    bound.isReachedBy number = true := by
  obtain ⟨limit, between, atLimit, atBetween⟩ := places_of_isReachedBy within
  obtain ⟨_, place, -, atPlace⟩ := places_of_isReachedBy reached
  rw [isReachedBy_iff atLimit atBetween] at within
  rw [isReachedBy_iff atBetween atPlace, ← sides] at reached
  exact (isReachedBy_iff atLimit atPlace).mpr (within.trans reached)

theorem isReachedBy_of_not (sides : bound.side = other.side) (defined : bound.limit ≠ .nan)
    (otherDefined : other.limit ≠ .nan) (missed : ¬bound.isReachedBy other.limit = true) :
    other.isReachedBy bound.limit = true ∧ other.isMetBy bound.limit = false := by
  obtain ⟨limit, atLimit⟩ := Binary64.exists_place defined
  obtain ⟨otherLimit, atOther⟩ := Binary64.exists_place otherDefined
  rw [isReachedBy_iff atLimit atOther, sides] at missed
  rw [isReachedBy_iff atOther atLimit, ← Bool.not_eq_true, isMetBy_iff atOther atLimit]
  omega

theorem isMetBy_limit (defined : bound.limit ≠ .nan) : bound.isMetBy bound.limit = true := by
  obtain ⟨limit, atLimit⟩ := Binary64.exists_place defined
  rw [isMetBy_iff atLimit atLimit]

end Order

/-- The bound that is kept when one more bound of its side comes: an equal limit replaces the one
before. -/
def tighten (kept : Option NumberBound) (next : NumberBound) : Option NumberBound :=
  match kept with
  | none => some next
  | some bound => if bound.isReachedBy next.limit then some next else some bound

theorem tighten_ne_none (kept : Option NumberBound) (next : NumberBound) :
    tighten kept next ≠ none := by
  cases kept with
  | none => exact Option.some_ne_none next
  | some bound =>
      simp only [tighten]
      split <;> exact Option.some_ne_none _

/-- The last of some bounds whose limit is a number. -/
def lastAt (number : Binary64) (bounds : List NumberBound) : Option NumberBound :=
  (bounds.filter fun bound => bound.isMetBy number).getLast?

/-- A bound is the last one with its limit, and its limit reaches all others. -/
structure IsTightest (bounds : List NumberBound) (bound : NumberBound) : Prop where
  reached : ∀ other ∈ bounds, other.isReachedBy bound.limit = true
  last : lastAt bound.limit bounds = some bound

section Tighten

variable {side : Side} {bounds : List NumberBound}

theorem isTightest_of_kept (sides : ∀ bound ∈ bounds, bound.side = side)
    (defined : ∀ bound ∈ bounds, bound.limit ≠ .nan) {kept : NumberBound}
    (result : bounds.foldl tighten none = some kept) : IsTightest bounds kept := by
  -- The last bound is compared with what is kept of all others, so the list grows at its end.
  induction bounds using List.reverseRecOn generalizing kept with
  | nil => contradiction
  | append_singleton before next inductionHypothesis =>
      obtain ⟨sidesBefore, sideNext⟩ := List.forall_mem_append.mp sides
      obtain ⟨definedBefore, definedNext⟩ := List.forall_mem_append.mp defined
      simp only [List.mem_singleton, forall_eq] at sideNext definedNext
      have self := isMetBy_limit definedNext
      have reachesItself : next.isReachedBy next.limit = true := by simp [isReachedBy, self]
      rw [List.foldl_append, List.foldl_cons, List.foldl_nil] at result
      cases found : before.foldl tighten none with
      | none =>
          rw [found] at result
          obtain rfl := Option.some.inj result
          have first : before = [] := by
            rcases List.eq_nil_or_concat' before with none | ⟨_, _, rfl⟩
            · exact none
            · rw [List.foldl_append, List.foldl_cons, List.foldl_nil] at found
              exact absurd found (tighten_ne_none _ _)
          subst first
          exact ⟨by simpa using reachesItself, by simp [lastAt, self]⟩
      | some bound =>
          obtain ⟨reached, last⟩ := inductionHypothesis sidesBefore definedBefore found
          have member : bound ∈ before :=
            List.mem_of_mem_filter (List.mem_of_getLast? last)
          have sideBound := sidesBefore bound member
          rw [found, tighten] at result
          split at result
          · rename_i replaced
            obtain rfl := Option.some.inj result
            refine ⟨?_, by simp [lastAt, self]⟩
            refine List.forall_mem_append.mpr ⟨?_, by simpa using reachesItself⟩
            intro other inside
            exact isReachedBy_trans ((sidesBefore other inside).trans sideBound.symm)
              (reached other inside) replaced
          · rename_i missed
            obtain rfl := Option.some.inj result
            obtain ⟨behind, apart⟩ := isReachedBy_of_not (sideBound.trans sideNext.symm)
              (definedBefore bound member) definedNext missed
            refine ⟨List.forall_mem_append.mpr ⟨reached, by simpa using behind⟩, ?_⟩
            simpa [lastAt, apart] using last

/-- A number that reaches the tightest bound is a limit only if it is the limit of that bound. -/
theorem IsTightest.lastAt_eq {kept : NumberBound} (tightest : IsTightest bounds kept)
    (sides : ∀ bound ∈ bounds, bound.side = side) {number : Binary64}
    (here : kept.isReachedBy number = true) :
    lastAt number bounds = if kept.isMetBy number then some kept else none := by
  obtain ⟨reached, last⟩ := tightest
  have member : kept ∈ bounds := List.mem_of_mem_filter (List.mem_of_getLast? last)
  obtain ⟨limit, place, atLimit, atPlace⟩ := places_of_isReachedBy here
  split
  · rename_i met
    have equal := Side.turned_inj.mp ((isMetBy_iff atLimit atPlace).mp met)
    have sameLimit (other : NumberBound) : other.isMetBy number = other.isMetBy kept.limit := by
      simp only [isMetBy, Binary64.same, atLimit, atPlace, equal]
    rw [← last, lastAt, lastAt]
    simp only [sameLimit]
  · rename_i apart
    have none : bounds.filter (fun bound => bound.isMetBy number) = [] := by
      refine List.filter_eq_nil_iff.mpr ?_
      intro other inside met
      obtain ⟨otherLimit, _, atOther, -⟩ := places_of_isReachedBy (reached other inside)
      have within := (isReachedBy_iff atOther atLimit).mp (reached other inside)
      have equal := (isMetBy_iff atOther atPlace).mp met
      rw [isReachedBy_iff atLimit atPlace, sides kept member, ← sides other inside] at here
      rw [isMetBy_iff atLimit atPlace, sides kept member, ← sides other inside] at apart
      omega
    rw [lastAt, none, List.getLast?_nil]

/-- A number satisfies the bound that is kept if it reaches all bounds, and the last bound whose
limit it is, if there is one, is inclusive. -/
theorem all_admits_kept_iff (sides : ∀ bound ∈ bounds, bound.side = side)
    (defined : ∀ bound ∈ bounds, bound.limit ≠ .nan) (number : Binary64) :
    (∀ bound ∈ bounds.foldl tighten none, bound.admits number = true) ↔
      (∀ bound ∈ bounds, bound.isReachedBy number = true) ∧
        ∀ bound ∈ lastAt number bounds, bound.exclusive = false := by
  cases result : bounds.foldl tighten none with
  | none =>
      have nothing : bounds = [] := by
        rcases List.eq_nil_or_concat' bounds with none | ⟨before, last, rfl⟩
        · exact none
        · rw [List.foldl_append, List.foldl_cons, List.foldl_nil] at result
          exact absurd result (tighten_ne_none _ _)
      simp [nothing, lastAt]
  | some kept =>
      obtain ⟨reached, last⟩ := isTightest_of_kept sides defined result
      have member : kept ∈ bounds := List.mem_of_mem_filter (List.mem_of_getLast? last)
      have all : kept.isReachedBy number = true →
          ∀ bound ∈ bounds, bound.isReachedBy number = true := fun here bound inside =>
        isReachedBy_trans ((sides bound inside).trans (sides kept member).symm)
          (reached bound inside) here
      have lastHere : kept.isReachedBy number = true →
          lastAt number bounds = if kept.isMetBy number then some kept else none :=
        (isTightest_of_kept sides defined result).lastAt_eq sides
      simp only [Option.mem_some_iff, forall_eq', admits_iff]
      constructor
      · rintro ⟨here, inclusive⟩
        refine ⟨all here, ?_⟩
        rw [lastHere here]
        intro bound found
        split at found
        · rename_i met
          obtain rfl := Option.some.inj found
          exact inclusive met
        · contradiction
      · rintro ⟨everywhere, inclusive⟩
        have here := everywhere kept member
        rw [lastHere here] at inclusive
        refine ⟨here, fun met => inclusive kept ?_⟩
        rw [if_pos met]
        rfl

end Tighten

end NumberBound

end TypedClient
