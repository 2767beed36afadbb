/-
Module: TaintFlow.Flow.Marks
Purpose: Sets of points of a body, kept as one mark for each point, and searching with them. A search
  follows a step function through marked points only and takes the mark off every point it visits, so
  that a point is visited once and what was visited is what has lost its mark.
Main exports: Flow.Marks, Flow.Marks.sweep, Flow.Marks.reached
-/

namespace TaintFlow.Flow

/-- A set of points: a mark for each. -/
structure Marks where
  bits : Array Bool
deriving DecidableEq, Repr, Inhabited

namespace Marks

/-- All points below `n`. -/
def below (n : Nat) : Marks := ⟨Array.replicate n true⟩

/-- Is a point marked? -/
def has (m : Marks) (i : Nat) : Bool := m.bits[i]?.getD false

/-- Take the mark off a point. -/
def erase (m : Marks) (i : Nat) : Marks := ⟨m.bits.setIfInBounds i false⟩

/-- The number of marked points. -/
def count (m : Marks) : Nat := m.bits.count true

@[simp] theorem has_below {n i : Nat} : (below n).has i = decide (i < n) := by
  by_cases h : i < n <;> simp [below, has, h]

@[simp] theorem has_erase {m : Marks} {i j : Nat} :
    (m.erase i).has j = (m.has j && decide (i ≠ j)) := by
  by_cases h : i = j
  · subst h
    by_cases hi : i < m.bits.size <;> simp [erase, has, hi]
  · simp [erase, has, h]

/-- There are fewer marks when one is taken off. -/
theorem count_erase_lt {m : Marks} {i : Nat} (h : m.has i = true) : (m.erase i).count < m.count := by
  have hi : i < m.bits.size := by
    rcases Nat.lt_or_ge i m.bits.size with hlt | hge
    · exact hlt
    · simp [has, Array.getElem?_eq_none hge] at h
  have hbit : m.bits[i] = true := by
    simpa [has, Array.getElem?_eq_getElem hi] using h
  have hpos : 0 < m.bits.count true :=
    Array.count_pos_iff.mpr (hbit ▸ Array.getElem_mem hi)
  have hset : m.bits.setIfInBounds i false = m.bits.set i false hi := by
    simp [Array.setIfInBounds, hi]
  have hcount : (m.bits.set i false hi).count true = m.bits.count true - 1 := by
    rw [Array.count_set]
    simp [hbit]
  have herase : (m.erase i).count = m.bits.count true - 1 := by
    rw [erase, count, hset, hcount]
  rw [herase, count]
  omega

/-- Visit every marked point that can be reached from `todo` along `next` through marked points, and
    take its mark off. -/
def sweep (next : Nat → List Nat) (m : Marks) : List Nat → Marks
  | [] => m
  | x :: todo =>
      if m.has x = true then sweep next (m.erase x) (next x ++ todo)
      else sweep next m todo
termination_by todo => (m.count, todo.length)
decreasing_by
  · exact Prod.Lex.left _ _ (count_erase_lt (by assumption))
  · exact Prod.Lex.right _ (by simp only [List.length_cons]; omega)

/-- The marked points that can be reached from `start` along `next` through marked points. -/
def reached (m : Marks) (next : Nat → List Nat) (start : List Nat) : Marks :=
  let left := m.sweep next start
  ⟨m.bits.mapIdx fun i bit => bit && !left.has i⟩

end Marks

end TaintFlow.Flow
