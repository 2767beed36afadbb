/-
Module: TaintFlow.Reach
Purpose: Searching a finite graph. `explore` visits breadth first and `reversePostorder` depth first;
  both take the nodes they may visit as a list, and a node leaves that list when it is visited, so
  cycles need no bound. `Reaches` is the relation that both searches decide.
Main exports: Reach.Reaches, Reach.explore, Reach.reversePostorder
-/

namespace TaintFlow.Reach

/-- `Reaches next within x y`: there is a path from `x` to `y` along `next`, all of whose nodes, both
    ends included, lie in `within`. -/
inductive Reaches {α : Type} (next : α → List α) (within : List α) : α → α → Prop where
  | refl {x : α} : x ∈ within → Reaches next within x x
  | step {x y z : α} : Reaches next within x y → z ∈ next y → z ∈ within → Reaches next within x z

/-- The list without any copy of `x`. -/
def without {α : Type} [DecidableEq α] (x : α) (xs : List α) : List α :=
  xs.filter (· ≠ x)

@[simp] theorem mem_without {α : Type} [DecidableEq α] {x y : α} {xs : List α} :
    y ∈ without x xs ↔ y ∈ xs ∧ y ≠ x := by
  simp [without]

/-- A list is shorter without one of its members. -/
theorem length_without_lt {α : Type} [DecidableEq α] {x : α} {xs : List α} (h : x ∈ xs) :
    (without x xs).length < xs.length := by
  have hle : (xs.filter (· ≠ x)).length ≤ xs.length := List.length_filter_le _ _
  have hne : (xs.filter (· ≠ x)).length ≠ xs.length := by
    intro heq
    have hall := List.length_filter_eq_length_iff.mp heq x h
    simp at hall
  exact Nat.lt_of_le_of_ne hle hne

/-- Visit, breadth first, every node of `remaining` that can be reached from `todo` along `next`
    through nodes of `remaining`, and list the nodes in the order of the visits. -/
def explore {α : Type} [DecidableEq α] (next : α → List α) (remaining : List α) :
    List α → List α
  | [] => []
  | x :: todo =>
      if x ∈ remaining then
        x :: explore next (without x remaining) (todo ++ next x)
      else
        explore next remaining todo
termination_by todo => (remaining.length, todo.length)
decreasing_by
  · exact Prod.Lex.left _ _ (length_without_lt (by assumption))
  · exact Prod.Lex.right _ (by simp)

/-- Work left on a depth-first stack: one unit for each frame and for each neighbour not yet tried. -/
def pendingWork {α : Type} (stack : List (α × List α)) : Nat :=
  (stack.flatMap Prod.snd).length + stack.length

/-- Depth-first search. A stack frame holds a node and its neighbours not yet tried; a node is put in
    front of `done` when its frame is exhausted, so `done` ends up in reverse postorder. -/
def depthFirst {α : Type} [DecidableEq α] (next : α → List α) (remaining done : List α) :
    List (α × List α) → List α
  | [] => done
  | (x, []) :: stack => depthFirst next remaining (x :: done) stack
  | (x, y :: ys) :: stack =>
      if y ∈ remaining then
        depthFirst next (without y remaining) done ((y, next y) :: (x, ys) :: stack)
      else
        depthFirst next remaining done ((x, ys) :: stack)
termination_by stack => (remaining.length, pendingWork stack)
decreasing_by
  · exact Prod.Lex.right _ (by simp [pendingWork])
  · exact Prod.Lex.left _ _ (length_without_lt (by assumption))
  · exact Prod.Lex.right _ (by simp [pendingWork])

/-- Reverse postorder of the nodes reachable from `start`: neighbours are tried in the order of
    `next`, and a node stands before everything that was finished while it was open. -/
def reversePostorder {α : Type} [DecidableEq α] (next : α → List α) (nodes : List α) (start : α) :
    List α :=
  depthFirst next (without start nodes) [] [(start, next start)]

end TaintFlow.Reach
