/-
Module: TaintFlow.Proofs.Worklist
Purpose: A search with a queue, turn by turn. It remembers what it has visited instead of what it may still
  visit, so nothing bounds it from outside: it ends because every node puts its neighbours into the queue
  once at most. Where neighbours stay among finitely many nodes, the queue is empty after one turn for each
  node that was ever put into it, and what was visited is what `explore` lists.
Main exports: Reach.Worklist, Reach.Worklist.turn, Reach.Worklist.turns, Reach.Worklist.turns_explore,
  Reach.nodup_explore
-/
import TaintFlow.Proofs.Search

namespace TaintFlow.Reach

variable {α : Type} [DecidableEq α] {next : α → List α} {remaining todo nodes visited : List α}

/-! ### What a search lists -/

theorem mem_of_mem_explore {x : α} (hx : x ∈ explore next remaining todo) : x ∈ remaining := by
  obtain ⟨_, _, hpath⟩ := mem_explore_iff.mp hx
  exact hpath.end_mem

/-- A search lists no node twice: a visited node leaves the nodes that may be visited. -/
theorem nodup_explore : (explore next remaining todo).Nodup := by
  fun_induction explore next remaining todo with
  | case1 => exact List.nodup_nil
  | case2 remaining x todo _ ih =>
      apply List.nodup_cons.mpr
      refine ⟨?_, ih⟩
      intro hx
      exact (mem_without.mp (mem_of_mem_explore hx)).2 rfl
  | case3 _ _ _ _ ih => exact ih

/-- A search lists first where it starts. -/
theorem head?_explore {x : α} (hx : x ∈ remaining) :
    (explore next remaining (x :: todo)).head? = some x := by
  rw [explore, if_pos hx, List.head?_cons]

/-! ### Turns -/

/-- A search underway: the nodes visited so far, in the order of the visits, and the queue. -/
structure Worklist (α : Type) where
  visited : List α := []
  todo : List α
deriving DecidableEq, Repr, Inhabited

namespace Worklist

/-- One turn takes the first node of the queue. A node that was visited is dropped; any other is visited and
    its neighbours go to the end of the queue. -/
def turn (next : α → List α) (w : Worklist α) : Worklist α :=
  match w.todo with
  | [] => w
  | x :: todo =>
      if x ∈ w.visited then { w with todo }
      else { visited := w.visited ++ [x], todo := todo ++ next x }

/-- A number of turns. -/
def turns (next : α → List α) : Nat → Worklist α → Worklist α
  | 0, w => w
  | k + 1, w => turns next k (w.turn next)

/-- The queue runs empty, after one turn for each node in it and for each neighbour that a visit puts into
    it. The induction follows `explore`: what may still be visited is what was not visited. -/
theorem turns_explore (hnext : ∀ x ∈ nodes, ∀ y ∈ next x, y ∈ nodes) (htodo : ∀ x ∈ todo, x ∈ nodes)
    (hleft : ∀ x ∈ nodes, x ∈ remaining ↔ x ∉ visited) :
    turns next (todo.length + ((explore next remaining todo).flatMap next).length) ⟨visited, todo⟩ =
      ⟨visited ++ explore next remaining todo, []⟩ := by
  fun_induction explore next remaining todo generalizing visited with
  | case1 => simp [turns]
  | case2 remaining x todo hx ih =>
      rw [List.forall_mem_cons] at htodo
      have hnew : x ∉ visited := (hleft x htodo.1).mp hx
      have htodo' : ∀ y ∈ todo ++ next x, y ∈ nodes := by
        intro y hy
        rcases List.mem_append.mp hy with hy | hy
        · exact htodo.2 y hy
        · exact hnext x htodo.1 y hy
      have hleft' : ∀ y ∈ nodes, y ∈ without x remaining ↔ y ∉ visited ++ [x] := by
        intro y hy
        simp [hleft y hy]
      have hturn : turn next ⟨visited, x :: todo⟩ = ⟨visited ++ [x], todo ++ next x⟩ := by
        simp [turn, hnew]
      have hcount : (x :: todo).length + ((x :: explore next (without x remaining)
          (todo ++ next x)).flatMap next).length = ((todo ++ next x).length +
            ((explore next (without x remaining) (todo ++ next x)).flatMap next).length) + 1 := by
        simp only [List.flatMap_cons, List.length_append, List.length_cons]
        omega
      rw [hcount, turns, hturn, ih htodo' hleft', List.append_assoc, List.singleton_append]
  | case3 remaining x todo hx ih =>
      rw [List.forall_mem_cons] at htodo
      have hold : x ∈ visited := by
        apply Decidable.byContradiction
        intro hnew
        exact hx ((hleft x htodo.1).mpr hnew)
      have hturn : turn next ⟨visited, x :: todo⟩ = ⟨visited, todo⟩ := by
        simp [turn, hold]
      rw [List.length_cons, Nat.add_right_comm, turns, hturn, ih htodo.2 hleft]

/-- A search from one node, from its first turn to its last. -/
theorem turns_start (hnext : ∀ x ∈ nodes, ∀ y ∈ next x, y ∈ nodes) {x : α} (hx : x ∈ nodes) :
    turns next (1 + ((explore next nodes [x]).flatMap next).length) { todo := [x] } =
      ⟨explore next nodes [x], []⟩ := by
  have htodo : ∀ y ∈ [x], y ∈ nodes := List.forall_mem_singleton.mpr hx
  have hleft : ∀ y ∈ nodes, y ∈ nodes ↔ y ∉ ([] : List α) := by simp
  simpa using turns_explore hnext htodo hleft

end Worklist

end TaintFlow.Reach
