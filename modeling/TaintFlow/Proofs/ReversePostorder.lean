/-
Module: TaintFlow.Proofs.ReversePostorder
Purpose: What depth-first search lists, and in which order. While the search runs, the open nodes of the
  stack, from the bottom up, and the nodes that are done make up one list. Finishing a node does not
  change that list, and opening one puts it right behind the node it was found from. So each node but the
  first stands behind a node with a step to it, and the nodes are exactly those that can be reached.
Main exports: Reach.depthFirst_induction, Reach.Searching, Reach.Searching.depthFirst,
  Reach.mem_reversePostorder_iff, Reach.head?_reversePostorder, Reach.nodup_reversePostorder,
  Reach.exists_earlier
-/
import Mathlib.Data.List.Basic
import TaintFlow.Proofs.Search

namespace TaintFlow.Reach

variable {α : Type} {next : α → List α} {nodes remaining done : List α} {start x y : α}
  {ys : List α} {stack : List (α × List α)}

/-! ### Nodes met -/

/-- The nodes met so far: the open ones from the bottom of the stack up, then those that are done. -/
def met (done : List α) (stack : List (α × List α)) : List α :=
  (stack.map Prod.fst).reverse ++ done

/-- A node that is done stays where it was. -/
theorem met_pop : met done ((x, ys) :: stack) = met (x :: done) stack := by
  simp [met]

theorem met_push_perm : (met done ((y, ys) :: stack)).Perm (y :: met done stack) := by
  rw [met_pop]
  exact List.perm_middle

/-- A node that is opened leaves the others in their order. -/
theorem met_sublist_push : (met done stack).Sublist (met done ((y, ys) :: stack)) := by
  rw [met_pop]
  exact (List.sublist_cons_self y done).append_left _

/-- A node opens behind the one it was found from. -/
theorem pair_sublist_push {zs : List α} :
    [x, y].Sublist (met done ((y, zs) :: (x, ys) :: stack)) := by
  rw [met_pop, met_pop]
  refine List.Sublist.trans ?_ (List.sublist_append_right _ _)
  exact ((List.nil_sublist done).cons_cons y).cons_cons x

theorem head?_met_push {zs : List α} :
    (met done ((y, zs) :: (x, ys) :: stack)).head? = (met done ((x, ys) :: stack)).head? := by
  simp [met]

/-! ### The invariant -/

/-- What each step of the search keeps holds when no node is open any more. -/
theorem depthFirst_induction [DecidableEq α] {P : List α → List α → List (α × List α) → Prop}
    (hpop : ∀ {remaining done x stack}, P remaining done ((x, []) :: stack) → P remaining (x :: done) stack)
    (hpush : ∀ {remaining done x y ys stack}, y ∈ remaining → P remaining done ((x, y :: ys) :: stack) →
      P (without y remaining) done ((y, next y) :: (x, ys) :: stack))
    (hskip : ∀ {remaining done x y ys stack}, y ∉ remaining → P remaining done ((x, y :: ys) :: stack) →
      P remaining done ((x, ys) :: stack))
    (h : P remaining done stack) : ∃ left, P left (depthFirst next remaining done stack) [] := by
  fun_induction depthFirst next remaining done stack with
  | case1 => exact ⟨_, h⟩
  | case2 remaining done x stack ih => exact ih (hpop h)
  | case3 remaining done x y ys stack hy ih => exact ih (hpush hy h)
  | case4 remaining done x y ys stack hy ih => exact ih (hskip hy h)

/-- The neighbours to be tried from an open node are neighbours, and no other neighbour remains. -/
def Pending (next : α → List α) (remaining : List α) (x : α) (ys : List α) : Prop :=
  (∀ y ∈ ys, y ∈ next x) ∧ ∀ y ∈ next x, y ∈ ys ∨ y ∉ remaining

namespace Pending

/-- A neighbour that does not remain need not be tried. -/
theorem tail (h : Pending next remaining x (y :: ys)) (hy : y ∉ remaining) :
    Pending next remaining x ys := by
  refine ⟨fun z hz => h.1 z (List.mem_cons_of_mem y hz), ?_⟩
  intro z hz
  rcases h.2 z hz with hmem | hgone
  · rcases List.mem_cons.mp hmem with rfl | hmem
    · exact Or.inr hy
    · exact Or.inl hmem
  · exact Or.inr hgone

theorem without [DecidableEq α] {w : α} (h : Pending next remaining x ys) :
    Pending next (without w remaining) x ys :=
  ⟨h.1, fun z hz => (h.2 z hz).imp_right fun hgone hin => hgone (mem_without.mp hin).1⟩

end Pending

/-- What holds while a search from `start` runs. -/
structure Searching (next : α → List α) (nodes : List α) (start : α) (remaining done : List α)
    (stack : List (α × List α)) : Prop where
  nodup : (met done stack).Nodup
  first : (met done stack).head? = some start
  /-- The nodes that remain are those not met yet. -/
  remaining_iff : ∀ x, x ∈ remaining ↔ x ∈ nodes ∧ x ∉ met done stack
  reached : ∀ x ∈ met done stack, Reaches next nodes start x
  /-- Each node but the first stands behind one with a step to it. -/
  earlier : ∀ x ∈ met done stack, x ≠ start → ∃ w, x ∈ next w ∧ [w, x].Sublist (met done stack)
  /-- Steps from a node that is done lead to no node that remains. -/
  closed : ∀ x ∈ done, ∀ y ∈ next x, y ∉ remaining
  pending : ∀ x ys, (x, ys) ∈ stack → Pending next remaining x ys

namespace Searching

/-- A node whose neighbours have all been tried is done. -/
theorem pop (h : Searching next nodes start remaining done ((x, []) :: stack)) :
    Searching next nodes start remaining (x :: done) stack where
  nodup := met_pop ▸ h.nodup
  first := met_pop ▸ h.first
  remaining_iff := met_pop ▸ h.remaining_iff
  reached := met_pop ▸ h.reached
  earlier := met_pop ▸ h.earlier
  closed := by
    intro w hw y hy
    rcases List.mem_cons.mp hw with rfl | hw
    · exact ((h.pending _ _ List.mem_cons_self).2 y hy).resolve_left List.not_mem_nil
    · exact h.closed w hw y hy
  pending := fun w ys hframe => h.pending w ys (List.mem_cons_of_mem _ hframe)

/-- A neighbour that was met before is passed over. -/
theorem skip (h : Searching next nodes start remaining done ((x, y :: ys) :: stack))
    (hy : y ∉ remaining) : Searching next nodes start remaining done ((x, ys) :: stack) where
  nodup := h.nodup
  first := h.first
  remaining_iff := h.remaining_iff
  reached := h.reached
  earlier := h.earlier
  closed := h.closed
  pending := by
    intro w zs hframe
    rcases List.mem_cons.mp hframe with heq | hframe
    · cases heq
      exact (h.pending _ _ List.mem_cons_self).tail hy
    · exact h.pending w zs (List.mem_cons_of_mem _ hframe)

/-- When no node is open, everything that can be reached has been met. -/
theorem mem_done_iff (h : Searching next nodes start remaining done []) :
    x ∈ done ↔ Reaches next nodes start x := by
  refine ⟨h.reached x, ?_⟩
  intro hpath
  induction hpath with
  | refl _ => exact List.mem_of_mem_head? h.first
  | step _ hnext hnode ih =>
      have hgone := h.closed _ ih _ hnext
      rw [h.remaining_iff] at hgone
      exact Classical.not_not.mp fun hz => hgone ⟨hnode, hz⟩

variable [DecidableEq α]

/-- A search begins with its start open. -/
theorem initial (hstart : start ∈ nodes) :
    Searching next nodes start (without start nodes) [] [(start, next start)] where
  nodup := by simp [met]
  first := by simp [met]
  remaining_iff := by simp [met]
  reached := by
    intro x hx
    obtain rfl : x = start := by simpa [met] using hx
    exact .refl hstart
  earlier := by
    intro x hx hne
    exact absurd (by simpa [met] using hx) hne
  closed := by simp
  pending := by
    intro x ys hframe
    cases List.mem_singleton.mp hframe
    exact ⟨fun y hy => hy, fun y hy => Or.inl hy⟩

/-- A neighbour that remains is opened. -/
theorem push (h : Searching next nodes start remaining done ((x, y :: ys) :: stack))
    (hy : y ∈ remaining) :
    Searching next nodes start (without y remaining) done ((y, next y) :: (x, ys) :: stack) := by
  have htop : Pending next remaining x (y :: ys) := h.pending _ _ List.mem_cons_self
  have hstep : y ∈ next x := htop.1 y List.mem_cons_self
  obtain ⟨hnode, hnew⟩ := (h.remaining_iff y).mp hy
  have hx : x ∈ met done ((x, ys) :: stack) := met_push_perm.mem_iff.mpr List.mem_cons_self
  constructor
  case nodup => exact met_push_perm.nodup_iff.mpr (List.nodup_cons.mpr ⟨hnew, h.nodup⟩)
  case first => exact head?_met_push.trans h.first
  case remaining_iff =>
    intro w
    have hmem : w ∈ met done ((y, next y) :: (x, ys) :: stack) ↔
        w = y ∨ w ∈ met done ((x, y :: ys) :: stack) := met_push_perm.mem_iff.trans List.mem_cons
    rw [mem_without, h.remaining_iff, hmem, not_or, and_assoc, and_comm (a := w ≠ y)]
  case reached =>
    intro w hw
    rcases List.mem_cons.mp (met_push_perm.mem_iff.mp hw) with rfl | hw
    · exact .step (h.reached x hx) hstep hnode
    · exact h.reached w hw
  case earlier =>
    intro w hw hne
    rcases List.mem_cons.mp (met_push_perm.mem_iff.mp hw) with rfl | hw
    · exact ⟨x, hstep, pair_sublist_push⟩
    · obtain ⟨v, hv, hpair⟩ := h.earlier w hw hne
      exact ⟨v, hv, hpair.trans met_sublist_push⟩
  case closed =>
    intro w hw z hz hin
    exact h.closed w hw z hz (mem_without.mp hin).1
  case pending =>
    intro w zs hframe
    rcases List.mem_cons.mp hframe with heq | hframe
    · cases heq
      exact ⟨fun z hz => hz, fun z hz => Or.inl hz⟩
    · rcases List.mem_cons.mp hframe with heq | hframe
      · cases heq
        exact htop.without.tail (by simp)
      · exact (h.pending w zs (List.mem_cons_of_mem _ hframe)).without

/-- The invariant holds to the end of the search, when no node is open. -/
theorem depthFirst (h : Searching next nodes start remaining done stack) :
    ∃ left, Searching next nodes start left (depthFirst next remaining done stack) [] :=
  depthFirst_induction (P := Searching next nodes start) (fun h => h.pop) (fun hy h => h.push hy)
    (fun hy h => h.skip hy) h

end Searching

/-! ### Reverse postorder -/

variable [DecidableEq α]

theorem searching_reversePostorder (hstart : start ∈ nodes) :
    ∃ left, Searching next nodes start left (reversePostorder next nodes start) [] :=
  (Searching.initial hstart).depthFirst

/-- Reverse postorder lists exactly the nodes that can be reached. -/
theorem mem_reversePostorder_iff (hstart : start ∈ nodes) :
    x ∈ reversePostorder next nodes start ↔ Reaches next nodes start x := by
  obtain ⟨left, h⟩ := searching_reversePostorder hstart
  exact h.mem_done_iff

theorem nodup_reversePostorder (hstart : start ∈ nodes) :
    (reversePostorder next nodes start).Nodup := by
  obtain ⟨left, h⟩ := searching_reversePostorder hstart
  exact h.nodup

theorem head?_reversePostorder (hstart : start ∈ nodes) :
    (reversePostorder next nodes start).head? = some start := by
  obtain ⟨left, h⟩ := searching_reversePostorder hstart
  exact h.first

/-- In a list without repetitions, the place of a member tells what stands before what. -/
theorem idxOf_lt_of_pair_sublist {xs : List α} (hnodup : xs.Nodup) (h : [x, y].Sublist xs) :
    xs.idxOf x < xs.idxOf y := by
  induction xs with
  | nil => cases h
  | cons z xs ih =>
      obtain ⟨hz, hnodup⟩ := List.nodup_cons.mp hnodup
      cases h with
      | cons _ h =>
          have hx : z ≠ x := fun heq => hz (heq ▸ h.subset List.mem_cons_self)
          have hy : z ≠ y := fun heq => hz (heq ▸ h.subset (by simp))
          rw [List.idxOf_cons_ne _ hx, List.idxOf_cons_ne _ hy]
          exact Nat.succ_lt_succ (ih hnodup h)
      | cons_cons _ h =>
          have hy : x ≠ y := fun heq => hz (heq ▸ h.subset List.mem_cons_self)
          rw [List.idxOf_cons_self, List.idxOf_cons_ne _ hy]
          exact Nat.succ_pos _

/-- Every node but the start stands behind a node with a step to it. -/
theorem exists_earlier (hstart : start ∈ nodes) (hx : x ∈ reversePostorder next nodes start)
    (hne : x ≠ start) :
    ∃ w ∈ reversePostorder next nodes start, x ∈ next w ∧
      (reversePostorder next nodes start).idxOf w < (reversePostorder next nodes start).idxOf x := by
  obtain ⟨left, h⟩ :
      ∃ left, Searching next nodes start left (reversePostorder next nodes start) [] :=
    searching_reversePostorder hstart
  obtain ⟨w, hw, hpair⟩ := h.earlier x hx hne
  exact ⟨w, hpair.subset List.mem_cons_self, hw, idxOf_lt_of_pair_sublist h.nodup hpair⟩

end TaintFlow.Reach
