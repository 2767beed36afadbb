/-
Module: TaintFlow.Proofs.DepthFirst
Purpose: The order in which depth-first search finishes. The open nodes of the stack are a path, so each leads
  to all that are open above it. When a node is finished, a neighbour of it is either still open, and then
  there is a way back, or finished before, and then it stands behind the node in reverse postorder. The
  search is also followed turn by turn, with the nodes visited so far instead of those that remain: on a
  finite graph it comes to an end, with the same order.
Main exports: Reach.Leads, Reach.Ordered, Reach.idxOf_lt_of_edge, Reach.Traversal, Reach.Traversal.turn,
  Reach.turns_reversePostorder, Reach.reversePostorder_exact
-/
import Mathlib.Logic.Relation
import TaintFlow.Proofs.ReversePostorder

namespace TaintFlow.Reach

open Relation (ReflTransGen)

variable {α : Type} {next : α → List α} {nodes remaining done : List α} {start x y : α}
  {ys : List α} {stack : List (α × List α)}

/-- There is a path from one node to another. -/
def Leads (next : α → List α) : α → α → Prop := ReflTransGen fun a b => b ∈ next a

/-- Where no step leads out of the nodes of a graph, paths stay inside. -/
theorem reaches_iff_leads (hx : x ∈ nodes) (hnext : ∀ a ∈ nodes, ∀ b ∈ next a, b ∈ nodes) :
    Reaches next nodes x y ↔ Leads next x y := by
  constructor
  · intro hpath
    induction hpath with
    | refl _ => exact .refl
    | step _ hstep _ ih => exact .tail ih hstep
  · intro hpath
    induction hpath with
    | refl => exact .refl hx
    | tail _ hstep ih => exact .step ih hstep (hnext _ ih.end_mem _ hstep)

/-- On a finite graph a neighbour that does not remain was met. -/
theorem Searching.met_of_not_remaining (hnext : ∀ a ∈ nodes, ∀ b ∈ next a, b ∈ nodes)
    (h : Searching next nodes start remaining done ((x, y :: ys) :: stack)) (hy : y ∉ remaining) :
    y ∈ met done ((x, y :: ys) :: stack) := by
  have hx : x ∈ met done ((x, y :: ys) :: stack) := met_push_perm.mem_iff.mpr List.mem_cons_self
  have hstep : y ∈ next x := (h.pending _ _ List.mem_cons_self).1 y List.mem_cons_self
  have hnode : y ∈ nodes := hnext x (h.reached x hx).end_mem y hstep
  rw [h.remaining_iff] at hy
  exact Classical.not_not.mp fun hnew => hy ⟨hnode, hnew⟩

/-! ### The order of finishing -/

/-- What holds of the order while a search runs. -/
structure Ordered (next : α → List α) (done : List α) (stack : List (α × List α)) : Prop where
  /-- Each open node leads to those above it. -/
  path : (stack.map Prod.fst).Pairwise fun above below => Leads next below above
  /-- A step from a node that is done leads to a node behind it, or there is a way back. -/
  ahead : ∀ u ∈ done, ∀ v ∈ next u, v ∈ met done stack →
    Leads next v u ∨ [u, v].Sublist (met done stack)

namespace Ordered

theorem initial : Ordered next [] [(start, ys)] where
  path := List.pairwise_singleton _ _
  ahead := by simp

/-- The neighbours of a node that is done are open below it, or done before it. -/
theorem pop (h : Ordered next done ((x, []) :: stack)) : Ordered next (x :: done) stack := by
  have hpath := List.pairwise_cons.mp h.path
  constructor
  case path => exact hpath.2
  case ahead =>
    intro u hu v hv hmet
    rcases List.mem_cons.mp hu with rfl | hu
    · -- the node itself: its neighbours have all been met, so only where they stand is open
      rw [met, List.mem_append, List.mem_reverse, List.mem_cons] at hmet
      rcases hmet with hopen | rfl | hdone
      · exact Or.inl (hpath.1 v hopen)
      · exact Or.inl .refl
      · right
        apply List.Sublist.trans _ (List.sublist_append_right _ _)
        exact (List.singleton_sublist.mpr hdone).cons_cons u
    · have hsame : met (x :: done) stack = met done ((x, []) :: stack) := met_pop.symm
      rw [hsame] at hmet ⊢
      exact h.ahead u hu v hv hmet

theorem skip (h : Ordered next done ((x, y :: ys) :: stack)) : Ordered next done ((x, ys) :: stack) :=
  ⟨h.path, h.ahead⟩

/-- A node that is opened is led to by all open ones, and no node that is done has a step to it. -/
theorem push (hs : Searching next nodes start remaining done ((x, y :: ys) :: stack))
    (h : Ordered next done ((x, y :: ys) :: stack)) (hy : y ∈ remaining) :
    Ordered next done ((y, next y) :: (x, ys) :: stack) := by
  have hpath := List.pairwise_cons.mp h.path
  have hstep : y ∈ next x := (hs.pending _ _ List.mem_cons_self).1 y List.mem_cons_self
  constructor
  case path =>
    apply List.pairwise_cons.mpr
    refine ⟨?_, h.path⟩
    intro z hz
    rcases List.mem_cons.mp hz with rfl | hz
    · exact .single hstep
    · exact .tail (hpath.1 z hz) hstep
  case ahead =>
    intro u hu v hv hmet
    rcases List.mem_cons.mp (met_push_perm.mem_iff.mp hmet) with rfl | hmet
    · -- a node that remains is no neighbour of one that is done
      exact absurd hy (hs.closed u hu v hv)
    · rcases h.ahead u hu v hv hmet with hback | hpair
      · exact Or.inl hback
      · exact Or.inr (hpair.trans met_sublist_push)

end Ordered

variable [DecidableEq α]

/-- What holds when a search begins and is kept by each of its steps, given the invariant, holds of reverse
    postorder. -/
theorem reversePostorder_induction {Q : List α → List (α × List α) → Prop} (hstart : start ∈ nodes)
    (hinitial : Q [] [(start, next start)])
    (hpop : ∀ {done x stack}, Q done ((x, []) :: stack) → Q (x :: done) stack)
    (hpush : ∀ {remaining done x y ys stack},
      Searching next nodes start remaining done ((x, y :: ys) :: stack) → y ∈ remaining →
        Q done ((x, y :: ys) :: stack) → Q done ((y, next y) :: (x, ys) :: stack))
    (hskip : ∀ {remaining done x y ys stack},
      Searching next nodes start remaining done ((x, y :: ys) :: stack) → y ∉ remaining →
        Q done ((x, y :: ys) :: stack) → Q done ((x, ys) :: stack)) :
    Q (reversePostorder next nodes start) [] := by
  obtain ⟨left, _, h⟩ : ∃ left,
      Searching next nodes start left (reversePostorder next nodes start) [] ∧
        Q (reversePostorder next nodes start) [] :=
    depthFirst_induction
      (P := fun remaining done stack =>
        Searching next nodes start remaining done stack ∧ Q done stack)
      (fun h => ⟨h.1.pop, hpop h.2⟩) (fun hy h => ⟨h.1.push hy, hpush h.1 hy h.2⟩)
      (fun hy h => ⟨h.1.skip hy, hskip h.1 hy h.2⟩) ⟨Searching.initial hstart, hinitial⟩
  exact h

theorem ordered_reversePostorder (hstart : start ∈ nodes) :
    Ordered next (reversePostorder next nodes start) [] :=
  reversePostorder_induction hstart .initial (fun h => h.pop) (fun hs hy h => h.push hs hy)
    (fun _ _ h => h.skip)

/-- Along a step from which there is no way back, the order goes forward. -/
theorem idxOf_lt_of_edge (hstart : start ∈ nodes) {u v : α}
    (hu : u ∈ reversePostorder next nodes start) (hv : v ∈ reversePostorder next nodes start)
    (hstep : v ∈ next u) (hback : ¬ Leads next v u) :
    (reversePostorder next nodes start).idxOf u < (reversePostorder next nodes start).idxOf v := by
  rcases (ordered_reversePostorder hstart).ahead u hu v hstep hv with hleads | hpair
  · exact absurd hleads hback
  · exact idxOf_lt_of_pair_sublist (nodup_reversePostorder hstart) hpair

/-! ### Turns -/

/-- A search underway: the nodes visited so far, those that are finished, in the order of finishing, and the
    stack, with the neighbours not yet tried of each open node. -/
structure Traversal (α : Type) where
  visited : List α
  finished : List α
  stack : List (α × List α)
deriving DecidableEq, Repr, Inhabited

namespace Traversal

/-- A search begins with its start visited and open. -/
def initial (next : α → List α) (start : α) : Traversal α :=
  { visited := [start], finished := [], stack := [(start, next start)] }

/-- One turn tries the next neighbour of the node on top of the stack. One that was visited is passed over; any
    other is visited and goes on top. A node without further neighbours is finished. -/
def turn (next : α → List α) (t : Traversal α) : Traversal α :=
  match t.stack with
  | [] => t
  | (x, []) :: stack => { t with finished := t.finished ++ [x], stack }
  | (x, y :: ys) :: stack =>
      if y ∈ t.visited then { t with stack := (x, ys) :: stack }
      else { t with visited := y :: t.visited, stack := (y, next y) :: (x, ys) :: stack }

section

variable {visited finished : List α}

theorem turn_finish :
    turn next ⟨visited, finished, (x, []) :: stack⟩ = ⟨visited, finished ++ [x], stack⟩ := rfl

theorem turn_skip (hy : y ∈ visited) :
    turn next ⟨visited, finished, (x, y :: ys) :: stack⟩ = ⟨visited, finished, (x, ys) :: stack⟩ :=
  if_pos hy

theorem turn_visit (hy : y ∉ visited) :
    turn next ⟨visited, finished, (x, y :: ys) :: stack⟩ =
      ⟨y :: visited, finished, (y, next y) :: (x, ys) :: stack⟩ :=
  if_neg hy

end

/-- A number of turns. -/
def turns (next : α → List α) : Nat → Traversal α → Traversal α
  | 0, t => t
  | k + 1, t => turn next (turns next k t)

end Traversal

/-- After some turns a search has come to the given nodes that are done and to the given stack, and it has
    visited what was met. -/
def Arrived (next : α → List α) (start : α) (done : List α) (stack : List (α × List α)) : Prop :=
  ∃ k visited, Traversal.turns next k (.initial next start) = ⟨visited, done.reverse, stack⟩ ∧
    ∀ x, x ∈ visited ↔ x ∈ met done stack

namespace Arrived

theorem initial : Arrived next start [] [(start, next start)] :=
  ⟨0, [start], rfl, by simp [met]⟩

theorem pop (h : Arrived next start done ((x, []) :: stack)) : Arrived next start (x :: done) stack := by
  obtain ⟨k, visited, hturns, hvisited⟩ := h
  refine ⟨k + 1, visited, ?_, fun y => (hvisited y).trans (by rw [met_pop])⟩
  rw [Traversal.turns, hturns, Traversal.turn_finish, List.reverse_cons]

theorem skip (h : Arrived next start done ((x, y :: ys) :: stack))
    (hy : y ∈ met done ((x, y :: ys) :: stack)) : Arrived next start done ((x, ys) :: stack) := by
  obtain ⟨k, visited, hturns, hvisited⟩ := h
  refine ⟨k + 1, visited, ?_, hvisited⟩
  rw [Traversal.turns, hturns, Traversal.turn_skip ((hvisited y).mpr hy)]

theorem push (h : Arrived next start done ((x, y :: ys) :: stack))
    (hy : y ∉ met done ((x, y :: ys) :: stack)) :
    Arrived next start done ((y, next y) :: (x, ys) :: stack) := by
  obtain ⟨k, visited, hturns, hvisited⟩ := h
  have hnew : y ∉ visited := fun hmem => hy ((hvisited y).mp hmem)
  refine ⟨k + 1, y :: visited, ?_, ?_⟩
  · rw [Traversal.turns, hturns, Traversal.turn_visit hnew]
  · intro z
    have hmet : z ∈ met done ((y, next y) :: (x, ys) :: stack) ↔
        z = y ∨ z ∈ met done ((x, y :: ys) :: stack) := met_push_perm.mem_iff.trans List.mem_cons
    rw [hmet, List.mem_cons, hvisited]

end Arrived

/-- On a finite graph the search ends after some number of turns, and what it has finished then is the
    postorder. -/
theorem turns_reversePostorder (hstart : start ∈ nodes)
    (hnext : ∀ a ∈ nodes, ∀ b ∈ next a, b ∈ nodes) :
    ∃ k visited, Traversal.turns next k (.initial next start) =
      ⟨visited, (reversePostorder next nodes start).reverse, []⟩ := by
  have harrived : Arrived next start (reversePostorder next nodes start) [] :=
    reversePostorder_induction hstart .initial (fun h => h.pop)
      (fun hs hy h => h.push ((hs.remaining_iff _).mp hy).2)
      (fun hs hy h => h.skip (hs.met_of_not_remaining hnext hy))
  obtain ⟨k, visited, hturns, _⟩ := harrived
  exact ⟨k, visited, hturns⟩

/-! ### Reverse postorder -/

/-- On every finite graph depth-first search comes to an end, and the nodes in reverse order of finishing begin
    with the start, are those that can be reached, each once, and stand behind a node with a step to them. Along a
    step from which there is no way back, the order goes forward. -/
theorem reversePostorder_exact (next : α → List α) (nodes : List α) (start : α) (hstart : start ∈ nodes)
    (hnext : ∀ a ∈ nodes, ∀ b ∈ next a, b ∈ nodes) :
    let order := reversePostorder next nodes start
    (∃ k visited, Traversal.turns next k (.initial next start) = ⟨visited, order.reverse, []⟩) ∧
      order.head? = some start ∧ order.Nodup ∧ (∀ x, x ∈ order ↔ Leads next start x) ∧
      (∀ x ∈ order, x ≠ start → ∃ w ∈ order, x ∈ next w ∧ order.idxOf w < order.idxOf x) ∧
      ∀ u ∈ order, ∀ v ∈ order, v ∈ next u → ¬ Leads next v u → order.idxOf u < order.idxOf v := by
  intro order
  refine ⟨turns_reversePostorder hstart hnext, head?_reversePostorder hstart,
    nodup_reversePostorder hstart, ?_, ?_, ?_⟩
  · intro x
    exact (mem_reversePostorder_iff hstart).trans (reaches_iff_leads hstart hnext)
  · intro x hx hne
    exact exists_earlier hstart hx hne
  · intro u hu v hv hstep hback
    exact idxOf_lt_of_edge hstart hu hv hstep hback

namespace Cyclic

/-- A graph with a repeated edge, a loop, and the cycle of `1` and `3`. -/
def edges : Nat → List Nat
  | 0 => [1, 1, 2]
  | 1 => [3, 1]
  | 2 => [3]
  | 3 => [1]
  | _ => []

theorem order_eq : reversePostorder edges [0, 1, 2, 3] 0 = [0, 2, 1, 3] := by
  cbv

/-- There is no way out of the cycle. -/
theorem stays {x : Nat} (h : Leads edges 3 x) : x = 1 ∨ x = 3 := by
  induction h with
  | refl => exact Or.inr rfl
  | tail _ hstep ih =>
      rcases ih with rfl | rfl
      · simpa [edges, or_comm] using hstep
      · simpa [edges] using Or.inl hstep

end Cyclic

theorem reversePostorder_exact_cyclic :
    ([0, 2, 1, 3] : List Nat).idxOf 2 < ([0, 2, 1, 3] : List Nat).idxOf 3 ∧
      ∀ x, x ∈ ([0, 2, 1, 3] : List Nat) ↔ Leads Cyclic.edges 0 x := by
  have hexact := reversePostorder_exact Cyclic.edges [0, 1, 2, 3] 0 (by decide) (by decide)
  rw [Cyclic.order_eq] at hexact
  obtain ⟨_, _, _, hreached, _, hforward⟩ := hexact
  have hback : ¬ Leads Cyclic.edges 3 2 := by
    intro hleads
    rcases Cyclic.stays hleads with h | h <;> cases h
  exact ⟨hforward 2 (by decide) 3 (by decide) (by decide) hback, hreached⟩

end TaintFlow.Reach
