/-
Module: TaintFlow.Proofs.Solver.Rounds
Purpose: Solving ends because a round changes nothing. Every operation of a round only adds, and an
  operation that does not show in the size leaves the graph and the map as they are; so does a round. Sizes
  are bounded, hence after finitely many rounds there is one that changes nothing. The solver returns what
  it has then: its limit on the size never ends the loop earlier.
Main exports: Solver.State.Adds, Solver.adds_round, Solver.stateAfter, Solver.solve_terminates
-/
import TaintFlow.Proofs.Solver.Least

namespace TaintFlow

/-! ### Additions to a map -/

/-- One map came out of another by additions: it is not smaller, and if it is not larger, it is the
    same. -/
structure PointsTo.Adds (p q : PointsTo) : Prop where
  size : p.size ≤ q.size
  same : q.size ≤ p.size → q = p

namespace PointsTo.Adds

variable {p q r : PointsTo}

theorem refl (p : PointsTo) : p.Adds p := ⟨Nat.le_refl _, fun _ => rfl⟩

theorem trans (h : p.Adds q) (h' : q.Adds r) : p.Adds r := by
  refine ⟨Nat.le_trans h.size h'.size, ?_⟩
  intro hle
  have hr : r = q := h'.same (Nat.le_trans hle h.size)
  have hq : q = p := h.same (Nat.le_trans h'.size hle)
  rw [hr, hq]

theorem add (p : PointsTo) (l : Location) (os : List AbstractObject) : p.Adds (p.add l os) :=
  ⟨size_le_size_add, add_eq_self⟩

end PointsTo.Adds

namespace Solver

variable {S : Setting} {entries : List Method} {σ τ υ : State} {heap : PointsTo} {n : Node} {i : Nat}
  {inst : Instruction} {result : Option Value} {site : CallSite} {arguments : List Value} {c : Callee}
  {caller callee : NodeId}

theorem adds_addAll {flows : List (Location × List AbstractObject)} : heap.Adds (addAll heap flows) := by
  induction flows generalizing heap with
  | nil => exact .refl heap
  | cons f flows ih =>
      rw [addAll_cons]
      exact (PointsTo.Adds.add heap f.1 f.2).trans ih

theorem adds_passArguments {receiver : Option AbstractObject} {position : Nat} {vs : List Value} :
    heap.Adds (passArguments heap caller callee receiver position vs) := by
  induction vs generalizing heap position with
  | nil => exact .refl heap
  | cons v vs ih =>
      rw [passArguments_cons]
      exact (PointsTo.Adds.add heap _ _).trans ih

theorem adds_handOver : heap.Adds (handOver c heap caller callee arguments) := by
  unfold handOver
  split
  · exact adds_passArguments
  · exact .refl heap

theorem adds_takeBack : heap.Adds (takeBack result heap caller callee) := by
  cases result with
  | none => exact .refl heap
  | some r => exact .add heap _ _

/-! ### Additions to a state -/

/-- One state came out of another by additions: it is not smaller, and if it is not larger, its graph and
    its map are the same. -/
structure State.Adds (σ τ : State) : Prop where
  size : σ.size ≤ τ.size
  same : τ.size ≤ σ.size → τ.graph = σ.graph ∧ τ.heap = σ.heap

namespace State.Adds

theorem refl (σ : State) : σ.Adds σ := ⟨Nat.le_refl _, fun _ => ⟨rfl, rfl⟩⟩

theorem trans (h : σ.Adds τ) (h' : τ.Adds υ) : σ.Adds υ := by
  refine ⟨Nat.le_trans h.size h'.size, ?_⟩
  intro hle
  obtain ⟨hgraph', hheap'⟩ := h'.same (Nat.le_trans hle h.size)
  obtain ⟨hgraph, hheap⟩ := h.same (Nat.le_trans h'.size hle)
  exact ⟨hgraph'.trans hgraph, hheap'.trans hheap⟩

/-- Additions to the graph show in its edges, additions to the map in its size. -/
theorem of_parts (hedges : σ.graph.edges.length ≤ τ.graph.edges.length)
    (hgraph : τ.graph.edges.length ≤ σ.graph.edges.length → τ.graph = σ.graph)
    (hheap : σ.heap.Adds τ.heap) : σ.Adds τ := by
  have hsize := hheap.size
  refine ⟨Nat.add_le_add hedges hsize, ?_⟩
  intro hle
  simp only [State.size] at hle
  exact ⟨hgraph (by omega), hheap.same (by omega)⟩

theorem of_heap (hheap : σ.heap.Adds heap) : σ.Adds { σ with heap } :=
  .of_parts (Nat.le_refl _) (fun _ => rfl) hheap

theorem note (σ : State) (notices : List Notice) : σ.Adds { σ with notices } :=
  ⟨Nat.le_refl _, fun _ => ⟨rfl, rfl⟩⟩

/-- A fold of additions is one. -/
theorem foldl (S : Setting) (entries : List Method) {α : Type} {g : State → α → State} {xs : List α}
    (hsteps : ∀ τ, Steps S entries σ τ → ∀ x ∈ xs, Steps S entries τ (g τ x))
    (hadds : ∀ τ, Steps S entries σ τ → ∀ x ∈ xs, τ.Adds (g τ x)) : σ.Adds (xs.foldl g σ) := by
  induction xs generalizing σ with
  | nil => exact .refl σ
  | cons x xs ih =>
      have hx := hsteps σ .refl x List.mem_cons_self
      refine (hadds σ .refl x List.mem_cons_self).trans (ih ?_ ?_)
      · intro τ hτ y hy
        exact hsteps τ (hx.trans hτ) y (List.mem_cons_of_mem x hy)
      · intro τ hτ y hy
        exact hadds τ (hx.trans hτ) y (List.mem_cons_of_mem x hy)

end State.Adds

/-! ### The operations of a round -/

/-- Linking a call adds to the state: a node that is new comes with an edge. -/
theorem adds_link (hσ : σ.graph.Indexed) : σ.Adds (σ.link S n result site arguments c) := by
  refine .of_parts ?_ ?_ ?_
  · rw [link_graph]
    refine Nat.le_trans ?_ length_addEdge_le
    rw [CallGraph.intern_edges]
  · intro hle
    rw [link_graph] at hle ⊢
    have he : (⟨n.id, site, (σ.graph.intern c.method
        (S.activation n.activation site c).context).2⟩ : Edge) ∈ σ.graph.edges := by
      rw [← CallGraph.intern_edges]
      apply mem_of_length_addEdge_le
      rwa [CallGraph.intern_edges]
    rw [intern_eq_of_edge hσ he, CallGraph.addEdge, if_pos (List.contains_iff_mem.mpr he)]
  · rw [link_heap]
    exact adds_handOver.trans adds_takeBack

theorem adds_execute (hσ : σ.Coherent S entries) (hn : n ∈ σ.graph.nodes)
    (hbody : n.method.hasBody = true) (hi : n.method.code[i]? = some inst) :
    σ.Adds (σ.execute S n i inst) := by
  cases inst with
  | invoke result site arguments =>
      obtain ⟨notices, heq⟩ := execute_invoke (S := S) (n := n) (i := i)
      rw [heq]
      have hsteps : ∀ τ, Steps S entries { σ with notices } τ → Steps S entries σ τ :=
        fun τ hτ => .head (.note notices) hτ
      refine (State.Adds.note σ notices).trans (.foldl S entries ?_ ?_)
      · intro τ hτ c hc
        exact steps_link_of_mem hσ hn hbody hi hc (hsteps τ hτ)
      · intro τ hτ c _
        exact adds_link (Steps.coherent hσ (hsteps τ hτ)).indexed
  | _ => exact .of_heap adds_addAll

theorem adds_visit (hσ : σ.Coherent S entries) (hn : n ∈ σ.graph.nodes) : σ.Adds (σ.visit S n) := by
  unfold State.visit
  split
  · next hbody =>
      refine .foldl S entries ?_ ?_
      · intro τ hτ p hp
        exact steps_execute_of_mem hσ hn hbody hp hτ
      · intro τ hτ p hp
        exact adds_execute (Steps.coherent hσ hτ) ((Steps.grows hσ hτ).below.nodes n hn) hbody
          (mem_zipIdx_code.mp hp)
  · split
    · split
      · exact .of_heap (.add σ.heap _ _)
      · exact .refl σ
    · exact .refl σ

/-- A round adds to the state. -/
theorem adds_round (hσ : σ.Coherent S entries) : σ.Adds (σ.round S) := by
  refine .foldl S entries ?_ ?_
  · intro τ hτ n hn
    exact steps_visit_of_mem hσ hn hτ
  · intro τ hτ n hn
    exact adds_visit (Steps.coherent hσ hτ) ((Steps.grows hσ hτ).below.nodes n hn)

/-! ### The loop -/

/-- The state after some rounds, whatever they add. -/
def stateAfter (S : Setting) (entries : List Method) : Nat → State
  | 0 => initial entries
  | k + 1 => (stateAfter S entries k).round S

theorem run_stateAfter (k : Nat) : Run S (initial entries) (stateAfter S entries k) := by
  induction k with
  | zero => exact .refl
  | succ k ih => exact ih.trans (run_round ih.coherent)

/-- While rounds add something, there are at least as many facts as there were rounds. -/
theorem le_size_stateAfter {k : Nat}
    (h : ∀ j < k, (stateAfter S entries j).size < (stateAfter S entries (j + 1)).size) :
    k ≤ (stateAfter S entries k).size := by
  induction k with
  | zero => exact Nat.zero_le _
  | succ k ih =>
      have hprevious := ih fun j hj => h j (Nat.lt_succ_of_lt hj)
      have hlast := h k (Nat.lt_succ_self k)
      omega

/-- The loop goes on while rounds add something and ends with the first one that does not. -/
theorem saturate_stateAfter (S : Setting) (entries : List Method) (j : Nat) : ∃ k, j ≤ k ∧
    (∀ i, j ≤ i → i < k → (stateAfter S entries i).size < (stateAfter S entries (i + 1)).size) ∧
    (stateAfter S entries (k + 1)).size ≤ (stateAfter S entries k).size ∧
    saturate S (sizeLimit (S.methods entries)) (stateAfter S entries j) j =
      { graph := (stateAfter S entries (k + 1)).graph
        heap := (stateAfter S entries (k + 1)).heap
        rounds := k + 1
        notices := (stateAfter S entries (k + 1)).notices } := by
  generalize hstate : stateAfter S entries j = σ
  fun_induction saturate S (sizeLimit (S.methods entries)) σ j with
  | case1 σ j next hcond ih =>
      subst hstate
      obtain ⟨k, hjk, hgrows, hlast, heq⟩ := ih rfl
      refine ⟨k, by omega, ?_, hlast, heq⟩
      intro i hji hik
      rcases Nat.eq_or_lt_of_le hji with rfl | hji
      · exact hcond.1
      · exact hgrows i hji hik
  | case2 σ j next hcond =>
      subst hstate
      -- no state is larger than the limit, so a state that has reached it does not grow
      have hbound : next.size ≤ _ := Run.size_le_sizeLimit (run_stateAfter (j + 1))
      have hlast : next.size ≤ (stateAfter S entries j).size := by omega
      exact ⟨j, Nat.le_refl j, fun i hji hij => absurd hij (Nat.not_lt.mpr hji), hlast, rfl⟩

/-- Solving terminates, for all programs, exclusions, entrypoints and algorithms. Round after round, the
    graph or the map grows until a round leaves both as they are; there are no more rounds before it than
    the limit on the size. The solver returns that graph and that map, having made that round last. -/
theorem solve_terminates (S : Setting) (entries : List Method) :
    ∃ k ≤ sizeLimit (S.methods entries),
      (∀ j < k, (stateAfter S entries j).size < (stateAfter S entries (j + 1)).size) ∧
      (stateAfter S entries (k + 1)).graph = (stateAfter S entries k).graph ∧
      (stateAfter S entries (k + 1)).heap = (stateAfter S entries k).heap ∧
      solve S entries =
        { graph := (stateAfter S entries k).graph
          heap := (stateAfter S entries k).heap
          rounds := k + 1
          notices := (stateAfter S entries (k + 1)).notices } := by
  obtain ⟨k, _, hgrows, hlast, heq⟩ := saturate_stateAfter S entries 0
  have hrun : Run S (initial entries) (stateAfter S entries k) := run_stateAfter k
  have hgrowing : ∀ j < k, (stateAfter S entries j).size < (stateAfter S entries (j + 1)).size :=
    fun j hj => hgrows j (Nat.zero_le j) hj
  obtain ⟨hgraph, hheap⟩ := (adds_round hrun.coherent).same hlast
  refine ⟨k, Nat.le_trans (le_size_stateAfter hgrowing) hrun.size_le_sizeLimit, hgrowing, hgraph,
    hheap, ?_⟩
  rw [← hgraph, ← hheap]
  exact heq

end Solver

end TaintFlow
