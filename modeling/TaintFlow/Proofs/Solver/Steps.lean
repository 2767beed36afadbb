/-
Module: TaintFlow.Proofs.Solver.Steps
Purpose: The elementary steps by which a state grows: objects are entered at a location, a call is linked
  to an activation, the objects of a location are listed in another order. Each addition has to follow by
  the rules from the facts of the state. What a step does is said once here; that states stay coherent,
  stay inside every closed set of facts and grow in size when they grow at all is proved for one step and
  then, by induction, for any number of steps.
Main exports: Solver.State.Coherent, Solver.Step, Solver.Steps, Solver.Steps.coherent,
  Solver.Steps.facts_subset, Solver.Steps.grows
-/
import Mathlib.Logic.Relation
import TaintFlow.Proofs.PointsTo
import TaintFlow.Proofs.Solver.Constraints

namespace TaintFlow.Solver

variable {S : Setting} {entries : List Method} {σ τ υ : State} {Y : Set Fact}

/-- The facts of a state. -/
def State.facts (σ : State) : Set Fact := Solver.facts σ.graph σ.heap

/-- What holds of every state on the way: the graph is made over the methods at hand, facts are listed
    once, and a location that holds something has a name. -/
structure State.Coherent (S : Setting) (entries : List Method) (σ : State) : Prop where
  graph : σ.graph.Built (· ∈ S.methods entries)
  heap : σ.heap.Distinct
  named : ∀ {l o}, o ∈ σ.heap.get l → ∃ p, σ.graph.Names l p

/-- One elementary step. -/
inductive Step (S : Setting) (entries : List Method) (σ : State) : State → Prop where
  | hold {l : Location} {p : Place} {os : List AbstractObject} : σ.graph.Names l p →
      (∀ o ∈ os, Rule S entries σ.facts (.holds p o)) →
      Step S entries σ { σ with heap := σ.heap.add l os }
  | link {n : Node} {m : Method} {c : Context} {site : CallSite} : n ∈ σ.graph.nodes →
      m ∈ S.methods entries → Rule S entries σ.facts (.node ⟨m.signature, c⟩) →
      Rule S entries σ.facts (.edge n.activation site ⟨m.signature, c⟩) →
      Step S entries σ { σ with
        graph := (σ.graph.intern m c).1.addEdge ⟨n.id, site, (σ.graph.intern m c).2⟩ }
  | note (notices : List Notice) : Step S entries σ { σ with notices }
  | reorder {heap : PointsTo} : σ.heap.Reordered heap → Step S entries σ { σ with heap }

/-- Any number of elementary steps. -/
abbrev Steps (S : Setting) (entries : List Method) : State → State → Prop :=
  Relation.ReflTransGen (Step S entries)

/-! ### Coherence -/

namespace State.Coherent

/-- The graph of a coherent state is indexed. -/
theorem indexed (h : σ.Coherent S entries) : σ.graph.Indexed := h.graph.indexed

/-- A known activation of a coherent state is an activation of its node's method. -/
theorem active (h : σ.Coherent S entries) {n : Node} (hn : n ∈ σ.graph.nodes) :
    Active S entries σ.facts n.activation n.method :=
  ⟨.node hn, h.graph.method n hn, rfl⟩

theorem mono_entries {entries' : List Method} (hsub : ∀ m ∈ entries, m ∈ entries')
    (h : σ.Coherent S entries) : σ.Coherent S entries' :=
  ⟨h.graph.mono fun _ hm => mem_methods_of_subset hsub hm, h.heap, h.named⟩

theorem empty : Coherent S entries {} where
  graph := .empty
  heap := PointsTo.distinct_empty
  named := by
    intro l o ho
    simp [PointsTo.get] at ho

/-- A larger graph over the same map is coherent too. -/
theorem extend (h : σ.Coherent S entries) {g : CallGraph} (hg : g.Built (· ∈ S.methods entries))
    (hnodes : ∀ n ∈ σ.graph.nodes, n ∈ g.nodes) :
    State.Coherent S entries { σ with graph := g } where
  graph := hg
  heap := h.heap
  named ho := (h.named ho).imp fun _ hl => hl.mono hnodes

/-- In a larger graph an edge still joins the nodes that it joined. -/
theorem edge_of_extend (h : σ.Coherent S entries) {g : CallGraph} (hg : g.Indexed)
    (hnodes : ∀ n ∈ σ.graph.nodes, n ∈ g.nodes) {a b : Node} {site : CallSite} (ha : a ∈ g.nodes)
    (hb : b ∈ g.nodes) (he : ⟨a.id, site, b.id⟩ ∈ σ.graph.edges) :
    .edge a.activation site b.activation ∈ σ.facts := by
  obtain ⟨a', ha', hida⟩ := h.indexed.caller _ he
  obtain ⟨b', hb', hidb⟩ := h.indexed.callee _ he
  have haa := hg.eq_of_id_eq ha (hnodes a' ha') hida.symm
  have hbb := hg.eq_of_id_eq hb (hnodes b' hb') hidb.symm
  subst haa hbb
  exact .edge ha' hb' he

/-- A larger graph adds no points-to facts: no location of a new node holds anything yet. -/
theorem holds_of_extend (h : σ.Coherent S entries) {g : CallGraph} (hg : g.Indexed)
    (hnodes : ∀ n ∈ σ.graph.nodes, n ∈ g.nodes) {l : Location} {p : Place} {o : AbstractObject}
    (hl : g.Names l p) (ho : o ∈ σ.heap.get l) : .holds p o ∈ σ.facts := by
  obtain ⟨p', hl'⟩ := h.named ho
  have heq : p = p' := hl.eq_place hg (hl'.mono hnodes)
  rw [heq]
  exact .holds hl' ho

end State.Coherent

/-- The graph after a call is linked. -/
theorem built_link {g : CallGraph} {P : Method → Prop} (hg : g.Built P) {n : Node}
    (hn : n ∈ g.nodes) {m : Method} (hm : P m) (c : Context) (site : CallSite) :
    ((g.intern m c).1.addEdge ⟨n.id, site, (g.intern m c).2⟩).Built P := by
  obtain ⟨b, hb, hid, _⟩ := g.exists_interned m c
  rw [← hid]
  exact .addEdge site (.intern c hg hm) (CallGraph.mem_intern_of_mem hn) hb

/-- A step keeps a state coherent. -/
theorem Step.coherent (hσ : σ.Coherent S entries) (h : Step S entries σ τ) :
    τ.Coherent S entries := by
  cases h with
  | hold hl _ =>
      refine ⟨hσ.graph, hσ.heap.add, ?_⟩
      intro l' o ho
      rcases PointsTo.mem_get_add.mp ho with ho | ⟨rfl, _⟩
      · exact hσ.named ho
      · exact ⟨_, hl⟩
  | link hn hm _ _ =>
      refine hσ.extend (built_link hσ.graph hn hm _ _) ?_
      intro k hk
      rw [CallGraph.addEdge_nodes]
      exact CallGraph.mem_intern_of_mem hk
  | note notices => exact ⟨hσ.graph, hσ.heap, hσ.named⟩
  | reorder hheap =>
      refine ⟨hσ.graph, hheap.distinct hσ.heap, ?_⟩
      intro l o ho
      exact hσ.named (hheap.mem_get.mpr ho)

theorem Steps.coherent (hσ : σ.Coherent S entries) (h : Steps S entries σ τ) :
    τ.Coherent S entries := by
  induction h with
  | refl => exact hσ
  | tail _ hstep ih => exact hstep.coherent ih

/-! ### Soundness -/

/-- A step leads out of no closed set of facts. -/
theorem Step.facts_subset (hσ : σ.Coherent S entries) (hY : Closed S entries Y) (hsub : σ.facts ⊆ Y)
    (h : Step S entries σ τ) : τ.facts ⊆ Y := by
  have hrule : ∀ {f}, Rule S entries σ.facts f → f ∈ Y := fun hf => hY _ (hf.mono hsub)
  intro f hf
  cases h with
  | @hold l p os hl hos =>
      cases hf with
      | node hn => exact hsub (.node hn)
      | edge ha hb he => exact hsub (.edge ha hb he)
      | holds hl' ho =>
          rcases PointsTo.mem_get_add.mp ho with hold | ⟨rfl, hnew⟩
          · exact hsub (.holds hl' hold)
          · rw [hl'.eq_place hσ.indexed hl]
            exact hrule (hos _ hnew)
  | @link n m c site hn hm hnode hedge =>
      have hindexed := (built_link hσ.graph hn hm c site).indexed
      have hkeep : ∀ k ∈ σ.graph.nodes,
          k ∈ ((σ.graph.intern m c).1.addEdge ⟨n.id, site, (σ.graph.intern m c).2⟩).nodes := by
        intro k hk
        rw [CallGraph.addEdge_nodes]
        exact CallGraph.mem_intern_of_mem hk
      cases hf with
      | node hk =>
          rw [CallGraph.addEdge_nodes] at hk
          rcases CallGraph.mem_intern hk with hk | ⟨rfl, _⟩
          · exact hsub (.node hk)
          · exact hrule hnode
      | edge ha hb he =>
          rcases CallGraph.mem_addEdge.mp he with he | heq
          · rw [CallGraph.intern_edges] at he
            exact hsub (hσ.edge_of_extend hindexed hkeep ha hb he)
          · injection heq with hcaller hsite hcallee
            obtain ⟨b', hb', hid, hname⟩ := σ.graph.exists_interned m c
            have han := hindexed.eq_of_id_eq ha (hkeep _ hn) hcaller
            have hbb := hindexed.eq_of_id_eq hb (by simpa using hb') (hcallee.trans hid.symm)
            rw [han, hbb, hname, hsite]
            exact hrule hedge
      | holds hl ho => exact hsub (hσ.holds_of_extend hindexed hkeep hl ho)
  | note notices => exact hsub hf
  | reorder hheap =>
      cases hf with
      | node hn => exact hsub (.node hn)
      | edge ha hb he => exact hsub (.edge ha hb he)
      | holds hl ho => exact hsub (.holds hl (hheap.mem_get.mpr ho))

theorem Steps.facts_subset (hσ : σ.Coherent S entries) (hY : Closed S entries Y)
    (hsub : σ.facts ⊆ Y) (h : Steps S entries σ τ) : τ.facts ⊆ Y := by
  induction h with
  | refl => exact hsub
  | tail hsteps hstep ih => exact hstep.facts_subset (Steps.coherent hσ hsteps) hY ih

/-! ### Growth -/

/-- One state has all that another has. -/
structure State.Below (σ τ : State) : Prop where
  nodes : ∀ n ∈ σ.graph.nodes, n ∈ τ.graph.nodes
  edges : ∀ e ∈ σ.graph.edges, e ∈ τ.graph.edges
  heap : ∀ {l o}, o ∈ σ.heap.get l → o ∈ τ.heap.get l

namespace State.Below

theorem refl (σ : State) : σ.Below σ := ⟨fun _ h => h, fun _ h => h, fun h => h⟩

theorem trans (h : σ.Below τ) (h' : τ.Below υ) : σ.Below υ :=
  ⟨fun n hn => h'.nodes n (h.nodes n hn), fun e he => h'.edges e (h.edges e he),
    fun ho => h'.heap (h.heap ho)⟩

theorem facts_subset (h : σ.Below τ) : σ.facts ⊆ τ.facts := by
  intro f hf
  cases hf with
  | node hn => exact .node (h.nodes _ hn)
  | edge ha hb he => exact .edge (h.nodes _ ha) (h.nodes _ hb) (h.edges _ he)
  | holds hl ho => exact .holds (hl.mono h.nodes) (h.heap ho)

end State.Below

/-- One state came out of another by adding to it, and if it is not larger, nothing was added. -/
structure State.Grows (σ τ : State) : Prop where
  below : σ.Below τ
  size : σ.size ≤ τ.size
  same : τ.size ≤ σ.size → τ.Below σ

namespace State.Grows

theorem refl (σ : State) : σ.Grows σ := ⟨.refl σ, Nat.le_refl _, fun _ => .refl σ⟩

theorem trans (h : σ.Grows τ) (h' : τ.Grows υ) : σ.Grows υ where
  below := h.below.trans h'.below
  size := Nat.le_trans h.size h'.size
  same hle := (h'.same (Nat.le_trans hle h.size)).trans (h.same (Nat.le_trans h'.size hle))

end State.Grows

theorem length_addEdge_le {g : CallGraph} {e : Edge} :
    g.edges.length ≤ (g.addEdge e).edges.length := by
  unfold CallGraph.addEdge
  split <;> simp

/-- If entering an edge adds none, it was there. -/
theorem mem_of_length_addEdge_le {g : CallGraph} {e : Edge}
    (h : (g.addEdge e).edges.length ≤ g.edges.length) : e ∈ g.edges := by
  unfold CallGraph.addEdge at h
  split at h
  · next hmem => exact List.contains_iff_mem.mp hmem
  · rw [List.length_append, List.length_singleton] at h
    omega

/-- A new activation comes with a new edge, so linking a call is seen in the number of edges. -/
theorem intern_eq_of_edge {g : CallGraph} (hg : g.Indexed) {m : Method} {c : Context} {id : NodeId}
    {site : CallSite} (he : (⟨id, site, (g.intern m c).2⟩ : Edge) ∈ g.edges) :
    (g.intern m c).1 = g := by
  rcases g.intern_cases m c with ⟨_, _, _, heq⟩ | ⟨_, heq⟩
  · rw [heq]
  · rw [heq] at he
    obtain ⟨k, hk, hid⟩ := hg.callee _ he
    exact absurd hid (Nat.ne_of_lt (hg.id_lt hk))

/-- A step adds to a state, and shows in its size if it adds anything. -/
theorem Step.grows (hσ : σ.Coherent S entries) (h : Step S entries σ τ) : σ.Grows τ := by
  cases h with
  | @hold l p os hl hos =>
      have hsize : σ.heap.size ≤ (σ.heap.add l os).size := PointsTo.size_le_size_add
      refine ⟨⟨fun _ hn => hn, fun _ he => he, PointsTo.mem_get_add_of_mem⟩, ?_, ?_⟩
      · simp only [State.size]
        omega
      · intro hle
        simp only [State.size] at hle
        refine ⟨fun _ hn => hn, fun _ he => he, ?_⟩
        intro l' o ho
        rcases PointsTo.mem_get_add.mp ho with hold | ⟨rfl, hnew⟩
        · exact hold
        · exact PointsTo.mem_get_of_size_add_le (by omega) hnew
  | @link n m c site hn hm hnode hedge =>
      have hlength := length_addEdge_le (g := (σ.graph.intern m c).1)
        (e := ⟨n.id, site, (σ.graph.intern m c).2⟩)
      rw [CallGraph.intern_edges] at hlength
      refine ⟨⟨?_, ?_, fun ho => ho⟩, ?_, ?_⟩
      · intro k hk
        rw [CallGraph.addEdge_nodes]
        exact CallGraph.mem_intern_of_mem hk
      · intro e he
        exact CallGraph.mem_addEdge.mpr (Or.inl (by rwa [CallGraph.intern_edges]))
      · simp only [State.size]
        omega
      · intro hle
        simp only [State.size] at hle
        have he : (⟨n.id, site, (σ.graph.intern m c).2⟩ : Edge) ∈ σ.graph.edges := by
          rw [← CallGraph.intern_edges (m := m) (c := c)]
          refine mem_of_length_addEdge_le ?_
          rw [CallGraph.intern_edges]
          omega
        refine ⟨?_, ?_, fun ho => ho⟩
        · intro k hk
          rwa [CallGraph.addEdge_nodes, intern_eq_of_edge hσ.indexed he] at hk
        · intro e' he'
          rcases CallGraph.mem_addEdge.mp he' with he' | rfl
          · rwa [CallGraph.intern_edges] at he'
          · exact he
  | note notices =>
      refine ⟨⟨fun _ hn => hn, fun _ he => he, fun ho => ho⟩, Nat.le_refl _, fun _ => ?_⟩
      exact ⟨fun _ hn => hn, fun _ he => he, fun ho => ho⟩
  | reorder hheap =>
      have hsize := hheap.size_eq
      refine ⟨⟨fun _ hn => hn, fun _ he => he, hheap.mem_get.mp⟩, ?_, ?_⟩
      · simp only [State.size]
        omega
      · intro _
        exact ⟨fun _ hn => hn, fun _ he => he, hheap.mem_get.mpr⟩

theorem Steps.grows (hσ : σ.Coherent S entries) (h : Steps S entries σ τ) : σ.Grows τ := by
  induction h with
  | refl => exact .refl σ
  | tail hsteps hstep ih => exact ih.trans (hstep.grows (Steps.coherent hσ hsteps))

/-! ### Folds -/

section

variable {α : Type} {g : State → α → State}

/-- A fold of operations that are steps is steps. -/
theorem steps_foldl {xs : List α}
    (h : ∀ τ, Steps S entries σ τ → ∀ x ∈ xs, Steps S entries τ (g τ x)) :
    Steps S entries σ (xs.foldl g σ) := by
  induction xs generalizing σ with
  | nil => exact .refl
  | cons x xs ih =>
      have hx := h σ .refl x List.mem_cons_self
      refine hx.trans (ih ?_)
      intro τ hτ y hy
      exact h τ (hx.trans hτ) y (List.mem_cons_of_mem x hy)

/-- What one operation of a fold adds whenever it comes, the fold adds. -/
theorem mem_facts_foldl (hσ : σ.Coherent S entries) {xs : List α} {x : α} (hx : x ∈ xs) {f : Fact}
    (h : ∀ τ, Steps S entries σ τ → ∀ y ∈ xs, Steps S entries τ (g τ y))
    (hf : ∀ τ, Steps S entries σ τ → f ∈ (g τ x).facts) : f ∈ (xs.foldl g σ).facts := by
  induction xs generalizing σ with
  | nil => cases hx
  | cons y xs ih =>
      have hy := h σ .refl y List.mem_cons_self
      have hrest : ∀ τ, Steps S entries (g σ y) τ → ∀ z ∈ xs, Steps S entries τ (g τ z) :=
        fun τ hτ z hz => h τ (hy.trans hτ) z (List.mem_cons_of_mem y hz)
      have hcoherent := Steps.coherent hσ hy
      rcases List.mem_cons.mp hx with rfl | hx
      · exact (Steps.grows hcoherent (steps_foldl hrest)).below.facts_subset (hf σ .refl)
      · exact ih hcoherent hx hrest fun τ hτ => hf τ (hy.trans hτ)

end

end TaintFlow.Solver
