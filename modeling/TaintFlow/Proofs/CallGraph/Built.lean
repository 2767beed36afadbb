/-
Module: TaintFlow.Proofs.CallGraph.Built
Purpose: The call graphs that can be made: from the empty graph by interning activations, letting
  activation start at nodes and entering edges between nodes. In such a graph the number of a node is its
  place, no two nodes are activations of one method in one context, no edge is entered twice, and edges
  join nodes of the graph.
Main exports: Activation, CallGraph.idOf, CallGraph.relabel, CallGraph.Built, CallGraph.Indexed,
  CallGraph.intern_cases
-/
import TaintFlow.CallGraph.Basic
import TaintFlow.Proofs.Distinct

namespace TaintFlow

/-- An activation by name: the signature of the method and the context. Numbers of nodes depend on the
    order of work, names do not. -/
structure Activation where
  signature : Signature
  context : Context
deriving DecidableEq, Repr, Inhabited

/-- The name of a node. -/
def Node.activation (n : Node) : Activation := ⟨n.signature, n.context⟩

namespace CallGraph

/-- The number of the node that has a name; zero if there is none. -/
def idOf (g : CallGraph) (a : Activation) : NodeId :=
  ((g.find? a.signature a.context).map Node.id).getD 0

/-- The number that a node has in another graph, under another name. -/
def relabel (π : Activation → Activation) (g g' : CallGraph) (id : NodeId) : NodeId :=
  ((g.node? id).map fun n => g'.idOf (π n.activation)).getD 0

/-- The graphs over methods that satisfy `P`. -/
inductive Built (P : Method → Prop) : CallGraph → Prop where
  | empty : Built P {}
  | intern {g : CallGraph} {m : Method} (c : Context) :
      Built P g → P m → Built P (g.intern m c).1
  | addEntrypoint {g : CallGraph} {n : Node} :
      Built P g → n ∈ g.nodes → Built P (g.addEntrypoint n.id)
  | addEdge {g : CallGraph} {a b : Node} (site : CallSite) :
      Built P g → a ∈ g.nodes → b ∈ g.nodes → Built P (g.addEdge ⟨a.id, site, b.id⟩)

/-- What the numbers, names and edges of a graph satisfy. -/
structure Indexed (g : CallGraph) : Prop where
  ids : g.ids = List.range g.nodes.length
  activations : (g.nodes.map Node.activation).Nodup
  edges : g.edges.Nodup
  caller : ∀ e ∈ g.edges, ∃ n ∈ g.nodes, n.id = e.caller
  callee : ∀ e ∈ g.edges, ∃ n ∈ g.nodes, n.id = e.callee

/-! ### What the operations do -/

/-- Interning finds the node of a name, or appends one whose number is its place. -/
theorem intern_cases (g : CallGraph) (m : Method) (c : Context) :
    (∃ n ∈ g.nodes, n.activation = ⟨m.signature, c⟩ ∧ g.intern m c = (g, n.id)) ∨
    ((∀ n ∈ g.nodes, n.activation ≠ ⟨m.signature, c⟩) ∧
      g.intern m c =
        ({ g with nodes := g.nodes ++ [⟨g.nodes.length, m, c⟩] }, g.nodes.length)) := by
  unfold intern
  cases hfind : g.find? m.signature c with
  | some n =>
      left
      have hn : n ∈ g.nodes := List.mem_of_find?_eq_some hfind
      have hname := List.find?_some hfind
      simp only [Bool.and_eq_true, beq_iff_eq] at hname
      exact ⟨n, hn, by rw [Node.activation, hname.1, hname.2], rfl⟩
  | none =>
      right
      refine ⟨?_, rfl⟩
      intro n hn hname
      have hnot := List.find?_eq_none.mp hfind n hn
      simp only [Node.activation, Activation.mk.injEq] at hname
      simp [hname.1, hname.2] at hnot

/-- Interning keeps the nodes that are there. -/
theorem mem_intern_of_mem {g : CallGraph} {m : Method} {c : Context} {n : Node} (h : n ∈ g.nodes) :
    n ∈ (g.intern m c).1.nodes := by
  rcases g.intern_cases m c with ⟨k, _, _, heq⟩ | ⟨_, heq⟩
  · rw [heq]
    exact h
  · rw [heq]
    exact List.mem_append_left _ h

/-- A node after interning was there before, or it is a new activation of the method. -/
theorem mem_intern {g : CallGraph} {m : Method} {c : Context} {n : Node}
    (h : n ∈ (g.intern m c).1.nodes) :
    n ∈ g.nodes ∨ (n = ⟨g.nodes.length, m, c⟩ ∧ ∀ k ∈ g.nodes, k.activation ≠ ⟨m.signature, c⟩) := by
  rcases g.intern_cases m c with ⟨k, _, _, heq⟩ | ⟨hnew, heq⟩
  · rw [heq] at h
    exact Or.inl h
  · rw [heq] at h
    rcases List.mem_append.mp h with h | h
    · exact Or.inl h
    · exact Or.inr ⟨List.mem_singleton.mp h, hnew⟩

/-- Interning gives the number of the node that has the name. -/
theorem exists_interned (g : CallGraph) (m : Method) (c : Context) :
    ∃ n ∈ (g.intern m c).1.nodes, n.id = (g.intern m c).2 ∧ n.activation = ⟨m.signature, c⟩ := by
  rcases g.intern_cases m c with ⟨n, hn, hname, heq⟩ | ⟨_, heq⟩
  · rw [heq]
    exact ⟨n, hn, rfl, hname⟩
  · rw [heq]
    exact ⟨⟨g.nodes.length, m, c⟩, List.mem_append_right _ List.mem_cons_self, rfl, rfl⟩

@[simp] theorem intern_edges {g : CallGraph} {m : Method} {c : Context} :
    (g.intern m c).1.edges = g.edges := by
  rcases g.intern_cases m c with ⟨n, _, _, heq⟩ | ⟨_, heq⟩ <;> rw [heq]

@[simp] theorem addEntrypoint_nodes {g : CallGraph} {id : NodeId} :
    (g.addEntrypoint id).nodes = g.nodes := by
  unfold addEntrypoint
  split <;> rfl

@[simp] theorem addEntrypoint_edges {g : CallGraph} {id : NodeId} :
    (g.addEntrypoint id).edges = g.edges := by
  unfold addEntrypoint
  split <;> rfl

@[simp] theorem addEdge_nodes {g : CallGraph} {e : Edge} : (g.addEdge e).nodes = g.nodes := by
  unfold addEdge
  split <;> rfl

@[simp] theorem mem_addEdge {g : CallGraph} {e e' : Edge} :
    e' ∈ (g.addEdge e).edges ↔ e' ∈ g.edges ∨ e' = e := by
  unfold addEdge
  split
  · next hmem =>
      have he : e ∈ g.edges := List.contains_iff_mem.mp hmem
      constructor
      · exact Or.inl
      · rintro (h | rfl)
        · exact h
        · exact he
  · simp

/-- The edges stay distinct. -/
theorem addEdge_nodup {g : CallGraph} {e : Edge} (h : g.edges.Nodup) : (g.addEdge e).edges.Nodup := by
  unfold addEdge
  split
  · exact h
  · next hmem =>
      have he : e ∉ g.edges := fun hin => hmem (List.contains_iff_mem.mpr hin)
      simp only [List.nodup_append, List.nodup_cons, List.not_mem_nil, not_false_eq_true,
        List.nodup_nil, and_self, List.mem_singleton, ne_eq, true_and]
      refine ⟨h, ?_⟩
      rintro a ha b rfl hab
      exact he (hab ▸ ha)

/-! ### Numbers and names -/

namespace Indexed

variable {g : CallGraph}

/-- The empty graph has nothing to number. -/
theorem empty : Indexed {} := by
  constructor <;> simp [CallGraph.ids]

/-- The number of a node is its place. -/
theorem getElem?_id (hg : g.Indexed) {n : Node} (hn : n ∈ g.nodes) : g.nodes[n.id]? = some n := by
  obtain ⟨i, hi, rfl⟩ := List.getElem_of_mem hn
  have hid : g.ids[i]? = some i := by
    rw [hg.ids]
    simp [hi]
  have hid' : (g.nodes[i]).id = i := by
    simpa [CallGraph.ids, hi] using hid
  rw [hid']
  exact List.getElem?_eq_getElem hi

/-- Two nodes of one number are one node. -/
theorem eq_of_id_eq (hg : g.Indexed) {a b : Node} (ha : a ∈ g.nodes) (hb : b ∈ g.nodes)
    (h : a.id = b.id) : a = b := by
  have hea := hg.getElem?_id ha
  rw [h, hg.getElem?_id hb] at hea
  exact (Option.some.inj hea).symm

/-- Two nodes of one name are one node. -/
theorem eq_of_activation_eq (hg : g.Indexed) {a b : Node} (ha : a ∈ g.nodes) (hb : b ∈ g.nodes)
    (h : a.activation = b.activation) : a = b :=
  List.inj_on_of_nodup_map hg.activations ha hb h

/-- Numbers are below the number of nodes. -/
theorem id_lt (hg : g.Indexed) {n : Node} (hn : n ∈ g.nodes) : n.id < g.nodes.length := by
  have hmem : n.id ∈ g.ids := List.mem_map_of_mem hn
  rw [hg.ids] at hmem
  exact List.mem_range.mp hmem

theorem nodup_ids (hg : g.Indexed) : (g.nodes.map Node.id).Nodup := by
  have hids : g.nodes.map Node.id = List.range g.nodes.length := hg.ids
  rw [hids]
  exact List.nodup_range

/-- Looking a number up gives the node that has it. -/
theorem node?_eq_some_iff (hg : g.Indexed) {id : NodeId} {n : Node} :
    g.node? id = some n ↔ n ∈ g.nodes ∧ n.id = id :=
  find?_key_eq_some_iff hg.nodup_ids

/-- An edge joins two nodes. -/
theorem exists_ends (hg : g.Indexed) {e : Edge} (he : e ∈ g.edges) :
    ∃ a ∈ g.nodes, ∃ b ∈ g.nodes, e = ⟨a.id, e.site, b.id⟩ := by
  obtain ⟨a, ha, hcaller⟩ := hg.caller e he
  obtain ⟨b, hb, hcallee⟩ := hg.callee e he
  exact ⟨a, ha, b, hb, by rw [hcaller, hcallee]⟩

/-- Looking a name up gives the node that has it. -/
theorem find?_eq_some (hg : g.Indexed) {n : Node} (hn : n ∈ g.nodes) :
    g.find? n.signature n.context = some n := by
  cases hfind : g.find? n.signature n.context with
  | none =>
      have hnot := List.find?_eq_none.mp hfind n hn
      simp at hnot
  | some k =>
      have hk := List.mem_of_find?_eq_some hfind
      have hname := List.find?_some hfind
      simp only [Bool.and_eq_true, beq_iff_eq] at hname
      have heq : k.activation = n.activation := by
        rw [Node.activation, Node.activation, hname.1, hname.2]
      rw [hg.eq_of_activation_eq hk hn heq]

theorem idOf_eq (hg : g.Indexed) {n : Node} (hn : n ∈ g.nodes) : g.idOf n.activation = n.id := by
  simp only [idOf, Node.activation, hg.find?_eq_some hn, Option.map_some, Option.getD_some]

theorem relabel_eq {g' : CallGraph} {π : Activation → Activation} (hg : g.Indexed) (hg' : g'.Indexed)
    {n n' : Node} (hn : n ∈ g.nodes) (hn' : n' ∈ g'.nodes) (hname : n'.activation = π n.activation) :
    relabel π g g' n.id = n'.id := by
  have hnode : g.node? n.id = some n := hg.node?_eq_some_iff.mpr ⟨hn, rfl⟩
  rw [relabel, hnode, Option.map_some, Option.getD_some, ← hname, hg'.idOf_eq hn']

/-- Interning keeps numbers and names in order. -/
theorem intern (hg : g.Indexed) (m : Method) (c : Context) : (g.intern m c).1.Indexed := by
  rcases g.intern_cases m c with ⟨n, _, _, heq⟩ | ⟨hnew, heq⟩
  · rw [heq]
    exact hg
  · rw [heq]
    refine ⟨?_, ?_, hg.edges, ?_, ?_⟩
    · have hids : g.nodes.map Node.id = List.range g.nodes.length := hg.ids
      simp [CallGraph.ids, hids, List.range_succ]
    · simp only [List.map_append, List.map_cons, List.map_nil, List.nodup_append, List.nodup_cons,
        List.not_mem_nil, not_false_eq_true, List.nodup_nil, and_self, List.mem_singleton, ne_eq,
        true_and]
      refine ⟨hg.activations, ?_⟩
      rintro a ha b rfl hab
      obtain ⟨n, hn, rfl⟩ := List.mem_map.mp ha
      exact hnew n hn hab
    · intro e he
      obtain ⟨n, hn, hid⟩ := hg.caller e he
      exact ⟨n, List.mem_append_left _ hn, hid⟩
    · intro e he
      obtain ⟨n, hn, hid⟩ := hg.callee e he
      exact ⟨n, List.mem_append_left _ hn, hid⟩

/-- Where activation starts does not matter for numbers and names. -/
theorem addEntrypoint (hg : g.Indexed) (id : NodeId) : (g.addEntrypoint id).Indexed := by
  constructor
  · simpa [CallGraph.ids] using hg.ids
  · simpa using hg.activations
  · simpa using hg.edges
  · simpa using hg.caller
  · simpa using hg.callee

/-- An edge between nodes keeps numbers and names in order. -/
theorem addEdge (hg : g.Indexed) {a b : Node} (site : CallSite) (ha : a ∈ g.nodes)
    (hb : b ∈ g.nodes) : (g.addEdge ⟨a.id, site, b.id⟩).Indexed := by
  constructor
  · simpa [CallGraph.ids] using hg.ids
  · simpa using hg.activations
  · exact addEdge_nodup hg.edges
  · intro e he
    rw [addEdge_nodes]
    rcases mem_addEdge.mp he with he | rfl
    · exact hg.caller e he
    · exact ⟨a, ha, rfl⟩
  · intro e he
    rw [addEdge_nodes]
    rcases mem_addEdge.mp he with he | rfl
    · exact hg.callee e he
    · exact ⟨b, hb, rfl⟩

/-- Every number below the number of nodes is the number of one. -/
theorem exists_node (hg : g.Indexed) {id : NodeId} (h : id < g.nodes.length) :
    ∃ n ∈ g.nodes, n.id = id := by
  have hmem : id ∈ g.ids := by
    rw [hg.ids]
    exact List.mem_range.mpr h
  exact List.mem_map.mp hmem

end Indexed

namespace Built

variable {P : Method → Prop} {g : CallGraph}

/-- Every graph that can be made is indexed. -/
theorem indexed (h : Built P g) : g.Indexed := by
  induction h with
  | empty => exact .empty
  | intern c _ _ ih => exact ih.intern _ c
  | addEntrypoint _ _ ih => exact ih.addEntrypoint _
  | addEdge site _ ha hb ih => exact ih.addEdge site ha hb

/-- The nodes of a graph are activations of the methods it is made over. -/
theorem method (h : Built P g) : ∀ n ∈ g.nodes, P n.method := by
  induction h with
  | empty => simp
  | intern c _ hm ih =>
      intro n hn
      rcases mem_intern hn with hn | ⟨rfl, _⟩
      · exact ih n hn
      · exact hm
  | addEntrypoint _ _ ih => simpa using ih
  | addEdge site _ _ _ ih => simpa using ih

/-- A graph over some methods is one over more methods. -/
theorem mono {Q : Method → Prop} (hPQ : ∀ m, P m → Q m) (h : Built P g) : Built Q g := by
  induction h with
  | empty => exact .empty
  | intern c _ hm ih => exact .intern c ih (hPQ _ hm)
  | addEntrypoint _ hn ih => exact .addEntrypoint ih hn
  | addEdge site _ ha hb ih => exact .addEdge site ih ha hb

end Built

/-! ### Edges by number -/

/-- The targets of a site are the callees of its edges. -/
theorem mem_targets {g : CallGraph} {id callee : NodeId} {site : CallSite} :
    callee ∈ g.targets id site ↔ (⟨id, site, callee⟩ : Edge) ∈ g.edges := by
  simp only [targets, outEdges, List.filter_filter, List.mem_map, List.mem_filter, Bool.and_eq_true,
    beq_iff_eq]
  constructor
  · rintro ⟨e, ⟨he, rfl, rfl⟩, rfl⟩
    exact he
  · intro he
    exact ⟨_, ⟨he, rfl, rfl⟩, rfl⟩

theorem edge_eq {e e' : Edge} (hcaller : e.caller = e'.caller) (hsite : e.site = e'.site)
    (hcallee : e.callee = e'.callee) : e = e' := by
  cases e
  cases e'
  exact Edge.mk.injEq .. ▸ ⟨hcaller, hsite, hcallee⟩

/-- A site has one edge to each of its targets. -/
theorem Indexed.nodup_targets {g : CallGraph} (hg : g.Indexed) (id : NodeId) (site : CallSite) :
    (g.targets id site).Nodup := by
  unfold targets outEdges
  refine ((hg.edges.filter _).filter _).map_on ?_
  intro e he e' he' hcallee
  simp only [List.mem_filter, beq_iff_eq] at he he'
  obtain ⟨⟨_, hcaller⟩, hsite⟩ := he
  obtain ⟨⟨_, hcaller'⟩, hsite'⟩ := he'
  exact edge_eq (hcaller.trans hcaller'.symm) (hsite.trans hsite'.symm) hcallee

/-- The edges that enter a node are those with it as callee. -/
theorem mem_inEdges {g : CallGraph} {id : NodeId} {e : Edge} :
    e ∈ g.inEdges id ↔ e ∈ g.edges ∧ e.callee = id := by
  simp [inEdges]

end CallGraph

end TaintFlow
