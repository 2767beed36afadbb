/-
Module: TaintFlow.Proofs.CallGraph.Tables
Purpose: The tables of a call graph mirror its nodes and edges. Each operation does to the graph what it does
  where no tables are kept, and each table answers as a scan of all nodes or of all edges would. This holds of
  the empty graph and is kept by every operation, so it holds whatever operations were performed.
Main exports: CallGraph.Tables.Built, CallGraph.Tables.Mirrors, CallGraph.Tables.Built.mirrors,
  CallGraph.Tables.tables_mirror
-/
import TaintFlow.CallGraph.Tables
import TaintFlow.Proofs.CallGraph.Reachable

namespace TaintFlow.CallGraph.Tables

variable {t : Tables} {m : Method} {c : Context} {e : Edge} {id : NodeId} {site : CallSite}

/-- The graphs that can be made: from the empty one by interning activations, letting activation start at
    nodes, and entering edges between nodes. -/
inductive Built : Tables → Prop where
  | empty : Built {}
  | intern {t : Tables} (m : Method) (c : Context) : Built t → Built (t.intern m c).1
  | addEntrypoint {t : Tables} (id : NodeId) :
      Built t → id < t.entries.length → Built (t.addEntrypoint id)
  | addEdge {t : Tables} (e : Edge) :
      Built t → e.caller < t.entries.length → e.callee < t.entries.length → Built (t.addEdge e).1

/-- Every table answers as the graph without tables does. -/
structure Mirrors (t : Tables) : Prop where
  indexed : t.graph.Indexed
  numbers : ∀ s c, t.numbers.lookup (s, c) = (t.graph.find? s c).map Node.id
  methods : ∀ s, t.methods.get s = (t.graph.nodesFor s).map Node.id
  edgeSet : ∀ e, e ∈ t.edgeSet ↔ e ∈ t.edges
  outEdges : ∀ id, t.outEdges id = t.graph.outEdges id
  inEdges : ∀ id, t.inEdges id = t.graph.inEdges id
  targets : ∀ id site, t.targets id site = t.graph.targets id site

@[simp] theorem length_nodes : t.graph.nodes.length = t.entries.length := by
  simp [graph]

/-! ### Interning -/

/-- A new node has nothing recorded, as it had before it was made. -/
theorem recorded_append {α : Type} {f : Entry → List α} {n : Node} (hf : f { node := n } = []) :
    recorded { t with entries := t.entries ++ [{ node := n }] } id f = t.recorded id f := by
  unfold recorded
  rcases Nat.lt_trichotomy id t.entries.length with hlt | rfl | hgt
  · simp [List.getElem?_append_left hlt]
  · simp [hf]
  · have hnone : (t.entries ++ [{ node := n }])[id]? = none := by
      apply List.getElem?_eq_none
      simp
      omega
    rw [hnone, List.getElem?_eq_none (Nat.le_of_lt hgt)]

namespace Mirrors

/-- Interning does to the graph what it does without tables. -/
theorem intern_eq (ht : t.Mirrors) (m : Method) (c : Context) :
    (t.intern m c).1.graph = (t.graph.intern m c).1 ∧ (t.intern m c).2 = (t.graph.intern m c).2 := by
  unfold Tables.intern CallGraph.intern
  rw [ht.numbers]
  cases t.graph.find? m.signature c with
  | some n => exact ⟨rfl, rfl⟩
  | none => simp [graph]

/-- Interning keeps the tables up to date. -/
theorem intern (ht : t.Mirrors) (m : Method) (c : Context) : (t.intern m c).1.Mirrors := by
  have hindexed : (t.intern m c).1.graph.Indexed := by
    rw [(ht.intern_eq m c).1]
    exact ht.indexed.intern m c
  unfold Tables.intern at hindexed ⊢
  cases hfound : t.numbers.lookup (m.signature, c) with
  | some id => exact ht
  | none =>
      rw [hfound] at hindexed
      constructor
      · exact hindexed
      · intro s d
        simp only [graph, CallGraph.find?, List.map_append, List.map_cons, List.map_nil,
          List.find?_append, List.lookup_append, Option.map_or]
        congr 1
        · exact ht.numbers s d
        · by_cases hkey : m.signature = s ∧ c = d
          · obtain ⟨rfl, rfl⟩ := hkey
            simp [Node.signature]
          · have hne : ((s, d) == (m.signature, c)) = false := by
              rw [beq_eq_false_iff_ne, ne_eq, Prod.mk.injEq]
              rintro ⟨rfl, rfl⟩
              exact hkey ⟨rfl, rfl⟩
            simpa [List.lookup_cons, hne, Node.signature] using hkey
      · intro s
        simp only [graph, CallGraph.nodesFor, Ledger.get_push, List.map_append, List.filter_append,
          List.map_cons, List.map_nil]
        congr 1
        · exact ht.methods s
        · by_cases hs : m.signature = s
          · simp [hs, Node.signature]
          · simp [hs, Node.signature]
      · exact ht.edgeSet
      · intro id
        exact (recorded_append rfl).trans (ht.outEdges id)
      · intro id
        exact (recorded_append rfl).trans (ht.inEdges id)
      · intro id site
        exact (recorded_append rfl).trans (ht.targets id site)

end Mirrors

/-! ### Entering edges -/

/-- The record of node `id` once an edge was entered. -/
def gained (e : Edge) (id : NodeId) (x : Entry) : Entry :=
  { node := x.node
    outEdges := x.outEdges ++ (if e.caller = id then [e] else [])
    inEdges := x.inEdges ++ (if e.callee = id then [e] else [])
    targets := if e.caller = id then x.targets.push e.site e.callee else x.targets }

/-- A new edge changes the records of its caller and of its callee, which may be one node. -/
theorem getElem?_addEdge (hnew : e ∉ t.edgeSet) :
    (t.addEdge e).1.entries[id]? = (t.entries[id]?).map (gained e id) := by
  simp only [addEdge, List.contains_iff_mem, hnew, if_false, List.getElem?_modify]
  cases t.entries[id]? with
  | none => simp
  | some x =>
      by_cases hcaller : e.caller = id
      · by_cases hcallee : e.callee = id
        · simp [gained, hcaller, hcallee]
        · simp [gained, hcaller, hcallee]
      · by_cases hcallee : e.callee = id
        · simp [gained, hcaller, hcallee]
        · simp [gained, hcaller, hcallee]

/-- What is looked up at a node grows by what its record gains; only a node of the graph gains anything. -/
theorem recorded_addEdge {α : Type} {f : Entry → List α} {P : Prop} [Decidable P] {a : α}
    (hnew : e ∉ t.edgeSet) (hid : P → id < t.entries.length)
    (hf : ∀ x, f (gained e id x) = f x ++ (if P then [a] else [])) :
    (t.addEdge e).1.recorded id f = t.recorded id f ++ (if P then [a] else []) := by
  unfold recorded
  rw [getElem?_addEdge hnew]
  cases hentry : t.entries[id]? with
  | some x => simp [hf]
  | none =>
      have hnone : ¬ P := by
        intro hP
        rw [List.getElem?_eq_getElem (hid hP)] at hentry
        cases hentry
      simp [hnone]

theorem outEdges_addEdge (hnew : e ∉ t.edgeSet) (hcaller : e.caller < t.entries.length) :
    (t.addEdge e).1.outEdges id = t.outEdges id ++ (if e.caller = id then [e] else []) := by
  apply recorded_addEdge hnew
  · rintro rfl
    exact hcaller
  · intro x
    rfl

theorem inEdges_addEdge (hnew : e ∉ t.edgeSet) (hcallee : e.callee < t.entries.length) :
    (t.addEdge e).1.inEdges id = t.inEdges id ++ (if e.callee = id then [e] else []) := by
  apply recorded_addEdge hnew
  · rintro rfl
    exact hcallee
  · intro x
    rfl

theorem targets_addEdge (hnew : e ∉ t.edgeSet) (hcaller : e.caller < t.entries.length) :
    (t.addEdge e).1.targets id site =
      t.targets id site ++ (if e.caller = id ∧ e.site = site then [e.callee] else []) := by
  apply recorded_addEdge hnew
  · rintro ⟨rfl, _⟩
    exact hcaller
  · intro x
    by_cases heq : e.caller = id
    · simp [gained, heq]
    · simp [gained, heq]

/-- An edge that is there is not entered again. -/
theorem addEdge_of_mem (hold : e ∈ t.edgeSet) : t.addEdge e = (t, false) := by
  simp [addEdge, hold]

theorem nodes_addEdge (e : Edge) : (t.addEdge e).1.graph.nodes = t.graph.nodes := by
  by_cases hold : e ∈ t.edgeSet
  · rw [addEdge_of_mem hold]
  · apply List.ext_getElem?
    intro i
    unfold graph
    rw [List.getElem?_map, List.getElem?_map, getElem?_addEdge hold]
    cases t.entries[i]? with
    | none => rfl
    | some x => rfl

namespace Mirrors

/-- Entering an edge does to the graph what it does without tables. -/
theorem addEdge_eq (ht : t.Mirrors) (e : Edge) :
    (t.addEdge e).1.graph = t.graph.addEdge e ∧ (t.addEdge e).2 = !t.graph.edges.contains e := by
  by_cases hold : e ∈ t.edgeSet
  · have hmem : e ∈ t.graph.edges := (ht.edgeSet e).mp hold
    simp [addEdge_of_mem hold, CallGraph.addEdge, hmem]
  · have hmem : e ∉ t.graph.edges := fun hmem => hold ((ht.edgeSet e).mpr hmem)
    constructor
    · calc (t.addEdge e).1.graph
          = ⟨(t.addEdge e).1.graph.nodes, t.edges ++ [e], t.entrypoints⟩ := by
            simp [graph, Tables.addEdge, hold]
        _ = ⟨t.graph.nodes, t.graph.edges ++ [e], t.entrypoints⟩ := by rw [nodes_addEdge, graph]
        _ = t.graph.addEdge e := by
            simp only [CallGraph.addEdge, List.contains_iff_mem, hmem, if_false]
            rfl
    · simp [Tables.addEdge, hold, hmem]

/-- Entering an edge between nodes keeps the tables up to date. -/
theorem addEdge (ht : t.Mirrors) (hcaller : e.caller < t.entries.length)
    (hcallee : e.callee < t.entries.length) : (t.addEdge e).1.Mirrors := by
  obtain ⟨hgraph, _⟩ := ht.addEdge_eq e
  by_cases hold : e ∈ t.edgeSet
  · rw [addEdge_of_mem hold]
    exact ht
  · have hnodes : (t.graph.addEdge e).nodes = t.graph.nodes := addEdge_nodes
    have hedges : (t.graph.addEdge e).edges = t.graph.edges ++ [e] := by
      have hmem : e ∉ t.graph.edges := fun hmem => hold ((ht.edgeSet e).mpr hmem)
      simp [CallGraph.addEdge, hmem]
    constructor
    · rw [← length_nodes] at hcaller hcallee
      obtain ⟨a, ha, hcaller⟩ := ht.indexed.exists_node hcaller
      obtain ⟨b, hb, hcallee⟩ := ht.indexed.exists_node hcallee
      have hadded := ht.indexed.addEdge e.site ha hb
      rw [hcaller, hcallee] at hadded
      rw [hgraph]
      exact hadded
    · intro s c
      rw [hgraph, CallGraph.find?, hnodes]
      simpa [Tables.addEdge, hold, CallGraph.find?] using ht.numbers s c
    · intro s
      rw [hgraph, CallGraph.nodesFor, hnodes]
      simpa [Tables.addEdge, hold, CallGraph.nodesFor] using ht.methods s
    · intro e'
      simp [Tables.addEdge, hold, ht.edgeSet, or_comm]
    · intro id
      rw [outEdges_addEdge hold hcaller, hgraph, ht.outEdges]
      simp [CallGraph.outEdges, hedges, List.filter_append, List.filter_singleton]
    · intro id
      rw [inEdges_addEdge hold hcallee, hgraph, ht.inEdges]
      simp [CallGraph.inEdges, hedges, List.filter_append, List.filter_singleton]
    · intro id site
      rw [targets_addEdge hold hcaller, hgraph, ht.targets]
      by_cases heq : e.caller = id ∧ e.site = site
      · obtain ⟨rfl, rfl⟩ := heq
        simp [CallGraph.targets, CallGraph.outEdges, hedges]
      · have hnone : (([e].filter fun e => e.caller == id).filter fun e => e.site == site) = [] := by
          rw [List.filter_filter]
          simpa [and_comm] using heq
        simp only [CallGraph.targets, CallGraph.outEdges, hedges, List.filter_append, hnone, heq,
          if_false, List.append_nil]

/-! ### All operations -/

theorem empty : Mirrors {} :=
  ⟨.empty, fun _ _ => rfl, fun _ => rfl, fun _ => Iff.rfl, fun _ => rfl, fun _ => rfl, fun _ _ => rfl⟩

/-- The tables do not tell where activation starts. -/
theorem addEntrypoint (ht : t.Mirrors) (id : NodeId) : (t.addEntrypoint id).Mirrors := by
  unfold Tables.addEntrypoint
  split
  · exact ht
  · exact ⟨⟨ht.indexed.ids, ht.indexed.activations, ht.indexed.edges, ht.indexed.caller,
      ht.indexed.callee⟩, ht.numbers, ht.methods, ht.edgeSet, ht.outEdges, ht.inEdges, ht.targets⟩

/-- The nodes recorded for a method are those that a scan of all nodes finds. -/
theorem nodesFor (ht : t.Mirrors) (s : Signature) : t.nodesFor s = t.graph.nodesFor s := by
  unfold Tables.nodesFor
  rw [ht.methods, List.filterMap_map]
  calc (t.graph.nodesFor s).filterMap ((fun id => (t.entries[id]?).map Entry.node) ∘ Node.id)
      = (t.graph.nodesFor s).filterMap some := by
        apply List.filterMap_congr
        intro n hn
        have hnode : n ∈ t.graph.nodes := (List.mem_filter.mp hn).1
        have hplace := ht.indexed.getElem?_id hnode
        simpa [graph] using hplace
    _ = t.graph.nodesFor s := List.filterMap_some

theorem callees (ht : t.Mirrors) (id : NodeId) : t.callees id = t.graph.callees id := by
  rw [Tables.callees, ht.outEdges, CallGraph.callees]

theorem callers (ht : t.Mirrors) (id : NodeId) : t.callers id = t.graph.callers id := by
  rw [Tables.callers, ht.inEdges, CallGraph.callers]

/-- Interning finds the node of a method and context and changes nothing, or appends a node whose number is
    its place. -/
theorem intern_cases (ht : t.Mirrors) (m : Method) (c : Context) :
    (∃ n ∈ t.graph.nodes, n.activation = ⟨m.signature, c⟩ ∧ t.intern m c = (t, n.id)) ∨
    ((∀ n ∈ t.graph.nodes, n.activation ≠ ⟨m.signature, c⟩) ∧
      (t.intern m c).2 = t.graph.nodes.length ∧
      (t.intern m c).1.graph =
        { t.graph with nodes := t.graph.nodes ++ [⟨t.graph.nodes.length, m, c⟩] }) := by
  rcases t.graph.intern_cases m c with ⟨n, hn, hname, _⟩ | ⟨hnew, heq⟩
  · left
    refine ⟨n, hn, hname, ?_⟩
    obtain ⟨hsignature, hcontext⟩ := Activation.mk.injEq .. ▸ hname
    have hfind := ht.indexed.find?_eq_some hn
    rw [hsignature, hcontext] at hfind
    unfold Tables.intern
    rw [ht.numbers, hfind]
    rfl
  · right
    obtain ⟨hgraph, hnumber⟩ := ht.intern_eq m c
    rw [heq] at hgraph hnumber
    exact ⟨hnew, hnumber, hgraph⟩

end Mirrors

/-- Whatever operations were performed, all tables are up to date. -/
theorem Built.mirrors (ht : t.Built) : t.Mirrors := by
  induction ht with
  | empty => exact .empty
  | intern m c _ ih => exact ih.intern m c
  | addEntrypoint id _ _ ih => exact ih.addEntrypoint id
  | addEdge e _ hcaller hcallee ih => exact ih.addEdge hcaller hcallee

/-- The tables of a call graph agree with its nodes and edges after any sequence of operations. Nodes are
    numbered in the order in which they were made, and no two are activations of one method in one context;
    the nodes recorded for a method are those that a scan finds, in their order. No edge is entered twice;
    the edges recorded at a node and the targets recorded at a call site are those that a scan of all edges
    finds, in their order, and no target is recorded twice. One node is a callee of another exactly if that
    is a caller of it. An operation that finds what it would enter changes nothing, and otherwise it enters
    one node or one edge, as the last. -/
theorem tables_mirror (ht : t.Built) :
    (t.graph.nodes.map Node.id = List.range t.graph.nodes.length ∧
      (t.graph.nodes.map Node.activation).Nodup ∧
      ∀ s, t.nodesFor s = t.graph.nodes.filter fun n => n.signature == s) ∧
    (t.edges.Nodup ∧
      (∀ id, t.outEdges id = t.edges.filter fun e => e.caller == id) ∧
      (∀ id, t.inEdges id = t.edges.filter fun e => e.callee == id) ∧
      (∀ id site, (t.targets id site).Nodup ∧ t.targets id site =
        (t.edges.filter fun e => e.caller == id && e.site == site).map Edge.callee) ∧
      ∀ a b, b ∈ t.callees a ↔ a ∈ t.callers b) ∧
    (∀ m c,
      (∃ n ∈ t.graph.nodes, n.activation = ⟨m.signature, c⟩ ∧ t.intern m c = (t, n.id)) ∨
      ((∀ n ∈ t.graph.nodes, n.activation ≠ ⟨m.signature, c⟩) ∧
        (t.intern m c).2 = t.graph.nodes.length ∧
        (t.intern m c).1.graph =
          { t.graph with nodes := t.graph.nodes ++ [⟨t.graph.nodes.length, m, c⟩] })) ∧
    (∀ e ∈ t.edges, t.addEdge e = (t, false)) ∧
    ∀ e ∉ t.edges, (t.addEdge e).2 = true ∧
      (t.addEdge e).1.graph = { t.graph with edges := t.edges ++ [e] } := by
  have hmirrors : t.Mirrors := ht.mirrors
  have hindexed : t.graph.Indexed := hmirrors.indexed
  refine ⟨⟨hindexed.ids, hindexed.activations, hmirrors.nodesFor⟩,
    ⟨hindexed.edges, hmirrors.outEdges, hmirrors.inEdges, ?_, ?_⟩, hmirrors.intern_cases, ?_, ?_⟩
  · intro id site
    rw [hmirrors.targets]
    constructor
    · exact hindexed.nodup_targets id site
    · rw [CallGraph.targets, CallGraph.outEdges, List.filter_filter]
      simp only [graph, Bool.and_comm]
  · intro a b
    rw [hmirrors.callees, hmirrors.callers, mem_callees, mem_callers]
  · intro e he
    exact addEdge_of_mem ((hmirrors.edgeSet e).mpr he)
  · intro e he
    obtain ⟨hgraph, hnew⟩ := hmirrors.addEdge_eq e
    have hmem : e ∉ t.graph.edges := he
    rw [hgraph, hnew]
    constructor
    · simp [hmem]
    · simp only [CallGraph.addEdge, List.contains_iff_mem, hmem, if_false]
      rfl

namespace Recursive

/-- A method that calls itself. -/
def again : Method := { signature := ⟨"LA", "again", "()V"⟩, loader := .application }

/-- Another implementation of it. -/
def other : Method := { signature := ⟨"LB", "again", "()V"⟩, loader := .application }

/-- The call. -/
def call : CallSite := ⟨0, again.signature, .virtual⟩

/-- The call may activate the method itself, which is entered twice, or the other implementation. -/
def tables : Tables :=
  let both := (((({} : Tables).intern again .everywhere).1.intern other .everywhere).1.intern
    again .everywhere).1
  let called := ((both.addEntrypoint 0).addEdge ⟨0, call, 0⟩).1
  ((called.addEdge ⟨0, call, 1⟩).1.addEdge ⟨0, call, 0⟩).1

theorem built : tables.Built := by
  have hboth := ((Built.empty.intern again .everywhere).intern other .everywhere).intern
    again .everywhere
  have hcalled := (hboth.addEntrypoint 0 (by decide)).addEdge ⟨0, call, 0⟩ (by decide) (by decide)
  exact (hcalled.addEdge ⟨0, call, 1⟩ (by decide) (by decide)).addEdge ⟨0, call, 0⟩ (by decide) (by decide)

end Recursive

/-- The method that calls itself has one node, although it was interned twice, and this is a caller of
    itself; its call has two targets, although an edge was entered three times. -/
theorem tables_mirror_recursive :
    let t := Recursive.tables
    t.Built ∧ t.edges = [⟨0, Recursive.call, 0⟩, ⟨0, Recursive.call, 1⟩] ∧
    t.targets 0 Recursive.call = [0, 1] ∧ 0 ∈ t.callers 0 ∧
    (t.nodesFor Recursive.again.signature).map Node.id = [0] ∧
    t.addEdge ⟨0, Recursive.call, 1⟩ = (t, false) := by
  intro t
  have hedges : t.edges = [⟨0, Recursive.call, 0⟩, ⟨0, Recursive.call, 1⟩] := by decide
  obtain ⟨⟨_, _, hnodes⟩, ⟨_, _, _, htargets, hcallers⟩, _, hold, _⟩ := tables_mirror Recursive.built
  refine ⟨Recursive.built, hedges, ?_, ?_, ?_, ?_⟩
  · rw [(htargets 0 Recursive.call).2]
    decide
  · exact (hcallers 0 0).mp (by decide)
  · rw [hnodes]
    decide
  · exact hold _ (by decide)

end TaintFlow.CallGraph.Tables
