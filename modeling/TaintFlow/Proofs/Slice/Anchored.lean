/-
Module: TaintFlow.Proofs.Slice.Anchored
Purpose: The dependences of a solved program stay inside it. Every activation is reached from an
  entrypoint, and from a statement of an activation dependences lead to such statements only, so a slice
  holds nothing that the program could not run.
Main exports: dependences_anchored
-/
import TaintFlow.Proofs.Dependence.Distinct
import TaintFlow.Proofs.Slice.Projection
import TaintFlow.Proofs.Solver.Origin

namespace TaintFlow

namespace DependenceGraph

variable {g : CallGraph} {heap : PointsTo} {o : Options} {s : Statement}

/-- A statement of a node has the number of the node. -/
theorem exists_node_of_mem_statements (h : s ∈ (ofGraph g heap o).statements) :
    ∃ n ∈ g.nodes, n.id = s.node := by
  obtain ⟨n, hn, hs⟩ := mem_statements.mp h
  rw [ofGraph_graph] at hn
  exact ⟨n, hn, (Node.node_of_mem_statements hs).symm⟩

/-- What depends on a statement can be found, is listed once, and is a statement. -/
theorem successorsFrom_closed (hg : g.Built Method.Parsed) (hs : s ∈ (ofGraph g heap o).statements) :
    ∃ links, (ofGraph g heap o).successorsFrom s = .ok links ∧ links.Nodup ∧
      ∀ l ∈ links, l.source = s ∧ l.target ∈ (ofGraph g heap o).statements := by
  have hS : (ofGraph g heap o).Closed := closed_ofGraph hg
  refine ⟨_, successorsFrom_eq hS.toAssembled hs, nodup_successors hS.toAssembled, ?_⟩
  intro l hl
  exact ⟨((mem_successors hS.toAssembled).mp hl).1, successor_mem hS hs hl⟩

end DependenceGraph

/-- The dependences of a solved program are closed and anchored at its entrypoints. Activation starts at
    the entrypoints and nowhere else, and every node is reached from there, so that the search for what
    is reached finds all nodes. No statement is listed twice. What depends on a listed statement can be
    found, is listed once and consists of listed statements. Whatever was sliced before, the slice from a
    listed statement exists and holds listed statements of nodes that are reached. -/
theorem dependences_anchored {p : Program} (hp : p.Parsed) (e : Exclusions) (a : Algorithm)
    (en : Enumeration) {entries : List Method} (hentries : ∀ m ∈ entries, m ∈ p.methods) (o : Options) :
    let R := Solver.solve ⟨.ofProgram p e, a, en⟩ entries
    let S := DependenceGraph.ofGraph R.graph R.heap o
    (R.state.Anchored entries ∧ (∀ n ∈ R.graph.nodes, R.graph.Reachable n.id) ∧
      ∀ id, id ∈ R.graph.reachable ↔ ∃ n ∈ R.graph.nodes, n.id = id) ∧
    S.statements.Nodup ∧
    (∀ s ∈ S.statements, ∃ links, S.successorsFrom s = .ok links ∧ links.Nodup ∧
      ∀ l ∈ links, l.source = s ∧ l.target ∈ S.statements) ∧
    ∀ {slicer : Slicer}, slicer.Used R.graph R.heap → ∀ c ∈ S.statements,
      ∃ slice, (slicer.slice c o).2 = .ok slice ∧
        ∀ t ∈ slice, t ∈ S.statements ∧ t.node ∈ R.graph.reachable := by
  intro R S
  have hS := Solver.unambiguous_of_parsed hp e a en hentries
  have hg : R.graph.Built Method.Parsed := Solver.built_solve hp e a en hentries
  refine ⟨⟨Solver.anchored_solve hS, fun n => Solver.reachable_solve hS,
    fun id => Solver.mem_reachable_solve hS⟩,
    DependenceGraph.nodup_statements (DependenceGraph.assembled_ofGraph hg.indexed),
    fun s => DependenceGraph.successorsFrom_closed hg, ?_⟩
  intro slicer hslicer c hc
  refine ⟨_, hslicer.slice_eq hg hc, ?_⟩
  intro t ht
  have hstatement : t ∈ S.statements := DependenceGraph.mem_statements_of_slice hg hc ht
  exact ⟨hstatement, (Solver.mem_reachable_solve hS).mpr
    (DependenceGraph.exists_node_of_mem_statements hstatement)⟩

/-- The object that is passed through one method twice, each call in a context of its own, sliced from
    its creation. -/
theorem dependences_anchored_twoCalls :
    TwoCalls.program.Parsed ∧ TwoCalls.main ∈ TwoCalls.program.methods ∧
    let R := Solver.solve ⟨.ofProgram TwoCalls.program {}, .callSite, .asFound⟩ [TwoCalls.main]
    let S := DependenceGraph.ofGraph R.graph R.heap {}
    let slicer : Slicer := ⟨R.graph, R.heap, []⟩
    (slicer.Used R.graph R.heap ∧ .normal 0 0 ∈ S.statements) ∧
    R.state.Anchored [TwoCalls.main] ∧ S.statements.Nodup ∧
    (∃ links, S.successorsFrom (.normal 0 0) = .ok links ∧ links.Nodup ∧
      ∀ l ∈ links, l.source = .normal 0 0 ∧ l.target ∈ S.statements) ∧
    ∃ slice, (slicer.slice (.normal 0 0) {}).2 = .ok slice ∧
      ∀ t ∈ slice, t ∈ S.statements ∧ t.node ∈ R.graph.reachable := by
  refine ⟨TwoCalls.parsed, TwoCalls.main_mem, ?_⟩
  intro R S slicer
  have hentries : ∀ m ∈ [TwoCalls.main], m ∈ TwoCalls.program.methods :=
    List.forall_mem_singleton.mpr TwoCalls.main_mem
  have hnode : ⟨0, TwoCalls.main, .everywhere⟩ ∈ R.graph.nodes :=
    Solver.mem_nodes_solve (Solver.unambiguous_of_parsed TwoCalls.parsed {} .callSite .asFound hentries)
      List.mem_cons_self
  have hc : .normal 0 0 ∈ S.statements := by
    refine DependenceGraph.mem_statements.mpr ⟨_, ?_, TwoCalls.new_mem_statements⟩
    rwa [DependenceGraph.ofGraph_graph]
  obtain ⟨⟨hanchored, _, _⟩, hnodup, hsuccessors, hslices⟩ :=
    dependences_anchored TwoCalls.parsed {} .callSite .asFound hentries {}
  exact ⟨⟨.fresh, hc⟩, hanchored, hnodup, hsuccessors _ hc, hslices .fresh _ hc⟩

end TaintFlow
