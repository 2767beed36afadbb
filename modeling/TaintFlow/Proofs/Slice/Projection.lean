/-
Module: TaintFlow.Proofs.Slice.Projection
Purpose: More context never adds to a slice. Where a call graph and a points-to map refine others, moving
  each statement to the node of the same method there keeps the dependences between statements, and moves
  realizable paths, with their stacks of calls, to realizable paths. Slices hold what such paths lead to,
  so a slice, moved, lies inside the slice from the moved criterion.
Main exports: Statement.move, Node.Depends.move, DependenceGraph.Linked.move, Realizable.move,
  slice_refines_plain
-/
import TaintFlow.Proofs.Slice.Realizable
import TaintFlow.Proofs.Solver.Projection

namespace TaintFlow

/-- The same statement of another node: kind, index and position stay. -/
def Statement.move (φ : NodeId → NodeId) : Statement → Statement
  | .normal n i => .normal (φ n) i
  | .phi n i => .phi (φ n) i
  | .actual n i k => .actual (φ n) i k
  | .formal n k => .formal (φ n) k
  | .result n i => .result (φ n) i
  | .returned n => .returned (φ n)
  | .entry n => .entry (φ n)

/-- The same call of another node. -/
def Call.move (φ : NodeId → NodeId) (c : Call) : Call := ⟨φ c.node, c.index⟩

theorem Statement.call_move (φ : NodeId → NodeId) (s : Statement) :
    (s.move φ).call = s.call.move φ := by
  cases s <;> rfl

namespace Node

/-! ### Nodes of one method -/

variable {n n' : Node} {φ : NodeId → NodeId} {s t d : Statement} {i : Nat} {v : Value}
  {kind : Dependence}

theorem code_eq (hm : n'.method = n.method) : n'.code = n.code := by rw [code, code, hm]

theorem indices_eq (hm : n'.method = n.method) : n'.indices = n.indices := by
  rw [indices, indices, code_eq hm, hm]

theorem returnsValue_eq (hm : n'.method = n.method) : n'.returnsValue = n.returnsValue := by
  rw [returnsValue, returnsValue, signature, signature, hm]

theorem receivesResult_eq (hm : n'.method = n.method) : n'.receivesResult i = n.receivesResult i := by
  rw [receivesResult, receivesResult, code_eq hm]

theorem statementAt_move (hm : n'.method = n.method) (hid : φ n.id = n'.id) :
    (n.statementAt i).move φ = n'.statementAt i := by
  unfold statementAt
  rw [code_eq hm]
  split
  · rw [Statement.move, hid]
  · rw [Statement.move, hid]

theorem callPart_move (hm : n'.method = n.method) (hid : φ n.id = n'.id) (h : t ∈ n.callPartsAt i) :
    t.move φ ∈ n'.callPartsAt i := by
  rw [mem_callPartsAt] at h ⊢
  rcases h with h | ⟨hreceives, rfl⟩
  · obtain ⟨inst, k, hinst, hk, rfl⟩ := mem_actualsAt.mp h
    refine Or.inl (mem_actualsAt.mpr ⟨inst, k, ?_, hk, ?_⟩)
    · rwa [code_eq hm]
    · rw [Statement.move, hid]
  · refine Or.inr ⟨?_, ?_⟩
    · rwa [receivesResult_eq hm]
    · rw [Statement.move, hid]

theorem definition_move (hm : n'.method = n.method) (hid : φ n.id = n'.id)
    (h : n.definition? v = some d) : n'.definition? v = some (d.move φ) := by
  unfold definition? at h ⊢
  rw [hm, code_eq hm]
  split at h
  · next hparameter =>
      cases h
      rw [if_pos hparameter, Statement.move, hid]
  · next hparameter =>
      rw [if_neg hparameter]
      obtain ⟨i, hi, rfl⟩ := Option.map_eq_some_iff.mp h
      rw [hi, Option.map_some, Option.some.injEq]
      split
      · rw [Statement.move, hid]
      · exact (statementAt_move hm hid).symm

theorem useStatement_move (hm : n'.method = n.method) (hid : φ n.id = n'.id)
    (h : t ∈ n.useStatements i v) : t.move φ ∈ n'.useStatements i v := by
  unfold useStatements at h ⊢
  rw [code_eq hm]
  split at h
  · obtain ⟨⟨w, k⟩, hp, heq⟩ := List.mem_filterMap.mp h
    refine List.mem_filterMap.mpr ⟨(w, k), hp, ?_⟩
    split at heq
    · next hw =>
        cases heq
        rw [if_pos hw, Statement.move, hid]
    · cases heq
  · rw [List.mem_singleton.mp h, statementAt_move hm hid]
    exact List.mem_singleton_self _

/-- The statements of an activation, moved, are statements of the other one. -/
theorem statement_move (hm : n'.method = n.method) (hid : φ n.id = n'.id) (h : t ∈ n.statements) :
    t.move φ ∈ n'.statements := by
  rw [mem_statements] at h ⊢
  rcases h with rfl | h | ⟨i, hi, h⟩ | ⟨hreturns, rfl⟩
  · exact Or.inl (by rw [Statement.move, hid])
  · obtain ⟨k, hk, rfl⟩ := mem_formals.mp h
    refine Or.inr (Or.inl (mem_formals.mpr ⟨k, ?_, by rw [Statement.move, hid]⟩))
    rwa [hm]
  · refine Or.inr (Or.inr (Or.inl ⟨i, ?_, ?_⟩))
    · rwa [indices_eq hm]
    · rcases h with rfl | h
      · exact Or.inl (statementAt_move hm hid)
      · exact Or.inr (callPart_move hm hid h)
  · refine Or.inr (Or.inr (Or.inr ⟨?_, by rw [Statement.move, hid]⟩))
    rwa [returnsValue_eq hm]

/-- Dependence inside an activation is that of its method. -/
theorem Depends.move (hm : n'.method = n.method) (hid : φ n.id = n'.id) (h : n.Depends s kind t) :
    n'.Depends (s.move φ) kind (t.move φ) := by
  have hindices : ∀ {i}, i ∈ n.indices → i ∈ n'.indices := fun hi => by rwa [indices_eq hm]
  have hstatement : ∀ {i}, (n.statementAt i).move φ = n'.statementAt i := statementAt_move hm hid
  have hreturned : (Statement.returned n.id).move φ = .returned n'.id := by rw [Statement.move, hid]
  have hentry : (Statement.entry n.id).move φ = .entry n'.id := by rw [Statement.move, hid]
  cases h with
  | callPart hi ht =>
      rw [hstatement]
      exact .callPart (hindices hi) (callPart_move hm hid ht)
  | use hi hv hd hu =>
      refine .use (hindices hi) ?_ (definition_move hm hid hd) (useStatement_move hm hid hu)
      rwa [usesAt, code_eq hm]
  | returned hi hinst hreturns =>
      rw [← code_eq hm] at hinst
      rw [← returnsValue_eq hm] at hreturns
      rw [hstatement, hreturned]
      exact .returned (hindices hi) hinst hreturns
  | branch hrow hb =>
      rw [hstatement, hstatement]
      refine .branch ?_ hb
      rwa [code_eq hm]
  | unguarded hi hno =>
      rw [hstatement, hentry]
      refine .unguarded (hindices hi) ?_
      rwa [code_eq hm]

end Node

/-! ### Dependence between activations -/

open Solver (Refines)

variable {φ : NodeId → NodeId} {g g₀ : CallGraph} {heap heap₀ : PointsTo} {o : Options}
  {c s t : Statement} {stack stack' : List Call}

/-- A node has a counterpart of the same method. -/
theorem Solver.Refines.exists_node (h : Refines φ g heap g₀ heap₀) {n : Node} (hn : n ∈ g.nodes) :
    ∃ n₀ ∈ g₀.nodes, n₀.method = n.method ∧ φ n.id = n₀.id :=
  ⟨_, h.nodes n hn, rfl, rfl⟩

/-- Calls lead to the counterparts of what they activate. -/
theorem CallGraph.Calls.move (h : Refines φ g heap g₀ heap₀) {n m : Node} {i : Nat}
    (hcalls : g.Calls n i m) : ∃ n₀ m₀, n₀.method = n.method ∧ m₀.method = m.method ∧
      φ n.id = n₀.id ∧ φ m.id = m₀.id ∧ g₀.Calls n₀ i m₀ := by
  obtain ⟨hn, hm, inst, site, hinst, hsite, he⟩ := hcalls
  obtain ⟨n₀, hn₀, hmethodn, hidn⟩ := h.exists_node hn
  obtain ⟨m₀, hm₀, hmethodm, hidm⟩ := h.exists_node hm
  refine ⟨n₀, m₀, hmethodn, hmethodm, hidn, hidm, hn₀, hm₀, inst, site, ?_, hsite, ?_⟩
  · rwa [Node.code_eq hmethodn]
  · have hedge := h.edges _ he
    rwa [hidn, hidm] at hedge

namespace DependenceGraph

/-- An access touches the counterparts of the locations it touched. -/
theorem accessed_move (h : Refines φ g heap g₀ heap₀) {n : NodeId} {inst : Instruction} {l : Location}
    (hl : l ∈ accessed heap n inst) :
    l.map φ AbstractObject.project ∈ accessed heap₀ (φ n) inst := by
  have hvalue : ∀ {v : Value} {b}, b ∈ heap.get (.value n v) →
      b.project ∈ heap₀.get (.value (φ n) v) := fun hb => h.heap _ _ hb
  have hfield : ∀ {base f}, l ∈ accessed.fieldLocations heap n base f →
      l.map φ AbstractObject.project ∈ accessed.fieldLocations heap₀ (φ n) base f := by
    intro base f hl
    cases base with
    | none =>
        rw [List.mem_singleton.mp hl]
        exact List.mem_singleton_self _
    | some v =>
        obtain ⟨b, hb, rfl⟩ := List.mem_map.mp hl
        exact List.mem_map.mpr ⟨_, hvalue hb, rfl⟩
  cases inst with
  | getField r base f => exact hfield hl
  | putField base f v => exact hfield hl
  | arrayLoad r a i =>
      obtain ⟨b, hb, rfl⟩ := List.mem_map.mp hl
      exact List.mem_map.mpr ⟨_, hvalue hb, rfl⟩
  | arrayStore a i v =>
      obtain ⟨b, hb, rfl⟩ := List.mem_map.mp hl
      exact List.mem_map.mpr ⟨_, hvalue hb, rfl⟩
  | _ => cases hl

/-- Dependences lead to the counterparts of what they led to. -/
theorem Linked.move (h : Refines φ g heap g₀ heap₀) {kind : Dependence}
    (hlink : Linked g heap s kind t) : Linked g₀ heap₀ (s.move φ) kind (t.move φ) := by
  cases hlink with
  | inside hn hbody hdep =>
      obtain ⟨n₀, hn₀, hmethod, hid⟩ := h.exists_node hn
      exact .inside hn₀ (hmethod ▸ hbody) (hdep.move hmethod hid)
  | heap hn hstore hisStore hm hj hload hisLoad hwrites hreads =>
      obtain ⟨n₀, hn₀, hmethodn, hidn⟩ := h.exists_node hn
      obtain ⟨m₀, hm₀, hmethodm, hidm⟩ := h.exists_node hm
      rw [← Node.code_eq hmethodn] at hstore
      rw [← Node.code_eq hmethodm] at hload
      rw [← Node.indices_eq hmethodm] at hj
      have hwrites₀ := accessed_move h hwrites
      have hreads₀ := accessed_move h hreads
      rw [Statement.move, Statement.move, hidn, hidm]
      rw [hidn] at hwrites₀
      rw [hidm] at hreads₀
      exact .heap hn₀ hstore hisStore hm₀ hj hload hisLoad hwrites₀ hreads₀
  | param hcalls hk =>
      obtain ⟨n₀, m₀, _, hmethodm, hidn, hidm, hcalls₀⟩ := hcalls.move h
      rw [Statement.move, Statement.move, hidn, hidm]
      exact .param hcalls₀ (hmethodm ▸ hk)
  | call hcalls =>
      obtain ⟨n₀, m₀, _, _, hidn, hidm, hcalls₀⟩ := hcalls.move h
      rw [Statement.move, Statement.move, hidn, hidm]
      exact .call hcalls₀
  | ret hcalls hreceives =>
      obtain ⟨n₀, m₀, hmethodn, _, hidn, hidm, hcalls₀⟩ := hcalls.move h
      rw [Statement.move, Statement.move, hidn, hidm]
      refine .ret hcalls₀ ?_
      rwa [Node.receivesResult_eq hmethodn]

theorem statements_move (h : Refines φ g heap g₀ heap₀) (hs : s ∈ (ofGraph g heap o).statements) :
    s.move φ ∈ (ofGraph g₀ heap₀ o).statements := by
  obtain ⟨n, hn, hs⟩ := mem_statements.mp hs
  rw [ofGraph_graph] at hn
  obtain ⟨n₀, hn₀, hmethod, hid⟩ := h.exists_node hn
  refine mem_statements.mpr ⟨n₀, ?_, Node.statement_move hmethod hid hs⟩
  rwa [ofGraph_graph]

end DependenceGraph

/-! ### Paths and slices -/

/-- The stack of a moved dependence is the moved stack. -/
theorem Link.advance_move {l : Link} (h : l.advance stack = some stack') :
    (⟨l.source.move φ, l.kind, l.target.move φ⟩ : Link).advance (stack.map (Call.move φ)) =
      some (stack'.map (Call.move φ)) := by
  obtain ⟨source, kind, target⟩ := l
  cases kind with
  | data =>
      cases h
      rfl
  | control =>
      cases h
      rfl
  | heap =>
      cases h
      rfl
  | param =>
      cases h
      simp [Link.advance, Statement.call_move]
  | call =>
      cases h
      simp [Link.advance, Statement.call_move]
  | ret =>
      cases stack with
      | nil =>
          cases h
          rfl
      | cons call rest =>
          simp only [Link.advance] at h
          split at h
          · next heq =>
              cases h
              simp [Link.advance, Statement.call_move, ← heq]
          · cases h
  | summary => cases h

/-- A realizable path, moved, is realizable. -/
theorem Realizable.move (hg : g.Indexed) (hg₀ : g₀.Indexed) (h : Refines φ g heap g₀ heap₀)
    (hpath : Realizable (.ofGraph g heap o) c t stack) :
    Realizable (.ofGraph g₀ heap₀ o) (c.move φ) (t.move φ) (stack.map (Call.move φ)) := by
  induction hpath with
  | start => exact .start
  | @follow s stack stack' l _ hl hadvance ih =>
      obtain ⟨hsource, henabled, hlink⟩ :=
        (DependenceGraph.mem_successors (DependenceGraph.assembled_ofGraph hg)).mp hl
      rcases hlink with hlink | hshort
      · refine .follow ih (l := ⟨l.source.move φ, l.kind, l.target.move φ⟩) ?_
          (Link.advance_move hadvance)
        refine (DependenceGraph.mem_successors (DependenceGraph.assembled_ofGraph hg₀)).mpr ?_
        rw [DependenceGraph.ofGraph_graph, DependenceGraph.ofGraph_heap] at hlink ⊢
        rw [DependenceGraph.ofGraph_options] at henabled ⊢
        exact ⟨by rw [hsource], henabled, Or.inl (hlink.move h)⟩
      · -- A summary is never a step of a path.
        obtain ⟨source, kind, target⟩ := l
        cases hshort with
        | across _ => cases hadvance

/-- A slice, moved, lies inside the slice from the moved criterion. -/
theorem DependenceGraph.slice_move (hg : g.Built Method.Parsed) (hg₀ : g₀.Built Method.Parsed)
    (h : Refines φ g heap g₀ heap₀) (hc : c ∈ (ofGraph g heap o).statements)
    (ht : t ∈ (ofGraph g heap o).slice c) : t.move φ ∈ (ofGraph g₀ heap₀ o).slice (c.move φ) := by
  obtain ⟨stack, hpath⟩ := (mem_slice_iff hg hc).mp ht
  exact (mem_slice_iff hg₀ (statements_move h hc)).mpr ⟨_, hpath.move hg.indexed hg₀.indexed h⟩

/-- What a slice holds are statements. -/
theorem DependenceGraph.mem_statements_of_slice (hg : g.Built Method.Parsed)
    (hc : c ∈ (ofGraph g heap o).statements) (ht : t ∈ (ofGraph g heap o).slice c) :
    t ∈ (ofGraph g heap o).statements := by
  obtain ⟨phase, hvisited⟩ := mem_slice.mp ht
  exact mem_statements_of_visited (closed_ofGraph hg) hc hvisited

/-- The graph of a solved program is made over methods that were read. -/
theorem Solver.built_solve {p : Program} (hp : p.Parsed) (e : Exclusions) (a : Algorithm)
    (en : Enumeration) {entries : List Method} (hentries : ∀ m ∈ entries, m ∈ p.methods) :
    (solve ⟨.ofProgram p e, a, en⟩ entries).graph.Built Method.Parsed :=
  (coherent_solve (unambiguous_of_parsed hp e a en hentries)).graph.mono fun _ hm =>
    ⟨p, hp, mem_methods_of_mem hentries hm⟩

/-- More context never adds to a slice. Both slices exist; each statement of a slice under any analysis
    belongs to a node, the plain analysis has the node of the same method, and the statement moved there
    is in the plain slice from the criterion moved likewise. -/
theorem slice_refines_plain {p : Program} (hp : p.Parsed) (e : Exclusions) (a : Algorithm)
    (en : Enumeration) {entries : List Method} (hentries : ∀ m ∈ entries, m ∈ p.methods) (o : Options) :
    let R := Solver.solve ⟨.ofProgram p e, a, en⟩ entries
    let R₀ := Solver.solve ⟨.ofProgram p e, .plain, en⟩ entries
    let φ := Solver.projection R.graph R₀.graph
    ∀ {s s₀ : Slicer}, s.Used R.graph R.heap → s₀.Used R₀.graph R₀.heap →
      ∀ c ∈ (DependenceGraph.ofGraph R.graph R.heap o).statements,
        ∃ slice slice₀, (s.slice c o).2 = .ok slice ∧ (s₀.slice (c.move φ) o).2 = .ok slice₀ ∧
          ∀ t ∈ slice, t.move φ ∈ slice₀ ∧
            ∃ n ∈ R.graph.nodes, n.id = t.node ∧
              { n with id := φ n.id, context := .everywhere } ∈ R₀.graph.nodes := by
  intro R R₀ φ s s₀ hs hs₀ c hc
  have hg : R.graph.Built Method.Parsed := Solver.built_solve hp e a en hentries
  have hg₀ : R₀.graph.Built Method.Parsed := Solver.built_solve hp e .plain en hentries
  have hrefines : Refines φ R.graph R.heap R₀.graph R₀.heap :=
    Solver.refines_solve (Solver.unambiguous_of_parsed hp e a en hentries)
  refine ⟨_, _, hs.slice_eq hg hc, hs₀.slice_eq hg₀ (DependenceGraph.statements_move hrefines hc), ?_⟩
  intro t ht
  refine ⟨DependenceGraph.slice_move hg hg₀ hrefines hc ht, ?_⟩
  have hstatement := DependenceGraph.mem_statements_of_slice hg hc ht
  obtain ⟨n, hn, htn⟩ := DependenceGraph.mem_statements.mp hstatement
  rw [DependenceGraph.ofGraph_graph] at hn
  exact ⟨n, hn, (Node.node_of_mem_statements htn).symm, hrefines.nodes n hn⟩

/-- The object that is passed through one method twice, sliced from its creation: in a context for each
    call, and in one for both. -/
theorem slice_refines_plain_twoCalls :
    TwoCalls.program.Parsed ∧ TwoCalls.main ∈ TwoCalls.program.methods ∧
    let R := Solver.solve ⟨.ofProgram TwoCalls.program {}, .callSite, .asFound⟩ [TwoCalls.main]
    let R₀ := Solver.solve ⟨.ofProgram TwoCalls.program {}, .plain, .asFound⟩ [TwoCalls.main]
    let φ := Solver.projection R.graph R₀.graph
    let s : Slicer := ⟨R.graph, R.heap, []⟩
    let s₀ : Slicer := ⟨R₀.graph, R₀.heap, []⟩
    let c : Statement := .normal 0 0
    (s.Used R.graph R.heap ∧ s₀.Used R₀.graph R₀.heap ∧
      c ∈ (DependenceGraph.ofGraph R.graph R.heap {}).statements) ∧
    ∃ slice slice₀, (s.slice c {}).2 = .ok slice ∧ (s₀.slice (c.move φ) {}).2 = .ok slice₀ ∧
      ∀ t ∈ slice, t.move φ ∈ slice₀ ∧
        ∃ n ∈ R.graph.nodes, n.id = t.node ∧
          { n with id := φ n.id, context := .everywhere } ∈ R₀.graph.nodes := by
  refine ⟨TwoCalls.parsed, TwoCalls.main_mem, ?_⟩
  intro R R₀ φ s s₀ c
  have hentries : ∀ m ∈ [TwoCalls.main], m ∈ TwoCalls.program.methods :=
    List.forall_mem_singleton.mpr TwoCalls.main_mem
  have hnode : ⟨0, TwoCalls.main, .everywhere⟩ ∈ R.graph.nodes :=
    Solver.mem_nodes_solve (Solver.unambiguous_of_parsed TwoCalls.parsed {} .callSite .asFound hentries)
      List.mem_cons_self
  have hc : c ∈ (DependenceGraph.ofGraph R.graph R.heap {}).statements := by
    refine DependenceGraph.mem_statements.mpr ⟨_, ?_, TwoCalls.new_mem_statements⟩
    rwa [DependenceGraph.ofGraph_graph]
  exact ⟨⟨.fresh, .fresh, hc⟩,
    slice_refines_plain TwoCalls.parsed {} .callSite .asFound hentries {} .fresh .fresh c hc⟩

end TaintFlow
