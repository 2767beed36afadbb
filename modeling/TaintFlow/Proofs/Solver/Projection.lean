/-
Module: TaintFlow.Proofs.Solver.Projection
Purpose: The analyses that tell more apart find nothing that the plain analysis does not find. Projection
  forgets the context of an activation and all of an object but its type. Each rule commutes with it:
  what follows from some facts by the rules of any analysis follows, projected, from the projected facts
  by the rules of the plain one. So the facts whose projections the plain analysis finds are closed for
  every analysis, and the least closed set lies inside.
Main exports: Solver.Fact.project, Solver.closed_preimage, Solver.Refines, Solver.refines_solve,
  Solver.solve_refines_plain
-/
import TaintFlow.Proofs.Solver.Least

namespace TaintFlow

/-! ### Projections -/

/-- An object of which only the type is known. -/
def AbstractObject.project (o : AbstractObject) : AbstractObject := .ofType o.type

/-- An activation whose context is forgotten. -/
def Activation.project (a : Activation) : Activation := ⟨a.signature, .everywhere⟩

namespace Solver

/-- A place in the plain analysis. -/
abbrev Place.project (p : Place) : Place := p.map Activation.project AbstractObject.project

/-- A fact in the plain analysis. -/
abbrev Fact.project (f : Fact) : Fact := f.map Activation.project AbstractObject.project

/-- The plain analysis of the same classes. -/
def Setting.plain (S : Setting) : Setting := { S with algorithm := .plain }

variable {S : Setting} {entries : List Method} {X : Set Fact} {a : Activation}

/-- The facts whose projections are among the given ones. -/
def preimage (X : Set Fact) : Set Fact := {f | f.project ∈ X}

/-! ### Rules commute with projection -/

theorem type_object (alg : Algorithm) (m : Signature) (i : Nat) (t : TypeName) :
    (alg.object m i t).type = t := by
  cases alg <;> rfl

/-- Flow commutes with projection. A cast lets an object through by its type. -/
theorem Flows.project {i : Nat} {inst : Instruction} {p : Place} {o : AbstractObject}
    (h : Flows S (preimage X) a i inst p o) :
    Flows S.plain X a.project i inst p.project o.project := by
  cases h with
  | new =>
      rw [AbstractObject.project, type_object]
      exact .new
  | phi hv ho => exact .phi hv ho
  | cast ho hadmits => exact .cast ho hadmits
  | getStatic ho => exact .getStatic ho
  | getField hb ho => exact .getField hb ho
  | putStatic ho => exact .putStatic ho
  | putField hb ho => exact .putField hb ho
  | arrayLoad hb ho => exact .arrayLoad hb ho
  | arrayStore hb ho => exact .arrayStore hb ho
  | ret ho => exact .ret ho

/-- A call that activates a method in the plain analysis where another activates it: the object it was
    dispatched on is the projected one, or it is not told apart and reaches the receiver. -/
structure Covers (X : Set Fact) (a : Activation) (arguments : List Value) (c c₀ : Callee) : Prop where
  method : c₀.method = c.method
  unsplit : c.receiver = none → c₀.receiver = none
  receiver : ∀ {o}, c.receiver = some o → c₀.receiver = some o.project ∨
    (c₀.receiver = none ∧
      ∃ v, arguments.head? = some v ∧ .holds (.value a.project v) o.project ∈ X)

/-- Dispatch commutes with projection. A special call on several receivers, which the container
    analysis tells apart, is one call here. -/
theorem Activates.project {site : CallSite} {arguments : List Value} {c : Callee}
    (h : Activates S (preimage X) a site arguments c) :
    ∃ c₀, Activates S.plain X a.project site arguments c₀ ∧ Covers X a arguments c c₀ := by
  cases h with
  | static hkind hm =>
      exact ⟨_, .static hkind hm, rfl, fun _ => rfl, fun ho => nomatch ho⟩
  | joint hkind _ hm hv ho =>
      exact ⟨_, .joint hkind rfl hm hv ho, rfl, fun _ => rfl, fun ho => nomatch ho⟩
  | split hkind _ hm hv ho =>
      refine ⟨_, .joint hkind rfl hm hv ho, rfl, fun _ => rfl, ?_⟩
      intro o heq
      cases heq
      exact Or.inr ⟨rfl, _, hv, ho⟩
  | @dispatch m v o hkind hv ho hm =>
      refine ⟨{ method := m, receiver := some o.project }, .dispatch hkind hv ho hm, rfl, ?_, ?_⟩
      · intro hnone
        cases hnone
      · intro o' heq
        cases heq
        exact Or.inl rfl

/-- Calls commute with projection. -/
theorem Called.project {result : Option Value} {site : CallSite} {arguments : List Value}
    {c c₀ : Callee} (hc : Covers X a arguments c c₀) {f : Fact}
    (h : Called S (preimage X) a result site arguments c f) :
    Called S.plain X a.project result site arguments c₀ f.project := by
  have hactivation : (S.activation a site c).project = S.plain.activation a.project site c₀ := by
    rw [Setting.activation, Setting.activation, hc.method]
    rfl
  have htakes : c.Takes arguments → c₀.Takes arguments := by
    unfold Callee.Takes
    rw [hc.method]
    exact id
  cases h with
  | node =>
      rw [Fact.project, Fact.map, hactivation]
      exact .node
  | edge =>
      rw [Fact.project, Fact.map, hactivation]
      exact .edge
  | receiver ht hv ho =>
      rw [Fact.project, Fact.map, Place.map, hactivation]
      rcases hc.receiver ho with ho | ⟨hnone, w, hw, hheld⟩
      · exact .receiver (htakes ht) hv ho
      · rw [List.head?_eq_getElem?] at hw
        exact .argument (htakes ht) hw (fun _ => hnone) hheld
  | argument ht hv hk ho =>
      rw [Fact.project, Fact.map, Place.map, hactivation]
      exact .argument (htakes ht) hv (fun h => hc.unsplit (hk h)) ho
  | result hr ho =>
      refine .result hr ?_
      rw [← hactivation]
      exact ho

/-- What an activation does commutes with projection. -/
theorem Visits.project {m : Method} {f : Fact} (h : Visits S (preimage X) a m f) :
    Visits S.plain X a.project m f.project := by
  cases h with
  | execute hbody hi h =>
      cases h with
      | flow hflow => exact .execute hbody hi (.flow hflow.project)
      | call hc hf =>
          obtain ⟨c₀, hc₀, hcovers⟩ := hc.project
          exact .execute hbody hi (.call hc₀ (hf.project hcovers))
  | native hbody hnative ht href => exact .native hbody hnative ht href

/-- The rules commute with projection. -/
theorem Rule.project {f : Fact} (h : Rule S entries (preimage X) f) :
    Rule S.plain entries X f.project := by
  cases h with
  | entry hm => exact .entry hm
  | seed hm hseeded => exact .seed hm hseeded
  | visit hactive hf =>
      exact .visit ⟨hactive.known, hactive.method, hactive.signature⟩ hf.project

/-- What the plain analysis finds, seen through projection, is closed for every analysis. -/
theorem closed_preimage (hX : Closed S.plain entries X) : Closed S entries (preimage X) :=
  fun _ hf => hX _ hf.project

/-! ### Refinement -/

/-- A call graph and a points-to map, projected, lie inside others: the nodes without their contexts, the
    edges between them, and the points-to facts about the types of objects. -/
structure Refines (φ : NodeId → NodeId) (g : CallGraph) (heap : PointsTo) (g₀ : CallGraph)
    (heap₀ : PointsTo) : Prop where
  nodes : ∀ n ∈ g.nodes, { n with id := φ n.id, context := .everywhere } ∈ g₀.nodes
  edges : ∀ e ∈ g.edges, ⟨φ e.caller, e.site, φ e.callee⟩ ∈ g₀.edges
  heap : ∀ l o, o ∈ heap.get l → o.project ∈ heap₀.get (l.map φ AbstractObject.project)

/-- The number of the node that has a node's method and no context. -/
abbrev projection (g g₀ : CallGraph) : NodeId → NodeId := CallGraph.relabel Activation.project g g₀

theorem refines_of_facts {σ σ₀ : State} (hσ : σ.Coherent S entries) (hσ₀ : σ₀.Coherent S entries)
    (hS : S.Unambiguous entries) (h : ∀ f ∈ σ.facts, f.project ∈ σ₀.facts) :
    Refines (projection σ.graph σ₀.graph) σ.graph σ.heap σ₀.graph σ₀.heap where
  nodes _ hn := relabel_node_mem hσ hσ₀ hS h (fun _ => rfl) hn
  edges _ he := relabel_edge_mem hσ hσ₀ h he
  heap _ _ ho := relabel_holds hσ hσ₀ h ho

/-- Solving with any analysis refines solving with the plain one. -/
theorem refines_solve (hS : S.Unambiguous entries) :
    Refines (projection (solve S entries).graph (solve S.plain entries).graph)
      (solve S entries).graph (solve S entries).heap
      (solve S.plain entries).graph (solve S.plain entries).heap := by
  have hS₀ : S.plain.Unambiguous entries := hS
  have hclosed := closed_preimage (isLeast_facts_solve hS₀).1
  have hsub := (isLeast_facts_solve hS).2 hclosed
  -- Coherence is about the methods at hand, which are the same under every analysis.
  obtain ⟨hgraph, hheap, hnamed⟩ := coherent_solve hS₀
  exact refines_of_facts (coherent_solve hS) ⟨hgraph, hheap, hnamed⟩ hS fun f hf => hsub hf

/-- Every analysis refines the plain one: forget the contexts of activations and all of the objects but
    their types, and the nodes, the edges and the points-to facts that are found are among those that the
    plain analysis finds. -/
theorem solve_refines_plain {p : Program} (hp : p.Parsed) (e : Exclusions) (a : Algorithm)
    (en : Enumeration) {entries : List Method} (hentries : ∀ m ∈ entries, m ∈ p.methods) :
    let R := solve ⟨.ofProgram p e, a, en⟩ entries
    let R₀ := solve ⟨.ofProgram p e, .plain, en⟩ entries
    Refines (projection R.graph R₀.graph) R.graph R.heap R₀.graph R₀.heap :=
  refines_solve (unambiguous_of_parsed hp e a en hentries)

/-- Two calls of one method: an activation for each call, and one for both in the plain analysis. -/
theorem solve_refines_plain_twoCalls :
    TwoCalls.program.Parsed ∧ TwoCalls.main ∈ TwoCalls.program.methods ∧
    let R := solve ⟨.ofProgram TwoCalls.program {}, .callSite, .asFound⟩ [TwoCalls.main]
    let R₀ := solve ⟨.ofProgram TwoCalls.program {}, .plain, .asFound⟩ [TwoCalls.main]
    Refines (projection R.graph R₀.graph) R.graph R.heap R₀.graph R₀.heap :=
  ⟨TwoCalls.parsed, TwoCalls.main_mem,
    solve_refines_plain TwoCalls.parsed {} .callSite .asFound
      (List.forall_mem_singleton.mpr TwoCalls.main_mem)⟩

end Solver

end TaintFlow
