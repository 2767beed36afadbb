/-
Module: TaintFlow.Proofs.Solver.Least
Purpose: The loop of the solver ends in the least solution of the constraint system. Its rounds are runs,
  and it stops where a round adds nothing, so the facts at its end are closed; being those of a run, they
  belong to every closed set. Every other order of work that comes to an end comes to the same facts, and
  differs in the numbers of the nodes at most.
Main exports: Solver.Solution.facts, Solver.Renumbered, Solver.renumbered_of_facts_eq,
  Solver.exists_run_solve, Solver.solve_isLeast_closed
-/
import TaintFlow.Proofs.Dump.Formed
import TaintFlow.Proofs.Solver.Bound

namespace TaintFlow

namespace Solver

variable {S : Setting} {entries : List Method} {σ τ : State}

/-- The state in which a program is solved. -/
def Solution.state (R : Solution) : State := ⟨R.graph, R.heap, R.notices⟩

/-- The facts of a solved program. -/
def Solution.facts (R : Solution) : Set Fact := R.state.facts

/-! ### Renaming

Where the facts of one state, renamed, are facts of another, the nodes, the edges and the map of the one
are found in the other under the numbers that the new names have there. -/

section

variable {π : Activation → Activation} {ψ : AbstractObject → AbstractObject}

/-- A node has a counterpart of the new name. -/
theorem exists_relabel (hσ : σ.Coherent S entries) (hτ : τ.Coherent S entries)
    (h : ∀ f ∈ σ.facts, f.map π ψ ∈ τ.facts) {n : Node} (hn : n ∈ σ.graph.nodes) :
    ∃ n' ∈ τ.graph.nodes, n'.activation = π n.activation ∧
      CallGraph.relabel π σ.graph τ.graph n.id = n'.id := by
  obtain ⟨n', hn', hname⟩ := node_mem_facts.mp (h _ (.node hn))
  exact ⟨n', hn', hname, hσ.indexed.relabel_eq hτ.indexed hn hn' hname⟩

/-- If the new name is in the same signature, the counterpart is a node of the same method. -/
theorem relabel_node_mem (hσ : σ.Coherent S entries) (hτ : τ.Coherent S entries)
    (hS : S.Unambiguous entries) (h : ∀ f ∈ σ.facts, f.map π ψ ∈ τ.facts)
    (hπ : ∀ a, (π a).signature = a.signature) {n : Node} (hn : n ∈ σ.graph.nodes) :
    ⟨CallGraph.relabel π σ.graph τ.graph n.id, n.method, (π n.activation).context⟩ ∈
      τ.graph.nodes := by
  obtain ⟨n', hn', hname, hid⟩ := exists_relabel hσ hτ h hn
  have hsignature : n'.method.signature = n.method.signature :=
    (congrArg Activation.signature hname).trans (hπ n.activation)
  have hmethod := hS _ (hτ.graph.method n' hn') _ (hσ.graph.method n hn) hsignature
  rw [hid, ← hmethod, ← hname]
  exact hn'

theorem relabel_edge_mem (hσ : σ.Coherent S entries) (hτ : τ.Coherent S entries)
    (h : ∀ f ∈ σ.facts, f.map π ψ ∈ τ.facts) {e : Edge} (he : e ∈ σ.graph.edges) :
    ⟨CallGraph.relabel π σ.graph τ.graph e.caller, e.site,
      CallGraph.relabel π σ.graph τ.graph e.callee⟩ ∈ τ.graph.edges := by
  obtain ⟨a, ha, b, hb, heq⟩ := hσ.indexed.exists_ends he
  rw [heq] at he ⊢
  obtain ⟨a', ha', hnamea, hida⟩ := exists_relabel hσ hτ h ha
  obtain ⟨b', hb', hnameb, hidb⟩ := exists_relabel hσ hτ h hb
  have hedge : .edge (π a.activation) e.site (π b.activation) ∈ τ.facts := h _ (.edge ha hb he)
  rw [← hnamea, ← hnameb] at hedge
  rw [hida, hidb]
  exact (edge_mem_facts hτ.indexed ha' hb').mp hedge

theorem relabel_holds (hσ : σ.Coherent S entries) (hτ : τ.Coherent S entries)
    (h : ∀ f ∈ σ.facts, f.map π ψ ∈ τ.facts) {l : Location} {o : AbstractObject}
    (ho : o ∈ σ.heap.get l) :
    ψ o ∈ τ.heap.get (l.map (CallGraph.relabel π σ.graph τ.graph) ψ) := by
  obtain ⟨p, hl⟩ := hσ.named ho
  obtain ⟨l', hl', hheld⟩ := holds_mem_facts_iff.mp (h _ (.holds hl ho))
  rw [← hl.eq_map hσ.indexed hτ.indexed hl']
  exact hheld

end

/-! ### Renumbering -/

/-- Two results are the same up to the numbers of their nodes. -/
structure Renumbered (ρ : NodeId → NodeId) (g : CallGraph) (heap : PointsTo) (g' : CallGraph)
    (heap' : PointsTo) : Prop where
  injective : ∀ a ∈ g.nodes, ∀ b ∈ g.nodes, ρ a.id = ρ b.id → a = b
  nodes : ∀ n', n' ∈ g'.nodes ↔ ∃ n ∈ g.nodes, n' = { n with id := ρ n.id }
  edges : ∀ e', e' ∈ g'.edges ↔ ∃ e ∈ g.edges, e' = ⟨ρ e.caller, e.site, ρ e.callee⟩
  heap : ∀ l' o, o ∈ heap'.get l' ↔ ∃ l, o ∈ heap.get l ∧ l' = l.map ρ id

/-- The number of a node in another graph. -/
abbrev renumbering (g g' : CallGraph) : NodeId → NodeId := CallGraph.relabel id g g'

/-- Renumbering there and back again changes nothing. -/
theorem renumbering_renumbering (hσ : σ.Coherent S entries) (hτ : τ.Coherent S entries)
    (h : ∀ f ∈ σ.facts, f.map id id ∈ τ.facts) {n : Node} (hn : n ∈ σ.graph.nodes) :
    renumbering τ.graph σ.graph (renumbering σ.graph τ.graph n.id) = n.id := by
  obtain ⟨n', hn', hname, hid⟩ := exists_relabel hσ hτ h hn
  rw [renumbering, renumbering, hid]
  exact hτ.indexed.relabel_eq hσ.indexed hn' hn hname.symm

/-- States of the same facts are the same up to the numbers of their nodes. -/
theorem renumbered_of_facts_eq (hσ : σ.Coherent S entries) (hτ : τ.Coherent S entries)
    (hS : S.Unambiguous entries) (h : σ.facts = τ.facts) :
    Renumbered (renumbering σ.graph τ.graph) σ.graph σ.heap τ.graph τ.heap := by
  have hto : ∀ f ∈ σ.facts, f.map id id ∈ τ.facts := by
    intro f hf
    rwa [f.map_id, ← h]
  have hfrom : ∀ f ∈ τ.facts, f.map id id ∈ σ.facts := by
    intro f hf
    rwa [f.map_id, h]
  constructor
  · intro a ha b hb hsame
    refine hσ.indexed.eq_of_id_eq ha hb ?_
    rw [← renumbering_renumbering hσ hτ hto ha, hsame, renumbering_renumbering hσ hτ hto hb]
  · intro n'
    constructor
    · intro hn'
      have hn : { n' with id := renumbering τ.graph σ.graph n'.id } ∈ σ.graph.nodes :=
        relabel_node_mem hτ hσ hS hfrom (fun _ => rfl) hn'
      refine ⟨_, hn, ?_⟩
      rw [renumbering_renumbering hτ hσ hfrom hn']
    · rintro ⟨n, hn, rfl⟩
      exact relabel_node_mem hσ hτ hS hto (fun _ => rfl) hn
  · intro e'
    constructor
    · intro he
      obtain ⟨a, ha, b, hb, heq⟩ := hτ.indexed.exists_ends he
      refine ⟨_, relabel_edge_mem hτ hσ hfrom he, ?_⟩
      rw [heq, renumbering_renumbering hτ hσ hfrom ha, renumbering_renumbering hτ hσ hfrom hb]
    · rintro ⟨e, he, heq⟩
      rw [heq]
      exact relabel_edge_mem hσ hτ hto he
  · intro l' o
    constructor
    · intro ho
      obtain ⟨p, hl'⟩ := hτ.named ho
      obtain ⟨l, hl, hheld⟩ := holds_mem_facts_iff.mp (h.superset (.holds hl' ho))
      exact ⟨l, hheld, hl.eq_map hσ.indexed hτ.indexed (p.map_id.symm ▸ hl')⟩
    · rintro ⟨l, ho, rfl⟩
      exact relabel_holds hσ hτ hto ho

/-! ### Closed states are settled -/

/-- A state that has grown but shows no new fact has nothing new. -/
theorem below_of_facts_subset (hσ : σ.Coherent S entries) (hτ : τ.Coherent S entries)
    (hbelow : σ.Below τ) (h : τ.facts ⊆ σ.facts) : τ.Below σ := by
  have hnodes : ∀ n ∈ τ.graph.nodes, n ∈ σ.graph.nodes := by
    intro n hn
    obtain ⟨k, hk, hname⟩ := node_mem_facts.mp (h (.node hn))
    rw [← hτ.indexed.eq_of_activation_eq (hbelow.nodes k hk) hn hname]
    exact hk
  refine ⟨hnodes, ?_, ?_⟩
  · intro e he
    obtain ⟨a, ha, b, hb, heq⟩ := hτ.indexed.exists_ends he
    rw [heq] at he ⊢
    exact (edge_mem_facts hσ.indexed (hnodes a ha) (hnodes b hb)).mp (h (.edge ha hb he))
  · intro l o ho
    obtain ⟨q, hl⟩ := hτ.named ho
    obtain ⟨l', hl', hheld⟩ := holds_mem_facts_iff.mp (h (.holds hl ho))
    rw [hl.eq_location hτ.indexed (hl'.mono hbelow.nodes)]
    exact hheld

/-- Facts are listed once, so a state that has nothing new is not larger. -/
theorem size_le_of_below (hσ : σ.Coherent S entries) (hτ : τ.Coherent S entries)
    (h : τ.Below σ) : τ.size ≤ σ.size := by
  have hedges := (hτ.indexed.edges.subperm h.edges).length_le
  have hheap : τ.heap.facts ⊆ σ.heap.facts := by
    rintro ⟨l, o⟩ hmem
    exact hσ.heap.mem_facts.mpr (h.heap (hτ.heap.mem_facts.mp hmem))
  have hlength := (hτ.heap.nodup_facts.subperm hheap).length_le
  rw [PointsTo.length_facts, PointsTo.length_facts] at hlength
  exact Nat.add_le_add hedges hlength

/-- Where the facts are closed, there is no more work to do. -/
theorem settled_of_closed (hτ : τ.Coherent S entries) (hclosed : Closed S entries τ.facts) :
    τ.Settled S := by
  intro n hn
  have hsteps := steps_visit hτ hn
  have hvisit := Steps.coherent hτ hsteps
  refine size_le_of_below hτ hvisit (below_of_facts_subset hτ hvisit (Steps.grows hτ hsteps).below ?_)
  exact Steps.facts_subset hτ hclosed (Set.Subset.refl _) hsteps

/-! ### The loop -/

/-- Visiting activations that are known is a run. -/
theorem run_visits (hσ : σ.Coherent S entries) {ns : List Node} (hns : ∀ n ∈ ns, n ∈ σ.graph.nodes) :
    Run S σ (ns.foldl (fun σ n => σ.visit S n) σ) := by
  induction ns generalizing σ with
  | nil => exact .refl
  | cons n ns ih =>
      obtain ⟨hn, hns⟩ := List.forall_mem_cons.mp hns
      have hsteps := steps_visit hσ hn
      have hbelow := (Steps.grows hσ hsteps).below
      exact .head (.visit hn) (ih (Steps.coherent hσ hsteps) fun k hk => hbelow.nodes k (hns k hk))

theorem run_round (hσ : σ.Coherent S entries) : Run S σ (σ.round S) :=
  run_visits hσ fun _ hn => hn

/-- Where a round adds nothing, the facts are closed. -/
theorem closed_of_round (h : Run S (initial entries) σ) (hS : S.Unambiguous entries)
    (hsize : (σ.round S).size ≤ σ.size) : Closed S entries (σ.round S).facts := by
  have hround := run_round h.coherent
  have hback := (Steps.grows h.coherent (Run.steps h.coherent hround)).same hsize
  refine closed_of_visits (h.trans hround) hS ?_
  intro n hn f hf
  refine mem_facts_foldl h.coherent (hback.nodes n hn) ?_ ?_
  · intro τ hτ k hk
    exact steps_visit_of_mem h.coherent hk hτ
  · intro τ hτ
    have hbelow := (Steps.grows h.coherent hτ).below
    refine visits_subset_facts (Steps.coherent h.coherent hτ) (hbelow.nodes n (hback.nodes n hn)) ?_
    exact hf.mono (hback.trans hbelow).facts_subset

/-- The loop ends in a state of a run whose facts are closed. The limit does not cut it short: no state
    is larger, so a state that has reached the limit does not grow in the next round. -/
theorem exists_run_saturate (h : Run S (initial entries) σ) (hS : S.Unambiguous entries)
    (rounds : Nat) :
    ∃ τ, Run S (initial entries) τ ∧ Closed S entries τ.facts ∧
      (saturate S (sizeLimit (S.methods entries)) σ rounds).graph = τ.graph ∧
      (saturate S (sizeLimit (S.methods entries)) σ rounds).heap = τ.heap := by
  fun_induction saturate S (sizeLimit (S.methods entries)) σ rounds with
  | case1 σ rounds next hcond ih => exact ih (h.trans (run_round h.coherent))
  | case2 σ rounds next hcond =>
      have hnext := h.trans (run_round h.coherent)
      have hbound := Run.size_le_sizeLimit hnext
      refine ⟨next, hnext, closed_of_round h hS ?_, rfl, rfl⟩
      change next.size ≤ σ.size
      change next.size ≤ _ at hbound
      omega

/-- A solved program is the end of a run, and its facts are closed. -/
theorem exists_run_solve (hS : S.Unambiguous entries) :
    ∃ τ, Run S (initial entries) τ ∧ Closed S entries τ.facts ∧
      (solve S entries).graph = τ.graph ∧ (solve S entries).heap = τ.heap :=
  exists_run_saturate .refl hS 0

/-- The activations of the entrypoints stay. -/
theorem mem_nodes_solve (hS : S.Unambiguous entries) {n : Node}
    (hn : n ∈ (initial entries).graph.nodes) : n ∈ (solve S entries).graph.nodes := by
  obtain ⟨τ, hrun, _, hgraph, _⟩ := exists_run_solve hS
  rw [hgraph]
  exact (Steps.grows coherent_initial (Run.steps coherent_initial hrun)).below.nodes n hn

theorem coherent_solve (hS : S.Unambiguous entries) :
    (solve S entries).state.Coherent S entries := by
  obtain ⟨τ, hrun, _, hgraph, hheap⟩ := exists_run_solve hS
  have hτ := Run.coherent hrun
  rw [Solution.state, hgraph, hheap]
  exact ⟨hτ.graph, hτ.heap, hτ.named⟩

/-- Solving gives the least closed set of facts. -/
theorem isLeast_facts_solve (hS : S.Unambiguous entries) :
    IsLeast {X | Closed S entries X} (solve S entries).facts := by
  obtain ⟨τ, hrun, hclosed, hgraph, hheap⟩ := exists_run_solve hS
  have hfacts : (solve S entries).facts = τ.facts := by
    rw [Solution.facts, Solution.state, State.facts, State.facts, hgraph, hheap]
  rw [hfacts]
  exact ⟨hclosed, fun Y hY => Run.facts_subset hrun hY⟩

/-! ### Parsed programs -/

/-- The methods at hand when a program is solved are methods of the program. -/
theorem mem_methods_of_mem {p : Program} {e : Exclusions} {a : Algorithm} {en : Enumeration}
    (hentries : ∀ m ∈ entries, m ∈ p.methods) {m : Method}
    (hm : m ∈ Setting.methods ⟨.ofProgram p e, a, en⟩ entries) : m ∈ p.methods := by
  rcases List.mem_append.mp hm with hm | hm
  · exact hentries m hm
  · obtain ⟨c, hc, hm⟩ := List.mem_flatMap.mp hm
    exact List.mem_flatMap.mpr ⟨c, List.mem_of_mem_filter hc, hm⟩

/-- In a parsed program signatures tell methods apart, whatever is excluded. -/
theorem unambiguous_of_parsed {p : Program} (hp : p.Parsed) (e : Exclusions) (a : Algorithm)
    (en : Enumeration) (hentries : ∀ m ∈ entries, m ∈ p.methods) :
    Setting.Unambiguous ⟨.ofProgram p e, a, en⟩ entries := by
  intro m hm m' hm' hsignature
  exact hp.eq_of_signature (mem_methods_of_mem hentries hm) (mem_methods_of_mem hentries hm')
    hsignature

/-- Solving a parsed program gives the least solution of its constraint system: the facts shown by the
    graph and the map are closed, and belong to every closed set of facts. Nodes are told apart by their
    names, and a location that holds something has a name, so these facts are all there is. The solver
    ends where there is no more work to do. No other order of work goes on for ever either, and each one
    that comes to its end, for the entrypoints listed in any order, gives the same facts, and so the same
    graph and map up to the numbers of the nodes. -/
theorem solve_isLeast_closed {p : Program} (hp : p.Parsed) (e : Exclusions) (a : Algorithm)
    (en : Enumeration) {entries : List Method} (hentries : ∀ m ∈ entries, m ∈ p.methods) :
    let S : Setting := ⟨.ofProgram p e, a, en⟩
    let R := solve S entries
    IsLeast {X | Closed S entries X} R.facts ∧
      (R.graph.Indexed ∧ ∀ l o, o ∈ R.heap.get l → ∃ q, R.graph.Names l q) ∧
      (∃ υ, Run S (initial entries) υ ∧ υ.Settled S ∧ R.graph = υ.graph ∧ R.heap = υ.heap) ∧
      ∀ entries' τ, (∀ m, m ∈ entries' ↔ m ∈ entries) → Run S (initial entries') τ →
        τ.size ≤ sizeLimit (S.methods entries') ∧
        (τ.Settled S → τ.facts = R.facts ∧
          ∃ ρ, Renumbered ρ R.graph R.heap τ.graph τ.heap) := by
  intro S R
  have hS : S.Unambiguous entries := unambiguous_of_parsed hp e a en hentries
  have hcoherent : R.state.Coherent S entries := coherent_solve hS
  have hleast : IsLeast {X | Closed S entries X} R.facts := isLeast_facts_solve hS
  obtain ⟨υ, hrun, hclosed, hgraph, hheap⟩ := exists_run_solve hS
  refine ⟨hleast, ⟨hcoherent.indexed, fun l o => hcoherent.named⟩,
    ⟨υ, hrun, settled_of_closed (Run.coherent hrun) hclosed, hgraph, hheap⟩, ?_⟩
  · intro entries' τ hsame hτ
    refine ⟨Run.size_le_sizeLimit hτ, ?_⟩
    intro hsettled
    have hS' : S.Unambiguous entries' :=
      unambiguous_of_parsed hp e a en fun m hm => hentries m ((hsame m).mp hm)
    have hleast' : IsLeast {X | Closed S entries X} τ.facts := by
      simp only [← closed_congr_entries hsame]
      exact isLeast_of_settled hτ hS' hsettled
    have heq : τ.facts = R.facts := hleast'.unique hleast
    have hcoherent' : τ.Coherent S entries :=
      (Run.coherent hτ).mono_entries fun m hm => (hsame m).mp hm
    exact ⟨heq, renumbering R.graph τ.graph,
      renumbered_of_facts_eq hcoherent hcoherent' hS heq.symm⟩

/-- Two calls of one method that is itself an entrypoint, each activating it in a context of its own: the
    order of the entrypoints does not matter. -/
theorem solve_isLeast_closed_twoCalls :
    TwoCalls.program.Parsed ∧
    (TwoCalls.main ∈ TwoCalls.program.methods ∧ TwoCalls.pass ∈ TwoCalls.program.methods) ∧
    let S : Setting := ⟨.ofProgram TwoCalls.program {}, .callSite, .asFound⟩
    let R := solve S [TwoCalls.main, TwoCalls.pass]
    let R' := solve S [TwoCalls.pass, TwoCalls.main]
    IsLeast {X | Closed S [TwoCalls.main, TwoCalls.pass] X} R.facts ∧
      R'.facts = R.facts ∧ ∃ ρ, Renumbered ρ R.graph R.heap R'.graph R'.heap := by
  refine ⟨TwoCalls.parsed, ⟨TwoCalls.main_mem, TwoCalls.pass_mem⟩, ?_⟩
  intro S R R'
  have hentries : ∀ m ∈ [TwoCalls.main, TwoCalls.pass], m ∈ TwoCalls.program.methods := by
    simp [TwoCalls.main_mem, TwoCalls.pass_mem]
  have hentries' : ∀ m ∈ [TwoCalls.pass, TwoCalls.main], m ∈ TwoCalls.program.methods := by
    simp [TwoCalls.main_mem, TwoCalls.pass_mem]
  have hsame : ∀ m, m ∈ [TwoCalls.pass, TwoCalls.main] ↔ m ∈ [TwoCalls.main, TwoCalls.pass] :=
    fun m => (List.Perm.swap _ _ _).mem_iff
  obtain ⟨hleast, _, _, horder⟩ := solve_isLeast_closed TwoCalls.parsed {} .callSite .asFound hentries
  obtain ⟨_, _, ⟨υ, hrun, hsettled, hgraph, hheap⟩, _⟩ :=
    solve_isLeast_closed TwoCalls.parsed {} .callSite .asFound hentries'
  obtain ⟨hfacts, ρ, hρ⟩ := (horder _ υ hsame hrun).2 hsettled
  refine ⟨hleast, ?_, ρ, ?_⟩
  · rw [Solution.facts, Solution.state, hgraph, hheap]
    exact hfacts
  · rw [hgraph, hheap]
    exact hρ

end Solver

end TaintFlow
