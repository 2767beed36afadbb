/-
Module: TaintFlow.Proofs.Solver.Origin
Purpose: Where the facts of a solved program come from. In a least closed set nothing is there without a
  rule, so what the rules preserve holds of every fact. Hence every activation is caused by an entrypoint
  over call edges, and every call edge stands for a call in the code of its caller whose declared target
  has the name and the descriptor of the callee. What a value holds was there at the start, is assigned to
  it, or is passed by a call.
Main exports: Solver.least_induction, Solver.Calling, Solver.origin_of_node, Solver.origin_of_edge,
  Solver.origin_of_value, Solver.exists_path_of_node, Solver.State.Anchored, Solver.anchored_solve,
  Solver.reachable_solve, Solver.exists_call_solve
-/
import TaintFlow.Proofs.CallGraph.Reachable
import TaintFlow.Proofs.Solver.Least

namespace TaintFlow

namespace Solver

variable {S : Setting} {entries : List Method} {X : Set Fact} {a b : Activation} {site : CallSite}
  {arguments : List Value} {c : Callee} {v : Value} {o : AbstractObject}

/-! ### Rule induction -/

/-- What holds of whatever follows from facts of which it holds, holds of all facts of the least closed
    set. -/
theorem least_induction (hX : IsLeast {X | Closed S entries X} X) {P : Fact → Prop}
    (h : ∀ f ∈ X, Rule S entries {f ∈ X | P f} f → P f) {f : Fact} (hf : f ∈ X) : P f := by
  have hclosed : Closed S entries {f ∈ X | P f} := by
    intro f hrule
    have hmem : f ∈ X := hX.1 f (hrule.mono (Set.sep_subset X P))
    exact ⟨hmem, h f hmem hrule⟩
  exact (hX.2 hclosed hf).2

/-- In a least closed set nothing is there without a rule. -/
theorem rule_of_mem (hX : IsLeast {X | Closed S entries X} X) {f : Fact} (hf : f ∈ X) :
    Rule S entries X f :=
  least_induction hX (fun _ _ hrule => hrule.mono (Set.sep_subset X _)) hf

/-! ### Where facts come from -/

/-- Where activation starts for a method. -/
def entryOf (m : Method) : Activation := ⟨m.signature, .everywhere⟩

/-- A call in the code of a known activation, and a method that it activates. -/
structure Calling (S : Setting) (entries : List Method) (X : Set Fact) (a : Activation)
    (site : CallSite) (arguments : List Value) (c : Callee) : Prop where
  written : ∃ (m : Method) (i : Nat) (result : Option Value), Active S entries X a m ∧
    m.hasBody = true ∧ m.code[i]? = some (.invoke result site arguments)
  activates : Activates S X a site arguments c

/-- An activation comes from an entrypoint or from a call. -/
theorem origin_of_node (hX : IsLeast {X | Closed S entries X} X) (hb : .node b ∈ X) :
    (∃ m ∈ entries, b = entryOf m) ∨
      ∃ a site arguments c, Calling S entries X a site arguments c ∧ b = S.activation a site c := by
  cases rule_of_mem hX hb with
  | entry hm => exact Or.inl ⟨_, hm, rfl⟩
  | visit hactive hvisits =>
      cases hvisits with
      | execute hbody hi hexecutes =>
          cases hexecutes with
          | call hactivates hcalled =>
              cases hcalled with
              | node => exact Or.inr ⟨_, _, _, _, ⟨⟨_, _, _, hactive, hbody, hi⟩, hactivates⟩, rfl⟩

/-- An edge comes from a call. -/
theorem origin_of_edge (hX : IsLeast {X | Closed S entries X} X) (he : .edge a site b ∈ X) :
    ∃ arguments c, Calling S entries X a site arguments c ∧ b = S.activation a site c := by
  cases rule_of_mem hX he with
  | visit hactive hvisits =>
      cases hvisits with
      | execute hbody hi hexecutes =>
          cases hexecutes with
          | call hactivates hcalled =>
              cases hcalled with
              | edge => exact ⟨_, _, ⟨⟨_, _, _, hactive, hbody, hi⟩, hactivates⟩, rfl⟩

/-- An instruction lets objects flow into the values that it defines. -/
theorem Flows.defines {i : Nat} {inst : Instruction} (h : Flows S X a i inst (.value b v) o) :
    b = a ∧ v ∈ inst.defs := by
  cases h <;> exact ⟨rfl, List.mem_singleton_self _⟩

/-- What a value holds was there at the start, is assigned to it, or is passed by a call: as the object
    that the call is made on, or as what an argument holds. -/
theorem origin_of_value (hX : IsLeast {X | Closed S entries X} X) (h : .holds (.value b v) o ∈ X) :
    (∃ m ∈ entries, b = entryOf m) ∨
    (∃ (m : Method) (i : Nat) (inst : Instruction), Active S entries X b m ∧
      m.code[i]? = some inst ∧ v ∈ inst.defs) ∨
    ∃ a site arguments c, Calling S entries X a site arguments c ∧ b = S.activation a site c ∧
      (c.receiver = some o ∨
        (v = 1 → c.receiver = none) ∧ ∃ w ∈ arguments, .holds (.value a w) o ∈ X) := by
  cases rule_of_mem hX h with
  | seed hm _ => exact Or.inl ⟨_, hm, rfl⟩
  | visit hactive hvisits =>
      refine Or.inr ?_
      cases hvisits with
      | execute hbody hi hexecutes =>
          cases hexecutes with
          | flow hflow =>
              obtain ⟨rfl, hv⟩ := hflow.defines
              exact Or.inl ⟨_, _, _, hactive, hi, hv⟩
          | call hactivates hcalled =>
              have hcalling := Calling.mk ⟨_, _, _, hactive, hbody, hi⟩ hactivates
              cases hcalled with
              | receiver _ _ ho => exact Or.inr ⟨_, _, _, _, hcalling, rfl, Or.inl ho⟩
              | argument _ hw hfirst hx =>
                  exact Or.inr ⟨_, _, _, _, hcalling, rfl,
                    Or.inr ⟨fun hv => hfirst (Nat.succ.inj hv), _, List.mem_of_getElem? hw, hx⟩⟩
              | result hr _ => exact Or.inl ⟨_, _, _, hactive, hi, by simp [Instruction.defs, hr]⟩

/-! ### Activations -/

/-- Some call of one activation causes another. -/
def Causes (X : Set Fact) (a b : Activation) : Prop := ∃ site, .edge a site b ∈ X

/-- Every activation is caused by an entrypoint, directly or not. -/
theorem exists_path_of_node (hX : IsLeast {X | Closed S entries X} X) (ha : .node a ∈ X) :
    ∃ m ∈ entries, Relation.ReflTransGen (Causes X) (entryOf m) a := by
  refine least_induction hX
    (P := fun f => ∀ a, f = .node a → ∃ m ∈ entries, Relation.ReflTransGen (Causes X) (entryOf m) a)
    ?_ ha a rfl
  rintro f - hrule a rfl
  cases hrule with
  | @entry m hm => exact ⟨m, hm, .refl⟩
  | @visit a m _ hactive hvisits =>
      obtain ⟨m₀, hm₀, hpath⟩ := hactive.known.2 a rfl
      have hsub := Set.sep_subset X
        fun f => ∀ a, f = .node a → ∃ m ∈ entries, Relation.ReflTransGen (Causes X) (entryOf m) a
      cases hvisits with
      | execute hbody hi hexecutes =>
          cases hexecutes with
          | @call _ site _ c _ hactivates hcalled =>
              cases hcalled with
              | node =>
                  -- the call that enters the activation enters the edge to it as well
                  have hedge : .edge a site (S.activation a site c) ∈ X :=
                    hX.1 _ (.visit (hactive.mono hsub)
                      (.execute hbody hi (.call (hactivates.mono hsub) .edge)))
                  exact ⟨m₀, hm₀, hpath.tail ⟨site, hedge⟩⟩

/-! ### Calls -/

/-- A method that a call activates has the name and descriptor of the declared target. -/
theorem Activates.selector (h : Activates S X a site arguments c) :
    c.method.signature.selector = site.target.selector := by
  cases h with
  | static _ hm => exact Hierarchy.selector_of_resolve? hm
  | joint _ _ hm _ _ => exact Hierarchy.selector_of_resolve? hm
  | split _ _ hm _ _ => exact Hierarchy.selector_of_resolve? hm
  | dispatch _ _ _ hm => exact Hierarchy.selector_of_dispatch? hm

/-- Every edge stands for a call in the code of its caller, and leads to a method of the declared name
    and descriptor. -/
theorem exists_call_of_edge (hX : IsLeast {X | Closed S entries X} X) (he : .edge a site b ∈ X) :
    ∃ m, Active S entries X a m ∧ m.hasBody = true ∧
      (∃ (i : Nat) (inst : Instruction), m.code[i]? = some inst ∧ inst.site? = some site) ∧
      b.signature.selector = site.target.selector := by
  obtain ⟨arguments, c, hcalling, rfl⟩ := origin_of_edge hX he
  obtain ⟨m, i, result, hactive, hbody, hi⟩ := hcalling.written
  exact ⟨m, hactive, hbody, ⟨i, _, hi, rfl⟩, hcalling.activates.selector⟩

/-! ### Entrypoints -/

variable {ms : List Method} {σ τ : State}

/-- Activation starts at the given methods and nowhere else. -/
structure State.Anchored (ms : List Method) (σ : State) : Prop where
  known : ∀ m ∈ ms, ∃ n ∈ σ.graph.nodes, n.activation = entryOf m ∧ n.id ∈ σ.graph.entrypoints
  origin : ∀ id ∈ σ.graph.entrypoints, ∃ n ∈ σ.graph.nodes, n.id = id ∧
    ∃ m ∈ ms, n.activation = entryOf m

theorem graph_start (m : Method) :
    (σ.start m).graph =
      (σ.graph.intern m .everywhere).1.addEntrypoint (σ.graph.intern m .everywhere).2 := rfl

/-- Elementary steps start no activation. -/
theorem Steps.entrypoints (h : Steps S entries σ τ) : τ.graph.entrypoints = σ.graph.entrypoints := by
  induction h with
  | refl => rfl
  | tail _ hstep ih =>
      rw [← ih]
      cases hstep with
      | hold _ _ => rfl
      | link _ _ _ _ => simp
      | note _ => rfl
      | reorder _ => rfl

namespace State.Anchored

/-- More nodes change nothing about where activation starts. -/
theorem extend (h : σ.Anchored ms) (hnodes : ∀ n ∈ σ.graph.nodes, n ∈ τ.graph.nodes)
    (hsame : τ.graph.entrypoints = σ.graph.entrypoints) : τ.Anchored ms where
  known m hm := by
    obtain ⟨n, hn, hname, hentry⟩ := h.known m hm
    exact ⟨n, hnodes n hn, hname, by rwa [hsame]⟩
  origin id hid := by
    rw [hsame] at hid
    obtain ⟨n, hn, hrest⟩ := h.origin id hid
    exact ⟨n, hnodes n hn, hrest⟩

/-- Activation starts at one more method. -/
theorem start (h : σ.Anchored ms) (m : Method) : (σ.start m).Anchored (ms ++ [m]) := by
  obtain ⟨b, hb, hid, hname⟩ := σ.graph.exists_interned m .everywhere
  have hentry : ∀ id, id ∈ (σ.start m).graph.entrypoints ↔ id ∈ σ.graph.entrypoints ∨ id = b.id := by
    intro id
    rw [graph_start, CallGraph.mem_addEntrypoint, CallGraph.intern_entrypoints, hid]
  have hmem : b ∈ (σ.start m).graph.nodes := by
    rwa [graph_start, CallGraph.addEntrypoint_nodes]
  constructor
  · intro m' hm'
    rcases List.mem_append.mp hm' with hm' | hm'
    · obtain ⟨n, hn, hnamed, hstarted⟩ := h.known m' hm'
      exact ⟨n, below_start.nodes n hn, hnamed, (hentry n.id).mpr (Or.inl hstarted)⟩
    · rw [List.mem_singleton.mp hm']
      exact ⟨b, hmem, hname, (hentry b.id).mpr (Or.inr rfl)⟩
  · intro id hstarted
    rcases (hentry id).mp hstarted with hstarted | rfl
    · obtain ⟨n, hn, hnid, m', hm', hnamed⟩ := h.origin id hstarted
      exact ⟨n, below_start.nodes n hn, hnid, m', List.mem_append_left _ hm', hnamed⟩
    · exact ⟨b, hmem, rfl, m, List.mem_append_right _ (List.mem_singleton_self m), hname⟩

theorem starts (h : σ.Anchored ms) (later : List Method) :
    (later.foldl State.start σ).Anchored (ms ++ later) := by
  induction later generalizing σ ms with
  | nil => rwa [List.append_nil]
  | cons m later ih =>
      rw [List.append_cons]
      exact ih (h.start m)

theorem initial : (initial entries).Anchored entries := by
  have hempty : Anchored [] {} := ⟨by simp, by simp⟩
  exact hempty.starts entries

end State.Anchored

/-! ### Solved programs -/

/-- Activation starts at the entrypoints. -/
theorem anchored_solve (hS : S.Unambiguous entries) : (solve S entries).state.Anchored entries := by
  obtain ⟨τ, hrun, _, hgraph, _⟩ := exists_run_solve hS
  have hsteps := Run.steps (S := S) coherent_initial hrun
  refine State.Anchored.initial.extend ?_ ?_
  · intro n hn
    change n ∈ (solve S entries).graph.nodes
    rw [hgraph]
    exact (Steps.grows coherent_initial hsteps).below.nodes n hn
  · change (solve S entries).graph.entrypoints = _
    rw [hgraph]
    exact Steps.entrypoints hsteps

/-- Every node of a solved program is reached from where activation starts. -/
theorem reachable_solve (hS : S.Unambiguous entries) {n : Node}
    (hn : n ∈ (solve S entries).graph.nodes) : (solve S entries).graph.Reachable n.id := by
  have hX := isLeast_facts_solve hS
  have hindexed := (coherent_solve hS).indexed
  obtain ⟨m, hm, hpath⟩ := exists_path_of_node hX (.node hn)
  obtain ⟨entry, hentry, hname, hstarted⟩ := (anchored_solve hS).known m hm
  -- a path of activations is one of the nodes that they name
  have hnodes : ∀ a, Relation.ReflTransGen (Causes (solve S entries).facts) (entryOf m) a →
      ∃ k ∈ (solve S entries).graph.nodes, k.activation = a ∧
        Relation.ReflTransGen (solve S entries).graph.Invokes entry.id k.id := by
    intro a ha
    induction ha with
    | refl => exact ⟨entry, hentry, hname, .refl⟩
    | tail _ hcause ih =>
        obtain ⟨k, hk, rfl, hreached⟩ := ih
        obtain ⟨site, hedge⟩ := hcause
        generalize hf : Fact.edge _ _ _ = f at hedge
        cases hedge with
        | @edge a' b' site' ha' hb' he =>
            injection hf with hcaller hsite hcallee
            have hsame := hindexed.eq_of_activation_eq hk ha' hcaller
            subst hsame
            exact ⟨b', hb', hcallee.symm, hreached.tail ⟨site', he⟩⟩
        | _ => cases hf
  obtain ⟨k, hk, hkname, hreached⟩ := hnodes _ hpath
  rw [← hindexed.eq_of_activation_eq hk hn hkname]
  exact ⟨entry.id, hstarted, hreached⟩

/-- The search for what is reached finds all nodes of a solved program. -/
theorem mem_reachable_solve (hS : S.Unambiguous entries) {id : NodeId} :
    id ∈ (solve S entries).graph.reachable ↔ ∃ n ∈ (solve S entries).graph.nodes, n.id = id := by
  have hindexed : (solve S entries).graph.Indexed := (coherent_solve hS).indexed
  rw [CallGraph.mem_reachable_iff hindexed, CallGraph.mem_ids]
  constructor
  · exact And.left
  · rintro ⟨n, hn, rfl⟩
    exact ⟨⟨n, hn, rfl⟩, reachable_solve hS hn⟩

/-- Every edge of a solved program stands for a call in the code of its caller, and leads to a node of
    the declared name and descriptor. -/
theorem exists_call_solve (hS : S.Unambiguous entries) {n m : Node}
    (hn : n ∈ (solve S entries).graph.nodes) (hm : m ∈ (solve S entries).graph.nodes)
    (he : (⟨n.id, site, m.id⟩ : Edge) ∈ (solve S entries).graph.edges) :
    n.method.hasBody = true ∧
      (∃ (i : Nat) (inst : Instruction), n.code[i]? = some inst ∧ inst.site? = some site) ∧
      m.signature.selector = site.target.selector := by
  obtain ⟨method, hactive, hbody, hcall, hselector⟩ :=
    exists_call_of_edge (isLeast_facts_solve hS) (.edge hn hm he)
  have hmethod : method = n.method :=
    hS _ hactive.method _ ((coherent_solve hS).graph.method n hn) hactive.signature
  subst hmethod
  exact ⟨hbody, hcall, hselector⟩

/-- The methods that a call activates in a solved program are found among its nodes. -/
theorem exists_callee_solve (hS : S.Unambiguous entries) {n : Node}
    (hn : n ∈ (solve S entries).graph.nodes) (hbody : n.method.hasBody = true) {i : Nat}
    {result : Option Value} (hi : n.code[i]? = some (.invoke result site arguments)) {c : Callee}
    (hc : Activates S (solve S entries).facts n.activation site arguments c) :
    ∃ m ∈ (solve S entries).graph.nodes, m.signature = c.method.signature ∧
      (⟨n.id, site, m.id⟩ : Edge) ∈ (solve S entries).graph.edges := by
  have hactive := (coherent_solve hS).active hn
  have hedge : .edge n.activation site (S.activation n.activation site c) ∈ (solve S entries).facts :=
    (isLeast_facts_solve hS).1 _ (.visit hactive (.execute hbody hi (.call hc .edge)))
  generalize hf : Fact.edge _ _ _ = f at hedge
  cases hedge with
  | @edge k m _ hk hm he =>
      injection hf with hcaller hsite hcallee
      rw [(coherent_solve hS).indexed.eq_of_activation_eq hn hk hcaller, hsite]
      exact ⟨m, hm, congrArg Activation.signature hcallee.symm, he⟩
  | _ => cases hf

end Solver

end TaintFlow
