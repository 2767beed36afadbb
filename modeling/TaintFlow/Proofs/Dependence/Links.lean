/-
Module: TaintFlow.Proofs.Dependence.Links
Purpose: The dependences of a whole call graph, case by case. `Linked` lists them without summaries and
  whether they are followed or not; the computed successors of a statement are the followed ones, and
  the shortcuts over calls. Over methods whose bodies were read, dependences lead from statements of
  activations to such statements.
Main exports: CallGraph.Calls, DependenceGraph.Linked, DependenceGraph.Assembled,
  DependenceGraph.mem_successors, DependenceGraph.Linked.target_mem
-/
import TaintFlow.Dependence.Graph
import TaintFlow.Proofs.CallGraph.Built
import TaintFlow.Proofs.Dependence.Procedure

namespace TaintFlow

/-- The call at `i` of one node may activate another. -/
def CallGraph.Calls (g : CallGraph) (n : Node) (i : Nat) (m : Node) : Prop :=
  n ∈ g.nodes ∧ m ∈ g.nodes ∧
    ∃ inst site, n.code[i]? = some inst ∧ inst.site? = some site ∧
      (⟨n.id, site, m.id⟩ : Edge) ∈ g.edges

/-- An instruction at an index of a node by number, found. -/
theorem CallGraph.instructionAt?_eq_some {g : CallGraph} (hg : g.Indexed) {id : NodeId} {i : Int}
    {inst : Instruction} :
    g.instructionAt? id i = some inst ↔
      ∃ n ∈ g.nodes, n.id = id ∧ ∃ j : Nat, i = j ∧ n.code[j]? = some inst := by
  unfold CallGraph.instructionAt? Code.instruction?
  rw [Option.bind_eq_some_iff]
  constructor
  · rintro ⟨n, hn, h⟩
    obtain ⟨hmem, hid⟩ := hg.node?_eq_some_iff.mp hn
    split at h
    · next hi => exact ⟨n, hmem, hid, i.toNat, (Int.toNat_of_nonneg hi).symm, h⟩
    · cases h
  · rintro ⟨n, hmem, hid, j, rfl, h⟩
    exact ⟨n, hg.node?_eq_some_iff.mpr ⟨hmem, hid⟩, by simpa using h⟩

namespace DependenceGraph

/-- One statement of a call graph depends on another, summaries left aside. -/
inductive Linked (g : CallGraph) (heap : PointsTo) : Statement → Dependence → Statement → Prop where
  /-- Dependence inside an activation. -/
  | inside {n : Node} {s t : Statement} {kind : Dependence} : n ∈ g.nodes → n.method.hasBody = true →
      n.Depends s kind t → Linked g heap s kind t
  /-- A load may read what a store writes. -/
  | heap {n m : Node} {i j : Nat} {store load : Instruction} {l : Location} : n ∈ g.nodes →
      n.code[i]? = some store → isStore store = true → m ∈ g.nodes → j ∈ m.indices →
      m.code[j]? = some load → isLoad load = true → l ∈ accessed heap n.id store →
      l ∈ accessed heap m.id load → Linked g heap (.normal n.id i) .heap (.normal m.id j)
  /-- An actual parameter is passed to a formal one. -/
  | param {n m : Node} {i : Nat} {k : Int} : g.Calls n i m → k < m.method.parameterCount →
      Linked g heap (.actual n.id i k) .param (.formal m.id k)
  /-- A call activates a method. -/
  | call {n m : Node} {i : Nat} : g.Calls n i m → Linked g heap (.normal n.id i) .call (.entry m.id)
  /-- A call receives what the activation returns. -/
  | ret {n m : Node} {i : Nat} : g.Calls n i m → n.receivesResult i = true →
      Linked g heap (.returned m.id) .ret (.result n.id i)

/-- The parts of a dependence graph belong to its call graph. -/
structure Assembled (S : DependenceGraph) : Prop where
  indexed : S.graph.Indexed
  procedures : S.procedures = S.graph.nodes.map Procedure.ofNode
  loads : S.loads = S.graph.nodes.flatMap (loadsOf S.heap)

variable {S : DependenceGraph} {s t : Statement}

/-! ### The parts of the successors -/

/-- The links that leave a statement are found at its activation. -/
theorem mem_linksFrom_node (hS : S.Assembled) {l : Link} :
    l ∈ S.linksFrom s ↔ ∃ n, S.graph.node? s.node = some n ∧ l ∈ n.links ∧ l.source = s := by
  have hnode : (fun p : Procedure => p.node.id == s.node) ∘ Procedure.ofNode =
      fun n => n.id == s.node := rfl
  unfold linksFrom CallGraph.node?
  rw [hS.procedures, List.find?_map, hnode]
  cases S.graph.nodes.find? fun n => n.id == s.node with
  | none => simp
  | some n => simp [Procedure.linksFrom, Procedure.ofNode]

/-- The links inside activations are their dependences. -/
theorem mem_linksFrom (hS : S.Assembled) {l : Link} :
    l ∈ S.linksFrom s ↔
      l.source = s ∧ ∃ n ∈ S.graph.nodes, n.method.hasBody = true ∧ n.Depends s l.kind l.target := by
  rw [mem_linksFrom_node hS]
  constructor
  · rintro ⟨n, hn, hl, rfl⟩
    obtain ⟨hbody, hdep⟩ := Node.mem_links.mp hl
    exact ⟨rfl, n, (hS.indexed.node?_eq_some_iff.mp hn).1, hbody, hdep⟩
  · rintro ⟨rfl, n, hn, hbody, hdep⟩
    exact ⟨n, hS.indexed.node?_eq_some_iff.mpr ⟨hn, hdep.source_node.symm⟩,
      Node.mem_links.mpr ⟨hbody, hdep⟩, rfl⟩

/-- The loads of an activation, with the locations they may read. -/
theorem mem_loadsOf {heap : PointsTo} {n : Node} {r : Load} :
    r ∈ loadsOf heap n ↔
      ∃ j ∈ n.indices, ∃ load, n.code[j]? = some load ∧ isLoad load = true ∧
        r = ⟨.normal n.id j, accessed heap n.id load⟩ := by
  simp only [loadsOf, List.mem_filterMap]
  constructor
  · rintro ⟨j, hj, h⟩
    split at h
    · next load hload =>
        split at h
        · next hisLoad =>
            cases h
            exact ⟨j, hj, load, hload, hisLoad, rfl⟩
        · cases h
    · cases h
  · rintro ⟨j, hj, load, hload, hisLoad, rfl⟩
    exact ⟨j, hj, by simp [hload, hisLoad]⟩

/-- The heap targets of a statement are the loads it is linked to. -/
theorem mem_heapTargets (hS : S.Assembled) :
    t ∈ S.heapTargets s ↔ Linked S.graph S.heap s .heap t := by
  constructor
  · intro h
    unfold heapTargets at h
    split at h
    · split at h
      · next id i store hstore =>
          obtain ⟨n, hn, rfl, j, rfl, hcode⟩ :=
            (CallGraph.instructionAt?_eq_some hS.indexed).mp hstore
          split at h
          · next hisStore =>
              rw [List.mem_eraseDups, List.mem_flatMap] at h
              obtain ⟨loc, hloc, h⟩ := h
              obtain ⟨r, hr, rfl⟩ := List.mem_map.mp h
              rw [List.mem_filter, hS.loads, List.mem_flatMap] at hr
              obtain ⟨⟨m, hm, hr⟩, hread⟩ := hr
              obtain ⟨k, hk, load, hload, hisLoad, rfl⟩ := mem_loadsOf.mp hr
              exact .heap hn hcode hisStore hm hk hload hisLoad hloc
                (List.contains_iff_mem.mp hread)
          · cases h
      · cases h
    · cases h
  · intro h
    cases h with
    | inside _ _ hdep =>
        rcases hdep.kind_local with h | h <;> cases h
    | @heap n m i j store load loc hn hcode hisStore hm hj hload hisLoad hloc hloc' =>
        have hstore : S.graph.instructionAt? n.id i = some store :=
          (CallGraph.instructionAt?_eq_some hS.indexed).mpr ⟨n, hn, rfl, i, rfl, hcode⟩
        simp only [heapTargets, hstore, hisStore, if_true, List.mem_eraseDups, List.mem_flatMap]
        refine ⟨loc, hloc, List.mem_map.mpr ⟨⟨.normal m.id j, accessed S.heap m.id load⟩, ?_, rfl⟩⟩
        rw [List.mem_filter, hS.loads, List.mem_flatMap]
        exact ⟨⟨m, hm, mem_loadsOf.mpr ⟨j, hj, load, hload, hisLoad, rfl⟩⟩,
          List.contains_iff_mem.mpr hloc'⟩

/-- The callees of a call are the nodes that it may activate. -/
theorem mem_callees (hS : S.Assembled) {id : NodeId} {i : Int} {m : Node} :
    m ∈ S.callees id i ↔ ∃ n, n.id = id ∧ ∃ j : Nat, i = j ∧ S.graph.Calls n j m := by
  unfold callees
  constructor
  · intro h
    split at h
    · next site hsite =>
        obtain ⟨inst, hinst, hinstSite⟩ := Option.bind_eq_some_iff.mp hsite
        obtain ⟨n, hn, rfl, j, rfl, hcode⟩ := (CallGraph.instructionAt?_eq_some hS.indexed).mp hinst
        obtain ⟨callee, hcallee, hfound⟩ := List.mem_filterMap.mp h
        obtain ⟨hm, rfl⟩ := hS.indexed.node?_eq_some_iff.mp hfound
        exact ⟨n, rfl, j, rfl, hn, hm, inst, site, hcode, hinstSite,
          CallGraph.mem_targets.mp hcallee⟩
    · cases h
  · rintro ⟨n, rfl, j, rfl, hn, hm, inst, site, hcode, hsite, he⟩
    have hinst : S.graph.instructionAt? n.id j = some inst :=
      (CallGraph.instructionAt?_eq_some hS.indexed).mpr ⟨n, hn, rfl, j, rfl, hcode⟩
    simp only [hinst, Option.bind_some, hsite]
    exact List.mem_filterMap.mpr
      ⟨m.id, CallGraph.mem_targets.mpr he, hS.indexed.node?_eq_some_iff.mpr ⟨hm, rfl⟩⟩

/-- The calls made at a site. -/
theorem mem_callIndices {code : Code} {site : CallSite} {i : Nat} :
    i ∈ code.callIndices site ↔ ∃ inst, code[i]? = some inst ∧ inst.site? = some site := by
  simp only [Code.callIndices, List.mem_filter, List.mem_range, beq_iff_eq, Option.bind_eq_some_iff]
  constructor
  · rintro ⟨_, inst, hi, hsite⟩
    exact ⟨inst, hi, hsite⟩
  · rintro ⟨inst, hi, hsite⟩
    exact ⟨(Array.getElem?_eq_some_iff.mp hi).1, inst, hi, hsite⟩

/-- The return sites of a node are the results that calls of it receive. -/
theorem mem_returnSites (hS : S.Assembled) {id : NodeId} :
    t ∈ S.returnSites id ↔ Linked S.graph S.heap (.returned id) .ret t := by
  unfold returnSites
  rw [List.mem_flatMap]
  constructor
  · rintro ⟨e, he, h⟩
    obtain ⟨hedge, rfl⟩ := CallGraph.mem_inEdges.mp he
    split at h
    · next n hfound =>
        obtain ⟨hn, hid⟩ := hS.indexed.node?_eq_some_iff.mp hfound
        obtain ⟨i, hcall, rfl⟩ := List.mem_map.mp h
        obtain ⟨hi, hres⟩ := List.mem_filter.mp hcall
        obtain ⟨inst, hcode, hsite⟩ := mem_callIndices.mp hi
        obtain ⟨m, hm, hmid⟩ := hS.indexed.callee e hedge
        have hedge' : (⟨n.id, e.site, m.id⟩ : Edge) ∈ S.graph.edges := by
          rw [hid, hmid]
          exact hedge
        rw [← hmid]
        exact .ret ⟨hn, hm, inst, e.site, hcode, hsite, hedge'⟩ hres
    · cases h
  · intro h
    cases h with
    | inside _ _ hdep =>
        rcases hdep.kind_local with h | h <;> cases h
    | @ret n m i hcalls hres =>
        obtain ⟨hn, hm, inst, site, hcode, hsite, he⟩ := hcalls
        refine ⟨_, CallGraph.mem_inEdges.mpr ⟨he, rfl⟩, ?_⟩
        simp only [hS.indexed.node?_eq_some_iff.mpr ⟨hn, rfl⟩]
        exact List.mem_map.mpr
          ⟨i, List.mem_filter.mpr ⟨mem_callIndices.mpr ⟨inst, hcode, hsite⟩, hres⟩, rfl⟩

/-! ### Successors -/

/-- What a shortcut stands for: the result of a call depends on one of its parameters. -/
inductive Shortcut (shortcuts : List Statement) : Statement → Dependence → Statement → Prop where
  | across {n : NodeId} {i k : Int} : .actual n i k ∈ shortcuts →
      Shortcut shortcuts (.actual n i k) .summary (.result n i)

/-- The links that leave a statement for another activation or lead over a call. -/
theorem callLinks_sound (hS : S.Assembled) {l : Link} (h : l ∈ S.callLinks s) :
    l.source = s ∧ S.options.enables l.kind = true ∧
      (Linked S.graph S.heap s l.kind l.target ∨ Shortcut S.shortcuts s l.kind l.target) := by
  unfold callLinks at h
  split at h
  · next id i k =>
      rcases List.mem_append.mp h with h | h
      · split at h
        · next henabled =>
            obtain ⟨m, hm, rfl⟩ := List.mem_map.mp h
            obtain ⟨hm, hk⟩ := List.mem_filter.mp hm
            obtain ⟨n, rfl, j, rfl, hcalls⟩ := (mem_callees hS).mp hm
            exact ⟨rfl, henabled, Or.inl (.param hcalls (by simpa using hk))⟩
        · cases h
      · split at h
        · next hcond =>
            rw [Bool.and_eq_true, List.contains_iff_mem] at hcond
            rw [List.mem_singleton.mp h]
            exact ⟨rfl, hcond.1, Or.inr (.across hcond.2)⟩
        · cases h
  · next id i =>
      split at h
      · next henabled =>
          obtain ⟨m, hm, rfl⟩ := List.mem_map.mp h
          obtain ⟨n, rfl, j, rfl, hcalls⟩ := (mem_callees hS).mp hm
          exact ⟨rfl, henabled, Or.inl (.call hcalls)⟩
      · cases h
  · next id =>
      split at h
      · next henabled =>
          obtain ⟨t, ht, rfl⟩ := List.mem_map.mp h
          exact ⟨rfl, henabled, Or.inl ((mem_returnSites hS).mp ht)⟩
      · cases h
  · cases h

/-- The computed successors are the links that are followed, and the shortcuts. -/
theorem mem_successors (hS : S.Assembled) {l : Link} :
    l ∈ S.successors s ↔
      l.source = s ∧ S.options.enables l.kind = true ∧
        (Linked S.graph S.heap s l.kind l.target ∨ Shortcut S.shortcuts s l.kind l.target) := by
  unfold successors
  rw [List.mem_append, List.mem_append]
  constructor
  · rintro ((h | h) | h)
    · obtain ⟨hl, henabled⟩ := List.mem_filter.mp h
      obtain ⟨hs, n, hn, hbody, hdep⟩ := (mem_linksFrom hS).mp hl
      exact ⟨hs, henabled, Or.inl (.inside hn hbody hdep)⟩
    · split at h
      · next henabled =>
          obtain ⟨t, ht, rfl⟩ := List.mem_map.mp h
          exact ⟨rfl, henabled, Or.inl ((mem_heapTargets hS).mp ht)⟩
      · cases h
    · exact callLinks_sound hS h
  · obtain ⟨source, kind, target⟩ := l
    rintro ⟨rfl, henabled, h | h⟩
    · dsimp only at henabled h ⊢
      cases h with
      | inside hn hbody hdep =>
          exact Or.inl (Or.inl (List.mem_filter.mpr
            ⟨(mem_linksFrom hS).mpr ⟨rfl, _, hn, hbody, hdep⟩, henabled⟩))
      | heap hn hcode hstore hm hj hload hisLoad hl hl' =>
          refine Or.inl (Or.inr ?_)
          rw [if_pos henabled]
          exact List.mem_map.mpr
            ⟨_, (mem_heapTargets hS).mpr (.heap hn hcode hstore hm hj hload hisLoad hl hl'), rfl⟩
      | param hcalls hk =>
          refine Or.inr (List.mem_append_left _ ?_)
          rw [if_pos henabled]
          exact List.mem_map.mpr ⟨_, List.mem_filter.mpr
            ⟨(mem_callees hS).mpr ⟨_, rfl, _, rfl, hcalls⟩, by simpa using hk⟩, rfl⟩
      | call hcalls =>
          refine Or.inr ?_
          simp only [callLinks, henabled, if_true]
          exact List.mem_map.mpr ⟨_, (mem_callees hS).mpr ⟨_, rfl, _, rfl, hcalls⟩, rfl⟩
      | ret hcalls hres =>
          refine Or.inr ?_
          simp only [callLinks, henabled, if_true]
          exact List.mem_map.mpr ⟨_, (mem_returnSites hS).mpr (.ret hcalls hres), rfl⟩
    · dsimp only at henabled h ⊢
      cases h with
      | across hmem =>
          refine Or.inr (List.mem_append_right _ ?_)
          simp [henabled, hmem]

/-! ### Statements of activations -/

/-- Every statement of a node is one of the graph. -/
theorem mem_statements {t : Statement} :
    t ∈ S.statements ↔ ∃ n ∈ S.graph.nodes, t ∈ n.statements := by
  simp [statements]

/-- A call that receives a result has a body around it, when bodies belong to methods that have one. -/
theorem mem_indices_of_calls (hcode : ∀ n ∈ S.graph.nodes, n.method.hasBody = false → n.code = #[])
    {n m : Node} {i : Nat} (h : S.graph.Calls n i m) : i ∈ n.indices := by
  obtain ⟨hn, _, inst, site, hi, _, _⟩ := h
  refine Node.mem_indices.mpr ⟨?_, (Array.getElem?_eq_some_iff.mp hi).1⟩
  cases hbody : n.method.hasBody with
  | true => rfl
  | false =>
      rw [hcode n hn hbody] at hi
      simp at hi

/-- An actual parameter of an activation has a position that its call has. -/
theorem actual_mem_statements {id : NodeId} {i k : Int} (h : .actual id i k ∈ S.statements) :
    ∃ n ∈ S.graph.nodes, ∃ j ∈ n.indices, n.id = id ∧ i = j ∧ .actual id i k ∈ n.actualsAt j ∧
      0 ≤ k := by
  obtain ⟨n, hn, h⟩ := mem_statements.mp h
  rcases Node.mem_statements.mp h with h | h | ⟨j, hj, h | h⟩ | ⟨_, h⟩
  · cases h
  · obtain ⟨_, _, h⟩ := Node.mem_formals.mp h
    cases h
  · unfold Node.statementAt at h
    split at h <;> cases h
  · rcases Node.mem_callPartsAt.mp h with hact | ⟨_, h⟩
    · obtain ⟨inst, p, hinst, hp, heq⟩ := Node.mem_actualsAt.mp hact
      cases heq
      exact ⟨n, hn, j, hj, rfl, rfl, hact, Int.natCast_nonneg p⟩
    · cases h
  · cases h

/-- A load merges nothing. -/
theorem isPhi_of_isLoad {inst : Instruction} (h : isLoad inst = true) : inst.isPhi = false := by
  cases inst with
  | phi r vs => cases h
  | _ => rfl

/-- Links lead from statements of activations to statements of activations. -/
theorem Linked.target_mem (hcode : ∀ n ∈ S.graph.nodes, n.method.hasBody = false → n.code = #[])
    {kind : Dependence} (h : Linked S.graph S.heap s kind t) (hs : s ∈ S.statements) :
    t ∈ S.statements := by
  rw [mem_statements]
  cases h with
  | inside hn hbody hdep => exact ⟨_, hn, hdep.target_mem hbody⟩
  | heap _ _ _ hm hj hload hisLoad _ _ =>
      refine ⟨_, hm, ?_⟩
      rw [← Node.statementAt_of_not_phi hload (isPhi_of_isLoad hisLoad)]
      exact Node.statementAt_mem hj
  | param hcalls hk =>
      obtain ⟨_, _, _, _, _, _, _, hnonneg⟩ := actual_mem_statements hs
      obtain ⟨p, rfl⟩ := Int.eq_ofNat_of_zero_le hnonneg
      have hformal := Node.mem_formals.mpr ⟨p, Int.ofNat_lt.mp hk, rfl⟩
      exact ⟨_, hcalls.2.1, Node.mem_statements.mpr (Or.inr (Or.inl hformal))⟩
  | call hcalls => exact ⟨_, hcalls.2.1, Node.mem_statements.mpr (Or.inl rfl)⟩
  | ret hcalls hres =>
      exact ⟨_, hcalls.1, Node.callPart_mem (mem_indices_of_calls hcode hcalls)
        (Node.mem_callPartsAt.mpr (Or.inr ⟨hres, rfl⟩))⟩

end DependenceGraph

end TaintFlow
