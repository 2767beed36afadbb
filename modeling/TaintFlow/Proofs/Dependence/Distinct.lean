/-
Module: TaintFlow.Proofs.Dependence.Distinct
Purpose: No statement of a dependence graph is listed twice, and neither is a dependence that leaves a
  statement. Statements are told apart by their activation, by their instruction and by what they are of
  it; dependences by their kind, and those of one kind by where they lead.
Main exports: Node.nodup_statements, DependenceGraph.nodup_statements, DependenceGraph.nodup_successors
-/
import TaintFlow.Proofs.Dependence.Links
import TaintFlow.Proofs.Distinct

namespace TaintFlow

/-! ### Statements -/

namespace Node

variable {n : Node} {t : Statement} {i : Nat}

theorem nodup_formals : n.formals.Nodup := by
  refine List.nodup_range.map ?_
  intro k k' h
  injection h with _ hposition
  exact Int.ofNat_inj.mp hposition

theorem nodup_actualsAt : (n.actualsAt i).Nodup := by
  unfold actualsAt
  split
  · refine List.nodup_range.map ?_
    intro k k' h
    injection h with _ _ hposition
    exact Int.ofNat_inj.mp hposition
  · exact List.nodup_nil

theorem nodup_callPartsAt : (n.callPartsAt i).Nodup := by
  unfold callPartsAt
  refine List.Nodup.append nodup_actualsAt (nodup_ite_nil (List.nodup_singleton _)) ?_
  intro t hactual hresult
  obtain ⟨_, _, _, _, rfl⟩ := mem_actualsAt.mp hactual
  split at hresult
  · cases List.mem_singleton.mp hresult
  · cases hresult

/-- The statement of an instruction is none of the parts of its call. -/
theorem statementAt_not_mem_callPartsAt : n.statementAt i ∉ n.callPartsAt i := by
  intro h
  have hrank : (n.statementAt i).rank < 2 := by
    unfold statementAt
    split <;> simp [Statement.rank]
  rcases mem_callPartsAt.mp h with hactual | ⟨_, hresult⟩
  · obtain ⟨_, _, _, _, heq⟩ := mem_actualsAt.mp hactual
    simp [heq, Statement.rank] at hrank
  · simp [hresult, Statement.rank] at hrank

/-- The statements of an instruction have its index. -/
theorem index?_of_mem (h : t ∈ n.statementAt i :: n.callPartsAt i) : t.index? = some (i : Int) := by
  rcases List.mem_cons.mp h with rfl | h
  · unfold statementAt
    split <;> rfl
  · rcases mem_callPartsAt.mp h with h | ⟨_, rfl⟩
    · obtain ⟨_, _, _, _, rfl⟩ := mem_actualsAt.mp h
      rfl
    · rfl

theorem nodup_indices : n.indices.Nodup := nodup_ite_nil List.nodup_range

/-- The statements of the instructions are told apart by their indices. -/
theorem nodup_instructionStatements :
    (n.indices.flatMap fun i => n.statementAt i :: n.callPartsAt i).Nodup := by
  refine nodup_flatMap_of_label (fun i : Nat => some (i : Int)) Statement.index? ?_ ?_ ?_
  · refine nodup_indices.map ?_
    intro i j h
    exact Int.ofNat_inj.mp (Option.some.inj h)
  · intro i _
    exact List.nodup_cons.mpr ⟨statementAt_not_mem_callPartsAt, nodup_callPartsAt⟩
  · intro i _ t ht
    exact index?_of_mem ht

/-- No statement of an activation is listed twice. -/
theorem nodup_statements : n.statements.Nodup := by
  -- only the statements of instructions have an index
  have hindex : ∀ t ∈ n.indices.flatMap fun i => n.statementAt i :: n.callPartsAt i,
      t.index? ≠ none := by
    intro t ht hnone
    obtain ⟨i, _, ht⟩ := List.mem_flatMap.mp ht
    rw [index?_of_mem ht] at hnone
    cases hnone
  have hstart : (.entry n.id :: n.formals).Nodup := by
    refine List.nodup_cons.mpr ⟨?_, nodup_formals⟩
    intro h
    obtain ⟨_, _, h⟩ := mem_formals.mp h
    cases h
  have hstartIndex : ∀ t ∈ .entry n.id :: n.formals, t.index? = none ∧ t ≠ .returned n.id := by
    intro t ht
    rcases List.mem_cons.mp ht with rfl | ht
    · simp [Statement.index?]
    · obtain ⟨_, _, rfl⟩ := mem_formals.mp ht
      simp [Statement.index?]
  unfold statements
  refine List.Nodup.append (List.Nodup.append hstart nodup_instructionStatements ?_)
    (nodup_ite_nil (List.nodup_singleton _)) ?_
  · intro t ht ht'
    exact hindex t ht' (hstartIndex t ht).1
  · intro t ht ht'
    split at ht'
    · rw [List.mem_singleton.mp ht'] at ht
      rcases List.mem_append.mp ht with ht | ht
      · exact (hstartIndex _ ht).2 rfl
      · exact hindex _ ht rfl
    · cases ht'

/-- No dependence inside an activation is listed twice. -/
theorem nodup_links : n.links.Nodup := nodup_ite_nil (nodup_eraseDups _)

end Node

namespace DependenceGraph

variable {S : DependenceGraph} {s : Statement}

/-- No statement is listed twice. -/
theorem nodup_statements (hS : S.Assembled) : S.statements.Nodup := by
  refine nodup_flatMap_of_label Node.id Statement.node hS.indexed.nodup_ids ?_ ?_
  · intro n _
    exact Node.nodup_statements
  · intro n _ t ht
    exact Node.node_of_mem_statements ht

/-! ### Dependences -/

theorem nodup_linksFrom (hS : S.Assembled) : (S.linksFrom s).Nodup := by
  unfold linksFrom
  split
  · next p hfound =>
      have hp := List.mem_of_find?_eq_some hfound
      rw [hS.procedures] at hp
      obtain ⟨n, _, rfl⟩ := List.mem_map.mp hp
      exact Node.nodup_links.filter _
  · exact List.nodup_nil

theorem nodup_heapTargets : (S.heapTargets s).Nodup := by
  unfold heapTargets
  split
  · split
    · exact nodup_ite_nil (nodup_eraseDups _)
    · exact List.nodup_nil
  · exact List.nodup_nil

theorem nodup_callees (hS : S.Assembled) (id : NodeId) (i : Int) : (S.callees id i).Nodup := by
  unfold callees
  split
  · next site _ =>
      refine (hS.indexed.nodup_targets id site).filterMap ?_
      intro a a' n ha ha'
      rw [← (hS.indexed.node?_eq_some_iff.mp ha).2, (hS.indexed.node?_eq_some_iff.mp ha').2]
  · exact List.nodup_nil

/-- Dependences on different callees lead to different places. -/
theorem nodup_calleeLinks (hS : S.Assembled) {id : NodeId} {i : Int} {ms : List Node}
    (hms : ms.Sublist (S.callees id i)) {link : Node → Link}
    (hlink : ∀ m, (link m).target.node = m.id) : (ms.map link).Nodup := by
  refine ((nodup_callees hS id i).sublist hms).map_on ?_
  intro m hm m' hm' heq
  obtain ⟨_, _, _, _, hcalls⟩ := (mem_callees hS).mp (hms.subset hm)
  obtain ⟨_, _, _, _, hcalls'⟩ := (mem_callees hS).mp (hms.subset hm')
  refine hS.indexed.eq_of_id_eq hcalls.2.1 hcalls'.2.1 ?_
  rw [← hlink m, heq, hlink m']

/-- The results that a returned value reaches are told apart by their activation and by the site of
    their call. -/
theorem nodup_returnSites (hS : S.Assembled) (id : NodeId) : (S.returnSites id).Nodup := by
  unfold returnSites
  refine nodup_flatMap_of_label (fun e : Edge => (e.caller, some e.site))
    (fun t => (t.node, (S.graph.instruction? t).bind Instruction.site?)) ?_ ?_ ?_
  · refine (hS.indexed.edges.filter _).map_on ?_
    intro e he e' he' hkey
    have hcallee := (CallGraph.mem_inEdges.mp he).2.trans (CallGraph.mem_inEdges.mp he').2.symm
    obtain ⟨hcaller, hsite⟩ := Prod.mk.inj hkey
    exact CallGraph.edge_eq hcaller (Option.some.inj hsite) hcallee
  · intro e _
    split
    · refine ((List.nodup_range.filter _).filter _).map ?_
      intro i j h
      injection h with _ hindex
      exact Int.ofNat_inj.mp hindex
    · exact List.nodup_nil
  · intro e _ t ht
    split at ht
    · next caller hfound =>
        obtain ⟨hcaller, hid⟩ := hS.indexed.node?_eq_some_iff.mp hfound
        obtain ⟨i, hi, rfl⟩ := List.mem_map.mp ht
        obtain ⟨inst, hcode, hsite⟩ := mem_callIndices.mp (List.mem_filter.mp hi).1
        have hinst : S.graph.instruction? (.result caller.id i) = some inst :=
          (CallGraph.instructionAt?_eq_some hS.indexed).mpr ⟨caller, hcaller, rfl, i, rfl, hcode⟩
        rw [hinst, Option.bind_some, hsite, ← hid]
        rfl
    · cases ht

/-- The kinds of dependence that leave an activation or lead over a call. -/
theorem kind_of_mem_callLinks {l : Link} (h : l ∈ S.callLinks s) :
    l.kind ≠ .data ∧ l.kind ≠ .control ∧ l.kind ≠ .heap := by
  unfold callLinks at h
  split at h
  · rcases List.mem_append.mp h with h | h
    · split at h
      · obtain ⟨m, _, rfl⟩ := List.mem_map.mp h
        simp
      · cases h
    · split at h
      · rw [List.mem_singleton.mp h]
        simp
      · cases h
  · split at h
    · obtain ⟨m, _, rfl⟩ := List.mem_map.mp h
      simp
    · cases h
  · split at h
    · obtain ⟨t, _, rfl⟩ := List.mem_map.mp h
      simp
    · cases h
  · cases h

theorem nodup_callLinks (hS : S.Assembled) : (S.callLinks s).Nodup := by
  unfold callLinks
  split
  · next id i k =>
      refine List.Nodup.append
        (nodup_ite_nil (nodup_calleeLinks hS List.filter_sublist fun m => rfl))
        (nodup_ite_nil (List.nodup_singleton _)) ?_
      intro l hparam hsummary
      split at hparam
      · obtain ⟨m, _, rfl⟩ := List.mem_map.mp hparam
        split at hsummary
        · cases List.mem_singleton.mp hsummary
        · cases hsummary
      · cases hparam
  · next id i => exact nodup_ite_nil (nodup_calleeLinks hS (List.Sublist.refl _) fun m => rfl)
  · next id =>
      refine nodup_ite_nil ((nodup_returnSites hS id).map ?_)
      intro t t' h
      injection h
  · exact List.nodup_nil

/-- No dependence that leaves a statement is listed twice. -/
theorem nodup_successors (hS : S.Assembled) : (S.successors s).Nodup := by
  have hlocal : ∀ l ∈ (S.linksFrom s).filter fun l => S.options.enables l.kind,
      l.kind = .data ∨ l.kind = .control := by
    intro l hl
    obtain ⟨_, _, _, _, hdep⟩ := (mem_linksFrom hS).mp (List.mem_of_mem_filter hl)
    exact hdep.kind_local
  have hheap : ∀ l ∈ if S.options.enables .heap then (S.heapTargets s).map fun t => Link.mk s .heap t
      else [], l.kind = .heap := by
    intro l hl
    split at hl
    · obtain ⟨t, _, rfl⟩ := List.mem_map.mp hl
      rfl
    · cases hl
  unfold successors
  refine List.Nodup.append (List.Nodup.append ((nodup_linksFrom hS).filter _)
    (nodup_ite_nil (nodup_heapTargets.map ?_)) ?_) (nodup_callLinks hS) ?_
  · intro t t' h
    injection h
  · intro l hl hl'
    rcases hlocal l hl with hkind | hkind <;> rw [hheap l hl'] at hkind <;> cases hkind
  · intro l hl hl'
    obtain ⟨hdata, hcontrol, hnotHeap⟩ := kind_of_mem_callLinks hl'
    rcases List.mem_append.mp hl with hl | hl
    · rcases hlocal l hl with hkind | hkind
      · exact hdata hkind
      · exact hcontrol hkind
    · exact hnotHeap (hheap l hl)

end DependenceGraph

end TaintFlow
