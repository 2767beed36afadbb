/-
Module: TaintFlow.Proofs.Dependence.Procedure
Purpose: The statements of one activation and the dependences between them, case by case. `Node.Depends`
  lists the ways in which one statement of an activation depends on another; the computed list of links
  holds exactly those, and all of them join statements of the activation.
Main exports: Node.mem_statements, Node.Depends, Node.mem_links, Node.Depends.target_mem
-/
import TaintFlow.Dependence.Procedure

namespace TaintFlow.Node

variable {n : Node} {s t u : Statement} {i : Nat} {v : Value} {kind : Dependence}

/-! ### Statements -/

theorem mem_indices : i ∈ n.indices ↔ n.method.hasBody = true ∧ i < n.code.size := by
  unfold indices
  split
  · next h => simp [h]
  · next h => simp [h]

/-- An index has an instruction. -/
theorem exists_of_mem_indices (h : i ∈ n.indices) : ∃ inst, n.code[i]? = some inst := by
  obtain ⟨_, hi⟩ := mem_indices.mp h
  exact ⟨n.code[i], Array.getElem?_eq_getElem hi⟩

theorem mem_actualsAt :
    t ∈ n.actualsAt i ↔
      ∃ inst k, n.code[i]? = some inst ∧ k < inst.arguments.length ∧ t = .actual n.id i (k : Nat) := by
  unfold actualsAt
  cases hi : n.code[i]? with
  | none => simp
  | some inst =>
      simp only [List.mem_map, List.mem_range, Option.some.injEq]
      constructor
      · rintro ⟨k, hk, rfl⟩
        exact ⟨inst, k, rfl, hk, rfl⟩
      · rintro ⟨_, k, rfl, hk, rfl⟩
        exact ⟨k, hk, rfl⟩

theorem mem_callPartsAt :
    t ∈ n.callPartsAt i ↔
      t ∈ n.actualsAt i ∨ (n.receivesResult i = true ∧ t = .result n.id i) := by
  unfold callPartsAt
  by_cases h : n.receivesResult i = true
  · simp [h]
  · simp [h]

theorem mem_formals :
    t ∈ n.formals ↔ ∃ k, k < n.method.parameterCount ∧ t = .formal n.id (k : Nat) := by
  simp only [formals, List.mem_map, List.mem_range]
  constructor
  · rintro ⟨k, hk, rfl⟩
    exact ⟨k, hk, rfl⟩
  · rintro ⟨k, hk, rfl⟩
    exact ⟨k, hk, rfl⟩

/-- The statements of an activation: its entry, its formal parameters, its instructions with the parts
    of calls, and the value it returns. -/
theorem mem_statements :
    t ∈ n.statements ↔
      t = .entry n.id ∨ t ∈ n.formals ∨
      (∃ i ∈ n.indices, t = n.statementAt i ∨ t ∈ n.callPartsAt i) ∨
      (n.returnsValue = true ∧ t = .returned n.id) := by
  unfold statements
  by_cases h : n.returnsValue = true
  · simp [h]
  · simp [h]

@[simp] theorem statementAt_node : (n.statementAt i).node = n.id := by
  unfold statementAt
  split <;> rfl

/-- The statements of an activation belong to it. -/
theorem node_of_mem_statements (h : t ∈ n.statements) : t.node = n.id := by
  rcases mem_statements.mp h with rfl | ht | ⟨i, _, rfl | ht⟩ | ⟨_, rfl⟩
  · rfl
  · obtain ⟨k, _, rfl⟩ := mem_formals.mp ht
    rfl
  · exact statementAt_node
  · rcases mem_callPartsAt.mp ht with ht | ⟨_, rfl⟩
    · obtain ⟨_, _, _, _, rfl⟩ := mem_actualsAt.mp ht
      rfl
    · rfl
  · rfl

/-- The statement of an instruction that is no phi. -/
theorem statementAt_of_not_phi {inst : Instruction} (hi : n.code[i]? = some inst)
    (hphi : inst.isPhi = false) : n.statementAt i = .normal n.id i := by
  unfold statementAt
  rw [hi]
  cases inst with
  | phi r vs => cases hphi
  | _ => rfl

theorem statementAt_mem (h : i ∈ n.indices) : n.statementAt i ∈ n.statements :=
  mem_statements.mpr (Or.inr (Or.inr (Or.inl ⟨i, h, Or.inl rfl⟩)))

theorem callPart_mem (h : i ∈ n.indices) (ht : t ∈ n.callPartsAt i) : t ∈ n.statements :=
  mem_statements.mpr (Or.inr (Or.inr (Or.inl ⟨i, h, Or.inr ht⟩)))

/-! ### Dependences -/

/-- One statement of an activation depends on another. -/
inductive Depends (n : Node) : Statement → Dependence → Statement → Prop where
  /-- The parts of a call depend on it. -/
  | callPart {i : Nat} {t : Statement} : i ∈ n.indices → t ∈ n.callPartsAt i →
      Depends n (n.statementAt i) .control t
  /-- A use depends on the definition. -/
  | use {i : Nat} {v : Value} {d u : Statement} : i ∈ n.indices → v ∈ n.usesAt i →
      n.definition? v = some d → u ∈ n.useStatements i v → Depends n d .data u
  /-- The value returned depends on the return. -/
  | returned {i : Nat} {v : Value} : i ∈ n.indices → n.code[i]? = some (.ret (some v)) →
      n.returnsValue = true → Depends n (n.statementAt i) .data (.returned n.id)
  /-- What a branch decides about depends on it. -/
  | branch {row : Nat × List Nat} {b : Nat} : row ∈ n.code.controlDependence → b ∈ row.2 →
      Depends n (n.statementAt row.1) .control (n.statementAt b)
  /-- What no branch decides about depends on the entry. -/
  | unguarded {i : Nat} : i ∈ n.indices → (∀ row ∈ n.code.controlDependence, i ∉ row.2) →
      Depends n (.entry n.id) .control (n.statementAt i)

theorem mem_callLinks {l : Link} :
    l ∈ n.callLinks ↔
      ∃ i ∈ n.indices, ∃ t ∈ n.callPartsAt i, l = ⟨n.statementAt i, .control, t⟩ := by
  simp only [callLinks, List.mem_flatMap, List.mem_map, eq_comm]

theorem mem_useLinks {l : Link} :
    l ∈ n.useLinks i v ↔
      ∃ d, n.definition? v = some d ∧ ∃ u ∈ n.useStatements i v, l = ⟨d, .data, u⟩ := by
  unfold useLinks
  cases n.definition? v with
  | none => simp
  | some d => simp [eq_comm]

theorem mem_returnLinks {l : Link} :
    l ∈ n.returnLinks i ↔
      ∃ v, n.code[i]? = some (.ret (some v)) ∧ n.returnsValue = true ∧
        l = ⟨n.statementAt i, .data, .returned n.id⟩ := by
  unfold returnLinks
  split
  · next v hi =>
      by_cases h : n.returnsValue = true
      · simp [h, hi]
      · simp [h]
  · next hno =>
      constructor
      · intro h
        cases h
      · rintro ⟨v, hi, _⟩
        exact absurd hi (hno v)

theorem mem_dataLinks {l : Link} :
    l ∈ n.dataLinks ↔
      ∃ i ∈ n.indices, (∃ v ∈ n.usesAt i, l ∈ n.useLinks i v) ∨ l ∈ n.returnLinks i := by
  simp only [dataLinks, List.mem_flatMap, List.mem_append]

theorem mem_controlLinks {l : Link} :
    l ∈ n.controlLinks ↔
      (∃ row ∈ n.code.controlDependence, ∃ b ∈ row.2,
        l = ⟨n.statementAt row.1, .control, n.statementAt b⟩) ∨
      (∃ i ∈ n.indices, (∀ row ∈ n.code.controlDependence, i ∉ row.2) ∧
        l = ⟨.entry n.id, .control, n.statementAt i⟩) := by
  simp only [controlLinks, List.mem_append, List.mem_flatMap, List.mem_map, List.mem_filter,
    Bool.not_eq_true', List.contains_eq_mem, decide_eq_false_iff_not, not_exists, not_and, and_assoc,
    @eq_comm _ l]

/-- The computed links are exactly the dependences. -/
theorem mem_links {l : Link} :
    l ∈ n.links ↔ n.method.hasBody = true ∧ n.Depends l.source l.kind l.target := by
  unfold links
  split
  · next hbody =>
      rw [List.mem_eraseDups, List.mem_append, List.mem_append, mem_callLinks, mem_dataLinks,
        mem_controlLinks]
      constructor
      · rintro ((⟨i, hi, t, ht, rfl⟩ | ⟨i, hi, ⟨v, hv, h⟩ | h⟩) |
          (⟨row, hrow, b, hb, rfl⟩ | ⟨i, hi, hno, rfl⟩))
        · exact ⟨hbody, .callPart hi ht⟩
        · obtain ⟨d, hd, u, hu, rfl⟩ := mem_useLinks.mp h
          exact ⟨hbody, .use hi hv hd hu⟩
        · obtain ⟨v, hv, hr, rfl⟩ := mem_returnLinks.mp h
          exact ⟨hbody, .returned hi hv hr⟩
        · exact ⟨hbody, .branch hrow hb⟩
        · exact ⟨hbody, .unguarded hi hno⟩
      · rintro ⟨_, h⟩
        obtain ⟨source, kind, target⟩ := l
        cases h with
        | callPart hi ht => exact Or.inl (Or.inl ⟨_, hi, _, ht, rfl⟩)
        | use hi hv hd hu =>
            exact Or.inl (Or.inr ⟨_, hi, Or.inl ⟨_, hv, mem_useLinks.mpr ⟨_, hd, _, hu, rfl⟩⟩⟩)
        | returned hi hv hr =>
            exact Or.inl (Or.inr ⟨_, hi, Or.inr (mem_returnLinks.mpr ⟨_, hv, hr, rfl⟩)⟩)
        | branch hrow hb => exact Or.inr (Or.inl ⟨_, hrow, _, hb, rfl⟩)
        | unguarded hi hno => exact Or.inr (Or.inr ⟨_, hi, hno, rfl⟩)
  · next hbody => simp [hbody]

/-- Branches and what they decide about are instructions. -/
theorem controlDependence_lt {code : Code} {row : Nat × List Nat} {b : Nat}
    (hrow : row ∈ code.controlDependence) (hb : b ∈ row.2) : b < code.size := by
  obtain ⟨_, hcontrolled, _⟩ := Code.mem_controlDependence.mp hrow
  rw [hcontrolled, Flow.controlledBy, List.mem_filter, List.mem_range] at hb
  exact hb.1

/-- A use stands at its instruction. -/
theorem useStatement_mem (hi : i ∈ n.indices) (hu : u ∈ n.useStatements i v) : u ∈ n.statements := by
  unfold useStatements at hu
  split at hu
  · next r site args hinst =>
      obtain ⟨⟨w, k⟩, hp, hw⟩ := List.mem_filterMap.mp hu
      split at hw
      · cases hw
        have hk : k < args.length := by
          have := List.mem_zipIdx hp
          omega
        exact callPart_mem hi (mem_callPartsAt.mpr (Or.inl (mem_actualsAt.mpr
          ⟨_, k, hinst, hk, rfl⟩)))
      · cases hw
  · rw [List.mem_singleton.mp hu]
    exact statementAt_mem hi

namespace Depends

/-- Dependence inside an activation is by data or by control. -/
theorem kind_local (h : n.Depends s kind t) : kind = .data ∨ kind = .control := by
  cases h with
  | callPart => exact Or.inr rfl
  | use => exact Or.inl rfl
  | returned => exact Or.inl rfl
  | branch => exact Or.inr rfl
  | unguarded => exact Or.inr rfl

/-- Dependences lead to statements of the activation. -/
theorem target_mem (hbody : n.method.hasBody = true) (h : n.Depends s kind t) : t ∈ n.statements := by
  cases h with
  | callPart hi ht => exact callPart_mem hi ht
  | use hi _ _ hu => exact useStatement_mem hi hu
  | returned _ _ hr => exact mem_statements.mpr (Or.inr (Or.inr (Or.inr ⟨hr, rfl⟩)))
  | branch hrow hb =>
      exact statementAt_mem (mem_indices.mpr ⟨hbody, controlDependence_lt hrow hb⟩)
  | unguarded hi _ => exact statementAt_mem hi

/-- Dependences leave statements that belong to the activation. -/
theorem source_node (h : n.Depends s kind t) : s.node = n.id := by
  cases h with
  | callPart => exact statementAt_node
  | use _ _ hd _ =>
      unfold definition? at hd
      split at hd
      · cases hd
        rfl
      · obtain ⟨i, _, rfl⟩ := Option.map_eq_some_iff.mp hd
        split
        · rfl
        · exact statementAt_node
  | returned => exact statementAt_node
  | branch => exact statementAt_node
  | unguarded => rfl

end Depends

end TaintFlow.Node
