/-
Module: TaintFlow.Proofs.Solver.Visit
Purpose: The operations of the solver are sequences of elementary steps, and they add all that the rules
  ask for. This is shown along the structure of a visit: the flow of one instruction, the methods one
  call activates, the linking of one callee, one instruction, one activation.
Main exports: Solver.flows_of_transfer, Solver.exists_transfer, Solver.activates_iff, Solver.steps_visit,
  Solver.visits_subset_facts
-/
import TaintFlow.Proofs.Hierarchy.Lookup
import TaintFlow.Proofs.Solver.Steps

namespace TaintFlow

namespace Solver

variable {S : Setting} {entries : List Method} {σ τ : State} {g : CallGraph} {heap : PointsTo}
  {n : Node} {X : Set Fact}

/-- A method that a call activates is one of the methods at hand. -/
theorem Activates.mem_methods {a : Activation} {site : CallSite} {arguments : List Value} {c : Callee}
    (h : Activates S X a site arguments c) : c.method ∈ S.methods entries := by
  refine List.mem_append_right entries ?_
  cases h with
  | static _ hm => exact Hierarchy.mem_methods_of_resolve? hm
  | joint _ _ hm _ _ => exact Hierarchy.mem_methods_of_resolve? hm
  | split _ _ hm _ _ => exact Hierarchy.mem_methods_of_resolve? hm
  | dispatch _ _ _ hm => exact Hierarchy.mem_methods_of_dispatch? hm

/-! ### Flow inside one activation -/

section

variable {index : Nat} {inst : Instruction}

/-- Every transfer goes to a location with a name, and what it brings flows there. -/
theorem flows_of_transfer (hn : n ∈ g.nodes) {l : Location} {os : List AbstractObject}
    (h : (l, os) ∈ S.transfers heap n index inst) :
    ∃ p, g.Names l p ∧ ∀ o ∈ os, Flows S (facts g heap) n.activation index inst p o := by
  have hvalue : ∀ {v : Value} {o}, o ∈ heap.get (.value n.id v) →
      .holds (.value n.activation v) o ∈ facts g heap := fun ho => .holds (.value _ hn) ho
  cases inst with
  | new r t =>
      obtain ⟨rfl, rfl⟩ := Prod.mk.inj (List.mem_singleton.mp h)
      refine ⟨_, .value r hn, ?_⟩
      intro o ho
      rw [List.mem_singleton.mp ho]
      exact .new
  | phi r vs =>
      obtain ⟨v, hv, heq⟩ := List.mem_map.mp h
      obtain ⟨rfl, rfl⟩ := Prod.mk.inj heq
      exact ⟨_, .value r hn, fun o ho => .phi hv (hvalue ho)⟩
  | cast r v t =>
      obtain ⟨rfl, rfl⟩ := Prod.mk.inj (List.mem_singleton.mp h)
      refine ⟨_, .value r hn, ?_⟩
      intro o ho
      obtain ⟨ho, hadmits⟩ := List.mem_filter.mp ho
      exact .cast (hvalue ho) hadmits
  | getField r base f =>
      cases base with
      | none =>
          obtain ⟨rfl, rfl⟩ := Prod.mk.inj (List.mem_singleton.mp h)
          exact ⟨_, .value r hn, fun o ho => .getStatic (.holds (.static f) ho)⟩
      | some base =>
          obtain ⟨b, hb, heq⟩ := List.mem_map.mp h
          obtain ⟨rfl, rfl⟩ := Prod.mk.inj heq
          exact ⟨_, .value r hn, fun o ho => .getField (hvalue hb) (.holds (.field b f.name) ho)⟩
  | putField base f v =>
      cases base with
      | none =>
          obtain ⟨rfl, rfl⟩ := Prod.mk.inj (List.mem_singleton.mp h)
          exact ⟨_, .static f, fun o ho => .putStatic (hvalue ho)⟩
      | some base =>
          obtain ⟨b, hb, heq⟩ := List.mem_map.mp h
          obtain ⟨rfl, rfl⟩ := Prod.mk.inj heq
          exact ⟨_, .field b f.name, fun o ho => .putField (hvalue hb) (hvalue ho)⟩
  | arrayLoad r array i =>
      obtain ⟨b, hb, heq⟩ := List.mem_map.mp h
      obtain ⟨rfl, rfl⟩ := Prod.mk.inj heq
      exact ⟨_, .value r hn, fun o ho => .arrayLoad (hvalue hb) (.holds (.element b) ho)⟩
  | arrayStore array i v =>
      obtain ⟨b, hb, heq⟩ := List.mem_map.mp h
      obtain ⟨rfl, rfl⟩ := Prod.mk.inj heq
      exact ⟨_, .element b, fun o ho => .arrayStore (hvalue hb) (hvalue ho)⟩
  | ret v =>
      cases v with
      | none => cases h
      | some v =>
          obtain ⟨rfl, rfl⟩ := Prod.mk.inj (List.mem_singleton.mp h)
          exact ⟨_, .returned hn, fun o ho => .ret (hvalue ho)⟩
  | _ => cases h

/-- All that flows is transferred. -/
theorem exists_transfer (hg : g.Indexed) (hn : n ∈ g.nodes) {p : Place} {o : AbstractObject}
    (h : Flows S (facts g heap) n.activation index inst p o) :
    ∃ l os, g.Names l p ∧ (l, os) ∈ S.transfers heap n index inst ∧ o ∈ os := by
  have hvalue : ∀ {v : Value} {o}, .holds (.value n.activation v) o ∈ facts g heap →
      o ∈ heap.get (.value n.id v) := fun ho => (holds_mem_facts hg (.value _ hn)).mp ho
  cases h with
  | new => exact ⟨_, _, .value _ hn, List.mem_singleton_self _, List.mem_singleton_self _⟩
  | phi hv ho => exact ⟨_, _, .value _ hn, List.mem_map.mpr ⟨_, hv, rfl⟩, hvalue ho⟩
  | cast ho hadmits =>
      exact ⟨_, _, .value _ hn, List.mem_singleton_self _, List.mem_filter.mpr ⟨hvalue ho, hadmits⟩⟩
  | getStatic ho =>
      exact ⟨_, _, .value _ hn, List.mem_singleton_self _, (holds_mem_facts hg (.static _)).mp ho⟩
  | getField hb ho =>
      exact ⟨_, _, .value _ hn, List.mem_map.mpr ⟨_, hvalue hb, rfl⟩,
        (holds_mem_facts hg (.field _ _)).mp ho⟩
  | putStatic ho => exact ⟨_, _, .static _, List.mem_singleton_self _, hvalue ho⟩
  | putField hb ho => exact ⟨_, _, .field _ _, List.mem_map.mpr ⟨_, hvalue hb, rfl⟩, hvalue ho⟩
  | arrayLoad hb ho =>
      exact ⟨_, _, .value _ hn, List.mem_map.mpr ⟨_, hvalue hb, rfl⟩,
        (holds_mem_facts hg (.element _)).mp ho⟩
  | arrayStore hb ho => exact ⟨_, _, .element _, List.mem_map.mpr ⟨_, hvalue hb, rfl⟩, hvalue ho⟩
  | ret ho => exact ⟨_, _, .returned hn, List.mem_singleton_self _, hvalue ho⟩

end

/-! ### The methods a call activates -/

/-- The objects that reach the receiver of a call that has one. -/
theorem mem_receivers {result : Option Value} {site : CallSite} {arguments : List Value}
    {o : AbstractObject} (hkind : site.kind ≠ .static) :
    o ∈ receivers heap n (.invoke result site arguments) ↔
      ∃ v, arguments.head? = some v ∧ o ∈ heap.get (.value n.id v) := by
  have hstatic : (site.kind == .static) = false := beq_eq_false_iff_ne.mpr hkind
  unfold receivers Instruction.receiver?
  simp only [hstatic, Bool.false_eq_true, if_false]
  cases arguments.head? with
  | none => simp
  | some v => simp

/-- The objects dispatched on, as facts. -/
theorem mem_receivers_iff (hg : g.Indexed) (hn : n ∈ g.nodes) {result : Option Value}
    {site : CallSite} {arguments : List Value} {o : AbstractObject} (hkind : site.kind ≠ .static) :
    o ∈ receivers heap n (.invoke result site arguments) ↔
      ∃ v, arguments.head? = some v ∧ .holds (.value n.activation v) o ∈ facts g heap := by
  rw [mem_receivers hkind]
  refine exists_congr fun v => and_congr_right fun _ => ?_
  exact (holds_mem_facts hg (.value v hn)).symm

theorem dispatch_eq_ok {site : CallSite} {o : AbstractObject} {c : Callee} :
    Setting.outcomes.dispatch S site o = .ok c ↔
      ∃ m, S.hierarchy.dispatch? o.type site.target = some m ∧
        c = { method := m, receiver := some o } := by
  unfold Setting.outcomes.dispatch
  cases S.hierarchy.dispatch? o.type site.target with
  | none => simp
  | some m => simp [eq_comm]

/-- What the outcomes of a call with some receivers are, by the kind of call. -/
theorem ok_mem_outcomes {caller : Signature} {site : CallSite} {rs : List AbstractObject} {c : Callee} :
    .ok c ∈ S.outcomes caller site rs ↔
      (site.kind = .static ∧
        ∃ m, S.hierarchy.resolve? S.enumeration site.target = some m ∧ c = { method := m }) ∨
      (site.kind = .special ∧ S.algorithm.splitsReceivers = false ∧
        ∃ m, S.hierarchy.resolve? S.enumeration site.target = some m ∧ (∃ o, o ∈ rs) ∧
          c = { method := m }) ∨
      (site.kind = .special ∧ S.algorithm.splitsReceivers = true ∧
        ∃ m, S.hierarchy.resolve? S.enumeration site.target = some m ∧
          ∃ o ∈ rs, c = { method := m, receiver := some o }) ∨
      (site.kind.isDispatch = true ∧
        ∃ o ∈ rs, ∃ m, S.hierarchy.dispatch? o.type site.target = some m ∧
          c = { method := m, receiver := some o }) := by
  unfold Setting.outcomes
  cases site.kind with
  | static => cases S.hierarchy.resolve? S.enumeration site.target <;> simp [CallKind.isDispatch]
  | special =>
      cases S.hierarchy.resolve? S.enumeration site.target with
      | none => simp [CallKind.isDispatch]
      | some m =>
          cases S.algorithm.splitsReceivers with
          | true => simp [CallKind.isDispatch, eq_comm]
          | false => cases rs <;> simp [CallKind.isDispatch]
  | virtual => simp [CallKind.isDispatch, dispatch_eq_ok]
  | interface => simp [CallKind.isDispatch, dispatch_eq_ok]

/-- The outcomes of a call are what it activates. -/
theorem activates_iff (hg : g.Indexed) (hn : n ∈ g.nodes) {result : Option Value} {site : CallSite}
    {arguments : List Value} {c : Callee} :
    Activates S (facts g heap) n.activation site arguments c ↔
      .ok c ∈ S.outcomes n.signature site (receivers heap n (.invoke result site arguments)) := by
  have hreceiver : ∀ {o}, site.kind ≠ .static →
      (o ∈ receivers heap n (.invoke result site arguments) ↔
        ∃ v, arguments.head? = some v ∧ .holds (.value n.activation v) o ∈ facts g heap) :=
    mem_receivers_iff hg hn
  have hspecial : site.kind = .special → site.kind ≠ .static := by
    intro hkind
    simp [hkind]
  have hdispatch : site.kind.isDispatch = true → site.kind ≠ .static := by
    intro hkind hstatic
    simp [hstatic, CallKind.isDispatch] at hkind
  rw [ok_mem_outcomes]
  constructor
  · intro h
    cases h with
    | static hkind hm => exact Or.inl ⟨hkind, _, hm, rfl⟩
    | joint hkind hsplit hm hv ho =>
        have hreach := (hreceiver (hspecial hkind)).mpr ⟨_, hv, ho⟩
        exact Or.inr (Or.inl ⟨hkind, hsplit, _, hm, ⟨_, hreach⟩, rfl⟩)
    | split hkind hsplit hm hv ho =>
        have hreach := (hreceiver (hspecial hkind)).mpr ⟨_, hv, ho⟩
        exact Or.inr (Or.inr (Or.inl ⟨hkind, hsplit, _, hm, _, hreach, rfl⟩))
    | dispatch hkind hv ho hm =>
        have hreach := (hreceiver (hdispatch hkind)).mpr ⟨_, hv, ho⟩
        exact Or.inr (Or.inr (Or.inr ⟨hkind, _, hreach, _, hm, rfl⟩))
  · rintro (⟨hkind, m, hm, rfl⟩ | ⟨hkind, hsplit, m, hm, ⟨o, ho⟩, rfl⟩ |
      ⟨hkind, hsplit, m, hm, o, ho, rfl⟩ | ⟨hkind, o, ho, m, hm, rfl⟩)
    · exact .static hkind hm
    · obtain ⟨v, hv, ho⟩ := (hreceiver (hspecial hkind)).mp ho
      exact .joint hkind hsplit hm hv ho
    · obtain ⟨v, hv, ho⟩ := (hreceiver (hspecial hkind)).mp ho
      exact .split hkind hsplit hm hv ho
    · obtain ⟨v, hv, ho⟩ := (hreceiver (hdispatch hkind)).mp ho
      exact .dispatch hkind hv ho hm

/-! ### Linking one callee -/

/-- A known activation has a call that activates a method. -/
structure Invocation (S : Setting) (entries : List Method) (X : Set Fact) (n : Node)
    (result : Option Value) (site : CallSite) (arguments : List Value) (c : Callee) : Prop where
  active : Active S entries X n.activation n.method
  body : n.method.hasBody = true
  code : ∃ i : Nat, n.method.code[i]? = some (.invoke result site arguments)
  activates : Activates S X n.activation site arguments c

section

variable {result : Option Value} {site : CallSite} {arguments : List Value} {c : Callee}

theorem Invocation.mono {Y : Set Fact} (hsub : X ⊆ Y)
    (h : Invocation S entries X n result site arguments c) :
    Invocation S entries Y n result site arguments c :=
  ⟨h.active.mono hsub, h.body, h.code, h.activates.mono hsub⟩

/-- What an invocation does follows by the rules. -/
theorem Invocation.rule (h : Invocation S entries X n result site arguments c) {f : Fact}
    (hf : Called S X n.activation result site arguments c f) : Rule S entries X f := by
  obtain ⟨i, hi⟩ := h.code
  exact .visit h.active (.execute h.body hi (.call h.activates hf))

/-- The objects that the argument at a position passes on. -/
def passedAt (heap : PointsTo) (caller : NodeId) (receiver : Option AbstractObject) (position : Nat)
    (v : Value) : List AbstractObject :=
  match position, receiver with
  | 0, some o => [o]
  | _, _ => heap.get (.value caller v)

/-- The object a call was dispatched on is passed alone. -/
theorem mem_passedAt {caller : NodeId} {receiver : Option AbstractObject} {position : Nat} {v : Value}
    {o : AbstractObject} : o ∈ passedAt heap caller receiver position v ↔
      (position = 0 ∧ receiver = some o) ∨
      ((position = 0 → receiver = none) ∧ o ∈ heap.get (.value caller v)) := by
  cases position with
  | zero => cases receiver <;> simp [passedAt, eq_comm]
  | succ position => cases receiver <;> simp [passedAt]

theorem passArguments_cons {caller callee : NodeId} {receiver : Option AbstractObject}
    {position : Nat} {v : Value} {vs : List Value} :
    passArguments heap caller callee receiver position (v :: vs) =
      passArguments (heap.add (.value callee (position + 1 : Nat))
        (passedAt heap caller receiver position v)) caller callee receiver (position + 1) vs := rfl

/-- Passing arguments keeps what the map holds. -/
theorem mem_passArguments_of_mem {caller callee : NodeId} {receiver : Option AbstractObject}
    {position : Nat} {vs : List Value} {l : Location} {o : AbstractObject} (ho : o ∈ heap.get l) :
    o ∈ (passArguments heap caller callee receiver position vs).get l := by
  induction vs generalizing heap position with
  | nil => exact ho
  | cons v vs ih => exact ih (PointsTo.mem_get_add_of_mem ho)

/-- What the argument at a position passes on reaches the parameter there. -/
theorem mem_passArguments {caller callee : NodeId} {receiver : Option AbstractObject}
    {position k : Nat} {vs : List Value} {v : Value} {o : AbstractObject} (hv : vs[k]? = some v)
    (ho : o ∈ passedAt heap caller receiver (position + k) v) :
    o ∈ (passArguments heap caller callee receiver position vs).get
      (.value callee (position + k + 1 : Nat)) := by
  induction vs generalizing heap position k with
  | nil => simp at hv
  | cons w vs ih =>
      rw [passArguments_cons]
      cases k with
      | zero =>
          simp only [List.getElem?_cons_zero, Option.some.injEq] at hv
          subst hv
          exact mem_passArguments_of_mem (PointsTo.mem_get_add.mpr (Or.inr ⟨rfl, ho⟩))
      | succ k =>
          have heq : position + (k + 1) = position + 1 + k := by omega
          rw [heq] at ho ⊢
          refine ih (by simpa using hv) (mem_passedAt.mpr ((mem_passedAt.mp ho).imp_right ?_))
          exact And.imp_right PointsTo.mem_get_add_of_mem

/-- Passing arguments is a sequence of steps. The induction is on the arguments that are left. -/
theorem steps_passArguments (hσ : σ.Coherent S entries) (hn : n ∈ σ.graph.nodes) {b : Node}
    (hb : b ∈ σ.graph.nodes) (hname : b.activation = S.activation n.activation site c)
    (h : Invocation S entries σ.facts n result site arguments c) (htakes : c.Takes arguments)
    {position : Nat} {vs : List Value} (hvs : arguments.drop position = vs) :
    Steps S entries σ
      { σ with heap := passArguments σ.heap n.id b.id c.receiver position vs } := by
  induction vs generalizing σ position with
  | nil => exact .refl
  | cons v vs ih =>
      have hv : arguments[position]? = some v := by
        rw [← List.head?_drop, hvs, List.head?_cons]
      have hdrop : arguments.drop (position + 1) = vs := by
        rw [← List.tail_drop, hvs, List.tail_cons]
      have hstep : Step S entries σ
          { σ with
            heap := σ.heap.add (.value b.id (position + 1 : Nat))
              (passedAt σ.heap n.id c.receiver position v) } := by
        refine .hold (.value (position + 1) hb) ?_
        intro o ho
        rw [hname]
        rcases mem_passedAt.mp ho with ⟨rfl, hreceiver⟩ | ⟨hreceiver, ho⟩
        · have hhead : arguments.head? = some v := by rw [List.head?_eq_getElem?, hv]
          exact h.rule (.receiver htakes hhead hreceiver)
        · exact h.rule (.argument htakes hv hreceiver (.holds (.value v hn) ho))
      have hgrows := hstep.grows hσ
      exact .head hstep (ih (hstep.coherent hσ) hn hb (h.mono hgrows.below.facts_subset) hdrop)

/-- A points-to map after a callee has got its arguments, if it takes them. -/
def handOver (c : Callee) (heap : PointsTo) (caller callee : NodeId) (arguments : List Value) :
    PointsTo :=
  if c.method.hasBody && c.method.parameterCount = arguments.length then
    passArguments heap caller callee c.receiver 0 arguments
  else heap

/-- A points-to map after a caller has got what its callee returned, if it asks for it. -/
def takeBack (result : Option Value) (heap : PointsTo) (caller callee : NodeId) : PointsTo :=
  match result with
  | some r => heap.add (.value caller r) (heap.get (.returned callee))
  | none => heap

theorem link_graph : (σ.link S n result site arguments c).graph =
    (σ.graph.intern c.method (S.activation n.activation site c).context).1.addEdge
      ⟨n.id, site, (σ.graph.intern c.method (S.activation n.activation site c).context).2⟩ := rfl

theorem link_heap : (σ.link S n result site arguments c).heap =
    let callee := (σ.graph.intern c.method (S.activation n.activation site c).context).2
    takeBack result (handOver c σ.heap n.id callee arguments) n.id callee := rfl

theorem mem_handOver_of_mem {caller callee : NodeId} {l : Location} {o : AbstractObject}
    (ho : o ∈ heap.get l) : o ∈ (handOver c heap caller callee arguments).get l := by
  unfold handOver
  split
  · exact mem_passArguments_of_mem ho
  · exact ho

theorem mem_handOver {caller callee : NodeId} (htakes : c.Takes arguments) {k : Nat} {v : Value}
    (hv : arguments[k]? = some v) {o : AbstractObject} (ho : o ∈ passedAt heap caller c.receiver k v) :
    o ∈ (handOver c heap caller callee arguments).get (.value callee (k + 1 : Nat)) := by
  have hcond : (c.method.hasBody && decide (c.method.parameterCount = arguments.length)) = true := by
    simp [htakes.1, htakes.2]
  unfold handOver
  rw [if_pos hcond]
  have heq : 0 + k = k := Nat.zero_add k
  rw [← heq] at ho ⊢
  exact mem_passArguments hv ho

theorem mem_takeBack_of_mem {caller callee : NodeId} {l : Location} {o : AbstractObject}
    (ho : o ∈ heap.get l) : o ∈ (takeBack result heap caller callee).get l := by
  cases result with
  | none => exact ho
  | some r => exact PointsTo.mem_get_add_of_mem ho

theorem steps_handOver (hσ : σ.Coherent S entries) (hn : n ∈ σ.graph.nodes) {b : Node}
    (hb : b ∈ σ.graph.nodes) (hname : b.activation = S.activation n.activation site c)
    (h : Invocation S entries σ.facts n result site arguments c) :
    Steps S entries σ { σ with heap := handOver c σ.heap n.id b.id arguments } := by
  unfold handOver
  split
  · next hcond =>
      have htakes : c.Takes arguments := by simpa [Callee.Takes] using hcond
      exact steps_passArguments hσ hn hb hname h htakes List.drop_zero
  · exact .refl

theorem steps_takeBack (hn : n ∈ σ.graph.nodes) {b : Node} (hb : b ∈ σ.graph.nodes)
    (hname : b.activation = S.activation n.activation site c)
    (h : Invocation S entries σ.facts n result site arguments c) :
    Steps S entries σ { σ with heap := takeBack result σ.heap n.id b.id } := by
  cases result with
  | none => exact .refl
  | some r =>
      refine .single (.hold (.value r hn) ?_)
      intro o ho
      exact h.rule (.result rfl (hname ▸ .holds (.returned hb) ho))

/-- Linking a callee is a sequence of steps: the edge, the arguments, the result. -/
theorem steps_link (hσ : σ.Coherent S entries) (hn : n ∈ σ.graph.nodes)
    (h : Invocation S entries σ.facts n result site arguments c) :
    Steps S entries σ (σ.link S n result site arguments c) := by
  obtain ⟨b, hb, hid, hname⟩ :=
    σ.graph.exists_interned c.method (S.activation n.activation site c).context
  have hedge : Step S entries σ { σ with graph := (σ.link S n result site arguments c).graph } :=
    .link hn h.activates.mem_methods (h.rule .node) (h.rule .edge)
  have hcoherent := hedge.coherent hσ
  have hbelow := (hedge.grows hσ).below
  have hn' := hbelow.nodes n hn
  have hb' : b ∈ (σ.link S n result site arguments c).graph.nodes := by
    rw [link_graph, CallGraph.addEdge_nodes]
    exact hb
  have hinvocation := h.mono hbelow.facts_subset
  have hover : Steps S entries { σ with graph := (σ.link S n result site arguments c).graph }
      { σ with
        graph := (σ.link S n result site arguments c).graph
        heap := handOver c σ.heap n.id b.id arguments } :=
    steps_handOver hcoherent hn' hb' hname hinvocation
  have hback : Steps S entries
      { σ with
        graph := (σ.link S n result site arguments c).graph
        heap := handOver c σ.heap n.id b.id arguments }
      { σ with
        graph := (σ.link S n result site arguments c).graph
        heap := takeBack result (handOver c σ.heap n.id b.id arguments) n.id b.id } := by
    refine steps_takeBack ?_ ?_ hname (hinvocation.mono ?_)
    · exact hn'
    · exact hb'
    · exact (Steps.grows hcoherent hover).below.facts_subset
  have hlink : σ.link S n result site arguments c =
      { graph := (σ.link S n result site arguments c).graph
        heap := takeBack result (handOver c σ.heap n.id b.id arguments) n.id b.id
        notices := (σ.link S n result site arguments c).notices } := by
    rw [hid]
    rfl
  rw [hlink]
  exact (Relation.ReflTransGen.head hedge (hover.trans hback)).tail (.note _)

/-- Linking a callee adds all that the call does. -/
theorem called_subset_link (hσ : σ.Coherent S entries) (hn : n ∈ σ.graph.nodes)
    (h : Invocation S entries σ.facts n result site arguments c) {f : Fact}
    (hf : Called S σ.facts n.activation result site arguments c f) :
    f ∈ (σ.link S n result site arguments c).facts := by
  obtain ⟨b, hb, hid, hname⟩ :=
    σ.graph.exists_interned c.method (S.activation n.activation site c).context
  have hsteps := steps_link hσ hn h
  have hindexed := (Steps.coherent hσ hsteps).indexed
  have hnodes := (Steps.grows hσ hsteps).below.nodes
  have hb' : b ∈ (σ.link S n result site arguments c).graph.nodes := by
    rw [link_graph, CallGraph.addEdge_nodes]
    exact hb
  have hname' : b.activation = S.activation n.activation site c := hname
  have hvalue : ∀ {v : Value} {o}, .holds (.value n.activation v) o ∈ σ.facts →
      o ∈ σ.heap.get (.value n.id v) := fun ho => (holds_mem_facts hσ.indexed (.value _ hn)).mp ho
  have hheap : (σ.link S n result site arguments c).heap =
      takeBack result (handOver c σ.heap n.id b.id arguments) n.id b.id := by
    rw [link_heap, hid]
  cases hf with
  | node =>
      rw [← hname']
      exact .node hb'
  | edge =>
      rw [← hname']
      refine .edge (hnodes n hn) hb' ?_
      rw [link_graph, hid]
      exact CallGraph.mem_addEdge.mpr (Or.inr rfl)
  | receiver htakes hv hreceiver =>
      rw [← hname']
      refine .holds (.value 1 hb') ?_
      rw [hheap]
      rw [List.head?_eq_getElem?] at hv
      exact mem_takeBack_of_mem (mem_handOver htakes hv (mem_passedAt.mpr (Or.inl ⟨rfl, hreceiver⟩)))
  | argument htakes hv hreceiver ho =>
      rw [← hname']
      refine .holds (.value _ hb') ?_
      rw [hheap]
      exact mem_takeBack_of_mem
        (mem_handOver htakes hv (mem_passedAt.mpr (Or.inr ⟨hreceiver, hvalue ho⟩)))
  | result hr ho =>
      subst hr
      obtain ⟨l, hl, ho⟩ := holds_mem_facts_iff.mp ho
      have heq : l = .returned b.id :=
        (hl.mono hnodes).eq_location hindexed (hname' ▸ .returned hb')
      refine .holds (.value _ (hnodes n hn)) ?_
      rw [hheap]
      exact PointsTo.mem_get_add.mpr (Or.inr ⟨rfl, mem_handOver_of_mem (heq ▸ ho)⟩)

end

/-! ### One instruction -/

theorem addAll_cons {f : Location × List AbstractObject}
    {flows : List (Location × List AbstractObject)} :
    addAll heap (f :: flows) = addAll (heap.add f.1 f.2) flows := rfl

theorem mem_addAll_of_mem {flows : List (Location × List AbstractObject)} {l : Location}
    {o : AbstractObject} (ho : o ∈ heap.get l) : o ∈ (addAll heap flows).get l := by
  induction flows generalizing heap with
  | nil => exact ho
  | cons f flows ih => exact ih (PointsTo.mem_get_add_of_mem ho)

theorem mem_addAll {flows : List (Location × List AbstractObject)} {l : Location}
    {os : List AbstractObject} (h : (l, os) ∈ flows) {o : AbstractObject} (ho : o ∈ os) :
    o ∈ (addAll heap flows).get l := by
  induction flows generalizing heap with
  | nil => cases h
  | cons f flows ih =>
      rw [addAll_cons]
      rcases List.mem_cons.mp h with rfl | h
      · exact mem_addAll_of_mem (PointsTo.mem_get_add.mpr (Or.inr ⟨rfl, ho⟩))
      · exact ih h

/-- Entering flows that follow by the rules is a sequence of steps. -/
theorem steps_addAll (hσ : σ.Coherent S entries) {flows : List (Location × List AbstractObject)}
    (hX : X ⊆ σ.facts) (h : ∀ l os, (l, os) ∈ flows →
      ∃ p, σ.graph.Names l p ∧ ∀ o ∈ os, Rule S entries X (.holds p o)) :
    Steps S entries σ { σ with heap := addAll σ.heap flows } := by
  induction flows generalizing σ with
  | nil => exact .refl
  | cons f flows ih =>
      obtain ⟨p, hp, hrule⟩ := h f.1 f.2 List.mem_cons_self
      have hstep : Step S entries σ { σ with heap := σ.heap.add f.1 f.2 } :=
        .hold hp fun o ho => (hrule o ho).mono hX
      have hbelow := (hstep.grows hσ).below
      refine .head hstep (ih (hstep.coherent hσ) (hX.trans hbelow.facts_subset) ?_)
      intro l os hmem
      exact h l os (List.mem_cons_of_mem f hmem)

section

variable {i : Nat} {inst : Instruction}

/-- The flow of an instruction is a sequence of steps. -/
theorem steps_transfers (hσ : σ.Coherent S entries) (hn : n ∈ σ.graph.nodes)
    (hbody : n.method.hasBody = true) (hi : n.method.code[i]? = some inst) :
    Steps S entries σ { σ with heap := addAll σ.heap (S.transfers σ.heap n i inst) } := by
  refine steps_addAll hσ (Set.Subset.refl σ.facts) ?_
  intro l os hmem
  obtain ⟨p, hp, hflows⟩ := flows_of_transfer hn hmem
  exact ⟨p, hp, fun o ho => .visit (hσ.active hn) (.execute hbody hi (.flow (hflows o ho)))⟩

variable {result : Option Value} {site : CallSite} {arguments : List Value}

/-- The callees that a call is linked to. -/
def callees (S : Setting) (σ : State) (n : Node) (result : Option Value) (site : CallSite)
    (arguments : List Value) : List Callee :=
  (S.outcomes n.signature site (receivers σ.heap n (.invoke result site arguments))).filterMap fun
    | .ok c => some c
    | .error _ => none

theorem mem_callees (hσ : σ.Coherent S entries) (hn : n ∈ σ.graph.nodes) {c : Callee} :
    c ∈ callees S σ n result site arguments ↔
      Activates S σ.facts n.activation site arguments c := by
  have hactivates : Activates S σ.facts n.activation site arguments c ↔
      .ok c ∈ S.outcomes n.signature site (receivers σ.heap n (.invoke result site arguments)) :=
    activates_iff hσ.indexed hn
  rw [hactivates, callees, List.mem_filterMap]
  constructor
  · rintro ⟨outcome, hmem, heq⟩
    cases outcome with
    | ok c' =>
        injection heq with heq
        rwa [heq] at hmem
    | error notice => cases heq
  · intro hmem
    exact ⟨_, hmem, rfl⟩

/-- A call links its callees one after another. -/
theorem execute_invoke : ∃ notices, σ.execute S n i (.invoke result site arguments) =
    (callees S σ n result site arguments).foldl
      (fun τ c => τ.link S n result site arguments c) { σ with notices } := ⟨_, rfl⟩

/-- A call that was found to activate a method still does after further steps. -/
theorem invocation_of_steps (hσ : σ.Coherent S entries) (hn : n ∈ σ.graph.nodes)
    (hbody : n.method.hasBody = true)
    (hi : n.method.code[i]? = some (.invoke result site arguments)) {c : Callee}
    (hc : Activates S σ.facts n.activation site arguments c) (hτ : Steps S entries σ τ) :
    Invocation S entries τ.facts n result site arguments c :=
  Invocation.mono (Steps.grows hσ hτ).below.facts_subset ⟨hσ.active hn, hbody, ⟨i, hi⟩, hc⟩

/-- Linking a callee that was found for a call is a sequence of steps, also after further steps. -/
theorem steps_link_of_mem (hσ : σ.Coherent S entries) (hn : n ∈ σ.graph.nodes)
    (hbody : n.method.hasBody = true)
    (hi : n.method.code[i]? = some (.invoke result site arguments)) {c : Callee}
    (hc : c ∈ callees S σ n result site arguments) (hτ : Steps S entries σ τ) :
    Steps S entries τ (τ.link S n result site arguments c) :=
  steps_link (Steps.coherent hσ hτ) ((Steps.grows hσ hτ).below.nodes n hn)
    (invocation_of_steps hσ hn hbody hi ((mem_callees hσ hn).mp hc) hτ)

/-- Executing an instruction is a sequence of steps. -/
theorem steps_execute (hσ : σ.Coherent S entries) (hn : n ∈ σ.graph.nodes)
    (hbody : n.method.hasBody = true) (hi : n.method.code[i]? = some inst) :
    Steps S entries σ (σ.execute S n i inst) := by
  cases inst with
  | invoke result site arguments =>
      obtain ⟨notices, heq⟩ := execute_invoke (S := S) (n := n) (i := i)
      rw [heq]
      refine .head (.note notices) (steps_foldl ?_)
      intro τ hτ c hc
      exact steps_link_of_mem hσ hn hbody hi hc (.head (.note notices) hτ)
  | _ => exact steps_transfers hσ hn hbody hi

/-- Executing an instruction adds all that it does. -/
theorem executes_subset_facts (hσ : σ.Coherent S entries) (hn : n ∈ σ.graph.nodes)
    (hbody : n.method.hasBody = true) (hi : n.method.code[i]? = some inst) {f : Fact}
    (hf : Executes S σ.facts n.activation i inst f) : f ∈ (σ.execute S n i inst).facts := by
  cases hf with
  | flow hflow =>
      obtain ⟨l, os, hl, hmem, ho⟩ := exists_transfer hσ.indexed hn hflow
      have hheld : .holds _ _ ∈ facts σ.graph (addAll σ.heap (S.transfers σ.heap n i inst)) :=
        .holds hl (mem_addAll hmem ho)
      cases inst with
      | invoke result site arguments => cases hflow
      | _ => exact hheld
  | @call result site arguments c f hc hf =>
      obtain ⟨notices, heq⟩ := execute_invoke (S := S) (n := n) (i := i)
      rw [heq]
      have hsteps : ∀ τ, Steps S entries { σ with notices } τ → Steps S entries σ τ :=
        fun τ hτ => .head (.note notices) hτ
      refine mem_facts_foldl (Step.coherent hσ (.note notices)) ((mem_callees hσ hn).mpr hc) ?_ ?_
      · intro τ hτ c' hc'
        exact steps_link_of_mem hσ hn hbody hi hc' (hsteps τ hτ)
      · intro τ hτ
        have hbelow := (Steps.grows hσ (hsteps τ hτ)).below
        exact called_subset_link (Steps.coherent hσ (hsteps τ hτ)) (hbelow.nodes n hn)
          (invocation_of_steps hσ hn hbody hi hc (hsteps τ hτ)) (hf.mono hbelow.facts_subset)

end

/-! ### One activation -/

theorem mem_zipIdx_code {m : Method} {i : Nat} {inst : Instruction} :
    (inst, i) ∈ m.code.toList.zipIdx ↔ m.code[i]? = some inst := by
  rw [List.mem_zipIdx_iff_getElem?, Array.getElem?_toList]

/-- Executing an instruction of an activation is a sequence of steps, also after further steps. -/
theorem steps_execute_of_mem (hσ : σ.Coherent S entries) (hn : n ∈ σ.graph.nodes)
    (hbody : n.method.hasBody = true) {p : Instruction × Nat} (hp : p ∈ n.code.toList.zipIdx)
    (hτ : Steps S entries σ τ) : Steps S entries τ (τ.execute S n p.2 p.1) :=
  steps_execute (Steps.coherent hσ hτ) ((Steps.grows hσ hτ).below.nodes n hn) hbody
    (mem_zipIdx_code.mp hp)

/-- Visiting an activation is a sequence of steps. -/
theorem steps_visit (hσ : σ.Coherent S entries) (hn : n ∈ σ.graph.nodes) :
    Steps S entries σ (σ.visit S n) := by
  unfold State.visit
  split
  · next hbody =>
      refine steps_foldl ?_
      intro τ hτ p hp
      exact steps_execute_of_mem hσ hn hbody hp hτ
  · next hbody =>
      split
      · next t ht =>
          split
          · next hnative =>
              obtain ⟨hnative, href⟩ := Bool.and_eq_true_iff.mp hnative
              refine .single (.hold (.returned hn) ?_)
              intro o ho
              rw [List.mem_singleton.mp ho]
              exact .visit (hσ.active hn) (.native (Bool.eq_false_iff.mpr hbody) hnative ht href)
          · exact .refl
      · exact .refl

/-- So is visiting an activation that was known before further steps. -/
theorem steps_visit_of_mem (hσ : σ.Coherent S entries) (hn : n ∈ σ.graph.nodes)
    (hτ : Steps S entries σ τ) : Steps S entries τ (τ.visit S n) :=
  steps_visit (Steps.coherent hσ hτ) ((Steps.grows hσ hτ).below.nodes n hn)

/-- Visiting an activation adds all that it does. -/
theorem visits_subset_facts (hσ : σ.Coherent S entries) (hn : n ∈ σ.graph.nodes) {f : Fact}
    (hf : Visits S σ.facts n.activation n.method f) : f ∈ (σ.visit S n).facts := by
  unfold State.visit
  cases hf with
  | execute hbody hi hf =>
      rw [if_pos hbody]
      refine mem_facts_foldl hσ (mem_zipIdx_code.mpr hi)
        (fun τ hτ p hp => steps_execute_of_mem hσ hn hbody hp hτ) ?_
      intro τ hτ
      have hbelow := (Steps.grows hσ hτ).below
      exact executes_subset_facts (Steps.coherent hσ hτ) (hbelow.nodes n hn) hbody hi
        (hf.mono hbelow.facts_subset)
  | native hbody hnative ht href =>
      have hresult : n.signature.resultType? = some _ := ht
      simp only [hbody, hresult, hnative, href, Bool.false_eq_true, if_false, Bool.and_self, if_true]
      exact .holds (.returned hn) (PointsTo.mem_get_add.mpr (Or.inr ⟨rfl, List.mem_singleton_self _⟩))

end Solver

end TaintFlow
