/-
Module: TaintFlow.Proofs.Solver.Run
Purpose: Runs of the solver in any order of work. A run starts with the entrypoints and then executes
  instructions and visits activations as it likes; in between, the objects of a location may be listed in
  any order. Whatever a run adds follows by the rules, and where no visit adds anything more, all that
  follows by the rules is there.
Main exports: Solver.Move, Solver.Run, Solver.State.Settled, Solver.Run.coherent,
  Solver.Run.facts_subset, Solver.closed_of_visits, Solver.isLeast_of_settled
-/
import TaintFlow.Proofs.Solver.Visit

namespace TaintFlow.Solver

variable {S : Setting} {entries : List Method} {σ τ : State} {Y : Set Fact} {m : Method}

/-! ### The start -/

/-- The objects at the start are the seeds. -/
theorem mem_seeds {id : NodeId} {l : Location} {os : List AbstractObject} :
    (l, os) ∈ seeds m id ↔
      ∃ (v : Value) (t : TypeName), Seeded m v t ∧ l = .value id v ∧ os = [.ofType t] := by
  unfold seeds
  rw [List.mem_append, List.mem_filterMap]
  constructor
  · rintro (⟨⟨t, k⟩, hmem, heq⟩ | hmem)
    · split at heq
      · next href =>
          obtain ⟨rfl, rfl⟩ := Prod.mk.inj (Option.some.inj heq)
          have hk := List.mem_zipIdx_iff_getElem?.mp hmem
          refine ⟨_, t, .parameter hk href, ?_, rfl⟩
          cases m.isStatic <;> rfl
      · cases heq
    · split at hmem
      · cases hmem
      · next hstatic =>
          obtain ⟨rfl, rfl⟩ := Prod.mk.inj (List.mem_singleton.mp hmem)
          exact ⟨1, _, .receiver (Bool.eq_false_iff.mpr hstatic), rfl, rfl⟩
  · rintro ⟨v, t, hseeded, rfl, rfl⟩
    cases hseeded with
    | @parameter k t hk href =>
        refine Or.inl ⟨(t, k), List.mem_zipIdx_iff_getElem?.mpr hk, ?_⟩
        rw [if_pos href]
        cases m.isStatic <;> rfl
    | receiver hstatic => simp [hstatic]

/-- A state after activation was let start at a method and before its parameters hold anything. -/
def State.entered (σ : State) (m : Method) : State :=
  { σ with
    graph := (σ.graph.intern m .everywhere).1.addEntrypoint (σ.graph.intern m .everywhere).2 }

theorem below_entered : σ.Below (σ.entered m) where
  nodes n hn := by
    rw [State.entered, CallGraph.addEntrypoint_nodes]
    exact CallGraph.mem_intern_of_mem hn
  edges e he := by
    rwa [State.entered, CallGraph.addEntrypoint_edges, CallGraph.intern_edges]
  heap ho := ho

theorem coherent_entered (hσ : σ.Coherent S entries) (hm : m ∈ entries) :
    (σ.entered m).Coherent S entries := by
  refine hσ.extend ?_ below_entered.nodes
  obtain ⟨b, hb, hid, _⟩ := σ.graph.exists_interned m .everywhere
  rw [← hid]
  exact .addEntrypoint (.intern _ hσ.graph (List.mem_append_left _ hm)) hb

theorem facts_entered_subset (hσ : σ.Coherent S entries) (hm : m ∈ entries)
    (hY : Closed S entries Y) (hsub : σ.facts ⊆ Y) : (σ.entered m).facts ⊆ Y := by
  have hindexed := (coherent_entered hσ hm).indexed
  intro f hf
  cases hf with
  | node hn =>
      rw [State.entered, CallGraph.addEntrypoint_nodes] at hn
      rcases CallGraph.mem_intern hn with hn | ⟨rfl, _⟩
      · exact hsub (.node hn)
      · exact hY _ (.entry hm)
  | edge ha hb he =>
      rw [State.entered, CallGraph.addEntrypoint_edges, CallGraph.intern_edges] at he
      exact hsub (hσ.edge_of_extend hindexed below_entered.nodes ha hb he)
  | holds hl ho => exact hsub (hσ.holds_of_extend hindexed below_entered.nodes hl ho)

/-- The node where activation starts. -/
theorem exists_entered (σ : State) (m : Method) :
    ∃ b ∈ (σ.entered m).graph.nodes, b.activation = ⟨m.signature, .everywhere⟩ ∧
      σ.start m = { σ.entered m with heap := addAll σ.heap (seeds m b.id) } := by
  obtain ⟨b, hb, hid, hname⟩ := σ.graph.exists_interned m .everywhere
  refine ⟨b, ?_, hname, ?_⟩
  · rw [State.entered, CallGraph.addEntrypoint_nodes]
    exact hb
  · rw [hid]
    rfl

theorem steps_start (hσ : σ.Coherent S entries) (hm : m ∈ entries) :
    Steps S entries (σ.entered m) (σ.start m) := by
  obtain ⟨b, hb, hname, heq⟩ := exists_entered σ m
  rw [heq]
  refine steps_addAll (coherent_entered hσ hm) (Set.Subset.refl _) ?_
  intro l os hmem
  obtain ⟨v, t, hseeded, rfl, rfl⟩ := mem_seeds.mp hmem
  refine ⟨_, .value v hb, ?_⟩
  intro o ho
  rw [List.mem_singleton.mp ho, hname]
  exact .seed hm hseeded

theorem below_start : σ.Below (σ.start m) := by
  obtain ⟨b, _, _, heq⟩ := exists_entered σ m
  rw [heq]
  exact ⟨below_entered.nodes, below_entered.edges, mem_addAll_of_mem⟩

theorem coherent_start (hσ : σ.Coherent S entries) (hm : m ∈ entries) :
    (σ.start m).Coherent S entries :=
  Steps.coherent (coherent_entered hσ hm) (steps_start hσ hm)

theorem facts_start_subset (hσ : σ.Coherent S entries) (hm : m ∈ entries)
    (hY : Closed S entries Y) (hsub : σ.facts ⊆ Y) : (σ.start m).facts ⊆ Y :=
  Steps.facts_subset (coherent_entered hσ hm) hY (facts_entered_subset hσ hm hY hsub)
    (steps_start hσ hm)

/-- The entrypoint and its seeds are there after the start. -/
theorem seeds_subset_start :
    .node ⟨m.signature, .everywhere⟩ ∈ (σ.start m).facts ∧
      ∀ v t, Seeded m v t →
        .holds (.value ⟨m.signature, .everywhere⟩ v) (.ofType t) ∈ (σ.start m).facts := by
  obtain ⟨b, hb, hname, heq⟩ := exists_entered σ m
  rw [heq, ← hname]
  refine ⟨.node hb, ?_⟩
  intro v t hseeded
  have hmem : (Location.value b.id v, [AbstractObject.ofType t]) ∈ seeds m b.id :=
    mem_seeds.mpr ⟨v, t, hseeded, rfl, rfl⟩
  exact .holds (.value v hb) (mem_addAll hmem (List.mem_singleton_self _))

/-- Starts add to a state. -/
theorem below_starts {ms : List Method} : σ.Below (ms.foldl State.start σ) := by
  induction ms generalizing σ with
  | nil => exact .refl σ
  | cons m ms ih => exact below_start.trans ih

/-- Starts at entrypoints keep a state coherent and inside every closed set. -/
theorem starts_spec (hσ : σ.Coherent S entries) {ms : List Method} (hms : ∀ m ∈ ms, m ∈ entries) :
    (ms.foldl State.start σ).Coherent S entries ∧
      ∀ Y, Closed S entries Y → σ.facts ⊆ Y → (ms.foldl State.start σ).facts ⊆ Y := by
  induction ms generalizing σ with
  | nil => exact ⟨hσ, fun Y _ hsub => hsub⟩
  | cons m ms ih =>
      obtain ⟨hm, hms⟩ := List.forall_mem_cons.mp hms
      obtain ⟨hcoherent, hsound⟩ := ih (coherent_start hσ hm) hms
      exact ⟨hcoherent, fun Y hY hsub => hsound Y hY (facts_start_subset hσ hm hY hsub)⟩

theorem coherent_initial : (initial entries).Coherent S entries :=
  (starts_spec .empty fun _ hm => hm).1

theorem facts_initial_subset (hY : Closed S entries Y) : (initial entries).facts ⊆ Y := by
  refine (starts_spec .empty fun _ hm => hm).2 Y hY ?_
  intro f hf
  cases hf with
  | node hn => cases hn
  | edge _ _ he => cases he
  | holds _ ho => simp [PointsTo.get] at ho

/-- Every entrypoint and its seeds are there before the first round. -/
theorem seeds_subset_initial (hm : m ∈ entries) :
    .node ⟨m.signature, .everywhere⟩ ∈ (initial entries).facts ∧
      ∀ v t, Seeded m v t →
        .holds (.value ⟨m.signature, .everywhere⟩ v) (.ofType t) ∈ (initial entries).facts := by
  obtain ⟨before, after, rfl⟩ := List.append_of_mem hm
  have hinitial : initial (before ++ m :: after) =
      after.foldl State.start ((before.foldl State.start {}).start m) := by
    rw [initial, List.foldl_append, List.foldl_cons]
  rw [hinitial]
  obtain ⟨hnode, hseeds⟩ := @seeds_subset_start (before.foldl State.start {}) m
  exact ⟨below_starts.facts_subset hnode, fun v t hv => below_starts.facts_subset (hseeds v t hv)⟩

/-! ### Runs -/

/-- One piece of work: an instruction of a known activation is executed, or all of them are; or the
    objects of locations are listed in another order. -/
inductive Move (S : Setting) (σ : State) : State → Prop where
  | execute {n : Node} {i : Nat} {inst : Instruction} : n ∈ σ.graph.nodes →
      n.method.hasBody = true → n.method.code[i]? = some inst → Move S σ (σ.execute S n i inst)
  | visit {n : Node} : n ∈ σ.graph.nodes → Move S σ (σ.visit S n)
  | reorder {heap : PointsTo} : σ.heap.Reordered heap → Move S σ { σ with heap }

/-- Any amount of work in any order. -/
abbrev Run (S : Setting) : State → State → Prop := Relation.ReflTransGen (Move S)

/-- There is no more work to do: no visit makes the state larger. -/
def State.Settled (S : Setting) (σ : State) : Prop :=
  ∀ n ∈ σ.graph.nodes, (σ.visit S n).size ≤ σ.size

theorem Move.steps (hσ : σ.Coherent S entries) (h : Move S σ τ) : Steps S entries σ τ := by
  cases h with
  | execute hn hbody hi => exact steps_execute hσ hn hbody hi
  | visit hn => exact steps_visit hσ hn
  | reorder hheap => exact .single (.reorder hheap)

theorem Run.steps (hσ : σ.Coherent S entries) (h : Run S σ τ) : Steps S entries σ τ := by
  induction h with
  | refl => exact .refl
  | tail _ hmove ih => exact ih.trans (hmove.steps (Steps.coherent hσ ih))

/-- Every state of a run is coherent. -/
theorem Run.coherent (h : Run S (initial entries) τ) : τ.Coherent S entries :=
  Steps.coherent coherent_initial (Run.steps coherent_initial h)

/-- A run leads out of no closed set of facts. -/
theorem Run.facts_subset (h : Run S (initial entries) τ) (hY : Closed S entries Y) : τ.facts ⊆ Y :=
  Steps.facts_subset coherent_initial hY (facts_initial_subset hY) (Run.steps coherent_initial h)

/-! ### Where runs end -/

/-- Signatures tell the methods at hand apart. -/
def Setting.Unambiguous (S : Setting) (entries : List Method) : Prop :=
  ∀ m ∈ S.methods entries, ∀ m' ∈ S.methods entries, m.signature = m'.signature → m = m'

/-- The facts of a run are closed if all that the activations do is among them. -/
theorem closed_of_visits (h : Run S (initial entries) τ) (hS : S.Unambiguous entries)
    (hvisits : ∀ n ∈ τ.graph.nodes, ∀ f, Visits S τ.facts n.activation n.method f → f ∈ τ.facts) :
    Closed S entries τ.facts := by
  have hinitial := (Steps.grows coherent_initial (Run.steps (S := S) coherent_initial h)).below
  intro f hf
  cases hf with
  | entry hm => exact hinitial.facts_subset (seeds_subset_initial hm).1
  | seed hm hseeded => exact hinitial.facts_subset ((seeds_subset_initial hm).2 _ _ hseeded)
  | visit hactive hf =>
      obtain ⟨n, hn, rfl⟩ := node_mem_facts.mp hactive.known
      -- The method of an activation is that of its node, since their signatures agree.
      have hmethod := hS _ (h.coherent.graph.method n hn) _ hactive.method hactive.signature.symm
      exact hvisits n hn f (hmethod ▸ hf)

/-- A run that has no more work to do has found the least closed set of facts. -/
theorem isLeast_of_settled (h : Run S (initial entries) τ) (hS : S.Unambiguous entries)
    (hsettled : τ.Settled S) : IsLeast {X | Closed S entries X} τ.facts := by
  refine ⟨closed_of_visits h hS ?_, fun Y hY => h.facts_subset hY⟩
  intro n hn f hf
  have hgrows := Steps.grows h.coherent (steps_visit h.coherent hn)
  exact (hgrows.same (hsettled n hn)).facts_subset (visits_subset_facts h.coherent hn hf)

end TaintFlow.Solver
