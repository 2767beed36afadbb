/-
Module: TaintFlow.Proofs.Dependence.Summary
Purpose: The shortcuts over calls are a fixed point. More shortcuts never take a path inside an
  activation away, so each round finds at least what the round before found; the rounds end when a round
  finds nothing more, and what they end with is what one more round would find.
Main exports: DependenceGraph.mem_levelTargets, DependenceGraph.Passed, DependenceGraph.mem_refine,
  DependenceGraph.closeSummaries_induction, DependenceGraph.mem_shortcuts_ofGraph
-/
import Mathlib.Data.List.Basic
import TaintFlow.Proofs.Dependence.Links
import TaintFlow.Proofs.Search

namespace TaintFlow.DependenceGraph

variable {S : DependenceGraph} {shortcuts more : List Statement} {s t x : Statement}

/-! ### Paths inside an activation -/

/-- One step inside an activation: an enabled dependence, a shortcut, or a load of the same
    activation. -/
theorem mem_levelTargets (hS : S.Assembled) :
    t ∈ S.levelTargets shortcuts s ↔
      (∃ n ∈ S.graph.nodes, n.method.hasBody = true ∧
        ∃ kind, S.options.enables kind = true ∧ n.Depends s kind t) ∨
      (∃ id i k, s = .actual id i k ∧ s ∈ shortcuts ∧ t = .result id i) ∨
      (S.options.enables .heap = true ∧ Linked S.graph S.heap s .heap t ∧ t.node = s.node) := by
  unfold levelTargets
  rw [List.mem_append, List.mem_append, or_assoc]
  refine or_congr ?_ (or_congr ?_ ?_)
  · simp only [List.mem_map, List.mem_filter]
    constructor
    · rintro ⟨l, ⟨hl, henabled⟩, rfl⟩
      obtain ⟨_, n, hn, hbody, hdep⟩ := (mem_linksFrom hS).mp hl
      exact ⟨n, hn, hbody, l.kind, henabled, hdep⟩
    · rintro ⟨n, hn, hbody, kind, henabled, hdep⟩
      exact ⟨⟨s, kind, t⟩, ⟨(mem_linksFrom hS).mpr ⟨rfl, n, hn, hbody, hdep⟩, henabled⟩, rfl⟩
  · unfold levelTargets.shortcutTarget
    split
    · next id i k =>
        by_cases h : .actual id i k ∈ shortcuts
        · simp [h]
        · simp [h]
    · next hno =>
        constructor
        · intro h
          cases h
        · rintro ⟨id, i, k, rfl, _⟩
          exact absurd rfl (hno id i k)
  · by_cases h : S.options.enables .heap = true
    · simp [h, mem_heapTargets hS]
    · simp [h]

/-- More shortcuts allow more steps. -/
theorem levelTargets_mono (hS : S.Assembled) (hsub : ∀ x ∈ shortcuts, x ∈ more)
    (h : t ∈ S.levelTargets shortcuts s) : t ∈ S.levelTargets more s := by
  rcases (mem_levelTargets hS).mp h with h | ⟨id, i, k, hs, hmem, ht⟩ | h
  · exact (mem_levelTargets hS).mpr (Or.inl h)
  · exact (mem_levelTargets hS).mpr (Or.inr (Or.inl ⟨id, i, k, hs, hsub s hmem, ht⟩))
  · exact (mem_levelTargets hS).mpr (Or.inr (Or.inr h))

/-- A path stays one when steps are added. -/
theorem reaches_mono {α : Type} {next next' : α → List α} {within : List α} {a b : α}
    (hsub : ∀ a b, b ∈ next a → b ∈ next' a) (h : Reach.Reaches next within a b) :
    Reach.Reaches next' within a b := by
  induction h with
  | refl ha => exact .refl ha
  | step _ hnext hz ih => exact .step ih (hsub _ _ hnext) hz

/-! ### One round -/

/-- A call passes an actual parameter on to its result: some callee returns a value that depends on the
    formal parameter at its position. -/
inductive Passed (S : DependenceGraph) (shortcuts : List Statement) : Statement → Prop where
  | across {n m : Node} {i p : Nat} (calls : S.graph.Calls n i m) (here : i ∈ n.indices)
      (received : n.receivesResult i = true) (actual : .actual n.id i p ∈ n.actualsAt i)
      (position : p < m.method.parameterCount) (body : m.method.hasBody = true)
      (returns : m.returnsValue = true)
      (path : Reach.Reaches (S.levelTargets shortcuts) m.statements (.formal m.id p)
        (.returned m.id)) :
      Passed S shortcuts (.actual n.id i p)

theorem passes_iff {n : Node} {p : Nat} :
    S.passes shortcuts n p = true ↔
      Reach.Reaches (S.levelTargets shortcuts) n.statements (.formal n.id p) (.returned n.id) := by
  simp [passes, Reach.mem_explore_iff]

/-- The entry of an activation in the table of what is passed on. -/
theorem mem_passing {id : NodeId} {positions : List Nat} :
    (id, positions) ∈ S.passing shortcuts ↔
      ∃ n ∈ S.graph.nodes, n.method.hasBody = true ∧ n.returnsValue = true ∧ n.id = id ∧
        positions = (List.range n.method.parameterCount).filter (S.passes shortcuts n) := by
  simp only [passing, List.mem_filterMap]
  constructor
  · rintro ⟨n, hn, h⟩
    split at h
    · next hcond =>
        rw [Bool.and_eq_true] at hcond
        cases h
        exact ⟨n, hn, hcond.1, hcond.2, rfl, rfl⟩
    · cases h
  · rintro ⟨n, hn, hbody, hret, rfl, rfl⟩
    exact ⟨n, hn, by simp [hbody, hret]⟩

/-- Looking an activation up in the table of what is passed on. -/
theorem mem_lookup_passing (hS : S.Assembled) {m : Node} (hm : m ∈ S.graph.nodes) {p : Nat} :
    p ∈ ((S.passing shortcuts).lookup m.id).getD [] ↔
      m.method.hasBody = true ∧ m.returnsValue = true ∧ p < m.method.parameterCount ∧
        S.passes shortcuts m p = true := by
  cases hlookup : (S.passing shortcuts).lookup m.id with
  | none =>
      have hnone := List.lookup_eq_none_iff.mp hlookup
      constructor
      · intro h
        cases h
      · rintro ⟨hbody, hret, _, _⟩
        have := hnone _ (mem_passing.mpr ⟨m, hm, hbody, hret, rfl, rfl⟩)
        simp at this
  | some positions =>
      obtain ⟨before, after, heq, _⟩ := List.lookup_eq_some_iff.mp hlookup
      have hmem : (m.id, positions) ∈ S.passing shortcuts := by
        rw [heq]
        exact List.mem_append_right _ List.mem_cons_self
      obtain ⟨n, hn, hbody, hret, hid, rfl⟩ := mem_passing.mp hmem
      have hnm : n = m := hS.indexed.eq_of_id_eq hn hm hid
      subst hnm
      simp [hbody, hret]

/-- A round finds exactly the actual parameters that are passed on. -/
theorem mem_refine (hS : S.Assembled) : x ∈ S.refine shortcuts ↔ Passed S shortcuts x := by
  simp only [refine, List.mem_filter, candidates, List.mem_flatMap]
  constructor
  · rintro ⟨⟨n, hn, i, ⟨hi, hres⟩, hact⟩, hpassed⟩
    obtain ⟨inst, k, hinst, hk, rfl⟩ := Node.mem_actualsAt.mp hact
    obtain ⟨m, hm, hlookup⟩ := List.any_eq_true.mp hpassed
    obtain ⟨p, hp, hpk⟩ := List.any_eq_true.mp hlookup
    obtain ⟨n', hid, j, hj, hcalls⟩ := (mem_callees hS).mp hm
    have hn' : n' = n := hS.indexed.eq_of_id_eq hcalls.1 hn hid
    have hji : j = i := by omega
    have hpk' : p = k := Int.ofNat_inj.mp (by simpa using hpk)
    subst hn' hji hpk'
    obtain ⟨hbody, hret, hlt, hpasses⟩ := (mem_lookup_passing hS hcalls.2.1).mp hp
    exact .across hcalls hi hres hact hlt hbody hret (passes_iff.mp hpasses)
  · intro h
    cases h with
    | @across n m i p hcalls hi hres hact hlt hbody hret hpath =>
        refine ⟨⟨n, hcalls.1, i, ⟨hi, hres⟩, hact⟩, ?_⟩
        refine List.any_eq_true.mpr ⟨m, (mem_callees hS).mpr ⟨n, rfl, i, rfl, hcalls⟩, ?_⟩
        refine List.any_eq_true.mpr ⟨p, ?_, by simp⟩
        exact (mem_lookup_passing hS hcalls.2.1).mpr ⟨hbody, hret, hlt, passes_iff.mpr hpath⟩

/-- More shortcuts give rise to more shortcuts. -/
theorem Passed.mono (hS : S.Assembled) (hsub : ∀ x ∈ shortcuts, x ∈ more) (h : Passed S shortcuts x) :
    Passed S more x := by
  cases h with
  | across hcalls hi hres hact hlt hbody hret hpath =>
      exact .across hcalls hi hres hact hlt hbody hret
        (reaches_mono (fun _ _ => levelTargets_mono hS hsub) hpath)

/-! ### All rounds -/

/-- What a round keeps, all rounds keep. -/
theorem closeSummaries_induction {P : List Statement → Prop} (hstep : ∀ a, P a → P (S.refine a))
    (h : P shortcuts) (rounds : Nat) : P (S.closeSummaries shortcuts rounds).shortcuts := by
  fun_induction closeSummaries S shortcuts rounds with
  | case1 shortcuts rounds next _ ih => exact ih (hstep _ h)
  | case2 shortcuts rounds next _ => exact hstep _ h

/-- The rounds change nothing but the shortcuts and their own number. -/
theorem closeSummaries_frame (rounds : Nat) :
    ∃ found total,
      S.closeSummaries shortcuts rounds = { S with shortcuts := found, rounds := total } := by
  fun_induction closeSummaries S shortcuts rounds with
  | case1 shortcuts rounds next _ ih => exact ih
  | case2 shortcuts rounds next _ => exact ⟨_, _, rfl⟩

/-- Candidates that a round finds from a part of what it finds, it finds from the whole. -/
theorem refine_sublist_refine (hS : S.Assembled) (hsub : ∀ x ∈ shortcuts, x ∈ more) :
    (S.refine shortcuts).Sublist (S.refine more) := by
  have hsplit : S.refine shortcuts =
      S.candidates.filter fun x => decide (x ∈ S.refine shortcuts) := by
    apply List.filter_congr
    intro x hx
    simp [refine, hx]
  have hsplit' : S.refine more = S.candidates.filter fun x => decide (x ∈ S.refine more) := by
    apply List.filter_congr
    intro x hx
    simp [refine, hx]
  rw [hsplit, hsplit']
  apply List.monotone_filter_right
  intro x hx
  have hx' : x ∈ S.refine shortcuts := by simpa using hx
  simpa using (mem_refine hS).mpr (((mem_refine hS).mp hx').mono hS hsub)

/-- Where the rounds stop, the round found no more, or there were no more to find: either way it found
    the same. -/
theorem eq_of_not_growing {next : List Statement} (hgrow : shortcuts.Sublist next)
    (hnext : next.Sublist S.candidates)
    (hstop : ¬ (shortcuts.length < next.length ∧ shortcuts.length < S.candidates.length)) :
    shortcuts = next := by
  by_cases hlen : next.length ≤ shortcuts.length
  · exact hgrow.eq_of_length_le hlen
  · have hall : S.candidates.length ≤ shortcuts.length := by omega
    exact hgrow.eq_of_length_le (Nat.le_trans hnext.length_le hall)

/-- When the rounds end, one more would find the same. -/
theorem refine_closeSummaries (hS : S.Assembled) (hgrow : shortcuts.Sublist (S.refine shortcuts))
    (rounds : Nat) :
    S.refine (S.closeSummaries shortcuts rounds).shortcuts =
      (S.closeSummaries shortcuts rounds).shortcuts := by
  fun_induction closeSummaries S shortcuts rounds with
  | case1 shortcuts rounds next _ ih =>
      exact ih (refine_sublist_refine hS fun x hx => hgrow.subset hx)
  | case2 shortcuts rounds next hstop =>
      have hsame : shortcuts = next := eq_of_not_growing hgrow List.filter_sublist hstop
      change S.refine next = next
      rw [← hsame]
      exact hsame.symm

/-- A round does not look at the shortcuts that are stored. -/
theorem refine_frame (found : List Statement) (total : Nat) :
    ({ S with shortcuts := found, rounds := total } : DependenceGraph).refine shortcuts =
      S.refine shortcuts := rfl

/-! ### The dependence graph of a call graph -/

variable {g : CallGraph} {heap : PointsTo} {o : Options}

/-- The dependence graph of a call graph before any shortcut is found. -/
def unclosed (g : CallGraph) (heap : PointsTo) (o : Options) : DependenceGraph :=
  { graph := g, heap := heap, options := o
    procedures := g.nodes.map Procedure.ofNode
    loads := g.nodes.flatMap (loadsOf heap) }

theorem ofGraph_eq :
    ofGraph g heap o =
      if o.enables .summary then (unclosed g heap o).closeSummaries [] 0 else unclosed g heap o := rfl

theorem assembled_unclosed (hg : g.Indexed) : (unclosed g heap o).Assembled := ⟨hg, rfl, rfl⟩

/-- Finding shortcuts changes no other part. -/
theorem ofGraph_frame (g : CallGraph) (heap : PointsTo) (o : Options) :
    ∃ found total,
      ofGraph g heap o = { unclosed g heap o with shortcuts := found, rounds := total } := by
  rw [ofGraph_eq]
  split
  · exact closeSummaries_frame 0
  · exact ⟨[], 0, rfl⟩

@[simp] theorem ofGraph_graph : (ofGraph g heap o).graph = g := by
  obtain ⟨_, _, heq⟩ := ofGraph_frame g heap o
  rw [heq]
  rfl

@[simp] theorem ofGraph_heap : (ofGraph g heap o).heap = heap := by
  obtain ⟨_, _, heq⟩ := ofGraph_frame g heap o
  rw [heq]
  rfl

@[simp] theorem ofGraph_options : (ofGraph g heap o).options = o := by
  obtain ⟨_, _, heq⟩ := ofGraph_frame g heap o
  rw [heq]
  rfl

theorem ofGraph_refine : (ofGraph g heap o).refine shortcuts = (unclosed g heap o).refine shortcuts := by
  obtain ⟨found, total, heq⟩ := ofGraph_frame g heap o
  rw [heq, refine_frame]

/-- The parts of the dependence graph of an indexed call graph belong together. -/
theorem assembled_ofGraph (hg : g.Indexed) : (ofGraph g heap o).Assembled := by
  obtain ⟨_, _, heq⟩ := ofGraph_frame g heap o
  rw [heq]
  exact ⟨hg, rfl, rfl⟩

/-- What the empty list of shortcuts has and each round keeps, the shortcuts of the graph have. -/
theorem shortcuts_induction {P : List Statement → Prop} (hempty : P [])
    (hstep : ∀ a, P a → P ((ofGraph g heap o).refine a)) : P (ofGraph g heap o).shortcuts := by
  simp only [ofGraph_refine] at hstep
  rw [ofGraph_eq]
  split
  · exact closeSummaries_induction hstep hempty 0
  · exact hempty

/-- Where summaries are followed, the shortcuts are exactly the actual parameters that are passed on. -/
theorem mem_shortcuts_ofGraph (hg : g.Indexed) (hsummary : o.enables .summary = true) :
    x ∈ (ofGraph g heap o).shortcuts ↔ Passed (ofGraph g heap o) (ofGraph g heap o).shortcuts x := by
  have hfixed : (ofGraph g heap o).refine (ofGraph g heap o).shortcuts =
      (ofGraph g heap o).shortcuts := by
    rw [ofGraph_refine, ofGraph_eq, if_pos hsummary]
    exact refine_closeSummaries (assembled_unclosed hg) (List.nil_sublist _) 0
  rw [← mem_refine (assembled_ofGraph hg), hfixed]

end TaintFlow.DependenceGraph
