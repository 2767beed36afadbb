/-
Module: TaintFlow.Proofs.Slice.Options
Purpose: Following more dependences never takes a statement out of a slice. Options change which summaries
  there are and in which phase the search comes to a statement, so the steps of one search are not steps
  of the other. Realizable paths know neither: a path over followed dependences is one over more of them,
  and slices hold what such paths lead to.
Main exports: Options.enables_mono, Realizable.mono, slice_mono_options
-/
import TaintFlow.Proofs.Slice.Realizable

namespace TaintFlow

/-! ### Options that follow more -/

/-- How many of the other choices follow less. -/
def DataOption.extent : DataOption → Nat
  | .none => 0
  | .noHeap => 1
  | .full => 2

/-- How many of the other choices follow less. -/
def ControlOption.extent : ControlOption → Nat
  | .none => 0
  | .insideOnly => 1
  | .full => 2

instance : LE DataOption := ⟨fun d d' => d.extent ≤ d'.extent⟩

instance : LE ControlOption := ⟨fun c c' => c.extent ≤ c'.extent⟩

/-- Options follow less than others if they do so for data and for control. -/
instance : LE Options := ⟨fun o o' => o.data ≤ o'.data ∧ o.control ≤ o'.control⟩

instance : DecidableLE DataOption := fun d d' => inferInstanceAs (Decidable (d.extent ≤ d'.extent))

instance : DecidableLE ControlOption := fun c c' => inferInstanceAs (Decidable (c.extent ≤ c'.extent))

instance : DecidableLE Options := fun o o' =>
  inferInstanceAs (Decidable (o.data ≤ o'.data ∧ o.control ≤ o'.control))

example : ({ data := .noHeap, control := .none } : Options) ≤ { data := .full, control := .insideOnly } := by
  decide

example : ¬ ({ data := .full, control := .none } : Options) ≤ { data := .noHeap, control := .full } := by
  decide

namespace Options

variable {o o' : Options}

/-- What some options follow, options that follow more do too. -/
theorem enables_mono (h : o ≤ o') {kind : Dependence} (hkind : o.enables kind = true) :
    o'.enables kind = true := by
  obtain ⟨data, control⟩ := o
  obtain ⟨data', control'⟩ := o'
  obtain ⟨hdata, hcontrol⟩ := h
  change data ≤ data' at hdata
  change control ≤ control' at hcontrol
  have hany : data ≠ .none → data' ≠ .none := by
    revert hdata
    cases data <;> cases data' <;> decide
  have hheap : data = .full → data' = .full := by
    revert hdata
    cases data <;> cases data' <;> decide
  have hinside : control ≠ .none → control' ≠ .none := by
    revert hcontrol
    cases control <;> cases control' <;> decide
  have hcall : control = .full → control' = .full := by
    revert hcontrol
    cases control <;> cases control' <;> decide
  cases kind with
  | data => simpa [enables] using hany (by simpa [enables] using hkind)
  | param => simpa [enables] using hany (by simpa [enables] using hkind)
  | ret => simpa [enables] using hany (by simpa [enables] using hkind)
  | summary => simpa [enables] using hany (by simpa [enables] using hkind)
  | heap => simpa [enables] using hheap (by simpa [enables] using hkind)
  | control => simpa [enables] using hinside (by simpa [enables] using hkind)
  | call => simpa [enables] using hcall (by simpa [enables] using hkind)

end Options

/-! ### Paths and slices -/

variable {g : CallGraph} {heap : PointsTo} {o o' : Options} {c s t : Statement} {stack : List Call}

namespace DependenceGraph

/-- Which dependences are followed does not change what there is to depend on. -/
theorem statements_ofGraph : (ofGraph g heap o).statements = g.nodes.flatMap Node.statements := by
  rw [statements, ofGraph_graph]

/-- A dependence that is followed, unless it is a summary, is followed among more. -/
theorem successor_mono (hg : g.Indexed) (h : o ≤ o') {l : Link}
    (hl : l ∈ (ofGraph g heap o).successors s) (hkind : l.kind ≠ .summary) :
    l ∈ (ofGraph g heap o').successors s := by
  obtain ⟨hsource, henabled, hlink⟩ := (mem_successors (assembled_ofGraph hg)).mp hl
  refine (mem_successors (assembled_ofGraph hg)).mpr ⟨hsource, ?_, ?_⟩
  · rw [ofGraph_options] at henabled ⊢
    exact Options.enables_mono h henabled
  · rcases hlink with hlink | hshort
    · rw [ofGraph_graph, ofGraph_heap] at hlink ⊢
      exact Or.inl hlink
    · obtain ⟨source, kind, target⟩ := l
      cases hshort
      exact absurd rfl hkind

end DependenceGraph

/-- A realizable path stays one when more is followed. It never goes over a summary, of which there may
    be others now. -/
theorem Realizable.mono (hg : g.Indexed) (h : o ≤ o')
    (hpath : Realizable (.ofGraph g heap o) c t stack) : Realizable (.ofGraph g heap o') c t stack := by
  induction hpath with
  | start => exact .start
  | @follow s stack stack' l _ hl hadvance ih =>
      have hkind : l.kind ≠ .summary := by
        obtain ⟨source, kind, target⟩ := l
        rintro rfl
        cases hadvance
      exact .follow ih (DependenceGraph.successor_mono hg h hl hkind) hadvance

/-- Slices are monotone in the options. For every call graph over methods that were read and every
    points-to map, whatever was sliced before, both slices exist, and the one that follows more holds all
    that the other holds. -/
theorem slice_mono_options (hg : g.Built Method.Parsed) {s s' : Slicer} (hs : s.Used g heap)
    (hs' : s'.Used g heap) (h : o ≤ o') (hc : c ∈ (DependenceGraph.ofGraph g heap o).statements) :
    ∃ slice slice', (s.slice c o).2 = .ok slice ∧ (s'.slice c o').2 = .ok slice' ∧
      ∀ t ∈ slice, t ∈ slice' := by
  have hc' : c ∈ (DependenceGraph.ofGraph g heap o').statements := by
    rwa [DependenceGraph.statements_ofGraph] at hc ⊢
  refine ⟨_, _, hs.slice_eq hg hc, hs'.slice_eq hg hc', ?_⟩
  intro t ht
  obtain ⟨stack, hpath⟩ := (DependenceGraph.mem_slice_iff hg hc).mp ht
  exact (DependenceGraph.mem_slice_iff hg hc').mpr ⟨stack, hpath.mono hg.indexed h⟩

/-- The object that is passed through one method twice: a slicer asked from its creation without the heap
    and without calls, and then with both. -/
theorem slice_mono_options_twoCalls :
    let o : Options := { data := .noHeap, control := .insideOnly }
    let s : Slicer := ⟨TwoCalls.graph, {}, []⟩
    (TwoCalls.graph.Built Method.Parsed ∧ s.Used TwoCalls.graph {} ∧
      (s.slice (.normal 0 0) o).1.Used TwoCalls.graph {} ∧ o ≤ {} ∧
      .normal 0 0 ∈ (DependenceGraph.ofGraph TwoCalls.graph {} o).statements) ∧
    ∃ slice slice', (s.slice (.normal 0 0) o).2 = .ok slice ∧
      ((s.slice (.normal 0 0) o).1.slice (.normal 0 0) {}).2 = .ok slice' ∧
      ∀ t ∈ slice, t ∈ slice' := by
  intro o s
  have hs : s.Used TwoCalls.graph {} := .fresh
  have hs' : (s.slice (.normal 0 0) o).1.Used TwoCalls.graph {} := .slice _ _ hs
  have ho : o ≤ {} := by decide
  exact ⟨⟨TwoCalls.graph_built, hs, hs', ho, TwoCalls.new_mem_graph {} o⟩,
    slice_mono_options TwoCalls.graph_built hs hs' ho (TwoCalls.new_mem_graph {} o)⟩

end TaintFlow
