/-
Module: TaintFlow.Proofs.Taint.Report
Purpose: What the two policies have in common. Every call that an analysis of a parsed program finds has a
  result to slice from, or its source returns nothing; slicing from the result never fails. So failures,
  criteria and slices follow the list of calls, each in its order, and whether failures end an analysis
  matters only if one of the sources found returns nothing.
Main exports: Taint.IsCallOf, Taint.FailureFor, Taint.SliceFor, Taint.policies_agree
-/
import Mathlib.Data.List.Forall2
import TaintFlow.Proofs.Taint.CallSites

namespace TaintFlow

/-- Whether a method returns nothing is a matter of its descriptor. -/
theorem Signature.returnsVoid_congr {s t : Signature} (h : s.descriptor = t.descriptor) :
    s.returnsVoid = t.returnsVoid := by
  simp only [Signature.returnsVoid, Signature.resultType?, Signature.types, h]

namespace Taint

/-! ### Lists that stay aligned -/

/-- If the items that are kept are those that give something, what they give follows them in order. -/
theorem forall₂_filterMap {α β : Type} {R : α → β → Prop} {f : α → Option β} {keep : α → Bool}
    {xs : List α} (hkept : ∀ x ∈ xs, keep x = true → ∃ y, f x = some y ∧ R x y)
    (hdropped : ∀ x ∈ xs, keep x = false → f x = none) :
    List.Forall₂ R (xs.filter keep) (xs.filterMap f) := by
  induction xs with
  | nil => exact .nil
  | cons x xs ih =>
      obtain ⟨hx, hxs⟩ := List.forall_mem_cons.mp hkept
      obtain ⟨hx', hxs'⟩ := List.forall_mem_cons.mp hdropped
      cases hkeep : keep x with
      | true =>
          obtain ⟨y, hy, hR⟩ := hx hkeep
          rw [List.filter_cons_of_pos hkeep, List.filterMap_cons_some hy]
          exact .cons hR (ih hxs hxs')
      | false =>
          rw [List.filter_cons_of_neg (by simp [hkeep]), List.filterMap_cons_none (hx' hkeep)]
          exact ih hxs hxs'

/-- In lists that follow each other, every item has its counterpart. -/
theorem exists_of_mem_forall₂ {α β : Type} {R : α → β → Prop} {xs : List α} {ys : List β}
    (h : List.Forall₂ R xs ys) {x : α} (hx : x ∈ xs) : ∃ y ∈ ys, R x y := by
  induction h with
  | nil => cases hx
  | @cons x' y xs ys hR _ ih =>
      rcases List.mem_cons.mp hx with rfl | hx
      · exact ⟨y, List.mem_cons_self, hR⟩
      · obtain ⟨y', hy', hR'⟩ := ih hx
        exact ⟨y', List.mem_cons_of_mem _ hy', hR'⟩

/-- The first item that fails gives the first error. -/
theorem firstError_of_find? {α β ε : Type} {Q : α → ε → Prop} {f : α → Except ε β} {fails : α → Bool}
    {xs : List α} (hfails : ∀ x ∈ xs, fails x = true → ∃ e, f x = .error e ∧ Q x e)
    (hpasses : ∀ x ∈ xs, fails x = false → ∃ b, f x = .ok b) {x : α} (h : xs.find? fails = some x) :
    ∃ e, firstError (xs.map f) = .error e ∧ Q x e := by
  induction xs with
  | nil => cases h
  | cons y xs ih =>
      obtain ⟨hy, hxs⟩ := List.forall_mem_cons.mp hfails
      obtain ⟨hy', hxs'⟩ := List.forall_mem_cons.mp hpasses
      cases hfail : fails y with
      | true =>
          rw [List.find?_cons_of_pos hfail] at h
          cases h
          obtain ⟨e, he, hQ⟩ := hy hfail
          exact ⟨e, by rw [List.map_cons, he, firstError], hQ⟩
      | false =>
          rw [List.find?_cons_of_neg (by simp [hfail])] at h
          obtain ⟨b, hb⟩ := hy' hfail
          obtain ⟨e, he, hQ⟩ := ih hxs hxs' h
          exact ⟨e, by rw [List.map_cons, hb, firstError, he], hQ⟩

/-! ### The calls of an analysis -/

/-- A record is about the call at an index of a node; the declared target of the call has the descriptor
    of the source. -/
structure IsCallOf (g : CallGraph) (r : SiteRecord) (n : Node) (i : Nat) (site : CallSite) : Prop where
  node : n ∈ g.nodes
  statement : r.statement = .normal n.id i
  call : ∃ inst, n.code[i]? = some inst ∧ inst.site? = some site
  descriptor : site.target.descriptor = r.source.descriptor

/-- What is reported about a call without a result. -/
def IsVoidCall (g : CallGraph) (r : SiteRecord) (v : VoidReturn) : Prop :=
  ∃ n i site, IsCallOf g r n i site ∧ v = ⟨i, n.signature, site.target⟩

/-- The result that a call receives. -/
def SiteRecord.result (r : SiteRecord) : Statement := .result r.statement.node r.statement.index

/-- The failure for a call without a result. -/
structure FailureFor (g : CallGraph) (r : SiteRecord) (f : Failure) : Prop where
  stage : f.stage = .criterion
  kind : f.cause.diagnostic.kind = .voidReturn
  cause : IsVoidCall g r f.cause

/-- The slice for a call: its statements are those of the forward slice from the result, each once,
    whatever was sliced before. -/
structure SliceFor (R : Solver.Solution) (o : Options) (r : SiteRecord) (slice : SliceRecord) : Prop where
  source : slice.source = r.source
  site : slice.site = r.statement
  criterion : slice.criterion = r.result
  distinct : slice.statements.Nodup
  statements : ∀ slicer : Slicer, slicer.Used R.graph R.heap →
    ∃ found, (slicer.slice slice.criterion o).2 = .ok found ∧ slice.statements.Perm found

variable {p : Program} {e : Exclusions} {en : Enumeration} {config : Config} {r : SiteRecord}

/-- The calls that an analysis finds. -/
abbrev sitesOf (config : Config) (p : Program) (e : Exclusions) (en : Enumeration) :
    List SiteRecord :=
  foundSites (runOf config p e en).searches

/-- Every record is about a call. -/
theorem exists_isCallOf (hp : p.Parsed) (hr : r ∈ sitesOf config p e en) :
    ∃ n i site, IsCallOf (solutionOf config p e en).graph r n i site := by
  obtain ⟨s, hs, hr⟩ := List.mem_flatMap.mp hr
  rw [search_ok hp hs] at hr
  obtain ⟨statement, hstatement, rfl⟩ := List.mem_map.mp hr
  obtain ⟨i, hi, rfl⟩ := List.mem_map.mp hstatement
  have hg : (solutionOf config p e en).graph.Built Method.Parsed := built_solutionOf hp
  obtain ⟨hnode, _⟩ := (CallGraph.mem_applicationCallers hg.indexed).mp (mem_search.mp hs).2.1
  have hlocated : s.caller.code.Located := (hg.method s.caller hnode).located
  obtain ⟨inst, site, hcode, hsite, hdescriptor⟩ := (Node.mem_callPlaces hlocated).mp hi
  exact ⟨s.caller, i, site, hnode, rfl, ⟨inst, hcode, hsite⟩, hdescriptor⟩

namespace IsCallOf

variable {g : CallGraph} {n : Node} {i : Nat} {site : CallSite}

theorem result_eq (h : IsCallOf g r n i site) : r.result = .result n.id i := by
  rw [SiteRecord.result, h.statement]
  rfl

/-- The criterion for a call is its result, unless the source returns nothing. -/
theorem outcome_eq (hg : g.Indexed) (h : IsCallOf g r n i site) :
    (derive g r).outcome =
      if r.source.returnsVoid then .error ⟨i, n.signature, site.target⟩ else .ok r.result := by
  obtain ⟨inst, hcode, hsite⟩ := h.call
  have hinst : g.instruction? (.normal n.id i) = some inst :=
    (CallGraph.instructionAt?_eq_some hg).mpr ⟨n, h.node, rfl, i, rfl, hcode⟩
  have hnode : g.node? n.id = some n := hg.node?_eq_some_iff.mpr ⟨h.node, rfl⟩
  rw [derive, h.result_eq, h.statement, hinst, ← Signature.returnsVoid_congr h.descriptor]
  cases inst with
  | invoke result site' arguments =>
      cases hsite
      simp [criterion, hnode]
  | _ => cases hsite

/-- A call whose source returns a value has a result among the statements. -/
theorem result_mem (hg : g.Built Method.Parsed) (h : IsCallOf g r n i site) {heap : PointsTo}
    {o : Options} (hvoid : r.source.returnsVoid = false) :
    r.result ∈ (DependenceGraph.ofGraph g heap o).statements := by
  obtain ⟨inst, hcode, hsite⟩ := h.call
  have hbody : n.method.hasBody = true := by
    cases hbody : n.method.hasBody with
    | true => rfl
    | false =>
        have hempty : n.code = #[] := (hg.method n h.node).code_eq_empty hbody
        simp [hempty] at hcode
  have hindex : i ∈ n.indices := Node.mem_indices.mpr ⟨hbody, (Array.getElem?_eq_some_iff.mp hcode).1⟩
  have hreceives : n.receivesResult i = true := by
    cases inst with
    | invoke result site' arguments =>
        cases hsite
        simp [Node.receivesResult, hcode, Instruction.returnsValue,
          Signature.returnsVoid_congr h.descriptor, hvoid]
    | _ => cases hsite
  rw [h.result_eq, DependenceGraph.mem_statements, DependenceGraph.ofGraph_graph]
  exact ⟨n, h.node, Node.callPart_mem hindex (Node.mem_callPartsAt.mpr (Or.inr ⟨hreceives, rfl⟩))⟩

end IsCallOf

/-! ### Outcomes -/

/-- A call of a source that returns nothing fails. -/
theorem outcome_of_void (hp : p.Parsed) (hr : r ∈ sitesOf config p e en)
    (hvoid : r.source.returnsVoid = true) :
    ∃ v, (derive (solutionOf config p e en).graph r).outcome = .error v ∧
      IsVoidCall (solutionOf config p e en).graph r v := by
  obtain ⟨n, i, site, h⟩ := exists_isCallOf hp hr
  refine ⟨_, ?_, n, i, site, h, rfl⟩
  rw [h.outcome_eq (built_solutionOf hp).indexed, if_pos hvoid]

/-- A call of a source that returns a value has its result as criterion. -/
theorem outcome_of_value (hp : p.Parsed) (hr : r ∈ sitesOf config p e en)
    (hvoid : r.source.returnsVoid = false) :
    (derive (solutionOf config p e en).graph r).outcome = .ok r.result := by
  obtain ⟨n, i, site, h⟩ := exists_isCallOf hp hr
  rw [h.outcome_eq (built_solutionOf hp).indexed, if_neg (by simp [hvoid])]

/-! ### What is found -/

/-- The failures follow the calls of sources that return nothing. -/
theorem failures_found (hp : p.Parsed) :
    List.Forall₂ (FailureFor (solutionOf config p e en).graph)
      ((sitesOf config p e en).filter fun r => r.source.returnsVoid)
      (runOf config p e en).found.failures := by
  change List.Forall₂ _ _ ((((sitesOf config p e en).map
    (derive (solutionOf config p e en).graph)).filterMap _).map _)
  rw [List.map_filterMap, List.filterMap_map]
  refine forall₂_filterMap ?_ ?_
  · intro r hr hvoid
    obtain ⟨v, hv, hcall⟩ := outcome_of_void hp hr hvoid
    exact ⟨⟨.criterion, v⟩, by simp [hv], rfl, rfl, hcall⟩
  · intro r hr hvoid
    simp [outcome_of_value hp hr hvoid]

/-- The criteria follow the other calls. -/
theorem criteria_found (hp : p.Parsed) :
    List.Forall₂ (fun r c => c = r.result)
      ((sitesOf config p e en).filter fun r => !r.source.returnsVoid)
      (runOf config p e en).found.criteria := by
  change List.Forall₂ _ _ (((sitesOf config p e en).map
    (derive (solutionOf config p e en).graph)).filterMap _)
  rw [List.filterMap_map]
  refine forall₂_filterMap ?_ ?_
  · intro r hr hvoid
    have houtcome := outcome_of_value hp hr (by simpa using hvoid)
    exact ⟨r.result, by simp [houtcome, Except.toOption], rfl⟩
  · intro r hr hvoid
    obtain ⟨v, hv, _⟩ := outcome_of_void hp hr (by simpa using hvoid)
    simp [hv, Except.toOption]

/-- So do the slices. -/
theorem slices_found (hp : p.Parsed) :
    List.Forall₂ (SliceFor (solutionOf config p e en) config.options)
      ((sitesOf config p e en).filter fun r => !r.source.returnsVoid)
      (runOf config p e en).found.slices := by
  change List.Forall₂ _ _ (((sitesOf config p e en).map
    (derive (solutionOf config p e en).graph)).filterMap
    (sliceFor (.ofGraph (solutionOf config p e en).graph (solutionOf config p e en).heap config.options)))
  rw [List.filterMap_map]
  refine forall₂_filterMap ?_ ?_
  · intro r hr hvoid
    have hvalue : r.source.returnsVoid = false := by simpa using hvoid
    have houtcome := outcome_of_value hp hr hvalue
    obtain ⟨n, i, site, hcall⟩ := exists_isCallOf hp hr
    have hg : (solutionOf config p e en).graph.Built Method.Parsed := built_solutionOf hp
    refine ⟨_, by simp [sliceFor, houtcome]; rfl, rfl, rfl, rfl, ?_, ?_⟩
    · exact (List.mergeSort_perm _ _).nodup_iff.mpr (nodup_eraseDups _)
    · intro slicer hslicer
      exact ⟨_, hslicer.slice_eq hg (hcall.result_mem hg hvalue), List.mergeSort_perm _ _⟩
  · intro r hr hvoid
    obtain ⟨v, hv, _⟩ := outcome_of_void hp hr (by simpa using hvoid)
    simp [sliceFor, hv]

/-- The base types of all patterns are loaded. -/
def Config.Loaded (config : Config) (h : Hierarchy) : Prop :=
  ∀ pattern ∈ config.sources, h.contains pattern.base = true

/-- Then the methods that the patterns describe can be found. -/
theorem findings_ok (hloaded : config.Loaded (.ofProgram p e)) :
    firstError ((runOf config p e en).findings.map Finding.outcome) = .ok () := by
  rw [firstError_eq_ok]
  intro x hx
  obtain ⟨finding, hfinding, rfl⟩ := List.mem_map.mp hx
  obtain ⟨pattern, hpattern, rfl⟩ := List.mem_map.mp hfinding
  obtain ⟨c, hc⟩ := Option.isSome_iff_exists.mp (hloaded pattern hpattern)
  simp only [find, Hierarchy.implementors, Hierarchy.subclasses, Hierarchy.require, hc]
  exact ⟨_, rfl⟩

/-- The sizes of slices add up to the number of their statements. -/
theorem totalSize_eq (slices : List SliceRecord) :
    totalSize slices = (slices.flatMap SliceRecord.statements).length := by
  induction slices with
  | nil => rfl
  | cons slice slices ih =>
      rw [List.flatMap_cons, List.length_append, ← ih]
      rfl

/-- An analysis that records its failures returns what it found. -/
theorem analyse_isolate (hp : p.Parsed) (hloaded : config.Loaded (.ofProgram p e)) :
    analyse { config with policy := .isolate } ⟨p, e⟩ en = .ok (runOf config p e en).found := by
  have hfindings : firstError
      ((runOf { config with policy := .isolate } p e en).findings.map Finding.outcome) = .ok () :=
    findings_ok hloaded
  rw [analyse_eq hp, hfindings]
  rfl

/-- An analysis that failures end returns what it found, unless there is a failure. -/
theorem analyse_abort (hp : p.Parsed) (hloaded : config.Loaded (.ofProgram p e)) :
    analyse { config with policy := .abort } ⟨p, e⟩ en = (do
      (firstError ((sitesOf config p e en).map fun r =>
        (derive (solutionOf config p e en).graph r).outcome)).mapError .voidReturn
      .ok (runOf config p e en).found) := by
  have hfindings : firstError
      ((runOf { config with policy := .abort } p e en).findings.map Finding.outcome) = .ok () :=
    findings_ok hloaded
  have hderivations : (runOf { config with policy := .abort } p e en).derivations.map Derivation.outcome =
      (sitesOf config p e en).map fun r => (derive (solutionOf config p e en).graph r).outcome :=
    List.map_map
  rw [analyse_eq hp, hfindings, hderivations]
  rfl

/-- It ends with the first call of a source that returns nothing. -/
theorem analyse_abort_of_void (hp : p.Parsed) (hloaded : config.Loaded (.ofProgram p e))
    (hr : (sitesOf config p e en).find? (fun r => r.source.returnsVoid) = some r) :
    ∃ v, IsVoidCall (solutionOf config p e en).graph r v ∧
      analyse { config with policy := .abort } ⟨p, e⟩ en = .error (.voidReturn v) := by
  obtain ⟨v, hv, hcall⟩ := firstError_of_find? (fun r hr => outcome_of_void hp hr)
    (fun r hr hvoid => ⟨_, outcome_of_value hp hr hvoid⟩) hr
  refine ⟨v, hcall, ?_⟩
  rw [analyse_abort hp hloaded, hv]
  rfl

/-- Without such a call there are no failures. -/
theorem analyse_abort_of_values (hp : p.Parsed) (hloaded : config.Loaded (.ofProgram p e))
    (hnone : (sitesOf config p e en).find? (fun r => r.source.returnsVoid) = none) :
    analyse { config with policy := .abort } ⟨p, e⟩ en =
      .ok { (runOf config p e en).found with failures := [] } := by
  have hvalues : ∀ r ∈ sitesOf config p e en, r.source.returnsVoid = false := by
    intro r hr
    simpa using List.find?_eq_none.mp hnone r hr
  have hfirst : firstError ((sitesOf config p e en).map fun r =>
      (derive (solutionOf config p e en).graph r).outcome) = .ok () := by
    rw [firstError_eq_ok]
    intro x hx
    obtain ⟨r, hr, rfl⟩ := List.mem_map.mp hx
    exact ⟨_, outcome_of_value hp hr (hvalues r hr)⟩
  have hfailures : (runOf config p e en).found.failures = [] := by
    have hvoid : (sitesOf config p e en).filter (fun r => r.source.returnsVoid) = [] :=
      List.filter_eq_nil_iff.mpr fun r hr => by simp [hvalues r hr]
    rw [← List.forall₂_nil_left_iff, ← hvoid]
    exact failures_found hp
  rw [analyse_abort hp hloaded, hfirst, ← hfailures]
  rfl

/-- The two policies differ only where a source returns nothing. Let the base types of all patterns be
    loaded and `L` be the calls that are found, in order. If failures are recorded, the analysis returns
    and lists `L`. It records a failure for each call in `L` whose source returns nothing; for each other
    call it has the call's result as criterion and the forward slice from there, all in the order of `L`.
    If failures end the analysis, it ends with the first call in `L` whose source returns nothing; if there
    is none, it returns the same, without failures. The count of statements is always the length of their
    list. -/
theorem policies_agree {p : Program} (hp : p.Parsed) (e : Exclusions) (en : Enumeration) (config : Config)
    (hloaded : config.Loaded (.ofProgram p e)) :
    let h := Hierarchy.ofProgram p e
    let R := Solver.solve ⟨h, config.algorithm, en⟩ h.mains
    let sources := foundSources (config.sources.map (find h en))
    let L := foundSites (search (callersOf R.graph sources))
    ∃ report : Report,
      (analyse { config with policy := .isolate } ⟨p, e⟩ en = .ok report ∧
        (report.sources = sources ∧ report.callers = callersOf R.graph sources ∧ report.sites = L ∧
          ∀ r ∈ L, ∃ n i site, IsCallOf R.graph r n i site) ∧
        List.Forall₂ (FailureFor R.graph) (L.filter fun r => r.source.returnsVoid) report.failures ∧
        List.Forall₂ (fun r c => c = r.result) (L.filter fun r => !r.source.returnsVoid)
          report.criteria ∧
        List.Forall₂ (SliceFor R config.options) (L.filter fun r => !r.source.returnsVoid)
          report.slices) ∧
      (∀ r, L.find? (fun r => r.source.returnsVoid) = some r →
        ∃ v, IsVoidCall R.graph r v ∧
          analyse { config with policy := .abort } ⟨p, e⟩ en = .error (.voidReturn v)) ∧
      (L.find? (fun r => r.source.returnsVoid) = none →
        analyse { config with policy := .abort } ⟨p, e⟩ en = .ok { report with failures := [] }) ∧
      ∀ policy returned, analyse { config with policy } ⟨p, e⟩ en = .ok returned →
        returned.statementCount = returned.statements.length := by
  intro h R sources L
  exact ⟨(runOf config p e en).found,
    ⟨analyse_isolate hp hloaded, ⟨rfl, rfl, rfl, fun r => exists_isCallOf hp⟩, failures_found hp,
      criteria_found hp, slices_found hp⟩,
    fun r => analyse_abort_of_void hp hloaded, analyse_abort_of_values hp hloaded,
    fun policy returned _ => totalSize_eq returned.slices⟩

namespace Reads

/-- Both methods as sources. -/
def both : Config := { sources := [⟨"LS", "read", "I"⟩, ⟨"LS", "skip", "V"⟩] }

theorem loaded : both.Loaded (.ofProgram program {}) := by
  intro pattern hpattern
  rcases List.mem_cons.mp hpattern with rfl | hpattern
  · cbv
  · rw [List.mem_singleton.mp hpattern]
    cbv

theorem sources_eq :
    foundSources (both.sources.map (find (.ofProgram program {}) .asFound)) =
      [read.signature, skip.signature] := by
  cbv

theorem graph_solutionOf : (solutionOf both program {} .asFound).graph = graph := by
  rw [solutionOf, mains_eq]
  rfl

/-- The one call of a source in the method that calls both is found. -/
theorem mem_sites {target : Signature} {statement : Statement}
    (hsource : target ∈ [read.signature, skip.signature])
    (hcaller : caller ∈ graph.applicationCallers target)
    (hsites : caller.callSites target = .ok [statement]) :
    ⟨target, statement⟩ ∈ sitesOf both program {} .asFound := by
  refine List.mem_flatMap.mpr ⟨⟨target, caller, caller.callSites target⟩, ?_, ?_⟩
  · refine mem_search.mpr ⟨?_, ?_, rfl⟩
    · change _ ∈ foundSources (both.sources.map (find (.ofProgram program {}) .asFound))
      rwa [sources_eq]
    · change _ ∈ (solutionOf both program {} .asFound).graph.applicationCallers _
      rwa [graph_solutionOf]
  · simp [hsites, Except.toOption]

theorem read_mem_sites : ⟨read.signature, .normal 0 0⟩ ∈ sitesOf both program {} .asFound :=
  mem_sites List.mem_cons_self (caller_mem_callers calls_read) rfl

theorem skip_mem_sites : ⟨skip.signature, .normal 0 1⟩ ∈ sitesOf both program {} .asFound :=
  mem_sites (List.mem_cons_of_mem _ List.mem_cons_self) (caller_mem_callers calls_skip) rfl

theorem read_returnsVoid : read.signature.returnsVoid = false := by cbv

theorem skip_returnsVoid : skip.signature.returnsVoid = true := by cbv

end Reads

/-- One of two sources returns nothing: recorded, that is a failure, and the other call has its result as
    criterion and the forward slice from there; otherwise it ends the analysis. -/
theorem policies_agree_reads :
    Reads.program.Parsed ∧ Reads.both.Loaded (.ofProgram Reads.program {}) ∧
    (∃ report, analyse { Reads.both with policy := .isolate } ⟨Reads.program, {}⟩ .asFound = .ok report ∧
      report.failures ≠ [] ∧ .result 0 0 ∈ report.criteria ∧
      (∃ slice ∈ report.slices, SliceFor (solutionOf Reads.both Reads.program {} .asFound)
        Reads.both.options ⟨Reads.read.signature, .normal 0 0⟩ slice) ∧
      report.statementCount = report.statements.length) ∧
    ∃ v, analyse { Reads.both with policy := .abort } ⟨Reads.program, {}⟩ .asFound =
      .error (.voidReturn v) := by
  obtain ⟨report, ⟨hisolate, _, hfailures, hcriteria, hslices⟩, hvoid, _, hcount⟩ :=
    policies_agree Reads.parsed {} .asFound Reads.both Reads.loaded
  have hskip := Reads.skip_mem_sites
  have hread : ⟨Reads.read.signature, .normal 0 0⟩ ∈
      (sitesOf Reads.both Reads.program {} .asFound).filter fun r => !r.source.returnsVoid :=
    List.mem_filter.mpr ⟨Reads.read_mem_sites, by simp [Reads.read_returnsVoid]⟩
  refine ⟨Reads.parsed, Reads.loaded,
    ⟨report, hisolate, ?_, ?_, exists_of_mem_forall₂ hslices hread, hcount .isolate report hisolate⟩, ?_⟩
  · obtain ⟨f, hf, _⟩ := exists_of_mem_forall₂ hfailures
      (List.mem_filter.mpr ⟨hskip, Reads.skip_returnsVoid⟩)
    exact List.ne_nil_of_mem hf
  · obtain ⟨c, hc, rfl⟩ := exists_of_mem_forall₂ hcriteria hread
    exact hc
  · have hsome : ((sitesOf Reads.both Reads.program {} .asFound).find? fun r =>
        r.source.returnsVoid).isSome := List.find?_isSome.mpr ⟨_, hskip, Reads.skip_returnsVoid⟩
    obtain ⟨r, hr⟩ := Option.isSome_iff_exists.mp hsome
    obtain ⟨v, _, habort⟩ := hvoid r hr
    exact ⟨v, habort⟩

end Taint

end TaintFlow
