/-
Module: TaintFlow.Proofs.Taint.CallSites
Purpose: The calls of a source are found. Call edges come from look-ups by name and descriptor, so where
  the call graph has an edge into a source, the code of the caller has a call whose declared target has
  the descriptor of the source. In bodies that were read a call site belongs to one instruction. Hence the
  search in the code of a caller never contradicts the call graph, and no analysis ends for that reason.
Main exports: CallGraph.mem_applicationCallers, Node.callPlaces, Node.callSites_eq,
  Solver.callSites_solve, Taint.search_ok, Taint.analyse_eq, Taint.Reads.parsed, Taint.callSites_found
-/
import TaintFlow.Proofs.Dependence.Links
import TaintFlow.Proofs.Distinct
import TaintFlow.Proofs.Dump.Calls
import TaintFlow.Proofs.Slice.Projection
import TaintFlow.Proofs.Solver.Origin
import TaintFlow.Taint.Report

namespace TaintFlow

/-! ### Callers -/

namespace CallGraph

variable {g : CallGraph} {target : Signature}

/-- The application callers of a method are the application's nodes with an edge into a node of the
    method. -/
theorem mem_applicationCallers (hg : g.Indexed) {n : Node} :
    n ∈ g.applicationCallers target ↔
      n ∈ g.nodes ∧ n.method.isApplication = true ∧
        ∃ m ∈ g.nodes, m.signature = target ∧ g.Invokes n.id m.id := by
  simp only [applicationCallers, nodesFor, List.mem_filter, List.mem_filterMap, List.mem_eraseDups,
    List.mem_flatMap, mem_callers, beq_iff_eq]
  constructor
  · rintro ⟨⟨id, ⟨m, ⟨hm, hsignature⟩, hcall⟩, hfound⟩, happlication⟩
    obtain ⟨hn, rfl⟩ := hg.node?_eq_some_iff.mp hfound
    exact ⟨hn, happlication, m, hm, hsignature, hcall⟩
  · rintro ⟨hn, happlication, m, hm, hsignature, hcall⟩
    exact ⟨⟨n.id, ⟨m, ⟨hm, hsignature⟩, hcall⟩, hg.node?_eq_some_iff.mpr ⟨hn, rfl⟩⟩, happlication⟩

theorem nodup_applicationCallers (hg : g.Indexed) : (g.applicationCallers target).Nodup := by
  refine ((nodup_eraseDups _).filterMap ?_).filter _
  intro a a' n ha ha'
  rw [← (hg.node?_eq_some_iff.mp ha).2, (hg.node?_eq_some_iff.mp ha').2]

end CallGraph

/-! ### Calls in the code of a caller -/

namespace Node

variable {n : Node} {target : Signature} {descriptor : String} {i : Nat}

/-- The program counters of the calls whose declared target has a given descriptor. -/
def callPlaces (n : Node) (descriptor : String) : List Nat :=
  (n.sitesWith descriptor).map fun site => site.pc.toNat

theorem mem_sitesWith {site : CallSite} :
    site ∈ n.sitesWith descriptor ↔
      (∃ (i : Nat) (inst : Instruction), n.code[i]? = some inst ∧ inst.site? = some site) ∧
        site.target.descriptor = descriptor := by
  simp only [sitesWith, List.mem_filter, List.mem_filterMap, beq_iff_eq, Array.mem_toList_iff,
    Array.mem_iff_getElem?]
  constructor
  · rintro ⟨⟨inst, ⟨i, hi⟩, hsite⟩, hdescriptor⟩
    exact ⟨⟨i, inst, hi, hsite⟩, hdescriptor⟩
  · rintro ⟨⟨i, inst, hi, hsite⟩, hdescriptor⟩
    exact ⟨⟨inst, ⟨i, hi⟩, hsite⟩, hdescriptor⟩

/-- In code that was read, the places are the indices of the calls. -/
theorem mem_callPlaces (h : n.code.Located) :
    i ∈ n.callPlaces descriptor ↔
      ∃ inst site, n.code[i]? = some inst ∧ inst.site? = some site ∧
        site.target.descriptor = descriptor := by
  simp only [callPlaces, List.mem_map, mem_sitesWith]
  constructor
  · rintro ⟨site, ⟨⟨j, inst, hj, hsite⟩, hdescriptor⟩, rfl⟩
    rw [h j inst hj site hsite, Int.toNat_natCast]
    exact ⟨inst, site, hj, hsite, hdescriptor⟩
  · rintro ⟨inst, site, hi, hsite, hdescriptor⟩
    refine ⟨site, ⟨⟨i, inst, hi, hsite⟩, hdescriptor⟩, ?_⟩
    rw [h i inst hi site hsite, Int.toNat_natCast]

/-- The places are listed in ascending order, each once. -/
theorem callPlaces_ascending (h : n.code.Located) : (n.callPlaces descriptor).Pairwise (· < ·) := by
  unfold callPlaces sitesWith
  rw [List.pairwise_map]
  refine List.Pairwise.filter _ (List.pairwise_filterMap.mpr (List.pairwise_iff_getElem.mpr ?_))
  intro i j hi hj hij site hsite site' hsite'
  have hpc := h i _ (Array.getElem?_eq_getElem hi) site hsite
  have hpc' := h j _ (Array.getElem?_eq_getElem hj) site' hsite'
  omega

/-- In code that was read, every call site has its one index. -/
theorem indicesOf_eq (h : n.code.Located) {sites : List CallSite}
    (hsites : ∀ site ∈ sites, site ∈ n.sitesWith descriptor) :
    n.indicesOf target sites = .ok (sites.map fun site => site.pc.toNat) := by
  induction sites with
  | nil => rfl
  | cons site rest ih =>
      obtain ⟨hsite, hrest⟩ := List.forall_mem_cons.mp hsites
      obtain ⟨⟨i, inst, hi, hinst⟩, _⟩ := mem_sitesWith.mp hsite
      simp only [indicesOf, h.callIndices_eq hi hinst, ih hrest, List.map_cons,
        h i inst hi site hinst, Int.toNat_natCast]
      rfl

/-- In code that was read, looking for calls gives the places, unless there is none. -/
theorem callSites_eq (h : n.code.Located) (hsome : n.callPlaces target.descriptor ≠ []) :
    n.callSites target = .ok ((n.callPlaces target.descriptor).map fun i : Nat => .normal n.id i) := by
  have hindices : n.indicesOf target (n.sitesWith target.descriptor) =
      .ok (n.callPlaces target.descriptor) := indicesOf_eq h fun _ hsite => hsite
  unfold callSites
  rw [hindices]
  have hnot : (n.callPlaces target.descriptor).isEmpty = false := by simpa using hsome
  change (if (n.callPlaces target.descriptor).isEmpty then _ else _) = _
  rw [hnot]
  rfl

end Node

/-! ### Solved programs -/

namespace Solver

variable {p : Program} {e : Exclusions} {a : Algorithm} {en : Enumeration} {entries : List Method}
  {n : Node} {target : Signature}

/-- The code of every node was read. -/
theorem located_solve (hp : p.Parsed) (hentries : ∀ m ∈ entries, m ∈ p.methods)
    (hn : n ∈ (solve ⟨.ofProgram p e, a, en⟩ entries).graph.nodes) : n.code.Located :=
  ((built_solve hp e a en hentries).method n hn).located

/-- A call that the graph resolves to a method is at one of the places with the method's descriptor. -/
theorem mem_callPlaces_of_calls (hp : p.Parsed) (hentries : ∀ m ∈ entries, m ∈ p.methods) {m : Node}
    {i : Nat} (h : (solve ⟨.ofProgram p e, a, en⟩ entries).graph.Calls n i m)
    (htarget : m.signature = target) : i ∈ n.callPlaces target.descriptor := by
  obtain ⟨hn, hm, inst, site, hi, hsite, he⟩ := h
  have hS := unambiguous_of_parsed hp e a en hentries
  obtain ⟨_, _, hselector⟩ := exists_call_solve hS hn hm he
  rw [Node.mem_callPlaces (located_solve hp hentries hn), ← htarget]
  exact ⟨inst, site, hi, hsite, (congrArg Selector.descriptor hselector).symm⟩

/-- A caller of a method has a place with the method's descriptor. -/
theorem callPlaces_ne_nil (hp : p.Parsed) (hentries : ∀ m ∈ entries, m ∈ p.methods)
    (hn : n ∈ (solve ⟨.ofProgram p e, a, en⟩ entries).graph.applicationCallers target) :
    n.callPlaces target.descriptor ≠ [] := by
  have hS := unambiguous_of_parsed hp e a en hentries
  obtain ⟨hn, _, m, hm, htarget, site, he⟩ :=
    (CallGraph.mem_applicationCallers (built_solve hp e a en hentries).indexed).mp hn
  obtain ⟨_, ⟨i, inst, hi, hsite⟩, _⟩ := exists_call_solve hS hn hm he
  exact List.ne_nil_of_mem
    (mem_callPlaces_of_calls hp hentries ⟨hn, hm, inst, site, hi, hsite, he⟩ htarget)

/-- Looking for the calls of a method in one of its callers gives the places. -/
theorem callSites_solve (hp : p.Parsed) (hentries : ∀ m ∈ entries, m ∈ p.methods)
    (hn : n ∈ (solve ⟨.ofProgram p e, a, en⟩ entries).graph.applicationCallers target) :
    n.callSites target = .ok ((n.callPlaces target.descriptor).map fun i : Nat => .normal n.id i) := by
  have hnode := (CallGraph.mem_applicationCallers (built_solve hp e a en hentries).indexed).mp hn
  exact Node.callSites_eq (located_solve hp hentries hnode.1) (callPlaces_ne_nil hp hentries hn)

end Solver

/-- Programs start at methods of their own. -/
theorem Hierarchy.mem_methods_of_mem_mains {p : Program} {e : Exclusions} {m : Method}
    (hm : m ∈ (Hierarchy.ofProgram p e).mains) : m ∈ p.methods := by
  obtain ⟨c, hc, hm⟩ := List.mem_filterMap.mp hm
  split at hm
  · have hmethod := (Option.filter_eq_some_iff.mp hm).1
    exact List.mem_flatMap.mpr ⟨c, List.mem_of_mem_filter hc, List.mem_of_find?_eq_some hmethod⟩
  · cases hm

/-! ### Analyses -/

namespace Taint

/-- There is no first error exactly if nothing failed. -/
theorem firstError_eq_ok {ε α : Type} {outcomes : List (Except ε α)} :
    firstError outcomes = .ok () ↔ ∀ x ∈ outcomes, ∃ a, x = .ok a := by
  induction outcomes with
  | nil => simp [firstError]
  | cons x rest ih =>
      cases x with
      | ok a => simp [firstError, ih]
      | error e => simp [firstError]

/-- The searches of an analysis: one for each source and each caller of it, in the caller's code. -/
theorem mem_search {g : CallGraph} {sources : List Signature} {s : Search} :
    s ∈ search (callersOf g sources) ↔
      s.source ∈ sources ∧ s.caller ∈ g.applicationCallers s.source ∧
        s.outcome = s.caller.callSites s.source := by
  simp only [search, callersOf, List.mem_flatMap, List.mem_filterMap, List.mem_map]
  constructor
  · rintro ⟨⟨source, callers⟩, ⟨source', hsource, hrow⟩, n, hn, rfl⟩
    split at hrow
    · cases hrow
    · cases hrow
      exact ⟨hsource, List.mem_mergeSort.mp hn, rfl⟩
  · rintro ⟨hsource, hcaller, houtcome⟩
    refine ⟨(s.source, (g.applicationCallers s.source).mergeSort fun a b => a.id ≤ b.id),
      ⟨s.source, hsource, ?_⟩, s.caller, List.mem_mergeSort.mpr hcaller, ?_⟩
    · have hsome : (g.applicationCallers s.source).isEmpty = false := by
        simpa using List.ne_nil_of_mem hcaller
      simp [hsome]
    · rw [← houtcome]

section

variable {p : Program} {e : Exclusions} {en : Enumeration} {config : Config}

/-- The solved program of an analysis. -/
abbrev solutionOf (config : Config) (p : Program) (e : Exclusions) (en : Enumeration) :
    Solver.Solution :=
  Solver.solve ⟨.ofProgram p e, config.algorithm, en⟩ (Hierarchy.ofProgram p e).mains

/-- The analysis of a program with the standard engine. -/
abbrev runOf (config : Config) (p : Program) (e : Exclusions) (en : Enumeration) : Run :=
  Run.make config ⟨p, e⟩ Engine.standard en

theorem built_solutionOf (hp : p.Parsed) : (solutionOf config p e en).graph.Built Method.Parsed :=
  Solver.built_solve hp e config.algorithm en fun _ => Hierarchy.mem_methods_of_mem_mains

/-- The searches of an analysis of a parsed program succeed. -/
theorem search_ok (hp : p.Parsed) {sources : List Signature} {s : Search}
    (hs : s ∈ search (callersOf (solutionOf config p e en).graph sources)) :
    s.outcome =
      .ok ((s.caller.callPlaces s.source.descriptor).map fun i : Nat => .normal s.caller.id i) := by
  obtain ⟨_, hcaller, houtcome⟩ := mem_search.mp hs
  rw [houtcome]
  exact Solver.callSites_solve hp (fun _ => Hierarchy.mem_methods_of_mem_mains) hcaller

/-- An analysis of a parsed program never fails in the search for calls. -/
theorem analyse_eq (hp : p.Parsed) :
    analyse config ⟨p, e⟩ en = (do
      (firstError ((runOf config p e en).findings.map Finding.outcome)).mapError .unresolved
      if config.policy = .abort then
        (firstError ((runOf config p e en).derivations.map Derivation.outcome)).mapError .voidReturn
      .ok (runOf config p e en).found) := by
  have hsearches : firstError ((runOf config p e en).searches.map Search.outcome) = .ok () := by
    rw [firstError_eq_ok]
    intro x hx
    obtain ⟨s, hs, rfl⟩ := List.mem_map.mp hx
    exact ⟨_, search_ok hp hs⟩
  unfold analyse Run.report
  rw [hsearches]
  rfl

/-- It ends only for a type that is not loaded or for a call without a result. -/
theorem analyse_error_cases (hp : p.Parsed) {fault : Fault} (h : analyse config ⟨p, e⟩ en = .error fault) :
    (∃ u, fault = .unresolved u) ∨ ∃ v, fault = .voidReturn v := by
  rw [analyse_eq hp] at h
  cases hfindings : firstError ((runOf config p e en).findings.map Finding.outcome) with
  | error u =>
      rw [hfindings] at h
      cases h
      exact Or.inl ⟨u, rfl⟩
  | ok _ =>
      rw [hfindings] at h
      by_cases hpolicy : config.policy = .abort
      · rw [if_pos hpolicy] at h
        cases hderivations : firstError ((runOf config p e en).derivations.map Derivation.outcome) with
        | error v =>
            rw [hderivations] at h
            cases h
            exact Or.inr ⟨v, rfl⟩
        | ok _ =>
            rw [hderivations] at h
            cases h
      · rw [if_neg hpolicy] at h
        cases h

end

/-! ### A program with sources

One of the two methods that it calls returns a value, the other one nothing. -/

namespace Reads

/-- Returns a number. -/
def read : Method :=
  { signature := ⟨"LS", "read", "()I"⟩, loader := .application, isStatic := true, isNative := true }

/-- Returns nothing. -/
def skip : Method :=
  { signature := ⟨"LS", "skip", "()V"⟩, loader := .application, isStatic := true, isNative := true }

/-- Calls both. -/
def main : Method :=
  { signature := ⟨"LM", "main", "([Ljava/lang/String;)V"⟩
    loader := .application
    isStatic := true
    code := #[.invoke (some 2) ⟨0, read.signature, .static⟩ [],
      .invoke none ⟨1, skip.signature, .static⟩ []] }

def program : Program :=
  { source := "reads"
    classes := [{ name := "LM", methods := [main] }, { name := "LS", methods := [read, skip] }] }

/-- The text of the program. -/
def text : String :=
  "(program (class LM (method main \"([Ljava/lang/String;)V\" (static) (body " ++
      "(invoke 2 static LS read \"()I\") (invoke _ static LS skip \"()V\")))) " ++
    "(class LS (method read \"()I\" (static) (native)) (method skip \"()V\" (static) (native))))"

set_option maxRecDepth 100000 in
theorem parsed : program.Parsed := by
  have htext : text.toList = _ :=
    Dump.toList_of_append (Dump.toList_of_append
      (Dump.toList_of_literal rfl) (Dump.toList_of_literal rfl)) (Dump.toList_of_literal rfl)
  have hread : Dump.read "reads" text = .ok program :=
    Dump.read_of_chars htext (by with_unfolding_all rfl) (by with_unfolding_all rfl)
  exact .of_read hread

theorem mains_eq : (Hierarchy.ofProgram program {}).mains = [main] := by cbv

theorem main_mem : ∀ m ∈ [main], m ∈ program.methods :=
  List.forall_mem_singleton.mpr List.mem_cons_self

/-- The call graph. -/
abbrev graph : CallGraph := (Solver.solve ⟨.ofProgram program {}, .plain, .asFound⟩ [main]).graph

/-- The one activation of the method that calls both. -/
abbrev caller : Node := ⟨0, main, .everywhere⟩

theorem unambiguous : Solver.Setting.Unambiguous ⟨.ofProgram program {}, .plain, .asFound⟩ [main] :=
  Solver.unambiguous_of_parsed parsed {} .plain .asFound main_mem

theorem caller_mem : caller ∈ graph.nodes :=
  Solver.mem_nodes_solve unambiguous List.mem_cons_self

/-- A static call activates what its target resolves to. -/
theorem calls_of_resolve? {i : Nat} {result : Option Value} {site : CallSite} {m : Method}
    (hi : caller.code[i]? = some (.invoke result site [])) (hkind : site.kind = .static)
    (hm : (Hierarchy.ofProgram program {}).resolve? .asFound site.target = some m) :
    ∃ k ∈ graph.nodes, k.signature = m.signature ∧ graph.Calls caller i k := by
  obtain ⟨k, hk, hsignature, he⟩ :=
    Solver.exists_callee_solve unambiguous caller_mem rfl hi (.static hkind hm)
  exact ⟨k, hk, hsignature, caller_mem, hk, _, site, hi, rfl, he⟩

/-- The first call activates the method that returns a number. -/
theorem calls_read : ∃ k ∈ graph.nodes, k.signature = read.signature ∧ graph.Calls caller 0 k :=
  calls_of_resolve? rfl rfl (by cbv)

/-- The second call activates the method that returns nothing. -/
theorem calls_skip : ∃ k ∈ graph.nodes, k.signature = skip.signature ∧ graph.Calls caller 1 k :=
  calls_of_resolve? rfl rfl (by cbv)

/-- A method that one of the calls activates is called by the application. -/
theorem caller_mem_callers {i : Nat} {target : Signature}
    (h : ∃ k ∈ graph.nodes, k.signature = target ∧ graph.Calls caller i k) :
    caller ∈ graph.applicationCallers target := by
  obtain ⟨k, hk, htarget, _, _, _, site, _, _, he⟩ := h
  have hindexed := (Solver.built_solve parsed {} .plain .asFound main_mem).indexed
  exact (CallGraph.mem_applicationCallers hindexed).mpr
    ⟨caller_mem, rfl, k, hk, htarget, site, he⟩

end Reads

/-- No call of a source is lost, and the search never contradicts the call graph. In a solved program the
    application callers of a method are the nodes of the application with an edge into a node of it, each
    once. Looking for the calls in such a caller succeeds: it gives the indices of the calls whose declared
    target has the method's descriptor, in ascending order, and all calls that the graph resolves to the
    method are among them. So no analysis ends because call graph and code disagree. -/
theorem callSites_found {p : Program} (hp : p.Parsed) (e : Exclusions) (en : Enumeration) :
    (∀ (a : Algorithm) (entries : List Method), (∀ m ∈ entries, m ∈ p.methods) →
      let g := (Solver.solve ⟨.ofProgram p e, a, en⟩ entries).graph
      ∀ target : Signature,
        (g.applicationCallers target).Nodup ∧
        (∀ n, n ∈ g.applicationCallers target ↔
          n ∈ g.nodes ∧ n.method.isApplication = true ∧
            ∃ m ∈ g.nodes, m.signature = target ∧ g.Invokes n.id m.id) ∧
        ∀ n ∈ g.applicationCallers target, ∃ indices : List Nat,
          n.callSites target = .ok (indices.map fun i : Nat => .normal n.id i) ∧
          indices.Pairwise (· < ·) ∧
          (∀ i, i ∈ indices ↔ ∃ inst site, n.code[i]? = some inst ∧ inst.site? = some site ∧
            site.target.descriptor = target.descriptor) ∧
          ∀ i m, g.Calls n i m → m.signature = target → i ∈ indices) ∧
    ∀ (config : Config) (fault : Fault), analyse config ⟨p, e⟩ en = .error fault →
      fault.diagnostic.kind.isA .inconsistency = false := by
  constructor
  · intro a entries hentries g target
    have hg : g.Indexed := (Solver.built_solve hp e a en hentries).indexed
    refine ⟨CallGraph.nodup_applicationCallers hg, fun n => CallGraph.mem_applicationCallers hg, ?_⟩
    intro n hn
    have hlocated : n.code.Located :=
      Solver.located_solve hp hentries ((CallGraph.mem_applicationCallers hg).mp hn).1
    exact ⟨_, Solver.callSites_solve hp hentries hn, Node.callPlaces_ascending hlocated,
      fun i => Node.mem_callPlaces hlocated,
      fun i m hcalls htarget => Solver.mem_callPlaces_of_calls hp hentries hcalls htarget⟩
  · intro config fault hfault
    rcases analyse_error_cases hp hfault with ⟨u, rfl⟩ | ⟨v, rfl⟩
    · rfl
    · rfl

/-- A method of the application that calls a source which returns a number: the call is found. -/
theorem callSites_found_reads :
    Reads.program.Parsed ∧ (∀ m ∈ [Reads.main], m ∈ Reads.program.methods) ∧
    Reads.caller ∈ Reads.graph.applicationCallers Reads.read.signature ∧
    (∃ indices : List Nat,
      Reads.caller.callSites Reads.read.signature =
        .ok (indices.map fun i : Nat => .normal Reads.caller.id i) ∧
      indices.Pairwise (· < ·) ∧ 0 ∈ indices) ∧
    ∀ (config : Config) (fault : Fault), analyse config ⟨Reads.program, {}⟩ .asFound = .error fault →
      fault.diagnostic.kind.isA .inconsistency = false := by
  obtain ⟨hsearch, hanalyses⟩ := callSites_found Reads.parsed {} .asFound
  have hcaller := Reads.caller_mem_callers Reads.calls_read
  obtain ⟨_, _, hfound⟩ := hsearch .plain [Reads.main] Reads.main_mem Reads.read.signature
  obtain ⟨indices, hsites, hascending, _, hcomplete⟩ := hfound Reads.caller hcaller
  obtain ⟨k, _, htarget, hcalls⟩ := Reads.calls_read
  exact ⟨Reads.parsed, Reads.main_mem, hcaller,
    ⟨indices, hsites, hascending, hcomplete 0 k hcalls htarget⟩, hanalyses⟩

end Taint

end TaintFlow
