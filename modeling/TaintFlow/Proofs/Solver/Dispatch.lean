/-
Module: TaintFlow.Proofs.Solver.Dispatch
Purpose: What dispatch finds, and what the solver makes of it. Dispatch finds a method exactly if the class
  of the object, or one that it inherits from over superclasses alone, implements the selector; then it
  finds the nearest implementation. A virtual call has a callee for each implementation that dispatch finds
  for an object its receiver may be, and no other. Methods that only an interface implements are not found,
  so calls of them have no callee.
Main exports: Hierarchy.Inherits, ClassDecl.Implements, Hierarchy.mem_superclassChain,
  Hierarchy.exists_dispatch?_iff, Hierarchy.dispatch?_eq_some_iff, Solver.exists_edge_iff,
  Solver.dispatch_inherited
-/
import TaintFlow.Proofs.Dump.WellFormed
import TaintFlow.Proofs.Hierarchy.Lookup
import TaintFlow.Proofs.Hierarchy.Subtypes
import TaintFlow.Proofs.Solver.Origin
import TaintFlow.Proofs.Taint.Source

namespace TaintFlow

/-- A class declares a method of a selector that is not abstract. -/
structure ClassDecl.Implements (c : ClassDecl) (s : Selector) (m : Method) : Prop where
  declared : m ∈ c.methods
  selector : m.signature.selector = s
  concrete : m.isAbstract = false

/-! ### What dispatch finds -/

namespace Hierarchy

/-- A loaded class is another one, or inherits from it over superclasses alone. -/
def Inherits (h : Hierarchy) (t u : TypeName) : Prop := Reach.Reaches h.directSuperclass h.names t u

variable {h : Hierarchy} {t : TypeName} {c : ClassDecl} {m : Method} {target : Signature}

theorem mem_superclassChain (hnames : h.names.Nodup) :
    c ∈ h.superclassChain t ↔ c ∈ h.classes ∧ h.Inherits t c.name := by
  rw [superclassChain, mem_lookup hnames, Reach.mem_explore_iff]
  simp [Inherits]

section

variable (hformed : ∀ c ∈ h.classes, c.Formed)
include hformed

theorem implementation_eq_some_iff (hc : c ∈ h.classes) :
    ((c.method? target.selector).filter fun m => !m.isAbstract) = some m ↔
      c.Implements target.selector m := by
  rw [Option.filter_eq_some_iff, (hformed c hc).method?_eq_some_iff]
  constructor
  · rintro ⟨⟨hdeclared, hselector⟩, hconcrete⟩
    exact ⟨hdeclared, hselector, by simpa using hconcrete⟩
  · rintro ⟨hdeclared, hselector, hconcrete⟩
    exact ⟨⟨hdeclared, hselector⟩, by simpa using hconcrete⟩

/-- Dispatch finds the first implementation along the superclasses. -/
theorem dispatch?_eq_some_iff : h.dispatch? t target = some m ↔
    ∃ nearer c farther, h.superclassChain t = nearer ++ c :: farther ∧
      c.Implements target.selector m ∧ ∀ d ∈ nearer, ∀ k, ¬ d.Implements target.selector k := by
  have hloaded : ∀ c ∈ h.superclassChain t, c ∈ h.classes := fun c hc => mem_classes_of_lookup hc
  rw [dispatch?, List.findSome?_eq_some_iff]
  constructor
  · rintro ⟨nearer, c, farther, hchain, hfound, hnone⟩
    rw [hchain] at hloaded
    refine ⟨nearer, c, farther, hchain, ?_, ?_⟩
    · exact (implementation_eq_some_iff hformed (hloaded c (by simp))).mp hfound
    · intro d hd k hk
      have hsome := (implementation_eq_some_iff hformed (hloaded d (by simp [hd]))).mpr hk
      rw [hnone d hd] at hsome
      cases hsome
  · rintro ⟨nearer, c, farther, hchain, hfound, hnone⟩
    rw [hchain] at hloaded
    refine ⟨nearer, c, farther, hchain, ?_, ?_⟩
    · exact (implementation_eq_some_iff hformed (hloaded c (by simp))).mpr hfound
    · intro d hd
      apply Option.eq_none_iff_forall_ne_some.mpr
      intro k hk
      exact hnone d hd k ((implementation_eq_some_iff hformed (hloaded d (by simp [hd]))).mp hk)

/-- Dispatch finds a method if a class on the way up over superclasses implements it, and not
    otherwise. -/
theorem exists_dispatch?_iff (hnames : h.names.Nodup) : (∃ m, h.dispatch? t target = some m) ↔
    ∃ c ∈ h.classes, h.Inherits t c.name ∧ ∃ m, c.Implements target.selector m := by
  rw [← Option.isSome_iff_exists, dispatch?, List.findSome?_isSome_iff]
  constructor
  · rintro ⟨c, hc, hsome⟩
    obtain ⟨hloaded, hinherits⟩ := (mem_superclassChain hnames).mp hc
    obtain ⟨m, hm⟩ := Option.isSome_iff_exists.mp hsome
    exact ⟨c, hloaded, hinherits, m, (implementation_eq_some_iff hformed hloaded).mp hm⟩
  · rintro ⟨c, hloaded, hinherits, m, hm⟩
    have hc := (mem_superclassChain hnames).mpr ⟨hloaded, hinherits⟩
    have hfound := (implementation_eq_some_iff hformed hloaded).mpr hm
    exact ⟨c, hc, Option.isSome_iff_exists.mpr ⟨m, hfound⟩⟩

end

end Hierarchy

/-- The loaded classes of a parsed program are formed. -/
theorem Program.Parsed.formed_loaded {p : Program} (hp : p.Parsed) (e : Exclusions) :
    ∀ c ∈ (Hierarchy.ofProgram p e).classes, c.Formed :=
  fun c hc => hp.formed.classes c (List.mem_of_mem_filter hc)

/-! ### Virtual calls -/

namespace Solver

variable {p : Program} {entries : List Method} {site : CallSite} {arguments : List Value}

/-- A virtual call activates what dispatch finds for the objects that its receiver may be. -/
theorem activates_dispatch_iff {S : Setting} {X : Set Fact} {a : Activation} {c : Callee}
    (hkind : site.kind.isDispatch = true) : Activates S X a site arguments c ↔
      ∃ v o, arguments.head? = some v ∧ .holds (.value a v) o ∈ X ∧
        S.hierarchy.dispatch? o.type site.target = some c.method ∧ c.receiver = some o := by
  constructor
  · intro h
    cases h with
    | static hstatic _ => simp [hstatic, CallKind.isDispatch] at hkind
    | joint hspecial _ _ _ _ => simp [hspecial, CallKind.isDispatch] at hkind
    | split hspecial _ _ _ _ => simp [hspecial, CallKind.isDispatch] at hkind
    | dispatch _ hv ho hm => exact ⟨_, _, hv, ho, hm, rfl⟩
  · rintro ⟨v, o, hv, ho, hm, hreceiver⟩
    obtain ⟨method, receiver⟩ := c
    subst hreceiver
    exact .dispatch hkind hv ho hm

/-- A virtual call has exactly the callees that dispatch finds for the objects its receiver may be. -/
theorem exists_edge_iff (hp : p.Parsed) {e : Exclusions} {a : Algorithm} {en : Enumeration}
    (hentries : ∀ m ∈ entries, m ∈ p.methods) {n : Node}
    (hn : n ∈ (solve ⟨.ofProgram p e, a, en⟩ entries).graph.nodes) (hbody : n.method.hasBody = true)
    {i : Nat} {result : Option Value} (hi : n.code[i]? = some (.invoke result site arguments))
    (hkind : site.kind.isDispatch = true) {m : Method} :
    (∃ k ∈ (solve ⟨.ofProgram p e, a, en⟩ entries).graph.nodes, k.method = m ∧
      (⟨n.id, site, k.id⟩ : Edge) ∈ (solve ⟨.ofProgram p e, a, en⟩ entries).graph.edges) ↔
    ∃ v o, arguments.head? = some v ∧
      o ∈ (solve ⟨.ofProgram p e, a, en⟩ entries).heap.get (.value n.id v) ∧
      (Hierarchy.ofProgram p e).dispatch? o.type site.target = some m := by
  have hS := unambiguous_of_parsed hp e a en hentries
  have hcoherent := coherent_solve hS
  have hmethod := hcoherent.graph.method
  have hfound : ∀ {t k}, (Hierarchy.ofProgram p e).dispatch? t site.target = some k →
      k ∈ Setting.methods ⟨.ofProgram p e, a, en⟩ entries :=
    fun hk => List.mem_append_right _ (Hierarchy.mem_methods_of_dispatch? hk)
  constructor
  · rintro ⟨k, hk, rfl, hedge⟩
    obtain ⟨arguments', c, hcalling, hb⟩ := origin_of_edge (isLeast_facts_solve hS) (.edge hn hk hedge)
    obtain ⟨caller, j, result', hactive, _, hj⟩ := hcalling.written
    have hcaller : caller = n.method := hS _ hactive.method _ (hmethod n hn) hactive.signature
    subst hcaller
    -- the call of the edge is the call at hand: no other call has its site
    have hcode : n.code.WellFormed n.method.parameterCount :=
      Method.Parsed.wellFormed_code ⟨p, hp, mem_methods_of_mem hentries (hmethod n hn)⟩
    have hsame : i = j := hcode.unshared _ _ _ _ site hi hj rfl rfl
    subst hsame
    rw [show n.method.code[i]? = _ from hi] at hj
    injection hj with hj
    injection hj with _ _ harguments
    subst harguments
    obtain ⟨v, o, hv, ho, hdispatch, _⟩ := (activates_dispatch_iff hkind).mp hcalling.activates
    have hcallee : k.method = c.method :=
      hS _ (hmethod k hk) _ (hfound hdispatch) (congrArg Activation.signature hb)
    rw [hcallee]
    exact ⟨v, o, hv, (holds_mem_facts hcoherent.indexed (.value v hn)).mp ho, hdispatch⟩
  · rintro ⟨v, o, hv, ho, hdispatch⟩
    obtain ⟨k, hk, hsignature, hedge⟩ :=
      exists_callee_solve hS hn hbody hi (.dispatch hkind hv (.holds (.value v hn) ho) hdispatch)
    exact ⟨k, hk, hS _ (hmethod k hk) _ (hfound hdispatch) hsignature, hedge⟩

/-- What an instruction of an activation makes is held by its result. -/
theorem new_mem_heap_solve {S : Setting} (hS : S.Unambiguous entries) {n : Node}
    (hn : n ∈ (solve S entries).graph.nodes) (hbody : n.method.hasBody = true) {i : Nat} {r : Value}
    {t : TypeName} (hi : n.code[i]? = some (.new r t)) :
    S.algorithm.object n.signature i t ∈ (solve S entries).heap.get (.value n.id r) := by
  have hcoherent := coherent_solve hS
  apply (holds_mem_facts hcoherent.indexed (.value r hn)).mp
  exact (isLeast_facts_solve hS).1 _ (.visit (hcoherent.active hn) (.execute hbody hi (.flow .new)))

/-- Dispatch misses no implementation that an object's class has or inherits over superclasses, and finds
    no other: it returns the nearest one. A virtual call has a callee for each method that dispatch finds
    for the objects its receiver may be. -/
theorem dispatch_inherited {p : Program} (hp : p.Parsed) (e : Exclusions) (s : Signature) :
    let h := Hierarchy.ofProgram p e
    (∀ t, (∃ m, h.dispatch? t s = some m) ↔
      ∃ c ∈ h.classes, h.Inherits t c.name ∧ ∃ m, c.Implements s.selector m) ∧
    (∀ t m, h.dispatch? t s = some m ↔
      ∃ nearer c farther, h.superclassChain t = nearer ++ c :: farther ∧
        c.Implements s.selector m ∧ ∀ d ∈ nearer, ∀ k, ¬ d.Implements s.selector k) ∧
    ∀ (a : Algorithm) (en : Enumeration) (entries : List Method), (∀ m ∈ entries, m ∈ p.methods) →
      ∀ n ∈ (solve ⟨h, a, en⟩ entries).graph.nodes, n.method.hasBody = true →
      ∀ (i : Nat) (result : Option Value) (site : CallSite) (arguments : List Value),
        n.code[i]? = some (.invoke result site arguments) → site.kind.isDispatch = true →
        site.target = s → ∀ m,
          (∃ k ∈ (solve ⟨h, a, en⟩ entries).graph.nodes, k.method = m ∧
            (⟨n.id, site, k.id⟩ : Edge) ∈ (solve ⟨h, a, en⟩ entries).graph.edges) ↔
          ∃ v o, arguments.head? = some v ∧ o ∈ (solve ⟨h, a, en⟩ entries).heap.get (.value n.id v) ∧
            h.dispatch? o.type s = some m := by
  have hformed := hp.formed_loaded e
  refine ⟨?_, ?_, ?_⟩
  · intro t
    exact Hierarchy.exists_dispatch?_iff hformed (hp.nodup_names e)
  · intro t m
    exact Hierarchy.dispatch?_eq_some_iff hformed
  · rintro a en entries hentries n hn hbody i result site arguments hi hkind rfl m
    exact exists_edge_iff hp hentries hn hbody hi hkind

/-- A method of an interface is called on a map: dispatch finds the method of the map's class, and the call
    has it as a callee. -/
theorem dispatch_inherited_sizes :
    Sizes.program.Parsed ∧
      let h := Hierarchy.ofProgram Sizes.program {}
      let g := (solve ⟨h, .plain, .asFound⟩ [Sizes.main]).graph
      h.dispatch? "LA" Sizes.declared.signature = some Sizes.size ∧
      ∃ k ∈ g.nodes, k.method = Sizes.size ∧
        (⟨0, ⟨2, Sizes.declared.signature, .interface⟩, k.id⟩ : Edge) ∈ g.edges := by
  have hp : Sizes.program.Parsed := .of_read Sizes.read_text
  obtain ⟨_, hnearest, hcallees⟩ := dispatch_inherited hp {} Sizes.declared.signature
  have hentries : ∀ m ∈ [Sizes.main], m ∈ Sizes.program.methods := by
    rintro m hm
    rw [List.mem_singleton.mp hm]
    simp [Program.methods, Sizes.program]
  have hdispatch : (Hierarchy.ofProgram Sizes.program {}).dispatch? "LA" Sizes.declared.signature =
      some Sizes.size := by
    refine (hnearest _ _).mpr ⟨[], _, [], (by cbv : _ = [Sizes.program.classes[1]]), ?_, by simp⟩
    exact ⟨List.mem_cons_of_mem _ List.mem_cons_self, rfl, rfl⟩
  have hS := unambiguous_of_parsed hp {} .plain .asFound hentries
  have hn : ⟨0, Sizes.main, .everywhere⟩ ∈
      (solve ⟨.ofProgram Sizes.program {}, .plain, .asFound⟩ [Sizes.main]).graph.nodes :=
    mem_nodes_solve hS List.mem_cons_self
  have hheld := new_mem_heap_solve hS hn rfl (rfl : Sizes.main.code[0]? = some (.new 1 "LA"))
  refine ⟨hp, hdispatch, ?_⟩
  exact (hcallees .plain .asFound _ hentries _ hn rfl 2 _ _ _ rfl rfl rfl _).mpr
    ⟨1, _, rfl, hheld, hdispatch⟩

open Taint in
/-- Dispatch misses an implementation. A class has an interface that implements a method, and dispatch
    finds none for it. -/
theorem dispatch_misses_interface :
    Inheriting.program.Parsed ∧
      let h := Hierarchy.ofProgram Inheriting.program {}
      (∃ c ∈ h.classes, h.isSubtype "LC" c.name = true ∧
        c.Implements Inheriting.read.signature.selector Inheriting.read) ∧
      h.dispatch? "LC" Inheriting.read.signature = none := by
  refine ⟨Inheriting.parsed, ⟨_, List.mem_cons_self, by cbv, ?_⟩, by cbv⟩
  exact ⟨List.mem_singleton_self _, rfl, rfl⟩

end Solver

end TaintFlow
