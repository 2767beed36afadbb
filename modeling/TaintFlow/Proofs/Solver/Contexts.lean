/-
Module: TaintFlow.Proofs.Solver.Contexts
Purpose: The contexts of a solved program tell which calls made its activations. An activation comes from
  an entrypoint or from a call, and the algorithm says which context a call makes. Parameters are not
  assigned in well-formed code, and a call that tells receivers apart passes on one object; so the receiver
  of an activation that belongs to an object holds that object alone.
Main exports: Solver.holds_receiver_iff, Solver.context_of_plain, Solver.context_of_callSite,
  Solver.context_of_container, Solver.contexts_faithful
-/
import TaintFlow.Proofs.Dump.WellFormed
import TaintFlow.Proofs.Solver.Origin

namespace TaintFlow

/-! ### The contexts of calls -/

namespace Algorithm

variable {h : Hierarchy} {caller : Signature} {pc : Int} {receiver : Option AbstractObject}
  {o : AbstractObject}

@[simp] theorem context_plain : context .plain h caller pc receiver = .everywhere := rfl

@[simp] theorem context_callSite : context .callSite h caller pc receiver = .callSite caller pc := rfl

/-- Under the container algorithm a call makes one of two kinds of context. -/
theorem context_container_cases (h : Hierarchy) (caller : Signature) (pc : Int)
    (receiver : Option AbstractObject) :
    context .container h caller pc receiver = .everywhere ∨
      ∃ o, receiver = some o ∧ isContainer h o.type = true ∧
        context .container h caller pc receiver = .receiver o := by
  cases receiver with
  | none => exact Or.inl rfl
  | some o =>
      by_cases hcontainer : isContainer h o.type = true
      · exact Or.inr ⟨o, rfl, hcontainer, if_pos hcontainer⟩
      · exact Or.inl (if_neg hcontainer)

/-- The context of an object is made by calls on that object only. -/
theorem receiver_of_context (hcontext : context .container h caller pc receiver = .receiver o) :
    receiver = some o ∧ isContainer h o.type = true := by
  rcases context_container_cases h caller pc receiver with heq | ⟨o', hreceiver, hcontainer, heq⟩
  · rw [heq] at hcontext
    cases hcontext
  · rw [heq] at hcontext
    cases hcontext
    exact ⟨hreceiver, hcontainer⟩

theorem isContainer_iff {t : TypeName} : isContainer h t = true ↔
    h.isSubtype t "Ljava/util/Collection" = true ∨ h.isSubtype t "Ljava/util/Map" = true := by
  simp [isContainer, containerTypes]

end Algorithm

theorem Signature.parameterTypes_eq {s : Signature} {d : Descriptor}
    (h : Descriptor.parse s.descriptor = .ok d) : s.parameterTypes = d.parameters := by
  simp [parameterTypes, types, h]

namespace Solver

variable {S : Setting} {entries : List Method} {X : Set Fact} {a b : Activation} {site : CallSite}
  {arguments : List Value} {c : Callee} {o : AbstractObject}

/-! ### Receivers -/

/-- A call on an object that is told apart is not static, and it has a first argument. -/
theorem Activates.receiver (h : Activates S X a site arguments c) (ho : c.receiver = some o) :
    site.kind ≠ .static ∧ ∃ v, arguments.head? = some v := by
  cases h with
  | static => cases ho
  | joint => cases ho
  | split hkind _ _ hv _ => exact ⟨by simp [hkind], _, hv⟩
  | dispatch hkind hv _ _ =>
      refine ⟨?_, _, hv⟩
      intro hstatic
      rw [hstatic] at hkind
      cases hkind

/-- A call that fits its target passes its arguments to every instance method that it activates. -/
theorem Activates.takes (h : Activates S X a site arguments c) {result : Option Value}
    (hfits : site.Fits result arguments) (hkind : site.kind ≠ .static)
    (hbody : c.method.hasBody = true) (hstatic : c.method.isStatic = false) : c.Takes arguments := by
  obtain ⟨d, hd, hlength, _⟩ := hfits
  have hdescriptor : c.method.signature.descriptor = site.target.descriptor :=
    congrArg Selector.descriptor h.selector
  have htypes : c.method.signature.parameterTypes = d.parameters :=
    Signature.parameterTypes_eq (hdescriptor ▸ hd)
  refine ⟨hbody, ?_⟩
  rw [hlength, Method.parameterCount, htypes, hstatic, if_neg hkind]
  simp

/-- The receiver of an instance method that is activated for an object holds that object alone. -/
theorem holds_receiver_iff (hX : IsLeast {X | Closed S entries X} X) (hS : S.Unambiguous entries)
    (hparsed : ∀ m ∈ S.methods entries, m.Parsed) (halgorithm : S.algorithm = .container) {m : Method}
    (hactive : Active S entries X b m) (hcontext : b.context = .receiver o)
    (hstatic : m.isStatic = false) (hbody : m.hasBody = true) {o' : AbstractObject} :
    .holds (.value b 1) o' ∈ X ↔ o' = o := by
  -- the activation is not an entrypoint's, and the calls that cause it are made on the object
  have hentry : ∀ m, b ≠ entryOf m := by
    rintro m rfl
    cases hcontext
  have hcall : ∀ a site c, b = S.activation a site c → c.receiver = some o := by
    rintro a site c rfl
    rw [Setting.activation, halgorithm] at hcontext
    exact (Algorithm.receiver_of_context hcontext).1
  constructor
  · intro hholds
    rcases origin_of_value hX hholds with ⟨m', _, heq⟩ | ⟨m', i, inst, hactive', hi, hv⟩ |
      ⟨a, site, arguments, c, _, heq, hpassed⟩
    · exact absurd heq (hentry m')
    · -- the first parameter of an instance method is not assigned
      have hsame : m' = m := hS _ hactive'.method _ hactive.method
        (hactive'.signature.trans hactive.signature.symm)
      subst hsame
      have hfresh := (hparsed m' hactive.method).wellFormed_code.fresh i inst hi 1 hv
      simp [Method.parameterCount, hstatic] at hfresh
    · have hreceiver := hcall a site c heq
      rcases hpassed with ho' | ⟨hnone, _⟩
      · exact Option.some.inj (ho'.symm.trans hreceiver)
      · rw [hnone rfl] at hreceiver
        cases hreceiver
  · rintro rfl
    rcases origin_of_node hX hactive.known with ⟨m', _, heq⟩ | ⟨a, site, arguments, c, hcalling, heq⟩
    · exact absurd heq (hentry m')
    · obtain ⟨⟨k, i, result, hcaller, hcode, hi⟩, hactivates⟩ := hcalling
      have hreceiver := hcall a site c heq
      have hsame : c.method = m := hS _ (hactivates.mem_methods) _ hactive.method
        (by rw [hactive.signature, heq]; rfl)
      obtain ⟨hkind, w, hw⟩ := hactivates.receiver hreceiver
      have hfits : site.Fits result arguments :=
        ((hparsed k hcaller.method).wellFormed_code.sound i _ hi).fits _ _ _ rfl
      have htakes : c.Takes arguments :=
        hactivates.takes hfits hkind (hsame ▸ hbody) (hsame ▸ hstatic)
      rw [heq]
      exact hX.1 _ (.visit hcaller (.execute hcode hi
        (.call hactivates (.receiver htakes hw hreceiver))))

/-! ### Activations -/

/-- The plain algorithm does not tell activations apart. -/
theorem context_of_plain (hX : IsLeast {X | Closed S entries X} X) (halgorithm : S.algorithm = .plain)
    (hb : .node b ∈ X) : b.context = .everywhere := by
  rcases origin_of_node hX hb with ⟨m, _, rfl⟩ | ⟨a, site, arguments, c, _, rfl⟩
  · rfl
  · rw [Setting.activation, halgorithm, Algorithm.context_plain]

/-- The call-site algorithm tells activations apart by the calls that cause them. -/
theorem context_of_callSite (hX : IsLeast {X | Closed S entries X} X)
    (halgorithm : S.algorithm = .callSite) (he : .edge a site b ∈ X) :
    b.context = .callSite a.signature site.pc := by
  obtain ⟨arguments, c, _, rfl⟩ := origin_of_edge hX he
  rw [Setting.activation, halgorithm, Algorithm.context_callSite]

/-- The container algorithm tells activations apart by the containers that methods are called on. -/
theorem context_of_container (hX : IsLeast {X | Closed S entries X} X)
    (halgorithm : S.algorithm = .container) (hb : .node b ∈ X) :
    b.context = .everywhere ∨
      ∃ o, b.context = .receiver o ∧ Algorithm.isContainer S.hierarchy o.type = true := by
  rcases origin_of_node hX hb with ⟨m, _, rfl⟩ | ⟨a, site, arguments, c, _, rfl⟩
  · exact Or.inl rfl
  · rw [Setting.activation, halgorithm]
    rcases Algorithm.context_container_cases S.hierarchy a.signature site.pc c.receiver with
      heq | ⟨o, _, hcontainer, heq⟩
    · exact Or.inl heq
    · exact Or.inr ⟨o, heq, hcontainer⟩

/-! ### Solved programs -/

/-- Under the plain algorithm a method has one node. -/
theorem eq_of_signature_plain (hS : S.Unambiguous entries) (halgorithm : S.algorithm = .plain)
    {n k : Node} (hn : n ∈ (solve S entries).graph.nodes) (hk : k ∈ (solve S entries).graph.nodes)
    (hsignature : n.signature = k.signature) : n = k := by
  have hX := isLeast_facts_solve hS
  have hcontext : n.context = k.context :=
    (context_of_plain hX halgorithm (.node hn)).trans (context_of_plain hX halgorithm (.node hk)).symm
  apply (coherent_solve hS).indexed.eq_of_activation_eq hn hk
  rw [Node.activation, Node.activation, hsignature, hcontext]

/-- Under the call-site algorithm every edge ends in the context of its call. -/
theorem context_of_edge_callSite (hS : S.Unambiguous entries) (halgorithm : S.algorithm = .callSite)
    {e : Edge} (he : e ∈ (solve S entries).graph.edges) :
    ∃ caller callee, (solve S entries).graph.node? e.caller = some caller ∧
      (solve S entries).graph.node? e.callee = some callee ∧
      callee.context = .callSite caller.signature e.site.pc := by
  have hindexed : (solve S entries).graph.Indexed := (coherent_solve hS).indexed
  obtain ⟨a, ha, b, hb, heq⟩ := hindexed.exists_ends he
  rw [heq] at he ⊢
  exact ⟨a, b, hindexed.node?_eq_some_iff.mpr ⟨ha, rfl⟩, hindexed.node?_eq_some_iff.mpr ⟨hb, rfl⟩,
    context_of_callSite (isLeast_facts_solve hS) halgorithm (.edge ha hb he)⟩

/-- Under the call-site algorithm no edge enters a node where activation starts. -/
theorem callee_not_mem_entrypoints (hS : S.Unambiguous entries)
    (halgorithm : S.algorithm = .callSite) {e : Edge} (he : e ∈ (solve S entries).graph.edges) :
    e.callee ∉ (solve S entries).graph.entrypoints := by
  intro hentry
  have hindexed : (solve S entries).graph.Indexed := (coherent_solve hS).indexed
  obtain ⟨n, hn, hid, m, _, hname⟩ := (anchored_solve hS).origin e.callee hentry
  obtain ⟨_, callee, _, hfind, hcontext⟩ := context_of_edge_callSite hS halgorithm he
  -- the callee is the node where activation starts, which has no call for a context
  have hsame := hindexed.node?_eq_some_iff.mpr ⟨hn, hid⟩
  rw [hfind] at hsame
  cases hsame
  have heverywhere : n.context = .everywhere := congrArg Activation.context hname
  rw [heverywhere] at hcontext
  cases hcontext

/-- Under the container algorithm the receiver of a node that belongs to an object holds the object. -/
theorem get_receiver_container (hS : S.Unambiguous entries)
    (hparsed : ∀ m ∈ S.methods entries, m.Parsed) (halgorithm : S.algorithm = .container) {n : Node}
    (hn : n ∈ (solve S entries).graph.nodes) (hcontext : n.context = .receiver o)
    (hstatic : n.method.isStatic = false) (hbody : n.method.hasBody = true) :
    (solve S entries).heap.get (.value n.id 1) = [o] := by
  have hcoherent : (solve S entries).state.Coherent S entries := coherent_solve hS
  have hmem : ∀ o', o' ∈ (solve S entries).heap.get (.value n.id 1) ↔ o' ∈ [o] := by
    intro o'
    rw [List.mem_singleton, ← holds_receiver_iff (isLeast_facts_solve hS) hS hparsed halgorithm
      (hcoherent.active hn) hcontext hstatic hbody]
    exact (holds_mem_facts hcoherent.indexed (.value 1 hn)).symm
  have hperm := (List.perm_ext_iff_of_nodup (hcoherent.heap.nodup_get (.value n.id 1))
    (List.nodup_singleton o)).mpr hmem
  exact List.perm_singleton.mp hperm

end Solver

/-! ### The map and its size -/

namespace Sizes

open Solver

theorem main_mem : ∀ m ∈ [main], m ∈ program.methods := by
  rw [List.forall_mem_singleton]
  exact List.mem_cons_of_mem _ (List.mem_cons_of_mem _ (List.mem_cons_of_mem _ List.mem_cons_self))

/-- Solving the program from the method that makes a map. -/
abbrev setting (a : Algorithm) : Setting := ⟨.ofProgram program {}, a, .asFound⟩

theorem unambiguous (a : Algorithm) : (setting a).Unambiguous [main] :=
  unambiguous_of_parsed (.of_read read_text) {} a .asFound main_mem

theorem active (a : Algorithm) :
    Active (setting a) [main] (solve (setting a) [main]).facts (entryOf main) main :=
  ⟨(isLeast_facts_solve (unambiguous a)).1 _ (.entry List.mem_cons_self),
    List.mem_append_left _ List.mem_cons_self, rfl⟩

/-- The map that the method makes. -/
abbrev map : AbstractObject := .allocatedAt main.signature 0 "LA"

/-- Its size is asked for in a node of its own. -/
theorem exists_size_node : ∃ n ∈ (solve (setting .container) [main]).graph.nodes,
    n.method = size ∧ n.context = .receiver map := by
  have hX := isLeast_facts_solve (unambiguous .container)
  have hmap : .holds (.value (entryOf main) 1) map ∈ (solve (setting .container) [main]).facts :=
    hX.1 _ (.visit (active .container) (.execute (i := 0) rfl rfl (.flow .new)))
  have hcall : Activates (setting .container) (solve (setting .container) [main]).facts (entryOf main)
      ⟨2, declared.signature, .interface⟩ [1] { method := size, receiver := some map } :=
    .dispatch rfl rfl hmap (by cbv)
  have hnode := hX.1 _ (.visit (active .container) (.execute (i := 2) rfl rfl (.call hcall .node)))
  obtain ⟨n, hn, hname⟩ := node_mem_facts.mp hnode
  have hcontainer : Algorithm.isContainer (.ofProgram program {}) "LA" = true := by cbv
  refine ⟨n, hn, ?_, ?_⟩
  · exact unambiguous .container _ ((coherent_solve (unambiguous .container)).graph.method n hn) _
      hcall.mem_methods (congrArg Activation.signature hname)
  · exact (congrArg Activation.context hname).trans (if_pos hcontainer)

end Sizes

namespace Solver

/-- The contexts of a solved program are faithful to the calls that made its nodes. The plain algorithm
    has one context, so each method has one node. Under the call-site algorithm every edge leads to the
    context of its own call, so no edge enters a node where activation starts. Under the container
    algorithm a context is that of a container or the common one, and the receiver of an instance method
    that runs in the context of a container holds that container and nothing else. -/
theorem contexts_faithful {p : Program} (hp : p.Parsed) (e : Exclusions) (en : Enumeration)
    {entries : List Method} (hentries : ∀ m ∈ entries, m ∈ p.methods) :
    let h := Hierarchy.ofProgram p e
    (let g := (solve ⟨h, .plain, en⟩ entries).graph
      ∀ n ∈ g.nodes, n.context = .everywhere ∧
        ∀ k ∈ g.nodes, n.signature = k.signature → n = k) ∧
    (let g := (solve ⟨h, .callSite, en⟩ entries).graph
      ∀ e ∈ g.edges, e.callee ∉ g.entrypoints ∧
        ∃ caller callee, g.node? e.caller = some caller ∧ g.node? e.callee = some callee ∧
          callee.context = .callSite caller.signature e.site.pc) ∧
    let R := solve ⟨h, .container, en⟩ entries
    ∀ n ∈ R.graph.nodes,
      (n.context = .everywhere ∨ ∃ o, n.context = .receiver o ∧
        (h.isSubtype o.type "Ljava/util/Collection" = true ∨
          h.isSubtype o.type "Ljava/util/Map" = true)) ∧
      ∀ o, n.context = .receiver o → n.method.isStatic = false → n.method.hasBody = true →
        R.heap.get (.value n.id 1) = [o] := by
  intro h
  have hS : ∀ a, Setting.Unambiguous ⟨h, a, en⟩ entries :=
    fun a => unambiguous_of_parsed hp e a en hentries
  have hparsed : ∀ m ∈ Setting.methods ⟨h, .container, en⟩ entries, m.Parsed :=
    fun m hm => ⟨p, hp, mem_methods_of_mem hentries hm⟩
  refine ⟨?_, ?_, ?_⟩
  · intro g n hn
    exact ⟨context_of_plain (isLeast_facts_solve (hS .plain)) rfl (.node hn),
      fun k hk hsignature => eq_of_signature_plain (hS .plain) rfl hn hk hsignature⟩
  · intro g e he
    exact ⟨callee_not_mem_entrypoints (hS .callSite) rfl he,
      context_of_edge_callSite (hS .callSite) rfl he⟩
  · intro R n hn
    have hcases := context_of_container (isLeast_facts_solve (hS .container)) rfl (.node hn)
    simp only [Algorithm.isContainer_iff] at hcases
    exact ⟨hcases, fun o hcontext hstatic hbody =>
      get_receiver_container (hS .container) hparsed rfl hn hcontext hstatic hbody⟩

/-- In the program with a map, the size is asked for in the context of the map, and its receiver holds
    the map alone. -/
theorem contexts_faithful_sizes :
    Sizes.program.Parsed ∧ (∀ m ∈ [Sizes.main], m ∈ Sizes.program.methods) ∧
    let R := solve (Sizes.setting .container) [Sizes.main]
    ∃ n ∈ R.graph.nodes, n.method = Sizes.size ∧ n.context = .receiver Sizes.map ∧
      R.heap.get (.value n.id 1) = [Sizes.map] := by
  have hparsed : Sizes.program.Parsed := .of_read Sizes.read_text
  refine ⟨hparsed, Sizes.main_mem, ?_⟩
  obtain ⟨_, _, hcontainer⟩ := contexts_faithful hparsed {} .asFound Sizes.main_mem
  obtain ⟨n, hn, hmethod, hcontext⟩ := Sizes.exists_size_node
  exact ⟨n, hn, hmethod, hcontext,
    (hcontainer n hn).2 Sizes.map hcontext (by rw [hmethod]; rfl) (by rw [hmethod]; rfl)⟩

end Solver

end TaintFlow
