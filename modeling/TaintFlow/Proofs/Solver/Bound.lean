/-
Module: TaintFlow.Proofs.Solver.Bound
Purpose: How much a run can find. The activations, places and objects that can come up are listed from
  the methods at hand. The facts about them are closed, so by soundness every run stays among them; and
  the lists are no longer than the counts that the solver measures its loop by. Hence no state of a run is
  larger than the limit, and the loop never stops for lack of room.
Main exports: Solver.Possible, Solver.closed_possible, Solver.Run.size_le_sizeLimit
-/
import Mathlib.Data.List.Perm.Subperm
import Mathlib.Data.List.ProdSigma
import TaintFlow.Proofs.Solver.Run

namespace TaintFlow.Solver

/-! ### What can come up -/

/-- The objects that a method can bring in: those it allocates, those its parameters hold at the start,
    and that which it returns as a native method. -/
def objectsOf (a : Algorithm) (m : Method) : List AbstractObject :=
  (m.code.toList.zipIdx.filterMap fun p =>
    match p.1 with
    | .new _ t => some (a.object m.signature p.2 t)
    | _ => none) ++
  m.signature.parameterTypes.map .ofType ++
  (if m.isStatic then [] else [.ofType m.signature.owner]) ++
  m.signature.resultType?.toList.map .ofType

/-- The objects that some methods can bring in. -/
def objects (a : Algorithm) (methods : List Method) : List AbstractObject :=
  methods.flatMap (objectsOf a)

/-- The call sites of some methods. -/
def sites (methods : List Method) : List CallSite := methods.flatMap fun m => m.code.sites

/-- The contexts in which some methods can be activated. -/
def contexts (a : Algorithm) (methods : List Method) : List Context :=
  .everywhere ::
    ((methods.flatMap fun m => m.code.sites.map fun s => .callSite m.signature s.pc) ++
      (objects a methods).map .receiver)

/-- The activations of some methods. -/
def activations (a : Algorithm) (methods : List Method) : List Activation :=
  (methods ×ˢ contexts a methods).map fun p => ⟨p.1.signature, p.2⟩

/-- The values of some methods that can hold objects: parameters and results of instructions. -/
def values (methods : List Method) : List Value :=
  methods.flatMap fun m =>
    (List.range m.parameterCount).map (· + 1) ++ m.code.toList.flatMap Instruction.defs

/-- The fields that some methods write. -/
def written (methods : List Method) : List FieldRef :=
  methods.flatMap fun m => m.code.toList.filterMap fun
    | .putField _ f _ => some f
    | _ => none

/-- The places that can hold objects. -/
def places (a : Algorithm) (methods : List Method) : List Place :=
  (activations a methods ×ˢ values methods).map (fun p => .value p.1 p.2) ++
    (activations a methods).map .returned ++
    (objects a methods ×ˢ written methods).map (fun p => .field p.1 p.2.name) ++
    (objects a methods).map .element ++
    (written methods).map .static

/-- The facts about what can come up. -/
inductive Possible (a : Algorithm) (methods : List Method) : Fact → Prop where
  | node {n : Activation} : n ∈ activations a methods → Possible a methods (.node n)
  | edge {n b : Activation} {site : CallSite} : n ∈ activations a methods → site ∈ sites methods →
      b ∈ activations a methods → Possible a methods (.edge n site b)
  | holds {p : Place} {o : AbstractObject} : p ∈ places a methods → o ∈ objects a methods →
      Possible a methods (.holds p o)

section

variable {a : Algorithm} {methods : List Method} {m : Method} {n : Activation} {v : Value}
  {o : AbstractObject} {i : Nat} {inst : Instruction}

theorem mem_activations (hm : m ∈ methods) {c : Context} (hc : c ∈ contexts a methods) :
    ⟨m.signature, c⟩ ∈ activations a methods :=
  List.mem_map.mpr ⟨(m, c), List.mem_product.mpr ⟨hm, hc⟩, rfl⟩

theorem value_mem_places (hn : n ∈ activations a methods) (hv : v ∈ values methods) :
    .value n v ∈ places a methods := by
  simp only [places, List.mem_append]
  exact Or.inl (Or.inl (Or.inl (Or.inl
    (List.mem_map.mpr ⟨(n, v), List.mem_product.mpr ⟨hn, hv⟩, rfl⟩))))

theorem returned_mem_places (hn : n ∈ activations a methods) : .returned n ∈ places a methods := by
  simp only [places, List.mem_append]
  exact Or.inl (Or.inl (Or.inl (Or.inr (List.mem_map_of_mem hn))))

theorem field_mem_places {f : FieldRef} (ho : o ∈ objects a methods) (hf : f ∈ written methods) :
    .field o f.name ∈ places a methods := by
  simp only [places, List.mem_append]
  exact Or.inl (Or.inl (Or.inr (List.mem_map.mpr ⟨(o, f), List.mem_product.mpr ⟨ho, hf⟩, rfl⟩)))

theorem element_mem_places (ho : o ∈ objects a methods) : .element o ∈ places a methods := by
  simp only [places, List.mem_append]
  exact Or.inl (Or.inr (List.mem_map_of_mem ho))

theorem static_mem_places {f : FieldRef} (hf : f ∈ written methods) :
    .static f ∈ places a methods := by
  simp only [places, List.mem_append]
  exact Or.inr (List.mem_map_of_mem hf)

theorem parameter_mem_values (hm : m ∈ methods) {k : Nat} (hk : k < m.parameterCount) :
    k + 1 ∈ values methods :=
  List.mem_flatMap.mpr ⟨m, hm, List.mem_append_left _
    (List.mem_map.mpr ⟨k, List.mem_range.mpr hk, rfl⟩)⟩

theorem mem_code (hi : m.code[i]? = some inst) : inst ∈ m.code.toList := by
  rw [← Array.getElem?_toList] at hi
  exact List.mem_of_getElem? hi

theorem def_mem_values (hm : m ∈ methods) (hi : m.code[i]? = some inst) (hv : v ∈ inst.defs) :
    v ∈ values methods :=
  List.mem_flatMap.mpr ⟨m, hm, List.mem_append_right _
    (List.mem_flatMap.mpr ⟨inst, mem_code hi, hv⟩)⟩

theorem mem_written (hm : m ∈ methods) {base : Option Value} {f : FieldRef}
    (hi : m.code[i]? = some (.putField base f v)) : f ∈ written methods :=
  List.mem_flatMap.mpr ⟨m, hm, List.mem_filterMap.mpr ⟨_, mem_code hi, rfl⟩⟩

theorem allocation_mem_objects (hm : m ∈ methods) {t : TypeName}
    (hi : m.code[i]? = some (.new v t)) : a.object m.signature i t ∈ objects a methods := by
  refine List.mem_flatMap.mpr ⟨m, hm, ?_⟩
  simp only [objectsOf, List.mem_append]
  exact Or.inl (Or.inl (Or.inl (List.mem_filterMap.mpr ⟨(_, i), mem_zipIdx_code.mpr hi, rfl⟩)))

theorem seed_mem_objects (hm : m ∈ methods) {t : TypeName} (hseeded : Seeded m v t) :
    .ofType t ∈ objects a methods := by
  refine List.mem_flatMap.mpr ⟨m, hm, ?_⟩
  simp only [objectsOf, List.mem_append]
  cases hseeded with
  | parameter hk _ => exact Or.inl (Or.inl (Or.inr (List.mem_map_of_mem (List.mem_of_getElem? hk))))
  | receiver hstatic => exact Or.inl (Or.inr (by simp [hstatic]))

theorem seed_mem_values (hm : m ∈ methods) {t : TypeName} (hseeded : Seeded m v t) :
    v ∈ values methods := by
  cases hseeded with
  | @parameter k t hk _ =>
      have hlt := (List.getElem?_eq_some_iff.mp hk).1
      have heq : (k + 1 + if m.isStatic then 0 else 1) = (k + if m.isStatic then 0 else 1) + 1 := by
        omega
      rw [heq]
      refine parameter_mem_values hm ?_
      unfold Method.parameterCount
      omega
  | receiver hstatic =>
      refine parameter_mem_values hm (k := 0) ?_
      simp [Method.parameterCount, hstatic]

theorem result_mem_objects (hm : m ∈ methods) {t : TypeName}
    (ht : m.signature.resultType? = some t) : .ofType t ∈ objects a methods := by
  refine List.mem_flatMap.mpr ⟨m, hm, ?_⟩
  simp only [objectsOf, List.mem_append]
  exact Or.inr (by simp [ht])

theorem mem_sites {result : Option Value} {site : CallSite} {arguments : List Value}
    (hi : m.code[i]? = some (.invoke result site arguments)) : site ∈ m.code.sites :=
  List.mem_eraseDups.mpr (List.mem_filterMap.mpr ⟨_, mem_code hi, rfl⟩)

end

/-! ### The possible facts are closed -/

section

variable {S : Setting} {entries : List Method} {m : Method} {n : Activation}

/-- The facts about what can come up when a program is solved. -/
def possible (S : Setting) (entries : List Method) : Set Fact :=
  {f | Possible S.algorithm (S.methods entries) f}

theorem object_mem_of_holds {p : Place} {o : AbstractObject}
    (h : .holds p o ∈ possible S entries) : o ∈ objects S.algorithm (S.methods entries) := by
  cases h with
  | holds _ ho => exact ho

/-- The context of a call can come up. -/
theorem context_mem_contexts (hm : m ∈ S.methods entries) {site : CallSite}
    (hsite : site ∈ m.code.sites) {receiver : Option AbstractObject}
    (hreceiver : ∀ o, receiver = some o → o ∈ objects S.algorithm (S.methods entries)) :
    S.algorithm.context S.hierarchy m.signature site.pc receiver ∈
      contexts S.algorithm (S.methods entries) := by
  have heverywhere : Context.everywhere ∈ contexts S.algorithm (S.methods entries) :=
    List.mem_cons_self
  unfold Algorithm.context
  split
  · exact heverywhere
  · refine List.mem_cons_of_mem _ (List.mem_append_left _ ?_)
    exact List.mem_flatMap.mpr ⟨m, hm, List.mem_map.mpr ⟨site, hsite, rfl⟩⟩
  · exact heverywhere
  · next o _ =>
      split
      · refine List.mem_cons_of_mem _ (List.mem_append_right _ ?_)
        exact List.mem_map_of_mem (hreceiver o rfl)
      · exact heverywhere

/-- The object that a call singles out can come up. -/
theorem receiver_mem_objects {site : CallSite} {arguments : List Value} {c : Callee}
    (h : Activates S (possible S entries) n site arguments c) {o : AbstractObject}
    (ho : c.receiver = some o) : o ∈ objects S.algorithm (S.methods entries) := by
  cases h with
  | static => cases ho
  | joint => cases ho
  | split _ _ _ _ hheld =>
      cases ho
      exact object_mem_of_holds hheld
  | dispatch _ _ hheld _ =>
      cases ho
      exact object_mem_of_holds hheld

/-- Flow leads to what can come up. -/
theorem possible_of_flows (hm : m ∈ S.methods entries) (hsignature : m.signature = n.signature)
    (hn : n ∈ activations S.algorithm (S.methods entries)) {i : Nat} {inst : Instruction}
    (hi : m.code[i]? = some inst) {p : Place} {o : AbstractObject}
    (h : Flows S (possible S entries) n i inst p o) : .holds p o ∈ possible S entries := by
  have hresult : ∀ {v}, v ∈ inst.defs → .value n v ∈ places S.algorithm (S.methods entries) :=
    fun hv => value_mem_places hn (def_mem_values hm hi hv)
  cases h with
  | new =>
      rw [← hsignature]
      exact .holds (hresult List.mem_cons_self) (allocation_mem_objects hm hi)
  | phi _ ho => exact .holds (hresult List.mem_cons_self) (object_mem_of_holds ho)
  | cast ho _ => exact .holds (hresult List.mem_cons_self) (object_mem_of_holds ho)
  | getStatic ho => exact .holds (hresult List.mem_cons_self) (object_mem_of_holds ho)
  | getField _ ho => exact .holds (hresult List.mem_cons_self) (object_mem_of_holds ho)
  | putStatic ho => exact .holds (static_mem_places (mem_written hm hi)) (object_mem_of_holds ho)
  | putField hb ho =>
      exact .holds (field_mem_places (object_mem_of_holds hb) (mem_written hm hi))
        (object_mem_of_holds ho)
  | arrayLoad _ ho => exact .holds (hresult List.mem_cons_self) (object_mem_of_holds ho)
  | arrayStore hb ho =>
      exact .holds (element_mem_places (object_mem_of_holds hb)) (object_mem_of_holds ho)
  | ret ho => exact .holds (returned_mem_places hn) (object_mem_of_holds ho)

/-- Calls lead to what can come up. -/
theorem possible_of_called (hm : m ∈ S.methods entries) (hsignature : m.signature = n.signature)
    (hn : n ∈ activations S.algorithm (S.methods entries)) {i : Nat} {result : Option Value}
    {site : CallSite} {arguments : List Value}
    (hi : m.code[i]? = some (.invoke result site arguments)) {c : Callee}
    (hc : Activates S (possible S entries) n site arguments c) {f : Fact}
    (h : Called S (possible S entries) n result site arguments c f) : f ∈ possible S entries := by
  have hcallee : S.activation n site c ∈ activations S.algorithm (S.methods entries) := by
    refine mem_activations hc.mem_methods ?_
    rw [← hsignature]
    exact context_mem_contexts hm (mem_sites hi) fun o ho => receiver_mem_objects hc ho
  have hparameter : ∀ {k}, c.Takes arguments → k < arguments.length →
      .value (S.activation n site c) (k + 1) ∈ places S.algorithm (S.methods entries) := by
    intro k htakes hk
    exact value_mem_places hcallee (parameter_mem_values hc.mem_methods (htakes.2 ▸ hk))
  cases h with
  | node => exact .node hcallee
  | edge => exact .edge hn (List.mem_flatMap.mpr ⟨m, hm, mem_sites hi⟩) hcallee
  | receiver htakes hv ho =>
      rw [List.head?_eq_getElem?] at hv
      exact .holds (hparameter htakes (List.getElem?_eq_some_iff.mp hv).1) (receiver_mem_objects hc ho)
  | argument htakes hv _ ho =>
      exact .holds (hparameter htakes (List.getElem?_eq_some_iff.mp hv).1) (object_mem_of_holds ho)
  | result hr ho =>
      refine .holds (value_mem_places hn (def_mem_values hm hi ?_)) (object_mem_of_holds ho)
      simp [Instruction.defs, hr]

/-- What follows from possible facts is possible. -/
theorem closed_possible : Closed S entries (possible S entries) := by
  have hentry : ∀ {m}, m ∈ entries →
      ⟨m.signature, .everywhere⟩ ∈ activations S.algorithm (S.methods entries) :=
    fun hm => mem_activations (List.mem_append_left _ hm) List.mem_cons_self
  intro f hf
  cases hf with
  | entry hm => exact .node (hentry hm)
  | seed hm hseeded =>
      have hmethod := List.mem_append_left (S.hierarchy.classes.flatMap ClassDecl.methods) hm
      exact .holds (value_mem_places (hentry hm) (seed_mem_values hmethod hseeded))
        (seed_mem_objects hmethod hseeded)
  | visit hactive hf =>
      cases hactive.known with
      | node hn =>
          cases hf with
          | execute hbody hi hf =>
              cases hf with
              | flow hflow => exact possible_of_flows hactive.method hactive.signature hn hi hflow
              | call hc hf => exact possible_of_called hactive.method hactive.signature hn hi hc hf
          | native _ _ ht _ =>
              exact .holds (returned_mem_places hn) (result_mem_objects hactive.method ht)

end

/-! ### Lengths -/

section

variable {a : Algorithm} {methods : List Method} {β : Type}

theorem length_flatMap (f : Method → List β) :
    (methods.flatMap f).length = total (fun m => (f m).length) methods := by
  induction methods with
  | nil => rfl
  | cons m methods ih => rw [List.flatMap_cons, List.length_append, ih, total, total, List.foldr_cons]

theorem total_mono {count count' : Method → Nat} (h : ∀ m, count m ≤ count' m) :
    total count methods ≤ total count' methods := by
  induction methods with
  | nil => exact Nat.le_refl _
  | cons m methods ih => exact Nat.add_le_add (h m) ih

theorem length_flatMap_le {f : Method → List β} {count : Method → Nat}
    (h : ∀ m, (f m).length ≤ count m) : (methods.flatMap f).length ≤ total count methods := by
  rw [length_flatMap]
  exact total_mono h

theorem length_defs_le (inst : Instruction) : inst.defs.length ≤ 1 := by
  cases inst with
  | invoke r _ _ => cases r <;> simp [Instruction.defs]
  | _ => simp [Instruction.defs]

theorem length_defs_code_le (code : Code) :
    (code.toList.flatMap Instruction.defs).length ≤ code.size := by
  rw [← Array.length_toList]
  induction code.toList with
  | nil => exact Nat.le_refl _
  | cons inst code ih =>
      have := length_defs_le inst
      rw [List.flatMap_cons, List.length_append, List.length_cons]
      omega

theorem length_objects_le : (objects a methods).length ≤ objectCount methods := by
  refine length_flatMap_le fun m => ?_
  have hallocations := List.length_filterMap_le
    (fun p : Instruction × Nat => match p.1 with
      | .new _ t => some (a.object m.signature p.2 t)
      | _ => none) m.code.toList.zipIdx
  rw [List.length_zipIdx] at hallocations
  have hcode : m.code.toList.length = m.code.size := Array.length_toList
  have hresult : m.signature.resultType?.toList.length ≤ 1 := by
    cases m.signature.resultType? <;> simp
  have hreceiver : (if m.isStatic then [] else [AbstractObject.ofType m.signature.owner]).length =
      if m.isStatic then 0 else 1 := by
    cases m.isStatic <;> rfl
  simp only [objectsOf, List.length_append, List.length_map, hreceiver, Method.parameterCount]
  omega

theorem length_sites : (sites methods).length = siteCount methods := length_flatMap _

theorem length_contexts_le :
    (contexts a methods).length ≤ 1 + siteCount methods + objectCount methods := by
  have hobjects : (objects a methods).length ≤ objectCount methods := length_objects_le
  simp only [contexts, List.length_cons, List.length_append, List.length_map, length_flatMap, siteCount]
  omega

theorem length_activations_le : (activations a methods).length ≤ nodeCount methods := by
  rw [activations, List.length_map, List.length_product, nodeCount]
  exact Nat.mul_le_mul_left _ length_contexts_le

theorem length_values_le : (values methods).length ≤ objectCount methods := by
  refine length_flatMap_le fun m => ?_
  have hdefs := length_defs_code_le m.code
  simp only [List.length_append, List.length_map, List.length_range]
  omega

theorem length_written_le :
    (written methods).length ≤ total (fun m => m.code.size) methods := by
  refine length_flatMap_le fun m => ?_
  refine Nat.le_trans (List.length_filterMap_le _ _) ?_
  simp

theorem length_places_le : (places a methods).length ≤ locationCount methods := by
  have hactivations : (activations a methods).length ≤ nodeCount methods := length_activations_le
  have hvalues : (values methods).length ≤ objectCount methods := length_values_le
  have hobjects : (objects a methods).length ≤ objectCount methods := length_objects_le
  have hwritten : (written methods).length ≤ total (fun m => m.code.size) methods :=
    length_written_le
  have hvalue := Nat.mul_le_mul hactivations hvalues
  have hfield := Nat.mul_le_mul hobjects hwritten
  simp only [places, locationCount, List.length_append, List.length_map, List.length_product,
    Nat.mul_add, Nat.mul_one]
  omega

end

/-! ### The size of states -/

section

variable {S : Setting} {entries : List Method} {τ : State} {g : CallGraph}

/-- The location of a name. -/
def locate (g : CallGraph) : Place → Location
  | .value n v => .value (g.idOf n) v
  | .returned n => .returned (g.idOf n)
  | .field o name => .field o name
  | .static f => .static f
  | .element o => .element o

theorem locate_eq (hg : g.Indexed) {l : Location} {p : Place} (hl : g.Names l p) :
    locate g p = l := by
  cases hl with
  | value v hn => rw [locate, hg.idOf_eq hn]
  | returned hn => rw [locate, hg.idOf_eq hn]
  | field => rfl
  | static => rfl
  | element => rfl

theorem length_nodes_le (hg : g.Indexed) {heap : PointsTo} (h : facts g heap ⊆ possible S entries) :
    g.nodes.length ≤ nodeCount (S.methods entries) := by
  have hsub : g.nodes.map Node.activation ⊆ activations S.algorithm (S.methods entries) := by
    intro n hn
    obtain ⟨k, hk, rfl⟩ := List.mem_map.mp hn
    cases h (.node hk) with
    | node hn => exact hn
  have hlength := (hg.activations.subperm hsub).length_le
  rw [List.length_map] at hlength
  exact Nat.le_trans hlength length_activations_le

theorem length_edges_le (hg : g.Indexed) {heap : PointsTo} (h : facts g heap ⊆ possible S entries) :
    g.edges.length ≤ nodeCount (S.methods entries) * siteCount (S.methods entries) *
      nodeCount (S.methods entries) := by
  have hsub : g.edges ⊆ ((g.ids ×ˢ sites (S.methods entries)) ×ˢ g.ids).map
      fun x => ⟨x.1.1, x.1.2, x.2⟩ := by
    intro e he
    obtain ⟨n, hn, b, hb, heq⟩ := hg.exists_ends he
    have hmem : .edge n.activation e.site b.activation ∈ possible S entries :=
      h (.edge hn hb (heq ▸ he))
    cases hmem with
    | edge _ hsite _ =>
        refine List.mem_map.mpr ⟨((n.id, e.site), b.id), ?_, heq.symm⟩
        exact List.mem_product.mpr
          ⟨List.mem_product.mpr ⟨List.mem_map_of_mem hn, hsite⟩, List.mem_map_of_mem hb⟩
  have hlength := (hg.edges.subperm hsub).length_le
  have hnodes := length_nodes_le hg h
  rw [List.length_map, List.length_product, List.length_product, length_sites, CallGraph.ids,
    List.length_map] at hlength
  exact Nat.le_trans hlength (Nat.mul_le_mul (Nat.mul_le_mul_right _ hnodes) hnodes)

theorem heap_size_le (hτ : τ.Coherent S entries) (h : τ.facts ⊆ possible S entries) :
    τ.heap.size ≤ locationCount (S.methods entries) * objectCount (S.methods entries) := by
  have hsub : τ.heap.facts ⊆ (places S.algorithm (S.methods entries) ×ˢ
      objects S.algorithm (S.methods entries)).map fun x => (locate τ.graph x.1, x.2) := by
    rintro ⟨l, o⟩ hmem
    have ho := hτ.heap.mem_facts.mp hmem
    obtain ⟨p, hl⟩ := hτ.named ho
    cases h (.holds hl ho) with
    | holds hp ho =>
        refine List.mem_map.mpr ⟨(p, o), List.mem_product.mpr ⟨hp, ho⟩, ?_⟩
        rw [locate_eq hτ.indexed hl]
  have hlength := (hτ.heap.nodup_facts.subperm hsub).length_le
  rw [PointsTo.length_facts, List.length_map, List.length_product] at hlength
  exact Nat.le_trans hlength (Nat.mul_le_mul length_places_le length_objects_le)

/-- No state of a run is larger than the limit. -/
theorem Run.size_le_sizeLimit (h : Run S (initial entries) τ) :
    τ.size ≤ sizeLimit (S.methods entries) := by
  have hpossible := h.facts_subset closed_possible
  exact Nat.add_le_add (length_edges_le h.coherent.indexed hpossible)
    (heap_size_le h.coherent hpossible)

end

end TaintFlow.Solver
