/-
Module: TaintFlow.Proofs.Dependence.Heap
Purpose: Dependence through the heap, pair by pair. The loads of all activations are entered in an index
  under the locations that they may read, and what depends on a store is looked up there, location by
  location. A location is a field of an object, a static field or the elements of an object, and objects are
  found through the values that an access names. So the lookups find exactly the loads that access what the
  store accesses: the same static field, or a field of the same name or elements of values that may alias.
Main exports: PointsTo.mayAlias_iff, DependenceGraph.MayRead, DependenceGraph.readers,
  DependenceGraph.heapTargets_eq_readers, DependenceGraph.heap_dependences_exact
-/
import TaintFlow.Ledger
import TaintFlow.Proofs.Dependence.Distinct
import TaintFlow.Proofs.Dependence.Summary
import TaintFlow.Proofs.Dump.Formed

namespace TaintFlow

/-- Two values may alias if there is an object that both may hold. -/
theorem PointsTo.mayAlias_iff {heap : PointsTo} {n v m w : Int} :
    heap.mayAlias n v m w = true ↔ ∃ o ∈ heap.get (.value n v), o ∈ heap.get (.value m w) := by
  simp [mayAlias]

namespace DependenceGraph

variable {heap : PointsTo} {n m : NodeId} {store load : Instruction} {l : Location}

/-! ### Pairs of a store and a load -/

/-- The load of one activation may read what the store of another writes. Fields of objects are told apart
    by their names alone, static fields also by their owners. -/
inductive MayRead (heap : PointsTo) (n m : NodeId) : Instruction → Instruction → Prop where
  | field {base base' v r : Value} {f f' : FieldRef} : f.name = f'.name →
      heap.mayAlias n base m base' = true →
      MayRead heap n m (.putField (some base) f v) (.getField r (some base') f')
  | static {v r : Value} {f : FieldRef} :
      MayRead heap n m (.putField none f v) (.getField r none f)
  | element {array array' i i' v r : Value} : heap.mayAlias n array m array' = true →
      MayRead heap n m (.arrayStore array i v) (.arrayLoad r array' i')

theorem mem_fieldLocations {base : Option Value} {f : FieldRef} :
    l ∈ accessed.fieldLocations heap n base f ↔
      (base = none ∧ l = .static f) ∨
        ∃ v, base = some v ∧ ∃ o ∈ heap.get (.value n v), l = .field o f.name := by
  cases base with
  | none => simp [accessed.fieldLocations]
  | some v => simp [accessed.fieldLocations, eq_comm]

theorem mem_elements {array : Value} :
    l ∈ (heap.get (.value n array)).map Location.element ↔
      ∃ o ∈ heap.get (.value n array), l = .element o := by
  simp [eq_comm]

/-- Two accesses to fields meet at the same static field, or at fields of one name of values that may
    alias. -/
theorem exists_fieldLocation_iff {base base' : Option Value} {f f' : FieldRef} :
    (∃ l ∈ accessed.fieldLocations heap n base f, l ∈ accessed.fieldLocations heap m base' f') ↔
      (base = none ∧ base' = none ∧ f = f') ∨
        ∃ v w, base = some v ∧ base' = some w ∧ f.name = f'.name ∧ heap.mayAlias n v m w = true := by
  simp only [mem_fieldLocations, PointsTo.mayAlias_iff]
  constructor
  · rintro ⟨l, ⟨rfl, rfl⟩ | ⟨v, rfl, o, ho, rfl⟩, ⟨rfl, hl⟩ | ⟨w, rfl, o', ho', hl⟩⟩
    · cases hl
      exact Or.inl ⟨rfl, rfl, rfl⟩
    · cases hl
    · cases hl
    · injection hl with hobject hname
      subst hobject
      exact Or.inr ⟨v, w, rfl, rfl, hname, o, ho, ho'⟩
  · rintro (⟨rfl, rfl, rfl⟩ | ⟨v, w, rfl, rfl, hname, o, ho, ho'⟩)
    · exact ⟨.static f, Or.inl ⟨rfl, rfl⟩, Or.inl ⟨rfl, rfl⟩⟩
    · exact ⟨.field o f.name, Or.inr ⟨v, rfl, o, ho, rfl⟩, Or.inr ⟨w, rfl, o, ho', by rw [hname]⟩⟩

theorem exists_element_iff {array array' : Value} :
    (∃ l ∈ (heap.get (.value n array)).map Location.element,
        l ∈ (heap.get (.value m array')).map Location.element) ↔
      heap.mayAlias n array m array' = true := by
  simp only [mem_elements, PointsTo.mayAlias_iff]
  constructor
  · rintro ⟨l, ⟨o, ho, rfl⟩, o', ho', hl⟩
    cases hl
    exact ⟨o, ho, ho'⟩
  · rintro ⟨o, ho, ho'⟩
    exact ⟨.element o, ⟨o, ho, rfl⟩, o, ho', rfl⟩

/-- A field and an element are never at one location. -/
theorem not_field_of_element {base : Option Value} {f : FieldRef} {array : Value}
    (hfield : l ∈ accessed.fieldLocations heap n base f)
    (helement : l ∈ (heap.get (.value m array)).map Location.element) : False := by
  obtain ⟨o, _, rfl⟩ := mem_elements.mp helement
  rcases mem_fieldLocations.mp hfield with ⟨_, hl⟩ | ⟨_, _, _, _, hl⟩
  · cases hl
  · cases hl

/-- A store and a load meet at a location exactly if the load may read what the store writes. -/
theorem mayRead_iff (hstore : isStore store = true) (hload : isLoad load = true) :
    (∃ l ∈ accessed heap n store, l ∈ accessed heap m load) ↔ MayRead heap n m store load := by
  cases store with
  | putField base f v =>
      cases load with
      | getField r base' f' =>
          refine exists_fieldLocation_iff.trans ⟨?_, ?_⟩
          · rintro (⟨rfl, rfl, rfl⟩ | ⟨b, b', rfl, rfl, hname, halias⟩)
            · exact .static
            · exact .field hname halias
          · intro h
            cases h with
            | field hname halias => exact Or.inr ⟨_, _, rfl, rfl, hname, halias⟩
            | static => exact Or.inl ⟨rfl, rfl, rfl⟩
      | arrayLoad r array i =>
          constructor
          · rintro ⟨l, hfield, helement⟩
            exact (not_field_of_element hfield helement).elim
          · intro h
            cases h
      | _ => cases hload
  | arrayStore array i v =>
      cases load with
      | getField r base f =>
          constructor
          · rintro ⟨l, helement, hfield⟩
            exact (not_field_of_element hfield helement).elim
          · intro h
            cases h
      | arrayLoad r array' i' =>
          refine exists_element_iff.trans ⟨.element, ?_⟩
          intro h
          cases h with
          | element halias => exact halias
      | _ => cases hload
  | _ => cases hstore

/-! ### The index of loads -/

section

variable {S : DependenceGraph}

/-- The loads under the locations that they may read. -/
def readers (S : DependenceGraph) : Ledger Location Statement :=
  Ledger.index Load.locations Load.statement S.loads

theorem eraseDups_replicate_count {ls : List Location} {t : Statement} :
    (List.replicate (ls.count l) t).eraseDups = if ls.contains l then [t] else [] := by
  by_cases hl : l ∈ ls
  · obtain ⟨k, hk⟩ := Nat.exists_eq_succ_of_ne_zero (Nat.ne_of_gt (List.count_pos_iff.mpr hl))
    simp [hk, hl, List.replicate_succ, List.eraseDups_cons]
  · simp [hl, List.count_eq_zero_of_not_mem hl]

/-- Looking a location up finds the loads that may read it. -/
theorem eraseDups_get_readers :
    (S.readers.get l).eraseDups =
      ((S.loads.filter fun r => r.locations.contains l).map Load.statement).eraseDups := by
  have hscan : (S.loads.filter fun r => r.locations.contains l).map Load.statement =
      S.loads.flatMap fun r => if r.locations.contains l then [r.statement] else [] := by
    induction S.loads with
    | nil => rfl
    | cons r loads ih =>
        rw [List.flatMap_cons, ← ih, List.filter_cons]
        split <;> rfl
  rw [readers, Ledger.get_index, hscan]
  apply eraseDups_flatMap_congr
  intro r _
  rw [eraseDups_replicate_count]
  split <;> rfl

/-- What depends on a store is looked up in the index, location by location. -/
theorem heapTargets_eq_readers {i : Int} (hinst : S.graph.instructionAt? n i = some store)
    (hstore : isStore store = true) :
    S.heapTargets (.normal n i) = ((accessed S.heap n store).flatMap S.readers.get).eraseDups := by
  simp only [heapTargets, hinst, hstore, if_true]
  apply eraseDups_flatMap_congr
  intro l _
  exact eraseDups_get_readers.symm

end

/-! ### The result -/

/-- An instruction of an activation writes a field or an element. -/
structure Stores (g : CallGraph) (n : Node) (i : Nat) (store : Instruction) : Prop where
  node : n ∈ g.nodes
  code : n.code[i]? = some store
  writes : isStore store = true

/-- An instruction of an activation that runs a body reads a field or an element. -/
structure Loads (g : CallGraph) (m : Node) (j : Nat) (load : Instruction) : Prop where
  node : m ∈ g.nodes
  body : m.method.hasBody = true
  code : m.code[j]? = some load
  reads : isLoad load = true

/-- What depends on a store through the heap are the loads that may read what it writes. -/
theorem mem_heapTargets_store {S : DependenceGraph} (hS : S.Assembled) {n : Node} {i : Nat}
    (hstore : Stores S.graph n i store) {t : Statement} :
    t ∈ S.heapTargets (.normal n.id i) ↔
      ∃ m j load, Loads S.graph m j load ∧ MayRead S.heap n.id m.id store load ∧
        t = .normal m.id j := by
  rw [mem_heapTargets hS]
  constructor
  · intro hlinked
    generalize hs : Statement.normal n.id i = s at hlinked
    cases hlinked with
    | inside _ _ hdep =>
        rcases hdep.kind_local with hkind | hkind <;> cases hkind
    | @heap n' m i' j store' load l hn hcode hwrites hm hj hload hreads hl hl' =>
        injection hs with hid hindex
        have hnode : n = n' := hS.indexed.eq_of_id_eq hstore.node hn hid
        have hi : i = i' := Int.ofNat_inj.mp hindex
        subst hnode hi
        rw [hstore.code] at hcode
        cases hcode
        exact ⟨m, j, load, ⟨hm, (Node.mem_indices.mp hj).1, hload, hreads⟩,
          (mayRead_iff hwrites hreads).mp ⟨l, hl, hl'⟩, rfl⟩
  · rintro ⟨m, j, load, hload, hread, rfl⟩
    obtain ⟨l, hl, hl'⟩ := (mayRead_iff hstore.writes hload.reads).mpr hread
    have hj : j ∈ m.indices :=
      Node.mem_indices.mpr ⟨hload.body, (Array.getElem?_eq_some_iff.mp hload.code).1⟩
    exact .heap hstore.node hstore.code hstore.writes hload.node hj hload.code hload.reads hl hl'

/-- Nothing depends through the heap on a statement that is no store. -/
theorem heapTargets_eq_nil {S : DependenceGraph} (hS : S.Assembled) {s : Statement}
    (hs : ∀ n i store, Stores S.graph n i store → s ≠ .normal n.id i) : S.heapTargets s = [] := by
  apply List.eq_nil_iff_forall_not_mem.mpr
  intro t ht
  cases (mem_heapTargets hS).mp ht with
  | inside _ _ hdep =>
      rcases hdep.kind_local with hkind | hkind <;> cases hkind
  | heap hn hcode hwrites => exact hs _ _ _ ⟨hn, hcode, hwrites⟩ rfl

/-- Dependence through the heap is exact, in every call graph over methods that were read and for every
    points-to map. On a store depend the loads that may read what it writes and nothing else; they are listed
    once each, as the index of loads gives them; and nothing depends on other statements. -/
theorem heap_dependences_exact {g : CallGraph} (hg : g.Built Method.Parsed) (heap : PointsTo)
    (o : Options) :
    let S := ofGraph g heap o
    (∀ n i store, Stores g n i store →
      (∀ t, t ∈ S.heapTargets (.normal n.id i) ↔
        ∃ m j load, Loads g m j load ∧ MayRead heap n.id m.id store load ∧ t = .normal m.id j) ∧
      (S.heapTargets (.normal n.id i)).Nodup ∧
      S.heapTargets (.normal n.id i) =
        ((accessed heap n.id store).flatMap S.readers.get).eraseDups) ∧
    ∀ s ∈ S.statements, (∀ n i store, Stores g n i store → s ≠ .normal n.id i) →
      S.heapTargets s = [] := by
  intro S
  have hS : S.Assembled := assembled_ofGraph hg.indexed
  have hgraph : S.graph = g := ofGraph_graph
  have hheap : S.heap = heap := ofGraph_heap
  rw [← hgraph, ← hheap]
  constructor
  · intro n i store hstore
    have hinst : S.graph.instructionAt? n.id i = some store :=
      (CallGraph.instructionAt?_eq_some hS.indexed).mpr ⟨n, hstore.node, rfl, i, rfl, hstore.code⟩
    exact ⟨fun t => mem_heapTargets_store hS hstore, nodup_heapTargets,
      heapTargets_eq_readers hinst hstore.writes⟩
  · intro s _ hs
    exact heapTargets_eq_nil hS hs

end DependenceGraph

/-! ### A box that is filled and emptied -/

namespace Boxes

/-- Makes a box and stores it in its own field, in a static field and among its own elements. -/
def fill : Method :=
  { signature := ⟨"LA", "fill", "()V"⟩
    loader := .application
    isStatic := true
    code := #[.new 1 "LA", .putField (some 1) ⟨"LA", "item"⟩ 1, .putField none ⟨"LA", "item"⟩ 1,
      .arrayStore 1 1 1] }

/-- Reads a field that another class is said to declare, a static field and an element. -/
def take : Method :=
  { signature := ⟨"LA", "take", "(LA;)V"⟩
    loader := .application
    isStatic := true
    code := #[.getField 2 (some 1) ⟨"LB", "item"⟩, .getField 3 none ⟨"LA", "item"⟩,
      .arrayLoad 4 1 1] }

/-- The two methods in one class. -/
def program : Program :=
  { source := "boxes", classes := [{ name := "LA", methods := [fill, take] }] }

/-- The text of the program. -/
def text : String :=
  "(program (class LA " ++
    "(method fill \"()V\" (static) (body (new 1 LA) (putfield 1 LA item 1) " ++
      "(putstatic LA item 1) (astore 1 1 1))) " ++
    "(method take \"(LA;)V\" (static) (body (getfield 2 1 LB item) (getstatic 3 LA item) " ++
      "(aload 4 1 1)))))"

set_option maxRecDepth 100000 in
theorem parsed : program.Parsed := by
  have htext : text.toList = _ :=
    Dump.toList_of_append (Dump.toList_of_append (Dump.toList_of_append (Dump.toList_of_append
      (Dump.toList_of_literal rfl) (Dump.toList_of_literal rfl)) (Dump.toList_of_literal rfl))
      (Dump.toList_of_literal rfl)) (Dump.toList_of_literal rfl)
  have hread : Dump.read "boxes" text = .ok program :=
    Dump.read_of_chars htext (by with_unfolding_all rfl) (by with_unfolding_all rfl)
  exact .of_read hread

/-- The call graph with one activation of each method. -/
def graph : CallGraph := ((({} : CallGraph).intern fill .everywhere).1.intern take .everywhere).1

theorem graph_built : graph.Built Method.Parsed :=
  .intern _ (.intern _ .empty ⟨program, parsed, List.mem_cons_self⟩)
    ⟨program, parsed, List.mem_cons_of_mem _ List.mem_cons_self⟩

/-- The box reaches the second method. -/
def heap : PointsTo :=
  let box : AbstractObject := .allocatedAt fill.signature 0 "LA"
  ((({} : PointsTo).add (.value 0 1) [box]).add (.value 1 1) [.ofType "LA", box])

theorem mayAlias : heap.mayAlias 0 1 1 1 = true := by decide

theorem stores :
    DependenceGraph.Stores graph ⟨0, fill, .everywhere⟩ 1 (.putField (some 1) ⟨"LA", "item"⟩ 1) :=
  ⟨List.mem_cons_self, rfl, rfl⟩

theorem loads :
    DependenceGraph.Loads graph ⟨1, take, .everywhere⟩ 0 (.getField 2 (some 1) ⟨"LB", "item"⟩) :=
  ⟨List.mem_cons_of_mem _ List.mem_cons_self, rfl, rfl, rfl⟩

/-- The second method runs in one activation. -/
theorem take_of_id {m : Node} (hm : m ∈ graph.nodes) (hid : m.id = 1) :
    m = ⟨1, take, .everywhere⟩ :=
  graph_built.indexed.eq_of_id_eq hm (List.mem_cons_of_mem _ List.mem_cons_self) hid

theorem entry_mem (o : Options) : .entry 0 ∈ (DependenceGraph.ofGraph graph heap o).statements := by
  apply DependenceGraph.mem_statements.mpr
  refine ⟨⟨0, fill, .everywhere⟩, ?_, Node.mem_statements.mpr (Or.inl rfl)⟩
  rw [DependenceGraph.ofGraph_graph]
  exact List.mem_cons_self

end Boxes

/-- What is stored in the field of the box is read by the field access of the second method, which names
    another owner, and not by its access to an element of the box. Nothing depends on the entry through the
    heap. -/
theorem DependenceGraph.heap_dependences_exact_boxes :
    Boxes.graph.Built Method.Parsed ∧ Boxes.heap.mayAlias 0 1 1 1 = true ∧
    let S := ofGraph Boxes.graph Boxes.heap {}
    Stores Boxes.graph ⟨0, Boxes.fill, .everywhere⟩ 1 (.putField (some 1) ⟨"LA", "item"⟩ 1) ∧
    .normal 1 0 ∈ S.heapTargets (.normal 0 1) ∧ .normal 1 2 ∉ S.heapTargets (.normal 0 1) ∧
    (S.heapTargets (.normal 0 1)).Nodup ∧
    .entry 0 ∈ S.statements ∧ S.heapTargets (.entry 0) = [] := by
  refine ⟨Boxes.graph_built, Boxes.mayAlias, ?_⟩
  intro S
  obtain ⟨hstores, hothers⟩ := heap_dependences_exact Boxes.graph_built Boxes.heap {}
  obtain ⟨htargets, hnodup, _⟩ := hstores _ _ _ Boxes.stores
  have hread : .normal 1 0 ∈ S.heapTargets (.normal 0 1) :=
    (htargets _).mpr ⟨_, _, _, Boxes.loads, .field rfl Boxes.mayAlias, rfl⟩
  have hnot : .normal 1 2 ∉ S.heapTargets (.normal 0 1) := by
    intro hmem
    obtain ⟨m, j, load, hload, hmay, heq⟩ := (htargets _).mp hmem
    injection heq with hid hindex
    obtain rfl : j = 2 := (Int.ofNat_inj.mp hindex).symm
    obtain rfl := Boxes.take_of_id hload.node hid.symm
    obtain rfl : .arrayLoad 4 1 1 = load := Option.some.inj hload.code
    cases hmay
  have hentry : S.heapTargets (.entry 0) = [] := by
    apply hothers _ (Boxes.entry_mem {})
    intro n i store _ heq
    cases heq
  exact ⟨Boxes.stores, hread, hnot, hnodup, Boxes.entry_mem {}, hentry⟩

end TaintFlow
