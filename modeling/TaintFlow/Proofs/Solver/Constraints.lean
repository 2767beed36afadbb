/-
Module: TaintFlow.Proofs.Solver.Constraints
Purpose: The constraint system that a solved program satisfies, stated without states, numbers and order.
  A fact names an activation, a call edge between activations, or an object that a place may hold. The
  rules say which facts follow from others: one rule for each way in which an instruction lets objects
  flow, and one for each thing that a call does. A set of facts is closed if it contains what follows
  from it. A call graph and a points-to map show the facts that their nodes, edges and entries name.
Main exports: Solver.Place, Solver.Fact, Solver.Rule, Solver.Closed, CallGraph.Names, Solver.facts
-/
import Mathlib.Order.Bounds.Basic
import TaintFlow.Proofs.CallGraph.Built
import TaintFlow.Solver.Solve

namespace TaintFlow.Solver

/-! ### Facts -/

/-- Where objects may be found. Activations go by name, so a place does not depend on the order of
    work. -/
inductive Place where
  | value (activation : Activation) (v : Value)
  | returned (activation : Activation)
  | field (object : AbstractObject) (name : String)
  | static (field : FieldRef)
  | element (object : AbstractObject)
deriving DecidableEq, Repr, Inhabited

/-- A place where activations and objects go by other names. -/
def Place.map (π : Activation → Activation) (ψ : AbstractObject → AbstractObject) : Place → Place
  | .value a v => .value (π a) v
  | .returned a => .returned (π a)
  | .field o name => .field (ψ o) name
  | .static f => .static f
  | .element o => .element (ψ o)

/-- What there is to know: a method is activated in a context, a call of one activation causes another,
    a place may hold an object. -/
inductive Fact where
  | node (activation : Activation)
  | edge (caller : Activation) (site : CallSite) (callee : Activation)
  | holds (place : Place) (object : AbstractObject)
deriving DecidableEq, Repr, Inhabited

/-- A fact where activations and objects go by other names. -/
def Fact.map (π : Activation → Activation) (ψ : AbstractObject → AbstractObject) : Fact → Fact
  | .node a => .node (π a)
  | .edge a site b => .edge (π a) site (π b)
  | .holds p o => .holds (p.map π ψ) (ψ o)

theorem Place.map_id (p : Place) : p.map id id = p := by
  cases p <;> rfl

theorem Fact.map_id (f : Fact) : f.map id id = f := by
  cases f with
  | node => rfl
  | edge => rfl
  | holds p o => rw [Fact.map, p.map_id, id]

/-! ### Rules -/

/-- An activation that is known, with its method. -/
structure Active (S : Setting) (entries : List Method) (X : Set Fact) (a : Activation) (m : Method) :
    Prop where
  known : Fact.node a ∈ X
  method : m ∈ S.methods entries
  signature : m.signature = a.signature

/-- The values that hold an object when activation starts at a method, and the object's type. -/
inductive Seeded (m : Method) : Value → TypeName → Prop where
  | parameter {k : Nat} {t : TypeName} : m.signature.parameterTypes[k]? = some t →
      isReference t = true → Seeded m (k + 1 + if m.isStatic then 0 else 1) t
  | receiver : m.isStatic = false → Seeded m 1 m.signature.owner

/-- The objects that the instruction at an index lets flow into places, calls apart. -/
inductive Flows (S : Setting) (X : Set Fact) (a : Activation) (index : Nat) :
    Instruction → Place → AbstractObject → Prop where
  | new {r : Value} {t : TypeName} :
      Flows S X a index (.new r t) (.value a r) (S.algorithm.object a.signature index t)
  | phi {r v : Value} {vs : List Value} {o : AbstractObject} : v ∈ vs →
      .holds (.value a v) o ∈ X → Flows S X a index (.phi r vs) (.value a r) o
  | cast {r v : Value} {t : TypeName} {o : AbstractObject} : .holds (.value a v) o ∈ X →
      S.admits t o.type = true → Flows S X a index (.cast r v t) (.value a r) o
  | getStatic {r : Value} {f : FieldRef} {o : AbstractObject} : .holds (.static f) o ∈ X →
      Flows S X a index (.getField r none f) (.value a r) o
  | getField {r base : Value} {f : FieldRef} {b o : AbstractObject} : .holds (.value a base) b ∈ X →
      .holds (.field b f.name) o ∈ X → Flows S X a index (.getField r (some base) f) (.value a r) o
  | putStatic {f : FieldRef} {v : Value} {o : AbstractObject} : .holds (.value a v) o ∈ X →
      Flows S X a index (.putField none f v) (.static f) o
  | putField {base : Value} {f : FieldRef} {v : Value} {b o : AbstractObject} :
      .holds (.value a base) b ∈ X → .holds (.value a v) o ∈ X →
      Flows S X a index (.putField (some base) f v) (.field b f.name) o
  | arrayLoad {r array i : Value} {b o : AbstractObject} : .holds (.value a array) b ∈ X →
      .holds (.element b) o ∈ X → Flows S X a index (.arrayLoad r array i) (.value a r) o
  | arrayStore {array i v : Value} {b o : AbstractObject} : .holds (.value a array) b ∈ X →
      .holds (.value a v) o ∈ X → Flows S X a index (.arrayStore array i v) (.element b) o
  | ret {v : Value} {o : AbstractObject} : .holds (.value a v) o ∈ X →
      Flows S X a index (.ret (some v)) (.returned a) o

/-- The methods that a call activates. A static call needs no receiver; a special call needs some object
    to reach its receiver, and activates the method once for each of them if receivers are told apart;
    any other call looks the method up on the type of each object that reaches its receiver. -/
inductive Activates (S : Setting) (X : Set Fact) (a : Activation) (site : CallSite)
    (arguments : List Value) : Callee → Prop where
  | static {m : Method} : site.kind = .static → S.hierarchy.resolve? S.enumeration site.target = some m →
      Activates S X a site arguments { method := m }
  | joint {m : Method} {v : Value} {o : AbstractObject} : site.kind = .special →
      S.algorithm.splitsReceivers = false → S.hierarchy.resolve? S.enumeration site.target = some m →
      arguments.head? = some v → .holds (.value a v) o ∈ X →
      Activates S X a site arguments { method := m }
  | split {m : Method} {v : Value} {o : AbstractObject} : site.kind = .special →
      S.algorithm.splitsReceivers = true → S.hierarchy.resolve? S.enumeration site.target = some m →
      arguments.head? = some v → .holds (.value a v) o ∈ X →
      Activates S X a site arguments { method := m, receiver := some o }
  | dispatch {m : Method} {v : Value} {o : AbstractObject} : site.kind.isDispatch = true →
      arguments.head? = some v → .holds (.value a v) o ∈ X →
      S.hierarchy.dispatch? o.type site.target = some m →
      Activates S X a site arguments { method := m, receiver := some o }

/-- The activation that a call causes. -/
def Setting.activation (S : Setting) (a : Activation) (site : CallSite) (c : Callee) : Activation :=
  ⟨c.method.signature, S.algorithm.context S.hierarchy a.signature site.pc c.receiver⟩

/-- Are the arguments of a call passed on? The callee has to have a body and as many parameters. -/
def Callee.Takes (c : Callee) (arguments : List Value) : Prop :=
  c.method.hasBody = true ∧ c.method.parameterCount = arguments.length

/-- What a call does that activates a method: there is the activation, and an edge to it; the arguments
    flow into its parameters, the first one being the object the call was dispatched on where that is
    told apart; what it returns flows into the result. -/
inductive Called (S : Setting) (X : Set Fact) (a : Activation) (result : Option Value)
    (site : CallSite) (arguments : List Value) (c : Callee) : Fact → Prop where
  | node : Called S X a result site arguments c (.node (S.activation a site c))
  | edge : Called S X a result site arguments c (.edge a site (S.activation a site c))
  | receiver {v : Value} {o : AbstractObject} : c.Takes arguments → arguments.head? = some v →
      c.receiver = some o →
      Called S X a result site arguments c (.holds (.value (S.activation a site c) 1) o)
  | argument {k : Nat} {v : Value} {o : AbstractObject} : c.Takes arguments →
      arguments[k]? = some v → (k = 0 → c.receiver = none) → .holds (.value a v) o ∈ X →
      Called S X a result site arguments c (.holds (.value (S.activation a site c) (k + 1)) o)
  | result {r : Value} {o : AbstractObject} : result = some r →
      .holds (.returned (S.activation a site c)) o ∈ X →
      Called S X a result site arguments c (.holds (.value a r) o)

/-- What one instruction of an activation does. -/
inductive Executes (S : Setting) (X : Set Fact) (a : Activation) (index : Nat) :
    Instruction → Fact → Prop where
  | flow {inst : Instruction} {p : Place} {o : AbstractObject} : Flows S X a index inst p o →
      Executes S X a index inst (.holds p o)
  | call {result : Option Value} {site : CallSite} {arguments : List Value} {c : Callee} {f : Fact} :
      Activates S X a site arguments c → Called S X a result site arguments c f →
      Executes S X a index (.invoke result site arguments) f

/-- What an activation of a method does: what its instructions do; without a body, a native method
    returns an object of its result type. -/
inductive Visits (S : Setting) (X : Set Fact) (a : Activation) (m : Method) : Fact → Prop where
  | execute {i : Nat} {inst : Instruction} {f : Fact} : m.hasBody = true → m.code[i]? = some inst →
      Executes S X a i inst f → Visits S X a m f
  | native {t : TypeName} : m.hasBody = false → m.isNative = true →
      m.signature.resultType? = some t → isReference t = true →
      Visits S X a m (.holds (.returned a) (.ofType t))

/-- What follows from a set of facts in one step. -/
inductive Rule (S : Setting) (entries : List Method) (X : Set Fact) : Fact → Prop where
  | entry {m : Method} : m ∈ entries → Rule S entries X (.node ⟨m.signature, .everywhere⟩)
  | seed {m : Method} {v : Value} {t : TypeName} : m ∈ entries → Seeded m v t →
      Rule S entries X (.holds (.value ⟨m.signature, .everywhere⟩ v) (.ofType t))
  | visit {a : Activation} {m : Method} {f : Fact} : Active S entries X a m →
      Visits S X a m f → Rule S entries X f

/-- A set of facts that contains what follows from it. -/
def Closed (S : Setting) (entries : List Method) (X : Set Fact) : Prop :=
  ∀ f, Rule S entries X f → f ∈ X

/-! ### More facts, more consequences -/

variable {S : Setting} {entries : List Method} {X Y : Set Fact} {a : Activation} {m : Method}

theorem Active.mono (h : X ⊆ Y) (ha : Active S entries X a m) : Active S entries Y a m :=
  ⟨h ha.known, ha.method, ha.signature⟩

theorem Flows.mono (h : X ⊆ Y) {i : Nat} {inst : Instruction} {p : Place} {o : AbstractObject}
    (hf : Flows S X a i inst p o) : Flows S Y a i inst p o := by
  cases hf with
  | new => exact .new
  | phi hv hx => exact .phi hv (h hx)
  | cast hx ht => exact .cast (h hx) ht
  | getStatic hx => exact .getStatic (h hx)
  | getField hb hx => exact .getField (h hb) (h hx)
  | putStatic hx => exact .putStatic (h hx)
  | putField hb hx => exact .putField (h hb) (h hx)
  | arrayLoad hb hx => exact .arrayLoad (h hb) (h hx)
  | arrayStore hb hx => exact .arrayStore (h hb) (h hx)
  | ret hx => exact .ret (h hx)

theorem Activates.mono (h : X ⊆ Y) {site : CallSite} {arguments : List Value} {c : Callee}
    (hc : Activates S X a site arguments c) : Activates S Y a site arguments c := by
  cases hc with
  | static hkind hm => exact .static hkind hm
  | joint hkind hsplit hm hv hx => exact .joint hkind hsplit hm hv (h hx)
  | split hkind hsplit hm hv hx => exact .split hkind hsplit hm hv (h hx)
  | dispatch hkind hv hx hm => exact .dispatch hkind hv (h hx) hm

theorem Called.mono (h : X ⊆ Y) {result : Option Value} {site : CallSite} {arguments : List Value}
    {c : Callee} {f : Fact} (hc : Called S X a result site arguments c f) :
    Called S Y a result site arguments c f := by
  cases hc with
  | node => exact .node
  | edge => exact .edge
  | receiver htakes hv ho => exact .receiver htakes hv ho
  | argument htakes hv hk hx => exact .argument htakes hv hk (h hx)
  | result hr hx => exact .result hr (h hx)

theorem Executes.mono (h : X ⊆ Y) {i : Nat} {inst : Instruction} {f : Fact}
    (hf : Executes S X a i inst f) : Executes S Y a i inst f := by
  cases hf with
  | flow hflow => exact .flow (hflow.mono h)
  | call hc hf => exact .call (hc.mono h) (hf.mono h)

theorem Visits.mono (h : X ⊆ Y) {f : Fact} (hf : Visits S X a m f) : Visits S Y a m f := by
  cases hf with
  | execute hbody hi hf => exact .execute hbody hi (hf.mono h)
  | native hbody hnative ht href => exact .native hbody hnative ht href

theorem Rule.mono (h : X ⊆ Y) {f : Fact} (hf : Rule S entries X f) : Rule S entries Y f := by
  cases hf with
  | entry hm => exact .entry hm
  | seed hm hs => exact .seed hm hs
  | visit ha hf => exact .visit (ha.mono h) (hf.mono h)

theorem mem_methods_of_subset {entries' : List Method} (h : ∀ m ∈ entries, m ∈ entries')
    (hm : m ∈ S.methods entries) : m ∈ S.methods entries' := by
  rcases List.mem_append.mp hm with hm | hm
  · exact List.mem_append_left _ (h m hm)
  · exact List.mem_append_right _ hm

/-- More entrypoints, more consequences. -/
theorem Rule.mono_entries {entries' : List Method} (h : ∀ m ∈ entries, m ∈ entries') {f : Fact}
    (hf : Rule S entries X f) : Rule S entries' X f := by
  cases hf with
  | entry hm => exact .entry (h _ hm)
  | seed hm hs => exact .seed (h _ hm) hs
  | visit ha hf => exact .visit ⟨ha.known, mem_methods_of_subset h ha.method, ha.signature⟩ hf

/-- Closed sets ask which methods are entrypoints, not in which order they are listed. -/
theorem closed_congr_entries {entries' : List Method} (h : ∀ m, m ∈ entries' ↔ m ∈ entries) :
    Closed S entries' X ↔ Closed S entries X := by
  constructor
  · intro hX f hf
    exact hX f (hf.mono_entries fun m hm => (h m).mpr hm)
  · intro hX f hf
    exact hX f (hf.mono_entries fun m hm => (h m).mp hm)

end TaintFlow.Solver

/-! ### Names of locations -/

namespace TaintFlow

/-- A location where nodes have other numbers and objects other names. -/
def Location.map (φ : NodeId → NodeId) (ψ : AbstractObject → AbstractObject) : Location → Location
  | .value n v => .value (φ n.toNat) v
  | .returned n => .returned (φ n.toNat)
  | .field o name => .field (ψ o) name
  | .static f => .static f
  | .element o => .element (ψ o)

namespace CallGraph

open Solver

/-- A location and its name, which does not depend on the numbers of the nodes. -/
inductive Names (g : CallGraph) : Location → Place → Prop where
  | value {n : Node} (v : Value) : n ∈ g.nodes → Names g (.value n.id v) (.value n.activation v)
  | returned {n : Node} : n ∈ g.nodes → Names g (.returned n.id) (.returned n.activation)
  | field (o : AbstractObject) (name : String) : Names g (.field o name) (.field o name)
  | static (f : FieldRef) : Names g (.static f) (.static f)
  | element (o : AbstractObject) : Names g (.element o) (.element o)

namespace Names

variable {g g' : CallGraph} {l l' : Location} {p p' : Place}

theorem mono (h : ∀ n ∈ g.nodes, n ∈ g'.nodes) (hl : g.Names l p) : g'.Names l p := by
  cases hl with
  | value v hn => exact .value v (h _ hn)
  | returned hn => exact .returned (h _ hn)
  | field o name => exact .field o name
  | static f => exact .static f
  | element o => exact .element o

/-- A location has one name. -/
theorem eq_place (hg : g.Indexed) (h : g.Names l p) (h' : g.Names l p') : p = p' := by
  cases h with
  | value v hn =>
      generalize hl : Location.value _ _ = l at h'
      cases h' with
      | value w hk =>
          injection hl with hid hv
          have heq := hg.eq_of_id_eq hn hk (Int.ofNat_inj.mp hid)
          rw [heq, Int.ofNat_inj.mp hv]
      | _ => cases hl
  | returned hn =>
      generalize hl : Location.returned _ = l at h'
      cases h' with
      | returned hk =>
          injection hl with hid
          rw [hg.eq_of_id_eq hn hk (Int.ofNat_inj.mp hid)]
      | _ => cases hl
  | field o name => cases h' with | field => rfl
  | static f => cases h' with | static => rfl
  | element o => cases h' with | element => rfl

/-- A name belongs to one location. -/
theorem eq_location (hg : g.Indexed) (h : g.Names l p) (h' : g.Names l' p) : l = l' := by
  cases h with
  | value v hn =>
      generalize hp : Place.value _ _ = p at h'
      cases h' with
      | value w hk =>
          injection hp with hactivation hv
          rw [hg.eq_of_activation_eq hn hk hactivation, hv]
      | _ => cases hp
  | returned hn =>
      generalize hp : Place.returned _ = p at h'
      cases h' with
      | returned hk =>
          injection hp with hactivation
          rw [hg.eq_of_activation_eq hn hk hactivation]
      | _ => cases hp
  | field o name => cases h' with | field => rfl
  | static f => cases h' with | static => rfl
  | element o => cases h' with | element => rfl

/-- If a location has a name in one graph and another one has the renamed name in a second graph, the
    second location is the first one with the numbers and names of the second graph. -/
theorem eq_map (hg : g.Indexed) (hg' : g'.Indexed) {π : Activation → Activation}
    {ψ : AbstractObject → AbstractObject} (h : g.Names l p) (h' : g'.Names l' (p.map π ψ)) :
    l' = l.map (relabel π g g') ψ := by
  cases h with
  | value v hn =>
      generalize hp : Place.map π ψ _ = p at h'
      cases h' with
      | value w hn' =>
          injection hp with hname hv
          rw [Location.map, Int.toNat_natCast, hg.relabel_eq hg' hn hn' hname.symm, hv]
      | _ => cases hp
  | returned hn =>
      generalize hp : Place.map π ψ _ = p at h'
      cases h' with
      | returned hn' =>
          injection hp with hname
          rw [Location.map, Int.toNat_natCast, hg.relabel_eq hg' hn hn' hname.symm]
      | _ => cases hp
  | field => cases h' with | field => rfl
  | static => cases h' with | static => rfl
  | element => cases h' with | element => rfl

end Names

end CallGraph

end TaintFlow

/-! ### What a graph and a map show -/

namespace TaintFlow.Solver

/-- The facts of a call graph and a points-to map. -/
inductive Shows (g : CallGraph) (heap : PointsTo) : Fact → Prop where
  | node {n : Node} : n ∈ g.nodes → Shows g heap (.node n.activation)
  | edge {a b : Node} {site : CallSite} : a ∈ g.nodes → b ∈ g.nodes →
      (⟨a.id, site, b.id⟩ : Edge) ∈ g.edges → Shows g heap (.edge a.activation site b.activation)
  | holds {l : Location} {p : Place} {o : AbstractObject} : g.Names l p → o ∈ heap.get l →
      Shows g heap (.holds p o)

/-- The facts of a call graph and a points-to map, as a set. -/
def facts (g : CallGraph) (heap : PointsTo) : Set Fact := {f | Shows g heap f}

section

variable {g : CallGraph} {heap : PointsTo} {p : Place} {l : Location} {o : AbstractObject}

theorem node_mem_facts {a : Activation} :
    .node a ∈ facts g heap ↔ ∃ n ∈ g.nodes, n.activation = a := by
  constructor
  · intro h
    cases h with
    | node hn => exact ⟨_, hn, rfl⟩
  · rintro ⟨n, hn, rfl⟩
    exact .node hn

theorem edge_mem_facts (hg : g.Indexed) {a b : Node} {site : CallSite} (ha : a ∈ g.nodes)
    (hb : b ∈ g.nodes) : .edge a.activation site b.activation ∈ facts g heap ↔
      (⟨a.id, site, b.id⟩ : Edge) ∈ g.edges := by
  constructor
  · intro h
    generalize hf : Fact.edge _ _ _ = f at h
    cases h with
    | edge ha' hb' he =>
        injection hf with hcaller hsite hcallee
        rw [hg.eq_of_activation_eq ha ha' hcaller, hsite, hg.eq_of_activation_eq hb hb' hcallee]
        exact he
    | _ => cases hf
  · exact .edge ha hb

theorem holds_mem_facts_iff :
    .holds p o ∈ facts g heap ↔ ∃ l, g.Names l p ∧ o ∈ heap.get l := by
  constructor
  · intro h
    cases h with
    | holds hl ho => exact ⟨_, hl, ho⟩
  · rintro ⟨l, hl, ho⟩
    exact .holds hl ho

/-- At a location of a known name, the facts are what the map holds. -/
theorem holds_mem_facts (hg : g.Indexed) (hl : g.Names l p) :
    .holds p o ∈ facts g heap ↔ o ∈ heap.get l := by
  constructor
  · intro h
    obtain ⟨l', hl', ho⟩ := holds_mem_facts_iff.mp h
    rw [hl.eq_location hg hl']
    exact ho
  · exact .holds hl

end

end TaintFlow.Solver
