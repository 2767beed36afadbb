/-
Module: TaintFlow.Proofs.CallGraph.Reachable
Purpose: Which nodes of a call graph are reached from the nodes where activation starts. The search over
  callees finds exactly the nodes at the ends of paths of call edges.
Main exports: CallGraph.Invokes, CallGraph.Reachable, CallGraph.mem_reachable_iff
-/
import Mathlib.Logic.Relation
import TaintFlow.Proofs.CallGraph.Built
import TaintFlow.Proofs.Search

namespace TaintFlow.CallGraph

variable {g : CallGraph} {id a b : NodeId}

/-- Some call of one node may activate another. -/
def Invokes (g : CallGraph) (a b : NodeId) : Prop := ∃ site, (⟨a, site, b⟩ : Edge) ∈ g.edges

/-- A node where activation starts, or one that such a node activates, directly or not. -/
def Reachable (g : CallGraph) (id : NodeId) : Prop :=
  ∃ entry ∈ g.entrypoints, Relation.ReflTransGen g.Invokes entry id

/-! ### Where activation starts -/

@[simp] theorem intern_entrypoints {m : Method} {c : Context} :
    (g.intern m c).1.entrypoints = g.entrypoints := by
  rcases g.intern_cases m c with ⟨n, _, _, heq⟩ | ⟨_, heq⟩ <;> rw [heq]

@[simp] theorem addEdge_entrypoints {e : Edge} : (g.addEdge e).entrypoints = g.entrypoints := by
  unfold addEdge
  split <;> rfl

@[simp] theorem mem_addEntrypoint :
    a ∈ (g.addEntrypoint id).entrypoints ↔ a ∈ g.entrypoints ∨ a = id := by
  unfold addEntrypoint
  split
  · next hmem =>
      have hid : id ∈ g.entrypoints := List.contains_iff_mem.mp hmem
      constructor
      · exact Or.inl
      · rintro (h | rfl)
        · exact h
        · exact hid
  · simp

/-! ### The search -/

theorem mem_ids : id ∈ g.ids ↔ ∃ n ∈ g.nodes, n.id = id := by
  simp [ids]

theorem mem_callees : b ∈ g.callees a ↔ g.Invokes a b := by
  simp only [callees, outEdges, List.mem_eraseDups, List.mem_map, List.mem_filter, beq_iff_eq]
  constructor
  · rintro ⟨e, ⟨he, rfl⟩, rfl⟩
    exact ⟨e.site, he⟩
  · rintro ⟨site, he⟩
    exact ⟨_, ⟨he, rfl⟩, rfl⟩

theorem mem_callers : a ∈ g.callers b ↔ g.Invokes a b := by
  simp only [callers, List.mem_eraseDups, List.mem_map, mem_inEdges]
  constructor
  · rintro ⟨e, ⟨he, rfl⟩, rfl⟩
    exact ⟨e.site, he⟩
  · rintro ⟨site, he⟩
    exact ⟨_, ⟨he, rfl⟩, rfl⟩

/-- A path of calls that ends at a node goes through nodes only. -/
theorem reaches_of_invokes (hg : g.Indexed) (h : Relation.ReflTransGen g.Invokes a b)
    (hb : b ∈ g.ids) : Reach.Reaches g.callees g.ids a b := by
  induction h with
  | refl => exact .refl hb
  | tail _ hcall ih =>
      obtain ⟨site, he⟩ := hcall
      exact .step (ih (mem_ids.mpr (hg.caller _ he))) (mem_callees.mpr ⟨site, he⟩) hb

theorem invokes_of_reaches {within : List NodeId} (h : Reach.Reaches g.callees within a b) :
    Relation.ReflTransGen g.Invokes a b := by
  induction h with
  | refl _ => exact .refl
  | step _ hnext _ ih => exact ih.tail (mem_callees.mp hnext)

/-- The search finds the nodes that are reached. -/
theorem mem_reachable_iff (hg : g.Indexed) : id ∈ g.reachable ↔ id ∈ g.ids ∧ g.Reachable id := by
  rw [reachable, Reach.mem_explore_iff]
  constructor
  · rintro ⟨entry, hentry, hpath⟩
    exact ⟨hpath.end_mem, entry, hentry, invokes_of_reaches hpath⟩
  · rintro ⟨hid, entry, hentry, hpath⟩
    exact ⟨entry, hentry, reaches_of_invokes hg hpath hid⟩

end TaintFlow.CallGraph
