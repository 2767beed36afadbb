/-
Module: TaintFlow.Proofs.Search
Purpose: Breadth-first search visits exactly what can be reached. A visited node leaves the list of nodes
  that may be visited, so the induction compares paths through a list with paths through the list
  without one of its members: such a path avoids the member, or can be cut after its last visit there.
Main exports: Reach.Reaches, Reach.mem_explore_iff
-/
import TaintFlow.Reach

namespace TaintFlow.Reach

variable {α : Type} {next : α → List α} {within wider : List α} {x y z : α}

namespace Reaches

/-- A path starts inside. -/
theorem start_mem (h : Reaches next within x y) : x ∈ within := by
  induction h with
  | refl hx => exact hx
  | step _ _ _ ih => exact ih

/-- A path ends inside. -/
theorem end_mem (h : Reaches next within x y) : y ∈ within := by
  cases h with
  | refl hx => exact hx
  | step _ _ hz => exact hz

/-- A path stays one when more nodes are allowed. -/
theorem mono (hsub : ∀ a ∈ within, a ∈ wider) (h : Reaches next within x y) :
    Reaches next wider x y := by
  induction h with
  | refl hx => exact .refl (hsub _ hx)
  | step _ hnext hz ih => exact .step ih hnext (hsub _ hz)

/-- A step can also be put in front of a path. -/
theorem head (hx : x ∈ within) (hy : y ∈ next x) (h : Reaches next within y z) :
    Reaches next within x z := by
  induction h with
  | refl hy' => exact .step (.refl hx) hy hy'
  | step _ hnext hz ih => exact .step ih hnext hz

/-- Where steps can be taken back, so can a path. -/
theorem reverse {back : α → List α} (hback : ∀ a ∈ within, ∀ b ∈ next a, a ∈ back b)
    (h : Reaches next within x y) : Reaches back within y x := by
  induction h with
  | refl hx => exact .refl hx
  | step hpath hnext hz ih => exact .head hz (hback _ hpath.end_mem _ hnext) ih

/-- A path that ends elsewhere avoids `x`, or it can be cut to one that starts next to `x` and avoids
    it. -/
theorem avoid [DecidableEq α] (h : Reaches next within y z) (hne : z ≠ x) :
    Reaches next (without x within) y z ∨ ∃ w ∈ next x, Reaches next (without x within) w z := by
  induction h with
  | refl hy => exact Or.inl (.refl (mem_without.mpr ⟨hy, hne⟩))
  | @step u v _ hnext hv ih =>
      have hv' : v ∈ without x within := mem_without.mpr ⟨hv, hne⟩
      by_cases hu : u = x
      · -- the last visit of `x` is just before the end: the cut path has length zero.
        subst hu
        exact Or.inr ⟨v, hnext, .refl hv'⟩
      · rcases ih hu with hpath | ⟨w, hw, hpath⟩
        · exact Or.inl (.step hpath hnext hv')
        · exact Or.inr ⟨w, hw, .step hpath hnext hv'⟩

end Reaches

variable [DecidableEq α]

/-- To visit a node first and to avoid it from then on loses no path. -/
theorem exists_reaches_cons {todo : List α} (hx : x ∈ within) :
    (∃ w ∈ x :: todo, Reaches next within w y) ↔
      y = x ∨ ∃ w ∈ todo ++ next x, Reaches next (without x within) w y := by
  constructor
  · rintro ⟨w, hw, hpath⟩
    by_cases hy : y = x
    · exact Or.inl hy
    · refine Or.inr ?_
      rcases hpath.avoid hy with havoid | ⟨v, hv, havoid⟩
      · rcases List.mem_cons.mp hw with rfl | hw
        · exact absurd rfl (mem_without.mp havoid.start_mem).2
        · exact ⟨w, List.mem_append_left _ hw, havoid⟩
      · exact ⟨v, List.mem_append_right _ hv, havoid⟩
  · rintro (rfl | ⟨w, hw, hpath⟩)
    · exact ⟨y, List.mem_cons_self, .refl hx⟩
    · have hpath' : Reaches next within w y := hpath.mono fun b hb => (mem_without.mp hb).1
      rcases List.mem_append.mp hw with hw | hw
      · exact ⟨w, List.mem_cons_of_mem x hw, hpath'⟩
      · exact ⟨x, List.mem_cons_self, .head hx hw hpath'⟩

omit [DecidableEq α] in
/-- No path starts outside. -/
theorem exists_reaches_skip {todo : List α} (hx : x ∉ within) :
    (∃ w ∈ x :: todo, Reaches next within w y) ↔ ∃ w ∈ todo, Reaches next within w y := by
  constructor
  · rintro ⟨w, hw, hpath⟩
    rcases List.mem_cons.mp hw with rfl | hw
    · exact absurd hpath.start_mem hx
    · exact ⟨w, hw, hpath⟩
  · rintro ⟨w, hw, hpath⟩
    exact ⟨w, List.mem_cons_of_mem x hw, hpath⟩

/-- The search visits exactly the nodes that a path from its starts leads to. -/
theorem mem_explore_iff {remaining todo : List α} :
    y ∈ explore next remaining todo ↔ ∃ x ∈ todo, Reaches next remaining x y := by
  fun_induction explore next remaining todo with
  | case1 => simp
  | case2 remaining x todo hx ih => rw [List.mem_cons, ih, exists_reaches_cons hx]
  | case3 remaining x todo hx ih => rw [ih, exists_reaches_skip hx]

/-- What a search visits is closed under steps inside its domain. -/
theorem next_mem_explore {remaining todo : List α} (hx : x ∈ explore next remaining todo)
    (hy : y ∈ next x) (hin : y ∈ remaining) : y ∈ explore next remaining todo := by
  obtain ⟨w, hw, hpath⟩ := mem_explore_iff.mp hx
  exact mem_explore_iff.mpr ⟨w, hw, .step hpath hy hin⟩

end TaintFlow.Reach
