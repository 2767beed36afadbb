/-
Module: TaintFlow.Proofs.Flow.Ways
Purpose: Ways from the points of a flow graph to its exit. One point post-dominates another if it lies on
  every such way. The points that lead to the exit can be ordered so that every one but the exit stands
  behind one of its successors, and the backward order of a body is such an order.
Main exports: Flow.WayOut, Flow.LeadsOut, Flow.PostDominates, Flow.Ordered, Code.ordered_backwardOrder
-/
import TaintFlow.Flow.PostDominance
import TaintFlow.Proofs.ReversePostorder

namespace TaintFlow

namespace Flow

/-- The points `ps` lead from `a` to the exit, step by step, both ends included. -/
inductive WayOut (next : Nat → List Nat) (exit : Nat) : Nat → List Nat → Prop where
  | exit : WayOut next exit exit [exit]
  | step {a b : Nat} {ps : List Nat} :
      b ∈ next a → WayOut next exit b ps → WayOut next exit a (a :: ps)

/-- The exit can be reached. -/
def LeadsOut (next : Nat → List Nat) (exit a : Nat) : Prop := ∃ ps, WayOut next exit a ps

/-- Every way from `a` to the exit leads through `p`. -/
def PostDominates (next : Nat → List Nat) (exit p a : Nat) : Prop :=
  ∀ ps, WayOut next exit a ps → p ∈ ps

section

variable {next : Nat → List Nat} {exit a b p q : Nat} {ps : List Nat}

/-- A way out goes on from each of its points. -/
theorem WayOut.from_mem (h : WayOut next exit a ps) (hp : p ∈ ps) :
    ∃ qs, WayOut next exit p qs ∧ ∀ q ∈ qs, q ∈ ps := by
  induction h with
  | exit =>
      rw [List.mem_singleton.mp hp]
      exact ⟨[exit], .exit, fun _ hq => hq⟩
  | step hb hway ih =>
      rcases List.mem_cons.mp hp with rfl | hp
      · exact ⟨_, .step hb hway, fun _ hq => hq⟩
      · obtain ⟨qs, hqs, hsub⟩ := ih hp
        exact ⟨qs, hqs, fun q hq => List.mem_cons_of_mem _ (hsub q hq)⟩

theorem LeadsOut.of_step (hb : b ∈ next a) (h : LeadsOut next exit b) : LeadsOut next exit a := by
  obtain ⟨ps, hps⟩ := h
  exact ⟨a :: ps, .step hb hps⟩

namespace PostDominates

theorem trans (h : PostDominates next exit q p) (h' : PostDominates next exit p a) :
    PostDominates next exit q a := by
  intro ps hps
  obtain ⟨qs, hqs, hsub⟩ := hps.from_mem (h' ps hps)
  exact hsub q (h qs hqs)

/-- Another point that post-dominates `a` post-dominates all its successors. -/
theorem along (h : PostDominates next exit p a) (hne : p ≠ a) (hb : b ∈ next a) :
    PostDominates next exit p b := by
  intro ps hps
  exact (List.mem_cons.mp (h _ (.step hb hps))).resolve_left hne

/-- Nothing but the exit post-dominates the exit. -/
theorem eq_exit (h : PostDominates next exit p exit) : p = exit :=
  List.mem_singleton.mp (h [exit] .exit)

end PostDominates

end

/-! ### Orders -/

/-- An order of the points that lead out, with the place of each, in which every point but the exit
    stands behind one of its successors. -/
structure Ordered (next : Nat → List Nat) (exit : Nat) (rank : Nat → Nat) (order : List Nat) : Prop where
  first : order.head? = some exit
  nodup : order.Nodup
  mem_iff : ∀ a, a ∈ order ↔ LeadsOut next exit a
  place : ∀ a ∈ order, rank a = order.idxOf a
  earlier : ∀ a ∈ order, a ≠ exit → ∃ s ∈ next a, s ∈ order ∧ rank s < rank a

namespace Ordered

variable {next : Nat → List Nat} {exit a b : Nat} {rank : Nat → Nat} {order : List Nat}

theorem eq_cons (h : Ordered next exit rank order) : order = exit :: order.tail := by
  have hfirst := h.first
  cases order with
  | nil => cases hfirst
  | cons x rest =>
      cases hfirst
      rfl

theorem exit_mem (h : Ordered next exit rank order) : exit ∈ order := List.mem_of_mem_head? h.first

theorem mem_tail (h : Ordered next exit rank order) (ha : a ∈ order) (hne : a ≠ exit) :
    a ∈ order.tail := by
  rw [h.eq_cons] at ha
  exact (List.mem_cons.mp ha).resolve_left hne

theorem rank_exit (h : Ordered next exit rank order) : rank exit = 0 := by
  rw [h.place exit h.exit_mem, h.eq_cons, List.idxOf_cons_self]

theorem rank_lt (h : Ordered next exit rank order) (ha : a ∈ order) : rank a < order.length := by
  rw [h.place a ha]
  exact List.idxOf_lt_length_of_mem ha

/-- A rank belongs to one point. -/
theorem rank_inj (h : Ordered next exit rank order) (ha : a ∈ order) (hb : b ∈ order)
    (heq : rank a = rank b) : a = b := by
  rw [h.place a ha, h.place b hb] at heq
  exact (List.idxOf_inj ha).mp heq

theorem rank_lt_of_ne (h : Ordered next exit rank order) (ha : a ∈ order) (hb : b ∈ order)
    (hne : a ≠ b) (hnlt : ¬ rank b < rank a) : rank a < rank b :=
  Nat.lt_of_le_of_ne (Nat.le_of_not_lt hnlt) fun heq => hne (h.rank_inj ha hb heq)

/-- Nothing comes before the exit. -/
theorem ne_exit (h : Ordered next exit rank order) (hlt : rank b < rank a) : a ≠ exit := by
  rintro rfl
  rw [h.rank_exit] at hlt
  exact Nat.not_lt_zero _ hlt

/-- The rank of a point is the number of points before it. -/
theorem rank_eq_length (h : Ordered next exit rank order) {before rest : List Nat}
    (heq : order = before ++ a :: rest) : rank a = before.length := by
  have hmem : a ∈ order := heq ▸ List.mem_append_right before List.mem_cons_self
  have hnew : a ∉ before := by
    have hnodup := h.nodup
    rw [heq] at hnodup
    exact fun ha => (List.nodup_append.mp hnodup).2.2 a ha a List.mem_cons_self rfl
  rw [h.place a hmem, heq, List.idxOf_append_of_notMem hnew, List.idxOf_cons_self, Nat.add_zero]

end Ordered

end Flow

/-! ### Bodies -/

namespace Code

variable {code : Code} {a b : Nat}

theorem mem_points : a ∈ code.points ↔ a ≤ code.exit := by
  rw [points, List.mem_range, Nat.lt_succ_iff]

theorem exit_mem_points : code.exit ∈ code.points := mem_points.mpr (Nat.le_refl _)

/-- Only instructions have successors. -/
theorem lt_of_mem_successors (h : b ∈ code.successors a) : a < code.exit := by
  unfold successors at h
  split at h
  · next inst hinst => exact (Array.getElem?_eq_some_iff.mp hinst).1
  · cases h

theorem mem_predecessorTable (hb : b ≤ code.exit) :
    a ∈ code.predecessorTable.get b ↔ b ∈ code.successors a := by
  rw [predecessorTable, Flow.Table.get_tabulate (Nat.lt_succ_of_le hb)]
  simp only [predecessors, List.mem_filter, mem_points, List.contains_iff_mem, and_iff_right_iff_imp]
  intro h
  exact Nat.le_of_lt (lt_of_mem_successors h)

/-- Walking back from the exit reaches exactly the points that lead there. -/
theorem reaches_back_iff :
    Reach.Reaches code.predecessorTable.get code.points code.exit a ↔
      Flow.LeadsOut code.successors code.exit a := by
  constructor
  · intro h
    induction h with
    | refl _ => exact ⟨_, .exit⟩
    | step hpath hback _ ih =>
        have hle := mem_points.mp hpath.end_mem
        exact ih.of_step ((mem_predecessorTable hle).mp hback)
  · rintro ⟨ps, hps⟩
    induction hps with
    | exit => exact .refl exit_mem_points
    | step hb _ ih =>
        have hle := mem_points.mp ih.end_mem
        have hlt := lt_of_mem_successors hb
        exact .step ih ((mem_predecessorTable hle).mpr hb) (mem_points.mpr (Nat.le_of_lt hlt))

theorem mem_backwardOrder_iff :
    a ∈ code.backwardOrder ↔ Flow.LeadsOut code.successors code.exit a :=
  (Reach.mem_reversePostorder_iff exit_mem_points).trans reaches_back_iff

theorem le_of_leadsOut (h : Flow.LeadsOut code.successors code.exit a) : a ≤ code.exit :=
  mem_points.mp (reaches_back_iff.mpr h).end_mem

theorem ordered_backwardOrder {rank : Nat → Nat}
    (hrank : ∀ a ≤ code.exit, rank a = code.backwardOrder.idxOf a) :
    Flow.Ordered code.successors code.exit rank code.backwardOrder := by
  have hplace : ∀ a ∈ code.backwardOrder, rank a = code.backwardOrder.idxOf a :=
    fun a ha => hrank a (le_of_leadsOut (mem_backwardOrder_iff.mp ha))
  constructor
  case first => exact Reach.head?_reversePostorder exit_mem_points
  case nodup => exact Reach.nodup_reversePostorder exit_mem_points
  case mem_iff => exact fun _ => mem_backwardOrder_iff
  case place => exact hplace
  case earlier =>
    intro a ha hne
    obtain ⟨s, hs, hback, hlt⟩ := Reach.exists_earlier exit_mem_points ha hne
    have hle := le_of_leadsOut (mem_backwardOrder_iff.mp hs)
    refine ⟨s, (mem_predecessorTable hle).mp hback, hs, ?_⟩
    rw [hplace s hs, hplace a ha]
    exact hlt

end Code

end TaintFlow
