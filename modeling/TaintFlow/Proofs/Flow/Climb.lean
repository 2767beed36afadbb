/-
Module: TaintFlow.Proofs.Flow.Climb
Purpose: Climbs along the links of a table of post-dominators. In an ascending table every link but that
  of the exit leads to an earlier point, so climbs end, two climbs from one point are one the start of
  the other, and from the point where climbs from several points meet one climbs to exactly what they all
  lead to.
Main exports: Flow.PostDominators.Climbs, Flow.PostDominators.Ascending,
  Flow.PostDominators.climbs_meetAll
-/
import Mathlib.Logic.Relation
import TaintFlow.Proofs.Flow.Ways

namespace TaintFlow.Flow.PostDominators

variable {next : Nat → List Nat} {exit : Nat} {rank : Nat → Nat} {order : List Nat} {d : PostDominators}
  {a b c m p x y : Nat}

theorem knows_iff : d.knows a = true ↔ ∃ p, d.immediate? a = some p := Option.isSome_iff_exists

@[simp] theorem size_assign : (d.assign a p).nearest.size = d.nearest.size := by
  simp [assign]

theorem immediate?_assign (hm : m < d.nearest.size) :
    (d.assign m p).immediate? a = if a = m then some p else d.immediate? a := by
  by_cases h : a = m
  · simp [assign, immediate?, h, hm]
  · simp [assign, immediate?, h, Ne.symm h]

/-- Nothing changes when a point is assigned what it has. -/
theorem assign_eq_self (h : d.immediate? a = some p) : d.assign a p = d := by
  cases hentry : d.nearest[a]? with
  | none => simp [immediate?, hentry] at h
  | some entry =>
      obtain rfl : entry = some p := by simpa [immediate?, hentry] using h
      obtain ⟨hlt, hget⟩ := Array.getElem?_eq_some_iff.mp hentry
      have hsame : d.nearest.setIfInBounds a (some p) = d.nearest := by
        rw [← hget]
        simp [Array.setIfInBounds, hlt]
      rw [assign, hsame]

/-! ### Climbs -/

/-- `x` is met on the climb from `a`. -/
def Climbs (d : PostDominators) : Nat → Nat → Prop :=
  Relation.ReflTransGen fun a p => d.immediate? a = some p

/-- Two climbs from one point: one goes on where the other ends. -/
theorem Climbs.total (hx : d.Climbs a x) (hy : d.Climbs a y) : d.Climbs x y ∨ d.Climbs y x := by
  refine Relation.ReflTransGen.total_of_right_unique ?_ hx hy
  intro a p q hp hq
  exact Option.some.inj (hp.symm.trans hq)

/-- The known points are in order, the exit is its own immediate post-dominator, and that of any other
    known point is known, too, and comes earlier. -/
structure Ascending (exit : Nat) (rank : Nat → Nat) (order : List Nat) (d : PostDominators) : Prop where
  root : d.immediate? exit = some exit
  mem : ∀ {a p}, d.immediate? a = some p → a ∈ order
  known : ∀ {a p}, d.immediate? a = some p → d.knows p = true
  lower : ∀ {a p}, a ≠ exit → d.immediate? a = some p → rank p < rank a

namespace Ascending

theorem mem_of_knows (h : Ascending exit rank order d) (ha : d.knows a = true) : a ∈ order := by
  obtain ⟨p, hp⟩ := knows_iff.mp ha
  exact h.mem hp

theorem climbs_exit (h : Ascending exit rank order d) (hx : d.Climbs exit x) : x = exit := by
  induction hx with
  | refl => rfl
  | tail _ hlink ih =>
      rw [ih, h.root] at hlink
      exact (Option.some.inj hlink).symm

/-- A climb stays where it is or leads to an earlier point. -/
theorem eq_or_lt (h : Ascending exit rank order d) (hx : d.Climbs a x) :
    a = x ∨ rank x < rank a := by
  induction hx using Relation.ReflTransGen.head_induction_on with
  | refl => exact Or.inl rfl
  | @head a p hlink htail ih =>
      by_cases hexit : a = exit
      · rw [hexit] at hlink ⊢
        rw [h.root] at hlink
        cases hlink
        exact Or.inl (h.climbs_exit htail).symm
      · have hlt := h.lower hexit hlink
        rcases ih with rfl | ih
        · exact Or.inr hlt
        · exact Or.inr (Nat.lt_trans ih hlt)

theorem le (h : Ascending exit rank order d) (hx : d.Climbs a x) : rank x ≤ rank a := by
  rcases h.eq_or_lt hx with rfl | hlt
  · exact Nat.le_refl _
  · exact Nat.le_of_lt hlt

theorem knows_of_climbs (h : Ascending exit rank order d) (ha : d.knows a = true) (hx : d.Climbs a x) :
    d.knows x = true := by
  induction hx with
  | refl => exact ha
  | tail _ hlink _ => exact h.known hlink

/-- Of two points on a climb, the earlier in order is met from the other. -/
theorem climbs_of_le (h : Ascending exit rank order d) (hx : d.Climbs a x) (hy : d.Climbs a y)
    (hle : rank y ≤ rank x) : d.Climbs x y := by
  rcases hx.total hy with hxy | hyx
  · exact hxy
  · rcases h.eq_or_lt hyx with rfl | hlt
    · exact .refl
    · exact absurd hle (Nat.not_le_of_lt hlt)

theorem antisymm (h : Ascending exit rank order d) (hx : d.Climbs a x) (ha : d.Climbs x a) : a = x := by
  rcases h.eq_or_lt hx with heq | hlt
  · exact heq
  · exact absurd (h.le ha) (Nat.not_le_of_lt hlt)

end Ascending

/-! ### Meeting points -/

theorem above?_eq_some {q : { q : Nat // rank q < rank a }}
    (h : d.above? rank a = some q) : d.immediate? a = some q.1 := by
  unfold above? at h
  split at h
  · next p hp =>
      split at h
      · cases h
        exact hp
      · cases h
  · cases h

/-- From a known point that is not the exit one can go up. -/
theorem above?_ne_none (h : Ascending exit rank order d) (ha : d.knows a = true) (hne : a ≠ exit) :
    d.above? rank a ≠ none := by
  obtain ⟨p, hp⟩ := knows_iff.mp ha
  have hlt := h.lower hne hp
  simp [above?, hp, hlt]

/-- What is met from an earlier point is met from `a` exactly if it is met from the point above `a`. -/
theorem Ascending.climbs_up_iff (h : Ascending exit rank order d) (hp : d.immediate? a = some p)
    (hlt : rank b < rank a) (hb : d.Climbs b x) : d.Climbs a x ↔ d.Climbs p x := by
  refine ⟨?_, fun hx => .head hp hx⟩
  intro hx
  rcases hx.cases_head with rfl | ⟨q, hq, hx⟩
  · exact absurd (h.le hb) (Nat.not_le_of_lt hlt)
  · rw [hp] at hq
    cases hq
    exact hx

/-- From the point where two climbs meet, a climb meets what both of them meet. -/
theorem climbs_meet (h : Ascending exit rank order d) (ho : Ordered next exit rank order)
    (ha : d.knows a = true) (hb : d.knows b = true) :
    d.Climbs (d.meet rank a b) x ↔ d.Climbs a x ∧ d.Climbs b x := by
  fun_induction meet rank d a b with
  | case1 a => exact and_self_iff.symm
  | case2 a b hne hlt p hp ih =>
      have hlink := above?_eq_some hp
      refine (ih (h.known hlink) hb).trans ?_
      exact and_congr_left fun hx => (h.climbs_up_iff hlink hlt hx).symm
  | case3 a b hne hlt hnone => exact absurd hnone (above?_ne_none h ha (ho.ne_exit hlt))
  | case4 a b hne hnlt p hp ih =>
      have hlink := above?_eq_some hp
      have hlt := ho.rank_lt_of_ne (h.mem_of_knows ha) (h.mem_of_knows hb) hne hnlt
      refine (ih ha (h.known hlink)).trans ?_
      exact and_congr_right fun hx => (h.climbs_up_iff hlink hlt hx).symm
  | case5 a b hne hnlt hnone =>
      have hlt := ho.rank_lt_of_ne (h.mem_of_knows ha) (h.mem_of_knows hb) hne hnlt
      exact absurd hnone (above?_ne_none h hb (ho.ne_exit hlt))

/-- The same for any number of climbs. -/
theorem climbs_meetAll {as : List Nat} (h : Ascending exit rank order d) (ho : Ordered next exit rank order)
    (has : ∀ a ∈ as, d.knows a = true) (hc : d.meetAll? rank as = some c) :
    d.Climbs c x ↔ ∀ a ∈ as, d.Climbs a x := by
  cases as with
  | nil => cases hc
  | cons a as =>
      cases hc
      rw [List.forall_mem_cons] at has ⊢
      obtain ⟨ha, has⟩ := has
      induction as generalizing a with
      | nil => simp
      | cons b as ih =>
          rw [List.forall_mem_cons] at has ⊢
          obtain ⟨hb, has⟩ := has
          have hmeet := fun x => climbs_meet (x := x) h ho ha hb
          have hknown := h.knows_of_climbs ha ((hmeet _).mp .refl).1
          rw [List.foldl_cons, ih _ hknown has, hmeet, and_assoc]

end TaintFlow.Flow.PostDominators
