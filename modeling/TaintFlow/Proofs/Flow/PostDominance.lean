/-
Module: TaintFlow.Proofs.Flow.PostDominance
Purpose: The passes over a flow graph end with the immediate post-dominators. Revising a point only makes
  climbs shorter, and never leaves out a post-dominator. That a revised point rises follows from two facts
  about the points above: what all successors of a point climb to is also met from the point above it, and
  that point is itself met from the earlier successors, unless it lies where the current pass has been
  without coming to the point yet. When no point rises, what a point climbs to lies on every way out.
Main exports: Flow.PostDominators.Steady, Flow.PostDominators.Revision.steady_assign,
  Flow.PostDominators.Steady.pass, Flow.PostDominators.Steady.settle, Flow.PostDominators.Underway,
  Flow.PostDominators.Exact, Code.exact_postDominators, Code.immediate_postDominators_exact
-/
import Mathlib.Logic.Function.Iterate
import TaintFlow.Proofs.Flow.Climb

namespace TaintFlow

namespace Flow.PostDominators

variable {next : Nat → List Nat} {exit j : Nat} {rank : Nat → Nat} {order : List Nat}
  {d : PostDominators} {a b e m p s x : Nat}

/-! ### Assigning one point -/

theorem knows_assign (hm : m < d.nearest.size) :
    (d.assign m e).knows a = true ↔ a = m ∨ d.knows a = true := by
  rw [knows, immediate?_assign hm]
  by_cases h : a = m <;> simp [h, knows]

theorem immediate?_assign_cases (hm : m < d.nearest.size)
    (h : (d.assign m e).immediate? a = some p) :
    a = m ∧ p = e ∨ a ≠ m ∧ d.immediate? a = some p := by
  rw [immediate?_assign hm] at h
  split at h
  · next ham =>
      cases h
      exact Or.inl ⟨ham, rfl⟩
  · next ham => exact Or.inr ⟨ham, h⟩

namespace Ascending

/-- A climb stays if the assigned point is not met before its end. -/
theorem climbs_assign (h : Ascending exit rank order d) (hm : m < d.nearest.size) (hne : m ≠ exit)
    (hx : d.Climbs a x) (hlate : d.Climbs a m → rank m ≤ rank x) : (d.assign m e).Climbs a x := by
  induction hx using Relation.ReflTransGen.head_induction_on with
  | refl => exact .refl
  | @head a p hlink htail ih =>
      have ham : a ≠ m := by
        rintro rfl
        have hlt := h.lower hne hlink
        exact absurd (hlate .refl) (Nat.not_le_of_lt (Nat.lt_of_le_of_lt (h.le htail) hlt))
      refine .head ?_ (ih fun hp => hlate (.head hlink hp))
      rw [immediate?_assign hm, if_neg ham]
      exact hlink

/-- Climbs get no longer if the assigned point rises. -/
theorem climbs_of_assign (h : Ascending exit rank order d) (hm : m < d.nearest.size)
    (hrise : d.knows m = true → d.Climbs m e) (ha : d.knows a = true)
    (hx : (d.assign m e).Climbs a x) : d.Climbs a x := by
  induction hx using Relation.ReflTransGen.head_induction_on with
  | refl => exact .refl
  | @head a p hlink _ ih =>
      rcases immediate?_assign_cases hm hlink with ⟨rfl, rfl⟩ | ⟨_, hlink⟩
      · exact (hrise ha).trans (ih (h.knows_of_climbs ha (hrise ha)))
      · exact .head hlink (ih (h.known hlink))

theorem assign (h : Ascending exit rank order d) (hm : m < d.nearest.size) (hmem : m ∈ order)
    (hne : m ≠ exit) (he : d.knows e = true) (hlt : rank e < rank m) :
    Ascending exit rank order (d.assign m e) := by
  constructor
  case root =>
    rw [immediate?_assign hm, if_neg hne.symm]
    exact h.root
  case mem =>
    intro a p hlink
    rcases immediate?_assign_cases hm hlink with ⟨rfl, _⟩ | ⟨_, hlink⟩
    · exact hmem
    · exact h.mem hlink
  case known =>
    intro a p hlink
    refine (knows_assign hm).mpr (Or.inr ?_)
    rcases immediate?_assign_cases hm hlink with ⟨_, rfl⟩ | ⟨_, hlink⟩
    · exact he
    · exact h.known hlink
  case lower =>
    intro a p ha hlink
    rcases immediate?_assign_cases hm hlink with ⟨rfl, rfl⟩ | ⟨_, hlink⟩
    · exact hlt
    · exact h.lower ha hlink

end Ascending

theorem height_assign {top : Nat} (hm : m < d.nearest.size) :
    (d.assign m e).height rank top a = if a = m then rank e else d.height rank top a := by
  rw [height, immediate?_assign hm]
  by_cases ham : a = m <;> simp [ham, height]

theorem weight_le_of_height_le {d' : PostDominators} {top : Nat} {points : List Nat}
    (hle : ∀ a, d'.height rank top a ≤ d.height rank top a) :
    d'.weight rank top points ≤ d.weight rank top points := by
  induction points with
  | nil => exact Nat.le_refl _
  | cons a points ih => exact Nat.add_le_add (hle a) ih

/-- The weight of a table falls if a point rises. -/
theorem weight_assign_lt {top : Nat} {points : List Nat} (hm : m < d.nearest.size) (hmem : m ∈ points)
    (hlt : rank e < d.height rank top m) :
    (d.assign m e).weight rank top points < d.weight rank top points := by
  have hself : (d.assign m e).height rank top m < d.height rank top m := by
    rw [height_assign hm, if_pos rfl]
    exact hlt
  have hle : ∀ a, (d.assign m e).height rank top a ≤ d.height rank top a := by
    intro a
    by_cases ham : a = m
    · rw [ham]
      exact Nat.le_of_lt hself
    · exact Nat.le_of_eq ((height_assign hm).trans (if_neg ham))
  induction points with
  | nil => cases hmem
  | cons a points ih =>
      rcases List.mem_cons.mp hmem with rfl | hmem
      · exact Nat.add_lt_add_of_lt_of_le hself (weight_le_of_height_le hle)
      · exact Nat.add_lt_add_of_le_of_lt (hle a) (ih hmem)

/-! ### One revision -/

/-- What holds in a pass that comes to the point of rank `j`. -/
structure Steady (next : Nat → List Nat) (exit : Nat) (rank : Nat → Nat) (order : List Nat) (j : Nat)
    (d : PostDominators) : Prop extends Ascending exit rank order d where
  wide : ∀ a ∈ order, a < d.nearest.size
  /-- The points that the pass has been at are known. -/
  reached : ∀ a ∈ order, rank a < j → d.knows a = true
  /-- What comes before a known point is known. -/
  downward : ∀ {a b}, d.knows a = true → b ∈ order → rank b < rank a → d.knows b = true
  /-- No post-dominator is left out. -/
  safe : ∀ {a p x}, a ≠ exit → d.immediate? a = some p → x ≠ a → PostDominates next exit x a →
    PostDominates next exit x p
  /-- What all successors climb to is met from the point above. -/
  common : ∀ {a p x}, a ≠ exit → d.immediate? a = some p →
    (∀ s ∈ next a, d.knows s = true → d.Climbs s x) → d.Climbs p x
  /-- The point above is met from the earlier successors, unless the pass has been there but not at
      the point itself. -/
  fresh : ∀ {a p s}, a ≠ exit → d.immediate? a = some p → s ∈ next a → s ∈ order → rank s < rank a →
    (rank a < j ∨ j ≤ rank p) → d.Climbs s p

namespace Steady

/-- Climbs miss no post-dominator. -/
theorem climbs_of_postDominates (h : Steady next exit rank order j d) (ha : d.knows a = true)
    (hx : PostDominates next exit x a) : d.Climbs a x := by
  induction hn : rank a using Nat.strongRecOn generalizing a with
  | _ n ih =>
      by_cases hxa : x = a
      · rw [hxa]
        exact .refl
      · by_cases hexit : a = exit
        · rw [hexit] at hx hxa
          exact absurd hx.eq_exit hxa
        · obtain ⟨p, hp⟩ := knows_iff.mp ha
          have hlt : rank p < n := hn ▸ h.lower hexit hp
          exact .head hp (ih _ hlt (h.known hp) (h.safe hexit hp hxa hx) rfl)

/-- What post-dominates the start of a climb post-dominates its end, if the end does not come before
    it. -/
theorem postDominates_of_climbs (h : Steady next exit rank order j d) (he : d.Climbs a e)
    (hle : rank x ≤ rank e) (hx : PostDominates next exit x a) : PostDominates next exit x e := by
  induction he using Relation.ReflTransGen.head_induction_on with
  | refl => exact hx
  | @head a p hlink htail ih =>
      by_cases hexit : a = exit
      · rw [hexit, h.root] at hlink
        cases hlink
        rw [hexit] at hx
        exact ih hx
      · have hlt := h.lower hexit hlink
        have hxa : x ≠ a := by
          rintro rfl
          exact absurd hle (Nat.not_le_of_lt (Nat.lt_of_le_of_lt (h.le htail) hlt))
        exact ih (h.safe hexit hlink hxa hx)

end Steady

/-- A pass is at `m`, and the climbs from its known successors meet at `e`. -/
structure Revision (next : Nat → List Nat) (exit : Nat) (rank : Nat → Nat) (order : List Nat)
    (d : PostDominators) (m e : Nat) : Prop where
  ordered : Ordered next exit rank order
  steady : Steady next exit rank order (rank m) d
  mem : m ∈ order
  ne_exit : m ≠ exit
  meet : ∀ x, d.Climbs e x ↔ ∀ s ∈ next m, d.knows s = true → d.Climbs s x

/-- Revising the point that a pass is at assigns the meeting point. -/
theorem Steady.exists_revision (h : Steady next exit rank order (rank m) d)
    (ho : Ordered next exit rank order) (hm : m ∈ order) (hne : m ≠ exit) :
    ∃ e, Revision next exit rank order d m e ∧ revise rank next d m = d.assign m e := by
  obtain ⟨s, hs, hmem, hlt⟩ := ho.earlier m hm hne
  have hknown : s ∈ (next m).filter d.knows := List.mem_filter.mpr ⟨hs, h.reached s hmem hlt⟩
  cases hmeet : d.meetAll? rank ((next m).filter d.knows) with
  | none =>
      cases hsucc : (next m).filter d.knows with
      | nil =>
          rw [hsucc] at hknown
          cases hknown
      | cons s rest =>
          rw [hsucc] at hmeet
          cases hmeet
  | some e =>
      refine ⟨e, ⟨ho, h, hm, hne, fun x => ?_⟩, by simp [revise, hmeet]⟩
      rw [climbs_meetAll h.toAscending ho (fun s hs => (List.mem_filter.mp hs).2) hmeet]
      simp only [List.mem_filter, and_imp]

namespace Revision

theorem size (r : Revision next exit rank order d m e) : m < d.nearest.size :=
  r.steady.wide m r.mem

theorem climbs (r : Revision next exit rank order d m e) (hs : s ∈ next m) (hk : d.knows s = true) :
    d.Climbs s e :=
  (r.meet e).mp .refl s hs hk

/-- The meeting point is known, and it comes before the revised point. -/
theorem knows_and_lt (r : Revision next exit rank order d m e) :
    d.knows e = true ∧ rank e < rank m := by
  obtain ⟨s, hs, hmem, hlt⟩ := r.ordered.earlier m r.mem r.ne_exit
  have hk := r.steady.reached s hmem hlt
  have he := r.climbs hs hk
  exact ⟨r.steady.knows_of_climbs hk he, Nat.lt_of_le_of_lt (r.steady.le he) hlt⟩

/-- The meeting point is met from the point that was above before. -/
theorem rises (r : Revision next exit rank order d m e) (hp : d.immediate? m = some p) :
    d.Climbs p e :=
  r.steady.common r.ne_exit hp fun _ => r.climbs

theorem ascending (r : Revision next exit rank order d m e) :
    Ascending exit rank order (d.assign m e) :=
  r.steady.assign r.size r.mem r.ne_exit r.knows_and_lt.1 r.knows_and_lt.2

theorem climbs_assign (r : Revision next exit rank order d m e) (hx : d.Climbs a x)
    (hlate : d.Climbs a m → rank m ≤ rank x) : (d.assign m e).Climbs a x :=
  r.steady.toAscending.climbs_assign r.size r.ne_exit hx hlate

/-- Climbs from earlier points stay. -/
theorem climbs_assign_of_lt (r : Revision next exit rank order d m e) (hlt : rank a < rank m)
    (hx : d.Climbs a x) : (d.assign m e).Climbs a x :=
  r.climbs_assign hx fun hm => absurd (r.steady.le hm) (Nat.not_le_of_lt hlt)

theorem climbs_of_assign (r : Revision next exit rank order d m e) (ha : d.knows a = true)
    (hx : (d.assign m e).Climbs a x) : d.Climbs a x := by
  refine r.steady.toAscending.climbs_of_assign r.size ?_ ha hx
  intro hm
  obtain ⟨p, hp⟩ := knows_iff.mp hm
  exact .head hp (r.rises hp)

/-- What post-dominates the revised point post-dominates the meeting point: it is met from all known
    successors, hence from the meeting point, and so it does not come before it on their climbs. -/
theorem safe (r : Revision next exit rank order d m e) (hne : x ≠ m)
    (hx : PostDominates next exit x m) : PostDominates next exit x e := by
  obtain ⟨s, hs, hmem, hlt⟩ := r.ordered.earlier m r.mem r.ne_exit
  have hk := r.steady.reached s hmem hlt
  have hex : d.Climbs e x :=
    (r.meet x).mpr fun s hs hk => r.steady.climbs_of_postDominates hk (hx.along hne hs)
  exact r.steady.postDominates_of_climbs (r.climbs hs hk) (r.steady.le hex) (hx.along hne hs)

/-- What all successors of another point still climb to is still met from the point above it. -/
theorem common (r : Revision next exit rank order d m e) (hexit : a ≠ exit)
    (hp : d.immediate? a = some p)
    (hx : ∀ s ∈ next a, d.knows s = true → (d.assign m e).Climbs s x) :
    (d.assign m e).Climbs p x := by
  have hpx : d.Climbs p x :=
    r.steady.common hexit hp fun s hs hk => r.climbs_of_assign hk (hx s hs hk)
  by_cases hpm : d.Climbs p m
  · -- the climb from `p` may have lost `x`, but an earlier successor of `a` climbs to both
    obtain ⟨s, hs, hmem, hlt⟩ := r.ordered.earlier a (r.steady.mem hp) hexit
    have hk := r.steady.downward (knows_iff.mpr ⟨p, hp⟩) hmem hlt
    have hle := r.steady.le hpm
    have hsp := r.climbs_assign (r.steady.fresh hexit hp hs hmem hlt (Or.inr hle)) fun _ => hle
    exact r.ascending.climbs_of_le hsp (hx s hs hk) (r.steady.le hpx)
  · exact r.climbs_assign hpx fun hm => absurd hm hpm

/-- The point above another point is still met from its earlier successors. -/
theorem fresh (r : Revision next exit rank order d m e) (hexit : a ≠ exit) (ham : a ≠ m)
    (hp : d.immediate? a = some p) (hs : s ∈ next a) (hmem : s ∈ order) (hlt : rank s < rank a)
    (hpass : rank a < rank m + 1 ∨ rank m + 1 ≤ rank p) : (d.assign m e).Climbs s p := by
  rcases hpass with hbefore | hafter
  · have hbefore : rank a < rank m := by
      refine Nat.lt_of_le_of_ne (Nat.le_of_lt_succ hbefore) ?_
      exact fun heq => ham (r.ordered.rank_inj (r.steady.mem hp) r.mem heq)
    exact r.climbs_assign_of_lt (Nat.lt_trans hlt hbefore)
      (r.steady.fresh hexit hp hs hmem hlt (Or.inl hbefore))
  · have hle := Nat.le_of_succ_le hafter
    exact r.climbs_assign (r.steady.fresh hexit hp hs hmem hlt (Or.inr hle)) fun _ => hle

/-- The pass goes on to the next point. -/
theorem steady_assign (r : Revision next exit rank order d m e) :
    Steady next exit rank order (rank m + 1) (d.assign m e) := by
  have hearlier : ∀ a ∈ order, rank a < rank m → (d.assign m e).knows a = true :=
    fun a ha hlt => (knows_assign r.size).mpr (Or.inr (r.steady.reached a ha hlt))
  constructor
  case toAscending => exact r.ascending
  case wide =>
    intro a ha
    rw [size_assign]
    exact r.steady.wide a ha
  case reached =>
    intro a ha hlt
    by_cases ham : a = m
    · exact (knows_assign r.size).mpr (Or.inl ham)
    · refine hearlier a ha (r.ordered.rank_lt_of_ne ha r.mem ham ?_)
      exact Nat.not_lt.mpr (Nat.le_of_lt_succ hlt)
  case downward =>
    intro a b ha hb hlt
    rcases (knows_assign r.size).mp ha with rfl | ha
    · exact hearlier b hb hlt
    · exact (knows_assign r.size).mpr (Or.inr (r.steady.downward ha hb hlt))
  case safe =>
    intro a p x hexit hlink hne hx
    rcases immediate?_assign_cases r.size hlink with ⟨rfl, rfl⟩ | ⟨_, hp⟩
    · exact r.safe hne hx
    · exact r.steady.safe hexit hp hne hx
  case common =>
    intro a p x hexit hlink hx
    have hx' : ∀ s ∈ next a, d.knows s = true → (d.assign m e).Climbs s x :=
      fun s hs hk => hx s hs ((knows_assign r.size).mpr (Or.inr hk))
    rcases immediate?_assign_cases r.size hlink with ⟨rfl, rfl⟩ | ⟨_, hp⟩
    · refine r.climbs_assign_of_lt r.knows_and_lt.2 ((r.meet x).mpr ?_)
      exact fun s hs hk => r.climbs_of_assign hk (hx' s hs hk)
    · exact r.common hexit hp hx'
  case fresh =>
    intro a p s hexit hlink hs hmem hlt hpass
    rcases immediate?_assign_cases r.size hlink with ⟨rfl, rfl⟩ | ⟨ham, hp⟩
    · exact r.climbs_assign_of_lt hlt (r.climbs hs (r.steady.reached s hmem hlt))
    · exact r.fresh hexit ham hp hs hmem hlt hpass

/-- The revised point stays where it is, or it rises. -/
theorem eq_or_weight_lt (r : Revision next exit rank order d m e) :
    d.assign m e = d ∨
      (d.assign m e).weight rank order.length order.tail < d.weight rank order.length order.tail := by
  have hmem : m ∈ order.tail := r.ordered.mem_tail r.mem r.ne_exit
  cases hp : d.immediate? m with
  | none =>
      have hlt := r.ordered.rank_lt (r.steady.mem_of_knows r.knows_and_lt.1)
      exact Or.inr (weight_assign_lt r.size hmem (by simpa [height, hp] using hlt))
  | some p =>
      rcases r.steady.eq_or_lt (r.rises hp) with rfl | hlt
      · exact Or.inl (assign_eq_self hp)
      · exact Or.inr (weight_assign_lt r.size hmem (by simpa [height, hp] using hlt))

end Revision

/-! ### Passes -/

/-- No point rises any more. -/
def Settled (next : Nat → List Nat) (rank : Nat → Nat) (points : List Nat) (d : PostDominators) :
    Prop :=
  ∀ a ∈ points, revise rank next d a = d

theorem Settled.pass_eq {points : List Nat} (h : Settled next rank points d) :
    pass rank next points d = d := by
  induction points with
  | nil => rfl
  | cons a points ih =>
      rw [pass, List.foldl_cons, h a List.mem_cons_self]
      exact ih fun b hb => h b (List.mem_cons_of_mem a hb)

namespace Steady

/-- After a pass, one can be anywhere in the next one. -/
theorem restart (h : Steady next exit rank order order.length d)
    (ho : Ordered next exit rank order) (hj : j ≤ order.length) :
    Steady next exit rank order j d where
  toAscending := h.toAscending
  wide := h.wide
  reached := fun a ha hlt => h.reached a ha (Nat.lt_of_lt_of_le hlt hj)
  downward := h.downward
  safe := h.safe
  common := h.common
  fresh := fun hexit hp hs hmem hlt _ =>
    h.fresh hexit hp hs hmem hlt (Or.inl (ho.rank_lt (h.mem hp)))

/-- A pass revises one point and goes on to the next. The point stays where it is, or it rises. -/
theorem revise (ho : Ordered next exit rank order) {before rest : List Nat}
    (heq : order = before ++ m :: rest) (hpos : 0 < before.length)
    (h : Steady next exit rank order before.length d) :
    Steady next exit rank order (before ++ [m]).length (revise rank next d m) ∧
      (revise rank next d m = d ∨
        (revise rank next d m).weight rank order.length order.tail <
          d.weight rank order.length order.tail) := by
  have hrank := ho.rank_eq_length heq
  have hmem : m ∈ order := heq ▸ List.mem_append_right before List.mem_cons_self
  have hne : m ≠ exit := ho.ne_exit (b := exit) (by rwa [ho.rank_exit, hrank])
  obtain ⟨e, r, hrevise⟩ := (hrank ▸ h).exists_revision ho hmem hne
  rw [hrevise, List.length_append, List.length_singleton, ← hrank]
  exact ⟨r.steady_assign, r.eq_or_weight_lt⟩

/-- The rest of a pass keeps the invariant. If the weight does not fall, then no point has risen. -/
theorem pass (ho : Ordered next exit rank order) {before rest : List Nat}
    (heq : order = before ++ rest) (hpos : 0 < before.length)
    (h : Steady next exit rank order before.length d) :
    Steady next exit rank order order.length (pass rank next rest d) ∧
      ((pass rank next rest d).weight rank order.length order.tail <
          d.weight rank order.length order.tail ∨
        Settled next rank rest d) := by
  induction rest generalizing before d with
  | nil =>
      rw [List.append_nil] at heq
      subst heq
      exact ⟨h, Or.inr fun a ha => absurd ha List.not_mem_nil⟩
  | cons m rest ih =>
      obtain ⟨hnext, hstep⟩ := h.revise ho heq hpos
      obtain ⟨hsteady, hrest⟩ := ih (by simp [heq]) (by simp) hnext
      refine ⟨hsteady, ?_⟩
      change (PostDominators.pass rank next rest (PostDominators.revise rank next d m)).weight rank
        order.length order.tail < _ ∨ _
      rcases hstep with hsame | hless
      · rw [hsame] at hrest ⊢
        exact hrest.imp_right fun hsettled => List.forall_mem_cons.mpr ⟨hsame, hsettled⟩
      · rcases hrest with hless' | hsettled
        · exact Or.inl (Nat.lt_trans hless' hless)
        · rw [hsettled.pass_eq]
          exact Or.inl hless

/-- One pass from the exit on. -/
theorem next_pass (ho : Ordered next exit rank order) (h : Steady next exit rank order 1 d) :
    Steady next exit rank order order.length (PostDominators.pass rank next order.tail d) ∧
      ((PostDominators.pass rank next order.tail d).weight rank order.length order.tail <
          d.weight rank order.length order.tail ∨
        Settled next rank order.tail d) :=
  have hsplit : order = [exit] ++ order.tail := ho.eq_cons
  h.pass ho hsplit Nat.one_pos

/-- Passes go on as long as they change the table, and they end with a table in which no point rises. -/
theorem settle (ho : Ordered next exit rank order) (h : Steady next exit rank order 1 d) :
    ∃ k, (∀ i < k, (PostDominators.pass rank next order.tail)^[i + 1] d ≠
        (PostDominators.pass rank next order.tail)^[i] d) ∧
      settle rank next order.length order.tail d = (PostDominators.pass rank next order.tail)^[k] d ∧
      Steady next exit rank order order.length (settle rank next order.length order.tail d) ∧
      Settled next rank order.tail (settle rank next order.length order.tail d) := by
  fun_induction PostDominators.settle rank next order.length order.tail d with
  | case1 d revised hless ih =>
      have hpass := (h.next_pass ho).1
      obtain ⟨k, hchanges, heq, hsteady, hsettled⟩ :=
        ih (hpass.restart ho (List.length_pos_of_mem ho.exit_mem))
      refine ⟨k + 1, ?_, heq, hsteady, hsettled⟩
      intro i hi
      cases i with
      | zero =>
          intro hsame
          have hsame : revised = d := hsame
          rw [hsame] at hless
          exact Nat.lt_irrefl _ hless
      | succ i => exact hchanges i (Nat.lt_of_succ_lt_succ hi)
  | case2 d revised hless =>
      obtain ⟨hpass, hrest⟩ := h.next_pass ho
      have hsettled := hrest.resolve_left hless
      have hsame : revised = d := hsettled.pass_eq
      have hpass : Steady next exit rank order order.length revised := hpass
      rw [hsame] at hpass ⊢
      exact ⟨0, fun i hi => absurd hi (Nat.not_lt_zero i), rfl, hpass, hsettled⟩

end Steady

/-- A table that passes come to, with the points that the current pass has still to revise. -/
inductive Underway (next : Nat → List Nat) (exit : Nat) (rank : Nat → Nat) (points : List Nat) :
    List Nat → PostDominators → Prop where
  | start : Underway next exit rank points points (rooted exit)
  | revise {a : Nat} {rest : List Nat} {d : PostDominators} :
      Underway next exit rank points (a :: rest) d →
        Underway next exit rank points rest (revise rank next d a)
  | again {d : PostDominators} :
      Underway next exit rank points [] d → Underway next exit rank points points d

/-! ### Exactness -/

/-- A table that knows exactly the points that lead out and in which every climb meets exactly the
    post-dominators. -/
structure Exact (next : Nat → List Nat) (exit : Nat) (rank : Nat → Nat) (order : List Nat)
    (d : PostDominators) : Prop extends Ascending exit rank order d where
  leadsOut_iff : ∀ {a}, d.knows a = true ↔ LeadsOut next exit a
  climbs_iff : ∀ {a x}, LeadsOut next exit a → (d.Climbs a x ↔ PostDominates next exit x a)

namespace Steady

theorem knows_iff_mem (h : Steady next exit rank order order.length d)
    (ho : Ordered next exit rank order) : d.knows a = true ↔ a ∈ order :=
  ⟨h.mem_of_knows, fun ha => h.reached a ha (ho.rank_lt ha)⟩

/-- In a settled table, the point above is met from every successor that leads out. -/
theorem climbs_of_settled (h : Steady next exit rank order order.length d)
    (ho : Ordered next exit rank order) (hsettled : Settled next rank order.tail d) (ha : a ∈ order)
    (hexit : a ≠ exit) (hp : d.immediate? a = some p) (hs : s ∈ next a) (hmem : s ∈ order) :
    d.Climbs s p := by
  obtain ⟨e, r, hrevise⟩ :=
    (h.restart ho (Nat.le_of_lt (ho.rank_lt ha))).exists_revision ho ha hexit
  rw [hsettled a (ho.mem_tail ha hexit)] at hrevise
  have he : d.immediate? a = some e := by
    rw [hrevise, immediate?_assign r.size, if_pos rfl]
  rw [hp] at he
  cases he
  exact r.climbs hs ((h.knows_iff_mem ho).mpr hmem)

/-- In a settled table, what a point climbs to lies on every way out. -/
theorem mem_wayOut (h : Steady next exit rank order order.length d)
    (ho : Ordered next exit rank order) (hsettled : Settled next rank order.tail d) {ps : List Nat}
    (hps : WayOut next exit a ps) (hx : d.Climbs a x) : x ∈ ps := by
  induction hps with
  | exit => exact List.mem_singleton.mpr (h.climbs_exit hx)
  | @step a s ps hs hway ih =>
      rcases hx.cases_head with rfl | ⟨p, hp, hx⟩
      · exact List.mem_cons_self
      · by_cases hexit : a = exit
        · rw [hexit, h.root] at hp
          cases hp
          rw [hexit, h.climbs_exit hx]
          exact List.mem_cons_self
        · have hsp := h.climbs_of_settled ho hsettled (h.mem hp) hexit hp hs
            ((ho.mem_iff s).mpr ⟨ps, hway⟩)
          exact List.mem_cons_of_mem a (ih (hsp.trans hx))

theorem exact (h : Steady next exit rank order order.length d) (ho : Ordered next exit rank order)
    (hsettled : Settled next rank order.tail d) : Exact next exit rank order d where
  toAscending := h.toAscending
  leadsOut_iff := (h.knows_iff_mem ho).trans (ho.mem_iff _)
  climbs_iff := by
    intro a x ha
    constructor
    · intro hx ps hps
      exact h.mem_wayOut ho hsettled hps hx
    · exact h.climbs_of_postDominates ((h.knows_iff_mem ho).mpr ((ho.mem_iff a).mpr ha))

end Steady

/-! ### Whole runs -/

@[simp] theorem size_rooted : (rooted exit).nearest.size = exit + 1 := by
  simp [rooted]

theorem immediate?_rooted : (rooted exit).immediate? a = if a = exit then some exit else none := by
  rw [rooted, immediate?_assign (by simp)]
  refine if_congr Iff.rfl rfl ?_
  rw [immediate?, Array.getElem?_replicate]
  split <;> rfl

/-- Passes begin with the exit alone. -/
theorem steady_rooted (ho : Ordered next exit rank order) (hle : ∀ a ∈ order, a ≤ exit) :
    Steady next exit rank order 1 (rooted exit) := by
  have hroot : (rooted exit).immediate? exit = some exit := by simp [immediate?_rooted]
  have honly : ∀ {a p : Nat}, (rooted exit).immediate? a = some p → a = exit ∧ p = exit := by
    intro a p hp
    rw [immediate?_rooted] at hp
    split at hp
    · next ha => exact ⟨ha, (Option.some.inj hp).symm⟩
    · cases hp
  have hknown : (rooted exit).knows exit = true := knows_iff.mpr ⟨exit, hroot⟩
  constructor
  case toAscending =>
    constructor
    case root => exact hroot
    case mem => exact fun hp => (honly hp).1 ▸ ho.exit_mem
    case known => exact fun hp => (honly hp).2 ▸ hknown
    case lower => exact fun hne hp => absurd (honly hp).1 hne
  case wide =>
    intro a ha
    rw [size_rooted]
    exact Nat.lt_succ_of_le (hle a ha)
  case reached =>
    intro a ha hlt
    have hzero : rank a = rank exit := by rw [ho.rank_exit, Nat.lt_one_iff.mp hlt]
    rw [ho.rank_inj ha ho.exit_mem hzero]
    exact hknown
  case downward =>
    intro a b ha _ hlt
    obtain ⟨p, hp⟩ := knows_iff.mp ha
    exact absurd (honly hp).1 (ho.ne_exit hlt)
  case safe => exact fun hne hp => absurd (honly hp).1 hne
  case common => exact fun hne hp => absurd (honly hp).1 hne
  case fresh => exact fun hne hp => absurd (honly hp).1 hne

/-- The invariant holds of every table that passes come to. -/
theorem Underway.steady (ho : Ordered next exit rank order) (hle : ∀ a ∈ order, a ≤ exit)
    {rest : List Nat} (h : Underway next exit rank order.tail rest d) :
    ∃ before, order = before ++ rest ∧ 0 < before.length ∧
      Steady next exit rank order before.length d := by
  induction h with
  | start => exact ⟨[exit], ho.eq_cons, Nat.one_pos, steady_rooted ho hle⟩
  | revise _ ih =>
      obtain ⟨before, heq, hpos, hsteady⟩ := ih
      exact ⟨before ++ [_], by simp [heq], by simp, (hsteady.revise ho heq hpos).1⟩
  | again _ ih =>
      obtain ⟨before, heq, hpos, hsteady⟩ := ih
      rw [List.append_nil] at heq
      subst heq
      exact ⟨[exit], ho.eq_cons, Nat.one_pos, hsteady.restart ho hpos⟩

/-! ### Entries -/

theorem mem_immediate : (a, p) ∈ d.immediate ↔ d.immediate? a = some p := by
  simp only [immediate, List.mem_filterMap, List.mem_range, Option.map_eq_some_iff, Prod.mk.injEq]
  constructor
  · rintro ⟨b, _, q, hq, rfl, rfl⟩
    exact hq
  · intro hp
    refine ⟨a, ?_, p, hp, rfl, rfl⟩
    by_contra hge
    simp [immediate?, Array.getElem?_eq_none (Nat.le_of_not_lt hge)] at hp

/-- The points of the entries: each known point once, in ascending order. -/
theorem keys_immediate : d.immediate.map Prod.fst = (List.range d.nearest.size).filter d.knows := by
  rw [immediate, List.map_filterMap, ← List.filterMap_eq_filter]
  refine congrArg (fun f => List.filterMap f (List.range d.nearest.size)) (funext fun a => ?_)
  cases hp : d.immediate? a <;> simp [knows, Option.guard, hp]

/-- The point above another one is the nearest of its post-dominators. -/
theorem Exact.immediate (h : Exact next exit rank order d) (hp : d.immediate? a = some p)
    (hne : a ≠ exit) :
    p ≠ a ∧ PostDominates next exit p a ∧
      ∀ q, q ≠ a → PostDominates next exit q a → PostDominates next exit q p := by
  have ha : LeadsOut next exit a := h.leadsOut_iff.mp (knows_iff.mpr ⟨p, hp⟩)
  refine ⟨?_, (h.climbs_iff ha).mp (.single hp), ?_⟩
  · rintro rfl
    exact Nat.lt_irrefl _ (h.lower hne hp)
  · intro q hq hdom
    rcases ((h.climbs_iff ha).mpr hdom).cases_head with rfl | ⟨p', hp', hclimb⟩
    · exact absurd rfl hq
    · rw [hp] at hp'
      cases hp'
      exact (h.climbs_iff (h.leadsOut_iff.mp (h.known hp))).mp hclimb

end Flow.PostDominators

/-! ### Bodies -/

namespace Code

open TaintFlow.Flow TaintFlow.Flow.PostDominators

/-- The rank of a point of a body. -/
def rank (code : Code) : Nat → Nat := (places code.backwardOrder (code.exit + 1)).get

variable {code : Code} {a : Nat}

theorem ordered (code : Code) :
    Ordered code.successors code.exit code.rank code.backwardOrder := by
  refine ordered_backwardOrder fun a ha => ?_
  rw [rank, places, Table.get_tabulate (Nat.lt_succ_of_le ha)]

/-- The table after so many passes. -/
def tableAfter (code : Code) (k : Nat) : PostDominators :=
  (pass code.rank code.successors code.backwardOrder.tail)^[k] (rooted code.exit)

theorem le_of_mem_backwardOrder (h : a ∈ code.backwardOrder) : a ≤ code.exit :=
  le_of_leadsOut (mem_backwardOrder_iff.mp h)

theorem settle_postDominators (code : Code) :
    ∃ k, (∀ i < k, code.tableAfter (i + 1) ≠ code.tableAfter i) ∧
      code.postDominators = code.tableAfter k ∧
      Steady code.successors code.exit code.rank code.backwardOrder code.backwardOrder.length
        code.postDominators ∧
      Settled code.successors code.rank code.backwardOrder.tail code.postDominators :=
  (steady_rooted code.ordered fun _ => le_of_mem_backwardOrder).settle code.ordered

theorem exact_postDominators (code : Code) :
    Exact code.successors code.exit code.rank code.backwardOrder code.postDominators := by
  obtain ⟨_, _, _, hsteady, hsettled⟩ := code.settle_postDominators
  exact hsteady.exact code.ordered hsettled

/-- Post-dominators are exact. Climbs end in every table that passes come to, since links lead to known
    points of lower rank; and passes end, since there is a first one that changes nothing. The table then
    has one entry for each point from which the exit can be reached. The exit is its own immediate
    post-dominator. Any other point has one that lies on every way to the exit, and all others that do
    lie on every way from there. -/
theorem immediate_postDominators_exact (code : Code) :
    (∀ rest d, Underway code.successors code.exit code.rank code.backwardOrder.tail rest d →
      ∀ a p, d.immediate? a = some p → a ≠ code.exit → d.knows p = true ∧ code.rank p < code.rank a) ∧
    (∃ k, (∀ i < k, code.tableAfter (i + 1) ≠ code.tableAfter i) ∧
      code.tableAfter (k + 1) = code.tableAfter k ∧ code.postDominators = code.tableAfter k) ∧
    (code.postDominators.immediate.map Prod.fst).Nodup ∧
    (∀ a, a ∈ code.postDominators.immediate.map Prod.fst ↔
      a ≤ code.exit ∧ LeadsOut code.successors code.exit a) ∧
    (code.exit, code.exit) ∈ code.postDominators.immediate ∧
    ∀ a p, (a, p) ∈ code.postDominators.immediate → a ≠ code.exit →
      p ≠ a ∧ PostDominates code.successors code.exit p a ∧
        ∀ q, q ≠ a → PostDominates code.successors code.exit q a →
          PostDominates code.successors code.exit q p := by
  have hexact := code.exact_postDominators
  refine ⟨?_, ?_, ?_, ?_, mem_immediate.mpr hexact.root, ?_⟩
  · intro rest d hd a p hp hne
    obtain ⟨_, _, _, hsteady⟩ := hd.steady code.ordered fun _ => le_of_mem_backwardOrder
    exact ⟨hsteady.known hp, hsteady.lower hne hp⟩
  · obtain ⟨k, hchanges, heq, _, hsettled⟩ := code.settle_postDominators
    refine ⟨k, hchanges, ?_, heq⟩
    rw [heq] at hsettled
    rw [tableAfter, Function.iterate_succ_apply']
    exact hsettled.pass_eq
  · rw [keys_immediate]
    exact List.nodup_range.filter _
  · intro a
    simp only [List.mem_map, Prod.exists, mem_immediate, exists_and_right, exists_eq_right]
    rw [← knows_iff, hexact.leadsOut_iff, iff_and_self]
    exact le_of_leadsOut
  · intro a p hp hne
    exact hexact.immediate (mem_immediate.mp hp) hne

end Code

end TaintFlow
