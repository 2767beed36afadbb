/-
Module: TaintFlow.Proofs.Flow.ControlDependence
Purpose: What a branch decides about. The search with marks visits exactly what can be reached through
  marked points. Along the links of an ascending table it visits the part of a climb that stays within
  the marks. So a branch controls an instruction that leads out exactly if the instruction post-dominates
  a successor of the branch and is not another post-dominator of the branch itself.
Main exports: Flow.Marks.has_reached_iff, Flow.PostDominators.Ascending.reaches_up_iff, Code.Controls,
  Code.controlDependence_exact
-/
import TaintFlow.Flow.ControlDependence
import TaintFlow.Proofs.Flow.PostDominance

namespace TaintFlow

/-! ### Searching with marks -/

namespace Flow.Marks

variable {next : Nat → List Nat} {m : Marks} {i x y : Nat} {start : List Nat}

/-- The marked points. -/
def points (m : Marks) : List Nat := (List.range m.bits.size).filter m.has

theorem mem_points : x ∈ m.points ↔ m.has x = true := by
  rw [points, List.mem_filter, List.mem_range, and_iff_right_iff_imp]
  intro h
  by_contra hge
  simp [has, Array.getElem?_eq_none (Nat.le_of_not_lt hge)] at h

theorem has_foldl_erase {xs : List Nat} :
    (xs.foldl erase m).has y = true ↔ m.has y = true ∧ y ∉ xs := by
  induction xs generalizing m with
  | nil => simp
  | cons x xs ih =>
      rw [List.foldl_cons, ih, has_erase, Bool.and_eq_true, decide_eq_true_iff, and_assoc,
        List.mem_cons, not_or, ne_comm]

theorem mem_points_erase : y ∈ (m.erase x).points ↔ y ∈ Reach.without x m.points := by
  rw [mem_points, has_erase, Bool.and_eq_true, decide_eq_true_iff, Reach.mem_without, mem_points,
    ne_comm]

/-- A search takes the marks off what it visits. -/
theorem has_sweep : (m.sweep next start).has y = true ↔
    m.has y = true ∧ ¬ ∃ x ∈ start, Reach.Reaches next m.points x y := by
  fun_induction sweep next m start with
  | case1 m => simp
  | case2 m x todo hx ih =>
      have hpaths : (∃ w ∈ next x ++ todo, Reach.Reaches next (m.erase x).points w y) ↔
          ∃ w ∈ todo ++ next x, Reach.Reaches next (Reach.without x m.points) w y := by
        refine exists_congr fun w => and_congr (by simp [or_comm]) ⟨?_, ?_⟩
        · exact Reach.Reaches.mono fun _ => mem_points_erase.mp
        · exact Reach.Reaches.mono fun _ => mem_points_erase.mpr
      rw [ih, hpaths, Reach.exists_reaches_cons (mem_points.mpr hx), not_or, has_erase,
        Bool.and_eq_true, decide_eq_true_iff, and_assoc, ne_comm]
  | case3 m x todo hx ih =>
      rw [ih, Reach.exists_reaches_skip (fun h => hx (mem_points.mp h))]

/-- The search reaches exactly what a path through marked points leads to. -/
theorem has_reached_iff : (m.reached next start).has y = true ↔
    ∃ x ∈ start, Reach.Reaches next m.points x y := by
  have hhas : (m.reached next start).has y = (m.has y && !(m.sweep next start).has y) := by
    simp only [reached, has, Array.getElem?_mapIdx]
    cases m.bits[y]? <;> simp
  rw [hhas, Bool.and_eq_true, Bool.not_eq_true', ← Bool.not_eq_true, has_sweep, not_and, not_not]
  constructor
  · rintro ⟨hy, hpath⟩
    exact hpath hy
  · rintro ⟨x, hx, hpath⟩
    exact ⟨mem_points.mp hpath.end_mem, fun _ => ⟨x, hx, hpath⟩⟩

end Flow.Marks

/-! ### Parts of climbs -/

namespace Flow.PostDominators

variable {exit : Nat} {rank : Nat → Nat} {order : List Nat} {d : PostDominators} {a b c p : Nat}

@[simp] theorem mem_up : p ∈ d.up a ↔ d.immediate? a = some p := Option.mem_toList

/-- Links lead from `c` to `b` within a list of points exactly if the climb from `c` meets `b` and all
    that lies between them is in the list. -/
theorem Ascending.reaches_up_iff (h : Ascending exit rank order d) {within : List Nat} :
    Reach.Reaches d.up within c b ↔
      d.Climbs c b ∧ ∀ x, d.Climbs c x → d.Climbs x b → x ∈ within := by
  constructor
  · intro hpath
    induction hpath with
    | refl hc => exact ⟨.refl, fun x hcx hxc => h.antisymm hcx hxc ▸ hc⟩
    | @step y z _ hlink hz ih =>
        have hlink := mem_up.mp hlink
        refine ⟨ih.1.tail hlink, ?_⟩
        intro x hcx hxz
        rcases ih.1.total hcx with hyx | hxy
        · rcases hyx.cases_head with rfl | ⟨w, hw, hwx⟩
          · exact ih.2 _ hcx .refl
          · rw [hlink] at hw
            cases hw
            exact h.antisymm hwx hxz ▸ hz
        · exact ih.2 x hcx hxy
  · rintro ⟨hclimb, hbetween⟩
    induction hclimb with
    | refl => exact .refl (hbetween c .refl .refl)
    | tail hcy hlink ih =>
        have hpath := ih fun x hcx hxy => hbetween x hcx (hxy.tail hlink)
        exact .step hpath (mem_up.mpr hlink) (hbetween _ (hcy.tail hlink) .refl)

end Flow.PostDominators

/-! ### Branches -/

namespace Code

open TaintFlow.Flow TaintFlow.Flow.PostDominators

variable {code : Code} {a b c x : Nat}

/-- The instruction at an index is a branch. -/
def IsBranch (code : Code) (a : Nat) : Prop := ∃ inst, code[a]? = some inst ∧ inst.isBranch = true

/-- A branch decides about an instruction. -/
def Controls (code : Code) (a b : Nat) : Prop :=
  ∃ row ∈ code.controlDependence, row.1 = a ∧ b ∈ row.2

/-- The branch at `a` decides about `b`, as the climbs from its successors tell. -/
theorem controls_iff :
    code.Controls a b ↔ code.IsBranch a ∧ b ∈ controlledBy code code.postDominators a := by
  constructor
  · rintro ⟨row, hrow, rfl, hb⟩
    obtain ⟨hbranch, hcontrolled, _⟩ := mem_controlDependence.mp hrow
    exact ⟨hbranch, hcontrolled ▸ hb⟩
  · rintro ⟨hbranch, hb⟩
    refine ⟨(a, controlledBy code code.postDominators a), ?_, rfl, hb⟩
    exact mem_controlDependence.mpr ⟨hbranch, rfl, List.ne_nil_of_mem hb⟩

/-- The points that climbs from the successors of `a` may visit: not the exit, and not the point above
    `a`. -/
def Open (code : Code) (d : PostDominators) (a x : Nat) : Prop :=
  x < code.exit ∧ d.immediate? a ≠ some x

theorem mem_controlledBy {rank : Nat → Nat} {order : List Nat} {d : PostDominators}
    (h : Ascending code.exit rank order d) :
    b ∈ controlledBy code d a ↔
      b < code.size ∧ ∃ c ∈ code.successors a, d.Climbs c b ∧
        ∀ x, d.Climbs c x → d.Climbs x b → code.Open d a x := by
  have hroom : ∀ x, x ∈ ((d.up a).foldl Marks.erase (code.allPoints.erase code.exit)).points ↔
      code.Open d a x := by
    intro x
    rw [Marks.mem_points, Marks.has_foldl_erase, Marks.has_erase, allPoints, Marks.has_below, mem_up,
      Bool.and_eq_true, decide_eq_true_iff, decide_eq_true_iff, Open]
    exact and_congr_left' (by omega)
  simp only [controlledBy, List.mem_filter, List.mem_range, Marks.has_reached_iff, h.reaches_up_iff,
    hroom]

/-- The start of a climb leads out if its end does. -/
theorem leadsOut_of_climbs (h : code.postDominators.Climbs c b)
    (hb : LeadsOut code.successors code.exit b) : LeadsOut code.successors code.exit c := by
  rcases h.cases_head with rfl | ⟨p, hp, _⟩
  · exact hb
  · exact code.exact_postDominators.leadsOut_iff.mp (knows_iff.mpr ⟨p, hp⟩)

/-- All that lies between a successor of `a` that leads out and an instruction on its climb may be
    visited exactly if the instruction is no other post-dominator of `a`. -/
theorem open_between_iff (ha : c ∈ code.successors a) (hb : b < code.size)
    (hc : LeadsOut code.successors code.exit c) :
    (∀ x, code.postDominators.Climbs c x → code.postDominators.Climbs x b →
        code.Open code.postDominators a x) ↔
      ¬ (b ≠ a ∧ PostDominates code.successors code.exit b a) := by
  have hexact := code.exact_postDominators
  have hlead : LeadsOut code.successors code.exit a := hc.of_step ha
  have hexit : a ≠ code.exit := Nat.ne_of_lt (lt_of_mem_successors ha)
  obtain ⟨p, hp⟩ := knows_iff.mp (hexact.leadsOut_iff.mpr hlead)
  obtain ⟨hpa, hdom, hnearest⟩ := hexact.immediate hp hexit
  have hcp : code.postDominators.Climbs c p := (hexact.climbs_iff hc).mpr (hdom.along hpa ha)
  have hlead' := hexact.leadsOut_iff.mp (hexact.known hp)
  constructor
  · rintro hopen ⟨hba, hdom'⟩
    have hpb := (hexact.climbs_iff hlead').mpr (hnearest b hba hdom')
    exact (hopen p hcp hpb).2 hp
  · intro hnot x hcx hxb
    have hx := hexact.leadsOut_iff.mp
      (hexact.knows_of_climbs (hexact.leadsOut_iff.mpr hc) hcx)
    refine ⟨Nat.lt_of_le_of_ne (le_of_leadsOut hx) ?_, ?_⟩
    · rintro rfl
      exact absurd (hexact.climbs_exit hxb) (Nat.ne_of_lt hb)
    · intro hpx
      rw [hp] at hpx
      cases hpx
      refine hnot ⟨?_, ((hexact.climbs_iff hlead').mp hxb).trans hdom⟩
      rintro rfl
      exact hpa (hexact.antisymm (.single hp) hxb).symm

/-- Only branches control anything, and only instructions are controlled. A branch controls an
    instruction from which the exit can be reached exactly if the instruction lies on every way from a
    successor of the branch to the exit, where there is such a way, and is not another point on every way
    from the branch itself. It controls an instruction from which the exit cannot be reached exactly if
    that is one of its successors. -/
theorem controlDependence_exact (code : Code) :
    (∀ a b, code.Controls a b → code.IsBranch a ∧ b < code.size) ∧
      ∀ a b, code.IsBranch a → b < code.size →
        (LeadsOut code.successors code.exit b →
          (code.Controls a b ↔
            (∃ c ∈ code.successors a, LeadsOut code.successors code.exit c ∧
              PostDominates code.successors code.exit b c) ∧
            ¬ (b ≠ a ∧ PostDominates code.successors code.exit b a))) ∧
        (¬ LeadsOut code.successors code.exit b →
          (code.Controls a b ↔ b ∈ code.successors a)) := by
  have hexact := code.exact_postDominators
  refine ⟨?_, ?_⟩
  · intro a b h
    obtain ⟨hbranch, hb⟩ := controls_iff.mp h
    exact ⟨hbranch, ((mem_controlledBy hexact.toAscending).mp hb).1⟩
  · intro a b hbranch hb
    rw [controls_iff, and_iff_right hbranch, mem_controlledBy hexact.toAscending, and_iff_right hb]
    refine ⟨?_, ?_⟩
    · intro hlead
      constructor
      · rintro ⟨c, hc, hcb, hopen⟩
        have hleadc := leadsOut_of_climbs hcb hlead
        exact ⟨⟨c, hc, hleadc, (hexact.climbs_iff hleadc).mp hcb⟩,
          (open_between_iff hc hb hleadc).mp hopen⟩
      · rintro ⟨⟨c, hc, hleadc, hdom⟩, hnot⟩
        have hcb := (hexact.climbs_iff hleadc).mpr hdom
        exact ⟨c, hc, hcb, (open_between_iff hc hb hleadc).mpr hnot⟩
    · intro hstuck
      have hunknown : ∀ x, code.postDominators.immediate? x ≠ some b :=
        fun x hx => hstuck (hexact.leadsOut_iff.mp (hexact.known hx))
      constructor
      · rintro ⟨c, hc, hcb, _⟩
        rcases hcb.cases_tail with rfl | ⟨x, _, hx⟩
        · exact hc
        · exact absurd hx (hunknown x)
      · intro hsucc
        refine ⟨b, hsucc, .refl, fun x hbx hxb => ?_⟩
        rw [← hexact.antisymm hbx hxb]
        exact ⟨hb, hunknown a⟩

-- the loop at 0 controls itself, and the branch at 1 controls the point that never leaves
example :
    Code.controlDependence #[.branch "eq" 1 2 4, .branch "lt" 1 2 3, .goto 2, .goto 0, .ret none] =
      [(0, [0, 1, 3]), (1, [2])] := by
  cbv

end Code

end TaintFlow
