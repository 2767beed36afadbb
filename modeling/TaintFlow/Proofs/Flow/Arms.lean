/-
Module: TaintFlow.Proofs.Flow.Arms
Purpose: Branches that select from where control first arrives at a point. The points that control can
  pass between one outcome of such a branch and the point form an arm, and the two arms have nothing in
  common. So if control need not pass the point after the branch, the branch governs it. If control does
  have to pass it, the branch governs all of both arms, and controls nothing else but itself.
Main exports: Code.Arrives, Code.Selects, Code.Between, Code.Bypasses, Code.Selects.disjoint,
  Code.Selects.governs_target, Code.Selects.governs_arm, Code.Selects.governs_stuck,
  Code.Selects.between_of_controls
-/
import TaintFlow.Proofs.Flow.Governance

namespace TaintFlow.Code

open Relation (ReflTransGen TransGen)

variable {code : Code} {a b c c' p q q' t x y z : Nat}

/-! ### Arriving for the first time -/

/-- Control that steps from `x` to `y`, and on from there, can get to `p` for the first time from `q`. -/
inductive Arrives (code : Code) (p : Nat) : Nat → Nat → Nat → Prop where
  | now {x : Nat} : Arrives code p x p x
  | later {x y z q : Nat} : y ≠ p → code.Steps y z → Arrives code p y z q → Arrives code p x y q

theorem exists_arrives (h : code.Flows y p) (x : Nat) : ∃ q, code.Arrives p x y q := by
  induction h using ReflTransGen.head_induction_on generalizing x with
  | refl => exact ⟨x, .now⟩
  | @head y z hstep _ ih =>
      by_cases hy : y = p
      · subst hy
        exact ⟨x, .now⟩
      · obtain ⟨q, hq⟩ := ih y
        exact ⟨q, .later hy hstep hq⟩

theorem Arrives.after (hpath : ReflTransGen (code.Avoids p) y t) (ht : t ≠ p) (hstep : code.Steps t z)
    (h : code.Arrives p t z q) : code.Arrives p x y q := by
  induction hpath using ReflTransGen.head_induction_on generalizing x with
  | refl => exact .later ht hstep h
  | head hfirst _ ih => exact .later hfirst.1 hfirst.2 ih

/-- Where control arrives from, read off a set of points that it only leaves for `p`, and only from
    `q`. -/
theorem Arrives.eq_of_closed (within : List Nat)
    (hclosed : ∀ x ∈ within, ∀ y ∈ code.successors x, y = p ∧ x = q ∨ y ≠ p ∧ y ∈ within)
    (h : code.Arrives p x y z) (hy : y = p ∧ x = q ∨ y ≠ p ∧ y ∈ within) : z = q := by
  induction h with
  | now =>
      rcases hy with ⟨_, heq⟩ | ⟨hne, _⟩
      · exact heq
      · exact absurd rfl hne
  | later hne hstep _ ih =>
      rcases hy with ⟨heq, _⟩ | ⟨_, hmem⟩
      · exact absurd heq hne
      · exact ih (hclosed _ hmem _ hstep)

/-- A path to a point can be cut at its first arrival there. -/
theorem avoids_of_flows (h : code.Flows y p) : ReflTransGen (code.Avoids p) y p := by
  induction h using ReflTransGen.head_induction_on with
  | refl => exact .refl
  | @head y z hstep _ ih =>
      by_cases hy : y = p
      · exact hy ▸ ReflTransGen.refl
      · exact .head ⟨hy, hstep⟩ ih

theorem flows_of_avoids (h : ReflTransGen (code.Avoids p) a b) : code.Flows a b := by
  have hsub : code.Avoids p ≤ code.Steps := fun _ _ hstep => hstep.2
  exact ReflTransGen.mono hsub _ _ h

/-- A path to a point that leads out does not pass one that does not. -/
theorem avoids_of_leadsOut (hp : ¬ code.LeadsOut p) (hy : code.LeadsOut y) (h : code.Flows x y) :
    ReflTransGen (code.Avoids p) x y := by
  induction h using ReflTransGen.head_induction_on with
  | refl => exact .refl
  | head hstep hrest ih =>
      have hlead := (leadsOut_of_flows hrest hy).of_step hstep
      exact .head ⟨fun heq => hp (heq ▸ hlead), hstep⟩ ih

/-! ### Arms -/

/-- A point that control can pass on a path from `c` to `p`, before it gets to `p` for the first time. -/
structure Between (code : Code) (c p t : Nat) : Prop where
  path : ReflTransGen (code.Avoids p) c t
  before : t ≠ p
  ahead : code.Flows t p

/-- A step that control dependence can follow and that does not leave `p`. -/
def Bypasses (code : Code) (p a b : Nat) : Prop := a ≠ p ∧ code.Traces a b

theorem avoids_of_bypasses (h : ReflTransGen (code.Bypasses p) a b) :
    ReflTransGen (code.Avoids p) a b := by
  have hsub : code.Bypasses p ≤ code.Avoids p := fun _ _ hstep => ⟨hstep.1, hstep.2.1⟩
  exact ReflTransGen.mono hsub _ _ h

/-- A path to a point that leads out consists of points that lead out. -/
theorem bypasses_of_avoids (hpath : ReflTransGen (code.Avoids p) a b) (hb : code.LeadsOut b) :
    ReflTransGen (code.Bypasses p) a b := by
  induction hpath with
  | refl => exact .refl
  | tail _ hstep ih =>
      have hlead := hb.of_step hstep.2
      exact (ih hlead).tail ⟨hstep.1, hstep.2, Or.inl hlead⟩

/-- A path inside an arm avoids what is not in the arm. -/
theorem avoids_of_between (hpath : ReflTransGen (code.Avoids p) c y) (hy : code.Flows y p)
    (hout : ¬ code.Between c p t) : ReflTransGen (code.Avoids t) c y := by
  induction hpath with
  | refl => exact .refl
  | @tail y z hpath hstep ih =>
      have hahead : code.Flows y p := .head hstep.2 hy
      refine (ih hahead).tail ⟨?_, hstep.2⟩
      rintro rfl
      exact hout ⟨hpath, hstep.1, hahead⟩

/-- What control has to pass on its way out after one step of the branch, and not after the branch as
    such, lies before `p`, if control has to pass `p` after the branch. -/
theorem between_of_passed (hforced : code.Forces a p) (hreaches : code.Flows c p)
    (hdom : code.PostDominates b c) (hb : b ≠ a) (hfree : ¬ code.Forces a b) :
    code.Between c p b := by
  by_contra hout
  have hahead : code.PostDominates b p :=
    postDominates_along hdom (avoids_of_between (avoids_of_flows hreaches) .refl hout)
  exact hfree ⟨hb, hahead.trans hforced.2⟩

/-- A branch with two outcomes tells from where control first arrives at `p`: always from `q` after the
    first outcome, and always from `q'` after the second. -/
structure Selects (code : Code) (a c c' p q q' : Nat) : Prop where
  step : code.Steps a c
  step' : code.Steps a c'
  reaches : code.Flows c p
  reaches' : code.Flows c' p
  first : ∀ x, code.Arrives p a c x → x = q
  first' : ∀ x, code.Arrives p a c' x → x = q'
  different : q ≠ q'

namespace Selects

theorem symm (h : code.Selects a c c' p q q') : code.Selects a c' c p q' q where
  step := h.step'
  step' := h.step
  reaches := h.reaches'
  reaches' := h.reaches
  first := h.first'
  first' := h.first
  different := h.different.symm

theorem ne (h : code.Selects a c c' p q q') : c ≠ c' := by
  rintro rfl
  obtain ⟨x, hx⟩ := exists_arrives h.reaches a
  exact h.different ((h.first x hx).symm.trans (h.first' x hx))

theorem isBranch (h : code.Selects a c c' p q q') : code.IsBranch a :=
  isBranch_of_steps h.step h.step' h.ne

/-- The two arms have nothing in common: from a common point control would arrive from both sides. -/
theorem disjoint (h : code.Selects a c c' p q q') (ht : code.Between c p t) :
    ¬ code.Between c' p t := by
  intro ht'
  rcases ht.ahead.cases_head with rfl | ⟨z, hstep, hrest⟩
  · exact ht.before rfl
  · obtain ⟨x, hx⟩ := exists_arrives hrest t
    have hfirst := h.first x (hx.after ht.path ht.before hstep)
    have hfirst' := h.first' x (hx.after ht'.path ht.before hstep)
    exact h.different (hfirst.symm.trans hfirst')

/-! ### What control has to pass -/

/-- A point of one arm that control has to pass after the branch has to be passed from each point of the
    other arm on. -/
theorem postDominates_across (h : code.Selects a c c' p q q') (ht : code.Between c p t)
    (hforced : code.Forces a t) (hpath : ReflTransGen (code.Avoids p) c' y) (hy : code.Flows y p) :
    code.PostDominates t y :=
  postDominates_along (hforced.2.along hforced.1 h.step')
    (avoids_of_between hpath hy (h.disjoint ht))

/-- If control has to pass `p` after the branch, it does not have to pass a point of an arm. -/
theorem not_forces_arm (h : code.Selects a c c' p q q') (hp : code.LeadsOut p)
    (hforced : code.Forces a p) (ht : code.Between c p t) : ¬ code.Forces a t := by
  intro hforced'
  have htp := h.postDominates_across ht hforced' (avoids_of_flows h.reaches') .refl
  have hpt := postDominates_along (hforced.2.along hforced.1 h.step) ht.path
  exact ht.before (postDominates_antisymm hp htp hpt).symm

/-- Control does not have to pass points of both arms. -/
theorem not_forces_both (h : code.Selects a c c' p q q') (hp : code.LeadsOut p)
    (hx : code.Between c p x) (hx' : code.Between c' p y) (hforced : code.Forces a x) :
    ¬ code.Forces a y := by
  intro hforced'
  have hxy := h.postDominates_across hx hforced hx'.path hx'.ahead
  have hyx := h.symm.postDominates_across hx' hforced' hx.path hx.ahead
  have heq := postDominates_antisymm (leadsOut_of_flows hx.ahead hp) hyx hxy
  exact h.disjoint hx (heq ▸ hx')

/-! ### What the branch governs -/

/-- The branch governs the end of a path in an arm if there is no point on it that control passes
    anyway. -/
theorem governs_of_arm (h : code.Selects a c c' p q q')
    (hpath : ReflTransGen (code.Bypasses p) c t) (ht : code.Flows t p)
    (hsize : t < code.size) (hend : t = p → code.LeadsOut p → ¬ code.Forces a p)
    (hfree : ∀ y, code.Between c p y → code.LeadsOut y → ¬ code.Forces a y) : code.Governs a t := by
  refine governs_of_path (fun _ _ hstep => hstep.2) h.isBranch h.step hpath hsize ?_
  intro y hcy hyt hlead
  have hahead : code.Flows y p := (flows_of_avoids (avoids_of_bypasses hyt)).trans ht
  by_cases hyp : y = p
  · -- a path that avoids `p` before its end can only end there
    rcases hyt.cases_head with rfl | ⟨_, hstep, _⟩
    · exact hyp ▸ hend hyp (hyp ▸ hlead)
    · exact absurd hyp hstep.1
  · exact hfree y ⟨avoids_of_bypasses hcy, hyp, hahead⟩ hlead

/-- If some way from the branch to the exit avoids `p`, the branch governs `p`: at most one of the arms
    has points that control passes anyway. -/
theorem governs_target (h : code.Selects a c c' p q q') (hp : code.LeadsOut p) (hsize : p < code.size)
    (hfree : ¬ code.Forces a p) : code.Governs a p := by
  by_cases hleft : ∀ y, code.Between c p y → code.LeadsOut y → ¬ code.Forces a y
  · exact h.governs_of_arm (bypasses_of_avoids (avoids_of_flows h.reaches) hp) .refl hsize
      (fun _ _ => hfree) hleft
  · refine h.symm.governs_of_arm (bypasses_of_avoids (avoids_of_flows h.reaches') hp) .refl hsize
      (fun _ _ => hfree) fun y hy _ => ?_
    simp only [not_forall, not_not] at hleft
    obtain ⟨x, hx, _, hforced⟩ := hleft
    exact h.not_forces_both hp hx hy hforced

/-- If control has to pass `p` after the branch, the branch governs both arms. -/
theorem governs_arm (h : code.Selects a c c' p q q') (hp : code.LeadsOut p)
    (hforced : code.Forces a p) (ht : code.Between c p t) : code.Governs a t := by
  have hsize : t < code.size := by
    rcases ht.ahead.cases_head with heq | ⟨z, hstep, _⟩
    · exact absurd heq ht.before
    · exact lt_of_steps hstep
  exact h.governs_of_arm (bypasses_of_avoids ht.path (leadsOut_of_flows ht.ahead hp)) ht.ahead hsize
    (fun heq => absurd heq ht.before) fun y hy _ => h.not_forces_arm hp hforced hy

/-- If the exit cannot be reached from `p`, the branch governs what a path in an arm leads to through
    branches and points that lead out, provided that the exit can be reached after the other outcome or
    not after this one. -/
theorem governs_stuck (h : code.Selects a c c' p q q') (hp : ¬ code.LeadsOut p)
    (hpath : ReflTransGen (code.Bypasses p) c t) (ht : code.Flows t p)
    (hsize : t < code.size) (hout : code.LeadsOut c' ∨ ¬ code.LeadsOut c) : code.Governs a t := by
  refine h.governs_of_arm hpath ht hsize (fun _ hlead => absurd hlead hp) fun y hy hlead hforced => ?_
  have hlead' : code.LeadsOut c' :=
    hout.resolve_right (not_not_intro (leadsOut_of_flows (flows_of_avoids hy.path) hlead))
  -- ways to the exit do not pass `p`, so the other arm would have the point too
  have hother := (traces_of_postDominates hlead' (hforced.2.along hforced.1 h.step')).1
  exact h.disjoint hy ⟨avoids_of_leadsOut hp hlead (flows_of_traces hother), hy.before, hy.ahead⟩

/-- If control has to pass `p` after the branch, what the branch controls lies in an arm, except for the
    branch itself. -/
theorem between_of_controls (h : code.Selects a c c' p q q') (hp : code.LeadsOut p)
    (hforced : code.Forces a p) (hlink : code.Controls a b) (hb : b ≠ a) :
    code.Between c p b ∨ code.Between c' p b := by
  have hsteps : ∀ d, code.Steps a d → d = c ∨ d = c' :=
    fun d => eq_or_eq_of_steps h.step h.step' h.ne
  obtain ⟨_, _, ⟨_, hfree, d, hd, _, hdom⟩ | ⟨hstuck, hd⟩⟩ := exists_step_of_controls hlink
  · rcases hsteps d hd with rfl | rfl
    · exact Or.inl (between_of_passed hforced h.reaches hdom hb hfree)
    · exact Or.inr (between_of_passed hforced h.reaches' hdom hb hfree)
  · rcases hsteps b hd with rfl | rfl
    · exact absurd (leadsOut_of_flows h.reaches hp) hstuck
    · exact absurd (leadsOut_of_flows h.reaches' hp) hstuck

end Selects

end TaintFlow.Code
