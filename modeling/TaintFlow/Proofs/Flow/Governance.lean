/-
Module: TaintFlow.Proofs.Flow.Governance
Purpose: Chains of control dependence. One branch decides about what it controls, and through other
  branches about what these control. Such a chain can be extended along a step of control, unless the
  step leads to a point that control passes anyway on its way from the first branch to the exit. So a
  branch governs whatever only one of its outcomes leads to, as far as ways to the exit can tell.
Main exports: Code.Steps, Code.Flows, Code.Avoids, Code.Forces, Code.Governs, Code.Traces,
  Code.Governs.step, Code.governs_of_path, Code.deciding_branch_governs, Code.deciding_branch_endless
-/
import Mathlib
import TaintFlow.Proofs.Flow.ControlDependence

namespace TaintFlow.Code

open Relation (ReflTransGen TransGen)
open TaintFlow.Flow (WayOut)

variable {code : Code} {a b c x y z : Nat}

/-! ### Paths of control -/

/-- The exit can be reached from a point of a body. -/
abbrev LeadsOut (code : Code) (a : Nat) : Prop := Flow.LeadsOut code.successors code.exit a

/-- Every way from `a` to the exit of a body leads through `p`. -/
abbrev PostDominates (code : Code) (p a : Nat) : Prop :=
  Flow.PostDominates code.successors code.exit p a

/-- Control can step from `a` to `b`. -/
def Steps (code : Code) (a b : Nat) : Prop := b ∈ code.successors a

instance : Decidable (code.Steps a b) := inferInstanceAs (Decidable (b ∈ code.successors a))

/-- Control can get from `a` to `b`. -/
def Flows (code : Code) : Nat → Nat → Prop := ReflTransGen code.Steps

/-- A step that does not leave `p`: a path of such steps does not pass `p` before its end. -/
def Avoids (code : Code) (p a b : Nat) : Prop := a ≠ p ∧ code.Steps a b

/-- Control passes `b` on every way from `a` to the exit, and `b` is not `a` itself. -/
def Forces (code : Code) (a b : Nat) : Prop := b ≠ a ∧ code.PostDominates b a

/-- A branch decides about an instruction, directly or through other branches. -/
def Governs (code : Code) : Nat → Nat → Prop := TransGen code.Controls

theorem lt_of_steps (h : code.Steps a b) : a < code.size := lt_of_mem_successors h

theorem leadsOut_of_flows (h : code.Flows a b) (hb : code.LeadsOut b) : code.LeadsOut a := by
  induction h using ReflTransGen.head_induction_on with
  | refl => exact hb
  | head hstep _ ih => exact ih.of_step hstep

/-- Control does not leave a set of points that is closed under steps. -/
theorem mem_of_flows (within : List Nat)
    (hclosed : ∀ x ∈ within, ∀ y ∈ code.successors x, y ∈ within) (h : code.Flows a b)
    (ha : a ∈ within) : b ∈ within := by
  induction h with
  | refl => exact ha
  | tail _ hstep ih => exact hclosed _ ih _ hstep

/-- Only branches have several successors. -/
theorem isBranch_of_steps (hb : code.Steps a b) (hc : code.Steps a c) (hne : b ≠ c) :
    code.IsBranch a := by
  unfold Steps successors at hb hc
  cases hinst : code[a]? with
  | none => simp [hinst] at hb
  | some inst =>
      rw [hinst] at hb hc
      refine ⟨inst, hinst, ?_⟩
      cases inst with
      | branch op l r target => rfl
      | _ =>
          simp only [Instruction.flowsTo, List.mem_singleton] at hb hc
          exact absurd (hb.trans hc.symm) hne

/-- No instruction has more than two successors. -/
theorem eq_or_eq_of_steps (hb : code.Steps a b) (hc : code.Steps a c) (hne : b ≠ c)
    (hx : code.Steps a x) : x = b ∨ x = c := by
  unfold Steps successors at hb hc hx
  cases hinst : code[a]? with
  | none => simp [hinst] at hb
  | some inst =>
      rw [hinst] at hb hc hx
      cases inst with
      | branch op l r target =>
          simp only [Instruction.flowsTo] at hb hc hx
          split at hb <;> grind
      | _ =>
          simp only [Instruction.flowsTo, List.mem_singleton] at hb hc
          exact absurd (hb.trans hc.symm) hne

/-! ### Points that control has to pass -/

/-- What lies on every way out stays ahead until it is passed. -/
theorem postDominates_along (h : code.PostDominates b x)
    (hpath : ReflTransGen (code.Avoids b) x y) : code.PostDominates b y := by
  induction hpath with
  | refl => exact h
  | tail _ hstep ih => exact ih.along hstep.1.symm hstep.2

/-- Two points that lead out and lie on every way out of each other are one. -/
theorem postDominates_antisymm (ha : code.LeadsOut a) (hb : code.PostDominates b a)
    (hab : code.PostDominates a b) : a = b := by
  have hexact := code.exact_postDominators
  have hclimb := (hexact.climbs_iff ha).mpr hb
  have hlead := hexact.leadsOut_iff.mp
    (hexact.knows_of_climbs (hexact.leadsOut_iff.mpr ha) hclimb)
  exact hexact.antisymm hclimb ((hexact.climbs_iff hlead).mpr hab)

/-- A step that leaves a point which leads out, or a branch. -/
def Traces (code : Code) (a b : Nat) : Prop :=
  code.Steps a b ∧ (code.LeadsOut a ∨ code.IsBranch a)

/-- A way out gets to each of its points, through points that lead out. -/
theorem traces_of_wayOut {ps : List Nat} (h : WayOut code.successors code.exit a ps) (hx : x ∈ ps) :
    ReflTransGen code.Traces a x ∧ code.LeadsOut x := by
  induction h with
  | exit =>
      rw [List.mem_singleton.mp hx]
      exact ⟨.refl, _, .exit⟩
  | @step a b ps hb hway ih =>
      rcases List.mem_cons.mp hx with rfl | hx
      · exact ⟨.refl, _, .step hb hway⟩
      · exact ⟨.head ⟨hb, Or.inl ⟨_, .step hb hway⟩⟩ (ih hx).1, (ih hx).2⟩

theorem flows_of_traces (h : ReflTransGen code.Traces a b) : code.Flows a b := by
  have hsub : code.Traces ≤ code.Steps := fun _ _ hstep => hstep.1
  exact ReflTransGen.mono hsub _ _ h

theorem traces_of_flows (h : code.Flows a b) (hb : code.LeadsOut b) :
    ReflTransGen code.Traces a b := by
  induction h using ReflTransGen.head_induction_on with
  | refl => exact .refl
  | head hstep hpath ih => exact .head ⟨hstep, Or.inl ((leadsOut_of_flows hpath hb).of_step hstep)⟩ ih

/-- Control gets to what lies on every way out, if there is one. -/
theorem traces_of_postDominates (ha : code.LeadsOut a) (h : code.PostDominates x a) :
    ReflTransGen code.Traces a x ∧ code.LeadsOut x := by
  obtain ⟨ps, hps⟩ := ha
  exact traces_of_wayOut hps (h ps hps)

/-- A point from which control need not take one of the steps is a branch. -/
theorem isBranch_of_not_postDominates (hb : code.Steps a b) (h : ¬ code.PostDominates b a) :
    code.IsBranch a := by
  by_contra hbranch
  apply h
  intro ps hps
  cases hps with
  | exit => exact absurd (lt_of_steps hb) (Nat.lt_irrefl _)
  | @step _ c ps hc hway =>
      have heq : b = c := by
        by_contra hne
        exact hbranch (isBranch_of_steps hb hc hne)
      rw [heq]
      exact List.mem_cons_of_mem _ (by cases hway <;> exact List.mem_cons_self)

/-- What does not lead out lies on no way out. -/
theorem not_postDominates_of_stuck (ha : code.LeadsOut a) (hb : ¬ code.LeadsOut b) :
    ¬ code.PostDominates b a :=
  fun h => hb (traces_of_postDominates ha h).2

/-! ### Single links -/

theorem controls_of_postDominates (ha : code.IsBranch a) (hc : code.Steps a c)
    (hlead : code.LeadsOut c) (hb : b < code.size) (hdom : code.PostDominates b c)
    (hfree : ¬ code.Forces a b) : code.Controls a b := by
  have hexact := code.exact_postDominators
  refine controls_iff.mpr ⟨ha, (mem_controlledBy hexact.toAscending).mpr ⟨hb, c, hc, ?_, ?_⟩⟩
  · exact (hexact.climbs_iff hlead).mpr hdom
  · exact (open_between_iff hc hb hlead).mpr hfree

/-- The table knows of nothing below a point that does not lead out. -/
theorem immediate?_ne_stuck (hb : ¬ code.LeadsOut b) : code.postDominators.immediate? x ≠ some b :=
  fun hx => hb (code.exact_postDominators.leadsOut_iff.mp (code.exact_postDominators.known hx))

/-- A branch controls its successors, except for those that control passes anyway. -/
theorem controls_of_steps (ha : code.IsBranch a) (hb : code.Steps a b) (hsize : b < code.size)
    (hfree : code.LeadsOut b → ¬ code.Forces a b) : code.Controls a b := by
  have hexact := code.exact_postDominators
  by_cases hlead : code.LeadsOut b
  · refine controls_of_postDominates ha hb hlead hsize ?_ (hfree hlead)
    exact (hexact.climbs_iff hlead).mp .refl
  · refine controls_iff.mpr ⟨ha, (mem_controlledBy hexact.toAscending).mpr ⟨hsize, b, hb, .refl, ?_⟩⟩
    intro x hbx hxb
    rw [← hexact.antisymm hbx hxb]
    exact ⟨hsize, immediate?_ne_stuck hlead⟩

/-- Where a link comes from: the branch has a successor from which control has to pass what is
    controlled, or the branch leads there directly. -/
theorem exists_step_of_controls (h : code.Controls a b) :
    code.IsBranch a ∧ b < code.size ∧
      ((code.LeadsOut b ∧ ¬ code.Forces a b ∧
          ∃ c, code.Steps a c ∧ code.LeadsOut c ∧ code.PostDominates b c) ∨
        (¬ code.LeadsOut b ∧ code.Steps a b)) := by
  have hexact := code.exact_postDominators
  obtain ⟨hbranch, hb⟩ := controls_iff.mp h
  obtain ⟨hsize, c, hc, hcb, hopen⟩ := (mem_controlledBy hexact.toAscending).mp hb
  refine ⟨hbranch, hsize, ?_⟩
  by_cases hlead : code.LeadsOut b
  · have hleadc := leadsOut_of_climbs hcb hlead
    exact Or.inl ⟨hlead, (open_between_iff hc hsize hleadc).mp hopen, c, hc, hleadc,
      (hexact.climbs_iff hleadc).mp hcb⟩
  · rcases hcb.cases_tail with rfl | ⟨x, _, hx⟩
    · exact Or.inr ⟨hlead, hc⟩
    · exact absurd hx (immediate?_ne_stuck hlead)

/-- Control gets from a branch to what it controls. -/
theorem traces_of_controls (h : code.Controls a b) :
    ∃ c, code.Steps a c ∧ ReflTransGen code.Traces c b := by
  obtain ⟨_, _, ⟨_, _, c, hc, hlead, hdom⟩ | ⟨_, hb⟩⟩ := exists_step_of_controls h
  · exact ⟨c, hc, (traces_of_postDominates hlead hdom).1⟩
  · exact ⟨b, hb, .refl⟩

/-! ### Chains -/

namespace Governs

/-- A chain reaches all that control has to pass after its end and not after its start. The induction is
    on the chain: a link that cannot be bent to the new end is dropped, since control has to pass the end
    after its source already. -/
theorem climb (h : code.Governs a y) (hy : code.LeadsOut y) (hz : z < code.size)
    (hdom : code.PostDominates z y) (hfree : ¬ code.Forces a z) : code.Governs a z := by
  induction h with
  | single hlink =>
      obtain ⟨hbranch, _, ⟨_, _, c, hc, hlead, hdomc⟩ | ⟨hstuck, _⟩⟩ := exists_step_of_controls hlink
      · exact .single (controls_of_postDominates hbranch hc hlead hz (hdom.trans hdomc) hfree)
      · exact absurd hy hstuck
  | @tail x y hchain hlink ih =>
      obtain ⟨hbranch, _, ⟨_, _, c, hc, hlead, hdomc⟩ | ⟨hstuck, _⟩⟩ := exists_step_of_controls hlink
      · by_cases hforced : code.Forces x z
        · exact ih (hlead.of_step hc) hforced.2
        · exact hchain.tail
            (controls_of_postDominates hbranch hc hlead hz (hdom.trans hdomc) hforced)
      · exact absurd hy hstuck

/-- A chain can be extended along a step, unless the step leads to a point that control passes anyway. -/
theorem step (h : code.Governs a y) (hstep : code.Traces y z) (hz : z < code.size)
    (hfree : code.LeadsOut z → ¬ code.Forces a z) : code.Governs a z := by
  by_cases hlead : code.LeadsOut z
  · have hy : code.LeadsOut y := hlead.of_step hstep.1
    by_cases hdom : code.PostDominates z y
    · exact h.climb hy hz hdom (hfree hlead)
    · have hbranch := isBranch_of_not_postDominates hstep.1 hdom
      exact h.tail (controls_of_steps hbranch hstep.1 hz fun _ hforced => hdom hforced.2)
  · have hbranch : code.IsBranch y := by
      rcases hstep.2 with hy | hy
      · exact isBranch_of_not_postDominates hstep.1 (not_postDominates_of_stuck hy hlead)
      · exact hy
    exact h.tail (controls_of_steps hbranch hstep.1 hz fun hz => absurd hz hlead)

/-- Control gets along every chain. -/
theorem traces (h : code.Governs a b) : ∃ c, code.Steps a c ∧ ReflTransGen code.Traces c b := by
  induction h with
  | single hlink => exact traces_of_controls hlink
  | @tail x y _ hlink ih =>
      obtain ⟨c, hc, hpath⟩ := ih
      obtain ⟨d, hd, hrest⟩ := traces_of_controls hlink
      have hbranch := (exists_step_of_controls hlink).1
      exact ⟨c, hc, (hpath.tail ⟨hd, Or.inr hbranch⟩).trans hrest⟩

/-- What is governed stands in the table of control dependence. -/
theorem exists_row (h : code.Governs a b) : ∃ row ∈ code.controlDependence, b ∈ row.2 := by
  cases h with
  | single hlink =>
      obtain ⟨row, hrow, _, hb⟩ := hlink
      exact ⟨row, hrow, hb⟩
  | tail _ hlink =>
      obtain ⟨row, hrow, _, hb⟩ := hlink
      exact ⟨row, hrow, hb⟩

end Governs

/-- A branch governs what a path leads to that starts with one of its steps, if there is no point on the
    path that control passes anyway. The path may be bound to a narrower relation than `Traces`. -/
theorem governs_of_path {r : Nat → Nat → Prop} (hr : ∀ x y, r x y → code.Traces x y)
    (ha : code.IsBranch a) (hc : code.Steps a c) (hpath : ReflTransGen r c b) (hb : b < code.size)
    (hfree : ∀ y, ReflTransGen r c y → ReflTransGen r y b → code.LeadsOut y → ¬ code.Forces a y) :
    code.Governs a b := by
  induction hpath with
  | refl => exact .single (controls_of_steps ha hc hb (hfree c .refl .refl))
  | @tail y z hpath hstep ih =>
      have hy := ih (lt_of_steps (hr y z hstep).1) fun x hcx hxy => hfree x hcx (hxy.tail hstep)
      exact hy.step (hr y z hstep) hb (hfree z (hpath.tail hstep) .refl)

/-! ### Branches of which one outcome leads to an instruction and the other does not -/

section Deciding

variable {c' : Nat}

/-- What lies on the way to an instruction need not be passed after an outcome that does not lead
    there. -/
theorem not_forces_of_misses (hc' : code.Steps a c') (hlead : code.LeadsOut c')
    (hmisses : ¬ code.Flows c' b) (hy : code.Flows y b) : ¬ code.Forces a y := by
  rintro ⟨hne, hdom⟩
  have hpath := (traces_of_postDominates hlead (hdom.along hne hc')).1
  exact hmisses ((flows_of_traces hpath).trans hy)

/-- The links of a branch whose other outcome never leads to the exit. -/
theorem controls_endless (hc : code.Steps a c) (hc' : code.Steps a c') (hlead : code.LeadsOut c)
    (hstuck : ¬ code.LeadsOut c') (h : code.Controls a x) :
    (x = a ∧ code.PostDominates a c) ∨ x = c' := by
  have hne : c ≠ c' := fun heq => hstuck (heq ▸ hlead)
  have hsucc : ∀ d, code.Steps a d → code.LeadsOut d → d = c := by
    intro d hd hleadd
    rcases eq_or_eq_of_steps hc hc' hne hd with rfl | rfl
    · rfl
    · exact absurd hleadd hstuck
  obtain ⟨_, _, ⟨_, hfree, d, hd, hleadd, hdom⟩ | ⟨hstuckx, hx⟩⟩ := exists_step_of_controls h
  · -- all ways from the branch go through the one outcome, so they all pass what is controlled
    cases hsucc d hd hleadd
    have hpassed : code.PostDominates x a := by
      intro ps hps
      cases hps with
      | exit => exact absurd (lt_of_steps hd) (Nat.lt_irrefl _)
      | step he hway =>
          cases hsucc _ he ⟨_, hway⟩
          exact List.mem_cons_of_mem _ (hdom _ hway)
    have heq : x = a := by
      by_contra hxa
      exact hfree ⟨hxa, hpassed⟩
    exact Or.inl ⟨heq, heq ▸ hdom⟩
  · rcases eq_or_eq_of_steps hc hc' hne hx with rfl | rfl
    · exact absurd hlead hstuckx
    · exact Or.inr rfl

/-- A branch whose other outcome never leads to the exit governs nothing else on the side that does,
    except for itself. -/
theorem governs_endless (hc : code.Steps a c) (hc' : code.Steps a c') (hlead : code.LeadsOut c)
    (hstuck : ¬ code.LeadsOut c') (h : code.Governs a b) :
    (b = a ∧ code.PostDominates a c) ∨ code.Flows c' b := by
  induction h with
  | single hlink =>
      refine (controls_endless hc hc' hlead hstuck hlink).imp_right fun heq => ?_
      exact heq ▸ ReflTransGen.refl
  | @tail y z _ hlink ih =>
      rcases ih with ⟨rfl, _⟩ | hpath
      · refine (controls_endless hc hc' hlead hstuck hlink).imp_right fun heq => ?_
        exact heq ▸ ReflTransGen.refl
      · obtain ⟨d, hd, hrest⟩ := traces_of_controls hlink
        exact Or.inr ((hpath.tail hd).trans (flows_of_traces hrest))

/-- A branch of which one outcome leads to an instruction and the other does not governs the
    instruction, if the exit can be reached from it and after the other outcome. More exactly: if the
    exit can be reached after the other outcome, or not after this one, then the branch governs the
    instruction exactly if a path leads there on which every point before it is a branch or leads to the
    exit. If the exit can be reached after this outcome alone, the branch governs at most itself. -/
theorem deciding_branch_governs (code : Code) {a b c c' : Nat} (hc : code.Steps a c)
    (hc' : code.Steps a c') (hb : b < code.size) (hreaches : code.Flows c b)
    (hmisses : ¬ code.Flows c' b) :
    (code.LeadsOut b → code.LeadsOut c' → code.Governs a b) ∧
    (code.LeadsOut c' ∨ ¬ code.LeadsOut c →
      (code.Governs a b ↔ ReflTransGen code.Traces c b)) ∧
    (code.LeadsOut c → ¬ code.LeadsOut c' →
      (code.Governs a b ↔ b = a ∧ code.PostDominates a c)) := by
  have hne : c ≠ c' := fun heq => hmisses (heq ▸ hreaches)
  have hbranch : code.IsBranch a := isBranch_of_steps hc hc' hne
  have hgoverns : code.LeadsOut c' ∨ ¬ code.LeadsOut c → ReflTransGen code.Traces c b →
      code.Governs a b := by
    intro hout hpath
    refine governs_of_path (fun _ _ hstep => hstep) hbranch hc hpath hb fun y hcy hyb hy => ?_
    have hlead : code.LeadsOut c' :=
      hout.resolve_right (not_not_intro (leadsOut_of_flows (flows_of_traces hcy) hy))
    exact not_forces_of_misses hc' hlead hmisses (flows_of_traces hyb)
  refine ⟨?_, ?_, ?_⟩
  · intro hlead hlead'
    exact hgoverns (Or.inl hlead') (traces_of_flows hreaches hlead)
  · intro hout
    refine ⟨fun h => ?_, hgoverns hout⟩
    obtain ⟨d, hd, hpath⟩ := h.traces
    rcases eq_or_eq_of_steps hc hc' hne hd with rfl | rfl
    · exact hpath
    · exact absurd (flows_of_traces hpath) hmisses
  · intro hlead hstuck
    constructor
    · intro h
      exact (governs_endless hc hc' hlead hstuck h).resolve_right hmisses
    · rintro ⟨rfl, hdom⟩
      exact .single (controls_of_postDominates hbranch hc hlead hb hdom fun hforced => hforced.1 rfl)

/-- A loop that is left at its head, and from whose middle control can get stuck. -/
def stalling : Code :=
  #[.branch "eq" 1 2 4, .branch "lt" 1 2 3, .goto 2, .goto 0, .ret none]

/-- The head of the loop governs the point where control gets stuck, through the branch between them. -/
theorem deciding_branch_governs_stalling :
    stalling.Steps 0 1 ∧ stalling.Steps 0 4 ∧ 2 < stalling.size ∧ stalling.Flows 1 2 ∧
      ¬ stalling.Flows 4 2 ∧ stalling.Governs 0 2 := by
  have hstep : stalling.Steps 0 1 := by decide
  have hother : stalling.Steps 0 4 := by decide
  have hinto : stalling.Steps 1 2 := by decide
  have hmisses : ¬ stalling.Flows 4 2 := fun h =>
    absurd (mem_of_flows [4, 5] (by decide) h (by decide)) (by decide)
  have hlead : stalling.LeadsOut 4 := ⟨_, .step (by decide) .exit⟩
  have hbranch : stalling.IsBranch 1 := ⟨_, rfl, rfl⟩
  refine ⟨hstep, hother, by decide, .single hinto, hmisses, ?_⟩
  have hexact := (deciding_branch_governs stalling hstep hother (by decide) (.single hinto) hmisses).2.1
  exact (hexact (Or.inl hlead)).mpr (.single ⟨hinto, Or.inr hbranch⟩)

/-- A branch that enters an endless loop of two instructions or returns. -/
def endless : Code := #[.branch "eq" 1 1 3, .goto 2, .goto 1, .ret none]

/-- Which of its outcomes a branch takes decides whether control gets to the second instruction of the
    endless loop, and whether it gets to the return, but the branch governs neither: no way to the exit
    passes the loop, and every way to the exit passes the return. -/
theorem deciding_branch_endless :
    endless.check 1 = .ok () ∧ endless.Steps 0 1 ∧ endless.Steps 0 3 ∧
      (endless.Flows 1 2 ∧ ¬ endless.Flows 3 2 ∧ ¬ endless.Governs 0 2) ∧
      (endless.Flows 3 3 ∧ ¬ endless.Flows 1 3 ∧ ¬ endless.Governs 0 3) := by
  have htable : endless.controlDependence = [(0, [1])] := by cbv
  have hgoverned : ∀ b, endless.Governs 0 b → b = 1 := by
    intro b h
    obtain ⟨row, hrow, hb⟩ := h.exists_row
    rw [htable, List.mem_singleton] at hrow
    rw [hrow] at hb
    exact List.mem_singleton.mp hb
  refine ⟨rfl, by decide, by decide, ⟨.single (by decide), ?_, ?_⟩, .refl, ?_, ?_⟩
  · intro h
    exact absurd (mem_of_flows [3, 4] (by decide) h (by decide)) (by decide)
  · intro h
    exact absurd (hgoverned 2 h) (by decide)
  · intro h
    exact absurd (mem_of_flows [1, 2] (by decide) h (by decide)) (by decide)
  · intro h
    exact absurd (hgoverned 3 h) (by decide)

end Deciding

end TaintFlow.Code
