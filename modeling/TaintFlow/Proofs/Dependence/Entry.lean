/-
Module: TaintFlow.Proofs.Dependence.Entry
Purpose: What the entry of an activation governs. It has a link to each instruction that no branch
  controls, and branches lead on from there. Every instruction on a way from the start to the exit is
  governed by one that control has to pass, so the entry governs it if no branch controls that one. But a
  branch does control it where control can come back to it, or where code that never runs leads to it:
  what hangs on a loop that control has to pass is out of the entry's reach.
Main exports: Code.Loops, Code.exists_passed_governor, Code.controlled_of_loops, Procedure.Leads,
  Node.leads_entry_iff, Node.entry_governs, Node.entry_not_governs_loop
-/
import TaintFlow.Proofs.Dependence.Distinct
import TaintFlow.Proofs.Flow.Governance

namespace TaintFlow

open Relation (ReflTransGen TransGen)

namespace Code

variable {code : Code} {a i p s x : Nat}

/-! ### Points that control has to pass -/

/-- Control can come back to a point. -/
def Loops (code : Code) (p : Nat) : Prop := TransGen code.Steps p p

/-- No branch decides about an instruction. -/
def Unguarded (code : Code) (p : Nat) : Prop := p < code.size ∧ ∀ a, ¬ code.Controls a p

theorem postDominates_self : code.PostDominates a a := by
  intro ps hps
  cases hps <;> exact List.mem_cons_self

/-- An instruction that control can get to, and that leads out, is governed by one that control has to
    pass on its way out, or is one. The induction is on the path: a step to a point that control need not
    pass extends the chain. -/
theorem exists_passed_governor (h : code.Flows s i) (hi : code.LeadsOut i) (hsize : i < code.size) :
    ∃ p, p < code.size ∧ code.PostDominates p s ∧ ReflTransGen code.Controls p i := by
  induction h with
  | refl => exact ⟨s, hsize, postDominates_self, .refl⟩
  | @tail y z _ hstep ih =>
      have hy : code.LeadsOut y := hi.of_step hstep
      obtain ⟨p, hp, hdom, hchain⟩ := ih hy (lt_of_steps hstep)
      by_cases hpassed : code.PostDominates z s
      · exact ⟨z, hsize, hpassed, .refl⟩
      · have hfree : ¬ code.PostDominates z p := fun hzp => hpassed (hzp.trans hdom)
        refine ⟨p, hp, hdom, ?_⟩
        rcases Relation.reflTransGen_iff_eq_or_transGen.mp hchain with rfl | hgoverns
        · have hbranch := isBranch_of_not_postDominates hstep hfree
          exact .single (controls_of_steps hbranch hstep hsize fun _ hforced => hfree hforced.2)
        · have hgoverns : code.Governs p y := hgoverns
          exact (hgoverns.step ⟨hstep, Or.inl hy⟩ hsize fun _ hforced => hfree hforced.2).to_reflTransGen

/-! ### Loops -/

/-- After one of its steps a point is not passed again on every way out. -/
theorem exists_leaving_step (hp : code.LeadsOut p) (hsize : p < code.size) :
    ∃ x, code.Steps p x ∧ code.LeadsOut x ∧ ¬ code.PostDominates p x := by
  have hexact := code.exact_postDominators
  have hmem := mem_backwardOrder_iff.mpr hp
  obtain ⟨x, hx, hxmem, hlt⟩ := code.ordered.earlier p hmem (Nat.ne_of_lt hsize)
  have hlead := mem_backwardOrder_iff.mp hxmem
  refine ⟨x, hx, hlead, fun hdom => ?_⟩
  exact absurd (hexact.le ((hexact.climbs_iff hlead).mpr hdom)) (Nat.not_le.mpr hlt)

/-- A path to a point that leads out has a branch that controls it, unless the point has to be passed
    from the start of the path on. -/
theorem controlled_or_postDominates (hp : code.LeadsOut p) (hsize : p < code.size)
    (h : code.Flows x p) : (∃ a, code.Controls a p) ∨ code.PostDominates p x := by
  induction h using ReflTransGen.head_induction_on with
  | refl => exact Or.inr postDominates_self
  | @head x y hstep hpath ih =>
      rcases ih with hcontrolled | hdom
      · exact Or.inl hcontrolled
      · by_cases hpassed : code.PostDominates p x
        · exact Or.inr hpassed
        · have hy := leadsOut_of_flows hpath hp
          have hbranch := isBranch_of_not_postDominates hstep
            fun hyx => hpassed (hdom.trans hyx)
          exact Or.inl ⟨x, controls_of_postDominates hbranch hstep hy hsize hdom
            fun hforced => hpassed hforced.2⟩

/-- A branch controls each point on a loop that can be left. -/
theorem controlled_of_loops (hp : code.LeadsOut p) (hsize : p < code.size) (h : code.Loops p) :
    ∃ a, code.Controls a p := by
  obtain ⟨y, hstep, hpath⟩ := TransGen.head'_iff.mp h
  rcases controlled_or_postDominates hp hsize hpath with hcontrolled | hdom
  · exact hcontrolled
  · obtain ⟨x, hx, _, hleaves⟩ := exists_leaving_step hp hsize
    have hne : y ≠ x := by
      rintro rfl
      exact hleaves hdom
    exact ⟨p, controls_of_postDominates (isBranch_of_steps hstep hx hne) hstep
      (leadsOut_of_flows hpath hp) hsize hdom fun hforced => hforced.1 rfl⟩

/-- A path avoids a point before its end, or leads on from there. -/
theorem avoids_or_flows (p : Nat) (h : code.Flows s a) :
    ReflTransGen (code.Avoids p) s a ∨ code.Flows p a := by
  induction h with
  | refl => exact Or.inl .refl
  | @tail y z _ hstep ih =>
      rcases ih with havoids | hpath
      · by_cases hy : y = p
        · exact Or.inr (hy ▸ ReflTransGen.single hstep)
        · exact Or.inl (havoids.tail ⟨hy, hstep⟩)
      · exact Or.inr (hpath.tail hstep)

/-- Control can come back to a point that it has to pass if it can get to a branch that controls the
    point. -/
theorem loops_of_controls (hs : code.LeadsOut s) (hdom : code.PostDominates p s)
    (hlink : code.Controls a p) (ha : code.Flows s a) : code.Loops p := by
  have hp : code.LeadsOut p := (traces_of_postDominates hs hdom).2
  obtain ⟨_, _, ⟨_, hfree, c, hc, hlead, hdomc⟩ | ⟨hstuck, _⟩⟩ := exists_step_of_controls hlink
  · have hback : code.Flows c p := flows_of_traces (traces_of_postDominates hlead hdomc).1
    have hthere : code.Flows p a := by
      by_cases hpa : p = a
      · exact hpa ▸ ReflTransGen.refl
      · refine (avoids_or_flows p ha).resolve_left fun havoids => ?_
        exact hfree ⟨hpa, postDominates_along hdom havoids⟩
    exact TransGen.trans_left (TransGen.tail' hthere hc) hback
  · exact absurd hp hstuck

/-- No branch controls an instruction that control has to pass exactly if control cannot come back to it
    and can get to every branch that controls it. -/
theorem unguarded_iff_of_passed (hs : code.LeadsOut s) (hdom : code.PostDominates p s)
    (hsize : p < code.size) :
    code.Unguarded p ↔ ¬ code.Loops p ∧ ∀ a, code.Controls a p → code.Flows s a := by
  have hp : code.LeadsOut p := (traces_of_postDominates hs hdom).2
  constructor
  · rintro ⟨_, hnone⟩
    refine ⟨fun hloops => ?_, fun a ha => absurd ha (hnone a)⟩
    obtain ⟨a, ha⟩ := controlled_of_loops hp hsize hloops
    exact hnone a ha
  · rintro ⟨hloops, hreached⟩
    exact ⟨hsize, fun a ha => hloops (loops_of_controls hs hdom ha (hreached a ha))⟩

end Code

/-! ### Paths of dependences -/

/-- One statement leads to another along dependences of some kinds. -/
def Procedure.Leads (P : Procedure) (kinds : List Dependence) : Statement → Statement → Prop :=
  ReflTransGen fun s t => ∃ kind ∈ kinds, ⟨s, kind, t⟩ ∈ P.links

namespace Node

variable {n : Node} {i j : Nat} {kinds : List Dependence}

theorem statementAt_inj (h : n.statementAt i = n.statementAt j) : i = j := by
  have hi : (n.statementAt i).index? = some (i : Int) := index?_of_mem List.mem_cons_self
  rw [h, index?_of_mem List.mem_cons_self] at hi
  exact (Int.ofNat_inj.mp (Option.some.inj hi)).symm

theorem leads_of_depends {kind : Dependence} {s t : Statement} (hbody : n.method.hasBody = true)
    (hkind : kind ∈ kinds) (h : n.Depends s kind t) : (Procedure.ofNode n).Leads kinds s t :=
  .single ⟨kind, hkind, mem_links.mpr ⟨hbody, h⟩⟩

/-- A branch leads to what it decides about. -/
theorem leads_of_controls (hbody : n.method.hasBody = true) (hkinds : .control ∈ kinds)
    (h : ReflTransGen n.code.Controls i j) :
    (Procedure.ofNode n).Leads kinds (n.statementAt i) (n.statementAt j) := by
  induction h with
  | refl => exact .refl
  | tail _ hlink ih =>
      obtain ⟨row, hrow, rfl, hb⟩ := hlink
      exact ih.trans (leads_of_depends hbody hkinds (.branch hrow hb))

/-- The entry leads to an instruction along control dependences exactly if the instruction is governed by
    one that no branch controls, or is one. -/
theorem leads_entry_iff (hbody : n.method.hasBody = true) :
    (Procedure.ofNode n).Leads [.control] (.entry n.id) (n.statementAt i) ↔
      ∃ j, n.code.Unguarded j ∧ ReflTransGen n.code.Controls j i := by
  constructor
  · intro h
    generalize ht : n.statementAt i = t at h
    induction h generalizing i with
    | refl =>
        unfold statementAt at ht
        split at ht <;> cases ht
    | tail _ hlink ih =>
        obtain ⟨kind, hkind, hmem⟩ := hlink
        have hdepends := (mem_links.mp hmem).2
        cases List.mem_singleton.mp hkind
        subst ht
        -- only the last two kinds of dependence lead to the statement of an instruction by control
        generalize htarget : n.statementAt i = t at hdepends
        cases hdepends with
        | @callPart k t hk ht =>
            have hindex := index?_of_mem (List.mem_cons_of_mem (n.statementAt k) ht)
            rw [← htarget, index?_of_mem List.mem_cons_self] at hindex
            cases Int.ofNat_inj.mp (Option.some.inj hindex)
            exact absurd (htarget ▸ ht) statementAt_not_mem_callPartsAt
        | @branch row b hrow hb =>
            obtain ⟨j, hj, hchain⟩ := ih rfl
            cases statementAt_inj htarget
            exact ⟨j, hj, hchain.tail ⟨row, hrow, rfl, hb⟩⟩
        | @unguarded k hk hnone =>
            cases statementAt_inj htarget
            refine ⟨i, ⟨(mem_indices.mp hk).2, ?_⟩, .refl⟩
            rintro a ⟨row, hrow, _, hb⟩
            exact hnone row hrow hb
  · rintro ⟨j, ⟨hj, hnone⟩, hchain⟩
    have hentry : n.Depends (.entry n.id) .control (n.statementAt j) :=
      .unguarded (mem_indices.mpr ⟨hbody, hj⟩) fun row hrow hb => hnone row.1 ⟨row, hrow, rfl, hb⟩
    exact (leads_of_depends hbody (List.mem_singleton_self _) hentry).trans
      (leads_of_controls hbody (List.mem_singleton_self _) hchain)

/-- What the entry of an activation governs. It leads to an instruction along control dependences exactly
    if the instruction is governed by one that no branch controls. An instruction that control has to
    pass on its way from the start to the exit is such a one exactly if control cannot come back to it and
    all branches that control it can be reached from the start. Every instruction on a way from the start
    to the exit is governed by one that control has to pass. So the entry leads to it, or one that governs
    it lies on a loop, or is controlled by a branch that cannot be reached. -/
theorem entry_governs (n : Node) (hbody : n.method.hasBody = true) :
    (∀ i, (Procedure.ofNode n).Leads [.control] (.entry n.id) (n.statementAt i) ↔
      ∃ j, n.code.Unguarded j ∧ ReflTransGen n.code.Controls j i) ∧
    (∀ p < n.code.size, n.code.LeadsOut 0 → n.code.PostDominates p 0 →
      (n.code.Unguarded p ↔ ¬ n.code.Loops p ∧ ∀ a, n.code.Controls a p → n.code.Flows 0 a)) ∧
    ∀ i < n.code.size, n.code.Flows 0 i → n.code.LeadsOut i →
      (Procedure.ofNode n).Leads [.control] (.entry n.id) (n.statementAt i) ∨
      ∃ p < n.code.size, n.code.PostDominates p 0 ∧ ReflTransGen n.code.Controls p i ∧
        (n.code.Loops p ∨ ∃ a, n.code.Controls a p ∧ ¬ n.code.Flows 0 a) := by
  refine ⟨fun i => leads_entry_iff hbody, ?_, ?_⟩
  · intro p hp hlead hdom
    exact Code.unguarded_iff_of_passed hlead hdom hp
  · intro i hi hpath hlead
    obtain ⟨p, hp, hdom, hchain⟩ := Code.exists_passed_governor hpath hlead hi
    have hguarded := Code.unguarded_iff_of_passed (Code.leadsOut_of_flows hpath hlead) hdom hp
    by_cases hfree : n.code.Unguarded p
    · exact Or.inl ((leads_entry_iff hbody).mpr ⟨p, hfree, hchain⟩)
    · rw [hguarded, not_and_or, not_not] at hfree
      refine Or.inr ⟨p, hp, hdom, hchain, hfree.imp_right fun hdead => ?_⟩
      simpa only [not_forall, exists_prop] using hdead

/-- An activation of a method with two parameters and these instructions. -/
def running (code : Code) : Node :=
  { id := 0
    method :=
      { signature := ⟨"LT", "run", "(II)V"⟩, loader := .application, isStatic := true, code := code } }

/-- A branch guards a loop: the entry governs the branch, and so the body of the loop. -/
theorem entry_governs_guarded_loop :
    let n := running #[.branch "eq" 1 1 3, .branch "lt" 1 1 3, .goto 1, .ret none]
    n.method.hasBody = true ∧ n.code.Loops 1 ∧
      (Procedure.ofNode n).Leads [.control] (.entry n.id) (n.statementAt 2) := by
  intro n
  have htable : n.code.controlDependence = [(0, [1]), (1, [1, 2])] := by cbv
  have hloops : n.code.Loops 1 :=
    .tail (.single (show n.code.Steps 1 2 by decide)) (show n.code.Steps 2 1 by decide)
  refine ⟨rfl, hloops, ((entry_governs n rfl).1 2).mpr ⟨0, ⟨by decide, ?_⟩, ?_⟩⟩
  · rintro a ⟨row, hrow, -, hb⟩
    rw [htable] at hrow
    simp only [List.mem_cons, List.not_mem_nil, or_false] at hrow
    rcases hrow with rfl | rfl <;> simp at hb
  · have hfirst : n.code.Controls 0 1 := ⟨(0, [1]), by simp [htable], rfl, by simp⟩
    have hsecond : n.code.Controls 1 2 := ⟨(1, [1, 2]), by simp [htable], rfl, by simp⟩
    exact .tail (.single hfirst) hsecond

/-- A method that starts with a loop: both instructions of the loop lie on a way from the start to the
    exit, but the entry governs neither. -/
theorem entry_not_governs_loop :
    let n := running #[.branch "eq" 1 1 2, .goto 0, .ret none]
    n.method.hasBody = true ∧ n.code.check n.method.parameterCount = .ok () ∧
      ∀ i < 2, n.code.Flows 0 i ∧ n.code.LeadsOut i ∧
        ¬ (Procedure.ofNode n).Leads [.control] (.entry n.id) (n.statementAt i) := by
  intro n
  have htable : n.code.controlDependence = [(0, [0, 1])] := by cbv
  have hback : n.code.Steps 1 0 := by decide
  have hlead : n.code.LeadsOut 0 :=
    ⟨_, .step (show n.code.Steps 0 2 by decide) (.step (show n.code.Steps 2 3 by decide) .exit)⟩
  have hfixed : n.code.Controls 0 0 := ⟨(0, [0, 1]), by simp [htable], rfl, by simp⟩
  -- only the head of the loop controls anything, and it controls itself
  have hungoverned : ∀ i < 2, ¬ (Procedure.ofNode n).Leads [.control] (.entry n.id) (n.statementAt i) := by
    intro i hi h
    obtain ⟨j, ⟨_, hnone⟩, hchain⟩ := (leads_entry_iff rfl).mp h
    have hguarded : n.code.Controls 0 i := ⟨(0, [0, 1]), by simp [htable], rfl, by simp; omega⟩
    rcases hchain.cases_head with rfl | ⟨x, ⟨row, hrow, hj, _⟩, _⟩
    · exact hnone 0 hguarded
    · rw [htable, List.mem_singleton] at hrow
      rw [← hj, hrow] at hnone
      exact hnone 0 hfixed
  refine ⟨rfl, rfl, fun i hi => ?_⟩
  obtain rfl | rfl : i = 0 ∨ i = 1 := by omega
  · exact ⟨.refl, hlead, hungoverned 0 hi⟩
  · exact ⟨.single (show n.code.Steps 0 1 by decide), hlead.of_step hback, hungoverned 1 hi⟩

end Node

end TaintFlow
