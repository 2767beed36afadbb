/-
Module: TaintFlow.Proofs.Dependence.Merge
Purpose: Whether a merge of values depends on a branch that selects the value. No link leads from the
  branch to the merge as such: the dependence comes about through the branches in between, if control
  need not pass the merge, and otherwise only through what one of the arms of the branch computes. A merge
  of values that are known before the branch does not depend on it.
Main exports: Node.controls_of_depends, Node.exists_jump_of_leads, Node.leads_of_operand,
  Node.merge_depends_iff, Node.merge_not_depends
-/
import TaintFlow.Proofs.Dependence.Entry
import TaintFlow.Proofs.Dump.WellFormed
import TaintFlow.Proofs.Flow.Arms

namespace TaintFlow

open Relation (ReflTransGen)

namespace Node

variable {n : Node} {a b c c' p q q' t : Nat} {kind : Dependence} {s : Statement} {r v : Value}
  {vs : List Value}

/-! ### Jumps -/

/-- The value that the statement of an instruction defines is defined by the instruction. -/
theorem mem_defs_of_definition? (h : n.definition? v = some (n.statementAt a)) :
    ∃ inst, n.code[a]? = some inst ∧ v ∈ inst.defs := by
  have hindex : (n.statementAt a).index? = some (a : Int) := index?_of_mem List.mem_cons_self
  unfold definition? at h
  split at h
  · rw [← Option.some.inj h] at hindex
    cases hindex
  · obtain ⟨j, hj, heq⟩ := Option.map_eq_some_iff.mp h
    have hja : j = a := by
      split at heq
      · rw [← heq] at hindex
        exact Int.ofNat_inj.mp (Option.some.inj hindex)
      · exact statementAt_inj heq
    subst hja
    have hdefs := List.find?_some hj
    cases hinst : n.code[j]? with
    | none => simp [hinst] at hdefs
    | some inst => exact ⟨inst, rfl, by simpa [hinst] using hdefs⟩

/-- Only control dependence leaves a jump: it leads to what the jump controls. -/
theorem controls_of_depends {inst : Instruction} (hinst : n.code[a]? = some inst)
    (hjump : inst.target? ≠ none) (h : n.Depends (n.statementAt a) kind s) :
    ∃ b, s = n.statementAt b ∧ n.code.Controls a b := by
  generalize hsource : n.statementAt a = source at h
  cases h with
  | callPart _ ht =>
      cases statementAt_inj hsource
      rcases mem_callPartsAt.mp ht with hactual | ⟨hresult, _⟩
      · obtain ⟨inst', k, hinst', hk, _⟩ := mem_actualsAt.mp hactual
        rw [hinst] at hinst'
        cases hinst'
        cases inst with
        | invoke => exact absurd rfl hjump
        | _ => exact absurd hk (Nat.not_lt_zero k)
      · unfold receivesResult at hresult
        rw [hinst] at hresult
        cases inst with
        | invoke => exact absurd rfl hjump
        | _ => cases hresult
  | use _ _ hd _ =>
      obtain ⟨inst', hinst', hdefs⟩ := mem_defs_of_definition? (hsource ▸ hd)
      rw [hinst] at hinst'
      cases hinst'
      cases inst with
      | branch => cases hdefs
      | goto => cases hdefs
      | _ => exact absurd rfl hjump
  | returned _ hret _ =>
      cases statementAt_inj hsource
      rw [hinst] at hret
      cases hret
      exact absurd rfl hjump
  | @branch row b hrow hb =>
      cases statementAt_inj hsource
      exact ⟨b, rfl, row, hrow, rfl, hb⟩
  | unguarded _ _ =>
      unfold statementAt at hsource
      split at hsource <;> cases hsource

theorem exists_jump_of_isBranch (h : n.code.IsBranch a) :
    ∃ inst, n.code[a]? = some inst ∧ inst.target? ≠ none := by
  obtain ⟨inst, hinst, hbranch⟩ := h
  refine ⟨inst, hinst, ?_⟩
  cases inst with
  | branch => exact Option.some_ne_none _
  | _ => cases hbranch

/-- Jumps that control only each other lead to nothing else. -/
theorem exists_jump_of_leads {kinds : List Dependence} (jumps : List Nat)
    (hjumps : ∀ a ∈ jumps, ∃ inst, n.code[a]? = some inst ∧ inst.target? ≠ none)
    (hclosed : ∀ row ∈ n.code.controlDependence, row.1 ∈ jumps → ∀ b ∈ row.2, b ∈ jumps)
    (h : (Procedure.ofNode n).Leads kinds (n.statementAt a) s) (ha : a ∈ jumps) :
    ∃ b ∈ jumps, s = n.statementAt b := by
  induction h with
  | refl => exact ⟨a, ha, rfl⟩
  | tail _ hlink ih =>
      obtain ⟨x, hx, rfl⟩ := ih
      obtain ⟨inst, hinst, hjump⟩ := hjumps x hx
      obtain ⟨kind, _, hmem⟩ := hlink
      obtain ⟨b, rfl, row, hrow, rfl, hb⟩ := controls_of_depends hinst hjump (mem_links.mp hmem).2
      exact ⟨b, hclosed row hrow hx b hb, rfl⟩

/-! ### Operands -/

theorem statementAt_phi (hphi : n.code[p]? = some (.phi r vs)) : n.statementAt p = .phi n.id p := by
  unfold statementAt
  rw [hphi]

/-- A call in the body of a parsed method that defines a value receives a result. -/
theorem receivesResult_of_defines (hn : n.method.Parsed) {site : CallSite} {args : List Value}
    (hcall : n.code[t]? = some (.invoke (some v) site args)) : n.receivesResult t = true := by
  obtain ⟨d, hd, _, hvoid⟩ := (hn.wellFormed_code.sound t _ hcall).fits _ _ _ rfl
  unfold receivesResult
  rw [hcall]
  have hresult : d.result ≠ voidType := fun heq => by cases hvoid heq
  simp [Instruction.returnsValue, Signature.returnsVoid, Signature.resultType?, Signature.types, hd,
    hresult]

/-- What defines an operand of a merge leads to the merge. -/
theorem leads_of_operand (hn : n.method.Parsed) (hbody : n.method.hasBody = true)
    (hphi : n.code[p]? = some (.phi r vs)) (hv : v ∈ vs) (ht : n.code.definedAt? v = some t) :
    (Procedure.ofNode n).Leads [.data, .control] (n.statementAt t) (.phi n.id p) := by
  have hp : p ∈ n.indices := mem_indices.mpr ⟨hbody, (Array.getElem?_eq_some_iff.mp hphi).1⟩
  have huse : v ∈ n.usesAt p := by
    simp [usesAt, hphi, Instruction.uses, hv]
  have hstatement : (.phi n.id p : Statement) ∈ n.useStatements p v := by
    simp [useStatements, hphi, statementAt_phi hphi]
  have htsize : t < n.code.size := List.mem_range.mp (List.mem_of_find?_eq_some ht)
  have htdefs := List.find?_some ht
  obtain ⟨inst, hinst⟩ : ∃ inst, n.code[t]? = some inst := ⟨_, Array.getElem?_eq_getElem htsize⟩
  have hdefs : v ∈ inst.defs := by simpa [hinst] using htdefs
  have hfresh : n.method.isParameter v = false := by
    have hlt := hn.wellFormed_code.fresh t inst hinst v hdefs
    simp [Method.isParameter, hlt]
  have hdata : ∀ d, n.definition? v = some d →
      (Procedure.ofNode n).Leads [.data, .control] d (.phi n.id p) :=
    fun d hd => leads_of_depends hbody (by simp) (.use hp huse hd hstatement)
  cases inst with
  | invoke result site args =>
      -- a call hands its result on to the statement that receives it
      cases Option.mem_toList.mp hdefs
      have hresult := receivesResult_of_defines hn hinst
      have hcall : n.Depends (n.statementAt t) .control (.result n.id t) :=
        .callPart (mem_indices.mpr ⟨hbody, htsize⟩) (mem_callPartsAt.mpr (Or.inr ⟨hresult, rfl⟩))
      refine (leads_of_depends hbody (by simp) hcall).trans (hdata _ ?_)
      simp [definition?, hfresh, ht, hinst]
  | _ => exact hdata _ (by simp [definition?, hfresh, ht, hinst])

/-! ### Merges -/

/-- A branch leads to a merge that is reached from something the branch governs. -/
theorem leads_of_governs (hbody : n.method.hasBody = true) (h : n.code.Governs a t)
    (ht : (Procedure.ofNode n).Leads [.data, .control] (n.statementAt t) s) :
    (Procedure.ofNode n).Leads [.data, .control] (n.statementAt a) s :=
  (leads_of_controls hbody (by simp) h.to_reflTransGen).trans ht

/-- Where control has to pass a merge after the branch that selects its value, the branch leads to the
    merge only through an arm. The induction is on the path of dependences: its first link leads into an
    arm, or back to the branch. -/
theorem exists_arm_of_leads (hphi : n.code[p]? = some (.phi r vs))
    (h : n.code.Selects a c c' p q q') (hp : n.code.LeadsOut p) (hforced : n.code.Forces a p)
    (hleads : (Procedure.ofNode n).Leads [.data, .control] (n.statementAt a) (.phi n.id p)) :
    ∃ t, (n.code.Between c p t ∨ n.code.Between c' p t) ∧
      (Procedure.ofNode n).Leads [.data, .control] (n.statementAt t) (.phi n.id p) := by
  generalize hsource : n.statementAt a = source at hleads
  induction hleads using ReflTransGen.head_induction_on with
  | refl =>
      rw [← statementAt_phi hphi] at hsource
      exact absurd (statementAt_inj hsource).symm hforced.1
  | @head source target hlink hrest ih =>
      obtain ⟨kind, _, hmem⟩ := hlink
      obtain ⟨inst, hinst, hjump⟩ := exists_jump_of_isBranch h.isBranch
      obtain ⟨b, rfl, hcontrols⟩ :=
        controls_of_depends hinst hjump (hsource ▸ (mem_links.mp hmem).2)
      by_cases hb : b = a
      · exact ih (hb ▸ rfl)
      · exact ⟨b, h.between_of_controls hp hforced hcontrols hb, hrest⟩

/-- When a merge depends on a branch that selects from where control first arrives there. If the exit can
    be reached from the merge: exactly if some way from the branch to the exit avoids the merge, or an
    instruction of one of the two arms leads to the merge; in a parsed method, every instruction that
    defines an operand does. If the exit cannot be reached from the merge, an instruction that leads to it
    has to be reached in an arm through branches and points that lead out, and the exit after the other
    outcome of the branch or not after this one. -/
theorem merge_depends_iff (n : Node) (hbody : n.method.hasBody = true) {a c c' p q q' : Nat} {r : Value}
    {vs : List Value} (hphi : n.code[p]? = some (.phi r vs)) (h : n.code.Selects a c c' p q q') :
    let Leads := (Procedure.ofNode n).Leads [.data, .control]
    (n.code.LeadsOut p →
      (Leads (n.statementAt a) (.phi n.id p) ↔
        ¬ n.code.Forces a p ∨
          ∃ t, (n.code.Between c p t ∨ n.code.Between c' p t) ∧
            Leads (n.statementAt t) (.phi n.id p))) ∧
    (n.method.Parsed → ∀ v ∈ vs, ∀ t, n.code.definedAt? v = some t →
      Leads (n.statementAt t) (.phi n.id p)) ∧
    (¬ n.code.LeadsOut p → ∀ t < n.code.size, n.code.Flows t p →
      (ReflTransGen (n.code.Bypasses p) c t ∧ (n.code.LeadsOut c' ∨ ¬ n.code.LeadsOut c) ∨
        ReflTransGen (n.code.Bypasses p) c' t ∧ (n.code.LeadsOut c ∨ ¬ n.code.LeadsOut c')) →
      Leads (n.statementAt t) (.phi n.id p) → Leads (n.statementAt a) (.phi n.id p)) := by
  intro Leads
  have hsize : p < n.code.size := (Array.getElem?_eq_some_iff.mp hphi).1
  have hend : Leads (n.statementAt p) (.phi n.id p) := statementAt_phi hphi ▸ ReflTransGen.refl
  refine ⟨?_, ?_, ?_⟩
  · intro hp
    constructor
    · intro hleads
      by_cases hforced : n.code.Forces a p
      · exact Or.inr (exists_arm_of_leads hphi h hp hforced hleads)
      · exact Or.inl hforced
    · intro hcases
      by_cases hforced : n.code.Forces a p
      · obtain ⟨t, ht, hleads⟩ := hcases.resolve_left (not_not_intro hforced)
        rcases ht with ht | ht
        · exact leads_of_governs hbody (h.governs_arm hp hforced ht) hleads
        · exact leads_of_governs hbody (h.symm.governs_arm hp hforced ht) hleads
      · exact leads_of_governs hbody (h.governs_target hp hsize hforced) hend
  · intro hn v hv t ht
    exact leads_of_operand hn hbody hphi hv ht
  · intro hp t htsize ht hpath hleads
    rcases hpath with ⟨hpath, hout⟩ | ⟨hpath, hout⟩
    · exact leads_of_governs hbody (h.governs_stuck hp hpath ht htsize hout) hleads
    · exact leads_of_governs hbody (h.symm.governs_stuck hp hpath ht htsize hout) hleads

/-- A constant for each outcome of a branch: the merge depends on the branch through one of them. -/
theorem merge_depends_constants :
    let n := running #[.branch "eq" 1 2 3, .const 3 (.int 1), .goto 4, .const 4 (.int 2),
      .phi 5 [3, 4], .ret none]
    n.method.hasBody = true ∧ n.code[4]? = some (.phi 5 [3, 4]) ∧ n.code.Selects 0 1 3 4 2 3 ∧
      (Procedure.ofNode n).Leads [.data, .control] (n.statementAt 0) (.phi n.id 4) := by
  intro n
  have hselects : n.code.Selects 0 1 3 4 2 3 := by
    constructor
    case step => decide
    case step' => decide
    case reaches =>
      exact .tail (.single (show n.code.Steps 1 2 by decide)) (show n.code.Steps 2 4 by decide)
    case reaches' => exact .single (show n.code.Steps 3 4 by decide)
    case first => exact fun x hx => hx.eq_of_closed [1, 2] (by decide) (by decide)
    case first' => exact fun x hx => hx.eq_of_closed [3] (by decide) (by decide)
    case different => decide
  have hout : n.code.LeadsOut 4 :=
    ⟨_, .step (show n.code.Steps 4 5 by decide) (.step (show n.code.Steps 5 6 by decide) .exit)⟩
  have hdata : n.Depends (n.statementAt 1) .data (.phi n.id 4) :=
    .use (show 4 ∈ n.indices by decide) (show 3 ∈ n.usesAt 4 by decide) (by cbv) (by decide)
  refine ⟨rfl, rfl, hselects, ?_⟩
  refine ((merge_depends_iff n rfl rfl hselects).1 hout).mpr (Or.inr ⟨1, Or.inl ?_, ?_⟩)
  · exact ⟨.refl, by decide, hselects.reaches⟩
  · exact leads_of_depends rfl (by simp) hdata

/-- A branch selects one of two parameters. -/
def choosing : Node := running #[.branch "eq" 1 2 2, .goto 2, .phi 3 [1, 2], .ret none]

/-- A branch selects a constant or a parameter, and control never gets to the exit. -/
def circling : Node :=
  running #[.branch "eq" 1 2 4, .goto 2, .const 3 (.int 0), .goto 5, .goto 5, .phi 4 [3, 1], .goto 6]

theorem choosing_selects : choosing.code.Selects 0 1 2 2 1 0 := by
  constructor
  case step => decide
  case step' => decide
  case reaches => exact .single (show choosing.code.Steps 1 2 by decide)
  case reaches' => exact .refl
  case first => exact fun x hx => hx.eq_of_closed [1] (by decide) (by decide)
  case first' => exact fun x hx => hx.eq_of_closed [] (by decide) (by decide)
  case different => decide

theorem circling_selects : circling.code.Selects 0 1 4 5 3 4 := by
  constructor
  case step => decide
  case step' => decide
  case reaches =>
    exact .tail (.tail (.single (show circling.code.Steps 1 2 by decide))
      (show circling.code.Steps 2 3 by decide)) (show circling.code.Steps 3 5 by decide)
  case reaches' => exact .single (show circling.code.Steps 4 5 by decide)
  case first => exact fun x hx => hx.eq_of_closed [1, 2, 3] (by decide) (by decide)
  case first' => exact fun x hx => hx.eq_of_closed [4] (by decide) (by decide)
  case different => decide

theorem choosing_not_leads :
    ¬ (Procedure.ofNode choosing).Leads [.data, .control] (choosing.statementAt 0)
      (.phi choosing.id 2) := by
  intro h
  have htable : choosing.code.controlDependence = [(0, [1])] := by cbv
  obtain ⟨b, hb, heq⟩ := exists_jump_of_leads [0, 1]
    (by simp [choosing, running, code, Instruction.target?]) (by rw [htable]; decide) h (by decide)
  simp only [List.mem_cons, List.not_mem_nil, or_false] at hb
  rcases hb with rfl | rfl <;> cases heq

theorem circling_not_leads :
    ¬ (Procedure.ofNode circling).Leads [.data, .control] (circling.statementAt 0)
      (.phi circling.id 5) := by
  intro h
  have htable : circling.code.controlDependence = [(0, [1, 4])] := by cbv
  obtain ⟨b, hb, heq⟩ := exists_jump_of_leads [0, 1, 4]
    (by simp [circling, running, code, Instruction.target?]) (by rw [htable]; decide) h (by decide)
  simp only [List.mem_cons, List.not_mem_nil, or_false] at hb
  rcases hb with rfl | rfl | rfl <;> cases heq

/-- Merges that do not depend on the branch that selects their value. The first one merges two
    parameters. The second one merges a constant that is defined in one of the arms, but the arm does not
    begin with the constant and control never gets to the exit. -/
theorem merge_not_depends :
    (choosing.method.hasBody = true ∧
      choosing.code.check choosing.method.parameterCount = .ok () ∧
      choosing.code[2]? = some (.phi 3 [1, 2]) ∧ choosing.code.Selects 0 1 2 2 1 0 ∧
      ¬ (Procedure.ofNode choosing).Leads [.data, .control] (choosing.statementAt 0)
        (.phi choosing.id 2)) ∧
    (circling.method.hasBody = true ∧
      circling.code.check circling.method.parameterCount = .ok () ∧
      circling.code[5]? = some (.phi 4 [3, 1]) ∧ circling.code.Selects 0 1 4 5 3 4 ∧
      circling.code.definedAt? 3 = some 2 ∧ circling.code.Between 1 5 2 ∧
      ¬ (Procedure.ofNode circling).Leads [.data, .control] (circling.statementAt 0)
        (.phi circling.id 5)) := by
  have hpath : circling.code.Avoids 5 1 2 := ⟨by decide, by decide⟩
  refine ⟨⟨rfl, rfl, rfl, choosing_selects, choosing_not_leads⟩, rfl, rfl, rfl, circling_selects, rfl,
    ⟨.single hpath, by decide, ?_⟩, circling_not_leads⟩
  exact .tail (.single (show circling.code.Steps 2 3 by decide)) (show circling.code.Steps 3 5 by decide)

end Node

end TaintFlow
