/-
Module: TaintFlow.Flow.ControlDependence
Purpose: Which instructions a branch decides about. From each way out of a branch one climbs along
  immediate post-dominators until the branch's own immediate post-dominator or the exit; every
  instruction met on the climb depends on the branch.
Main exports: Flow.PostDominators.up, Flow.controlledBy, Code.controlDependence,
  Code.mem_controlDependence
-/
import TaintFlow.Flow.PostDominance

namespace TaintFlow

namespace Flow

/-- The links that climbs follow: the immediate post-dominator of a point, if any. -/
def PostDominators.up (d : PostDominators) (a : Nat) : List Nat := (d.immediate? a).toList

/-- The instructions that the branch at `a` decides about, in ascending order: those met when climbing
    from its successors, before the point above `a` and before the exit. -/
def controlledBy (code : Code) (d : PostDominators) (a : Nat) : List Nat :=
  let room := (d.up a).foldl Marks.erase (code.allPoints.erase code.exit)
  let met := room.reached d.up (code.successors a)
  (List.range code.size).filter met.has

end Flow

/-- The branches of a body that decide about something, each with the instructions it decides about,
    in ascending order. -/
def Code.controlDependence (code : Code) : List (Nat × List Nat) :=
  let d := code.postDominators
  (List.range code.size).filterMap fun a =>
    match code[a]? with
    | some inst =>
        if inst.isBranch then
          let controlled := Flow.controlledBy code d a
          if controlled.isEmpty then none else some (a, controlled)
        else none
    | none => none

/-- The rows of a body: one for each branch that decides about something. -/
theorem Code.mem_controlDependence {code : Code} {row : Nat × List Nat} :
    row ∈ code.controlDependence ↔
      (∃ inst, code[row.1]? = some inst ∧ inst.isBranch = true) ∧
        row.2 = Flow.controlledBy code code.postDominators row.1 ∧ row.2 ≠ [] := by
  simp only [controlDependence, List.mem_filterMap, List.mem_range]
  constructor
  · rintro ⟨a, _, hrow⟩
    split at hrow
    · next inst hinst =>
        split at hrow
        · next hbranch =>
            split at hrow
            · cases hrow
            · next hne =>
                cases hrow
                exact ⟨⟨inst, hinst, hbranch⟩, rfl, fun hnil => hne (List.isEmpty_iff.mpr hnil)⟩
        · cases hrow
    · cases hrow
  · rintro ⟨⟨inst, hinst, hbranch⟩, hcontrolled, hne⟩
    refine ⟨row.1, (Array.getElem?_eq_some_iff.mp hinst).1, ?_⟩
    simp [hinst, hbranch, hne, ← hcontrolled]

end TaintFlow
