/-
Module: TaintFlow.Proofs.Slice.Realizable
Purpose: A forward slice holds exactly what realizable paths lead to. Such a path carries a stack of
  calls: going down into a callee pushes the call, going up to a caller pops it and has to match it unless
  the stack is empty, and dependence through the heap empties the stack. The slice never looks at a stack.
  Towards the slice, `Covered` keeps for every call on the stack the state in which it was made, so that
  a return can be replaced by a step over the call; away from it, a shortcut is unfolded, round by round,
  into the path through the callee that it stands for.
Main exports: Call, Link.advance, Realizable, DependenceGraph.closed_ofGraph,
  DependenceGraph.mem_slice_iff, Slicer.Used, slice_mem_iff_realizable
-/
import TaintFlow.Proofs.Dump.Formed
import TaintFlow.Proofs.Slice.Sweep

namespace TaintFlow

/-! ### Paths with a stack of calls -/

/-- A call: the node that makes it and the index of its instruction. -/
structure Call where
  node : NodeId
  index : Int
deriving DecidableEq, Repr, Inhabited

/-- The call that a part of a call belongs to. -/
def Statement.call (s : Statement) : Call := ⟨s.node, s.index⟩

/-- The stack after a dependence is followed, if it may be followed with this stack. Summaries are no
    part of a path: they abbreviate one. -/
def Link.advance (l : Link) (stack : List Call) : Option (List Call) :=
  match l.kind with
  | .data => some stack
  | .control => some stack
  | .heap => some []
  | .param => some (l.source.call :: stack)
  | .call => some (l.source.call :: stack)
  | .ret =>
      match stack with
      | [] => some []
      | call :: rest => if l.target.call = call then some rest else none
  | .summary => none

/-- A realizable path leads from the criterion to a statement and leaves a stack of calls. -/
inductive Realizable (S : DependenceGraph) (criterion : Statement) : Statement → List Call → Prop where
  | start : Realizable S criterion criterion []
  | follow {s : Statement} {stack stack' : List Call} {l : Link} : Realizable S criterion s stack →
      l ∈ S.successors s → l.advance stack = some stack' → Realizable S criterion l.target stack'

/-- A call is determined by its node's number and its index. -/
theorem CallGraph.Calls.eq_of_call {g : CallGraph} (hg : g.Indexed) {n n' m : Node} {i j : Nat}
    (h : g.Calls n' j m) (hn : n ∈ g.nodes) (hcall : (⟨n.id, i⟩ : Call) = ⟨n'.id, j⟩) :
    n = n' ∧ i = j := by
  injection hcall with hid hindex
  exact ⟨hg.eq_of_id_eq hn h.1 hid, by omega⟩

namespace Options

variable {o : Options}

/-- Control dependence is followed wherever calls are followed into callees. -/
theorem enables_control (h : o.enables .call = true) : o.enables .control = true := by
  obtain ⟨data, control⟩ := o
  cases control <;> simp_all [enables]

end Options

namespace DependenceGraph

variable {S : DependenceGraph} {c s t x : Statement} {phase : Phase} {stack : List Call}

/-! ### From paths to the slice

A step inside an activation never leaves the phase for a worse one. A descent leads below, where a path
inside the callee can be followed to its end; hence each statement of a realizable path is visited. -/

/-- Dependence by data or control is a step inside an activation. -/
theorem local_mem_levelTargets (hS : S.Closed) {kind : Dependence}
    (hkind : kind = .data ∨ kind = .control) (henabled : S.options.enables kind = true)
    (h : Linked S.graph S.heap s kind t ∨ Shortcut S.shortcuts s kind t) :
    t ∈ S.levelTargets S.shortcuts s := by
  rcases h with h | h
  · cases h with
    | inside hn hbody hdep =>
        exact (mem_levelTargets hS.toAssembled).mpr (Or.inl ⟨_, hn, hbody, kind, henabled, hdep⟩)
    | heap => rcases hkind with h | h <;> cases h
    | param => rcases hkind with h | h <;> cases h
    | call => rcases hkind with h | h <;> cases h
    | ret => rcases hkind with h | h <;> cases h
  · cases h with
    | across => rcases hkind with h | h <;> cases h

/-- A shortcut of the graph is followed as a summary. -/
theorem shortcut_mem_successors (hS : S.Closed) {id : NodeId} {i k : Int}
    (h : .actual id i k ∈ S.shortcuts) :
    (⟨.actual id i k, .summary, .result id i⟩ : Link) ∈ S.successors (.actual id i k) :=
  (mem_successors hS.toAssembled).mpr ⟨rfl, ((hS.shortcut _).mp h).1, Or.inr (.across h)⟩

/-- A step inside an activation is a dependence that is followed in any phase; below, only the heap
    leads out. -/
theorem visited_level (hS : S.Closed) (hc : c ∈ S.statements) (h : (s, phase) ∈ S.visited c)
    (hstep : t ∈ S.levelTargets S.shortcuts s) :
    ∃ phase', (t, phase') ∈ S.visited c ∧ (phase = .free → phase' = .free) := by
  rcases (mem_levelTargets hS.toAssembled).mp hstep with
    ⟨n, hn, hbody, kind, henabled, hdep⟩ | ⟨id, i, k, rfl, hmem, rfl⟩ | ⟨henabled, hlink, _⟩
  · have hl : (⟨s, kind, t⟩ : Link) ∈ S.successors s :=
      (mem_successors hS.toAssembled).mpr ⟨rfl, henabled, Or.inl (.inside hn hbody hdep)⟩
    refine ⟨phase, visited_follow hS hc h hl ?_, id⟩
    rcases hdep.kind_local with rfl | rfl <;> cases phase <;> rfl
  · refine ⟨phase, visited_follow hS hc h (shortcut_mem_successors hS hmem) ?_, fun hfree => hfree⟩
    cases phase <;> rfl
  · have hl : (⟨s, .heap, t⟩ : Link) ∈ S.successors s :=
      (mem_successors hS.toAssembled).mpr ⟨rfl, henabled, Or.inl hlink⟩
    refine ⟨.free, visited_follow hS hc h hl ?_, fun _ => rfl⟩
    cases phase <;> rfl

/-- An activation with a path from a parameter to what it returns has a body and returns a value. -/
theorem body_of_path_to_returned (hS : S.Closed) {m : Node} (hm : m ∈ S.graph.nodes) {k : Int}
    (hpath : Reach.Reaches (S.levelTargets S.shortcuts) m.statements (.formal m.id k)
      (.returned m.id)) : m.method.hasBody = true ∧ m.returnsValue = true := by
  cases hpath with
  | step hpre hlast hend =>
      rcases (mem_levelTargets hS.toAssembled).mp hlast with
        ⟨n, hn, hbody, kind, _, hdep⟩ | ⟨_, _, _, _, _, heq⟩ | ⟨_, hlink, _⟩
      · have hnm : n = m := by
          apply hS.indexed.eq_of_id_eq hn hm
          rw [← hdep.source_node, Node.node_of_mem_statements hpre.end_mem]
        subst hnm
        refine ⟨hbody, ?_⟩
        rcases Node.mem_statements.mp hend with h | h | ⟨i, _, h | h⟩ | ⟨h, _⟩
        · cases h
        · obtain ⟨_, _, h⟩ := Node.mem_formals.mp h
          cases h
        · unfold Node.statementAt at h
          split at h <;> cases h
        · rcases Node.mem_callPartsAt.mp h with h | ⟨_, h⟩
          · obtain ⟨_, _, _, _, h⟩ := Node.mem_actualsAt.mp h
            cases h
          · cases h
        · exact h
      · cases heq
      · cases hlink with
        | inside _ _ hdep => rcases hdep.kind_local with h | h <;> cases h

/-- A parameter whose callee returns a value that depends on it is a shortcut. -/
theorem passed_mem_shortcuts (hS : S.Closed) {n m : Node} {i : Nat} {k : Int}
    (hact : .actual n.id i k ∈ S.statements) (hcalls : S.graph.Calls n i m)
    (hres : n.receivesResult i = true) (hk : k < m.method.parameterCount)
    (henabled : S.options.enables .param = true)
    (hpath : Reach.Reaches (S.levelTargets S.shortcuts) m.statements (.formal m.id k)
      (.returned m.id)) : .actual n.id i k ∈ S.shortcuts := by
  obtain ⟨n', hn', j, hj, hid, hij, hmem, hnonneg⟩ := actual_mem_statements hact
  have hnn : n' = n := hS.indexed.eq_of_id_eq hn' hcalls.1 hid
  have hij' : j = i := by omega
  subst hnn hij'
  obtain ⟨p, rfl⟩ := Int.eq_ofNat_of_zero_le hnonneg
  have hlt : p < m.method.parameterCount := Int.ofNat_lt.mp hk
  obtain ⟨hbody, hreturns⟩ := body_of_path_to_returned hS hcalls.2.1 hpath
  exact (hS.shortcut _).mpr
    ⟨henabled, .across hcalls hj hres hmem hlt hbody hreturns hpath⟩

/-- The result of a call depends on the call. -/
theorem result_depends_on_call {n m : Node} {i : Nat} (hcalls : S.graph.Calls n i m)
    (hi : i ∈ n.indices) (hres : n.receivesResult i = true) :
    n.Depends (.normal n.id i) .control (.result n.id i) := by
  obtain ⟨_, _, inst, site, hinst, hsite, _⟩ := hcalls
  have hphi : inst.isPhi = false := by
    cases inst with
    | phi r vs => cases hsite
    | _ => rfl
  rw [← Node.statementAt_of_not_phi hinst hphi]
  exact .callPart hi (Node.mem_callPartsAt.mpr (Or.inr ⟨hres, rfl⟩))

/-- A statement reached with a stack: with the empty stack it is visited in the free phase; under a call
    it lies on a path inside the callee from where the call led, and the call was itself covered. -/
inductive Covered (S : DependenceGraph) (criterion : Statement) : Statement → List Call → Prop where
  | free {s : Statement} : (s, .free) ∈ S.visited criterion → Covered S criterion s []
  | under {x s : Statement} {stack : List Call} {l : Link} {m : Node} : Covered S criterion x stack →
      l ∈ S.successors x → l.kind.isDescending = true → m ∈ S.graph.nodes →
      Reach.Reaches (S.levelTargets S.shortcuts) m.statements l.target s →
      Covered S criterion s (x.call :: stack)

namespace Covered

/-- A covered statement is visited, in the free phase if the stack is empty. -/
theorem visited (hS : S.Closed) (hc : c ∈ S.statements) (h : Covered S c s stack) :
    ∃ phase, (s, phase) ∈ S.visited c ∧ (stack = [] → phase = .free) := by
  induction h with
  | free hfree => exact ⟨.free, hfree, fun _ => rfl⟩
  | @under x s stack l m _ hl hdown _ hpath ih =>
      obtain ⟨phase, hx, _⟩ := ih
      have htarget : (l.target, .below) ∈ S.visited c := by
        refine visited_follow hS hc hx hl ?_
        obtain ⟨source, kind, target⟩ := l
        cases kind <;> cases hdown <;> cases phase <;> rfl
      have hpath' : ∃ phase, (s, phase) ∈ S.visited c := by
        induction hpath with
        | refl _ => exact ⟨_, htarget⟩
        | step _ hnext _ ih =>
            obtain ⟨phase, hy⟩ := ih
            obtain ⟨phase', hz, _⟩ := visited_level hS hc hy hnext
            exact ⟨phase', hz⟩
      obtain ⟨phase', hs⟩ := hpath'
      exact ⟨phase', hs, fun hnil => by cases hnil⟩

/-- A step inside the activation keeps a statement covered, with the same stack. -/
theorem level (hS : S.Closed) (hc : c ∈ S.statements) (h : Covered S c s stack)
    (hstep : t ∈ S.levelTargets S.shortcuts s) : Covered S c t stack := by
  cases h with
  | free hfree =>
      obtain ⟨phase, ht, hphase⟩ := visited_level hS hc hfree hstep
      rw [hphase rfl] at ht
      exact .free ht
  | under hx hl hdown hm hpath =>
      exact .under hx hl hdown hm (.step hpath hstep (levelTarget_mem hS hm hpath.end_mem hstep))

/-- A covered statement is a statement of an activation. -/
theorem mem_statements (hS : S.Closed) (hc : c ∈ S.statements) (h : Covered S c s stack) :
    s ∈ S.statements := by
  obtain ⟨phase, hs, _⟩ := h.visited hS hc
  exact mem_statements_of_visited hS hc hs

/-- A descent covers the target, under the call it is made from. -/
theorem descend (hS : S.Closed) (hc : c ∈ S.statements) {l : Link} (h : Covered S c s stack)
    (hl : l ∈ S.successors s) (hdown : l.kind.isDescending = true) :
    Covered S c l.target (s.call :: stack) := by
  obtain ⟨n, hn, hmem⟩ :=
    DependenceGraph.mem_statements.mp (successor_mem hS (h.mem_statements hS hc) hl)
  exact .under h hl hdown hn (.refl hmem)

/-- The matching return: what led over the call also leads to its result. Through a parameter that is a
    shortcut, since the path inside the callee is what a shortcut stands for; through the call itself it
    is the control dependence of the result on the call. -/
theorem comeBack (hS : S.Closed) (hc : c ∈ S.statements) {n m : Node} {i : Nat}
    (h : Covered S c (.returned m.id) (⟨n.id, i⟩ :: stack)) (hcalls : S.graph.Calls n i m)
    (hres : n.receivesResult i = true) : Covered S c (.result n.id i) stack := by
  have hi : i ∈ n.indices := mem_indices_of_calls hS.bodiless hcalls
  generalize hcall : (⟨n.id, i⟩ : Call) = call at h
  cases h with
  | @under x _ _ l m' hx hl hdown hm' hpath =>
      -- the path inside the callee starts and ends in the activation that returns
      have hmm : m' = m := by
        apply hS.indexed.eq_of_id_eq hm' hcalls.2.1
        exact (Node.node_of_mem_statements hpath.end_mem).symm
      subst hmm
      refine hx.level hS hc ?_
      obtain ⟨hsource, henabled, hlink | hshort⟩ := (mem_successors hS.toAssembled).mp hl
      · obtain ⟨source, kind, target⟩ := l
        dsimp only at hsource henabled hlink hdown hpath
        subst hsource
        cases hlink with
        | inside _ _ hdep => rcases hdep.kind_local with rfl | rfl <;> cases hdown
        | heap => cases hdown
        | ret => cases hdown
        | @param n' callee j k hcalls' hk =>
            obtain ⟨rfl, rfl⟩ := hcalls'.eq_of_call hS.indexed hcalls.1 hcall
            have hcallee : callee = m' := hS.indexed.eq_of_id_eq hcalls'.2.1 hm'
              (Node.node_of_mem_statements hpath.start_mem)
            subst hcallee
            exact (mem_levelTargets hS.toAssembled).mpr (Or.inr (Or.inl ⟨_, _, _, rfl,
              passed_mem_shortcuts hS (hx.mem_statements hS hc) hcalls hres hk henabled hpath, rfl⟩))
        | @call n' callee j hcalls' =>
            obtain ⟨rfl, rfl⟩ := hcalls'.eq_of_call hS.indexed hcalls.1 hcall
            exact (mem_levelTargets hS.toAssembled).mpr (Or.inl ⟨n, hcalls.1,
              (Node.mem_indices.mp hi).1, .control, Options.enables_control henabled,
              result_depends_on_call hcalls hi hres⟩)
      · obtain ⟨source, kind, target⟩ := l
        cases hshort
        cases hdown

end Covered

/-- Every statement of a realizable path is covered. -/
theorem covered_of_realizable (hS : S.Closed) (hc : c ∈ S.statements) (h : Realizable S c s stack) :
    Covered S c s stack := by
  induction h with
  | start => exact .free visited_start
  | @follow s stack stack' l _ hl hadvance ih =>
      obtain ⟨source, kind, target⟩ := l
      obtain ⟨hsource, henabled, hlink⟩ := (mem_successors hS.toAssembled).mp hl
      dsimp only at hsource henabled hlink ⊢
      subst hsource
      cases kind with
      | data =>
          cases hadvance
          exact ih.level hS hc (local_mem_levelTargets hS (Or.inl rfl) henabled hlink)
      | control =>
          cases hadvance
          exact ih.level hS hc (local_mem_levelTargets hS (Or.inr rfl) henabled hlink)
      | heap =>
          cases hadvance
          obtain ⟨phase, hs, _⟩ := ih.visited hS hc
          refine .free (visited_follow hS hc hs hl ?_)
          cases phase <;> rfl
      | param =>
          cases hadvance
          exact ih.descend hS hc hl rfl
      | call =>
          cases hadvance
          exact ih.descend hS hc hl rfl
      | summary => cases hadvance
      | ret =>
          rcases hlink with hlink | hshort
          · cases hlink with
            | inside _ _ hdep => rcases hdep.kind_local with h | h <;> cases h
            | ret hcalls hres =>
                cases stack with
                | nil =>
                    cases hadvance
                    obtain ⟨phase, hs, hfree⟩ := ih.visited hS hc
                    rw [hfree rfl] at hs
                    exact .free (visited_follow hS hc hs hl rfl)
                | cons call rest =>
                    simp only [Link.advance] at hadvance
                    split at hadvance
                    · next hmatch =>
                        cases hadvance
                        rw [← hmatch] at ih
                        exact ih.comeBack hS hc hcalls hres
                    · cases hadvance
          · cases hshort

/-! ### From the slice to paths

A shortcut found in some round stands for a path through the callee that uses shortcuts of earlier rounds
only. Such a path comes back with the stack it started with, or with the empty one if it went through the
heap of the callee on the way. -/

/-- Shortcuts that can be unfolded into realizable paths. -/
def Unfolds (S : DependenceGraph) (c : Statement) (shortcuts : List Statement) : Prop :=
  ∀ id i k, .actual id i k ∈ shortcuts → ∀ stack, Realizable S c (.actual id i k) stack →
    Realizable S c (.result id i) stack ∨ Realizable S c (.result id i) []

variable {shortcuts : List Statement}

/-- A realizable path can be continued by a followed link. -/
theorem realizable_follow (hS : S.Assembled) {kind : Dependence} {stack' : List Call}
    (h : Realizable S c s stack) (henabled : S.options.enables kind = true)
    (hlink : Linked S.graph S.heap s kind t)
    (hadvance : (⟨s, kind, t⟩ : Link).advance stack = some stack') : Realizable S c t stack' :=
  .follow h ((mem_successors hS).mpr ⟨rfl, henabled, Or.inl hlink⟩) hadvance

/-- A step inside an activation continues a realizable path, with the same stack or the empty one. -/
theorem realizable_level (hS : S.Assembled) (hunfolds : Unfolds S c shortcuts)
    (h : Realizable S c s stack) (hstep : t ∈ S.levelTargets shortcuts s) :
    Realizable S c t stack ∨ Realizable S c t [] := by
  rcases (mem_levelTargets hS).mp hstep with
    ⟨n, hn, hbody, kind, henabled, hdep⟩ | ⟨id, i, k, rfl, hmem, rfl⟩ | ⟨henabled, hlink, _⟩
  · refine Or.inl (realizable_follow hS h henabled (.inside hn hbody hdep) ?_)
    rcases hdep.kind_local with rfl | rfl <;> rfl
  · exact hunfolds id i k hmem stack h
  · exact Or.inr (realizable_follow hS h henabled hlink rfl)

/-- A path inside an activation does so as a whole. -/
theorem realizable_path (hS : S.Assembled) (hunfolds : Unfolds S c shortcuts) {within : List Statement}
    (hpath : Reach.Reaches (S.levelTargets shortcuts) within s t) (h : Realizable S c s stack) :
    Realizable S c t stack ∨ Realizable S c t [] := by
  induction hpath with
  | refl _ => exact Or.inl h
  | step _ hnext _ ih =>
      rcases ih with hy | hy
      · exact realizable_level hS hunfolds hy hnext
      · rcases realizable_level hS hunfolds hy hnext with hz | hz
        · exact Or.inr hz
        · exact Or.inr hz

/-- What a round finds can be unfolded, if the shortcuts it uses can be. -/
theorem unfolds_refine (hS : S.Assembled) (henabled : S.options.enables .summary = true)
    (hunfolds : Unfolds S c shortcuts) : Unfolds S c (S.refine shortcuts) := by
  intro id i k hmem stack h
  generalize hactual : Statement.actual id i k = actual at hmem h
  cases (mem_refine hS).mp hmem with
  | @across n m j p hcalls _ hres _ hlt _ _ hpath =>
      cases hactual
      -- summaries, parameters and returns are followed under the same option
      have hparam : S.options.enables .param = true := henabled
      have hret : S.options.enables .ret = true := henabled
      -- down into the callee, through it, and up again to where the path came from
      have hdown : Realizable S c (.formal m.id p) (⟨n.id, j⟩ :: stack) :=
        realizable_follow hS h hparam (.param hcalls (Int.ofNat_lt.mpr hlt)) rfl
      rcases realizable_path hS hunfolds hpath hdown with hup | hup
      · exact Or.inl (realizable_follow hS hup hret (.ret hcalls hres) (if_pos rfl))
      · exact Or.inr (realizable_follow hS hup hret (.ret hcalls hres) rfl)

/-- The shortcuts of a graph can be unfolded. -/
theorem unfolds_shortcuts {g : CallGraph} {heap : PointsTo} {o : Options} (hg : g.Indexed)
    (henabled : o.enables .summary = true) :
    Unfolds (ofGraph g heap o) c (ofGraph g heap o).shortcuts := by
  refine shortcuts_induction ?_ ?_
  · intro id i k hmem
    cases hmem
  · intro a ha
    exact unfolds_refine (assembled_ofGraph hg) (by rw [ofGraph_options]; exact henabled) ha

/-- A step of the search continues a realizable path: in the free phase with the empty stack, below with
    whatever stack there is. -/
theorem realizable_of_follow (hS : S.Closed)
    (hunfolds : S.options.enables .summary = true → Unfolds S c S.shortcuts) {l : Link}
    {phase' : Phase} (h : Realizable S c s stack) (hfree : phase = .free → stack = [])
    (hl : l ∈ S.successors s) (hfollow : follow l phase = some (t, phase')) :
    ∃ stack', Realizable S c t stack' ∧ (phase' = .free → stack' = []) := by
  have ht : t = l.target := follow_target hfollow
  subst ht
  obtain ⟨source, kind, target⟩ := l
  cases kind with
  | data =>
      refine ⟨stack, .follow h hl rfl, ?_⟩
      cases phase <;> cases hfollow <;> exact hfree
  | control =>
      refine ⟨stack, .follow h hl rfl, ?_⟩
      cases phase <;> cases hfollow <;> exact hfree
  | heap => exact ⟨[], .follow h hl rfl, fun _ => rfl⟩
  | param =>
      refine ⟨_, .follow h hl rfl, ?_⟩
      cases phase <;> cases hfollow <;> exact fun hphase => by cases hphase
  | call =>
      refine ⟨_, .follow h hl rfl, ?_⟩
      cases phase <;> cases hfollow <;> exact fun hphase => by cases hphase
  | ret =>
      cases phase with
      | free =>
          have hnil : stack = [] := hfree rfl
          subst hnil
          exact ⟨[], .follow h hl rfl, fun _ => rfl⟩
      | below => cases hfollow
  | summary =>
      obtain ⟨hsource, henabled, hlink | hshort⟩ := (mem_successors hS.toAssembled).mp hl
      · cases hlink with
        | inside _ _ hdep => rcases hdep.kind_local with h | h <;> cases h
      · dsimp only at hsource henabled hshort ⊢
        cases hshort with
        | across hmem =>
            rcases hunfolds henabled _ _ _ hmem stack h with hres | hres
            · refine ⟨stack, hres, ?_⟩
              cases phase <;> cases hfollow <;> exact hfree
            · exact ⟨[], hres, fun _ => rfl⟩

/-- Every visited state lies at the end of a realizable path; in the free phase the stack is empty. -/
theorem realizable_of_visited (hS : S.Closed)
    (hunfolds : S.options.enables .summary = true → Unfolds S c S.shortcuts)
    (h : (s, phase) ∈ S.visited c) :
    ∃ stack, Realizable S c s stack ∧ (phase = .free → stack = []) := by
  apply visited_induction
    (P := fun state => ∃ stack, Realizable S c state.1 stack ∧ (state.2 = .free → stack = []))
    ⟨[], .start, fun _ => rfl⟩ _ h
  intro here next hhere hnext
  obtain ⟨stack, hpath, hfree⟩ := hhere
  obtain ⟨l, hl, hfollow⟩ := mem_steps.mp hnext
  exact realizable_of_follow hS hunfolds hpath hfree hl hfollow

/-! ### The slice -/

/-- The dependence graph of a call graph over parsed methods is closed. -/
theorem closed_ofGraph {g : CallGraph} {heap : PointsTo} {o : Options}
    (hg : g.Built Method.Parsed) : (ofGraph g heap o).Closed where
  toAssembled := assembled_ofGraph hg.indexed
  bodiless := by
    intro n hn hbody
    rw [ofGraph_graph] at hn
    exact (hg.method n hn).code_eq_empty hbody
  shortcut := by
    intro x
    rw [ofGraph_options]
    by_cases henabled : o.enables .summary = true
    · rw [mem_shortcuts_ofGraph hg.indexed henabled]
      simp [henabled]
    · have hnone : (ofGraph g heap o).shortcuts = [] := by
        rw [ofGraph_eq, if_neg henabled]
        rfl
      simp [hnone, henabled]

/-- The slice holds what realizable paths lead to. -/
theorem mem_slice_iff {g : CallGraph} {heap : PointsTo} {o : Options} (hg : g.Built Method.Parsed)
    (hc : c ∈ (ofGraph g heap o).statements) :
    t ∈ (ofGraph g heap o).slice c ↔ ∃ stack, Realizable (ofGraph g heap o) c t stack := by
  have hS : (ofGraph g heap o).Closed := closed_ofGraph hg
  rw [mem_slice]
  constructor
  · rintro ⟨phase, ht⟩
    obtain ⟨stack, hpath, _⟩ := realizable_of_visited hS
      (fun henabled => unfolds_shortcuts hg.indexed (by rwa [ofGraph_options] at henabled)) ht
    exact ⟨stack, hpath⟩
  · rintro ⟨stack, hpath⟩
    obtain ⟨phase, ht, _⟩ := (covered_of_realizable hS hc hpath).visited hS hc
    exact ⟨phase, ht⟩

/-- A statement of an activation has the instruction that it belongs to. -/
theorem instructionOf_ok (hS : S.Assembled) (hs : s ∈ S.statements) :
    ∃ inst, S.graph.instructionOf s = .ok inst := by
  obtain ⟨n, hn, hs⟩ := mem_statements.mp hs
  have hfound : ∀ i ∈ n.indices, s.node = n.id → s.index? = some (i : Int) →
      ∃ inst, S.graph.instructionOf s = .ok inst := by
    intro i hi hnode hindex
    obtain ⟨inst, hinst⟩ := Node.exists_of_mem_indices hi
    have hlook : S.graph.instruction? s = some inst := by
      rw [CallGraph.instruction?, hindex, Option.bind_some, hnode]
      exact (CallGraph.instructionAt?_eq_some hS.indexed).mpr ⟨n, hn, rfl, i, rfl, hinst⟩
    exact ⟨some inst, by simp [CallGraph.instructionOf, hindex, hlook]⟩
  rcases Node.mem_statements.mp hs with rfl | h | ⟨i, hi, rfl | h⟩ | ⟨_, rfl⟩
  · exact ⟨none, rfl⟩
  · obtain ⟨k, _, rfl⟩ := Node.mem_formals.mp h
    exact ⟨none, rfl⟩
  · refine hfound i hi Node.statementAt_node ?_
    unfold Node.statementAt
    split <;> rfl
  · rcases Node.mem_callPartsAt.mp h with h | ⟨_, rfl⟩
    · obtain ⟨_, k, _, _, rfl⟩ := Node.mem_actualsAt.mp h
      exact hfound i hi rfl rfl
    · exact hfound i hi rfl rfl
  · exact ⟨none, rfl⟩

/-- What depends on a statement of an activation can always be found. -/
theorem successorsFrom_eq (hS : S.Assembled) (hs : s ∈ S.statements) :
    S.successorsFrom s = .ok (S.successors s) := by
  obtain ⟨inst, hinst⟩ := instructionOf_ok hS hs
  unfold successorsFrom
  split
  · rw [hinst]
    rfl
  · rfl

/-- Slicing from a statement of an activation never lacks an instruction. -/
theorem sliceFrom_eq (hS : S.Assembled) (hc : c ∈ S.statements) :
    S.sliceFrom c = .ok (S.slice c) := by
  rw [sliceFrom, successorsFrom_eq hS hc]
  rfl

end DependenceGraph

namespace Slicer

/-- The slicers over a call graph and a points-to map: a fresh one, and those left by asking for
    slices. -/
inductive Used (g : CallGraph) (heap : PointsTo) : Slicer → Prop where
  | fresh : Used g heap { graph := g, heap := heap }
  | slice {s : Slicer} (c : Statement) (o : Options) : Used g heap s → Used g heap (s.slice c o).1

variable {g : CallGraph} {heap : PointsTo} {s : Slicer}

/-- Dependences that a slicer remembers are those of its call graph. -/
theorem Used.dependences (h : Used g heap s) (o : Options) :
    (s.dependences o).2 = DependenceGraph.ofGraph g heap o := by
  have hknown : s.graph = g ∧ s.heap = heap ∧
      ∀ p ∈ s.known, p.2 = DependenceGraph.ofGraph g heap p.1 := by
    induction h with
    | fresh => simp
    | @slice s c o _ ih =>
        obtain ⟨hg, hh, hall⟩ := ih
        simp only [Slicer.slice, Slicer.dependences]
        split
        · exact ⟨hg, hh, hall⟩
        · refine ⟨hg, hh, ?_⟩
          intro p hp
          rcases List.mem_append.mp hp with hp | hp
          · exact hall p hp
          · rw [List.mem_singleton.mp hp, hg, hh]
  obtain ⟨hg, hh, hall⟩ := hknown
  unfold Slicer.dependences
  split
  · next S hS =>
      obtain ⟨before, after, heq, _⟩ := List.lookup_eq_some_iff.mp hS
      exact hall (o, S) (by rw [heq]; simp)
  · rw [hg, hh]

/-- Slicing from a statement of an activation gives the slice, whatever was sliced before. -/
theorem Used.slice_eq (hg : g.Built Method.Parsed) (h : Used g heap s) {o : Options} {c : Statement}
    (hc : c ∈ (DependenceGraph.ofGraph g heap o).statements) :
    (s.slice c o).2 = .ok ((DependenceGraph.ofGraph g heap o).slice c) := by
  change (s.dependences o).2.sliceFrom c = _
  rw [h.dependences]
  exact DependenceGraph.sliceFrom_eq (DependenceGraph.closed_ofGraph hg).toAssembled hc

end Slicer

/-! ### Two calls of one method -/

namespace TwoCalls

/-- The call graph with one activation of each method. -/
def graph : CallGraph :=
  (((({} : CallGraph).intern main .everywhere).1.intern pass .everywhere).1.addEdge
    ⟨0, ⟨1, pass.signature, .static⟩, 1⟩).addEdge ⟨0, ⟨2, pass.signature, .static⟩, 1⟩

theorem graph_nodes : graph.nodes = [⟨0, main, .everywhere⟩, ⟨1, pass, .everywhere⟩] := rfl

theorem graph_built : graph.Built Method.Parsed := by
  have hmain : main.Parsed := ⟨program, parsed, main_mem⟩
  have hpass : pass.Parsed := ⟨program, parsed, pass_mem⟩
  have hnodes : ((({} : CallGraph).intern main .everywhere).1.intern pass .everywhere).1.nodes =
      [⟨0, main, .everywhere⟩, ⟨1, pass, .everywhere⟩] := rfl
  refine .addEdge (a := ⟨0, main, .everywhere⟩) (b := ⟨1, pass, .everywhere⟩) _
    (.addEdge (a := ⟨0, main, .everywhere⟩) (b := ⟨1, pass, .everywhere⟩) _
      (.intern _ (.intern _ .empty hmain) hpass) ?_ ?_) ?_ ?_
  all_goals simp [hnodes]

/-- The creation of the object is a statement of the first activation. -/
theorem new_mem_statements : .normal 0 0 ∈ Node.statements ⟨0, main, .everywhere⟩ :=
  Node.statementAt_mem (n := ⟨0, main, .everywhere⟩) (i := 0) (by decide)

theorem new_mem_graph (heap : PointsTo) (o : Options) :
    .normal 0 0 ∈ (DependenceGraph.ofGraph graph heap o).statements := by
  refine DependenceGraph.mem_statements.mpr ⟨⟨0, main, .everywhere⟩, ?_, new_mem_statements⟩
  rw [DependenceGraph.ofGraph_graph, graph_nodes]
  exact List.mem_cons_self

end TwoCalls

/-- Slices are realizable-path reachability: whatever was sliced before, slicing from a statement of an
    activation gives a result, ends only when no state is left to visit, and holds exactly the statements
    at the ends of realizable paths. As a loop with two queues it ends after two turns for each dependence at
    most, and has then visited the slice. -/
theorem slice_mem_iff_realizable {g : CallGraph} (hg : g.Built Method.Parsed) {heap : PointsTo}
    {s : Slicer} (hs : s.Used g heap) (o : Options) {c : Statement}
    (hc : c ∈ (DependenceGraph.ofGraph g heap o).statements) :
    let S := DependenceGraph.ofGraph g heap o
    ∃ slice, (s.slice c o).2 = .ok slice ∧
      (∀ state ∈ S.visited c, ∀ next ∈ S.steps state, next ∈ S.visited c) ∧
      (∀ k, 1 + 2 * (S.statements.flatMap S.successors).length ≤ k →
        (Sweep.turns S k { freeTodo := [c] }).Finished ∧
          ∀ t, t ∈ slice ↔ t ∈ (Sweep.turns S k { freeTodo := [c] }).free ∨
            t ∈ (Sweep.turns S k { freeTodo := [c] }).below) ∧
      ∀ t, t ∈ slice ↔ ∃ stack, Realizable S c t stack := by
  intro S
  have hS : S.Closed := DependenceGraph.closed_ofGraph hg
  refine ⟨S.slice c, hs.slice_eq hg hc, ?_, ?_, ?_⟩
  · intro state hstate next hnext
    exact DependenceGraph.visited_closed hS hc hstate hnext
  · intro k hk
    exact Sweep.turns_slice hS hc hk
  · intro t
    exact DependenceGraph.mem_slice_iff hg hc

/-- The object that is passed through one method twice: a slicer that has already sliced from its
    creation, asked again under all dependences. -/
theorem slice_mem_iff_realizable_twoCalls :
    let S := DependenceGraph.ofGraph TwoCalls.graph {} {}
    TwoCalls.graph.Built Method.Parsed ∧
    (Slicer.slice ⟨TwoCalls.graph, {}, []⟩ (.normal 0 0) {}).1.Used TwoCalls.graph {} ∧
    .normal 0 0 ∈ S.statements ∧
    ∃ slice, ((Slicer.slice ⟨TwoCalls.graph, {}, []⟩ (.normal 0 0) {}).1.slice (.normal 0 0) {}).2 =
        .ok slice ∧
      (∀ state ∈ S.visited (.normal 0 0), ∀ next ∈ S.steps state, next ∈ S.visited (.normal 0 0)) ∧
      (∀ k, 1 + 2 * (S.statements.flatMap S.successors).length ≤ k →
        (Sweep.turns S k { freeTodo := [.normal 0 0] }).Finished ∧
          ∀ t, t ∈ slice ↔ t ∈ (Sweep.turns S k { freeTodo := [.normal 0 0] }).free ∨
            t ∈ (Sweep.turns S k { freeTodo := [.normal 0 0] }).below) ∧
      ∀ t, t ∈ slice ↔ ∃ stack, Realizable S (.normal 0 0) t stack :=
  have hused : (Slicer.slice ⟨TwoCalls.graph, {}, []⟩ (.normal 0 0) {}).1.Used TwoCalls.graph {} :=
    .slice _ _ .fresh
  ⟨TwoCalls.graph_built, hused, TwoCalls.new_mem_graph {} {},
    slice_mem_iff_realizable TwoCalls.graph_built hused {} (TwoCalls.new_mem_graph {} {})⟩

end TaintFlow
