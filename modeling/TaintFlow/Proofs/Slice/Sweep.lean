/-
Module: TaintFlow.Proofs.Slice.Sweep
Purpose: How a slice is found. Slices are defined as a search over statements paired with phases; here the
  search is also run as a loop with a queue for each phase. A turn takes a statement of the free queue, and
  of the other queue only when the free one is empty; a statement that was visited free is not visited again
  below. The loop ends because every visit in a phase puts a dependence into a queue once at most, and what
  it has visited then is the slice.
Main exports: DependenceGraph.Closed, DependenceGraph.visited, Sweep, Sweep.turn, Sweep.turns,
  Sweep.Sound, Sweep.Complete, Sweep.turns_slice
-/
import Mathlib.Data.List.Flatten
import TaintFlow.Proofs.Dependence.Summary
import TaintFlow.Slice

namespace TaintFlow

namespace DependenceGraph

/-- A dependence graph over bodies that were read, with all its shortcuts. -/
structure Closed (S : DependenceGraph) : Prop extends Assembled S where
  bodiless : ∀ n ∈ S.graph.nodes, n.method.hasBody = false → n.code = #[]
  shortcut : ∀ x, x ∈ S.shortcuts ↔ S.options.enables .summary = true ∧ Passed S S.shortcuts x

variable {S : DependenceGraph} {c s t : Statement} {phase : Phase}

/-! ### Steps stay among the statements -/

/-- A step inside an activation stays inside it. -/
theorem levelTarget_mem (hS : S.Closed) {n : Node} (hn : n ∈ S.graph.nodes) (hs : s ∈ n.statements)
    (h : t ∈ S.levelTargets S.shortcuts s) : t ∈ n.statements := by
  have hnode : s.node = n.id := Node.node_of_mem_statements hs
  rcases (mem_levelTargets hS.toAssembled).mp h with
    ⟨m, hm, hbody, kind, _, hdep⟩ | ⟨id, i, k, rfl, hmem, rfl⟩ | ⟨_, hlink, hsame⟩
  · have hmn : m = n := hS.indexed.eq_of_id_eq hm hn (by rw [← hdep.source_node, hnode])
    subst hmn
    exact hdep.target_mem hbody
  · cases ((hS.shortcut _).mp hmem).2 with
    | @across m _ i p calls here received =>
        have hmn : m = n := hS.indexed.eq_of_id_eq calls.1 hn hnode
        subst hmn
        exact Node.callPart_mem here (Node.mem_callPartsAt.mpr (Or.inr ⟨received, rfl⟩))
  · have ht : t ∈ S.statements :=
      hlink.target_mem hS.bodiless (mem_statements.mpr ⟨n, hn, hs⟩)
    obtain ⟨m, hm, ht⟩ := mem_statements.mp ht
    have hmn : m = n := by
      apply hS.indexed.eq_of_id_eq hm hn
      rw [← Node.node_of_mem_statements ht, hsame, hnode]
    subst hmn
    exact ht

/-- Followed dependences lead from statements to statements. -/
theorem successor_mem (hS : S.Closed) {l : Link} (hs : s ∈ S.statements) (h : l ∈ S.successors s) :
    l.target ∈ S.statements := by
  obtain ⟨_, henabled, hlink | hshort⟩ := (mem_successors hS.toAssembled).mp h
  · exact hlink.target_mem hS.bodiless hs
  · obtain ⟨source, kind, target⟩ := l
    dsimp only at hshort ⊢
    cases hshort with
    | across hmem =>
        obtain ⟨n, hn, hs⟩ := mem_statements.mp hs
        refine mem_statements.mpr ⟨n, hn, levelTarget_mem hS hn hs ?_⟩
        exact (mem_levelTargets hS.toAssembled).mpr (Or.inr (Or.inl ⟨_, _, _, rfl, hmem, rfl⟩))

/-! ### The search -/

/-- The states that the search for a slice visits. -/
def visited (S : DependenceGraph) (criterion : Statement) : List (Statement × Phase) :=
  Reach.explore S.steps ((S.domain criterion).flatMap fun s => [(s, .free), (s, .below)])
    [(criterion, .free)]

theorem mem_slice : t ∈ S.slice c ↔ ∃ phase, (t, phase) ∈ S.visited c := by
  simp [slice, visited]

theorem mem_steps {state : Statement × Phase} :
    state ∈ S.steps (s, phase) ↔ ∃ l ∈ S.successors s, follow l phase = some state := by
  simp [steps]

/-- A step leads to the target of a dependence. -/
theorem follow_target {l : Link} {state : Statement × Phase} (h : follow l phase = some state) :
    state.1 = l.target := by
  unfold follow at h
  split at h
  · cases h
    rfl
  · split at h
    · cases h
    · cases h
      rfl

theorem visited_start : (c, .free) ∈ S.visited c := by
  rw [visited, Reach.mem_explore_iff]
  exact ⟨_, List.mem_singleton.mpr rfl, .refl (by simp [domain])⟩

/-- What holds at the start of the search and is kept by every step holds wherever the search gets. -/
theorem visited_induction {P : Statement × Phase → Prop} (hstart : P (c, .free))
    (hstep : ∀ here next, P here → next ∈ S.steps here → P next) {state : Statement × Phase}
    (h : state ∈ S.visited c) : P state := by
  rw [visited, Reach.mem_explore_iff] at h
  obtain ⟨start, hmem, hpath⟩ := h
  rw [List.mem_singleton.mp hmem] at hpath
  induction hpath with
  | refl _ => exact hstart
  | step _ hnext _ ih => exact hstep _ _ ih hnext

/-- The search visits statements only. -/
theorem mem_statements_of_visited (hS : S.Closed) (hc : c ∈ S.statements)
    (h : (s, phase) ∈ S.visited c) : s ∈ S.statements := by
  apply visited_induction (P := fun state => state.1 ∈ S.statements) hc _ h
  intro here next hhere hnext
  obtain ⟨l, hl, hfollow⟩ := mem_steps.mp hnext
  rw [follow_target hfollow]
  exact successor_mem hS hhere hl

/-- The search goes on as long as there is a step to a state that it has not visited. -/
theorem visited_closed (hS : S.Closed) (hc : c ∈ S.statements) {state : Statement × Phase}
    (h : (s, phase) ∈ S.visited c) (hstep : state ∈ S.steps (s, phase)) : state ∈ S.visited c := by
  refine Reach.next_mem_explore h hstep ?_
  obtain ⟨l, hl, hfollow⟩ := mem_steps.mp hstep
  have hmem : state.1 ∈ S.statements := by
    rw [follow_target hfollow]
    exact successor_mem hS (mem_statements_of_visited hS hc h) hl
  rw [List.mem_flatMap]
  refine ⟨state.1, List.mem_append_right _ hmem, ?_⟩
  obtain ⟨s', phase'⟩ := state
  cases phase' <;> simp

/-- The search visits the target of a dependence that it may follow. -/
theorem visited_follow (hS : S.Closed) (hc : c ∈ S.statements) {l : Link} {phase' : Phase}
    (h : (s, phase) ∈ S.visited c) (hl : l ∈ S.successors s)
    (hfollow : follow l phase = some (l.target, phase')) : (l.target, phase') ∈ S.visited c :=
  visited_closed hS hc h (mem_steps.mpr ⟨l, hl, hfollow⟩)

/-! ### Where a turn leads -/

/-- Where followed dependences of some kinds lead from a statement. -/
def targets (S : DependenceGraph) (s : Statement) (kinds : Dependence → Bool) : List Statement :=
  ((S.successors s).filter fun l => kinds l.kind).map Link.target

theorem mem_targets {kinds : Dependence → Bool} :
    t ∈ S.targets s kinds ↔ ∃ l ∈ S.successors s, kinds l.kind = true ∧ l.target = t := by
  simp [targets, and_assoc]

/-- The dependences that lead from one phase into another. -/
def leading : Phase → Phase → Dependence → Bool
  | .free, .free => fun kind => !kind.isDescending
  | .free, .below => fun kind => kind.isDescending
  | .below, .free => fun kind => kind == .heap
  | .below, .below => fun kind => !kind.isAscending && kind != .heap

/-- The steps of the search from a phase into another are the dependences that lead there. -/
theorem mem_steps_iff {phase' : Phase} :
    (t, phase') ∈ S.steps (s, phase) ↔ t ∈ S.targets s (leading phase phase') := by
  have hfollow : ∀ l : Link, follow l phase = some (t, phase') ↔
      leading phase phase' l.kind = true ∧ l.target = t := by
    rintro ⟨source, kind, target⟩
    cases phase <;> cases phase' <;> cases kind <;>
      simp [follow, leading, Dependence.isDescending, Dependence.isAscending]
  simp only [mem_steps, mem_targets, hfollow]

/-- A step from any phase can be made free as well, into the same phase or the free one. -/
theorem exists_step_free {phase' : Phase} (h : (t, phase') ∈ S.steps (s, phase)) :
    ∃ p, (t, p) ∈ S.steps (s, .free) ∧ (p = .free ∨ p = phase') := by
  obtain ⟨l, hl, hkind, htarget⟩ := mem_targets.mp (mem_steps_iff.mp h)
  have hfree : ∃ p, leading .free p l.kind = true ∧ (p = .free ∨ p = phase') := by
    cases hdown : l.kind.isDescending with
    | false => exact ⟨.free, by simp [leading, hdown], Or.inl rfl⟩
    | true =>
        refine ⟨.below, hdown, Or.inr ?_⟩
        cases phase' with
        | below => rfl
        | free => cases phase <;> cases hk : l.kind <;> simp_all [leading, Dependence.isDescending]
  obtain ⟨p, hp, hphase⟩ := hfree
  exact ⟨p, mem_steps_iff.mpr (mem_targets.mpr ⟨l, hl, hp, htarget⟩), hphase⟩

/-- The dependences of a statement divide among the queues that a visit puts them into. -/
theorem length_targets_le (S : DependenceGraph) (s : Statement) (phase : Phase) :
    (S.targets s (leading phase .free)).length + (S.targets s (leading phase .below)).length ≤
      (S.successors s).length := by
  simp only [targets, List.length_map]
  induction S.successors s with
  | nil => simp
  | cons l ls ih =>
      simp only [List.filter_cons, List.length_cons]
      obtain ⟨source, kind, target⟩ := l
      cases phase <;> cases kind <;>
        simp [leading, Dependence.isDescending, Dependence.isAscending] at ih ⊢ <;> omega

/-- The dependences of a statement are not counted without it. -/
theorem length_flatMap_without_le {ss : List Statement} (hs : s ∈ ss) :
    ((Reach.without s ss).flatMap S.successors).length + (S.successors s).length ≤
      (ss.flatMap S.successors).length := by
  induction ss with
  | nil => cases hs
  | cons a ss ih =>
      have hrest : ((Reach.without s ss).flatMap S.successors).length ≤
          (ss.flatMap S.successors).length := (List.filter_sublist.flatMap _).length_le
      by_cases ha : a = s
      · have hwithout : Reach.without s (a :: ss) = Reach.without s ss := by simp [Reach.without, ha]
        rw [hwithout, ha, List.flatMap_cons, List.length_append]
        omega
      · have hwithout : Reach.without s (a :: ss) = a :: Reach.without s ss := by
          simp [Reach.without, ha]
        have hss : s ∈ ss := (List.mem_cons.mp hs).resolve_left (Ne.symm ha)
        have hle := ih hss
        rw [hwithout, List.flatMap_cons, List.flatMap_cons, List.length_append, List.length_append]
        omega

/-- The dependences of the statements that were not seen, counted. -/
def pending (S : DependenceGraph) (seen : List Statement) : Nat :=
  ((S.statements.filter (· ∉ seen)).flatMap S.successors).length

theorem pending_nil : S.pending [] = (S.statements.flatMap S.successors).length := by
  have hfilter : S.statements.filter (· ∉ []) = S.statements := by simp
  rw [pending, hfilter]

/-- Once a statement is seen, its dependences are no longer pending. -/
theorem pending_append {seen : List Statement} (hs : s ∈ S.statements) (hnew : s ∉ seen) :
    S.pending (seen ++ [s]) + (S.successors s).length ≤ S.pending seen := by
  have hfilter : S.statements.filter (· ∉ seen ++ [s]) =
      Reach.without s (S.statements.filter (· ∉ seen)) := by
    simp [Reach.without, List.filter_filter, and_comm]
  have hmem : s ∈ S.statements.filter (· ∉ seen) := by simp [hs, hnew]
  rw [pending, pending, hfilter]
  exact length_flatMap_without_le hmem

end DependenceGraph

/-! ### Turns -/

/-- A slice underway: the statements visited in each phase, in the order of the visits, and the queues. -/
structure Sweep where
  free : List Statement := []
  below : List Statement := []
  freeTodo : List Statement
  belowTodo : List Statement := []
deriving DecidableEq, Repr, Inhabited

namespace Sweep

/-- One turn takes the first statement of the free queue, or of the other queue if the free one is empty. A
    statement that was visited is dropped, one that was visited free also if it comes below; any other is
    visited, and its dependences go to the ends of the queues. -/
def turn (S : DependenceGraph) (w : Sweep) : Sweep :=
  match w.freeTodo, w.belowTodo with
  | s :: todo, _ =>
      if s ∈ w.free then { w with freeTodo := todo }
      else
        { w with
          free := w.free ++ [s]
          freeTodo := todo ++ S.targets s (!·.isDescending)
          belowTodo := w.belowTodo ++ S.targets s (·.isDescending) }
  | [], s :: todo =>
      if s ∈ w.free ∨ s ∈ w.below then { w with belowTodo := todo }
      else
        { w with
          below := w.below ++ [s]
          freeTodo := S.targets s (· == .heap)
          belowTodo := todo ++ S.targets s fun kind => !kind.isAscending && kind != .heap }
  | [], [] => w

/-- A number of turns. -/
def turns (S : DependenceGraph) : Nat → Sweep → Sweep
  | 0, w => w
  | k + 1, w => turns S k (w.turn S)

variable {S : DependenceGraph} {w w' : Sweep} {c s t : Statement} {phase : Phase}

/-! ### What a turn does

Both phases take their turns in the same way, so a turn is described with the phase as a parameter. -/

/-- What was visited in a phase. -/
def seen (w : Sweep) : Phase → List Statement
  | .free => w.free
  | .below => w.below

/-- What the queue of a phase holds. -/
def todo (w : Sweep) : Phase → List Statement
  | .free => w.freeTodo
  | .below => w.belowTodo

/-- Nothing is left to do. -/
def Finished (w : Sweep) : Prop := ∀ phase, w.todo phase = []

/-- The statement that is taken, in the list of the phase it is taken from. -/
def taken (s : Statement) (phase phase' : Phase) : List Statement :=
  if phase' = phase then [s] else []

/-- A turn drops the statement that it takes, or visits it. -/
inductive Takes (S : DependenceGraph) (w w' : Sweep) : Prop where
  | drops (s : Statement) (phase : Phase) (old : s ∈ w.seen .free ∨ s ∈ w.seen phase)
      (seen : ∀ p, w'.seen p = w.seen p) (todo : ∀ p, w.todo p = taken s phase p ++ w'.todo p)
  | visits (s : Statement) (phase : Phase) (rest : Sweep) (new : s ∉ w.seen phase)
      (seen : ∀ p, w'.seen p = w.seen p ++ taken s phase p)
      (before : ∀ p, w.todo p = taken s phase p ++ rest.todo p)
      (after : ∀ p, w'.todo p = rest.todo p ++ S.targets s (DependenceGraph.leading phase p))

theorem turn_finished (h : w.Finished) : w.turn S = w := by
  have hfree : w.freeTodo = [] := h .free
  have hbelow : w.belowTodo = [] := h .below
  simp [turn, hfree, hbelow]

/-- A turn takes a statement, unless nothing is left to do. -/
theorem takes_turn (h : ¬ w.Finished) : w.Takes S (w.turn S) := by
  fun_cases Sweep.turn S w with
  | case1 s todo hfree hold =>
      refine .drops s .free (Or.inl hold) (fun _ => rfl) ?_
      intro p
      cases p with
      | free => exact hfree
      | below => rfl
  | case2 s todo hfree hnew =>
      apply Takes.visits s .free { w with freeTodo := todo } hnew
      all_goals
        intro p
        cases p <;> simp [Sweep.seen, Sweep.todo, taken, hfree, DependenceGraph.leading]
  | case3 s todo hbelow hfree hold =>
      refine .drops s .below hold (fun _ => rfl) ?_
      intro p
      cases p with
      | free => rfl
      | below => exact hbelow
  | case4 s todo hbelow hfree hnew =>
      apply Takes.visits s .below { w with belowTodo := todo } (fun hs => hnew (Or.inr hs))
      all_goals
        intro p
        cases p <;> simp [Sweep.seen, Sweep.todo, taken, hfree, hbelow, DependenceGraph.leading]
  | case5 hbelow hfree =>
      apply absurd _ h
      intro p
      cases p with
      | free => exact hfree
      | below => exact hbelow

/-! ### Invariants -/

/-- A state is met if its statement was visited, in its phase or free, or waits in the queue of its
    phase. -/
def Meets (w : Sweep) (state : Statement × Phase) : Prop :=
  state.1 ∈ w.seen .free ∨ state.1 ∈ w.seen state.2 ∨ state.1 ∈ w.todo state.2

/-- All that a sweep has visited or is to visit belongs to the search. -/
def Sound (S : DependenceGraph) (c : Statement) (w : Sweep) : Prop :=
  ∀ phase s, s ∈ w.seen phase ∨ s ∈ w.todo phase → (s, phase) ∈ S.visited c

/-- A sweep has met its criterion, and what the search gets to by one step from what was visited. -/
structure Complete (S : DependenceGraph) (c : Statement) (w : Sweep) : Prop where
  start : w.Meets (c, .free)
  closed : ∀ phase, ∀ s ∈ w.seen phase, ∀ state ∈ S.steps (s, phase), w.Meets state

theorem mem_taken {phase' : Phase} : t ∈ taken s phase phase' ↔ t = s ∧ phase' = phase := by
  unfold taken
  split <;> simp [*]

/-- What was met stays met. -/
theorem Meets.takes {state : Statement × Phase} (hmeets : w.Meets state) (h : w.Takes S w') :
    w'.Meets state := by
  unfold Meets at hmeets ⊢
  cases h with
  | drops s phase hold hseen htodo =>
      rw [htodo, List.mem_append, mem_taken] at hmeets
      rw [hseen, hseen]
      grind
  | visits s phase rest hnew hseen hbefore hafter =>
      rw [hbefore, List.mem_append, mem_taken] at hmeets
      simp only [hseen, hafter, List.mem_append, mem_taken]
      grind

/-- The search gets to the statement that a turn takes. -/
theorem Sound.visited_of_taken {rest : Sweep} (hw : w.Sound S c)
    (hbefore : ∀ p, w.todo p = taken s phase p ++ rest.todo p) : (s, phase) ∈ S.visited c := by
  apply hw
  rw [hbefore, List.mem_append, mem_taken]
  exact Or.inr (Or.inl ⟨rfl, rfl⟩)

/-- What a visit puts into the queues, the search gets to by one step. -/
theorem Sound.takes (hS : S.Closed) (hc : c ∈ S.statements) (hw : w.Sound S c) (h : w.Takes S w') :
    w'.Sound S c := by
  intro phase' t ht
  cases h with
  | drops s phase hold hseen htodo =>
      apply hw
      rw [htodo, List.mem_append, ← hseen]
      exact ht.imp_right Or.inr
  | visits s phase rest hnew hseen hbefore hafter =>
      rw [hseen, hafter, List.mem_append, List.mem_append, mem_taken] at ht
      have hs : (s, phase) ∈ S.visited c := hw.visited_of_taken hbefore
      rcases ht with (ht | ⟨rfl, rfl⟩) | ht | ht
      · exact hw _ _ (Or.inl ht)
      · exact hs
      · apply hw
        rw [hbefore, List.mem_append]
        exact Or.inr (Or.inr ht)
      · exact DependenceGraph.visited_closed hS hc hs (DependenceGraph.mem_steps_iff.mpr ht)

theorem Complete.takes (hw : w.Complete S c) (h : w.Takes S w') : w'.Complete S c where
  start := hw.start.takes h
  closed := by
    intro phase' t ht state hstate
    have hkept : t ∈ w.seen phase' → w'.Meets state := fun ht =>
      (hw.closed phase' t ht state hstate).takes h
    cases h with
    | drops s phase hold hseen htodo =>
        rw [hseen] at ht
        exact hkept ht
    | visits s phase rest hnew hseen hbefore hafter =>
        rw [hseen, List.mem_append, mem_taken] at ht
        rcases ht with ht | ⟨rfl, rfl⟩
        · exact hkept ht
        · obtain ⟨u, phase⟩ := state
          refine Or.inr (Or.inr ?_)
          rw [hafter, List.mem_append]
          exact Or.inr (DependenceGraph.mem_steps_iff.mp hstate)

/-- What is left to do at most: the statements in the queues, and the dependences that a visit may still put
    there. -/
def work (S : DependenceGraph) (w : Sweep) : Nat :=
  (w.todo .free).length + (w.todo .below).length + S.pending (w.seen .free) + S.pending (w.seen .below)

/-- A turn takes a statement out of a queue, and a visit puts no more statements into the queues than it
    leaves fewer dependences pending. -/
theorem work_takes (hS : S.Closed) (hc : c ∈ S.statements) (hw : w.Sound S c) (h : w.Takes S w') :
    w'.work S < w.work S := by
  unfold work
  cases h with
  | drops s phase hold hseen htodo =>
      rw [hseen, hseen, htodo, htodo]
      cases phase <;> simp [taken]
  | visits s phase rest hnew hseen hbefore hafter =>
      have hmem : s ∈ S.statements :=
        DependenceGraph.mem_statements_of_visited hS hc (hw.visited_of_taken hbefore)
      have hpending := DependenceGraph.pending_append hmem hnew
      have htargets := DependenceGraph.length_targets_le S s phase
      rw [hseen, hseen, hbefore, hbefore, hafter, hafter]
      cases phase <;> simp [taken] at hpending htargets ⊢ <;> omega

/-! ### Runs -/

theorem turns_finished (h : w.Finished) (k : Nat) : turns S k w = w := by
  induction k with
  | zero => rfl
  | succ k ih => rw [turns, turn_finished h, ih]

/-- Turns keep a sweep sound and complete, and with a turn for each piece of work nothing is left to do. -/
theorem turns_keep (hS : S.Closed) (hc : c ∈ S.statements) {k : Nat} (hsound : w.Sound S c)
    (hcomplete : w.Complete S c) (hk : w.work S ≤ k) :
    (turns S k w).Sound S c ∧ (turns S k w).Complete S c ∧ (turns S k w).Finished := by
  induction k generalizing w with
  | zero =>
      refine ⟨hsound, hcomplete, ?_⟩
      intro phase
      apply List.eq_nil_of_length_eq_zero
      rw [work] at hk
      rw [turns]
      cases phase <;> omega
  | succ k ih =>
      by_cases hfinished : w.Finished
      · rw [turns_finished hfinished]
        exact ⟨hsound, hcomplete, hfinished⟩
      · have htakes : w.Takes S (w.turn S) := takes_turn hfinished
        have hless := work_takes hS hc hsound htakes
        exact ih (hsound.takes hS hc htakes) (hcomplete.takes htakes) (by omega)

/-- With nothing left to do, every state of the search was visited, in its phase or free. -/
theorem Complete.seen_of_visited (hw : w.Complete S c) (hfinished : w.Finished)
    (h : (t, phase) ∈ S.visited c) : t ∈ w.seen .free ∨ t ∈ w.seen phase := by
  have hseen : ∀ state, w.Meets state → state.1 ∈ w.seen .free ∨ state.1 ∈ w.seen state.2 := by
    intro state hmeets
    rw [Meets, hfinished] at hmeets
    simpa using hmeets
  apply DependenceGraph.visited_induction
    (P := fun state => state.1 ∈ w.seen .free ∨ state.1 ∈ w.seen state.2) (hseen _ hw.start) _ h
  intro here next hhere hnext
  rcases hhere with hfree | hhere
  · obtain ⟨p, hstep, hp⟩ := DependenceGraph.exists_step_free hnext
    have hnext' := hseen _ (hw.closed .free _ hfree _ hstep)
    rcases hp with rfl | rfl
    · exact Or.inl (or_self_iff.mp hnext')
    · exact hnext'
  · exact hseen _ (hw.closed here.2 _ hhere _ hnext)

/-- The loop ends with the slice: two turns for each dependence and one for the criterion are enough. -/
theorem turns_slice (hS : S.Closed) (hc : c ∈ S.statements) {k : Nat}
    (hk : 1 + 2 * (S.statements.flatMap S.successors).length ≤ k) :
    (turns S k { freeTodo := [c] }).Finished ∧
      ∀ t, t ∈ S.slice c ↔
        t ∈ (turns S k { freeTodo := [c] }).free ∨ t ∈ (turns S k { freeTodo := [c] }).below := by
  have hsound : Sound S c { freeTodo := [c] } := by
    intro phase s hs
    cases phase with
    | free =>
        simp only [seen, todo, List.not_mem_nil, List.mem_singleton, false_or] at hs
        rw [hs]
        exact DependenceGraph.visited_start
    | below => simp [seen, todo] at hs
  have hcomplete : Complete S c { freeTodo := [c] } := by
    constructor
    · simp [Meets, todo]
    · intro phase s hs
      cases phase <;> cases hs
  have hwork : work S { freeTodo := [c] } ≤ k := by
    simp only [work, seen, todo, DependenceGraph.pending_nil, List.length_singleton, List.length_nil]
    omega
  obtain ⟨hsound, hcomplete, hfinished⟩ := turns_keep hS hc hsound hcomplete hwork
  refine ⟨hfinished, ?_⟩
  intro t
  rw [DependenceGraph.mem_slice]
  constructor
  · intro ht
    obtain ⟨phase, ht⟩ := ht
    cases phase with
    | free => exact Or.inl (or_self_iff.mp (hcomplete.seen_of_visited hfinished ht))
    | below => exact hcomplete.seen_of_visited hfinished ht
  · intro ht
    rcases ht with ht | ht
    · exact ⟨.free, hsound .free t (Or.inl ht)⟩
    · exact ⟨.below, hsound .below t (Or.inl ht)⟩

end Sweep

end TaintFlow
