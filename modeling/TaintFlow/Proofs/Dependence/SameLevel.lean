/-
Module: TaintFlow.Proofs.Dependence.SameLevel
Purpose: Summaries are exact. A path stays on one level if it keeps to the activation it starts in, apart
  from detours: it may enter a callee and come back to the result of the same call, and inside the callee
  it stays on one level again. The rounds that find summaries end because a round finds nothing new, and
  a parameter then leads over its call by a summary exactly if it does so by a detour.
Main exports: DependenceGraph.SameLevel, DependenceGraph.Detour, DependenceGraph.shortcutsAfter,
  DependenceGraph.mem_shortcuts_iff_detour, DependenceGraph.summaries_exact
-/
import TaintFlow.Proofs.Slice.Realizable

namespace TaintFlow

/-- Summaries are followed wherever data is. -/
theorem Options.enables_summary {o : Options} (h : o.data ≠ .none) : o.enables .summary = true := by
  simpa [enables] using h

namespace DependenceGraph

/-! ### Paths on one level -/

/-- A path that stays on one level: dependence inside an activation, dependence through the heap that
    does not leave it, and detours through calls that come back to the call they were made from. -/
inductive SameLevel (S : DependenceGraph) : Statement → Statement → Prop where
  | refl (s : Statement) : SameLevel S s s
  | inside {s t : Statement} {l : Link} : SameLevel S s t → l ∈ S.successors t →
      l.kind = .data ∨ l.kind = .control → SameLevel S s l.target
  | heap {s t : Statement} {l : Link} : SameLevel S s t → l ∈ S.successors t → l.kind = .heap →
      l.target.node = t.node → SameLevel S s l.target
  | detour {s : Statement} {n m : NodeId} {i k : Int} : SameLevel S s (.actual n i k) →
      ⟨.actual n i k, .param, .formal m k⟩ ∈ S.successors (.actual n i k) →
      SameLevel S (.formal m k) (.returned m) →
      ⟨.returned m, .ret, .result n i⟩ ∈ S.successors (.returned m) → SameLevel S s (.result n i)

/-- The parameter at `k` of the call at `i` leads through a callee to the result of that call. -/
def Detour (S : DependenceGraph) (n : NodeId) (i k : Int) : Prop :=
  ∃ m, ⟨.actual n i k, .param, .formal m k⟩ ∈ S.successors (.actual n i k) ∧
    S.SameLevel (.formal m k) (.returned m) ∧
    ⟨.returned m, .ret, .result n i⟩ ∈ S.successors (.returned m)

variable {S : DependenceGraph} {shortcuts : List Statement} {s t : Statement}

/-- A link is followed if its kind is. -/
theorem Linked.mem_successors (hS : S.Assembled) {kind : Dependence}
    (henabled : S.options.enables kind = true) (h : Linked S.graph S.heap s kind t) :
    ⟨s, kind, t⟩ ∈ S.successors s :=
  (DependenceGraph.mem_successors hS).mpr ⟨rfl, henabled, Or.inl h⟩

/-! ### From shortcuts to detours -/

/-- Shortcuts that stand for detours. -/
def Detours (S : DependenceGraph) (shortcuts : List Statement) : Prop :=
  ∀ n i k, .actual n i k ∈ shortcuts → S.Detour n i k

/-- A step inside an activation continues a path on one level. -/
theorem SameLevel.level (hS : S.Assembled) (hdetours : S.Detours shortcuts) (h : S.SameLevel s t)
    {u : Statement} (hstep : u ∈ S.levelTargets shortcuts t) : S.SameLevel s u := by
  rcases (mem_levelTargets hS).mp hstep with
    ⟨n, hn, hbody, kind, henabled, hdep⟩ | ⟨n, i, k, rfl, hmem, rfl⟩ | ⟨henabled, hlink, hnode⟩
  · have hlink : Linked S.graph S.heap t kind u := .inside hn hbody hdep
    exact h.inside (hlink.mem_successors hS henabled) hdep.kind_local
  · obtain ⟨m, hdown, hpath, hup⟩ := hdetours n i k hmem
    exact h.detour hdown hpath hup
  · exact h.heap (hlink.mem_successors hS henabled) rfl hnode

/-- A path inside an activation is one on one level. -/
theorem SameLevel.of_reaches (hS : S.Assembled) (hdetours : S.Detours shortcuts)
    {within : List Statement} (h : Reach.Reaches (S.levelTargets shortcuts) within s t) :
    S.SameLevel s t := by
  induction h with
  | refl _ => exact .refl _
  | step _ hnext _ ih => exact ih.level hS hdetours hnext

/-- What a round finds are detours, if the shortcuts it uses are. -/
theorem detours_refine (hS : S.Assembled) (henabled : S.options.enables .summary = true)
    (hdetours : S.Detours shortcuts) : S.Detours (S.refine shortcuts) := by
  intro n i k h
  generalize hactual : Statement.actual n i k = actual at h
  cases (mem_refine hS).mp h with
  | @across n' m j p hcalls _ hres _ hlt _ _ hpath =>
      cases hactual
      -- summaries, parameters and returns are followed under the same option
      have hparam : S.options.enables .param = true := henabled
      have hret : S.options.enables .ret = true := henabled
      have hdown : Linked S.graph S.heap (.actual n'.id j p) .param (.formal m.id p) :=
        .param hcalls (Int.ofNat_lt.mpr hlt)
      have hup : Linked S.graph S.heap (.returned m.id) .ret (.result n'.id j) := .ret hcalls hres
      exact ⟨m.id, hdown.mem_successors hS hparam, .of_reaches hS hdetours hpath,
        hup.mem_successors hS hret⟩

/-- The shortcuts of a graph are detours. -/
theorem detours_shortcuts {g : CallGraph} {heap : PointsTo} {o : Options} (hg : g.Indexed)
    (henabled : o.enables .summary = true) :
    (ofGraph g heap o).Detours (ofGraph g heap o).shortcuts := by
  refine shortcuts_induction ?_ ?_
  · intro n i k hmem
    cases hmem
  · intro a ha
    exact detours_refine (assembled_ofGraph hg) (by rw [ofGraph_options]; exact henabled) ha

/-! ### From detours to shortcuts -/

/-- A path inside an activation goes on inside it. -/
theorem reaches_level (hS : S.Closed) {n : Node} (hn : n ∈ S.graph.nodes) {u : Statement}
    (h : Reach.Reaches (S.levelTargets S.shortcuts) n.statements s t)
    (hstep : u ∈ S.levelTargets S.shortcuts t) :
    Reach.Reaches (S.levelTargets S.shortcuts) n.statements s u :=
  .step h hstep (levelTarget_mem hS hn h.end_mem hstep)

/-- A followed parameter link: a call, and a position that the callee has. -/
theorem param_mem_successors (hS : S.Assembled) {n m : NodeId} {i k : Int}
    (h : ⟨.actual n i k, .param, .formal m k⟩ ∈ S.successors (.actual n i k)) :
    S.options.enables .param = true ∧
      ∃ (caller callee : Node) (j : Nat), caller.id = n ∧ callee.id = m ∧ i = j ∧
        S.graph.Calls caller j callee ∧ k < callee.method.parameterCount := by
  obtain ⟨_, henabled, hlink | hshort⟩ := (mem_successors hS).mp h
  · refine ⟨henabled, ?_⟩
    cases hlink with
    | inside _ _ hdep => rcases hdep.kind_local with h | h <;> cases h
    | param hcalls hk => exact ⟨_, _, _, rfl, rfl, rfl, hcalls, hk⟩
  · cases hshort

/-- A followed return link: a call that receives a result. -/
theorem ret_mem_successors (hS : S.Assembled) {n m : NodeId} {i : Int}
    (h : ⟨.returned m, .ret, .result n i⟩ ∈ S.successors (.returned m)) :
    ∃ (caller callee : Node) (j : Nat), caller.id = n ∧ callee.id = m ∧ i = j ∧
      S.graph.Calls caller j callee ∧ caller.receivesResult j = true := by
  obtain ⟨_, _, hlink | hshort⟩ := (mem_successors hS).mp h
  · cases hlink with
    | inside _ _ hdep => rcases hdep.kind_local with h | h <;> cases h
    | ret hcalls hres => exact ⟨_, _, _, rfl, rfl, rfl, hcalls, hres⟩
  · cases hshort

/-- A detour is a shortcut, when the path in its callee is one that shortcuts allow. -/
theorem shortcut_of_links (hS : S.Closed) {n m : NodeId} {i k : Int}
    (hact : .actual n i k ∈ S.statements)
    (hdown : ⟨.actual n i k, .param, .formal m k⟩ ∈ S.successors (.actual n i k))
    (hup : ⟨.returned m, .ret, .result n i⟩ ∈ S.successors (.returned m))
    (hpath : ∀ callee ∈ S.graph.nodes, .formal m k ∈ callee.statements →
      Reach.Reaches (S.levelTargets S.shortcuts) callee.statements (.formal m k) (.returned m)) :
    .actual n i k ∈ S.shortcuts := by
  obtain ⟨callee, hcallee, hformal⟩ := mem_statements.mp (successor_mem hS hact hdown)
  have hid : m = callee.id := Node.node_of_mem_statements hformal
  obtain ⟨henabled, caller, callee', j, rfl, hid', rfl, hcalls, hk⟩ :=
    param_mem_successors hS.toAssembled hdown
  obtain ⟨caller', _, j', hcaller, _, hj, hcalls', hres⟩ := ret_mem_successors hS.toAssembled hup
  have hsame : callee' = callee := hS.indexed.eq_of_id_eq hcalls.2.1 hcallee (hid'.trans hid)
  have hsame' : caller' = caller := hS.indexed.eq_of_id_eq hcalls'.1 hcalls.1 hcaller
  have hjj : j = j' := Int.ofNat_inj.mp hj
  subst hsame hsame' hjj hid
  exact passed_mem_shortcuts hS hact hcalls hres hk henabled (hpath _ hcallee hformal)

/-- A path on one level is a path inside its activation when all shortcuts can be used. The callee of a
    detour is searched in the same way, which makes the parameter a shortcut. -/
theorem SameLevel.reaches (hS : S.Closed) (h : S.SameLevel s t) {n : Node} (hn : n ∈ S.graph.nodes)
    (hs : s ∈ n.statements) : Reach.Reaches (S.levelTargets S.shortcuts) n.statements s t := by
  induction h generalizing n with
  | refl s => exact .refl hs
  | inside _ hl hkind ih =>
      obtain ⟨_, henabled, hlink⟩ := (mem_successors hS.toAssembled).mp hl
      exact reaches_level hS hn (ih hn hs) (local_mem_levelTargets hS hkind henabled hlink)
  | @heap s t l _ hl hkind hnode ih =>
      obtain ⟨source, kind, target⟩ := l
      dsimp only at hkind hnode
      subst hkind
      obtain ⟨_, henabled, hlink | hshort⟩ := (mem_successors hS.toAssembled).mp hl
      · exact reaches_level hS hn (ih hn hs)
          ((mem_levelTargets hS.toAssembled).mpr (Or.inr (Or.inr ⟨henabled, hlink, hnode⟩)))
      · cases hshort
  | @detour s caller m i k _ hdown _ hup ih ihCallee =>
      have hpath := ih hn hs
      have hact : .actual caller i k ∈ S.statements := mem_statements.mpr ⟨n, hn, hpath.end_mem⟩
      have hmem := shortcut_of_links hS hact hdown hup fun callee hcallee => ihCallee hcallee
      exact reaches_level hS hn hpath
        ((mem_levelTargets hS.toAssembled).mpr (Or.inr (Or.inl ⟨_, _, _, rfl, hmem, rfl⟩)))

/-- Among the parameters of activations, the shortcuts are exactly the detours. -/
theorem mem_shortcuts_iff_detour {g : CallGraph} {heap : PointsTo} {o : Options}
    (hg : g.Built Method.Parsed) (henabled : o.enables .summary = true) {n : NodeId} {i k : Int}
    (hact : .actual n i k ∈ (ofGraph g heap o).statements) :
    .actual n i k ∈ (ofGraph g heap o).shortcuts ↔ (ofGraph g heap o).Detour n i k := by
  constructor
  · exact detours_shortcuts hg.indexed henabled n i k
  · rintro ⟨m, hdown, hpath, hup⟩
    have hS : (ofGraph g heap o).Closed := closed_ofGraph hg
    exact shortcut_of_links hS hact hdown hup fun _ hcallee => hpath.reaches hS hcallee

/-! ### The rounds -/

/-- The shortcuts that are known after some rounds. -/
def shortcutsAfter (S : DependenceGraph) : Nat → List Statement
  | 0 => []
  | k + 1 => S.refine (S.shortcutsAfter k)

theorem shortcutsAfter_sublist_succ (hS : S.Assembled) (k : Nat) :
    (S.shortcutsAfter k).Sublist (S.shortcutsAfter (k + 1)) := by
  induction k with
  | zero => exact List.nil_sublist _
  | succ k ih => exact refine_sublist_refine hS fun x hx => ih.subset hx

theorem shortcutsAfter_sublist_candidates (k : Nat) :
    (S.shortcutsAfter k).Sublist S.candidates := by
  cases k with
  | zero => exact List.nil_sublist _
  | succ k => exact List.filter_sublist

/-- The rounds from some round on: each finds more than was known, but for the last, which finds the
    same. -/
theorem closeSummaries_shortcutsAfter (hS : S.Assembled) (start : Nat) :
    ∃ k, start ≤ k ∧
      (∀ j, start ≤ j → j < k →
        (S.shortcutsAfter j).length < (S.shortcutsAfter (j + 1)).length) ∧
      S.shortcutsAfter (k + 1) = S.shortcutsAfter k ∧
      S.closeSummaries (S.shortcutsAfter start) start =
        { S with shortcuts := S.shortcutsAfter k, rounds := k + 1 } := by
  generalize hknown : S.shortcutsAfter start = known
  fun_induction closeSummaries S known start with
  | case1 known start next hmore ih =>
      have hnext : S.shortcutsAfter (start + 1) = next := by rw [shortcutsAfter, hknown]
      obtain ⟨k, hk, hgrows, hlast, heq⟩ := ih hnext
      refine ⟨k, by omega, ?_, hlast, heq⟩
      intro j hj hjk
      rcases Nat.eq_or_lt_of_le hj with rfl | hlt
      · rw [hnext, hknown]
        exact hmore.1
      · exact hgrows j hlt hjk
  | case2 known start next hstop =>
      have hnext : S.shortcutsAfter (start + 1) = next := by rw [shortcutsAfter, hknown]
      have hsame : known = next := by
        refine eq_of_not_growing ?_ ?_ hstop
        · exact hnext ▸ hknown ▸ shortcutsAfter_sublist_succ hS start
        · exact List.filter_sublist
      refine ⟨start, Nat.le_refl _, fun j hj hlt => absurd hj (Nat.not_le.mpr hlt), ?_, ?_⟩
      · rw [hnext, hknown, hsame]
      · rw [hknown, hsame]

/-- While each round finds more, there are at least as many shortcuts as rounds. -/
theorem le_length_shortcutsAfter {k : Nat}
    (hgrows : ∀ j < k, (S.shortcutsAfter j).length < (S.shortcutsAfter (j + 1)).length) :
    k ≤ (S.shortcutsAfter k).length := by
  induction k with
  | zero => exact Nat.zero_le _
  | succ k ih =>
      have hk := ih fun j hj => hgrows j (Nat.lt_succ_of_lt hj)
      exact Nat.lt_of_le_of_lt hk (hgrows k (Nat.lt_succ_self k))

/-- The rounds of the dependence graph of a call graph. -/
theorem rounds_ofGraph {g : CallGraph} {heap : PointsTo} {o : Options} (hg : g.Indexed)
    (henabled : o.enables .summary = true) :
    ∃ k ≤ (ofGraph g heap o).candidates.length,
      (∀ j < k, ((ofGraph g heap o).shortcutsAfter j).length <
        ((ofGraph g heap o).shortcutsAfter (j + 1)).length) ∧
      (ofGraph g heap o).shortcutsAfter (k + 1) = (ofGraph g heap o).shortcutsAfter k ∧
      (ofGraph g heap o).shortcuts = (ofGraph g heap o).shortcutsAfter k ∧
      (ofGraph g heap o).rounds = k + 1 := by
  -- the rounds do not look at what they leave behind
  have hafter : ∀ k, (ofGraph g heap o).shortcutsAfter k = (unclosed g heap o).shortcutsAfter k := by
    intro k
    induction k with
    | zero => rfl
    | succ k ih => rw [shortcutsAfter, shortcutsAfter, ih, ofGraph_refine]
  obtain ⟨k, _, hgrows, hlast, heq⟩ :=
    closeSummaries_shortcutsAfter (S := unclosed g heap o) (assembled_unclosed hg) 0
  have hgraph : ofGraph g heap o =
      { unclosed g heap o with
        shortcuts := (unclosed g heap o).shortcutsAfter k, rounds := k + 1 } := by
    rw [ofGraph_eq, if_pos henabled]
    exact heq
  have hgrowing : ∀ j < k, ((ofGraph g heap o).shortcutsAfter j).length <
      ((ofGraph g heap o).shortcutsAfter (j + 1)).length := by
    intro j hj
    rw [hafter, hafter]
    exact hgrows j (Nat.zero_le j) hj
  refine ⟨k, ?_, hgrowing, by rw [hafter, hafter, hlast], by rw [hafter, hgraph], by rw [hgraph]⟩
  exact Nat.le_trans (le_length_shortcutsAfter hgrowing)
    (shortcutsAfter_sublist_candidates k).length_le

/-- A shortcut of a graph leads from a parameter of a call to the result of the same call, and both are
    statements. -/
theorem Shortcut.mem_statements (hS : S.Closed) (h : Shortcut S.shortcuts s .summary t) :
    ∃ n i k, s = .actual n i k ∧ t = .result n i ∧ s ∈ S.statements ∧ t ∈ S.statements := by
  cases h with
  | @across n i k hmem =>
      have hact : .actual n i k ∈ S.statements := by
        generalize hx : Statement.actual n i k = x at hmem ⊢
        cases ((hS.shortcut _).mp hmem).2 with
        | across calls here _ actual =>
            exact DependenceGraph.mem_statements.mpr ⟨_, calls.1,
              Node.callPart_mem here (Node.mem_callPartsAt.mpr (Or.inl actual))⟩
      exact ⟨n, i, k, rfl, rfl, hact,
        successor_mem hS hact (shortcut_mem_successors hS hmem)⟩

/-- The summaries among the followed dependences are the shortcuts. -/
theorem summary_mem_successors (hS : S.Assembled) (henabled : S.options.enables .summary = true) :
    ⟨s, .summary, t⟩ ∈ S.successors s ↔ Shortcut S.shortcuts s .summary t := by
  rw [mem_successors hS]
  constructor
  · rintro ⟨_, _, hlink | hshort⟩
    · cases hlink with
      | inside _ _ hdep => rcases hdep.kind_local with h | h <;> cases h
    · exact hshort
  · intro h
    exact ⟨rfl, henabled, Or.inr h⟩

/-- Summaries are exact, for every call graph over parsed methods, every points-to map and all options
    that follow data. Finding them ends: each round finds more, until one finds the same, and there are no
    more rounds before it than parameters of calls. A parameter then leads over its call exactly if it
    enters a callee that leads, on one level, from that parameter to what it returns to this call. There
    are no other summaries. -/
theorem summaries_exact {g : CallGraph} (hg : g.Built Method.Parsed) (heap : PointsTo) {o : Options}
    (hdata : o.data ≠ .none) :
    (∃ k ≤ (ofGraph g heap o).candidates.length,
      (∀ j < k, ((ofGraph g heap o).shortcutsAfter j).length <
        ((ofGraph g heap o).shortcutsAfter (j + 1)).length) ∧
      (ofGraph g heap o).shortcutsAfter (k + 1) = (ofGraph g heap o).shortcutsAfter k ∧
      (ofGraph g heap o).shortcuts = (ofGraph g heap o).shortcutsAfter k ∧
      (ofGraph g heap o).rounds = k + 1) ∧
    (∀ n i k, .actual n i k ∈ (ofGraph g heap o).statements →
      (⟨.actual n i k, .summary, .result n i⟩ ∈ (ofGraph g heap o).successors (.actual n i k) ↔
        ∃ m, ⟨.actual n i k, .param, .formal m k⟩ ∈ (ofGraph g heap o).successors (.actual n i k) ∧
          (ofGraph g heap o).SameLevel (.formal m k) (.returned m) ∧
          ⟨.returned m, .ret, .result n i⟩ ∈ (ofGraph g heap o).successors (.returned m))) ∧
    (∀ s t, ⟨s, .summary, t⟩ ∈ (ofGraph g heap o).successors s ↔
      Shortcut (ofGraph g heap o).shortcuts s .summary t) ∧
    ∀ s t, Shortcut (ofGraph g heap o).shortcuts s .summary t →
      ∃ n i k, s = .actual n i k ∧ t = .result n i ∧
        s ∈ (ofGraph g heap o).statements ∧ t ∈ (ofGraph g heap o).statements := by
  have henabled : o.enables .summary = true := Options.enables_summary hdata
  have hS : (ofGraph g heap o).Closed := closed_ofGraph hg
  have hsummary : ∀ s t, ⟨s, .summary, t⟩ ∈ (ofGraph g heap o).successors s ↔
      Shortcut (ofGraph g heap o).shortcuts s .summary t :=
    fun s t => summary_mem_successors hS.toAssembled (by rw [ofGraph_options]; exact henabled)
  refine ⟨rounds_ofGraph hg.indexed henabled, ?_, hsummary, fun s t h => h.mem_statements hS⟩
  intro n i k hact
  rw [hsummary]
  refine Iff.trans ?_ (mem_shortcuts_iff_detour hg henabled hact)
  constructor
  · rintro ⟨hmem⟩
    exact hmem
  · exact .across

/-! ### A parameter that is passed on -/

/-- The first of two calls passes its parameter on: the callee returns it. -/
theorem summaries_exact_twoCalls :
    TwoCalls.graph.Built Method.Parsed ∧ ({} : Options).data ≠ .none ∧
    .actual 0 1 0 ∈ (ofGraph TwoCalls.graph {} {}).statements ∧
    ⟨.actual 0 1 0, .summary, .result 0 1⟩ ∈
      (ofGraph TwoCalls.graph {} {}).successors (.actual 0 1 0) := by
  have hS : (ofGraph TwoCalls.graph {} {}).Assembled := assembled_ofGraph TwoCalls.graph_built.indexed
  have followed : ∀ {s t kind}, Linked TwoCalls.graph {} s kind t →
      ({} : Options).enables kind = true → ⟨s, kind, t⟩ ∈ (ofGraph TwoCalls.graph {} {}).successors s := by
    intro s t kind hlink henabled
    refine Linked.mem_successors hS ?_ ?_
    · rw [ofGraph_options]
      exact henabled
    · rw [ofGraph_graph, ofGraph_heap]
      exact hlink
  have hmain : (⟨0, TwoCalls.main, .everywhere⟩ : Node) ∈ TwoCalls.graph.nodes := List.mem_cons_self
  have hpass : (⟨1, TwoCalls.pass, .everywhere⟩ : Node) ∈ TwoCalls.graph.nodes :=
    List.mem_cons_of_mem _ List.mem_cons_self
  have hcalls : TwoCalls.graph.Calls ⟨0, TwoCalls.main, .everywhere⟩ 1 ⟨1, TwoCalls.pass, .everywhere⟩ :=
    ⟨hmain, hpass, _, _, rfl, rfl, List.mem_cons_self⟩
  have hact : .actual 0 1 0 ∈ (ofGraph TwoCalls.graph {} {}).statements := by
    refine mem_statements.mpr ⟨⟨0, TwoCalls.main, .everywhere⟩, ?_, ?_⟩
    · rw [ofGraph_graph]
      exact hmain
    · exact Node.callPart_mem (i := 1) (by decide) (by decide)
  have hdown := followed (.param (k := 0) hcalls (by decide)) rfl
  have hup := followed (.ret hcalls (by decide)) rfl
  have huse := followed (.inside hpass rfl
    (.use (i := 0) (v := 1) (d := .formal 1 0) (u := .normal 1 0)
      (by decide) (by decide) (by decide) (by decide))) rfl
  have hreturn := followed (.inside hpass rfl (.returned (i := 0) (v := 1) (by decide) rfl (by decide))) rfl
  have hpath : (ofGraph TwoCalls.graph {} {}).SameLevel (.formal 1 0) (.returned 1) :=
    .inside (.inside (.refl _) huse (Or.inl rfl)) hreturn (Or.inl rfl)
  exact ⟨TwoCalls.graph_built, by decide, hact,
    ((summaries_exact TwoCalls.graph_built {} (by decide)).2.1 0 1 0 hact).mpr
      ⟨1, hdown, hpath, hup⟩⟩

end DependenceGraph

end TaintFlow
